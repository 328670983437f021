import ChatBackend.Store.Calls

/-!
# Login tickets are used once

A ticket is consumed in the transaction that completes the login, and a consumed ticket stays
consumed, so at most one call per ticket succeeds. That call commits everything a login consists of,
and every other call commits nothing.

## Main definitions

* `Completion` — what a call asks `LoginTicketRepository::complete` for
* `LoginEffect` — what a successful login changes

## Main results

* `login_ticket_single_use`
-/

namespace ChatBackend

open ReadCommitted LoginTicketRepository

variable {P : Platform} {allows : List StoreEvent → Call → Prop} {a b db db₀ : Db}

/-! ### Login calls -/

/-- The arguments of `LoginTicketRepository::complete`. -/
structure Completion where
  ticketHash : String
  refreshHash : String
  deviceId : Option Uuid
  registration : Option DeviceRegistrationInput

/-- What a call asks `LoginTicketRepository::complete` for. -/
def Call.completion (P : Platform) : Call → Option Completion
  | .complete ticketHash refreshHash deviceId registration =>
    some ⟨cString ticketHash, refreshHash, deviceId, registration⟩
  | .verifyDevice ticket deviceId refreshToken =>
    some ⟨cString (LoginTicketService.hashTicket P ticket), P.refreshTokenHash refreshToken,
      some deviceId, none⟩
  | .registerDevice ticket input refreshToken =>
    some ⟨cString (LoginTicketService.hashTicket P ticket), P.refreshTokenHash refreshToken, none,
      some input⟩
  | _ => none

theorem Committed.login {call : Call} {r : LoginTicketResult} {seen : List Db} {ws : List Write}
    (h : Committed P call (.login r) seen ws db) : ∃ k, call.completion P = some k ∧
      CompleteSpec k.ticketHash k.refreshHash k.deviceId k.registration r seen ws db := by
  cases h with
  | complete h => exact ⟨_, rfl, h⟩
  | verifyDevice h => exact ⟨_, rfl, h⟩
  | registerDevice h => exact ⟨_, rfl, h⟩

/-- The call of the event returned `Success`. -/
def Succeeds (e : StoreEvent) : Prop :=
  ∃ identity, e.outcome = .returned (.login ⟨.success, identity⟩)

/-! ### Consumed tickets -/

/-- The ticket is consumed. -/
def Db.isConsumed (db : Db) (hash : String) : Prop :=
  ∃ row, db.loginTickets hash = some row ∧ row.consumedAt.isSome

/-- Consumed tickets stay consumed. -/
def KeepsConsumed (a b : Db) : Prop := ∀ hash, a.isConsumed hash → b.isConsumed hash

/-- No write gives a consumed ticket back. -/
theorem keepsConsumed_write (w : Write) (db : Db) : KeepsConsumed db (db.write w) := by
  rintro hash ⟨row, hrow, hc⟩
  cases w with
  | insertTicket h new =>
    by_cases he : h = hash
    · subst he
      exact ⟨row, by simp [Db.write, hrow], hc⟩
    · exact ⟨row, by simp [Db.write, Function.update_of_ne (Ne.symm he), hrow], hc⟩
  | consumeTicket h at' =>
    by_cases he : h = hash
    · subst he
      exact ⟨{ row with consumedAt := some at' }, by simp [Db.write, hrow], rfl⟩
    · exact ⟨row, by simp [Db.write, Function.update_of_ne (Ne.symm he), hrow], hc⟩
  | _ => exact ⟨row, hrow, hc⟩

theorem keepsConsumed_of_steps {x y : StoreState}
    (h : Serial.Steps (store P allows) (Committed P) x y) : KeepsConsumed x.db y.db := by
  refine h.rel (R := KeepsConsumed) (fun _ _ => id) (fun h h' hash hc => h' hash (h hash hc))
    (fun _ _ _ ws db _ hash hc => ?_) fun db db' hd hash hc => ?_
  · exact (schema P).applyAll_induct (P := fun x => x.isConsumed hash)
      (fun w _ x hx => keepsConsumed_write w x hash hx) hc
  · obtain ⟨now, -, rfl⟩ := hd
    exact hc

/-! ### The foreign key of the bundles -/

/-- `device_key_bundles.device_id` references `user_devices`. -/
def BundlesHaveDevices (db : Db) : Prop :=
  ∀ bundle ∈ db.deviceKeyBundles, (db.userDevices bundle.deviceId).isSome

/-- Devices are never deleted. -/
theorem userDevices_isSome_write {d : Uuid} (w : Write) (h : (db.userDevices d).isSome) :
    ((db.write w).userDevices d).isSome := by
  obtain ⟨row, hrow⟩ := Option.isSome_iff_exists.mp h
  cases w with
  | insertDevice id new =>
    by_cases he : id = d
    · subst he
      simp [Db.write, hrow]
    · simp [Db.write, Function.update_of_ne (Ne.symm he), hrow]
  | revokeDevice id at' =>
    by_cases he : id = d
    · subst he
      simp [Db.write, hrow]
    · simp [Db.write, Function.update_of_ne (Ne.symm he), hrow]
  | _ => exact h

theorem userDevices_isSome_applyAll {d : Uuid} (ws : List Write) (h : (db.userDevices d).isSome) :
    (((schema P).applyAll ws db).userDevices d).isSome :=
  (schema P).applyAll_induct (P := fun x => (x.userDevices d).isSome)
    (fun w _ _ hx => userDevices_isSome_write w hx) h

theorem userDevices_isSome_of_insert {d : Uuid} {row : DeviceRow} {ws : List Write}
    (h : .insertDevice d row ∈ ws) : (((schema P).applyAll ws db).userDevices d).isSome := by
  obtain ⟨ws₁, ws₂, rfl⟩ := List.append_of_mem h
  rw [Schema.applyAll_append, Schema.applyAll_cons]
  refine userDevices_isSome_applyAll ws₂ ?_
  cases hd : ((schema P).applyAll ws₁ db).userDevices d <;> simp [Db.write, hd]

theorem mem_deviceKeyBundles_applyAll {bundle : BundleRow} {ws : List Write}
    (h : bundle ∈ ((schema P).applyAll ws db).deviceKeyBundles) :
    ∃ old : BundleRow, old.deviceId = bundle.deviceId ∧
      (old ∈ db.deviceKeyBundles ∨ .insertBundle old ∈ ws) := by
  refine (schema P).applyAll_induct (P := fun x => ∀ b ∈ x.deviceKeyBundles,
    ∃ old : BundleRow, old.deviceId = b.deviceId ∧
      (old ∈ db.deviceKeyBundles ∨ .insertBundle old ∈ ws))
    (fun w hw x hx b hb => ?_) (fun b hb => ⟨b, rfl, Or.inl hb⟩) bundle h
  cases w with
  | insertBundle new =>
    rcases List.mem_append.mp hb with hb | hb
    · exact hx b hb
    · obtain rfl := List.mem_singleton.mp hb
      exact ⟨b, rfl, Or.inr hw⟩
  | expireBundle d v at' =>
    obtain ⟨b', hb', rfl⟩ := List.mem_map.mp hb
    obtain ⟨old, hdevice, hold⟩ := hx b' hb'
    refine ⟨old, hdevice.trans ?_, hold⟩
    split_ifs <;> rfl
  | _ => exact hx b hb

/-- A bundle is inserted together with its device, which is new. -/
theorem Committed.insertBundle {call : Call} {r : Reply} {seen : List Db} {ws : List Write}
    {bundle : BundleRow} (h : Committed P call r seen ws db) (hw : .insertBundle bundle ∈ ws) :
    db.userDevices bundle.deviceId = none ∧ ∃ row, .insertDevice bundle.deviceId row ∈ ws := by
  have htable : Table.deviceKeyBundles ∈ call.tables := h.tables _ hw
  have complete : ∀ {hash refreshHash deviceId registration r},
      CompleteSpec hash refreshHash deviceId registration r seen ws db →
      db.userDevices bundle.deviceId = none ∧ ∃ row, .insertDevice bundle.deviceId row ∈ ws := by
    intro hash refreshHash deviceId registration r h
    cases h with
    | verified => simp at hw
    | registered _ _ _ row _ _ _ _ _ _ hfree hregistration =>
      obtain rfl : bundle = _ := by simpa using hw
      exact ⟨hregistration.bundleDevice ▸ hfree, row, by simp [hregistration.bundleDevice]⟩
    | refused => cases hw
  cases h with
  | @registerNewDevice _ _ _ row _ _ _ hfree hregistration =>
    obtain rfl : bundle = _ := by simpa using hw
    exact ⟨hregistration.bundleDevice ▸ hfree, row, by simp [hregistration.bundleDevice]⟩
  | complete h => exact complete h
  | verifyDevice h => exact complete h
  | registerDevice h => exact complete h
  | expireBundle => cases List.mem_singleton.mp hw
  | _ => simp [Call.tables] at htable

theorem BundlesHaveDevices.commit (h : BundlesHaveDevices db) {call : Call} {r : Reply}
    {seen : List Db} {ws : List Write} (hc : Committed P call r seen ws db) :
    BundlesHaveDevices ((schema P).applyAll ws db) := by
  intro bundle hbundle
  obtain ⟨old, hdevice, hold | hnew⟩ := mem_deviceKeyBundles_applyAll hbundle
  · exact hdevice ▸ userDevices_isSome_applyAll ws (h old hold)
  · obtain ⟨-, row, hrow⟩ := hc.insertBundle hnew
    exact hdevice ▸ userDevices_isSome_of_insert hrow

theorem bundlesHaveDevices_of_reachable {x : StoreState}
    (h : Serial.Reachable (store P allows) (Committed P) db₀ x) (h₀ : BundlesHaveDevices db₀) :
    BundlesHaveDevices x.db := by
  refine Serial.induction (P := fun x => BundlesHaveDevices x.db) (fun x e he hx => ?_)
    (fun x db hd hx => ?_) h h₀
  · rcases he.writes with hw | ⟨r, hr⟩
    · rw [Serial.State.db_after, hw]
      exact hx
    · exact hx.commit hr
  · obtain ⟨now, -, rfl⟩ := hd
    exact hx

/-! ### What a login changes -/

/-- The change of a successful login that has read `seen`, from the state `a` it commits on to the
state `b`. -/
structure LoginEffect (k : Completion) (user device : Uuid) (seen : List Db) (a b : Db) : Prop where
  /-- The ticket was there, unconsumed, and unexpired when it was checked; the time that is written to
  it is the next one that is read. -/
  ticket : ∃ (row : TicketRow) (now : Time), Consumes k.ticketHash row now seen a ∧
    row.userId = user ∧ b.loginTickets =
      Function.update a.loginTickets k.ticketHash (some { row with consumedAt := some now })
  /-- The account is active. -/
  account : a.isActive user
  /-- One refresh token is added, for this user and device. -/
  token : ∃ row : TokenRow, row.userId = user ∧ row.deviceId = device ∧
    row.tokenHash = cString k.refreshHash ∧ row.revokedAt = none ∧
    b.refreshTokens = a.refreshTokens ++ [row]
  /-- On the verify path the device is the user's and active, and nothing else changes. -/
  verified : ∀ d, k.deviceId = some d → d = device ∧
    (∃ row, a.userDevices d = some row ∧ row.userId = user ∧ row.status = .active) ∧
    b.userDevices = a.userDevices ∧ b.deviceKeyBundles = a.deviceKeyBundles
  /-- On the register path the device is new, the user's and active, with exactly one bundle. -/
  registered : k.deviceId = none → a.userDevices device = none ∧
    ∃ (row : DeviceRow) (bundle : BundleRow), row.userId = user ∧ row.status = .active ∧
      b.userDevices = Function.update a.userDevices device (some row) ∧
      b.deviceKeyBundles = a.deviceKeyBundles ++ [bundle] ∧
      b.deviceKeyBundles.filter (fun x => x.deviceId = device) = [bundle]
  /-- No other table changes. -/
  others : b.users = a.users ∧ b.friendRelation = a.friendRelation ∧
    b.friendRequests = a.friendRequests ∧ b.messageEnvelopes = a.messageEnvelopes ∧
    b.deviceOneTimePrekeys = a.deviceOneTimePrekeys

/-- **A completed login has this effect**, whichever of the two paths it took. -/
theorem loginEffect_of_complete {k : Completion} {identity : Option LoginTicketIdentity}
    {seen : List Db} {ws : List Write} (hbundles : BundlesHaveDevices db)
    (h : CompleteSpec k.ticketHash k.refreshHash k.deviceId k.registration ⟨.success, identity⟩ seen
      ws db) :
    ∃ user device, identity = some ⟨user, device⟩ ∧
      LoginEffect k user device seen db ((schema P).applyAll ws db) := by
  generalize hr : (⟨.success, identity⟩ : LoginTicketResult) = r at h
  cases h with
  | refused status hne => exact absurd (congrArg LoginTicketResult.status hr).symm hne
  | verified ticket now target row token hd hreg hconsumes hactive hrow hown hst htok =>
    obtain rfl : identity = _ := congrArg LoginTicketResult.identity hr
    refine ⟨_, _, rfl, ⟨ticket, now, hconsumes, rfl, ?_⟩, hactive,
      ⟨token, htok.user, htok.device, htok.hash, htok.notRevoked, rfl⟩, fun d hd' => ?_, fun hd' => ?_,
      rfl, rfl, rfl, rfl, rfl⟩
    · simp [Db.write, hconsumes.stored]
    · obtain rfl : target = d := Option.some.inj (hd.symm.trans hd')
      exact ⟨rfl, ⟨row, hrow, hown, hst⟩, rfl, rfl⟩
    · rw [hd] at hd'
      cases hd'
  | registered ticket now target row bundle token hd hreg hconsumes hactive hfree hr' htok =>
    obtain rfl : identity = _ := congrArg LoginTicketResult.identity hr
    refine ⟨_, _, rfl, ⟨ticket, now, hconsumes, rfl, ?_⟩, hactive,
      ⟨token, htok.user, htok.device, htok.hash, htok.notRevoked, rfl⟩, fun d hd' => ?_, fun _ => ?_,
      rfl, rfl, rfl, rfl, rfl⟩
    · simp [Db.write, hconsumes.stored]
    · rw [hd] at hd'
      cases hd'
    · refine ⟨hfree, row, bundle, hr'.user, hr'.active, by simp [Db.write, hfree], rfl, ?_⟩
      -- the device is new, so no bundle of it was there before
      have hold : db.deviceKeyBundles.filter (fun x => x.deviceId = target) = [] := by
        refine List.filter_eq_nil_iff.mpr fun x hx he => ?_
        have hsome := hbundles x hx
        rw [of_decide_eq_true he, hfree] at hsome
        cases hsome
      change (db.deviceKeyBundles ++ [bundle]).filter _ = _
      rw [List.filter_append, hold, List.nil_append]
      simp [hr'.bundleDevice]

/-- What holds of every run about login tickets. -/
structure TicketSingleUse (P : Platform) (c : StoreConfig) : Prop where
  /-- Of the calls with one ticket, at most one succeeds. -/
  once : ∀ l₁ e l₂ k, c.log = l₁ ++ e :: l₂ → e.call.completion P = some k → Succeeds e →
    ∀ f ∈ l₂, ∀ k', f.call.completion P = some k' → k'.ticketHash = k.ticketHash → ¬ Succeeds f
  /-- A call that succeeds commits a whole login. -/
  whole : ∀ e ∈ c.log, ∀ identity, e.outcome = .returned (.login ⟨.success, identity⟩) →
    ∃ k user device, e.call.completion P = some k ∧ identity = some ⟨user, device⟩ ∧
      LoginEffect k user device e.seen e.before ((schema P).applyAll e.writes e.before) ∧
      (schema P).applyAll e.writes e.before ∈ c.past
  /-- A login call that returns anything else, or that is rolled back, commits nothing. -/
  nothing : ∀ e ∈ c.log, ((∃ r, e.outcome = .returned (.login r) ∧ r.status ≠ .success) ∨
    ∃ error, e.outcome = .threw error) → e.writes = []

/-- A successful login leaves its ticket consumed, and finds it unconsumed. -/
theorem Succeeds.ticket {x : StoreState} {e : StoreEvent} (h : Succeeds e)
    (he : Serial.Ends (store P allows) (Committed P) x e) (hbundles : BundlesHaveDevices x.db)
    {k : Completion} (hk : e.call.completion P = some k) : ¬ x.db.isConsumed k.ticketHash ∧
      ((schema P).applyAll e.writes x.db).isConsumed k.ticketHash := by
  obtain ⟨identity, hout⟩ := h
  obtain ⟨k', hk', hspec⟩ := (he.returned hout).login
  obtain rfl : k' = k := Option.some.inj (hk'.symm.trans hk)
  obtain ⟨user, device, -, heffect⟩ := loginEffect_of_complete (P := P) hbundles hspec
  obtain ⟨row, now, hconsumes, -, hafter⟩ := heffect.ticket
  refine ⟨?_, { row with consumedAt := some now }, by rw [hafter, Function.update_self], rfl⟩
  rintro ⟨row', hrow', hc⟩
  obtain rfl : row = row' := Option.some.inj (hconsumes.stored.symm.trans hrow')
  rw [hconsumes.unconsumed] at hc
  cases hc

/-- **A login ticket is single-use, and all-or-nothing.** However many calls try to complete a login
with one ticket, interleaved in whatever way and failing wherever they may, at most one succeeds; it
commits a whole login, and all others commit nothing. -/
theorem login_ticket_single_use {c : StoreConfig} (h : Reachable (store P allows) db₀ c)
    (hbundles : BundlesHaveDevices db₀) : TicketSingleUse P c := by
  have hs := serial h
  refine ⟨fun l₁ e l₂ k hlog hk hsucc f hf k' hk' hhash hsucc' => ?_, fun e he identity hout => ?_,
    fun e he hno => ?_⟩
  · obtain ⟨u, v, hu, -, hue, huv, hvf, -⟩ := hs.split_two hlog hf
    have hv : Serial.Reachable (store P allows) (Committed P) db₀ v := (hu.tail (.ends hue)).trans huv
    have hconsumed := (hsucc.ticket hue (bundlesHaveDevices_of_reachable hu hbundles) hk).2
    refine (hsucc'.ticket hvf (bundlesHaveDevices_of_reachable hv hbundles) hk').1 ?_
    rw [hhash]
    exact keepsConsumed_of_steps huv _ hconsumed
  · obtain ⟨u, hu, hends, hux⟩ := hs.split_mem he
    obtain ⟨k, hk, hspec⟩ := (hends.returned hout).login
    obtain ⟨user, device, hid, heffect⟩ := loginEffect_of_complete (P := P)
      (bundlesHaveDevices_of_reachable hu hbundles) hspec
    rw [hends.before]
    exact ⟨k, user, device, hk, hid, heffect, hux.past_subset (List.mem_cons_self ..)⟩
  · obtain ⟨u, -, hends, -⟩ := hs.split_mem he
    rcases hno with ⟨r, hout, hne⟩ | ⟨error, herror⟩
    · obtain ⟨k, -, hspec⟩ := (hends.returned hout).login
      cases hw : e.writes with
      | nil => rfl
      | cons w ws =>
        rw [hw] at hspec
        cases hspec <;> exact absurd rfl hne
    · have hc := hends.commits
      rwa [Serial.Commits, herror] at hc

/-- A ticket, the login it pays for, and a second attempt. -/
theorem login_ticket_single_use_second_attempt : ∃ c : StoreConfig,
    Reachable (store Sample.platform Sample.anyone) Sample.start c ∧
      c.log.map (fun e => e.writes.length) = [1, 4, 0] ∧ TicketSingleUse Sample.platform c := by
  obtain ⟨c, hc, -, ht⟩ := Reachable.of_runCalls (store Sample.platform Sample.anyone) Sample.start
    [(.issue Sample.alice (LoginTicketService.hashTicket Sample.platform Sample.ticket), []),
      (.registerDevice Sample.ticket ⟨"0a", "tablet", "v1", "1", "0b", "0c"⟩ Sample.refreshToken,
        [13, 41]),
      (.verifyDevice Sample.ticket Sample.phone Sample.refreshToken, [42])]
    (fun c : StoreConfig => c.log.map (fun e => e.writes.length) = [1, 4, 0])
    (fun _ _ _ => trivial) (by decide +kernel)
  have hbundles : BundlesHaveDevices Sample.start := fun b hb => absurd hb List.not_mem_nil
  exact ⟨c, hc, of_decide_eq_true ht, login_ticket_single_use hc hbundles⟩

namespace Sample

/-- Time passes slowly for the server: 28 seconds from one snapshot to the next. -/
def slowly (db : Db) : Db := { db with clock := db.clock + 28 * 1000000 }

theorem drift_slowly (db : Db) : (store platform anyone).drift db (slowly db) :=
  ⟨_, le_add_of_nonneg_right (by decide), rfl⟩

/-- The hash of the ticket. -/
def ticketHash : String := LoginTicketService.hashTicket platform ticket

end Sample

/-- **A ticket consumed after its expiry.** It is checked in time, and expires before the clock is
read again for `consumed_at`: the login succeeds eight seconds late. -/
theorem login_ticket_single_use_late : ∃ c : StoreConfig,
    Reachable (store Sample.platform Sample.anyone) Sample.start c ∧ ∃ e ∈ c.log, Succeeds e ∧
      ∃ row consumedAt, e.before.loginTickets Sample.ticketHash = some row ∧
        .consumeTicket Sample.ticketHash consumedAt ∈ e.writes ∧ row.expiresAt < consumedAt := by
  let success : Outcome Error Reply :=
    .returned (.login ⟨.success, some ⟨Sample.alice, Sample.phone⟩⟩)
  obtain ⟨c, hc, ht⟩ := Reachable.of_runTicking (store Sample.platform Sample.anyone) Sample.start
    Sample.drift_slowly
    [(.issue Sample.alice Sample.ticketHash, []),
      (.verifyDevice Sample.ticket Sample.phone Sample.refreshToken, [41])]
    (fun log => log.any fun e => decide (e.outcome = success ∧
      (e.before.loginTickets Sample.ticketHash).map (·.expiresAt) = some 412000000 ∧
      .consumeTicket Sample.ticketHash 420000000 ∈ e.writes))
    (fun _ _ => trivial) (by decide +kernel)
  obtain ⟨e, he, htest⟩ := List.any_eq_true.mp ht
  obtain ⟨hout, hrow, hwrite⟩ := of_decide_eq_true htest
  obtain ⟨row, hrow, hexpires⟩ := Option.map_eq_some_iff.mp hrow
  exact ⟨c, hc, e, he, ⟨_, hout⟩, row, 420000000, hrow, hwrite, by rw [hexpires]; decide⟩

end ChatBackend
