import ChatBackend.Store.Sequence

/-!
# Revocation

Revoking a device is final: its row keeps the status `revoked` and its `revoked_at` for ever, and
every transaction that would act for the device after the revocation has committed is refused. Each
writer makes its own check under its own locks, but all their specifications say the same of the
state they commit on, and that is all this module uses of them.

## Main results

* `keepsRevoked_of_steps` — revocation is final
* `Committed.not_isRevoked` — nobody acts for a revoked device
* `revocation_cut_off`
-/

namespace ChatBackend

open ReadCommitted

variable {P : Platform} {allows : List StoreEvent → Call → Prop} {a b c db db₀ : Db} {d : Uuid}

/-! ### The device row -/

/-- The device is revoked. -/
def Db.isRevoked (db : Db) (d : Uuid) : Prop :=
  ∃ row, db.userDevices d = some row ∧ row.status = .revoked

/-- Revoked devices stay exactly as they are. -/
def KeepsRevoked (a b : Db) : Prop :=
  ∀ d row, a.userDevices d = some row → row.status = .revoked → b.userDevices d = some row

theorem KeepsRevoked.trans (h : KeepsRevoked a b) (h' : KeepsRevoked b c) : KeepsRevoked a c :=
  fun d row hrow hst => h' d row (h d row hrow hst) hst

theorem KeepsRevoked.isRevoked (h : KeepsRevoked a b) (ha : a.isRevoked d) : b.isRevoked d := by
  obtain ⟨row, hrow, hst⟩ := ha
  exact ⟨row, h d row hrow hst, hst⟩

/-- Only a revocation changes a row that exists. -/
theorem userDevices_write_of_some {w : Write} {row : DeviceRow} (h : db.userDevices d = some row)
    (hw : ∀ at', w ≠ .revokeDevice d at') : (db.write w).userDevices d = some row := by
  cases w with
  | insertDevice id row' =>
    by_cases hid : id = d
    · subst hid
      simp [Db.write, h]
    · simp [Db.write, Function.update_of_ne (Ne.symm hid), h]
  | revokeDevice id at' =>
    have hid : d ≠ id := fun he => hw at' (he ▸ rfl)
    simp [Db.write, Function.update_of_ne hid, h]
  | _ => exact h

theorem userDevices_revokeDevice {row : DeviceRow} {at' : Time} (h : db.userDevices d = some row) :
    (db.write (.revokeDevice d at')).userDevices d =
      some { row with status := .revoked, revokedAt := some at' } := by
  simp [Db.write, h]

/-- The revocations that a transaction commits: of a device that was active, and no longer is. -/
theorem Committed.revokeDevice {call : Call} {r : Reply} {seen : List Db} {ws : List Write}
    {at' : Time} (h : Committed P call r seen ws db) (hw : .revokeDevice d at' ∈ ws) :
    ∃ row, db.userDevices d = some row ∧ row.status = .active ∧
      ((schema P).applyAll ws db).isRevoked d := by
  have htable : Table.userDevices ∈ call.tables := h.tables _ hw
  cases h with
  | revokeUserDevice h =>
    cases h with
    | refused => cases hw
    | success device now tokens hdevice _ hactive =>
      obtain rfl : d = _ := by
        rcases List.mem_cons.mp hw with he | hw
        · exact (Write.revokeDevice.inj he).1
        · obtain ⟨t, -, he⟩ := List.mem_map.mp hw
          cases he
      refine ⟨device, hdevice, hactive,
        ⟨{ device with status := .revoked, revokedAt := some now }, ?_, rfl⟩⟩
      rw [Schema.applyAll_cons, belongsTo_userDevices.frame (List.forall_mem_map.mpr fun t _ he => by
        cases he)]
      exact userDevices_revokeDevice hdevice
  | registerNewDevice => simp at hw
  | complete h => cases h <;> simp at hw
  | verifyDevice h => cases h <;> simp at hw
  | registerDevice h => cases h <;> simp at hw
  | _ => simp [Call.tables] at htable

/-- **Revocation is final**, over one commit. -/
theorem Committed.keepsRevoked {call : Call} {r : Reply} {seen : List Db} {ws : List Write}
    (h : Committed P call r seen ws db) : KeepsRevoked db ((schema P).applyAll ws db) := by
  intro d row hrow hst
  refine (schema P).applyAll_induct (P := fun x => x.userDevices d = some row)
    (fun w hw x hx => userDevices_write_of_some hx fun at' he => ?_) hrow
  obtain ⟨row', hrow', hactive, -⟩ := h.revokeDevice (he ▸ hw)
  obtain rfl : row = row' := Option.some.inj (hrow.symm.trans hrow')
  exact absurd (hst.symm.trans hactive) (by decide)

theorem drift_keepsRevoked (a b : Db) (h : (schema P).drift a b) : KeepsRevoked a b := by
  obtain ⟨now, -, rfl⟩ := h
  exact fun _ _ hrow _ => hrow

theorem keepsRevoked_of_steps {x y : StoreState}
    (h : Serial.Steps (store P allows) (Committed P) x y) : KeepsRevoked x.db y.db :=
  h.rel (R := KeepsRevoked) (fun _ _ _ hrow _ => hrow) KeepsRevoked.trans
    (fun _ _ _ _ _ h => h.keepsRevoked) drift_keepsRevoked

theorem keepsRevoked_of_mem_past {x : StoreState}
    (h : Serial.Reachable (store P allows) (Committed P) db₀ x) :
    ∀ v ∈ x.past, KeepsRevoked v x.db :=
  h.rel (R := KeepsRevoked) (fun _ _ _ hrow _ => hrow) KeepsRevoked.trans
    (fun _ _ _ _ _ h => h.keepsRevoked) drift_keepsRevoked

/-! ### Acting for a device -/

/-- The write inserts an envelope from or to the device, inserts or claims one of its prekeys, or
issues a refresh token for it. -/
def Write.actsFor (d : Uuid) : Write → Prop
  | .insertEnvelope row => row.senderDeviceId = d ∨ row.recipientDeviceId = d
  | .insertPrekey row => row.deviceId = d
  | .claimPrekey deviceId _ _ => deviceId = d
  | .insertToken row => row.deviceId = d
  | _ => False

/-- The event is a committed acknowledgment by the device. -/
def Acknowledges (d : Uuid) (e : StoreEvent) : Prop :=
  ∃ user request, e.call = .ackEnvelopes user request ∧ request.deviceId = d ∧
    (e.writes ≠ [] ∨ ∃ ids, e.outcome = .returned (.acknowledged (some ids)))

/-- The event is a committed revocation of the device. -/
def Revokes (d : Uuid) (e : StoreEvent) : Prop := ∃ at', .revokeDevice d at' ∈ e.writes

theorem not_isRevoked_of_active {row : DeviceRow} (h : db.userDevices d = some row)
    (hst : row.status = .active) : ¬ db.isRevoked d := by
  rintro ⟨row', hrow', hst'⟩
  obtain rfl : row = row' := Option.some.inj (h.symm.trans hrow')
  exact absurd (hst.symm.trans hst') (by decide)

theorem not_isRevoked_of_activeOwner {u : Uuid} (h : db.activeOwner d = some u) :
    ¬ db.isRevoked d := by
  obtain ⟨row, hrow, -, hst, -⟩ := activeOwner_eq_some_iff.mp h
  exact not_isRevoked_of_active hrow hst

/-- A completed login acts for a device that is active, or that it registers. -/
theorem not_isRevoked_of_complete {hash refreshHash : String} {deviceId : Option Uuid}
    {registration : Option DeviceRegistrationInput} {r : LoginTicketResult} {seen : List Db}
    {ws : List Write}
    (h : LoginTicketRepository.CompleteSpec hash refreshHash deviceId registration r seen ws db)
    {w : Write} (hw : w ∈ ws) (hd : w.actsFor d) : ¬ db.isRevoked d := by
  cases h with
  | verified ticket now target row token _ _ _ _ hrow _ hst htoken =>
    rcases List.mem_pair.mp hw with rfl | rfl
    · exact hd.elim
    · obtain rfl : target = d := htoken.device.symm.trans hd
      exact not_isRevoked_of_active hrow hst
  | registered ticket now target row bundle token _ _ _ _ hfree _ htoken =>
    have hd' : token.deviceId = d := by
      simp only [List.mem_cons, List.not_mem_nil, or_false] at hw
      rcases hw with rfl | rfl | rfl | rfl
      · exact hd.elim
      · exact hd.elim
      · exact hd.elim
      · exact hd
    obtain rfl : target = d := htoken.device.symm.trans hd'
    rintro ⟨row', hrow', -⟩
    rw [hfree] at hrow'
    cases hrow'
  | refused => cases hw

/-- **Nobody acts for a revoked device**: what a transaction does for a device, it does in a state
in which the device is not revoked. -/
theorem Committed.not_isRevoked {call : Call} {r : Reply} {seen : List Db} {ws : List Write}
    (h : Committed P call r seen ws db) {w : Write} (hw : w ∈ ws) (hd : w.actsFor d) :
    ¬ db.isRevoked d := by
  cases h with
  | saveNewMessage h =>
    cases h with
    | success id hp =>
      obtain rfl := List.mem_singleton.mp hw
      obtain ⟨-, hs, owner, hr, -⟩ := hp
      rcases hd with rfl | rfl
      · exact not_isRevoked_of_activeOwner hs
      · exact not_isRevoked_of_activeOwner hr
    | _ => cases hw
  | syncEnvelopeRecord h => exact absurd (h.readOnly ▸ hw) List.not_mem_nil
  | ackEnvelopes h =>
    obtain ⟨rows, rfl, -⟩ := h.rows
    obtain ⟨row, -, rfl⟩ := List.mem_map.mp hw
    exact hd.elim
  | revokeUserDevice h =>
    cases h with
    | success =>
      rcases List.mem_cons.mp hw with rfl | hw
      · exact hd.elim
      · obtain ⟨t, -, rfl⟩ := List.mem_map.mp hw
        exact hd.elim
    | refused => cases hw
  | registerNewDevice =>
    rcases List.mem_pair.mp hw with rfl | rfl
    · exact hd.elim
    · exact hd.elim
  | createNewOnetimeKey h =>
    cases h with
    | stored now rows hactive hrows =>
      obtain ⟨row, hrow, rfl⟩ := List.mem_map.mp hw
      obtain ⟨key, -, hkey⟩ := KeyRepository.exists_key hrows hrow
      obtain rfl : _ = d := (congrArg PrekeyRow.deviceId hkey.1).symm.trans hd
      exact not_isRevoked_of_activeOwner hactive
    | refused => cases hw
  | getOneTimeKey h =>
    cases h with
    | success row now _ _ hactive =>
      obtain rfl := List.mem_singleton.mp hw
      obtain rfl : _ = d := hd
      exact not_isRevoked_of_activeOwner hactive
    | refused => cases hw
  | issue h =>
    cases h with
    | issued =>
      obtain rfl := List.mem_singleton.mp hw
      exact hd.elim
    | refused => cases hw
  | complete h => exact not_isRevoked_of_complete h hw hd
  | verifyDevice h => exact not_isRevoked_of_complete h hw hd
  | registerDevice h => exact not_isRevoked_of_complete h hw hd
  | rotate h =>
    cases h with
    | rotated now old rest token _ _ hdev _ _ _ hrow =>
      rcases List.mem_append.mp hw with hw | hw
      · obtain ⟨t, -, rfl⟩ := List.mem_map.mp hw
        exact hd.elim
      · obtain rfl := List.mem_singleton.mp hw
        obtain rfl : old.deviceId = d := hdev.symm.trans hd
        obtain ⟨row, hrow, -, hst⟩ := hrow
        exact not_isRevoked_of_active hrow hst
    | refused => cases hw
  | revokeRefreshToken h =>
    obtain ⟨now, rows, rfl, -⟩ := h
    obtain ⟨t, -, rfl⟩ := List.mem_map.mp hw
    exact hd.elim
  | deleteRefreshToken h =>
    obtain ⟨rows, rfl, -⟩ := h
    obtain ⟨t, -, rfl⟩ := List.mem_map.mp hw
    exact hd.elim
  | deleteExpiredBefore h =>
    obtain ⟨rows, rfl, -⟩ := h
    obtain ⟨t, -, rfl⟩ := List.mem_map.mp hw
    exact hd.elim
  | createNewFriendship h =>
    cases h with
    | stored =>
      obtain rfl := List.mem_singleton.mp hw
      exact hd.elim
  | processFriendshipRequest h =>
    cases h with
    | success =>
      rcases List.mem_cons.mp hw with rfl | hw
      · exact hd.elim
      · obtain ⟨p, -, rfl⟩ := List.mem_map.mp hw
        exact hd.elim
    | refused => cases hw
  | verifyFriendShip h => exact absurd (h.readOnly ▸ hw) List.not_mem_nil
  | setActive => exact (List.mem_singleton.mp hw ▸ hd : Write.actsFor d (.setActive _ _)).elim
  | befriend => exact (List.mem_singleton.mp hw ▸ hd : Write.actsFor d (.befriend _ _)).elim
  | unfriend => exact (List.mem_singleton.mp hw ▸ hd : Write.actsFor d (.unfriend _ _)).elim
  | expireBundle =>
    exact (List.mem_singleton.mp hw ▸ hd : Write.actsFor d (.expireBundle _ _ _)).elim

/-- An acknowledgment is made while the device is not revoked. -/
theorem Acknowledges.not_isRevoked {x : StoreState} {e : StoreEvent} (h : Acknowledges d e)
    (he : Serial.Ends (store P allows) (Committed P) x e) : ¬ x.db.isRevoked d := by
  obtain ⟨user, request, hcall, rfl, hack⟩ := h
  suffices hactive : x.db.activeOwner request.deviceId = some user from
    not_isRevoked_of_activeOwner hactive
  rcases hack with hw | ⟨ids, hout⟩
  · rcases he.writes with hnil | ⟨r, hspec⟩
    · exact absurd hnil hw
    · rw [hcall] at hspec
      cases hspec with
      | @ackEnvelopes _ _ r _ _ _ hack =>
        refine hack.active ?_
        cases r with
        | none => exact absurd (hack.denied rfl) hw
        | some ids => rfl
  · have hspec := he.returned hout
    rw [hcall] at hspec
    cases hspec with
    | ackEnvelopes hack => exact hack.active rfl

/-- What holds of every run about the devices that are revoked in it. -/
structure RevocationCutOff (c : StoreConfig) : Prop where
  /-- A call that reports a revocation has committed one. -/
  revokes : ∀ e ∈ c.log, ∀ me d, e.call = .revokeUserDevice me d →
    e.outcome = .returned (.revocation .success) → Revokes d e
  /-- After it has committed, no transaction commits that acts for the device. -/
  cutOff : ∀ l₁ e l₂ d, c.log = l₁ ++ e :: l₂ → Revokes d e → ∀ f ∈ l₂,
    (∀ w ∈ f.writes, ¬ w.actsFor d) ∧ ¬ Acknowledges d f
  /-- At its commit, every inserted envelope was permitted. -/
  permitted : ∀ e ∈ c.log, ∀ row, .insertEnvelope row ∈ e.writes → ∃ user request,
    e.call = .saveNewMessage user row.senderDeviceId request ∧
      e.before.permits user row.senderDeviceId row.recipientDeviceId
  /-- A revoked device keeps its `revoked_at`, and all the rest of its row. -/
  final : ∀ v ∈ c.past, ∀ d row, v.userDevices d = some row → row.status = .revoked →
    c.db.userDevices d = some row

/-- The envelope that a transaction inserts is the permitted one of a `saveNewMessage`. -/
theorem Committed.permits {call : Call} {r : Reply} {seen : List Db} {ws : List Write}
    {row : EnvelopeRow} (h : Committed P call r seen ws db) (hw : .insertEnvelope row ∈ ws) :
    ∃ user request, call = .saveNewMessage user row.senderDeviceId request ∧
      db.permits user row.senderDeviceId row.recipientDeviceId := by
  have hmem : row.toEnvelope ∈ inserted ws := List.mem_filterMap.mpr ⟨_, hw, rfl⟩
  rcases h.inserts with hnil | ⟨user, sender, request, id, hcall, -, hins, -, -, hp, -⟩
  · rw [hnil] at hmem
    cases hmem
  · rw [hins] at hmem
    have he := List.mem_singleton.mp hmem
    have hsender : row.senderDeviceId = sender := congrArg Envelope.senderDeviceId he
    have hrecipient : row.recipientDeviceId = request.recipientDeviceId :=
      congrArg Envelope.recipientDeviceId he
    rw [hsender, hrecipient]
    exact ⟨user, request, hcall, hp⟩

/-- A committed revocation leaves the device revoked. -/
theorem Revokes.isRevoked {x : StoreState} {e : StoreEvent} (h : Revokes d e)
    (he : Serial.Ends (store P allows) (Committed P) x e) :
    ((schema P).applyAll e.writes x.db).isRevoked d := by
  obtain ⟨at', hw⟩ := h
  rcases he.writes with hnil | ⟨r, hspec⟩
  · rw [hnil] at hw
    cases hw
  · obtain ⟨row, -, -, hrevoked⟩ := hspec.revokeDevice hw
    exact hrevoked

/-- **Revocation cut-off.** Once the revocation of a device has committed, nothing is committed any
more that sends from or to it, adds or hands out one of its prekeys, acknowledges envelopes for it
or issues a token for it; and every envelope was permitted when it was committed. -/
theorem revocation_cut_off {c : StoreConfig} (h : Reachable (store P allows) db₀ c) :
    RevocationCutOff c := by
  have hs := serial h
  refine ⟨fun e he me d hcall hout => ?_, fun l₁ e l₂ d hlog hrevokes f hf => ?_,
    fun e he row hw => ?_, fun v hv d row => keepsRevoked_of_mem_past hs v hv d row⟩
  · obtain ⟨u, -, hends, -⟩ := hs.split_mem he
    have hspec := hends.returned hout
    rw [hcall] at hspec
    cases hw : e.writes with
    | nil =>
      rw [hw] at hspec
      cases hspec with
      | revokeUserDevice hr =>
        cases hr with
        | refused hne => exact absurd rfl hne
    | cons w ws =>
      rw [hw] at hspec
      cases hspec with
      | revokeUserDevice hr =>
        cases hr
        exact ⟨_, hw ▸ List.mem_cons_self ..⟩
  · obtain ⟨u, v, -, -, hue, huv, hvf, -⟩ := hs.split_two hlog hf
    have hrevoked : v.db.isRevoked d := (keepsRevoked_of_steps huv).isRevoked (hrevokes.isRevoked hue)
    refine ⟨fun w hw hacts => ?_, fun hack => hack.not_isRevoked hvf hrevoked⟩
    rcases hvf.writes with hnil | ⟨r, hspec⟩
    · rw [hnil] at hw
      cases hw
    · exact hspec.not_isRevoked hw hacts hrevoked
  · obtain ⟨u, -, hends, -⟩ := hs.split_mem he
    rcases hends.writes with hnil | ⟨r, hspec⟩
    · rw [hnil] at hw
      cases hw
    · obtain ⟨user, request, hcall, hp⟩ := hspec.permits hw
      exact ⟨user, request, hcall, hends.before ▸ hp⟩

/-- A message, the revocation of its sender, and a message that is refused. -/
theorem revocation_cut_off_sender : ∃ c : StoreConfig,
    Reachable (store Sample.platform Sample.anyone) Sample.start c ∧
      c.log.map (fun e => e.writes.length) = [1, 1, 0] ∧ RevocationCutOff c := by
  obtain ⟨c, hc, -, ht⟩ := Reachable.of_runCalls (store Sample.platform Sample.anyone) Sample.start
    [(.saveNewMessage Sample.alice Sample.phone ⟨21, Sample.laptop, "v1", [1, 2, 3]⟩, [31]),
      (.revokeUserDevice Sample.alice Sample.phone, []),
      (.saveNewMessage Sample.alice Sample.phone ⟨22, Sample.laptop, "v1", [4]⟩, [32])]
    (fun c : StoreConfig => c.log.map (fun e => e.writes.length) = [1, 1, 0])
    (fun _ _ _ => trivial) (by decide +kernel)
  exact ⟨c, hc, of_decide_eq_true ht, revocation_cut_off hc⟩

end ChatBackend
