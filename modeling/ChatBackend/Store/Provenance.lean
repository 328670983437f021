import ChatBackend.ReadCommitted.Dated
import ChatBackend.Store.KeyBundles
import ChatBackend.Store.Rotation
import Mathlib.Data.Int.ConditionallyCompleteOrder

/-!
# Where refresh tokens come from

A refresh token stands for a login. The password is checked when a ticket is issued; the ticket is
turned into a device and a first token; and after that a token is only ever replaced by another one
for the same user and device. So behind every token that is accepted there is a ticket that was issued
to its user, and a login that checked it within five minutes and consumed it; and the token is
accepted for seven days after that login at most, but for the half second that rounding can add,
however often it is rotated.

## Main definitions

* `Write.Dated`, `Timed` — tickets and tokens expire no later than they should
* `Issued`, `Login`, `Lineage` — how a token descends from a login

## Main results

* `meets_timed`
* `accepted_tokens_descend` — every accepted token does
-/

namespace ChatBackend

open ReadCommitted RefreshTokenRepository

variable {P : Platform} {allows : List StoreEvent → Call → Prop} {db db₀ : Db} {x : StoreState}
  {e : StoreEvent}

/-! ### Times of expiry -/

/-- How long a ticket is good for. -/
def ticketLife : Time := 5 * 60 * 1000000

/-- How long the refresh token of a login is good for. -/
def loginLife : Time := 7 * 24 * 3600 * 1000000

/-- A ticket, or a token, that is written at this time or later expires in time. -/
def Write.Dated (time : Time) : Write → Prop
  | .insertTicket _ row => row.expiresAt ≤ time + ticketLife
  | .insertToken row => row.expiresAt ≤ time + loginLife
  | _ => True

theorem Write.Dated.later {time later : Time} {w : Write} (hle : time ≤ later) (h : w.Dated time) :
    w.Dated later := by
  cases w with
  | insertTicket hash row => exact h.trans (add_le_add_left hle _)
  | insertToken row => exact h.trans (add_le_add_left hle _)
  | _ => trivial

theorem ticks_clock (P : Platform) : Ticks (schema P) Db.clock where
  apply := fun w db => by cases w <;> rfl
  drift := by
    rintro db _ ⟨now, hnow, rfl⟩
    exact hnow

section EmitsBy

variable {time : Time} {user deviceId : Uuid} {hash : String} {now : Time}

/-- **A ticket** expires five minutes after the snapshot in which it is issued. -/
theorem emitsBy_issue : EmitsBy Db.clock Write.Dated (LoginTicketRepository.issue user hash) time := by
  have hselect : Emits (fun w => ∀ time, Write.Dated time w) (selectActiveUser user) :=
    emits_selectLocked
  refine (hselect.emitsBy time).bind fun account later _ => ?_
  split_ifs
  · trivial
  · intro created _ db _
    beta_reduce
    refine EmitsBy.bind (emitsBy_insertRow fun later hlater => ?_) fun _ _ _ => trivial
    exact add_le_add_left hlater _

/-- **The refresh token of a login** expires seven days after the snapshot in which it is made. -/
theorem emitsBy_insertRefreshToken :
    EmitsBy Db.clock Write.Dated (insertRefreshToken user deviceId hash now) time := by
  intro db _
  refine (emits_selectLocked.emitsBy _).bind fun found later hlater => ?_
  split_ifs
  · trivial
  · intro id
    refine emitsBy_insertRow fun later' hlater' => ?_
    exact add_le_add_left (hlater.trans hlater') _

theorem emits_dated_registerNewDevice {input : DeviceRegistrationInput} :
    Emits (fun w => ∀ time, Write.Dated time w)
      (KeyRepository.registerNewDevice P user input now) := by
  refine Emits.bind ?_ fun device => Emits.bind ?_ fun _ => trivial
  · rw [KeyRepository.insertDevice, KeyRepository.decodeParameter]
    cases decodeHex (cString input.identityPublicKeyHex) with
    | none => trivial
    | some key => exact fun device => (emits_insertRow fun _ => trivial).bind fun _ => trivial
  · rw [KeyRepository.insertBundle, KeyRepository.bigintParameter, KeyRepository.decodeParameter,
      KeyRepository.decodeParameter]
    cases P.bigintIn (cString input.signedPrekeyId) with
    | none => trivial
    | some n =>
      cases decodeHex (cString input.signedPrekeyPublicHex) with
      | none => trivial
      | some publicKey =>
        cases decodeHex (cString input.signedPrekeySignatureHex) with
        | none => trivial
        | some signature => exact emits_insertRow fun _ => trivial

theorem emitsBy_finish {refreshHash : String} {registration : Option DeviceRegistrationInput} :
    EmitsBy Db.clock Write.Dated
      (LoginTicketRepository.finish P hash refreshHash user deviceId registration now) time := by
  have hconsume : Emits (fun w => ∀ time, Write.Dated time w)
      (LoginTicketRepository.consumeTicket hash) := emits_consumeTicket fun _ _ => trivial
  refine (hconsume.emitsBy time).bind fun consumed later _ => ?_
  split_ifs
  · trivial
  · cases registration with
    | none => exact emitsBy_insertRefreshToken.bind fun _ _ _ => trivial
    | some input =>
      refine (emits_dated_registerNewDevice.emitsBy later).bind fun device _ _ => ?_
      exact emitsBy_insertRefreshToken.bind fun _ _ _ => trivial

theorem emitsBy_complete {ticketHash refreshHash : String} {target : Option Uuid}
    {registration : Option DeviceRegistrationInput} :
    EmitsBy Db.clock Write.Dated
      (LoginTicketRepository.complete P ticketHash refreshHash target registration) time := by
  rw [LoginTicketRepository.complete]
  split_ifs
  · trivial
  · refine EmitsBy.bind (fun db _ => trivial) fun now later _ => ?_
    refine (emits_selectLocked.emitsBy later).bind fun ticket later' _ => ?_
    cases ticket with
    | nil => trivial
    | cons row rest =>
      refine (emits_selectLocked.emitsBy later').bind fun account later'' _ => ?_
      split_ifs
      · trivial
      · cases target with
        | none => exact emitsBy_finish
        | some device =>
          refine EmitsBy.bind ?_ fun verdict _ _ => ?_
          · refine (emits_selectLocked.emitsBy later'').bind fun found _ _ => ?_
            cases found with
            | nil => trivial
            | cons row rest =>
              simp only
              split_ifs <;> trivial
          · cases verdict with
            | error status => trivial
            | ok targetDevice => exact emitsBy_finish

end EmitsBy

/-- What a returning call commits, with the times of expiry of what logins need; only a rotation
takes over a time from somewhere else. -/
def Timed (P : Platform) (call : Call) (r : Reply) (seen : List Db) (ws : List Write) (db : Db) :
    Prop :=
  Committed P call r seen ws db ∧ ((∀ oldTokenHash newTokenHash,
    call ≠ .rotate oldTokenHash newTokenHash) → ∀ w ∈ ws, w.Dated db.clock)

/-- Revocations of tokens are dated at any time. -/
theorem dated_revokeTokens {rows : List TokenRow} {at' : TokenRow → Time} {time : Time} :
    ∀ w ∈ rows.map fun t => Write.revokeToken t.id (at' t), w.Dated time :=
  List.forall_mem_map.mpr fun _ _ => trivial

theorem dated_deleteTokens {rows : List TokenRow} {time : Time} :
    ∀ w ∈ rows.map fun t => Write.deleteToken t.id, w.Dated time :=
  List.forall_mem_map.mpr fun _ _ => trivial

/-- The other calls write neither tickets nor new tokens. -/
theorem Committed.dated {call : Call} {r : Reply} {seen : List Db} {ws : List Write}
    (h : Committed P call r seen ws db) (hissue : ∀ user hash, call ≠ .issue user hash)
    (hlogin : call.completion P = none)
    (hrotate : ∀ oldTokenHash newTokenHash, call ≠ .rotate oldTokenHash newTokenHash) (time : Time) :
    ∀ w ∈ ws, w.Dated time := by
  have htables := h.tables
  cases h with
  | issue => exact absurd rfl (hissue _ _)
  | complete | verifyDevice | registerDevice => cases hlogin
  | rotate => exact absurd rfl (hrotate _ _)
  | revokeUserDevice h =>
    cases h with
    | success => exact List.forall_mem_cons.mpr ⟨trivial, dated_revokeTokens⟩
    | refused => exact fun w hw => absurd hw List.not_mem_nil
  | revokeRefreshToken h =>
    obtain ⟨now, rows, rfl, -⟩ := h
    exact dated_revokeTokens
  | deleteRefreshToken h =>
    obtain ⟨rows, rfl, -⟩ := h
    exact dated_deleteTokens
  | deleteExpiredBefore h =>
    obtain ⟨rows, rfl, -⟩ := h
    exact dated_deleteTokens
  | _ =>
    intro w hw
    have htable := htables w hw
    -- what is dated is in a table that these calls do not write
    cases w <;> trivial

/-- **Every program meets this specification.** -/
theorem meets_timed (P : Platform) (allows : List StoreEvent → Call → Prop) :
    Meets (store P allows) (Timed P) := by
  intro call db
  have hcommitted := meets P allows call db
  have hdated (hemits : EmitsBy Db.clock Write.Dated ((store P allows).body call) db.clock) :
      wp (store P allows).toSchema ((store P allows).body call)
        (fun r s db => Timed P call r s.seen s.writes db) {} db := by
    refine wp_mono (fun r s x hx => ⟨hx.1, fun _ w hw => hx.2 w hw⟩) (wp_emitsBy (ticks_clock P)
      (fun hle h => h.later hle) hcommitted hemits le_rfl (by simp))
  cases call with
  | issue user hash => exact hdated (emitsBy_issue.bind fun _ _ _ => trivial)
  | complete ticketHash refreshHash deviceId registration =>
    exact hdated (emitsBy_complete.bind fun _ _ _ => trivial)
  | verifyDevice ticket deviceId refreshToken =>
    refine hdated (EmitsBy.bind ?_ fun _ _ _ => trivial)
    rw [LoginTicketService.verifyDevice, LoginTicketService.complete]
    split_ifs
    · trivial
    · trivial
    · exact emitsBy_complete
  | registerDevice ticket input refreshToken =>
    refine hdated (EmitsBy.bind ?_ fun _ _ _ => trivial)
    rw [LoginTicketService.registerDevice, LoginTicketService.complete]
    split_ifs
    · trivial
    · exact emitsBy_complete
  | rotate oldTokenHash newTokenHash =>
    exact wp_mono (fun r s x hx => ⟨hx, fun hne => absurd rfl (hne _ _)⟩) hcommitted
  | _ =>
    refine wp_mono (fun r s x hx => ⟨hx, fun _ => hx.dated ?_ rfl ?_ x.clock⟩) hcommitted
    · intro user hash hcall
      cases hcall
    · intro oldTokenHash newTokenHash hcall
      cases hcall

/-! ### What commits insert -/

/-- The call has committed: it returned, or its connection was lost. -/
def Landed (e : StoreEvent) (r : Reply) : Prop := e.outcome = .returned r ∨ e.outcome = .lost

/-- **Whatever a call writes was specified.** -/
theorem landed_of_write {spec : Spec Db Write Call Reply}
    (he : Serial.Ends (store P allows) spec x e) {w : Write} (hw : w ∈ e.writes) :
    ∃ r, Landed e r ∧ spec e.call r e.seen e.writes x.db := by
  have hcommits := he.commits
  rw [Serial.Commits, he.before] at hcommits
  cases hout : e.outcome with
  | returned r => exact ⟨r, .inl hout, by simpa [hout] using hcommits⟩
  | threw error =>
    have hnone : e.writes = [] := by simpa [hout] using hcommits
    rw [hnone] at hw
    cases hw
  | lost =>
    obtain ⟨r, hr⟩ : ∃ r, spec e.call r e.seen e.writes x.db := by simpa [hout] using hcommits
    exact ⟨r, .inr hout, hr⟩

/-- **A ticket is inserted when it is issued.** -/
theorem Committed.insertTicket {call : Call} {r : Reply} {seen : List Db} {ws : List Write}
    {hash : String} {row : TicketRow} (h : Committed P call r seen ws db)
    (hw : .insertTicket hash row ∈ ws) :
    ∃ ticketHash, call = .issue row.userId ticketHash ∧ cString ticketHash = hash ∧
      r = .issued true := by
  have htable : Table.loginTickets ∈ call.tables := h.tables _ hw
  have complete : ∀ {hash' refreshHash deviceId registration r},
      ¬ LoginTicketRepository.CompleteSpec hash' refreshHash deviceId registration r seen ws db := by
    intro hash' refreshHash deviceId registration r h
    cases h <;> simp at hw
  cases h with
  | issue h =>
    cases h with
    | issued new _ _ huser =>
      obtain ⟨rfl, rfl⟩ : hash = _ ∧ row = new := by simpa using hw
      exact ⟨_, by rw [huser], rfl, rfl⟩
    | refused => cases hw
  | complete h => exact absurd h complete
  | verifyDevice h => exact absurd h complete
  | registerDevice h => exact absurd h complete
  | _ => simp [Call.tables] at htable

/-- **Where an inserted token comes from**: a login, or a token that is rotated. -/
inductive TokenOrigin (P : Platform) (call : Call) (r : Reply) (seen : List Db) (ws : List Write)
    (db : Db) (token : TokenRow) : Prop where
  | login (k : Completion) (ticket : TicketRow) (now : Time) (hcall : call.completion P = some k)
      (hreply : r = .login ⟨.success, some ⟨token.userId, token.deviceId⟩⟩)
      (hticket : LoginTicketRepository.Consumes k.ticketHash ticket now seen db)
      (huser : ticket.userId = token.userId) (hconsumed : .consumeTicket k.ticketHash now ∈ ws)
      (hhash : token.tokenHash = cString k.refreshHash)
  | rotation (old : TokenRow) (oldTokenHash newTokenHash : String)
      (hcall : call = .rotate oldTokenHash newTokenHash) (hreply : r = .rotated true)
      (hold : old ∈ db.refreshTokens) (hoHash : old.tokenHash = cString oldTokenHash)
      (huser : token.userId = old.userId) (hdevice : token.deviceId = old.deviceId)
      (hhash : token.tokenHash = cString newTokenHash)
      (hexpires : token.expiresAt = epochSeconds old.expiresAt * 1000000)

theorem tokenOrigin_of_complete {call : Call} {k : Completion} (hcall : call.completion P = some k)
    {r : LoginTicketResult} {seen : List Db} {ws : List Write} {token : TokenRow}
    (h : LoginTicketRepository.CompleteSpec k.ticketHash k.refreshHash k.deviceId k.registration r
      seen ws db) (hw : .insertToken token ∈ ws) : TokenOrigin P call (.login r) seen ws db token := by
  cases h with
  | refused => cases hw
  | verified ticket now target row new _ _ hticket _ _ _ _ htoken =>
    obtain rfl : token = new := by simpa using hw
    exact .login k ticket now hcall (by rw [htoken.user, htoken.device]) hticket htoken.user.symm
      (by simp) htoken.hash
  | registered ticket now target row bundle new _ _ hticket _ _ _ htoken =>
    obtain rfl : token = new := by simpa using hw
    exact .login k ticket now hcall (by rw [htoken.user, htoken.device]) hticket htoken.user.symm
      (by simp) htoken.hash

/-- **Every inserted token has such an origin.** -/
theorem Committed.tokenOrigin {call : Call} {r : Reply} {seen : List Db} {ws : List Write}
    {token : TokenRow} (h : Committed P call r seen ws db) (hw : .insertToken token ∈ ws) :
    TokenOrigin P call r seen ws db token := by
  have htable : Table.refreshTokens ∈ call.tables := h.tables _ hw
  cases h with
  | complete h => exact @tokenOrigin_of_complete P db _ _ rfl _ _ _ _ h hw
  | verifyDevice h => exact @tokenOrigin_of_complete P db _ _ rfl _ _ _ _ h hw
  | registerDevice h => exact @tokenOrigin_of_complete P db _ _ rfl _ _ _ _ h hw
  | rotate h =>
    cases h with
    | refused => cases hw
    | rotated now old rest new hrows huser hdevice hhash _ hexpires =>
      obtain rfl : token = new := by simpa using hw
      obtain ⟨hold, hoHash, -, -⟩ := hrows old (List.mem_cons_self ..)
      exact .rotation old _ _ rfl rfl hold hoHash huser hdevice hhash hexpires
  | revokeUserDevice h => cases h <;> simp at hw
  | revokeRefreshToken h =>
    obtain ⟨now, rows, rfl, -⟩ := h
    simp at hw
  | deleteRefreshToken h =>
    obtain ⟨rows, rfl, -⟩ := h
    simp at hw
  | deleteExpiredBefore h =>
    obtain ⟨rows, rfl, -⟩ := h
    simp at hw
  | _ => simp [Call.tables] at htable

/-- A ticket after some writes was there before, but perhaps not consumed, or is inserted. -/
theorem loginTickets_applyAll {ws : List Write} {hash : String} {row : TicketRow}
    (h : ((schema P).applyAll ws db).loginTickets hash = some row) :
    ∃ old : TicketRow, old.userId = row.userId ∧ old.expiresAt = row.expiresAt ∧
      (db.loginTickets hash = some old ∨ .insertTicket hash old ∈ ws) := by
  refine (schema P).applyAll_induct (P := fun x => ∀ row, x.loginTickets hash = some row →
    ∃ old : TicketRow, old.userId = row.userId ∧ old.expiresAt = row.expiresAt ∧
      (db.loginTickets hash = some old ∨ .insertTicket hash old ∈ ws))
    (fun w hw x hx row hrow => ?_) (fun row hrow => ⟨row, rfl, rfl, .inl hrow⟩) row h
  cases w with
  | insertTicket other new =>
    by_cases hother : hash = other
    · subst hother
      cases hold : x.loginTickets hash with
      | some old =>
        obtain rfl : old = row := by simpa [Db.write, hold] using hrow
        exact hx old hold
      | none =>
        obtain rfl : new = row := by simpa [Db.write, hold] using hrow
        exact ⟨new, rfl, rfl, .inr hw⟩
    · exact hx row (by simpa [Db.write, Function.update_of_ne hother] using hrow)
  | consumeTicket other at' =>
    by_cases hother : hash = other
    · subst hother
      obtain ⟨old, hold, rfl⟩ : ∃ old, x.loginTickets hash = some old ∧
          { old with consumedAt := some at' } = row := by simpa [Db.write] using hrow
      exact hx old hold
    · exact hx row (by simpa [Db.write, Function.update_of_ne hother] using hrow)
  | _ => exact hx row hrow

/-! ### Lineages -/

/-- A ticket with this hash was issued to the user: it was inserted, and expires five minutes after that
at most. -/
def Issued (user : Uuid) (ticketHash : String) (expiresAt : Time) (log : List StoreEvent) : Prop :=
  ∃ i ∈ log, (∃ hash, i.call = .issue user hash ∧ cString hash = ticketHash) ∧
    Landed i (.issued true) ∧
    (∃ row, .insertTicket ticketHash row ∈ i.writes ∧ row.userId = user ∧ row.expiresAt = expiresAt) ∧
    expiresAt ≤ i.before.clock + ticketLife

theorem Issued.later {user : Uuid} {ticketHash : String} {expiresAt : Time} {log : List StoreEvent}
    (h : Issued user ticketHash expiresAt log) (e : StoreEvent) :
    Issued user ticketHash expiresAt (log ++ [e]) := by
  obtain ⟨i, hi, hissued⟩ := h
  exact ⟨i, List.mem_append_left _ hi, hissued⟩

/-- The commit inserts a token with this hash for the user and the device. -/
def InsertsToken (e : StoreEvent) (user deviceId : Uuid) (tokenHash : String) : Prop :=
  ∃ token, .insertToken token ∈ e.writes ∧ token.userId = user ∧ token.deviceId = deviceId ∧
    token.tokenHash = tokenHash

/-- **A login**: a successful completion, by which a ticket of the user is checked before it expires
and consumed, and a token with this hash is made for the user and the device. -/
structure Login (P : Platform) (user deviceId : Uuid) (tokenHash : String)
    (before : List StoreEvent) (e : StoreEvent) : Prop where
  landed : Landed e (.login ⟨.success, some ⟨user, deviceId⟩⟩)
  token : InsertsToken e user deviceId tokenHash
  ticket : ∃ k ticket consumedAt, e.call.completion P = some k ∧
    tokenHash = cString k.refreshHash ∧ ticket.userId = user ∧
    Issued user k.ticketHash ticket.expiresAt before ∧
    LoginTicketRepository.Consumes k.ticketHash ticket consumedAt e.seen e.before ∧
    .consumeTicket k.ticketHash consumedAt ∈ e.writes

/-- **How a token descends from a login** at this time: by rotations, each of a token with the last
hash, and each inserting a token with the next one. -/
inductive Lineage (P : Platform) (user deviceId : Uuid) (since : Time) :
    List StoreEvent → String → Prop where
  | login {before : List StoreEvent} {e : StoreEvent} {tokenHash : String}
      (hlogin : Login P user deviceId tokenHash before e) (hsince : e.before.clock = since) :
      Lineage P user deviceId since (before ++ [e]) tokenHash
  | rotated {before : List StoreEvent} {e : StoreEvent} {oldTokenHash newTokenHash : String}
      (hold : Lineage P user deviceId since before (cString oldTokenHash))
      (hcall : e.call = .rotate oldTokenHash newTokenHash) (hlanded : Landed e (.rotated true))
      (hinserted : InsertsToken e user deviceId (cString newTokenHash)) :
      Lineage P user deviceId since (before ++ [e]) (cString newTokenHash)
  | later {before : List StoreEvent} {e : StoreEvent} {tokenHash : String}
      (h : Lineage P user deviceId since before tokenHash) :
      Lineage P user deviceId since (before ++ [e]) tokenHash

/-- **The life of a login**: a token expires in time; or it was made by a rotation, which rounds, and
no rotation rounds a time twice. -/
def InTime (since expiresAt : Time) : Prop :=
  expiresAt ≤ since + loginLife ∨
    1000000 ∣ expiresAt ∧ expiresAt ≤ since + loginLife + 500000

/-- Rounding adds half a second at most, and nothing to a whole second. -/
theorem epochSeconds_le {at' limit : ℤ}
    (h : at' ≤ limit ∨ 1000000 ∣ at' ∧ at' ≤ limit + 500000) :
    epochSeconds at' * 1000000 ≤ limit + 500000 := by
  rw [epochSeconds]
  split_ifs <;> omega

theorem InTime.rotated {since expiresAt : Time} (h : InTime since expiresAt) :
    InTime since (epochSeconds expiresAt * 1000000) :=
  .inr ⟨dvd_mul_left _ _, epochSeconds_le h⟩

theorem InTime.le {since expiresAt : Time} (h : InTime since expiresAt) :
    expiresAt ≤ since + loginLife + 500000 := by
  rcases h with h | ⟨-, h⟩
  · exact h.trans (le_add_of_nonneg_right (by decide))
  · exact h

/-- Every ticket was issued, and every token descends from a login. -/
structure Descends (P : Platform) (log : List StoreEvent) (db : Db) : Prop where
  tickets : ∀ hash row, db.loginTickets hash = some row → Issued row.userId hash row.expiresAt log
  tokens : ∀ t ∈ db.refreshTokens, ∃ since, Lineage P t.userId t.deviceId since log t.tokenHash ∧
    InTime since t.expiresAt

/-- The end of a call with the specification that meets the times as well. -/
theorem ends_committed (he : Serial.Ends (store P allows) (Timed P) x e) :
    Serial.Ends (store P allows) (Committed P) x e := by
  refine ⟨he.before, he.seen, he.allowed, ?_⟩
  have hcommits := he.commits
  rw [Serial.Commits] at hcommits ⊢
  cases hout : e.outcome with
  | returned r => exact (show Timed P e.call r e.seen e.writes e.before by simpa [hout] using hcommits).1
  | threw error => simpa [hout] using hcommits
  | lost =>
    obtain ⟨r, hr⟩ : ∃ r, Timed P e.call r e.seen e.writes e.before := by
      simpa [hout] using hcommits
    exact ⟨r, hr.1⟩

/-- **The tickets of the step**: one that is there after a commit was issued before, or now. -/
theorem Descends.ticket_commit (hx : Descends P x.log x.db)
    (he : Serial.Ends (store P allows) (Timed P) x e) {hash : String} {row : TicketRow}
    (hrow : ((schema P).applyAll e.writes x.db).loginTickets hash = some row) :
    Issued row.userId hash row.expiresAt (x.log ++ [e]) := by
  obtain ⟨old, huser, hexpires, hold | hinserted⟩ := loginTickets_applyAll hrow
  · rw [← huser, ← hexpires]
    exact (hx.tickets hash old hold).later e
  · obtain ⟨r, hlanded, hcommitted, hdated⟩ := landed_of_write he hinserted
    obtain ⟨ticketHash, hcall, hhash, rfl⟩ := hcommitted.insertTicket hinserted
    have hlimit := hdated (fun _ _ hrotate => by rw [hcall] at hrotate; cases hrotate) _ hinserted
    refine ⟨e, List.mem_append_right _ (List.mem_singleton_self e),
      ⟨ticketHash, by rw [hcall, huser], hhash⟩, hlanded, ⟨old, hinserted, huser, hexpires⟩, ?_⟩
    rw [← hexpires, he.before]
    exact hlimit

/-- **The tokens of the step**: one that is there after a commit was there before; or it is the token
of a login; or it replaces one that was there. -/
theorem Descends.token_commit (hx : Descends P x.log x.db)
    (he : Serial.Ends (store P allows) (Timed P) x e) {t : TokenRow}
    (ht : t ∈ ((schema P).applyAll e.writes x.db).refreshTokens) :
    ∃ since, Lineage P t.userId t.deviceId since (x.log ++ [e]) t.tokenHash ∧
      InTime since t.expiresAt := by
  have kept {old : TokenRow} (hold : old ∈ x.db.refreshTokens) (hcontinues : old.Continues t) :
      ∃ since, Lineage P t.userId t.deviceId since (x.log ++ [e]) t.tokenHash ∧
        InTime since t.expiresAt := by
    obtain ⟨since, hlineage, htime⟩ := hx.tokens old hold
    rw [hcontinues.same]
    exact ⟨since, hlineage.later, htime⟩
  rcases (ends_committed he).writes with hnone | ⟨r, hr⟩
  · rw [hnone] at ht
    exact kept ht (.refl t)
  · rcases hr.continues_or_inserted ht with ⟨old, hold, hcontinues⟩ | hinserted
    · exact kept hold hcontinues
    · obtain ⟨r, hlanded, hcommitted, hdated⟩ := landed_of_write he hinserted
      cases hcommitted.tokenOrigin hinserted with
      | login k ticket now hcall hreply hticket huser hconsumed hhash =>
        have hlimit := hdated (fun _ _ hrotate => by rw [hrotate] at hcall; cases hcall) _ hinserted
        refine ⟨x.db.clock, .login ⟨hreply ▸ hlanded, ⟨t, hinserted, rfl, rfl, rfl⟩, k, ticket, now,
          hcall, hhash, huser, huser ▸ hx.tickets _ _ hticket.stored, he.before ▸ hticket, hconsumed⟩
          (congrArg Db.clock he.before), .inl hlimit⟩
      | rotation old oldTokenHash newTokenHash hcall hreply hold hoHash huser hdevice hhash hexpires =>
        obtain ⟨since, hlineage, htime⟩ := hx.tokens old hold
        have hsuccessor : InsertsToken e old.userId old.deviceId (cString newTokenHash) :=
          ⟨t, hinserted, huser, hdevice, hhash⟩
        rw [huser, hdevice, hhash, hexpires]
        exact ⟨since, .rotated (hoHash ▸ hlineage) hcall (hreply ▸ hlanded) hsuccessor, htime.rotated⟩

theorem Descends.later {log : List StoreEvent} (h : Descends P log db) (e : StoreEvent) :
    Descends P (log ++ [e]) db := by
  refine ⟨fun hash row hrow => (h.tickets hash row hrow).later e, fun t ht => ?_⟩
  obtain ⟨since, hlineage, htime⟩ := h.tokens t ht
  exact ⟨since, hlineage.later, htime⟩

/-- **The run**: it holds of the committed state, and of every state that has been committed. -/
theorem descends_of_reachable (h : Serial.Reachable (store P allows) (Timed P) db₀ x)
    (htickets : ∀ hash, db₀.loginTickets hash = none) (htokens : db₀.refreshTokens = []) :
    Descends P x.log x.db ∧ ∀ old ∈ x.past, Descends P x.log old := by
  have hstart : Descends P [] db₀ := by
    refine ⟨fun hash row hrow => ?_, fun t ht => ?_⟩
    · rw [htickets hash] at hrow
      cases hrow
    · rw [htokens] at ht
      cases ht
  refine Serial.induction (P := fun x => Descends P x.log x.db ∧ ∀ old ∈ x.past,
    Descends P x.log old) (fun x e he hx => ?_) (fun x db hd hx => ?_) h
    ⟨hstart, List.forall_mem_singleton.mpr hstart⟩
  · have hafter : Descends P (x.log ++ [e]) ((schema P).applyAll e.writes x.db) :=
      ⟨fun hash row hrow => hx.1.ticket_commit he hrow, fun t ht => hx.1.token_commit he ht⟩
    exact ⟨hafter, List.forall_mem_cons.mpr ⟨hafter, fun old hold => (hx.2 old hold).later e⟩⟩
  · obtain ⟨now, -, rfl⟩ := hd
    have hafter : Descends P x.log { x.db with clock := now } := ⟨hx.1.tickets, hx.1.tokens⟩
    exact ⟨hafter, List.forall_mem_cons.mpr ⟨hafter, hx.2⟩⟩

/-- **A login that has returned** is one. -/
theorem login_of_log (h : Serial.Reachable (store P allows) (Timed P) db₀ x)
    (htickets : ∀ hash, db₀.loginTickets hash = none) (htokens : db₀.refreshTokens = [])
    {before after : List StoreEvent} (hlog : x.log = before ++ e :: after) {user deviceId : Uuid}
    (hreturned : e.outcome = .returned (.login ⟨.success, some ⟨user, deviceId⟩⟩)) :
    ∃ tokenHash, Login P user deviceId tokenHash before e := by
  obtain ⟨u, hu, rfl, hends, -⟩ := h.split hlog
  have hdescends := (descends_of_reachable hu htickets htokens).1
  obtain ⟨k, hcall, hspec⟩ := (hends.returned hreturned).1.login
  have issued {ticket : TicketRow} (hticket : u.db.loginTickets k.ticketHash = some ticket) :=
    hdescends.tickets _ _ hticket
  rw [← hends.before] at hspec issued
  generalize hwrites : e.writes = ws at hspec
  refine ⟨cString k.refreshHash, .inl hreturned, ?_, k, ?_⟩
  · cases hspec with
    | verified ticket now target row token _ _ _ _ _ _ _ htoken =>
      exact ⟨token, by simp [hwrites], htoken.user, htoken.device, htoken.hash⟩
    | registered ticket now target row bundle token _ _ _ _ _ _ htoken =>
      exact ⟨token, by simp [hwrites], htoken.user, htoken.device, htoken.hash⟩
  · cases hspec with
    | verified ticket now target row token _ _ hticket =>
      exact ⟨ticket, now, hcall, rfl, rfl, issued hticket.stored, hticket, by simp [hwrites]⟩
    | registered ticket now target row bundle token _ _ hticket =>
      exact ⟨ticket, now, hcall, rfl, rfl, issued hticket.stored, hticket, by simp [hwrites]⟩

/-- A token that is accepted is in the table, and has not expired. -/
theorem token_of_validate {token : String} {now : Time} {user : Uuid}
    (h : validate P token now db = .ok user) : ∃ t ∈ db.refreshTokens, t.userId = user ∧
      t.tokenHash = cString (P.refreshTokenHash token) ∧ now < t.expiresAt := by
  rw [validate] at h
  cases hrecord : getRefreshTokenRecord (P.refreshTokenHash token) db with
  | none => simp [hrecord] at h
  | some record =>
    rw [hrecord] at h
    simp only at h
    split_ifs at h with hrevoked hexpired
    have hcond := List.find?_some hrecord
    obtain ⟨hhash, -⟩ := of_decide_eq_true hcond
    exact ⟨record, List.mem_of_find?_eq_some hrecord, Except.ok.inj h, hhash,
      (not_le.mp hexpired).trans_le (Int.ediv_mul_le _ (by decide))⟩

theorem Descends.of_validate {log : List StoreEvent} (h : Descends P log db) {token : String}
    {now : Time} {user : Uuid} (hok : validate P token now db = .ok user) :
    ∃ deviceId since, Lineage P user deviceId since log (cString (P.refreshTokenHash token)) ∧
      now < since + loginLife + 500000 := by
  obtain ⟨t, ht, rfl, hhash, hnow⟩ := token_of_validate hok
  obtain ⟨since, hlineage, htime⟩ := h.tokens t ht
  exact ⟨t.deviceId, since, hhash ▸ hlineage, hnow.trans_le htime.le⟩

/-- **Every accepted token descends from a login.** If the database had no tickets and no tokens at
first, then in every state that a run reaches, whoever is accepted with a refresh token is the user of
a login on a device, for which a ticket was issued to the same user at most five minutes before it was
checked and then consumed; the token is the login's own, or comes from it by rotations; and seven days,
and the half second of rounding, have not passed since. -/
theorem accepted_tokens_descend {c : StoreConfig} (h : Reachable (store P allows) db₀ c)
    (htickets : ∀ hash, db₀.loginTickets hash = none) (htokens : db₀.refreshTokens = [])
    {token : String} {now : Time} {user : Uuid} (hok : validate P token now c.db = .ok user) :
    ∃ deviceId since, Lineage P user deviceId since c.log (cString (P.refreshTokenHash token)) ∧
      now < since + loginLife + 500000 := by
  have hdescends := (descends_of_reachable (h.serial (meets_timed P allows)) htickets htokens).1
  exact hdescends.of_validate hok

namespace Sample

/-- Another refresh token. -/
def nextToken : String := "BBBBBBBBBBBBBBBBBBBBBBBBBBBBBBBBBBBBBBBBBBB"

/-- The platform, with the hash of the other token. -/
def platformWithNext : Platform :=
  { platform with
    refreshTokenHash := fun text =>
      if text = nextToken then "6476f304ff6cead626a44c0015ad648431d87dbbcfe38408c741d3973709841c"
      else platform.refreshTokenHash text }

end Sample

/-- A login with a ticket, and a rotation of its token. -/
theorem accepted_tokens_descend_after_rotation : ∃ (c : StoreConfig) (deviceId : Uuid) (since : Time),
    Reachable (store Sample.platformWithNext Sample.anyone) Sample.start c ∧
      validate Sample.platformWithNext Sample.nextToken 1000000 c.db = .ok Sample.alice ∧
      Lineage Sample.platformWithNext Sample.alice deviceId since c.log
        (cString (Sample.platformWithNext.refreshTokenHash Sample.nextToken)) ∧
      1000000 < since + loginLife + 500000 := by
  obtain ⟨c, hc, -, htest⟩ := Reachable.of_runCalls (store Sample.platformWithNext Sample.anyone)
    Sample.start
    [(.issue Sample.alice (LoginTicketService.hashTicket Sample.platformWithNext Sample.ticket), []),
      (.verifyDevice Sample.ticket Sample.phone Sample.refreshToken, [41]),
      (.rotate (Sample.platformWithNext.refreshTokenHash Sample.refreshToken)
        (Sample.platformWithNext.refreshTokenHash Sample.nextToken), [42])]
    (fun c : StoreConfig =>
      match validate Sample.platformWithNext Sample.nextToken 1000000 c.db with
      | .ok user => user == Sample.alice
      | .error _ => false)
    (fun _ _ _ => trivial) (by decide +kernel)
  have hok : validate Sample.platformWithNext Sample.nextToken 1000000 c.db = .ok Sample.alice := by
    split at htest
    · next user huser => rw [huser, beq_iff_eq.mp htest]
    · cases htest
  obtain ⟨deviceId, since, hlineage, hsince⟩ := accepted_tokens_descend hc (fun _ => rfl) rfl hok
  exact ⟨c, deviceId, since, hc, hok, hlineage, hsince⟩

end ChatBackend
