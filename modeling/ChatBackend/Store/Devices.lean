import ChatBackend.Store.Provenance
import ChatBackend.Store.Revocation

/-!
# Where devices come from

A device that is there was there at first, or it was enrolled: by a login of its user, or by
`registerNewDevice`. One that is revoked was revoked at first, or its own user has revoked it.

## Main definitions

* `Enrolled`, `RevokedByUser` — what has been done for a device
* `KnownDevices` — of every device

## Main results

* `knownDevices_of_reachable`
-/

namespace ChatBackend

open ReadCommitted

variable {P : Platform} {allows : List StoreEvent → Call → Prop} {db db₀ : Db} {x : StoreState}
  {e : StoreEvent} {user d : Uuid} {log : List StoreEvent}

/-! ### What writes a device -/

/-- A row after some writes was there before, or is inserted; its user stays, and its status too,
unless it is revoked. -/
theorem userDevices_applyAll {ws : List Write} {row : DeviceRow}
    (h : ((schema P).applyAll ws db).userDevices d = some row) :
    ∃ old : DeviceRow, (db.userDevices d = some old ∨ .insertDevice d old ∈ ws) ∧
      old.userId = row.userId ∧ (row.status = old.status ∨ ∃ at', .revokeDevice d at' ∈ ws) := by
  refine (schema P).applyAll_induct (P := fun x => ∀ row, x.userDevices d = some row →
    ∃ old : DeviceRow, (db.userDevices d = some old ∨ .insertDevice d old ∈ ws) ∧
      old.userId = row.userId ∧ (row.status = old.status ∨ ∃ at', .revokeDevice d at' ∈ ws))
    (fun w hw x hx row hrow => ?_) (fun row hrow => ⟨row, .inl hrow, rfl, .inl rfl⟩) row h
  cases w with
  | insertDevice other new =>
    by_cases hother : d = other
    · subst hother
      cases hold : x.userDevices d with
      | some old =>
        obtain rfl : old = row := by simpa [Db.write, hold] using hrow
        exact hx old hold
      | none =>
        obtain rfl : new = row := by simpa [Db.write, hold] using hrow
        exact ⟨new, .inr hw, rfl, .inl rfl⟩
    · exact hx row (by simpa [Db.write, Function.update_of_ne hother] using hrow)
  | revokeDevice other at' =>
    by_cases hother : d = other
    · subst hother
      obtain ⟨mid, hmid, rfl⟩ : ∃ mid : DeviceRow, x.userDevices d = some mid ∧
          { mid with status := .revoked, revokedAt := some at' } = row := by
        simpa [Db.write] using hrow
      obtain ⟨old, hold, huser, -⟩ := hx mid hmid
      exact ⟨old, hold, huser, .inr ⟨at', hw⟩⟩
    · exact hx row (by simpa [Db.write, Function.update_of_ne hother] using hrow)
  | _ => exact hx row hrow

/-- **A device is inserted** for the user of a ticket that is consumed, with the token of this login; or
by `registerNewDevice`. -/
theorem Committed.enrolls {call : Call} {r : Reply} {seen : List Db} {ws : List Write}
    {row : DeviceRow} (h : Committed P call r seen ws db) (hw : .insertDevice d row ∈ ws) :
    (∃ input, call = .registerNewDevice row.userId input) ∨
      ∃ k ticket now token, call.completion P = some k ∧
        r = .login ⟨.success, some ⟨row.userId, d⟩⟩ ∧
        LoginTicketRepository.Consumes k.ticketHash ticket now seen db ∧ ticket.userId = row.userId ∧
        .consumeTicket k.ticketHash now ∈ ws ∧ .insertToken token ∈ ws ∧
        LoginTicketRepository.LoginToken row.userId d k.refreshHash token db := by
  have htable : Table.userDevices ∈ call.tables := h.tables _ hw
  have complete : ∀ {k : Completion} {r : LoginTicketResult}, call.completion P = some k →
      LoginTicketRepository.CompleteSpec k.ticketHash k.refreshHash k.deviceId k.registration r seen
        ws db →
      ∃ k ticket now token, call.completion P = some k ∧
        Reply.login r = .login ⟨.success, some ⟨row.userId, d⟩⟩ ∧
        LoginTicketRepository.Consumes k.ticketHash ticket now seen db ∧ ticket.userId = row.userId ∧
        .consumeTicket k.ticketHash now ∈ ws ∧ .insertToken token ∈ ws ∧
        LoginTicketRepository.LoginToken row.userId d k.refreshHash token db := by
    intro k r hk h
    cases h with
    | refused => cases hw
    | verified => simp at hw
    | registered ticket now target new bundle token _ _ hticket _ _ hregistration htoken =>
      obtain ⟨rfl, rfl⟩ : d = target ∧ row = new := by simpa using hw
      rw [← hregistration.user] at htoken ⊢
      exact ⟨k, ticket, now, token, hk, rfl, hticket, hregistration.user.symm, by simp, by simp, htoken⟩
  cases h with
  | registerNewDevice _ hregistration =>
    obtain ⟨rfl, rfl⟩ : d = _ ∧ row = _ := by simpa using hw
    exact .inl ⟨_, by rw [hregistration.user]⟩
  | complete h => exact .inr (complete rfl h)
  | verifyDevice h => exact .inr (complete rfl h)
  | registerDevice h => exact .inr (complete rfl h)
  | revokeUserDevice h => cases h <;> simp at hw
  | _ => simp [Call.tables] at htable

/-- **A device is revoked** by its user. -/
theorem Committed.revokedBy {call : Call} {r : Reply} {seen : List Db} {ws : List Write} {at' : Time}
    (h : Committed P call r seen ws db) (hw : .revokeDevice d at' ∈ ws) :
    ∃ row, db.userDevices d = some row ∧ call = .revokeUserDevice row.userId d ∧
      r = .revocation .success := by
  have htable : Table.userDevices ∈ call.tables := h.tables _ hw
  cases h with
  | revokeUserDevice h =>
    cases h with
    | refused => cases hw
    | success device now tokens hdevice huser _ =>
      obtain ⟨rfl, -⟩ : d = _ ∧ at' = now := by simpa using hw
      exact ⟨device, hdevice, by rw [huser], rfl⟩
  | registerNewDevice => simp at hw
  | complete h => cases h <;> simp at hw
  | verifyDevice h => cases h <;> simp at hw
  | registerDevice h => cases h <;> simp at hw
  | _ => simp [Call.tables] at htable

/-! ### Runs -/

/-- The device was enrolled for the user: by a login that inserted it, or by `registerNewDevice`. -/
def Enrolled (P : Platform) (user d : Uuid) (log : List StoreEvent) : Prop :=
  (∃ e ∈ log, ∃ input, e.call = .registerNewDevice user input) ∨
    ∃ before e after tokenHash row, log = before ++ e :: after ∧ Login P user d tokenHash before e ∧
      .insertDevice d row ∈ e.writes ∧ row.userId = user

/-- The user has revoked the device. -/
def RevokedByUser (user d : Uuid) (log : List StoreEvent) : Prop :=
  ∃ e ∈ log, e.call = .revokeUserDevice user d ∧ Landed e (.revocation .success) ∧
    ∃ at', .revokeDevice d at' ∈ e.writes

theorem Enrolled.later (h : Enrolled P user d log) (e : StoreEvent) :
    Enrolled P user d (log ++ [e]) := by
  rcases h with ⟨f, hf, hcall⟩ | ⟨before, f, after, tokenHash, row, rfl, h⟩
  · exact .inl ⟨f, List.mem_append_left _ hf, hcall⟩
  · exact .inr ⟨before, f, after ++ [e], tokenHash, row, by simp, h⟩

theorem RevokedByUser.later (h : RevokedByUser user d log) (e : StoreEvent) :
    RevokedByUser user d (log ++ [e]) := by
  obtain ⟨f, hf, hrevoked⟩ := h
  exact ⟨f, List.mem_append_left _ hf, hrevoked⟩

/-- **Every device** was enrolled, and revoked by its own user, unless it was so at first. -/
structure KnownDevices (P : Platform) (db₀ : Db) (log : List StoreEvent) (db : Db) : Prop where
  enrolled : ∀ d row, db.userDevices d = some row →
    (∃ row₀, db₀.userDevices d = some row₀ ∧ row₀.userId = row.userId) ∨
      Enrolled P row.userId d log
  revoked : ∀ d row, db.userDevices d = some row → row.status = .revoked →
    db₀.isRevoked d ∨ RevokedByUser row.userId d log

/-- **The devices of the step.** -/
theorem KnownDevices.commit (hx : KnownDevices P db₀ x.log x.db) (hdescends : Descends P x.log x.db)
    (he : Serial.Ends (store P allows) (Committed P) x e) :
    KnownDevices P db₀ (x.log ++ [e]) ((schema P).applyAll e.writes x.db) := by
  have hlast : e ∈ x.log ++ [e] := List.mem_append_right _ (List.mem_singleton_self e)
  refine ⟨fun d row hrow => ?_, fun d row hrow hstatus => ?_⟩
  · obtain ⟨old, hold | hinserted, huser, -⟩ := userDevices_applyAll hrow
    · rw [← huser]
      exact (hx.enrolled d old hold).imp_right fun h => h.later e
    · obtain ⟨r, hlanded, hcommitted⟩ := landed_of_write he hinserted
      rw [← huser]
      obtain ⟨input, hcall⟩ | ⟨k, ticket, now, token, hcall, rfl, hticket, howner, hconsumed,
        hinsertedToken, htoken⟩ := hcommitted.enrolls hinserted
      · exact .inr (.inl ⟨e, hlast, input, hcall⟩)
      · refine .inr (.inr ⟨x.log, e, [], cString k.refreshHash, old, rfl, ⟨hlanded,
          ⟨token, hinsertedToken, htoken.user, htoken.device, htoken.hash⟩, k, ticket, now, hcall, rfl,
          howner, howner ▸ hdescends.tickets _ _ hticket.stored, he.before ▸ hticket, hconsumed⟩,
          hinserted, rfl⟩)
  · obtain ⟨old, hold, huser, hsame | ⟨at', hrevoked⟩⟩ := userDevices_applyAll hrow
    · rcases hold with hold | hinserted
      · rw [← huser]
        exact (hx.revoked d old hold (hsame ▸ hstatus)).imp_right fun h => h.later e
      · obtain ⟨r, -, hcommitted⟩ := landed_of_write he hinserted
        rw [hsame, hcommitted.insertDevice hinserted] at hstatus
        cases hstatus
    · obtain ⟨r, hlanded, hcommitted⟩ := landed_of_write he hrevoked
      obtain ⟨device, hdevice, hcall, rfl⟩ := hcommitted.revokedBy hrevoked
      -- a revocation inserts nothing
      have hdevice' : x.db.userDevices d = some old := by
        refine hold.resolve_right fun hinserted => ?_
        obtain ⟨input, hregister⟩ | ⟨k, -, -, -, hcompletion, -⟩ := hcommitted.enrolls hinserted
        · rw [hcall] at hregister
          cases hregister
        · rw [hcall] at hcompletion
          cases hcompletion
      obtain rfl : device = old := Option.some.inj (hdevice.symm.trans hdevice')
      exact .inr ⟨e, hlast, huser ▸ hcall, hlanded, at', hrevoked⟩

/-- **The run.** -/
theorem knownDevices_of_reachable (h : Serial.Reachable (store P allows) (Timed P) db₀ x)
    (htickets : ∀ hash, db₀.loginTickets hash = none) (htokens : db₀.refreshTokens = []) :
    KnownDevices P db₀ x.log x.db := by
  refine (Serial.induction (P := fun x => Serial.Reachable (store P allows) (Timed P) db₀ x ∧
    KnownDevices P db₀ x.log x.db) (fun x e he hx => ?_) (fun x db hd hx => ?_) h ⟨.refl, ?_⟩).2
  · exact ⟨hx.1.tail (.ends he),
      hx.2.commit (descends_of_reachable hx.1 htickets htokens).1 (ends_committed he)⟩
  · refine ⟨hx.1.tail (.drift hd), ?_⟩
    obtain ⟨now, -, rfl⟩ := hd
    exact ⟨hx.2.enrolled, hx.2.revoked⟩
  · exact ⟨fun d row hrow => .inl ⟨row, hrow, rfl⟩, fun d row hrow hstatus => .inl ⟨row, hrow, hstatus⟩⟩

end ChatBackend
