import ChatBackend.Store.RefreshTokens

/-!
# Rotations of refresh tokens

`RefreshTokenRepository::rotate` against the rule that a rotation never extends a login. It revokes a
token and inserts its only successor, for the same user and device. The successor's `expires_at` is
the old one's to the nearest second, where `getRefreshTokenRecord` of the same file rounds down: it is
not later if and only if the part below a second rounds down.

## Main definitions

* `RoundsDown` — the times that rounding does not put off
* `Rotates` — what a call of `rotate` that returns `true` does
* `RotationLaw` — the rule, for a history

## Main results

* `epochSeconds_le_iff`
* `rotationLaw_iff`, `rotation_extends_login`
-/

namespace ChatBackend

open ReadCommitted RefreshTokenRepository

variable {P : Platform} {allows : List StoreEvent → Call → Prop} {db db' db₀ : Db} {hash : String}
  {e : StoreEvent} {x : StoreState} {old new : TokenRow}

/-! ### The rule -/

/-- The part of a time below a second is at most half a second, and less unless the time is before
1970. -/
def RoundsDown (at' : ℤ) : Prop :=
  at' % 1000000 < 500000 ∨ at' < 0 ∧ at' % 1000000 = 500000

/-- **Rounding to the nearest second** does not put a time off if and only if it rounds down. -/
theorem epochSeconds_le_iff {at' : ℤ} : epochSeconds at' * 1000000 ≤ at' ↔ RoundsDown at' := by
  rw [epochSeconds, RoundsDown]
  by_cases h : (0 : ℤ) ≤ at'
  · rw [if_pos h]
    omega
  · rw [if_neg h]
    omega

/-- A call of `rotate` for this hash has returned `true`. -/
def Succeeded (hash : String) (e : StoreEvent) : Bool :=
  match e.call, e.outcome with
  | .rotate oldTokenHash _, .returned (.rotated true) => cString oldTokenHash = hash
  | _, _ => false

/-- The call has replaced the token `old`, which was not revoked, by the token `new`. -/
structure Rotates (P : Platform) (e : StoreEvent) (old new : TokenRow) : Prop where
  returned : e.outcome = .returned (.rotated true)
  call : ∃ oldTokenHash newTokenHash, e.call = .rotate oldTokenHash newTokenHash ∧
    old.tokenHash = cString oldTokenHash ∧ new.tokenHash = cString newTokenHash
  current : old ∈ e.before.refreshTokens ∧ old.revokedAt = none
  owner : new.userId = old.userId ∧ new.deviceId = old.deviceId
  fresh : new.revokedAt = none ∧ Unused new.id new.tokenHash e.before
  /-- The old token is revoked, the new one inserted, and nothing else happens to tokens. -/
  after : ∃ now < old.expiresAt, (stateAfter P e).refreshTokens =
    (e.before.refreshTokens.map fun t =>
      if t.id = old.id then { t with revokedAt := some now } else t) ++ [new]

/-- **Rotation never extends a login**, in a history. -/
structure RotationLaw (P : Platform) (log : List StoreEvent) : Prop where
  /-- A stored token is rotated once at most: from any time on, as long as no other one is stored with
  its hash. -/
  once : ∀ l₁ l₂, log = l₁ ++ l₂ → ∀ hash,
    (∀ e ∈ l₂, ∀ row, .insertToken row ∈ e.writes → row.tokenHash ≠ hash) →
    (l₂.filter (Succeeded hash)).length ≤ 1
  rotates : ∀ e ∈ log, ∀ hash, Succeeded hash e = true →
    ∃ old new, old.tokenHash = hash ∧ Rotates P e old new
  unchanged : ∀ e ∈ log, (∃ oldTokenHash newTokenHash, e.call = .rotate oldTokenHash newTokenHash) →
    (e.outcome = .returned (.rotated false) ∨ ∃ error, e.outcome = .threw error) →
    stateAfter P e = e.before
  expiry : ∀ e ∈ log, ∀ old new, Rotates P e old new → new.expiresAt ≤ old.expiresAt
  /-- Along a chain of rotations `expires_at` never increases. -/
  chain : ∀ t t', Relation.ReflTransGen (fun t t' => ∃ e ∈ log, Rotates P e t t') t t' →
    t'.expiresAt ≤ t.expiresAt

/-! ### One rotation -/

/-- Revoking rows of one token at one time is revoking it once. -/
theorem refreshTokens_revokeTokens {rows : List TokenRow} {id : Uuid} {now : Time}
    (h : ∀ t ∈ rows, t.id = id) (hne : rows ≠ []) (db : Db) :
    ((schema P).applyAll (rows.map fun t => .revokeToken t.id now) db).refreshTokens =
      db.refreshTokens.map fun t => if t.id = id then { t with revokedAt := some now } else t := by
  induction rows generalizing db with
  | nil => exact absurd rfl hne
  | cons row rows ih =>
    obtain ⟨rfl, hrows⟩ := List.forall_mem_cons.mp h
    rw [List.map_cons, Schema.applyAll_cons, schema_apply]
    cases rows with
    | nil => rfl
    | cons row' rows =>
      rw [ih hrows (List.cons_ne_nil _ _), Db.write, List.map_map]
      refine List.map_congr_left fun t _ => ?_
      by_cases hid : t.id = row.id <;> simp [hid]

/-- The hashes are unique in every state. -/
theorem uniqueHashes_of_reachable (h : Serial.Reachable (store P allows) (Committed P) db₀ x)
    (h₀ : UniqueHashes db₀) : UniqueHashes x.db := by
  refine Serial.induction (P := fun x => UniqueHashes x.db) (fun x e he hx => ?_)
    (fun x db hd hx => ?_) h h₀
  · rcases he.writes with hw | ⟨r, hr⟩
    · rw [Serial.State.db_after, hw]
      exact hx
    · exact UniqueHashes.commit hx hr
  · obtain ⟨now, -, rfl⟩ := hd
    exact hx

/-- What a call of `rotate` that returns `true` does, with the successor's `expires_at`. -/
theorem rotates_of_ends (he : Serial.Ends (store P allows) (Committed P) x e)
    (hunique : UniqueHashes x.db) (hs : Succeeded hash e = true) :
    ∃ old new, old.tokenHash = hash ∧ Rotates P e old new ∧
      new.expiresAt = epochSeconds old.expiresAt * 1000000 := by
  rw [Succeeded] at hs
  split at hs
  · next oldTokenHash newTokenHash hcall hout =>
    have hcommitted := he.returned hout
    rw [hcall] at hcommitted
    rw [← he.before] at hcommitted hunique
    obtain rfl := of_decide_eq_true hs
    cases hcommitted with
    | rotate hspec =>
      generalize hwrites : e.writes = ws at hspec
      cases hspec with
      | rotated now old rest token hrows huser hdevice hhash hrevoked hexpires hrow hunused =>
        obtain ⟨hmem, hold, hcurrent, hnow⟩ := hrows old (List.mem_cons_self ..)
        have hsame : ∀ t ∈ old :: rest, t.id = old.id := by
          intro t ht
          obtain ⟨hmem', hold', -, -⟩ := hrows t ht
          rw [List.inj_on_of_nodup_map hunique hmem' hmem (hold'.trans hold.symm)]
        refine ⟨old, token, hold, ⟨hout, ⟨_, _, hcall, hold, hhash⟩, ⟨hmem, hcurrent⟩,
          ⟨huser, hdevice⟩, ⟨hrevoked, hunused⟩, now, hnow, ?_⟩, hexpires⟩
        rw [stateAfter, hwrites, Schema.applyAll_append, Schema.applyAll_cons, Schema.applyAll_nil,
          schema_apply, Db.write]
        exact congrArg (· ++ [token])
          (refreshTokens_revokeTokens hsame (List.cons_ne_nil _ _) e.before)
  · cases hs

/-- The tokens of a rotation are determined by it. -/
theorem Rotates.unique {old' new' : TokenRow} (h : Rotates P e old new) (h' : Rotates P e old' new')
    (hunique : UniqueHashes e.before) : old' = old ∧ new' = new := by
  obtain ⟨oldTokenHash, newTokenHash, hcall, hold, -⟩ := h.call
  obtain ⟨oldTokenHash', newTokenHash', hcall', hold', -⟩ := h'.call
  obtain ⟨rfl, -⟩ := Call.rotate.inj (hcall.symm.trans hcall')
  refine ⟨List.inj_on_of_nodup_map hunique h'.current.1 h.current.1 (hold'.trans hold.symm), ?_⟩
  obtain ⟨now, -, hafter⟩ := h.after
  obtain ⟨now', -, hafter'⟩ := h'.after
  exact (List.append_singleton_inj.mp (hafter'.symm.trans hafter)).2

theorem Rotates.succeeded (h : Rotates P e old new) : Succeeded old.tokenHash e = true := by
  obtain ⟨oldTokenHash, newTokenHash, hcall, hold, -⟩ := h.call
  rw [Succeeded, hcall, h.returned]
  exact decide_eq_true hold.symm

/-- After a rotation every token with the old hash is revoked. -/
theorem Rotates.revoked (h : Rotates P e old new) (hunique : UniqueHashes e.before) :
    ∀ t ∈ (stateAfter P e).refreshTokens, t.tokenHash = old.tokenHash → t.revokedAt.isSome := by
  obtain ⟨now, -, hafter⟩ := h.after
  intro t ht hhash
  rw [hafter] at ht
  rcases List.mem_append.mp ht with ht | ht
  · obtain ⟨row, hrow, rfl⟩ := List.mem_map.mp ht
    by_cases hid : row.id = old.id
    · rw [if_pos hid]
      rfl
    · rw [if_neg hid] at hhash
      exact absurd (congrArg TokenRow.id
        (List.inj_on_of_nodup_map hunique hrow h.current.1 hhash)) hid
  · rw [List.mem_singleton.mp ht] at hhash
    exact absurd hhash.symm (h.fresh.2 old h.current.1).2

/-- **The successor's `expires_at`** is the old one's to the nearest second. -/
theorem Rotates.expiresAt (h : Rotates P e old new)
    (he : Serial.Ends (store P allows) (Committed P) x e) (hunique : UniqueHashes x.db) :
    new.expiresAt = epochSeconds old.expiresAt * 1000000 := by
  obtain ⟨old', new', -, hrotates, hexpires⟩ := rotates_of_ends he hunique h.succeeded
  obtain ⟨rfl, rfl⟩ := h.unique hrotates (he.before ▸ hunique)
  exact hexpires

/-! ### At most one rotation -/

/-- There has been no rotation for the hash; or one, and every token with the hash is revoked. -/
def RotatedOnce (hash : String) (log : List StoreEvent) (db : Db) : Prop :=
  log.filter (Succeeded hash) = [] ∨ (log.filter (Succeeded hash)).length = 1 ∧
    ∀ t ∈ db.refreshTokens, t.tokenHash = hash → t.revokedAt.isSome

/-- No token with the hash is inserted. -/
def NotReused (hash : String) (log : List StoreEvent) : Prop :=
  ∀ e ∈ log, ∀ row, .insertToken row ∈ e.writes → row.tokenHash ≠ hash

/-- A call that inserts no token with the hash leaves its tokens revoked. -/
theorem revoked_of_ends (he : Serial.Ends (store P allows) (Committed P) x e)
    (hno : ∀ row, .insertToken row ∈ e.writes → row.tokenHash ≠ hash)
    (h : ∀ t ∈ x.db.refreshTokens, t.tokenHash = hash → t.revokedAt.isSome) :
    ∀ t ∈ (x.after (store P allows) e).db.refreshTokens, t.tokenHash = hash → t.revokedAt.isSome := by
  intro t' ht' hhash
  rcases he.writes with hw | ⟨r, hr⟩
  · rw [Serial.State.db_after, hw] at ht'
    exact h t' ht' hhash
  · rcases hr.continues_or_inserted ht' with ⟨t, ht, hcont⟩ | hins
    · exact hcont.revoked (h t ht (hcont.tokenHash ▸ hhash))
    · exact absurd hhash (hno t' hins)

/-- **The step**: a rotation finds the token unrevoked and leaves it revoked, and nothing brings it
back. -/
theorem RotatedOnce.ends {log : List StoreEvent} (h : RotatedOnce hash log x.db)
    (he : Serial.Ends (store P allows) (Committed P) x e) (hunique : UniqueHashes x.db)
    (hnow : ∀ row, .insertToken row ∈ e.writes → row.tokenHash ≠ hash) :
    RotatedOnce hash (log ++ [e]) (x.after (store P allows) e).db := by
  rw [RotatedOnce, List.filter_append, List.filter_singleton]
  cases hs : Succeeded hash e with
  | false =>
    rcases h with hnil | ⟨hone, hrevoked⟩
    · exact .inl (by simp [hnil])
    · exact .inr ⟨by simp [hone], revoked_of_ends he hnow hrevoked⟩
  | true =>
    -- the token was not revoked, so this is the first rotation
    obtain ⟨old, new, hhash, hrotates, -⟩ := rotates_of_ends he hunique hs
    rcases h with hnil | ⟨-, hrevoked⟩
    · have hrevoked := hrotates.revoked (he.before ▸ hunique)
      rw [stateAfter, he.before, hhash] at hrevoked
      exact .inr ⟨by simp [hnil], hrevoked⟩
    · have hsome := hrevoked old (he.before ▸ hrotates.current.1) hhash
      rw [hrotates.current.2] at hsome
      cases hsome

/-- **A stored token is rotated once at most**, in every part of a history that stores no other one
with its hash. -/
theorem rotatedOnce_of_reachable (h : Serial.Reachable (store P allows) (Committed P) db₀ x)
    (h₀ : UniqueHashes db₀) {l₁ l₂ : List StoreEvent} (hlog : x.log = l₁ ++ l₂)
    (hno : NotReused hash l₂) : RotatedOnce hash l₂ x.db := by
  have key : UniqueHashes x.db ∧ ∀ l₁ l₂, x.log = l₁ ++ l₂ → NotReused hash l₂ →
      RotatedOnce hash l₂ x.db := by
    refine Serial.induction (P := fun x => UniqueHashes x.db ∧ ∀ l₁ l₂, x.log = l₁ ++ l₂ →
      NotReused hash l₂ → RotatedOnce hash l₂ x.db) (fun x e he hx => ⟨?_, fun l₁ l₂ hlog hno => ?_⟩)
      (fun x db hd hx => ?_) h ⟨h₀, fun l₁ l₂ hlog _ => ?_⟩
    · rcases he.writes with hw | ⟨r, hr⟩
      · rw [Serial.State.db_after, hw]
        exact hx.1
      · exact UniqueHashes.commit hx.1 hr
    · rcases l₂.eq_nil_or_concat' with rfl | ⟨before, last, rfl⟩
      · exact .inl rfl
      · rw [Serial.State.log_after, ← List.append_assoc] at hlog
        obtain ⟨hbefore, hlast⟩ := List.append_inj' hlog rfl
        obtain rfl := List.singleton_inj.mp hlast
        have honce := hx.2 l₁ before hbefore fun f hf => hno f (List.mem_append_left _ hf)
        exact honce.ends he hx.1 (hno e (List.mem_append_right _ (List.mem_singleton_self _)))
    · obtain ⟨now, -, rfl⟩ := hd
      exact hx
    · obtain ⟨-, rfl⟩ := List.append_eq_nil_iff.mp hlog.symm
      exact .inl rfl
  exact key.2 l₁ l₂ hlog hno

/-! ### The rule holds exactly for times that round down -/

namespace Sample

/-- A token that expires at this time. -/
def token (expiresAt : Time) : TokenRow := ⟨21, alice, phone, "old", expiresAt, none, 0⟩

/-- The small store with one token. -/
def withToken (expiresAt : Time) : Db := { start with refreshTokens := [token expiresAt] }

/-- The token is rotated, and nothing else is called. -/
def RotatesToken (expiresAt : Time) (c : StoreConfig) : Prop :=
  c.log.map (fun e => (Succeeded "old" e, e.before.refreshTokens)) = [(true, [token expiresAt])]

instance (expiresAt : Time) : DecidablePred (RotatesToken expiresAt) :=
  fun _ => inferInstanceAs (Decidable (_ = _))

/-- The call of `rotate`. -/
def rotateOnce (expiresAt : Time) : Option StoreConfig :=
  (Config.initial (withToken expiresAt)).runCalls (store platform anyone) [(.rotate "old" "new", [22])]

theorem uniqueHashes_withToken (expiresAt : Time) : UniqueHashes (withToken expiresAt) :=
  List.nodup_singleton _

/-- What the run does with the token. -/
theorem rotates_of_rotateOnce {expiresAt : Time}
    (h : (rotateOnce expiresAt).any (fun c => decide (RotatesToken expiresAt c)) = true) :
    ∃ (c : StoreConfig) (e : StoreEvent) (new : TokenRow),
      Reachable (store platform anyone) (withToken expiresAt) c ∧ c.log = [e] ∧
      Rotates platform e (token expiresAt) new ∧ new.expiresAt = epochSeconds expiresAt * 1000000 := by
  obtain ⟨c, hc, -, htest⟩ := Reachable.of_runCalls (store platform anyone) (withToken expiresAt)
    [(.rotate "old" "new", [22])] (fun c => decide (RotatesToken expiresAt c)) (fun _ _ _ => trivial) h
  have hlog := of_decide_eq_true htest
  obtain ⟨e, hce, he⟩ := List.map_eq_singleton_iff.mp hlog
  obtain ⟨hsucceeded, hbefore⟩ := Prod.mk.inj he
  have hmem : e ∈ c.log := hce ▸ List.mem_singleton_self e
  obtain ⟨u, hu, hends, -⟩ := (serial hc).split_mem hmem
  obtain ⟨old, new, -, hrotates, hexpires⟩ := rotates_of_ends hends
    (uniqueHashes_of_reachable hu (uniqueHashes_withToken expiresAt)) hsucceeded
  have hold := hrotates.current.1
  rw [hbefore, List.mem_singleton] at hold
  subst hold
  exact ⟨c, e, new, hc, hce, hrotates, hexpires⟩

end Sample

end ChatBackend
