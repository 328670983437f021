import ChatBackend.Store.Authorization

/-!
# RefreshTokenRepository

`src/repository/RefreshTokenRepository.cpp`, with the trigger `refresh_tokens_validate_device` that
`database/migrations/002_login_tickets.sql` puts on the table: no refresh token is inserted except
for an active device of its user, whose row the trigger locks `FOR SHARE`.

## Main definitions

* `updateTokensWhere` — the updates and deletions of tokens, with their condition
* `insertRefreshToken`, `rotate`, `revokeRefreshToken`, `deleteRefreshToken`, `deleteExpiredBefore`
* `validate` — `RefreshTokenService::validate`, on one snapshot

## Main results

* `wp_updateTokensWhere`, `wp_insertToken`, `wp_rotate`
-/

namespace ChatBackend

open ReadCommitted

variable {P : Platform} {db db' : Db}

/-! ### Changing tokens -/

/-- `UPDATE app.refresh_tokens … WHERE …` and `DELETE FROM app.refresh_tokens WHERE …`: the rows
changed, as they were before. -/
def updateTokensWhere (condition : TokenRow → Bool) (change : TokenRow → Write) :
    Tx (List TokenRow) :=
  updateWhere (fun id => [(.token id, .exclusive)])
    (fun db => (db.refreshTokens.filter condition).map (·.id))
    (fun db id => (db.tokenRow id).find? condition) change

theorem mem_tokenRow {id : Uuid} {token : TokenRow} :
    token ∈ db.tokenRow id ↔ token ∈ db.refreshTokens ∧ token.id = id := by
  simp [Db.tokenRow]

/-- The changed rows are there to the end as the change found them, and of the rows that the
snapshot found none was missed that still qualifies. -/
theorem wp_updateTokensWhere {condition : TokenRow → Bool} {change : TokenRow → Write}
    {Q : List TokenRow → Local Db Write Key → Db → Prop} {s : Local Db Write Key}
    (hs : ∀ x, ((schema P).applyAll s.writes x).refreshTokens = x.refreshTokens)
    (hchange : ∀ token, (change token).needs P = [(.token token.id, .exclusive)])
    (hQ : ∀ s' db₁ db' rows, s'.writes = s.writes ++ rows.map change → s.locks ⊆ s'.locks →
      Interference (schema P) s.locks db db' → Interference (schema P) s.locks db₁ db' →
      (∀ later, Interference (schema P) s'.locks db' later →
        (∀ token ∈ rows, token ∈ later.refreshTokens ∧ condition token) ∧
        ∀ found ∈ db₁.refreshTokens, condition found → ∀ token ∈ later.refreshTokens,
          token.id = found.id → condition token → ∃ row ∈ rows, row.id = token.id) →
      Q rows s' db') :
    wp (schema P) (updateTokensWhere condition change) Q s db := by
  have htokens : ∀ x id, ((schema P).applyAll s.writes x).tokenRow id = x.tokenRow id :=
    fun x id => by rw [Db.tokenRow, Db.tokenRow, hs]
  refine wp_updateWhere (fun id held a b hl _ hi => ?_) (fun id a row hrow => ?_)
    fun s₁ db₁ db₂ rows hw hse hm hlo hls h₁ h₂ hrows => ?_
  · rw [htokens, htokens, tokenRow_stable (hl (List.mem_singleton_self _)) hi]
  · have hid := (mem_tokenRow.mp (List.mem_of_find?_eq_some hrow)).2
    rw [schema_needs, hchange, hid]
    exact List.subset_append_left _ _
  · refine hQ s₁ db₁ db₂ rows hw hlo (h₁.trans h₂) h₂ fun later hlater => ⟨fun token htoken => ?_, ?_⟩
    · rw [hrows later hlater] at htoken
      obtain ⟨id, -, hfind⟩ := List.mem_filterMap.mp htoken
      rw [htokens] at hfind
      exact ⟨(mem_tokenRow.mp (List.mem_of_find?_eq_some hfind)).1, List.find?_some hfind⟩
    · intro found hfound hcond token htoken hid hcond'
      have hsome : ((later.tokenRow token.id).find? condition).isSome :=
        List.find?_isSome.mpr ⟨token, mem_tokenRow.mpr ⟨htoken, rfl⟩, hcond'⟩
      obtain ⟨row, hrow⟩ := Option.isSome_iff_exists.mp hsome
      refine ⟨row, ?_, (mem_tokenRow.mp (List.mem_of_find?_eq_some hrow)).2⟩
      rw [hrows later hlater]
      refine List.mem_filterMap.mpr ⟨token.id, ?_, by rw [htokens]; exact hrow⟩
      rw [hs]
      exact List.mem_map.mpr ⟨found, List.mem_filter.mpr ⟨hfound, hcond⟩, hid.symm⟩

namespace RefreshTokenRepository

/-- `revokeRefreshToken`; a single statement is its own transaction. -/
def revokeRefreshToken (tokenHash : String) : Tx Unit :=
  beginTransaction.bind fun now =>
    (updateTokensWhere (fun token => token.tokenHash = cString tokenHash ∧ token.revokedAt = none)
      fun token => .revokeToken token.id now).bind fun _ => .ret ()

/-- `deleteRefreshToken`. -/
def deleteRefreshToken (tokenHash : String) : Tx Unit :=
  (updateTokensWhere (fun token => token.tokenHash = cString tokenHash)
    fun token => .deleteToken token.id).bind fun _ => .ret ()

/-- `deleteExpiredBefore`; the cutoff is passed in whole seconds. -/
def deleteExpiredBefore (cutoffSeconds : ℤ) : Tx ℕ :=
  (updateTokensWhere (fun token => token.expiresAt < cutoffSeconds * 1000000)
    fun token => .deleteToken token.id).bind fun deleted => .ret deleted.length

/-! ### Inserting a token -/

/-- The constraint an inserted token violates. -/
def violates (row : TokenRow) (db : Db) : Option Error :=
  if row.tokenHash.toList.all fun c => c = ' ' then
    some (queryError "23514" "refresh_tokens_hash_not_blank")
  else if row.expiresAt ≤ row.createdAt then
    some (queryError "23514" "refresh_tokens_expiration_valid")
  else if db.refreshTokens.any fun token => token.id = row.id then
    some (queryError "23505" "refresh_tokens_pkey")
  else if db.refreshTokens.any fun token => token.tokenHash = row.tokenHash then
    some (queryError "23505" "refresh_tokens_token_hash_unique")
  else none

/-- The device that `app.validate_refresh_token_device` looks for. -/
def validDevice (userId deviceId : Uuid) (db : Db) : Option Unit :=
  ((db.userDevices deviceId).filter fun row => row.userId = userId ∧ row.status = .active).map
    fun _ => ()

/-- `INSERT INTO app.refresh_tokens …`: first the trigger, then the row. -/
def insertToken (userId deviceId : Uuid) (tokenHash : String) (expiresAt createdAt : Time) :
    Tx Unit :=
  (selectLocked (fun _ : Unit => [(.device deviceId, .share)])
    (fun db => (validDevice userId deviceId db).toList)
    (fun db _ => validDevice userId deviceId db)).bind fun found =>
  if found.isEmpty then .throw (queryError "23514")
  else .draw fun id =>
    let row : TokenRow := ⟨id, userId, deviceId, tokenHash, expiresAt, none, createdAt⟩
    insertRow [.token id, .tokenHash tokenHash] (violates row) (.insertToken row)

/-- `insertRefreshToken`, in a transaction begun at `now`: the token is good for seven days. -/
def insertRefreshToken (userId deviceId : Uuid) (tokenHash : String) (now : Time) : Tx Unit :=
  .read fun db =>
    insertToken userId deviceId (cString tokenHash) (db.clock + 7 * 24 * 3600 * 1000000) now

theorem validDevice_isSome {userId deviceId : Uuid} :
    (validDevice userId deviceId db).isSome ↔
      ∃ row, db.userDevices deviceId = some row ∧ row.userId = userId ∧ row.status = .active := by
  simp only [validDevice, Option.isSome_map, Option.isSome_filter, Option.any_eq_true,
    decide_eq_true_eq]

/-- No token has this identifier or this hash. -/
def Unused (id : Uuid) (hash : String) (db : Db) : Prop :=
  ∀ token ∈ db.refreshTokens, token.id ≠ id ∧ token.tokenHash ≠ hash

/-- What an insertion's constraints establish. -/
theorem of_violates_none {row : TokenRow} (h : violates row db = none) :
    row.createdAt < row.expiresAt ∧ Unused row.id row.tokenHash db := by
  unfold violates at h
  split_ifs at h with hblank hexp hid hhash
  refine ⟨not_le.mp hexp, fun token ht => ⟨fun he => hid ?_, fun he => hhash ?_⟩⟩
  · exact List.any_eq_true.mpr ⟨token, ht, decide_eq_true he⟩
  · exact List.any_eq_true.mpr ⟨token, ht, decide_eq_true he⟩

theorem unused_stable {locks : List (Key × Mode)} {id : Uuid} {hash : String}
    (hid : (Key.token id, Mode.exclusive) ∈ locks)
    (hhash : (Key.tokenHash hash, Mode.exclusive) ∈ locks)
    (hi : Interference (schema P) locks db db') (h : Unused id hash db) : Unused id hash db' := by
  have hrow : db'.tokenRow id = [] := by
    rw [tokenRow_stable hid hi]
    exact List.filter_eq_nil_iff.mpr fun token ht he => (h token ht).1 (of_decide_eq_true he)
  intro token ht
  refine ⟨fun he => ?_, tokenHash_stable hhash hi (fun t ht => (h t ht).2) token ht⟩
  exact List.filter_eq_nil_iff.mp hrow token ht (decide_eq_true he)

/-- The transaction's own writes, if they change no token's identifier or hash, do not decide
whether these are used. -/
theorem unused_view {ws : List Write} {id : Uuid} {hash : String}
    (hs : ∀ x, ((schema P).applyAll ws x).refreshTokens.map (fun t => (t.id, t.tokenHash)) =
      x.refreshTokens.map fun t => (t.id, t.tokenHash))
    (h : Unused id hash ((schema P).applyAll ws db)) : Unused id hash db := by
  intro token ht
  have hmem : (token.id, token.tokenHash) ∈
      ((schema P).applyAll ws db).refreshTokens.map fun t => (t.id, t.tokenHash) := by
    rw [hs]
    exact List.mem_map.mpr ⟨token, ht, rfl⟩
  obtain ⟨token', ht', he⟩ := List.mem_map.mp hmem
  obtain ⟨hid, hhash⟩ := Prod.mk.inj he
  exact ⟨hid ▸ (h token' ht').1, hhash ▸ (h token' ht').2⟩

/-- **A token is inserted for an active device of its user only**, with an unused hash. The
transaction may have written before: it may have revoked tokens, and the device may be its own. -/
theorem wp_insertToken {user deviceId : Uuid} {hash : String} {expiresAt createdAt : Time}
    {Q : Unit → Local Db Write Key → Db → Prop} {s : Local Db Write Key}
    (hs : ∀ x, ((schema P).applyAll s.writes x).refreshTokens.map (fun t => (t.id, t.tokenHash)) =
      x.refreshTokens.map fun t => (t.id, t.tokenHash))
    (hdev : ∀ a b : Db, a.userDevices deviceId = b.userDevices deviceId →
      ((schema P).applyAll s.writes a).userDevices deviceId =
        ((schema P).applyAll s.writes b).userDevices deviceId)
    (hQ : ∀ s' db' token, s'.writes = s.writes ++ [.insertToken token] → s.locks ⊆ s'.locks →
      Interference (schema P) s.locks db db' →
      token.userId = user ∧ token.deviceId = deviceId ∧ token.tokenHash = hash ∧
        token.revokedAt = none ∧ token.expiresAt = expiresAt →
      (∀ later, Interference (schema P) s'.locks db' later →
        (∃ row, ((schema P).applyAll s.writes later).userDevices deviceId = some row ∧
          row.userId = user ∧ row.status = .active) ∧ Unused token.id hash later) →
      Q () s' db') :
    wp (schema P) (insertToken user deviceId hash expiresAt createdAt) Q s db := by
  have hstable : ∀ held a b, [(Key.device deviceId, Mode.share)] ⊆ held →
      Interference (schema P) held a b →
      validDevice user deviceId ((schema P).applyAll s.writes b) =
        validDevice user deviceId ((schema P).applyAll s.writes a) := fun held a b hl hi => by
    rw [validDevice, validDevice,
      hdev b a (userDevices_stable (hl (List.mem_singleton_self _)) hi)]
  refine wp_bind (wp_selectOne hstable fun s₁ db₁ rows hw₁ hlo₁ h₁ hrows => ?_)
  cases rows with
  | nil => trivial
  | cons r rest =>
    obtain ⟨hl, hvalid⟩ := hrows (by simp)
    refine wp_draw fun id => wp_insertRow ?_ fun s₂ db₂ db₃ hw₂ _ hlo₂ hkeys h₂ h₃ hv => ?_
    · simp only [schema_needs, Write.needs, List.map_cons, List.map_nil]
      refine List.cons_subset.mpr ⟨List.mem_append_right _ (hl (List.mem_singleton_self _)), ?_⟩
      exact List.subset_append_left _ _
    · rw [hw₁] at hv
      have hunused : Unused id hash db₂ := unused_view hs (of_violates_none hv).2
      refine hQ s₂ db₃ _ (by rw [hw₂, hw₁]) (List.Subset.trans hlo₁ hlo₂)
        (h₁.trans ((h₂.trans (h₃.mono hlo₂)).mono hlo₁)) ⟨rfl, rfl, rfl, rfl, rfl⟩
        fun later hlater => ?_
      have h₂later : Interference (schema P) s₂.locks db₂ later := h₃.trans hlater
      refine ⟨?_, unused_stable (hkeys _ (List.mem_cons_self ..))
        (hkeys _ (List.mem_cons_of_mem _ (List.mem_singleton_self _))) h₂later hunused⟩
      rw [← validDevice_isSome, hstable s₁.locks db₁ later hl (h₂.trans (h₂later.mono hlo₂))]
      exact hvalid

/-! ### Rotation -/

/-- `EXTRACT(EPOCH FROM …)::bigint`: the nearest whole second, halves away from zero. -/
def epochSeconds (at' : Time) : ℤ :=
  if 0 ≤ at' then (at' + 500000) / 1000000 else -((-at' + 500000) / 1000000)

/-- `rotate`: the new token expires when the old one did, to the second. -/
def rotate (oldTokenHash newTokenHash : String) : Tx Bool :=
  beginTransaction.bind fun now =>
    (updateTokensWhere (fun token => token.tokenHash = cString oldTokenHash ∧
      token.revokedAt = none ∧ now < token.expiresAt) fun token => .revokeToken token.id now).bind
    fun rows => match rows with
      | [] => .ret false
      | old :: _ =>
        (insertToken old.userId old.deviceId (cString newTokenHash)
          (epochSeconds old.expiresAt * 1000000) now).bind fun _ => .ret true

/-- What a rotation commits. -/
inductive RotateSpec (oldTokenHash newTokenHash : String) : Bool → List Write → Db → Prop where
  | rotated {db : Db} (now : Time) (old : TokenRow) (rest : List TokenRow) (token : TokenRow) :
      (∀ t ∈ old :: rest, t ∈ db.refreshTokens ∧ t.tokenHash = cString oldTokenHash ∧
        t.revokedAt = none ∧ now < t.expiresAt) →
      token.userId = old.userId → token.deviceId = old.deviceId →
      token.tokenHash = cString newTokenHash → token.revokedAt = none →
      token.expiresAt = epochSeconds old.expiresAt * 1000000 →
      (∃ row, db.userDevices old.deviceId = some row ∧ row.userId = old.userId ∧
        row.status = .active) →
      Unused token.id token.tokenHash db →
      RotateSpec oldTokenHash newTokenHash true
        ((old :: rest).map (fun t => .revokeToken t.id now) ++ [.insertToken token]) db
  | refused {db : Db} : RotateSpec oldTokenHash newTokenHash false [] db

theorem keys_revokeToken (db : Db) (id : Uuid) (at' : Time) :
    (db.write (.revokeToken id at')).refreshTokens.map (fun t => (t.id, t.tokenHash)) =
      db.refreshTokens.map fun t => (t.id, t.tokenHash) := by
  rw [Db.write, List.map_map]
  refine List.map_congr_left fun t _ => ?_
  by_cases h : t.id = id <;> simp [h]

theorem keys_revokeTokens (rows : List TokenRow) (change : TokenRow → Time) (db : Db) :
    ((schema P).applyAll (rows.map fun t => .revokeToken t.id (change t)) db).refreshTokens.map
      (fun t => (t.id, t.tokenHash)) = db.refreshTokens.map fun t => (t.id, t.tokenHash) := by
  induction rows generalizing db with
  | nil => rfl
  | cons row rows ih =>
    rw [List.map_cons, Schema.applyAll_cons, ih]
    exact keys_revokeToken ..

theorem userDevices_revokeTokens (rows : List TokenRow) (change : TokenRow → Time) (db : Db) :
    ((schema P).applyAll (rows.map fun t => .revokeToken t.id (change t)) db).userDevices =
      db.userDevices := by
  induction rows generalizing db with
  | nil => rfl
  | cons row rows ih =>
    rw [List.map_cons, Schema.applyAll_cons, ih]
    rfl

/-- **`rotate` meets its specification.** -/
theorem wp_rotate {oldTokenHash newTokenHash : String} (db : Db) :
    wp (schema P) (rotate oldTokenHash newTokenHash)
      (fun r s db => RotateSpec oldTokenHash newTokenHash r s.writes db) {} db := by
  refine wp_bind (wp_read fun db₀ h₀ => wp_ret fun db₁ h₁ => wp_bind (wp_updateTokensWhere
    (fun x => rfl) (fun token => rfl) fun s₂ db₂ db₃ rows hw₂ hlo₂ h₂ h₂₃ hrows => ?_))
  cases rows with
  | nil => exact wp_ret fun db₄ h₄ => hw₂ ▸ .refused
  | cons old rest =>
    have hw₂ : s₂.writes =
      (old :: rest).map fun t => .revokeToken t.id ((schema P).view {} db₀).clock := hw₂
    refine wp_bind (wp_insertToken (fun x => ?_) (fun a b hab => ?_)
      fun s₃ db₄ token hw₃ hlo₃ h₄ htoken hlater => wp_ret fun db₅ h₅ => ?_)
    · rw [hw₂, keys_revokeTokens _ (fun _ => _)]
    · rw [hw₂, userDevices_revokeTokens _ (fun _ => _), userDevices_revokeTokens _ (fun _ => _), hab]
    · obtain ⟨hdevice, hunused⟩ := hlater db₅ h₅
      rw [hw₂, userDevices_revokeTokens _ (fun _ => _)] at hdevice
      obtain ⟨huser, hdev, hhash, hrev, hexp⟩ := htoken
      rw [hw₃, hw₂]
      refine .rotated _ old rest token (fun t ht => ?_) huser hdev hhash hrev hexp hdevice
        (hhash ▸ hunused)
      obtain ⟨hmem, hcond⟩ := (hrows db₅ (h₄.trans (h₅.mono hlo₃))).1 t ht
      exact ⟨hmem, of_decide_eq_true hcond⟩

/-! ### Single statements -/

/-- Revoking or deleting by a single statement commits just that. -/
theorem wp_single {α : Type} {condition : TokenRow → Bool} {change : TokenRow → Write}
    {answer : List TokenRow → α} {s : Local Db Write Key} (hs : s.writes = [])
    (hchange : ∀ token, (change token).needs P = [(.token token.id, .exclusive)]) :
    wp (schema P) ((updateTokensWhere condition change).bind fun rows => .ret (answer rows) : Tx α)
      (fun _ s db => ∃ rows : List TokenRow, s.writes = rows.map change ∧
        ∀ token ∈ rows, token ∈ db.refreshTokens ∧ condition token) s db := by
  refine wp_bind (wp_updateTokensWhere (fun x => by rw [hs]; rfl) hchange
    fun s₁ db₁ db₂ rows hw hlo h₁ h₁₂ hrows => wp_ret fun db₃ h₃ => ?_)
  exact ⟨rows, by rw [hw, hs, List.nil_append], (hrows db₃ h₃).1⟩

/-- What a revocation by hash commits. -/
def RevokeSpec (tokenHash : String) (ws : List Write) (db : Db) : Prop :=
  ∃ (now : Time) (rows : List TokenRow), ws = rows.map (fun t => .revokeToken t.id now) ∧
    ∀ token ∈ rows, token ∈ db.refreshTokens ∧ token.tokenHash = cString tokenHash ∧
      token.revokedAt = none

/-- What a deletion commits. -/
def DeleteSpec (condition : TokenRow → Prop) (ws : List Write) (db : Db) : Prop :=
  ∃ rows : List TokenRow, ws = rows.map (fun t => .deleteToken t.id) ∧
    ∀ token ∈ rows, token ∈ db.refreshTokens ∧ condition token

theorem wp_revokeRefreshToken {tokenHash : String} (db : Db) :
    wp (schema P) (revokeRefreshToken tokenHash)
      (fun _ s db => RevokeSpec tokenHash s.writes db) {} db := by
  refine wp_bind (wp_read fun db₀ h₀ => wp_ret fun db₁ h₁ => wp_mono ?_
    (wp_single rfl fun token => rfl))
  rintro _ s db ⟨rows, hw, hrows⟩
  refine ⟨_, rows, hw, fun token ht => ⟨(hrows token ht).1, ?_⟩⟩
  exact of_decide_eq_true (hrows token ht).2

theorem wp_deleteRefreshToken {tokenHash : String} (db : Db) :
    wp (schema P) (deleteRefreshToken tokenHash)
      (fun _ s db => DeleteSpec (fun t => t.tokenHash = cString tokenHash) s.writes db) {} db := by
  refine wp_mono ?_ (wp_single rfl fun token => rfl)
  rintro _ s db ⟨rows, hw, hrows⟩
  exact ⟨rows, hw, fun token ht => ⟨(hrows token ht).1, of_decide_eq_true (hrows token ht).2⟩⟩

theorem wp_deleteExpiredBefore {cutoff : ℤ} (db : Db) :
    wp (schema P) (deleteExpiredBefore cutoff)
      (fun _ s db => DeleteSpec (fun t => t.expiresAt < cutoff * 1000000) s.writes db) {} db := by
  refine wp_mono ?_ (wp_single rfl fun token => rfl)
  rintro _ s db ⟨rows, hw, hrows⟩
  exact ⟨rows, hw, fun token ht => ⟨(hrows token ht).1, of_decide_eq_true (hrows token ht).2⟩⟩

/-! ### Validation -/

/-- The row `getRefreshTokenRecord` reads: a token whose device is active and of the same user, and
whose account is active. -/
def getRefreshTokenRecord (tokenHash : String) (db : Db) : Option TokenRow :=
  db.refreshTokens.find? fun token => token.tokenHash = cString tokenHash ∧
    db.activeOwner token.deviceId = some token.userId

/-- `RefreshTokenStatus`. -/
inductive RefreshTokenStatus where
  | invalid
  | expired
  deriving DecidableEq

/-- `RefreshTokenService::validate`, which reads one snapshot; `now` is the clock of the server
process. The timestamps it compares are whole seconds. Before it reports an expired token it calls
`revokeRefreshToken` on it, in a transaction of its own. -/
def validate (P : Platform) (token : String) (now : Time) (db : Db) :
    Except RefreshTokenStatus Uuid :=
  match getRefreshTokenRecord (P.refreshTokenHash token) db with
  | none => .error .invalid
  | some record =>
    if record.revokedAt.isSome then .error .expired
    else if record.expiresAt / 1000000 * 1000000 ≤ now then .error .expired
    else .ok record.userId

end RefreshTokenRepository

end ChatBackend
