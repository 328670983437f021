import ChatBackend.Store.Revocation

/-!
# Refresh tokens of revoked devices

A refresh token dies with its device: in every committed state, every token of a revoked device is
marked as revoked itself. The revocation marks the tokens that are there; the trigger on the table
keeps new ones out; and no other statement takes a mark back.

## Main results

* `tokens_die_with_device`
-/

namespace ChatBackend

open ReadCommitted RefreshTokenRepository

variable {P : Platform} {allows : List StoreEvent → Call → Prop} {db db' db₀ : Db} {d : Uuid}

/-- Every token of a revoked device is revoked. -/
def TokensRevoked (db : Db) : Prop :=
  ∀ token ∈ db.refreshTokens, db.isRevoked token.deviceId → token.revokedAt.isSome

/-- The constraint `refresh_tokens_token_hash_unique`. -/
def UniqueHashes (db : Db) : Prop := (db.refreshTokens.map TokenRow.tokenHash).Nodup

/-! ### What writes do to tokens -/

/-- The token `t'` is `t`, but for a `revoked_at` that was not there before. -/
structure TokenRow.Continues (t t' : TokenRow) : Prop where
  same : t' = { t with revokedAt := t'.revokedAt }
  revoked : t.revokedAt.isSome → t'.revokedAt.isSome

theorem TokenRow.Continues.refl (t : TokenRow) : t.Continues t := ⟨rfl, fun h => h⟩

theorem TokenRow.Continues.trans {t t' t'' : TokenRow} (h : t.Continues t')
    (h' : t'.Continues t'') : t.Continues t'' := by
  refine ⟨?_, fun ht => h'.revoked (h.revoked ht)⟩
  rw [h'.same, h.same]

theorem TokenRow.Continues.deviceId {t t' : TokenRow} (h : t.Continues t') :
    t'.deviceId = t.deviceId := by rw [h.same]

theorem TokenRow.Continues.tokenHash {t t' : TokenRow} (h : t.Continues t') :
    t'.tokenHash = t.tokenHash := by rw [h.same]

/-- Every write but an insertion only continues tokens. -/
theorem continues_of_write {w : Write} (h : ∀ row, w ≠ .insertToken row) {t' : TokenRow}
    (ht : t' ∈ (db.write w).refreshTokens) : ∃ t ∈ db.refreshTokens, t.Continues t' := by
  cases w with
  | insertToken row => exact absurd rfl (h row)
  | revokeToken id at' =>
    obtain ⟨t, htm, rfl⟩ := List.mem_map.mp ht
    refine ⟨t, htm, ⟨by split_ifs <;> rfl, fun hsome => ?_⟩⟩
    split_ifs
    · rfl
    · exact hsome
  | deleteToken id => exact ⟨t', (List.mem_filter.mp ht).1, .refl t'⟩
  | _ => exact ⟨t', ht, .refl t'⟩

/-- So do transactions that insert none. -/
theorem continues_of_applyAll {ws : List Write} (h : ∀ row, .insertToken row ∉ ws) {t' : TokenRow}
    (ht : t' ∈ ((schema P).applyAll ws db).refreshTokens) :
    ∃ t ∈ db.refreshTokens, t.Continues t' := by
  induction ws generalizing db with
  | nil => exact ⟨t', ht, .refl t'⟩
  | cons w ws ih =>
    obtain ⟨hw, hws⟩ : (∀ row, w ≠ .insertToken row) ∧ ∀ row, .insertToken row ∉ ws :=
      ⟨fun row he => h row (he ▸ List.mem_cons_self ..),
        fun row hrow => h row (List.mem_cons_of_mem _ hrow)⟩
    obtain ⟨t₁, ht₁, hc₁⟩ := ih hws ht
    obtain ⟨t, ht, hc⟩ := continues_of_write hw ht₁
    exact ⟨t, ht, hc.trans hc₁⟩

/-- Revoking each of some tokens marks all of them. -/
theorem isSome_of_revokeTokens {rows : List TokenRow} {at' : TokenRow → Time} {t' : TokenRow}
    (ht : t' ∈ ((schema P).applyAll (rows.map fun t => .revokeToken t.id (at' t)) db).refreshTokens)
    (hid : ∃ t ∈ rows, t.id = t'.id) : t'.revokedAt.isSome := by
  induction rows generalizing db with
  | nil =>
    obtain ⟨t, ht, -⟩ := hid
    cases ht
  | cons row rows ih =>
    rw [List.map_cons, Schema.applyAll_cons] at ht
    by_cases hrest : ∃ t ∈ rows, t.id = t'.id
    · exact ih ht hrest
    · -- `row` itself is the token, and it was marked first
      have hrow : row.id = t'.id := by
        obtain ⟨t, hmem, he⟩ := hid
        rcases List.mem_cons.mp hmem with rfl | hmem
        · exact he
        · exact absurd ⟨t, hmem, he⟩ hrest
      have hno : ∀ r, .insertToken r ∉ rows.map fun t => Write.revokeToken t.id (at' t) := by simp
      obtain ⟨t, ht, hc⟩ := continues_of_applyAll hno ht
      obtain ⟨t₀, -, rfl⟩ := List.mem_map.mp ht
      refine hc.revoked ?_
      have hid₀ : t₀.id = row.id := by
        rw [hrow, hc.same]
        split_ifs <;> rfl
      rw [if_pos hid₀]
      rfl

/-- Without an insertion, hashes only disappear. -/
theorem hashes_applyAll {ws : List Write} (h : ∀ row, .insertToken row ∉ ws) (db : Db) :
    (((schema P).applyAll ws db).refreshTokens.map TokenRow.tokenHash).Sublist
      (db.refreshTokens.map TokenRow.tokenHash) := by
  refine (schema P).applyAll_induct (P := fun x => (x.refreshTokens.map TokenRow.tokenHash).Sublist
    (db.refreshTokens.map TokenRow.tokenHash)) (fun w hw x hx => ?_) (List.Sublist.refl _)
  refine List.Sublist.trans ?_ hx
  cases w with
  | insertToken row => exact absurd hw (h row)
  | revokeToken id at' =>
    rw [schema_apply, Db.write, List.map_map]
    refine (List.map_congr_left fun t _ => ?_) ▸ List.Sublist.refl _
    by_cases hid : t.id = id <;> simp [hid]
  | deleteToken id => exact List.filter_sublist.map _
  | _ => exact List.Sublist.refl _

/-! ### What commits do to tokens -/

/-- The writes insert no token; or they insert one at the end, unused until then. -/
def TokenWrites (ws : List Write) (db : Db) : Prop :=
  (∀ row, .insertToken row ∉ ws) ∨ ∃ ws₀ token, ws = ws₀ ++ [.insertToken token] ∧
    (∀ row, .insertToken row ∉ ws₀) ∧ Unused token.id token.tokenHash db

theorem tokenWrites_of_complete {hash refreshHash : String} {deviceId : Option Uuid}
    {registration : Option DeviceRegistrationInput} {r : LoginTicketResult} {seen : List Db}
    {ws : List Write}
    (h : LoginTicketRepository.CompleteSpec hash refreshHash deviceId registration r seen ws db) :
    TokenWrites ws db := by
  cases h with
  | verified ticket now target row token _ _ _ _ _ _ _ htoken =>
    exact Or.inr ⟨[.consumeTicket hash now], token, rfl, by simp, htoken.unused⟩
  | registered ticket now target row bundle token _ _ _ _ _ _ htoken =>
    exact Or.inr ⟨[.consumeTicket hash now, .insertDevice target row, .insertBundle bundle], token,
      rfl, by simp, htoken.unused⟩
  | refused => exact Or.inl (by simp)

/-- **How a transaction inserts a token.** -/
theorem Committed.tokenWrites {call : Call} {r : Reply} {seen : List Db} {ws : List Write}
    (h : Committed P call r seen ws db) : TokenWrites ws db := by
  have htables := h.tables
  cases h with
  | revokeUserDevice h => cases h <;> exact Or.inl (by simp)
  | rotate h =>
    cases h with
    | rotated now old rest token _ _ _ _ _ _ _ hunused =>
      exact Or.inr ⟨_, token, rfl, by simp, hunused⟩
    | refused => exact Or.inl (by simp)
  | complete h => exact tokenWrites_of_complete h
  | verifyDevice h => exact tokenWrites_of_complete h
  | registerDevice h => exact tokenWrites_of_complete h
  | revokeRefreshToken h =>
    obtain ⟨now, rows, rfl, -⟩ := h
    exact Or.inl (by simp)
  | deleteRefreshToken h =>
    obtain ⟨rows, rfl, -⟩ := h
    exact Or.inl (by simp)
  | deleteExpiredBefore h =>
    obtain ⟨rows, rfl, -⟩ := h
    exact Or.inl (by simp)
  | _ => exact Or.inl fun row hw => by simpa [Call.tables, Write.table] using htables _ hw

/-- A token after a commit continues one from before, or is inserted. -/
theorem Committed.continues_or_inserted {call : Call} {r : Reply} {seen : List Db} {ws : List Write}
    (h : Committed P call r seen ws db) {t' : TokenRow}
    (ht : t' ∈ ((schema P).applyAll ws db).refreshTokens) :
    (∃ t ∈ db.refreshTokens, t.Continues t') ∨ .insertToken t' ∈ ws := by
  rcases h.tokenWrites with hno | ⟨ws₀, token, rfl, hno, -⟩
  · exact Or.inl (continues_of_applyAll hno ht)
  · rw [Schema.applyAll_append] at ht
    rcases List.mem_append.mp ht with ht | ht
    · exact Or.inl (continues_of_applyAll hno ht)
    · rw [List.mem_singleton.mp ht]
      exact Or.inr (List.mem_append_right _ (List.mem_singleton_self _))

/-- **A revocation marks every token of its device.** -/
theorem Committed.marks {call : Call} {r : Reply} {seen : List Db} {ws : List Write} {at' : Time}
    (h : Committed P call r seen ws db) (hw : .revokeDevice d at' ∈ ws) {t' : TokenRow}
    (ht : t' ∈ ((schema P).applyAll ws db).refreshTokens) (hd : t'.deviceId = d) :
    t'.revokedAt.isSome := by
  have htable : Table.userDevices ∈ call.tables := h.tables _ hw
  cases h with
  | @revokeUserDevice me deviceId _ _ _ _ h =>
    cases h with
    | refused => cases hw
    | success device now tokens _ _ _ _ hall =>
      obtain ⟨rfl, -⟩ : d = deviceId ∧ at' = now := by simpa using hw
      obtain ⟨t, hmem, hc⟩ := continues_of_applyAll (by simp) ht
      rw [Schema.applyAll_cons] at ht
      -- the update reached the token that `t'` continues
      obtain ⟨t₁, ht₁, hid⟩ := hall t hmem (hc.deviceId.symm.trans hd)
      exact isSome_of_revokeTokens ht ⟨t₁, ht₁, hid.trans (by rw [hc.same])⟩
  | registerNewDevice => simp at hw
  | complete h => cases h <;> simp at hw
  | verifyDevice h => cases h <;> simp at hw
  | registerDevice h => cases h <;> simp at hw
  | _ => simp [Call.tables] at htable

/-! ### The invariant -/

/-- Devices are registered as active. -/
theorem Committed.insertDevice {call : Call} {r : Reply} {seen : List Db} {ws : List Write}
    {row : DeviceRow} (h : Committed P call r seen ws db) (hw : .insertDevice d row ∈ ws) :
    row.status = .active := by
  have htable : Table.userDevices ∈ call.tables := h.tables _ hw
  have complete : ∀ {hash refreshHash deviceId registration r},
      LoginTicketRepository.CompleteSpec hash refreshHash deviceId registration r seen ws db →
      row.status = .active := by
    intro hash refreshHash deviceId registration r h
    cases h with
    | verified => simp at hw
    | registered _ _ _ _ _ _ _ _ _ _ _ hregistration =>
      obtain ⟨rfl, rfl⟩ : d = _ ∧ row = _ := by simpa using hw
      exact hregistration.active
    | refused => cases hw
  cases h with
  | revokeUserDevice h => cases h <;> simp at hw
  | registerNewDevice _ hregistration =>
    obtain ⟨rfl, rfl⟩ : d = _ ∧ row = _ := by simpa using hw
    exact hregistration.active
  | complete h => exact complete h
  | verifyDevice h => exact complete h
  | registerDevice h => exact complete h
  | _ => simp [Call.tables] at htable

/-- A device that is revoked after a commit was so before, or is revoked by it. -/
theorem Committed.isRevoked {call : Call} {r : Reply} {seen : List Db} {ws : List Write}
    (h : Committed P call r seen ws db) (hd : ((schema P).applyAll ws db).isRevoked d) :
    db.isRevoked d ∨ ∃ at', .revokeDevice d at' ∈ ws := by
  by_contra hno
  push Not at hno
  refine (schema P).applyAll_induct (P := fun x => ¬ x.isRevoked d) (fun w hw x hx => ?_) hno.1 hd
  rintro ⟨row, hrow, hst⟩
  cases w with
  | insertDevice id row' =>
    by_cases hid : id = d
    · subst hid
      cases hxd : x.userDevices id with
      | some row₀ =>
        obtain rfl : row₀ = row := by simpa [Db.write, hxd] using hrow
        exact hx ⟨row₀, hxd, hst⟩
      | none =>
        obtain rfl : row' = row := by simpa [Db.write, hxd] using hrow
        exact absurd ((h.insertDevice hw).symm.trans hst) (by decide)
    · have hkeep : (x.write (.insertDevice id row')).userDevices d = x.userDevices d := by
        simp [Db.write, Function.update_of_ne (Ne.symm hid)]
      exact hx ⟨row, hkeep.symm.trans hrow, hst⟩
  | revokeDevice id at' =>
    have hid : d ≠ id := fun he => hno.2 at' (he ▸ hw)
    have hkeep : (x.write (.revokeDevice id at')).userDevices d = x.userDevices d := by
      simp [Db.write, Function.update_of_ne hid]
    exact hx ⟨row, hkeep.symm.trans hrow, hst⟩
  | _ => exact hx ⟨row, hrow, hst⟩

/-- **The step.** -/
theorem TokensRevoked.commit (h : TokensRevoked db) {call : Call} {r : Reply} {seen : List Db}
    {ws : List Write} (hc : Committed P call r seen ws db) :
    TokensRevoked ((schema P).applyAll ws db) := by
  intro t' ht' hrevoked
  rcases hc.isRevoked hrevoked with hbefore | ⟨at', hnow⟩
  · rcases hc.continues_or_inserted ht' with ⟨t, ht, hcont⟩ | hins
    · exact hcont.revoked (h t ht (hcont.deviceId ▸ hbefore))
    · exact absurd hbefore (hc.not_isRevoked hins rfl)
  · exact hc.marks hnow ht' rfl

theorem UniqueHashes.commit (h : UniqueHashes db) {call : Call} {r : Reply} {seen : List Db}
    {ws : List Write} (hc : Committed P call r seen ws db) :
    UniqueHashes ((schema P).applyAll ws db) := by
  rcases hc.tokenWrites with hno | ⟨ws₀, token, rfl, hno, hunused⟩
  · exact (hashes_applyAll hno db).nodup h
  · have hsub := hashes_applyAll (P := P) hno db
    rw [UniqueHashes, Schema.applyAll_append, Schema.applyAll_cons, Schema.applyAll_nil, schema_apply,
      Db.write, List.map_append, List.map_singleton, List.nodup_append]
    refine ⟨hsub.nodup h, List.nodup_singleton _, fun hash hhash hash' hhash' he => ?_⟩
    obtain ⟨t, ht, hth⟩ := List.mem_map.mp (hsub.subset hhash)
    exact (hunused t ht).2 (hth.trans (he.trans (List.mem_singleton.mp hhash')))

/-- What a run keeps. -/
theorem tokens_of_reachable {x : StoreState}
    (h : Serial.Reachable (store P allows) (Committed P) db₀ x) (hrevoked : TokensRevoked db₀)
    (hunique : UniqueHashes db₀) : TokensRevoked x.db ∧ UniqueHashes x.db := by
  refine Serial.induction (P := fun x => TokensRevoked x.db ∧ UniqueHashes x.db)
    (fun x e he hx => ?_) (fun x db hd hx => ?_) h ⟨hrevoked, hunique⟩
  · rcases he.writes with hw | ⟨r, hr⟩
    · rw [Serial.State.db_after, hw]
      exact hx
    · exact ⟨hx.1.commit hr, hx.2.commit hr⟩
  · obtain ⟨now, -, rfl⟩ := hd
    exact hx

/-- A token whose device is revoked is not accepted. -/
theorem validate_ne_ok {token : String} {t : TokenRow} {now : Time} (hunique : UniqueHashes db)
    (ht : t ∈ db.refreshTokens) (hhash : t.tokenHash = cString (P.refreshTokenHash token))
    (hd : db.isRevoked t.deviceId) (user : Uuid) : validate P token now db ≠ .ok user := by
  intro hok
  rw [validate] at hok
  cases hrec : getRefreshTokenRecord (P.refreshTokenHash token) db with
  | none => simp [hrec] at hok
  | some record =>
    have hmem := List.mem_of_find?_eq_some hrec
    have hcond := List.find?_some hrec
    obtain ⟨hhash', hactive⟩ := of_decide_eq_true hcond
    obtain rfl : record = t :=
      List.inj_on_of_nodup_map hunique hmem ht (hhash'.trans hhash.symm)
    exact not_isRevoked_of_activeOwner hactive hd

/-- **Refresh tokens die with the device.** In every state that a run reaches, every refresh token
of a revoked device is revoked, and `RefreshTokenService::validate` accepts none of them. -/
theorem tokens_die_with_device {c : StoreConfig} (h : Reachable (store P allows) db₀ c)
    (hrevoked : TokensRevoked db₀) (hunique : UniqueHashes db₀) :
    TokensRevoked c.db ∧ ∀ token t now user, t ∈ c.db.refreshTokens →
      t.tokenHash = cString (P.refreshTokenHash token) → c.db.isRevoked t.deviceId →
      validate P token now c.db ≠ .ok user := by
  obtain ⟨hrevoked', hunique'⟩ := tokens_of_reachable (serial h) hrevoked hunique
  exact ⟨hrevoked', fun token t now user ht hhash hd => validate_ne_ok hunique' ht hhash hd user⟩

/-- A login on a device that is then revoked. -/
theorem tokens_die_with_device_after_login : ∃ c : StoreConfig,
    Reachable (store Sample.platform Sample.anyone) Sample.start c ∧
      (c.db.refreshTokens.map (fun t => (t.deviceId, t.revokedAt.isSome)) = [(Sample.phone, true)] ∧
        (c.db.userDevices Sample.phone).map DeviceRow.status = some .revoked) ∧
      TokensRevoked c.db ∧ ∀ token t now user, t ∈ c.db.refreshTokens →
        t.tokenHash = cString (Sample.platform.refreshTokenHash token) →
        c.db.isRevoked t.deviceId → validate Sample.platform token now c.db ≠ .ok user := by
  obtain ⟨c, hc, -, ht⟩ := Reachable.of_runCalls (store Sample.platform Sample.anyone) Sample.start
    [(.issue Sample.alice (LoginTicketService.hashTicket Sample.platform Sample.ticket), []),
      (.verifyDevice Sample.ticket Sample.phone Sample.refreshToken, [41]),
      (.revokeUserDevice Sample.alice Sample.phone, [])]
    (fun c : StoreConfig =>
      c.db.refreshTokens.map (fun t => (t.deviceId, t.revokedAt.isSome)) = [(Sample.phone, true)] ∧
        (c.db.userDevices Sample.phone).map DeviceRow.status = some .revoked)
    (fun _ _ _ => trivial) (by decide +kernel)
  have hrevoked : TokensRevoked Sample.start := fun t ht => absurd ht List.not_mem_nil
  exact ⟨c, hc, of_decide_eq_true ht, tokens_die_with_device hc hrevoked List.nodup_nil⟩

end ChatBackend
