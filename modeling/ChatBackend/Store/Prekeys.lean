import ChatBackend.Store.Calls

/-!
# One-time prekeys are used once

No write takes a claim back or changes a public key, and a claim is made on an available row, found
by its primary key. So a prekey is handed out at most once, as it was uploaded.

## Main definitions

* `PrekeyRow.Continues` — how a row may change
* `UniquePrekeys` — the primary key

## Main results

* `prekeys_one_time`
-/

namespace ChatBackend

open ReadCommitted KeyRepository

variable {P : Platform} {allows : List StoreEvent → Call → Prop} {a b c db db₀ : Db}

/-! ### How rows change -/

/-- The primary key of a row. -/
def PrekeyRow.key (row : PrekeyRow) : Uuid × ℤ := (row.deviceId, row.prekeyId)

/-- The row `r'` is `r`, possibly claimed in the meantime. -/
structure PrekeyRow.Continues (r r' : PrekeyRow) : Prop where
  key : r'.key = r.key
  publicKey : r'.publicKey = r.publicKey
  claimed : r.state = .claimed → r'.state = .claimed

theorem PrekeyRow.Continues.refl (r : PrekeyRow) : r.Continues r := ⟨rfl, rfl, fun h => h⟩

theorem PrekeyRow.Continues.trans {r r' r'' : PrekeyRow} (h : r.Continues r')
    (h' : r'.Continues r'') : r.Continues r'' :=
  ⟨h'.key.trans h.key, h'.publicKey.trans h.publicKey, fun hr => h'.claimed (h.claimed hr)⟩

/-- Every row of `a` is continued in `b`. -/
def KeepsPrekeys (a b : Db) : Prop :=
  ∀ r ∈ a.deviceOneTimePrekeys, ∃ r' ∈ b.deviceOneTimePrekeys, r.Continues r'

theorem KeepsPrekeys.refl (db : Db) : KeepsPrekeys db db := fun r hr => ⟨r, hr, .refl r⟩

theorem KeepsPrekeys.trans (h : KeepsPrekeys a b) (h' : KeepsPrekeys b c) : KeepsPrekeys a c := by
  intro r hr
  obtain ⟨r', hr', hc⟩ := h r hr
  obtain ⟨r'', hr'', hc'⟩ := h' r' hr'
  exact ⟨r'', hr'', hc.trans hc'⟩

/-- No write loses a row, changes a public key or takes a claim back. -/
theorem keepsPrekeys_write (w : Write) (db : Db) : KeepsPrekeys db (db.write w) := by
  intro r hr
  cases w with
  | insertPrekey row => exact ⟨r, List.mem_append_left _ hr, .refl r⟩
  | claimPrekey deviceId prekeyId at' =>
    refine ⟨_, List.mem_map_of_mem hr, ?_⟩
    split_ifs
    · exact ⟨rfl, rfl, fun _ => rfl⟩
    · exact .refl r
  | _ => exact ⟨r, hr, .refl r⟩

theorem keepsPrekeys_applyAll (ws : List Write) (db : Db) :
    KeepsPrekeys db ((schema P).applyAll ws db) :=
  (schema P).applyAll_induct (P := fun x => KeepsPrekeys db x)
    (fun w _ x hx => hx.trans (keepsPrekeys_write w x)) (.refl db)

theorem drift_keepsPrekeys (a b : Db) (h : (schema P).drift a b) : KeepsPrekeys a b := by
  obtain ⟨now, -, rfl⟩ := h
  exact .refl a

theorem keepsPrekeys_of_steps {x y : StoreState}
    (h : Serial.Steps (store P allows) (Committed P) x y) : KeepsPrekeys x.db y.db :=
  h.rel (R := KeepsPrekeys) .refl KeepsPrekeys.trans
    (fun _ _ _ ws db _ => keepsPrekeys_applyAll ws db) drift_keepsPrekeys

theorem keepsPrekeys_of_mem_past {x : StoreState}
    (h : Serial.Reachable (store P allows) (Committed P) db₀ x) :
    ∀ v ∈ x.past, KeepsPrekeys v x.db :=
  h.rel (R := KeepsPrekeys) .refl KeepsPrekeys.trans
    (fun _ _ _ ws db _ => keepsPrekeys_applyAll ws db) drift_keepsPrekeys

/-! ### The primary key -/

/-- The primary key of `app.device_one_time_prekeys`. -/
def UniquePrekeys (db : Db) : Prop := (db.deviceOneTimePrekeys.map PrekeyRow.key).Nodup

theorem UniquePrekeys.eq (h : UniquePrekeys db) {r r' : PrekeyRow}
    (hr : r ∈ db.deviceOneTimePrekeys) (hr' : r' ∈ db.deviceOneTimePrekeys) (hk : r.key = r'.key) :
    r = r' :=
  List.inj_on_of_nodup_map h hr hr' hk

/-- Claiming a prekey leaves the keys as they are. -/
theorem keys_claimPrekey (db : Db) (d : Uuid) (n : ℤ) (at' : Time) :
    (db.write (.claimPrekey d n at')).deviceOneTimePrekeys.map PrekeyRow.key =
      db.deviceOneTimePrekeys.map PrekeyRow.key := by
  rw [Db.write, List.map_map]
  refine List.map_congr_left fun r _ => ?_
  by_cases h : r.deviceId = d ∧ r.prekeyId = n <;> simp [h, PrekeyRow.key]

theorem UniquePrekeys.commit (h : UniquePrekeys db) {call : Call} {r : Reply} {seen : List Db}
    {ws : List Write} (hc : Committed P call r seen ws db) :
    UniquePrekeys ((schema P).applyAll ws db) := by
  by_cases ht : Table.deviceOneTimePrekeys ∈ call.tables
  · cases hc with
    | @createNewOnetimeKey _ d _ _ _ _ _ hc =>
      cases hc with
      | refused => exact h
      | stored now rows _ hrows hfree hnodup =>
        have hkey : ∀ row ∈ rows, row.key = (d, row.prekeyId) := by
          intro row hrow
          obtain ⟨key, -, hk⟩ := exists_key hrows hrow
          rw [PrekeyRow.key, hk.1]
        rw [UniquePrekeys, prekeys_applyAll, List.map_append, List.nodup_append]
        refine ⟨h, ?_, fun k hk k' hk' he => ?_⟩
        · rw [List.map_congr_left hkey]
          exact (List.map_map (f := PrekeyRow.prekeyId) (g := fun n => (d, n)) ▸
            hnodup.map (fun m n hmn => (Prod.mk.inj hmn).2) :)
        · obtain ⟨old, hold, rfl⟩ := List.mem_map.mp hk
          obtain ⟨row, hrow, rfl⟩ := List.mem_map.mp hk'
          have hmem : old ∈ db.prekeyRow d row.prekeyId :=
            mem_prekeyRow.mpr ⟨hold, Prod.mk.inj (he.trans (hkey row hrow))⟩
          rw [hfree row hrow] at hmem
          cases hmem
    | getOneTimeKey hc =>
      cases hc with
      | refused => exact h
      | success row now =>
        rw [UniquePrekeys, Schema.applyAll_cons, Schema.applyAll_nil, schema_apply, keys_claimPrekey]
        exact h
    | _ => simp [Call.tables] at ht
  · rw [UniquePrekeys, hc.frame belongsTo_deviceOneTimePrekeys ht]
    exact h

theorem uniquePrekeys_of_reachable {x : StoreState}
    (h : Serial.Reachable (store P allows) (Committed P) db₀ x) (h₀ : UniquePrekeys db₀) :
    UniquePrekeys x.db := by
  refine Serial.induction (P := fun x => UniquePrekeys x.db) (fun x e he hx => ?_)
    (fun x db hd hx => ?_) h h₀
  · rcases he.writes with hw | ⟨r, hr⟩
    · rw [Serial.State.db_after, hw]
      exact hx
    · exact hx.commit hr
  · obtain ⟨now, -, rfl⟩ := hd
    exact hx

/-! ### Whole runs -/

/-- The event is a call that returned this prekey. -/
def Claims (e : StoreEvent) (key : OneTimePrekey) : Prop :=
  e.outcome = .returned (.claim ⟨.success, some key⟩)

/-- **A claim** finds the key available and leaves it claimed. -/
theorem Claims.rows {x : StoreState} {e : StoreEvent} {key : OneTimePrekey} (h : Claims e key)
    (he : Serial.Ends (store P allows) (Committed P) x e) :
    (∃ r ∈ x.db.deviceOneTimePrekeys, r.key = (key.deviceId, key.prekeyId) ∧ r.state = .available) ∧
    ∃ r ∈ ((schema P).applyAll e.writes x.db).deviceOneTimePrekeys,
      r.key = (key.deviceId, key.prekeyId) ∧ r.state = .claimed ∧
      key.publicKeyHex = encodeHex r.publicKey := by
  obtain ⟨me, friend, d, -, hclaim⟩ := (he.returned h).claim
  cases hw : e.writes with
  | nil =>
    rw [hw] at hclaim
    cases hclaim
  | cons w ws =>
    rw [hw] at hclaim
    cases hclaim with
    | success row now _ _ _ hmem hdev hav =>
      refine ⟨⟨row, hmem, by rw [PrekeyRow.key, hdev], hav⟩, _, List.mem_map_of_mem hmem, ?_⟩
      rw [if_pos ⟨hdev, rfl⟩]
      exact ⟨by rw [PrekeyRow.key, hdev], rfl, rfl⟩

/-- What holds of every run about one-time prekeys. -/
structure PrekeysOneTime (c : StoreConfig) : Prop where
  /-- No prekey is returned twice. -/
  once : ∀ l₁ e l₂ key, c.log = l₁ ++ e :: l₂ → Claims e key → ∀ f ∈ l₂, ∀ key', Claims f key' →
    (key'.deviceId, key'.prekeyId) ≠ (key.deviceId, key.prekeyId)
  /-- There is one row for each key. -/
  unique : UniquePrekeys c.db
  /-- A row keeps its public key, and stays claimed once it is. -/
  final : ∀ v ∈ c.past, KeepsPrekeys v c.db
  /-- What was uploaded is stored. -/
  uploaded : ∀ e ∈ c.log, ∀ user d record, e.call = .createNewOnetimeKey user d record →
    e.outcome = .returned (.uploaded true) → ∀ key ∈ record,
      ∃ r ∈ c.db.deviceOneTimePrekeys, r.key = (d, key.1) ∧
        decodeHex (cString key.2) = some r.publicKey
  /-- What was returned is the stored public key, and that row is claimed. -/
  returned : ∀ e ∈ c.log, ∀ key, Claims e key → ∃ r ∈ c.db.deviceOneTimePrekeys,
    r.key = (key.deviceId, key.prekeyId) ∧ r.state = .claimed ∧
      key.publicKeyHex = encodeHex r.publicKey
  /-- An upload adds all of its keys or none. -/
  batch : ∀ e ∈ c.log, ∀ user d record, e.call = .createNewOnetimeKey user d record →
    e.writes = [] ∨ ∃ now rows, e.writes = rows.map .insertPrekey ∧
      List.Forall₂ (IsPrekeyOf d now) record rows
  /-- A claim that is refused changes nothing. -/
  refused : ∀ e ∈ c.log, ∀ r, e.outcome = .returned (.claim r) → r.status ≠ .success →
    e.writes = []

/-- What an upload commits. -/
theorem upload_cases {x : StoreState} {e : StoreEvent} {user d : Uuid} {record : List (ℤ × String)}
    (he : Serial.Ends (store P allows) (Committed P) x e)
    (hcall : e.call = .createNewOnetimeKey user d record) :
    (e.writes = [] ∧ e.outcome ≠ .returned (.uploaded true)) ∨
      ∃ now rows, e.writes = rows.map .insertPrekey ∧
        List.Forall₂ (IsPrekeyOf d now) record rows := by
  have committed : ∀ r, Committed P e.call r e.seen e.writes x.db →
      (e.writes = [] ∧ r ≠ .uploaded true) ∨ ∃ now rows, e.writes = rows.map .insertPrekey ∧
        List.Forall₂ (IsPrekeyOf d now) record rows := by
    intro r hspec
    rw [hcall] at hspec
    generalize e.writes = ws at hspec
    cases hspec with
    | createNewOnetimeKey hupload =>
      cases hupload with
      | stored now rows _ hrows => exact Or.inr ⟨now, rows, rfl, hrows⟩
      | refused => exact Or.inl ⟨rfl, by simp⟩
  rcases hout : e.outcome with r | error | _
  · exact (committed r (he.returned hout)).imp_left fun h => ⟨h.1, by simpa using h.2⟩
  · rcases he.writes with hw | ⟨r, hspec⟩
    · exact Or.inl ⟨hw, by simp⟩
    · exact (committed r hspec).imp_left fun h => ⟨h.1, by simp⟩
  · rcases he.writes with hw | ⟨r, hspec⟩
    · exact Or.inl ⟨hw, by simp⟩
    · exact (committed r hspec).imp_left fun h => ⟨h.1, by simp⟩

/-- **One-time prekeys are one-time.** -/
theorem prekeys_one_time {c : StoreConfig} (h : Reachable (store P allows) db₀ c)
    (hunique : UniquePrekeys db₀) : PrekeysOneTime c := by
  have hs := serial h
  refine ⟨fun l₁ e l₂ key hlog hclaim f hf key' hclaim' hkey => ?_,
    uniquePrekeys_of_reachable hs hunique, keepsPrekeys_of_mem_past hs,
    fun e he user d record hcall hout key hmem => ?_, fun e he key hclaim => ?_,
    fun e he user d record hcall => ?_, fun e he r hout hne => ?_⟩
  · obtain ⟨u, v, hu, -, hue, huv, hvf, -⟩ := hs.split_two hlog hf
    have hv : Serial.Reachable (store P allows) (Committed P) db₀ v := (hu.tail (.ends hue)).trans huv
    -- the row that `e` claimed is the one that `f` found available
    obtain ⟨-, r, hr, hrk, hclaimed, -⟩ := hclaim.rows hue
    obtain ⟨r', hr', hcont⟩ := keepsPrekeys_of_steps huv r hr
    obtain ⟨⟨r'', hr'', hrk'', hav⟩, -⟩ := hclaim'.rows hvf
    obtain rfl : r' = r'' := (uniquePrekeys_of_reachable hv hunique).eq hr' hr''
      (hcont.key.trans (hrk.trans (hkey.symm.trans hrk''.symm)))
    exact absurd ((hcont.claimed hclaimed).symm.trans hav) (by decide)
  · obtain ⟨u, -, hends, hux⟩ := hs.split_mem he
    rcases upload_cases hends hcall with ⟨-, hno⟩ | ⟨now, rows, hw, hrows⟩
    · exact absurd hout hno
    · obtain ⟨row, hrow, hkey⟩ := exists_row hrows hmem
      have hstored : row ∈ ((schema P).applyAll e.writes u.db).deviceOneTimePrekeys := by
        rw [hw, prekeys_applyAll]
        exact List.mem_append_right _ hrow
      obtain ⟨r, hr, hcont⟩ := keepsPrekeys_of_steps hux row hstored
      refine ⟨r, hr, ?_, by rw [hcont.publicKey]; exact hkey.2⟩
      rw [hcont.key, hkey.1, PrekeyRow.key]
  · obtain ⟨u, -, hends, hux⟩ := hs.split_mem he
    obtain ⟨-, row, hrow, hk, hclaimed, hhex⟩ := hclaim.rows hends
    obtain ⟨r, hr, hcont⟩ := keepsPrekeys_of_steps hux row hrow
    exact ⟨r, hr, hcont.key.trans hk, hcont.claimed hclaimed, by rw [hhex, hcont.publicKey]⟩
  · obtain ⟨u, -, hends, -⟩ := hs.split_mem he
    exact (upload_cases hends hcall).imp_left And.left
  · obtain ⟨u, -, hends, -⟩ := hs.split_mem he
    obtain ⟨me, friend, d, -, hclaim⟩ := (hends.returned hout).claim
    generalize e.writes = ws at hclaim
    cases hclaim with
    | success => exact absurd rfl hne
    | refused => rfl

/-- Two uploaded keys and three claims. -/
theorem prekeys_one_time_three_claims : ∃ c : StoreConfig,
    Reachable (store Sample.platform Sample.anyone) Sample.start c ∧
      c.log.map Event.outcome = [.returned (.uploaded true),
        .returned (.claim ⟨.success, some ⟨Sample.phone, 1, "0a"⟩⟩),
        .returned (.claim ⟨.success, some ⟨Sample.phone, 2, "0b"⟩⟩),
        .returned (.claim ⟨.noPrekey, none⟩)] ∧ PrekeysOneTime c := by
  obtain ⟨c, hc, -, ht⟩ := Reachable.of_runCalls (store Sample.platform Sample.anyone) Sample.start
    [(.createNewOnetimeKey Sample.alice Sample.phone [(2, "0b"), (1, "0a")], []),
      (.getOneTimeKey Sample.bob Sample.alice Sample.phone, []),
      (.getOneTimeKey Sample.bob Sample.alice Sample.phone, []),
      (.getOneTimeKey Sample.bob Sample.alice Sample.phone, [])]
    (fun c : StoreConfig => c.log.map Event.outcome = [.returned (.uploaded true),
      .returned (.claim ⟨.success, some ⟨Sample.phone, 1, "0a"⟩⟩),
      .returned (.claim ⟨.success, some ⟨Sample.phone, 2, "0b"⟩⟩),
      .returned (.claim ⟨.noPrekey, none⟩)])
    (fun _ _ _ => trivial) (by decide +kernel)
  exact ⟨c, hc, of_decide_eq_true ht, prekeys_one_time hc List.nodup_nil⟩

end ChatBackend
