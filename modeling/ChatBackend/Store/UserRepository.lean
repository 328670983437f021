import ChatBackend.Store.RefreshTokenRepository

/-!
# UserRepository: revoking a device

`UserRepository::revokeUserDevice` of `src/repository/UserRepository.cpp`, and the changes an
operator makes by hand.

## Main results

* `wp_revokeUserDevice` — what a revocation commits: the device's row and all its refresh tokens
-/

namespace ChatBackend

open ReadCommitted

namespace UserRepository

variable {P : Platform} {db db' : Db}

/-- `UPDATE app.user_devices SET status = 'revoked', revoked_at = CURRENT_TIMESTAMP
WHERE device_id = $1 AND status = 'active' RETURNING device_id`. -/
def updateDevice (deviceId : Uuid) (now : Time) : Tx (List Uuid) :=
  let qualifies (db : Db) : Option Uuid :=
    ((db.userDevices deviceId).filter fun row => row.status = .active).map fun _ => deviceId
  updateWhere (fun _ => [(.device deviceId, .exclusive)]) (fun db => (qualifies db).toList)
    (fun db _ => qualifies db) fun id => .revokeDevice id now

/-- `UPDATE app.refresh_tokens SET revoked_at = COALESCE(revoked_at, CURRENT_TIMESTAMP)
WHERE device_id = $1`. -/
def updateTokens (deviceId : Uuid) (now : Time) : Tx (List TokenRow) :=
  updateTokensWhere (fun token => token.deviceId = deviceId)
    fun token => .revokeToken token.id (token.revokedAt.getD now)

/-- `UserRepository::revokeUserDevice`. -/
def revokeUserDevice (myId deviceId : Uuid) : Tx RevokeDeviceResult :=
  beginTransaction.bind fun now => (selectDevice deviceId .exclusive).bind fun device =>
    match device with
    | [] => .ret .deviceNotFound
    | (owner, status) :: _ =>
      if owner ≠ myId then .ret .notYourDevice
      else if status = .revoked then .ret .alreadyRevoked
      else if status ≠ .active then .ret .deviceNotActive
      else (updateDevice deviceId now).bind fun updated =>
        if updated.length ≠ 1 then .throw (.logicError "Locked device was not revoked")
        else (updateTokens deviceId now).bind fun _ => .ret .success

/-! ### Specification -/

/-- What a revocation commits. -/
inductive RevokeSpec (me deviceId : Uuid) : RevokeDeviceResult → List Write → Db → Prop where
  | success {db : Db} (device : DeviceRow) (now : Time) (tokens : List TokenRow) :
      db.userDevices deviceId = some device → device.userId = me → device.status = .active →
      (∀ token ∈ tokens, token ∈ db.refreshTokens ∧ token.deviceId = deviceId) →
      (∀ token ∈ db.refreshTokens, token.deviceId = deviceId → ∃ t ∈ tokens, t.id = token.id) →
      RevokeSpec me deviceId .success (.revokeDevice deviceId now ::
        tokens.map fun token => .revokeToken token.id (token.revokedAt.getD now)) db
  | refused {r : RevokeDeviceResult} {db : Db} : r ≠ .success → RevokeSpec me deviceId r [] db

/-- Marking the device, whose row is locked and active. -/
theorem wp_updateDevice {deviceId : Uuid} {now : Time}
    {Q : List Uuid → Local Db Write Key → Db → Prop} {s : Local Db Write Key} (hs : s.writes = [])
    (hQ : ∀ s' db' rows, s'.writes = rows.map (fun _ => .revokeDevice deviceId now) →
      s.locks ⊆ s'.locks → Interference (schema P) s.locks db db' → Q rows s' db') :
    wp (schema P) (updateDevice deviceId now) Q s db := by
  refine wp_updateWhere (fun id held a b hl _ hi => ?_) (fun id a row hrow => ?_)
    fun s₁ db₁ db₂ rows hw hse hm hlo hls h₁ h₂ hrows => ?_
  · simp only [hs, Schema.applyAll_nil, userDevices_stable (hl (List.mem_singleton_self _)) hi]
  · obtain ⟨-, -, rfl⟩ := Option.map_eq_some_iff.mp hrow
    exact List.subset_append_left _ _
  · refine hQ s₁ db₂ rows ?_ hlo (h₁.trans h₂)
    rw [hw, hs, List.nil_append]
    refine List.map_congr_left fun id hid => ?_
    rw [hrows db₂ (Interference.refl _ _)] at hid
    obtain ⟨i, -, hid⟩ := List.mem_filterMap.mp hid
    obtain ⟨-, -, rfl⟩ := Option.map_eq_some_iff.mp hid
    rfl

/-- **All tokens of a locked device.** While the device is locked exclusively no token of it can
appear, so the update reaches every token there is at the end. -/
theorem wp_updateTokens {deviceId : Uuid} {now : Time}
    {Q : List TokenRow → Local Db Write Key → Db → Prop} {s : Local Db Write Key}
    (hs : s.writes = [.revokeDevice deviceId now])
    (hk : (Key.device deviceId, Mode.exclusive) ∈ s.locks)
    (hQ : ∀ s' db' rows, s'.writes = .revokeDevice deviceId now ::
        rows.map (fun token : TokenRow => .revokeToken token.id (token.revokedAt.getD now)) →
      s.locks ⊆ s'.locks → Interference (schema P) s.locks db db' →
      (∀ later, Interference (schema P) s'.locks db' later →
        (∀ token ∈ rows, token ∈ later.refreshTokens ∧ token.deviceId = deviceId) ∧
        ∀ token ∈ later.refreshTokens, token.deviceId = deviceId → ∃ t ∈ rows, t.id = token.id) →
      Q rows s' db') :
    wp (schema P) (updateTokens deviceId now) Q s db := by
  refine wp_updateTokensWhere (fun x => by rw [hs]; rfl) (fun token => rfl)
    fun s₁ db₁ db₂ rows hw hlo h₂ h₁₂ hrows => ?_
  refine hQ s₁ db₂ rows (by rw [hw, hs, List.singleton_append]) hlo h₂ fun later hlater => ?_
  obtain ⟨hsound, hall⟩ := hrows later hlater
  refine ⟨fun token htoken => ?_, fun token htoken hdevice => ?_⟩
  · obtain ⟨hmem, hdevice⟩ := hsound token htoken
    exact ⟨hmem, of_decide_eq_true hdevice⟩
  · have hkeep : Interference (schema P) s.locks db₁ later := h₁₂.trans (hlater.mono hlo)
    obtain ⟨token₀, htoken₀, he⟩ := deviceTokens_stable hk hkeep token htoken hdevice
    have hid : token.id = token₀.id := by rw [he]
    have hdevice₀ : token₀.deviceId = deviceId := by rw [← hdevice, he]
    exact hall token₀ htoken₀ (decide_eq_true hdevice₀) token htoken hid (decide_eq_true hdevice)

/-- **`revokeUserDevice` meets its specification.** -/
theorem wp_revokeUserDevice {me deviceId : Uuid} (db : Db) :
    wp (schema P) (revokeUserDevice me deviceId)
      (fun r s db => RevokeSpec me deviceId r s.writes db) {} db := by
  refine wp_bind (wp_read fun db₀ h₀ => wp_ret fun db₁ h₁ => wp_bind
    (wp_selectDevice rfl fun s₂ db₂ rows hw₂ hlo₂ h₂ hrows => ?_))
  rcases rows with _ | ⟨⟨owner, status⟩, rest⟩
  · exact wp_ret fun db₃ h₃ => hw₂ ▸ .refused (by decide)
  obtain ⟨hk, device, hdevice, hown, hst⟩ := hrows _ (List.mem_cons_self ..)
  dsimp only
  split_ifs with hme hrev hact
  · exact wp_ret fun db₃ h₃ => hw₂ ▸ .refused (by decide)
  · exact wp_ret fun db₃ h₃ => hw₂ ▸ .refused (by decide)
  · exact wp_ret fun db₃ h₃ => hw₂ ▸ .refused (by decide)
  push Not at hme hact
  refine wp_bind (wp_updateDevice hw₂ fun s₃ db₃ updated hw₃ hlo₃ h₃ => ?_)
  split_ifs with hcount
  · trivial
  obtain ⟨id, rfl⟩ := List.length_eq_one_iff.mp (not_not.mp hcount)
  refine wp_bind (wp_updateTokens hw₃ (hlo₃ hk) fun s₄ db₄ tokens hw₄ hlo₄ h₄ htokens =>
    wp_ret fun db₅ h₅ => ?_)
  rw [hw₄]
  have hkeep : Interference (schema P) s₂.locks db₂ db₅ :=
    h₃.trans ((h₄.trans (h₅.mono hlo₄)).mono hlo₃)
  obtain ⟨hsound, hall⟩ := htokens db₅ h₅
  exact .success device _ tokens ((userDevices_stable hk hkeep).trans hdevice) (hown.trans hme)
    (hst.trans hact) hsound hall

end UserRepository

end ChatBackend
