import ChatBackend.Store.Authorization
import Mathlib.Data.List.Sort

/-!
# KeyRepository

`src/repository/KeyRepository.cpp`: registering a device with its key bundle, uploading one-time
prekeys and claiming one.

## Main results

* `wp_registerNewDevice` — a new device and its only bundle
* `wp_createNewOnetimeKey` — all keys of a batch, under new identifiers
* `wp_getOneTimeKey` — an available key is claimed
-/

namespace ChatBackend

open ReadCommitted

namespace KeyRepository

variable {P : Platform} {db db' : Db}

/-! ### Registering a device -/

/-- PostgreSQL's `decode($n::text, 'hex')` of a parameter. -/
def decodeParameter (text : String) : Tx Bytes :=
  match decodeHex (cString text) with
  | some bytes => .ret bytes
  | none => .throw (queryError "22023")

/-- PostgreSQL's `$n::bigint` of a parameter. -/
def bigintParameter (P : Platform) (text : String) : Tx ℤ :=
  match P.bigintIn (cString text) with
  | some n => .ret n
  | none => .throw (queryError "22P02")

/-- `INSERT INTO app.user_devices … RETURNING …`, with status `active`. -/
def insertDevice (userId : Uuid) (identityPublicKeyHex deviceName protocolSuite : String)
    (now : Time) : Tx Device :=
  (decodeParameter identityPublicKeyHex).bind fun identityPublicKey => .draw fun deviceId =>
    let row : DeviceRow :=
      ⟨userId, cString deviceName, .active, identityPublicKey, cString protocolSuite, some now, none⟩
    (insertRow [.device deviceId] (fun db => if (db.userDevices deviceId).isSome then
      some (queryError "23505" "user_devices_pkey") else none) (.insertDevice deviceId row)).bind
    fun _ => .ret ⟨deviceId, userId, row.deviceName, row.status, row.identityPublicKey,
      row.protocolSuite⟩

/-- `INSERT INTO app.device_key_bundles …`, as the current bundle and the first one. -/
def insertBundle (P : Platform) (deviceId : Uuid)
    (signedPrekeyId signedPrekeyPublicHex signedPrekeySignatureHex : String) : Tx Unit :=
  (bigintParameter P signedPrekeyId).bind fun prekeyId =>
  (decodeParameter signedPrekeyPublicHex).bind fun public' =>
  (decodeParameter signedPrekeySignatureHex).bind fun signature =>
    insertRow [.bundle deviceId 1] (fun db => if (db.bundleRow deviceId 1).isEmpty then none else
      some (queryError "23505" "device_key_bundles_pkey"))
      (.insertBundle ⟨deviceId, 1, prekeyId, public', signature, true, none⟩)

/-- `KeyRepository::RegisterNewDevice(connection, …)`, in a transaction begun at `now`. -/
def registerNewDevice (P : Platform) (userId : Uuid) (input : DeviceRegistrationInput)
    (now : Time) : Tx Device :=
  (insertDevice userId input.identityPublicKeyHex input.deviceName input.protocolSuite now).bind
  fun device =>
    (insertBundle P device.deviceId input.signedPrekeyId input.signedPrekeyPublicHex
      input.signedPrekeySignatureHex).bind fun _ => .ret device

/-- What registering a device adds to the transaction: the device's row and its bundle. -/
structure Registration (userId deviceId : Uuid) (device : DeviceRow) (bundle : BundleRow) : Prop where
  user : device.userId = userId
  active : device.status = .active
  notRevoked : device.revokedAt = none
  bundleDevice : bundle.deviceId = deviceId
  current : bundle.isCurrent = true

theorem wp_decodeParameter {text : String} {Q : Bytes → Local Db Write Key → Db → Prop}
    {s : Local Db Write Key}
    (hQ : ∀ bytes db', decodeHex (cString text) = some bytes →
      Interference (schema P) s.locks db db' → Q bytes s db') :
    wp (schema P) (decodeParameter text) Q s db := by
  rw [decodeParameter]
  cases h : decodeHex (cString text) with
  | none => trivial
  | some bytes => exact wp_ret fun db' hi => hQ bytes db' h hi

/-- The new row's identifier is free and stays locked. -/
theorem wp_insertDevice {user : Uuid} {identityHex name suite : String} {now : Time}
    {Q : Device → Local Db Write Key → Db → Prop} {s : Local Db Write Key}
    (hs : ∀ x d, ((schema P).applyAll s.writes x).userDevices d = x.userDevices d)
    (hQ : ∀ s' db' device row, s'.writes = s.writes ++ [.insertDevice device.deviceId row] →
      s.locks ⊆ s'.locks → Interference (schema P) s.locks db db' →
      (Key.device device.deviceId, Mode.exclusive) ∈ s'.locks →
      db'.userDevices device.deviceId = none →
      row.userId = user ∧ row.status = .active ∧ row.revokedAt = none → Q device s' db') :
    wp (schema P) (insertDevice user identityHex name suite now) Q s db := by
  refine wp_bind (wp_decodeParameter fun identity db₁ _ h₁ => wp_draw fun d => wp_bind ?_)
  refine wp_insertRow (by simp [Write.needs]) fun s₂ db₂ db₃ hw₂ _ hlo₂ hkeys h₂ h₃ hv =>
    wp_ret fun db₄ h₄ => ?_
  have hk : (Key.device d, Mode.exclusive) ∈ s₂.locks := hkeys _ (List.mem_singleton_self _)
  have hfree : db₂.userDevices d = none := by
    rw [hs] at hv
    by_contra hne
    simp [Option.isSome_iff_ne_none.mpr hne] at hv
  have h₂₄ : Interference (schema P) s₂.locks db₂ db₄ := h₃.trans h₄
  exact hQ s₂ db₄ _ _ hw₂ hlo₂ (h₁.trans (h₂.trans (h₂₄.mono hlo₂))) hk
    ((userDevices_stable hk h₂₄).trans hfree) ⟨rfl, rfl, rfl⟩

theorem wp_insertBundle {deviceId : Uuid} {prekeyId publicHex signatureHex : String}
    {Q : Unit → Local Db Write Key → Db → Prop} {s : Local Db Write Key}
    (hQ : ∀ s' db' bundle, s'.writes = s.writes ++ [.insertBundle bundle] →
      s.locks ⊆ s'.locks → Interference (schema P) s.locks db db' →
      bundle.deviceId = deviceId ∧ bundle.isCurrent = true → Q () s' db') :
    wp (schema P) (insertBundle P deviceId prekeyId publicHex signatureHex) Q s db := by
  rw [insertBundle, bigintParameter]
  cases P.bigintIn (cString prekeyId) with
  | none => trivial
  | some n =>
    refine wp_bind (wp_ret fun db₁ h₁ => wp_bind (wp_decodeParameter fun public' db₂ _ h₂ =>
      wp_bind (wp_decodeParameter fun signature db₃ _ h₃ => ?_)))
    refine wp_insertRow (by simp [Write.needs]) fun s₄ db₄ db₅ hw _ hlo _ h₄ h₅ _ => ?_
    exact hQ s₄ db₅ _ hw hlo (h₁.trans (h₂.trans (h₃.trans (h₄.trans (h₅.mono hlo))))) ⟨rfl, rfl⟩

/-- **A registered device is new.** The transaction may have written before, but no device. -/
theorem wp_registerNewDevice {user : Uuid} {input : DeviceRegistrationInput} {now : Time}
    {Q : Device → Local Db Write Key → Db → Prop} {s : Local Db Write Key}
    (hs : ∀ x d, ((schema P).applyAll s.writes x).userDevices d = x.userDevices d)
    (hQ : ∀ s' db' device row bundle, s'.writes =
        s.writes ++ [.insertDevice device.deviceId row, .insertBundle bundle] →
      s.locks ⊆ s'.locks → Interference (schema P) s.locks db db' →
      (Key.device device.deviceId, Mode.exclusive) ∈ s'.locks →
      db'.userDevices device.deviceId = none → Registration user device.deviceId row bundle →
      Q device s' db') :
    wp (schema P) (registerNewDevice P user input now) Q s db := by
  refine wp_bind (wp_insertDevice hs fun s₁ db₁ device row hw₁ hlo₁ h₁ hk hfree hrow => wp_bind ?_)
  refine wp_insertBundle fun s₂ db₂ bundle hw₂ hlo₂ h₂ hbundle => wp_ret fun db₃ h₃ => ?_
  have h₁₃ : Interference (schema P) s₁.locks db₁ db₃ := h₂.trans (h₃.mono hlo₂)
  refine hQ s₂ db₃ device row bundle (by rw [hw₂, hw₁, List.append_assoc]; rfl)
    (List.Subset.trans hlo₁ hlo₂) (h₁.trans (h₁₃.mono hlo₁)) (hlo₂ hk)
    ((userDevices_stable hk h₁₃).trans hfree) ?_
  exact ⟨hrow.1, hrow.2.1, hrow.2.2, hbundle.1, hbundle.2⟩

/-! ### Uploading prekeys -/

/-- `INSERT INTO app.device_one_time_prekeys …`, for each key of the batch, in the order in which
the hash map lists them. -/
def insertPrekeys (deviceId : Uuid) (now : Time) : List (ℤ × String) → Tx Unit
  | [] => .ret ()
  | (index, prekey) :: rest =>
    (decodeParameter prekey).bind fun publicKey =>
    (insertRow [.prekey deviceId index] (fun db => if (db.prekeyRow deviceId index).isEmpty then none
      else some (queryError "23505" "device_one_time_prekeys_pkey"))
      (.insertPrekey ⟨deviceId, index, publicKey, .available, now, none⟩)).bind fun _ =>
    insertPrekeys deviceId now rest

/-- `KeyRepository::createNewOnetimeKey`. -/
def createNewOnetimeKey (userId deviceId : Uuid) (prekeyRecord : List (ℤ × String)) : Tx Bool :=
  beginTransaction.bind fun now => (selectActiveDevice userId deviceId).bind fun active =>
    if active = false then .ret false
    else (insertPrekeys deviceId now prekeyRecord).bind fun _ => .ret true

/-- The row an uploaded key is stored in. -/
def IsPrekeyOf (deviceId : Uuid) (now : Time) (key : ℤ × String) (row : PrekeyRow) : Prop :=
  row = ⟨deviceId, key.1, row.publicKey, .available, now, none⟩ ∧
    decodeHex (cString key.2) = some row.publicKey

/-- What an upload commits: a row for each key of the batch, none of which existed. -/
inductive UploadSpec (user deviceId : Uuid) (prekeyRecord : List (ℤ × String)) :
    Bool → List Write → Db → Prop where
  | stored {db : Db} (now : Time) (rows : List PrekeyRow) :
      db.activeOwner deviceId = some user →
      List.Forall₂ (IsPrekeyOf deviceId now) prekeyRecord rows →
      (∀ row ∈ rows, db.prekeyRow deviceId row.prekeyId = []) → (rows.map (·.prekeyId)).Nodup →
      UploadSpec user deviceId prekeyRecord true (rows.map .insertPrekey) db
  | refused {db : Db} : UploadSpec user deviceId prekeyRecord false [] db

/-- Each row of an upload stores one of its keys. -/
theorem exists_key {deviceId : Uuid} {now : Time} {keys : List (ℤ × String)} {rows : List PrekeyRow}
    (h : List.Forall₂ (IsPrekeyOf deviceId now) keys rows) {row : PrekeyRow} (hrow : row ∈ rows) :
    ∃ key ∈ keys, IsPrekeyOf deviceId now key row := by
  induction h with
  | nil => cases hrow
  | cons hkey _ ih =>
    rcases List.mem_cons.mp hrow with rfl | hrow
    · exact ⟨_, List.mem_cons_self .., hkey⟩
    · obtain ⟨key, hmem, hk⟩ := ih hrow
      exact ⟨key, List.mem_cons_of_mem _ hmem, hk⟩

/-- Each key of an upload is stored in one of its rows. -/
theorem exists_row {deviceId : Uuid} {now : Time} {keys : List (ℤ × String)} {rows : List PrekeyRow}
    (h : List.Forall₂ (IsPrekeyOf deviceId now) keys rows) {key : ℤ × String} (hkey : key ∈ keys) :
    ∃ row ∈ rows, IsPrekeyOf deviceId now key row := by
  induction h with
  | nil => cases hkey
  | cons hrow _ ih =>
    rcases List.mem_cons.mp hkey with rfl | hkey
    · exact ⟨_, List.mem_cons_self .., hrow⟩
    · obtain ⟨row, hmem, hr⟩ := ih hkey
      exact ⟨row, List.mem_cons_of_mem _ hmem, hr⟩

theorem prekeys_applyAll (rows : List PrekeyRow) (db : Db) :
    ((schema P).applyAll (rows.map .insertPrekey) db).deviceOneTimePrekeys =
      db.deviceOneTimePrekeys ++ rows := by
  induction rows generalizing db with
  | nil => simp
  | cons row rows ih =>
    rw [List.map_cons, Schema.applyAll_cons, ih]
    simp [Db.write]

/-- The loop of the upload. The rows already inserted are in the transaction's writes; each key it
still inserts is locked from its own insertion to the end. -/
theorem wp_insertPrekeys {deviceId : Uuid} {now : Time} {prekeyRecord : List (ℤ × String)}
    {Q : Unit → Local Db Write Key → Db → Prop} {s : Local Db Write Key} (done : List PrekeyRow)
    (hs : s.writes = done.map .insertPrekey)
    (hQ : ∀ s' db' rows, s'.writes = (done ++ rows).map .insertPrekey → s.locks ⊆ s'.locks →
      Interference (schema P) s.locks db db' →
      List.Forall₂ (IsPrekeyOf deviceId now) prekeyRecord rows →
      (∀ row ∈ rows, (Key.prekey deviceId row.prekeyId, Mode.exclusive) ∈ s'.locks ∧
        db'.prekeyRow deviceId row.prekeyId = []) →
      (∀ row ∈ rows, ∀ d ∈ done, d.deviceId = deviceId → d.prekeyId ≠ row.prekeyId) →
      (rows.map (·.prekeyId)).Nodup → Q () s' db') :
    wp (schema P) (insertPrekeys deviceId now prekeyRecord) Q s db := by
  induction prekeyRecord generalizing Q s db done with
  | nil =>
    exact wp_ret fun db' hi => hQ s db' [] (by simpa using hs) (List.Subset.refl _) hi .nil
      (by simp) (by simp) (by simp)
  | cons key rest ih =>
    obtain ⟨index, prekey⟩ := key
    refine wp_bind (wp_decodeParameter fun publicKey db₁ hkey h₁ => wp_bind (wp_insertRow ?_
      fun s₂ db₂ db₃ hw hse hlo hkeys h₂ h₃ hv => ?_))
    · exact List.subset_append_left _ _
    have hk : (Key.prekey deviceId index, Mode.exclusive) ∈ s₂.locks :=
      hkeys _ (List.mem_singleton_self _)
    -- the key is neither in the table nor among the rows inserted before
    have hfree : db₂.prekeyRow deviceId index = [] ∧
        ∀ d ∈ done, d.deviceId = deviceId → d.prekeyId ≠ index := by
      have hempty : ((schema P).applyAll s.writes db₂).prekeyRow deviceId index = [] := by
        by_contra hne
        simp [hne] at hv
      rw [hs, Db.prekeyRow, prekeys_applyAll, List.filter_append, List.append_eq_nil_iff] at hempty
      refine ⟨hempty.1, fun d hd hdev hid => ?_⟩
      exact List.filter_eq_nil_iff.mp hempty.2 d hd (by simp [hdev, hid])
    refine ih (done ++ [⟨deviceId, index, publicKey, .available, now, none⟩])
      (by rw [hw, hs, List.map_append]; rfl) fun s' db' rows hw' hlo' hi' hrows hlocked hdone hnd => ?_
    have hkeep : Interference (schema P) s₂.locks db₂ db' := h₃.trans hi'
    refine hQ s' db' (⟨deviceId, index, publicKey, .available, now, none⟩ :: rows)
      (by rw [hw', List.append_assoc]; rfl) (List.Subset.trans hlo hlo')
      (h₁.trans (h₂.trans (hkeep.mono hlo))) (.cons ⟨rfl, hkey⟩ hrows) ?_ ?_ ?_
    · intro row hrow
      rcases List.mem_cons.mp hrow with rfl | hrow
      · exact ⟨hlo' hk, (prekeyRow_stable hk hkeep).trans hfree.1⟩
      · exact hlocked row hrow
    · intro row hrow d hd hdev
      rcases List.mem_cons.mp hrow with rfl | hrow
      · exact hfree.2 d hd hdev
      · exact hdone row hrow d (List.mem_append_left _ hd) hdev
    · rw [List.map_cons, List.nodup_cons]
      refine ⟨fun hmem => ?_, hnd⟩
      obtain ⟨row, hrow, hid⟩ := List.mem_map.mp hmem
      exact hdone row hrow _ (List.mem_append_right _ (List.mem_singleton_self _)) rfl hid.symm

/-- **`createNewOnetimeKey` meets its specification.** -/
theorem wp_createNewOnetimeKey {user deviceId : Uuid} {prekeyRecord : List (ℤ × String)} (db : Db) :
    wp (schema P) (createNewOnetimeKey user deviceId prekeyRecord)
      (fun r s db => UploadSpec user deviceId prekeyRecord r s.writes db) {} db := by
  refine wp_bind (wp_read fun db₀ h₀ => wp_ret fun db₁ h₁ =>
    wp_bind (wp_selectActiveDevice rfl fun s₂ db₂ ok hw hse hlo h₂ hyes hno => ?_))
  cases ok with
  | false =>
    rw [if_pos rfl]
    exact wp_ret fun db₃ h₃ => hw ▸ .refused
  | true =>
    rw [if_neg (by decide)]
    refine wp_bind (wp_insertPrekeys [] hw fun s₃ db₃ rows hw₃ hlo₃ h₃ hrows hlocked _ hnd =>
      wp_ret fun db₄ h₄ => ?_)
    rw [hw₃, List.nil_append]
    refine .stored _ rows ((hyes rfl).stable (h₃.trans (h₄.mono hlo₃))).active hrows
      (fun row hrow => ?_) hnd
    obtain ⟨hk, hempty⟩ := hlocked row hrow
    rw [prekeyRow_stable hk h₄, hempty]

/-! ### Claiming a prekey -/

/-- `SELECT fr.id FROM app.friend_relation AS fr WHERE fr.user_id = $1 AND fr.friend_id = $2
FOR SHARE OF fr`. -/
def selectFriendship (myId friendId : Uuid) : Tx (List Unit) :=
  selectLocked (fun _ => [(.friendRelation myId friendId, .share)])
    (fun db => (whether (db.friendRelation myId friendId)).toList)
    fun db _ => whether (db.friendRelation myId friendId)

/-- The condition of the authorization query of `getOneTimeKey`. -/
def claimable (myId friendId deviceId : Uuid) (db : Db) : Bool :=
  db.activeOwner deviceId = some friendId ∧ db.isActive myId

/-- The authorization query of `getOneTimeKey`, `FOR SHARE OF ud, friend_user,
current_user_record`. -/
def selectClaimable (myId friendId deviceId : Uuid) : Tx (List Unit) :=
  selectLocked (fun _ => ownerLocks deviceId friendId ++ [(.user myId, .share)])
    (fun db => (whether (claimable myId friendId deviceId db)).toList)
    fun db _ => whether (claimable myId friendId deviceId db)

/-- The row of an available prekey. -/
def availableRow (deviceId : Uuid) (db : Db) (prekeyId : ℤ) : Option PrekeyRow :=
  (db.prekeyRow deviceId prekeyId).find? fun row => row.state = .available

/-- `WITH selected_prekey AS (SELECT … ORDER BY prekey_id LIMIT 1 FOR UPDATE SKIP LOCKED)
UPDATE … SET state = 'claimed' … RETURNING pk.prekey_id, encode(pk.public_key, 'hex')`. -/
def claimPrekey (deviceId : Uuid) (now : Time) : Tx (Option (ℤ × String)) :=
  .read fun db =>
    (firstUnlocked (Key.prekey deviceId) (availableRow deviceId)
      (((db.deviceOneTimePrekeys.filter fun row => row.deviceId = deviceId ∧ row.state = .available).map
        (·.prekeyId)).insertionSort (· ≤ ·))).bind fun selected => match selected with
      | none => .ret none
      | some row => .write (.claimPrekey deviceId row.prekeyId now)
          (.ret (some (row.prekeyId, encodeHex row.publicKey)))

/-- The last two steps of `getOneTimeKey`: the device, and then the key. -/
def claimFrom (myId friendId deviceId : Uuid) (now : Time) : Tx PrekeyClaimResult :=
  (selectClaimable myId friendId deviceId).bind fun device =>
    if device.isEmpty then .ret ⟨.deviceUnavailable, none⟩
    else (claimPrekey deviceId now).bind fun result => match result with
      | none => .ret ⟨.noPrekey, none⟩
      | some (prekeyId, publicKeyHex) =>
        .ret ⟨.success, some ⟨deviceId, prekeyId, publicKeyHex⟩⟩

/-- `KeyRepository::getOneTimeKey`. -/
def getOneTimeKey (myId friendId deviceId : Uuid) : Tx PrekeyClaimResult :=
  beginTransaction.bind fun now =>
    if myId ≠ friendId then (selectFriendship myId friendId).bind fun friendship =>
      if friendship.isEmpty then .ret ⟨.notFriends, none⟩ else claimFrom myId friendId deviceId now
    else claimFrom myId friendId deviceId now

/-- What a claim commits. -/
inductive ClaimSpec (me friend deviceId : Uuid) : PrekeyClaimResult → List Write → Db → Prop where
  | success {db : Db} (row : PrekeyRow) (now : Time) :
      me = friend ∨ db.friendRelation me friend → db.isActive me →
      db.activeOwner deviceId = some friend → row ∈ db.deviceOneTimePrekeys →
      row.deviceId = deviceId → row.state = .available →
      ClaimSpec me friend deviceId
        ⟨.success, some ⟨deviceId, row.prekeyId, encodeHex row.publicKey⟩⟩
        [.claimPrekey deviceId row.prekeyId now] db
  | refused {db : Db} (status : PrekeyClaimStatus) : status ≠ .success →
      ClaimSpec me friend deviceId ⟨status, none⟩ [] db

theorem mem_prekeyRow {deviceId : Uuid} {prekeyId : ℤ} {row : PrekeyRow} :
    row ∈ db.prekeyRow deviceId prekeyId ↔
      row ∈ db.deviceOneTimePrekeys ∧ row.deviceId = deviceId ∧ row.prekeyId = prekeyId := by
  simp [Db.prekeyRow]

/-- What the authorization of a claim establishes. -/
theorem wp_selectClaimable {me friend deviceId : Uuid}
    {Q : List Unit → Local Db Write Key → Db → Prop} {s : Local Db Write Key} (hs : s.writes = [])
    (hQ : ∀ s' db' rows, s'.writes = [] → s.locks ⊆ s'.locks →
      Interference (schema P) s.locks db db' →
      (rows ≠ [] → HeldActive s'.locks deviceId friend db' ∧ (Key.user me, Mode.share) ∈ s'.locks ∧
        db'.isActive me) → Q rows s' db') :
    wp (schema P) (selectClaimable me friend deviceId) Q s db := by
  refine wp_selectOne (fun held a b hl hi => ?_) fun s₁ db₁ rows hw hlo h₁ hrows => ?_
  · have hme : b.isActive me = a.isActive me := by
      rw [Db.isActive, Db.isActive, users_stable (hl (List.mem_append_right _
        (List.mem_singleton_self _))) hi]
    have hown := activeOwner_stable ⟨_, hl (List.mem_append_left _ mem_ownerLocks_device)⟩
      ⟨_, hl (List.mem_append_left _ mem_ownerLocks_user)⟩ hi
    simp only [hs, Schema.applyAll_nil, claimable, hown, hme]
  · refine hQ s₁ db₁ rows (hw.trans hs) hlo h₁ fun hne => ?_
    obtain ⟨hl, hq⟩ := hrows hne
    rw [hs, Schema.applyAll_nil, isSome_whether] at hq
    obtain ⟨hown, hme⟩ := of_decide_eq_true hq
    exact ⟨⟨⟨_, hl (List.mem_append_left _ mem_ownerLocks_device)⟩,
      ⟨_, hl (List.mem_append_left _ mem_ownerLocks_user)⟩, hown⟩,
      hl (List.mem_append_right _ (List.mem_singleton_self _)), hme⟩

/-- The claim itself: the row that is claimed is available until the transaction ends. -/
theorem wp_claimPrekey {deviceId : Uuid} {now : Time}
    {Q : Option (ℤ × String) → Local Db Write Key → Db → Prop} {s : Local Db Write Key}
    (hs : s.writes = [])
    (hnone : ∀ s' db', s'.writes = [] → s.locks ⊆ s'.locks →
      Interference (schema P) s.locks db db' → Q none s' db')
    (hsome : ∀ s' db' row, s'.writes = [.claimPrekey deviceId row.prekeyId now] →
      s.locks ⊆ s'.locks → Interference (schema P) s.locks db db' →
      (∀ later, Interference (schema P) s'.locks db' later → row ∈ later.deviceOneTimePrekeys) →
      row.deviceId = deviceId → row.state = .available →
      Q (some (row.prekeyId, encodeHex row.publicKey)) s' db') :
    wp (schema P) (claimPrekey deviceId now) Q s db := by
  refine wp_read fun db₁ h₁ => wp_bind (wp_firstUnlocked
    (fun s₂ db₂ hw₂ _ hlo₂ h₂ => wp_ret fun db₃ h₃ => ?_)
    fun n _ row s₂ db₂ db₃ hw₂ _ hlo₂ hk h₂ h₃ hrow => ?_)
  · exact hnone s₂ db₃ (hw₂.trans hs) hlo₂ (h₁.trans (h₂.trans (h₃.mono hlo₂)))
  · rw [Local.writes_see, hs, Schema.applyAll_nil] at hrow
    have hav : row.state = .available := by simpa using List.find?_some hrow
    have hmem := List.mem_of_find?_eq_some hrow
    obtain ⟨-, hdev, rfl⟩ := mem_prekeyRow.mp hmem
    refine wp_write (by simpa [Write.needs] using hk) (wp_ret fun db₄ h₄ => ?_)
    have h₂₄ : Interference (schema P) s₂.locks db₂ db₄ := h₃.trans h₄
    refine hsome _ db₄ row (by simp [hw₂, hs]) hlo₂ (h₁.trans (h₂.trans (h₂₄.mono hlo₂)))
      (fun later hlater => ?_) hdev hav
    have hfinal : row ∈ later.prekeyRow deviceId row.prekeyId := by
      rw [prekeyRow_stable hk (h₂₄.trans hlater)]
      exact hmem
    exact (mem_prekeyRow.mp hfinal).1

/-- The last two steps, whatever is known of the friendship by then. -/
theorem wp_claimFrom {me friend deviceId : Uuid} {now : Time} {s : Local Db Write Key}
    (hs : s.writes = [])
    (hfriend : ∀ later, Interference (schema P) s.locks db later →
      me = friend ∨ later.friendRelation me friend) :
    wp (schema P) (claimFrom me friend deviceId now)
      (fun r s db => ClaimSpec me friend deviceId r s.writes db) s db := by
  refine wp_bind (wp_selectClaimable hs fun s₁ db₁ rows hw₁ hlo₁ h₁ hrows => ?_)
  cases rows with
  | nil => exact wp_ret fun db₂ h₂ => hw₁ ▸ .refused _ (by decide)
  | cons r rest =>
    obtain ⟨hheld, hk, hme⟩ := hrows (by simp)
    refine wp_bind (wp_claimPrekey hw₁ (fun s₂ db₂ hw₂ _ _ => wp_ret fun db₃ h₃ => ?_)
      fun s₂ db₂ row hw₂ hlo₂ h₂ hrow hdev hav => wp_ret fun db₃ h₃ => ?_)
    · exact hw₂ ▸ .refused _ (by decide)
    · have h₁₃ : Interference (schema P) s₁.locks db₁ db₃ := h₂.trans (h₃.mono hlo₂)
      rw [hw₂]
      refine .success row now (hfriend db₃ (h₁.trans (h₁₃.mono hlo₁))) ?_ (hheld.stable h₁₃).active
        (hrow db₃ h₃) hdev hav
      rw [Db.isActive, users_stable hk h₁₃]
      exact hme

theorem wp_selectFriendship {me friend : Uuid} {Q : List Unit → Local Db Write Key → Db → Prop}
    {s : Local Db Write Key} (hs : s.writes = [])
    (hQ : ∀ s' db' rows, s'.writes = [] →
      (rows ≠ [] → ∀ later, Interference (schema P) s'.locks db' later →
        later.friendRelation me friend) → Q rows s' db') :
    wp (schema P) (selectFriendship me friend) Q s db := by
  refine wp_selectOne (fun held a b hl hi => ?_) fun s₁ db₁ rows hw hlo h₁ hrows => ?_
  · simp only [hs, Schema.applyAll_nil, friendRelation_stable (hl (List.mem_singleton_self _)) hi]
  · refine hQ s₁ db₁ rows (hw.trans hs) fun hne later hlater => ?_
    obtain ⟨hl, hq⟩ := hrows hne
    rw [hs, Schema.applyAll_nil, isSome_whether] at hq
    rw [friendRelation_stable (hl (List.mem_singleton_self _)) hlater]
    exact hq

/-- **`getOneTimeKey` meets its specification.** -/
theorem wp_getOneTimeKey {me friend deviceId : Uuid} (db : Db) :
    wp (schema P) (getOneTimeKey me friend deviceId)
      (fun r s db => ClaimSpec me friend deviceId r s.writes db) {} db := by
  refine wp_bind (wp_read fun db₀ h₀ => wp_ret fun db₁ h₁ => ?_)
  split_ifs with hne
  · refine wp_bind (wp_selectFriendship rfl fun s₂ db₂ rows hw₂ hrows => ?_)
    cases rows with
    | nil => exact wp_ret fun db₃ h₃ => hw₂ ▸ .refused _ (by decide)
    | cons r rest =>
      exact wp_claimFrom hw₂ fun later hi => Or.inr (hrows (by simp) later hi)
  · exact wp_claimFrom rfl fun later hi => Or.inl (not_not.mp hne)

end KeyRepository

end ChatBackend
