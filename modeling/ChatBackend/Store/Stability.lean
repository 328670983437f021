import ChatBackend.Store.Schema

/-!
# What the locks protect

For each kind of lock, the part of the committed state that nobody else can change while it is
held. Each result has two halves: a write that does not need the lock leaves that part alone
(`write_…`), and so does all the interference that the lock admits (`…_stable`).

## Main results

* `userDevices_stable`, `users_stable`, `friendRelation_stable`, `friendRequests_stable`,
  `loginTickets_stable` — row locks
* `pairEnvelopes_stable` — the advisory lock of a device pair
* `deviceTokens_stable` — an exclusive device lock keeps new refresh tokens out
* `deviceOwner_stable`, `clock_stable` — what needs no lock at all
-/

namespace ChatBackend

open ReadCommitted

variable {P : Platform} {locks : List (Key × Mode)} {db db' : Db} {m : Mode}

/-- The stability rule for a part of the state that only the holders of one lock change. -/
theorem part_stable {γ : Type} {f : Db → γ} {key : Key}
    (hw : ∀ w : Write, (key, Mode.exclusive) ∉ w.needs P → ∀ db, f (db.write w) = f db)
    (hd : ∀ db now, f { db with clock := now } = f db) (hm : (key, m) ∈ locks)
    (h : Interference (schema P) locks db db') : f db' = f db := by
  refine h.part_eq (fun w hc db => hw w (hc.not_mem_exclusive hm) db) ?_
  rintro db _ ⟨now, -, rfl⟩
  exact hd db now

/-- Changing rows in place leaves alone every selection of rows that are not changed. -/
theorem filter_map_of_eq {α : Type} {p : α → Bool} {g : α → α} {l : List α}
    (hp : ∀ a, p (g a) = p a) (hg : ∀ a, p a → g a = a) : (l.map g).filter p = l.filter p := by
  rw [List.filter_map, Function.comp_def, funext hp]
  conv_rhs => rw [← List.map_id (l.filter p)]
  exact List.map_congr_left fun a ha => hg a (List.mem_filter.mp ha).2

/-! ### Rows with a primary key -/

theorem write_users {id : Uuid} {w : Write} (h : (Key.user id, Mode.exclusive) ∉ w.needs P) :
    (db.write w).users id = db.users id := by
  cases w <;> simp_all [Db.write, Write.needs]

theorem users_stable {id : Uuid} (hm : (Key.user id, m) ∈ locks)
    (h : Interference (schema P) locks db db') : db'.users id = db.users id :=
  part_stable (f := fun x => x.users id) (fun _ hw _ => write_users hw) (fun _ _ => rfl) hm h

theorem write_userDevices {id : Uuid} {w : Write}
    (h : (Key.device id, Mode.exclusive) ∉ w.needs P) :
    (db.write w).userDevices id = db.userDevices id := by
  cases w <;> simp_all [Db.write, Write.needs]

theorem userDevices_stable {id : Uuid} (hm : (Key.device id, m) ∈ locks)
    (h : Interference (schema P) locks db db') : db'.userDevices id = db.userDevices id :=
  part_stable (f := fun x => x.userDevices id) (fun _ hw _ => write_userDevices hw) (fun _ _ => rfl) hm h

theorem write_friendRelation {a b : Uuid} {w : Write}
    (h : (Key.friendRelation a b, Mode.exclusive) ∉ w.needs P) :
    (db.write w).friendRelation a b = db.friendRelation a b := by
  cases w with
  | befriend c d | unfriend c d =>
    by_cases hc : a = c <;> by_cases hd : b = d <;>
      simp_all [Db.write, Write.needs]
  | _ => rfl

theorem friendRelation_stable {a b : Uuid} (hm : (Key.friendRelation a b, m) ∈ locks)
    (h : Interference (schema P) locks db db') : db'.friendRelation a b = db.friendRelation a b :=
  part_stable (f := fun x => x.friendRelation a b) (fun _ hw _ => write_friendRelation hw) (fun _ _ => rfl) hm h

theorem write_friendRequests {id : Uuid} {w : Write}
    (h : (Key.friendRequest id, Mode.exclusive) ∉ w.needs P) :
    (db.write w).friendRequests id = db.friendRequests id := by
  cases w <;> simp_all [Db.write, Write.needs]

theorem friendRequests_stable {id : Uuid} (hm : (Key.friendRequest id, m) ∈ locks)
    (h : Interference (schema P) locks db db') : db'.friendRequests id = db.friendRequests id :=
  part_stable (f := fun x => x.friendRequests id) (fun _ hw _ => write_friendRequests hw)
    (fun _ _ => rfl) hm h

theorem write_loginTickets {hash : String} {w : Write}
    (h : (Key.ticket hash, Mode.exclusive) ∉ w.needs P) :
    (db.write w).loginTickets hash = db.loginTickets hash := by
  cases w <;> simp_all [Db.write, Write.needs]

theorem loginTickets_stable {hash : String} (hm : (Key.ticket hash, m) ∈ locks)
    (h : Interference (schema P) locks db db') : db'.loginTickets hash = db.loginTickets hash :=
  part_stable (f := fun x => x.loginTickets hash) (fun _ hw _ => write_loginTickets hw) (fun _ _ => rfl) hm h

/-! ### Envelopes -/

/-- The envelopes of an unordered device pair, oldest first, without `received_at`. -/
def Db.pairEnvelopes (db : Db) (pair : Uuid × Uuid) : List Envelope :=
  (db.messageEnvelopes.map EnvelopeRow.toEnvelope).filter fun e =>
    pairOf e.senderDeviceId e.recipientDeviceId = pair

/-- Acknowledging touches no column but `received_at`. -/
theorem toEnvelope_write_setReceivedAt {id : Uuid} {at' : Time} :
    (db.write (.setReceivedAt id at')).messageEnvelopes.map EnvelopeRow.toEnvelope =
      db.messageEnvelopes.map EnvelopeRow.toEnvelope := by
  rw [Db.write, List.map_map]
  refine List.map_congr_left fun row _ => ?_
  by_cases h : row.envelopeId = id <;> simp [h]

/-- Only an insertion changes what the envelopes are. -/
theorem toEnvelope_write {w : Write} (h : ∀ row, w ≠ .insertEnvelope row) :
    (db.write w).messageEnvelopes.map EnvelopeRow.toEnvelope =
      db.messageEnvelopes.map EnvelopeRow.toEnvelope := by
  cases w with
  | insertEnvelope row => exact absurd rfl (h row)
  | setReceivedAt id at' => exact toEnvelope_write_setReceivedAt
  | _ => rfl

theorem write_pairEnvelopes {a b : Uuid} {w : Write}
    (h : (pairKey P a b, Mode.exclusive) ∉ w.needs P) :
    (db.write w).pairEnvelopes (pairOf a b) = db.pairEnvelopes (pairOf a b) := by
  rw [Db.pairEnvelopes, Db.pairEnvelopes]
  by_cases hw : ∃ row, w = .insertEnvelope row
  · obtain ⟨row, rfl⟩ := hw
    have hne : pairOf row.senderDeviceId row.recipientDeviceId ≠ pairOf a b := by
      intro he
      refine h ?_
      rw [← pairKey_eq_of_pairOf he]
      exact List.mem_cons_self ..
    simp [Db.write, hne]
  · rw [toEnvelope_write fun row hrow => hw ⟨row, hrow⟩]

theorem pairEnvelopes_stable {a b : Uuid} (hm : (pairKey P a b, m) ∈ locks)
    (h : Interference (schema P) locks db db') :
    db'.pairEnvelopes (pairOf a b) = db.pairEnvelopes (pairOf a b) :=
  part_stable (f := fun x => x.pairEnvelopes (pairOf a b)) (fun _ hw _ => write_pairEnvelopes hw) (fun _ _ => rfl) hm h

/-- The row of an envelope. -/
def Db.envelopeRow (db : Db) (id : Uuid) : List EnvelopeRow :=
  db.messageEnvelopes.filter fun row => row.envelopeId = id

theorem write_envelopeRow {id : Uuid} {w : Write}
    (h : (Key.envelope id, Mode.exclusive) ∉ w.needs P) :
    (db.write w).envelopeRow id = db.envelopeRow id := by
  rw [Db.envelopeRow, Db.envelopeRow]
  cases w with
  | insertEnvelope row =>
    have hne : row.envelopeId ≠ id := fun he => h (by simp [Write.needs, he])
    simp [Db.write, hne]
  | setReceivedAt id' at' =>
    have hne : id' ≠ id := fun he => h (by simp [Write.needs, he])
    refine filter_map_of_eq (fun row => by split_ifs <;> rfl) fun row hrow => if_neg ?_
    rw [of_decide_eq_true hrow]
    exact hne.symm
  | _ => rfl

theorem envelopeRow_stable {id : Uuid} (hm : (Key.envelope id, m) ∈ locks)
    (h : Interference (schema P) locks db db') : db'.envelopeRow id = db.envelopeRow id :=
  part_stable (f := fun x => x.envelopeRow id) (fun _ hw _ => write_envelopeRow hw) (fun _ _ => rfl) hm h

/-! ### Prekeys and key bundles -/

/-- The row of a one-time prekey. -/
def Db.prekeyRow (db : Db) (deviceId : Uuid) (prekeyId : ℤ) : List PrekeyRow :=
  db.deviceOneTimePrekeys.filter fun row => row.deviceId = deviceId ∧ row.prekeyId = prekeyId

theorem write_prekeyRow {deviceId : Uuid} {prekeyId : ℤ} {w : Write}
    (h : (Key.prekey deviceId prekeyId, Mode.exclusive) ∉ w.needs P) :
    (db.write w).prekeyRow deviceId prekeyId = db.prekeyRow deviceId prekeyId := by
  rw [Db.prekeyRow, Db.prekeyRow]
  cases w with
  | insertPrekey row =>
    have hne : ¬ (row.deviceId = deviceId ∧ row.prekeyId = prekeyId) :=
      fun he => h (by simp [Write.needs, he.1, he.2])
    simp [Db.write, hne]
  | claimPrekey d n at' =>
    have hne : ¬ (d = deviceId ∧ n = prekeyId) := fun he => h (by simp [Write.needs, he.1, he.2])
    refine filter_map_of_eq (fun row => by split_ifs <;> rfl) fun row hrow => if_neg ?_
    obtain ⟨hd, hn⟩ := of_decide_eq_true hrow
    rw [hd, hn]
    exact fun he => hne ⟨he.1.symm, he.2.symm⟩
  | _ => rfl

theorem prekeyRow_stable {deviceId : Uuid} {prekeyId : ℤ}
    (hm : (Key.prekey deviceId prekeyId, m) ∈ locks) (h : Interference (schema P) locks db db') :
    db'.prekeyRow deviceId prekeyId = db.prekeyRow deviceId prekeyId :=
  part_stable (f := fun x => x.prekeyRow deviceId prekeyId) (fun _ hw _ => write_prekeyRow hw) (fun _ _ => rfl) hm h

/-- The row of a key bundle. -/
def Db.bundleRow (db : Db) (deviceId : Uuid) (keyVersion : ℤ) : List BundleRow :=
  db.deviceKeyBundles.filter fun row => row.deviceId = deviceId ∧ row.keyVersion = keyVersion

/-! ### Refresh tokens -/

/-- The row of a refresh token. -/
def Db.tokenRow (db : Db) (id : Uuid) : List TokenRow :=
  db.refreshTokens.filter fun row => row.id = id

theorem write_tokenRow {id : Uuid} {w : Write} (h : (Key.token id, Mode.exclusive) ∉ w.needs P) :
    (db.write w).tokenRow id = db.tokenRow id := by
  rw [Db.tokenRow, Db.tokenRow]
  cases w with
  | insertToken row =>
    have hne : row.id ≠ id := fun he => h (by simp [Write.needs, he])
    simp [Db.write, hne]
  | revokeToken id' at' =>
    have hne : id' ≠ id := fun he => h (by simp [Write.needs, he])
    refine filter_map_of_eq (fun row => by split_ifs <;> rfl) fun row hrow => if_neg ?_
    rw [of_decide_eq_true hrow]
    exact hne.symm
  | deleteToken id' =>
    have hne : id' ≠ id := fun he => h (by simp [Write.needs, he])
    rw [Db.write, List.filter_filter]
    refine List.filter_congr fun row _ => ?_
    by_cases hid : row.id = id <;> simp [hid, hne.symm]
  | _ => rfl

theorem tokenRow_stable {id : Uuid} (hm : (Key.token id, m) ∈ locks)
    (h : Interference (schema P) locks db db') : db'.tokenRow id = db.tokenRow id :=
  part_stable (f := fun x => x.tokenRow id) (fun _ hw _ => write_tokenRow hw) (fun _ _ => rfl) hm h

/-- What every write but an insertion does to the tokens: those that are left differ from what they
were in `revoked_at` alone. -/
theorem mem_refreshTokens_write {w : Write} (h : ∀ row, w ≠ .insertToken row) {t' : TokenRow}
    (ht : t' ∈ (db.write w).refreshTokens) :
    ∃ t ∈ db.refreshTokens, t' = { t with revokedAt := t'.revokedAt } := by
  cases w with
  | insertToken row => exact absurd rfl (h row)
  | revokeToken id at' =>
    obtain ⟨t, htm, rfl⟩ := List.mem_map.mp ht
    exact ⟨t, htm, by split_ifs <;> rfl⟩
  | deleteToken id => exact ⟨t', (List.mem_filter.mp ht).1, rfl⟩
  | _ => exact ⟨t', ht, rfl⟩

/-- Nobody else inserts a token with a locked hash. -/
theorem tokenHash_stable {hash : String} (hm : (Key.tokenHash hash, m) ∈ locks)
    (h : Interference (schema P) locks db db') (hnone : ∀ t ∈ db.refreshTokens, t.tokenHash ≠ hash) :
    ∀ t ∈ db'.refreshTokens, t.tokenHash ≠ hash := by
  refine h.preserves (P := fun x => ∀ t ∈ x.refreshTokens, t.tokenHash ≠ hash) ?_ ?_ hnone
  · intro w hc db hdb t' ht'
    by_cases hw : ∃ row, w = .insertToken row
    · obtain ⟨row, rfl⟩ := hw
      rcases List.mem_append.mp ht' with ht' | ht'
      · exact hdb t' ht'
      · rw [List.mem_singleton.mp ht']
        intro he
        exact hc.not_mem_exclusive hm (by simp [Write.needs, he])
    · obtain ⟨t, ht, he⟩ := mem_refreshTokens_write (fun row hrow => hw ⟨row, hrow⟩) ht'
      rw [he]
      exact hdb t ht
  · rintro db _ ⟨now, -, rfl⟩ hdb
    exact hdb

/-- **An exclusive device lock keeps new refresh tokens of the device out.** -/
theorem deviceTokens_stable {id : Uuid} (hm : (Key.device id, Mode.exclusive) ∈ locks)
    (h : Interference (schema P) locks db db') :
    ∀ t' ∈ db'.refreshTokens, t'.deviceId = id →
      ∃ t ∈ db.refreshTokens, t' = { t with revokedAt := t'.revokedAt } := by
  refine h.preserves (P := fun x => ∀ t' ∈ x.refreshTokens, t'.deviceId = id →
    ∃ t ∈ db.refreshTokens, t' = { t with revokedAt := t'.revokedAt }) ?_ ?_ ?_
  · intro w hc x hx t' ht' hid
    by_cases hw : ∃ row, w = .insertToken row
    · obtain ⟨row, rfl⟩ := hw
      rcases List.mem_append.mp ht' with ht' | ht'
      · exact hx t' ht' hid
      · rw [List.mem_singleton] at ht'
        subst ht'
        exact absurd (by simp [Write.needs, hid]) (hc.not_mem_of_exclusive (m := .share) hm)
    · obtain ⟨t, ht, he⟩ := mem_refreshTokens_write (fun row hrow => hw ⟨row, hrow⟩) ht'
      obtain ⟨t₀, ht₀, he₀⟩ := hx t ht (by rw [← hid, he])
      refine ⟨t₀, ht₀, ?_⟩
      rw [he, he₀]
  · rintro x _ ⟨now, -, rfl⟩ hx
    exact hx
  · exact fun t ht _ => ⟨t, ht, rfl⟩

/-! ### What needs no lock -/

/-- A device's owner never changes. -/
theorem write_deviceOwner {id u : Uuid} {w : Write}
    (h : (db.userDevices id).map DeviceRow.userId = some u) :
    ((db.write w).userDevices id).map DeviceRow.userId = some u := by
  cases w with
  | insertDevice id' row | revokeDevice id' at' =>
    by_cases hid : id = id'
    · subst hid
      cases hd : db.userDevices id <;> simp_all [Db.write]
    · simpa [Db.write, hid] using h
  | _ => exact h

theorem deviceOwner_stable {id u : Uuid} (h : Interference (schema P) locks db db')
    (hu : (db.userDevices id).map DeviceRow.userId = some u) :
    (db'.userDevices id).map DeviceRow.userId = some u := by
  refine h.preserves (P := fun x => (x.userDevices id).map DeviceRow.userId = some u)
    (fun w _ x hx => write_deviceOwner hx) ?_ hu
  rintro x _ ⟨now, -, rfl⟩ hx
  exact hx

@[simp] theorem write_clock (w : Write) : (db.write w).clock = db.clock := by cases w <;> rfl

theorem clock_stable (h : Interference (schema P) locks db db') : db.clock ≤ db'.clock := by
  refine h.preserves (P := fun x => db.clock ≤ x.clock) (fun w _ x hx => ?_) ?_ le_rfl
  · simpa using hx
  · rintro x _ ⟨now, hnow, rfl⟩ hx
    exact hx.trans hnow

end ChatBackend
