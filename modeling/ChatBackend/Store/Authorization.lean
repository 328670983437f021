import ChatBackend.ReadCommitted.Statements
import ChatBackend.Store.Stability

/-!
# Authorization under row locks

The check that most of the repositories make first: is this device active, does it belong to this
user, and is the user's account active? The statement locks both rows `FOR SHARE`, so the answer
stays right until the transaction ends; `HeldActive` is that fact together with the locks that keep
it.

## Main results

* `HeldActive.stable` — the answer survives all interference
* `wp_selectActiveDevice` — what the check establishes
-/

namespace ChatBackend

open ReadCommitted

/-- A repository's transaction. -/
abbrev Tx (α : Type) := Prog Db Write Key Uuid Error α

/-- `BEGIN`, which fixes `CURRENT_TIMESTAMP`. -/
def beginTransaction : Tx Time := .read fun db => .ret db.clock

/-- Rethrow what a pure function of the repository throws. -/
def ofExcept {α : Type} : Except Error α → Tx α
  | .ok a => .ret a
  | .error e => .throw e

/-! ### Active devices -/

/-- Is the account active? -/
def Db.isActive (db : Db) (userId : Uuid) : Bool := (db.users userId).any UserRow.isActive

/-- The owner of a device, if the device and the owner's account are active. -/
def Db.activeOwner (db : Db) (deviceId : Uuid) : Option Uuid :=
  (db.userDevices deviceId).bind fun row =>
    if row.status = .active ∧ db.isActive row.userId then some row.userId else none

theorem activeOwner_eq_some_iff {db : Db} {d u : Uuid} :
    db.activeOwner d = some u ↔
      ∃ row, db.userDevices d = some row ∧ row.userId = u ∧ row.status = .active ∧ db.isActive u := by
  rw [Db.activeOwner, Option.bind_eq_some_iff]
  constructor
  · rintro ⟨row, hrow, h⟩
    split_ifs at h with hc
    obtain rfl : row.userId = u := by simpa using h
    exact ⟨row, hrow, rfl, hc.1, hc.2⟩
  · rintro ⟨row, hrow, rfl, hs, ha⟩
    exact ⟨row, hrow, if_pos ⟨hs, ha⟩⟩

theorem activeOwner_congr {db db' : Db} {d u : Uuid} (hd : db'.userDevices d = db.userDevices d)
    (hu : db'.users u = db.users u) : db'.activeOwner d = some u ↔ db.activeOwner d = some u := by
  simp only [activeOwner_eq_some_iff, hd, Db.isActive, hu]

/-- A device known to be active, and the locks that keep it so. -/
structure HeldActive (locks : List (Key × Mode)) (d u : Uuid) (db : Db) : Prop where
  device : ∃ m, (Key.device d, m) ∈ locks
  user : ∃ m, (Key.user u, m) ∈ locks
  active : db.activeOwner d = some u

variable {P : Platform} {locks locks' : List (Key × Mode)} {db db' : Db} {d u : Uuid}

theorem activeOwner_stable (hd : ∃ m, (Key.device d, m) ∈ locks) (hu : ∃ m, (Key.user u, m) ∈ locks)
    (h : Interference (schema P) locks db db') :
    db'.activeOwner d = some u ↔ db.activeOwner d = some u := by
  obtain ⟨m, hm⟩ := hd
  obtain ⟨m', hm'⟩ := hu
  exact activeOwner_congr (userDevices_stable hm h) (users_stable hm' h)

theorem HeldActive.stable (h : HeldActive locks d u db) (hi : Interference (schema P) locks db db') :
    HeldActive locks d u db' :=
  ⟨h.device, h.user, (activeOwner_stable h.device h.user hi).mpr h.active⟩

theorem HeldActive.mono (h : HeldActive locks d u db) (hl : locks ⊆ locks') :
    HeldActive locks' d u db :=
  ⟨h.device.imp fun _ hm => hl hm, h.user.imp fun _ hm => hl hm, h.active⟩

/-! ### The check -/

/-- The locks of a device row and its owner's row, `FOR SHARE OF ud, u`. -/
def ownerLocks (d u : Uuid) : List (Key × Mode) := [(.device d, .share), (.user u, .share)]

/-- `SELECT … WHERE ud.user_id = $1 AND ud.device_id = $2 AND ud.status = 'active' AND
u.is_active = TRUE FOR SHARE OF ud, u`: is there a row? -/
def selectActiveDevice (userId deviceId : Uuid) : Tx Bool :=
  let qualifies (db : Db) : List Unit := if db.activeOwner deviceId = some userId then [()] else []
  (selectLocked (fun _ => ownerLocks deviceId userId) qualifies
    fun db _ => (qualifies db).head?).bind fun rows => .ret !rows.isEmpty

theorem mem_ownerLocks_device : (Key.device d, Mode.share) ∈ ownerLocks d u := List.mem_cons_self ..

theorem mem_ownerLocks_user : (Key.user u, Mode.share) ∈ ownerLocks d u :=
  List.mem_cons_of_mem _ (List.mem_singleton_self _)

/-- **What the check establishes.** If it succeeds, the device is active and stays so; if it fails,
then from there on it was not active in one of the states that were looked at, or is not now. -/
theorem wp_selectActiveDevice {Q : Bool → Local Db Write Key → Db → Prop}
    {s : Local Db Write Key} (hs : s.writes = [])
    (hQ : ∀ s' db' ok, s'.writes = [] → s.seen ⊆ s'.seen → s.locks ⊆ s'.locks →
      Interference (schema P) s.locks db db' →
      (ok = true → HeldActive s'.locks d u db') →
      (ok = false → ∀ later, Interference (schema P) s'.locks db' later →
        ∃ v ∈ later :: s'.seen, v.activeOwner d ≠ some u) → Q ok s' db') :
    wp (schema P) (selectActiveDevice u d) Q s db := by
  refine wp_bind (wp_selectLocked (fun _ held a b hl _ hi => ?_)
    fun s₁ db₁ db₂ rows hw hse hm hlo hls h₁ h₂ hrows => wp_ret fun db₃ h₃ => ?_)
  · rw [hs, Schema.applyAll_nil, Schema.applyAll_nil]
    simp only [activeOwner_stable ⟨_, hl mem_ownerLocks_device⟩ ⟨_, hl mem_ownerLocks_user⟩ hi]
  · simp only [hs, Schema.applyAll_nil] at hrows hls
    refine hQ s₁ db₃ _ (hw.trans hs) hse hlo (h₁.trans (h₂.trans (h₃.mono hlo))) (fun hok => ?_)
      fun hok later hlater => ?_
    · have hfound : db₁.activeOwner d = some u := by
        by_contra hne
        simp [hrows db₃ h₃, hne] at hok
      have hl : ownerLocks d u ⊆ s₁.locks := hls () (by simp [hfound])
      refine ⟨⟨_, hl mem_ownerLocks_device⟩, ⟨_, hl mem_ownerLocks_user⟩, ?_⟩
      by_contra hne
      simp [hrows db₃ h₃, hne] at hok
    · by_cases hfound : db₁.activeOwner d = some u
      · refine ⟨later, List.mem_cons_self .., fun he => ?_⟩
        simp [hrows later (h₃.trans hlater), hfound, he] at hok
      · exact ⟨db₁, List.mem_cons_of_mem _ hm, hfound⟩

/-! ### Single rows -/

/-- The row of a query that asks only whether there is one. -/
def whether (b : Bool) : Option Unit := if b then some () else none

@[simp] theorem isSome_whether (b : Bool) : (whether b).isSome = b := by cases b <;> rfl

/-- A single row that is asked for by its own condition: what is known if there is an answer. -/
theorem wp_selectOne {ls : List (Key × Mode)} {qualifies : Db → Option Unit}
    {Q : List Unit → Local Db Write Key → Db → Prop} {s : Local Db Write Key}
    (hstable : ∀ held a b, ls ⊆ held → Interference (schema P) held a b →
      qualifies ((schema P).applyAll s.writes b) = qualifies ((schema P).applyAll s.writes a))
    (hQ : ∀ s' db' rows, s'.writes = s.writes → s.locks ⊆ s'.locks →
      Interference (schema P) s.locks db db' →
      (rows ≠ [] → ls ⊆ s'.locks ∧ (qualifies ((schema P).applyAll s.writes db')).isSome) →
      Q rows s' db') :
    wp (schema P) (selectLocked (fun _ : Unit => ls) (fun db => (qualifies db).toList)
      (fun db _ => qualifies db) : Tx (List Unit)) Q s db := by
  refine wp_selectLocked (fun _ held a b hl _ hi => hstable held a b hl hi)
    fun s₁ db₁ db₂ rows hw hse hm hlo hls h₁ h₂ hrows => ?_
  refine hQ s₁ db₂ rows hw hlo (h₁.trans h₂) fun hne => ?_
  obtain ⟨r, hr⟩ := List.exists_mem_of_ne_nil rows hne
  rw [hrows db₂ (Interference.refl _ _)] at hr
  obtain ⟨i, hi, hr⟩ := List.mem_filterMap.mp hr
  exact ⟨hls i hi, Option.isSome_iff_exists.mpr ⟨r, hr⟩⟩

/-- `SELECT id FROM app.users WHERE id = $1 AND is_active = TRUE FOR SHARE`. -/
def selectActiveUser (userId : Uuid) : Tx (List Unit) :=
  selectLocked (fun _ => [(.user userId, .share)]) (fun db => (whether (db.isActive userId)).toList)
    fun db _ => whether (db.isActive userId)

theorem wp_selectActiveUser {Q : List Unit → Local Db Write Key → Db → Prop}
    {s : Local Db Write Key} (hs : s.writes = [])
    (hQ : ∀ s' db' rows, s'.writes = [] → s.locks ⊆ s'.locks →
      Interference (schema P) s.locks db db' →
      (rows ≠ [] → (Key.user u, Mode.share) ∈ s'.locks ∧ db'.isActive u) → Q rows s' db') :
    wp (schema P) (selectActiveUser u) Q s db := by
  refine wp_selectOne (fun held a b hl hi => ?_) fun s₁ db₁ rows hw hlo h₁ hrows => ?_
  · simp only [hs, Schema.applyAll_nil, Db.isActive,
      users_stable (hl (List.mem_singleton_self _)) hi]
  · refine hQ s₁ db₁ rows (hw.trans hs) hlo h₁ fun hne => ?_
    obtain ⟨hl, hq⟩ := hrows hne
    rw [hs, Schema.applyAll_nil, isSome_whether] at hq
    exact ⟨hl (List.mem_singleton_self _), hq⟩

/-- `SELECT user_id, status FROM app.user_devices WHERE device_id = $1`, `FOR UPDATE` or
`FOR SHARE`. -/
def selectDevice (deviceId : Uuid) (mode : Mode) : Tx (List (Uuid × DeviceStatus)) :=
  selectLocked (fun _ : Unit => [(.device deviceId, mode)])
    (fun db => ((db.userDevices deviceId).map fun _ => ()).toList)
    fun db _ => (db.userDevices deviceId).map fun row => (row.userId, row.status)

/-- The device row, found and locked. -/
theorem wp_selectDevice {mode : Mode}
    {Q : List (Uuid × DeviceStatus) → Local Db Write Key → Db → Prop} {s : Local Db Write Key}
    (hs : s.writes = [])
    (hQ : ∀ s' db' rows, s'.writes = [] → s.locks ⊆ s'.locks →
      Interference (schema P) s.locks db db' →
      (∀ row ∈ rows, (Key.device d, mode) ∈ s'.locks ∧ ∃ device,
        db'.userDevices d = some device ∧ device.userId = row.1 ∧ device.status = row.2) →
      Q rows s' db') :
    wp (schema P) (selectDevice d mode) Q s db := by
  refine wp_selectLocked (fun _ held a b hl _ hi => ?_)
    fun s₁ db₁ db₂ rows hw hse hm hlo hls h₁ h₂ hrows => ?_
  · rw [hs, Schema.applyAll_nil, Schema.applyAll_nil,
      userDevices_stable (hl (List.mem_singleton_self _)) hi]
  · simp only [hs, Schema.applyAll_nil] at hrows hls
    refine hQ s₁ db₂ rows (hw.trans hs) hlo (h₁.trans h₂) fun row hrow => ?_
    rw [hrows db₂ (Interference.refl _ _)] at hrow
    obtain ⟨i, hi, hrow⟩ := List.mem_filterMap.mp hrow
    obtain ⟨device, hdevice, rfl⟩ := Option.map_eq_some_iff.mp hrow
    exact ⟨hls i hi (List.mem_singleton_self _), device, hdevice, rfl, rfl⟩

end ChatBackend
