import ChatBackend.Store.EnvelopeRepository

/-!
# What the EnvelopeRepository commits

Specifications of the three operations, about single committed states: what a returning call has
written on top of the state it finds when it commits, and what that says about its result. The
`wp_…` theorems prove the programs against them under all interference.

## Main results

* `wp_saveNewMessage`, `wp_syncEnvelopeRecord`, `wp_ackEnvelopes`
-/

namespace ChatBackend

open ReadCommitted

namespace EnvelopeRepository

variable {P : Platform} {db db' : Db}

/-! ### Authorization -/

/-- The locks under which `permits` stays as it is. -/
structure HeldPermission (locks : List (Key × Mode)) (user sender recipient : Uuid) (db : Db) :
    Prop where
  ne : sender ≠ recipient
  sender : HeldActive locks sender user db
  recipient : ∃ owner, HeldActive locks recipient owner db ∧ (owner = user ∨
    ((∃ m, (Key.friendRelation user owner, m) ∈ locks) ∧ db.friendRelation user owner) ∧
      (∃ m, (Key.friendRelation owner user, m) ∈ locks) ∧ db.friendRelation owner user)

theorem HeldPermission.stable {locks : List (Key × Mode)} {user sender recipient : Uuid}
    (h : HeldPermission locks user sender recipient db) (hi : Interference (schema P) locks db db') :
    HeldPermission locks user sender recipient db' := by
  refine ⟨h.ne, h.sender.stable hi, ?_⟩
  obtain ⟨owner, ho, hf⟩ := h.recipient
  refine ⟨owner, ho.stable hi, hf.imp_right ?_⟩
  rintro ⟨⟨⟨m, hm⟩, h₁⟩, ⟨m', hm'⟩, h₂⟩
  refine ⟨⟨⟨m, hm⟩, ?_⟩, ⟨m', hm'⟩, ?_⟩
  · rwa [friendRelation_stable hm hi]
  · rwa [friendRelation_stable hm' hi]

theorem HeldPermission.mono {locks locks' : List (Key × Mode)} {user sender recipient : Uuid}
    (h : HeldPermission locks user sender recipient db) (hl : locks ⊆ locks') :
    HeldPermission locks' user sender recipient db := by
  refine ⟨h.ne, h.sender.mono hl, ?_⟩
  obtain ⟨owner, ho, hf⟩ := h.recipient
  refine ⟨owner, ho.mono hl, hf.imp_right ?_⟩
  rintro ⟨⟨⟨m, hm⟩, h₁⟩, ⟨m', hm'⟩, h₂⟩
  exact ⟨⟨⟨m, hl hm⟩, h₁⟩, ⟨m', hl hm'⟩, h₂⟩

theorem HeldPermission.permits {locks : List (Key × Mode)} {user sender recipient : Uuid}
    (h : HeldPermission locks user sender recipient db) : db.permits user sender recipient := by
  refine ⟨h.ne, h.sender.active, ?_⟩
  obtain ⟨owner, ho, hf⟩ := h.recipient
  exact ⟨owner, ho.active, hf.imp_right fun h => ⟨h.1.2, h.2.2⟩⟩

theorem deviceRow_eq_some {user sender device : Uuid} {row : Uuid × Uuid} :
    deviceRow user sender db device = some row ↔
      row.1 = device ∧ db.activeOwner device = some row.2 ∧ (device ≠ sender ∨ row.2 = user) := by
  obtain ⟨d, o⟩ := row
  simp only [deviceRow, Option.map_eq_some_iff, Option.filter_eq_some_iff, Prod.mk.injEq,
    decide_eq_true_eq]
  constructor
  · rintro ⟨o', ⟨ho, hc⟩, hd, rfl⟩
    exact ⟨hd.symm, ho, hc⟩
  · rintro ⟨rfl, ho, hc⟩
    exact ⟨o, ⟨ho, hc⟩, rfl, rfl⟩

/-- What is left of the authorization query after its re-check, if both devices qualify. -/
theorem length_devices {sender recipient : Uuid} {h : Uuid → Option (Uuid × Uuid)} :
    ((pairDevices sender recipient).filterMap h).length = 2 ↔
      sender ≠ recipient ∧ (h sender).isSome ∧ (h recipient).isSome := by
  by_cases he : sender = recipient
  · subst he
    cases hs : h sender <;> simp [pairDevices, hs]
  · rw [pairDevices, if_neg he]
    rcases le_total sender recipient with hle | hle
    · rw [min_eq_left hle, max_eq_right hle]
      cases hs : h sender <;> cases hr : h recipient <;> simp [hs, hr, he]
    · rw [min_eq_right hle, max_eq_left hle]
      cases hs : h sender <;> cases hr : h recipient <;> simp [hs, hr, he]

theorem mem_pairDevices {sender recipient : Uuid} :
    sender ∈ pairDevices sender recipient ∧ recipient ∈ pairDevices sender recipient := by
  by_cases he : sender = recipient
  · simp [pairDevices, he]
  · rw [pairDevices, if_neg he]
    rcases le_total sender recipient with hle | hle
    · simp [min_eq_left hle, max_eq_right hle]
    · simp [min_eq_right hle, max_eq_left hle]

/-- The owner that the loop over the rows picks is the recipient's. -/
theorem getLast_devices {sender recipient : Uuid} {h : Uuid → Option (Uuid × Uuid)}
    (hrow : ∀ d row, h d = some row → row.1 = d) (hne : sender ≠ recipient)
    (hs : (h sender).isSome) {row : Uuid × Uuid} (hr : h recipient = some row) :
    (((pairDevices sender recipient).filterMap h).filter fun row => row.1 = recipient).getLast? =
      some row := by
  obtain ⟨rowS, hs⟩ := Option.isSome_iff_exists.mp hs
  have hS : rowS.1 ≠ recipient := hrow _ _ hs ▸ hne
  have hR : row.1 = recipient := hrow _ _ hr
  rw [pairDevices, if_neg hne]
  rcases le_total sender recipient with hle | hle
  · rw [min_eq_left hle, max_eq_right hle]
    simp [hs, hr, hS, hR]
  · rw [min_eq_right hle, max_eq_left hle]
    simp [hs, hr, hS, hR]

/-- A row of the authorization query found in `db` and confirmed in `db'`. -/
def confirmed (user sender : Uuid) (db db' : Db) (device : Uuid) : Option (Uuid × Uuid) :=
  (deviceRow user sender db device).bind fun row =>
    (deviceRow user sender db' row.1).filter (· = row)

theorem confirmed_eq_some {user sender device : Uuid} {row : Uuid × Uuid} :
    confirmed user sender db db' device = some row ↔
      deviceRow user sender db device = some row ∧ deviceRow user sender db' device = some row := by
  rw [confirmed, Option.bind_eq_some_iff]
  constructor
  · rintro ⟨row', h₁, h₂⟩
    obtain ⟨h₂, he⟩ := Option.filter_eq_some_iff.mp h₂
    obtain rfl : row = row' := of_decide_eq_true he
    have hd := (deviceRow_eq_some.mp h₁).1
    exact ⟨h₁, hd ▸ h₂⟩
  · rintro ⟨h₁, h₂⟩
    have hd := (deviceRow_eq_some.mp h₁).1
    refine ⟨row, h₁, Option.filter_eq_some_iff.mpr ⟨?_, by simp⟩⟩
    rw [hd]
    exact h₂

/-- If the send is permitted in both states, both rows are found and confirmed. -/
theorem confirmed_of_permits {user sender recipient : Uuid} {locks : List (Key × Mode)}
    (hi : Interference (schema P) locks db db') (h : db.permits user sender recipient)
    (h' : db'.permits user sender recipient) :
    (confirmed user sender db db' sender).isSome ∧ (confirmed user sender db db' recipient).isSome := by
  obtain ⟨hne, hs, owner, hr, -⟩ := h
  obtain ⟨-, hs', owner', hr', -⟩ := h'
  have howner : owner' = owner := by
    obtain ⟨row, hd, rfl, -, -⟩ := activeOwner_eq_some_iff.mp hr
    obtain ⟨row', hd', rfl, -, -⟩ := activeOwner_eq_some_iff.mp hr'
    have hkept : (db'.userDevices recipient).map DeviceRow.userId = some row.userId :=
      deviceOwner_stable hi (by rw [hd, Option.map_some])
    simpa [hd'] using hkept
  subst howner
  constructor
  · exact Option.isSome_iff_exists.mpr ⟨(sender, user), confirmed_eq_some.mpr
      ⟨deviceRow_eq_some.mpr ⟨rfl, hs, Or.inr rfl⟩, deviceRow_eq_some.mpr ⟨rfl, hs', Or.inr rfl⟩⟩⟩
  · exact Option.isSome_iff_exists.mpr ⟨(recipient, owner'), confirmed_eq_some.mpr
      ⟨deviceRow_eq_some.mpr ⟨rfl, hr, Or.inl hne.symm⟩,
        deviceRow_eq_some.mpr ⟨rfl, hr', Or.inl hne.symm⟩⟩⟩

/-- The two directions of a friendship, in some order. -/
theorem directions_cases (a b : Uuid) :
    directions a b = [(a, b), (b, a)] ∨ directions a b = [(b, a), (a, b)] := by
  rcases le_total a b with hle | hle
  · exact Or.inl (by rw [directions, min_eq_left hle, max_eq_right hle])
  · exact Or.inr (by rw [directions, min_eq_right hle, max_eq_left hle])

/-- What the friendship query establishes. -/
theorem wp_selectFriendships {a b : Uuid} {Q : Bool → Local Db Write Key → Db → Prop}
    {s : Local Db Write Key} (hs : s.writes = [])
    (hQ : ∀ s' db' ok, s'.writes = [] → s.seen ⊆ s'.seen → s.locks ⊆ s'.locks →
      Interference (schema P) s.locks db db' →
      (ok = true → ((∃ m, (Key.friendRelation a b, m) ∈ s'.locks) ∧ db'.friendRelation a b) ∧
        (∃ m, (Key.friendRelation b a, m) ∈ s'.locks) ∧ db'.friendRelation b a) →
      (ok = false → ∀ later, Interference (schema P) s'.locks db' later →
        ∃ v ∈ later :: s'.seen, Interference (schema P) s.locks db v ∧
          ¬ (v.friendRelation a b ∧ v.friendRelation b a)) → Q ok s' db') :
    wp (schema P) ((selectFriendships a b).bind fun rows => .ret (decide (rows.length = 2))) Q s db := by
  refine wp_bind (wp_selectLocked (fun row held x y hl _ hi => ?_)
    fun s₁ db₁ db₂ rows hw hse hm hlo hls h₁ h₂ hrows => wp_ret fun db₃ h₃ => ?_)
  · rw [hs, Schema.applyAll_nil, Schema.applyAll_nil,
      friendRelation_stable (hl (List.mem_singleton_self _)) hi]
  simp only [hs, Schema.applyAll_nil] at hls hrows
  have h₀₃ : Interference (schema P) s.locks db db₃ := h₁.trans (h₂.trans (h₃.mono hlo))
  have hall : ∀ later, Interference (schema P) s₁.locks db₃ later → (rows.length = 2 ↔
      ∀ row ∈ directions a b, db₁.friendRelation row.1 row.2 ∧ later.friendRelation row.1 row.2) := by
    intro later hlater
    have hfilter : rows = (directions a b).filter fun row =>
        db₁.friendRelation row.1 row.2 && later.friendRelation row.1 row.2 := by
      rw [hrows later (h₃.trans hlater), List.filterMap_filter, ← List.filterMap_eq_filter]
      refine List.filterMap_congr fun row _ => ?_
      by_cases hx : db₁.friendRelation row.1 row.2 <;>
        by_cases hy : later.friendRelation row.1 row.2 <;> simp [Option.guard, hx, hy]
    rw [hfilter, show 2 = (directions a b).length from rfl, List.length_filter_eq_length_iff]
    simp only [Bool.and_eq_true]
  refine hQ s₁ db₃ _ (hw.trans hs) hse hlo h₀₃ (fun htwo => ?_) fun htwo later hlater => ?_
  · have hboth := (hall db₃ (Interference.refl _ _)).mp (of_decide_eq_true htwo)
    have hlock : ∀ row ∈ directions a b, (Key.friendRelation row.1 row.2, Mode.share) ∈ s₁.locks :=
      fun row hrow => hls row (List.mem_filter.mpr ⟨hrow, (hboth row hrow).1⟩)
        (List.mem_singleton_self _)
    have hab : (a, b) ∈ directions a b := by rcases directions_cases a b with hd | hd <;> simp [hd]
    have hba : (b, a) ∈ directions a b := by rcases directions_cases a b with hd | hd <;> simp [hd]
    exact ⟨⟨⟨_, hlock _ hab⟩, (hboth _ hab).2⟩, ⟨_, hlock _ hba⟩, (hboth _ hba).2⟩
  · by_contra hno
    push Not at hno
    obtain ⟨h₁a, h₁b⟩ := hno db₁ (List.mem_cons_of_mem _ hm) h₁
    obtain ⟨h₃a, h₃b⟩ := hno later (List.mem_cons_self ..) (h₀₃.trans (hlater.mono hlo))
    refine of_decide_eq_false htwo ((hall later hlater).mpr fun row hrow => ?_)
    rcases directions_cases a b with hd | hd <;> rw [hd] at hrow <;>
      rcases List.mem_pair.mp hrow with rfl | rfl
    · exact ⟨h₁a, h₃a⟩
    · exact ⟨h₁b, h₃b⟩
    · exact ⟨h₁b, h₃b⟩
    · exact ⟨h₁a, h₃a⟩

/-- **What the authorization of a send establishes.** -/
theorem wp_permitted {user sender recipient : Uuid} {Q : Bool → Local Db Write Key → Db → Prop}
    {s : Local Db Write Key} (hs : s.writes = [])
    (hQ : ∀ s' db' ok, s'.writes = [] → s.seen ⊆ s'.seen → s.locks ⊆ s'.locks →
      Interference (schema P) s.locks db db' →
      (ok = true → HeldPermission s'.locks user sender recipient db') →
      (ok = false → ∀ later, Interference (schema P) s'.locks db' later →
        ∃ v ∈ later :: s'.seen, ¬ v.permits user sender recipient) → Q ok s' db') :
    wp (schema P) (permitted user sender recipient) Q s db := by
  have hrowOf : ∀ a b d row, confirmed user sender a b d = some row → row.1 = d :=
    fun a b d row h => (deviceRow_eq_some.mp (confirmed_eq_some.mp h).1).1
  refine wp_bind (wp_selectLocked (fun row held a b hl _ hi => ?_)
    fun s₁ db₁ db₂ devices hw hse hm hlo hls h₁ h₂ hdevices => ?_)
  · -- the locks of a row fix whether it qualifies
    rw [hs, Schema.applyAll_nil, Schema.applyAll_nil]
    have hkeep := activeOwner_stable ⟨_, hl mem_ownerLocks_device⟩ ⟨_, hl mem_ownerLocks_user⟩ hi
    refine Option.ext fun row' => ?_
    simp only [Option.filter_eq_some_iff, decide_eq_true_eq, deviceRow_eq_some]
    constructor <;> rintro ⟨⟨h, ho, hc⟩, rfl⟩
    · exact ⟨⟨h, hkeep.mp ho, hc⟩, rfl⟩
    · exact ⟨⟨h, hkeep.mpr ho, hc⟩, rfl⟩
  simp only [hs, Schema.applyAll_nil, List.filterMap_filterMap] at hls hdevices
  replace hdevices : ∀ later, Interference (schema P) s₁.locks db₂ later →
      devices = (pairDevices sender recipient).filterMap (confirmed user sender db₁ later) := hdevices
  have h₀₂ : Interference (schema P) s.locks db db₂ := h₁.trans h₂
  by_cases htwo : devices.length = 2
  · have hnow := hdevices db₂ (Interference.refl _ _)
    obtain ⟨hne, hS, hR⟩ := length_devices.mp (hnow ▸ htwo)
    obtain ⟨rowS, hS'⟩ := Option.isSome_iff_exists.mp hS
    obtain ⟨⟨r, owner⟩, hR'⟩ := Option.isSome_iff_exists.mp hR
    obtain ⟨hS₁, hS₂⟩ := confirmed_eq_some.mp hS'
    obtain ⟨hR₁, hR₂⟩ := confirmed_eq_some.mp hR'
    obtain ⟨hdS, haS, hc⟩ := deviceRow_eq_some.mp hS₂
    obtain ⟨rfl, haR, -⟩ := deviceRow_eq_some.mp hR₂
    have hu : rowS.2 = user := hc.resolve_left (not_not.mpr rfl)
    have hlS : ownerLocks rowS.1 rowS.2 ⊆ s₁.locks :=
      hls rowS (List.mem_filterMap.mpr ⟨sender, mem_pairDevices.1, hS₁⟩)
    have hlR : ownerLocks r owner ⊆ s₁.locks :=
      hls (r, owner) (List.mem_filterMap.mpr ⟨r, mem_pairDevices.2, hR₁⟩)
    rw [hdS, hu] at hlS
    have hheldS : HeldActive s₁.locks sender user db₂ :=
      ⟨⟨_, hlS mem_ownerLocks_device⟩, ⟨_, hlS mem_ownerLocks_user⟩, hu ▸ haS⟩
    have hheldR : HeldActive s₁.locks r owner db₂ :=
      ⟨⟨_, hlR mem_ownerLocks_device⟩, ⟨_, hlR mem_ownerLocks_user⟩, haR⟩
    have hlast := getLast_devices (hrowOf db₁ db₂) hne hS hR'
    rw [← hnow] at hlast
    rw [if_neg (not_not.mpr htwo), hlast]
    change wp _ (if owner = user then _ else _) Q s₁ db₂
    by_cases hown : owner = user
    · rw [if_pos hown]
      refine wp_ret fun db₃ h₃ => hQ s₁ db₃ true (hw.trans hs) hse hlo (h₀₂.trans (h₃.mono hlo))
        (fun _ => ?_) (by simp)
      exact HeldPermission.stable ⟨hne, hheldS, owner, hheldR, Or.inl hown⟩ h₃
    · rw [if_neg hown]
      refine wp_selectFriendships (hw.trans hs) fun s₂ db₃ ok hw₂ hse₂ hlo₂ h₃ hyes hno => ?_
      refine hQ s₂ db₃ ok hw₂ (List.Subset.trans hse hse₂) (List.Subset.trans hlo hlo₂) (h₀₂.trans (h₃.mono hlo))
        (fun hok => ?_) fun hok later hlater => ?_
      · exact ⟨hne, (hheldS.stable h₃).mono hlo₂, owner, (hheldR.stable h₃).mono hlo₂,
          Or.inr (hyes hok)⟩
      · obtain ⟨v, hv, hiv, hfriends⟩ := hno hok later hlater
        refine ⟨v, hv, ?_⟩
        rintro ⟨-, -, owner', howner', hor⟩
        -- the recipient's owner is still the one the first query returned
        obtain rfl : owner = owner' := by
          simpa [howner'] using (hheldR.stable hiv).active.symm
        exact hfriends (hor.resolve_left hown)
  · rw [if_pos htwo]
    refine wp_ret fun db₃ h₃ => hQ s₁ db₃ false (hw.trans hs) hse hlo (h₀₂.trans (h₃.mono hlo))
      (by simp) fun _ later hlater => ?_
    by_contra hno
    push Not at hno
    have hp₁ := hno db₁ (List.mem_cons_of_mem _ hm)
    have hp₃ := hno later (List.mem_cons_self ..)
    have h₂₃ : Interference (schema P) s₁.locks db₂ later := h₃.trans hlater
    refine htwo (hdevices later h₂₃ ▸ length_devices.mpr ⟨hp₁.1, ?_⟩)
    exact confirmed_of_permits (h₂.trans (h₂₃.mono hlo)) hp₁ hp₃

/-! ### Looking an envelope up -/

/-- The look-up reads only envelopes of the device pair. -/
theorem envelopesFor_eq (db : Db) (sender recipient messageId : Uuid) :
    db.envelopesFor sender recipient messageId =
      (db.pairEnvelopes (pairOf sender recipient)).filter fun e =>
        e.senderDeviceId = sender ∧ e.recipientDeviceId = recipient ∧ e.messageId = messageId := by
  rw [Db.envelopesFor, Db.pairEnvelopes, List.filter_filter]
  refine List.filter_congr fun e _ => ?_
  by_cases h : e.senderDeviceId = sender ∧ e.recipientDeviceId = recipient ∧ e.messageId = messageId
  · simp [h]
  · simp [h]

theorem envelopesFor_congr {sender recipient messageId : Uuid}
    (h : db'.pairEnvelopes (pairOf sender recipient) = db.pairEnvelopes (pairOf sender recipient)) :
    db'.envelopesFor sender recipient messageId = db.envelopesFor sender recipient messageId := by
  rw [envelopesFor_eq, envelopesFor_eq, h]

theorem maxSeq_congr {pair : Uuid × Uuid} (h : db'.pairEnvelopes pair = db.pairEnvelopes pair) :
    db'.maxSeq pair = db.maxSeq pair := by
  rw [Db.maxSeq, Db.maxSeq, h]

/-! ### Specifications -/

/-- The envelope that a request stores. -/
def stored (sender : Uuid) (request : NewTextMessageRequest) (envelopeId : Uuid) (seq : ℤ) :
    Envelope :=
  ⟨envelopeId, request.messageId, sender, request.recipientDeviceId,
    cString request.protocolVersion, request.packet, seq⟩

/-- The envelope that a request is answered with. -/
def answered (sender : Uuid) (request : NewTextMessageRequest) (envelopeId : Uuid) (seq : ℤ) :
    Envelope :=
  ⟨envelopeId, request.messageId, sender, request.recipientDeviceId, request.protocolVersion,
    request.packet, seq⟩

/-- What `saveNewMessage` commits in each of its four outcomes. -/
inductive SaveSpec (user sender : Uuid) (request : NewTextMessageRequest) :
    NewMessageResult → List Db → List Write → Db → Prop where
  | success {seen db} (envelopeId : Uuid) :
      db.permits user sender request.recipientDeviceId →
      db.envelopesFor sender request.recipientDeviceId request.messageId = [] →
      db.envelopeRow envelopeId = [] →
      0 < db.maxSeq (pairOf sender request.recipientDeviceId) + 1 →
      db.maxSeq (pairOf sender request.recipientDeviceId) + 1 ≤ maxBigint →
      SaveSpec user sender request
        ⟨.success, some (answered sender request envelopeId
          (db.maxSeq (pairOf sender request.recipientDeviceId) + 1))⟩ seen
        [.insertEnvelope ⟨stored sender request envelopeId
          (db.maxSeq (pairOf sender request.recipientDeviceId) + 1), none⟩] db
  | duplicate {seen db} (existing : Envelope) :
      db.permits user sender request.recipientDeviceId →
      (db.envelopesFor sender request.recipientDeviceId request.messageId).head? = some existing →
      existing.protocolVersion = request.protocolVersion → existing.packet = request.packet →
      SaveSpec user sender request
        ⟨.duplicateRequest, some (answered sender request existing.envelopeId existing.seq)⟩ seen []
        db
  | conflict {seen db} (existing : Envelope) :
      db.permits user sender request.recipientDeviceId →
      (db.envelopesFor sender request.recipientDeviceId request.messageId).head? = some existing →
      existing.protocolVersion ≠ request.protocolVersion ∨ existing.packet ≠ request.packet →
      SaveSpec user sender request ⟨.conflict, none⟩ seen [] db
  | permissionDenied {seen db} :
      (∃ v ∈ db :: seen, ¬ v.permits user sender request.recipientDeviceId) →
      SaveSpec user sender request ⟨.permissionDenied, none⟩ seen [] db

/-- What an insertion's constraints establish. -/
theorem of_violates_none {row : EnvelopeRow} (h : row.violates db = none) :
    0 < row.seq ∧ db.envelopeRow row.envelopeId = [] := by
  unfold EnvelopeRow.violates at h
  split_ifs at h with hseq hid
  refine ⟨by omega, List.filter_eq_nil_iff.mpr fun r hr he => hid ?_⟩
  exact List.any_eq_true.mpr ⟨r, hr, he⟩

/-- The insertion, under the pair's advisory lock. -/
theorem wp_insertEnvelope {sender recipient messageId : Uuid} {version : String} {packet : Bytes}
    {Q : Uuid × ℤ → Local Db Write Key → Db → Prop} {s : Local Db Write Key} (hs : s.writes = [])
    (hk : (pairKey P sender recipient, Mode.exclusive) ∈ s.locks)
    (hQ : ∀ s' db' id seq, s'.writes = [.insertEnvelope
        ⟨⟨id, messageId, sender, recipient, version, packet, seq⟩, none⟩] → s.locks ⊆ s'.locks →
      (Key.envelope id, Mode.exclusive) ∈ s'.locks → Interference (schema P) s.locks db db' →
      seq = db'.maxSeq (pairOf sender recipient) + 1 → 0 < seq → seq ≤ maxBigint →
      db'.envelopeRow id = [] → Q (id, seq) s' db') :
    wp (schema P) (insertEnvelope sender recipient messageId version (encodeHex packet)) Q s db := by
  refine wp_read fun db₁ h₁ => ?_
  rw [decodeHex_encodeHex, Schema.view, hs, Schema.applyAll_nil]
  dsimp only
  by_cases hmax : maxBigint < db₁.maxSeq (pairOf sender recipient) + 1
  · rw [if_pos hmax]
    trivial
  · rw [if_neg hmax]
    refine wp_draw fun id => wp_bind (wp_insertRow ?_ fun s₂ db₂ db₃ hw hse hlo hkeys h₂ h₃ hv =>
      wp_ret fun db₄ h₄ => ?_)
    · -- the advisory lock is held, the other locks are the row's keys
      simp only [schema_needs, Write.needs, EnvelopeRow.keys, List.map_cons, List.map_nil]
      refine List.cons_subset.mpr ⟨List.mem_append_right _ hk, List.subset_append_left _ _⟩
    · rw [Local.writes_see, hs, Schema.applyAll_nil] at hv
      obtain ⟨hpos, hfree⟩ := of_violates_none hv
      have hid : (Key.envelope id, Mode.exclusive) ∈ s₂.locks := hkeys _ (List.mem_cons_self ..)
      have hkeep : Interference (schema P) s.locks db₁ db₄ :=
        h₂.trans ((h₃.trans h₄).mono hlo)
      have hpair := pairEnvelopes_stable hk hkeep
      refine hQ s₂ db₄ id _ (by simp [hw, hs]) hlo hid (h₁.trans hkeep) ?_ hpos (not_lt.mp hmax) ?_
      · rw [maxSeq_congr hpair]
      · rw [envelopeRow_stable hid (h₃.trans h₄)]
        exact hfree

/-- **`saveNewMessage` meets its specification.** -/
theorem wp_saveNewMessage {user sender : Uuid} {request : NewTextMessageRequest} (db : Db) :
    wp (schema P) (saveNewMessage P user sender request)
      (fun r s db => SaveSpec user sender request r s.seen s.writes db) {} db := by
  refine wp_bind (wp_lock fun db₁ h₁ => wp_ret fun db₂ h₂ => wp_bind ?_)
  refine wp_permitted rfl fun s₃ db₃ ok hw₃ hse₃ hlo₃ h₃ hyes hno => ?_
  have hk : (pairKey P sender request.recipientDeviceId, Mode.exclusive) ∈ s₃.locks :=
    hlo₃ (List.mem_cons_self ..)
  cases ok with
  | false =>
    rw [if_pos rfl]
    refine wp_ret fun db₄ h₄ => ?_
    rw [hw₃]
    exact .permissionDenied (hno rfl db₄ h₄)
  | true =>
    have hheld := hyes rfl
    rw [if_neg (by decide)]
    refine wp_read fun db₄ h₄ => ?_
    rw [Schema.view, hw₃, Schema.applyAll_nil]
    -- from here on the pair's envelopes change no more
    have hlook : ∀ later, Interference (schema P) s₃.locks db₄ later →
        later.envelopesFor sender request.recipientDeviceId request.messageId =
          db₄.envelopesFor sender request.recipientDeviceId request.messageId :=
      fun later hi => envelopesFor_congr (pairEnvelopes_stable hk hi)
    have hpermits : ∀ later, Interference (schema P) s₃.locks db₄ later →
        later.permits user sender request.recipientDeviceId :=
      fun later hi => (hheld.stable (h₄.trans hi)).permits
    cases hex : db₄.envelopesFor sender request.recipientDeviceId request.messageId with
    | cons existing rest =>
      have hhead : ∀ later, Interference (schema P) s₃.locks db₄ later →
          (later.envelopesFor sender request.recipientDeviceId request.messageId).head? =
            some existing := fun later hi => by rw [hlook later hi, hex, List.head?_cons]
      dsimp only
      split_ifs with hdiff
      · refine wp_ret fun db₅ h₅ => ?_
        rw [Local.writes_see, hw₃]
        exact .conflict existing (hpermits db₅ h₅) (hhead db₅ h₅)
          (hdiff.imp_right fun hne he => hne (congrArg encodeHex he))
      · push Not at hdiff
        cases hseq : parseSeq existing.seq with
        | error e => trivial
        | ok seq =>
          obtain ⟨rfl, -⟩ := eq_of_parseSeq hseq
          refine wp_ret fun db₅ h₅ => ?_
          rw [Local.writes_see, hw₃]
          exact .duplicate existing (hpermits db₅ h₅) (hhead db₅ h₅) hdiff.1
            (encodeHex_injective hdiff.2)
    | nil =>
      refine wp_bind (wp_insertEnvelope (by exact hw₃) (by exact hk)
        fun s₅ db₅ id seq hw₅ hlo₅ hid₅ h₅ hseq hpos hmax hfree => ?_)
      rw [parseSeq_of_pos hpos]
      refine wp_ret fun db₆ h₆ => ?_
      have h₄₆ : Interference (schema P) s₃.locks db₄ db₆ := h₅.trans (h₆.mono hlo₅)
      have hpair := maxSeq_congr (pairEnvelopes_stable hk (h₆.mono hlo₅))
      rw [hw₅]
      rw [← hpair] at hseq
      subst hseq
      refine .success id (hpermits db₆ h₄₆) ((hlook db₆ h₄₆).trans hex) ?_ hpos hmax
      rw [envelopeRow_stable hid₅ h₆]
      exact hfree

/-- What `syncEnvelopeRecord` returns: it writes nothing, and a page is the page of one state it has
seen; the device is still the user's and active when it returns one. -/
structure SyncSpec (user : Uuid) (request : SyncEnvelopeRequest) (r : Option EnvelopePage)
    (seen : List Db) (ws : List Write) (db : Db) : Prop where
  readOnly : ws = []
  valid : validCursors request.deviceId [] request.cursors
  page : ∀ page, r = some page → ∃ v ∈ seen, pageOf v request = .ok page
  active : r.isSome → db.activeOwner request.deviceId = some user
  denied : r = none → ∃ v ∈ db :: seen, v.activeOwner request.deviceId ≠ some user

/-- **`syncEnvelopeRecord` meets its specification.** -/
theorem wp_syncEnvelopeRecord {user : Uuid} {request : SyncEnvelopeRequest} (db : Db) :
    wp (schema P) (syncEnvelopeRecord user request)
      (fun r s db => SyncSpec user request r s.seen s.writes db) {} db := by
  rw [syncEnvelopeRecord]
  split_ifs with hbad hcursors
  · trivial
  · trivial
  have hvalid : validCursors request.deviceId [] request.cursors = true := by simpa using hcursors
  refine wp_bind (wp_selectActiveDevice rfl fun s₁ db₁ ok hw hse hlo h₁ hyes hno => ?_)
  cases ok with
  | false =>
    rw [if_pos rfl]
    refine wp_ret fun db₂ h₂ => ⟨hw, hvalid, (by simp), by simp, fun _ => ?_⟩
    exact hno rfl db₂ h₂
  | true =>
    rw [if_neg (by decide)]
    refine wp_read fun db₂ h₂ => ?_
    rw [Schema.view, hw, Schema.applyAll_nil]
    cases hpage : pageOf db₂ request with
    | error e => trivial
    | ok page =>
      refine wp_ret fun db₃ h₃ => ⟨hw, hvalid, fun page' hp => ?_, fun _ => ?_, by simp⟩
      · obtain rfl : page = page' := by simpa using hp
        exact ⟨db₂, List.mem_cons_self .., hpage⟩
      · exact ((hyes rfl).stable (h₂.trans h₃)).active

/-- What `ackEnvelopes` commits: it marks envelopes of its own device among those it was asked to
mark, and only while the device is the user's and active. -/
structure AckSpec (user : Uuid) (request : AckEnvelopeRequest) (r : Option (List Uuid))
    (seen : List Db) (ws : List Write) (db : Db) : Prop where
  rows : ∃ rows : List (Uuid × Time), ws = rows.map (fun row => .setReceivedAt row.1 row.2) ∧
    (∀ row ∈ rows, row.1 ∈ request.envelopeIds ∧
      ∃ e ∈ db.messageEnvelopes, e.envelopeId = row.1 ∧ e.recipientDeviceId = request.deviceId ∧
        ∀ at', e.receivedAt = some at' → row.2 = at') ∧
    ∀ ids, r = some ids → ids = rows.map Prod.fst
  denied : r = none → ws = []
  active : r.isSome → db.activeOwner request.deviceId = some user

/-- The update of `received_at`: the changed rows are as they were found, to the end. -/
theorem wp_updateReceived {device : Uuid} {ids : List Uuid} {now : Time}
    {Q : List (Uuid × Time) → Local Db Write Key → Db → Prop} {s : Local Db Write Key}
    (hs : s.writes = [])
    (hQ : ∀ s' db' rows, s'.writes = rows.map (fun row : Uuid × Time => .setReceivedAt row.1 row.2) →
      s.locks ⊆ s'.locks → Interference (schema P) s.locks db db' →
      (∀ later, Interference (schema P) s'.locks db' later → ∀ row ∈ rows, row.1 ∈ ids ∧
        ∃ e ∈ later.messageEnvelopes, e.envelopeId = row.1 ∧ e.recipientDeviceId = device ∧
          row.2 = e.receivedAt.getD now) → Q rows s' db') :
    wp (schema P) (updateReceived device ids now) Q s db := by
  refine wp_updateWhere (fun id held a b hl _ hi => ?_) (fun id a row hrow => ?_)
    fun s₁ db₁ db₂ rows hw hse hm hlo hls h₁ h₂ hrows => ?_
  · rw [hs, Schema.applyAll_nil, Schema.applyAll_nil,
      envelopeRow_stable (hl (List.mem_singleton_self _)) hi]
  · obtain ⟨r, -, rfl⟩ := Option.map_eq_some_iff.mp hrow
    exact List.subset_append_left _ _
  · refine hQ s₁ db₂ rows (by rw [hw, hs, List.nil_append]) hlo (h₁.trans h₂)
      fun later hlater row hrow => ?_
    rw [hrows later hlater, hs, Schema.applyAll_nil, Schema.applyAll_nil] at hrow
    obtain ⟨id, -, hre⟩ := List.mem_filterMap.mp hrow
    obtain ⟨e, he, rfl⟩ := Option.map_eq_some_iff.mp hre
    have hc := List.find?_some he
    obtain ⟨hdev, hid⟩ := of_decide_eq_true hc
    obtain ⟨hmem, heid⟩ := List.mem_filter.mp (List.mem_of_find?_eq_some he)
    exact ⟨hid, e, hmem, of_decide_eq_true heid, hdev, rfl⟩

/-- **`ackEnvelopes` meets its specification.** -/
theorem wp_ackEnvelopes {user : Uuid} {request : AckEnvelopeRequest} (db : Db) :
    wp (schema P) (ackEnvelopes user request)
      (fun r s db => AckSpec user request r s.seen s.writes db) {} db := by
  rw [ackEnvelopes]
  split_ifs
  · trivial
  · trivial
  refine wp_bind (wp_read fun db₀ h₀ => wp_ret fun db₁ h₁ =>
    wp_bind (wp_selectActiveDevice rfl fun s₂ db₂ ok hw hse hlo h₂ hyes hno => ?_))
  cases ok with
  | false =>
    rw [if_pos rfl]
    exact wp_ret fun db₃ h₃ => ⟨⟨[], hw, by simp, by simp⟩, fun _ => hw, by simp⟩
  | true =>
    rw [if_neg (by decide)]
    refine wp_bind (wp_updateReceived hw fun s₃ db₃ rows hw₃ hlo₃ h₃ hrows => wp_ret fun db₄ h₄ => ?_)
    refine ⟨⟨rows, hw₃, fun row hrow => ?_, fun ids hids => ?_⟩, by simp, fun _ => ?_⟩
    · obtain ⟨hid, e, he, heid, hdev, hat⟩ := hrows db₄ h₄ row hrow
      refine ⟨hid, e, he, heid, hdev, fun at' hat' => ?_⟩
      rw [hat, hat', Option.getD_some]
    · exact (Option.some.inj hids).symm
    · exact ((hyes rfl).stable (h₃.trans (h₄.mono hlo₃))).active

end EnvelopeRepository

end ChatBackend
