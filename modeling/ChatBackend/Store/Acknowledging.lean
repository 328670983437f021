import ChatBackend.ReadCommitted.Since
import ChatBackend.Store.ArrayLiteral
import ChatBackend.Store.Sequence

/-!
# Acknowledging

One run of `ackEnvelopes`, state by state: the clock, the query for the device and its re-check with
the lock held, the snapshot of the update and its re-checks. `AckRun` says what the run returns and
commits in terms of these states; `meets_acks` adds it to the specification of every other call.

## Main definitions

* `Db.namedBy` — the requested identifiers that name envelopes of the device
* `AckRun`
* `Db.markReceived` — the effect of the update

## Main results

* `wp_ackRun`, `meets_acks`
* `applyAll_setReceivedAt` — the committed writes have that effect
-/

namespace ChatBackend

open ReadCommitted EnvelopeRepository

variable {P : Platform} {allows : List StoreEvent → Call → Prop} {db db' : Db}
  {user : Uuid} {request : AckEnvelopeRequest}

/-! ### What the update finds and does -/

/-- The requested identifiers that name envelopes addressed to the device. -/
def Db.namedBy (db : Db) (request : AckEnvelopeRequest) : List Uuid :=
  (db.messageEnvelopes.filter fun row => row.recipientDeviceId = request.deviceId ∧
    row.envelopeId ∈ request.envelopeIds).map (·.envelopeId)

theorem Db.mem_namedBy {id : Uuid} : id ∈ db.namedBy request ↔ id ∈ request.envelopeIds ∧
    ∃ row ∈ db.messageEnvelopes, row.envelopeId = id ∧ row.recipientDeviceId = request.deviceId := by
  simp only [Db.namedBy, List.mem_map, List.mem_filter, decide_eq_true_eq]
  constructor
  · rintro ⟨row, ⟨hrow, hdevice, hid⟩, rfl⟩
    exact ⟨hid, row, hrow, rfl, hdevice⟩
  · rintro ⟨hid, row, hrow, rfl, hdevice⟩
    exact ⟨row, ⟨hrow, hdevice, hid⟩, rfl⟩

/-- `SET received_at = COALESCE(received_at, now)`, in the rows of some envelopes. -/
def EnvelopeRow.markReceived (ids : List Uuid) (now : Time) (row : EnvelopeRow) : EnvelopeRow :=
  if row.envelopeId ∈ ids then { row with receivedAt := some (row.receivedAt.getD now) } else row

/-- The same in the table. -/
def Db.markReceived (db : Db) (ids : List Uuid) (now : Time) : Db :=
  { db with messageEnvelopes := db.messageEnvelopes.map (EnvelopeRow.markReceived ids now) }

@[simp] theorem EnvelopeRow.toEnvelope_markReceived (ids : List Uuid) (now : Time)
    (row : EnvelopeRow) : (row.markReceived ids now).toEnvelope = row.toEnvelope := by
  rw [EnvelopeRow.markReceived]
  split_ifs <;> rfl

@[simp] theorem Db.envelopes_markReceived (ids : List Uuid) (now : Time) :
    (db.markReceived ids now).envelopes = db.envelopes := by
  rw [Db.envelopes, Db.markReceived, List.map_map]
  exact List.map_congr_left fun row _ => row.toEnvelope_markReceived ids now

/-- Marking envelopes that are marked changes nothing. -/
theorem Db.markReceived_eq_self {ids : List Uuid} {now : Time}
    (h : ∀ row ∈ db.messageEnvelopes, row.envelopeId ∈ ids → row.receivedAt ≠ none) :
    db.markReceived ids now = db := by
  have hrows : db.messageEnvelopes.map (EnvelopeRow.markReceived ids now) = db.messageEnvelopes := by
    refine (List.map_congr_left fun row hrow => ?_).trans (List.map_id _)
    rw [EnvelopeRow.markReceived, id_eq]
    split_ifs with hid
    · obtain ⟨at', hat⟩ := Option.ne_none_iff_exists'.mp (h row hrow hid)
      rw [hat, Option.getD_some, ← hat]
    · rfl
  rw [Db.markReceived, hrows]

/-- Marking twice is marking once. -/
theorem Db.markReceived_markReceived (ids : List Uuid) (now now' : Time) :
    (db.markReceived ids now).markReceived ids now' = db.markReceived ids now := by
  refine Db.markReceived_eq_self fun row hrow hid => ?_
  obtain ⟨row', -, rfl⟩ := List.mem_map.mp hrow
  rw [EnvelopeRow.toEnvelope_markReceived] at hid
  rw [EnvelopeRow.markReceived, if_pos hid]
  exact Option.some_ne_none _

/-- What a request names depends on the envelopes only. -/
theorem Db.namedBy_congr (h : db'.envelopes = db.envelopes) : db'.namedBy request = db.namedBy request := by
  have hnamed : ∀ db : Db, db.namedBy request = (db.envelopes.filter fun e =>
      e.recipientDeviceId = request.deviceId ∧ e.envelopeId ∈ request.envelopeIds).map
        Envelope.envelopeId := by
    intro db
    rw [Db.namedBy, Db.envelopes, List.filter_map, List.map_map]
    rfl
  rw [hnamed, hnamed, h]

/-! ### One run -/

/-- What `ackEnvelopes` returns and commits, given the states it has read, newest first. -/
inductive AckRun (user : Uuid) (request : AckEnvelopeRequest) :
    Option (List Uuid) → List Db → List Write → Db → Prop where
  /-- The query does not find the device: there is nothing to lock. -/
  | notFound {found clock db} : found.activeOwner request.deviceId ≠ some user →
      AckRun user request none [found, clock] [] db
  /-- The device is no longer active when its lock is granted. -/
  | notGranted {granted found clock db} : found.activeOwner request.deviceId = some user →
      granted.activeOwner request.deviceId ≠ some user →
      AckRun user request none [granted, found, clock] [] db
  /-- It is, and stays so to the end; the update marks what its snapshot finds. -/
  | acknowledged {rechecks snapshot granted found clock db} (now : Time) (rows : List (Uuid × Time)) :
      found.activeOwner request.deviceId = some user →
      granted.activeOwner request.deviceId = some user →
      db.activeOwner request.deviceId = some user →
      rows.map Prod.fst = snapshot.namedBy request →
      (∀ row ∈ rows, ∃ e ∈ db.messageEnvelopes, e.envelopeId = row.1 ∧
        e.recipientDeviceId = request.deviceId ∧ row.2 = e.receivedAt.getD now) →
      AckRun user request (some (snapshot.namedBy request))
        (rechecks ++ [snapshot, granted, found, clock])
        (rows.map fun row => .setReceivedAt row.1 row.2) db

/-- Envelopes stay, whatever others do. -/
theorem envelopes_prefix_of_interference {locks : List (Key × Mode)}
    (h : Interference (schema P) locks db db') : db.envelopes <+: db'.envelopes := by
  refine Interference.preserves (P := fun x => db.envelopes <+: x.envelopes)
    (fun w _ x hx => ?_) (fun x y hd hx => ?_) h List.prefix_rfl
  · rw [schema_apply, envelopes_write]
    exact hx.trans (List.prefix_append _ _)
  · rw [drift_envelopes hd]
    exact hx

/-- If every row is kept under its own key, all the keys are. -/
theorem map_fst_filterMap {α β : Type} {l : List α} {f : α → Option (α × β)}
    (h : ∀ a ∈ l, ∃ b, f a = some (a, b)) : (l.filterMap f).map Prod.fst = l := by
  induction l with
  | nil => rfl
  | cons a l ih =>
    obtain ⟨⟨b, hb⟩, hl⟩ := List.forall_mem_cons.mp h
    rw [List.filterMap_cons_some hb, List.map_cons, ih hl]

/-- The re-check of the update: the row, and the time it is given. -/
def recheckReceived (request : AckEnvelopeRequest) (now : Time) (db : Db) (id : Uuid) :
    Option (Uuid × Time) :=
  ((db.envelopeRow id).find? fun row => row.recipientDeviceId = request.deviceId ∧
    id ∈ request.envelopeIds).map fun row => (id, row.receivedAt.getD now)

/-- What the update's snapshot finds is still there when it is checked again. -/
theorem namedBy_recheck {id : Uuid} (now : Time) (h : db.envelopes <+: db'.envelopes)
    (hid : id ∈ db.namedBy request) :
    ∃ e ∈ db'.messageEnvelopes, e.envelopeId = id ∧ e.recipientDeviceId = request.deviceId ∧
      recheckReceived request now db' id = some (id, e.receivedAt.getD now) := by
  obtain ⟨hrequested, row, hrow, hrowid, hdevice⟩ := Db.mem_namedBy.mp hid
  obtain ⟨row', hrow', hsame⟩ := List.mem_map.mp (h.subset (List.mem_map_of_mem hrow))
  have hfound : ((db'.envelopeRow id).find? fun row => row.recipientDeviceId = request.deviceId ∧
      id ∈ request.envelopeIds).isSome := by
    refine List.find?_isSome.mpr ⟨row', List.mem_filter.mpr ⟨hrow', ?_⟩, ?_⟩
    · rw [hsame]
      exact decide_eq_true hrowid
    · rw [hsame]
      exact decide_eq_true ⟨hdevice, hrequested⟩
  obtain ⟨e, he⟩ := Option.isSome_iff_exists.mp hfound
  obtain ⟨hmem, heid⟩ := List.mem_filter.mp (List.mem_of_find?_eq_some he)
  have hqualifies := List.find?_some he
  exact ⟨e, hmem, of_decide_eq_true heid, (of_decide_eq_true hqualifies).1,
    by rw [recheckReceived, he]; rfl⟩

/-- The rows of the update, as of a later state: all that its snapshot found. -/
theorem rows_of_recheck (now : Time) (h : db.envelopes <+: db'.envelopes) :
    ((db.namedBy request).filterMap (recheckReceived request now db')).map Prod.fst =
      db.namedBy request ∧ ∀ row ∈ (db.namedBy request).filterMap (recheckReceived request now db'),
        ∃ e ∈ db'.messageEnvelopes, e.envelopeId = row.1 ∧
          e.recipientDeviceId = request.deviceId ∧ row.2 = e.receivedAt.getD now := by
  refine ⟨map_fst_filterMap fun id hid => ?_, fun row hrow => ?_⟩
  · obtain ⟨e, -, -, -, he⟩ := namedBy_recheck now h hid
    exact ⟨_, he⟩
  · obtain ⟨id, hid, hre⟩ := List.mem_filterMap.mp hrow
    obtain ⟨e, hmem, heid, hdevice, he⟩ := namedBy_recheck now h hid
    obtain rfl := Option.some.inj (he.symm.trans hre)
    exact ⟨e, hmem, heid, hdevice, rfl⟩

/-- **The check of the device, state by state.** -/
theorem wp_selectActiveDevice_reads {d : Uuid} {Q : Bool → Local Db Write Key → Db → Prop}
    {s : Local Db Write Key} (hs : s.writes = [])
    (hnotFound : ∀ found db', found.activeOwner d ≠ some user → Q false (s.see found) db')
    (hnotGranted : ∀ s' granted found db', s'.writes = [] → s'.seen = granted :: found :: s.seen →
      found.activeOwner d = some user → granted.activeOwner d ≠ some user → Q false s' db')
    (hgranted : ∀ s' granted found db', s'.writes = [] → s'.seen = granted :: found :: s.seen →
      found.activeOwner d = some user → granted.activeOwner d = some user →
      HeldActive s'.locks d user db' → Q true s' db') :
    wp (schema P) (selectActiveDevice user d) Q s db := by
  refine wp_bind (wp_read fun found h₁ => ?_)
  rw [Schema.view, hs, Schema.applyAll_nil]
  beta_reduce
  by_cases hfound : found.activeOwner d = some user
  · rw [if_pos hfound]
    refine wp_bind (wp_acquireAll fun s₂ db₂ hw₂ hs₂ hl₂ hls₂ h₂ => wp_read fun granted h₃ => ?_)
    have hw : s₂.writes = [] := hw₂.trans hs
    rw [Schema.view, hw, Schema.applyAll_nil]
    refine wp_ret fun db₃ h₄ => wp_ret fun db₄ h₅ => ?_
    beta_reduce
    have hseen : (s₂.see granted).seen = granted :: found :: s.seen := congrArg (granted :: ·) hs₂
    by_cases hactive : granted.activeOwner d = some user
    · rw [if_pos hactive]
      have hheld : HeldActive s₂.locks d user granted :=
        ⟨⟨_, hls₂ mem_ownerLocks_device⟩, ⟨_, hls₂ mem_ownerLocks_user⟩, hactive⟩
      exact hgranted _ granted found db₄ hw hseen hfound hactive (hheld.stable (h₄.trans h₅))
    · rw [if_neg hactive]
      exact hnotGranted _ granted found db₄ hw hseen hfound hactive
  · rw [if_neg hfound]
    exact wp_ret fun db₂ h₂ => wp_ret fun db₃ h₃ => hnotFound found db₃ hfound

/-- **The update, state by state**: it returns what its snapshot finds. -/
theorem wp_updateReceived_reads {now : Time} {Q : List (Uuid × Time) → Local Db Write Key → Db → Prop}
    {s : Local Db Write Key} (hs : s.writes = [])
    (hQ : ∀ s' snapshot db' rows,
      s'.writes = rows.map (fun row : Uuid × Time => .setReceivedAt row.1 row.2) →
      (snapshot :: s.seen) <:+ s'.seen → s.locks ⊆ s'.locks → Interference (schema P) s.locks db db' →
      (∀ later, Interference (schema P) s'.locks db' later →
        rows.map Prod.fst = snapshot.namedBy request ∧ ∀ row ∈ rows, ∃ e ∈ later.messageEnvelopes,
          e.envelopeId = row.1 ∧ e.recipientDeviceId = request.deviceId ∧
            row.2 = e.receivedAt.getD now) → Q rows s' db') :
    wp (schema P) (updateReceived request.deviceId request.envelopeIds now) Q s db := by
  refine wp_updateWhere_reads (fun id held a b hl _ hi => ?_) (fun id a row hrow => ?_)
    fun s₁ snapshot db₁ rows hw hseen hl h₁ h₂ hrows => ?_
  · rw [hs, Schema.applyAll_nil, Schema.applyAll_nil,
      envelopeRow_stable (hl (List.mem_singleton_self _)) hi]
  · obtain ⟨r, -, rfl⟩ := Option.map_eq_some_iff.mp hrow
    exact List.subset_append_left _ _
  · refine hQ s₁ snapshot db₁ rows (by rw [hw, hs, List.nil_append]) hseen hl (h₁.trans h₂)
      fun later hlater => ?_
    have hkept := envelopes_prefix_of_interference (h₂.trans (hlater.mono hl))
    rw [hrows later hlater, hs, Schema.applyAll_nil, Schema.applyAll_nil]
    exact rows_of_recheck now hkept

/-- **`ackEnvelopes` runs like this.** -/
theorem wp_ackRun (db : Db) : wp (schema P) (ackEnvelopes user request)
    (fun r s db => AckRun user request r s.seen s.writes db) {} db := by
  rw [ackEnvelopes]
  split_ifs
  · trivial
  · trivial
  refine wp_bind (wp_read fun clock h₀ => wp_ret fun db₀ h₀' => wp_bind ?_)
  refine wp_selectActiveDevice_reads rfl (fun found db₁ hfound => ?_)
    (fun s granted found db₁ hw hseen hfound hgranted => ?_)
    fun s granted found db₁ hw hseen hfound hgranted hheld => ?_
  · rw [if_pos rfl]
    exact wp_ret fun _ _ => .notFound hfound
  · rw [if_pos rfl]
    refine wp_ret fun _ _ => ?_
    rw [hw, hseen]
    exact .notGranted hfound hgranted
  · rw [if_neg (by decide)]
    refine wp_bind (wp_updateReceived_reads hw fun s₃ snapshot db₃ rows hw₃ hseen₃ hl₃ h₃ hrows =>
      wp_ret fun db₄ h₄ => ?_)
    obtain ⟨rechecks, hreads⟩ := hseen₃
    obtain ⟨hids, hstamps⟩ := hrows db₄ h₄
    rw [hids, hw₃, ← hreads, hseen]
    exact .acknowledged _ rows hfound hgranted (hheld.stable (h₃.trans (h₄.mono hl₃))).active hids
      hstamps

/-! ### The effect of the writes -/

/-- One write, on one row. -/
def EnvelopeRow.stamp (row : EnvelopeRow) (write : Uuid × Time) : EnvelopeRow :=
  if row.envelopeId = write.1 then { row with receivedAt := some write.2 } else row

/-- The writes stamp each row of the table. -/
theorem applyAll_setReceivedAt (rows : List (Uuid × Time)) (db : Db) :
    (schema P).applyAll (rows.map fun row => .setReceivedAt row.1 row.2) db =
      { db with messageEnvelopes := db.messageEnvelopes.map fun e => rows.foldl .stamp e } := by
  induction rows generalizing db with
  | nil =>
    have hsame : (fun e : EnvelopeRow => ([] : List (Uuid × Time)).foldl .stamp e) = id := rfl
    rw [hsame, List.map_id]
    rfl
  | cons row rows ih =>
    rw [List.map_cons, Schema.applyAll_cons, ih, schema_apply, Db.write, List.map_map]
    rfl

/-- A row that is stamped with one time only. -/
theorem foldl_stamp {rows : List (Uuid × Time)} {e : EnvelopeRow} {t : Time}
    (h : ∀ row ∈ rows, row.1 = e.envelopeId → row.2 = t) : rows.foldl .stamp e =
      if e.envelopeId ∈ rows.map Prod.fst then { e with receivedAt := some t } else e := by
  induction rows generalizing e with
  | nil => rfl
  | cons row rows ih =>
    obtain ⟨hrow, hrows⟩ := List.forall_mem_cons.mp h
    rw [List.foldl_cons, EnvelopeRow.stamp, List.map_cons]
    by_cases hid : e.envelopeId = row.1
    · have hmem : e.envelopeId ∈ row.1 :: rows.map Prod.fst := List.mem_cons.mpr (Or.inl hid)
      rw [if_pos hid, @ih { e with receivedAt := some row.2 } hrows, if_pos hmem, hrow hid.symm]
      split_ifs <;> rfl
    · rw [if_neg hid, ih hrows]
      simp only [List.mem_cons, hid, false_or]

/-- **The update sets `received_at` where it was null**, in the rows it returns, if identifiers are
unique. -/
theorem applyAll_ackRun {rows : List (Uuid × Time)} {now : Time}
    (hunique : (db.envelopes.map Envelope.envelopeId).Nodup)
    (h : ∀ row ∈ rows, ∃ e ∈ db.messageEnvelopes, e.envelopeId = row.1 ∧
      e.recipientDeviceId = request.deviceId ∧ row.2 = e.receivedAt.getD now) :
    (schema P).applyAll (rows.map fun row => .setReceivedAt row.1 row.2) db =
      db.markReceived (rows.map Prod.fst) now := by
  rw [applyAll_setReceivedAt, Db.markReceived]
  congr 1
  refine List.map_congr_left fun e he => ?_
  rw [EnvelopeRow.markReceived, foldl_stamp fun row hrow hid => ?_]
  obtain ⟨e', he', hid', -, htime⟩ := h row hrow
  -- the identifier belongs to one row
  rw [Db.envelopes, List.map_map] at hunique
  rw [htime, List.inj_on_of_nodup_map hunique he' he (hid'.trans hid)]

/-! ### Every call -/

/-- What every call commits, and how an acknowledgment runs. -/
def Acks (P : Platform) (call : Call) (r : Reply) (seen : List Db) (ws : List Write) (db : Db) : Prop :=
  Committed P call r seen ws db ∧ ∀ user request, call = .ackEnvelopes user request →
    ∃ result, r = .acknowledged result ∧ AckRun user request result seen ws db

theorem AckRun.ackSpec {result : Option (List Uuid)} {seen : List Db} {ws : List Write}
    (h : AckRun user request result seen ws db) : AckSpec user request result seen ws db := by
  cases h with
  | notFound | notGranted => exact ⟨⟨[], rfl, by simp, by simp⟩, fun _ => rfl, by simp⟩
  | @acknowledged _ snapshot _ _ _ _ now rows hfound hgranted hactive hids hrows =>
    refine ⟨⟨rows, rfl, fun row hrow => ?_, fun ids hid => ?_⟩, by simp, fun _ => hactive⟩
    · obtain ⟨e, he, heid, hdevice, htime⟩ := hrows row hrow
      have hmem : row.1 ∈ snapshot.namedBy request := hids ▸ List.mem_map_of_mem hrow
      refine ⟨(Db.mem_namedBy.mp hmem).1, e, he, heid, hdevice, fun at' hat => ?_⟩
      rw [htime, hat, Option.getD_some]
    · rw [hids, Option.some.inj hid]

/-- **Every program meets this specification.** -/
theorem meets_acks (P : Platform) (allows : List StoreEvent → Call → Prop) :
    Meets (store P allows) (Acks P) := by
  intro call db
  have hcommitted := meets P allows call db
  rw [store_toSchema] at hcommitted ⊢
  cases call with
  | ackEnvelopes user request =>
    refine wp_map (wp_mono (fun result s x hrun => ?_) (wp_ackRun db))
    refine ⟨.ackEnvelopes hrun.ackSpec, fun user' request' heq => ?_⟩
    obtain ⟨rfl, rfl⟩ := Call.ackEnvelopes.inj heq
    exact ⟨result, rfl, hrun⟩
  | _ => exact wp_mono (fun r s x hx => ⟨hx, fun _ _ heq => by cases heq⟩) hcommitted

end ChatBackend
