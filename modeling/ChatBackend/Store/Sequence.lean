import ChatBackend.Store.Calls

/-!
# Sequence numbers

The envelopes of a device pair are numbered 1, 2, 3, … in the order in which they are committed,
whichever of the two devices sent them and however the transactions interleave.

The number is `MAX(seq) + 1`, so the invariant is about the table alone: the pair's envelopes,
oldest first, carry `1, …, n`. What keeps it is that `saveNewMessage`'s specification speaks of the
maximum in the state it commits on, not in the state it read it in.

## Main results

* `sequence_allocation`
-/

namespace ChatBackend

open ReadCommitted EnvelopeRepository

variable {P : Platform} {allows : List StoreEvent → Call → Prop} {db db₀ : Db}

/-! ### Inserted envelopes -/

/-- The stored envelopes, oldest first, without `received_at`. -/
def Db.envelopes (db : Db) : List Envelope := db.messageEnvelopes.map EnvelopeRow.toEnvelope

/-- The envelope that a write inserts. -/
def Write.envelope? : Write → Option Envelope
  | .insertEnvelope row => some row.toEnvelope
  | _ => none

/-- The envelopes that a transaction inserts. -/
def inserted (ws : List Write) : List Envelope := ws.filterMap Write.envelope?

@[simp] theorem inserted_nil : inserted [] = [] := rfl

@[simp] theorem inserted_insertEnvelope (row : EnvelopeRow) :
    inserted [.insertEnvelope row] = [row.toEnvelope] := rfl

theorem inserted_of_table {ws : List Write} (h : ∀ w ∈ ws, w.table ≠ .messageEnvelopes) :
    inserted ws = [] := by
  refine List.filterMap_eq_nil_iff.mpr fun w hw => ?_
  cases w <;> first | rfl | exact absurd rfl (h _ hw)

theorem envelopes_write (w : Write) (db : Db) :
    (db.write w).envelopes = db.envelopes ++ w.envelope?.toList := by
  rcases hw : w.envelope? with _ | e
  · have hne : ∀ row, w ≠ .insertEnvelope row := by
      rintro row rfl
      cases hw
    rw [Db.envelopes, toEnvelope_write hne, Option.toList_none, List.append_nil, Db.envelopes]
  · cases w <;> cases hw
    simp [Db.envelopes, Db.write]

/-- Envelopes are only ever added, at the end. -/
theorem envelopes_applyAll (ws : List Write) (db : Db) :
    ((schema P).applyAll ws db).envelopes = db.envelopes ++ inserted ws := by
  induction ws generalizing db with
  | nil => simp
  | cons w ws ih =>
    rw [Schema.applyAll_cons, ih, schema_apply, envelopes_write, List.append_assoc, inserted, inserted,
      List.filterMap_cons]
    cases w.envelope? <;> rfl

theorem pairEnvelopes_eq (db : Db) (pair : Uuid × Uuid) :
    db.pairEnvelopes pair =
      db.envelopes.filter fun e => pairOf e.senderDeviceId e.recipientDeviceId = pair := rfl

/-- **Only a successful `saveNewMessage` inserts an envelope**, and it inserts one. -/
theorem Committed.inserts {call : Call} {r : Reply} {seen : List Db} {ws : List Write}
    (h : Committed P call r seen ws db) :
    inserted ws = [] ∨ ∃ user sender request envelopeId,
      let seq := db.maxSeq (pairOf sender request.recipientDeviceId) + 1
      call = .saveNewMessage user sender request ∧
      r = .message ⟨.success, some (answered sender request envelopeId seq)⟩ ∧
      inserted ws = [stored sender request envelopeId seq] ∧ 0 < seq ∧ seq ≤ maxBigint ∧
      db.permits user sender request.recipientDeviceId ∧
      db.envelopesFor sender request.recipientDeviceId request.messageId = [] := by
  by_cases ht : Table.messageEnvelopes ∈ call.tables
  · cases h with
    | saveNewMessage h =>
      cases h with
      | success envelopeId hp hf hid hpos hmax =>
        exact Or.inr ⟨_, _, _, envelopeId, rfl, rfl, rfl, hpos, hmax, hp, hf⟩
      | _ => exact Or.inl rfl
    | ackEnvelopes h =>
      obtain ⟨rows, rfl, -⟩ := h.rows
      refine Or.inl (List.filterMap_eq_nil_iff.mpr (List.forall_mem_map.mpr fun row _ => rfl))
    | _ => simp [Call.tables] at ht
  · exact Or.inl (inserted_of_table fun w hw he => ht (he ▸ h.tables w hw))

/-! ### Numbering -/

/-- `[1, …, n]`. -/
def oneTo (n : ℕ) : List ℤ := (List.range n).map fun k : ℕ => (k : ℤ) + 1

theorem oneTo_succ (n : ℕ) : oneTo (n + 1) = oneTo n ++ [(n : ℤ) + 1] := by
  simp [oneTo, List.range_succ]

theorem mem_oneTo {n : ℕ} {k : ℤ} : k ∈ oneTo n ↔ 1 ≤ k ∧ k ≤ n := by
  simp only [oneTo, List.mem_map, List.mem_range]
  constructor
  · rintro ⟨m, hm, rfl⟩
    omega
  · intro ⟨h₁, h₂⟩
    exact ⟨(k - 1).toNat, by omega, by omega⟩

theorem max_oneTo (n : ℕ) : (oneTo n).max?.getD 0 = n := by
  cases n with
  | zero => rfl
  | succ n =>
    have hmax : (oneTo (n + 1)).max? = some ((n : ℤ) + 1) := by
      rw [List.max?_eq_some_iff]
      refine ⟨mem_oneTo.mpr (by omega), fun k hk => ?_⟩
      have := (mem_oneTo.mp hk).2
      omega
    rw [hmax, Option.getD_some]
    omega

/-- The envelopes of every device pair, oldest first, are numbered from 1. -/
def Numbered (db : Db) : Prop :=
  ∀ pair, (db.pairEnvelopes pair).map Envelope.seq = oneTo (db.pairEnvelopes pair).length

theorem Numbered.maxSeq (h : Numbered db) (pair : Uuid × Uuid) :
    db.maxSeq pair = (db.pairEnvelopes pair).length := by
  rw [Db.maxSeq, h pair, max_oneTo]

/-- **The next number keeps the numbering.** -/
theorem Numbered.insert {db' : Db} {e : Envelope} (h : Numbered db)
    (he : db'.envelopes = db.envelopes ++ [e])
    (hseq : e.seq = db.maxSeq (pairOf e.senderDeviceId e.recipientDeviceId) + 1) : Numbered db' := by
  intro pair
  have happ : db'.pairEnvelopes pair = db.pairEnvelopes pair ++
      [e].filter fun e => pairOf e.senderDeviceId e.recipientDeviceId = pair := by
    rw [pairEnvelopes_eq, he, List.filter_append, ← pairEnvelopes_eq]
  by_cases hp : pairOf e.senderDeviceId e.recipientDeviceId = pair
  · rw [List.filter_cons_of_pos (by simpa using hp), List.filter_nil] at happ
    rw [happ, List.map_append, h pair, List.length_append, List.length_singleton, oneTo_succ,
      List.map_singleton, hseq, hp, h.maxSeq]
  · rw [List.filter_cons_of_neg (by simpa using hp), List.filter_nil, List.append_nil] at happ
    rw [happ, h pair]

theorem Numbered.congr {db' : Db} (h : Numbered db) (he : db'.envelopes = db.envelopes) :
    Numbered db' := by
  intro pair
  rw [pairEnvelopes_eq, he, ← pairEnvelopes_eq]
  exact h pair

/-- The numbering survives every commit. -/
theorem Numbered.commit (h : Numbered db) {call : Call} {r : Reply} {seen : List Db}
    {ws : List Write} (hc : Committed P call r seen ws db) :
    Numbered ((schema P).applyAll ws db) := by
  have happ := envelopes_applyAll (P := P) ws db
  rcases hc.inserts with hnil | ⟨user, sender, request, id, -, -, hins, -⟩
  · rw [hnil, List.append_nil] at happ
    exact h.congr happ
  · rw [hins] at happ
    exact h.insert happ rfl

theorem drift_envelopes {db' : Db} (h : (schema P).drift db db') : db'.envelopes = db.envelopes := by
  obtain ⟨now, -, rfl⟩ := h
  rfl

/-! ### Whole runs -/

/-- The table is what the calls of the history inserted, in the order in which they committed. -/
theorem envelopes_eq_flatMap {x : StoreState}
    (h : Serial.Reachable (store P allows) (Committed P) db₀ x) (h₀ : db₀.messageEnvelopes = []) :
    x.db.envelopes = x.log.flatMap fun e => inserted e.writes := by
  refine Serial.induction (P := fun x => x.db.envelopes = x.log.flatMap fun e => inserted e.writes)
    (fun x e he hx => ?_) (fun x db hd hx => (drift_envelopes hd).trans hx) h ?_
  · rw [Serial.State.db_after, Serial.State.log_after, store_toSchema, envelopes_applyAll, hx]
    simp
  · simp [Db.envelopes, h₀]

/-- An empty table is numbered. -/
theorem numbered_of_empty (h : db.messageEnvelopes = []) : Numbered db := by
  intro pair
  rw [pairEnvelopes_eq, Db.envelopes, h]
  rfl

theorem numbered_of_reachable {x : StoreState}
    (h : Serial.Reachable (store P allows) (Committed P) db₀ x) (h₀ : Numbered db₀) :
    Numbered x.db := by
  refine Serial.induction (P := fun x => Numbered x.db) (fun x e he hx => ?_)
    (fun x db hd hx => hx.congr (drift_envelopes hd)) h h₀
  rcases he.writes with hw | ⟨r, hr⟩
  · rw [Serial.State.db_after, hw]
    exact hx
  · exact hx.commit hr

/-- Whatever was once committed is still there, unchanged and at the same place. -/
theorem envelopes_prefix_of_steps {x y : StoreState}
    (h : Serial.Steps (store P allows) (Committed P) x y) : x.db.envelopes <+: y.db.envelopes :=
  h.rel (R := fun a b => a.envelopes <+: b.envelopes) (fun _ => List.prefix_rfl)
    (fun {a b _} (hab : a.envelopes <+: b.envelopes) hbc => hab.trans hbc)
    (fun _ _ _ ws db _ => envelopes_applyAll (P := P) ws db ▸ List.prefix_append _ _)
    (fun _ _ hd => (drift_envelopes hd) ▸ List.prefix_rfl)

theorem envelopes_prefix_of_mem_past {x : StoreState}
    (h : Serial.Reachable (store P allows) (Committed P) db₀ x) :
    ∀ past ∈ x.past, past.envelopes <+: x.db.envelopes :=
  h.rel (R := fun a b => a.envelopes <+: b.envelopes) (fun _ => List.prefix_rfl)
    (fun {a b _} (hab : a.envelopes <+: b.envelopes) hbc => hab.trans hbc)
    (fun _ _ _ ws db _ => envelopes_applyAll (P := P) ws db ▸ List.prefix_append _ _)
    (fun _ _ hd => (drift_envelopes hd) ▸ List.prefix_rfl)

/-- How the envelopes of a run from an empty table are numbered. -/
structure SequenceAllocated (c : StoreConfig) : Prop where
  /-- The `n` envelopes of a device pair, oldest first, have the numbers `1, …, n`. -/
  numbers : ∀ a b, (c.db.pairEnvelopes (pairOf a b)).map Envelope.seq =
    oneTo (c.db.pairEnvelopes (pairOf a b)).length
  /-- Oldest first means in the order of the commits. -/
  commitOrder : c.db.envelopes = c.log.flatMap fun e => inserted e.writes
  /-- A `saveNewMessage` without success, and a call that was rolled back, left no trace. -/
  withoutSuccess : ∀ e ∈ c.log, ((∃ r, e.outcome = .returned (.message r) ∧ r.status ≠ .success) ∨
    ∃ error, e.outcome = .threw error) → e.writes = []
  /-- What was committed is still there, in the same order and with the same fields. -/
  immutable : ∀ past ∈ c.past, past.envelopes <+: c.db.envelopes

/-- **Sequence allocation.** However many transactions run interleaved, and wherever each of them
commits or is rolled back, the envelopes of a device pair are numbered from 1 without gaps in the
order in which they were committed. -/
theorem sequence_allocation {c : StoreConfig} (h : Reachable (store P allows) db₀ c)
    (hempty : db₀.messageEnvelopes = []) : SequenceAllocated c := by
  have hs := serial h
  have h₀ : Numbered db₀ := numbered_of_empty hempty
  refine ⟨fun a b => numbered_of_reachable hs h₀ _, envelopes_eq_flatMap hs hempty, ?_,
    envelopes_prefix_of_mem_past hs⟩
  intro e he hno
  obtain ⟨u, -, hends, -⟩ := hs.split_mem he
  rcases hno with ⟨r, hr, hne⟩ | ⟨error, herror⟩
  · obtain ⟨user, sender, request, -, hspec⟩ := (hends.returned hr).message
    cases hw : e.writes with
    | nil => rfl
    | cons w ws =>
      rw [hw] at hspec
      cases hspec
      exact absurd rfl hne
  · have hc := hends.commits
    rwa [Serial.Commits, herror] at hc

/-- One message in each direction. -/
theorem sequence_allocation_both_directions : ∃ c : StoreConfig,
    Reachable (store Sample.platform Sample.anyone) Sample.start c ∧
      c.db.envelopes.map (fun e => (e.senderDeviceId, e.seq)) =
        [(Sample.phone, 1), (Sample.laptop, 2)] ∧ SequenceAllocated c := by
  obtain ⟨c, hc, -, ht⟩ := Reachable.of_runCalls (store Sample.platform Sample.anyone) Sample.start
    [(.saveNewMessage Sample.alice Sample.phone ⟨21, Sample.laptop, "v1", [1, 2, 3]⟩, [31]),
      (.saveNewMessage Sample.bob Sample.laptop ⟨22, Sample.phone, "v1", [4]⟩, [32])]
    (fun c : StoreConfig => c.db.envelopes.map (fun e => (e.senderDeviceId, e.seq)) =
      [(Sample.phone, 1), (Sample.laptop, 2)])
    (fun _ _ _ => trivial) (by decide +kernel)
  exact ⟨c, hc, of_decide_eq_true ht, sequence_allocation hc rfl⟩

end ChatBackend
