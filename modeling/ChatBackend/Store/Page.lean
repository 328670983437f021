import ChatBackend.Store.Sequence

/-!
# Pages

What a page of `syncEnvelopeRecord` contains: an initial segment of the pending envelopes, sorted by
sender and number, all of them if `has_more` is false, and at least one if it is true.

## Main results

* `pageOf_ok` — a page against the pending envelopes of its snapshot
* `pageOf_total` — every table of storable envelopes has a page
* `mem_page_of_le` — below an envelope of a page, none of its sender is missing
-/

namespace ChatBackend

/-- An envelope of a size and number that `ChatService` and the table admit. -/
structure Envelope.Storable (e : Envelope) : Prop where
  packet : e.packet ≠ []
  maxPacket : e.packet.length ≤ 65536
  seq : 0 < e.seq

namespace EnvelopeRepository

variable {db : Db} {request : SyncEnvelopeRequest} {page : EnvelopePage} {e e' : Envelope}

/-! ### The order of the rows -/

instance : Std.Total pageOrder where
  total a b := by
    rcases lt_trichotomy a.senderDeviceId b.senderDeviceId with hs | hs | hs
    · exact Or.inl (Or.inl hs)
    · rcases lt_trichotomy a.seq b.seq with hq | hq | hq
      · exact Or.inl (Or.inr ⟨hs, Or.inl hq⟩)
      · rcases le_total a.envelopeId b.envelopeId with hi | hi
        · exact Or.inl (Or.inr ⟨hs, Or.inr ⟨hq, hi⟩⟩)
        · exact Or.inr (Or.inr ⟨hs.symm, Or.inr ⟨hq.symm, hi⟩⟩)
      · exact Or.inr (Or.inr ⟨hs.symm, Or.inl hq⟩)
    · exact Or.inr (Or.inl hs)

instance : IsTrans Envelope pageOrder where
  trans a b c := by
    rintro (h₁ | ⟨h₁, h₁'⟩) (h₂ | ⟨h₂, h₂'⟩)
    · exact Or.inl (h₁.trans h₂)
    · exact Or.inl (h₂ ▸ h₁)
    · exact Or.inl (h₁ ▸ h₂)
    · refine Or.inr ⟨h₁.trans h₂, ?_⟩
      rcases h₁' with hq | ⟨hq, hi⟩ <;> rcases h₂' with hq' | ⟨hq', hi'⟩
      · exact Or.inl (hq.trans hq')
      · exact Or.inl (hq' ▸ hq)
      · exact Or.inl (hq ▸ hq')
      · exact Or.inr ⟨hq.trans hq', hi.trans hi'⟩

theorem pairwise_pending : (pending db request).Pairwise pageOrder :=
  List.pairwise_insertionSort _ _

theorem mem_pending : e ∈ pending db request ↔ e ∈ db.envelopes ∧
    e.recipientDeviceId = request.deviceId ∧ cursorOf request.cursors e.senderDeviceId < e.seq := by
  simp only [pending, List.mem_insertionSort, List.mem_filter, decide_eq_true_eq, Db.envelopes]

/-! ### Filling a page -/

/-- The loop takes rows from the front, and says whether it left any. -/
theorem fillPage_ok {rows taken : List Envelope} {bytes : ℕ}
    (h : fillPage rows taken bytes = .ok page) : ∃ more rest, rows = more ++ rest ∧
      page.envelopes = taken ++ more ∧ (page.hasMore = true ↔ rest ≠ []) ∧
      (taken.length ≤ pageSize → page.envelopes.length ≤ pageSize) := by
  induction rows generalizing taken bytes with
  | nil =>
    obtain rfl : (⟨taken, false⟩ : EnvelopePage) = page := by simpa [fillPage] using h
    exact ⟨[], [], rfl, by simp, by simp, id⟩
  | cons row rows ih =>
    have stop : (⟨taken, true⟩ : EnvelopePage) = page → ∃ more rest, row :: rows = more ++ rest ∧
        page.envelopes = taken ++ more ∧ (page.hasMore = true ↔ rest ≠ []) ∧
        (taken.length ≤ pageSize → page.envelopes.length ≤ pageSize) := by
      rintro rfl
      exact ⟨[], row :: rows, rfl, by simp, by simp, id⟩
    rw [fillPage] at h
    split_ifs at h with hfull
    · exact stop (by simpa using h)
    · cases hp : decodePacketHex (encodeHex row.packet) with
      | error err => simp [hp, bind, Except.bind] at h
      | ok packet =>
        simp only [hp, bind, Except.bind] at h
        split_ifs at h with hbudget
        · exact stop (by simpa [pure, Except.pure] using h)
        · cases hq : parseSeq row.seq with
          | error err => simp [hq] at h
          | ok seq =>
            simp only [hq] at h
            obtain rfl := eq_of_decodePacketHex hp
            obtain ⟨rfl, -⟩ := eq_of_parseSeq hq
            obtain ⟨more, rest, rfl, hpage, hmore, hlen⟩ := ih h
            refine ⟨row :: more, rest, rfl, by simpa using hpage, hmore, fun htaken => hlen ?_⟩
            simp only [List.length_append, List.length_singleton]
            omega

/-- The page of a snapshot is an initial segment of its pending envelopes, all of them if there are
no more. -/
theorem pageOf_ok (h : pageOf db request = .ok page) :
    page.envelopes <+: pending db request ∧
      (page.hasMore = false → page.envelopes = pending db request) := by
  obtain ⟨more, rest, hrows, hpage, hmore, hlen⟩ := fillPage_ok h
  rw [List.nil_append] at hpage
  have hinit : page.envelopes <+: (pending db request).take (pageSize + 1) :=
    hpage ▸ ⟨rest, hrows.symm⟩
  refine ⟨hinit.trans (List.take_prefix _ _), fun hno => ?_⟩
  -- nothing is left of the first 101 rows, and at most 100 were taken, so there were no more
  have hrest : rest = [] := by
    by_contra hne
    exact absurd (hmore.mpr hne) (by simp [hno])
  rw [hrest, List.append_nil, ← hpage] at hrows
  have htake := congrArg List.length hrows
  have hle := hlen (Nat.zero_le _)
  rw [List.length_take] at htake
  rw [← hrows, List.take_of_length_le]
  omega

/-- The loop comes through storable rows, and takes the first one into an empty page. -/
theorem fillPage_total {rows : List Envelope} (hrows : ∀ e ∈ rows, e.Storable) (taken : List Envelope)
    (bytes : ℕ) : ∃ page, fillPage rows taken bytes = .ok page ∧
      (taken = [] → bytes = 0 → page.hasMore = true → page.envelopes ≠ []) := by
  induction rows generalizing taken bytes with
  | nil => exact ⟨_, rfl, fun _ _ hmore => by cases hmore⟩
  | cons row rows ih =>
    obtain ⟨hrow, hrows⟩ := List.forall_mem_cons.mp hrows
    have hfits : estimatedRecordBytes row.packet ≤ sizeSub pageWireBudget 0 := by
      have hle := hrow.maxPacket
      simp only [estimatedRecordBytes, sizeSub, pageWireBudget]
      omega
    rw [fillPage, decodePacketHex_encodeHex hrow.packet hrow.maxPacket, parseSeq_of_pos hrow.seq]
    simp only [bind, Except.bind]
    split_ifs with hfull hbudget
    · refine ⟨_, rfl, ?_⟩
      rintro rfl
      exact absurd hfull (by decide)
    · refine ⟨_, rfl, ?_⟩
      rintro - rfl
      exact absurd hfits (not_le.mpr hbudget)
    · obtain ⟨page, hpage, -⟩ := ih hrows _ (bytes + estimatedRecordBytes row.packet)
      refine ⟨page, hpage, fun _ _ _ => ?_⟩
      obtain ⟨more, -, -, henvelopes, -⟩ := fillPage_ok hpage
      rw [henvelopes]
      simp

/-- **Every snapshot of storable envelopes has a page**, and it is not empty if there are more. -/
theorem pageOf_total (h : ∀ e ∈ pending db request, e.Storable) :
    ∃ page, pageOf db request = .ok page ∧ (page.hasMore = true → page.envelopes ≠ []) := by
  obtain ⟨page, hpage, hne⟩ := fillPage_total (fun e he => h e (List.mem_of_mem_take he)) [] 0
  exact ⟨page, hpage, hne rfl rfl⟩

/-- No page exceeds the limit on its size. -/
theorem length_page_le (h : pageOf db request = .ok page) : page.envelopes.length ≤ pageSize := by
  obtain ⟨more, rest, -, -, -, hlen⟩ := fillPage_ok h
  exact hlen (Nat.zero_le _)

theorem mem_of_mem_page (h : pageOf db request = .ok page) (he : e ∈ page.envelopes) :
    e ∈ db.envelopes ∧ e.recipientDeviceId = request.deviceId ∧
      cursorOf request.cursors e.senderDeviceId < e.seq :=
  mem_pending.mp ((pageOf_ok h).1.subset he)

/-- **No gaps.** An envelope of a page comes with every pending one of the same sender that has a
smaller number; equal numbers are equal envelopes. -/
theorem mem_page_of_le (h : pageOf db request = .ok page) (he' : e' ∈ page.envelopes)
    (he : e ∈ pending db request) (hsender : e.senderDeviceId = e'.senderDeviceId)
    (hseq : e.seq ≤ e'.seq) (hunique : e.seq = e'.seq → e = e') : e ∈ page.envelopes := by
  obtain ⟨rest, hrest⟩ := (pageOf_ok h).1
  rw [← hrest] at he
  rcases List.mem_append.mp he with he | he
  · exact he
  · -- past the end of the page, the order puts `e` after `e'`
    have horder := (List.pairwise_append.mp (hrest ▸ pairwise_pending)).2.2 e' he' e he
    rcases horder with hlt | ⟨-, hlt | ⟨heq, -⟩⟩
    · exact absurd hsender hlt.ne'
    · exact absurd hseq (not_le.mpr hlt)
    · exact hunique heq.symm ▸ he'

end EnvelopeRepository

end ChatBackend
