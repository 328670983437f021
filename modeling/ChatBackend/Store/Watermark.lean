import ChatBackend.Store.Page

/-!
# Watermarks

A client that synchronizes keeps, for each sending device, the largest number it has received from
it, and asks for what lies above. This is sound because nothing is ever committed below a number
that was already visible: numbers are handed out in commit order, so an envelope that a snapshot
did not contain has a larger number than every envelope of its pair that the snapshot did contain.

## Main definitions

* `Later` — one state after another, envelope by envelope
* `clientCursor`, `KeepsCursors` — the client

## Main results

* `later_of_steps`, `later_of_mem_past`
* `no_skip_watermark`
-/

namespace ChatBackend

open ReadCommitted EnvelopeRepository

variable {P : Platform} {allows : List StoreEvent → Call → Prop} {a b c db db₀ : Db}

/-! ### Later states -/

/-- The envelopes belong to the same device pair. -/
def SamePair (e e' : Envelope) : Prop :=
  pairOf e.senderDeviceId e.recipientDeviceId = pairOf e'.senderDeviceId e'.recipientDeviceId

/-- The constraints of `app.message_envelopes` on numbers: `envelope_seq_positive` and
`envelope_pair_seq_unique`. -/
structure Db.ValidSeqs (db : Db) : Prop where
  positive : ∀ e ∈ db.envelopes, 0 < e.seq
  unique : ∀ e ∈ db.envelopes, ∀ e' ∈ db.envelopes, SamePair e e' → e.seq = e'.seq → e = e'

/-- `b` has the envelopes of `a` and further ones, with positive numbers that increase within each
pair and exceed those the pair had in `a`. -/
def Later (a b : Db) : Prop :=
  ∃ new, b.envelopes = a.envelopes ++ new ∧ (∀ e ∈ new, 0 < e.seq) ∧
    new.Pairwise (fun e e' => SamePair e e' → e.seq < e'.seq) ∧
    ∀ e ∈ a.envelopes, ∀ e' ∈ new, SamePair e e' → e.seq < e'.seq

theorem Later.of_eq (h : b.envelopes = a.envelopes) : Later a b :=
  ⟨[], by rw [h, List.append_nil], by simp, .nil, by simp⟩

theorem Later.trans (h : Later a b) (h' : Later b c) : Later a c := by
  obtain ⟨new, hb, hpos, hnew, hab⟩ := h
  obtain ⟨new', hc, hpos', hnew', hbc⟩ := h'
  rw [hb] at hbc
  refine ⟨new ++ new', by rw [hc, hb, List.append_assoc], fun e he => ?_, ?_, fun e he e' he' => ?_⟩
  · rcases List.mem_append.mp he with he | he
    · exact hpos e he
    · exact hpos' e he
  · exact List.pairwise_append.mpr ⟨hnew, hnew', fun e he => hbc e (List.mem_append_right _ he)⟩
  · rcases List.mem_append.mp he' with he' | he'
    · exact hab e he e' he'
    · exact hbc e (List.mem_append_left _ he) e' he'

theorem Later.subset (h : Later a b) : a.envelopes ⊆ b.envelopes := by
  obtain ⟨new, hb, -⟩ := h
  exact hb ▸ List.subset_append_left _ _

/-- **Nothing appears below.** An envelope with a number that its pair had already reached in `a`
was there in `a`. -/
theorem Later.mem_of_le (h : Later a b) {e e' : Envelope} (he : e ∈ b.envelopes)
    (he' : e' ∈ a.envelopes) (hpair : SamePair e' e) (hle : e.seq ≤ e'.seq) : e ∈ a.envelopes := by
  obtain ⟨new, hb, -, -, hab⟩ := h
  rw [hb] at he
  rcases List.mem_append.mp he with he | he
  · exact he
  · exact absurd (hab e' he' e he hpair) (not_lt.mpr hle)

theorem Later.validSeqs (h : Later a b) (ha : a.ValidSeqs) : b.ValidSeqs := by
  obtain ⟨new, hb, hpos, hnew, hab⟩ := h
  refine ⟨fun e he => ?_, fun e he e' he' hpair hseq => ?_⟩
  · rcases List.mem_append.mp (hb ▸ he) with he | he
    · exact ha.positive e he
    · exact hpos e he
  · rcases List.mem_append.mp (hb ▸ he) with he | he <;>
      rcases List.mem_append.mp (hb ▸ he') with he' | he'
    · exact ha.unique e he e' he' hpair hseq
    · exact absurd hseq (hab e he e' he' hpair).ne
    · exact absurd hseq (hab e' he' e he hpair.symm).ne'
    · have hone : ∀ e ∈ new, ∀ e' ∈ new, SamePair e e' → e.seq = e'.seq → e = e' :=
        List.Pairwise.forall_of_forall_of_flip (fun _ _ _ _ => rfl)
          (hnew.imp fun hlt hp hs => absurd hs (hlt hp).ne)
          (hnew.imp fun hlt hp hs => absurd hs (hlt hp.symm).ne')
      exact hone e he e' he' hpair hseq

theorem Later.validSeqs_left (h : Later a b) (hb : b.ValidSeqs) : a.ValidSeqs :=
  ⟨fun e he => hb.positive e (h.subset he),
    fun e he e' he' => hb.unique e (h.subset he) e' (h.subset he')⟩

theorem seq_le_maxSeq {pair : Uuid × Uuid} {e : Envelope} (he : e ∈ db.pairEnvelopes pair) :
    e.seq ≤ db.maxSeq pair := by
  rw [Db.maxSeq]
  cases hmax : ((db.pairEnvelopes pair).map Envelope.seq).max? with
  | none =>
    have hnil := List.map_eq_nil_iff.mp (List.max?_eq_none_iff.mp hmax)
    rw [hnil] at he
    cases he
  | some m => exact (List.max?_eq_some_iff.mp hmax).2 _ (List.mem_map_of_mem he)

/-- **A commit leads to a later state.** -/
theorem Committed.later {call : Call} {r : Reply} {seen : List Db} {ws : List Write}
    (h : Committed P call r seen ws db) : Later db ((schema P).applyAll ws db) := by
  have happ := envelopes_applyAll (P := P) ws db
  rcases h.inserts with hnil | ⟨user, sender, request, id, -, -, hins, hpos, -⟩
  · exact .of_eq (by rw [happ, hnil, List.append_nil])
  · rw [hins] at happ
    refine ⟨_, happ, List.forall_mem_singleton.mpr hpos, List.pairwise_singleton _ _, fun e he e' he' hpair => ?_⟩
    obtain rfl := List.mem_singleton.mp he'
    have hmem : e ∈ db.pairEnvelopes (pairOf sender request.recipientDeviceId) :=
      List.mem_filter.mpr ⟨he, decide_eq_true hpair⟩
    exact Int.lt_add_one_of_le (seq_le_maxSeq hmem)

theorem later_of_steps {x y : StoreState}
    (h : Serial.Steps (store P allows) (Committed P) x y) : Later x.db y.db :=
  h.rel (R := Later) (fun _ => .of_eq rfl) Later.trans (fun _ _ _ _ _ h => h.later)
    fun _ _ hd => .of_eq (drift_envelopes hd)

theorem later_of_mem_past {x : StoreState}
    (h : Serial.Reachable (store P allows) (Committed P) db₀ x) : ∀ v ∈ x.past, Later v x.db :=
  h.rel (R := Later) (fun _ => .of_eq rfl) Later.trans (fun _ _ _ _ _ h => h.later)
    fun _ _ hd => .of_eq (drift_envelopes hd)

/-! ### The client -/

/-- The envelopes that device `R` got back from one call. -/
def pageFor (R : Uuid) (e : StoreEvent) : List Envelope :=
  match e.call, e.outcome with
  | .syncEnvelopeRecord _ request, .returned (.page (some page)) =>
    if request.deviceId = R then page.envelopes else []
  | _, _ => []

/-- All the envelopes that device `R` has got back. -/
def received (R : Uuid) (log : List StoreEvent) : List Envelope := log.flatMap (pageFor R)

/-- The client's cursor for the sender `S`: the largest number it has received from it. -/
def clientCursor (R : Uuid) (log : List StoreEvent) (S : Uuid) : ℤ :=
  ((received R log).filter fun e => e.senderDeviceId = S).foldl (fun cursor e => max cursor e.seq) 0

/-- The clients of device `R` ask for what is above their cursors, or for more. Calls of other
devices, and other calls, are made at will. -/
def KeepsCursors (R : Uuid) (log : List StoreEvent) : Call → Prop
  | .syncEnvelopeRecord _ request =>
    request.deviceId = R → ∀ S, cursorOf request.cursors S ≤ clientCursor R log S
  | _ => True

theorem le_foldl_max {l : List Envelope} {k z : ℤ} :
    k ≤ l.foldl (fun cursor e => max cursor e.seq) z ↔ k ≤ z ∨ ∃ e ∈ l, k ≤ e.seq := by
  induction l generalizing z with
  | nil => simp
  | cons e l ih => simp [ih, or_assoc]

theorem le_clientCursor {R S : Uuid} {log : List StoreEvent} {k : ℤ} :
    k ≤ clientCursor R log S ↔
      k ≤ 0 ∨ ∃ e ∈ received R log, e.senderDeviceId = S ∧ k ≤ e.seq := by
  rw [clientCursor, le_foldl_max]
  simp [and_assoc]

theorem received_append (R : Uuid) (log : List StoreEvent) (e : StoreEvent) :
    received R (log ++ [e]) = received R log ++ pageFor R e := by
  simp [received]

/-- Cursors only rise. -/
theorem clientCursor_mono {R : Uuid} {log log' : List StoreEvent} (h : log <+: log') (S : Uuid) :
    clientCursor R log S ≤ clientCursor R log' S := by
  obtain ⟨rest, rfl⟩ := h
  refine le_clientCursor.mpr ((le_clientCursor.mp le_rfl).imp_right ?_)
  rintro ⟨e, he, hS, hle⟩
  exact ⟨e, by rw [received, List.flatMap_append]; exact List.mem_append_left _ he, hS, hle⟩

/-! ### The invariant -/

/-- What device `R` has received, against the table. -/
structure Watermarked (R : Uuid) (x : StoreState) : Prop where
  stored : ∀ e ∈ received R x.log, e ∈ x.db.envelopes ∧ e.recipientDeviceId = R
  complete : ∀ e ∈ x.db.envelopes, e.recipientDeviceId = R →
    e.seq ≤ clientCursor R x.log e.senderDeviceId → e ∈ received R x.log

/-- What is received in one call, if it is anything: a page of a state seen, for cursors that the
client had when it started. -/
theorem page_cases {R : Uuid} {x : StoreState} {e : StoreEvent}
    (he : Serial.Ends (store P (KeepsCursors R)) (Committed P) x e) : pageFor R e = [] ∨
      ∃ request page v, pageFor R e = page.envelopes ∧ request.deviceId = R ∧ e.writes = [] ∧
        v ∈ x.past ∧ pageOf v request = .ok page ∧
        ∀ S, cursorOf request.cursors S ≤ clientCursor R x.log S := by
  rw [pageFor]
  split
  · next user request page hcall hout =>
    split_ifs with hR
    · have hspec := he.returned hout
      rw [hcall] at hspec
      cases hspec with
      | syncEnvelopeRecord hs =>
        obtain ⟨v, hv, hpage⟩ := hs.page page rfl
        obtain ⟨log₀, hlog, ha⟩ := he.allowed
        rw [hcall] at ha
        exact Or.inr ⟨request, page, v, rfl, hR, hs.readOnly, he.seen hv, hpage,
          fun S => (ha hR S).trans (clientCursor_mono hlog S)⟩
    · exact Or.inl rfl
  · exact Or.inl rfl

/-- What was received up to a number stays complete in later states. -/
theorem Watermarked.later {R : Uuid} {x : StoreState} (hx : Watermarked R x) {db : Db}
    (hdb : Later x.db db) (hvalid : db.ValidSeqs) : ∀ e ∈ db.envelopes, e.recipientDeviceId = R →
      e.seq ≤ clientCursor R x.log e.senderDeviceId → e ∈ received R x.log := by
  intro e he hR hle
  rcases le_clientCursor.mp hle with hle₀ | ⟨e', he', hS, hle'⟩
  · exact absurd (hvalid.positive e he) (not_lt.mpr hle₀)
  · obtain ⟨hmem', hR'⟩ := hx.stored e' he'
    have hpair : SamePair e' e := by rw [SamePair, hS, hR', hR]
    exact hx.complete e (hdb.mem_of_le he hmem' hpair hle') hR hle

/-- **The step.** A page extends what was received without a gap. -/
theorem Watermarked.after {R : Uuid} {x : StoreState} {e : StoreEvent} (hx : Watermarked R x)
    (hvalid : x.db.ValidSeqs) (hpast : ∀ v ∈ x.past, Later v x.db)
    (he : Serial.Ends (store P (KeepsCursors R)) (Committed P) x e) :
    Watermarked R (x.after (store P (KeepsCursors R)) e) := by
  have hlater : Later x.db ((schema P).applyAll e.writes x.db) := by
    rcases he.writes with hw | ⟨r, hr⟩
    · exact .of_eq (by rw [hw, Schema.applyAll_nil])
    · exact hr.later
  rcases page_cases he with hnone | ⟨request, page, v, hpage, hR, hw, hv, hof, hcursors⟩
  · have hrec : received R (x.log ++ [e]) = received R x.log := by
      rw [received_append, hnone, List.append_nil]
    refine ⟨fun e' he' => ?_, fun e' he' hR' hle => ?_⟩
    · rw [Serial.State.log_after, hrec] at he'
      exact ⟨hlater.subset (hx.stored e' he').1, (hx.stored e' he').2⟩
    · rw [Serial.State.log_after] at hle ⊢
      rw [hrec]
      rw [clientCursor, hrec] at hle
      exact hx.later hlater (hlater.validSeqs hvalid) e' he' hR' hle
  · rw [Serial.State.after, hw, Schema.applyAll_nil]
    have hrec : received R (x.log ++ [e]) = received R x.log ++ page.envelopes := by
      rw [received_append, hpage]
    refine ⟨fun e' he' => ?_, fun e' he' hR' hle => ?_⟩
    · rcases List.mem_append.mp (hrec ▸ he') with he' | he'
      · exact hx.stored e' he'
      · obtain ⟨hmem, hrecipient, -⟩ := mem_of_mem_page hof he'
        exact ⟨(hpast v hv).subset hmem, hrecipient.trans hR⟩
    · change e' ∈ received R (x.log ++ [e])
      rw [hrec]
      by_cases hold : e'.seq ≤ clientCursor R x.log e'.senderDeviceId
      · exact List.mem_append_left _ (hx.complete e' he' hR' hold)
      · -- `e'` is above the old cursor, so the new one comes from the page
        rcases le_clientCursor.mp hle with hle₀ | ⟨f, hf, hS, hle'⟩
        · exact absurd (hvalid.positive e' he') (not_lt.mpr hle₀)
        rcases List.mem_append.mp (hrec ▸ hf) with hf | hf
        · exact absurd (le_clientCursor.mpr (Or.inr ⟨f, hf, hS, hle'⟩)) hold
        · obtain ⟨hfv, hfR, -⟩ := mem_of_mem_page hof hf
          have hpair : SamePair f e' := by rw [SamePair, hS, hfR, hR, hR']
          have hmem : e' ∈ v.envelopes := (hpast v hv).mem_of_le he' hfv hpair hle'
          have hunique := ((hpast v hv).validSeqs_left hvalid).unique e' hmem f hfv hpair.symm
          refine List.mem_append_right _ (mem_page_of_le hof hf (mem_pending.mpr ?_) hS.symm hle'
            hunique)
          exact ⟨hmem, hR'.trans hR.symm, (hcursors _).trans_lt (not_le.mp hold)⟩

theorem watermarked_of_reachable {R : Uuid} {x : StoreState}
    (h : Serial.Reachable (store P (KeepsCursors R)) (Committed P) db₀ x)
    (hvalid : db₀.ValidSeqs) : Watermarked R x := by
  have hrun : ∀ y, Serial.Reachable (store P (KeepsCursors R)) (Committed P) db₀ y →
      y.db.ValidSeqs ∧ ∀ v ∈ y.past, Later v y.db :=
    fun y hy => ⟨(later_of_steps hy).validSeqs hvalid, later_of_mem_past hy⟩
  suffices hboth : Serial.Reachable (store P (KeepsCursors R)) (Committed P) db₀ x ∧
      Watermarked R x from hboth.2
  refine Serial.induction (P := fun y => Serial.Reachable (store P (KeepsCursors R)) (Committed P)
    db₀ y ∧ Watermarked R y) (fun y e he hy => ?_) (fun y db hd hy => ?_) h ⟨.refl, ?_⟩
  · obtain ⟨hvy, hpy⟩ := hrun y hy.1
    exact ⟨hy.1.tail (.ends he), hy.2.after hvy hpy he⟩
  · have henv := drift_envelopes hd
    refine ⟨hy.1.tail (.drift hd), fun e he => ?_, fun e he => ?_⟩
    · rw [henv]
      exact hy.2.stored e he
    · exact hy.2.complete e (henv ▸ he)
  · refine ⟨by simp [received], fun e he _ hle => ?_⟩
    exact absurd (hvalid.positive e he) (not_lt.mpr (by simpa [clientCursor, received] using hle))

/-- **No envelope is skipped.** Every envelope for device `R` that is committed now or in any later
state, with a number up to the cursor that the client has for its sender now, has already been
returned to `R`. -/
theorem no_skip_watermark {R : Uuid} {c c' : StoreConfig}
    (h : Reachable (store P (KeepsCursors R)) db₀ c) (hvalid : db₀.ValidSeqs)
    (h' : Steps (store P (KeepsCursors R)) c c') :
    ∀ e ∈ c'.db.envelopes, e.recipientDeviceId = R →
      e.seq ≤ clientCursor R c.log e.senderDeviceId → e ∈ received R c.log := by
  have hsteps := Steps.serial (meets P (KeepsCursors R)) (Reachable.good (meets P _) h) h'
  have hlater : Later c.db c'.db := later_of_steps hsteps
  have hvalid' : c'.db.ValidSeqs := hlater.validSeqs ((later_of_steps (serial h)).validSeqs hvalid)
  exact (watermarked_of_reachable (serial h) hvalid).later hlater hvalid'

/-- A message, a page that returns it, and a second message above the cursor. -/
theorem no_skip_watermark_second_message : ∃ c : StoreConfig,
    Reachable (store Sample.platform (KeepsCursors Sample.laptop)) Sample.start c ∧
      (c.db.envelopes.map Envelope.seq = [1, 2] ∧
        clientCursor Sample.laptop c.log Sample.phone = 1) ∧
      ∀ e ∈ c.db.envelopes, e.recipientDeviceId = Sample.laptop →
        e.seq ≤ clientCursor Sample.laptop c.log e.senderDeviceId →
        e ∈ received Sample.laptop c.log := by
  have hfirst : ∀ user log, KeepsCursors Sample.laptop log
      (.syncEnvelopeRecord user ⟨Sample.laptop, []⟩) :=
    fun _ _ _ S => le_clientCursor.mpr (Or.inl le_rfl)
  obtain ⟨c, hc, -, ht⟩ := Reachable.of_runCalls
    (store Sample.platform (KeepsCursors Sample.laptop)) Sample.start
    [(.saveNewMessage Sample.alice Sample.phone ⟨21, Sample.laptop, "v1", [1, 2, 3]⟩, [31]),
      (.syncEnvelopeRecord Sample.bob ⟨Sample.laptop, []⟩, []),
      (.saveNewMessage Sample.alice Sample.phone ⟨22, Sample.laptop, "v1", [4]⟩, [32])]
    (fun c : StoreConfig => c.db.envelopes.map Envelope.seq = [1, 2] ∧
      clientCursor Sample.laptop c.log Sample.phone = 1)
    (by
      simp only [List.forall_mem_cons]
      exact ⟨fun _ => trivial, hfirst Sample.bob, fun _ => trivial, by simp⟩)
    (by decide +kernel)
  have hvalid : Sample.start.ValidSeqs :=
    ⟨by simp [Db.envelopes, Sample.start], by simp [Db.envelopes, Sample.start]⟩
  exact ⟨c, hc, of_decide_eq_true ht, no_skip_watermark hc hvalid .refl⟩

end ChatBackend
