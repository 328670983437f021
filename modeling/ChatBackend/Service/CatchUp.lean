import ChatBackend.Paging
import ChatBackend.Service.ChatService
import ChatBackend.Store.Watermark
import ChatBackend.Websocket.Requests
import Mathlib.Data.List.Dedup

/-!
# Catching up

A device that was away reads its inbox page by page: it asks for what lies above its cursors, raises
the cursor of each sender to the largest number it has received from it, and repeats this while the
server says that there is more. `Paging.drain` is this loop, and the server's part is
`parseSyncEnvelope` followed by `syncEnvelopeRecord` on a store that nobody writes to.

The pages make up the inbox in order. What can stop the loop is the number of cursors: each new
sender adds one, and `parseSyncEnvelope` accepts at most 1000.

## Main definitions

* `Db.Admitted` — the tables that the service fills
* `mergeCursors` — the client's cursors after a page
* `answerSync` — the server

## Main results

* `admitted_of_reachable`
* `catch_up`
* `catch_up_refused` — an inbox that cannot be read
-/

namespace ChatBackend

open ReadCommitted EnvelopeRepository WebSocketDispatcher

variable {P : Platform} {db db₀ : Db} {request : SyncEnvelopeRequest}

/-! ### Admitted tables -/

/-- What `ChatService`, `saveNewMessage` and the table establish about a stored envelope. -/
structure Envelope.Admitted (e : Envelope) : Prop extends e.Storable where
  maxSeq : e.seq ≤ maxBigint
  sender : e.senderDeviceId ≠ 0
  other : e.senderDeviceId ≠ e.recipientDeviceId

/-- The tables that the service fills: `envelope_pair_seq_unique` holds too. -/
structure Db.Admitted (db : Db) : Prop where
  rows : ∀ e ∈ db.envelopes, e.Admitted
  distinct : db.envelopes.Pairwise fun e e' => SamePair e e' → e.seq ≠ e'.seq

theorem Db.Admitted.storable (h : db.Admitted) (request : SyncEnvelopeRequest) :
    ∀ e ∈ pending db request, e.Storable :=
  fun e he => (h.rows e (mem_pending.mp he).1).toStorable

/-- Messages are saved by `ChatService` only, which checks them first. -/
def SavedByService (_ : List StoreEvent) : Call → Prop
  | .saveNewMessage userId sender request => ChatService.validRequest userId sender request
  | _ => True

theorem validRequest_iff {user sender : Uuid} {q : NewTextMessageRequest}
    (h : ChatService.validRequest user sender q) :
    sender ≠ 0 ∧ q.packet ≠ [] ∧ q.packet.length ≤ 65536 := by
  simp only [ChatService.validRequest, Uuid.isNil, Bool.not_eq_true', Bool.or_eq_false_iff,
    decide_eq_false_iff_not, List.isEmpty_eq_false_iff] at h
  obtain ⟨⟨⟨⟨⟨⟨⟨⟨-, hs⟩, -⟩, -⟩, -⟩, hp⟩, hl⟩, -⟩, -⟩ := h
  exact ⟨hs, hp, by omega⟩

/-- **The step.** -/
theorem Db.Admitted.commit (h : db.Admitted) {call : Call} {r : Reply} {seen : List Db}
    {ws : List Write} (hc : Committed P call r seen ws db) (hcall : SavedByService [] call) :
    ((schema P).applyAll ws db).Admitted := by
  have happ := envelopes_applyAll (P := P) ws db
  rcases hc.inserts with hnil | ⟨user, sender, q, id, rfl, -, hins, hpos, hmax, hp, -⟩
  · rw [hnil, List.append_nil] at happ
    exact ⟨fun e he => h.rows e (happ ▸ he), happ ▸ h.distinct⟩
  · rw [hins] at happ
    obtain ⟨hsender, hpacket, hlength⟩ := validRequest_iff hcall
    refine ⟨fun e he => ?_, ?_⟩
    · rcases List.mem_append.mp (happ ▸ he) with he | he
      · exact h.rows e he
      · obtain rfl := List.mem_singleton.mp he
        exact ⟨⟨hpacket, hlength, hpos⟩, hmax, hsender, hp.1⟩
    · rw [happ]
      refine List.pairwise_append.mpr ⟨h.distinct, List.pairwise_singleton _ _, fun e he e' he' hpair => ?_⟩
      obtain rfl := List.mem_singleton.mp he'
      have hmem : e ∈ db.pairEnvelopes (pairOf sender q.recipientDeviceId) :=
        List.mem_filter.mpr ⟨he, decide_eq_true hpair⟩
      exact (Int.lt_add_one_of_le (seq_le_maxSeq hmem)).ne

/-- **Every state of a store that only the service writes to is admitted.** -/
theorem admitted_of_reachable {x : StoreState}
    (h : Serial.Reachable (store P SavedByService) (Committed P) db₀ x) (h₀ : db₀.Admitted) :
    x.db.Admitted := by
  refine Serial.induction (P := fun x => x.db.Admitted) (fun x e he hx => ?_)
    (fun x db hd hx => ?_) h h₀
  · rcases he.writes with hw | ⟨r, hr⟩
    · rw [Serial.State.db_after, hw]
      exact hx
    · obtain ⟨log₀, -, hallowed⟩ := he.allowed
      exact hx.commit hr hallowed
  · have hsame := drift_envelopes hd
    exact ⟨fun e he => hx.rows e (hsame ▸ he), hsame ▸ hx.distinct⟩

/-! ### The inbox -/

/-- The pending envelopes are in order, and no two have the same place in it. -/
theorem pairwise_lt_pending (h : db.Admitted) (request : SyncEnvelopeRequest) :
    (pending db request).Pairwise fun e e' =>
      pageOrder e e' ∧ (e.senderDeviceId = e'.senderDeviceId → e.seq < e'.seq) := by
  have hdistinct : (pending db request).Pairwise fun e e' => SamePair e e' → e.seq ≠ e'.seq := by
    refine ((List.perm_insertionSort _ _).pairwise_iff ?_).mpr (h.distinct.filter _)
    exact fun hne hpair => (hne hpair.symm).symm
  refine List.Pairwise.imp_of_mem ?_ (pairwise_pending.and hdistinct)
  rintro e e' he he' ⟨horder, hne⟩
  refine ⟨horder, fun hsender => ?_⟩
  have hpair : SamePair e e' := by
    rw [SamePair, hsender, (mem_pending.mp he).2.1, (mem_pending.mp he').2.1]
  rcases horder with hlt | ⟨-, hlt | ⟨heq, -⟩⟩
  · exact absurd hsender hlt.ne
  · exact hlt
  · exact absurd heq (hne hpair)

theorem nodup_pending (h : db.Admitted) (request : SyncEnvelopeRequest) :
    (pending db request).Nodup :=
  (pairwise_lt_pending h request).imp fun hlt he => (hlt.2 (congrArg _ he)).ne (congrArg _ he)

/-! ### The client's cursors -/

/-- One received envelope raises its sender's cursor, or adds one. -/
def raiseCursor : List EnvelopeSyncCursor → Envelope → List EnvelopeSyncCursor
  | [], e => [⟨e.senderDeviceId, e.seq⟩]
  | c :: cursors, e =>
    if c.peerDeviceId = e.senderDeviceId then { c with afterSeq := max c.afterSeq e.seq } :: cursors
    else c :: raiseCursor cursors e

/-- The next request, after the envelopes of a page. -/
def mergeCursors (request : SyncEnvelopeRequest) (page : List Envelope) : SyncEnvelopeRequest :=
  { request with cursors := page.foldl raiseCursor request.cursors }

@[simp] theorem cursorOf_nil (peer : Uuid) : cursorOf [] peer = 0 := rfl

theorem cursorOf_cons (c : EnvelopeSyncCursor) (cursors : List EnvelopeSyncCursor) (peer : Uuid) :
    cursorOf (c :: cursors) peer =
      if c.peerDeviceId = peer then c.afterSeq else cursorOf cursors peer := by
  rw [cursorOf, List.find?_cons]
  by_cases h : c.peerDeviceId = peer
  · simp [h]
  · simp [h, cursorOf]

theorem cursorOf_raiseCursor {cursors : List EnvelopeSyncCursor} {e : Envelope} (he : 0 ≤ e.seq)
    (peer : Uuid) : cursorOf (raiseCursor cursors e) peer =
      if peer = e.senderDeviceId then max (cursorOf cursors peer) e.seq else cursorOf cursors peer := by
  induction cursors with
  | nil =>
    rw [raiseCursor, cursorOf_cons, cursorOf_nil, max_eq_right he]
    exact if_congr eq_comm rfl rfl
  | cons c cursors ih =>
    rw [raiseCursor, cursorOf_cons]
    by_cases hc : c.peerDeviceId = e.senderDeviceId
    · rw [if_pos hc, cursorOf_cons]
      by_cases hpeer : peer = e.senderDeviceId
      · simp [hc, hpeer]
      · have hne : e.senderDeviceId ≠ peer := Ne.symm hpeer
        simp [hc, hpeer, hne]
    · rw [if_neg hc, cursorOf_cons, ih]
      by_cases hpeer : c.peerDeviceId = peer
      · have hne : peer ≠ e.senderDeviceId := hpeer ▸ hc
        simp [hpeer, hne]
      · simp [hpeer]

/-- The devices of the cursors. -/
theorem peers_raiseCursor (cursors : List EnvelopeSyncCursor) (e : Envelope) :
    (raiseCursor cursors e).map (·.peerDeviceId) =
      if e.senderDeviceId ∈ cursors.map (·.peerDeviceId) then cursors.map (·.peerDeviceId)
      else cursors.map (·.peerDeviceId) ++ [e.senderDeviceId] := by
  induction cursors with
  | nil => rfl
  | cons c cursors ih =>
    rw [raiseCursor]
    by_cases hc : c.peerDeviceId = e.senderDeviceId
    · simp [hc]
    · have hne : e.senderDeviceId ≠ c.peerDeviceId := Ne.symm hc
      rw [if_neg hc, List.map_cons, ih, List.map_cons]
      by_cases hmem : e.senderDeviceId ∈ cursors.map (·.peerDeviceId)
      · rw [if_pos hmem, if_pos (List.mem_cons_of_mem _ hmem)]
      · rw [if_neg hmem, if_neg fun h => (List.mem_cons.mp h).elim hne hmem, List.cons_append]

/-- A raised cursor is one that was there, or has the number of the envelope. -/
theorem mem_raiseCursor {cursors : List EnvelopeSyncCursor} {e : Envelope} {c : EnvelopeSyncCursor}
    (h : c ∈ raiseCursor cursors e) : c ∈ cursors ∨ c.peerDeviceId = e.senderDeviceId ∧
      (c.afterSeq = e.seq ∨ ∃ c' ∈ cursors, c.afterSeq = max c'.afterSeq e.seq) := by
  induction cursors with
  | nil =>
    obtain rfl := List.mem_singleton.mp h
    exact Or.inr ⟨rfl, Or.inl rfl⟩
  | cons c' cursors ih =>
    rw [raiseCursor] at h
    split_ifs at h with hc
    · rcases List.mem_cons.mp h with rfl | h
      · exact Or.inr ⟨hc, Or.inr ⟨c', List.mem_cons_self .., rfl⟩⟩
      · exact Or.inl (List.mem_cons_of_mem _ h)
    · rcases List.mem_cons.mp h with rfl | h
      · exact Or.inl (List.mem_cons_self ..)
      · refine (ih h).imp (List.mem_cons_of_mem _) fun ⟨hpeer, hseq⟩ => ⟨hpeer, hseq.imp_right ?_⟩
        exact fun ⟨c'', hc'', heq⟩ => ⟨c'', List.mem_cons_of_mem _ hc'', heq⟩

/-- Above the merged cursor is above the old one and above everything received. -/
theorem cursorOf_merge_lt {cursors : List EnvelopeSyncCursor} {items : List Envelope}
    (hitems : ∀ e ∈ items, 0 ≤ e.seq) {peer : Uuid} {k : ℤ} :
    cursorOf (items.foldl raiseCursor cursors) peer < k ↔
      cursorOf cursors peer < k ∧ ∀ e ∈ items, e.senderDeviceId = peer → e.seq < k := by
  induction items generalizing cursors with
  | nil => simp
  | cons e items ih =>
    obtain ⟨he, hitems⟩ := List.forall_mem_cons.mp hitems
    rw [List.foldl_cons, ih hitems, cursorOf_raiseCursor he, List.forall_mem_cons]
    split_ifs with hpeer
    · rw [max_lt_iff]
      constructor
      · rintro ⟨⟨hcursor, hseq⟩, hrest⟩
        exact ⟨hcursor, fun _ => hseq, hrest⟩
      · rintro ⟨hcursor, hseq, hrest⟩
        exact ⟨⟨hcursor, hseq hpeer.symm⟩, hrest⟩
    · constructor
      · rintro ⟨hcursor, hrest⟩
        exact ⟨hcursor, fun hs => absurd hs.symm hpeer, hrest⟩
      · rintro ⟨hcursor, -, hrest⟩
        exact ⟨hcursor, hrest⟩

theorem wellFormed_mergeCursors (h : WellFormed request) {items : List Envelope}
    (hitems : ∀ e ∈ items, e.Admitted ∧ e.recipientDeviceId = request.deviceId) :
    WellFormed (mergeCursors request items) := by
  induction items generalizing request with
  | nil => exact h
  | cons e items ih =>
    obtain ⟨⟨he, hrecipient⟩, hitems⟩ := List.forall_mem_cons.mp hitems
    have hraised : WellFormed ⟨request.deviceId, raiseCursor request.cursors e⟩ := by
      refine ⟨h.device, ?_, fun c hc => ?_⟩
      · rw [peers_raiseCursor]
        split_ifs with hmem
        · exact h.peers
        · refine List.nodup_append.mpr ⟨h.peers, List.nodup_singleton _, ?_⟩
          rintro a ha b hb rfl
          exact hmem (List.mem_singleton.mp hb ▸ ha)
      · rcases mem_raiseCursor hc with hc | ⟨hpeer, hseq⟩
        · exact h.cursors c hc
        · refine ⟨hpeer ▸ he.sender, hpeer ▸ hrecipient ▸ he.other, ?_⟩
          rcases hseq with hseq | ⟨c', hc', hseq⟩
          · exact hseq ▸ ⟨he.seq.le, he.maxSeq⟩
          · obtain ⟨-, -, h₀, h₁⟩ := h.cursors c' hc'
            rw [hseq]
            exact ⟨le_max_of_le_left h₀, max_le h₁ he.maxSeq⟩
    exact ih hraised hitems

/-- **Moving on.** What is pending after a page is what followed it. -/
theorem pending_mergeCursors (h : db.Admitted) {items : List Envelope}
    (hitems : items <+: pending db request) :
    pending db request = items ++ pending db (mergeCursors request items) := by
  obtain ⟨rest, hrest⟩ := hitems
  have hpairs := hrest ▸ pairwise_lt_pending h request
  obtain ⟨-, hsorted, hcross⟩ := List.pairwise_append.mp hpairs
  have hmem : ∀ e, e ∈ items ∨ e ∈ rest ↔ e ∈ db.envelopes ∧
      e.recipientDeviceId = request.deviceId ∧ cursorOf request.cursors e.senderDeviceId < e.seq :=
    fun e => by rw [← List.mem_append, hrest, mem_pending]
  have hpos : ∀ e ∈ items, 0 ≤ e.seq :=
    fun e he => (h.rows e ((hmem e).mp (Or.inl he)).1).seq.le
  -- above the new cursors is what comes after the page
  have habove : ∀ e, e ∈ rest ↔ e ∈ db.envelopes ∧ e.recipientDeviceId = request.deviceId ∧
      cursorOf (mergeCursors request items).cursors e.senderDeviceId < e.seq := by
    intro e
    rw [mergeCursors, cursorOf_merge_lt hpos]
    constructor
    · intro he
      obtain ⟨hdb, hrecipient, hcursor⟩ := (hmem e).mp (Or.inr he)
      exact ⟨hdb, hrecipient, hcursor, fun e' he' hsender => (hcross e' he' e he).2 hsender⟩
    · rintro ⟨hdb, hrecipient, hcursor, hitems⟩
      refine ((hmem e).mpr ⟨hdb, hrecipient, hcursor⟩).resolve_left fun he => ?_
      exact lt_irrefl _ (hitems e he rfl)
  have hnodup := List.nodup_append.mp (hrest ▸ nodup_pending h request)
  have hperm : rest.Perm (pending db (mergeCursors request items)) := by
    refine (List.perm_ext_iff_of_nodup hnodup.2.1 (nodup_pending h _)).mpr fun e => ?_
    rw [habove, mem_pending]
    rfl
  have heq := hperm.eq_of_pairwise (fun e e' he he' h₁ h₂ => ?_) hsorted (pairwise_lt_pending h _)
  · rw [← heq, hrest]
  · -- two envelopes cannot each come before the other
    obtain ⟨horder₁, hlt₁⟩ := h₁
    obtain ⟨horder₂, hlt₂⟩ := h₂
    by_cases hsender : e.senderDeviceId = e'.senderDeviceId
    · exact absurd (hlt₁ hsender) (hlt₂ hsender.symm).le.not_gt
    · rcases horder₁ with h₁ | ⟨h₁, -⟩
      · rcases horder₂ with h₂ | ⟨h₂, -⟩
        · exact absurd h₁ h₂.le.not_gt
        · exact absurd h₂.symm hsender
      · exact absurd h₁ hsender

/-! ### The server -/

/-- Why a synchronization request is not answered with a page. -/
inductive Refusal where
  /-- `parseSyncEnvelope` rejects it. -/
  | invalidRequest (text : String)
  /-- The device is not an active device of the user. -/
  | permissionDenied
  /-- `syncEnvelopeRecord` throws. -/
  | failed (error : Error)
  deriving DecidableEq

/-- The answer to a payload while nobody writes: the parser, and `syncEnvelopeRecord` alone on the
committed state. -/
def answerSync (P : Platform) (db : Db) (user : Uuid) (payload : Json) :
    Paging.Answer Envelope Refusal :=
  match parseSyncEnvelope payload with
  | .error text => .refused (.invalidRequest text)
  | .ok request => match (syncEnvelopeRecord user request).solo (schema P) db {} [] with
    | some (.ok (some page), _) => .page page.envelopes page.hasMore
    | some (.error error, _) => .refused (.failed error)
    | _ => .refused .permissionDenied

/-- Alone, the check of an active device succeeds. -/
theorem solo_selectActiveDevice {user device : Uuid} {s : Local Db Write Key} {vs : List Uuid}
    (hs : s.writes = []) (h : db.activeOwner device = some user) :
    ∃ s', (selectActiveDevice user device).solo (schema P) db s vs = some (.ok true, s', vs) ∧
      s'.writes = [] := by
  obtain ⟨s', hrows, hw⟩ := solo_selectLocked (S := schema P) s (fun _ => ownerLocks device user)
    (fun db => if db.activeOwner device = some user then [()] else [])
    fun db _ => (if db.activeOwner device = some user then [()] else []).head?
  rw [hs, Schema.applyAll_nil] at hrows
  refine ⟨s', ?_, hw.trans hs⟩
  rw [selectActiveDevice, Prog.solo_bind_of_ok hrows]
  simp [Prog.solo, h]

/-- The repository's checks pass for a well-formed request. -/
theorem validCursors_of_wellFormed (h : WellFormed request) :
    validCursors request.deviceId [] request.cursors = true := by
  have aux : ∀ (cursors : List EnvelopeSyncCursor) (seen : List Uuid),
      (cursors.map (·.peerDeviceId)).Nodup → (∀ c ∈ cursors, c.peerDeviceId ∉ seen ∧
        c.peerDeviceId ≠ 0 ∧ c.peerDeviceId ≠ request.deviceId ∧ 0 ≤ c.afterSeq) →
      validCursors request.deviceId seen cursors = true := by
    intro cursors
    induction cursors with
    | nil => exact fun _ _ _ => rfl
    | cons c cursors ih =>
      intro seen hnodup hall
      obtain ⟨⟨hseen, hnil, hdevice, hseq⟩, hrest⟩ := List.forall_mem_cons.mp hall
      obtain ⟨hnotin, hnodup⟩ := List.nodup_cons.mp hnodup
      have htail := ih (c.peerDeviceId :: seen) hnodup fun d hd => ⟨fun hmem => ?_, (hrest d hd).2⟩
      · simp [validCursors, Uuid.isNil, hnil, hdevice, hseen, not_lt.mpr hseq, htail]
      · rcases List.mem_cons.mp hmem with he | hmem
        · exact hnotin (List.mem_map.mpr ⟨d, hd, he⟩)
        · exact (hrest d hd).1 hmem
  exact aux _ _ h.peers fun c hc =>
    ⟨by simp, (h.cursors c hc).1, (h.cursors c hc).2.1, (h.cursors c hc).2.2.1⟩

/-- The text of the refusal. -/
def tooManyCursors : String := "cursors must contain at most 1000 entries"

/-- **What the server answers** to a well-formed request for an active device. -/
theorem answerSync_syncPayload {user : Uuid} {page : EnvelopePage} (authorization : String)
    (h : WellFormed request) (huser : user ≠ 0) (hactive : db.activeOwner request.deviceId = some user)
    (hpage : pageOf db request = .ok page) :
    answerSync P db user (syncPayload authorization request) =
      if 1000 < request.cursors.length then .refused (.invalidRequest tooManyCursors)
      else .page page.envelopes page.hasMore := by
  rw [answerSync, parseSyncEnvelope_syncPayload authorization h]
  split_ifs with hlen
  · rfl
  · obtain ⟨s', hs', hw⟩ : ∃ s', (selectActiveDevice user request.deviceId).solo (schema P) db {} [] =
      some (.ok true, s', []) ∧ s'.writes = [] := solo_selectActiveDevice rfl hactive
    have hnil : ¬ (user.isNil = true ∨ request.deviceId.isNil = true ∨
        1000 < request.cursors.length) := by simp [Uuid.isNil, huser, h.device, hlen]
    have hsync : (syncEnvelopeRecord user request).solo (schema P) db {} [] =
        some (.ok (some page), s'.see db, []) := by
      rw [syncEnvelopeRecord, if_neg hnil, validCursors_of_wellFormed h, if_neg (by decide),
        Prog.solo_bind_of_ok hs', if_neg (by decide), Prog.solo, Schema.view, hw,
        Schema.applyAll_nil, hpage]
      rfl
    simp only [hsync]

/-- **The server gives pages** of the inbox of an active device. -/
theorem pages_answerSync {user device : Uuid} (authorization : String) (h : db.Admitted)
    (huser : user ≠ 0) (hactive : db.activeOwner device = some user) :
    Paging.Pages (fun request => answerSync P db user (syncPayload authorization request))
      mergeCursors (pending db) fun request => WellFormed request ∧ request.deviceId = device := by
  have serves : ∀ request items more, WellFormed request ∧ request.deviceId = device →
      answerSync P db user (syncPayload authorization request) = .page items more →
      ∃ page, pageOf db request = .ok page ∧ page.envelopes = items ∧ page.hasMore = more ∧
        (page.hasMore = true → page.envelopes ≠ []) := by
    rintro request items more ⟨hvalid, rfl⟩ hanswer
    obtain ⟨page, hpage, hne⟩ := pageOf_total (h.storable request)
    rw [answerSync_syncPayload authorization hvalid huser hactive hpage] at hanswer
    split_ifs at hanswer
    obtain ⟨rfl, rfl⟩ := Paging.Answer.page.inj hanswer
    exact ⟨page, hpage, rfl, rfl, hne⟩
  refine ⟨fun request items more hv hs => ?_, fun request items hv hs => ?_,
    fun request items hv hs => ?_, fun request items hv hitems => ⟨⟨?_, hv.2⟩, ?_⟩,
    fun request items items' => ?_, fun request => rfl⟩
  · obtain ⟨page, hpage, rfl, -⟩ := serves request items more hv hs
    exact (pageOf_ok hpage).1
  · obtain ⟨page, hpage, rfl, hmore, -⟩ := serves request items false hv hs
    exact (pageOf_ok hpage).2 hmore
  · obtain ⟨page, -, rfl, hmore, hne⟩ := serves request items true hv hs
    exact hne hmore
  · exact wellFormed_mergeCursors hv.1 fun e he =>
      ⟨h.rows e (mem_pending.mp (hitems.subset he)).1, (mem_pending.mp (hitems.subset he)).2.1⟩
  · exact pending_mergeCursors h hitems
  · simp [mergeCursors, List.foldl_append]

/-! ### Catching up -/

/-- The devices that have a cursor at the start, or an envelope in the inbox. -/
def peersOf (db : Db) (request : SyncEnvelopeRequest) : List Uuid :=
  request.cursors.map (·.peerDeviceId) ++
    (db.envelopes.filter fun e => e.recipientDeviceId = request.deviceId).map (·.senderDeviceId)

/-- What a client has got that started with `request`, when its loop ends. -/
structure CaughtUp (db : Db) (request : SyncEnvelopeRequest)
    (d : Paging.Download Envelope Refusal) : Prop where
  /-- Nothing but what is addressed to the device and above the starting cursor. -/
  sound : ∀ e ∈ d.pages.flatten, e ∈ db.envelopes ∧ e.recipientDeviceId = request.deviceId ∧
    cursorOf request.cursors e.senderDeviceId < e.seq
  /-- Nothing twice. -/
  once : d.pages.flatten.Nodup
  /-- The envelopes of a sender in the order of their numbers. -/
  ordered : d.pages.flatten.Pairwise fun e e' =>
    e.senderDeviceId = e'.senderDeviceId → e.seq < e'.seq
  /-- Everything, if no request was refused. -/
  complete : d.refusal = none → ∀ e ∈ db.envelopes, e.recipientDeviceId = request.deviceId →
    cursorOf request.cursors e.senderDeviceId < e.seq → e ∈ d.pages.flatten
  /-- A request is refused for its number of cursors only. -/
  refused : ∀ reason, d.refusal = some reason → reason = .invalidRequest tooManyCursors ∧
    1000 < (mergeCursors request d.pages.flatten).cursors.length
  /-- None is refused if there are at most 1000 devices in all. -/
  unrefused : (peersOf db request).dedup.length ≤ 1000 → d.refusal = none

theorem peers_mergeCursors_subset (request : SyncEnvelopeRequest) (items : List Envelope) :
    (mergeCursors request items).cursors.map (·.peerDeviceId) ⊆
      request.cursors.map (·.peerDeviceId) ++ items.map (·.senderDeviceId) := by
  induction items generalizing request with
  | nil => simp [mergeCursors]
  | cons e items ih =>
    refine List.Subset.trans (ih ⟨request.deviceId, raiseCursor request.cursors e⟩) ?_
    intro peer hpeer
    rw [peers_raiseCursor] at hpeer
    split_ifs at hpeer <;> simp only [List.mem_append, List.map_cons, List.mem_cons] at hpeer ⊢ <;> tauto

/-- **Catch-up drains the inbox.** The loop ends; it has read the inbox of the device, each envelope
once and those of each sender in order, unless a request was refused because the cursors had become
more than 1000. -/
theorem catch_up {user : Uuid} {payload : Json} (authorization : String) (h : db.Admitted)
    (huser : user ≠ 0) (haccepted : parseSyncEnvelope payload = .ok request)
    (hactive : db.activeOwner request.deviceId = some user) :
    ∃ d, CaughtUp db request d ∧ ∀ fuel, (pending db request).length < fuel →
      Paging.drain (fun request => answerSync P db user (syncPayload authorization request))
        mergeCursors fuel request = some d := by
  have hvalid := (parseSyncEnvelope_ok haccepted).1
  have hpages := pages_answerSync (P := P) authorization h huser hactive
  obtain ⟨d, hd, hfuel⟩ := Paging.drain_eq hpages ⟨hvalid, rfl⟩
  have hmoved := (hpages.moves request _ ⟨hvalid, rfl⟩ hd.initial).1
  have hrefused : ∀ reason, d.refusal = some reason → reason = .invalidRequest tooManyCursors ∧
      1000 < (mergeCursors request d.pages.flatten).cursors.length := by
    intro reason hreason
    obtain ⟨page, hpage, -⟩ := pageOf_total (h.storable (mergeCursors request d.pages.flatten))
    have hanswer := hd.refused reason hreason
    rw [answerSync_syncPayload authorization hmoved.1 huser hactive hpage] at hanswer
    split_ifs at hanswer with hlen
    exact ⟨(Paging.Answer.refused.inj hanswer).symm, hlen⟩
  refine ⟨d, ⟨fun e he => mem_pending.mp (hd.initial.subset he),
    (nodup_pending h request).sublist hd.initial.sublist,
    ((pairwise_lt_pending h request).sublist hd.initial.sublist).imp And.right,
    fun hnone e he hdevice hseq => ?_, hrefused, fun hfew => ?_⟩, hfuel⟩
  · rw [hd.complete hnone]
    exact mem_pending.mpr ⟨he, hdevice, hseq⟩
  · cases hr : d.refusal with
    | none => rfl
    | some reason =>
      -- the merged cursors are of different devices, all of them among the peers
      have hsub : (mergeCursors request d.pages.flatten).cursors.map (·.peerDeviceId) ⊆
          (peersOf db request).dedup := by
        intro peer hpeer
        rw [List.mem_dedup, peersOf]
        rcases List.mem_append.mp (peers_mergeCursors_subset _ _ hpeer) with hc | hs
        · exact List.mem_append_left _ hc
        · obtain ⟨e, he, rfl⟩ := List.mem_map.mp hs
          obtain ⟨hmem, hdevice, -⟩ := mem_pending.mp (hd.initial.subset he)
          refine List.mem_append_right _ (List.mem_map_of_mem ?_)
          exact List.mem_filter.mpr ⟨hmem, decide_eq_true hdevice⟩
      have hle := (List.subperm_of_subset hmoved.1.peers hsub).length_le
      rw [List.length_map] at hle
      exact absurd (hrefused reason hr).2 (not_lt.mpr (hle.trans hfew))

/-! ### An inbox that cannot be read -/

theorem length_raiseCursor (cursors : List EnvelopeSyncCursor) (e : Envelope) :
    (raiseCursor cursors e).length =
      if e.senderDeviceId ∈ cursors.map (·.peerDeviceId) then cursors.length
      else cursors.length + 1 := by
  have h := congrArg List.length (peers_raiseCursor cursors e)
  rw [List.length_map] at h
  rw [h]
  split_ifs <;> simp

/-- Cursors are never dropped. -/
theorem length_le_mergeCursors (request : SyncEnvelopeRequest) (items : List Envelope) :
    request.cursors.length ≤ (mergeCursors request items).cursors.length := by
  induction items generalizing request with
  | nil => exact le_rfl
  | cons e items ih =>
    refine le_trans ?_ (ih ⟨request.deviceId, raiseCursor request.cursors e⟩)
    rw [length_raiseCursor]
    split_ifs <;> omega

/-- A new sender adds a cursor. -/
theorem length_lt_mergeCursors {request : SyncEnvelopeRequest} {e : Envelope}
    (h : e.senderDeviceId ∉ request.cursors.map (·.peerDeviceId)) (items : List Envelope) :
    request.cursors.length < (mergeCursors request (e :: items)).cursors.length := by
  have hle := length_le_mergeCursors ⟨request.deviceId, raiseCursor request.cursors e⟩ items
  rw [length_raiseCursor, if_neg h] at hle
  exact hle

theorem cursorOf_of_not_mem {cursors : List EnvelopeSyncCursor} {peer : Uuid}
    (h : peer ∉ cursors.map (·.peerDeviceId)) : cursorOf cursors peer = 0 := by
  induction cursors with
  | nil => rfl
  | cons c cursors ih =>
    rw [List.map_cons, List.mem_cons, not_or] at h
    rw [cursorOf_cons, if_neg (Ne.symm h.1), ih h.2]

namespace Sample

/-- The inbox of Alice's phone, with `n` messages from Bob's laptop. -/
def inbox (n : ℕ) : Db :=
  { start with
    messageEnvelopes := (List.range n).map fun k =>
      ⟨⟨Fin.ofNat _ (k + 1), Fin.ofNat _ (k + 1), laptop, phone, "v1", [1], k + 1⟩, none⟩ }

theorem mem_inbox {n : ℕ} {e : Envelope} (h : e ∈ (inbox n).envelopes) :
    e.senderDeviceId = laptop ∧ e.recipientDeviceId = phone ∧ e.packet = [1] ∧ 0 < e.seq ∧
      e.seq ≤ n := by
  rw [Db.envelopes, inbox, List.map_map] at h
  obtain ⟨k, hk, rfl⟩ := List.mem_map.mp h
  have hlt := List.mem_range.mp hk
  refine ⟨rfl, rfl, rfl, ?_, ?_⟩ <;> simp only [Function.comp_apply] <;> omega

theorem inbox_admitted {n : ℕ} (h : (n : ℤ) ≤ maxBigint) : (inbox n).Admitted := by
  refine ⟨fun e he => ?_, ?_⟩
  · obtain ⟨hs, hr, hp, hpos, hle⟩ := mem_inbox he
    refine ⟨⟨by rw [hp]; decide, by rw [hp]; decide, hpos⟩, hle.trans h, ?_, ?_⟩
    · rw [hs]
      decide
    · rw [hs, hr]
      decide
  · rw [Db.envelopes, inbox, List.map_map, List.pairwise_map]
    refine List.pairwise_lt_range.imp fun {a b} hlt _ heq => ?_
    simp only [Function.comp_apply] at heq
    omega

/-- Cursors for `n` other devices. -/
def crowd (n : ℕ) : SyncEnvelopeRequest :=
  ⟨phone, (List.range n).map fun k => ⟨Fin.ofNat _ (k + 1000), 0⟩⟩

theorem length_crowd (n : ℕ) : (crowd n).cursors.length = n := by
  rw [crowd, List.length_map, List.length_range]

theorem mem_crowd {n : ℕ} (hn : n ≤ 1000) {c : EnvelopeSyncCursor} (h : c ∈ (crowd n).cursors) :
    1000 ≤ c.peerDeviceId.val ∧ c.afterSeq = 0 := by
  rw [crowd] at h
  obtain ⟨k, hk, rfl⟩ := List.mem_map.mp h
  have hlt := List.mem_range.mp hk
  refine ⟨?_, rfl⟩
  change 1000 ≤ (k + 1000) % 2 ^ 128
  omega

theorem wellFormed_crowd {n : ℕ} (hn : n ≤ 1000) : WellFormed (crowd n) := by
  refine ⟨by simp [crowd, phone], ?_, fun c hc => ?_⟩
  · rw [crowd, List.map_map]
    refine List.nodup_range.map_on fun a ha b hb heq => ?_
    have hval := congrArg Fin.val heq
    simp only [Function.comp_apply, Fin.val_ofNat] at hval
    have ha' := List.mem_range.mp ha
    have hb' := List.mem_range.mp hb
    omega
  · obtain ⟨hpeer, hseq⟩ := mem_crowd hn hc
    have hother : ∀ d : Uuid, d.val < 1000 → c.peerDeviceId ≠ d := by
      rintro d hd rfl
      omega
    exact ⟨hother 0 (by decide), hother phone (by decide), by rw [hseq],
      by rw [hseq]; norm_num [maxBigint]⟩

/-- Bob's laptop is not in the crowd. -/
theorem laptop_not_mem_crowd {n : ℕ} (hn : n ≤ 1000) :
    laptop ∉ (crowd n).cursors.map (·.peerDeviceId) := by
  intro hmem
  obtain ⟨c, hc, hpeer⟩ := List.mem_map.mp hmem
  have hle := (mem_crowd hn hc).1
  rw [hpeer] at hle
  exact absurd hle (by decide)

/-- All of the inbox is pending for the crowd. -/
theorem length_pending_inbox {m n : ℕ} (hn : n ≤ 1000) :
    (pending (inbox m) (crowd n)).length = m := by
  have hall : ∀ e ∈ (inbox m).envelopes, e.recipientDeviceId = phone ∧
      cursorOf (crowd n).cursors e.senderDeviceId < e.seq := by
    intro e he
    obtain ⟨hs, hr, -, hpos, -⟩ := mem_inbox he
    rw [hs, cursorOf_of_not_mem (laptop_not_mem_crowd hn)]
    exact ⟨hr, hpos⟩
  rw [pending, List.length_insertionSort, List.length_filter_eq_length_iff.mpr, List.length_map,
    inbox, List.length_map, List.length_range]
  exact fun e he => decide_eq_true (hall e he)

end Sample

/-- Three messages, read from the beginning. -/
theorem catch_up_three : ∃ d, CaughtUp (Sample.inbox 3) ⟨Sample.phone, []⟩ d ∧
    ∀ fuel, (pending (Sample.inbox 3) ⟨Sample.phone, []⟩).length < fuel →
      Paging.drain (fun request => answerSync Sample.platform (Sample.inbox 3) Sample.alice
        (syncPayload "" request)) mergeCursors fuel ⟨Sample.phone, []⟩ = some d :=
  have haccepted : parseSyncEnvelope (syncPayload "" ⟨Sample.phone, []⟩) = .ok ⟨Sample.phone, []⟩ := by
    decide +kernel
  catch_up "" (Sample.inbox_admitted (by norm_num [maxBigint])) (by decide) haccepted
    (by decide +kernel)

/-- **An inbox that cannot be read.** A device that has cursors for 1000 others, all accepted, and
101 messages from another one: the first page adds a cursor, and the second request is refused. -/
theorem catch_up_refused : (Sample.inbox 101).Admitted ∧
    (Sample.inbox 101).activeOwner Sample.phone = some Sample.alice ∧
    parseSyncEnvelope (syncPayload "" (Sample.crowd 1000)) = .ok (Sample.crowd 1000) ∧
    ∃ page, page.length ≤ 100 ∧ (pending (Sample.inbox 101) (Sample.crowd 1000)).length = 101 ∧
      Paging.drain (fun request => answerSync Sample.platform (Sample.inbox 101) Sample.alice
        (syncPayload "" request)) mergeCursors 2 (Sample.crowd 1000) =
          some ⟨[page], some (.invalidRequest tooManyCursors)⟩ := by
  have hdb : (Sample.inbox 101).Admitted := Sample.inbox_admitted (by norm_num [maxBigint])
  have hactive : (Sample.inbox 101).activeOwner Sample.phone = some Sample.alice := by decide
  have hcrowd : WellFormed (Sample.crowd 1000) := Sample.wellFormed_crowd le_rfl
  have hcount : (Sample.crowd 1000).cursors.length = 1000 := Sample.length_crowd 1000
  have hnew := Sample.laptop_not_mem_crowd (le_refl 1000)
  have hpending : (pending (Sample.inbox 101) (Sample.crowd 1000)).length = 101 :=
    Sample.length_pending_inbox le_rfl
  obtain ⟨page, hpage, hne⟩ := pageOf_total (hdb.storable (Sample.crowd 1000))
  have hlen := length_page_le hpage
  have hmore : page.hasMore = true := by
    by_contra hno
    rw [(pageOf_ok hpage).2 (by simpa using hno), hpending] at hlen
    exact absurd hlen (by decide)
  have hmerged : 1000 < (mergeCursors (Sample.crowd 1000) page.envelopes).cursors.length := by
    obtain ⟨e, items, hitems⟩ := List.exists_cons_of_ne_nil (hne hmore)
    have he : e ∈ page.envelopes := hitems ▸ List.mem_cons_self ..
    have hsender := (Sample.mem_inbox (mem_of_mem_page hpage he).1).1
    have hnew' : e.senderDeviceId ∉ (Sample.crowd 1000).cursors.map (·.peerDeviceId) := by
      rwa [hsender]
    have hlt := length_lt_mergeCursors hnew' items
    rw [hcount] at hlt
    rwa [hitems]
  -- the first request is accepted, the second is not
  have hfirst := answerSync_syncPayload (P := Sample.platform) "" hcrowd (by decide) hactive hpage
  rw [if_neg (by rw [hcount]; decide), hmore] at hfirst
  have hvalid : WellFormed (mergeCursors (Sample.crowd 1000) page.envelopes) :=
    wellFormed_mergeCursors hcrowd fun e he =>
      ⟨hdb.rows e (mem_of_mem_page hpage he).1, (mem_of_mem_page hpage he).2.1⟩
  obtain ⟨page₂, hpage₂, -⟩ := pageOf_total
    (hdb.storable (mergeCursors (Sample.crowd 1000) page.envelopes))
  have hsecond := answerSync_syncPayload (P := Sample.platform) "" hvalid (by decide) hactive hpage₂
  rw [if_pos hmerged] at hsecond
  have haccepted : parseSyncEnvelope (syncPayload "" (Sample.crowd 1000)) =
      .ok (Sample.crowd 1000) := by
    rw [parseSyncEnvelope_syncPayload "" hcrowd, hcount, if_neg (lt_irrefl 1000)]
  exact ⟨hdb, hactive, haccepted, page.envelopes, hlen, hpending,
    Paging.drain_refused hfirst hsecond⟩

end ChatBackend
