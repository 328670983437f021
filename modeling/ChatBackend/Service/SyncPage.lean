import ChatBackend.Budget
import ChatBackend.Service.Packets
import ChatBackend.Websocket.JsonText

/-!
# The page of a synchronization

What `syncEnvelopeRecord` takes is the longest initial segment of the pending envelopes within 100
records and the budget: its loop is `Budget.fill`, on rows that the query limits to one more than a
page. A record of the reply is never longer than the estimate that the budget counts it with.

## Main definitions

* `recordBytes` — the estimate
* `FillState`, `FillStep` — the loop, row by row
* `BestPage` — what a page is

## Main results

* `fillPage_eq_fill`
* `fills_within_budget` — the subtraction does not wrap
* `utf8Length_dump_envelopeBody_le`
* `sync_page_is_longest`
-/

namespace ChatBackend

open ReadCommitted EnvelopeRepository WebSocketDispatcher

variable {P : Platform} {db db₀ : Db} {request : SyncEnvelopeRequest}

/-! ### The loop is the greedy choice -/

namespace EnvelopeRepository

/-- What the budget is charged for an envelope. -/
def recordBytes (e : Envelope) : ℕ := estimatedRecordBytes e.packet

/-- The loop's choice from some rows, with what is left of the page and of the budget. -/
abbrev chosen (taken : List Envelope) (bytes : ℕ) (rows : List Envelope) : List Envelope :=
  Budget.fill recordBytes (pageSize - taken.length) (pageWireBudget - bytes) rows

/-- Subtraction of a smaller `std::size_t` does not wrap. -/
theorem sizeSub_eq {a b : ℕ} (hb : b ≤ a) (ha : a < 2 ^ 64) : sizeSub a b = a - b := by
  rw [sizeSub]
  omega

theorem sizeSub_pageWireBudget {bytes : ℕ} (h : bytes ≤ pageWireBudget) :
    sizeSub pageWireBudget bytes = pageWireBudget - bytes :=
  sizeSub_eq h (by decide)

/-- **The loop is the greedy choice**, and says whether it left any row. -/
theorem fillPage_eq_fill {rows : List Envelope} (hrows : ∀ e ∈ rows, e.Storable)
    {taken : List Envelope} {bytes : ℕ} (hcount : taken.length ≤ pageSize)
    (hbytes : bytes ≤ pageWireBudget) : fillPage rows taken bytes =
      .ok ⟨taken ++ chosen taken bytes rows, decide (chosen taken bytes rows ≠ rows)⟩ := by
  induction rows generalizing taken bytes with
  | nil => simp [fillPage]
  | cons row rows ih =>
    obtain ⟨hrow, hrows⟩ := List.forall_mem_cons.mp hrows
    rw [fillPage]
    by_cases hfull : taken.length = pageSize
    · have hnone : chosen taken bytes (row :: rows) = [] := by
        rw [chosen, hfull, Nat.sub_self, Budget.fill_zero]
      rw [if_pos hfull, hnone]
      simp
    · obtain ⟨k, hk⟩ : ∃ k, pageSize - taken.length = k + 1 := ⟨pageSize - taken.length - 1, by omega⟩
      rw [if_neg hfull, decodePacketHex_encodeHex hrow.packet hrow.maxPacket,
        parseSeq_of_pos hrow.seq, sizeSub_pageWireBudget hbytes]
      simp only [bind, Except.bind]
      have hchosen : chosen taken bytes (row :: rows) = if recordBytes row ≤ pageWireBudget - bytes
          then row :: Budget.fill recordBytes k (pageWireBudget - bytes - recordBytes row) rows
          else [] := by
        rw [chosen, hk, Budget.fill_cons]
      rw [hchosen, recordBytes]
      by_cases hfits : estimatedRecordBytes row.packet ≤ pageWireBudget - bytes
      · have hlen : (taken ++ [row]).length = taken.length + 1 := by simp
        have hk' : pageSize - (taken ++ [row]).length = k := by omega
        have hrest := @ih hrows (taken ++ [row]) (bytes + estimatedRecordBytes row.packet) (by omega)
          (by omega)
        rw [chosen, hk', ← Nat.sub_sub] at hrest
        rw [if_neg (not_lt.mpr hfits), if_pos hfits]
        refine hrest.trans ?_
        simp
      · rw [if_pos (not_le.mp hfits), if_neg hfits]
        simp [pure, Except.pure]

/-- **The page of a snapshot** of storable envelopes. -/
theorem pageOf_eq_fill (h : ∀ e ∈ pending db request, e.Storable) : pageOf db request = .ok
    ⟨Budget.fill recordBytes pageSize pageWireBudget (pending db request),
      decide (Budget.fill recordBytes pageSize pageWireBudget (pending db request) ≠
        pending db request)⟩ := by
  have hlook : pageSize < pageSize + 1 := Nat.lt_succ_self _
  rw [pageOf, fillPage_eq_fill (fun e he => h e (List.mem_of_mem_take he)) (Nat.zero_le _)
    (Nat.zero_le _), chosen, List.length_nil, Nat.sub_zero, Nat.sub_zero, List.nil_append,
    decide_eq_decide.mpr (Budget.fill_take_eq_iff hlook).not, Budget.fill_take hlook.le]

/-! ### Row by row -/

/-- The state of the loop: the rows to come, what has been taken, and `estimatedWireBytes`. -/
structure FillState where
  rows : List Envelope
  page : List Envelope
  bytes : ℕ

/-- The loop takes a row. -/
inductive FillStep : FillState → FillState → Prop where
  | take {row rows page bytes packet seq} : page.length ≠ pageSize →
      decodePacketHex (encodeHex row.packet) = .ok packet →
      ¬ sizeSub pageWireBudget bytes < estimatedRecordBytes packet → parseSeq row.seq = .ok seq →
      FillStep ⟨row :: rows, page, bytes⟩
        ⟨rows, page ++ [{ row with packet := packet, seq := seq }],
          bytes + estimatedRecordBytes packet⟩

/-- Where the loop starts. -/
def fillStart (db : Db) (request : SyncEnvelopeRequest) : FillState :=
  ⟨(pending db request).take (pageSize + 1), [], 0⟩

/-- What the loop returns from a state. -/
def FillState.result (s : FillState) : Except Error EnvelopePage := fillPage s.rows s.page s.bytes

/-- The steps are those of the loop. -/
theorem FillStep.result {s t : FillState} (h : FillStep s t) : s.result = t.result := by
  obtain ⟨hfull, hpacket, hfits, hseq⟩ := h
  rw [FillState.result, fillPage, if_neg hfull, hpacket]
  simp only [bind, Except.bind]
  rw [if_neg hfits, hseq]
  rfl

/-- **The loop keeps within the budget**, so its subtraction does not wrap. -/
theorem fills_within_budget {s : FillState}
    (h : Relation.ReflTransGen FillStep (fillStart db request) s) :
    s.bytes = (s.page.map recordBytes).sum ∧ s.bytes ≤ pageWireBudget ∧
      sizeSub pageWireBudget s.bytes + s.bytes = pageWireBudget := by
  suffices hsum : s.bytes = (s.page.map recordBytes).sum ∧ s.bytes ≤ pageWireBudget by
    refine ⟨hsum.1, hsum.2, ?_⟩
    rw [sizeSub_pageWireBudget hsum.2]
    exact Nat.sub_add_cancel hsum.2
  induction h with
  | refl => exact ⟨rfl, Nat.zero_le _⟩
  | tail _ hstep ih =>
    obtain ⟨hfull, hpacket, hfits, hseq⟩ := hstep
    obtain ⟨hsum, hle⟩ := ih
    dsimp only at hsum hle ⊢
    rw [sizeSub_pageWireBudget hle] at hfits
    refine ⟨?_, by omega⟩
    rw [hsum]
    simp [recordBytes]

end EnvelopeRepository

/-! ### The size of a record -/

/-- The largest `protocol_version`, in bytes. -/
def maxVersionBytes : ℕ := 128

/-- Base64 needs no escapes. -/
theorem escapeChar_of_mem_encodePacketBase64 {packet : Bytes} :
    ∀ c ∈ (encodePacketBase64 packet).toList, Json.escapeChar c = [c] := by
  have alphabet : ∀ n < 64, Json.escapeChar (Base64.charOf n) = [Base64.charOf n] := by decide +kernel
  intro c hc
  rw [toList_encodePacketBase64] at hc
  rcases Base64.mem_encode hc with rfl | ⟨n, hn, rfl⟩
  · rfl
  · exact alphabet n hn

/-- The text of a uuid, escaped or not, and its quotes. -/
theorem utf8Length_quote_uuid_le (u : Uuid) : utf8Length (Json.quote u.toString) ≤ 218 := by
  refine (Json.utf8Length_quote_le _).trans ?_
  rw [utf8_toString, List.length_map, Uuid.length_chars]

/-- **A record is no longer than its estimate**, whatever has to be escaped in its
`protocol_version`. -/
theorem utf8Length_dump_envelopeBody_le (dtoa : UInt64 → String) {e : Envelope}
    (hversion : (utf8 e.protocolVersion).length ≤ maxVersionBytes) :
    utf8Length (Json.dump dtoa (envelopeBody e)) ≤ recordBytes e := by
  have hpacket : utf8Length (Json.quote (encodePacketBase64 e.packet)) =
      4 * ((e.packet.length + 2) / 3) + 2 := by
    rw [Json.utf8Length_quote_of_plain escapeChar_of_mem_encodePacketBase64,
      length_utf8_encodePacketBase64]
  have hquote := Json.utf8Length_quote_le e.protocolVersion
  have hmessage := utf8Length_quote_uuid_le e.messageId
  have henvelope := utf8Length_quote_uuid_le e.envelopeId
  have hsender := utf8Length_quote_uuid_le e.senderDeviceId
  have hrecipient := utf8Length_quote_uuid_le e.recipientDeviceId
  have hseq : utf8Length (toString (Int64.ofInt e.seq).toInt).toList ≤ 20 :=
    Json.utf8Length_toString_le (Int64.le_toInt _) (Int64.toInt_lt _)
  have hkeys : (["message_id", "envelope_id", "sender_device_id", "recipient_device_id",
      "protocol_version", "packet_base64", "seq"].map fun key => utf8Length (Json.quote key)).sum =
      102 := by decide +kernel
  refine (Json.utf8Length_dump_object_le dtoa _).trans ?_
  simp only [Json.dumpFields, Json.dump, uuidJson, int64Json, List.map_cons, List.map_nil,
    List.sum_cons, List.sum_nil, Json.memberLength_eq] at hkeys ⊢
  rw [recordBytes, estimatedRecordBytes]
  rw [maxVersionBytes] at hversion
  omega

/-! ### What the service stores -/

/-- The tables that the service fills; the versions it stores are short. -/
structure Db.Filled (db : Db) : Prop extends db.Admitted where
  versions : ∀ e ∈ db.envelopes, (utf8 e.protocolVersion).length ≤ maxVersionBytes

/-- The part of a text before its first NUL is no longer than the text. -/
theorem length_utf8_cString_le (text : String) :
    (utf8 (cString text)).length ≤ (utf8 text).length := by
  obtain ⟨rest, hrest⟩ : (cString text).toList <+: text.toList := by
    rw [cString, String.toList_ofList]
    exact List.takeWhile_prefix _
  rw [length_utf8, length_utf8, ← hrest, utf8Length_append]
  exact Nat.le_add_right _ _

theorem maxVersionBytes_of_validRequest {user sender : Uuid} {q : NewTextMessageRequest}
    (h : ChatService.validRequest user sender q) :
    (utf8 q.protocolVersion).length ≤ maxVersionBytes := by
  simp only [ChatService.validRequest, Bool.not_eq_true', Bool.or_eq_false_iff,
    decide_eq_false_iff_not] at h
  exact not_lt.mp h.1.2

/-- **The step.** -/
theorem Db.Filled.commit (h : db.Filled) {call : Call} {r : Reply} {seen : List Db}
    {ws : List Write} (hc : Committed P call r seen ws db) (hcall : SavedByService [] call) :
    ((schema P).applyAll ws db).Filled := by
  refine ⟨h.toAdmitted.commit hc hcall, ?_⟩
  rw [envelopes_applyAll (P := P) ws db]
  intro e he
  rcases List.mem_append.mp he with he | he
  · exact h.versions e he
  · rcases hc.inserts with hnil | ⟨user, sender, q, id, rfl, -, hins, -⟩
    · rw [hnil] at he
      cases he
    · rw [hins] at he
      obtain rfl := List.mem_singleton.mp he
      exact (length_utf8_cString_le _).trans (maxVersionBytes_of_validRequest hcall)

theorem filled_of_reachable {x : StoreState}
    (h : Serial.Reachable (store P SavedByService) (Committed P) db₀ x) (h₀ : db₀.Filled) :
    ∀ db ∈ x.past, db.Filled := by
  have hnow : x.db.Filled := by
    refine Serial.induction (P := fun x => x.db.Filled) (fun x e he hx => ?_)
      (fun x db hd hx => ?_) h h₀
    · rcases he.writes with hw | ⟨r, hr⟩
      · rw [Serial.State.db_after, hw]
        exact hx
      · obtain ⟨log₀, -, hallowed⟩ := he.allowed
        exact hx.commit hr hallowed
    · have hsame := drift_envelopes hd
      exact ⟨⟨fun e he => hx.rows e (hsame ▸ he), hsame ▸ hx.distinct⟩,
        fun e he => hx.versions e (hsame ▸ he)⟩
  -- nothing is ever removed, so what was stored earlier is part of what is stored now
  intro db hdb
  have hpre := envelopes_prefix_of_mem_past h db hdb
  exact ⟨⟨fun e he => hnow.rows e (hpre.subset he), hnow.distinct.sublist hpre.sublist⟩,
    fun e he => hnow.versions e (hpre.subset he)⟩

/-! ### Cursors -/

/-- In a valid list, every cursor is that of its device. -/
theorem cursorOf_of_validCursors {device : Uuid} {seen : List Uuid}
    {cursors : List EnvelopeSyncCursor} (h : validCursors device seen cursors = true)
    {cursor : EnvelopeSyncCursor} (hc : cursor ∈ cursors) :
    cursorOf cursors cursor.peerDeviceId = cursor.afterSeq ∧ cursor.peerDeviceId ∉ seen := by
  induction cursors generalizing seen with
  | nil => cases hc
  | cons first rest ih =>
    simp only [validCursors, Bool.and_eq_true, Bool.not_eq_true', Bool.or_eq_false_iff,
      decide_eq_false_iff_not] at h
    obtain ⟨⟨-, hseen⟩, hrest⟩ := h
    rw [cursorOf_cons]
    rcases List.mem_cons.mp hc with rfl | hc
    · exact ⟨if_pos rfl, hseen⟩
    · obtain ⟨hcursor, hnotin⟩ := ih hrest hc
      rw [List.mem_cons, not_or] at hnotin
      exact ⟨by rw [if_neg (Ne.symm hnotin.1), hcursor], hnotin.2⟩

/-! ### The longest page -/

/-- **What a page is**: the longest initial segment within the limits of the pending envelopes, in
the order of their senders and numbers. -/
structure BestPage (db : Db) (request : SyncEnvelopeRequest) (page : EnvelopePage) : Prop where
  /-- Pending is what is addressed to the device, with a number above the cursor of its sender. -/
  pending : ∀ e, e ∈ pending db request ↔ e ∈ db.envelopes ∧
    e.recipientDeviceId = request.deviceId ∧ cursorOf request.cursors e.senderDeviceId < e.seq
  cursors : ∀ c ∈ request.cursors, cursorOf request.cursors c.peerDeviceId = c.afterSeq
  noCursor : ∀ peer, (∀ c ∈ request.cursors, c.peerDeviceId ≠ peer) →
    cursorOf request.cursors peer = 0
  sorted : (EnvelopeRepository.pending db request).Pairwise fun e e' =>
    e.senderDeviceId < e'.senderDeviceId ∨ e.senderDeviceId = e'.senderDeviceId ∧ e.seq < e'.seq
  initial : page.envelopes <+: EnvelopeRepository.pending db request
  count : page.envelopes.length ≤ 100
  total : (page.envelopes.map fun e => 4 * ((e.packet.length + 2) / 3) + 2048).sum ≤ 524288
  longest : ∀ items, items <+: EnvelopeRepository.pending db request → items.length ≤ 100 →
    (items.map fun e => 4 * ((e.packet.length + 2) / 3) + 2048).sum ≤ 524288 →
    items <+: page.envelopes
  more : page.hasMore = true ↔
    ∃ e rest, EnvelopeRepository.pending db request = page.envelopes ++ e :: rest
  nonempty : EnvelopeRepository.pending db request ≠ [] → page.envelopes ≠ []
  /-- The loop's subtraction does not wrap. -/
  noWrap : ∀ s, Relation.ReflTransGen FillStep (fillStart db request) s →
    EnvelopeRepository.sizeSub pageWireBudget s.bytes + s.bytes = pageWireBudget
  /-- The estimates bound the records of the reply. -/
  records : (pageResponse request (some page)).find "envelopes" =
      some (.array (page.envelopes.map envelopeBody)) ∧
    ∀ e ∈ page.envelopes, ∀ dtoa, utf8Length (Json.dump dtoa (envelopeBody e)) ≤
      4 * ((e.packet.length + 2) / 3) + 2048

/-- One envelope fits into an empty page. -/
theorem recordBytes_le_of_storable {e : Envelope} (h : e.Storable) :
    recordBytes e ≤ pageWireBudget := by
  have hle := h.maxPacket
  rw [recordBytes, estimatedRecordBytes, pageWireBudget]
  omega

/-- **Every snapshot of a filled table has its page**, for every valid list of cursors. -/
theorem bestPage_of_filled (h : db.Filled)
    (hvalid : validCursors request.deviceId [] request.cursors = true) :
    ∃ page, pageOf db request = .ok page ∧ BestPage db request page := by
  have hstorable := h.storable request
  refine ⟨_, pageOf_eq_fill hstorable, fun e => mem_pending,
    fun c hc => (cursorOf_of_validCursors hvalid hc).1, fun peer hpeer => ?_, ?_,
    Budget.fill_prefix, Budget.within_fill.count, Budget.within_fill.total,
    fun items hitems hcount htotal => Budget.prefix_fill_iff.mpr ⟨hitems, hcount, htotal⟩, ?_, ?_,
    fun s hs => (fills_within_budget hs).2.2, rfl, fun e he dtoa => ?_⟩
  · have hnone : (request.cursors.find? fun c => c.peerDeviceId = peer) = none :=
      List.find?_eq_none.mpr fun c hc => by simpa using hpeer c hc
    rw [cursorOf, hnone]
    rfl
  · refine (pairwise_lt_pending h.toAdmitted request).imp ?_
    rintro e e' ⟨hlt | ⟨hsender, -⟩, hseq⟩
    · exact Or.inl hlt
    · exact Or.inr ⟨hsender, hseq hsender⟩
  · rw [decide_eq_true_eq]
    obtain ⟨rest, hrest⟩ := @Budget.fill_prefix _ pageSize pageWireBudget recordBytes
      (pending db request)
    constructor
    · intro hne
      rcases rest with _ | ⟨e, rest⟩
      · exact absurd (by simpa using hrest) hne
      · exact ⟨e, rest, hrest.symm⟩
    · rintro ⟨e, rest', hall⟩ hsame
      have hlen := congrArg List.length hall
      dsimp only at hlen
      rw [hsame, List.length_append, List.length_cons] at hlen
      omega
  · intro hne
    dsimp only
    obtain ⟨e, rest, hrest⟩ := List.exists_cons_of_ne_nil hne
    rw [hrest]
    refine Budget.fill_ne_nil (by decide) (recordBytes_le_of_storable (hstorable e ?_))
    rw [hrest]
    exact List.mem_cons_self ..
  · have hmem := (mem_pending.mp (Budget.fill_prefix.subset he)).1
    exact utf8Length_dump_envelopeBody_le dtoa (h.versions e hmem)

/-- The page that a call returned, with its request. -/
def syncedOf (e : StoreEvent) : Option (SyncEnvelopeRequest × EnvelopePage) :=
  match e.call, e.outcome with
  | .syncEnvelopeRecord _ request, .returned (.page (some page)) => some (request, page)
  | _, _ => none

theorem syncedOf_eq_some {e : StoreEvent} {page : EnvelopePage} (h : syncedOf e = some (request, page)) :
    ∃ user, e.call = .syncEnvelopeRecord user request ∧ e.outcome = .returned (.page (some page)) := by
  unfold syncedOf at h
  split at h
  · next user request' page' hcall hout =>
    obtain ⟨rfl, rfl⟩ := Prod.ext_iff.mp (Option.some.inj h)
    exact ⟨user, hcall, hout⟩
  · cases h

/-- **A page is the longest that the limits allow.** In every run in which messages are saved by
the service, every snapshot has such a page for every valid list of cursors, and what
`syncEnvelopeRecord` returns is the page of a snapshot it took. -/
theorem sync_page_is_longest {c : StoreConfig} (h : Reachable (store P SavedByService) db₀ c)
    (h₀ : db₀.Filled) :
    (∀ db ∈ c.past, ∀ request, validCursors request.deviceId [] request.cursors = true →
      ∃ page, pageOf db request = .ok page ∧ BestPage db request page) ∧
    ∀ e ∈ c.log, ∀ request page, syncedOf e = some (request, page) →
      ∃ db ∈ e.seen, db ∈ c.past ∧ BestPage db request page := by
  have hs := serial h
  have hpast : ∀ db ∈ c.past, ∀ request,
      validCursors request.deviceId [] request.cursors = true →
      ∃ page, pageOf db request = .ok page ∧ BestPage db request page :=
    fun db hdb request hvalid => bestPage_of_filled (filled_of_reachable hs h₀ db hdb) hvalid
  refine ⟨hpast, fun e he request page hsynced => ?_⟩
  obtain ⟨user, hcall, hout⟩ := syncedOf_eq_some hsynced
  obtain ⟨u, -, hends, hux⟩ := hs.split_mem he
  have hspec := hends.returned hout
  rw [hcall] at hspec
  cases hspec with
  | syncEnvelopeRecord hsync =>
    obtain ⟨db, hdb, hpage⟩ := hsync.page page rfl
    have hmem : db ∈ c.past := hux.past_subset (List.mem_cons_of_mem _ (hends.seen hdb))
    obtain ⟨page', hpage', hbest⟩ := hpast db hmem request hsync.valid
    rw [hpage] at hpage'
    obtain rfl := Except.ok.inj hpage'
    exact ⟨db, hdb, hmem, hbest⟩

/-- Two messages, one of them with a version that has to be escaped, and the page with both. -/
theorem sync_page_is_longest_two_messages : ∃ c : StoreConfig,
    Reachable (store Sample.platform SavedByService) Sample.start c ∧
      ∃ e ∈ c.log, ∃ page db, syncedOf e = some (⟨Sample.laptop, []⟩, page) ∧
        page.envelopes.map Envelope.seq = [1, 2] ∧ page.hasMore = false ∧
        BestPage db ⟨Sample.laptop, []⟩ page := by
  let first : NewTextMessageRequest := ⟨21, Sample.laptop, "v\x01", [1, 2, 3]⟩
  let second : NewTextMessageRequest := ⟨22, Sample.laptop, "v1", [4]⟩
  have hfirst : ChatService.validRequest Sample.alice Sample.phone first := by decide +kernel
  have hsecond : ChatService.validRequest Sample.alice Sample.phone second := by decide +kernel
  have hstart : Sample.start.Filled :=
    ⟨Sample.start_admitted, by simp [Db.envelopes, Sample.start]⟩
  obtain ⟨c, hc, -, ht⟩ := Reachable.of_runCalls (store Sample.platform SavedByService) Sample.start
    [(.saveNewMessage Sample.alice Sample.phone first, [31]),
      (.saveNewMessage Sample.alice Sample.phone second, [32]),
      (.syncEnvelopeRecord Sample.bob ⟨Sample.laptop, []⟩, [])]
    (fun c : StoreConfig => (c.log.filterMap syncedOf).map
      (fun r => (r.1, r.2.envelopes.map Envelope.seq, r.2.hasMore)) =
        [(⟨Sample.laptop, []⟩, [1, 2], false)])
    (by
      simp only [List.forall_mem_cons]
      exact ⟨fun _ => hfirst, fun _ => hsecond, fun _ => trivial, by simp⟩)
    (by decide +kernel)
  obtain ⟨⟨request, page⟩, l, hl, hr, -⟩ := List.map_eq_cons_iff.mp (of_decide_eq_true ht)
  obtain ⟨rfl, hseq⟩ := Prod.ext_iff.mp hr
  obtain ⟨hseqs, hmore⟩ := Prod.ext_iff.mp hseq
  obtain ⟨e, he, hsynced⟩ := List.mem_filterMap.mp (hl ▸ List.mem_cons_self ..)
  obtain ⟨db, -, -, hbest⟩ := (sync_page_is_longest hc hstart).2 e he _ _ hsynced
  exact ⟨c, hc, e, he, page, db, hsynced, hseqs, hmore, hbest⟩

end ChatBackend
