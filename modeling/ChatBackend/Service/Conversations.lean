import ChatBackend.Conversation
import ChatBackend.Service.Acknowledgments
import ChatBackend.Store.Page

/-!
# The store as an archive of conversations

What the store of messages is for: it keeps the conversations of the devices, and which messages have
been received. `Conversation.Archive` says so without tables, transactions and locks: a message is
added in one step, a page is read in one, and messages are received in one. Every interleaved run of
the store tells a story of such an archive. The calls of the history, in the order in which they
committed, do to it what their answers say. What a call has read is an archive that the story has come
through, and none from before the call began. And a call is refused for a reason: in some state that it
has read its devices were not allowed to do what it asks.

What is kept of a message is its packet, and its protocol version up to the first NUL.

## Main definitions

* `Db.archive` — the archive that a table stands for
* `Explained`, `Story` — what the calls do to the archive

## Main results

* `book_post` — a message that is saved is sent
* `isPage_of_pageOf` — a page of the store is a page of the book
* `archive_markReceived` — an envelope that is acknowledged has been received
* `store_tells_story`
-/

namespace ChatBackend

open Conversation EnvelopeRepository ReadCommitted

variable {P : Platform} {allows : List StoreEvent → Call → Prop} {db db' db₀ : Db}

/-! ### The archive of a table -/

/-- What a message says: its protocol version and its packet. -/
abbrev Content := String × Bytes

/-- The conversations of the devices; the keys are the identifiers of messages, and the names those of
envelopes. -/
abbrev ChatBook := Book Uuid Uuid Content Uuid

/-- The conversations of the devices, with what has been received of them. -/
abbrev ChatArchive := Archive Uuid Uuid Content Uuid

/-- What is kept of a message. -/
def keptContent (content : Content) : Content := (cString content.1, content.2)

/-- The content of a request. -/
def NewTextMessageRequest.content (request : NewTextMessageRequest) : Content :=
  (request.protocolVersion, request.packet)

/-- An envelope as an entry of a conversation. -/
def Envelope.entry (e : Envelope) : Entry Uuid Uuid Content Uuid :=
  ⟨e.envelopeId, e.senderDeviceId, e.messageId, (e.protocolVersion, e.packet)⟩

/-- An envelope as an item of a page. -/
def Envelope.item (e : Envelope) : Item Uuid Uuid Content Uuid := ⟨e.seq.toNat, e.entry⟩

/-- The book of a table. -/
def Db.book (db : Db) : ChatBook := fun pair =>
  (db.envelopes.filter fun e => s(e.senderDeviceId, e.recipientDeviceId) = pair).map Envelope.entry

/-- The envelopes that have been received. -/
def Db.receipts (db : Db) : Set Uuid :=
  {id | ∃ row ∈ db.messageEnvelopes, row.envelopeId = id ∧ row.receivedAt ≠ none}

/-- **The archive of a table.** -/
def Db.archive (db : Db) : ChatArchive := ⟨db.book, db.receipts⟩

theorem pairOf_eq_pairOf {a b c d : Uuid} : pairOf a b = pairOf c d ↔ s(a, b) = s(c, d) := by
  rw [Sym2.eq_iff]
  constructor
  · intro h
    obtain ⟨hmin, hmax⟩ := Prod.mk.inj h
    rcases le_total a b with hab | hab <;> rcases le_total c d with hcd | hcd <;>
      simp_all
  · rintro (⟨rfl, rfl⟩ | ⟨rfl, rfl⟩)
    · rfl
    · exact pairOf_comm a b

theorem book_mk (db : Db) (a b : Uuid) :
    db.book s(a, b) = (db.pairEnvelopes (pairOf a b)).map Envelope.entry := by
  rw [Db.book, pairEnvelopes_eq]
  simp only [pairOf_eq_pairOf]

/-- Whoever sends an envelope of a pair sends it to the other. -/
theorem recipient_of_mem {a b : Uuid} {e : Envelope} (he : e ∈ db.pairEnvelopes (pairOf a b))
    (hsender : e.senderDeviceId = a) : e.recipientDeviceId = b := by
  rw [pairEnvelopes_eq] at he
  obtain ⟨-, hpair⟩ := List.mem_filter.mp he
  rw [decide_eq_true_eq, pairOf_eq_pairOf, Sym2.eq_iff, hsender] at hpair
  rcases hpair with ⟨-, h⟩ | ⟨hab, hba⟩
  · exact h
  · exact hba.trans hab

/-- **The number of an envelope is its place.** -/
theorem seq_of_getElem? (h : Numbered db) {pair : Uuid × Uuid} {i : ℕ} {e : Envelope}
    (he : (db.pairEnvelopes pair)[i]? = some e) : e.seq = (i : ℤ) + 1 := by
  have hlength : i < (db.pairEnvelopes pair).length := (List.getElem?_eq_some_iff.mp he).1
  have hseq : ((db.pairEnvelopes pair).map Envelope.seq)[i]? = some e.seq := by
    rw [List.getElem?_map, he]
    rfl
  rw [h pair, oneTo, List.getElem?_map, List.getElem?_range hlength] at hseq
  exact (Option.some.inj hseq).symm

/-- A table with one more envelope stands for a book with one more message. -/
theorem book_append {e : Envelope} (h : db'.envelopes = db.envelopes ++ [e]) :
    db'.book = Function.update db.book s(e.senderDeviceId, e.recipientDeviceId)
      (db.book s(e.senderDeviceId, e.recipientDeviceId) ++ [e.entry]) := by
  funext pair
  rw [Db.book, h, List.filter_append]
  by_cases hpair : pair = s(e.senderDeviceId, e.recipientDeviceId)
  · subst hpair
    simp [Db.book]
  · have hother : s(e.senderDeviceId, e.recipientDeviceId) ≠ pair := Ne.symm hpair
    simp [Db.book, Function.update_of_ne hpair, hother]

theorem book_congr (h : db'.envelopes = db.envelopes) : db'.book = db.book := by
  funext pair
  rw [Db.book, Db.book, h]

theorem archive_congr (h : db'.messageEnvelopes = db.messageEnvelopes) : db'.archive = db.archive := by
  have henvelopes : db'.envelopes = db.envelopes := by rw [Db.envelopes, Db.envelopes, h]
  rw [Db.archive, Db.archive, book_congr henvelopes, Db.receipts, Db.receipts, h]

/-- A table that has kept the rows of another stands for a later archive. -/
theorem archive_le (hinitial : db.envelopes <+: db'.envelopes) (hkept : RowsKept db db') :
    db.archive ≤ db'.archive := by
  refine Archive.le_iff.mpr ⟨fun pair => (hinitial.filter _).map _, ?_⟩
  rintro _ ⟨row, hrow, rfl, hreceived⟩
  obtain ⟨row', hrow', hsame, hset⟩ := hkept row hrow
  exact ⟨row', hrow', by rw [hsame], hset hreceived ▸ hreceived⟩

/-- An envelope is addressed to a device where its row says so. -/
theorem addressed_iff {device id : Uuid} : db.archive.Addressed device id ↔
    ∃ row ∈ db.messageEnvelopes, row.envelopeId = id ∧ row.recipientDeviceId = device := by
  constructor
  · rintro ⟨sender, entry, hentry, hsender, rfl⟩
    change entry ∈ db.book s(sender, device) at hentry
    rw [book_mk] at hentry
    obtain ⟨e, he, rfl⟩ := List.mem_map.mp hentry
    have hrecipient := recipient_of_mem he hsender
    rw [pairEnvelopes_eq] at he
    obtain ⟨row, hrow, rfl⟩ := List.mem_map.mp (List.mem_filter.mp he).1
    exact ⟨row, hrow, rfl, hrecipient⟩
  · rintro ⟨row, hrow, rfl, rfl⟩
    refine ⟨row.senderDeviceId, row.toEnvelope.entry, ?_, rfl, rfl⟩
    change _ ∈ db.book s(row.senderDeviceId, row.recipientDeviceId)
    rw [book_mk, pairEnvelopes_eq]
    exact List.mem_map_of_mem (List.mem_filter.mpr ⟨List.mem_map_of_mem hrow, by simp⟩)

/-! ### Saving -/

/-- What `saveNewMessage` says for an answer. -/
inductive Says (sender : Uuid) (request : NewTextMessageRequest) :
    Conversation.Answer Uuid → NewMessageResult → Prop where
  | new (envelopeId : Uuid) (number : ℕ) : Says sender request (.new envelopeId number)
      ⟨.success, some (answered sender request envelopeId number)⟩
  | known (envelopeId : Uuid) (number : ℕ) : Says sender request (.known envelopeId number)
      ⟨.duplicateRequest, some (answered sender request envelopeId number)⟩
  | conflict : Says sender request .conflict ⟨.conflict, none⟩

/-- The envelopes with a retry key are those of the conversation that their sender sent under it. -/
theorem envelopesFor_eq_filter (db : Db) (sender recipient messageId : Uuid) :
    db.envelopesFor sender recipient messageId = (db.pairEnvelopes (pairOf sender recipient)).filter
      (Entry.isFrom sender messageId ∘ Envelope.entry) := by
  rw [envelopesFor_eq]
  refine List.filter_congr fun e he => decide_eq_decide.mpr ?_
  constructor
  · rintro ⟨hsender, -, hmessage⟩
    exact ⟨hsender, hmessage⟩
  · rintro ⟨hsender, hmessage⟩
    exact ⟨hsender, recipient_of_mem he hsender, hmessage⟩

/-- What is stored under a retry key has a place in the conversation. -/
theorem exists_place {sender recipient messageId : Uuid} {existing : Envelope}
    (h : (db.envelopesFor sender recipient messageId).head? = some existing) :
    ∃ i, (db.book s(sender, recipient)).findIdx? (Entry.isFrom sender messageId) = some i ∧
      (db.book s(sender, recipient))[i]? = some existing.entry ∧
      (db.pairEnvelopes (pairOf sender recipient))[i]? = some existing := by
  rw [envelopesFor_eq_filter, List.head?_filter] at h
  obtain ⟨i, hi, hget⟩ := exists_findIdx?_of_find? h
  refine ⟨i, ?_, ?_, hget⟩
  · rw [book_mk, List.findIdx?_map]
    exact hi
  · rw [book_mk, List.getElem?_map, hget]
    rfl

/-- **A message that is saved is sent**: the answer is the book's, and so is the state after it. -/
theorem book_post (hnumbered : Numbered db) {user sender : Uuid} {request : NewTextMessageRequest}
    {r : NewMessageResult} {seen : List Db} {ws : List Write}
    (h : SaveSpec user sender request r seen ws db) :
    (r = ⟨.permissionDenied, none⟩ ∧ ws = [] ∧
        ∃ v ∈ db :: seen, ¬ v.permits user sender request.recipientDeviceId) ∨
      db.permits user sender request.recipientDeviceId ∧ ∃ answer id, Says sender request answer r ∧
        (∀ id number, answer = .new id number → db.archive.Free id) ∧
        db.book.post keptContent sender request.recipientDeviceId request.messageId request.content id =
          (answer, ((schema P).applyAll ws db).book) ∧
        ((schema P).applyAll ws db).receipts = db.receipts := by
  cases h with
  | permissionDenied hdenied => exact .inl ⟨rfl, rfl, hdenied⟩
  | success envelopeId hpermits hfree hunused =>
    have happ := envelopes_applyAll (P := P) [.insertEnvelope ⟨EnvelopeRepository.stored sender request envelopeId
      (db.maxSeq (pairOf sender request.recipientDeviceId) + 1), none⟩] db
    have hnumber : db.maxSeq (pairOf sender request.recipientDeviceId) + 1 =
        ((db.book s(sender, request.recipientDeviceId)).length + 1 : ℕ) := by
      rw [hnumbered.maxSeq, book_mk, List.length_map, Nat.cast_add, Nat.cast_one]
    have hfresh : ∀ entry ∈ db.book s(sender, request.recipientDeviceId),
        entry.isFrom sender request.messageId = false := by
      intro entry hentry
      rw [book_mk] at hentry
      obtain ⟨e, he, rfl⟩ := List.mem_map.mp hentry
      rw [envelopesFor_eq_filter, List.filter_eq_nil_iff] at hfree
      exact Bool.eq_false_of_not_eq_true (hfree e he)
    have hname : db.archive.Free envelopeId := by
      intro pair entry hentry hid
      obtain ⟨e, he, rfl⟩ := List.mem_map.mp hentry
      obtain ⟨row, hrow, rfl⟩ := List.mem_map.mp (List.mem_filter.mp he).1
      exact List.filter_eq_nil_iff.mp hunused row hrow (decide_eq_true hid)
    refine .inr ⟨hpermits, .new envelopeId ((db.book s(sender, request.recipientDeviceId)).length + 1),
      envelopeId, ?_, fun id number hnew => ?_, ?_, ?_⟩
    · rw [hnumber]
      exact .new envelopeId _
    · obtain ⟨rfl, -⟩ := Conversation.Answer.new.inj hnew
      exact hname
    · rw [book_append happ]
      exact Book.post_eq_new hfresh
    · ext id
      simp [Db.receipts, Db.write]
  | duplicate existing hpermits hexisting hversion hpacket =>
    obtain ⟨i, hi, hentry, hplace⟩ := exists_place hexisting
    have hnumber : existing.seq = ((i + 1 : ℕ) : ℤ) := by
      rw [seq_of_getElem? hnumbered hplace, Nat.cast_add, Nat.cast_one]
    rw [hnumber]
    refine .inr ⟨hpermits, _, existing.envelopeId, .known existing.envelopeId _,
      (fun id number hnew => by cases hnew), ?_, rfl⟩
    exact Book.post_eq_known hi hentry (Prod.ext hversion hpacket)
  | conflict existing hpermits hexisting hother =>
    obtain ⟨i, hi, hentry, -⟩ := exists_place hexisting
    refine .inr ⟨hpermits, _, existing.envelopeId, .conflict, (fun id number hnew => by cases hnew), ?_,
      rfl⟩
    refine Book.post_eq_conflict hi hentry fun hsame => ?_
    obtain ⟨hversion, hpacket⟩ := Prod.mk.inj hsame
    rcases hother with hne | hne
    · exact hne hversion
    · exact hne hpacket

/-! ### Reading -/

/-- What holds in order among those of each kind holds in order of all that are of one kind. -/
theorem pairwise_of_filter {α β : Type} [DecidableEq β] {R : α → α → Prop} {kind : α → β}
    {l : List α} (h : ∀ b, (l.filter fun a => kind a = b).Pairwise R) :
    l.Pairwise fun a a' => kind a = kind a' → R a a' := by
  induction l with
  | nil => exact .nil
  | cons a l ih =>
    refine List.pairwise_cons.mpr ⟨fun a' ha' hkind => ?_, ih fun b => ?_⟩
    · have hpair := h (kind a)
      rw [List.filter_cons_of_pos (by simp)] at hpair
      exact (List.pairwise_cons.mp hpair).1 a' (List.mem_filter.mpr ⟨ha', by simp [hkind]⟩)
    · exact (h b).sublist ((List.sublist_cons_self a l).filter _)

/-- The numbers of a pair are different. -/
theorem distinct_of_numbered (h : Numbered db) : db.envelopes.Pairwise fun e e' =>
    pairOf e.senderDeviceId e.recipientDeviceId = pairOf e'.senderDeviceId e'.recipientDeviceId →
      e.seq ≠ e'.seq := by
  refine pairwise_of_filter fun pair => ?_
  have hseqs : ((db.pairEnvelopes pair).map Envelope.seq).Nodup := by
    rw [h pair]
    exact List.nodup_range.map fun a b hab => by simpa using hab
  exact (List.pairwise_map.mp hseqs)

/-- The pending envelopes are in the order of a page. -/
theorem pairwise_before_pending (h : Numbered db) (request : SyncEnvelopeRequest) :
    ((pending db request).map Envelope.item).Pairwise Item.Before := by
  have hdistinct : (pending db request).Pairwise fun e e' => pairOf e.senderDeviceId
      e.recipientDeviceId = pairOf e'.senderDeviceId e'.recipientDeviceId → e.seq ≠ e'.seq := by
    refine ((List.perm_insertionSort _ _).pairwise_iff ?_).mpr ((distinct_of_numbered h).filter _)
    exact fun hne hpair => (hne hpair.symm).symm
  refine List.pairwise_map.mpr (List.Pairwise.imp_of_mem ?_ (pairwise_pending.and hdistinct))
  rintro e e' he he' ⟨horder, hne⟩
  obtain ⟨henvelope, hrecipient, -⟩ := mem_pending.mp he
  obtain ⟨-, hrecipient', -⟩ := mem_pending.mp he'
  rcases horder with hlt | ⟨hsender, hlt | ⟨heq, -⟩⟩
  · exact .inl hlt
  · refine .inr ⟨hsender, ?_⟩
    obtain ⟨i, hi⟩ := List.mem_iff_getElem?.mp
      (show e ∈ db.pairEnvelopes (pairOf e.senderDeviceId e.recipientDeviceId) from
        List.mem_filter.mpr ⟨henvelope, by simp⟩)
    have hseq := seq_of_getElem? h hi
    change e.seq.toNat < e'.seq.toNat
    omega
  · exact absurd heq (hne (by rw [hsender, hrecipient, hrecipient']))

/-- **The pending envelopes are what is unread** in the book. -/
theorem mem_pending_iff_unread (h : Numbered db) {request : SyncEnvelopeRequest}
    (x : Item Uuid Uuid Content Uuid) : x ∈ (pending db request).map Envelope.item ↔
      db.book.Unread request.deviceId (cursorOf request.cursors) x := by
  constructor
  · intro hx
    obtain ⟨e, he, rfl⟩ := List.mem_map.mp hx
    obtain ⟨henvelope, hrecipient, hcursor⟩ := mem_pending.mp he
    obtain ⟨i, hi⟩ := List.mem_iff_getElem?.mp
      (show e ∈ db.pairEnvelopes (pairOf e.senderDeviceId request.deviceId) from
        List.mem_filter.mpr ⟨henvelope, by simp [hrecipient]⟩)
    have hseq := seq_of_getElem? h hi
    refine ⟨⟨i, ?_, ?_⟩, ?_⟩
    · change e.seq.toNat = i + 1
      omega
    · change (db.book s(e.senderDeviceId, request.deviceId))[i]? = some e.entry
      rw [book_mk, List.getElem?_map, hi]
      rfl
    · change cursorOf request.cursors e.senderDeviceId < (e.seq.toNat : ℤ)
      omega
  · rintro ⟨⟨i, hnumber, hget⟩, hcursor⟩
    rw [book_mk, List.getElem?_map, Option.map_eq_some_iff] at hget
    obtain ⟨e, hi, hentry⟩ := hget
    have hseq := seq_of_getElem? h hi
    have hmem := List.mem_of_getElem? hi
    have hsender : e.senderDeviceId = x.entry.sender := congrArg Entry.sender hentry
    refine List.mem_map.mpr ⟨e, mem_pending.mpr ⟨(List.mem_filter.mp hmem).1,
      recipient_of_mem hmem hsender, ?_⟩, ?_⟩
    · rw [hsender, hseq]
      omega
    · obtain ⟨number, entry⟩ := x
      obtain rfl : number = i + 1 := hnumber
      rw [Envelope.item, hentry, hseq]
      rfl

/-- **A page of the store is a page of the book.** -/
theorem isPage_of_pageOf (hnumbered : Numbered db) {request : SyncEnvelopeRequest}
    {page : EnvelopePage} (h : pageOf db request = .ok page) :
    db.book.IsPage request.deviceId (cursorOf request.cursors) (page.envelopes.map Envelope.item)
      page.hasMore := by
  refine Book.isPage_of_prefix (pairwise_before_pending hnumbered request)
    (mem_pending_iff_unread hnumbered) ((pageOf_ok h).1.map _) ?_
  constructor
  · intro hmore hsame
    obtain ⟨more, rest, hrows, hpage, hrest, -⟩ := fillPage_ok h
    rw [List.nil_append] at hpage
    have hlength := congrArg List.length hsame
    have htaken := congrArg List.length hrows
    have hpos := List.length_pos_iff.mpr (hrest.mp hmore)
    rw [List.length_map, List.length_map, hpage] at hlength
    rw [List.length_take, List.length_append] at htaken
    omega
  · intro hne
    by_contra hno
    exact hne (by rw [(pageOf_ok h).2 (Bool.eq_false_of_not_eq_true hno)])

/-! ### Acknowledging -/

/-- **An envelope that is acknowledged has been received.** -/
theorem archive_markReceived {ids : List Uuid} (now : Time)
    (h : ∀ id ∈ ids, ∃ row ∈ db.messageEnvelopes, row.envelopeId = id) :
    (db.markReceived ids now).archive = db.archive.receive ids := by
  refine Archive.ext (book_congr (Db.envelopes_markReceived ids now)) (Set.ext fun id => ?_)
  constructor
  · rintro ⟨row', hrow', rfl, hset⟩
    obtain ⟨row, hrow, rfl⟩ := List.mem_map.mp hrow'
    rw [EnvelopeRow.toEnvelope_markReceived]
    by_cases hid : row.envelopeId ∈ ids
    · exact Or.inr hid
    · rw [EnvelopeRow.markReceived, if_neg hid] at hset
      exact Or.inl ⟨row, hrow, rfl, hset⟩
  · intro hid
    obtain ⟨row, hrow, rfl, hset⟩ : ∃ row ∈ db.messageEnvelopes, row.envelopeId = id ∧
        (row.markReceived ids now).receivedAt ≠ none := by
      rcases hid with ⟨row, hrow, rfl, hset⟩ | hid
      · refine ⟨row, hrow, rfl, ?_⟩
        rw [EnvelopeRow.markReceived]
        split_ifs
        · exact Option.some_ne_none _
        · exact hset
      · obtain ⟨row, hrow, rfl⟩ := h id hid
        refine ⟨row, hrow, rfl, ?_⟩
        rw [EnvelopeRow.markReceived, if_pos (show row.envelopeId ∈ ids from hid)]
        exact Option.some_ne_none _
    refine ⟨row.markReceived ids now, List.mem_map_of_mem hrow, ?_, hset⟩
    rw [EnvelopeRow.toEnvelope_markReceived]

/-! ### The story -/

/-- What a call on messages answers when its devices may not do what it asks. -/
def refusal : Call → Option Reply
  | .saveNewMessage _ _ _ => some (.message ⟨.permissionDenied, none⟩)
  | .syncEnvelopeRecord _ _ => some (.page none)
  | .ackEnvelopes _ _ => some (.acknowledged none)
  | _ => none

/-- The devices of a call on messages may not do what it asks. -/
def Db.Denies (db : Db) : Call → Prop
  | .saveNewMessage user sender request => ¬ db.permits user sender request.recipientDeviceId
  | .syncEnvelopeRecord user request => db.activeOwner request.deviceId ≠ some user
  | .ackEnvelopes user request => db.activeOwner request.deviceId ≠ some user
  | _ => False

/-- The call returned `r`, or its answer was lost. -/
def Tells (e : StoreEvent) (r : Reply) : Prop := e.outcome = .returned r ∨ e.outcome = .lost

/-- **What a call does to the archive**, after the archives that have been. -/
inductive Explained (past : List ChatArchive) (archive : ChatArchive) (e : StoreEvent) :
    ChatArchive → Prop where
  /-- It sends a message, and answers what has become of it. A new message has a new name. -/
  | posted {user sender id : Uuid} {request : NewTextMessageRequest}
      {answer : Conversation.Answer Uuid} {book : ChatBook} {r : NewMessageResult}
      (hcall : e.call = .saveNewMessage user sender request)
      (hpermits : e.before.permits user sender request.recipientDeviceId)
      (hpost : archive.book.post keptContent sender request.recipientDeviceId request.messageId
        request.content id = (answer, book))
      (hfree : ∀ id number, answer = .new id number → archive.Free id)
      (hanswer : Says sender request answer r) (hreply : Tells e (.message r)) :
      Explained past archive e { archive with book }
  /-- It answers a page of an archive that has been. -/
  | read {user : Uuid} {request : SyncEnvelopeRequest} {page : EnvelopePage} {v : Db}
      (hcall : e.call = .syncEnvelopeRecord user request)
      (hactive : e.before.activeOwner request.deviceId = some user)
      (hseen : v ∈ e.seen) (hpast : v.archive ∈ past)
      (hpage : v.archive.book.IsPage request.deviceId (cursorOf request.cursors)
        (page.envelopes.map Envelope.item) page.hasMore) (hreply : Tells e (.page (some page))) :
      Explained past archive e archive
  /-- It receives the messages that it names and that are addressed to its device in an archive that
  has been, and answers which these are. -/
  | received {user : Uuid} {request : AckEnvelopeRequest} {ids : List Uuid} {v : Db}
      (hcall : e.call = .ackEnvelopes user request)
      (hactive : e.before.activeOwner request.deviceId = some user)
      (hseen : v ∈ e.seen) (hpast : v.archive ∈ past)
      (hids : ∀ id, id ∈ ids ↔ id ∈ request.envelopeIds ∧ v.archive.Addressed request.deviceId id)
      (hreply : Tells e (.acknowledged (some ids))) : Explained past archive e (archive.receive ids)
  /-- It is refused, because of what it has read. -/
  | refused {r : Reply} {v : Db} (hrefusal : refusal e.call = some r) (hseen : v ∈ e.before :: e.seen)
      (hdenies : v.Denies e.call) (hreply : Tells e r) : Explained past archive e archive
  | failed {error : Error} (hthrew : e.outcome = .threw error) : Explained past archive e archive
  /-- It is not about messages. -/
  | other (hother : refusal e.call = none) : Explained past archive e archive

/-- **A story**: the calls, the archives that have been, and the last of them. It begins without
messages. -/
inductive Story : List StoreEvent → List ChatArchive → ChatArchive → Prop where
  | nil : Story [] [⟨fun _ => [], ∅⟩] ⟨fun _ => [], ∅⟩
  | cons {log past archive e after} (h : Story log past archive)
      (he : Explained past archive e after) : Story (log ++ [e]) (after :: past) after

variable {x : StoreState} {e : StoreEvent} {past : List ChatArchive} {archive after : ChatArchive}

theorem Explained.le (h : Explained past archive e after) : archive ≤ after := by
  cases h with
  | @posted _ sender id request answer book _ _ _ hpost =>
    have hle := Archive.le_post keptContent archive sender request.recipientDeviceId
      request.messageId request.content id
    rwa [hpost] at hle
  | received => exact archive.le_receive _
  | _ => exact le_refl archive

/-- A story goes on from all that has been. -/
theorem Story.le {log : List StoreEvent} (h : Story log past archive) : ∀ a ∈ past, a ≤ archive := by
  induction h with
  | nil => exact List.forall_mem_singleton.mpr (le_refl _)
  | cons _ he ih =>
    exact List.forall_mem_cons.mpr ⟨le_refl _, fun a ha => (ih a ha).trans he.le⟩

/-- Calls that are not about messages do not write their table. -/
theorem messageEnvelopes_notMem_tables {call : Call} (h : refusal call = none) :
    Table.messageEnvelopes ∉ call.tables := by
  cases call with
  | saveNewMessage => cases h
  | syncEnvelopeRecord => cases h
  | ackEnvelopes => cases h
  | _ => simp [Call.tables]

/-- **The step**: what is committed explains itself. -/
theorem explained_of_acks {call : Call} {r : Reply} (hcall : e.call = call)
    (hc : Acks P call r e.seen e.writes x.db) (hreply : Tells e r) (hbefore : e.before = x.db)
    (hnumbered : Numbered x.db) (hunique : UniqueIds x.db)
    (hseen : ∀ v ∈ e.seen, Numbered v ∧ v.archive ∈ past) :
    Explained past x.db.archive e ((schema P).applyAll e.writes x.db).archive := by
  cases hrefusal : refusal call with
  | none =>
    rw [archive_congr (hc.1.frame belongsTo_messageEnvelopes (messageEnvelopes_notMem_tables hrefusal))]
    exact .other (hcall ▸ hrefusal)
  | some answer =>
    have denied : ∀ v ∈ x.db :: e.seen, v.Denies call → r = answer →
        Explained past x.db.archive e x.db.archive := by
      intro v hv hdenies hr
      exact .refused (hcall ▸ hrefusal) (hbefore ▸ hv) (hcall ▸ hdenies) (hr ▸ hreply)
    cases call with
    | saveNewMessage user sender request =>
      obtain rfl := Option.some.inj hrefusal
      obtain ⟨result, rfl, hsave⟩ := hc.1.save
      rcases book_post (P := P) hnumbered hsave with
        ⟨rfl, hwrites, v, hv, hdenies⟩ | ⟨hpermits, answer, id, hanswer, hfree, hpost, hreceipts⟩
      · rw [hwrites, Schema.applyAll_nil]
        exact denied v hv hdenies rfl
      · have hexplained : Explained past x.db.archive e ⟨_, x.db.receipts⟩ :=
          .posted hcall (hbefore ▸ hpermits) hpost hfree hanswer hreply
        rwa [← hreceipts] at hexplained
    | syncEnvelopeRecord user request =>
      obtain rfl := Option.some.inj hrefusal
      obtain ⟨hcommitted, -⟩ := hc
      cases hcommitted with
      | @syncEnvelopeRecord _ _ result _ _ _ hsync =>
        cases result with
        | none =>
          obtain ⟨v, hv, hdenies⟩ := hsync.denied rfl
          rw [hsync.readOnly, Schema.applyAll_nil]
          exact denied v hv hdenies rfl
        | some page =>
          obtain ⟨v, hv, hpage⟩ := hsync.page page rfl
          rw [hsync.readOnly, Schema.applyAll_nil]
          exact .read hcall (hbefore ▸ hsync.active rfl) hv (hseen v hv).2
            (isPage_of_pageOf (hseen v hv).1 hpage) hreply
    | ackEnvelopes user request =>
      obtain rfl := Option.some.inj hrefusal
      obtain ⟨result, rfl, hrun⟩ := hc.2 user request rfl
      generalize hs : e.seen = seen, e.writes = writes at hrun
      cases hrun with
      | @notFound found clock _ hfound =>
        rw [Schema.applyAll_nil]
        exact denied found (by simp [hs]) hfound rfl
      | @notGranted granted found clock _ _ hgranted =>
        rw [Schema.applyAll_nil]
        exact denied granted (by simp [hs]) hgranted rfl
      | @acknowledged rechecks snapshot granted found clock _ now rows _ _ hactive hids hrows =>
        have hsnapshot : snapshot ∈ e.seen := by simp [hs]
        rw [applyAll_ackRun hunique hrows, hids, archive_markReceived now fun id hid => ?_]
        · refine .received hcall (hbefore ▸ hactive) hsnapshot (hseen _ hsnapshot).2 (fun id => ?_) hreply
          rw [Db.mem_namedBy, addressed_iff]
        · obtain ⟨row, hrow, rfl⟩ := List.mem_map.mp (hids ▸ hid)
          obtain ⟨row', hrow', hid', -⟩ := hrows row hrow
          exact ⟨row', hrow', hid'⟩
    | _ => cases hrefusal

theorem explained_of_ends (he : Serial.Ends (store P allows) (Acks P) x e)
    (hnumbered : Numbered x.db) (hunique : UniqueIds x.db)
    (hpast : ∀ v ∈ x.past, Numbered v ∧ v.archive ∈ past) :
    Explained past x.db.archive e (x.after (store P allows) e).db.archive := by
  have hseen : ∀ v ∈ e.seen, Numbered v ∧ v.archive ∈ past := fun v hv => hpast v (he.seen hv)
  have hcommits := he.commits
  rw [Serial.Commits, he.before] at hcommits
  rw [Serial.State.db_after, store_toSchema]
  cases hout : e.outcome with
  | returned r =>
    rw [hout] at hcommits
    exact explained_of_acks rfl hcommits (Or.inl hout) he.before hnumbered hunique hseen
  | threw error =>
    rw [hout] at hcommits
    rw [show e.writes = [] from hcommits, Schema.applyAll_nil]
    exact .failed hout
  | lost =>
    rw [hout] at hcommits
    obtain ⟨r, hr⟩ := hcommits
    exact explained_of_acks rfl hr (Or.inr hout) he.before hnumbered hunique hseen

/-- **The run.** -/
theorem story_of_reachable (h : Serial.Reachable (store P allows) (Acks P) db₀ x)
    (hempty : db₀.messageEnvelopes = []) :
    ∃ past, Story x.log past x.db.archive ∧ ∀ v ∈ x.past, Numbered v ∧ v.archive ∈ past := by
  have harchive : db₀.archive = ⟨fun _ => [], ∅⟩ := by
    refine Archive.ext ?_ ?_
    · funext pair
      simp [Db.archive, Db.book, Db.envelopes, hempty]
    · simp [Db.archive, Db.receipts, hempty]
  have key : (Numbered x.db ∧ UniqueIds x.db) ∧ ∃ past, Story x.log past x.db.archive ∧
      x.db.archive ∈ past ∧ ∀ v ∈ x.past, Numbered v ∧ v.archive ∈ past := by
    refine Serial.induction (P := fun x => (Numbered x.db ∧ UniqueIds x.db) ∧
      ∃ past, Story x.log past x.db.archive ∧ x.db.archive ∈ past ∧
        ∀ v ∈ x.past, Numbered v ∧ v.archive ∈ past) (fun x e he hx => ?_)
      (fun x db hd hx => ?_) h ⟨⟨numbered_of_empty hempty, uniqueIds_of_empty hempty⟩,
        [⟨fun _ => [], ∅⟩], ?_, ?_, ?_⟩
    · obtain ⟨⟨hnumbered, hunique⟩, past, hstory, -, hpast⟩ := hx
      have hafter : Numbered (x.after (store P allows) e).db := by
        rcases he.writes with hw | ⟨r, hr⟩
        · rw [Serial.State.db_after, hw]
          exact hnumbered
        · exact hnumbered.commit hr.1
      have hunique' := (rowsKept_of_steps (Relation.ReflTransGen.single (.ends he)) hunique).2
      exact ⟨⟨hafter, hunique'⟩, _, hstory.cons (explained_of_ends he hnumbered hunique hpast),
        List.mem_cons_self .., List.forall_mem_cons.mpr ⟨⟨hafter, List.mem_cons_self ..⟩, fun v hv =>
          ⟨(hpast v hv).1, List.mem_cons_of_mem _ (hpast v hv).2⟩⟩⟩
    · -- time passes and the archive stays as it is
      obtain ⟨now, -, rfl⟩ := hd
      obtain ⟨⟨hnumbered, hunique⟩, past, hstory, hmem, hpast⟩ := hx
      exact ⟨⟨hnumbered, hunique⟩, past, hstory, hmem,
        List.forall_mem_cons.mpr ⟨⟨hnumbered, hmem⟩, hpast⟩⟩
    · rw [harchive]
      exact .nil
    · rw [harchive]
      exact List.mem_singleton_self _
    · refine List.forall_mem_singleton.mpr ⟨numbered_of_empty hempty, ?_⟩
      rw [harchive]
      exact List.mem_singleton_self _
  obtain ⟨-, past, hstory, -, hpast⟩ := key
  exact ⟨past, hstory, hpast⟩

/-- **What a call reads is not older than the call**: whatever is begun behind `c` has read archives
from `c` on. -/
theorem archive_le_of_seen {c c' : StoreConfig} (h : Reachable (store P allows) db₀ c)
    (hunique : UniqueIds db₀) (h' : Steps (store P allows) c c') {e : StoreEvent}
    (he : e ∈ c'.log.drop c.log.length) (hfree : ¬ c.Serves e.call) {v : Db} (hv : v ∈ e.seen) :
    c.db.archive ≤ v.archive := by
  obtain ⟨d, hd, rfl⟩ := (h'.begunSince he (Or.inl hfree)).2 v hv
  have hsteps := Steps.serial (meets_acks P allows) (Reachable.good (meets_acks P allows) h) hd
  exact archive_le (envelopes_prefix_of_steps (Serial.Steps.mono (fun _ _ _ _ _ hc => hc.1) hsteps))
    (rowsKept_of_steps hsteps (uniqueIds_of_acks (serial_acks h) hunique)).1

/-- **The store tells the story of an archive.** However the calls are interleaved, from an empty table:
in the order in which they committed, what they answered is what they do to an archive of
conversations, one call at a time, and the table stands for the archive that comes of it, which has all
that was ever committed. What is begun behind a configuration reads no earlier archive than was
committed there. -/
theorem store_tells_story {c : StoreConfig} (h : Reachable (store P allows) db₀ c)
    (hempty : db₀.messageEnvelopes = []) :
    (∃ past, Story c.log past c.db.archive ∧
      ∀ v ∈ c.past, v.archive ∈ past ∧ v.archive ≤ c.db.archive) ∧
    ∀ c', Steps (store P allows) c c' → ∀ e ∈ c'.log.drop c.log.length, ¬ c.Serves e.call →
      ∀ v ∈ e.seen, c.db.archive ≤ v.archive := by
  obtain ⟨past, hstory, hpast⟩ := story_of_reachable (serial_acks h) hempty
  exact ⟨⟨past, hstory, fun v hv => ⟨(hpast v hv).2, hstory.le _ (hpast v hv).2⟩⟩,
    fun c' h' e he hfree v hv =>
      archive_le_of_seen h (uniqueIds_of_empty hempty) h' he hfree hv⟩

/-- A message, the same again, another one under its key, a page, an acknowledgment, and one of a
device that is not its user's. -/
theorem store_tells_story_of_retry : ∃ c : StoreConfig,
    Reachable (store Sample.platform Sample.anyone) Sample.start c ∧
      c.log.map (fun e => e.outcome) = [
        .returned (.message ⟨.success, some ⟨31, 21, Sample.phone, Sample.laptop, "v1", [1], 1⟩⟩),
        .returned (.message ⟨.duplicateRequest,
          some ⟨31, 21, Sample.phone, Sample.laptop, "v1", [1], 1⟩⟩),
        .returned (.message ⟨.conflict, none⟩),
        .returned (.page (some ⟨[⟨31, 21, Sample.phone, Sample.laptop, "v1", [1], 1⟩], false⟩)),
        .returned (.acknowledged (some [31])), .returned (.acknowledged none)] ∧
      (∃ past, Story c.log past c.db.archive ∧
        ∀ v ∈ c.past, v.archive ∈ past ∧ v.archive ≤ c.db.archive) ∧
      ∀ c', Steps (store Sample.platform Sample.anyone) c c' → ∀ e ∈ c'.log.drop c.log.length,
        ¬ c.Serves e.call → ∀ v ∈ e.seen, c.db.archive ≤ v.archive := by
  obtain ⟨c, hc, -, ht⟩ := Reachable.of_runCalls (store Sample.platform Sample.anyone) Sample.start
    [(.saveNewMessage Sample.alice Sample.phone ⟨21, Sample.laptop, "v1", [1]⟩, [31]),
      (.saveNewMessage Sample.alice Sample.phone ⟨21, Sample.laptop, "v1", [1]⟩, [32]),
      (.saveNewMessage Sample.alice Sample.phone ⟨21, Sample.laptop, "v1", [2]⟩, [33]),
      (.syncEnvelopeRecord Sample.bob ⟨Sample.laptop, []⟩, []),
      (.ackEnvelopes Sample.bob ⟨Sample.laptop, [31, 32]⟩, []),
      (.ackEnvelopes Sample.alice ⟨Sample.laptop, [31]⟩, [])]
    (fun c : StoreConfig => c.log.map (fun e => e.outcome) = [
        .returned (.message ⟨.success, some ⟨31, 21, Sample.phone, Sample.laptop, "v1", [1], 1⟩⟩),
        .returned (.message ⟨.duplicateRequest,
          some ⟨31, 21, Sample.phone, Sample.laptop, "v1", [1], 1⟩⟩),
        .returned (.message ⟨.conflict, none⟩),
        .returned (.page (some ⟨[⟨31, 21, Sample.phone, Sample.laptop, "v1", [1], 1⟩], false⟩)),
        .returned (.acknowledged (some [31])), .returned (.acknowledged none)])
    (fun _ _ _ => trivial) (by decide +kernel)
  exact ⟨c, hc, of_decide_eq_true ht, store_tells_story hc rfl⟩

end ChatBackend
