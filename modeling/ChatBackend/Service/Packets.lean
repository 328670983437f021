import ChatBackend.Base64
import ChatBackend.Service.CatchUp
import ChatBackend.Service.Retries
import ChatBackend.Websocket.Results

/-!
# Packets

A packet comes as Base64 text, is passed to the server as hexadecimal text, is read back as
hexadecimal text and leaves as Base64 text. The four codecs agree: what leaves is the text that came.

## Main definitions

* `Sodium.Canonical` — what the code relies on libsodium for
* `shownEnvelopes` — the envelopes that a message shows
* `Served` — a run of a task whose answers are those of the store

## Main results

* `requirePacket_ok_iff` — the texts that are accepted
* `packets_unchanged`
-/

namespace ChatBackend

open ReadCommitted EnvelopeRepository WebSocketDispatcher
open Effects (Runs Obeys)

variable {P : Platform} {db db₀ : Db} {sodium : Sodium}

/-! ### The encoder -/

theorem base64Char_eq (value : ℕ) : base64Char value = Base64.charOf (value % 64) := by
  have hmask : (63 : ℕ) = 2 ^ 6 - 1 := rfl
  rw [base64Char, hmask, Nat.and_two_pow_sub_one_eq_mod]
  rfl

theorem base64Char_shiftRight (value k : ℕ) :
    base64Char (value >>> k) = Base64.charOf (value / 2 ^ k % 64) := by
  rw [base64Char_eq, Nat.shiftRight_eq_div_pow]

/-- Three bytes in one number. -/
theorem or_bytes (a b c : UInt8) : a.toNat <<< 16 ||| b.toNat <<< 8 ||| c.toNat =
    a.toNat * 65536 + b.toNat * 256 + c.toNat := by
  have hb : b.toNat <<< 8 < 2 ^ 16 := by
    have hlt := b.toNat_lt
    rw [Nat.shiftLeft_eq]
    omega
  have hc : c.toNat < 2 ^ 8 := c.toNat_lt
  have hhigh : a.toNat <<< 16 ||| b.toNat <<< 8 = (a.toNat * 256 + b.toNat) <<< 8 := by
    rw [← Nat.shiftLeft_add_eq_or_of_lt hb, Nat.shiftLeft_eq, Nat.shiftLeft_eq, Nat.shiftLeft_eq]
    omega
  rw [hhigh, ← Nat.shiftLeft_add_eq_or_of_lt hc, Nat.shiftLeft_eq]
  omega

/-- **`encodePacketBase64` is Base64.** -/
theorem packetBase64Chars_eq (bytes : Bytes) : packetBase64Chars bytes = Base64.encode bytes := by
  have sextets : ∀ a b c : UInt8,
      base64Char ((a.toNat * 65536 + b.toNat * 256 + c.toNat) >>> 18) =
        Base64.charOf (a.toNat / 4) ∧
      base64Char ((a.toNat * 65536 + b.toNat * 256 + c.toNat) >>> 12) =
        Base64.charOf (a.toNat % 4 * 16 + b.toNat / 16) ∧
      base64Char ((a.toNat * 65536 + b.toNat * 256 + c.toNat) >>> 6) =
        Base64.charOf (b.toNat % 16 * 4 + c.toNat / 64) ∧
      base64Char (a.toNat * 65536 + b.toNat * 256 + c.toNat) = Base64.charOf (c.toNat % 64) := by
    intro a b c
    have ha := a.toNat_lt
    have hb := b.toNat_lt
    have hc := c.toNat_lt
    refine ⟨?_, ?_, ?_, ?_⟩
    · rw [base64Char_shiftRight]
      congr 1
      omega
    · rw [base64Char_shiftRight]
      congr 1
      omega
    · rw [base64Char_shiftRight]
      congr 1
      omega
    · rw [base64Char_eq]
      congr 1
      omega
  fun_induction packetBase64Chars bytes with
  | case1 => rfl
  | case2 a value =>
    have hvalue : value = a.toNat * 65536 + (0 : UInt8).toNat * 256 + (0 : UInt8).toNat := by
      rw [← or_bytes]
      simp [value]
    obtain ⟨h₁, h₂, -, -⟩ := sextets a 0 0
    rw [hvalue, h₁, h₂]
    rfl
  | case3 a b value =>
    have hvalue : value = a.toNat * 65536 + b.toNat * 256 + (0 : UInt8).toNat := by
      rw [← or_bytes]
      simp [value]
    obtain ⟨h₁, h₂, h₃, -⟩ := sextets a b 0
    rw [hvalue, h₁, h₂, h₃]
    rfl
  | case4 a b c rest value ih =>
    have hvalue : value = a.toNat * 65536 + b.toNat * 256 + c.toNat := or_bytes a b c
    obtain ⟨h₁, h₂, h₃, h₄⟩ := sextets a b c
    rw [hvalue, h₁, h₂, h₃, h₄, ih, Base64.encode]

theorem toList_encodePacketBase64 (bytes : Bytes) :
    (encodePacketBase64 bytes).toList = Base64.encode bytes := by
  rw [encodePacketBase64, String.toList_ofList, packetBase64Chars_eq]

/-! ### The accepted texts -/

/-- `sodium_base642bin` accepts exactly the canonical Base64 texts of what fits into the buffer, and
decodes them. -/
def Sodium.Canonical (sodium : Sodium) : Prop :=
  ∀ size text, sodium.base642bin size text =
    (Base64.decode text.toList).filter fun bytes => bytes.length ≤ size

theorem base642bin_eq_some (h : sodium.Canonical) {size : ℕ} {text : String} {bytes : Bytes} :
    sodium.base642bin size text = some bytes ↔
      text = encodePacketBase64 bytes ∧ bytes.length ≤ size := by
  rw [h, Option.filter_eq_some_iff, Base64.decode_eq_some, decide_eq_true_eq, encodePacketBase64,
    packetBase64Chars_eq, ← String.toList_inj, String.toList_ofList, eq_comm]

/-- The text of a packet is ASCII. -/
theorem length_utf8_encodePacketBase64 (bytes : Bytes) :
    (utf8 (encodePacketBase64 bytes)).length = 4 * ((bytes.length + 2) / 3) := by
  have hascii : ∀ c ∈ packetBase64Chars bytes, c.utf8Size = 1 := by
    intro c hc
    have all : ∀ n < 64, (Base64.charOf n).utf8Size = 1 := by decide +kernel
    rw [packetBase64Chars_eq] at hc
    rcases Base64.mem_encode hc with rfl | ⟨n, hn, rfl⟩
    · rfl
    · exact all n hn
  rw [encodePacketBase64, utf8_ofList hascii, List.length_map, packetBase64Chars_eq,
    Base64.length_encode]

theorem encodePacketBase64_ne_empty {bytes : Bytes} (h : bytes ≠ []) :
    encodePacketBase64 bytes ≠ "" := by
  intro hempty
  have hlist := congrArg String.toList hempty
  rw [toList_encodePacketBase64] at hlist
  exact Base64.encode_ne_nil h hlist

/-- **The accepted texts are those of the packets of 1 to 65536 bytes**, and they are accepted as
these packets. -/
theorem requirePacket_ok_iff (h : sodium.Canonical) {body : Json} {packet : Bytes} :
    requirePacket sodium body = .ok packet ↔
      body.find "packet_base64" = some (.string (encodePacketBase64 packet)) ∧ packet ≠ [] ∧
        packet.length ≤ 64 * 1024 := by
  rw [requirePacket, bind_eq_ok]
  constructor
  · rintro ⟨text, htext, hpacket⟩
    split_ifs at hpacket with hlength
    have hfind := (requireString_ok_iff.mp htext).1
    split at hpacket
    · next byte rest hdecoded =>
      obtain rfl := Except.ok.inj hpacket
      obtain ⟨rfl, hle⟩ := (base642bin_eq_some h).mp hdecoded
      exact ⟨hfind, List.cons_ne_nil _ _, hle⟩
    · cases hpacket
  · rintro ⟨hfind, hne, hle⟩
    obtain ⟨byte, rest, rfl⟩ := List.exists_cons_of_ne_nil hne
    refine ⟨encodePacketBase64 (byte :: rest),
      requireString_ok_iff.mpr ⟨hfind, encodePacketBase64_ne_empty hne⟩, ?_⟩
    have hlength : ¬ (maxEncodedBytes < (utf8 (encodePacketBase64 (byte :: rest))).length ∨
        (utf8 (encodePacketBase64 (byte :: rest))).length % 4 ≠ 0) := by
      rw [length_utf8_encodePacketBase64, maxEncodedBytes, maxPacketBytes]
      omega
    have hdecoded : sodium.base642bin maxPacketBytes (encodePacketBase64 (byte :: rest)) =
        some (byte :: rest) := (base642bin_eq_some h).mpr ⟨rfl, hle⟩
    rw [if_neg hlength, hdecoded]

/-- The packet of an accepted message is that of its text. -/
theorem parseNewMessage_packet (h : sodium.Canonical) {payload : Json} {parsed : ParsedNewMessage}
    {text : String} (hparsed : parseNewMessage sodium payload = .ok parsed)
    (htext : payload.find "packet_base64" = some (.string text)) :
    encodePacketBase64 parsed.request.packet = text := by
  unfold parseNewMessage at hparsed
  split_ifs at hparsed
  simp only [bind_eq_ok] at hparsed
  obtain ⟨sender, -, message, -, recipient, -, version, -, hparsed⟩ := hparsed
  split_ifs at hparsed
  obtain ⟨packet, hpacket, hparsed⟩ := bind_eq_ok.mp hparsed
  obtain rfl := Except.ok.inj hparsed
  have hfind := ((requirePacket_ok_iff h).mp hpacket).1
  rw [htext] at hfind
  exact (Json.string.inj (Option.some.inj hfind)).symm

/-! ### What a message shows -/

/-- The envelopes that a message shows: the one of a push, or those of a page. -/
def shownEnvelopes (message : Json) : List Json :=
  (message.find "envelope").toList ++ match message.find "envelopes" with
    | some (.array bodies) => bodies
    | _ => []

/-- Where the envelopes of a message come from: from the chat service, which has stored one or
returned a page. -/
inductive Sourced (past : List DispatcherEvent) (message : Json) : Prop where
  | nothing : shownEnvelopes message = [] → Sourced past message
  | push (user sender : Uuid) (request : NewTextMessageRequest) (envelope : Envelope) :
      ⟨.newTextMessage user sender request, .ok ⟨.success, some envelope⟩⟩ ∈ past →
      shownEnvelopes message = [envelopeBody envelope] → Sourced past message
  | page (user : Uuid) (request : SyncEnvelopeRequest) (page : EnvelopePage) :
      ⟨.syncEnvelopePage user request, .ok (some page)⟩ ∈ past →
      shownEnvelopes message = page.envelopes.map envelopeBody → Sourced past message

/-- Messages are replied only if their envelopes have a source. -/
def RepliesSourced (past : List DispatcherEvent) : DispatcherCall → Prop
  | .reply message => Sourced past message
  | _ => True

/-- A program all of whose messages have a source. -/
def AlwaysSourced {α : Type} (p : Dispatcher α) (past : List DispatcherEvent) : Prop :=
  Obeys RepliesSourced (fun _ _ => True) p past

section Rules

variable {α β : Type} {p : Dispatcher α} {past : List DispatcherEvent}

theorem alwaysSourced_reply {message : Json} (h : Sourced past message) :
    AlwaysSourced (reply message) past :=
  Effects.obeys_perform h fun _ => trivial

theorem alwaysSourced_reply_of_nil {message : Json} (h : shownEnvelopes message = []) :
    AlwaysSourced (reply message) past :=
  alwaysSourced_reply (.nothing h)

theorem AlwaysSourced.bind {f : α → Dispatcher β} (hp : AlwaysSourced p past)
    (hf : ∀ a past, AlwaysSourced (f a) past) : AlwaysSourced (p.bind f) past := by
  refine Effects.obeys_bind (hp.mono fun past r _ => ?_)
  cases r with
  | error e => trivial
  | ok a => exact hf a past

/-- A call of the chat service, what is made of its answer, and the reply with that. -/
theorem alwaysSourced_request {op : DispatcherCall} {respond : op.Answer → Dispatcher Json}
    {failed : Error → Json} (hop : RepliesSourced past op)
    (hfailed : ∀ error, shownEnvelopes (failed error) = [])
    (hrespond : ∀ answer, Obeys RepliesSourced
      (fun past r => ∀ message, r = .ok message → Sourced past message) (respond answer)
      (past ++ [⟨op, .ok answer⟩])) :
    AlwaysSourced ((((perform op).bind respond).tryCatch fun error => .ret (failed error)).bind reply)
      past := by
  refine Effects.obeys_bind (Effects.obeys_tryCatch (Effects.obeys_bind
    (Effects.obeys_perform hop fun ans => ?_)))
  rcases ans with error | answer
  · exact alwaysSourced_reply_of_nil (hfailed error)
  · refine (hrespond answer).mono fun past r hr => ?_
    rcases r with error | message
    · exact alwaysSourced_reply_of_nil (hfailed error)
    · exact alwaysSourced_reply (hr message rfl)

end Rules

theorem alwaysSourced_replyError (code : String) (past : List DispatcherEvent) :
    AlwaysSourced (replyError code) past :=
  (alwaysSourced_reply_of_nil rfl).bind fun _ _ => trivial

theorem alwaysSourced_validateDevice (device : Uuid) (payload : Json)
    (past : List DispatcherEvent) : AlwaysSourced (validateDevice device payload) past := by
  rw [validateDevice]
  split
  · split
    · trivial
    · split
      · exact (alwaysSourced_reply_of_nil rfl).bind fun _ _ => trivial
      · split_ifs
        · exact (alwaysSourced_reply_of_nil rfl).bind fun _ _ => trivial
        · trivial
  · exact alwaysSourced_replyError _ _

theorem alwaysSourced_validateSessionRequest (authResult : AuthResult) (user device : Uuid)
    (payload : Json) (past : List DispatcherEvent) :
    AlwaysSourced (validateSessionRequest authResult user device payload) past := by
  cases authResult with
  | error error => exact alwaysSourced_replyError _ _
  | ok userId =>
    simp only [validateSessionRequest]
    split_ifs
    · exact alwaysSourced_replyError _ _
    · refine ⟨trivial, fun ans => ?_⟩
      rcases ans with error | identity
      · exact alwaysSourced_replyError _ _
      · rw [validateIdentity]
        split_ifs
        · exact alwaysSourced_replyError _ _
        · exact alwaysSourced_validateDevice _ _ _

/-- What is said about a stored message shows nothing; the push before it shows the envelope. -/
theorem obeys_messageResponse_sourced (user sender : Uuid) (request : NewTextMessageRequest)
    (result : NewTextMessageResult) (past : List DispatcherEvent) :
    Obeys RepliesSourced (fun past r => ∀ message, r = .ok message → Sourced past message)
      (messageResponse result) (past ++ [⟨.newTextMessage user sender request, .ok result⟩]) := by
  have said : ∀ (past : List DispatcherEvent) (message said : Json), shownEnvelopes message = [] →
      (.ok message : Except Error Json) = .ok said → Sourced past said := by
    intro past message said hmessage hsaid
    exact Except.ok.inj hsaid ▸ .nothing hmessage
  obtain ⟨status, envelope⟩ := result
  cases status with
  | success =>
    cases envelope with
    | none => exact fun message => said _ _ _ rfl
    | some envelope =>
      have hpush : Sourced (past ++ [⟨.newTextMessage user sender request,
          .ok ⟨.success, some envelope⟩⟩]) (onlineSync envelope) :=
        .push user sender request envelope (List.mem_append_right _ (List.mem_singleton_self _)) rfl
      refine Effects.obeys_bind (Effects.obeys_tryCatch (Effects.obeys_perform hpush fun ans => ?_))
      rcases ans with error | _
      · exact fun message => said _ _ _ rfl
      · exact fun message => said _ _ _ rfl
  | duplicateRequest =>
    cases envelope with
    | none => exact fun message => said _ _ _ rfl
    | some envelope => exact fun message => said _ _ _ rfl
  | invalidRequest => exact fun message => said _ _ _ rfl
  | permissionDenied => exact fun message => said _ _ _ rfl
  | conflict => exact fun message => said _ _ _ rfl
  | databaseUnavailable => exact fun message => said _ _ _ rfl
  | retryLater => exact fun message => said _ _ _ rfl
  | internalError => exact fun message => said _ _ _ rfl

theorem alwaysSourced_route (task : Task) (past : List DispatcherEvent) :
    AlwaysSourced (route sodium task) past := by
  rw [route]
  split
  · have text : ∀ field past, AlwaysSourced (Effects.Prog.ofExcept (stringOf field)) past :=
      fun _ _ => Effects.obeys_ofExcept trivial
    have printed : ∀ id message past, AlwaysSourced (perform (.printId id message)) past :=
      fun _ _ _ => Effects.obeys_perform trivial fun _ => trivial
    exact (text _ _).bind fun id past => (text _ _).bind fun message past =>
      (printed _ _ _).bind fun _ past => alwaysSourced_reply_of_nil rfl
  · rw [newTextMessage]
    split
    · exact alwaysSourced_reply_of_nil rfl
    · exact alwaysSourced_request trivial (fun _ => rfl) fun result =>
        obeys_messageResponse_sourced _ _ _ result past
  · rw [syncEnvelope]
    split
    · exact alwaysSourced_reply_of_nil rfl
    · next request _ =>
      refine alwaysSourced_request trivial (fun error => ?_) fun page message hmessage => ?_
      · cases error <;> rfl
      · obtain rfl := Except.ok.inj hmessage
        cases page with
        | none => exact .nothing rfl
        | some page =>
          exact .page _ request page (List.mem_append_right _ (List.mem_singleton_self _)) rfl
  · rw [ackEnvelope]
    split
    · exact alwaysSourced_reply_of_nil rfl
    · refine alwaysSourced_request trivial (fun error => ?_) fun ids message hmessage => ?_
      · cases error <;> rfl
      · obtain rfl := Except.ok.inj hmessage
        cases ids <;> exact .nothing rfl
  · trivial

/-- **Every envelope that a task shows comes from the chat service.** -/
theorem alwaysSourced_runTask (task : Task) : AlwaysSourced (runTask sodium task) [] := by
  rw [runTask]
  refine (alwaysSourced_validateSessionRequest _ _ _ _ _).bind fun valid past => ?_
  split_ifs
  · exact alwaysSourced_route task past
  · trivial

/-! ### The store -/

/-- The chat service's answers in a run of a task are those of the store. -/
structure Served (log : List StoreEvent) (trace : List DispatcherEvent) : Prop where
  messages : ∀ user sender request result,
    ⟨.newTextMessage user sender request, .ok result⟩ ∈ trace → Called log user sender request result
  pages : ∀ user request page, ⟨.syncEnvelopePage user request, .ok page⟩ ∈ trace →
    ∃ e ∈ log, e.call = .syncEnvelopeRecord user request ∧ e.outcome = .returned (.page page)

/-- `message_envelopes_pkey`. -/
def UniqueIds (db : Db) : Prop := (db.envelopes.map Envelope.envelopeId).Nodup

theorem UniqueIds.eq (h : UniqueIds db) {E E' : Envelope} (hE : E ∈ db.envelopes)
    (hE' : E' ∈ db.envelopes) (hid : E.envelopeId = E'.envelopeId) : E = E' :=
  List.inj_on_of_nodup_map h hE hE' hid

/-- An inserted envelope is what its request stores, under a new identifier. -/
theorem Committed.inserted_eq {call : Call} {r : Reply} {seen : List Db} {ws : List Write}
    (h : Committed P call r seen ws db) {E : Envelope} (hE : E ∈ inserted ws) :
    ∃ user sender request, call = .saveNewMessage user sender request ∧
      E = EnvelopeRepository.stored sender request E.envelopeId E.seq ∧
      inserted ws = [E] ∧ db.envelopeRow E.envelopeId = [] := by
  rcases h.inserts with hnil | ⟨user, sender, request, id, rfl, -, -⟩
  · rw [hnil] at hE
    cases hE
  · obtain ⟨result, -, hspec⟩ := h.save
    cases hspec with
    | success id hp hfree hid =>
      obtain rfl := List.mem_singleton.mp hE
      exact ⟨_, _, _, rfl, rfl, rfl, hid⟩
    | duplicate => cases hE
    | conflict => cases hE
    | permissionDenied => cases hE

/-- **The step.** -/
theorem UniqueIds.commit (h : UniqueIds db) {call : Call} {r : Reply} {seen : List Db}
    {ws : List Write} (hc : Committed P call r seen ws db) :
    UniqueIds ((schema P).applyAll ws db) := by
  have happ := envelopes_applyAll (P := P) ws db
  rw [UniqueIds, happ, List.map_append]
  rcases hins : inserted ws with _ | ⟨E, rest⟩
  · rw [List.map_nil, List.append_nil]
    exact h
  · obtain ⟨-, -, -, -, -, hone, hfree⟩ := hc.inserted_eq (hins ▸ List.mem_cons_self ..)
    obtain ⟨-, rfl⟩ := List.cons.inj (hins.symm.trans hone)
    refine List.nodup_append.mpr ⟨h, List.nodup_singleton _, ?_⟩
    intro id hid id' hid' heq
    obtain rfl := List.mem_singleton.mp hid'
    obtain ⟨E', hE', rfl⟩ := List.mem_map.mp hid
    obtain ⟨row, hrow, rfl⟩ := List.mem_map.mp hE'
    have hmem : row ∈ db.envelopeRow E.envelopeId := List.mem_filter.mpr ⟨hrow, decide_eq_true heq⟩
    rw [hfree] at hmem
    cases hmem

/-- In an empty table no two envelopes have one identifier. -/
theorem uniqueIds_of_empty (h : db.messageEnvelopes = []) : UniqueIds db := by
  rw [UniqueIds, Db.envelopes, h]
  exact List.nodup_nil

theorem uniqueIds_of_reachable {allows : List StoreEvent → Call → Prop} {x : StoreState}
    (h : Serial.Reachable (store P allows) (Committed P) db₀ x) (h₀ : UniqueIds db₀) :
    UniqueIds x.db := by
  refine Serial.induction (P := fun x => UniqueIds x.db) (fun x e he hx => ?_)
    (fun x db hd hx => ?_) h h₀
  · rcases he.writes with hw | ⟨r, hr⟩
    · rw [Serial.State.db_after, hw]
      exact hx
    · exact hx.commit hr
  · rw [UniqueIds, drift_envelopes hd]
    exact hx

/-! ### The journey of a packet -/

section Journey

variable {c : StoreConfig} {E : Envelope}

/-- What a call of the history has inserted is in the table. -/
theorem mem_envelopes_of_inserted (h : Reachable (store P SavedByService) db₀ c) {e : StoreEvent}
    (he : e ∈ c.log) (hE : E ∈ inserted e.writes) : E ∈ c.db.envelopes := by
  obtain ⟨u, -, -, hux⟩ := (serial h).split_mem he
  refine (envelopes_prefix_of_steps hux).subset ?_
  rw [Serial.State.db_after, store_toSchema, envelopes_applyAll]
  exact List.mem_append_right _ hE

/-- It has the packet of its request. -/
theorem packet_of_inserted (h : Reachable (store P SavedByService) db₀ c) {e : StoreEvent}
    {user sender : Uuid} {request : NewTextMessageRequest} (he : e ∈ c.log)
    (hcall : e.call = .saveNewMessage user sender request) (hE : E ∈ inserted e.writes) :
    E.packet = request.packet := by
  obtain ⟨u, -, hue, -⟩ := (serial h).split_mem he
  rcases hue.writes with hnone | ⟨r, hr⟩
  · rw [hnone] at hE
    cases hE
  · obtain ⟨user', sender', request', hcall', hstored, -, -⟩ := hr.inserted_eq hE
    rw [hcall] at hcall'
    cases hcall'
    rw [hstored, EnvelopeRepository.stored]

/-- The envelope that is reported as new is in the table, with this packet. -/
theorem exists_stored_of_called (h : Reachable (store P SavedByService) db₀ c) {user sender : Uuid}
    {request : NewTextMessageRequest} (hcalled : Called c.log user sender request ⟨.success, some E⟩) :
    ∃ row ∈ c.db.envelopes, row.envelopeId = E.envelopeId ∧ row.packet = E.packet := by
  have hlog : c.log = c.log ++ [] := (List.append_nil _).symm
  obtain ⟨⟨-, hE, hrow⟩, -⟩ := storedOnce_of_called h hlog hcalled
  have hmem : EnvelopeRepository.stored sender request E.envelopeId E.seq ∈
      c.db.envelopesFor sender request.recipientDeviceId request.messageId :=
    hrow ▸ List.mem_singleton_self _
  refine ⟨_, (List.mem_filter.mp hmem).1, rfl, ?_⟩
  rw [hE]
  rfl

/-- The envelopes of a page are in the table. -/
theorem mem_envelopes_of_page (h : Reachable (store P SavedByService) db₀ c) {e : StoreEvent}
    {user : Uuid} {request : SyncEnvelopeRequest} {page : EnvelopePage} (he : e ∈ c.log)
    (hcall : e.call = .syncEnvelopeRecord user request)
    (houtcome : e.outcome = .returned (.page (some page))) (hE : E ∈ page.envelopes) :
    E ∈ c.db.envelopes := by
  obtain ⟨u, hu, hue, hux⟩ := (serial h).split_mem he
  have hspec := hue.returned houtcome
  rw [hcall] at hspec
  cases hspec with
  | syncEnvelopeRecord hsync =>
    obtain ⟨v, hv, hpage⟩ := hsync.page page rfl
    have hpast := envelopes_prefix_of_mem_past hu v (hue.seen hv)
    have hafter : u.db.envelopes <+: (u.after (store P SavedByService) e).db.envelopes := by
      rw [Serial.State.db_after, store_toSchema, envelopes_applyAll]
      exact List.prefix_append _ _
    exact ((hpast.trans hafter).trans (envelopes_prefix_of_steps hux)).subset
      (mem_of_mem_page hpage hE).1

/-- **Whatever a task shows is in the table.** -/
theorem exists_row_of_shown (h : Reachable (store P SavedByService) db₀ c) {task : Task}
    {trace : List DispatcherEvent} {result : Except Error Unit}
    (hruns : Runs (runTask sodium task) trace result) (hserved : Served c.log trace) {message body : Json}
    (hmessage : message ∈ replies trace) (hbody : body ∈ shownEnvelopes message) :
    ∃ shown, body = envelopeBody shown ∧
      ∃ row ∈ c.db.envelopes, row.envelopeId = shown.envelopeId ∧ row.packet = shown.packet := by
  obtain ⟨x, hx, hreply⟩ := List.mem_filterMap.mp hmessage
  obtain ⟨before, after, rfl⟩ := List.append_of_mem hx
  have hsourced := ((alwaysSourced_runTask task).of_runs hruns).1 before x after rfl
  obtain ⟨op, answer⟩ := x
  cases op <;> cases hreply
  rcases hsourced with hnil | ⟨user, sender, request, envelope, hmem, hshown⟩ |
    ⟨user, request, page, hmem, hshown⟩
  · rw [hnil] at hbody
    cases hbody
  · rw [hshown] at hbody
    obtain rfl := List.mem_singleton.mp hbody
    exact ⟨envelope, rfl, exists_stored_of_called h
      (hserved.messages _ _ _ _ (List.mem_append_left _ hmem))⟩
  · rw [hshown] at hbody
    obtain ⟨shown, hshown, rfl⟩ := List.mem_map.mp hbody
    obtain ⟨e, he, hcall, houtcome⟩ := hserved.pages _ _ _ (List.mem_append_left _ hmem)
    exact ⟨shown, rfl, shown, mem_envelopes_of_page h he hcall houtcome hshown, rfl, rfl⟩

/-- In the history of `c`, the payload's message has been stored as `E`. -/
structure StoredFrom (sodium : Sodium) (c : StoreConfig) (payload : Json) (text : String)
    (E : Envelope) : Prop where
  text : payload.find "packet_base64" = some (.string text)
  saved : ∃ parsed user, parseNewMessage sodium payload = .ok parsed ∧ ∃ e ∈ c.log,
    e.call = .saveNewMessage user parsed.senderDeviceId parsed.request ∧ E ∈ inserted e.writes

/-- What becomes of packets, up to the configuration `c` of a run. -/
structure PacketsUnchanged (sodium : Sodium) (c : StoreConfig) : Prop where
  /-- Every push and every page that shows the envelope shows the text that it came as. -/
  shown : ∀ payload text E, StoredFrom sodium c payload text E → ∀ task trace result,
    Runs (runTask sodium task) trace result → Served c.log trace →
      ∀ message ∈ replies trace, ∀ body ∈ shownEnvelopes message,
        body.find "envelope_id" = some (uuidJson E.envelopeId) →
          body.find "packet_base64" = some (.string text)
  /-- Every packet of 1 to 65536 bytes is accepted in its Base64 form. -/
  accepted : ∀ (packet : Bytes) (body : Json), packet ≠ [] → packet.length ≤ 65536 →
    body.find "packet_base64" = some (.string (String.ofList (Base64.encode packet))) →
      requirePacket sodium body = .ok packet
  /-- No stored packet makes `decodePacketHex` throw. -/
  readable : ∀ E ∈ c.db.envelopes, decodePacketHex (encodeHex E.packet) = .ok E.packet
  /-- A stored packet and that of a request compare equal if and only if their texts are equal. -/
  compared : ∀ payload text E, StoredFrom sodium c payload text E → ∀ body text' packet,
    body.find "packet_base64" = some (.string text') → requirePacket sodium body = .ok packet →
      (encodeHex E.packet = encodeHex packet ↔ text = text')

theorem StoredFrom.encode (h : Reachable (store P SavedByService) db₀ c) (hs : sodium.Canonical)
    {payload : Json} {text : String} (hE : StoredFrom sodium c payload text E) :
    encodePacketBase64 E.packet = text := by
  obtain ⟨htext, parsed, user, hparsed, e, he, hcall, hinserted⟩ := hE
  rw [packet_of_inserted h he hcall hinserted]
  exact parseNewMessage_packet hs hparsed htext

theorem StoredFrom.mem (h : Reachable (store P SavedByService) db₀ c) {payload : Json} {text : String}
    (hE : StoredFrom sodium c payload text E) : E ∈ c.db.envelopes := by
  obtain ⟨-, -, -, -, e, he, -, hinserted⟩ := hE
  exact mem_envelopes_of_inserted h he hinserted

theorem encodePacketBase64_injective : Function.Injective encodePacketBase64 := by
  intro a b hab
  have hlist := congrArg String.toList hab
  rw [toList_encodePacketBase64, toList_encodePacketBase64] at hlist
  have hdecoded := Base64.decode_encode a
  rw [hlist, Base64.decode_encode] at hdecoded
  exact (Option.some.inj hdecoded).symm

/-- **Packets travel unchanged end to end.** In every run of a store that only the service writes
messages to, from admitted tables. -/
theorem packets_unchanged (hs : sodium.Canonical) (h₀ : db₀.Admitted) (hids : UniqueIds db₀)
    (h : Reachable (store P SavedByService) db₀ c) : PacketsUnchanged sodium c := by
  refine ⟨fun payload text E hE task trace result hruns hserved message hmessage body hbody hid => ?_,
    fun packet body hne hle hfind => ?_, fun E hE => ?_,
    fun payload text E hE body text' packet htext' hpacket => ?_⟩
  · obtain ⟨shown, rfl, row, hrow, hrowId, hpacket⟩ :=
      exists_row_of_shown h hruns hserved hmessage hbody
    have hshownId : uuidJson shown.envelopeId = uuidJson E.envelopeId := Option.some.inj hid
    have hsame : shown.envelopeId = E.envelopeId :=
      Uuid.toString_injective (Json.string.inj hshownId)
    obtain rfl := (uniqueIds_of_reachable (serial h) hids).eq hrow (hE.mem h) (hrowId.trans hsame)
    have hshown : (envelopeBody shown).find "packet_base64" =
        some (.string (encodePacketBase64 shown.packet)) := rfl
    rw [hshown, ← hpacket, hE.encode h hs]
  · refine (requirePacket_ok_iff hs).mpr ⟨?_, hne, hle⟩
    rw [hfind, encodePacketBase64, packetBase64Chars_eq]
  · have hadmitted := (admitted_of_reachable (serial h) h₀).rows E hE
    exact decodePacketHex_encodeHex hadmitted.packet hadmitted.maxPacket
  · have hfind := ((requirePacket_ok_iff hs).mp hpacket).1
    rw [htext'] at hfind
    rw [encodeHex_injective.eq_iff, ← hE.encode h hs, Json.string.inj (Option.some.inj hfind),
      encodePacketBase64_injective.eq_iff]

end Journey

namespace Sample

/-- libsodium, as documented. -/
def canonicalSodium : Sodium where
  base642bin size text := (Base64.decode text.toList).filter fun bytes => bytes.length ≤ size

theorem canonicalSodium_canonical : canonicalSodium.Canonical := fun _ _ => rfl

/-- A message with a packet of one byte. -/
def onePayload : Json :=
  .object [("type", .string "chat.newTextMessage"),
    ("sender_device_id", .string "00000000-0000-0000-0000-00000000000b"),
    ("message_id", .string "00000000-0000-0000-0000-000000000015"),
    ("recipient_device_id", .string "00000000-0000-0000-0000-00000000000c"),
    ("protocol_version", .string "v1"), ("packet_base64", .string "AQ==")]

theorem start_admitted : start.Admitted := ⟨by simp [Db.envelopes, start], List.Pairwise.nil⟩

end Sample

/-- A packet of one byte is stored from its text. -/
theorem packets_unchanged_one : ∃ (c : StoreConfig) (E : Envelope),
    Reachable (store Sample.platform SavedByService) Sample.start c ∧
      StoredFrom Sample.canonicalSodium c Sample.onePayload "AQ==" E ∧
      PacketsUnchanged Sample.canonicalSodium c := by
  let q : NewTextMessageRequest := ⟨21, Sample.laptop, "v1", [1]⟩
  let E : Envelope := ⟨31, 21, Sample.phone, Sample.laptop, "v1", [1], 1⟩
  have hvalid : ChatService.validRequest Sample.alice Sample.phone q := by decide +kernel
  obtain ⟨c, hc, -, ht⟩ := Reachable.of_runCalls (store Sample.platform SavedByService) Sample.start
    [(.saveNewMessage Sample.alice Sample.phone q, [31])]
    (fun c : StoreConfig => c.log.map (fun e => ((savedMessage e).map Prod.fst, inserted e.writes)) =
      [(some ⟨Sample.alice, Sample.phone, q⟩, [E])])
    (fun x hx _ => List.mem_singleton.mp hx ▸ hvalid) (by decide +kernel)
  obtain ⟨e, l, hlog, he, -⟩ := List.map_eq_cons_iff.mp (of_decide_eq_true ht)
  obtain ⟨hsaved, hinserted⟩ := Prod.ext_iff.mp he
  refine ⟨c, E, hc, ⟨rfl, ⟨Sample.phone, q⟩, Sample.alice, by decide +kernel, e, ?_, ?_, ?_⟩,
    packets_unchanged Sample.canonicalSodium_canonical Sample.start_admitted List.nodup_nil hc⟩
  · exact hlog ▸ List.mem_cons_self ..
  · obtain ⟨x, hx, hmessage⟩ := Option.map_eq_some_iff.mp hsaved
    rw [call_of_savedMessage hx, hmessage]
  · exact (show inserted e.writes = [E] from hinserted) ▸ List.mem_singleton_self _

end ChatBackend
