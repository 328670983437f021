import ChatBackend.ReadCommitted.Emits
import ChatBackend.Service.CatchUp
import ChatBackend.Websocket.Dispatcher
import ChatBackend.Websocket.UuidText

/-!
# Boundary parsers and repository guards

`WebSocketDispatcher::parseSyncEnvelope` and `parseAckEnvelope` against a description of the payloads
they are meant to accept, and against the checks that `EnvelopeRepository` makes again.

## Main definitions

* `SyncDenotes`, `AckDenotes` — the request that a payload denotes
* `parseSyncEnvelopeReplying`, `parseAckEnvelopeReplying` — the parsers with their replies

## Main results

* `parseSyncEnvelope_ok_iff`, `parseAckEnvelope_ok_iff` — what is accepted, and as what
* `throws_syncEnvelopeRecord`, `throws_ackEnvelopes`
* `boundaries_agree`
-/

namespace ChatBackend

open ReadCommitted WebSocketDispatcher EnvelopeRepository
open Effects (Runs)

variable {payload : Json} {user : Uuid}

/-! ### The payloads -/

/-- The value of a JSON integer. -/
def Json.intValue : Json → Option ℤ
  | .unsigned value => some value.toNat
  | .integer value => some value.toInt
  | _ => none

/-- A field holds the canonical text of the uuid. -/
def HasUuid (body : Json) (field : String) (u : Uuid) : Prop :=
  ∃ text, body.find field = some (.string text) ∧ IsUuidText text u

/-- The cursor that an entry denotes. -/
structure CursorDenotes (entry : Json) (cursor : EnvelopeSyncCursor) : Prop where
  peer : HasUuid entry "peer_device_id" cursor.peerDeviceId
  seq : ∃ number, entry.find "after_seq" = some number ∧ number.intValue = some cursor.afterSeq

/-- The synchronization request that a payload denotes. -/
structure SyncDenotes (payload : Json) (request : SyncEnvelopeRequest) : Prop where
  device : HasUuid payload "device_id" request.deviceId
  entries : ∃ entries, payload.find "cursors" = some (.array entries) ∧ entries.length ≤ 1000 ∧
    List.Forall₂ CursorDenotes entries request.cursors
  wellFormed : WellFormed request

/-- The envelope identifier that an entry denotes. -/
def IdDenotes (entry : Json) (id : Uuid) : Prop := ∃ text, entry = .string text ∧ IsUuidText text id

/-- The acknowledgment that a payload denotes. -/
structure AckDenotes (payload : Json) (request : AckEnvelopeRequest) : Prop where
  device : HasUuid payload "device_id" request.deviceId
  deviceNonNil : request.deviceId ≠ 0
  entries : ∃ entries, payload.find "envelope_ids" = some (.array entries) ∧
    1 ≤ entries.length ∧ entries.length ≤ 100 ∧
    List.Forall₂ IdDenotes entries request.envelopeIds
  ids : request.envelopeIds.Nodup
  idsNonNil : ∀ id ∈ request.envelopeIds, id ≠ 0

/-! ### The synchronization parser -/

/-- The sequence numbers that are accepted. -/
theorem parseAfterSeq_ok_iff {field : Option Json} {seq : ℤ} : parseAfterSeq field = .ok seq ↔
    (∃ number, field = some number ∧ number.intValue = some seq) ∧ 0 ≤ seq ∧ seq ≤ maxBigint := by
  constructor
  · intro h
    refine ⟨?_, parseAfterSeq_ok h⟩
    unfold parseAfterSeq at h
    split at h
    · split_ifs at h
      obtain rfl := Except.ok.inj h
      exact ⟨_, rfl, rfl⟩
    · split_ifs at h
      obtain rfl := Except.ok.inj h
      exact ⟨_, rfl, rfl⟩
    · cases h
  · rintro ⟨⟨number, rfl, hvalue⟩, h₀, h₁⟩
    cases number with
    | unsigned value =>
      obtain rfl := Option.some.inj hvalue
      exact if_neg (not_lt.mpr h₁)
    | integer value =>
      obtain rfl := Option.some.inj hvalue
      exact if_neg (not_lt.mpr h₀)
    | _ => cases hvalue

/-- One cursor is accepted if its entry denotes it and its device is admissible. -/
theorem parseCursors_cons_ok_iff {device : Uuid} {seen : List Uuid} {entry : Json}
    {entries : List Json} {cursors : List EnvelopeSyncCursor} :
    parseCursors device seen (entry :: entries) = .ok cursors ↔ ∃ cursor rest,
      cursors = cursor :: rest ∧ CursorDenotes entry cursor ∧ cursor.peerDeviceId ≠ 0 ∧
      cursor.peerDeviceId ≠ device ∧ cursor.peerDeviceId ∉ seen ∧
      (0 ≤ cursor.afterSeq ∧ cursor.afterSeq ≤ maxBigint) ∧
      parseCursors device (cursor.peerDeviceId :: seen) entries = .ok rest := by
  rw [parseCursors]
  constructor
  · intro h
    split_ifs at h
    obtain ⟨peer, hpeer, h⟩ := bind_eq_ok.mp h
    split_ifs at h with hbad hseen
    obtain ⟨seq, hseq, h⟩ := bind_eq_ok.mp h
    obtain ⟨rest, hrest, h⟩ := bind_eq_ok.mp h
    obtain rfl := Except.ok.inj h
    obtain ⟨hnumber, hbounds⟩ := parseAfterSeq_ok_iff.mp hseq
    rw [not_or] at hbad
    exact ⟨⟨peer, seq⟩, rest, rfl, ⟨requireUuid_ok_iff.mp hpeer, hnumber⟩,
      by simpa [Uuid.isNil] using hbad.1, hbad.2, hseen, hbounds, hrest⟩
  · rintro ⟨cursor, rest, rfl, hdenotes, hnil, hdevice, hseen, hbounds, hrest⟩
    have hobject : entry.isObject = true := by
      obtain ⟨text, hfind, -⟩ := hdenotes.peer
      exact Json.isObject_of_find hfind
    rw [if_neg (by rw [hobject]; decide)]
    refine bind_eq_ok.mpr ⟨cursor.peerDeviceId, requireUuid_ok_iff.mpr hdenotes.peer, ?_⟩
    rw [if_neg (by simp [Uuid.isNil, hnil, hdevice]), if_neg hseen]
    refine bind_eq_ok.mpr ⟨cursor.afterSeq, parseAfterSeq_ok_iff.mpr ⟨hdenotes.seq, hbounds⟩, ?_⟩
    exact bind_eq_ok.mpr ⟨rest, hrest, rfl⟩

/-- The loop over the cursors. -/
theorem parseCursors_ok_iff {device : Uuid} {seen : List Uuid} {entries : List Json}
    {cursors : List EnvelopeSyncCursor} : parseCursors device seen entries = .ok cursors ↔
      List.Forall₂ CursorDenotes entries cursors ∧ (cursors.map (·.peerDeviceId)).Nodup ∧
      ∀ c ∈ cursors, c.peerDeviceId ∉ seen ∧ c.peerDeviceId ≠ 0 ∧ c.peerDeviceId ≠ device ∧
        0 ≤ c.afterSeq ∧ c.afterSeq ≤ maxBigint := by
  refine ⟨fun h => ⟨?_, (parseCursors_ok h).2⟩, ?_⟩
  · induction entries generalizing seen cursors with
    | nil =>
      obtain rfl := Except.ok.inj h
      exact .nil
    | cons entry entries ih =>
      obtain ⟨cursor, rest, rfl, hdenotes, -, -, -, -, hrest⟩ := parseCursors_cons_ok_iff.mp h
      exact .cons hdenotes (ih hrest)
  · rintro ⟨hentries, hnodup, hall⟩
    induction hentries generalizing seen with
    | nil => rfl
    | @cons entry cursor entries rest hdenotes _ ih =>
      obtain ⟨⟨hseen, hnil, hdevice, hbounds⟩, hrest⟩ := List.forall_mem_cons.mp hall
      obtain ⟨hnotin, hnodup⟩ := List.nodup_cons.mp hnodup
      refine parseCursors_cons_ok_iff.mpr ⟨cursor, rest, rfl, hdenotes, hnil, hdevice, hseen, hbounds,
        ih hnodup fun c hc => ⟨?_, (hrest c hc).2⟩⟩
      rw [List.mem_cons, not_or]
      exact ⟨fun he => hnotin (List.mem_map.mpr ⟨c, hc, he⟩), (hrest c hc).1⟩

/-- **The synchronization requests that are accepted** are those that a payload denotes. -/
theorem parseSyncEnvelope_ok_iff {request : SyncEnvelopeRequest} :
    parseSyncEnvelope payload = .ok request ↔ SyncDenotes payload request := by
  unfold parseSyncEnvelope
  constructor
  · intro h
    have hformed := (parseSyncEnvelope_ok h).1
    split_ifs at h
    obtain ⟨device, hdevice, h⟩ := bind_eq_ok.mp h
    split_ifs at h
    split at h
    · next entries hfind =>
      split_ifs at h with hlen
      obtain ⟨cursors, hcursors, h⟩ := bind_eq_ok.mp h
      obtain rfl := Except.ok.inj h
      exact ⟨requireUuid_ok_iff.mp hdevice, ⟨entries, hfind, not_lt.mp hlen,
        (parseCursors_ok_iff.mp hcursors).1⟩, hformed⟩
    · cases h
  · rintro ⟨hdevice, ⟨entries, hfind, hlen, hentries⟩, hformed⟩
    have hobject : payload.isObject = true := Json.isObject_of_find hfind
    rw [if_neg (by rw [hobject]; decide)]
    refine bind_eq_ok.mpr ⟨request.deviceId, requireUuid_ok_iff.mpr hdevice, ?_⟩
    have hcursors : parseCursors request.deviceId [] entries = .ok request.cursors :=
      parseCursors_ok_iff.mpr ⟨hentries, hformed.peers, fun c hc => ⟨by simp, hformed.cursors c hc⟩⟩
    rw [if_neg (by simpa [Uuid.isNil] using hformed.device), hfind]
    exact (if_neg (not_lt.mpr hlen)).trans (bind_eq_ok.mpr ⟨request.cursors, hcursors, rfl⟩)

/-! ### The acknowledgment parser -/

/-- One identifier, which the code wraps in an object of its own. -/
theorem requireUuid_wrapped_ok_iff {value : Json} {id : Uuid} :
    requireUuid (.object [("envelope_id", value)]) "envelope_id" = .ok id ↔
      IdDenotes value id := by
  rw [requireUuid_ok_iff]
  constructor
  · rintro ⟨text, hfind, htext⟩
    exact ⟨text, Option.some.inj hfind, htext⟩
  · rintro ⟨text, rfl, htext⟩
    exact ⟨text, rfl, htext⟩

/-- One identifier is accepted if it is not nil and was not seen before. -/
theorem parseIds_cons_ok_iff {seen : List Uuid} {value : Json} {values : List Json}
    {ids : List Uuid} : parseIds seen (value :: values) = .ok ids ↔ ∃ id rest,
      ids = id :: rest ∧ IdDenotes value id ∧ id ≠ 0 ∧ id ∉ seen ∧
      parseIds (id :: seen) values = .ok rest := by
  rw [parseIds]
  constructor
  · intro h
    obtain ⟨id, hid, h⟩ := bind_eq_ok.mp h
    split_ifs at h with hbad
    obtain ⟨rest, hrest, h⟩ := bind_eq_ok.mp h
    obtain rfl := Except.ok.inj h
    rw [not_or] at hbad
    exact ⟨id, rest, rfl, requireUuid_wrapped_ok_iff.mp hid, by simpa [Uuid.isNil] using hbad.1,
      hbad.2, hrest⟩
  · rintro ⟨id, rest, rfl, hdenotes, hnil, hseen, hrest⟩
    refine bind_eq_ok.mpr ⟨id, requireUuid_wrapped_ok_iff.mpr hdenotes, ?_⟩
    rw [if_neg (by simp [Uuid.isNil, hnil, hseen])]
    exact bind_eq_ok.mpr ⟨rest, hrest, rfl⟩

/-- The loop over the identifiers. -/
theorem parseIds_ok_iff {seen : List Uuid} {values : List Json} {ids : List Uuid} :
    parseIds seen values = .ok ids ↔
      List.Forall₂ IdDenotes values ids ∧ ids.Nodup ∧ ∀ id ∈ ids, id ∉ seen ∧ id ≠ 0 := by
  constructor
  · intro h
    induction values generalizing seen ids with
    | nil =>
      obtain rfl := Except.ok.inj h
      exact ⟨.nil, .nil, by simp⟩
    | cons value values ih =>
      obtain ⟨id, rest, rfl, hdenotes, hnil, hseen, hrest⟩ := parseIds_cons_ok_iff.mp h
      obtain ⟨hvalues, hnodup, hall⟩ := ih hrest
      refine ⟨.cons hdenotes hvalues, List.nodup_cons.mpr ⟨?_, hnodup⟩,
        List.forall_mem_cons.mpr ⟨⟨hseen, hnil⟩, ?_⟩⟩
      · exact fun hmem => (hall id hmem).1 (List.mem_cons_self ..)
      · exact fun d hd => ⟨fun hmem => (hall d hd).1 (List.mem_cons_of_mem _ hmem), (hall d hd).2⟩
  · rintro ⟨hvalues, hnodup, hall⟩
    induction hvalues generalizing seen with
    | nil => rfl
    | @cons value id values rest hdenotes _ ih =>
      obtain ⟨⟨hseen, hnil⟩, hrest⟩ := List.forall_mem_cons.mp hall
      obtain ⟨hnotin, hnodup⟩ := List.nodup_cons.mp hnodup
      refine parseIds_cons_ok_iff.mpr ⟨id, rest, rfl, hdenotes, hnil, hseen,
        ih hnodup fun d hd => ⟨?_, (hrest d hd).2⟩⟩
      rw [List.mem_cons, not_or]
      exact ⟨fun he => hnotin (he ▸ hd), (hrest d hd).1⟩

/-- **The acknowledgments that are accepted** are those that a payload denotes. -/
theorem parseAckEnvelope_ok_iff {request : AckEnvelopeRequest} :
    parseAckEnvelope payload = .ok request ↔ AckDenotes payload request := by
  unfold parseAckEnvelope
  constructor
  · intro h
    split_ifs at h
    obtain ⟨device, hdevice, h⟩ := bind_eq_ok.mp h
    split_ifs at h with hnil
    split at h
    · next values hfind =>
      split_ifs at h with hlen
      obtain ⟨ids, hids, h⟩ := bind_eq_ok.mp h
      obtain rfl := Except.ok.inj h
      obtain ⟨hvalues, hnodup, hall⟩ := parseIds_ok_iff.mp hids
      rw [not_or, not_lt] at hlen
      exact ⟨requireUuid_ok_iff.mp hdevice, by simpa [Uuid.isNil] using hnil,
        ⟨values, hfind, List.length_pos_iff.mpr hlen.1, hlen.2, hvalues⟩, hnodup,
        fun id hid => (hall id hid).2⟩
    · cases h
  · rintro ⟨hdevice, hnil, ⟨values, hfind, hpos, hlen, hvalues⟩, hnodup, hall⟩
    have hobject : payload.isObject = true := Json.isObject_of_find hfind
    rw [if_neg (by rw [hobject]; decide)]
    refine bind_eq_ok.mpr ⟨request.deviceId, requireUuid_ok_iff.mpr hdevice, ?_⟩
    have hids : parseIds [] values = .ok request.envelopeIds :=
      parseIds_ok_iff.mpr ⟨hvalues, hnodup, fun id hid => ⟨by simp, hall id hid⟩⟩
    have hlength : ¬ (values = [] ∨ 100 < values.length) :=
      not_or.mpr ⟨List.length_pos_iff.mp hpos, not_lt.mpr hlen⟩
    rw [if_neg (by simpa [Uuid.isNil] using hnil), hfind]
    exact (if_neg hlength).trans (bind_eq_ok.mpr ⟨request.envelopeIds, hids, rfl⟩)

/-! ### The replies -/

namespace WebSocketDispatcher

/-- A parser as it is called: what it throws becomes an error reply, and it returns nothing. -/
def replying {Request : Type} (responseType : String) (parsed : Except String Request) :
    Dispatcher (Option Request) :=
  match parsed with
  | .ok request => .ret (some request)
  | .error message =>
    (reply (failure responseType "invalid_request" message)).bind fun _ => .ret none

/-- `parseSyncEnvelope`, with its replies. -/
def parseSyncEnvelopeReplying (payload : Json) : Dispatcher (Option SyncEnvelopeRequest) :=
  replying "chat.sync.envelope.result" (parseSyncEnvelope payload)

/-- `parseAckEnvelope`, with its replies. -/
def parseAckEnvelopeReplying (payload : Json) : Dispatcher (Option AckEnvelopeRequest) :=
  replying "chat.envelopes.ack.result" (parseAckEnvelope payload)

/-- The program after a parser: without a request there is nothing more to do. -/
def withRequest {Request : Type} (k : Request → Dispatcher Unit) :
    Option Request → Dispatcher Unit
  | none => .ret ()
  | some request => k request

/-- After a rejection the reply is all that is done. -/
theorem reply_bind_withRequest {Request : Type} (k : Request → Dispatcher Unit) (message : Json) :
    ((reply message).bind fun _ => .ret none).bind (withRequest k) = reply message := by
  refine congrArg (Effects.Prog.call _) (funext fun answer => ?_)
  cases answer with
  | ok _ => rfl
  | error _ => rfl

/-- The route of `chat.sync.envelope` begins with the parser. -/
theorem syncEnvelope_eq (userId : Uuid) (payload : Json) : syncEnvelope userId payload =
    (parseSyncEnvelopeReplying payload).bind (withRequest fun request =>
      (((perform (.syncEnvelopePage userId request)).bind fun page =>
        .ret (pageResponse request page)).tryCatch fun error => .ret (syncFailure error)).bind
        reply) := by
  rw [syncEnvelope, parseSyncEnvelopeReplying]
  cases parseSyncEnvelope payload with
  | ok request => rfl
  | error message => exact (reply_bind_withRequest _ _).symm

/-- The route of `chat.envelopes.ack` begins with the parser. -/
theorem ackEnvelope_eq (userId : Uuid) (payload : Json) : ackEnvelope userId payload =
    (parseAckEnvelopeReplying payload).bind (withRequest fun request =>
      (((perform (.ackEnvelopes userId request)).bind fun ids =>
        .ret (ackResponse request ids)).tryCatch fun error => .ret (ackFailure error)).bind
        reply) := by
  rw [ackEnvelope, parseAckEnvelopeReplying]
  cases parseAckEnvelope payload with
  | ok request => rfl
  | error message => exact (reply_bind_withRequest _ _).symm

end WebSocketDispatcher

/-- A parser accepts the payloads that denote a request, returns that request and says nothing; for
every other payload it makes one error reply. -/
structure ParsesAs {Request : Type} (responseType : String) (Denotes : Request → Prop)
    (parser : Dispatcher (Option Request)) : Prop where
  accepts : ∀ request, parser = .ret (some request) ↔ Denotes request
  silent : ∀ request trace result, Denotes request → Runs parser trace result →
    trace = [] ∧ result = .ok (some request)
  rejects : (∀ request, ¬ Denotes request) → ∃ message, ∀ trace result, Runs parser trace result →
    ∃ answer, trace = [⟨.reply (failure responseType "invalid_request" message), answer⟩] ∧
      result = answer.map fun _ => none

theorem parsesAs_replying {Request : Type} {responseType : String} {Denotes : Request → Prop}
    {parsed : Except String Request} (h : ∀ request, parsed = .ok request ↔ Denotes request) :
    ParsesAs responseType Denotes (replying responseType parsed) where
  accepts request := by
    rw [← h]
    cases parsed with
    | ok request' =>
      constructor
      · intro he
        obtain rfl := Option.some.inj (Effects.Prog.ret.inj he)
        rfl
      · intro he
        obtain rfl := Except.ok.inj he
        rfl
    | error message => exact ⟨fun he => (by cases he), fun he => (by cases he)⟩
  silent request trace result hdenotes hruns := by
    obtain rfl := (h request).mpr hdenotes
    cases hruns
    exact ⟨rfl, rfl⟩
  rejects hnone := by
    cases parsed with
    | ok request => exact absurd ((h request).mp rfl) (hnone request)
    | error message =>
      refine ⟨message, fun trace result hruns => ?_⟩
      cases hruns with
      | call answer hruns =>
        cases answer with
        | ok answer =>
          cases hruns
          exact ⟨.ok answer, rfl, rfl⟩
        | error error =>
          cases hruns
          exact ⟨.error error, rfl, rfl⟩

/-! ### The repository's checks -/

/-- `std::invalid_argument`. -/
def Error.IsInvalidArgument (e : Error) : Prop := ∃ message, e = .invalidArgument message

/-- A list of distinct identifiers passes the repository's check. -/
theorem validIds_of_nodup {ids seen : List Uuid} (hnodup : ids.Nodup)
    (hall : ∀ id ∈ ids, id ∉ seen ∧ id ≠ 0) : validIds seen ids = true := by
  induction ids generalizing seen with
  | nil => rfl
  | cons id ids ih =>
    obtain ⟨⟨hseen, hnil⟩, hrest⟩ := List.forall_mem_cons.mp hall
    obtain ⟨hnotin, hnodup⟩ := List.nodup_cons.mp hnodup
    have htail : validIds (id :: seen) ids = true := ih hnodup fun d hd => ⟨fun hmem => ?_, (hrest d hd).2⟩
    · simp [validIds, Uuid.isNil, hnil, hseen, htail]
    · rcases List.mem_cons.mp hmem with rfl | hmem
      · exact hnotin hd
      · exact (hrest d hd).1 hmem

theorem throws_ofExcept {E : Error → Prop} {α : Type} {r : Except Error α}
    (h : ∀ e, r = .error e → E e) : Throws E (ofExcept r) := by
  cases r with
  | ok a => trivial
  | error e => exact h e rfl

theorem throws_selectActiveDevice {E : Error → Prop} (device : Uuid) :
    Throws E (selectActiveDevice user device) :=
  throws_selectLocked.bind fun _ => trivial

theorem error_of_decodePacketHex {hex : String} {e : Error} (h : decodePacketHex hex = .error e) :
    ∃ message, e = dataConversion message := by
  unfold decodePacketHex at h
  dsimp only at h
  split_ifs at h
  · exact ⟨_, (Except.error.inj h).symm⟩
  · split at h
    · cases h
    · exact ⟨_, (Except.error.inj h).symm⟩

theorem error_of_parseSeq {seq : ℤ} {e : Error} (h : parseSeq seq = .error e) :
    ∃ message, e = dataConversion message := by
  unfold parseSeq at h
  split_ifs at h
  exact ⟨_, (Except.error.inj h).symm⟩

/-- A page that cannot be filled holds a value that cannot be read back. -/
theorem error_of_fillPage {rows page : List Envelope} {estimated : ℕ} {e : Error}
    (h : fillPage rows page estimated = .error e) : ∃ message, e = dataConversion message := by
  induction rows generalizing page estimated with
  | nil => cases h
  | cons row rows ih =>
    rw [fillPage] at h
    split_ifs at h
    cases hpacket : decodePacketHex (encodeHex row.packet) with
    | error e' =>
      rw [hpacket] at h
      obtain rfl := Except.error.inj h
      exact error_of_decodePacketHex hpacket
    | ok packet =>
      rw [hpacket] at h
      change (if _ then _ else _) = _ at h
      split_ifs at h
      · cases h
      · cases hseq : parseSeq row.seq with
        | error e' =>
          rw [hseq] at h
          obtain rfl := Except.error.inj h
          exact error_of_parseSeq hseq
        | ok seq =>
          rw [hseq] at h
          exact ih h

/-- An accepted synchronization request passes the repository's checks. -/
theorem throws_syncEnvelopeRecord {request : SyncEnvelopeRequest} (huser : user ≠ 0)
    (h : WellFormed request) (hlen : request.cursors.length ≤ 1000) :
    Throws (fun e => ¬ e.IsInvalidArgument) (syncEnvelopeRecord user request) := by
  have hnil : ¬ (user.isNil ∨ request.deviceId.isNil ∨ 1000 < request.cursors.length) := by
    simp [Uuid.isNil, huser, h.device, hlen]
  rw [syncEnvelopeRecord, if_neg hnil, validCursors_of_wellFormed h, if_neg (by decide)]
  refine (throws_selectActiveDevice _).bind fun active => ?_
  split_ifs
  · trivial
  · refine fun db => (throws_ofExcept fun e he => ?_).bind fun _ => trivial
    rintro ⟨message, rfl⟩
    obtain ⟨text, htext⟩ := error_of_fillPage he
    cases htext

/-- An accepted acknowledgment passes the repository's checks. -/
theorem throws_ackEnvelopes {request : AckEnvelopeRequest} (huser : user ≠ 0)
    (hdevice : request.deviceId ≠ 0)
    (hlength : 1 ≤ request.envelopeIds.length ∧ request.envelopeIds.length ≤ 100)
    (hnodup : request.envelopeIds.Nodup) (hids : ∀ id ∈ request.envelopeIds, id ≠ 0) :
    Throws (fun e => ¬ e.IsInvalidArgument) (ackEnvelopes user request) := by
  have hempty : request.envelopeIds.isEmpty = false := by
    rw [List.isEmpty_eq_false_iff, ← List.length_pos_iff]
    exact hlength.1
  have hnil : ¬ (user.isNil ∨ request.deviceId.isNil ∨ request.envelopeIds.isEmpty ∨
      100 < request.envelopeIds.length) := by
    simp [Uuid.isNil, huser, hdevice, hempty, hlength.2]
  have hvalid : validIds [] request.envelopeIds = true :=
    validIds_of_nodup hnodup fun id hid => ⟨by simp, hids id hid⟩
  rw [ackEnvelopes, if_neg hnil, hvalid, if_neg (by decide)]
  refine fun db => (throws_selectActiveDevice _).bind fun active => ?_
  split_ifs
  · trivial
  · exact throws_updateWhere.bind fun _ => trivial

/-- **Boundary parsers and repository guards agree.** The parsers accept exactly the payloads that
denote a request, return that request and say nothing, and make one error reply for any other payload;
what they accept passes the checks of the repository. -/
theorem boundaries_agree (huser : user ≠ 0) (payload : Json) :
    ParsesAs "chat.sync.envelope.result" (SyncDenotes payload) (parseSyncEnvelopeReplying payload) ∧
    ParsesAs "chat.envelopes.ack.result" (AckDenotes payload) (parseAckEnvelopeReplying payload) ∧
    (∀ request, parseSyncEnvelope payload = .ok request →
      Throws (fun e => ¬ e.IsInvalidArgument) (syncEnvelopeRecord user request)) ∧
    ∀ request, parseAckEnvelope payload = .ok request →
      Throws (fun e => ¬ e.IsInvalidArgument) (ackEnvelopes user request) := by
  refine ⟨parsesAs_replying fun _ => parseSyncEnvelope_ok_iff,
    parsesAs_replying fun _ => parseAckEnvelope_ok_iff, fun request h => ?_, fun request h => ?_⟩
  · exact throws_syncEnvelopeRecord huser (parseSyncEnvelope_ok h).1 (parseSyncEnvelope_ok h).2
  · have hdenotes := parseAckEnvelope_ok_iff.mp h
    obtain ⟨entries, -, hpos, hlen, hentries⟩ := hdenotes.entries
    rw [hentries.length_eq] at hpos hlen
    exact throws_ackEnvelopes huser hdenotes.deviceNonNil ⟨hpos, hlen⟩ hdenotes.ids
      hdenotes.idsNonNil

/-- The agreement for an acknowledgment of one envelope. -/
theorem boundaries_agree_one :
    (5 : Uuid) ≠ 0 ∧ ∃ request, parseAckEnvelope (.object
      [("device_id", .string (7 : Uuid).toString),
        ("envelope_ids", .array [.string (9 : Uuid).toString])]) = .ok request ∧
      Throws (fun e => ¬ e.IsInvalidArgument) (ackEnvelopes 5 request) := by
  have hparse : parseAckEnvelope (.object [("device_id", .string (7 : Uuid).toString),
      ("envelope_ids", .array [.string (9 : Uuid).toString])]) = .ok ⟨7, [9]⟩ := by
    refine parseAckEnvelope_ok_iff.mpr ⟨⟨_, rfl, isUuidText_toString 7⟩, by decide,
      ⟨_, rfl, by decide, by decide, .cons ⟨_, rfl, isUuidText_toString 9⟩ .nil⟩, by simp,
      List.forall_mem_singleton.mpr (by decide)⟩
  exact ⟨by decide, ⟨7, [9]⟩, hparse, (boundaries_agree (by decide) _).2.2.2 _ hparse⟩

end ChatBackend
