import ChatBackend.Websocket.Frame
import ChatBackend.Websocket.Json

/-!
# Application messages

`WebSocketSession::ApplicationParse` turns a complete frame into the JSON value that the dispatcher
gets. That value always has the same four fields; only the payload comes from the peer, and it is
one of three things. A text that is not JSON is kept as it is, whatever its bytes: it is the one
place where a string of a JSON value need not be valid UTF-8.

## Main definitions

* `applicationParse`
* `ApplicationMessage.dump` — whether the message can be serialised
-/

namespace ChatBackend

/-- nlohmann's parser: `parse text` is `json::parse(text, nullptr, false)`, and `none` if that is
discarded. -/
structure JsonParser where
  parse : Bytes → Option Json

/-- The `payload` of an application message. -/
inductive ApplicationPayload where
  | json (value : Json)
  | text (text : Bytes)
  | bytes (bytes : Bytes)

/-- What `ApplicationParse` returns. -/
structure ApplicationMessage where
  fin : Bool
  opcode : UInt8
  opcodeName : String
  payloadLength : ℕ
  payloadFormat : String
  payload : ApplicationPayload

/-- `opcodeName`. -/
def Opcode.name : Opcode → String
  | continuation => "continuation"
  | text => "text"
  | binary => "binary"
  | close => "close"
  | ping => "ping"
  | pong => "pong"

/-- `WebSocketSession::ApplicationParse`. -/
def applicationParse (parser : JsonParser) (frame : Frame) : ApplicationMessage :=
  let message (format : String) (payload : ApplicationPayload) : ApplicationMessage :=
    { fin := frame.fin
      opcode := frame.opcode.value
      opcodeName := frame.opcode.name
      payloadLength := frame.payload.length
      payloadFormat := format
      payload := payload }
  if frame.opcode = .text then
    match parser.parse frame.payload with
    | none => message "text" (.text frame.payload)
    | some parsed => message "json" (.json parsed)
  else message "bytes" (.bytes frame.payload)

/-- The bytes are valid UTF-8. -/
def validUtf8 (text : Bytes) : Bool := (ByteArray.mk text.toArray).validateUTF8

/-- Whether `dump` returns: it throws on a string that is not valid UTF-8. -/
def ApplicationMessage.dump (message : ApplicationMessage) : Bool :=
  match message.payload with
  | .text text => validUtf8 text
  | _ => true

/-- **A message cannot be dumped** exactly if it is a text that is neither JSON nor UTF-8. -/
theorem dump_applicationParse (parser : JsonParser) (frame : Frame) :
    (applicationParse parser frame).dump = false ↔
      frame.opcode = .text ∧ parser.parse frame.payload = none ∧ validUtf8 frame.payload = false := by
  rw [applicationParse]
  split
  · next htext =>
    split
    · next hparse => simp [ApplicationMessage.dump, htext, hparse]
    · next hparse => simp [ApplicationMessage.dump, hparse]
  · next htext => simp [ApplicationMessage.dump, htext]

end ChatBackend
