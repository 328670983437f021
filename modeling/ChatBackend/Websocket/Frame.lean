import ChatBackend.Domain
import ChatBackend.Streaming
import ChatBackend.BigEndian

/-!
# WebSocket frames

`WebSocketSession::FrameEncoder` and `WebSocketSession::FrameParse`. The parser's loop is split at
its turn: `parseFront` reads the frame at the front of a buffer, `frameParse` goes on from frame to
frame.

## Main definitions

* `Opcode`, `Frame`, `frameEncoder`
* `parseFront`, `frameParse`
* `mask` — the form in which a client sends what the server's encoder produces
* `Frame.Acceptable` — the frames that fit the protocol's limits

## Main results

* `frame_codec` — a frame is parsed exactly from its own client form
* `parseFront_eq_ok_iff` — the same of the frame at the front of a buffer
* `framing` — the parser is a framing: its verdicts do not depend on what comes later
* `frameParse_eq` — the loop reads the items of that framing
-/

namespace ChatBackend

open Streaming BigEndian

/-! ### Frames and their encoding -/

/-- `Opcode`. -/
inductive Opcode where
  | continuation
  | text
  | binary
  | close
  | ping
  | pong
  deriving DecidableEq, Repr

namespace Opcode

/-- The value of the enumerator. -/
def value : Opcode → UInt8
  | continuation => 0x0
  | text => 0x1
  | binary => 0x2
  | close => 0x8
  | ping => 0x9
  | pong => 0xA

/-- The opcode of a value, where it is one that the parser knows. -/
def ofValue (opcodeValue : UInt8) : Option Opcode :=
  match opcodeValue.toNat with
  | 0x0 => some continuation
  | 0x1 => some text
  | 0x2 => some binary
  | 0x8 => some close
  | 0x9 => some ping
  | 0xA => some pong
  | _ => none

/-- `controlFrame`. -/
def isControl (opcode : Opcode) : Bool := 0x8 ≤ opcode.value

end Opcode

/-- `Frame`; the payload is unmasked. -/
structure Frame where
  fin : Bool
  opcode : Opcode
  payload : Bytes
  deriving DecidableEq, Repr

/-- `MaxPayloadSize`. -/
def maxPayloadSize : ℕ := 1024 * 1024

/-- `MaskSize`. -/
def maskSize : ℕ := 4

/-- The limits that the parser enforces: a payload of at most 1 MiB; a control frame is whole and
short; a Close frame has no payload of one byte. -/
structure Frame.Acceptable (frame : Frame) : Prop where
  size_le : frame.payload.length ≤ maxPayloadSize
  control : frame.opcode.isControl → frame.fin = true ∧ frame.payload.length ≤ 125
  close : frame.opcode = .close → frame.payload.length ≠ 1

/-- The byte at an index; every use is within the buffer. -/
def byteAt (bytes : Bytes) (index : ℕ) : UInt8 := bytes.getD index 0

/-- The first byte of a frame. -/
def firstByte (fin : Bool) (opcode : Opcode) : UInt8 :=
  (if fin then 0x80 else 0x00) ||| opcode.value

/-- The seven bits of the second byte that give the length, or say where it is. -/
def lengthCode (payloadSize : ℕ) : UInt8 :=
  if payloadSize ≤ 125 then UInt8.ofNat payloadSize
  else if payloadSize ≤ 65535 then 126
  else 127

/-- The bytes of the length after the second byte. -/
def lengthExtension (payloadSize : ℕ) : Bytes :=
  if payloadSize ≤ 125 then []
  else if payloadSize ≤ 65535 then beBytes 2 payloadSize
  else beBytes 8 payloadSize

/-- `WebSocketSession::FrameEncoder`. -/
def frameEncoder (frame : Frame) : Bytes :=
  firstByte frame.fin frame.opcode :: lengthCode frame.payload.length ::
    (lengthExtension frame.payload.length ++ frame.payload)

/-- The key with which a client masks a frame. -/
abbrev MaskKey := Fin 4 → UInt8

/-- The payload with the key over it, again and again. -/
def xorKey (key : MaskKey) (payload : Bytes) : Bytes :=
  payload.mapIdx fun index byte => byte ^^^ key (Fin.ofNat 4 index)

/-- How many bytes the header takes, without a masking key. -/
def headerSize (encoding : Bytes) : ℕ :=
  match (byteAt encoding 1 &&& 0x7F).toNat with
  | 126 => 4
  | 127 => 10
  | _ => 2

/-- **The client form** of an unmasked encoding: the mask bit is set, the key stands after the
length, and the payload is masked with it. -/
def mask (encoding : Bytes) (key : MaskKey) : Bytes :=
  byteAt encoding 0 :: (byteAt encoding 1 ||| 0x80) ::
    ((encoding.take (headerSize encoding)).drop 2 ++ List.ofFn key ++
      xorKey key (encoding.drop (headerSize encoding)))

/-- The key that the client form of a frame contains. -/
def keyIn (bytes : Bytes) : MaskKey := fun index => byteAt bytes (headerSize bytes + index)

/-! ### The parser -/

/-- The size of the header before the masking key and the size of the payload. -/
def payloadHeader (sub_buffer : Bytes) : Except Stop (ℕ × ℕ) :=
  let payloadSize := (byteAt sub_buffer 1 &&& 0x7F).toNat
  if payloadSize = 126 then
    if sub_buffer.length < 4 then .error .needMore
    else
      let payloadSize := beNat ((sub_buffer.drop 2).take 2)
      if payloadSize < 126 then .error .malformed else .ok (4, payloadSize)
  else if payloadSize = 127 then
    if sub_buffer.length < 10 then .error .needMore
    else if byteAt sub_buffer 2 &&& 0x80 ≠ 0 then .error .malformed
    else
      let payloadSize := beNat ((sub_buffer.drop 2).take 8)
      if payloadSize ≤ 65535 then .error .malformed else .ok (10, payloadSize)
  else .ok (2, payloadSize)

/-- The checks that `FrameParse` makes before it looks for the masking key: the opcode, the size of
the header before the key, and the size of the payload. -/
def frameHeader (sub_buffer : Bytes) : Except Stop (Opcode × ℕ × ℕ) :=
  if sub_buffer.length < 2 then .error .needMore
  else if byteAt sub_buffer 0 &&& 0x70 ≠ 0 ∨ byteAt sub_buffer 1 &&& 0x80 = 0 then
    .error .malformed
  else
    match Opcode.ofValue (byteAt sub_buffer 0 &&& 0x0F) with
    | none => .error .malformed
    | some opcode =>
      match payloadHeader sub_buffer with
      | .error stop => .error stop
      | .ok (headerSize, payloadSize) =>
        if (opcode.isControl ∧ (byteAt sub_buffer 0 &&& 0x80 = 0 ∨ payloadSize > 125)) ∨
            (opcode = .close ∧ payloadSize = 1) ∨ payloadSize > maxPayloadSize then
          .error .malformed
        else .ok (opcode, headerSize, payloadSize)

/-- One turn of the loop of `FrameParse`: the frame at the front of the buffer, and its size. -/
def parseFront (sub_buffer : Bytes) : Except Stop (Frame × ℕ) :=
  match frameHeader sub_buffer with
  | .error stop => .error stop
  | .ok (opcode, headerSize, payloadSize) =>
    if sub_buffer.length < headerSize + maskSize then .error .needMore
    else if sub_buffer.length < headerSize + maskSize + payloadSize then .error .needMore
    else
      .ok
        ({ fin := byteAt sub_buffer 0 &&& 0x80 ≠ 0
           opcode := opcode
           payload := ((sub_buffer.drop (headerSize + maskSize)).take payloadSize).mapIdx
            fun i encodedByte => encodedByte ^^^ byteAt sub_buffer (headerSize + i % maskSize) },
          headerSize + maskSize + payloadSize)

/-- `FrameParseStatus`. -/
inductive FrameParseStatus where
  | success
  | error
  | needMoreData
  deriving DecidableEq, Repr

/-- `FrameParseResult`. -/
@[ext]
structure FrameParseResult where
  status : FrameParseStatus
  consumed : ℕ
  frames : List Frame
  deriving DecidableEq, Repr

/-! ### What is read off the front -/

/-- A statement about all bytes is checked byte by byte. -/
instance decidableForallByte {P : UInt8 → Prop} [DecidablePred P] : Decidable (∀ byte, P byte) :=
  decidable_of_iff (∀ n : Fin 256, P (UInt8.ofFin n)) ⟨fun h byte => h byte.toFin, fun h _ => h _⟩

theorem firstByte_reserved (fin : Bool) (opcode : Opcode) : firstByte fin opcode &&& 0x70 = 0 := by
  cases fin <;> cases opcode <;> decide

theorem firstByte_opcode (fin : Bool) (opcode : Opcode) :
    Opcode.ofValue (firstByte fin opcode &&& 0x0F) = some opcode := by
  cases fin <;> cases opcode <;> decide

theorem firstByte_fin (fin : Bool) (opcode : Opcode) :
    (firstByte fin opcode &&& 0x80 = 0) ↔ fin = false := by
  cases fin <;> cases opcode <;> decide

/-- The first byte holds nothing but what is read off it. -/
theorem eq_firstByte {first : UInt8} {opcode : Opcode}
    (hopcode : Opcode.ofValue (first &&& 0x0F) = some opcode) (hreserved : first &&& 0x70 = 0) :
    first = firstByte (first &&& 0x80 ≠ 0) opcode := by
  cases opcode <;> revert first <;> decide +kernel

theorem second_of_masked {second : UInt8} (h : second &&& 0x80 ≠ 0) :
    second = UInt8.ofNat (second &&& 0x7F).toNat ||| 0x80 := by
  revert second
  decide +kernel

theorem lengthCode_le (payloadSize : ℕ) : (lengthCode payloadSize).toNat ≤ 127 := by
  unfold lengthCode
  split
  · next h =>
    rw [UInt8.toNat_ofNat']
    omega
  · split <;> decide

theorem masked_and {code : UInt8} (h : code.toNat ≤ 127) :
    (code ||| 0x80) &&& 0x80 ≠ 0 ∧ (code ||| 0x80) &&& 0x7F = code := by
  revert code
  decide +kernel

theorem and_of_le {code : UInt8} (h : code.toNat ≤ 127) : code &&& 0x7F = code := by
  revert code
  decide +kernel

theorem and_top_bit (byte : UInt8) : byte &&& 0x80 = 0 ↔ byte.toNat < 128 := by
  revert byte
  decide +kernel

/-! ### The length field -/

@[simp] theorem byteAt_zero {byte : UInt8} {bytes : Bytes} : byteAt (byte :: bytes) 0 = byte := rfl

@[simp] theorem byteAt_succ {byte : UInt8} {bytes : Bytes} {index : ℕ} :
    byteAt (byte :: bytes) (index + 1) = byteAt bytes index := rfl

theorem byteAt_append_right (bytes more : Bytes) (index : ℕ) :
    byteAt (bytes ++ more) (bytes.length + index) = byteAt more index := by
  rw [byteAt, byteAt, List.getD_append_right _ _ _ _ (Nat.le_add_right _ _), Nat.add_sub_cancel_left]

theorem length_lengthExtension (payloadSize : ℕ) :
    2 + (lengthExtension payloadSize).length =
      match (lengthCode payloadSize).toNat with
      | 126 => 4
      | 127 => 10
      | _ => 2 := by
  unfold lengthExtension lengthCode
  split
  · next h =>
    have hcode : (UInt8.ofNat payloadSize).toNat = payloadSize := by
      rw [UInt8.toNat_ofNat']
      omega
    rw [hcode]
    split <;> simp <;> omega
  · split <;> simp

/-- The length that the encoder wrote is read back. -/
theorem payloadHeader_encoded (first : UInt8) {payloadSize : ℕ} (hsize : payloadSize < 2 ^ 63)
    (tail : Bytes) :
    payloadHeader
        (first :: (lengthCode payloadSize ||| 0x80) :: (lengthExtension payloadSize ++ tail)) =
      .ok (2 + (lengthExtension payloadSize).length, payloadSize) := by
  have hcode := (masked_and (lengthCode_le payloadSize)).2
  rw [payloadHeader, byteAt_succ, byteAt_zero, hcode]
  rcases Nat.lt_or_ge 125 payloadSize with hlong | hshort
  · rcases Nat.lt_or_ge 65535 payloadSize with hlonger | hmiddle
    · have htop : byteAt (beBytes 8 payloadSize) 0 &&& 0x80 = 0 := by
        rw [and_top_bit, beBytes, byteAt_zero, toNat_byteAt]
        omega
      have hread : beNat (beBytes 8 payloadSize) = payloadSize := by
        rw [beNat_beBytes, Nat.mod_eq_of_lt (by omega)]
      have hext : lengthExtension payloadSize = beBytes 8 payloadSize := by
        rw [lengthExtension, if_neg (by omega), if_neg (by omega)]
      have hlc : lengthCode payloadSize = 127 := by
        rw [lengthCode, if_neg (by omega), if_neg (by omega)]
      have htop' : byteAt (beBytes 8 payloadSize ++ tail) 0 &&& 0x80 = 0 := htop
      have hfits : ¬ 8 + tail.length + 1 + 1 < 10 := by omega
      have hge : ¬ payloadSize ≤ 65535 := by omega
      rw [hlc, hext]
      simp [List.take_left', htop', hread, hfits, hge]
    · have hread : beNat (beBytes 2 payloadSize) = payloadSize := by
        rw [beNat_beBytes, Nat.mod_eq_of_lt (by omega)]
      have hext : lengthExtension payloadSize = beBytes 2 payloadSize := by
        rw [lengthExtension, if_neg (by omega), if_pos hmiddle]
      have hlc : lengthCode payloadSize = 126 := by
        rw [lengthCode, if_neg (by omega), if_pos hmiddle]
      rw [hlc, hext]
      have hge : ¬ payloadSize < 126 := by omega
      simp [List.take_left', hread, hge]
  · have hext : lengthExtension payloadSize = [] := by rw [lengthExtension, if_pos hshort]
    have hlc : (lengthCode payloadSize).toNat = payloadSize := by
      rw [lengthCode, if_pos hshort, UInt8.toNat_ofNat']
      omega
    have h126 : payloadSize ≠ 126 := by omega
    have h127 : payloadSize ≠ 127 := by omega
    simp [hlc, hext, h126, h127]

/-- Only the shortest form of a length is read. -/
theorem eq_of_payloadHeader {first second : UInt8} {tail : Bytes} {headerSize payloadSize : ℕ}
    (hmasked : second &&& 0x80 ≠ 0)
    (h : payloadHeader (first :: second :: tail) = .ok (headerSize, payloadSize)) :
    payloadSize < 2 ^ 63 ∧ headerSize = 2 + (lengthExtension payloadSize).length ∧
      second = lengthCode payloadSize ||| 0x80 ∧
      ∃ rest, tail = lengthExtension payloadSize ++ rest := by
  have hsecond := second_of_masked hmasked
  simp only [payloadHeader, byteAt_succ, byteAt_zero, List.drop_succ_cons, List.drop_zero,
    List.length_cons] at h
  split at h
  · next hcode =>
    split at h
    · cases h
    · next hlength =>
      split at h
      · cases h
      · next hge =>
        obtain ⟨rfl, rfl⟩ : 4 = headerSize ∧ beNat (tail.take 2) = payloadSize := by simpa using h
        have htake : (tail.take 2).length = 2 := by
          rw [List.length_take]
          omega
        have hlt := beNat_lt (tail.take 2)
        have hwrite := beBytes_beNat (tail.take 2)
        rw [htake] at hlt hwrite
        have hext : lengthExtension (beNat (tail.take 2)) = tail.take 2 := by
          rw [lengthExtension, if_neg (by omega), if_pos (by omega), hwrite]
        have hlc : lengthCode (beNat (tail.take 2)) = 126 := by
          rw [lengthCode, if_neg (by omega), if_pos (by omega)]
        refine ⟨by omega, by rw [hext, htake], ?_, tail.drop 2, ?_⟩
        · rw [hsecond, hcode, hlc]
          rfl
        · rw [hext, List.take_append_drop]
  · split at h
    · next hcode =>
      split at h
      · cases h
      · next hlength =>
        split at h
        · cases h
        · next htop =>
          split at h
          · cases h
          · next hge =>
            obtain ⟨rfl, rfl⟩ : 10 = headerSize ∧ beNat (tail.take 8) = payloadSize := by
              simpa using h
            obtain _ | ⟨top, tail⟩ := tail
            · simp at hlength
            have htake : (tail.take 7).length = 7 := by
              rw [List.length_take]
              simp only [List.length_cons] at hlength
              omega
            have hlow := beNat_lt (tail.take 7)
            have hwrite := beBytes_beNat (top :: tail.take 7)
            have hvalue : beNat (top :: tail.take 7) =
                top.toNat * 256 ^ 7 + beNat (tail.take 7) := by
              rw [beNat_cons, htake]
            have htop' : top.toNat < 128 := by
              rw [← and_top_bit]
              simpa using htop
            rw [htake] at hlow
            rw [List.length_cons, htake] at hwrite
            rw [List.take_succ_cons] at hge ⊢
            have hext : lengthExtension (beNat (top :: tail.take 7)) = top :: tail.take 7 := by
              rw [lengthExtension, if_neg (by omega), if_neg (by omega), hwrite]
            have hlc : lengthCode (beNat (top :: tail.take 7)) = 127 := by
              rw [lengthCode, if_neg (by omega), if_neg (by omega)]
            refine ⟨by omega, by rw [hext, List.length_cons, htake], ?_, tail.drop 7, ?_⟩
            · rw [hsecond, hcode, hlc]
              rfl
            · rw [hext, List.cons_append, List.take_append_drop]
    · next h126 h127 =>
      obtain ⟨rfl, rfl⟩ : 2 = headerSize ∧ (second &&& 0x7F).toNat = payloadSize := by simpa using h
      have hle : (second &&& 0x7F).toNat ≤ 127 := by
        have hand := UInt8.toNat_and second 0x7F
        rw [hand]
        exact Nat.and_le_right
      have hext : lengthExtension (second &&& 0x7F).toNat = [] := by
        rw [lengthExtension, if_pos (by omega)]
      refine ⟨by omega, by rw [hext]; rfl, ?_, tail, by rw [hext, List.nil_append]⟩
      rw [lengthCode, if_pos (by omega)]
      exact hsecond

/-! ### The two directions -/

@[simp] theorem length_xorKey (key : MaskKey) (payload : Bytes) :
    (xorKey key payload).length = payload.length := by
  rw [xorKey, List.length_mapIdx]

/-- Masking twice with one key gives the payload back. -/
@[simp] theorem xorKey_xorKey (key : MaskKey) (payload : Bytes) :
    xorKey key (xorKey key payload) = payload := by
  refine List.ext_getElem (by simp) fun index _ _ => ?_
  simp only [xorKey, List.getElem_mapIdx, UInt8.xor_assoc, UInt8.xor_self, UInt8.xor_zero]

theorem headerSize_frameEncoder (frame : Frame) :
    headerSize (frameEncoder frame) = 2 + (lengthExtension frame.payload.length).length := by
  have hcode : byteAt (frameEncoder frame) 1 &&& 0x7F = lengthCode frame.payload.length :=
    and_of_le (lengthCode_le _)
  rw [headerSize, hcode, length_lengthExtension]

@[simp] theorem length_frameEncoder (frame : Frame) :
    (frameEncoder frame).length =
      2 + (lengthExtension frame.payload.length).length + frame.payload.length := by
  simp only [frameEncoder, List.length_cons, List.length_append]
  omega

/-- The client form of an encoded frame, part by part. -/
theorem mask_frameEncoder (frame : Frame) (key : MaskKey) :
    mask (frameEncoder frame) key =
      firstByte frame.fin frame.opcode :: (lengthCode frame.payload.length ||| 0x80) ::
        (lengthExtension frame.payload.length ++ (List.ofFn key ++ xorKey key frame.payload)) := by
  have hsize : 2 + (lengthExtension frame.payload.length).length =
      (lengthExtension frame.payload.length).length + 1 + 1 := by omega
  rw [mask, headerSize_frameEncoder, hsize, frameEncoder]
  simp [List.append_assoc]

theorem length_mask_frameEncoder (frame : Frame) (key : MaskKey) :
    (mask (frameEncoder frame) key).length = (frameEncoder frame).length + maskSize := by
  rw [mask_frameEncoder, length_frameEncoder]
  simp only [List.length_cons, List.length_append, List.length_ofFn, length_xorKey, maskSize]
  omega

/-- What the parser checks about the header is what an acceptable frame satisfies. -/
theorem acceptable_iff (frame : Frame) :
    frame.Acceptable ↔
      ¬ ((frame.opcode.isControl ∧ (frame.fin = false ∨ frame.payload.length > 125)) ∨
        (frame.opcode = .close ∧ frame.payload.length = 1) ∨
        frame.payload.length > maxPayloadSize) := by
  constructor
  · rintro ⟨hsize, hcontrol, hclose⟩ (⟨hop, hfin | hlong⟩ | ⟨hop, hone⟩ | hlong)
    · rw [(hcontrol hop).1] at hfin
      cases hfin
    · exact absurd (hcontrol hop).2 (not_le.2 hlong)
    · exact hclose hop hone
    · exact absurd hsize (not_le.2 hlong)
  · intro h
    simp only [not_or, not_and, not_lt, Bool.not_eq_false] at h
    exact ⟨h.2.2, fun hop => h.1 hop, h.2.1⟩

/-- The bytes of the key, and of the payload, in a buffer that begins with a frame. -/
theorem byteAt_key (first second : UInt8) (extension : Bytes) (key : MaskKey) (tail : Bytes)
    (index : ℕ) :
    byteAt (first :: second :: (extension ++ (List.ofFn key ++ tail)))
      (2 + extension.length + index % maskSize) = key (Fin.ofNat 4 index) := by
  have hindex : index % 4 < (List.ofFn key).length := by
    rw [List.length_ofFn]
    exact Nat.mod_lt _ (by decide)
  have hplace : 2 + extension.length + index % 4 = extension.length + index % 4 + 1 + 1 := by omega
  rw [maskSize, hplace, byteAt_succ, byteAt_succ, byteAt_append_right, byteAt,
    List.getD_append _ _ _ _ hindex, List.getD_eq_getElem _ _ hindex, List.getElem_ofFn]
  rfl

theorem drop_header (first second : UInt8) (extension : Bytes) (key : MaskKey) (tail : Bytes) :
    (first :: second :: (extension ++ (List.ofFn key ++ tail))).drop
      (2 + extension.length + maskSize) = tail := by
  have hplace : 2 + extension.length + 4 = extension.length + 4 + 1 + 1 := by omega
  rw [maskSize, hplace, List.drop_succ_cons, List.drop_succ_cons, ← List.append_assoc,
    List.drop_left']
  rw [List.length_append, List.length_ofFn]

/-- The header of an acceptable frame passes every check. -/
theorem frameHeader_encoded {frame : Frame} (hframe : frame.Acceptable) (tail : Bytes) :
    frameHeader (firstByte frame.fin frame.opcode :: (lengthCode frame.payload.length ||| 0x80) ::
        (lengthExtension frame.payload.length ++ tail)) =
      .ok (frame.opcode, 2 + (lengthExtension frame.payload.length).length,
        frame.payload.length) := by
  have hsize : frame.payload.length < 2 ^ 63 :=
    lt_of_le_of_lt hframe.size_le (by decide : maxPayloadSize < 2 ^ 63)
  have hmasked := (masked_and (lengthCode_le frame.payload.length)).1
  have hlimits := (acceptable_iff frame).1 hframe
  rw [← firstByte_fin frame.fin frame.opcode] at hlimits
  have hshort : ¬ (firstByte frame.fin frame.opcode :: (lengthCode frame.payload.length ||| 0x80) ::
      (lengthExtension frame.payload.length ++ tail)).length < 2 := by
    simp only [List.length_cons]
    omega
  rw [frameHeader, if_neg hshort]
  simp only [byteAt_zero, byteAt_succ, firstByte_reserved, firstByte_opcode,
    payloadHeader_encoded _ hsize, hmasked, ne_eq, not_true_eq_false, or_self, if_false]
  exact if_neg hlimits

/-- A header that passes every check, read back. -/
theorem eq_of_frameHeader {buffer : Bytes} {opcode : Opcode} {headerSize payloadSize : ℕ}
    (h : frameHeader buffer = .ok (opcode, headerSize, payloadSize)) :
    ∃ fin rest, buffer = firstByte fin opcode :: (lengthCode payloadSize ||| 0x80) ::
        (lengthExtension payloadSize ++ rest) ∧
      headerSize = 2 + (lengthExtension payloadSize).length ∧
      ∀ payload : Bytes, payload.length = payloadSize → (Frame.mk fin opcode payload).Acceptable := by
  rw [frameHeader] at h
  split at h
  · cases h
  · next hlength =>
    split at h
    · cases h
    · next hbits =>
      split at h
      · cases h
      · next found hopcode =>
        split at h
        · cases h
        · next size count hheader =>
          split at h
          · cases h
          · next hlimits =>
            cases h
            obtain _ | ⟨first, _ | ⟨second, tail⟩⟩ := buffer
            · simp at hlength
            · simp at hlength
            · simp only [byteAt_zero, byteAt_succ] at hbits hopcode hlimits
              obtain ⟨hreserved, hmasked⟩ : first &&& 0x70 = 0 ∧ second &&& 0x80 ≠ 0 := by
                simpa using hbits
              obtain ⟨-, hsize, hsecond, rest, rfl⟩ := eq_of_payloadHeader hmasked hheader
              have hfirst := eq_firstByte hopcode hreserved
              refine ⟨first &&& 0x80 ≠ 0, rest, by rw [← hfirst, hsecond], hsize, ?_⟩
              rintro payload rfl
              rw [acceptable_iff]
              simpa using hlimits

/-- A frame within the limits is read off its client form, whatever follows. -/
theorem parseFront_mask {frame : Frame} (hframe : frame.Acceptable) (key : MaskKey) (rest : Bytes) :
    parseFront (mask (frameEncoder frame) key ++ rest) =
      .ok (frame, (frameEncoder frame).length + maskSize) := by
  have hlength : (mask (frameEncoder frame) key ++ rest).length =
      2 + (lengthExtension frame.payload.length).length + maskSize + frame.payload.length +
        rest.length := by
    rw [List.length_append, length_mask_frameEncoder, length_frameEncoder]
    omega
  have hbuffer : mask (frameEncoder frame) key ++ rest =
      firstByte frame.fin frame.opcode :: (lengthCode frame.payload.length ||| 0x80) ::
        (lengthExtension frame.payload.length ++
          (List.ofFn key ++ (xorKey key frame.payload ++ rest))) := by
    rw [mask_frameEncoder]
    simp only [List.cons_append, List.append_assoc]
  have hpayload : (xorKey key frame.payload ++ rest).take frame.payload.length =
      xorKey key frame.payload := List.take_left' (length_xorKey key _)
  have hfin : decide (firstByte frame.fin frame.opcode &&& 0x80 ≠ 0) = frame.fin := by
    simp [firstByte_fin]
  have hunmask : (xorKey key frame.payload).mapIdx
      (fun i encodedByte => encodedByte ^^^ key (Fin.ofNat 4 i)) = frame.payload :=
    xorKey_xorKey key frame.payload
  rw [parseFront, hbuffer, frameHeader_encoded hframe, ← hbuffer]
  simp only
  rw [if_neg (by omega), if_neg (by omega), hbuffer, drop_header, hpayload, byteAt_zero, hfin]
  simp only [byteAt_key, hunmask]
  rw [length_frameEncoder, Nat.add_right_comm]

/-- Four bytes at the front are a key. -/
theorem exists_key (body : Bytes) (h : maskSize ≤ body.length) :
    ∃ (key : MaskKey) (rest : Bytes), body = List.ofFn key ++ rest := by
  have htake : (body.take 4).length = 4 := by
    rw [List.length_take]
    exact min_eq_left h
  refine ⟨fun i => (body.take 4).get (i.cast htake.symm), body.drop 4, ?_⟩
  have hget : List.ofFn (fun i : Fin 4 => (body.take 4).get (i.cast htake.symm)) = body.take 4 := by
    refine List.ext_getElem (by rw [List.length_ofFn, htake]) fun index _ _ => ?_
    rw [List.getElem_ofFn]
    rfl
  rw [hget, List.take_append_drop]

/-- **Only the client form of a frame within the limits is read as that frame.** -/
theorem eq_mask_of_parseFront {buffer : Bytes} {frame : Frame} {size : ℕ}
    (h : parseFront buffer = .ok (frame, size)) :
    frame.Acceptable ∧ size = (frameEncoder frame).length + maskSize ∧
      ∃ key rest, buffer = mask (frameEncoder frame) key ++ rest := by
  rw [parseFront] at h
  split at h
  · cases h
  · next opcode headerSize payloadSize hheader =>
    obtain ⟨fin, body, rfl, rfl, hacceptable⟩ := eq_of_frameHeader hheader
    split at h
    · cases h
    · split at h
      · cases h
      · next hkey hfits =>
        simp only [List.length_cons, List.length_append] at hkey hfits
        obtain ⟨key, tail, rfl⟩ := exists_key body (by omega)
        rw [List.length_append, List.length_ofFn, maskSize] at hfits
        have htake : (tail.take payloadSize).length = payloadSize := by
          rw [List.length_take]
          omega
        have hfin : decide (firstByte fin opcode &&& 0x80 ≠ 0) = fin := by simp [firstByte_fin]
        have hunmask : (tail.take payloadSize).mapIdx
            (fun i encodedByte => encodedByte ^^^ key (Fin.ofNat 4 i)) =
              xorKey key (tail.take payloadSize) := rfl
        rw [drop_header, byteAt_zero, hfin] at h
        simp only [byteAt_key, hunmask] at h
        obtain ⟨rfl, rfl⟩ := Prod.mk.inj (Except.ok.inj h)
        have hlength : (xorKey key (tail.take payloadSize)).length = payloadSize := by
          rw [length_xorKey, htake]
        refine ⟨hacceptable _ hlength, ?_, key, tail.drop payloadSize, ?_⟩
        · rw [length_frameEncoder, hlength, Nat.add_right_comm]
        · rw [mask_frameEncoder]
          simp only [hlength, xorKey_xorKey, List.cons_append, List.append_assoc,
            List.take_append_drop]

/-- **A frame is read exactly off its own client form**: each frame within the limits has, for each
key, one encoding, and nothing else is read as that frame. -/
theorem parseFront_eq_ok_iff {buffer : Bytes} {frame : Frame} {size : ℕ} :
    parseFront buffer = .ok (frame, size) ↔
      frame.Acceptable ∧ size = (frameEncoder frame).length + maskSize ∧
        ∃ key rest, buffer = mask (frameEncoder frame) key ++ rest := by
  constructor
  · exact eq_mask_of_parseFront
  · rintro ⟨hframe, rfl, key, rest, rfl⟩
    exact parseFront_mask hframe key rest

/-! ### Frames come one after the other -/

theorem byteAt_append_left {bytes : Bytes} {index : ℕ} (h : index < bytes.length) (more : Bytes) :
    byteAt (bytes ++ more) index = byteAt bytes index :=
  List.getD_append _ _ _ _ h

/-- The length is settled by the bytes that say it. -/
theorem payloadHeader_append {buffer : Bytes} (hlength : 2 ≤ buffer.length)
    (h : payloadHeader buffer ≠ .error .needMore) (more : Bytes) :
    payloadHeader (buffer ++ more) = payloadHeader buffer := by
  have hmore : (buffer ++ more).length = buffer.length + more.length := List.length_append
  have hdrop : (buffer ++ more).drop 2 = buffer.drop 2 ++ more :=
    List.drop_append_of_le_length hlength
  simp only [payloadHeader] at h ⊢
  rw [byteAt_append_left (by omega), hdrop]
  split
  · next h126 =>
    rw [if_pos h126] at h
    have hfour : ¬ buffer.length < 4 := fun hshort => h (if_pos hshort)
    rw [if_neg hfour, if_neg (by omega), List.take_append_of_le_length (by rw [List.length_drop]; omega)]
  · next h126 =>
    rw [if_neg h126] at h
    split
    · next h127 =>
      rw [if_pos h127] at h
      have hten : ¬ buffer.length < 10 := fun hshort => h (if_pos hshort)
      rw [if_neg hten, if_neg (by omega), byteAt_append_left (by omega),
        List.take_append_of_le_length (by rw [List.length_drop]; omega)]
    · rfl

/-- A header that fails a check fails it whatever follows. -/
theorem frameHeader_append {buffer : Bytes} (h : frameHeader buffer = .error .malformed)
    (more : Bytes) : frameHeader (buffer ++ more) = .error .malformed := by
  have hmore : (buffer ++ more).length = buffer.length + more.length := List.length_append
  rw [frameHeader] at h ⊢
  split at h
  · cases h
  · next hlength =>
    rw [if_neg (by omega), byteAt_append_left (by omega), byteAt_append_left (by omega)]
    split
    · rfl
    · next hbits =>
      rw [if_neg hbits] at h
      split
      · rfl
      · next opcode hopcode =>
        simp only [hopcode] at h
        have hheader : payloadHeader buffer ≠ .error .needMore := by
          intro hmore
          simp [hmore] at h
        rw [payloadHeader_append (by omega) hheader]
        exact h

theorem parseFront_malformed {buffer : Bytes} :
    parseFront buffer = .error .malformed ↔ frameHeader buffer = .error .malformed := by
  rw [parseFront]
  split
  · next stop hstop => rw [hstop, Except.error.injEq, Except.error.injEq]
  · next hheader =>
    rw [hheader]
    split
    · simp
    · split <;> simp

/-- **The parser is a framing.** -/
def framing : Framing UInt8 Frame where
  scan := parseFront
  pos_of_scan := by
    intro buffer frame size h
    obtain ⟨-, rfl, -⟩ := eq_mask_of_parseFront h
    exact Nat.add_pos_right _ (by decide)
  le_of_scan := by
    intro buffer frame size h
    obtain ⟨-, rfl, key, rest, rfl⟩ := eq_mask_of_parseFront h
    rw [List.length_append, length_mask_frameEncoder]
    exact Nat.le_add_right _ _
  scan_append := by
    intro buffer frame size h more
    obtain ⟨hframe, rfl, key, rest, rfl⟩ := eq_mask_of_parseFront h
    rw [List.append_assoc]
    exact parseFront_mask hframe key (rest ++ more)
  scan_take := by
    intro buffer frame size h
    obtain ⟨hframe, rfl, key, rest, rfl⟩ := eq_mask_of_parseFront h
    rw [List.take_left' (length_mask_frameEncoder frame key)]
    have hmask := parseFront_mask hframe key []
    rwa [List.append_nil] at hmask
  malformed_append := by
    intro buffer h more
    rw [parseFront_malformed] at h ⊢
    exact frameHeader_append h more

/-- The loop of `FrameParse` from `consumed` bytes into `bytes` on, with the frames so far. -/
def frameParseFrom (bytes : Bytes) (consumed : ℕ) (frames : List Frame) : FrameParseResult :=
  match _h : parseFront (bytes.drop consumed) with
  | .error .malformed => ⟨.error, consumed, []⟩
  | .error .needMore => ⟨if frames = [] then .needMoreData else .success, consumed, frames⟩
  | .ok (frame, frameSize) =>
    if consumed + frameSize = bytes.length then
      ⟨.success, consumed + frameSize, frames ++ [frame]⟩
    else frameParseFrom bytes (consumed + frameSize) (frames ++ [frame])
termination_by bytes.length - consumed
decreasing_by
  have hpos := framing.pos_of_scan _h
  have hle := framing.le_of_scan _h
  rw [List.length_drop] at hle
  omega

/-- `WebSocketSession::FrameParse`. -/
def frameParse (bytes : Bytes) : FrameParseResult := frameParseFrom bytes 0 []

/-- The result that `FrameParse` makes of what a framing reads: on an error the frames are gone, and
a success is a result with frames. -/
def FrameParseResult.ofParsed (frames : List Frame) (parsed : Parsed Frame) (consumed : ℕ) :
    FrameParseResult :=
  if parsed.malformed then ⟨.error, consumed + parsed.taken, []⟩
  else
    ⟨if frames ++ parsed.items = [] then .needMoreData else .success, consumed + parsed.taken,
      frames ++ parsed.items⟩

theorem scan_nil : framing.scan [] = .error .needMore := rfl

@[simp] theorem parse_nil : framing.parse [] = ⟨[], 0, false⟩ := Framing.parse_of_error scan_nil

/-- What one more frame in front means for the result. -/
theorem FrameParseResult.ofParsed_cons (frames : List Frame) (frame : Frame) (frameSize consumed : ℕ)
    (parsed : Parsed Frame) :
    ofParsed frames (parsed.cons frame frameSize) consumed =
      ofParsed (frames ++ [frame]) parsed (consumed + frameSize) := by
  have hitems : frames ++ (parsed.cons frame frameSize).items = frames ++ [frame] ++ parsed.items := by
    simp [Parsed.cons]
  have htaken : consumed + (parsed.cons frame frameSize).taken =
      consumed + frameSize + parsed.taken := (Nat.add_assoc _ _ _).symm
  rw [ofParsed, ofParsed, hitems, htaken]
  rfl

theorem frameParseFrom_eq (bytes : Bytes) (consumed : ℕ) (frames : List Frame) :
    frameParseFrom bytes consumed frames =
      .ofParsed frames (framing.parse (bytes.drop consumed)) consumed := by
  fun_induction frameParseFrom bytes consumed frames with
  | case1 consumed frames h =>
    have hscan : framing.scan (bytes.drop consumed) = .error .malformed := h
    simp [Framing.parse_of_error hscan, FrameParseResult.ofParsed]
  | case2 consumed frames h =>
    have hscan : framing.scan (bytes.drop consumed) = .error .needMore := h
    simp [Framing.parse_of_error hscan, FrameParseResult.ofParsed]
  | case3 consumed frames frame frameSize h hend =>
    have hscan : framing.scan (bytes.drop consumed) = .ok (frame, frameSize) := h
    have hnil : bytes.drop (consumed + frameSize) = [] := by rw [hend, List.drop_length]
    rw [Framing.parse_of_ok hscan, FrameParseResult.ofParsed_cons, List.drop_drop, hnil, parse_nil]
    simp [FrameParseResult.ofParsed]
  | case4 consumed frames frame frameSize h hmore ih =>
    have hscan : framing.scan (bytes.drop consumed) = .ok (frame, frameSize) := h
    rw [ih, Framing.parse_of_ok hscan, FrameParseResult.ofParsed_cons, List.drop_drop]

/-- **The loop of `FrameParse` reads the items of the framing.** -/
theorem frameParse_eq (bytes : Bytes) : frameParse bytes = .ofParsed [] (framing.parse bytes) 0 := by
  rw [frameParse, frameParseFrom_eq, List.drop_zero]

@[simp] theorem consumed_frameParse (bytes : Bytes) :
    (frameParse bytes).consumed = (framing.parse bytes).taken := by
  rw [frameParse_eq, FrameParseResult.ofParsed]
  split <;> simp

theorem status_frameParse (bytes : Bytes) :
    (frameParse bytes).status = .error ↔ (framing.parse bytes).malformed = true := by
  rw [frameParse_eq, FrameParseResult.ofParsed]
  split
  · simpa using ‹_›
  · next h =>
    simp only [h]
    split <;> simp

theorem frames_frameParse {bytes : Bytes} (h : (framing.parse bytes).malformed = false) :
    (frameParse bytes).frames = (framing.parse bytes).items := by
  rw [frameParse_eq, FrameParseResult.ofParsed, h]
  simp

/-- On an error, the frames before it are not in the result. -/
theorem frames_frameParse_of_malformed {bytes : Bytes}
    (h : (framing.parse bytes).malformed = true) : (frameParse bytes).frames = [] := by
  rw [frameParse_eq, FrameParseResult.ofParsed, h]
  simp

theorem keyIn_mask (frame : Frame) (key : MaskKey) :
    keyIn (mask (frameEncoder frame) key) = key := by
  have hcode : byteAt (mask (frameEncoder frame) key) 1 &&& 0x7F =
      lengthCode frame.payload.length := by
    rw [mask_frameEncoder]
    exact (masked_and (lengthCode_le _)).2
  have hsize : headerSize (mask (frameEncoder frame) key) =
      2 + (lengthExtension frame.payload.length).length := by
    rw [headerSize, hcode, length_lengthExtension]
  funext index
  have hmod : (index : ℕ) % maskSize = index := Nat.mod_eq_of_lt index.isLt
  have hbyte := byteAt_key (firstByte frame.fin frame.opcode)
    (lengthCode frame.payload.length ||| 0x80) (lengthExtension frame.payload.length) key
    (xorKey key frame.payload) index
  rw [hmod] at hbyte
  rw [keyIn, hsize, mask_frameEncoder, hbyte]
  congr
  exact Fin.ofNat_val_eq_self index

/-- **The codec is exact in both directions.** What a client sends for a frame within the limits is
parsed as that frame alone, to the last byte; and what is parsed as one frame, to the last byte, is
what a client sends for it with the key that stands in it. -/
theorem frame_codec :
    (∀ (frame : Frame) (key : MaskKey), frame.Acceptable →
      frameParse (mask (frameEncoder frame) key) =
        ⟨.success, (mask (frameEncoder frame) key).length, [frame]⟩) ∧
    (∀ (bytes : Bytes) (frame : Frame), frameParse bytes = ⟨.success, bytes.length, [frame]⟩ →
      frame.Acceptable ∧ bytes = mask (frameEncoder frame) (keyIn bytes)) := by
  constructor
  · intro frame key hframe
    have hscan : framing.scan (mask (frameEncoder frame) key) =
        .ok (frame, (mask (frameEncoder frame) key).length) := by
      have hmask := parseFront_mask hframe key []
      rwa [List.append_nil, ← length_mask_frameEncoder frame key] at hmask
    rw [frameParse_eq, Framing.parse_of_ok hscan, List.drop_length, parse_nil]
    simp [FrameParseResult.ofParsed, Parsed.cons]
  · intro bytes frame h
    rw [frameParse_eq, FrameParseResult.ofParsed] at h
    split at h
    · cases h
    · obtain ⟨-, htaken, hitems⟩ := FrameParseResult.mk.inj h
      rw [Nat.zero_add] at htaken
      rcases hscan : framing.scan bytes with stop | ⟨front, size⟩
      · rw [Framing.parse_of_error hscan] at hitems
        simp at hitems
      · rw [Framing.parse_of_ok hscan] at htaken hitems
        obtain ⟨rfl, hnil⟩ : front = frame ∧ (framing.parse (bytes.drop size)).items = [] := by
          simpa [Parsed.cons] using hitems
        obtain rfl : size = bytes.length := by
          simpa [Parsed.cons, Framing.taken_of_items_nil hnil] using htaken
        obtain ⟨hframe, hsize, key, rest, hbytes⟩ := eq_mask_of_parseFront hscan
        obtain rfl : rest = [] := by
          rw [hbytes, List.length_append, length_mask_frameEncoder] at hsize
          exact List.length_eq_zero_iff.1 (Nat.add_eq_left.1 hsize)
        rw [List.append_nil] at hbytes
        refine ⟨hframe, ?_⟩
        rw [hbytes, keyIn_mask]

end ChatBackend
