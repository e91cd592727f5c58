import BrightBlocks.Text.Hexadecimal

/-!
# Strict decoding of UTF-8

A well-formed sequence is a lead byte and the continuation bytes that it calls
for. Overlong forms, surrogates and points above U+10FFFF are ruled out by the
lead byte and the interval of the first continuation byte alone. Decoding stops
at the first byte that starts no such sequence and reports the lead byte
together with the continuation bytes that still fit.
-/

namespace BrightBlocks.Utf8

/-- Why a run of bytes is no character. -/
inductive Reason
  | invalidStart
  | invalidContinuation
  | unexpectedEnd
  deriving DecidableEq, Repr

namespace Reason

/-- The words for a reason. -/
def message : Reason → Text
  | invalidStart => "invalid start byte".toList
  | invalidContinuation => "invalid continuation byte".toList
  | unexpectedEnd => "unexpected end of data".toList

end Reason

/-- The first run of bytes that is no character: a lead byte and the bytes that fitted. -/
structure Fault where
  position : Nat
  lead : UInt8
  fitting : List UInt8
  reason : Reason
  deriving DecidableEq, Repr

namespace Fault

/-- The words for a fault. A run of several bytes is named by its first and last position. -/
def message (fault : Fault) : Text :=
  let place :=
    if fault.fitting.isEmpty then
      "byte 0x".toList ++ Text.hex 2 fault.lead.toNat ++ " in position ".toList ++
        Text.ofInt fault.position
    else
      "bytes in position ".toList ++ Text.ofInt fault.position ++ ['-'] ++
        Text.ofInt (fault.position + fault.fitting.length)
  "'utf-8' codec can't decode ".toList ++ place ++ ": ".toList ++ fault.reason.message

end Fault

/-- The continuation bytes that a lead byte calls for, and the interval of the first of them. -/
structure Shape where
  count : Nat
  low : UInt8
  high : UInt8

/-- The shape of the sequences that a byte outside ASCII may lead. -/
def shape? (lead : UInt8) : Option Shape :=
  if lead < 0xC2 then none
  else if lead < 0xE0 then some ⟨1, 0x80, 0xBF⟩
  else if lead = 0xE0 then some ⟨2, 0xA0, 0xBF⟩
  else if lead = 0xED then some ⟨2, 0x80, 0x9F⟩
  else if lead < 0xF0 then some ⟨2, 0x80, 0xBF⟩
  else if lead = 0xF0 then some ⟨3, 0x90, 0xBF⟩
  else if lead < 0xF4 then some ⟨3, 0x80, 0xBF⟩
  else if lead = 0xF4 then some ⟨3, 0x80, 0x8F⟩
  else none

/-- The longest run of at most `count` bytes that continue a sequence. -/
def continuation (low high : UInt8) : Nat → List UInt8 → List UInt8
  | 0, _ => []
  | _, [] => []
  | count + 1, byte :: rest =>
    if low ≤ byte ∧ byte ≤ high then byte :: continuation 0x80 0xBF count rest else []

/--
The character of a complete sequence. Each continuation byte gives its lower six
bits, the lead byte those below the mark that tells how many bytes follow it.
-/
def character (lead : UInt8) (following : List UInt8) : Char :=
  Char.ofNat
    (following.foldl (fun point byte => point * 0x40 + byte.toNat % 0x40)
      (lead.toNat % (0x40 >>> following.length)))

/-- Decodes bytes that stand at `position` of the whole input. -/
def decodeFrom (position : Nat) (bytes : List UInt8) : Except Fault Text :=
  match bytes with
  | [] => .ok []
  | lead :: rest =>
    if lead < 0x80 then
      (decodeFrom (position + 1) rest).map (Char.ofNat lead.toNat :: ·)
    else
      match shape? lead with
      | none => .error ⟨position, lead, [], .invalidStart⟩
      | some shape =>
        let fitting := continuation shape.low shape.high shape.count rest
        if fitting.length = shape.count then
          (decodeFrom (position + 1 + fitting.length) (rest.drop fitting.length)).map
            (character lead fitting :: ·)
        else if rest.length = fitting.length then
          .error ⟨position, lead, fitting, .unexpectedEnd⟩
        else
          .error ⟨position, lead, fitting, .invalidContinuation⟩
  termination_by bytes.length
  decreasing_by all_goals grind

/-- Decodes a whole file. -/
def decode (bytes : List UInt8) : Except Fault Text :=
  decodeFrom 0 bytes

/-- The bytes of a text. Decoding them gives the text back (`decode_encode`). -/
def encode (text : Text) : List UInt8 :=
  text.flatMap String.utf8EncodeChar

end BrightBlocks.Utf8
