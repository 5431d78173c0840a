import CasingLint.Text.Hex

/-!
# UTF-8

Spans in source text count UTF-8 octets, so text is encoded before it is cut and
decoded afterwards.  Decoding is a machine with one pending character at most.
It comes in two forms: `decode` stops at the first octet that does not fit and
says what is wrong there, `decodeLossy` drops the octets of the broken character
and goes on.
-/

namespace CasingLint.Text.Utf8

/-- Text as octets. -/
abbrev Octets := List UInt8

/-- The octets of a code point. -/
def encodeCode (code : Nat) : Octets :=
  if code < 0x80 then
    [UInt8.ofNat code]
  else if code < 0x800 then
    [UInt8.ofNat (0xC0 + code / 64), UInt8.ofNat (0x80 + code % 64)]
  else if code < 0x10000 then
    [UInt8.ofNat (0xE0 + code / 4096), UInt8.ofNat (0x80 + code / 64 % 64),
      UInt8.ofNat (0x80 + code % 64)]
  else
    [UInt8.ofNat (0xF0 + code / 262144), UInt8.ofNat (0x80 + code / 4096 % 64),
      UInt8.ofNat (0x80 + code / 64 % 64), UInt8.ofNat (0x80 + code % 64)]

/-- The octets of a character. -/
def encodeChar (character : Char) : Octets :=
  encodeCode character.toNat

/-- The octets of a text. -/
def encode (text : List Char) : Octets :=
  text.flatMap encodeChar

@[simp]
theorem encode_nil : encode [] = [] := rfl

@[simp]
theorem encode_cons (character : Char) (rest : List Char) :
    encode (character :: rest) = encodeChar character ++ encode rest := rfl

@[simp]
theorem encode_append (left right : List Char) :
    encode (left ++ right) = encode left ++ encode right := by
  simp [encode]

/-- What can be wrong with an octet sequence. -/
inductive Reason where
  | invalidStart
  | invalidContinuation
  | unexpectedEnd
  deriving DecidableEq, Repr

/-- The words for a reason. -/
def Reason.text : Reason → String
  | .invalidStart => "invalid start byte"
  | .invalidContinuation => "invalid continuation byte"
  | .unexpectedEnd => "unexpected end of data"

/-- The first broken character of an octet sequence: its place, first octet and what is wrong. -/
structure Fault where
  start : Nat
  stop : Nat
  octet : UInt8
  reason : Reason
  deriving DecidableEq, Repr

/-- The message for a broken character. -/
def Fault.message (fault : Fault) : String :=
  let place :=
    if fault.stop = fault.start + 1 then
      "byte 0x" ++ String.ofList (hexDigits 2 fault.octet.toNat) ++ " in position " ++
        toString fault.start
    else
      "bytes in position " ++ toString fault.start ++ "-" ++ toString (fault.stop - 1)
  "'utf-8' codec can't decode " ++ place ++ ": " ++ fault.reason.text

/--
A character whose first octets have been read: where it began and with which octet,
how many octets are missing, the bounds of the next one, and the bits so far.
-/
structure Pending where
  start : Nat
  lead : UInt8
  missing : Nat
  low : Nat
  high : Nat
  bits : Nat
  deriving DecidableEq, Repr

/-- What a first octet above the ASCII range announces. -/
def announce? (start : Nat) (lead : UInt8) : Option Pending :=
  let code := lead.toNat
  if code < 0xC2 then none
  else if code < 0xE0 then some ⟨start, lead, 1, 0x80, 0xBF, code - 0xC0⟩
  else if code = 0xE0 then some ⟨start, lead, 2, 0xA0, 0xBF, 0⟩
  else if code = 0xED then some ⟨start, lead, 2, 0x80, 0x9F, 13⟩
  else if code < 0xF0 then some ⟨start, lead, 2, 0x80, 0xBF, code - 0xE0⟩
  else if code = 0xF0 then some ⟨start, lead, 3, 0x90, 0xBF, 0⟩
  else if code < 0xF4 then some ⟨start, lead, 3, 0x80, 0xBF, code - 0xF0⟩
  else if code = 0xF4 then some ⟨start, lead, 3, 0x80, 0x8F, 4⟩
  else none

/-- Does an octet continue the pending character? -/
def Pending.accepts (pending : Pending) (octet : UInt8) : Bool :=
  decide (pending.low ≤ octet.toNat) && decide (octet.toNat ≤ pending.high)

/-- The code point so far, after one more octet. -/
def Pending.extend (pending : Pending) (octet : UInt8) : Pending :=
  { pending with
    missing := pending.missing - 1
    low := 0x80
    high := 0xBF
    bits := pending.bits * 64 + octet.toNat % 64 }

/-- Decodes from a position on, with the character that is pending there. -/
def decodeFrom (position : Nat) : Option Pending → Octets → Except Fault (List Char)
  | none, [] => .ok []
  | some pending, [] =>
    .error ⟨pending.start, position, pending.lead, .unexpectedEnd⟩
  | none, octet :: rest =>
    if octet.toNat < 0x80 then
      (Char.ofNat octet.toNat :: ·) <$> decodeFrom (position + 1) none rest
    else
      match announce? position octet with
      | none => .error ⟨position, position + 1, octet, .invalidStart⟩
      | some pending => decodeFrom (position + 1) (some pending) rest
  | some pending, octet :: rest =>
    if pending.accepts octet then
      let extended := pending.extend octet
      if extended.missing = 0 then
        (Char.ofNat extended.bits :: ·) <$> decodeFrom (position + 1) none rest
      else
        decodeFrom (position + 1) (some extended) rest
    else
      .error ⟨pending.start, position, pending.lead, .invalidContinuation⟩

/-- The text of an octet sequence, or its first fault. -/
def decode (octets : Octets) : Except Fault (List Char) :=
  decodeFrom 0 none octets

/-- Decodes with the character that is pending, dropping what is broken. -/
def decodeLossyFrom : Option Pending → Octets → List Char
  | _, [] => []
  | pending, octet :: rest =>
    let afresh :=
      if octet.toNat < 0x80 then Char.ofNat octet.toNat :: decodeLossyFrom none rest
      else decodeLossyFrom (announce? 0 octet) rest
    match pending with
    | none => afresh
    | some pending =>
      if pending.accepts octet then
        let extended := pending.extend octet
        if extended.missing = 0 then Char.ofNat extended.bits :: decodeLossyFrom none rest
        else decodeLossyFrom (some extended) rest
      else
        afresh

/-- The text of an octet sequence without its broken characters. -/
def decodeLossy (octets : Octets) : List Char :=
  decodeLossyFrom none octets

end CasingLint.Text.Utf8
