/-
Strict UTF-8. Decoding stops at the first octet sequence that no character is written by, and the
fault says which octets are in the way and why.
-/
import StructuralTyping.Text.Quoted

namespace StructuralTyping.Text.Utf8

/-- Why octets are no character. -/
inductive Cause where
  | start
  | continuation
  | truncated
  deriving Repr, DecidableEq

/-- A fault: the octets from `first` to `last`, the first of them being `octet`. -/
structure Fault where
  cause : Cause
  octet : UInt8
  first : Nat
  last : Nat
  deriving Repr, DecidableEq

/-- The words for a cause. -/
def Cause.text : Cause → String
  | .start => "invalid start byte"
  | .continuation => "invalid continuation byte"
  | .truncated => "unexpected end of data"

/-- The message of a fault: one octet is shown, several are only counted. -/
def Fault.message (fault : Fault) : String :=
  let what :=
    if fault.first = fault.last then
      "byte 0x" ++ hex 2 fault.octet.toNat ++ " in position " ++ toString fault.first
    else "bytes in position " ++ toString fault.first ++ "-" ++ toString fault.last
  "'utf-8' codec can't decode " ++ what ++ ": " ++ fault.cause.text

/-- Whether an octet continues a character. -/
def isTail (octet : UInt8) : Bool := 0x80 ≤ octet && octet ≤ 0xbf

/-- Whether the second octet of a character may follow the first. -/
def mayFollow (lead second : UInt8) : Bool :=
  isTail second &&
    (if lead == 0xe0 then 0xa0 ≤ second
    else if lead == 0xed then second ≤ 0x9f
    else if lead == 0xf0 then 0x90 ≤ second
    else if lead == 0xf4 then second ≤ 0x8f
    else true)

/-- How many octets must follow a first octet, if it is one. -/
def tailCount (lead : UInt8) : Option Nat :=
  if lead ≤ 0x7f then some 0
  else if 0xc2 ≤ lead && lead ≤ 0xdf then some 1
  else if 0xe0 ≤ lead && lead ≤ 0xef then some 2
  else if 0xf0 ≤ lead && lead ≤ 0xf4 then some 3
  else none

/-- The bits that a first octet gives to its character. -/
def leadBits (lead : UInt8) : Nat :=
  if lead ≤ 0x7f then lead.toNat
  else if lead ≤ 0xdf then lead.toNat % 0x20
  else if lead ≤ 0xef then lead.toNat % 0x10
  else lead.toNat % 0x08

/-- Where a decoder stands: between characters, or within one that began at `first` with `lead`,
has taken `taken` octets, has the bits `bits` and needs `missing` more octets. -/
inductive State where
  | between
  | within (first : Nat) (lead : UInt8) (taken bits missing : Nat)

/-- Decodes the octets from position `pos` on. -/
def decodeFrom (pos : Nat) : State → List UInt8 → Except Fault (List Char)
  | .between, [] => .ok []
  | .within first lead _ _ _, [] => .error ⟨.truncated, lead, first, pos - 1⟩
  | .between, octet :: rest =>
    match tailCount octet with
    | none => .error ⟨.start, octet, pos, pos⟩
    | some 0 => (Char.ofNat octet.toNat :: ·) <$> decodeFrom (pos + 1) .between rest
    | some missing => decodeFrom (pos + 1) (.within pos octet 1 (leadBits octet) missing) rest
  | .within first lead taken bits missing, octet :: rest =>
    let fits := if taken = 1 then mayFollow lead octet else isTail octet
    let bits := bits * 0x40 + octet.toNat % 0x40
    if !fits then .error ⟨.continuation, lead, first, pos - 1⟩
    else if missing ≤ 1 then (Char.ofNat bits :: ·) <$> decodeFrom (pos + 1) .between rest
    else decodeFrom (pos + 1) (.within first lead (taken + 1) bits (missing - 1)) rest

/-- The characters written by octets, or the first fault. -/
def decode (octets : List UInt8) : Except Fault (List Char) := decodeFrom 0 .between octets

/-- The octets that write a text. -/
def encode (text : String) : List UInt8 := text.toUTF8.toList

end StructuralTyping.Text.Utf8
