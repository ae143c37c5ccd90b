import RowStream.Text.Basic

/-! UTF-8: texts as octets, and octets read back one at a time, with the place and cause of a
malformed sequence. -/
namespace RowStream.Utf8

inductive Cause where
  | start
  | continuation
  | truncated
  deriving DecidableEq, Repr

/-- A malformed sequence: where it begins, its first octet, and how many octets it spans before
the one that cannot follow. -/
structure Fault where
  position : Nat
  first : UInt8
  span : Nat
  cause : Cause
  deriving DecidableEq, Repr

/-- A character begun but not finished: its first octet, the octets taken, those still due, the
range that the next one lies in, and the bits collected. -/
structure Sequence where
  first : UInt8
  taken : Nat
  due : Nat
  low : UInt8
  high : UInt8
  bits : Nat
  deriving DecidableEq, Repr

/-- What a leading octet above ASCII begins. The second octet's range keeps out overlong forms,
surrogates and code points past U+10FFFF. -/
def lead (b : UInt8) : Option Sequence :=
  if 0xc2 ≤ b && b ≤ 0xdf then some ⟨b, 1, 1, 0x80, 0xbf, b.toNat - 0xc0⟩
  else if 0xe0 ≤ b && b ≤ 0xef then
    some ⟨b, 1, 2, if b = 0xe0 then 0xa0 else 0x80, if b = 0xed then 0x9f else 0xbf, b.toNat - 0xe0⟩
  else if 0xf0 ≤ b && b ≤ 0xf4 then
    some ⟨b, 1, 3, if b = 0xf0 then 0x90 else 0x80, if b = 0xf4 then 0x8f else 0xbf, b.toNat - 0xf0⟩
  else none

/-- Decodes from a position, in the middle of `open?` if a character has begun there. -/
def decodeFrom : (position : Nat) → (open? : Option Sequence) → Bytes → Except Fault Text
  | _, none, [] => .ok []
  | n, some s, [] => .error ⟨n, s.first, s.taken, .truncated⟩
  | n, none, b :: rest =>
    if b < 0x80 then (Char.ofNat b.toNat :: ·) <$> decodeFrom (n + 1) none rest
    else match lead b with
      | none => .error ⟨n, b, 1, .start⟩
      | some s => decodeFrom n (some s) rest
  | n, some s, b :: rest =>
    if s.low ≤ b && b ≤ s.high then
      let bits := s.bits * 64 + (b.toNat - 0x80)
      if s.due ≤ 1 then (Char.ofNat bits :: ·) <$> decodeFrom (n + s.taken + 1) none rest
      else decodeFrom n (some ⟨s.first, s.taken + 1, s.due - 1, 0x80, 0xbf, bits⟩) rest
    else .error ⟨n, s.first, s.taken, .continuation⟩

def decode (bytes : Bytes) : Except Fault Text := decodeFrom 0 none bytes

def encode (t : Text) : Bytes := t.flatMap String.utf8EncodeChar

def Cause.message : Cause → Text
  | .start => "invalid start byte".toList
  | .continuation => "invalid continuation byte".toList
  | .truncated => "unexpected end of data".toList

def Fault.message (f : Fault) : Text :=
  "'utf-8' codec can't decode ".toList
    ++ (if f.span = 1 then
        "byte 0x".toList ++ Text.hex 2 f.first.toNat ++ " in position ".toList
          ++ Text.ofNat f.position
      else
        "bytes in position ".toList ++ Text.ofNat f.position ++ '-'
          :: Text.ofNat (f.position + f.span - 1))
    ++ ": ".toList ++ f.cause.message

end RowStream.Utf8
