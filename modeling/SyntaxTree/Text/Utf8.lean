/-!
# UTF-8 decoding

Octets are decoded one at a time.  A sequence that breaks off is reported as
one ill-formed piece, made of the octets that still agreed with some
well-formed sequence; decoding resumes at the octet that broke it off.
-/

namespace SyntaxTree
namespace Text
namespace Utf8

/-- A decoded character, or a maximal run of octets that started a character
and never finished it. -/
inductive Piece where
  | character (value : Char)
  | illFormed (octets : List UInt8)
deriving DecidableEq, Repr

/-- A character of which some octets are still missing. -/
structure Unfinished where
  /-- The octets read so far. -/
  seen : List UInt8
  /-- The code point bits read so far. -/
  code : Nat
  /-- How many octets are missing. -/
  missing : Nat
  /-- Least value that the next octet may have. -/
  low : UInt8
  /-- Greatest value that the next octet may have. -/
  high : UInt8
deriving DecidableEq, Repr

/-- The pieces decoded so far and the character that is being read. -/
structure Decoder where
  pieces : Array Piece
  unfinished : Option Unfinished

namespace Decoder

/-- A decoder that has read nothing. -/
def empty : Decoder := ⟨#[], none⟩

/-- Reads an octet that starts a new character.

The bounds on the second octet rule out overlong forms, surrogates and code
points beyond the last plane. -/
def start (decoder : Decoder) (octet : UInt8) : Decoder :=
  let await := fun (lead : Nat) (missing : Nat) (low high : UInt8) =>
    { decoder with unfinished := some ⟨[octet], octet.toNat - lead, missing, low, high⟩ }
  if octet < 0x80 then
    ⟨decoder.pieces.push (.character (Char.ofNat octet.toNat)), none⟩
  else if octet < 0xc2 then
    ⟨decoder.pieces.push (.illFormed [octet]), none⟩
  else if octet < 0xe0 then
    await 0xc0 1 0x80 0xbf
  else if octet = 0xe0 then
    await 0xe0 2 0xa0 0xbf
  else if octet = 0xed then
    await 0xe0 2 0x80 0x9f
  else if octet < 0xf0 then
    await 0xe0 2 0x80 0xbf
  else if octet = 0xf0 then
    await 0xf0 3 0x90 0xbf
  else if octet < 0xf4 then
    await 0xf0 3 0x80 0xbf
  else if octet = 0xf4 then
    await 0xf0 3 0x80 0x8f
  else
    ⟨decoder.pieces.push (.illFormed [octet]), none⟩

/-- Reads an octet that continues a character. -/
def resume (decoder : Decoder) (unfinished : Unfinished) (octet : UInt8) : Decoder :=
  let code := unfinished.code * 64 + (octet.toNat - 0x80)
  if unfinished.missing ≤ 1 then
    ⟨decoder.pieces.push (.character (Char.ofNat code)), none⟩
  else
    { decoder with
      unfinished := some
        ⟨unfinished.seen ++ [octet], code, unfinished.missing - 1, 0x80, 0xbf⟩ }

/-- Reports the octets of a character that is never finished. -/
def abandon (decoder : Decoder) (unfinished : Unfinished) : Decoder :=
  ⟨decoder.pieces.push (.illFormed unfinished.seen), none⟩

/-- Reads one octet. -/
def step (decoder : Decoder) (octet : UInt8) : Decoder :=
  match decoder.unfinished with
  | none => decoder.start octet
  | some unfinished =>
    if unfinished.low ≤ octet ∧ octet ≤ unfinished.high then
      decoder.resume unfinished octet
    else
      (decoder.abandon unfinished).start octet

/-- All pieces, the last one ill-formed if the octets end inside a character. -/
def finish (decoder : Decoder) : List Piece :=
  match decoder.unfinished with
  | none => decoder.pieces.toList
  | some unfinished => (decoder.abandon unfinished).pieces.toList

end Decoder

/-- Decodes octets into pieces. -/
def decode (octets : List UInt8) : List Piece :=
  (octets.foldl Decoder.step Decoder.empty).finish

end Utf8
end Text
end SyntaxTree
