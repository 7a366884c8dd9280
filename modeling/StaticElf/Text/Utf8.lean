/-
**Byte strings read as UTF-8.**

A byte string need not be valid UTF-8. Reading it gives the characters of its valid sequences and, one
by one, the bytes that belong to none.

* `scan` splits a byte string into characters and stray bytes.
* `chars` puts U+FFFD in the place of each stray byte; `display` does so as a string.
* `encode` writes characters back as bytes.
-/

import StaticElf.Bytes

namespace StaticElf.Utf8

/-- What stands at one place of a byte string: a character, or a byte outside every valid sequence. -/
inductive Piece where
  | char (c : Char)
  | stray (byte : UInt8)
  deriving DecidableEq, Repr

/-- The character that stands for a stray byte. -/
def replacement : Char := Char.ofNat 0xfffd

/-- Whether a byte can continue a sequence. -/
def isTail (byte : UInt8) : Bool := 0x80 ≤ byte && byte ≤ 0xbf

/-- The low six bits that a continuation byte carries. -/
def tailBits (byte : UInt8) : Nat := byte.toNat % 0x40

/-- The character that starts with `byte`, with the number of bytes it takes from `rest`. Overlong
forms, surrogates and code points above U+10FFFF are no characters. -/
def first (byte : UInt8) (rest : Bytes) : Option (Char × Nat) :=
  if byte < 0x80 then some (Char.ofNat byte.toNat, 0)
  else if 0xc2 ≤ byte && byte ≤ 0xdf then
    match rest with
    | second :: _ =>
      if isTail second then some (Char.ofNat (byte.toNat % 0x20 * 0x40 + tailBits second), 1)
      else none
    | _ => none
  else if 0xe0 ≤ byte && byte ≤ 0xef then
    match rest with
    | second :: third :: _ =>
      if (if byte == 0xe0 then 0xa0 else 0x80) ≤ second
          && second ≤ (if byte == 0xed then 0x9f else 0xbf) && isTail third then
        some (Char.ofNat (byte.toNat % 0x10 * 0x1000 + tailBits second * 0x40 + tailBits third), 2)
      else none
    | _ => none
  else if 0xf0 ≤ byte && byte ≤ 0xf4 then
    match rest with
    | second :: third :: fourth :: _ =>
      if (if byte == 0xf0 then 0x90 else 0x80) ≤ second
          && second ≤ (if byte == 0xf4 then 0x8f else 0xbf) && isTail third && isTail fourth then
        some (Char.ofNat (byte.toNat % 0x8 * 0x40000 + tailBits second * 0x1000
          + tailBits third * 0x40 + tailBits fourth), 3)
      else none
    | _ => none
  else none

/-- The characters and stray bytes of a byte string, from left to right. -/
def scan : Bytes → List Piece
  | [] => []
  | byte :: rest =>
    match first byte rest with
    | some (c, taken) => .char c :: scan (rest.drop taken)
    | none => .stray byte :: scan rest
  termination_by bytes => bytes.length

/-- The character shown for a piece. -/
def Piece.shown : Piece → Char
  | .char c => c
  | .stray _ => replacement

/-- The characters of a byte string, with U+FFFD in the place of each stray byte. -/
def chars (bytes : Bytes) : List Char := (scan bytes).map Piece.shown

/-- A byte string as text, with U+FFFD in the place of each stray byte. -/
def display (bytes : Bytes) : String := String.ofList (chars bytes)

/-- Characters as bytes. -/
def encode (cs : List Char) : Bytes := cs.flatMap String.utf8EncodeChar

/-- A text as bytes. -/
def ofString (text : String) : Bytes := encode text.toList

end StaticElf.Utf8
