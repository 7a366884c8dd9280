/-
**Numerals in messages.**

The ways numbers and bytes are written in traces and messages.

* `hexNumeral` and `binaryNumeral` carry their base in front: `0x1f`, `0b11`; zero is `0x0`, `0b0`.
* `hexPairs` writes two digits for each byte with nothing between, `spacedHexPairs` puts one blank
  between bytes.
* `spacedHexDigits` writes a blank and then the shortest digits of each byte.
-/

import StaticElf.Bytes

namespace StaticElf.Text

/-- The shortest digits of a number in a base, at least one. -/
def digits (base value : Nat) : String := String.ofList (Nat.toDigits base value)

/-- A number in base sixteen with its mark, such as `0x402000`. -/
def hexNumeral (value : Nat) : String := "0x" ++ digits 16 value

/-- A number in base two with its mark, such as `0b101`. -/
def binaryNumeral (value : Nat) : String := "0b" ++ digits 2 value

/-- The two hexadecimal digits of a byte. -/
def hexPair (byte : UInt8) : String :=
  digits 16 (byte.toNat / 16) ++ digits 16 (byte.toNat % 16)

/-- Every byte as two hexadecimal digits, with nothing between. -/
def hexPairs (bytes : Bytes) : String := String.join (bytes.map hexPair)

/-- Every byte as two hexadecimal digits, with one blank between. -/
def spacedHexPairs (bytes : Bytes) : String := " ".intercalate (bytes.map hexPair)

/-- A blank and the shortest hexadecimal digits of each byte. -/
def spacedHexDigits (bytes : Bytes) : String :=
  String.join (bytes.map fun byte => " " ++ digits 16 byte.toNat)

/-- A number in base `base` written with at least `width` digits, zeros in front. -/
def paddedDigits (base width value : Nat) : String :=
  let shortest := Nat.toDigits base value
  String.ofList (List.replicate (width - shortest.length) '0' ++ shortest)

end StaticElf.Text
