/-
**Quoted text.**

A byte string between double quotes, with every character that would not show as itself written as
an escape.

* The quote and the backslash take a backslash; seven controls have letters (`\n`, `\t`, …).
* A printable character stands as itself.
* A stray byte and any other ASCII control are written `\xhh`, a character below U+10000 `\uhhhh`,
  and a character above it `\Uhhhhhhhh`.
-/

import StaticElf.Text.Numeral
import StaticElf.Text.Printable
import StaticElf.Text.Utf8

namespace StaticElf.Text

/-- The letter that stands after a backslash for a control character. -/
def controlLetter (c : Char) : Option Char :=
  match c.toNat with
  | 0x07 => some 'a'
  | 0x08 => some 'b'
  | 0x0c => some 'f'
  | 0x0a => some 'n'
  | 0x0d => some 'r'
  | 0x09 => some 't'
  | 0x0b => some 'v'
  | _ => none

/-- A character as it stands between the quotes. -/
def quotedChar (c : Char) : String :=
  if c == '"' || c == '\\' then String.ofList ['\\', c]
  else if isPrintable c then String.ofList [c]
  else match controlLetter c with
    | some letter => String.ofList ['\\', letter]
    | none =>
      if c.toNat < 0x80 then "\\x" ++ paddedDigits 16 2 c.toNat
      else if c.toNat < 0x10000 then "\\u" ++ paddedDigits 16 4 c.toNat
      else "\\U" ++ paddedDigits 16 8 c.toNat

/-- A piece of a byte string as it stands between the quotes. -/
def quotedPiece : Utf8.Piece → String
  | .char c => quotedChar c
  | .stray byte => "\\x" ++ hexPair byte

/-- A byte string between double quotes. -/
def quoted (text : Bytes) : String :=
  "\"" ++ String.join ((Utf8.scan text).map quotedPiece) ++ "\""

end StaticElf.Text
