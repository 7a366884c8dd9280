/-
**The edit distance of two byte strings.**

How many single bytes have to be inserted, deleted or replaced to turn one byte string into another.
The distances from a string to the beginnings of the other form a row, the shortest beginning first,
and each row follows from the one before.

* `firstRow`, `nextRow` — the row of the empty string, and the row of a string with one more byte at
  the end.
* `editDistance` — the last entry of the last row.
-/

import StaticElf.Bytes

namespace StaticElf

/-- The distances from the empty string to the beginnings of another. -/
def firstRow (target : Bytes) : List Nat := List.range (target.length + 1)

/-- The entries of the row of a string with `byte` at its end, from the row of that string. `left` is
the entry before, and `done` are the entries so far, the last first. -/
def rowEntries (byte : UInt8) : Bytes → List Nat → (left : Nat) → (done : List Nat) → List Nat
  | other :: others, diagonal :: above :: row, left, done =>
    let entry := min (min (above + 1) (left + 1)) (diagonal + if byte = other then 0 else 1)
    rowEntries byte others (above :: row) entry (entry :: done)
  | _, _, _, done => done.reverse

/-- The row of a string with `byte` at its end, from the row of that string. -/
def nextRow (target : Bytes) (row : List Nat) (byte : UInt8) : List Nat :=
  let left := row.headD 0 + 1
  rowEntries byte target row left [left]

/-- The distances from a string to the beginnings of another. -/
def distanceRow (source target : Bytes) : List Nat :=
  source.foldl (nextRow target) (firstRow target)

/-- The least number of single-byte edits that turn `source` into `target`. -/
def editDistance (source target : Bytes) : Nat := (distanceRow source target).getLastD 0

end StaticElf
