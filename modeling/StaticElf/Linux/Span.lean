/-
**Ranges of addresses.**

* `Span` — a range of addresses, with `split` and `total` for several of them.
* `addressLimit`, `lowestMapped` — the addresses that a program can have.
-/

import StaticElf.Elf.Header

namespace StaticElf.Linux

/-- The number of bytes of a page. -/
def pageBytes : Nat := Elf.pageSize.toNat

/-- The first address that no program can have. -/
def addressLimit : Nat := 0x7ffffffff000

/-- The first address that a program can ask to have mapped. -/
def lowestMapped : Nat := 0x1000

/-- The length of the pages that hold a number of bytes. -/
def pageAligned (length : Nat) : Nat := (length + pageBytes - 1) / pageBytes * pageBytes

/-- A range of addresses. -/
structure Span where
  start : Nat
  length : Nat
  deriving DecidableEq, Repr

namespace Span

/-- The first `count` bytes of some ranges, and what is behind them. -/
def split : (count : Nat) → List Span → List Span × List Span
  | _, [] => ([], [])
  | count, span :: spans =>
    if span.length ≤ count then
      let (before, behind) := split (count - span.length) spans
      (span :: before, behind)
    else ([⟨span.start, count⟩], ⟨span.start + count, span.length - count⟩ :: spans)

/-- The number of bytes of some ranges. -/
def total (spans : List Span) : Nat := spans.foldr (fun span bytes => span.length + bytes) 0

end Span

end StaticElf.Linux
