/-
**Address spaces.**

An address space is a list of mappings, in the order of their addresses, and the pages that were written
in it. A page that was not written shows what its mapping stands for: zeros or a file.

* `Mapping` — a range of pages with one kind of access.
* `Space.find?`, `isFree`, `gap?` — looking for mappings and for room between them.
* `Space.clear`, `insert`, `update`, `move` — the changes, by whole pages.
-/

import StaticElf.Linux.Pages

namespace StaticElf.Linux

/-- What is done with a byte of memory. -/
inductive Access where
  | read
  | write
  | run
  deriving DecidableEq, Repr

/-- What a mapping shows where nothing was written: zeros, or a content from an offset on. -/
inductive Source where
  | zeros
  | content (number offset : Nat)
  deriving DecidableEq, Repr

/-- A source from a later place on. -/
def Source.skip (source : Source) (count : Nat) : Source :=
  match source with
  | zeros => zeros
  | content number offset => content number (offset + count)

/-- Whether pages have to stay in memory. -/
inductive Residence where
  | free
  /-- They are put there at once, and stay. -/
  | locked
  /-- They stay once they are touched. -/
  | lockedLate
  deriving DecidableEq, Repr

/-- From which nodes of a machine memory is taken: the way to choose, how the nodes are meant, and one bit
for each of them. -/
structure NodePolicy where
  mode : Nat
  flags : Nat := 0
  nodes : Nat := 0
  deriving DecidableEq, Repr

/-- A range of pages. -/
structure Mapping where
  start : Nat
  stop : Nat
  /-- What may be done with the pages: reading (1), writing (2), running (4). -/
  access : Nat
  source : Source := .zeros
  /-- Whether what is written goes to the source. -/
  shared : Bool := false
  /-- Whether writing can be allowed later. -/
  mayWrite : Bool := true
  /-- Whether the mapping takes in what is touched below it. -/
  growsDown : Bool := false
  /-- The protection key. -/
  key : Nat := 0
  /-- Whether the mapping cannot be changed any more. -/
  isSealed : Bool := false
  /-- Whether every access is refused, whatever `access` says. -/
  guarded : Bool := false
  /-- Whether a child gets the mapping, and whether it gets zeros in it. -/
  inherited : Bool := true
  wiped : Bool := false
  /-- Whether what is in the pages may be lost at any time. -/
  droppable : Bool := false
  /-- What was said about the use of the pages, one bit for each thing. -/
  hints : Nat := 0
  residence : Residence := .free
  policy : Option NodePolicy := none
  deriving DecidableEq, Repr

namespace Mapping

/-- Whether an address is in the mapping. -/
def contains (mapping : Mapping) (address : Nat) : Bool :=
  mapping.start ≤ address && address < mapping.stop

/-- Whether the mapping has an address of a range. -/
def meets (mapping : Mapping) (start stop : Nat) : Bool :=
  mapping.start < stop && start < mapping.stop

/-- The part of a mapping in a range. -/
def part (mapping : Mapping) (start stop : Nat) : Mapping :=
  let first := max start mapping.start
  { mapping with
    start := first
    stop := min stop mapping.stop
    source := mapping.source.skip (first - mapping.start) }

/-- What is left of a mapping before a range. -/
def before (mapping : Mapping) (start : Nat) : List Mapping :=
  if mapping.start < start then [mapping.part mapping.start start] else []

/-- What is left of a mapping behind a range. -/
def behind (mapping : Mapping) (stop : Nat) : List Mapping :=
  if stop < mapping.stop then [mapping.part stop mapping.stop] else []

/-- Whether a protection key takes an access away: the first of its two bits forbids all, the second
forbids writing. -/
def keyForbids (rights : UInt64) (key : Nat) (access : Access) : Bool :=
  let bits := (rights >>> (UInt64.ofNat (2 * key))) &&& 3
  match access with
  | .read => bits &&& 1 != 0
  | .write => bits != 0
  | .run => false

/-- Whether an access is allowed. What can be written or run can be read as well. -/
def allows (mapping : Mapping) (rights : UInt64) (access : Access) : Bool :=
  let allowed := match access with
    | .read => mapping.access != 0
    | .write => mapping.access &&& 2 != 0
    | .run => mapping.access &&& 4 != 0
  allowed && !mapping.guarded && !keyForbids rights mapping.key access

/-- The lowest address that other mappings leave free for this one. -/
def lowestClaimed (mapping : Mapping) : Nat :=
  if mapping.growsDown then mapping.start - 0x100000 else mapping.start

/-- Whether a mapping goes on where another one ends. -/
def continues (next mapping : Mapping) : Bool :=
  mapping.stop = next.start
    && { next with
          start := mapping.start
          stop := mapping.stop
          source := mapping.source } = mapping
    && mapping.source.skip (mapping.stop - mapping.start) = next.source
    && !(mapping.shared && mapping.source = .zeros)

end Mapping

/-- An address space. -/
structure Space where
  /-- The mappings, in the order of their addresses. -/
  mappings : List Mapping := []
  /-- The pages that were written and belong to this space alone. -/
  pages : Std.HashMap Nat Page := {}
  /-- Where the data that can grow starts and ends. -/
  breakStart : Nat := 0
  breakStop : Nat := 0
  /-- The protection keys in use, one bit each. -/
  keys : Nat := 1
  /-- The key of pages that can only be run. -/
  runOnlyKey : Option Nat := none
  /-- Whether pages that can be written can never be run. -/
  writeOrRun : Bool := false
  /-- Whether that is for this space alone, and not for those that come from it. -/
  writeOrRunHere : Bool := false
  /-- The number of the file that was loaded. -/
  executable : Nat := 0
  /-- Whether the pages of mappings to come have to stay in memory. -/
  futureResidence : Residence := .free
  /-- The ways in which threads may be held up that were asked for, one bit for each. -/
  barriers : Nat := 0
  /-- Which large pages are not used. -/
  largePages : Nat := 0
  /-- Whether pages with the same content may become one. -/
  merging : Bool := false
  /-- In how many queues threads wait at places of memory, if that was said. -/
  queues : Nat := 0
  /-- What the program was told about the machine when it started. -/
  auxiliary : ByteArray := .empty

namespace Space

/-- The mapping that has an address. -/
def find? (space : Space) (address : Nat) : Option Mapping :=
  space.mappings.find? (·.contains address)

/-- The first mapping that ends behind an address. -/
def findFrom? (space : Space) (address : Nat) : Option Mapping :=
  space.mappings.find? fun mapping => address < mapping.stop

/-- Whether nothing is mapped in a range. -/
def isFree (space : Space) (start stop : Nat) : Bool :=
  !space.mappings.any (·.meets start stop)

/-- Whether a range can be used for a new mapping that may also lie elsewhere. -/
def isRoom (space : Space) (start stop : Nat) : Bool :=
  !space.mappings.any fun mapping => mapping.lowestClaimed < stop && start < mapping.stop

/-- The mappings in a range, cut to it. -/
def within (space : Space) (start stop : Nat) : List Mapping :=
  (space.mappings.filter (·.meets start stop)).map (·.part start stop)

/-- Whether a range is mapped without a hole. -/
def isCovered (space : Space) (start stop : Nat) : Bool :=
  (space.within start stop).foldl
    (fun reached mapping => if mapping.start ≤ reached then mapping.stop else reached) start == stop

/-- The highest place for so many bytes below `top`. -/
def gap? (space : Space) (length top : Nat) : Option Nat :=
  let place := space.mappings.reverse.foldl
    (fun place mapping =>
      if mapping.lowestClaimed < place + length && place < mapping.stop then
        mapping.lowestClaimed - length
      else place)
    (top - length)
  if top < length || place < lowestMapped || !space.isRoom place (place + length) then none
  else some place

/-- Joins mappings that go on where others end. -/
def joined : List Mapping → List Mapping
  | [] => []
  | mapping :: rest =>
    match joined rest with
    | next :: others =>
      if next.continues mapping then { mapping with stop := next.stop } :: others
      else mapping :: next :: others
    | [] => [mapping]

/-- Puts a mapping in its place in a list. -/
def place (mapping : Mapping) : List Mapping → List Mapping
  | [] => [mapping]
  | first :: rest =>
    if mapping.start < first.start then mapping :: first :: rest else first :: place mapping rest

/-- The pages outside a range. -/
def pagesOutside (space : Space) (start stop : Nat) : Std.HashMap Nat Page :=
  if space.pages.isEmpty then space.pages
  else space.pages.filter fun page _ => page * pageBytes < start || stop ≤ page * pageBytes

/-- Takes away all that is mapped in a range. -/
def clear (space : Space) (start stop : Nat) : Space :=
  if space.isFree start stop then space
  else { space with
    mappings := space.mappings.flatMap fun mapping =>
      if mapping.meets start stop then mapping.before start ++ mapping.behind stop else [mapping]
    pages := space.pagesOutside start stop }

/-- Puts a mapping where nothing is mapped. -/
def insert (space : Space) (mapping : Mapping) : Space :=
  { space with mappings := joined (place mapping space.mappings) }

/-- Changes all mappings of a range. -/
def update (space : Space) (start stop : Nat) (change : Mapping → Mapping) : Space :=
  { space with
    mappings := joined (space.mappings.flatMap fun mapping =>
      if mapping.meets start stop then
        mapping.before start ++ change (mapping.part start stop) :: mapping.behind stop
      else [mapping]) }

/-- Forgets what was written in a range. -/
def forget (space : Space) (start stop : Nat) : Space :=
  { space with pages := space.pagesOutside start stop }

/-- The pages that were written in a range, at the places that they have after a move. -/
def movedPages (space : Space) (start stop target : Nat) : List (Nat × Page) :=
  (space.pages.toList.filter fun (page, _) =>
    start ≤ page * pageBytes && page * pageBytes < stop).map fun (page, bytes) =>
      (page - start / pageBytes + target / pageBytes, bytes)

/-- Puts pages in their places. -/
def withPages (space : Space) (pages : List (Nat × Page)) : Space :=
  { space with pages := pages.foldl (fun all (page, bytes) => all.insert page bytes) space.pages }

/-- The number of bytes that are mapped. -/
def total (space : Space) : Nat :=
  space.mappings.foldr (fun mapping bytes => mapping.stop - mapping.start + bytes) 0

/-- The number of bytes of a range that have to stay in memory. -/
def lockedBytes (space : Space) (start stop : Nat) : Nat :=
  (space.within start stop).foldr
    (fun mapping bytes =>
      if mapping.residence = .free then bytes else mapping.stop - mapping.start + bytes)
    0

/-- What was said about a space and goes over to those that come from it. -/
def heir (space base : Space) : Space :=
  { base with
    writeOrRun := space.writeOrRun && !space.writeOrRunHere
    writeOrRunHere := false
    largePages := space.largePages
    merging := space.merging }

/-- The space that a child gets. -/
def forked (space : Space) : Space :=
  let lost := space.mappings.filter fun mapping => !mapping.inherited || mapping.wiped
  let kept := { space.heir space with
    mappings := (space.mappings.filter (·.inherited)).map ({ · with residence := .free })
    futureResidence := .free
    queues := 0 }
  lost.foldl (fun space mapping => space.forget mapping.start mapping.stop) kept

end Space

end StaticElf.Linux
