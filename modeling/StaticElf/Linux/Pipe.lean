/-
**Pipes.**

What is written to a pipe is kept in slots of a page each until it is read.

* `Pipe.parts` — the parts in which a write is done; each is taken from memory as a whole.
* `Pipe.append` — puts a part into a pipe.
* `Pipe.ready`, `Pipe.take` — what can be read, and what is left when it was read.

A pipe whose reader is outside is never full, and all that was written to it is kept.
-/

import StaticElf.Linux.Pages

namespace StaticElf.Linux

/-- A slot of a pipe that is in use. -/
structure Slot where
  bytes : ByteArray
  /-- Whether the next write may go into the same page. -/
  open_ : Bool := true
  /-- How much of the page was used, what was read included. -/
  used : Nat
  /-- Whether the slot is read as a whole. -/
  packet : Bool := false

/-- A pipe. -/
structure Pipe where
  /-- The slots in use, the first to be read first. -/
  slots : List Slot := []
  /-- The number of slots. -/
  capacity : Nat := 16
  /-- Whether what is written is read outside. -/
  outside : Bool := false
  /-- What was written to be read outside, the last first. -/
  written : List ByteArray := []
  /-- How much of the last page that was written for outside is filled, nothing if it is closed. -/
  filled : Nat := 0
  /-- The node of a pipe with a name. -/
  node : Option Nat := none
  /-- For a pipe with a name: how often it was opened for reading and for writing. -/
  readersSeen : Nat := 0
  writersSeen : Nat := 0

namespace Pipe

/-- All that was written to a pipe that is read outside. -/
def output (pipe : Pipe) : Bytes :=
  (pipe.written.foldl (fun all part => part.toList ++ all) [] : List UInt8)

/-- The number of bytes that can be read. -/
def length (pipe : Pipe) : Nat := pipe.slots.foldr (fun slot bytes => slot.bytes.size + bytes) 0

/-- Whether all slots are in use. -/
def isFull (pipe : Pipe) : Bool := !pipe.outside && pipe.capacity ≤ pipe.slots.length

/-- The number of free slots. -/
def room (pipe : Pipe) : Nat := if pipe.outside then 0x100000 else pipe.capacity - pipe.slots.length

/-- How much of the last page is filled, nothing if no more can go there. -/
def lastFilled (pipe : Pipe) : Nat :=
  if pipe.outside then pipe.filled
  else match pipe.slots.getLast? with
    | some slot => if slot.open_ then slot.used else 0
    | none => 0

/-- Whether so many bytes go into the last page. -/
def fits (pipe : Pipe) (count : Nat) : Bool :=
  pipe.lastFilled ≠ 0 && pipe.lastFilled + count ≤ pageBytes

/-- The sizes of the parts in which so many bytes are written. They are whole pages; what is left comes
first if it fits into the last page, and else last. -/
def parts (pipe : Pipe) (count : Nat) : List Nat :=
  let pages := List.replicate (count / pageBytes) pageBytes
  let rest := count % pageBytes
  if rest = 0 then pages
  else if pipe.fits rest then rest :: pages
  else pages ++ [rest]

/-- Puts a part into the last page. -/
def extend (pipe : Pipe) (part : ByteArray) : Pipe :=
  if pipe.outside then
    { pipe with written := part :: pipe.written, filled := pipe.filled + part.size }
  else { pipe with
    slots := pipe.slots.dropLast ++ (pipe.slots.getLast?.map fun slot =>
      { slot with bytes := slot.bytes ++ part, used := slot.used + part.size }).toList }

/-- Puts a part into a slot of its own. -/
def push (pipe : Pipe) (slot : Slot) : Pipe :=
  if pipe.outside then
    { pipe with
      written := slot.bytes :: pipe.written
      filled := if slot.open_ then slot.used else 0 }
  else { pipe with slots := pipe.slots ++ [slot] }

/-- The slots from which so many bytes are read, each with how many of its bytes. A packet is read
alone. -/
def ready (count : Nat) : List Slot → List (Slot × Nat)
  | [] => []
  | slot :: rest =>
    if count = 0 then []
    else if slot.packet then [(slot, min count slot.bytes.size)]
    else if slot.bytes.size ≤ count then
      (slot, slot.bytes.size) :: ready (count - slot.bytes.size) rest
    else [(slot, count)]

/-- Takes so many bytes of the first slot away. What is left of a packet is lost. -/
def take (pipe : Pipe) (count : Nat) : Pipe :=
  match pipe.slots with
  | [] => pipe
  | slot :: rest =>
    if slot.packet || slot.bytes.size ≤ count then { pipe with slots := rest }
    else { pipe with
      slots := { slot with bytes := slot.bytes.extract count slot.bytes.size } :: rest }

end Pipe

end StaticElf.Linux
