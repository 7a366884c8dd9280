/-
**Open files.**

A file descriptor is a number that stands for an open file; several numbers, also of several processes,
can stand for the same one.

* `Leaf` — what a file of the file system can be.
* `Opened` — what can be open; `Description` is an open file with its flags and its position.
* `FileKey` — a file, however it was opened.
* `Descriptors` — which open file each number of a process stands for.
-/

import Std.Data.HashMap
import StaticElf.FileSystem
import StaticElf.Linux.Signal

namespace StaticElf.Linux

/-- What a file of the file system can be. -/
inductive Leaf where
  /-- Bytes, by the number of their content. -/
  | regular (content : Nat)
  | null
  | zero
  | full
  | random
  /-- A pipe with a name, by its number. -/
  | pipe (number : Nat)
  /-- The name of a socket, by its number. -/
  | socket (number : Nat)
  /-- What stands for a name that is not there. -/
  | whiteout
  deriving DecidableEq, Repr

/-- A file, however it was opened. -/
inductive FileKey where
  | node (number : Nat)
  | memory (content : Nat)
  | pipe (number : Nat)
  | socket (number : Nat)
  /-- The one file behind all that is opened without one. -/
  | shared
  deriving DecidableEq, Repr

/-- What somebody waits for at an open file. -/
structure Interest where
  descriptor : Nat
  description : Nat
  events : Nat
  data : UInt64
  /-- Whether it was told and is not told again before it changes. -/
  silent : Bool := false
  deriving DecidableEq, Repr

/-- What can be open. -/
inductive Opened where
  /-- A node of the file system. -/
  | node (number : Nat)
  /-- A content without a name, and what can no longer be done with it. -/
  | memory (content : Nat) (seals : Nat)
  /-- An end of a pipe, or both. -/
  | pipe (number : Nat) (reads writes : Bool)
  | socket (number : Nat)
  /-- A number that is added to by writing and taken by reading. -/
  | counter (value : Nat) (single : Bool)
  /-- A clock: when it rings next, how often then, and how often it rang since it was read. -/
  | timer (due : Option Nat) (interval : Nat) (rang : Nat)
  /-- A list of open files that are waited for. -/
  | watch (interests : List Interest)
  /-- The signals of a set that have come. -/
  | signals (set : SignalSet)
  /-- A process that is known, or one outside; or one of its threads alone. -/
  | process (index : Option Nat) (alone : Option Nat)
  /-- Something that can be opened and closed, and not more. -/
  | other
  deriving DecidableEq, Repr

namespace OpenFlags

def writeOnly : Nat := 1
def readWrite : Nat := 2
def create : Nat := 0o100
def exclusive : Nat := 0o200
def truncate : Nat := 0o1000
def append : Nat := 0o2000
def nonBlocking : Nat := 0o4000
def dataSynchronous : Nat := 0o10000
def signalled : Nat := 0o20000
def direct : Nat := 0o40000
def largeFile : Nat := 0o100000
def directory : Nat := 0o200000
def noFollow : Nat := 0o400000
def noAccessTime : Nat := 0o1000000
def closeOnExec : Nat := 0o2000000
def synchronous : Nat := 0o4000000
def pathOnly : Nat := 0o10000000
def temporary : Nat := 0o20000000

end OpenFlags

/-- Who is told that something happened with an open file: a thread, a process or a group of processes,
by its kind and its number. -/
structure FileOwner where
  kind : Nat := 0
  number : Nat := 0
  deriving DecidableEq, Repr

/-- The kinds of locks. -/
inductive LockKind where
  | shared
  | exclusive
  deriving DecidableEq, Repr

/-- An open file. -/
structure Description where
  opened : Opened
  flags : Nat := 0
  position : Nat := 0
  owner : FileOwner := {}
  /-- The signal that the owner is sent, unless it is the usual one. -/
  signal : Nat := 0
  /-- Whether the file was made when it was opened. -/
  created : Bool := false
  /-- What others are kept from doing before this file is told. -/
  lease : Option LockKind := none
  deriving DecidableEq, Repr

instance : Inhabited Description := ⟨{ opened := .other }⟩

namespace Description

/-- Whether a flag is set. -/
def has (description : Description) (flag : Nat) : Bool := description.flags &&& flag != 0

/-- Whether only the name was asked for. -/
def pathOnly (description : Description) : Bool := description.has OpenFlags.pathOnly

/-- Whether the file can be read. -/
def readable (description : Description) : Bool :=
  description.flags &&& 3 != 1 && description.flags &&& 3 != 3 && !description.pathOnly

/-- Whether the file can be written. -/
def writable (description : Description) : Bool :=
  (description.flags &&& 3 == 1 || description.flags &&& 3 == 2) && !description.pathOnly

end Description

/-- What a file descriptor stands for. -/
structure Binding where
  description : Nat
  closeOnExec : Bool := false
  deriving DecidableEq, Repr

/-- The file descriptors of a process. -/
abbrev Descriptors := Std.HashMap Nat Binding

namespace Descriptors

/-- The lowest number from `least` on that is not in use. One of the first numbers is free, one more
than there are in use. -/
def lowestFree (descriptors : Descriptors) (least : Nat) : Nat :=
  let taken (number : Nat) : Nat := if descriptors.contains number then number + 1 else number
  (List.range (descriptors.size + 1)).foldl
    (fun number _ => taken number) least

end Descriptors

end StaticElf.Linux
