/-
**Locks of ranges of files.**

A lock is held by all that share file descriptors, or by an open file. It keeps others from locking the same
bytes, unless both only read.

* `FileLock.conflicts` — whether two locks cannot be held together.
* `FileLock.release`, `FileLock.acquire` — the locks of a world with a range less, and with a lock more.
-/

import StaticElf.Linux.Description

namespace StaticElf.Linux

/-- Who holds a lock. -/
inductive LockHolder where
  /-- Those that share file descriptors. -/
  | table (number : Nat)
  /-- An open file. -/
  | description (number : Nat)
  deriving DecidableEq, Repr

/-- The lock of a range of a file. -/
structure FileLock where
  file : FileKey
  holder : LockHolder
  /-- The number of the process that asked for the lock. -/
  process : Nat
  kind : LockKind
  first : Nat
  last : Nat
  deriving DecidableEq, Repr

/-- The lock of a whole file by an open file. -/
structure WholeLock where
  file : FileKey
  description : Nat
  kind : LockKind
  deriving DecidableEq, Repr

namespace FileLock

/-- Whether two locks are held by the same and lie in the same file. -/
def sameHolder (lock other : FileLock) : Bool :=
  lock.file = other.file && lock.holder = other.holder

/-- Whether two locks have a byte in common. -/
def overlaps (lock other : FileLock) : Bool := lock.first ≤ other.last && other.first ≤ lock.last

/-- Whether two locks have a byte in common or lie side by side. -/
def touches (lock other : FileLock) : Bool :=
  lock.first ≤ other.last + 1 && other.first ≤ lock.last + 1

/-- Whether two locks cannot be held together. -/
def conflicts (lock other : FileLock) : Bool :=
  lock.file = other.file && lock.holder ≠ other.holder && lock.overlaps other
    && (lock.kind = .exclusive || other.kind = .exclusive)

/-- What is left of a lock when the range of another one is taken away. -/
def outside (lock range : FileLock) : List FileLock :=
  (if lock.first < range.first then [{ lock with last := range.first - 1 }] else [])
    ++ (if range.last < lock.last then [{ lock with first := range.last + 1 }] else [])

/-- The locks without what their holder has in a range. -/
def release (range : FileLock) (locks : List FileLock) : List FileLock :=
  locks.flatMap fun lock =>
    if lock.sameHolder range && lock.overlaps range then lock.outside range else [lock]

/-- The locks with one more. It takes the place of what its holder has in its range, and becomes one with
locks of the same kind that it touches. -/
def acquire (added : FileLock) (locks : List FileLock) : List FileLock :=
  let locks := release added locks
  let joins (lock : FileLock) : Bool :=
    lock.sameHolder added && lock.kind = added.kind && lock.touches added
  let joined := (locks.filter joins).foldl
    (fun (whole : FileLock) lock =>
      { whole with first := min whole.first lock.first, last := max whole.last lock.last })
    added
  locks.filter (fun lock => !joins lock) ++ [joined]

end FileLock

end StaticElf.Linux
