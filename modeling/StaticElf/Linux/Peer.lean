/-
**Threads that a call is about.**

* `Peer` — a thread that is known, or one outside.
* `Kernel.peerNumbered` — the thread with a number.
* `Kernel.visible` — the thread with a number, if it lets others look into it.
-/

import StaticElf.Linux.Arguments

namespace StaticElf.Linux

/-- A thread that a call is about: one of those that are known, or one outside. -/
inductive Peer where
  | inside (index : Nat)
  | outside
  deriving DecidableEq, Repr

namespace Kernel

/-- The thread with a number, or the running one for zero. -/
def peerNumbered (number : Int) : Kernel Peer := do
  let world ← get
  if number = 0 then return .inside world.current
  if number = 1 then return .outside
  let found := (List.range world.threads.size).find? fun index =>
    world.isAlive index && ((world.threads.getD index {}).number : Int) = number
  return .inside (← ofOption found .noProcess)

/-- The thread with a number, or the running one for zero. One outside does not let others look into it. -/
def visible (number : Int) : Kernel Nat := do
  match ← peerNumbered number with
  | .inside index => return index
  | .outside => fail .notPermitted

end Kernel

end StaticElf.Linux
