/-
**Signals.**

* `SignalSet` — a set of signals.
* `SignalInfo` — a signal that was sent, and why.
* `Disposition` — what a process wants to be done about a signal; `usualAction` is what is done if it
  does not say.
-/

import StaticElf.Bytes

namespace StaticElf.Linux

/-- A set of signals: the lowest bit stands for the first of them. -/
abbrev SignalSet := UInt64

namespace Signal

def illegal : Nat := 4
def trap : Nat := 5
def bus : Nat := 7
def arithmetic : Nat := 8
def kill : Nat := 9
def segment : Nat := 11
def pipe : Nat := 13
def alarm : Nat := 14
def child : Nat := 17
def resume : Nat := 18
def stop : Nat := 19
def fileSize : Nat := 25
def virtualAlarm : Nat := 26
def profile : Nat := 27
def badCall : Nat := 31

/-- The signals that exist. -/
def isValid (signal : Nat) : Bool := 1 ≤ signal && signal ≤ 64

/-- The set of one signal. -/
def bit (signal : Nat) : SignalSet := 1 <<< UInt64.ofNat (signal - 1)

/-- Whether a signal is in a set. -/
def isIn (signal : Nat) (set : SignalSet) : Bool := set &&& bit signal != 0

/-- The signals that cannot be blocked, caught or ignored. -/
def untouchable : SignalSet := bit kill ||| bit stop

/-- The signals that a process brings on itself by an instruction. -/
def synchronous : SignalSet :=
  bit illegal ||| bit trap ||| bit bus ||| bit arithmetic ||| bit segment ||| bit badCall

/-- What is done about a signal. -/
inductive UsualAction where
  | terminate
  | ignore
  | stop
  | resume
  deriving DecidableEq, Repr

/-- What is done about a signal if the process does not say. -/
def usualAction (signal : Nat) : UsualAction :=
  if signal = child || signal = 23 || signal = 28 then .ignore
  else if signal = resume then .resume
  else if stop ≤ signal && signal ≤ 22 then .stop
  else .terminate

end Signal

/-- A signal that was sent: its number, why it was sent, and what is told with it. -/
structure SignalInfo where
  signal : Nat
  /-- Why it was sent: by another process (0), by the kernel (128), or by what an instruction did. -/
  code : Int := 0
  /-- What is told with it, from the sixteenth byte on. -/
  detail : List UInt64 := []
  /-- An error that is told with it. -/
  errno : Nat := 0
  deriving DecidableEq, Repr

/-- What a process wants to be done about a signal. -/
structure Disposition where
  /-- Nothing special (0), nothing at all (1), or the address of a handler. -/
  handler : UInt64 := 0
  flags : UInt64 := 0
  restorer : UInt64 := 0
  /-- The signals that are blocked while the handler runs. -/
  mask : SignalSet := 0
  deriving DecidableEq, Repr

namespace Disposition

/-- The handler runs on the alternate stack. -/
def onStack : UInt64 := 0x08000000
/-- Calls that were interrupted are made again. -/
def restart : UInt64 := 0x10000000
/-- The signal is not blocked while its handler runs. -/
def nested : UInt64 := 0x40000000
/-- The handler is forgotten when it runs. -/
def once : UInt64 := 0x80000000
/-- The handler returns to the restorer. -/
def restores : UInt64 := 0x04000000
/-- Children that end are forgotten. -/
def forgetChildren : UInt64 := 2

/-- Whether a flag is set. -/
def has (disposition : Disposition) (flag : UInt64) : Bool := disposition.flags &&& flag != 0

/-- Whether the signal does nothing to a process with this disposition. -/
def ignores (disposition : Disposition) (signal : Nat) : Bool :=
  disposition.handler = 1 || (disposition.handler = 0 && Signal.usualAction signal = .ignore)

end Disposition

/-- What a process wants to be done about each signal. -/
abbrev Dispositions := Array Disposition

/-- Nothing special for any signal. -/
def Dispositions.usual : Dispositions := Array.replicate 65 {}

/-- What is to be done about a signal. -/
def Dispositions.get (dispositions : Dispositions) (signal : Nat) : Disposition :=
  dispositions.getD signal {}

/-- What is left of the dispositions when another file is loaded: handlers are gone, but what is ignored
stays so. -/
def Dispositions.afterLoad (dispositions : Dispositions) : Dispositions :=
  dispositions.map fun disposition =>
    if disposition.handler = 1 then { handler := 1 } else {}

end StaticElf.Linux
