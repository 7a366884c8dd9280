/-
**Filters of system calls.**

A filter is a list of steps on two numbers and sixteen places. Jumps only go forward, so it ends.

* `Filter.isSound` — whether a filter can be used.
* `Filter.run` — the verdict of a filter about a call.
* `Verdict` — what is done about the call.
-/

import StaticElf.Linux.Arguments

namespace StaticElf.Linux

namespace Filter

/-- What a filter works on. -/
structure State where
  value : UInt32 := 0
  index : UInt32 := 0
  places : Array UInt32 := Array.replicate 16 0

/-- What is done with a value and an operand, by the code of the step. -/
def compute (code : Nat) (value operand : UInt32) : UInt32 :=
  match code with
  | 0x00 => value + operand
  | 0x10 => value - operand
  | 0x20 => value * operand
  | 0x30 => if operand = 0 then 0 else value / operand
  | 0x40 => value ||| operand
  | 0x50 => value &&& operand
  | 0x60 => if operand < 32 then value <<< operand else 0
  | 0x70 => if operand < 32 then value >>> operand else 0
  | 0x80 => 0 - value
  | _ => value ^^^ operand

/-- Whether a jump is taken, by the code of the step. -/
def compare (code : Nat) (value operand : UInt32) : Bool :=
  match code with
  | 0x10 => value == operand
  | 0x20 => operand < value
  | 0x30 => operand ≤ value
  | _ => value &&& operand != 0

/-- The verdict of a filter about a call that is told in some bytes. -/
def run (told : ByteArray) (state : State) : List FilterStep → UInt32
  | [] => 0
  | step :: rest =>
    let constant := UInt32.ofNat step.operand
    let operand := if step.code &&& 8 ≠ 0 then state.index else constant
    match step.code with
    | 0x20 => run told { state with value := (littleEndian told step.operand 4).toUInt32 } rest
    | 0x80 => run told { state with value := 64 } rest
    | 0x81 => run told { state with index := 64 } rest
    | 0x00 => run told { state with value := constant } rest
    | 0x01 => run told { state with index := constant } rest
    | 0x60 => run told { state with value := state.places.getD step.operand 0 } rest
    | 0x61 => run told { state with index := state.places.getD step.operand 0 } rest
    | 0x02 =>
      run told { state with places := state.places.setIfInBounds step.operand state.value } rest
    | 0x03 =>
      run told { state with places := state.places.setIfInBounds step.operand state.index } rest
    | 0x07 => run told { state with index := state.value } rest
    | 0x87 => run told { state with value := state.index } rest
    | 0x06 => constant
    | 0x16 => state.value
    | 0x05 => run told state (rest.drop step.operand)
    | code =>
      if code % 8 = 5 then
        let taken := compare (code &&& 0xf0) state.value operand
        run told state (rest.drop (if taken then step.whenTrue else step.whenFalse))
      else run told { state with value := compute (code &&& 0xf0) state.value operand } rest
termination_by steps => steps.length
decreasing_by all_goals (simp only [List.length_drop, List.length_cons]; omega)

/-- The steps that a filter can have. -/
def knownCodes : List Nat :=
  [0x20, 0x80, 0x81, 0x06, 0x16, 0x04, 0x0c, 0x14, 0x1c, 0x24, 0x2c, 0x34, 0x3c, 0x44, 0x4c, 0x54,
    0x5c, 0x64, 0x6c, 0x74, 0x7c, 0x84, 0xa4, 0xac, 0x00, 0x01, 0x07, 0x87, 0x60, 0x61, 0x02, 0x03,
    0x05, 0x15, 0x1d, 0x35, 0x3d, 0x25, 0x2d, 0x45, 0x4d]

/-- Whether a step can stand before so many others. -/
def isSoundStep (behind : Nat) (step : FilterStep) : Bool :=
  knownCodes.contains step.code &&
    match step.code with
    | 0x20 => step.operand % 4 = 0 && step.operand < 64
    | 0x34 => step.operand ≠ 0
    | 0x64 | 0x74 => step.operand < 32
    | 0x60 | 0x61 | 0x02 | 0x03 => step.operand < 16
    | 0x05 => step.operand < behind
    | code => code % 8 ≠ 5 || (step.whenTrue < behind && step.whenFalse < behind)

/-- Whether every step is known and stays within the filter, and the last gives a verdict. -/
def staysWithin : List FilterStep → Bool
  | [] => false
  | [step] => step.code = 0x06 || step.code = 0x16
  | step :: rest => isSoundStep rest.length step && staysWithin rest

/-- Which places have a value, bit by bit: at the step that comes next, and at most at the later ones. -/
structure Filled where
  now : UInt32 := 0
  later : Array UInt32
  sound : Bool := true

/-- Which places have a value behind a step with a number. -/
def Filled.step (filled : Filled) (number : Nat) (step : FilterStep) : Filled :=
  let now := filled.now &&& filled.later.getD number 0xffffffff
  let place : UInt32 := 1 <<< UInt32.ofNat step.operand
  let reach (later : Array UInt32) (distance : Nat) : Array UInt32 :=
    later.modify (number + 1 + distance) (· &&& now)
  match step.code with
  | 0x02 | 0x03 => { filled with now := now ||| place }
  | 0x60 | 0x61 => { filled with now, sound := filled.sound && now &&& place != 0 }
  | 0x05 => { filled with now := 0xffffffff, later := reach filled.later step.operand }
  | code =>
    if code % 8 = 5 then { filled with
      now := 0xffffffff
      later := reach (reach filled.later step.whenTrue) step.whenFalse }
    else { filled with now }

/-- Whether every place has a value before it is looked at, on whatever way. -/
def fillsFirst (filter : List FilterStep) : Bool :=
  let start : Filled := { later := Array.replicate filter.length 0xffffffff }
  (filter.zipIdx.foldl (fun filled (step, number) => filled.step number step) start).sound

/-- Whether a filter can be used. -/
def isSound (filter : List FilterStep) : Bool := staysWithin filter && fillsFirst filter

end Filter

/-- What is done about a call that went through a filter. -/
inductive Verdict where
  | allow
  /-- The call is not made, and the thread or the process ends. -/
  | killThread
  | killProcess
  /-- The call is not made, and a signal tells that. -/
  | trap (data : Nat)
  | error (code : Nat)
  deriving DecidableEq, Repr

namespace Verdict

/-- How strong the verdict of a filter is: the least of them holds. -/
def rank (word : UInt32) : Int := (word &&& 0xffff0000).toInt32.toInt

/-- A verdict by its word. -/
def ofWord (word : UInt32) : Verdict :=
  let data := word.toNat % 65536
  match (word &&& 0xffff0000).toNat with
  | 0x7fff0000 | 0x7ffc0000 => .allow
  | 0x7ff00000 | 0x7fc00000 => .error 38
  | 0x00050000 => .error (min data 4095)
  | 0x00030000 => .trap data
  | 0x00000000 => .killThread
  | _ => .killProcess

end Verdict

/-- The verdict of all filters about a call. -/
def Confinement.verdict (confinement : Confinement) (told : ByteArray) : Verdict :=
  Verdict.ofWord <| confinement.filters.foldl
    (fun best filter =>
      let word := Filter.run told {} filter
      if Verdict.rank word < Verdict.rank best then word else best)
    0x7fff0000

namespace Kernel

/-- A call as it is told to filters. -/
def toldCall (number : Nat) (old : Bool) (arguments : Arguments) : Kernel ByteArray := do
  let next := (← get).cpu.next
  return wordBytes 4 (result number)
    ++ wordBytes 4 (if old then 0x40000003 else 0xc000003e) ++ packNumbers [next, arguments.first,
      arguments.second, arguments.third, arguments.fourth, arguments.fifth, arguments.sixth]

/-- The signal about a call that is not made. -/
def badCall (code : Int) (number data : Nat) : Kernel SignalInfo := do
  let next := (← get).cpu.next
  return {
    signal := Signal.badCall
    code
    detail := [next, result (number + 0x100000000 * 0xc000003e)]
    errno := data }

/-- The calls that a strictly confined thread can make: reading, writing, going on behind a handler, and
ending. -/
def strictCalls (old : Bool) : List Nat := if old then [3, 4, 1, 119] else [0, 1, 60, 15]

/-- What keeps a call from being made. -/
def checkConfinement (number : Nat) (old : Bool) (arguments : Arguments) : Kernel Unit := do
  let confinement := (← thread).confinement
  if confinement.strict && !(strictCalls old).contains number then
    modify fun world => world.endThreadBy world.current (.killed Signal.kill)
    throw .diverted
  if !confinement.filters.isEmpty then
    match confinement.verdict (← toldCall number old arguments) with
    | .allow => pure ()
    | .error code => fail ⟨code⟩
    | .trap data => throw (.fault (← badCall 1 number data))
    | .killThread =>
      modify fun world => world.endThreadBy world.current (.killed Signal.badCall)
      throw .diverted
    | .killProcess =>
      terminate (.killed Signal.badCall)
      throw .diverted

/-- Turns a call into a signal if the thread has asked for that. -/
def checkInterception (number : Nat) : Kernel Unit := do
  match (← thread).interception with
  | none => pure ()
  | some interception =>
    let outside := interception.length ≤ (← get).cpu.next - interception.start
    if outside then
      let selector ← if interception.selector = 0 then pure 1
        else (do
          match ← attempt (readNumber interception.selector 1) with
          | .ok selector => pure selector
          | .error _ =>
            terminate (.killed Signal.segment)
            throw .diverted)
      if selector = 1 then throw (.fault (← badCall 2 number 0))
      if selector != 0 then
        terminate (.killed Signal.badCall)
        throw .diverted

end Kernel

end StaticElf.Linux
