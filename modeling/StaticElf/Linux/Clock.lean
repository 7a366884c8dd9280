/-
**Clocks that ring.**

* `Alarm.pass` — how often a clock has rung by some time, and the clock after that.
* `World.ring` — sends the signals of all clocks that are due.
* `World.ringTimes` — when clocks ring next.
-/

import StaticElf.Linux.Transfer

namespace StaticElf.Linux

/-- How often a clock has rung by some time, and the clock after that. -/
def Alarm.pass (alarm : Alarm) (time : Nat) : Nat × Alarm :=
  let (times, due) := Kernel.rung alarm.due alarm.interval time
  (times, { alarm with due })

/-- The time that is left until a clock rings. -/
def Alarm.left (alarm : Alarm) (time : Nat) : Nat :=
  match alarm.due with
  | none => 0
  | some due => max 1 (due - time)

namespace World

/-- Lets one clock of a process ring if it is due. -/
def ringOne (world : World) (process time signal : Nat) (view : Process → Alarm)
    (update : Process → Alarm → Process) : World :=
  let (times, alarm) := (view (world.processes.getD process {})).pass time
  if times = 0 then world
  else (world.modifyProcess process fun process => update process alarm).send process
    { signal, code := 128 }

/-- Lets the clocks ring that a process made. -/
def ringMade (world : World) (process : Nat) : World :=
  (world.processes.getD process {}).madeAlarms.foldl
    (fun world made =>
      let (times, alarm) := made.alarm.pass world.clock
      if times = 0 then world
      else
        let world := world.modifyProcess process fun process => { process with
          madeAlarms := process.madeAlarms.map fun other =>
            if other.number = made.number then { other with alarm } else other }
        match made.signal with
        | none => world
        | some signal =>
          world.send process { signal, code := -2, detail := [UInt64.ofNat made.number, made.value] })
    world

/-- Sends the signals of all clocks of a process that are due. -/
def ringProcess (world : World) (index : Nat) : World :=
  let process := world.processes.getD index {}
  if process.ended.isSome || process.alarm.due.isNone && process.virtualAlarm.due.isNone
      && process.profileAlarm.due.isNone && process.madeAlarms.isEmpty then world
  else
    let world := world.ringOne index world.clock Signal.alarm Process.alarm
      fun process alarm => { process with alarm }
    let world := world.ringOne index process.spent Signal.virtualAlarm Process.virtualAlarm
      fun process virtualAlarm => { process with virtualAlarm }
    let world := world.ringOne index process.spent Signal.profile Process.profileAlarm
      fun process profileAlarm => { process with profileAlarm }
    world.ringMade index

/-- Sends the signals of all clocks that are due. -/
def ring (world : World) : World := (List.range world.processes.size).foldl ringProcess world

/-- When clocks ring next, those left out that only count while a process runs. -/
def ringTimes (world : World) : List Nat :=
  let processes := world.processes.toList.flatMap fun process =>
    if process.ended.isSome then []
    else process.alarm.due.toList ++ process.madeAlarms.filterMap (·.alarm.due)
  let files := world.openNumbers.filterMap fun number =>
    match (world.descriptions.getD number default).opened with
    | .timer due _ _ => due
    | _ => none
  processes ++ files

end World

end StaticElf.Linux
