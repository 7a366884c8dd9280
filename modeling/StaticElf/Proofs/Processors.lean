/-
**Running the code of programs, instruction by instruction.**

The processor that runs a file fetches from pages, decodes all instructions and may fault in many ways. In
code of programs it does what the actions of the code do to the registers, changes nothing else, and comes
to the next system call with the registers with which a program is meant to make it.

* `Linux.World.standing` — a world with the processor at another place and with other registers.
* `Linux.World.Shows` — the bytes that can be run from an address on, and are in memory.
* `Linux.Kernel.run_step` — one instruction, for any action that it is decoded to.
* `Linux.World.HoldsCode` — code that can be run, up to its end.
* `Linux.World.runSlice_load`, `Linux.World.runSlice_trap` — one action of code within a slice of time.
* `runSlice_syscall` — running up to the next system call.
-/

import StaticElf.Linux.Scheduler
import StaticElf.Proofs.Decoders
import StaticElf.Proofs.Interpretation

namespace StaticElf

/-! ### Parts of registers -/

theorem Machine.Registers.splice_and (kept old new mask : UInt64) (covers : mask &&& ~~~kept = ~~~kept) :
    splice kept old (new &&& mask) = splice kept old new := by
  rw [splice, splice, UInt64.and_assoc, covers]

/-- Bits that are not written do not matter. -/
theorem Machine.Registers.assign_mask (registers : Registers) (destination : Destination)
    (value : UInt64) :
    registers.assign destination (value &&& destination.width.mask)
      = registers.assign destination value := by
  cases destination with
  | low index width =>
    cases width with
    | byte => exact congrArg (registers.put index) (splice_and _ _ value 0xff (by decide))
    | word => exact congrArg (registers.put index) (splice_and _ _ value 0xffff (by decide))
    | dword => exact congrArg (registers.put index) (splice_and _ _ value 0xffffffff (by decide))
    | qword => exact congrArg (registers.put index) UInt64.and_neg_one
  | secondByte index =>
    have shifted : (value &&& OperandWidth.byte.mask) <<< 8 = (value <<< 8) &&& 0xff00 :=
      UInt64.shiftLeft_and
    show registers.put _ (splice _ _ ((value &&& OperandWidth.byte.mask) <<< 8)) = _
    rw [shifted]
    exact congrArg (registers.put _) (splice_and _ _ (value <<< 8) 0xff00 (by decide))

namespace Linux

/-! ### Actions of the kernel -/

namespace Kernel

variable {α β : Type} {world later : World}

theorem run_bind (action : Kernel α) (next : α → Kernel β) (world : World) :
    (action >>= next).run world
      = match action.run world with
        | (.ok value, later) => (next value).run later
        | (.error stop, later) => (.error stop, later) := by
  show ExceptT.bindCont next (action.run world).1 (action.run world).2 = _
  rcases action.run world with ⟨stop | value, later⟩
  · rfl
  · rfl

theorem run_bind_of_ok {action : Kernel α} {next : α → Kernel β} {value : α}
    (done : action.run world = (.ok value, later)) :
    (action >>= next).run world = (next value).run later := by
  rw [run_bind, done]

end Kernel

namespace World

/-- The world with its processor at an address and with other registers. -/
def standing (world : World) (registers : Registers) (next : UInt64) : World :=
  { world with cpu := { world.cpu with registers, next } }

/-- **The bytes that can be run from an address on.** They are in memory, so that fetching them changes
nothing, and registers have no part in it. -/
def Shows (world : World) (address : UInt64) (window : ByteArray) : Prop :=
  ∀ registers next, (Kernel.fetch address).run (world.standing registers next)
    = (.ok window, world.standing registers next)

/-- What the processor does when it does an action and then stands behind it. -/
def actionStep (world : World) (action : Machine.Action) (behind : UInt64) :
    Except Stop Sequel × World :=
  match action with
  | .load destination value =>
    (.ok (.proceed behind), world.standing (world.cpu.registers.assign destination value) behind)
  | .trap => (.ok .call, world.standing world.cpu.registers behind)

/-- Instructions are not watched one by one. -/
def Untraced (world : World) : Prop := world.cpu.flags &&& X86.Flag.trace = 0

end World

namespace Kernel

variable {world : World} {window : ByteArray} {action : Machine.Action} {rest : Bytes}

theorem run_fetch (shows : world.Shows world.cpu.next window) :
    (fetch world.cpu.next).run world = (.ok window, world) :=
  shows world.cpu.registers world.cpu.next

theorem run_execute_load (here next : UInt64) (destination : Machine.Destination) (value : UInt64) :
    (execute here next (Machine.Action.load destination value).instruction).run world
      = (.ok (.proceed next),
          world.standing (world.cpu.registers.assign destination value) world.cpu.next) := by
  have written : (executePlain here next (Machine.Action.load destination value).instruction).run
      world = (.ok (), world.standing (world.cpu.registers.assign destination
        (value &&& destination.width.mask)) world.cpu.next) := by
    cases destination with
    | low index width => rfl
    | secondByte index => rfl
  rw [Machine.Registers.assign_mask] at written
  exact run_bind_of_ok written

/-- **One instruction.** The processor does the action that its bytes are decoded to and stands behind
them. -/
theorem run_step (untraced : world.Untraced) (shows : world.Shows world.cpu.next window)
    (decodes : Machine.decode window.data.toList = some (action, rest)) :
    step.run world
      = world.actionStep action
        (world.cpu.next + UInt64.ofNat (window.size - rest.length)) := by
  have quiet : (world.cpu.flags &&& X86.Flag.trace != 0) = false := by
    rw [untraced]
    rfl
  rw [step]
  rw [run_bind_of_ok (show (get : Kernel World).run world = (.ok world, world) from rfl)]
  dsimp only
  rw [run_bind_of_ok (show flags.run world = (.ok world.cpu.flags, world) from rfl), quiet,
    run_bind_of_ok (run_fetch shows), X86.decode_of_decode decodes]
  dsimp only
  cases action with
  | load destination value =>
    rw [run_bind_of_ok (run_execute_load ..)]
    rfl
  | trap => rfl

end Kernel

/-! ### Code in memory -/

namespace World

open Machine (Action codeOf performAll)

section Code

variable {world : World} {start : UInt64} {rest : Bytes}

/-- **Code that can be run from an address on**, up to its end: wherever the processor stands in it, it
fetches what follows of the code, as much as an instruction can have, and maybe more behind it. -/
def HoldsCode (world : World) (start : UInt64) (code : Bytes) : Prop :=
  ∀ i, i < code.length → ∃ window, world.Shows (start + UInt64.ofNat i) window
    ∧ (code.drop i).take Machine.maxInstruction <+: window.data.toList

/-- Behind a part of the code there is the rest of it. -/
theorem HoldsCode.behind (first : Bytes) (holds : world.HoldsCode start (first ++ rest)) :
    world.HoldsCode (start + UInt64.ofNat first.length) rest := by
  intro i within
  obtain ⟨window, shows, begins⟩ := holds (first.length + i) (by rw [List.length_append]; omega)
  refine ⟨window, ?_, ?_⟩
  · rw [UInt64.add_assoc, ← UInt64.ofNat_add]
    exact shows
  · rwa [List.drop_length_add_append] at begins

/-- **One instruction of code** does what the action in front does. -/
theorem step_code {action : Action} (plain : action.Plain) (untraced : world.Untraced)
    (holds : world.HoldsCode world.cpu.next (action.code ++ rest)) :
    Kernel.step.run world
      = world.actionStep action (world.cpu.next + UInt64.ofNat action.code.length) := by
  have notEmpty := Machine.length_code_pos plain
  obtain ⟨window, shows, begins⟩ := holds 0 (by rw [List.length_append]; omega)
  rw [List.drop_zero, List.take_append, List.take_of_length_le (Machine.length_code_le action)]
    at begins
  rw [show world.cpu.next + UInt64.ofNat 0 = world.cpu.next from UInt64.add_zero _] at shows
  obtain ⟨more, whole⟩ := (List.prefix_append ..).trans begins
  have decodes : Machine.decode window.data.toList = some (action, more) := by
    rw [← whole, Machine.decode_code plain]
  have size : window.size = action.code.length + more.length := by
    rw [← ByteArray.size_data, ← Array.length_toList, ← whole, List.length_append]
  rw [Kernel.run_step untraced shows decodes, size, Nat.add_sub_cancel]

end Code

/-! ### Runs through code -/

section Runs

variable {world : World} {start : UInt64} {rest : Bytes}

/-- What follows a system call in a slice: the thread goes on, unless it waits or has ended. -/
def goesOn (called : World) (most : Nat) : World × Nat :=
  if called.running.activity = .running then called.runSlice most else (called, most)

/-- A load is one instruction of a slice. -/
theorem runSlice_load {destination : Machine.Destination} {value : UInt64}
    (plain : (Action.load destination value).Plain) (untraced : world.Untraced)
    (holds : world.HoldsCode start ((Action.load destination value).code ++ rest))
    (registers : Registers) (most : Nat) :
    (world.standing registers start).runSlice (most + 1)
      = (world.standing (registers.assign destination value)
          (start + UInt64.ofNat (Action.load destination value).code.length)).runSlice most := by
  have done : Kernel.step.run (world.standing registers start) = _ := step_code plain untraced holds
  rw [runSlice, done]
  rfl

/-- A trap is a system call. -/
theorem runSlice_trap (untraced : world.Untraced)
    (holds : world.HoldsCode start (Action.trap.code ++ rest)) (registers : Registers) (most : Nat) :
    (world.standing registers start).runSlice (most + 1)
      = ((world.standing registers (start + UInt64.ofNat Action.trap.code.length)).call
          false).goesOn most := by
  have plain : Action.trap.Plain := trivial
  have done : Kernel.step.run (world.standing registers start) = _ := step_code plain untraced holds
  rw [runSlice, done]
  rfl

end Runs

end World

end Linux

/-! ### Runs through programs -/

open Machine

/-- **Up to the next system call**, code of a program does to the registers what the program means, and
nothing else. The call is made with the registers with which the interpretation enters the kernel, and
behind it stands the code of what follows it in the program. -/
theorem runSlice_syscall {lookup : SymbolLookup} {before after : List Slot} {number : SyscallNumber}
    {code : Bytes} (encoded : encodeAll? lookup (before ++ .op (.syscall number) :: after) = .ok code)
    (noCall : ∀ slot ∈ before, slot.isSyscall = false) {world : Linux.World}
    (untraced : world.Untraced) {start : UInt64} (holds : world.HoldsCode start code)
    (registers : Registers) :
    ∃ entering done later, code = done ++ later ∧ encodeAll? lookup after = .ok later
      ∧ (∀ kernel entries, interpretAll? lookup kernel ⟨registers, entries⟩
          (before ++ [.op (.syscall number)]) = some ⟨kernel entering, entries ++ [entering]⟩)
      ∧ ∃ steps ≤ done.length, ∀ most, (world.standing registers start).runSlice (most + steps)
        = ((world.standing entering (start + UInt64.ofNat done.length)).call false).goesOn most := by
  induction before generalizing start code registers with
  | nil =>
    obtain ⟨own, later, here, others, rfl⟩ := encodeAll?_cons_eq_ok encoded
    obtain ⟨actions, found, rfl⟩ := Slot.encode?_eq_ok_iff.mp here
    cases found
    have plain : (Action.load (.low Register.accumulator .dword) number.value.toUInt64).Plain :=
      OperandWidth.cut_toUInt64 number.value
    rw [codeOf_cons, codeOf_cons, codeOf_nil, List.append_nil] at holds ⊢
    refine ⟨registers.assign (.low Register.accumulator .dword) number.value.toUInt64, _, later, rfl,
      others, fun kernel entries => ?_, 2, ?_, fun most => ?_⟩
    · rw [List.nil_append, interpretAll?_eq]
      rfl
    · rw [List.length_append]
      exact Nat.le_add_left ..
    · rw [List.append_assoc] at holds
      rw [Linux.World.runSlice_load plain untraced holds registers (most + 1),
        Linux.World.runSlice_trap untraced (holds.behind _), List.length_append, UInt64.ofNat_add,
        UInt64.add_assoc]
  | cons slot before ih =>
    obtain ⟨own, later, here, others, rfl⟩ := encodeAll?_cons_eq_ok encoded
    obtain ⟨actions, found, rfl⟩ := Slot.encode?_eq_ok_iff.mp here
    obtain ⟨index, width, value, whole, rfl⟩ := Slot.actions?_eq_some found
    obtain ⟨noTrap, quiet⟩ := List.forall_mem_cons.mp noCall
    have plain : (Action.load (.low index width) value).Plain := whole
    rw [noTrap] at found holds ⊢
    rw [if_neg Bool.false_ne_true, codeOf_cons, codeOf_nil, List.append_nil] at holds ⊢
    obtain ⟨entering, done, rest, split, behind, meaning, steps, few, runs⟩ :=
      ih others quiet (holds.behind _) (registers.assign (.low index width) value)
    refine ⟨entering, (Action.load (.low index width) value).code ++ done, rest, ?_, behind,
      fun kernel entries => ?_, steps + 1, ?_, fun most => ?_⟩
    · rw [split, List.append_assoc]
    · rw [List.cons_append, interpretAll?, List.foldlM_cons, Slot.interpret?_eq, found]
      exact meaning kernel entries
    · have notEmpty := Machine.length_code_pos plain
      rw [List.length_append]
      omega
    · rw [← Nat.add_assoc, Linux.World.runSlice_load plain untraced holds, runs, List.length_append,
        UInt64.ofNat_add, UInt64.add_assoc]

end StaticElf
