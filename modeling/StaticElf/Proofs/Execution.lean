/-
**Running an executable is interpreting its program.**

Every layer gives its part: the builder puts code and data where its addresses say, the file and the
memory hold what was built, and a processor that fetches from there decodes the actions of the
program one by one.

* `Machine.Memory.HoldsCode.fetch` — what is fetched from code in memory.
* `Machine.step_code` — one step does what the action in front does.
* `Machine.run_codeOf` — a run through the code does what all its actions do.
* `run_emitted` — a program that was built and emitted runs as it is interpreted, with any kernel.
-/

import StaticElf.Proofs.Interpretation
import StaticElf.Proofs.Loading
import StaticElf.Proofs.Placing

namespace StaticElf

namespace Machine

/-! ### Steps -/

section Steps

variable {memory : Memory} {start : Nat} {rest : Bytes} {action : Action}

/-- Behind a part of the code there is the rest of it. -/
theorem Memory.HoldsCode.behind (first : Bytes) (holds : memory.HoldsCode start (first ++ rest)) :
    memory.HoldsCode (start + first.length) rest := by
  intro i within
  have whole := holds (first.length + i) (by rw [List.length_append]; omega)
  rw [Nat.add_assoc, whole, List.getElem?_append_right (Nat.le_add_right _ _),
    Nat.add_sub_cancel_left]

/-- **What is fetched from code** is the code, up to its end. -/
theorem Memory.HoldsCode.fetch {code : Bytes} (holds : memory.HoldsCode start code) (count : Nat) :
    memory.fetch count start = code.take count := by
  induction count generalizing start code with
  | zero => rfl
  | succ count ih =>
    have here := holds 0 (Nat.zero_le _)
    cases code with
    | nil =>
      rw [Memory.fetch, show memory.runnable? start = none from here]
      rfl
    | cons byte code =>
      have later : memory.HoldsCode (start + 1) code := behind [byte] holds
      rw [Memory.fetch, show memory.runnable? start = some byte from here]
      exact congrArg (byte :: ·) (ih later)

/-- The step that does an action and goes on at `next`. -/
def Action.stepTo (action : Action) (registers : Registers) (next : Nat) : StepResult :=
  match action with
  | .load destination value => .next ⟨registers.assign destination value, next⟩
  | .trap => .trap ⟨registers, next⟩

/-- **One step**: the processor reads the action in front, whatever follows it, and does it. -/
theorem step_code (plain : action.Plain) (holds : memory.HoldsCode start (action.code ++ rest))
    (registers : Registers) :
    step memory ⟨registers, start⟩ = action.stepTo registers (start + action.code.length) := by
  have window : memory.fetch maxInstruction start
      = action.code ++ rest.take (maxInstruction - action.code.length) := by
    rw [holds.fetch, List.take_append, List.take_of_length_le (length_code_le action)]
  have moved : (action.code ++ rest.take (maxInstruction - action.code.length)).length
      - (rest.take (maxInstruction - action.code.length)).length = action.code.length := by
    rw [List.length_append, Nat.add_sub_cancel]
  unfold step
  dsimp only
  rw [window, decode_code plain]
  dsimp only
  rw [moved]
  rfl

/-- Behind the code no step can be made. -/
theorem step_end (holds : memory.HoldsCode start []) (registers : Registers) :
    step memory ⟨registers, start⟩ = .fault := by
  unfold step
  dsimp only
  rw [holds.fetch]
  rfl

end Steps

/-! ### Runs -/

section Runs

variable {memory : Memory} (answer : Registers → Memory → Registers)

/-- One instruction of a run, which goes on behind it. -/
theorem run_code {start : Nat} {action : Action} {rest : Bytes} (plain : action.Plain)
    (holds : memory.HoldsCode start (action.code ++ rest)) (fuel : Nat) (progress : Progress) :
    run (answering answer) (fuel + 1) memory ⟨progress.registers, start⟩ progress.entries =
      let after := action.perform (answer · memory) progress
      run (answering answer) fuel memory ⟨after.registers, start + action.code.length⟩
        after.entries := by
  rw [run, step_code plain holds]
  cases action with
  | load destination value => rfl
  | trap => rfl

/-- **A run through code** does what its actions do, and comes to its end. -/
theorem run_codeOf {actions : List Action} (plain : ∀ action ∈ actions, action.Plain) {start : Nat}
    (holds : memory.HoldsCode start (codeOf actions)) (fuel : Nat) (progress : Progress) :
    run (answering answer) (actions.length + fuel) memory ⟨progress.registers, start⟩
        progress.entries =
      let final := performAll (answer · memory) progress actions
      run (answering answer) fuel memory ⟨final.registers, start + (codeOf actions).length⟩
        final.entries := by
  -- The fuel for what follows the code is kept as it is; the place and the progress move.
  induction actions generalizing start progress with
  | nil =>
    rw [List.length_nil, Nat.zero_add]
    rfl
  | cons action actions ih =>
    have here : action.Plain := plain action List.mem_cons_self
    have later := ih (fun other member => plain other (List.mem_cons_of_mem _ member))
      (holds.behind action.code)
    rw [List.length_cons, Nat.add_right_comm, run_code answer here holds]
    dsimp only
    rw [later, codeOf_cons, List.length_append, Nat.add_assoc]
    rfl

end Runs

end Machine

/-! ### Programs -/

open Machine

/-- **A run through the code of a list** does what the list does, with the same entries into the
kernel, and ends behind the code, where nothing more can be run. -/
theorem run_encodeAll {lookup : SymbolLookup} {slots : List Slot} {code : Bytes}
    (encoded : encodeAll? lookup slots = .ok code) {memory : Memory} {start : Nat}
    (holds : memory.HoldsCode start code) (answer : Registers → Memory → Registers)
    (registers : Registers) :
    ∃ final, interpretAll? lookup (answer · memory) ⟨registers, []⟩ slots = some final
      ∧ ∃ steps, run (answering answer) steps memory ⟨registers, start⟩ []
          = ⟨.unfinished, ⟨final.registers, start + code.length⟩, final.entries⟩
        ∧ ∀ more, run (answering answer) (steps + 1 + more) memory ⟨registers, start⟩ []
          = ⟨.faulted, ⟨final.registers, start + code.length⟩, final.entries⟩ := by
  obtain ⟨actions, found, rfl⟩ := encodeAll?_eq_ok encoded
  have runs (fuel : Nat) := run_codeOf answer (plain_of_actionsOf? found) holds fuel ⟨registers, []⟩
  refine ⟨performAll (answer · memory) ⟨registers, []⟩ actions, ?_, actions.length, runs 0, ?_⟩
  · rw [interpretAll?_eq, found]
    rfl
  · intro more
    have ended : memory.HoldsCode (start + (codeOf actions).length) [] :=
      Memory.HoldsCode.behind (codeOf actions) (by rwa [List.append_nil])
    rw [Nat.add_assoc, runs, Nat.add_comm 1 more]
    dsimp only
    rw [run, step_end ended]

section Emitted

variable {layout : Layout} {program : Program} {assembly : Assembly}

/-- **A symbol can be read at its address.** -/
theorem Builder.Built.readable?_symbol (built : Builder.Built layout program assembly)
    (sized : assembly.Sized) (admissible : Elf.Admissible assembly) {file : ByteFile}
    (fileOf : Elf.FileOf assembly file) {index : Nat} {bytes : Bytes}
    (declared : program.symbols[index]? = some (some bytes)) :
    ∃ address, program.symbolAddress? layout.dataAddress ⟨index⟩ = some address
      ∧ address.toNat = layout.dataAddress.toNat + symbolOffset program.symbols index
      ∧ ∀ i, i < bytes.length →
        (exactMemory (Elf.imageOf assembly file)).readable? (address.toNat + i) = bytes[i]? := by
  obtain ⟨before, behind, content, offset⟩ := symbolContent_at declared
  have inside : index < program.symbols.length := (List.getElem?_eq_some_iff.mp declared).1
  have data : assembly.data = before ++ bytes ++ behind := built.data.trans content
  have length : assembly.data.length = before.length + bytes.length + behind.length := by
    rw [data, List.length_append, List.length_append]
  have start : assembly.dataAt.virtualAddress = layout.dataAddress := by rw [built.dataAt]
  have room : assembly.dataAt.virtualAddress.toNat + assembly.dataAt.memorySize.toNat
      ≤ 2 ^ 64 - 1 := admissible.data.endsInMemory
  rw [(built.toNat_memorySize sized).2, start] at room
  have address : (UInt64.ofNat (layout.dataAddress.toNat
      + symbolOffset program.symbols index)).toNat
      = layout.dataAddress.toNat + symbolOffset program.symbols index := by
    rw [UInt64.toNat_ofNat']
    exact Nat.mod_eq_of_lt (by omega)
  refine ⟨UInt64.ofNat (layout.dataAddress.toNat + symbolOffset program.symbols index),
    if_pos ⟨Int.natCast_nonneg index, inside⟩, address, ?_⟩
  intro i within
  have here := fileOf.readable?_data admissible (i := before.length + i) (by omega)
  rw [start, data, List.append_assoc, List.getElem?_append_right (Nat.le_add_right _ _),
    Nat.add_sub_cancel_left, List.getElem?_append_left within] at here
  rw [address, ← offset, Nat.add_assoc, here]

end Emitted

/-- **A program that was built and emitted runs as it is interpreted.** The file is loaded as its
own headers say and run from its entry. For all registers at the start and any kernel, which may
answer each entry with any registers, the run comes to the end of the code; on the way it enters the
kernel as often as the interpretation of the program does and each time with the same registers, and
the registers at the end are the same. The interpretation resolves a symbol to the start of the data
plus the lengths of the symbols before it; there the bytes of the symbol can be read. -/
theorem run_emitted {σ : Type} {output : Elf.Output (StateM σ)} {view : σ → OpenFile}
    (writes : output.WritesTo view) {verbose : Bool} {builder : Builder} {program : Program}
    {assembly : Assembly} {state : σ}
    (builds : (builder.build verbose (some program)).1.result = .ok assembly)
    (sized : assembly.Sized)
    (emits : ((Elf.emit verbose (some output) (some assembly)).run state).1.result = .ok ()) :
    let file := (view ((Elf.emit verbose (some output) (some assembly)).run state).2).file
    let lookup := program.symbolAddress? builder.layout.dataAddress
    ∃ image, Elf.Image.ofFile? file = some image
      ∧ (∀ (registers : Registers) (answer : Registers → Memory → Registers),
        ∃ final, interpretAll? lookup (answer · (exactMemory image)) ⟨registers, []⟩ program.slots
            = some final
          ∧ ∃ steps, run (answering answer) steps (exactMemory image)
                ⟨registers, image.entry.toNat⟩ []
              = ⟨.unfinished, ⟨final.registers, image.entry.toNat + assembly.code.length⟩,
                final.entries⟩
            ∧ ∀ more, run (answering answer) (steps + 1 + more) (exactMemory image)
                ⟨registers, image.entry.toNat⟩ []
              = ⟨.faulted, ⟨final.registers, image.entry.toNat + assembly.code.length⟩,
                final.entries⟩)
      ∧ ∀ (index : Nat) (bytes : Bytes), program.symbols[index]? = some (some bytes) →
        ∃ address, lookup ⟨index⟩ = some address
          ∧ address.toNat = builder.layout.dataAddress.toNat + symbolOffset program.symbols index
          ∧ ∀ i, i < bytes.length →
            (exactMemory image).readable? (address.toNat + i) = bytes[i]? := by
  intro file lookup
  have built := Builder.built_of_build builds
  have accepted := Elf.check_of_emit emits
  have admissible := (Elf.check_eq_ok_iff sized).mp accepted
  have fileOf : Elf.FileOf assembly file :=
    Elf.fileOf_view_emit writes verbose accepted sized state emits
  have holds := fileOf.holdsCode admissible (built.toNat_memorySize sized).1
  refine ⟨Elf.imageOf assembly file, fileOf.ofFile?, fun registers answer => ?_, ?_⟩
  · exact run_encodeAll built.code holds answer registers
  · intro index bytes declared
    exact built.readable?_symbol sized admissible fileOf declared

/-- Two symbols, a byte register that needs a bare REX byte, the address of the second symbol in an
upper register, and a system call. -/
def pointing : Program where
  symbols := [some [0x68], some [0x69, 0x21]]
  slots := [.op (.loadImm .si .byte 0x2ff), .op (.loadSymbol ⟨9⟩ ⟨1⟩), .op (.syscall .write)]

/-- What the program is built to, with the standard layout. -/
def pointingAssembly : Assembly where
  code := [0x40, 0xb6, 0xff,
    0x49, 0xb9, 0x01, 0x20, 0x40, 0, 0, 0, 0, 0,
    0xb8, 1, 0, 0, 0, 0x0f, 0x05]
  data := [0x68, 0x69, 0x21]
  codeAt := {
    offset := 0x1000, virtualAddress := 0x401000, physicalAddress := 0x401000, memorySize := 20 }
  dataAt := {
    offset := 0x2000, virtualAddress := 0x402000, physicalAddress := 0x402000, memorySize := 3 }

theorem run_emitted_pointing :
    (({} : Builder).build false (some pointing)).1.result = .ok pointingAssembly
      ∧ pointingAssembly.Sized
      ∧ ((Elf.emit false (some OpenFile.output) (some pointingAssembly)).run {}).1.result = .ok ()
      ∧ ∃ image, Elf.Image.ofFile?
            ((Elf.emit false (some OpenFile.output) (some pointingAssembly)).run {}).2.file
          = some image
        ∧ (∃ final, interpretAll? (pointing.symbolAddress? ({} : Builder).layout.dataAddress)
              (fun registers => registers) ⟨Registers.zero, []⟩ pointing.slots = some final
          ∧ ∃ steps, run (answering fun registers _ => registers) steps (exactMemory image)
                ⟨Registers.zero, image.entry.toNat⟩ []
              = ⟨.unfinished, ⟨final.registers, image.entry.toNat + pointingAssembly.code.length⟩,
                final.entries⟩)
        ∧ (exactMemory image).readable? 0x402001 = some 0x69 := by
  have builds : (({} : Builder).build false (some pointing)).1.result = .ok pointingAssembly := rfl
  have accepted : Elf.check pointingAssembly = .ok () := rfl
  have sized : pointingAssembly.Sized := by decide
  have emits := (Elf.emit_openFile false accepted sized {}).1
  obtain ⟨image, found, runs, symbols⟩ := run_emitted Elf.writesTo_openFile builds sized emits
  rw [id_eq] at found
  obtain ⟨final, interpreted, steps, reached, -⟩ :=
    runs Registers.zero fun registers _ => registers
  obtain ⟨address, -, place, held⟩ := symbols 1 [0x69, 0x21] rfl
  have first : (exactMemory image).readable? (address.toNat + 0) = some 0x69 := held 0 (by decide)
  rw [place] at first
  exact ⟨builds, sized, emits, image, found, ⟨final, interpreted, steps, reached⟩, first⟩

end StaticElf
