/-
**The code of a program can be read back.**

The code of an operation is the code of its actions, so the code of a list is the code of its normal
form, the list of all its actions. A decoder that reads from left to right gets the normal form
back, although the code of a load into `eax` is also the beginning of the code of a system call.

* `encodeAll?` — the code of a list, if every place of it has one.
* `Slot.toOption_encode?`, `toOption_encodeAll?` — what is encoded is the code of the actions.
* `syscallMarks_actionsOf?` — the places of the system calls can be told from the actions.
* `decodeAll_encodeAll` — the decoder gives the normal form back; lists have the same code exactly
  when they have the same normal form, and then their system calls stand at the same places.
-/

import StaticElf.Proofs.Instructions
import StaticElf.Proofs.Outcome

namespace StaticElf

/-- The code of a list: the codes of its places, one after the other. -/
def encodeAll? (lookup : SymbolLookup) (slots : List Slot) : Except EncodingError Bytes :=
  (slots.mapM (Slot.encode? lookup)).map List.flatten

/-- Whether a place of a list holds a system call. -/
def Slot.isSyscall : Slot → Bool
  | .op (.syscall _) => true
  | _ => false

/-! ### The code of one operation -/

section Operations

variable {lookup : SymbolLookup} {slot : Slot}

theorem Slot.encode?_of_lower? {instructions : List Instruction} {parts : List Bytes}
    (lowered : slot.lower? lookup = .ok instructions)
    (encoded : instructions.mapM Instruction.bytes? = .ok parts) :
    slot.encode? lookup = .ok parts.flatten := by
  unfold Slot.encode?
  rw [lowered]
  show instructions.mapM Instruction.bytes? >>= _ = _
  rw [encoded]
  rfl

theorem Slot.encode?_of_error {error : EncodingError}
    (refused : slot.lower? lookup = .error error) : slot.encode? lookup = .error error := by
  unfold Slot.encode?
  rw [refused]
  rfl

/-- The code of a `mov` and of what follows it. The value counts only up to its width. -/
theorem mapM_bytes?_mov (target : Fin 16) (width : OperandWidth) (value : UInt64)
    (later : List Instruction) :
    (Instruction.mov target width value :: later).mapM Instruction.bytes?
      = (later.mapM Instruction.bytes?).map
          ((Machine.Action.load (.low target width) (width.cut value)).code :: ·) := by
  rw [List.mapM_cons, Instruction.bytes?_mov, Machine.Action.code, immediateBytes_cut]
  rfl

theorem Slot.encode?_of_mov {target : Fin 16} {width : OperandWidth} {value : UInt64}
    (lowered : slot.lower? lookup = .ok [Instruction.mov target width value]) :
    slot.encode? lookup = .ok (Machine.codeOf [.load (.low target width) (width.cut value)]) :=
  Slot.encode?_of_lower? lowered (mapM_bytes?_mov target width value [])

theorem toOption_encode?_loadImm (register : Register) (width : Width) (value : UInt64) :
    ((Slot.op (.loadImm register width value)).encode? lookup).toOption
      = ((Slot.op (.loadImm register width value)).actions? lookup).map Machine.codeOf := by
  cases target : register.index? with
  | none =>
    have refused : (Slot.op (.loadImm register width value)).lower? lookup
        = .error (.registerOutOfRange register.ordinal) := by
      simp [Slot.lower?, Op.lower?, Instruction.mov?, target, Except.map]
    rw [Slot.encode?_of_error refused]
    simp [Slot.actions?, Op.actions?, target, Except.toOption]
  | some index =>
    cases operand : width.operand? with
    | none =>
      have refused : (Slot.op (.loadImm register width value)).lower? lookup
          = .error (.unknownWidth width.code) := by
        simp [Slot.lower?, Op.lower?, Instruction.mov?, target, operand, Except.map]
      rw [Slot.encode?_of_error refused]
      simp [Slot.actions?, Op.actions?, target, operand, Except.toOption]
    | some size =>
      have lowered : (Slot.op (.loadImm register width value)).lower? lookup
          = .ok [Instruction.mov index size value] := by
        simp [Slot.lower?, Op.lower?, Instruction.mov?, target, operand, Except.map]
      rw [Slot.encode?_of_mov lowered]
      simp [Slot.actions?, Op.actions?, target, operand, Except.toOption]

theorem toOption_encode?_loadSymbol (register : Register) (symbol : SymbolRef) :
    ((Slot.op (.loadSymbol register symbol)).encode? lookup).toOption
      = ((Slot.op (.loadSymbol register symbol)).actions? lookup).map Machine.codeOf := by
  cases resolved : lookup symbol with
  | none =>
    have refused : (Slot.op (.loadSymbol register symbol)).lower? lookup
        = .error (.unresolved symbol) := by
      simp [Slot.lower?, Op.lower?, resolved]
    rw [Slot.encode?_of_error refused]
    simp [Slot.actions?, Op.actions?, resolved, Except.toOption]
  | some address =>
    have asMov : (Slot.op (.loadSymbol register symbol)).lower? lookup
        = (Instruction.mov? register .qword address).map ([·]) := by
      simp [Slot.lower?, Op.lower?, Instruction.movAddress?, resolved]
    cases target : register.index? with
    | none =>
      have refused : (Slot.op (.loadSymbol register symbol)).lower? lookup
          = .error (.registerOutOfRange register.ordinal) := by
        simp [asMov, Instruction.mov?, target, Except.map]
      rw [Slot.encode?_of_error refused]
      simp [Slot.actions?, Op.actions?, resolved, target, Except.toOption]
    | some index =>
      have lowered : (Slot.op (.loadSymbol register symbol)).lower? lookup
          = .ok [Instruction.mov index .qword address] := by
        simp [asMov, Instruction.mov?, target, Except.map, Width.operand?, Width.qword]
      rw [Slot.encode?_of_mov lowered]
      simp [Slot.actions?, Op.actions?, resolved, target, Except.toOption, OperandWidth.cut]

theorem toOption_encode?_syscall (number : SyscallNumber) :
    ((Slot.op (.syscall number)).encode? lookup).toOption
      = ((Slot.op (.syscall number)).actions? lookup).map Machine.codeOf := by
  have encoded : (Instruction.syscall number).mapM Instruction.bytes? = .ok
      [(Machine.Action.load (.low Register.accumulator .dword) number.value.toUInt64).code,
        Machine.Action.trap.code] := by
    rw [Instruction.syscall, mapM_bytes?_mov, OperandWidth.cut_toUInt64]
    rfl
  rw [Slot.encode?_of_lower? rfl encoded]
  rfl

/-- **What stands in a list is encoded to the code of its actions**, and only what has actions is
encoded. -/
theorem Slot.toOption_encode? (lookup : SymbolLookup) (slot : Slot) :
    (slot.encode? lookup).toOption = (slot.actions? lookup).map Machine.codeOf := by
  cases slot with
  | reference operation => rfl
  | emptyReference form => rfl
  | empty => rfl
  | op operation =>
    cases operation with
    | loadImm register width value => exact toOption_encode?_loadImm register width value
    | loadSymbol register symbol => exact toOption_encode?_loadSymbol register symbol
    | syscall number => exact toOption_encode?_syscall number

theorem Slot.encode?_eq_ok_iff {code : Bytes} :
    slot.encode? lookup = .ok code
      ↔ ∃ actions, slot.actions? lookup = some actions ∧ Machine.codeOf actions = code := by
  rw [← Option.map_eq_some_iff, ← Slot.toOption_encode?]
  cases slot.encode? lookup with
  | error error => exact ⟨nofun, nofun⟩
  | ok own => exact ⟨fun same => congrArg _ same, fun same => congrArg _ (Option.some.inj same)⟩

/-- The actions of one place: a load, and for a system call a trap behind it. -/
theorem Slot.actions?_eq_some {actions : List Machine.Action}
    (found : slot.actions? lookup = some actions) :
    ∃ index width value, OperandWidth.cut width value = value
      ∧ actions = .load (.low index width) value :: (if slot.isSyscall then [.trap] else []) := by
  cases slot with
  | reference operation => cases found
  | emptyReference form => cases found
  | empty => cases found
  | op operation =>
    cases operation with
    | loadImm register width value =>
      obtain ⟨index, -, rest⟩ := Option.bind_eq_some_iff.mp found
      obtain ⟨size, -, last⟩ := Option.bind_eq_some_iff.mp rest
      exact ⟨index, size, _, size.cut_cut value, (Option.some.inj last).symm⟩
    | loadSymbol register symbol =>
      obtain ⟨address, -, rest⟩ := Option.bind_eq_some_iff.mp found
      obtain ⟨index, -, last⟩ := Option.bind_eq_some_iff.mp rest
      exact ⟨index, .qword, address, rfl, (Option.some.inj last).symm⟩
    | syscall number =>
      exact ⟨_, _, _, OperandWidth.cut_toUInt64 number.value, (Option.some.inj found).symm⟩

end Operations

/-! ### The code of a list -/

section Lists

variable {lookup : SymbolLookup} {slot : Slot} {slots : List Slot} {actions : List Machine.Action}

theorem encodeAll?_cons (lookup : SymbolLookup) (slot : Slot) (slots : List Slot) :
    encodeAll? lookup (slot :: slots) = do
      let code ← slot.encode? lookup
      let codes ← encodeAll? lookup slots
      return code ++ codes := by
  unfold encodeAll?
  rw [List.mapM_cons]
  cases slot.encode? lookup with
  | error error => rfl
  | ok code =>
    cases slots.mapM (Slot.encode? lookup) with
    | error error => rfl
    | ok codes => rfl

theorem encodeAll?_cons_eq_ok {code : Bytes}
    (encoded : encodeAll? lookup (slot :: slots) = .ok code) :
    ∃ own later, slot.encode? lookup = .ok own ∧ encodeAll? lookup slots = .ok later
      ∧ code = own ++ later := by
  rw [encodeAll?_cons] at encoded
  obtain ⟨own, first, rest⟩ := except_bind_eq_ok.mp encoded
  obtain ⟨later, others, last⟩ := except_bind_eq_ok.mp rest
  exact ⟨own, later, first, others, (Except.ok.inj last).symm⟩

theorem actionsOf?_cons (lookup : SymbolLookup) (slot : Slot) (slots : List Slot) :
    actionsOf? lookup (slot :: slots) = do
      let first ← slot.actions? lookup
      let later ← actionsOf? lookup slots
      return first ++ later := by
  unfold actionsOf?
  rw [List.mapM_cons]
  cases slot.actions? lookup with
  | none => rfl
  | some first =>
    cases slots.mapM (Slot.actions? lookup) with
    | none => rfl
    | some later => rfl

theorem actionsOf?_cons_eq_some (found : actionsOf? lookup (slot :: slots) = some actions) :
    ∃ first later, slot.actions? lookup = some first ∧ actionsOf? lookup slots = some later
      ∧ actions = first ++ later := by
  rw [actionsOf?_cons] at found
  obtain ⟨first, foundFirst, rest⟩ := Option.bind_eq_some_iff.mp found
  obtain ⟨later, foundLater, same⟩ := Option.bind_eq_some_iff.mp rest
  exact ⟨first, later, foundFirst, foundLater, (Option.some.inj same).symm⟩

/-- **A list is encoded to the code of its normal form**, and only what has one is encoded. -/
theorem toOption_encodeAll? (lookup : SymbolLookup) (slots : List Slot) :
    (encodeAll? lookup slots).toOption = (actionsOf? lookup slots).map Machine.codeOf := by
  induction slots with
  | nil => rfl
  | cons slot slots ih =>
    rw [encodeAll?_cons, actionsOf?_cons, toOption_bind, Slot.toOption_encode?]
    cases slot.actions? lookup with
    | none => rfl
    | some first =>
      show (encodeAll? lookup slots >>= fun codes =>
        pure (Machine.codeOf first ++ codes)).toOption = _
      rw [toOption_bind, ih]
      cases actionsOf? lookup slots with
      | none => rfl
      | some later =>
        show some (Machine.codeOf first ++ Machine.codeOf later)
          = some (Machine.codeOf (first ++ later))
        rw [Machine.codeOf_append]

theorem encodeAll?_eq_ok {code : Bytes} (accepted : encodeAll? lookup slots = .ok code) :
    ∃ actions, actionsOf? lookup slots = some actions ∧ code = Machine.codeOf actions := by
  have same := toOption_encodeAll? lookup slots
  rw [accepted] at same
  obtain ⟨actions, found, codes⟩ := Option.map_eq_some_iff.mp same.symm
  exact ⟨actions, found, codes.symm⟩

/-- A normal form consists of plain actions. -/
theorem plain_of_actionsOf? (found : actionsOf? lookup slots = some actions) :
    ∀ action ∈ actions, action.Plain := by
  induction slots generalizing actions with
  | nil =>
    cases found
    intro action member
    cases member
  | cons slot slots ih =>
    obtain ⟨first, later, foundFirst, foundLater, rfl⟩ := actionsOf?_cons_eq_some found
    obtain ⟨index, width, value, whole, rfl⟩ := Slot.actions?_eq_some foundFirst
    intro action member
    rcases List.mem_append.mp member with here | behind
    · rcases List.mem_cons.mp here with rfl | trap
      · exact whole
      · have isTrap : action = .trap := by
          split at trap
          · exact List.mem_singleton.mp trap
          · cases trap
        rw [isTrap]
        trivial
    · exact ih foundLater action behind

/-! ### The places of the system calls -/

/-- For each operation that some actions stand for, whether it is a system call: a trap belongs to
the load before it. -/
def Machine.syscallMarks : List Machine.Action → List Bool
  | [] => []
  | _ :: .trap :: rest => true :: syscallMarks rest
  | _ :: rest => false :: syscallMarks rest

/-- A trap only ever comes behind the load of its own system call. -/
theorem actionsOf?_ne_trap (found : actionsOf? lookup slots = some actions)
    (rest : List Machine.Action) : actions ≠ .trap :: rest := by
  cases slots with
  | nil =>
    cases found
    exact (List.cons_ne_nil _ _).symm
  | cons slot slots =>
    obtain ⟨first, later, foundFirst, -, rfl⟩ := actionsOf?_cons_eq_some found
    obtain ⟨index, width, value, -, rfl⟩ := Slot.actions?_eq_some foundFirst
    intro same
    cases same

/-- **The places of the system calls of a list** can be told from its normal form. -/
theorem syscallMarks_actionsOf? (found : actionsOf? lookup slots = some actions) :
    Machine.syscallMarks actions = slots.map Slot.isSyscall := by
  induction slots generalizing actions with
  | nil =>
    cases found
    rfl
  | cons slot slots ih =>
    obtain ⟨first, later, foundFirst, foundLater, rfl⟩ := actionsOf?_cons_eq_some found
    obtain ⟨index, width, value, -, rfl⟩ := Slot.actions?_eq_some foundFirst
    rw [List.map_cons, ← ih foundLater]
    cases slot.isSyscall with
    | true => rfl
    | false =>
      show Machine.syscallMarks (.load (.low index width) value :: later) = _
      rw [Machine.syscallMarks]
      exact fun rest => actionsOf?_ne_trap foundLater rest

end Lists

/-- **The code of a list is uniquely decodable.** Read from left to right it gives the normal form
of the list, in which a load stands for each operation with its register, its width and its value
cut to the width, and a trap behind it for a system call. Two lists, each with its own symbols, have
the same code exactly when their normal forms are the same, and then the same places hold system
calls. -/
theorem decodeAll_encodeAll {lookup : SymbolLookup} {slots : List Slot} {code : Bytes}
    (accepted : encodeAll? lookup slots = .ok code) :
    ∃ actions, actionsOf? lookup slots = some actions
      ∧ Machine.decodeAll code = some actions
      ∧ Machine.syscallMarks actions = slots.map Slot.isSyscall
      ∧ ∀ (lookup' : SymbolLookup) (slots' : List Slot) (code' : Bytes),
          encodeAll? lookup' slots' = .ok code' →
            (code = code' ↔ actionsOf? lookup slots = actionsOf? lookup' slots')
              ∧ (code = code' → slots.map Slot.isSyscall = slots'.map Slot.isSyscall) := by
  obtain ⟨actions, found, rfl⟩ := encodeAll?_eq_ok accepted
  have decodes := Machine.decodeAll_codeOf (plain_of_actionsOf? found)
  refine ⟨actions, found, decodes, syscallMarks_actionsOf? found, ?_⟩
  intro lookup' slots' code' accepted'
  obtain ⟨actions', found', rfl⟩ := encodeAll?_eq_ok accepted'
  have decodes' := Machine.decodeAll_codeOf (plain_of_actionsOf? found')
  have sameActions (same : Machine.codeOf actions = Machine.codeOf actions') :
      actions = actions' := by
    rw [same, decodes'] at decodes
    exact (Option.some.inj decodes).symm
  refine ⟨⟨fun same => ?_, fun same => ?_⟩, fun same => ?_⟩
  · rw [found, found', sameActions same]
  · rw [found, found'] at same
    rw [Option.some.inj same]
  · rw [← syscallMarks_actionsOf? found, ← syscallMarks_actionsOf? found', sameActions same]

/-- A load whose code is the beginning of the code of the system call behind it. -/
def loadThenCall : List Slot := [.op (.loadImm .ax .dword 60), .op (.syscall ⟨60⟩)]

theorem decodeAll_encodeAll_loadThenCall :
    encodeAll? (fun _ => none) loadThenCall
        = .ok [0xb8, 0x3c, 0, 0, 0, 0xb8, 0x3c, 0, 0, 0, 0x0f, 0x05]
      ∧ ∃ actions, actionsOf? (fun _ => none) loadThenCall = some actions
        ∧ Machine.decodeAll [0xb8, 0x3c, 0, 0, 0, 0xb8, 0x3c, 0, 0, 0, 0x0f, 0x05] = some actions
        ∧ Machine.syscallMarks actions = [false, true] := by
  have accepted : encodeAll? (fun _ => none) loadThenCall
      = .ok [0xb8, 0x3c, 0, 0, 0, 0xb8, 0x3c, 0, 0, 0, 0x0f, 0x05] := rfl
  obtain ⟨actions, found, decodes, marks, -⟩ := decodeAll_encodeAll accepted
  exact ⟨accepted, actions, found, decodes, marks⟩

end StaticElf
