/-
**Which programs are built, and what is told of the others.**

What a build asks can be read off the layout and the program: no address has to be assigned and no
byte encoded to know whether it succeeds, how long the code is, and which fault is told.

* `Slot.WellFormed`, `Slot.byteCount` — what is asked of one place of the list, and how many bytes its
  code has, by the numbers of its operands.
* `Instruction.Encodable`, `Slot.encodable_of_lower?` — what an operation is lowered to has an encoding.
* `Slot.demands`, `Slot.settles_encode?` — the faults of one place, a missing symbol before a bad
  register.
* `symbolDemands`, `slotDemands`, `settles_storeSymbols`, `settles_encodeSlots` — the faults that the
  two passes find, by their positions.
* `Builder.demands`, `Builder.settles_build` — all that a build asks, in its order.
* `BuildError.Told`, `Builder.told_of_refuses` — what the failure of a build says.
* `Builder.build_exact` — what is built, and what is told of what is not.
-/

import StaticElf.Proofs.Demands
import StaticElf.Proofs.Relocation
import StaticElf.Proofs.RepeatedBuilds

namespace StaticElf

/-! ### One place of the list -/

/-- A position among `count` symbols. -/
def SymbolRef.Within (symbol : SymbolRef) (count : Nat) : Prop :=
  0 ≤ symbol.index ∧ symbol.index < count

instance (symbol : SymbolRef) (count : Nat) : Decidable (symbol.Within count) :=
  inferInstanceAs (Decidable (_ ∧ _))

/-- **What is asked of a place of the list**: it holds an operation on one of the sixteen registers,
at one of the four widths, and with one of `count` symbols. -/
def Slot.WellFormed (count : Nat) : Slot → Prop
  | .op (.loadImm register width _) => register.ordinal.toNat < 16 ∧ width.code.toNat ≤ 3
  | .op (.loadSymbol register symbol) => register.ordinal.toNat < 16 ∧ symbol.Within count
  | .op (.syscall _) => True
  | _ => False

instance (count : Nat) : (slot : Slot) → Decidable (slot.WellFormed count)
  | .op (.loadImm ..) => inferInstanceAs (Decidable (_ ∧ _))
  | .op (.loadSymbol ..) => inferInstanceAs (Decidable (_ ∧ _))
  | .op (.syscall _) => inferInstanceAs (Decidable True)
  | .reference _ | .emptyReference _ | .empty => inferInstanceAs (Decidable False)

/-- A place that refers to a symbol that is not there, whatever else is wrong with it. -/
def Slot.Dangling (count : Nat) : Slot → Prop
  | .op (.loadSymbol _ symbol) => ¬ symbol.Within count
  | _ => False

/-- Whether a load needs a REX byte, by the numbers of its operands: for the upper eight registers, for
eight bytes, and for one byte of a register behind the first four. -/
def Op.needsRex (ordinal code : Nat) : Bool :=
  8 ≤ ordinal || code = 3 || (code = 0 && 4 ≤ ordinal)

/-- **The number of bytes of an operation**, by the numbers of its operands. -/
def Op.byteCount : Op → Nat
  | .loadImm register width _ =>
    2 ^ width.code.toNat + 1 + (if width = .word then 1 else 0)
      + if needsRex register.ordinal.toNat width.code.toNat then 1 else 0
  | .loadSymbol .. => 10
  | .syscall _ => 7

def Slot.byteCount : Slot → Nat
  | .op operation => operation.byteCount
  | _ => 0

/-! ### Instructions -/

namespace Instruction

/-- The length of a `mov`, by the numbers of its operands. -/
theorem length_mov {width : Width} {operand : OperandWidth} (known : width.operand? = some operand)
    (target : Fin 16) :
    (movHead target operand).length + operand.bytes
      = 2 ^ width.code.toNat + 1 + (if width = .word then 1 else 0)
        + if Op.needsRex target.val width.code.toNat then 1 else 0 := by
  rcases Width.eq_of_le (Width.le_of_operand? known) with rfl | rfl | rfl | rfl
  all_goals
    cases known
    revert target
    decide

/-- A `mov` is refused for its register before it is for its width. -/
theorem mov?_eq (register : Register) (width : Width) (value : UInt64) :
    mov? register width value =
      if ¬ register.ordinal.toNat < 16 then .error (.registerOutOfRange register.ordinal)
      else match width.operand? with
        | none => .error (.unknownWidth width.code)
        | some operand => .ok (mov (Fin.ofNat 16 register.ordinal.toNat) operand value) := by
  unfold mov? Register.index?
  by_cases small : register.ordinal.toNat < 16
  · have target : (⟨register.ordinal.toNat, small⟩ : Fin 16) = Fin.ofNat 16 register.ordinal.toNat :=
      Fin.ext (Nat.mod_eq_of_lt small).symm
    rw [dif_pos small, if_neg (not_not.mpr small), target]
    cases width.operand? <;> rfl
  · rw [dif_neg small, if_pos small]

/-- An instruction that the encoder accepts. -/
def Encodable (instruction : Instruction) : Prop := ∃ bytes, instruction.bytes? = .ok bytes

theorem encodable_of_mov? {register : Register} {width : Width} {value : UInt64}
    {instruction : Instruction} (lowered : mov? register width value = .ok instruction) :
    instruction.Encodable := by
  rw [mov?_eq] at lowered
  obtain ⟨-, rest⟩ := except_guard_eq_ok.mp lowered
  cases known : width.operand? with
  | none =>
    rw [known] at rest
    cases rest
  | some operand =>
    rw [known] at rest
    cases rest
    exact ⟨_, bytes?_mov _ operand value⟩

end Instruction

namespace Slot

variable {count : Nat} {slot : Slot} {lookup : SymbolLookup}

/-- **The code of a well-formed place** has as many bytes as its operands say. -/
theorem WellFormed.codeSize_eq (wellFormed : slot.WellFormed count) :
    slot.codeSize = slot.byteCount := by
  cases slot with
  | reference operation => exact wellFormed.elim
  | emptyReference form => exact wellFormed.elim
  | empty => exact wellFormed.elim
  | op operation =>
    cases operation with
    | loadSymbol register symbol => rfl
    | syscall number => rfl
    | loadImm register width value =>
      obtain ⟨small, known⟩ := wellFormed
      have target : register.index? = some ⟨register.ordinal.toNat, small⟩ := dif_pos small
      cases operand : width.operand? with
      | none => exact absurd known (Width.operand?_eq_none_iff.mp operand)
      | some size =>
        simp only [codeSize, Op.codeSize, target, operand]
        exact Instruction.length_mov operand _

/-! ### Lowering and encoding -/

/-- **What a place is lowered to has an encoding.** -/
theorem encodable_of_lower? {instructions : List Instruction}
    (lowered : slot.lower? lookup = .ok instructions) :
    ∀ instruction ∈ instructions, instruction.Encodable := by
  cases slot with
  | reference operation => cases lowered
  | emptyReference form => cases lowered
  | empty => cases lowered
  | op operation =>
    cases operation with
    | loadImm register width value =>
      obtain ⟨only, accepted, rfl⟩ := except_map_eq_ok.mp lowered
      exact List.forall_mem_singleton.mpr (Instruction.encodable_of_mov? accepted)
    | loadSymbol register symbol =>
      simp only [lower?, Op.lower?] at lowered
      split at lowered
      · cases lowered
      · obtain ⟨only, accepted, rfl⟩ := except_map_eq_ok.mp lowered
        exact List.forall_mem_singleton.mpr (Instruction.encodable_of_mov? accepted)
    | syscall number =>
      cases lowered
      refine List.forall_mem_cons.mpr ⟨⟨_, Instruction.bytes?_mov _ _ _⟩, ?_⟩
      exact List.forall_mem_singleton.mpr ⟨_, rfl⟩

/-- What is wrong with a place, in the order in which it is told. -/
def demands (count : Nat) : Slot → List (Demand EncodingError)
  | .op (.loadImm register width _) => [
    ⟨register.ordinal.toNat < 16, .registerOutOfRange register.ordinal⟩,
    ⟨width.code.toNat ≤ 3, .unknownWidth width.code⟩]
  | .op (.loadSymbol register symbol) => [
    ⟨symbol.Within count, .unresolved symbol⟩,
    ⟨register.ordinal.toNat < 16, .registerOutOfRange register.ordinal⟩]
  | .op (.syscall _) => []
  | .reference operation => [⟨False, .unsupported (some operation.form)⟩]
  | .emptyReference form => [⟨False, .unsupported (some form)⟩]
  | .empty => [⟨False, .unsupported none⟩]

theorem wellFormed_iff (slot : Slot) (count : Nat) :
    slot.WellFormed count ↔ ∀ demand ∈ slot.demands count, demand.met := by
  cases slot with
  | reference operation => simp [WellFormed, demands]
  | emptyReference form => simp [WellFormed, demands]
  | empty => simp [WellFormed, demands]
  | op operation =>
    cases operation with
    | loadImm register width value => simp [WellFormed, demands]
    | loadSymbol register symbol => simp [WellFormed, demands, and_comm]
    | syscall number => simp [WellFormed, demands]

theorem settles_lower? (resolves : ∀ symbol, lookup symbol = none ↔ ¬ symbol.Within count)
    (slot : Slot) : Settles (slot.demands count) (slot.lower? lookup) := by
  cases slot with
  | reference operation => exact Demand.refuses_singleton.mpr ⟨not_false, rfl⟩
  | emptyReference form => exact Demand.refuses_singleton.mpr ⟨not_false, rfl⟩
  | empty => exact Demand.refuses_singleton.mpr ⟨not_false, rfl⟩
  | op operation =>
    cases operation with
    | syscall number => exact .ok _
    | loadImm register width value =>
      refine Settles.map ?_ _
      rw [Instruction.mov?_eq]
      refine .guard Iff.rfl fun _ => ?_
      cases known : width.operand? with
      | none =>
        exact Demand.refuses_singleton.mpr ⟨Width.operand?_eq_none_iff.mp known, rfl⟩
      | some operand => exact List.forall_mem_singleton.mpr (Width.le_of_operand? known)
    | loadSymbol register symbol =>
      simp only [lower?, Op.lower?]
      cases resolved : lookup symbol with
      | none => exact Demand.refuses_cons.mpr (.inl ⟨(resolves symbol).mp resolved, rfl⟩)
      | some address =>
        have within : symbol.Within count := by
          by_contra outside
          rw [(resolves symbol).mpr outside] at resolved
          cases resolved
        refine Settles.behind (List.forall_mem_singleton.mpr within) (Settles.map ?_ _)
        rw [Instruction.movAddress?, Instruction.mov?_eq]
        exact .guard Iff.rfl fun _ => .ok _

/-- **The encoding of a place tells its first fault.** Nothing that is lowered is refused afterwards. -/
theorem settles_encode? (resolves : ∀ symbol, lookup symbol = none ↔ ¬ symbol.Within count)
    (slot : Slot) : Settles (slot.demands count) (slot.encode? lookup) := by
  rw [← List.append_nil (slot.demands count)]
  refine .bind (slot.settles_lower? resolves) fun instructions lowered => ?_
  obtain ⟨parts, encoded⟩ := except_exists_mapM (encodable_of_lower? lowered)
  rw [encoded]
  exact .ok _

/-- **How the fault of a place is told**: a symbol that is not there is a bad reference, whatever the
register is, and all else is a bad argument. -/
theorem kinds_of_refuses {reason : EncodingError}
    (refuses : Demand.Refuses (slot.demands count) reason) :
    (slot.Dangling count →
        reason.fault.category = some .reference ∧ reason.fault.kinds = [.undefinedSymbol])
      ∧ (¬ slot.Dangling count →
        reason.fault.category = some .argument ∧ reason.fault.kinds = [.invalidOperand]) := by
  cases slot with
  | reference operation =>
    obtain ⟨-, rfl⟩ := Demand.refuses_singleton.mp refuses
    exact ⟨False.elim, fun _ => ⟨rfl, rfl⟩⟩
  | emptyReference form =>
    obtain ⟨-, rfl⟩ := Demand.refuses_singleton.mp refuses
    exact ⟨False.elim, fun _ => ⟨rfl, rfl⟩⟩
  | empty =>
    obtain ⟨-, rfl⟩ := Demand.refuses_singleton.mp refuses
    exact ⟨False.elim, fun _ => ⟨rfl, rfl⟩⟩
  | op operation =>
    cases operation with
    | syscall number => exact absurd refuses Demand.not_refuses_nil
    | loadImm register width value =>
      refine ⟨False.elim, fun _ => ?_⟩
      rcases Demand.refuses_cons.mp refuses with ⟨-, rfl⟩ | ⟨-, later⟩
      · exact ⟨rfl, rfl⟩
      · obtain ⟨-, rfl⟩ := Demand.refuses_singleton.mp later
        exact ⟨rfl, rfl⟩
    | loadSymbol register symbol =>
      rcases Demand.refuses_cons.mp refuses with ⟨outside, rfl⟩ | ⟨within, later⟩
      · exact ⟨fun _ => ⟨rfl, rfl⟩, fun found => absurd outside found⟩
      · refine ⟨fun outside => absurd within outside, fun _ => ?_⟩
        obtain ⟨-, rfl⟩ := Demand.refuses_singleton.mp later
        exact ⟨rfl, rfl⟩

end Slot

/-! ### The two passes -/

/-- What is asked of the symbols: each has bytes and ends below the last address, when those before it
lie one behind the other. -/
def symbolDemands (base : UInt64) (symbols : List (Option Bytes)) : List (Demand BuildError) :=
  symbols |> Demand.inOrder fun symbol index => [
    ⟨symbol ≠ none, .emptySymbol index⟩,
    ⟨base.toNat + symbolOffset symbols (index + 1) ≤ 2 ^ 64 - 1, .symbolTooHigh index⟩]

/-- What is asked of the list: what is asked of each place, with its position. -/
def slotDemands (count : Nat) (slots : List Slot) : List (Demand BuildError) :=
  slots |> Demand.inOrder fun slot index =>
    (slot.demands count).map (Demand.mapError (.slot index slot))

theorem symbolOffset_succ_length (done rest : List (Option Bytes)) (symbol : Option Bytes) :
    symbolOffset (done ++ symbol :: rest) (done.length + 1)
      = (symbolContent done).length + (symbol.getD []).length := by
  have taken : (done ++ symbol :: rest).take (done.length + 1) = done ++ [symbol] := by
    rw [List.append_cons]
    exact List.take_left' (by simp)
  rw [symbolOffset_eq, taken, symbolContent_append, List.length_append]
  simp [symbolContent]

theorem settles_storeSymbol {verbose : Bool} {base : UInt64} {stored : Stored}
    {symbol : Option Bytes} (writable : stored.data.committed = false)
    (small : stored.used + (symbol.getD []).length < 2 ^ 64) :
    Settles [
        ⟨symbol ≠ none, .emptySymbol stored.count⟩,
        ⟨base.toNat + (stored.used + (symbol.getD []).length) ≤ 2 ^ 64 - 1,
          .symbolTooHigh stored.count⟩]
      (storeSymbol verbose base stored symbol).result := by
  cases outcome : (storeSymbol verbose base stored symbol).result with
  | ok next =>
    obtain ⟨bytes, data, rfl, fits, -⟩ := storeSymbol_eq_ok outcome
    refine List.forall_mem_cons.mpr ⟨Option.some_ne_none bytes, List.forall_mem_singleton.mpr ?_⟩
    exact (not_gt_room_iff small).mp fits
  | error error =>
    rcases storeSymbol_eq_error writable outcome with ⟨rfl, rfl⟩ | ⟨bytes, rfl, high, rfl⟩
    · exact Demand.refuses_cons.mpr (.inl ⟨not_not.mpr rfl, rfl⟩)
    · refine Demand.refuses_cons.mpr (.inr ⟨Option.some_ne_none bytes, ?_⟩)
      refine Demand.refuses_singleton.mpr ⟨fun fits => ?_, rfl⟩
      exact (not_gt_room_iff small).mpr fits high

/-- **The first pass tells the first bad symbol.** -/
theorem settles_storeSymbols (verbose : Bool) (base : UInt64) {symbols : List (Option Bytes)}
    (small : (symbolContent symbols).length < 2 ^ 63) :
    Settles (symbolDemands base symbols)
      ((storeSymbols verbose base { name := "data" } symbols).result.mapError Prod.fst) := by
  unfold symbolDemands storeSymbols
  refine Settles.fold (fun done (stored : Stored) => stored.Holds base done
    ∧ stored.count = done.length) ?_ ?_ ⟨Stored.holds_nil base, rfl⟩
  · rintro done symbol rest stored rfl ⟨holds, count⟩
    rw [symbolOffset_succ_length, ← holds.used, ← count]
    refine settles_storeSymbol holds.writable ?_
    have inside := Builder.symbolOffset_le (done ++ symbol :: rest) (done.length + 1)
    rw [symbolOffset_succ_length, ← holds.used] at inside
    omega
  · rintro done stored symbol next ⟨holds, count⟩ taken
    refine ⟨holds.storeSymbol taken, ?_⟩
    obtain ⟨bytes, data, -, -, -, rfl⟩ := storeSymbol_eq_ok taken
    rw [List.length_append, ← count]
    rfl

/-- **The second pass tells the first bad place of the list.** -/
theorem settles_encodeSlots (verbose : Bool) {lookup : SymbolLookup} {count : Nat}
    (resolves : ∀ symbol, lookup symbol = none ↔ ¬ symbol.Within count) (slots : List Slot) :
    Settles (slotDemands count slots)
      ((encodeSlots verbose lookup { name := "code" } slots).result.mapError Prod.fst) := by
  unfold slotDemands encodeSlots
  refine Settles.fold (fun done (encoded : Encoded) => encoded.code.committed = false
    ∧ encoded.count = done.length) ?_ ?_ ?_
  · rintro done slot rest encoded - ⟨writable, position⟩
    have settles := (slot.settles_encode? resolves).mapError (BuildError.slot done.length slot)
    cases outcome : (encodeSlot verbose lookup encoded slot).result with
    | ok next =>
      obtain ⟨bytes, found, -⟩ := encodeSlot_eq_ok outcome
      rw [found] at settles
      exact settles
    | error error =>
      obtain ⟨reason, refused, rfl⟩ := encodeSlot_eq_error writable outcome
      rw [refused] at settles
      rw [position]
      exact settles
  · rintro done encoded slot next ⟨-, position⟩ taken
    obtain ⟨bytes, -, written, counted⟩ := encodeSlot_eq_ok taken
    refine ⟨SegmentBuffer.committed_write? written, ?_⟩
    rw [counted, position, List.length_append]
    rfl
  · exact ⟨rfl, rfl⟩

/-! ### All that a build asks -/

theorem symbolDemands_met_iff (base : UInt64) (symbols : List (Option Bytes)) :
    (∀ demand ∈ symbolDemands base symbols, demand.met)
      ↔ (∀ symbol ∈ symbols, symbol ≠ none)
        ∧ (symbols ≠ [] → base.toNat + (symbolContent symbols).length ≤ 2 ^ 64 - 1) := by
  rw [symbolDemands, Demand.forall_mem_inOrder]
  simp only [List.forall_mem_cons, List.not_mem_nil, IsEmpty.forall_iff, implies_true, and_true]
  constructor
  · intro each
    refine ⟨fun symbol member => ?_, fun some => ?_⟩
    · obtain ⟨index, listed⟩ := List.getElem?_of_mem member
      exact (each index symbol listed).1
    · -- The last symbol ends where all of them do
      have positive := List.length_pos_iff.mpr some
      have last := (each (symbols.length - 1) _ (List.getElem?_eq_getElem (by omega))).2
      rwa [Nat.sub_add_cancel positive, symbolOffset_eq, List.take_length] at last
  · rintro ⟨declared, fits⟩ index symbol listed
    have member := List.mem_of_getElem? listed
    refine ⟨declared symbol member, ?_⟩
    have inside := Builder.symbolOffset_le symbols (index + 1)
    exact (Nat.add_le_add_left inside _).trans (fits (List.ne_nil_of_mem member))

theorem slotDemands_met_iff (count : Nat) (slots : List Slot) :
    (∀ demand ∈ slotDemands count slots, demand.met) ↔ ∀ slot ∈ slots, slot.WellFormed count := by
  rw [slotDemands, Demand.forall_mem_inOrder]
  simp only [List.forall_mem_map]
  constructor
  · intro each slot member
    obtain ⟨index, listed⟩ := List.getElem?_of_mem member
    exact (slot.wellFormed_iff count).mpr (each index slot listed)
  · intro each index slot listed
    exact (slot.wellFormed_iff count).mp (each slot (List.mem_of_getElem? listed))

/-- The number of bytes of the code of a list. -/
def byteCount (slots : List Slot) : Nat := (slots.map Slot.byteCount).sum

theorem codeOffset_length_eq {count : Nat} {slots : List Slot}
    (wellFormed : ∀ slot ∈ slots, slot.WellFormed count) :
    codeOffset slots slots.length = byteCount slots := by
  rw [codeOffset, List.take_length, byteCount]
  exact congrArg List.sum (List.map_congr_left fun slot member => (wellFormed slot member).codeSize_eq)

theorem Program.symbolAddress?_eq_none_iff (program : Program) (base : UInt64) (symbol : SymbolRef) :
    program.symbolAddress? base symbol = none ↔ ¬ symbol.Within program.symbols.length := by
  unfold Program.symbolAddress? SymbolRef.Within
  split
  · next inside =>
    refine ⟨nofun, fun outside => absurd ?_ outside⟩
    omega
  · next outside =>
    refine ⟨fun _ inside => outside ?_, fun _ => rfl⟩
    omega

/-- **What the failure of a build says**: which fault it is, where it is, and how it is told. -/
def BuildError.Told (layout : Layout) (program : Program) (error : BuildError) : Prop :=
  let count := program.symbols.length
  let told := (error.fault.category, error.fault.kinds)
  match error with
  | .layout reason => layout.check = .error reason ∧ told = (some .range, [reason.kind])
  | .emptySymbol index =>
    program.symbols[index]? = some none ∧ told = (some .argument, [.invalidOperand])
  | .symbolTooHigh index =>
    2 ^ 64 - 1 < layout.dataAddress.toNat + symbolOffset program.symbols (index + 1)
      ∧ told = (some .range, [.fieldOverflow])
  | .slot index item reason =>
    (∀ earlier ∈ program.slots.take index, earlier.WellFormed count)
      ∧ program.slots[index]? = some item ∧ ¬ item.WellFormed count
      ∧ error.fault = .context s!"instruction {index} ({item.text})" reason.fault
      ∧ (item.Dangling count → told = (some .reference, [.undefinedSymbol]))
      ∧ (¬ item.Dangling count → told = (some .argument, [.invalidOperand]))
  | .codeTooLarge size _ =>
    size = byteCount program.slots ∧ told = (some .range, [.segmentOverlap])
  | .noProgram | .committed _ => False

namespace Builder

/-- **What a build asks**, in its order: of the layout, of the symbols, of the list, and that the code
fits before the data. -/
def demands (layout : Layout) (program : Program) : List (Demand BuildError) :=
  layout.demands.map (Demand.mapError .layout)
    ++ (symbolDemands layout.dataAddress program.symbols
    ++ (slotDemands program.symbols.length program.slots
    ++ [⟨byteCount program.slots ≤ min (layout.dataOffset.toNat - layout.codeOffset.toNat)
          (layout.dataAddress.toNat - layout.codeAddress.toNat),
        .codeTooLarge (byteCount program.slots) layout.codeCapacity⟩]))

section Builds

variable {verbose : Bool} {builder : Builder} {program : Program}

/-- Behind both passes, the code has as many bytes as the operands say. -/
theorem length_of_encodeSlots {lookup : SymbolLookup} {count : Nat} {encoded : Encoded}
    (wellFormed : ∀ slot ∈ program.slots, slot.WellFormed count)
    (encoding : (encodeSlots verbose lookup { name := "code" } program.slots).result = .ok encoded) :
    encoded.code.content.length = byteCount program.slots := by
  rw [← codeOffset_length_eq wellFormed]
  exact length_encodeAll? (encodeSlots_holds encoding).content

/-- A build as a chain of steps, without what it leaves. -/
theorem result_build (verbose : Bool) (builder : Builder) (program : Program) :
    (builder.build verbose (some program)).1.result =
      builder.layout.check.mapError .layout >>= fun _ =>
      (storeSymbols verbose builder.layout.dataAddress { name := "data" }
        program.symbols).result.mapError Prod.fst >>= fun stored =>
      (encodeSlots verbose (SymbolTable.address? stored.addresses.reverse) { name := "code" }
        program.slots).result.mapError Prod.fst >>= fun encoded =>
      if encoded.code.content.length > builder.layout.codeCapacity.toNat then
        .error (.codeTooLarge encoded.code.content.length builder.layout.codeCapacity)
      else .ok (assembly builder.layout encoded.code stored.data) := by
  simp only [build_fst, run, renewed, Traced.mapError_bind, Traced.mapError_mapError,
    Traced.result_bind, Traced.ofExcept_mapError, Traced.result_mapError, Traced.result_ofExcept,
    apply_ite Traced.result, apply_ite (Except.mapError _), apply_ite (Except.map _), except_map_bind]
  rfl

/-- **A build tells the first thing that is not as it asks.** -/
theorem settles_build (small : (symbolContent program.symbols).length < 2 ^ 63) :
    Settles (demands builder.layout program) (builder.build verbose (some program)).1.result := by
  rw [result_build]
  refine .bind (builder.layout.settles_check.mapError BuildError.layout) fun _ passed =>
    .bind (settles_storeSymbols verbose builder.layout.dataAddress small) fun stored stores => ?_
  have accepted := builder.layout.check_eq_ok_iff.mp (except_mapError_eq_ok.mp passed)
  have holds := storeSymbols_holds (except_mapError_eq_ok.mp stores)
  have table : stored.addresses.reverse = program.addressTable builder.layout.dataAddress :=
    holds.addresses
  rw [table, program.address?_addressTable]
  have settles := settles_encodeSlots verbose
    (program.symbolAddress?_eq_none_iff builder.layout.dataAddress) program.slots
  refine .bind settles fun encoded encodes => ?_
  have wellFormed := (slotDemands_met_iff _ _).mp (settles.exists_ok_iff.mp ⟨encoded, encodes⟩)
  rw [length_of_encodeSlots wellFormed (except_mapError_eq_ok.mp encodes),
    accepted.toNat_codeCapacity]
  exact .guard Nat.not_le.symm fun _ => .ok _

theorem demands_met_iff (layout : Layout) (program : Program) :
    (∀ demand ∈ demands layout program, demand.met)
      ↔ layout.check = .ok ()
        ∧ (∀ symbol ∈ program.symbols, symbol ≠ none)
        ∧ (program.symbols ≠ [] →
          layout.dataAddress.toNat + (symbolContent program.symbols).length ≤ 2 ^ 64 - 1)
        ∧ (∀ slot ∈ program.slots, slot.WellFormed program.symbols.length)
        ∧ byteCount program.slots
          ≤ min (layout.dataOffset.toNat - layout.codeOffset.toNat)
            (layout.dataAddress.toNat - layout.codeAddress.toNat) := by
  rw [demands, List.forall_mem_append, List.forall_mem_append, List.forall_mem_append,
    List.forall_mem_map, symbolDemands_met_iff, slotDemands_met_iff, List.forall_mem_singleton,
    and_assoc, layout.settles_check.eq_ok_iff]
  exact Iff.rfl

theorem told_of_refuses {layout : Layout} {error : BuildError}
    (refuses : Demand.Refuses (demands layout program) error) : error.Told layout program := by
  rcases Demand.refuses_append.mp refuses with inLayout | ⟨-, rest⟩
  · obtain ⟨reason, refused, rfl⟩ := Demand.refuses_map_mapError.mp inLayout
    refine ⟨layout.settles_check.eq_error_iff.mpr refused, ?_⟩
    cases reason <;> rfl
  rcases Demand.refuses_append.mp rest with inSymbols | ⟨-, rest⟩
  · obtain ⟨index, symbol, listed, -, refused⟩ := Demand.refuses_inOrder.mp inSymbols
    rcases Demand.refuses_cons.mp refused with ⟨missing, rfl⟩ | ⟨-, later⟩
    · exact ⟨by rw [listed, not_not.mp missing], rfl⟩
    · obtain ⟨high, rfl⟩ := Demand.refuses_singleton.mp later
      exact ⟨Nat.not_le.mp high, rfl⟩
  rcases Demand.refuses_append.mp rest with inSlots | ⟨-, size⟩
  · obtain ⟨index, slot, listed, before, refused⟩ := Demand.refuses_inOrder.mp inSlots
    obtain ⟨reason, first, rfl⟩ := Demand.refuses_map_mapError.mp refused
    obtain ⟨dangling, other⟩ := Slot.kinds_of_refuses first
    refine ⟨fun earlier member => ?_, listed, fun wellFormed => ?_, rfl, fun missing => ?_,
      fun present => ?_⟩
    · obtain ⟨place, inside, rfl⟩ := List.mem_take_iff_getElem.mp member
      refine (Slot.wellFormed_iff _ _).mpr fun demand asked => ?_
      exact before place (by omega) _ (List.getElem?_eq_getElem (by omega)) _
        (List.mem_map_of_mem asked)
    · exact first.not_met ((slot.wellFormed_iff _).mp wellFormed)
    · exact Prod.ext (dangling missing).1 (dangling missing).2
    · exact Prod.ext (other present).1 (other present).2
  · obtain ⟨-, rfl⟩ := Demand.refuses_singleton.mp size
    exact ⟨rfl, rfl⟩

/-- **A build accepts exactly the well-formed programs and tells the first fault of the others.** It
succeeds when the layout is accepted, every symbol has bytes and all of them end below the last
address, every place of the list is well-formed, and the code, whose size is known from the operands,
fits before the data. Else it tells the first thing that is not so, those of the layout before those of
the symbols, of the list and of the size; what is wrong with a place of the list is told with its
position, and a symbol that is not there as a bad reference whatever the register is. -/
theorem build_exact (verbose : Bool) (builder : Builder) {program : Program}
    (small : (symbolContent program.symbols).length < 2 ^ 63) :
    let layout := builder.layout
    let outcome := (builder.build verbose (some program)).1.result
    ((∃ assembly, outcome = .ok assembly)
        ↔ layout.check = .ok ()
          ∧ (∀ symbol ∈ program.symbols, symbol ≠ none)
          ∧ (program.symbols ≠ [] →
            layout.dataAddress.toNat + (symbolContent program.symbols).length ≤ 2 ^ 64 - 1)
          ∧ (∀ slot ∈ program.slots, slot.WellFormed program.symbols.length)
          ∧ byteCount program.slots
            ≤ min (layout.dataOffset.toNat - layout.codeOffset.toNat)
              (layout.dataAddress.toNat - layout.codeAddress.toNat))
      ∧ (∀ assembly, outcome = .ok assembly → assembly.code.length = byteCount program.slots)
      ∧ ∀ error, (outcome = .error error ↔ Demand.Refuses (demands layout program) error)
        ∧ (outcome = .error error → error.Told layout program) := by
  intro layout outcome
  have settles : Settles (demands layout program) outcome := settles_build small
  have accepts : (∃ assembly, outcome = .ok assembly) ↔ _ := settles.exists_ok_iff
  rw [demands_met_iff] at accepts
  refine ⟨accepts, fun assembly builds => ?_, fun error => ⟨settles.eq_error_iff, fun fails => ?_⟩⟩
  · obtain ⟨-, -, -, wellFormed, -⟩ := accepts.mp ⟨assembly, builds⟩
    rw [← codeOffset_length_eq wellFormed]
    exact length_encodeAll? (built_of_build builds).code
  · exact told_of_refuses (settles.eq_error_iff.mp fails)

/-- A program whose second operation has neither a register nor a symbol. -/
def misreferring : Program where
  symbols := [some [0x68]]
  slots := [.op (.syscall .exit), .op (.loadSymbol ⟨16⟩ ⟨1⟩), .empty]

theorem build_exact_tight :
    let missing : BuildError := .slot 1 (.op (.loadSymbol ⟨16⟩ ⟨1⟩)) (.unresolved ⟨1⟩)
    (symbolContent packed.symbols).length < 2 ^ 63
      ∧ (∃ assembly, (({ layout := tight } : Builder).build false (some packed)).1.result
        = .ok assembly)
      ∧ byteCount packed.slots = 20
      ∧ 20 ≤ min (0xc4 - 0xb0) (0xfffffffffffffffc - 0xffffffffffffffe8)
      ∧ (symbolContent misreferring.symbols).length < 2 ^ 63
      ∧ Demand.Refuses (demands .standard misreferring) missing
      ∧ missing.fault.category = some .reference ∧ missing.fault.kinds = [.undefinedSymbol] := by
  intro missing
  have small : (symbolContent packed.symbols).length < 2 ^ 63 := by decide
  have small' : (symbolContent misreferring.symbols).length < 2 ^ 63 := by decide
  obtain ⟨accepts, -⟩ := build_exact false { layout := tight } small
  obtain ⟨-, -, refuses⟩ := build_exact false {} small'
  have builds := accepts.mpr ⟨rfl, by decide, by decide, by decide, by decide⟩
  have fails : (build false {} (some misreferring)).1.result = .error missing := rfl
  obtain ⟨-, -, -, -, told, -⟩ := (refuses missing).2 fails
  obtain ⟨category, kinds⟩ := Prod.mk.inj (told (show ¬ SymbolRef.Within ⟨1⟩ 1 by decide))
  exact ⟨small, builds, rfl, by decide, small', (refuses missing).1.mp fails, category, kinds⟩

end Builds

end Builder

end StaticElf
