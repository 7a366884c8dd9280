/-
**References to symbols while a program grows.**

A program only grows at the ends of its two lists, so a reference that was handed out keeps its
meaning. A build stores all symbols before it encodes anything, so an operation may also refer to a
symbol that is declared after it.

* `Program.Edit`, `Program.editAll` — calls on one program, and the references that they hand out.
* `Program.Extends`, `Program.extends_editAll` — what a program has, it keeps.
* `Program.Declares`, `Program.declares_editAll` — a reference stands for the bytes it was handed out
  for.
* `Builder.build_eq_error` — why a build of declared symbols fails.
* `Builder.Built.code_isPrefix` — the code of a program begins the code of what it grows to.
* `Builder.references_of_edits` — references stay valid and keep their addresses in every run.
-/

import StaticElf.Proofs.Placing
import StaticElf.Proofs.Relocation
import StaticElf.Proofs.RepeatedBuilds

namespace StaticElf

/-! ### Programs that grow -/

/-- One call on a program. -/
inductive Program.Edit where
  | addString (bytes : Bytes)
  | emit (slots : List Slot)
  deriving DecidableEq, Repr

namespace Program

/-- The program after a call, with the reference that was handed out and what it was handed out
for. -/
def edit (program : Program) : Edit → List (SymbolRef × Bytes) × Program
  | .addString bytes =>
    let (symbol, next) := program.addString bytes
    ([(symbol, bytes)], next)
  | .emit slots => ([], program.emit slots)

/-- The program after some calls, with all references that were handed out. -/
def editAll (program : Program) : List Edit → List (SymbolRef × Bytes) × Program
  | [] => ([], program)
  | first :: edits =>
    let (given, next) := program.edit first
    let (later, final) := next.editAll edits
    (given ++ later, final)

/-- **A program that another one grew to**: it has the same symbols and the same operations in the
same places, and maybe more behind them. -/
structure Extends (program later : Program) : Prop where
  symbols : program.symbols <+: later.symbols
  slots : program.slots <+: later.slots

/-- A reference that stands for some bytes. -/
def Declares (program : Program) (symbol : SymbolRef) (bytes : Bytes) : Prop :=
  0 ≤ symbol.index ∧ program.symbols[symbol.index.toNat]? = some (some bytes)

section Edits

variable {program later : Program}

theorem Extends.refl (program : Program) : program.Extends program :=
  ⟨List.prefix_refl _, List.prefix_refl _⟩

theorem Extends.trans {final : Program} (first : program.Extends later)
    (second : later.Extends final) : program.Extends final :=
  ⟨first.symbols.trans second.symbols, first.slots.trans second.slots⟩

/-- One call keeps what a program has. -/
theorem extends_edit (program : Program) (edit : Edit) : program.Extends (program.edit edit).2 := by
  cases edit with
  | addString bytes => exact ⟨List.prefix_append _ _, List.prefix_refl _⟩
  | emit slots => exact ⟨List.prefix_refl _, List.prefix_append _ _⟩

/-- **Calls keep what a program has.** -/
theorem extends_editAll (program : Program) (edits : List Edit) :
    program.Extends (program.editAll edits).2 := by
  induction edits generalizing program with
  | nil => exact Extends.refl program
  | cons first edits ih => exact (extends_edit program first).trans (ih _)

theorem editAll_append (program : Program) (first second : List Edit) :
    (program.editAll (first ++ second)).2 = ((program.editAll first).2.editAll second).2 := by
  induction first generalizing program with
  | nil => rfl
  | cons edit first ih => exact ih _

/-- A reference keeps its meaning. -/
theorem Declares.of_extends {symbol : SymbolRef} {bytes : Bytes}
    (declares : program.Declares symbol bytes) (grows : program.Extends later) :
    later.Declares symbol bytes := by
  obtain ⟨natural, listed⟩ := declares
  obtain ⟨inside, -⟩ := List.getElem?_eq_some_iff.mp listed
  obtain ⟨more, symbols⟩ := grows.symbols
  refine ⟨natural, ?_⟩
  rw [← symbols, List.getElem?_append_left inside, listed]

theorem declares_edit (program : Program) (edit : Edit) {symbol : SymbolRef} {bytes : Bytes}
    (given : (symbol, bytes) ∈ (program.edit edit).1) :
    (program.edit edit).2.Declares symbol bytes := by
  cases edit with
  | emit slots => cases given
  | addString stored =>
    cases List.mem_singleton.mp given
    refine ⟨Int.natCast_nonneg _, ?_⟩
    show (program.symbols ++ [some bytes])[program.symbols.length]? = some (some bytes)
    rw [List.getElem?_append_right (Nat.le_refl _), Nat.sub_self]
    rfl

/-- **A reference stands for the bytes it was handed out for**, whatever was called afterwards. -/
theorem declares_editAll (program : Program) (edits : List Edit) (symbol : SymbolRef)
    (bytes : Bytes) (given : (symbol, bytes) ∈ (program.editAll edits).1) :
    (program.editAll edits).2.Declares symbol bytes := by
  induction edits generalizing program with
  | nil => cases given
  | cons edit edits ih =>
    rcases List.mem_append.mp given with now | afterwards
    · exact (declares_edit program edit now).of_extends (extends_editAll _ edits)
    · exact ih _ afterwards

/-- Calls declare symbols with their bytes. -/
theorem declared_editAll (program : Program) (edits : List Edit)
    (declared : ∀ symbol ∈ program.symbols, symbol ≠ none) :
    ∀ symbol ∈ (program.editAll edits).2.symbols, symbol ≠ none := by
  induction edits generalizing program with
  | nil => exact declared
  | cons edit edits ih =>
    refine ih (program.edit edit).2 ?_
    cases edit with
    | emit slots => exact declared
    | addString bytes =>
      intro symbol member
      rcases List.mem_append.mp member with before | here
      · exact declared symbol before
      · rw [List.mem_singleton.mp here]
        exact Option.some_ne_none bytes

/-! ### Addresses while a program grows -/

theorem Declares.symbolAddress? {symbol : SymbolRef} {bytes : Bytes}
    (declares : program.Declares symbol bytes) (base : UInt64) :
    program.symbolAddress? base symbol
      = some (UInt64.ofNat (base.toNat + symbolOffset program.symbols symbol.index.toNat)) := by
  obtain ⟨natural, listed⟩ := declares
  obtain ⟨inside, -⟩ := List.getElem?_eq_some_iff.mp listed
  exact if_pos ⟨natural, inside⟩

/-- **An address is kept** when a program grows. -/
theorem Extends.symbolAddress? (grows : program.Extends later) {base : UInt64} {symbol : SymbolRef}
    {address : UInt64} (resolved : program.symbolAddress? base symbol = some address) :
    later.symbolAddress? base symbol = some address := by
  obtain ⟨more, symbols⟩ := grows.symbols
  unfold Program.symbolAddress? at resolved ⊢
  split at resolved
  · next inside =>
    rw [← resolved, ← symbols, List.length_append, if_pos ⟨inside.1, by omega⟩,
      symbolOffset_append program.symbols more inside.2.le]
  · cases resolved

/-- The addresses of a program begin those of what it grows to. -/
theorem Extends.addressTable (grows : program.Extends later) (base : UInt64) :
    program.addressTable base <+: later.addressTable base := by
  obtain ⟨more, symbols⟩ := grows.symbols
  unfold Program.addressTable
  rw [← symbols, List.length_append, List.range_add, List.map_append]
  have same : (List.range program.symbols.length).map (fun index =>
        UInt64.ofNat (base.toNat + symbolOffset (program.symbols ++ more) index))
      = (List.range program.symbols.length).map fun index =>
        UInt64.ofNat (base.toNat + symbolOffset program.symbols index) :=
    List.map_congr_left fun index member => by
      rw [symbolOffset_append program.symbols more (List.mem_range.mp member).le]
  rw [same]
  exact List.prefix_append _ _

end Edits

end Program

/-! ### Operations with good operands -/

/-- Whether the operands of an operation are in range and it refers to one of the given symbols. -/
def Op.inRange (given : List SymbolRef) : Op → Bool
  | .loadImm register width _ => register.valid && width.valid
  | .loadSymbol register symbol => register.valid && decide (symbol ∈ given)
  | .syscall _ => true

/-- Whether an operation that stands at a place of a list is in range. -/
def Slot.inRange (given : List SymbolRef) : Slot → Bool
  | .op operation => operation.inRange given
  | _ => true

/-- Whether an operation itself stands at a place of a list. -/
def Slot.isOperation : Slot → Bool
  | .op _ => true
  | _ => false

/-- **An operation in range has a code**, where the symbols have addresses. -/
theorem Op.exists_encode? {lookup : SymbolLookup} {given : List SymbolRef}
    (resolves : ∀ symbol ∈ given, ∃ address, lookup symbol = some address) {operation : Op}
    (inRange : operation.inRange given = true) :
    ∃ code, (Slot.op operation).encode? lookup = .ok code := by
  suffices ∃ actions, (Slot.op operation).actions? lookup = some actions by
    obtain ⟨actions, found⟩ := this
    exact ⟨_, Slot.encode?_eq_ok_iff.mpr ⟨actions, found, rfl⟩⟩
  cases operation with
  | loadImm register width value =>
    obtain ⟨valid, known⟩ := Bool.and_eq_true_iff.mp inRange
    obtain ⟨target, isTarget⟩ := Register.exists_index valid
    obtain ⟨operand, isOperand⟩ := Width.exists_operand known
    simp [Slot.actions?, Op.actions?, isTarget, isOperand]
  | loadSymbol register symbol =>
    obtain ⟨valid, member⟩ := Bool.and_eq_true_iff.mp inRange
    obtain ⟨target, isTarget⟩ := Register.exists_index valid
    obtain ⟨address, resolved⟩ := resolves symbol (of_decide_eq_true member)
    simp [Slot.actions?, Op.actions?, isTarget, resolved]
  | syscall number => exact ⟨_, rfl⟩

/-- What is in range and has no code is not an operation. -/
theorem Slot.unsupported_of_inRange {lookup : SymbolLookup} {given : List SymbolRef}
    (resolves : ∀ symbol ∈ given, ∃ address, lookup symbol = some address) {slot : Slot}
    {reason : EncodingError} (inRange : slot.inRange given = true)
    (refused : slot.encode? lookup = .error reason) :
    slot.isOperation = false ∧ ∃ reference, reason = .unsupported reference := by
  cases slot with
  | op operation =>
    obtain ⟨code, encoded⟩ := Op.exists_encode? resolves inRange
    rw [encoded] at refused
    cases refused
  | reference operation =>
    cases refused
    exact ⟨rfl, _, rfl⟩
  | emptyReference form =>
    cases refused
    exact ⟨rfl, _, rfl⟩
  | empty =>
    cases refused
    exact ⟨rfl, _, rfl⟩

/-! ### The code while a program grows -/

section Codes

variable {lookup lookup' : SymbolLookup}

/-- More addresses do not change what has a code. -/
theorem Slot.encode?_mono (more : ∀ symbol address, lookup symbol = some address →
      lookup' symbol = some address) {slot : Slot} {code : Bytes}
    (encoded : slot.encode? lookup = .ok code) : slot.encode? lookup' = .ok code := by
  by_cases loads : ∃ register symbol, slot = .op (.loadSymbol register symbol)
  · obtain ⟨register, symbol, rfl⟩ := loads
    obtain ⟨actions, found, rfl⟩ := Slot.encode?_eq_ok_iff.mp encoded
    obtain ⟨address, resolved, rest⟩ := Option.bind_eq_some_iff.mp found
    refine Slot.encode?_eq_ok_iff.mpr ⟨actions, ?_, rfl⟩
    exact Option.bind_eq_some_iff.mpr ⟨address, more symbol address resolved, rest⟩
  · exact Slot.encode?_of_not_loadSymbol
      (fun register symbol same => loads ⟨register, symbol, same⟩) encoded lookup'

/-- **The code of a list begins the code of any longer list**, also with more addresses there. -/
theorem encodeAll?_isPrefix (more : ∀ symbol address, lookup symbol = some address →
      lookup' symbol = some address) {slots later : List Slot} {code code' : Bytes}
    (encoded : encodeAll? lookup slots = .ok code)
    (encoded' : encodeAll? lookup' (slots ++ later) = .ok code') : code <+: code' := by
  induction slots generalizing code code' with
  | nil =>
    cases encoded
    exact List.nil_prefix
  | cons slot slots ih =>
    obtain ⟨own, rest, here, others, rfl⟩ := encodeAll?_cons_eq_ok encoded
    obtain ⟨own', rest', here', others', rfl⟩ := encodeAll?_cons_eq_ok encoded'
    have same := Slot.encode?_mono more here
    rw [Except.ok.inj (here'.symm.trans same)]
    exact (List.prefix_append_right_inj own).mpr (ih others others')

end Codes

/-- A failure that is told as a value out of range. -/
def BuildError.IsOfRange (error : BuildError) : Prop :=
  error.fault.category = some .range ∧ error.fault.hasKind .undefinedSymbol = false

namespace Builder

section Built

variable {layout : Layout} {program later : Program} {assembly assembly' : Assembly}

theorem Built.data_isPrefix (built : Built layout program assembly)
    (built' : Built layout later assembly') (grows : program.Extends later) :
    assembly.data <+: assembly'.data := by
  obtain ⟨more, symbols⟩ := grows.symbols
  rw [built.data, built'.data, ← symbols, symbolContent_append]
  exact List.prefix_append _ _

/-- **The code of a program begins the code of what it grows to.** -/
theorem Built.code_isPrefix (built : Built layout program assembly)
    (built' : Built layout later assembly') (grows : program.Extends later) :
    assembly.code <+: assembly'.code := by
  obtain ⟨more, slots⟩ := grows.slots
  have code' := built'.code
  rw [← slots] at code'
  exact encodeAll?_isPrefix (fun symbol address => grows.symbolAddress?) built.code code'

/-- **A reference leads to its bytes.** -/
theorem Built.content_at (built : Built layout program assembly)
    (small : assembly.data.length < 2 ^ 63) {symbol : SymbolRef} {bytes : Bytes}
    (declares : program.Declares symbol bytes) :
    ∃ address, program.symbolAddress? layout.dataAddress symbol = some address
      ∧ layout.dataAddress.toNat ≤ address.toNat
      ∧ (assembly.data.drop (address.toNat - layout.dataAddress.toNat)).take bytes.length
        = bytes := by
  have resolved := declares.symbolAddress? layout.dataAddress
  obtain ⟨before, behind, content, length⟩ := symbolContent_at declares.2
  have number := resolved
  rw [← program.address?_addressTable] at number
  have number := built.toNat_address small (SymbolTable.address?_eq_some number)
  refine ⟨_, resolved, by omega, ?_⟩
  rw [number, Nat.add_sub_cancel_left, built.data, content, ← length, List.append_assoc,
    List.drop_left, List.take_left]

end Built

/-! ### Failures -/

/-- **Why a build of declared symbols fails**: a value is out of range, or a place of the list has no
code with all symbols declared. -/
theorem build_eq_error {verbose : Bool} {builder : Builder} {program : Program} {error : BuildError}
    (declared : ∀ symbol ∈ program.symbols, symbol ≠ none)
    (fails : (builder.build verbose (some program)).1.result = .error error) :
    error.IsOfRange
      ∨ ∃ index, ∃ slot ∈ program.slots, ∃ reason, error = .slot index slot reason
        ∧ slot.encode? (program.symbolAddress? builder.layout.dataAddress) = .error reason := by
  rcases run_eq_error (run_of_build_error fails) with
    ⟨reason, -, rfl, -⟩ | ⟨stored, storing, -⟩ | ⟨stored, storing, encoded, -, later⟩
  · cases reason <;> exact .inl ⟨rfl, rfl⟩
  · obtain ⟨done, symbol, rest, symbols, reached, failed⟩ := Traced.fold_eq_error storing
    have holds : stored.Holds builder.layout.dataAddress done := storeSymbols_holds reached
    rcases storeSymbol_eq_error holds.writable failed with ⟨rfl, -⟩ | ⟨_, -, -, rfl⟩
    · exact absurd rfl (declared none (by rw [symbols]; simp))
    · exact .inl ⟨rfl, rfl⟩
  · have table : stored.addresses.reverse = program.addressTable builder.layout.dataAddress :=
      (storeSymbols_holds storing).addresses
    rw [table, program.address?_addressTable] at later
    rcases later with encoding | ⟨-, -, rfl⟩
    · obtain ⟨done, slot, rest, slots, reached, failed⟩ := Traced.fold_eq_error encoding
      obtain ⟨reason, refused, told⟩ :=
        encodeSlot_eq_error (encodeSlots_holds reached).writable failed
      exact .inr ⟨_, slot, by rw [slots]; simp, reason, told, refused⟩
    · exact .inl ⟨rfl, rfl⟩

/-! ### References in every run -/

/-- **References stay valid and keep their addresses.** Calls on one program hand out references, and
all operations that are emitted, before or after, are in range and refer to one of them. A build of the
final program, in any layout, does not fail for an undefined symbol. If only operations were emitted, it
fails for a value out of range and for nothing else; something else that was emitted may be told as well.
When it succeeds, each reference has an address at which the data is what the reference was handed out
for. What is built after some of the calls, with the same layout, begins what is built after all of them:
the data, the code and the addresses. -/
theorem references_of_edits (edits : List Program.Edit) (verbose : Bool) (builder : Builder)
    {given : List (SymbolRef × Bytes)} {final : Program}
    (run : ({} : Program).editAll edits = (given, final))
    (inRange : ∀ slot ∈ final.slots, slot.inRange (given.map Prod.fst) = true) :
    (∀ error, (builder.build verbose (some final)).1.result = .error error →
        error.fault.hasKind .undefinedSymbol = false
          ∧ (error.fault.category = some .range
            ∨ ∃ slot ∈ final.slots, slot.isOperation = false
              ∧ ∃ index reference, error = .slot index slot (.unsupported reference)))
      ∧ ((∀ slot ∈ final.slots, slot.isOperation = true) →
        ∀ error, (builder.build verbose (some final)).1.result = .error error →
          error.fault.category = some .range)
      ∧ ∀ assembly, (builder.build verbose (some final)).1.result = .ok assembly →
        let base := builder.layout.dataAddress
        let addresses := (builder.build verbose (some final)).2.addresses
        ((symbolContent final.symbols).length < 2 ^ 63 → ∀ symbol bytes, (symbol, bytes) ∈ given →
          ∃ address, SymbolTable.address? addresses symbol = some address
            ∧ base.toNat ≤ address.toNat
            ∧ (assembly.data.drop (address.toNat - base.toNat)).take bytes.length = bytes)
        ∧ ∀ first second, edits = first ++ second →
          ∀ (chatty : Bool) (earlier : Builder) (part : Assembly),
            earlier.layout = builder.layout →
            let middle := (({} : Program).editAll first).2
            (earlier.build chatty (some middle)).1.result = .ok part →
              part.data <+: assembly.data ∧ part.code <+: assembly.code
                ∧ (earlier.build chatty (some middle)).2.addresses <+: addresses := by
  have declares : ∀ symbol bytes, (symbol, bytes) ∈ given → final.Declares symbol bytes := by
    intro symbol bytes member
    have handed := ({} : Program).declares_editAll edits symbol bytes
    rw [run] at handed
    exact handed member
  have declared : ∀ symbol ∈ final.symbols, symbol ≠ none := by
    have kept := ({} : Program).declared_editAll edits nofun
    rwa [run] at kept
  have resolves : ∀ symbol ∈ given.map Prod.fst, ∃ address,
      final.symbolAddress? builder.layout.dataAddress symbol = some address := by
    intro symbol member
    obtain ⟨⟨handed, bytes⟩, listed, rfl⟩ := List.mem_map.mp member
    exact ⟨_, (declares handed bytes listed).symbolAddress? _⟩
  have told (error : BuildError)
      (fails : (builder.build verbose (some final)).1.result = .error error) :
      error.IsOfRange ∨ ∃ slot ∈ final.slots, slot.isOperation = false
        ∧ ∃ index reference, error = .slot index slot (.unsupported reference) := by
    rcases build_eq_error declared fails with range | ⟨index, slot, member, reason, rfl, refused⟩
    · exact .inl range
    · obtain ⟨other, reference, rfl⟩ :=
        Slot.unsupported_of_inRange resolves (inRange slot member) refused
      exact .inr ⟨slot, member, other, index, reference, rfl⟩
  refine ⟨fun error fails => ?_, fun operations error fails => ?_, fun assembly builds => ?_⟩
  · rcases told error fails with ⟨category, kind⟩ | ⟨slot, member, other, index, reference, rfl⟩
    · exact ⟨kind, .inl category⟩
    · exact ⟨rfl, .inr ⟨slot, member, other, index, reference, rfl⟩⟩
  · rcases told error fails with ⟨category, -⟩ | ⟨slot, member, other, -⟩
    · exact category
    · exact absurd (other.symm.trans (operations slot member)) Bool.false_ne_true
  · have built := built_of_build builds
    dsimp only
    rw [addresses_of_build builds]
    refine ⟨fun small symbol bytes member => ?_, ?_⟩
    · rw [final.address?_addressTable]
      exact built.content_at (by rwa [built.data]) (declares symbol bytes member)
    · rintro first second rfl chatty earlier part sameLayout builtBefore
      have grows : (({} : Program).editAll first).2.Extends final := by
        have whole := ({} : Program).editAll_append first second
        rw [run] at whole
        rw [show final = _ from whole]
        exact Program.extends_editAll _ second
      have before := built_of_build builtBefore
      rw [addresses_of_build builtBefore, sameLayout]
      rw [sameLayout] at before
      exact ⟨before.data_isPrefix built grows, before.code_isPrefix built grows,
        grows.addressTable _⟩

/-- Calls that emit the load of a symbol before the symbol is declared. -/
def loadFirst : List Program.Edit :=
  [.emit [.op (.loadSymbol ⟨9⟩ ⟨1⟩)], .addString [0x68], .addString [0x69, 0x21],
    .emit [.op (.loadImm .si .byte 0x2ff), .op (.syscall .write)]]

theorem references_of_edits_loadFirst :
    ∃ given final assembly part, ({} : Program).editAll loadFirst = (given, final)
      ∧ (⟨1⟩, [0x69, 0x21]) ∈ given
      ∧ (({} : Builder).build false (some final)).1.result = .ok assembly
      ∧ (({} : Builder).build false (some (({} : Program).editAll (loadFirst.take 3)).2)).1.result
        = .ok part
      ∧ part.code ≠ [] ∧ part.code <+: assembly.code
      ∧ ∃ address, SymbolTable.address? [0x402000, 0x402001] ⟨1⟩ = some address
        ∧ (assembly.data.drop (address.toNat - 0x402000)).take 2 = [0x69, 0x21] := by
  obtain ⟨assembly, builds⟩ : ∃ assembly, (({} : Builder).build false
      (some (({} : Program).editAll loadFirst).2)).1.result = .ok assembly := ⟨_, rfl⟩
  obtain ⟨part, builtBefore⟩ : ∃ part, (({} : Builder).build false
      (some (({} : Program).editAll (loadFirst.take 3)).2)).1.result = .ok part := ⟨_, rfl⟩
  obtain ⟨-, -, succeeds⟩ := references_of_edits loadFirst false {} rfl (by decide)
  obtain ⟨resolves, begins⟩ := succeeds assembly builds
  obtain ⟨address, found, -, content⟩ := resolves (by decide) ⟨1⟩ [0x69, 0x21] (by decide)
  refine ⟨_, _, assembly, part, rfl, by decide, builds, builtBefore, ?_,
    (begins (loadFirst.take 3) (loadFirst.drop 3) rfl false {} part rfl builtBefore).2.1,
    address, found, content⟩
  cases builtBefore
  decide

end Builder

end StaticElf
