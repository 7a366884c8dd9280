/-
**What a build puts where.**

A build stores the symbols one after the other and then encodes the operations, which see where
every symbol is.

* `symbolContent`, `symbolOffset` — the bytes of all symbols, and where each of them begins.
* `Program.symbolAddress?`, `Program.addressTable` — the addresses of symbols, by the lengths of those
  before.
* `Stored.Holds`, `storeSymbols_holds` — what the first pass has stored.
* `Encoded.Holds`, `encodeSlots_holds` — what the second pass has encoded.
* `Builder.run_eq_ok`, `Builder.run_eq_error` — what a build does, and where one that fails stops.
* `Builder.Built`, `Builder.built_of_build` — the assembly of a successful build.
-/

import StaticElf.Builder
import StaticElf.Proofs.CodeStream
import StaticElf.Theory.Words

namespace StaticElf

/-! ### Where symbols lie -/

/-- The bytes of symbols, one after the other. -/
def symbolContent (symbols : List (Option Bytes)) : Bytes := (symbols.map (·.getD [])).flatten

/-- The number of bytes of the symbols before a position. -/
def symbolOffset (symbols : List (Option Bytes)) (index : Nat) : Nat :=
  ((symbols.take index).map fun symbol => (symbol.getD []).length).sum

/-- **The addresses of symbols**: the data starts at `base`, and each symbol begins where the one
before ends. -/
def Program.symbolAddress? (program : Program) (base : UInt64) : SymbolLookup := fun symbol =>
  if 0 ≤ symbol.index ∧ symbol.index.toNat < program.symbols.length then
    some (UInt64.ofNat (base.toNat + symbolOffset program.symbols symbol.index.toNat))
  else none

/-- The addresses of all symbols, in their order. -/
def Program.addressTable (program : Program) (base : UInt64) : SymbolTable :=
  (List.range program.symbols.length).map fun index =>
    UInt64.ofNat (base.toNat + symbolOffset program.symbols index)

theorem symbolContent_append (first later : List (Option Bytes)) :
    symbolContent (first ++ later) = symbolContent first ++ symbolContent later := by
  simp [symbolContent]

theorem symbolOffset_eq (symbols : List (Option Bytes)) (index : Nat) :
    symbolOffset symbols index = (symbolContent (symbols.take index)).length := by
  simp [symbolOffset, symbolContent, List.length_flatten, Function.comp_def]

theorem symbolOffset_append (symbols later : List (Option Bytes)) {index : Nat}
    (inside : index ≤ symbols.length) :
    symbolOffset (symbols ++ later) index = symbolOffset symbols index := by
  rw [symbolOffset, List.take_append_of_le_length inside, symbolOffset]

/-- **A symbol lies where its offset says.** -/
theorem symbolContent_at {symbols : List (Option Bytes)} {index : Nat} {bytes : Bytes}
    (declared : symbols[index]? = some (some bytes)) :
    ∃ before behind, symbolContent symbols = before ++ bytes ++ behind
      ∧ before.length = symbolOffset symbols index := by
  obtain ⟨inside, here⟩ := List.getElem?_eq_some_iff.mp declared
  refine ⟨symbolContent (symbols.take index), symbolContent (symbols.drop (index + 1)), ?_,
    (symbolOffset_eq symbols index).symm⟩
  have split : symbols = symbols.take index ++ [some bytes] ++ symbols.drop (index + 1) := by
    rw [← here, List.take_append_getElem inside, List.take_append_drop]
  calc symbolContent symbols
      = symbolContent (symbols.take index ++ [some bytes] ++ symbols.drop (index + 1)) := by
        rw [← split]
    _ = _ := by
      rw [symbolContent_append, symbolContent_append]
      simp [symbolContent]

/-! ### The first pass -/

/-- **What is stored of symbols**: all of them, each where its offset says, in a segment that can
still be written. -/
structure Stored.Holds (base : UInt64) (symbols : List (Option Bytes)) (stored : Stored) :
    Prop where
  declared : ∀ symbol ∈ symbols, symbol ≠ none
  writable : stored.data.committed = false
  content : stored.data.content = symbolContent symbols
  used : stored.used = (symbolContent symbols).length
  addresses : stored.addresses.reverse = (List.range symbols.length).map fun index =>
    UInt64.ofNat (base.toNat + symbolOffset symbols index)
  /-- No sum of words wraps as long as the symbols are not huge. -/
  inMemory : (symbolContent symbols).length < 2 ^ 63 →
    base.toNat + (symbolContent symbols).length ≤ 2 ^ 64 - 1

/-- The guard against symbols above the last address, in numbers. -/
theorem not_gt_room_iff {base : UInt64} {used length : Nat} (small : used + length < 2 ^ 64) :
    ¬ UInt64.ofNat used + UInt64.ofNat length > 0xffffffffffffffff - base
      ↔ base.toNat + (used + length) ≤ 2 ^ 64 - 1 := by
  have sum : (UInt64.ofNat used + UInt64.ofNat length).toNat = used + length := by
    rw [← UInt64.ofNat_add, UInt64.toNat_ofNat_of_lt' small]
  have := base.toNat_lt
  rw [GT.gt, UInt64.lt_iff_toNat_lt, sum, toNat_top_sub]
  omega

/-- What storing one symbol does, when it succeeds. -/
theorem storeSymbol_eq_ok {verbose : Bool} {base : UInt64} {stored next : Stored}
    {symbol : Option Bytes}
    (succeeds : (storeSymbol verbose base stored symbol).result = .ok next) :
    ∃ bytes data, symbol = some bytes
      ∧ ¬ UInt64.ofNat stored.used + UInt64.ofNat bytes.length > 0xffffffffffffffff - base
      ∧ stored.data.write? bytes = .ok data ∧ next = {
        data
        used := stored.used + bytes.length
        count := stored.count + 1
        addresses := (base + UInt64.ofNat stored.used) :: stored.addresses } := by
  cases symbol with
  | none => cases succeeds
  | some bytes =>
    simp only [storeSymbol] at succeeds
    split at succeeds
    · cases succeeds
    · next fits =>
      rw [Traced.result_bind] at succeeds
      obtain ⟨data, written, rest⟩ := except_bind_eq_ok.mp succeeds
      refine ⟨bytes, data, rfl, fits, except_mapError_eq_ok.mp written, ?_⟩
      exact (Except.ok.inj rest).symm

/-- Why storing one symbol fails, in a segment that can be written. -/
theorem storeSymbol_eq_error {verbose : Bool} {base : UInt64} {stored : Stored}
    {symbol : Option Bytes} {error : BuildError} (writable : stored.data.committed = false)
    (fails : (storeSymbol verbose base stored symbol).result = .error error) :
    (symbol = none ∧ error = .emptySymbol stored.count)
      ∨ ∃ bytes, symbol = some bytes
        ∧ UInt64.ofNat stored.used + UInt64.ofNat bytes.length > 0xffffffffffffffff - base
        ∧ error = .symbolTooHigh stored.count := by
  cases symbol with
  | none =>
    cases fails
    exact .inl ⟨rfl, rfl⟩
  | some bytes =>
    simp only [storeSymbol] at fails
    split at fails
    · next high =>
      cases fails
      exact .inr ⟨bytes, rfl, high, rfl⟩
    · rw [Traced.result_bind] at fails
      rcases except_bind_eq_error.mp fails with writing | ⟨data, -, rest⟩
      · obtain ⟨failure, refused, -⟩ := except_mapError_eq_error.mp writing
        exact absurd refused (SegmentBuffer.write?_ne_error writable bytes failure)
      · cases rest

theorem Stored.Holds.storeSymbol {verbose : Bool} {base : UInt64} {symbols : List (Option Bytes)}
    {stored next : Stored} {symbol : Option Bytes} (holds : stored.Holds base symbols)
    (succeeds : (storeSymbol verbose base stored symbol).result = .ok next) :
    next.Holds base (symbols ++ [symbol]) := by
  obtain ⟨bytes, data, rfl, fits, written, rfl⟩ := storeSymbol_eq_ok succeeds
  have last : symbolContent [some bytes] = bytes := by simp [symbolContent]
  refine ⟨?_, SegmentBuffer.committed_write? written, ?_, ?_, ?_, ?_⟩
  · intro symbol member
    rcases List.mem_append.mp member with earlier | here
    · exact holds.declared symbol earlier
    · rw [List.mem_singleton.mp here]
      exact Option.some_ne_none bytes
  · rw [SegmentBuffer.content_write? written, holds.content, symbolContent_append, last]
  · rw [symbolContent_append, last, List.length_append, ← holds.used]
  · rw [List.reverse_cons, holds.addresses, List.length_append, List.length_singleton,
      List.range_succ, List.map_append, List.map_singleton]
    congr 1
    · refine List.map_congr_left fun index member => ?_
      rw [symbolOffset_append symbols _ (List.mem_range.mp member).le]
    · rw [symbolOffset_append symbols _ le_rfl, symbolOffset_eq, List.take_length, ← holds.used,
        UInt64.ofNat_add, UInt64.ofNat_toNat]
  · rw [symbolContent_append, last, List.length_append, ← holds.used]
    intro small
    exact (not_gt_room_iff (by omega)).mp fits

/-- Before the first pass nothing is stored. -/
theorem Stored.holds_nil (base : UInt64) : Stored.Holds base [] { data := { name := "data" } } := by
  refine ⟨nofun, rfl, rfl, rfl, rfl, fun _ => ?_⟩
  exact Nat.le_sub_one_of_lt base.toNat_lt

/-- **The first pass stores every symbol where its offset says.** -/
theorem storeSymbols_holds {verbose : Bool} {base : UInt64} {symbols : List (Option Bytes)}
    {stored : Stored}
    (succeeds : (storeSymbols verbose base { name := "data" } symbols).result = .ok stored) :
    stored.Holds base symbols :=
  Traced.fold_invariant (fun symbols stored => stored.Holds base symbols)
    (fun _ _ _ _ holds taken => holds.storeSymbol taken) (Stored.holds_nil base) succeeds

/-- A symbol is found in the table by its position. -/
theorem Program.address?_addressTable (program : Program) (base : UInt64) :
    SymbolTable.address? (program.addressTable base) = program.symbolAddress? base := by
  funext symbol
  unfold SymbolTable.address? Program.symbolAddress? Program.addressTable
  rw [List.getElem?_map]
  by_cases negative : symbol.index < 0
  · rw [if_pos negative, if_neg (by omega)]
  · rw [if_neg negative]
    by_cases inside : symbol.index.toNat < program.symbols.length
    · rw [if_pos ⟨by omega, inside⟩, List.getElem?_range inside]
      rfl
    · rw [if_neg (fun both => inside both.2), List.getElem?_eq_none (by simpa using inside)]
      rfl

/-! ### The second pass -/

theorem encodeAll?_concat (lookup : SymbolLookup) (slots : List Slot) (slot : Slot) :
    encodeAll? lookup (slots ++ [slot]) = do
      let codes ← encodeAll? lookup slots
      let code ← slot.encode? lookup
      return codes ++ code := by
  induction slots with
  | nil =>
    rw [List.nil_append, encodeAll?_cons]
    cases slot.encode? lookup with
    | error error => rfl
    | ok code => exact congrArg Except.ok (List.append_nil code)
  | cons first slots ih =>
    rw [List.cons_append, encodeAll?_cons, encodeAll?_cons, ih]
    cases first.encode? lookup with
    | error error => rfl
    | ok before =>
      cases encodeAll? lookup slots with
      | error error => rfl
      | ok codes =>
        cases slot.encode? lookup with
        | error error => rfl
        | ok code => exact congrArg Except.ok (List.append_assoc before codes code).symm

/-- The trace of an encoding changes nothing in its result. -/
theorem Slot.result_encodeTraced (verbose : Bool) (lookup : SymbolLookup) (slot : Slot) :
    (slot.encodeTraced verbose lookup).result = slot.encode? lookup := by
  rw [Slot.encodeTraced, Traced.result_bind, Traced.result_ofExcept]
  cases slot.encode? lookup with
  | error error => rfl
  | ok code =>
    cases slot with
    | op operation => rfl
    | reference operation => rfl
    | emptyReference form => rfl
    | empty => rfl

/-- **What is encoded of a list**: the code of all its places, in a segment that can still be written.
-/
structure Encoded.Holds (lookup : SymbolLookup) (slots : List Slot) (encoded : Encoded) : Prop where
  writable : encoded.code.committed = false
  content : encodeAll? lookup slots = .ok encoded.code.content

/-- What encoding one place does, when it succeeds. -/
theorem encodeSlot_eq_ok {verbose : Bool} {lookup : SymbolLookup} {encoded next : Encoded}
    {slot : Slot} (succeeds : (encodeSlot verbose lookup encoded slot).result = .ok next) :
    ∃ bytes, slot.encode? lookup = .ok bytes ∧ encoded.code.write? bytes = .ok next.code
      ∧ next.count = encoded.count + 1 := by
  rw [encodeSlot, Traced.result_bind] at succeeds
  obtain ⟨bytes, traced, rest⟩ := except_bind_eq_ok.mp succeeds
  rw [Traced.result_bind] at rest
  obtain ⟨code, written, last⟩ := except_bind_eq_ok.mp rest
  cases last
  refine ⟨bytes, ?_, except_mapError_eq_ok.mp written, rfl⟩
  rw [← Slot.result_encodeTraced verbose]
  exact except_mapError_eq_ok.mp traced

/-- Why encoding one place fails, in a segment that can be written. -/
theorem encodeSlot_eq_error {verbose : Bool} {lookup : SymbolLookup} {encoded : Encoded}
    {slot : Slot} {error : BuildError} (writable : encoded.code.committed = false)
    (fails : (encodeSlot verbose lookup encoded slot).result = .error error) :
    ∃ reason, slot.encode? lookup = .error reason ∧ error = .slot encoded.count slot reason := by
  rw [encodeSlot, Traced.result_bind] at fails
  rcases except_bind_eq_error.mp fails with encoding | ⟨bytes, -, rest⟩
  · obtain ⟨reason, refused, told⟩ := except_mapError_eq_error.mp encoding
    rw [Slot.result_encodeTraced] at refused
    exact ⟨reason, refused, told.symm⟩
  · rw [Traced.result_bind] at rest
    rcases except_bind_eq_error.mp rest with writing | ⟨code, -, last⟩
    · obtain ⟨failure, refused, -⟩ := except_mapError_eq_error.mp writing
      exact absurd refused (SegmentBuffer.write?_ne_error writable bytes failure)
    · cases last

/-- **The second pass puts the code of the list in the code segment.** -/
theorem encodeSlots_holds {verbose : Bool} {lookup : SymbolLookup} {slots : List Slot}
    {encoded : Encoded}
    (succeeds : (encodeSlots verbose lookup { name := "code" } slots).result = .ok encoded) :
    encoded.Holds lookup slots := by
  have start : Encoded.Holds lookup [] { code := { name := "code" } } := ⟨rfl, rfl⟩
  refine Traced.fold_invariant (fun slots encoded => encoded.Holds lookup slots) ?_ start succeeds
  intro done encoded slot next before taken
  obtain ⟨bytes, found, written, -⟩ := encodeSlot_eq_ok taken
  refine ⟨SegmentBuffer.committed_write? written, ?_⟩
  rw [encodeAll?_concat, before.content, found, SegmentBuffer.content_write? written]
  rfl

/-! ### The assembly -/

/-- **The assembly of a program**: the data is all symbols, the code is that of the list with the
addresses of the symbols, and both lie where the layout says, in memory as long as they are. -/
structure Builder.Built (layout : Layout) (program : Program) (assembly : Assembly) : Prop where
  accepted : layout.check = .ok ()
  declared : ∀ symbol ∈ program.symbols, symbol ≠ none
  data : assembly.data = symbolContent program.symbols
  code : encodeAll? (program.symbolAddress? layout.dataAddress) program.slots = .ok assembly.code
  codeAt : assembly.codeAt = {
    offset := layout.codeOffset
    virtualAddress := layout.codeAddress
    physicalAddress := layout.codeAddress
    memorySize := UInt64.ofNat assembly.code.length }
  dataAt : assembly.dataAt = {
    offset := layout.dataOffset
    virtualAddress := layout.dataAddress
    physicalAddress := layout.dataAddress
    memorySize := UInt64.ofNat assembly.data.length }
  inMemory : assembly.data.length < 2 ^ 63 →
    layout.dataAddress.toNat + assembly.data.length ≤ 2 ^ 64 - 1
  fits : assembly.code.length ≤ layout.codeCapacity.toNat

namespace Builder

/-- What a build does, when it succeeds: the layout is accepted, both passes succeed, and the code
fits before the data. -/
theorem run_eq_ok {verbose : Bool} {builder next : Builder} {program : Program}
    {assembly : Assembly} (succeeds : (builder.run verbose program).result = .ok (assembly, next)) :
    ∃ stored encoded, builder.layout.check = .ok ()
      ∧ (storeSymbols verbose builder.layout.dataAddress { name := "data" } program.symbols).result
        = .ok stored
      ∧ (encodeSlots verbose (SymbolTable.address? stored.addresses.reverse) { name := "code" }
          program.slots).result = .ok encoded
      ∧ encoded.code.content.length ≤ builder.layout.codeCapacity.toNat
      ∧ assembly = Builder.assembly builder.layout encoded.code stored.data
      ∧ next.layout = builder.layout ∧ next.addresses = stored.addresses.reverse := by
  rw [run, Traced.result_bind] at succeeds
  obtain ⟨_, checked, afterCheck⟩ := except_bind_eq_ok.mp succeeds
  rw [Traced.result_bind] at afterCheck
  obtain ⟨stored, storing, afterSymbols⟩ := except_bind_eq_ok.mp afterCheck
  rw [Traced.result_bind] at afterSymbols
  obtain ⟨data, committing, afterCommit⟩ := except_bind_eq_ok.mp afterSymbols
  rw [Traced.result_bind] at afterCommit
  obtain ⟨encoded, encoding, afterSlots⟩ := except_bind_eq_ok.mp afterCommit
  cases committing
  dsimp only at afterSlots
  split at afterSlots
  · cases afterSlots
  · next fits =>
    cases afterSlots
    exact ⟨stored, encoded, except_mapError_eq_ok.mp checked, except_mapError_eq_ok.mp storing,
      except_mapError_eq_ok.mp encoding, Nat.not_lt.mp fits, rfl, rfl, rfl⟩

/-- **Where a build stops that fails**, and what it leaves: at the layout, before anything is renewed;
in the first pass, with some symbols stored; in the second pass, with all symbols stored and a part
of the list encoded; or behind both passes. -/
theorem run_eq_error {verbose : Bool} {builder left : Builder} {program : Program}
    {error : BuildError} (fails : (builder.run verbose program).result = .error (error, left)) :
    (∃ reason, builder.layout.check = .error reason ∧ error = .layout reason ∧ left = builder)
      ∨ (∃ stored, (storeSymbols verbose builder.layout.dataAddress { name := "data" }
            program.symbols).result = .error (error, stored)
          ∧ left = { builder.renewed with data := stored.data })
      ∨ ∃ stored, (storeSymbols verbose builder.layout.dataAddress { name := "data" }
            program.symbols).result = .ok stored
          ∧ ∃ encoded, left = { builder with
              code := encoded.code, data := { stored.data with committed := true } }
            ∧ ((encodeSlots verbose (SymbolTable.address? stored.addresses.reverse)
                  { name := "code" } program.slots).result = .error (error, encoded)
              ∨ (encodeSlots verbose (SymbolTable.address? stored.addresses.reverse)
                    { name := "code" } program.slots).result = .ok encoded
                ∧ encoded.code.content.length > builder.layout.codeCapacity.toNat
                ∧ error = .codeTooLarge encoded.code.content.length builder.layout.codeCapacity) := by
  rw [run, Traced.result_bind] at fails
  rcases except_bind_eq_error.mp fails with checking | ⟨_, -, afterCheck⟩
  · obtain ⟨reason, refused, same⟩ := except_mapError_eq_error.mp checking
    cases same
    exact .inl ⟨reason, refused, rfl, rfl⟩
  refine .inr ?_
  rw [Traced.result_bind] at afterCheck
  rcases except_bind_eq_error.mp afterCheck with storing | ⟨stored, storing, afterSymbols⟩
  · obtain ⟨⟨reason, stored⟩, stopped, same⟩ := except_mapError_eq_error.mp storing
    cases same
    exact .inl ⟨stored, stopped, rfl⟩
  refine .inr ⟨stored, except_mapError_eq_ok.mp storing, ?_⟩
  rw [Traced.result_bind] at afterSymbols
  rcases except_bind_eq_error.mp afterSymbols with committing | ⟨data, committing, afterCommit⟩
  · cases committing
  cases committing
  rw [Traced.result_bind] at afterCommit
  rcases except_bind_eq_error.mp afterCommit with encoding | ⟨encoded, encoding, afterSlots⟩
  · obtain ⟨⟨reason, encoded⟩, stopped, same⟩ := except_mapError_eq_error.mp encoding
    cases same
    exact ⟨encoded, rfl, .inl stopped⟩
  dsimp only at afterSlots
  split at afterSlots
  · next large =>
    cases afterSlots
    exact ⟨encoded, rfl, .inr ⟨except_mapError_eq_ok.mp encoding, large, rfl⟩⟩
  · cases afterSlots

/-- A build that succeeds is a run that does. -/
theorem run_of_build {verbose : Bool} {builder : Builder} {program : Program} {assembly : Assembly}
    (succeeds : (builder.build verbose (some program)).1.result = .ok assembly) :
    (builder.run verbose program).result
      = .ok (assembly, (builder.build verbose (some program)).2) := by
  simp only [build] at succeeds ⊢
  split at succeeds
  · next built next outcome =>
    cases succeeds
    simp only [outcome]
  · cases succeeds

/-- **The assembly of a successful build.** -/
theorem built_of_build {verbose : Bool} {builder : Builder} {program : Program}
    {assembly : Assembly}
    (succeeds : (builder.build verbose (some program)).1.result = .ok assembly) :
    Built builder.layout program assembly := by
  obtain ⟨stored, encoded, accepted, storing, encoding, fits, rfl, -⟩ :=
    run_eq_ok (run_of_build succeeds)
  have holds := storeSymbols_holds storing
  have table : stored.addresses.reverse = program.addressTable builder.layout.dataAddress :=
    holds.addresses
  rw [table, program.address?_addressTable] at encoding
  refine ⟨accepted, holds.declared, holds.content, (encodeSlots_holds encoding).content, rfl, rfl,
    ?_, fits⟩
  have content : (Builder.assembly builder.layout encoded.code stored.data).data
      = symbolContent program.symbols := holds.content
  rw [content]
  exact holds.inMemory

/-- **The addresses of a successful build.** -/
theorem addresses_of_build {verbose : Bool} {builder : Builder} {program : Program}
    {assembly : Assembly}
    (succeeds : (builder.build verbose (some program)).1.result = .ok assembly) :
    (builder.build verbose (some program)).2.addresses
      = program.addressTable builder.layout.dataAddress := by
  obtain ⟨stored, encoded, -, storing, -, -, -, -, table⟩ := run_eq_ok (run_of_build succeeds)
  rw [table]
  exact (storeSymbols_holds storing).addresses

end Builder

end StaticElf
