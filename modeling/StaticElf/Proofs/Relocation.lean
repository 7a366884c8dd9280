/-
**One program in two layouts.**

The length of the code of an operation does not depend on where anything lies, so every operation has
the same place in the code whatever the layout is. Only the immediates of loads of symbols depend on
it, and they all move with the data.

* `Slot.codeSize`, `codeOffset` — how long the code of an operation is, and where it begins.
* `InAddress` — the places of the code at which the address of a symbol stands.
* `encode?_loadSymbol_eq_ok`, `Slot.encode?_of_not_loadSymbol` — the code of one place is a head and an
  address, or it is the same for all addresses.
* `encodeAll?_at` — the code of each place is found where it begins.
* `encodeAll?_agree` — two codes of one list are the same outside the addresses.
* `Builder.Relocated`, `Builder.relocated_of_builds` — the relocation law for two builds.
-/

import StaticElf.Proofs.Headers
import StaticElf.Proofs.Placing

namespace StaticElf

/-! ### Where operations lie in the code -/

/-- The number of bytes of the code of an operation: a `mov` has a head and an immediate of its width,
a system call is a `mov` of 32 bits and a trap. -/
def Op.codeSize : Op → Nat
  | .loadImm register width _ =>
    match register.index?, width.operand? with
    | some target, some operand =>
      (Instruction.movHead target operand).length + operand.bytes
    | _, _ => 0
  | .loadSymbol .. => 10
  | .syscall _ => 7

/-- The number of bytes of the code of one place of a list. -/
def Slot.codeSize : Slot → Nat
  | .op operation => operation.codeSize
  | _ => 0

/-- Where in the code of a list the code of a place begins. -/
def codeOffset (slots : List Slot) (index : Nat) : Nat :=
  ((slots.take index).map Slot.codeSize).sum

/-- **A byte of an address in the code**: one of the eight bytes behind the two with which the load of
a symbol begins. -/
def InAddress (slots : List Slot) (place : Nat) : Prop :=
  ∃ index register symbol, slots[index]? = some (.op (.loadSymbol register symbol))
    ∧ codeOffset slots index + 2 ≤ place ∧ place < codeOffset slots index + 10

theorem codeOffset_cons_succ (slot : Slot) (slots : List Slot) (index : Nat) :
    codeOffset (slot :: slots) (index + 1) = slot.codeSize + codeOffset slots index := by
  rw [codeOffset, List.take_succ_cons, List.map_cons, List.sum_cons, codeOffset]

theorem InAddress.cons {slots : List Slot} {place : Nat} (slot : Slot)
    (inside : InAddress slots place) : InAddress (slot :: slots) (slot.codeSize + place) := by
  obtain ⟨index, register, symbol, listed, above, below⟩ := inside
  refine ⟨index + 1, register, symbol, listed, ?_, ?_⟩
  · rw [codeOffset_cons_succ]
    omega
  · rw [codeOffset_cons_succ]
    omega

/-! ### The code of one place -/

section Places

variable {lookup : SymbolLookup} {slot : Slot} {code : Bytes}

theorem length_movHead_qword (target : Fin 16) :
    (Instruction.movHead target .qword).length = 2 := by
  revert target
  decide

/-- The code of the load of a symbol: a head of two bytes and the address. -/
theorem encode?_loadSymbol_eq_ok {register : Register} {symbol : SymbolRef}
    (encoded : (Slot.op (.loadSymbol register symbol)).encode? lookup = .ok code) :
    ∃ target address, register.index? = some target ∧ lookup symbol = some address
      ∧ code = Instruction.movHead target .qword ++ u64Bytes address := by
  obtain ⟨actions, found, rfl⟩ := Slot.encode?_eq_ok_iff.mp encoded
  obtain ⟨address, resolved, rest⟩ := Option.bind_eq_some_iff.mp found
  obtain ⟨target, valid, last⟩ := Option.bind_eq_some_iff.mp rest
  cases last
  exact ⟨target, address, valid, resolved, List.append_nil _⟩

/-- What does not load a symbol has the same code for all addresses. -/
theorem Slot.encode?_of_not_loadSymbol
    (other : ∀ register symbol, slot ≠ .op (.loadSymbol register symbol))
    (encoded : slot.encode? lookup = .ok code) (lookup' : SymbolLookup) :
    slot.encode? lookup' = .ok code := by
  have same : slot.actions? lookup' = slot.actions? lookup := by
    cases slot with
    | reference operation => rfl
    | emptyReference form => rfl
    | empty => rfl
    | op operation =>
      cases operation with
      | loadImm register width value => rfl
      | loadSymbol register symbol => exact absurd rfl (other register symbol)
      | syscall number => rfl
  rw [Slot.encode?_eq_ok_iff, same]
  exact Slot.encode?_eq_ok_iff.mp encoded

/-- **The length of the code of one place** does not depend on addresses. -/
theorem Slot.length_encode? (encoded : slot.encode? lookup = .ok code) :
    code.length = slot.codeSize := by
  cases slot with
  | reference operation => cases encoded
  | emptyReference form => cases encoded
  | empty => cases encoded
  | op operation =>
    cases operation with
    | loadImm register width value =>
      obtain ⟨actions, found, rfl⟩ := Slot.encode?_eq_ok_iff.mp encoded
      obtain ⟨target, valid, rest⟩ := Option.bind_eq_some_iff.mp found
      obtain ⟨operand, known, last⟩ := Option.bind_eq_some_iff.mp rest
      cases last
      simp [Slot.codeSize, Op.codeSize, valid, known, Machine.Action.code, immediateBytes]
    | loadSymbol register symbol =>
      obtain ⟨target, address, -, -, rfl⟩ := encode?_loadSymbol_eq_ok encoded
      rw [List.length_append, length_movHead_qword, length_u64Bytes]
      rfl
    | syscall number =>
      obtain ⟨actions, found, rfl⟩ := Slot.encode?_eq_ok_iff.mp encoded
      cases found
      rfl

/-- **Two codes of one place** differ at most in the address of a load of a symbol. -/
theorem Slot.encode?_agree {lookup' : SymbolLookup} {code' : Bytes}
    (encoded : slot.encode? lookup = .ok code) (encoded' : slot.encode? lookup' = .ok code')
    {place : Nat} (outside : ∀ register symbol, slot = .op (.loadSymbol register symbol) →
      place < 2 ∨ 10 ≤ place) : code'[place]? = code[place]? := by
  by_cases loads : ∃ register symbol, slot = .op (.loadSymbol register symbol)
  · obtain ⟨register, symbol, rfl⟩ := loads
    obtain ⟨target, address, valid, -, rfl⟩ := encode?_loadSymbol_eq_ok encoded
    obtain ⟨target', address', valid', -, rfl⟩ := encode?_loadSymbol_eq_ok encoded'
    obtain rfl : target = target' := Option.some.inj (valid.symm.trans valid')
    have head := length_movHead_qword target
    rcases outside register symbol rfl with inHead | behind
    · rw [List.getElem?_append_left (by omega), List.getElem?_append_left (by omega)]
    · rw [List.getElem?_eq_none (by rw [List.length_append, head, length_u64Bytes]; exact behind),
        List.getElem?_eq_none (by rw [List.length_append, head, length_u64Bytes]; exact behind)]
  · have other : ∀ register symbol, slot ≠ .op (.loadSymbol register symbol) :=
      fun register symbol same => loads ⟨register, symbol, same⟩
    have same := Slot.encode?_of_not_loadSymbol other encoded lookup'
    rw [Except.ok.inj (same.symm.trans encoded')]

end Places

/-! ### The code of a list -/

section Lists

variable {lookup : SymbolLookup} {slots : List Slot} {code : Bytes}

/-- **The code of each place is found where it begins.** -/
theorem encodeAll?_at (encoded : encodeAll? lookup slots = .ok code) {index : Nat} {slot : Slot}
    (listed : slots[index]? = some slot) :
    slot.encode? lookup = .ok ((code.drop (codeOffset slots index)).take slot.codeSize) := by
  induction slots generalizing index code with
  | nil => cases listed
  | cons first slots ih =>
    obtain ⟨own, later, here, others, rfl⟩ := encodeAll?_cons_eq_ok encoded
    have length := Slot.length_encode? here
    cases index with
    | zero =>
      obtain rfl : first = slot := Option.some.inj listed
      show _ = Except.ok (List.take _ (own ++ later))
      rw [List.take_left' length, here]
    | succ index =>
      rw [codeOffset_cons_succ, ← List.drop_drop, List.drop_left' length]
      exact ih others listed

/-- **The length of the code of a list** does not depend on addresses. -/
theorem length_encodeAll? (encoded : encodeAll? lookup slots = .ok code) :
    code.length = codeOffset slots slots.length := by
  induction slots generalizing code with
  | nil =>
    cases encoded
    rfl
  | cons slot slots ih =>
    obtain ⟨own, later, here, others, rfl⟩ := encodeAll?_cons_eq_ok encoded
    rw [List.length_append, Slot.length_encode? here, ih others, List.length_cons,
      codeOffset_cons_succ]

/-- **Two codes of one list are the same outside the addresses.** -/
theorem encodeAll?_agree {lookup' : SymbolLookup} {code' : Bytes}
    (encoded : encodeAll? lookup slots = .ok code) (encoded' : encodeAll? lookup' slots = .ok code')
    {place : Nat} (outside : ¬ InAddress slots place) : code'[place]? = code[place]? := by
  induction slots generalizing place code code' with
  | nil =>
    cases encoded
    cases encoded'
    rfl
  | cons slot slots ih =>
    obtain ⟨own, later, here, others, rfl⟩ := encodeAll?_cons_eq_ok encoded
    obtain ⟨own', later', here', others', rfl⟩ := encodeAll?_cons_eq_ok encoded'
    have length := Slot.length_encode? here
    have length' := Slot.length_encode? here'
    by_cases inFirst : place < slot.codeSize
    · rw [List.getElem?_append_left (by omega), List.getElem?_append_left (by omega)]
      refine Slot.encode?_agree here here' fun register symbol same => ?_
      by_contra inAddress
      refine outside ⟨0, register, symbol, congrArg some same, ?_⟩
      show 0 + 2 ≤ place ∧ place < 0 + 10
      omega
    · obtain ⟨rest, rfl⟩ := Nat.exists_eq_add_of_le (Nat.not_lt.mp inFirst)
      rw [List.getElem?_append_right (by omega), List.getElem?_append_right (by omega), length,
        length', Nat.add_sub_cancel_left]
      exact ih others others' fun inAddress => outside (inAddress.cons slot)

/-- An address is found behind the two bytes with which its load begins. -/
theorem encodeAll?_address (encoded : encodeAll? lookup slots = .ok code) {index : Nat}
    {register : Register} {symbol : SymbolRef}
    (listed : slots[index]? = some (.op (.loadSymbol register symbol))) :
    ∃ address, lookup symbol = some address
      ∧ Elf.fieldAt code (codeOffset slots index + 2) 8 = address.toNat := by
  obtain ⟨target, address, -, resolved, own⟩ :=
    encode?_loadSymbol_eq_ok (encodeAll?_at encoded listed)
  refine ⟨address, resolved, ?_⟩
  have field : ((code.drop (codeOffset slots index)).drop 2).take 8 = u64Bytes address :=
    calc ((code.drop (codeOffset slots index)).drop 2).take 8
        = ((code.drop (codeOffset slots index)).take 10).drop 2 := by rw [List.drop_take]
      _ = (Instruction.movHead target .qword ++ u64Bytes address).drop 2 := congrArg _ own
      _ = u64Bytes address := List.drop_left' (length_movHead_qword target)
  rw [Elf.fieldAt, ← List.drop_drop, field, leValue_u64Bytes]

end Lists

/-! ### Addresses of symbols in two layouts -/

/-- A symbol with an address stands in the table. -/
theorem SymbolTable.address?_eq_some {table : SymbolTable} {symbol : SymbolRef}
    {address : UInt64} (found : table.address? symbol = some address) :
    table[symbol.index.toNat]? = some address := by
  unfold SymbolTable.address? at found
  split at found
  · cases found
  · exact found

/-- An address moves with the data. -/
theorem ofNat_toNat_add_shift (base base' : UInt64) (offset : Nat) :
    UInt64.ofNat (base'.toNat + offset)
      = UInt64.ofNat (base.toNat + offset) + (base' - base) := by
  rw [UInt64.ofNat_add, UInt64.ofNat_add, UInt64.ofNat_toNat, UInt64.ofNat_toNat]
  grind

namespace Program

variable (program : Program) (base base' : UInt64)

theorem addressTable_shift :
    program.addressTable base' = (program.addressTable base).map (· + (base' - base)) := by
  rw [addressTable, addressTable, List.map_map]
  exact List.map_congr_left fun index _ => ofNat_toNat_add_shift base base' _

theorem symbolAddress?_shift (symbol : SymbolRef) :
    program.symbolAddress? base' symbol
      = (program.symbolAddress? base symbol).map (· + (base' - base)) := by
  unfold symbolAddress?
  split
  · exact congrArg some (ofNat_toNat_add_shift base base' _)
  · rfl

end Program

/-! ### The relocation law -/

namespace Builder

/-- **The relocation law** for what one program is built to with its data at two addresses. Distances
of words are taken modulo their range; as integers they are the same where no address wraps. -/
structure Relocated (slots : List Slot) (base base' : UInt64) (addresses addresses' : SymbolTable)
    (assembly assembly' : Assembly) : Prop where
  data : assembly'.data = assembly.data
  codeLength : assembly'.code.length = assembly.code.length
  /-- All addresses move with the data. -/
  shifted : addresses' = addresses.map (· + (base' - base))
  distance : assembly.data.length < 2 ^ 63 → ∀ (index : Nat) (address address' : UInt64),
    addresses[index]? = some address → addresses'[index]? = some address' →
    (address'.toNat : Int) - address.toNat = (base'.toNat : Int) - base.toNat
  /-- Each operation has its code at the same place. -/
  operation : ∀ (index : Nat) (slot : Slot), slots[index]? = some slot →
    slot.encode? (SymbolTable.address? addresses)
        = .ok ((assembly.code.drop (codeOffset slots index)).take slot.codeSize)
      ∧ slot.encode? (SymbolTable.address? addresses')
        = .ok ((assembly'.code.drop (codeOffset slots index)).take slot.codeSize)
  /-- The code is the same where no address stands. -/
  kept : ∀ place, ¬ InAddress slots place → assembly'.code[place]? = assembly.code[place]?
  /-- The addresses in the code are those of their symbols and move with the data. -/
  moved : ∀ (index : Nat) (register : Register) (symbol : SymbolRef),
    slots[index]? = some (.op (.loadSymbol register symbol)) →
    let field := Elf.fieldAt assembly.code (codeOffset slots index + 2) 8
    let field' := Elf.fieldAt assembly'.code (codeOffset slots index + 2) 8
    SymbolTable.address? addresses symbol = some (UInt64.ofNat field)
      ∧ field < 2 ^ 64 ∧ field' < 2 ^ 64
      ∧ UInt64.ofNat field' = UInt64.ofNat field + (base' - base)
      ∧ (assembly.data.length < 2 ^ 63 → (field' : Int) - field = (base'.toNat : Int) - base.toNat)
  /-- Data at the same address makes the code the same. -/
  same : base' = base → assembly'.code = assembly.code

section Built

variable {layout layout' : Layout} {program : Program} {assembly assembly' : Assembly}

/-- The distance of two addresses of a symbol, as integers. -/
theorem Built.distance (built : Built layout program assembly)
    (built' : Built layout' program assembly') (small : assembly.data.length < 2 ^ 63) {index : Nat}
    {address address' : UInt64}
    (found : (program.addressTable layout.dataAddress)[index]? = some address)
    (found' : (program.addressTable layout'.dataAddress)[index]? = some address') :
    (address'.toNat : Int) - address.toNat
      = (layout'.dataAddress.toNat : Int) - layout.dataAddress.toNat := by
  have small' : assembly'.data.length < 2 ^ 63 := by rwa [built'.data, ← built.data]
  have number := built.toNat_address small found
  have number' := built'.toNat_address small' found'
  omega

end Built

/-- **Two builds of one program obey the relocation law**, whatever their layouts are. -/
theorem relocated_of_builds {verbose verbose' : Bool} {builder builder' : Builder}
    {program : Program} {assembly assembly' : Assembly}
    (builds : (builder.build verbose (some program)).1.result = .ok assembly)
    (builds' : (builder'.build verbose' (some program)).1.result = .ok assembly') :
    Relocated program.slots builder.layout.dataAddress builder'.layout.dataAddress
      (builder.build verbose (some program)).2.addresses
      (builder'.build verbose' (some program)).2.addresses assembly assembly' := by
  have built := built_of_build builds
  have built' := built_of_build builds'
  rw [addresses_of_build builds, addresses_of_build builds']
  refine ⟨built'.data.trans built.data.symm, ?_, program.addressTable_shift _ _, ?_, ?_, ?_, ?_, ?_⟩
  · rw [length_encodeAll? built.code, length_encodeAll? built'.code]
  · exact fun small index address address' => built.distance built' small
  · intro index slot listed
    rw [program.address?_addressTable, program.address?_addressTable]
    exact ⟨encodeAll?_at built.code listed, encodeAll?_at built'.code listed⟩
  · exact fun place outside => encodeAll?_agree built.code built'.code outside
  · intro index register symbol listed
    obtain ⟨address, resolved, field⟩ := encodeAll?_address built.code listed
    obtain ⟨address', resolved', field'⟩ := encodeAll?_address built'.code listed
    dsimp only
    rw [field, field', UInt64.ofNat_toNat, UInt64.ofNat_toNat]
    refine ⟨?_, address.toNat_lt, address'.toNat_lt, ?_, fun small => ?_⟩
    · rw [program.address?_addressTable, resolved]
    · rw [program.symbolAddress?_shift builder.layout.dataAddress, resolved] at resolved'
      exact (Option.some.inj resolved').symm
    · rw [← program.address?_addressTable] at resolved resolved'
      exact built.distance built' small (SymbolTable.address?_eq_some resolved)
        (SymbolTable.address?_eq_some resolved')
  · intro same
    have code' := built'.code
    rw [same, built.code] at code'
    exact (Except.ok.inj code').symm

theorem relocated_of_builds_tight :
    ∃ assembly, (({} : Builder).build false (some packed)).1.result = .ok assembly
      ∧ (({ layout := tight } : Builder).build true (some packed)).1.result = .ok tightlyPacked
      ∧ Relocated packed.slots 0x402000 0xfffffffffffffffc [0x402000, 0x402001, 0x402001]
        [0xfffffffffffffffc, 0xfffffffffffffffd, 0xfffffffffffffffd] assembly tightlyPacked := by
  obtain ⟨assembly, builds⟩ :
      ∃ assembly, (({} : Builder).build false (some packed)).1.result = .ok assembly := ⟨_, rfl⟩
  have builds' :
      (({ layout := tight } : Builder).build true (some packed)).1.result = .ok tightlyPacked := rfl
  exact ⟨assembly, builds, builds', relocated_of_builds builds builds'⟩

end Builder

end StaticElf
