/-
**Instructions can be read back by their shape.**

The bytes of an instruction do not say where its parts begin. A reader that knows the shape, how many
prefixes and bytes of displacement there are and which other parts, gets all the others back: where the
displacement begins it reads off the ModRM byte.

* `ModRM.splitFields_fieldsByte` — the fields of a byte come apart again.
* `ModRM.read?`, `ModRM.read?_written` — reading a form, which decides by its first byte whether a SIB
  byte follows.
* `Instruction.Shape`, `Instruction.Shape.read?` — the shape of an instruction, and reading by it.
* `Instruction.visible`, `Instruction.read?_written` — what of an instruction is in its bytes, and that a
  reader gets it.
* `Instruction.agree_of_shape` — instructions of one shape with the same bytes are the same, but for the
  fields of a SIB byte that is not there.
-/

import StaticElf.Proofs.InstructionFields

namespace StaticElf

/-! ### Forms -/

namespace ModRM

/-- The fields of two, three and three bits of a byte. -/
def splitFields (byte : UInt8) : UInt8 × UInt8 × UInt8 := (byte / 64, byte / 8 % 8, byte % 8)

/-- **The fields of a byte come apart again.** -/
theorem splitFields_fieldsByte {high middle low : UInt8} (highFits : high.toNat < 4)
    (middleFits : middle.toNat < 8) (lowFits : low.toNat < 8) :
    splitFields (fieldsByte high middle low) = (high, middle, low) := by
  have byte : (fieldsByte high middle low).toNat = 64 * high.toNat + 8 * middle.toNat + low.toNat :=
    UInt8.toNat_ofNat_of_lt' (by show _ < 256; omega)
  have first : fieldsByte high middle low / 64 = high := by
    apply UInt8.toNat_inj.mp
    rw [UInt8.toNat_div, byte]
    show (64 * high.toNat + 8 * middle.toNat + low.toNat) / 64 = high.toNat
    omega
  have second : fieldsByte high middle low / 8 % 8 = middle := by
    apply UInt8.toNat_inj.mp
    rw [UInt8.toNat_mod, UInt8.toNat_div, byte]
    show (64 * high.toNat + 8 * middle.toNat + low.toNat) / 8 % 8 = middle.toNat
    omega
  have third : fieldsByte high middle low % 8 = low := by
    apply UInt8.toNat_inj.mp
    rw [UInt8.toNat_mod, byte]
    show (64 * high.toNat + 8 * middle.toNat + low.toNat) % 8 = low.toNat
    omega
  rw [splitFields, first, second, third]

/-- Reads a form, and gives the bytes behind it. Its first byte alone decides whether a SIB byte
follows. -/
def read? : Bytes → Option (ModRM × Bytes)
  | [] => none
  | byte :: rest =>
    let (mod, reg, rm) := splitFields byte
    if mod ≠ 3 ∧ rm = 4 then
      match rest with
      | [] => none
      | sib :: rest =>
        let (scale, index, base) := splitFields sib
        some ({ mod, reg, rm, scale, index, base }, rest)
    else some ({ mod, reg, rm }, rest)

/-- **What of a form is in its bytes**: without a SIB byte, not the fields that would be in it. -/
def visible (form : ModRM) : ModRM :=
  if form.HasSib then form else { mod := form.mod, reg := form.reg, rm := form.rm }

theorem hasSib_iff (form : ModRM) : form.HasSib ↔ form.mod ≠ 3 ∧ form.rm = 4 := by
  simp [HasSib, ← UInt8.toNat_inj]

/-- **A form is read back**, whatever follows it. -/
theorem read?_written {form : ModRM} (fits : form.WellFormed) (rest : Bytes) :
    read? (form.written ++ rest) = some (form.visible, rest) := by
  have first := splitFields_fieldsByte fits.mod fits.reg fits.rm
  by_cases sib : form.HasSib
  · have second := splitFields_fieldsByte (fits.scale sib) (fits.index sib) (fits.base sib)
    rw [written, visible, if_pos sib, if_pos sib]
    simp only [read?, List.cons_append, List.nil_append, first, second, if_pos (form.hasSib_iff.mp sib)]
  · rw [written, visible, if_neg sib, if_neg sib]
    simp only [read?, List.cons_append, List.nil_append, first, if_neg (mt form.hasSib_iff.mpr sib)]

/-- Forms that show the same agree on all that is in their bytes. -/
theorem agree_of_visible {form other : ModRM} (same : form.visible = other.visible) :
    form.mod = other.mod ∧ form.reg = other.reg ∧ form.rm = other.rm
      ∧ (form.HasSib → form.scale = other.scale ∧ form.index = other.index
        ∧ form.base = other.base) := by
  have shown (form : ModRM) : form.visible.mod = form.mod ∧ form.visible.reg = form.reg
      ∧ form.visible.rm = form.rm := by
    unfold visible
    split <;> exact ⟨rfl, rfl, rfl⟩
  have mod : form.mod = other.mod := by rw [← (shown form).1, same, (shown other).1]
  have reg : form.reg = other.reg := by rw [← (shown form).2.1, same, (shown other).2.1]
  have rm : form.rm = other.rm := by rw [← (shown form).2.2, same, (shown other).2.2]
  refine ⟨mod, reg, rm, fun sib => ?_⟩
  have sib' : other.HasSib := by
    rw [HasSib, ← mod, ← rm]
    exact sib
  rw [visible, if_pos sib, visible, if_pos sib'] at same
  rw [same]
  exact ⟨rfl, rfl, rfl⟩

end ModRM

/-! ### Instructions -/

namespace Instruction

/-- **The shape of an instruction**: what its bytes do not tell. -/
structure Shape where
  prefixCount : Nat
  emitRex : Bool
  escape : UInt8
  hasModRM : Bool
  dispLength : Nat
  deriving DecidableEq, Repr

def shape (instruction : Instruction) : Shape where
  prefixCount := instruction.prefixes.length
  emitRex := instruction.emitRex
  escape := instruction.escape
  hasModRM := instruction.modrm.isSome
  dispLength := instruction.disp.length

namespace Shape

/-- Reads the REX bits, which are none where there is no byte. -/
def readRex? (shape : Shape) (bytes : Bytes) : Option (UInt8 × Bytes) :=
  if shape.emitRex then
    match bytes with
    | [] => none
    | byte :: rest => some (byte % 16, rest)
  else some (0, bytes)

/-- Reads the form, if there is one. -/
def readModRM? (shape : Shape) (bytes : Bytes) : Option (Option ModRM × Bytes) :=
  if shape.hasModRM then (ModRM.read? bytes).map fun (form, rest) => (some form, rest)
  else some (none, bytes)

/-- **Reads an instruction of a shape.** The escape is skipped, and the immediate is all that is behind the
displacement. -/
def read? (shape : Shape) (bytes : Bytes) : Option Instruction := do
  let (rex, behindRex) ← shape.readRex? (bytes.drop shape.prefixCount)
  let opcode ← (behindRex.drop (opcodeMap shape.escape.toNat).length).head?
  let behindOpcode := behindRex.drop ((opcodeMap shape.escape.toNat).length + 1)
  let (modrm, rest) ← shape.readModRM? behindOpcode
  return {
    prefixes := bytes.take shape.prefixCount
    emitRex := shape.emitRex
    rex
    escape := shape.escape
    opcode
    modrm
    disp := rest.take shape.dispLength
    imm := rest.drop shape.dispLength }

end Shape

/-- **What of an instruction is in its bytes.** -/
def visible (instruction : Instruction) : Instruction :=
  { instruction with modrm := instruction.modrm.map ModRM.visible }

variable {instruction : Instruction}

theorem readRex?_written (fits : instruction.RexFits) (rest : Bytes) :
    instruction.shape.readRex? (instruction.writtenRex ++ rest) = some (instruction.rex, rest) := by
  unfold RexFits at fits
  by_cases present : instruction.emitRex
  · rw [if_pos present] at fits
    have bits : UInt8.ofNat (0x40 + instruction.rex.toNat) % 16 = instruction.rex := by
      apply UInt8.toNat_inj.mp
      rw [UInt8.toNat_mod, UInt8.toNat_ofNat_of_lt' (by show _ < 256; omega)]
      show (0x40 + instruction.rex.toNat) % 16 = instruction.rex.toNat
      omega
    simp only [Shape.readRex?, shape, writtenRex, present, if_true, List.singleton_append, bits]
  · rw [if_neg present] at fits
    have none : instruction.rex = 0 := UInt8.toNat_inj.mp fits
    simp [Shape.readRex?, shape, writtenRex, present, none]

theorem readModRM?_written (fits : ∀ form, instruction.modrm = some form → form.WellFormed)
    (rest : Bytes) :
    instruction.shape.readModRM? (instruction.writtenModRM ++ rest)
      = some (instruction.modrm.map ModRM.visible, rest) := by
  cases given : instruction.modrm with
  | none => simp [Shape.readModRM?, shape, writtenModRM, given]
  | some form =>
    simp [Shape.readModRM?, shape, writtenModRM, given, ModRM.read?_written (fits form given)]

/-- **An instruction is read back by its shape**, as far as it is in its bytes. -/
theorem read?_written (fits : instruction.WellFormed) :
    instruction.shape.read? instruction.written = some instruction.visible := by
  have escape (bytes : Bytes) :
      (opcodeMap instruction.escape.toNat ++ instruction.opcode :: bytes).drop
        ((opcodeMap instruction.escape.toNat).length + 1) = bytes := by
    rw [← List.drop_drop, List.drop_left]
    rfl
  have parts : instruction.written = instruction.prefixes ++ (instruction.writtenRex
      ++ (opcodeMap instruction.escape.toNat ++ instruction.opcode
        :: (instruction.writtenModRM ++ (instruction.disp ++ instruction.imm)))) := by
    simp [written]
  have prefixCount : instruction.shape.prefixCount = instruction.prefixes.length := rfl
  have dispLength : instruction.shape.dispLength = instruction.disp.length := rfl
  have shapeEscape : instruction.shape.escape = instruction.escape := rfl
  simp only [Shape.read?, parts, prefixCount, dispLength, shapeEscape, List.drop_left, List.take_left,
    readRex?_written fits.rex, escape, readModRM?_written fits.modrm, Option.bind_eq_bind,
    Option.bind_some, List.head?_cons]
  rfl

/-- **Instructions of one shape with the same bytes are the same**, up to the fields of a SIB byte that is
not there. A reader that knows the shape gets the instruction back that far: where the displacement
begins it decides by the ModRM byte alone. -/
theorem agree_of_shape {first second : Instruction} {bytes : Bytes}
    (firstBytes : first.bytes? = .ok bytes) (secondBytes : second.bytes? = .ok bytes)
    (sameShape : first.shape = second.shape) :
    first.shape.read? bytes = some first.visible
      ∧ first.prefixes = second.prefixes ∧ first.rex = second.rex ∧ first.opcode = second.opcode
      ∧ first.disp = second.disp ∧ first.imm = second.imm
      ∧ (first.modrm = none ↔ second.modrm = none)
      ∧ ∀ form other, first.modrm = some form → second.modrm = some other →
        form.mod = other.mod ∧ form.reg = other.reg ∧ form.rm = other.rm
          ∧ (form.HasSib → form.scale = other.scale ∧ form.index = other.index
            ∧ form.base = other.base) := by
  have reads {instruction : Instruction} (encodes : instruction.bytes? = .ok bytes) :
      instruction.shape.read? bytes = some instruction.visible := by
    have fits := instruction.wellFormed_iff.mpr
      (instruction.settles_bytes?.exists_ok_iff.mp ⟨bytes, encodes⟩)
    rw [bytes?_eq_ok encodes, read?_written fits]
  have same : first.visible = second.visible := by
    have both := reads secondBytes
    rw [← sameShape, reads firstBytes] at both
    exact Option.some.inj both
  obtain ⟨prefixes, -, rex, -, opcode, modrm, disp, imm⟩ := Instruction.mk.injEq .. ▸ same
  refine ⟨reads firstBytes, prefixes, rex, opcode, disp, imm, ?_, fun form other given given' => ?_⟩
  · rw [← Option.map_eq_none_iff, modrm, Option.map_eq_none_iff]
  · rw [given, given'] at modrm
    exact ModRM.agree_of_visible (Option.some.inj modrm)

/-- `mov eax, [rbp + 0x44332211]`, with a value in a field of the SIB byte that it does not have. -/
def frameLoad : Instruction where
  opcode := 0x8b
  modrm := some { mod := 2, rm := 5, base := 200 }
  disp := [0x11, 0x22, 0x33, 0x44]

theorem agree_of_shape_frameLoad :
    frameLoad.bytes? = .ok [0x8b, 0x85, 0x11, 0x22, 0x33, 0x44]
      ∧ frameLoad ≠ frameLoad.visible
      ∧ frameLoad.visible.bytes? = .ok [0x8b, 0x85, 0x11, 0x22, 0x33, 0x44]
      ∧ frameLoad.shape = frameLoad.visible.shape
      ∧ frameLoad.shape.read? [0x8b, 0x85, 0x11, 0x22, 0x33, 0x44] = some frameLoad.visible
      ∧ frameLoad.disp = frameLoad.visible.disp
      ∧ scaledAdd.shape.read? [0xf0, 0x48, 0x83, 0x44, 0x88, 0x10, 0x7f] = some scaledAdd := by
  have plain : frameLoad.bytes? = .ok [0x8b, 0x85, 0x11, 0x22, 0x33, 0x44] := rfl
  have shown : frameLoad.visible.bytes? = .ok [0x8b, 0x85, 0x11, 0x22, 0x33, 0x44] := rfl
  obtain ⟨reads, -, -, -, disp, -⟩ := agree_of_shape plain shown rfl
  have scaled : scaledAdd.bytes? = .ok [0xf0, 0x48, 0x83, 0x44, 0x88, 0x10, 0x7f] := rfl
  exact ⟨plain, by decide, shown, rfl, reads, disp, (agree_of_shape scaled scaled rfl).1⟩

end Instruction

end StaticElf
