/-
**A listing tells which operations it shows.**

An operation is shown as assembler text, in traces and in what is said about a build that fails. When its
registers and widths exist, the text tells which operation it is: no two registers at any widths have the
same name, an immediate never looks like a symbol, and a system call with a name is never shown by its
number.

* `Text.hexNumeral_inj` — numerals tell numbers apart.
* `append_mark_inj` — a text can be cut at a mark that does not occur before.
* `Register.name_inj` — the names of registers at all widths are different.
* `Op.text_inj` — texts tell operations apart.
* `Op.text_unambiguous` — the same for the lines of traces and for what is said about failures.
-/

import Mathlib.Data.List.Nodup
import Mathlib.Data.List.ProdSigma
import StaticElf.Builder
import StaticElf.Proofs.Instructions
import StaticElf.Proofs.TraceText
import Std.Data.String.ToInt

namespace StaticElf

/-! ### Numerals and marks -/

namespace Text

/-- The number of some digits in a base. -/
def numeralValue (base : Nat) (digits : List Char) : Nat :=
  digits.foldl (fun value digit => base * value + (hexDigit? digit).getD 0) 0

/-- **A number that was written is read.** -/
theorem numeralValue_toDigits {base : Nat} (base_gt : 1 < base) (base_le : base ≤ 16) (value : Nat) :
    numeralValue base (Nat.toDigits base value) = value := by
  induction value using Nat.strongRecOn with
  | ind value ih =>
    by_cases small : value < base
    · rw [Nat.toDigits_of_lt_base small]
      simp [numeralValue, hexDigit?_digitChar (Nat.lt_of_lt_of_le small base_le)]
    · have rest := ih (value / base) (Nat.div_lt_self (by omega) base_gt)
      have last : value % base < 16 := Nat.lt_of_lt_of_le (Nat.mod_lt _ (by omega)) base_le
      rw [numeralValue] at rest
      rw [Nat.toDigits_of_base_le base_gt (Nat.le_of_not_lt small), numeralValue, List.foldl_append, rest]
      simp [hexDigit?_digitChar last, Nat.div_add_mod]

/-- **Numerals tell numbers apart.** -/
theorem hexNumeral_inj {value other : Nat} (same : hexNumeral value = hexNumeral other) :
    value = other := by
  have chars := congrArg String.toList ((String.append_right_inj _).mp same)
  rw [digits, digits, String.toList_ofList, String.toList_ofList] at chars
  have values := congrArg (numeralValue 16) chars
  rwa [numeralValue_toDigits (by decide) (by decide), numeralValue_toDigits (by decide) (by decide)]
    at values

/-- Bytes that are written in the same way are the same. -/
theorem spacedHexPairs_inj {bytes other : Bytes} (same : spacedHexPairs bytes = spacedHexPairs other) :
    bytes = other := by
  have read := bytes?_spacedHexPairs bytes
  rw [same, bytes?_spacedHexPairs] at read
  exact (Option.some.inj read).symm

end Text

/-- **A text can be cut at a mark** that does not occur before. -/
theorem append_mark_inj {α : Type} {mark : α} {front front' back back' : List α} (clear : mark ∉ front)
    (clear' : mark ∉ front') (same : front ++ mark :: back = front' ++ mark :: back') :
    front = front' ∧ back = back' := by
  rcases List.append_eq_append_iff.mp same with ⟨more, rfl, rest⟩ | ⟨more, rfl, rest⟩
  · cases more with
    | nil =>
      rw [List.append_nil]
      exact ⟨rfl, (List.cons.inj rest).2⟩
    | cons first more =>
      obtain ⟨rfl, -⟩ := List.cons.inj rest
      exact absurd (by simp) clear'
  · cases more with
    | nil =>
      rw [List.append_nil]
      exact ⟨rfl, (List.cons.inj rest).2.symm⟩
    | cons first more =>
      obtain ⟨rfl, -⟩ := List.cons.inj rest
      exact absurd (by simp) clear

/-! ### Registers -/

/-- The code of an operand width. -/
def OperandWidth.width : OperandWidth → Width
  | .byte => .byte
  | .word => .word
  | .dword => .dword
  | .qword => .qword

theorem Width.eq_of_operand? {width : Width} {operand : OperandWidth}
    (known : width.operand? = some operand) : width = operand.width := by
  rcases Width.eq_of_le (Width.le_of_operand? known) with rfl | rfl | rfl | rfl
  all_goals
    cases known
    rfl

namespace Register

variable {register register' : Register} {width width' : Width}

/-- Every register at every width. -/
def places : List (Fin 16 × OperandWidth) :=
  List.product (List.finRange 16) [.byte, .word, .dword, .qword]

theorem mem_places (place : Fin 16 × OperandWidth) : place ∈ places := by
  obtain ⟨index, width⟩ := place
  cases width <;> simp [places]

/-- The names of the registers at all widths are different. -/
theorem nodup_names : (places.map fun place => indexName place.1 place.2).Nodup := by
  decide +kernel

/-- No name of a register has a comma in it. -/
theorem comma_not_mem_names : ∀ place ∈ places, ',' ∉ (indexName place.1 place.2).toList := by
  decide +kernel

/-- A register is determined by its index. -/
theorem eq_of_index? {index : Fin 16} (found : register.index? = some index)
    (found' : register'.index? = some index) : register = register' := by
  have ordinal {register : Register} (found : register.index? = some index) :
      register.ordinal.toNat = index.val := by
    unfold index? at found
    split at found
    · cases found
      rfl
    · cases found
  have same : register.ordinal = register'.ordinal :=
    UInt8.toNat_inj.mp ((ordinal found).trans (ordinal found').symm)
  exact Register.mk.injEq .. ▸ same

theorem comma_not_mem_name (valid : register.valid = true) (validWidth : width.valid = true) :
    ',' ∉ (register.name width).toList := by
  obtain ⟨index, found⟩ := exists_index valid
  obtain ⟨operand, known⟩ := Width.exists_operand validWidth
  rw [name, found, known]
  exact comma_not_mem_names (index, operand) (mem_places _)

/-- **The name of a register at a width tells both.** -/
theorem name_inj (valid : register.valid = true) (validWidth : width.valid = true)
    (valid' : register'.valid = true) (validWidth' : width'.valid = true)
    (same : register.name width = register'.name width') : register = register' ∧ width = width' := by
  obtain ⟨index, found⟩ := exists_index valid
  obtain ⟨operand, known⟩ := Width.exists_operand validWidth
  obtain ⟨index', found'⟩ := exists_index valid'
  obtain ⟨operand', known'⟩ := Width.exists_operand validWidth'
  rw [name, name, found, known, found', known'] at same
  have place := List.inj_on_of_nodup_map nodup_names (mem_places (index, operand))
    (mem_places (index', operand')) same
  obtain ⟨rfl, rfl⟩ := Prod.mk.inj place
  exact ⟨eq_of_index? found found', (Width.eq_of_operand? known).trans (Width.eq_of_operand? known').symm⟩

end Register

/-! ### Operations -/

namespace SyscallNumber

/-- How a system call is shown: by its name, or by its number when it has none. -/
theorem text_cases (number : SyscallNumber) :
    number = write ∧ number.text = "write" ∨ number = exit ∧ number.text = "exit"
      ∨ number.text = "syscall(" ++ toString number.value.toNat ++ ")" := by
  unfold text
  split
  · next isWrite => exact .inl ⟨isWrite, rfl⟩
  · split
    · next isExit => exact .inr (.inl ⟨isExit, rfl⟩)
    · exact .inr (.inr rfl)

/-- **What is shown tells the system call.** -/
theorem text_inj {number other : SyscallNumber} (same : number.text = other.text) :
    number = other := by
  have named (name digits : String) (isName : name ∈ ["write", "exit"]) :
      name ≠ "syscall(" ++ digits ++ ")" := by
    rcases List.mem_pair.mp isName with rfl | rfl
    · simp [← String.toList_inj]
    · simp [← String.toList_inj]
  rcases number.text_cases with ⟨rfl, shown⟩ | ⟨rfl, shown⟩ | shown
  · rcases other.text_cases with ⟨rfl, -⟩ | ⟨rfl, shown'⟩ | shown'
    · rfl
    · exact absurd same (by decide)
    · rw [shown, shown'] at same
      exact absurd same (named _ _ (by simp))
  · rcases other.text_cases with ⟨rfl, shown'⟩ | ⟨rfl, -⟩ | shown'
    · exact absurd same (by decide)
    · rfl
    · rw [shown, shown'] at same
      exact absurd same (named _ _ (by simp))
  · rcases other.text_cases with ⟨rfl, shown'⟩ | ⟨rfl, shown'⟩ | shown'
    · rw [shown, shown'] at same
      exact absurd same.symm (named _ _ (by simp))
    · rw [shown, shown'] at same
      exact absurd same.symm (named _ _ (by simp))
    · rw [shown, shown', String.append_left_inj, String.append_right_inj] at same
      have value : number.value = other.value := UInt32.toNat_inj.mp (Nat.repr_injective same)
      exact SyscallNumber.mk.injEq .. ▸ value

end SyscallNumber

theorem SymbolRef.text_inj {symbol other : SymbolRef} (same : symbol.text = other.text) :
    symbol = other := by
  have index : symbol.index = other.index :=
    Int.repr_injective ((String.append_right_inj _).mp same)
  exact SymbolRef.mk.injEq .. ▸ index

namespace Op

/-- **An operation whose registers and widths exist.** -/
def Named : Op → Prop
  | .loadImm register width _ => register.valid = true ∧ width.valid = true
  | .loadSymbol register _ => register.valid = true
  | .syscall _ => True

instance : (operation : Op) → Decidable operation.Named
  | .loadImm .. => inferInstanceAs (Decidable (_ ∧ _))
  | .loadSymbol .. => inferInstanceAs (Decidable (_ = true))
  | .syscall _ => inferInstanceAs (Decidable True)

/-- The text of an operation that moves something into a register. -/
def movText (target operand : String) : String := "mov " ++ target ++ ", " ++ operand

/-- What is moved and where to can be told, if the name of the target has no comma. -/
theorem movText_inj {target target' operand operand' : String} (plain : ',' ∉ target.toList)
    (plain' : ',' ∉ target'.toList) (same : movText target operand = movText target' operand') :
    target = target' ∧ operand = operand' := by
  rw [movText, movText, String.append_assoc, String.append_assoc, String.append_assoc,
    String.append_assoc, String.append_right_inj] at same
  have chars := congrArg String.toList same
  rw [String.toList_append, String.toList_append, String.toList_append, String.toList_append] at chars
  obtain ⟨targets, operands⟩ := append_mark_inj plain plain' chars
  exact ⟨String.toList_inj.mp targets, String.toList_inj.mp (List.cons.inj operands).2⟩

theorem movText_ne_syscall (target operand number : String) :
    movText target operand ≠ "syscall " ++ number := by
  simp [← String.toList_inj, movText]

/-- An immediate never looks like a symbol. -/
theorem hexNumeral_ne_symbol (value : Nat) (symbol : SymbolRef) :
    Text.hexNumeral value ≠ symbol.text := by
  simp [← String.toList_inj, Text.hexNumeral, SymbolRef.text]

/-- **Texts tell operations apart.** -/
theorem text_inj {first second : Op} (named : first.Named) (named' : second.Named)
    (same : first.text = second.text) : first = second := by
  have qword : Width.qword.valid = true := by decide
  cases first with
  | loadImm register width value =>
    have plain := Register.comma_not_mem_name named.1 named.2
    cases second with
    | loadImm register' width' value' =>
      obtain ⟨targets, values⟩ :=
        movText_inj plain (Register.comma_not_mem_name named'.1 named'.2) same
      obtain ⟨rfl, rfl⟩ := Register.name_inj named.1 named.2 named'.1 named'.2 targets
      rw [UInt64.toNat_inj.mp (Text.hexNumeral_inj values)]
    | loadSymbol register' symbol =>
      obtain ⟨-, operands⟩ := movText_inj plain (Register.comma_not_mem_name named' qword) same
      exact absurd operands (hexNumeral_ne_symbol _ _)
    | syscall number => exact absurd same (movText_ne_syscall _ _ _)
  | loadSymbol register symbol =>
    have plain := Register.comma_not_mem_name named qword
    cases second with
    | loadImm register' width' value' =>
      obtain ⟨-, operands⟩ :=
        movText_inj plain (Register.comma_not_mem_name named'.1 named'.2) same
      exact absurd operands.symm (hexNumeral_ne_symbol _ _)
    | loadSymbol register' symbol' =>
      obtain ⟨targets, symbols⟩ := movText_inj plain (Register.comma_not_mem_name named' qword) same
      obtain ⟨rfl, -⟩ := Register.name_inj named qword named' qword targets
      rw [SymbolRef.text_inj symbols]
    | syscall number => exact absurd same (movText_ne_syscall _ _ _)
  | syscall number =>
    cases second with
    | loadImm register' width' value' => exact absurd same.symm (movText_ne_syscall _ _ _)
    | loadSymbol register' symbol' => exact absurd same.symm (movText_ne_syscall _ _ _)
    | syscall number' => rw [SyscallNumber.text_inj ((String.append_right_inj _).mp same)]

/-! ### Where texts are shown -/

theorem toList_encoded (operation : Op) (code : Bytes) :
    (Event.encoded operation code).text.toList
      = operation.text.toList ++ ':' :: ' ' :: ((Text.spacedHexPairs code).toList ++ ['\n']) := by
  show (operation.text ++ ": " ++ Text.spacedHexPairs code ++ "\n").toList = _
  simp

/-- **A line of a trace tells the operation and its code.** -/
theorem encoded_inj {first second : Op} (named : first.Named) (named' : second.Named)
    {code code' : Bytes} (same : (Event.encoded first code).text = (Event.encoded second code').text) :
    first = second ∧ code = code' := by
  have chars := congrArg String.toList same
  rw [toList_encoded, toList_encoded] at chars
  obtain ⟨texts, rest⟩ := append_mark_inj first.plain_text.noColon second.plain_text.noColon chars
  have codes := List.append_cancel_right (List.cons.inj rest).2
  exact ⟨text_inj named named' (String.toList_inj.mp texts),
    Text.spacedHexPairs_inj (String.toList_inj.mp codes)⟩

theorem toList_slot_message (index : Nat) (operation : Op) (error : EncodingError) :
    (BuildError.slot index (.op operation) error).fault.message.toList
      = "instruction ".toList ++ ((toString index).toList ++ ' ' :: '(' ::
        ((operation.text.toList ++ [')']) ++ ':' :: ' ' :: error.fault.message.toList)) := by
  show ("instruction " ++ toString index ++ " (" ++ operation.text ++ ")" ++ ": "
    ++ error.fault.message).toList = _
  simp

/-- **What is said about an operation without code** tells its place, the operation and the reason. -/
theorem slot_message_inj {first second : Op} (named : first.Named) (named' : second.Named)
    {index index' : Nat} {error error' : EncodingError}
    (same : (BuildError.slot index (.op first) error).fault.message
      = (BuildError.slot index' (.op second) error').fault.message) :
    index = index' ∧ first = second ∧ error.fault.message = error'.fault.message := by
  have noBlank (index : Nat) : ' ' ∉ (toString index).toList := by
    rw [Nat.toString_eq_ofList_toDigits, String.toList_ofList]
    exact Text.not_mem_toDigits (by decide) (by decide) (by decide)
  have noColon (operation : Op) : ':' ∉ operation.text.toList ++ [')'] := by
    simp [operation.plain_text.noColon]
  have chars := congrArg String.toList same
  rw [toList_slot_message, toList_slot_message, List.append_cancel_left_eq] at chars
  obtain ⟨indices, rest⟩ := append_mark_inj (noBlank index) (noBlank index') chars
  obtain ⟨texts, reasons⟩ :=
    append_mark_inj (noColon first) (noColon second) (List.cons.inj rest).2
  refine ⟨Nat.repr_injective (String.toList_inj.mp indices), ?_, ?_⟩
  · exact text_inj named named' (String.toList_inj.mp (List.append_cancel_right texts))
  · exact String.toList_inj.mp (List.cons.inj reasons).2

/-- **What is shown of an operation identifies it.** Operations whose registers and widths exist, with any
immediate, symbol and system call, have the same text only if they are the same. So a line of a trace has
only one operation and one code that it can show, and what is said about a build that fails at an
operation tells which operation that is and where it stands. -/
theorem text_unambiguous (first second : Op) (named : first.Named) (named' : second.Named) :
    (first.text = second.text ↔ first = second)
      ∧ (∀ code code', (Event.encoded first code).text = (Event.encoded second code').text
        ↔ first = second ∧ code = code')
      ∧ ∀ index index' error error',
        (BuildError.slot index (.op first) error).fault.message
            = (BuildError.slot index' (.op second) error').fault.message
          ↔ index = index' ∧ first = second ∧ error.fault.message = error'.fault.message := by
  refine ⟨⟨text_inj named named', fun same => by rw [same]⟩,
    fun code code' => ⟨encoded_inj named named', ?_⟩,
    fun index index' error error' => ⟨slot_message_inj named named', ?_⟩⟩
  · rintro ⟨rfl, rfl⟩
    rfl
  · rintro ⟨rfl, rfl, same⟩
    rw [← String.toList_inj, toList_slot_message, toList_slot_message, same]

/-- A symbol before the first one, against the immediate with the same bits. -/
theorem text_unambiguous_before :
    let symbol : Op := .loadSymbol .si ⟨-1⟩
    let immediate : Op := .loadImm .si .qword 0xffffffffffffffff
    symbol.Named ∧ immediate.Named ∧ symbol.text ≠ immediate.text := by
  intro symbol immediate
  have named : symbol.Named := by decide
  have named' : immediate.Named := by decide
  have different : symbol ≠ immediate := by decide
  exact ⟨named, named', mt (text_unambiguous symbol immediate named named').1.mp different⟩

end Op

end StaticElf
