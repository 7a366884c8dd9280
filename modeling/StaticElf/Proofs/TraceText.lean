/-
**The text of a trace.**

A trace is shown as lines of text, which have numerals, names and bytes on them. The lines of operations
can be told from all other lines of a build, and the code on them is the code of the events that they
show.

* `Text.Plain` — a text on one line without a colon; names and numerals are.
* `isInstruction`, `Event.code`, `Event.OfBuild` — the lines of operations, the code that an event shows,
  and what a build traces.
* `Event.bytesOn?_text` — an event of a build has lines of its own.
* `bytesOn?_traceText` — the code on the lines of operations is that of the events, in their order.
-/

import StaticElf.Proofs.Numerals
import StaticElf.Trace

namespace StaticElf

/-! ### Texts on one line -/

namespace Text

/-- **A text on one line without a colon.** -/
structure Plain (text : String) : Prop where
  oneLine : '\n' ∉ text.toList
  noColon : ':' ∉ text.toList

instance (text : String) : Decidable (Plain text) :=
  decidable_of_iff ('\n' ∉ text.toList ∧ ':' ∉ text.toList)
    ⟨fun both => ⟨both.1, both.2⟩, fun plain => ⟨plain.oneLine, plain.noColon⟩⟩

theorem Plain.append {first second : String} (plain : Plain first) (plain' : Plain second) :
    Plain (first ++ second) := by
  refine ⟨?_, ?_⟩
  · rw [String.toList_append, List.mem_append, not_or]
    exact ⟨plain.oneLine, plain'.oneLine⟩
  · rw [String.toList_append, List.mem_append, not_or]
    exact ⟨plain.noColon, plain'.noColon⟩

theorem plain_digits {base : Nat} (base_gt : 1 < base) (base_le : base ≤ 16) (value : Nat) :
    Plain (digits base value) := by
  have noMark {mark : Char} (isMark : mark ∈ marks) : mark ∉ (digits base value).toList := by
    rw [digits, String.toList_ofList]
    exact not_mem_toDigits base_gt base_le isMark
  exact ⟨noMark (by decide), noMark (by decide)⟩

theorem plain_hexNumeral (value : Nat) : Plain (hexNumeral value) :=
  Plain.append (by decide) (plain_digits (by decide) (by decide) value)

theorem plain_nat (value : Nat) : Plain (toString value) := by
  rw [Nat.toString_eq_ofList_toDigits]
  exact plain_digits (by decide) (by decide) value

theorem plain_int (value : Int) : Plain (toString value) := by
  rw [Int.toString_eq_repr, Int.repr_eq_if]
  split
  · exact plain_nat value.toNat
  · exact Plain.append (by decide) (plain_nat (-value).toNat)

end Text

open Text

theorem Register.plain_name (register : Register) (width : Width) : Plain (register.name width) := by
  unfold Register.name
  split
  · next index operand _ _ =>
    have each : ∀ index, Plain (Register.indexName index operand) := by
      cases operand <;> decide
    exact each index
  · exact Plain.append (by decide) (plain_nat _)

/-- **An operation is shown on one line, without a colon.** -/
theorem Op.plain_text (operation : Op) : Plain operation.text := by
  cases operation with
  | loadImm register width value =>
    exact (((show Plain "mov " by decide).append (register.plain_name width)).append
      (show Plain ", " by decide)).append (plain_hexNumeral _)
  | loadSymbol register symbol =>
    exact (((show Plain "mov " by decide).append (register.plain_name .qword)).append
      (show Plain ", " by decide)).append ((show Plain "sym#" by decide).append (plain_int _))
  | syscall number =>
    refine (show Plain "syscall " by decide).append ?_
    unfold SyscallNumber.text
    split
    · decide
    · split
      · decide
      · exact ((show Plain "syscall(" by decide).append (plain_nat _)).append (by decide)

/-! ### The lines of a build -/

/-- Whether a line shows an operation. -/
def isInstruction (line : List Char) : Bool :=
  "mov ".toList.isPrefixOf line || "syscall ".toList.isPrefixOf line

theorem Op.isInstruction_text (operation : Op) (rest : List Char) :
    isInstruction (operation.text.toList ++ rest) = true := by
  cases operation with
  | loadImm register width value => simp [isInstruction, Op.text]
  | loadSymbol register symbol => simp [isInstruction, Op.text]
  | syscall number => simp [isInstruction, Op.text]

/-- The code that an event shows. -/
def Event.code : Event → Bytes
  | .encoded _ code => code
  | _ => []

/-- What a build traces. -/
def Event.OfBuild : Event → Prop
  | .symbolStored .. | .encoded .. | .laidOut .. => True
  | .segmentCommitted segment _ => Plain segment
  | _ => False

/-- A text that ends its line is a line. -/
theorem toList_closed {closing ending : String} (closes : closing.toList = ending.toList ++ ['\n'])
    (text : String) (rest : List Char) :
    (text ++ closing).toList ++ rest = (text ++ ending).toList ++ '\n' :: rest := by
  simp [closes]

@[simp] theorem newline_not_mem_toDigits (value : Nat) : '\n' ∉ Nat.toDigits 10 value :=
  not_mem_toDigits (by decide) (by decide) (by decide)

@[simp] theorem newline_not_mem_hexNumeral (value : Nat) : '\n' ∉ (hexNumeral value).toList :=
  (plain_hexNumeral value).oneLine

@[simp] theorem newline_not_mem_spacedHexPairs (bytes : Bytes) :
    '\n' ∉ (spacedHexPairs bytes).toList := by
  cases bytes with
  | nil => decide
  | cons first bytes =>
    have pair (byte : UInt8) : '\n' ∉ (hexPair byte).toList := not_mem_hexPair (by decide)
    simp [spacedHexPairs, String.toList_intercalate, intercalate_cons, pair]

/-- The place of a segment on one line. -/
def placeLine (place : Placement) : String :=
  "offset=" ++ hexNumeral place.offset.toNat ++ " addr=" ++ hexNumeral place.virtualAddress.toNat
    ++ " size=" ++ toString place.memorySize.toNat

theorem toList_placementText (place : Placement) :
    (Event.placementText place).toList = (placeLine place).toList ++ ['\n'] := by
  show (("offset=" ++ hexNumeral place.offset.toNat ++ " addr=") ++
    (hexNumeral place.virtualAddress.toNat ++ " size=" ++ toString place.memorySize.toNat
      ++ "\n")).toList = _
  simp [placeLine]

theorem newline_not_mem_placeLine (place : Placement) : '\n' ∉ (placeLine place).toList := by
  simp [placeLine]

/-- **An event of a build has lines of its own**, and shows its code on those of operations. -/
theorem Event.bytesOn?_text {event : Event} (ofBuild : event.OfBuild) (rest : List Char) :
    bytesOn? isInstruction (event.text.toList ++ rest)
      = (bytesOn? isInstruction rest).map (event.code ++ ·) := by
  have nothing : bytesOn? isInstruction rest = (bytesOn? isInstruction rest).map ([] ++ ·) :=
    Option.map_id'.symm
  cases event with
  | symbolStored index address size =>
    show bytesOn? _ (("symbol " ++ toString index ++ ": " ++ hexNumeral address.toNat ++ " ("
      ++ toString size ++ " bytes)\n").toList ++ rest) = _
    rw [toList_closed (show _ = " bytes)".toList ++ _ from rfl), bytesOn?_passed (by simp)]
    · exact nothing
    · simp only [String.toList_append, List.append_assoc]
      rfl
  | segmentCommitted segment size =>
    show bytesOn? _ (("segment " ++ segment ++ ": committed with " ++ toString size
      ++ " bytes\n").toList ++ rest) = _
    have plain : '\n' ∉ segment.toList := Plain.oneLine ofBuild
    rw [toList_closed (show _ = " bytes".toList ++ _ from rfl), bytesOn?_passed (by simp [plain])]
    · exact nothing
    · simp only [String.toList_append, List.append_assoc]
      rfl
  | encoded operation code =>
    show bytesOn? _ ((operation.text ++ ": " ++ spacedHexPairs code ++ "\n").toList ++ rest) = _
    have line : (operation.text ++ ": " ++ spacedHexPairs code ++ "\n").toList ++ rest
        = (operation.text.toList ++ ':' :: ' ' :: (spacedHexPairs code).toList) ++ '\n' :: rest := by
      simp
    have read : bytes? (behindColon (operation.text.toList ++ ':' :: ' ' :: (spacedHexPairs code).toList))
        = some code := by
      rw [behindColon_append operation.plain_text.noColon, bytes?_spacedHexPairs]
    rw [line]
    exact bytesOn?_picked (by simp [operation.plain_text.oneLine]) (operation.isInstruction_text _)
      read rest
  | laidOut code data =>
    have lines : (laidOut code data).text.toList ++ rest
        = "=== Layout ===".toList ++ '\n' :: (("  code: " ++ placeLine code).toList
          ++ '\n' :: (("  data: " ++ placeLine data).toList ++ '\n' :: rest)) := by
      show ("=== Layout ===\n  code: " ++ placementText code ++ "  data: "
        ++ placementText data).toList ++ rest = _
      simp [toList_placementText]
    have line (heading : String) (place : Placement) (plain : '\n' ∉ heading.toList) :
        '\n' ∉ (heading ++ placeLine place).toList := by
      simp [plain, newline_not_mem_placeLine]
    rw [lines, bytesOn?_passed (by simp), bytesOn?_passed (line _ code (by simp)),
      bytesOn?_passed (line _ data (by simp))]
    · exact nothing
    · simp only [String.toList_append]
      rfl
    · simp only [String.toList_append]
      rfl
    · rfl
  | _ => cases ofBuild

theorem toList_traceText_cons (event : Event) (trace : List Event) :
    (traceText (event :: trace)).toList = event.text.toList ++ (traceText trace).toList := by
  simp [traceText, String.toList_join]

theorem toList_traceText_append (first second : List Event) :
    (traceText (first ++ second)).toList = (traceText first).toList ++ (traceText second).toList := by
  simp [traceText, String.toList_join]

/-- **The code on the lines of operations is the code of the events**, in their order. -/
theorem bytesOn?_traceText {trace : List Event} (ofBuild : ∀ event ∈ trace, event.OfBuild) :
    bytesOn? isInstruction (traceText trace).toList = some (trace.flatMap Event.code) := by
  induction trace with
  | nil => exact bytesOn?_nil _
  | cons event trace ih =>
    rw [List.forall_mem_cons] at ofBuild
    rw [toList_traceText_cons, Event.bytesOn?_text ofBuild.1, ih ofBuild.2]
    rfl

end StaticElf
