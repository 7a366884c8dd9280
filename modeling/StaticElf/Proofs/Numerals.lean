/-
**Reading bytes back from a text.**

Bytes are written in hexadecimal in several ways, on lines that have other things on them too. All of
them are read in the same way: behind the first colon of a line, words of one or two digits with blanks
between them.

* `digitChar_inj`, `mem_digits` — digits tell numbers apart, and a numeral has nothing but digits.
* `byte?`, `bytes?` — a byte from its digits, and bytes from words with blanks between them.
* `bytes?_spacedHexPairs`, `bytes?_spacedHexDigits` — bytes that were written are read.
* `bytesOn?`, `bytesOn?_line` — the bytes on some lines of a text, line by line.
-/

import StaticElf.Text.Numeral

namespace StaticElf.Text

/-! ### Digits -/

theorem digitChar_inj {m n : Nat} (first : m < 16) (second : n < 16)
    (same : m.digitChar = n.digitChar) : m = n := by
  have each : ∀ m < 16, ∀ n < 16, m.digitChar = n.digitChar → m = n := by decide
  exact each m first n second same

theorem toList_hexPair (byte : UInt8) :
    (hexPair byte).toList = [(byte.toNat / 16).digitChar, (byte.toNat % 16).digitChar] := by
  have small : byte.toNat < 256 := byte.toNat_lt
  rw [hexPair, digits, digits, Nat.toDigits_of_lt_base (by omega), Nat.toDigits_of_lt_base (by omega),
    String.toList_append, String.toList_ofList, String.toList_ofList]
  rfl

/-- **A numeral has nothing but digits.** -/
theorem mem_toDigits {base value : Nat} {character : Char} (base_gt : 1 < base)
    (member : character ∈ Nat.toDigits base value) : ∃ digit < base, character = digit.digitChar := by
  induction value using Nat.strongRecOn with
  | ind value ih =>
    by_cases small : value < base
    · rw [Nat.toDigits_of_lt_base small] at member
      exact ⟨value, small, List.mem_singleton.mp member⟩
    · have large : base ≤ value := Nat.le_of_not_lt small
      rw [Nat.toDigits_of_base_le base_gt large] at member
      rcases List.mem_append.mp member with front | last
      · exact ih (value / base) (Nat.div_lt_self (by omega) base_gt) front
      · exact ⟨value % base, Nat.mod_lt _ (by omega), List.mem_singleton.mp last⟩

/-- What stands between numerals. -/
def marks : List Char := ['\n', ':', ' ']

theorem digitChar_not_mem_marks {digit : Nat} (small : digit < 16) : digit.digitChar ∉ marks := by
  have each : ∀ digit < 16, digit.digitChar ∉ marks := by decide
  exact each digit small

theorem not_mem_toDigits {base value : Nat} {mark : Char} (base_gt : 1 < base) (base_le : base ≤ 16)
    (isMark : mark ∈ marks) : mark ∉ Nat.toDigits base value := by
  intro member
  obtain ⟨digit, small, rfl⟩ := mem_toDigits base_gt member
  exact digitChar_not_mem_marks (by omega) isMark

theorem not_mem_hexPair {byte : UInt8} {mark : Char} (isMark : mark ∈ marks) :
    mark ∉ (hexPair byte).toList := by
  have small : byte.toNat < 256 := byte.toNat_lt
  rw [toList_hexPair, List.mem_cons, List.mem_singleton]
  rintro (rfl | rfl)
  all_goals exact digitChar_not_mem_marks (by omega) isMark

/-! ### Bytes -/

/-- The value of a hexadecimal digit. -/
def hexDigit? (character : Char) : Option Nat :=
  (List.range 16).find? (·.digitChar == character)

/-- The byte of one or two hexadecimal digits. -/
def byte? : List Char → Option UInt8
  | [low] => do
    let low ← hexDigit? low
    return UInt8.ofNat low
  | [high, low] => do
    let high ← hexDigit? high
    let low ← hexDigit? low
    return UInt8.ofNat (16 * high + low)
  | _ => none

/-- The bytes of words with blanks between them. -/
def bytes? (text : List Char) : Option Bytes :=
  ((text.splitOn ' ').filter (!·.isEmpty)).mapM byte?

theorem hexDigit?_digitChar {digit : Nat} (small : digit < 16) :
    hexDigit? digit.digitChar = some digit := by
  have each : ∀ digit < 16, hexDigit? digit.digitChar = some digit := by decide
  exact each digit small

theorem byte?_pair (byte : UInt8) :
    byte? [(byte.toNat / 16).digitChar, (byte.toNat % 16).digitChar] = some byte := by
  have small : byte.toNat < 256 := byte.toNat_lt
  have whole : UInt8.ofNat (16 * (byte.toNat / 16) + byte.toNat % 16) = byte := by
    rw [Nat.div_add_mod, UInt8.ofNat_toNat]
  rw [byte?, hexDigit?_digitChar (by omega), hexDigit?_digitChar (by omega)]
  exact congrArg some whole

/-- **A byte that was written is read**, with both its digits or without a zero in front. -/
theorem byte?_hexPair (byte : UInt8) : byte? (hexPair byte).toList = some byte := by
  rw [toList_hexPair, byte?_pair]

theorem byte?_digits (byte : UInt8) : byte? (digits 16 byte.toNat).toList = some byte := by
  have small : byte.toNat < 256 := byte.toNat_lt
  rw [digits, String.toList_ofList]
  by_cases short : byte.toNat < 16
  · rw [Nat.toDigits_of_lt_base short]
    simp [byte?, hexDigit?_digitChar short]
  · rw [Nat.toDigits_of_base_le (by omega) (by omega), Nat.toDigits_of_lt_base (by omega)]
    exact byte?_pair byte

theorem intercalate_cons (mark first : List Char) (words : List (List Char)) :
    mark.intercalate (first :: words) = first ++ words.flatMap (mark ++ ·) := by
  induction words generalizing first with
  | nil => simp
  | cons word words ih => simp [ih]

/-- **Words with blanks before them are read one by one.** -/
theorem bytes?_flatMap {words : List (List Char)} (plain : ∀ word ∈ words, ' ' ∉ word ∧ word ≠ []) :
    bytes? (words.flatMap (' ' :: ·)) = words.mapM byte? := by
  have joined : words.flatMap (' ' :: ·) = [' '].intercalate ([] :: words) := by
    rw [intercalate_cons]
    rfl
  have noBlank : ∀ word ∈ [] :: words, ' ' ∉ word := by
    simpa using fun word member => (plain word member).1
  have notEmpty : ∀ word ∈ words, (!word.isEmpty) = true := by
    simpa using fun word member => (plain word member).2
  rw [bytes?, joined, List.splitOn_intercalate ' ' noBlank (List.cons_ne_nil _ _),
    List.filter_cons_of_neg (by simp), List.filter_eq_self.mpr notEmpty]

/-- **Bytes that were written are read**, if each is. -/
theorem bytes?_written {write : UInt8 → List Char} (reads : ∀ byte, byte? (write byte) = some byte)
    (noBlank : ∀ byte, ' ' ∉ write byte) (bytes : Bytes) :
    bytes? (bytes.flatMap (' ' :: write ·)) = some bytes := by
  have plain : ∀ word ∈ bytes.map write, ' ' ∉ word ∧ word ≠ [] := by
    rw [List.forall_mem_map]
    refine fun byte _ => ⟨noBlank byte, fun empty => ?_⟩
    have read := reads byte
    rw [empty] at read
    cases read
  rw [← List.flatMap_map, bytes?_flatMap plain]
  clear plain
  induction bytes with
  | nil => rfl
  | cons byte bytes ih => simp [reads, ih]

theorem bytes?_spacedHexDigits (bytes : Bytes) : bytes? (spacedHexDigits bytes).toList = some bytes := by
  have blanks : (spacedHexDigits bytes).toList
      = bytes.flatMap fun byte => ' ' :: (digits 16 byte.toNat).toList := by
    rw [spacedHexDigits, String.toList_join, List.flatMap_map]
    refine congrArg (bytes.flatMap ·) (funext fun byte => ?_)
    rw [String.toList_append]
    rfl
  rw [blanks]
  refine bytes?_written byte?_digits (fun byte => ?_) bytes
  rw [digits, String.toList_ofList]
  exact not_mem_toDigits (by decide) (by decide) (by decide)

/-- A blank stands before bytes that have blanks between them. -/
theorem bytes?_spacedHexPairs (bytes : Bytes) :
    bytes? (' ' :: (spacedHexPairs bytes).toList) = some bytes := by
  cases bytes with
  | nil => rfl
  | cons first bytes =>
    have blanks : ' ' :: (spacedHexPairs (first :: bytes)).toList
        = (first :: bytes).flatMap fun byte => ' ' :: (hexPair byte).toList := by
      rw [spacedHexPairs, String.toList_intercalate, List.map_cons, List.map_cons, intercalate_cons,
        List.flatMap_cons]
      simp [List.flatMap_map]
    rw [blanks]
    exact bytes?_written byte?_hexPair (fun byte => not_mem_hexPair (by decide)) (first :: bytes)

/-! ### Lines -/

/-- What stands behind the first colon of a line. -/
def behindColon (line : List Char) : List Char := (line.dropWhile (· != ':')).tail

/-- **The bytes on some lines of a text**, one line after the other. -/
def bytesOn? (picks : List Char → Bool) (text : List Char) : Option Bytes := do
  let pieces ← ((text.splitOn '\n').filter picks).mapM fun line => bytes? (behindColon line)
  return pieces.flatten

theorem behindColon_append {heading : List Char} (noColon : ':' ∉ heading) (rest : List Char) :
    behindColon (heading ++ ':' :: rest) = rest := by
  have plain : ∀ character ∈ heading, (character != ':') = true :=
    fun character member => bne_iff_ne.mpr fun same => noColon (same ▸ member)
  rw [behindColon, List.dropWhile_append_of_pos plain, List.dropWhile_cons_of_neg (by simp)]
  rfl

theorem bytesOn?_nil (picks : List Char → Bool) : bytesOn? picks [] = some [] := by
  unfold bytesOn?
  rw [List.splitOn_nil]
  cases picked : picks [] with
  | false =>
    rw [List.filter_cons_of_neg (by simp [picked])]
    rfl
  | true =>
    rw [List.filter_cons_of_pos picked]
    rfl

/-- A line that is picked has bytes; what follows it has its own. -/
theorem bytesOn?_picked {picks : List Char → Bool} {line : List Char} {bytes : Bytes}
    (oneLine : '\n' ∉ line) (picked : picks line = true) (read : bytes? (behindColon line) = some bytes)
    (rest : List Char) :
    bytesOn? picks (line ++ '\n' :: rest) = (bytesOn? picks rest).map (bytes ++ ·) := by
  unfold bytesOn?
  rw [List.splitOn_append_cons_self_of_not_mem oneLine, List.filter_cons_of_pos picked,
    List.mapM_cons, read]
  cases ((rest.splitOn '\n').filter picks).mapM fun line => bytes? (behindColon line) with
  | none => rfl
  | some pieces => rfl

/-- A line that is not picked is passed over. -/
theorem bytesOn?_passed {picks : List Char → Bool} {line : List Char}
    (oneLine : '\n' ∉ line) (passed : picks line = false) (rest : List Char) :
    bytesOn? picks (line ++ '\n' :: rest) = bytesOn? picks rest := by
  unfold bytesOn?
  rw [List.splitOn_append_cons_self_of_not_mem oneLine, List.filter_cons_of_neg (by simp [passed])]

end StaticElf.Text
