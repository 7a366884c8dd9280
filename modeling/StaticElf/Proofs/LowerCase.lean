/-
**Lower case and dashes.**

Lower-casing reads a byte string as UTF-8, which any bytes need not be, and a letter may get longer or
shorter by it. A dash stays what it is and where it is: it is a character of its own wherever it stands,
also behind a sequence that is cut off, and no other character becomes one.

* `Utf8.First`, `Utf8.first_cases` — all that can stand first in a byte string.
* `Utf8.scan_append` — a byte below `0x80` ends whatever stands before it.
* `Text.eq_dash_of_lowerChar` — no other character becomes a dash.
* `Text.lower_append_dash`, `Text.dash_mem_lower_iff` — so a text can be cut at its dashes before or after
  it is lower-cased.
-/

import StaticElf.Platform

namespace StaticElf

/-! ### What stands first in a byte string -/

namespace Utf8

variable {byte second third fourth ascii : UInt8} {rest : Bytes} {c : Char} {taken : Nat}

/-- **What stands first in a byte string**: a byte below `0x80` by itself, or a sequence whose other bytes
are not below, which is read the same whatever stands behind it. -/
inductive First (byte : UInt8) (rest : Bytes) : Char → Nat → Prop
  | single : byte < 0x80 → First byte rest (Char.ofNat byte.toNat) 0
  | sequence (tail : Bytes) (code : Nat) : tail <+: rest → (∀ other ∈ tail, 0x80 ≤ other) →
    0x80 ≤ code → (∀ behind, first byte (tail ++ behind) = some (Char.ofNat code, tail.length)) →
    First byte rest (Char.ofNat code) tail.length

theorem first_of_lt (small : byte < 0x80) (rest : Bytes) :
    first byte rest = some (Char.ofNat byte.toNat, 0) := by
  unfold first
  exact if_pos small

theorem le_of_isTail (tail : isTail byte = true) : 0x80 ≤ byte := by
  rw [isTail, Bool.and_eq_true, decide_eq_true_eq] at tail
  exact tail.1

/-- The second byte of a longer sequence continues it, and some first bytes narrow its range. -/
theorem range_of_second {least most : UInt8} (narrow : 0x80 ≤ least ∧ most ≤ 0xbf)
    {high low : Prop} [Decidable high] [Decidable low]
    (above : (if high then least else 0x80) ≤ second) (below : second ≤ if low then most else 0xbf) :
    0x80 ≤ second.toNat ∧ second.toNat ≤ 0xbf ∧ (high → least.toNat ≤ second.toNat) := by
  simp only [UInt8.le_iff_toNat_le] at narrow above below
  refine ⟨?_, ?_, fun holds => ?_⟩
  · split at above
    · exact Nat.le_trans narrow.1 above
    · exact above
  · split at below
    · exact Nat.le_trans below narrow.2
    · exact below
  · rwa [if_pos holds] at above

/-- A sequence of two bytes. -/
theorem First.two (long : ¬byte < 0x80) (lead : (0xc2 ≤ byte && byte ≤ 0xdf) = true)
    (tail : isTail second = true) :
    First byte (second :: rest) (Char.ofNat (byte.toNat % 0x20 * 0x40 + tailBits second)) 1 := by
  have range := lead
  simp only [Bool.and_eq_true, decide_eq_true_eq, UInt8.le_iff_toNat_le, UInt8.reduceToNat] at range
  refine .sequence [second] _ ⟨rest, rfl⟩ ?_ (by omega) fun behind => ?_
  · exact List.forall_mem_singleton.mpr (le_of_isTail tail)
  · show first byte (second :: behind) = _
    rw [first, if_neg long, if_pos lead]
    exact if_pos tail

/-- A sequence of three bytes. After `0xe0` the second byte is narrowed, or the code would be small. -/
theorem First.three (long : ¬byte < 0x80) (notTwo : ¬(0xc2 ≤ byte && byte ≤ 0xdf) = true)
    (lead : (0xe0 ≤ byte && byte ≤ 0xef) = true)
    (tails : ((if byte == 0xe0 then 0xa0 else 0x80) ≤ second
      && second ≤ (if byte == 0xed then 0x9f else 0xbf) && isTail third) = true) :
    First byte (second :: third :: rest)
      (Char.ofNat (byte.toNat % 0x10 * 0x1000 + tailBits second * 0x40 + tailBits third)) 2 := by
  have range := lead
  have each := tails
  simp only [Bool.and_eq_true, decide_eq_true_eq] at each range
  obtain ⟨⟨above, below⟩, tail⟩ := each
  obtain ⟨lower, upper, narrowed⟩ := range_of_second (by decide) above below
  simp only [UInt8.le_iff_toNat_le, UInt8.reduceToNat, beq_iff_eq, ← UInt8.toNat_inj] at range narrowed
  refine .sequence [second, third] _ ⟨rest, rfl⟩ ?_ (by rw [tailBits]; omega) fun behind => ?_
  · exact List.forall_mem_cons.mpr ⟨lower, List.forall_mem_singleton.mpr (le_of_isTail tail)⟩
  · show first byte (second :: third :: behind) = _
    rw [first, if_neg long, if_neg notTwo, if_pos lead]
    exact if_pos tails

/-- A sequence of four bytes. After `0xf0` the second byte is narrowed, or the code would be small. -/
theorem First.four (long : ¬byte < 0x80) (notTwo : ¬(0xc2 ≤ byte && byte ≤ 0xdf) = true)
    (notThree : ¬(0xe0 ≤ byte && byte ≤ 0xef) = true) (lead : (0xf0 ≤ byte && byte ≤ 0xf4) = true)
    (tails : ((if byte == 0xf0 then 0x90 else 0x80) ≤ second
      && second ≤ (if byte == 0xf4 then 0x8f else 0xbf) && isTail third && isTail fourth) = true) :
    First byte (second :: third :: fourth :: rest)
      (Char.ofNat (byte.toNat % 0x8 * 0x40000 + tailBits second * 0x1000 + tailBits third * 0x40
        + tailBits fourth)) 3 := by
  have range := lead
  have each := tails
  simp only [Bool.and_eq_true, decide_eq_true_eq] at each range
  obtain ⟨⟨⟨above, below⟩, tail⟩, tail'⟩ := each
  obtain ⟨lower, upper, narrowed⟩ := range_of_second (by decide) above below
  simp only [UInt8.le_iff_toNat_le, UInt8.reduceToNat, beq_iff_eq, ← UInt8.toNat_inj] at range narrowed
  refine .sequence [second, third, fourth] _ ⟨rest, rfl⟩ ?_ (by rw [tailBits]; omega) fun behind => ?_
  · exact List.forall_mem_cons.mpr ⟨lower, List.forall_mem_cons.mpr
      ⟨le_of_isTail tail, List.forall_mem_singleton.mpr (le_of_isTail tail')⟩⟩
  · show first byte (second :: third :: fourth :: behind) = _
    rw [first, if_neg long, if_neg notTwo, if_neg notThree, if_pos lead]
    exact if_pos tails

/-- **Nothing else can stand first.** -/
theorem first_cases (found : first byte rest = some (c, taken)) : First byte rest c taken := by
  unfold first at found
  by_cases single : byte < 0x80
  · rw [if_pos single] at found
    cases found
    exact .single single
  rw [if_neg single] at found
  by_cases two : (0xc2 ≤ byte && byte ≤ 0xdf) = true
  · rw [if_pos two] at found
    match rest, found with
    | second :: rest, found =>
      obtain ⟨tail, same⟩ := Option.ite_none_right_eq_some.mp found
      cases same
      exact .two single two tail
  rw [if_neg two] at found
  by_cases three : (0xe0 ≤ byte && byte ≤ 0xef) = true
  · rw [if_pos three] at found
    match rest, found with
    | second :: third :: rest, found =>
      obtain ⟨tails, same⟩ := Option.ite_none_right_eq_some.mp found
      cases same
      exact .three single two three tails
  rw [if_neg three] at found
  by_cases four : (0xf0 ≤ byte && byte ≤ 0xf4) = true
  · rw [if_pos four] at found
    match rest, found with
    | second :: third :: fourth :: rest, found =>
      obtain ⟨tails, same⟩ := Option.ite_none_right_eq_some.mp found
      cases same
      exact .four single two three four tails
  rw [if_neg four] at found
  cases found

theorem First.le_length (found : First byte rest c taken) : taken ≤ rest.length := by
  cases found with
  | single small => exact Nat.zero_le _
  | sequence tail code leads => exact leads.length_le

/-- More bytes behind do not change what stands first. -/
theorem First.first_append (found : First byte rest c taken) (behind : Bytes) :
    first byte (rest ++ behind) = some (c, taken) := by
  cases found with
  | single small => exact first_of_lt small _
  | sequence tail code leads high code_high reads =>
    obtain ⟨more, rfl⟩ := leads
    rw [List.append_assoc]
    exact reads (more ++ behind)

/-- **A byte below `0x80` does not complete a sequence that is cut off.** -/
theorem first_append (small : ascii < 0x80) (byte : UInt8) (rest back : Bytes) :
    first byte (rest ++ ascii :: back) = first byte rest := by
  cases without : first byte rest with
  | some found => exact (first_cases without).first_append (ascii :: back)
  | none =>
    cases within : first byte (rest ++ ascii :: back) with
    | none => rfl
    | some found =>
      -- All that is read stands before that byte, so it would have been read without it
      obtain ⟨c, taken⟩ := found
      cases first_cases within with
      | single below =>
        rw [first_of_lt below] at without
        cases without
      | sequence tail code leads high codeHigh reads =>
        have notRead : ascii ∉ tail := fun read => UInt8.not_le.mpr small (high ascii read)
        have before : tail <+: rest := by
          rw [List.append_cons] at leads
          rcases List.prefix_or_prefix_of_prefix leads (List.prefix_append _ back) with shorter | longer
          · rcases List.prefix_concat_iff.mp shorter with same | before
            · exact absurd (same ▸ by simp) notRead
            · exact before
          · exact absurd (longer.subset (by simp)) notRead
        obtain ⟨more, rfl⟩ := before
        rw [reads more] at without
        cases without

/-- **A byte below `0x80` is a character of its own** wherever it stands. -/
theorem scan_append (small : ascii < 0x80) (front back : Bytes) :
    scan (front ++ ascii :: back) = scan front ++ .char (Char.ofNat ascii.toNat) :: scan back := by
  fun_induction scan front with
  | case1 =>
    rw [List.nil_append, scan, first_of_lt small]
    rfl
  | case2 byte rest c taken found ih =>
    rw [List.cons_append, scan, first_append small, found]
    show .char c :: scan ((rest ++ ascii :: back).drop taken) = _
    rw [List.drop_append_of_le_length (first_cases found).le_length, ih]
    rfl
  | case3 byte rest found ih =>
    rw [List.cons_append, scan, first_append small, found]
    exact congrArg (.stray byte :: ·) ih

theorem eq_dash_of_ofNat {code : Nat} (same : Char.ofNat code = '-') : code = 0x2d := by
  by_cases valid : code.isValidChar
  · rw [Char.ofNat, dif_pos valid] at same
    exact congrArg Char.toNat same
  · rw [Char.ofNat, dif_neg valid] at same
    cases same

/-- A dash is read from nothing else. -/
theorem First.eq_dash (found : First byte rest c taken) (isDash : c = '-') : byte = dash := by
  cases found with
  | single below => exact UInt8.toNat_inj.mp (eq_dash_of_ofNat isDash)
  | sequence tail code leads high codeHigh reads =>
    have code_eq := eq_dash_of_ofNat isDash
    omega

theorem dash_mem_of_scan {text : Bytes} (read : .char '-' ∈ scan text) : dash ∈ text := by
  fun_induction scan text with
  | case1 => cases read
  | case2 byte rest c taken found ih =>
    rcases List.mem_cons.mp read with here | later
    · have isDash := (first_cases found).eq_dash (Piece.char.inj here).symm
      rw [isDash]
      exact List.mem_cons_self
    · exact List.mem_cons_of_mem byte (List.mem_of_mem_drop (ih later))
  | case3 byte rest found ih =>
    rcases List.mem_cons.mp read with here | later
    · cases here
    · exact List.mem_cons_of_mem byte (ih later)

theorem dash_mem_of_chars {text : Bytes} (read : '-' ∈ chars text) : dash ∈ text := by
  obtain ⟨piece, listed, shown⟩ := List.mem_map.mp read
  cases piece with
  | char c =>
    obtain rfl : c = '-' := shown
    exact dash_mem_of_scan listed
  | stray byte => cases shown

/-- Every byte of a longer sequence is not below `0x80`. -/
theorem le_of_mem_utf8EncodeChar (long : 0x7f < c.val.toNat) :
    ∀ byte ∈ String.utf8EncodeChar c, 0x80 ≤ byte.toNat := by
  unfold String.utf8EncodeChar
  dsimp only
  rw [if_neg (Nat.not_le.mpr long)]
  split
  · simp only [List.forall_mem_cons, UInt8.toNat_ofNat']
    exact ⟨by omega, by omega, nofun⟩
  · split
    · simp only [List.forall_mem_cons, UInt8.toNat_ofNat']
      exact ⟨by omega, by omega, by omega, nofun⟩
    · simp only [List.forall_mem_cons, UInt8.toNat_ofNat']
      exact ⟨by omega, by omega, by omega, by omega, nofun⟩

/-- A dash is written for nothing else. -/
theorem eq_dash_of_utf8EncodeChar (written : dash ∈ String.utf8EncodeChar c) : c = '-' := by
  by_cases long : 0x7f < c.val.toNat
  · exact absurd (le_of_mem_utf8EncodeChar long dash written) (by decide)
  · unfold String.utf8EncodeChar at written
    rw [if_pos (Nat.not_lt.mp long), List.mem_singleton, ← UInt8.toNat_inj, UInt8.toNat_ofNat'] at written
    have code : dash.toNat = c.val.toNat := by omega
    exact Char.ext (UInt32.toNat_inj.mp code.symm)

end Utf8

namespace Text

/-- **No other character becomes a dash.** -/
theorem eq_dash_of_lowerChar {c : Char} (lowered : lowerChar c = '-') : c = '-' := by
  have above : ∀ run ∈ lowerRuns, 0x2d < (run.first : Int) + run.shift := by decide +kernel
  unfold lowerChar at lowered
  split at lowered
  · unfold Char.toLower at lowered
    split at lowered
    · next capital =>
      have code := congrArg (fun c : Char => c.val.toNat) lowered
      simp only [ge_iff_le, UInt32.le_iff_toNat_le] at capital
      simp at capital code
      omega
    · exact lowered
  · split at lowered
    · next run found =>
      have covers := List.find?_some found
      rw [LowerRun.covers, Bool.and_eq_true, Bool.and_eq_true, decide_eq_true_eq] at covers
      have code := Utf8.eq_dash_of_ofNat lowered
      have notDash := above run (List.mem_of_find?_eq_some found)
      omega
    · exact lowered

/-- **A text is lower-cased part by part** between its dashes. -/
theorem lower_append_dash (front back : Bytes) :
    lower (front ++ dash :: back) = lower front ++ dash :: lower back := by
  have kept : Utf8.encode [lowerChar '-'] = [dash] := by decide
  rw [lower, Utf8.chars, Utf8.scan_append (by decide), List.map_append, List.map_append, List.map_cons,
    List.map_cons, Utf8.encode, List.flatMap_append, List.flatMap_cons]
  exact congrArg (fun middle => _ ++ (middle ++ _)) kept

/-- **A text has a dash exactly if it has one in lower case.** -/
theorem dash_mem_lower_iff {text : Bytes} : dash ∈ lower text ↔ dash ∈ text := by
  constructor
  · intro lowered
    obtain ⟨c, listed, written⟩ := List.mem_flatMap.mp lowered
    obtain ⟨original, read, rfl⟩ := List.mem_map.mp listed
    have isDash := eq_dash_of_lowerChar (Utf8.eq_dash_of_utf8EncodeChar written)
    exact Utf8.dash_mem_of_chars (isDash ▸ read)
  · intro listed
    obtain ⟨front, back, rfl⟩ := List.append_of_mem listed
    rw [lower_append_dash]
    simp

end Text

end StaticElf
