import PlainPage.Text.Case

/-!
# What lowering and raising change

Besides the upper case letters there are a few title case letters, such as `ǅ`: a capital
and a small letter in one character.  They are not upper case, and yet lowering changes
them.  Raising gives nothing but letters and their marks for what it changes, so no sign in
front of the letters comes out of another character.

Main results:

- Theorem `CharClass.has_of_covers` lets a class be shown to hold all characters of a row.
- Theorem `lowerChar_of_small` says that lowering changes no other letter.
- Theorem `Text.not_titlecase_of_mem_lower` says that no title case letter is left by
  lowering.
- Theorem `Text.lower_eq_self_iff` says which texts without upper case letters lowering
  leaves as they are.
- Theorem `upperChar_cases` says what raising makes of a character, and
  `Text.mem_of_mem_upper` that the signs of a raised text were there before.
-/

namespace PlainPage

/-! ## The characters of a row -/

/-- The characters on a row. -/
def CharRow.chars (row : CharRow) : List Char :=
  (List.range ((row.last - row.first) / row.step + 1)).map fun place =>
    Char.ofNat (row.first + row.step * place)

/-- Each character of a row is listed. -/
theorem CharRow.mem_chars {row : CharRow} {c : Char} (h : row.has c = true) : c ∈ row.chars := by
  simp only [CharRow.has, Bool.and_eq_true, decide_eq_true_eq, beq_iff_eq] at h
  rcases h with ⟨⟨hfirst, hlast⟩, hstep⟩
  have hplace : (c.toNat - row.first) / row.step < (row.last - row.first) / row.step + 1 := by
    have hle : c.toNat - row.first ≤ row.last - row.first := by omega
    exact Nat.lt_succ_of_le (Nat.div_le_div_right hle)
  refine List.mem_map.2 ⟨_, List.mem_range.2 hplace, ?_⟩
  have hcode : row.first + row.step * ((c.toNat - row.first) / row.step) = c.toNat := by
    have hdivide := Nat.div_add_mod (c.toNat - row.first) row.step
    omega
  rw [hcode, Char.ofNat_toNat]

/-- Whether two rows may have a character in common. -/
def CharRow.meets (row other : CharRow) : Bool :=
  row.first ≤ other.last && other.first ≤ row.last

/-- Whether a class holds every character of a row.  Only the rows that meet it are asked:
the class may have hundreds of others. -/
def CharClass.covers (rows : CharClass) (row : CharRow) : Bool :=
  row.chars.all (CharClass.has (rows.filter row.meets))

/-- A class holds the characters of a row that it covers. -/
theorem CharClass.has_of_covers {rows : CharClass} {row : CharRow} {c : Char}
    (h : rows.covers row = true) (hc : row.has c = true) : rows.has c = true := by
  have hnear := List.all_eq_true.1 h c (CharRow.mem_chars hc)
  rcases CharClass.has_iff.1 hnear with ⟨other, hother, hhas⟩
  exact CharClass.has_iff.2 ⟨other, (List.mem_filter.1 hother).1, hhas⟩

/-! ## Title case -/

/-- Characters of the category of title case letters. -/
def CaseTable.titlecase : CharClass :=
  [⟨0x1C5, 0x1CB, 3⟩, ⟨0x1F2, 0x1F2, 1⟩, ⟨0x1F88, 0x1F8F, 1⟩, ⟨0x1F98, 0x1F9F, 1⟩,
   ⟨0x1FA8, 0x1FAF, 1⟩, ⟨0x1FBC, 0x1FBC, 1⟩, ⟨0x1FCC, 0x1FCC, 1⟩, ⟨0x1FFC, 0x1FFC, 1⟩]

/-- Whether a character is a title case letter. -/
def isTitlecase (c : Char) : Bool :=
  CaseTable.titlecase.has c

/-- Only upper case and title case letters are moved by lowering. -/
theorem covers_lowerShifts : ∀ shift ∈ CaseTable.lowerShifts,
    CharClass.covers (CaseTable.titlecase ++ CaseTable.uppercase) shift.row = true := by
  decide +kernel

/-- No letter is moved to a title case letter by lowering. -/
theorem not_titlecase_lowerShifts : ∀ shift ∈ CaseTable.lowerShifts,
    (shift.row.chars.filterMap shift.send?).any isTitlecase = false := by
  decide +kernel

/-- Every title case letter is moved by lowering. -/
theorem isSome_send?_titlecase : ∀ row ∈ CaseTable.titlecase,
    (row.chars.all fun c => (CaseTable.lowerShifts.findSome? (·.send? c)).isSome) = true := by
  decide +kernel

/-- Lowering moves title case letters. -/
theorem exists_send?_of_titlecase {c : Char} (h : isTitlecase c = true) :
    ∃ d, CaseTable.lowerShifts.findSome? (·.send? c) = some d := by
  rcases CharClass.has_iff.1 h with ⟨row, hrow, hc⟩
  have hall := List.all_eq_true.1 (isSome_send?_titlecase row hrow)
  exact Option.isSome_iff_exists.1 (hall c (CharRow.mem_chars hc))

/-- What lowering moves is an upper case or a title case letter. -/
theorem of_send? {c d : Char} (h : CaseTable.lowerShifts.findSome? (·.send? c) = some d) :
    (isTitlecase c = true ∨ isUppercase c = true) ∧ isTitlecase d = false := by
  rcases List.exists_of_findSome?_eq_some h with ⟨shift, hshift, hsend⟩
  have hhas : shift.row.has c = true := Shift.has_of_send? hsend
  constructor
  · have hclass := CharClass.has_of_covers (covers_lowerShifts shift hshift) hhas
    unfold CharClass.has at hclass
    rw [List.any_append, Bool.or_eq_true] at hclass
    exact hclass
  · have hnone := List.any_eq_false.1 (not_titlecase_lowerShifts shift hshift)
    have hmem := List.mem_filterMap.2 ⟨c, CharRow.mem_chars hhas, hsend⟩
    simpa using hnone d hmem

/-- The one letter that becomes two when it is lowered is an upper case letter. -/
theorem of_lookup_lowerExpansions {c : Char} {codes : List Nat}
    (h : CaseTable.lowerExpansions.lookup c.toNat = some codes) :
    isUppercase c = true ∧ (codes.map Char.ofNat).any isTitlecase = false := by
  by_cases hcode : c.toNat = 0x130
  · have hc : c = Char.ofNat 0x130 := by rw [← hcode, Char.ofNat_toNat]
    subst hc
    cases h
    decide
  · have hne : (c.toNat == 0x130) = false := beq_eq_false_iff_ne.2 hcode
    have hnone : CaseTable.lowerExpansions.lookup c.toNat = none := by
      simp only [CaseTable.lowerExpansions, List.lookup_cons, List.lookup_nil, hne]
    rw [hnone] at h
    cases h

/-- Lowering changes no letter that is neither upper case nor title case. -/
theorem lowerChar_of_small {c : Char} (huppercase : isUppercase c = false)
    (htitlecase : isTitlecase c = false) : lowerChar c = [c] := by
  apply changeCase_of_none
  · cases hlookup : CaseTable.lowerExpansions.lookup c.toNat with
    | none => rfl
    | some codes =>
      have hc := (of_lookup_lowerExpansions hlookup).1
      rw [huppercase] at hc
      cases hc
  · cases hsend : CaseTable.lowerShifts.findSome? (·.send? c) with
    | none => rfl
    | some d =>
      have hc := (of_send? hsend).1
      rw [huppercase, htitlecase] at hc
      rcases hc with hc | hc <;> cases hc

/-- No letter becomes a title case letter when it is lowered. -/
theorem not_titlecase_of_mem_lowerChar {c d : Char} (h : d ∈ lowerChar c) :
    isTitlecase d = false := by
  unfold lowerChar changeCase at h
  cases hlookup : CaseTable.lowerExpansions.lookup c.toNat with
  | some codes =>
    rw [hlookup] at h
    have hnone := List.any_eq_false.1 (of_lookup_lowerExpansions hlookup).2
    simpa using hnone d h
  | none =>
    rw [hlookup] at h
    cases hsend : CaseTable.lowerShifts.findSome? (·.send? c) with
    | some e =>
      rw [hsend] at h
      rw [List.mem_singleton.1 h]
      exact (of_send? hsend).2
    | none =>
      rw [hsend] at h
      rw [List.mem_singleton.1 h]
      by_cases hc : isTitlecase c = true
      · rcases exists_send?_of_titlecase hc with ⟨e, he⟩
        rw [hsend] at he
        cases he
      · simpa using hc

namespace Text

/-- What lowering gives comes from one character of the text, or is a small sigma. -/
theorem mem_lowerAfter {before t : Text} {d : Char} (h : d ∈ lowerAfter before t) :
    d ∈ ['ς', 'σ'] ∨ ∃ c ∈ t, c ≠ 'Σ' ∧ d ∈ lowerChar c := by
  induction t generalizing before with
  | nil => cases h
  | cons c rest ih =>
    rw [lowerAfter, List.mem_append] at h
    rcases h with hfirst | hrest
    · by_cases hsigma : c = 'Σ'
      · rw [if_pos hsigma, List.mem_singleton] at hfirst
        left
        rw [hfirst, lowerSigma]
        split <;> simp
      · rw [if_neg hsigma] at hfirst
        exact .inr ⟨c, List.mem_cons_self, hsigma, hfirst⟩
    · rcases ih hrest with hsmall | ⟨e, he, hfrom⟩
      · exact .inl hsmall
      · exact .inr ⟨e, List.mem_cons_of_mem _ he, hfrom⟩

/-- No title case letter is left by lowering. -/
theorem not_titlecase_of_mem_lower {t : Text} {d : Char} (h : d ∈ lower t) :
    isTitlecase d = false := by
  rcases mem_lowerAfter h with hsigma | ⟨c, -, -, hfrom⟩
  · simp only [List.mem_cons, List.not_mem_nil, or_false] at hsigma
    rcases hsigma with rfl | rfl <;> decide
  · exact not_titlecase_of_mem_lowerChar hfrom

/-- Lowering leaves a text without upper case letters as it is, unless it has a title case
letter. -/
theorem lower_eq_self_iff {t : Text} (h : ∀ c ∈ t, isUppercase c = false) :
    lower t = t ↔ t.any isTitlecase = false := by
  rw [List.any_eq_false]
  constructor
  · intro hlower c hc
    rw [← hlower] at hc
    simp [not_titlecase_of_mem_lower hc]
  · intro htitlecase
    apply lower_of_plain
    intro c hc
    refine ⟨?_, lowerChar_of_small (h c hc) (by simpa using htitlecase c hc)⟩
    rintro rfl
    have hsigma : isUppercase 'Σ' = true := by decide
    rw [h _ hc] at hsigma
    cases hsigma

end Text

/-! ## Raising -/

theorem toNat_ofNat {n : Nat} (h : n.isValidChar) : (Char.ofNat n).toNat = n := by
  rw [Char.ofNat, dif_pos h]
  rfl

/-- What raising moves comes to a code point from `A` on. -/
theorem upperShifts_range : ∀ shift ∈ CaseTable.upperShifts,
    'A'.toNat ≤ shift.row.first + shift.delta ∧
      (shift.row.last + shift.delta < 0xD800 ∨
        0xDFFF < shift.row.first + shift.delta ∧ shift.row.last + shift.delta < 0x110000) := by
  decide +kernel

/-- What becomes several characters becomes characters from `A` on. -/
theorem upperExpansions_range : ∀ row ∈ CaseTable.upperExpansions,
    row.2 ≠ [] ∧ ∀ code ∈ row.2, 'A'.toNat ≤ (Char.ofNat code).toNat := by
  decide +kernel

/-- No character is raised below the letters. -/
theorem le_of_upper_send? {c d : Char}
    (h : CaseTable.upperShifts.findSome? (·.send? c) = some d) : 'A'.toNat ≤ d.toNat := by
  rcases List.exists_of_findSome?_eq_some h with ⟨shift, hshift, hsend⟩
  have hhas : shift.row.has c = true := Shift.has_of_send? hsend
  have hrange := upperShifts_range shift hshift
  rw [Shift.send?_of_has hhas, Option.some.injEq] at hsend
  simp only [CharRow.has, Bool.and_eq_true, decide_eq_true_eq] at hhas
  have hvalid : (c.toNat + shift.delta).toNat.isValidChar := by
    unfold Nat.isValidChar
    omega
  rw [← hsend, toNat_ofNat hvalid]
  omega

/-- A character stays as it is when it is raised, or becomes characters from `A` on. -/
theorem upperChar_cases (c : Char) :
    upperChar c = [c] ∨ upperChar c ≠ [] ∧ ∀ d ∈ upperChar c, 'A'.toNat ≤ d.toNat := by
  unfold upperChar changeCase
  cases hlookup : CaseTable.upperExpansions.lookup c.toNat with
  | some codes =>
    rcases List.lookup_eq_some_iff.1 hlookup with ⟨before, after, hrows, -⟩
    have hrange := upperExpansions_range (c.toNat, codes) (by simp [hrows])
    refine .inr ⟨by simpa using hrange.1, fun d hd => ?_⟩
    rcases List.mem_map.1 hd with ⟨code, hcode, rfl⟩
    exact hrange.2 code hcode
  | none =>
    cases hsend : CaseTable.upperShifts.findSome? (·.send? c) with
    | some d => exact .inr ⟨by simp, by simpa using le_of_upper_send? hsend⟩
    | none => exact .inl rfl

/-- Raising never loses a character. -/
theorem upperChar_ne_nil (c : Char) : upperChar c ≠ [] := by
  rcases upperChar_cases c with h | h
  · simp [h]
  · exact h.1

/-- No sign in front of the letters comes out of another character. -/
theorem eq_of_mem_upperChar {c d : Char} (hd : d.toNat < 'A'.toNat) (h : d ∈ upperChar c) :
    d = c := by
  rcases upperChar_cases c with hc | hc
  · rw [hc] at h
    exact List.mem_singleton.1 h
  · exact absurd (hc.2 d h) (Nat.not_le.2 hd)

/-- The signs of a raised text were there before. -/
theorem Text.mem_of_mem_upper {t : Text} {d : Char} (hd : d.toNat < 'A'.toNat)
    (h : d ∈ t.upper) : d ∈ t := by
  rcases List.mem_flatMap.1 h with ⟨c, hc, hraised⟩
  rw [eq_of_mem_upperChar hd hraised]
  exact hc

end PlainPage
