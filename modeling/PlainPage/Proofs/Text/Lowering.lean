import PlainPage.Proofs.Text.Case

/-!
# Lowering once, and word by word

Whatever lowering gives for a character, it leaves alone from then on, so a text is lowered
once and for all.  Lowering looks beyond a character only for a capital sigma, and there it
looks no further than to the next white space.  White space itself neither changes nor comes
out of another character.  A text can therefore be lowered word by word.

Main results:

- Theorem `lowerChar_cases` says what lowering makes of a character.
- Theorem `Text.lower_lower` says that lowering twice is lowering once.
- Theorem `Text.lower_append_white` says that white space cuts a text into parts that are
  lowered on their own.
- Theorem `Text.words_lower` says that the words of a lowered text are the lowered words of
  the text.
-/

namespace PlainPage

/-! ## Classes that characters stay out of -/

/-- Whether a class holds none of some characters, which stand between the ends of a row.
Only the rows that meet it are asked. -/
def CharClass.avoids (rows : CharClass) (span : CharRow) (chars : List Char) : Bool :=
  chars.all fun c => span.first ≤ c.toNat && c.toNat ≤ span.last &&
    !CharClass.has (rows.filter span.meets) c

/-- A class that avoids some characters has none of them. -/
theorem CharClass.not_has_of_avoids {rows : CharClass} {span : CharRow} {chars : List Char}
    {c : Char} (h : rows.avoids span chars = true) (hc : c ∈ chars) : rows.has c = false := by
  have hchar := List.all_eq_true.1 h c hc
  simp only [Bool.and_eq_true, decide_eq_true_eq, Bool.not_eq_true'] at hchar
  rcases hchar with ⟨⟨hfirst, hlast⟩, hnear⟩
  rw [← Bool.not_eq_true, CharClass.has_iff] at hnear ⊢
  rintro ⟨row, hrow, hhas⟩
  have hmeets : span.meets row = true := by
    simp only [CharRow.has, Bool.and_eq_true, decide_eq_true_eq] at hhas
    simp only [CharRow.meets, Bool.and_eq_true, decide_eq_true_eq]
    omega
  exact hnear ⟨row, List.mem_filter.2 ⟨hrow, hmeets⟩, hhas⟩

/-! ## What lowering makes of a character -/

/-- A character that lowering leaves alone wherever it stands. -/
def IsLowered (c : Char) : Prop :=
  c ≠ 'Σ' ∧ lowerChar c = [c]

/-- No letter is moved to an upper case letter or to white space by lowering. -/
theorem avoids_lowerShifts : ∀ shift ∈ CaseTable.lowerShifts,
    CharClass.avoids (CharClass.white ++ CaseTable.uppercase)
      ⟨(shift.row.first + shift.delta).toNat, (shift.row.last + shift.delta).toNat, 1⟩
      (shift.row.chars.filterMap shift.send?) = true := by
  decide +kernel

/-- White space carries no case, and case does not ignore it. -/
theorem white_has_no_case : ∀ row ∈ CharClass.white, (row.chars.any fun c =>
    isUppercase c || isTitlecase c || CaseTable.cased.has c || CaseTable.caseIgnorable.has c) =
      false := by
  decide +kernel

/-- A character that is neither upper nor title case is its own lower case. -/
theorem isLowered_of_small {c : Char} (huppercase : isUppercase c = false)
    (htitlecase : isTitlecase c = false) : IsLowered c := by
  refine ⟨?_, lowerChar_of_small huppercase htitlecase⟩
  rintro rfl
  have hsigma : isUppercase 'Σ' = true := by decide
  rw [huppercase] at hsigma
  cases hsigma

/-- What lowering moves a letter to is no white space, and moves no further. -/
theorem isLowered_of_send? {c d : Char}
    (h : CaseTable.lowerShifts.findSome? (·.send? c) = some d) :
    IsLowered d ∧ isWhite d = false := by
  have htitlecase := (of_send? h).2
  rcases List.exists_of_findSome?_eq_some h with ⟨shift, hshift, hsend⟩
  have hhas : shift.row.has c = true := Shift.has_of_send? hsend
  have hmem := List.mem_filterMap.2 ⟨c, CharRow.mem_chars hhas, hsend⟩
  have hclass := CharClass.not_has_of_avoids (avoids_lowerShifts shift hshift) hmem
  unfold CharClass.has at hclass
  rw [List.any_append, Bool.or_eq_false_iff] at hclass
  exact ⟨isLowered_of_small hclass.2 htitlecase, hclass.1⟩

/-- A character stays as it is when it is lowered, or becomes characters other than white
space that stay as they are. -/
theorem lowerChar_cases (c : Char) :
    lowerChar c = [c] ∨
      lowerChar c ≠ [] ∧ ∀ d ∈ lowerChar c, IsLowered d ∧ isWhite d = false := by
  unfold lowerChar changeCase
  cases hlookup : CaseTable.lowerExpansions.lookup c.toNat with
  | some codes =>
    rcases List.lookup_eq_some_iff.1 hlookup with ⟨before, after, hrows, -⟩
    have hrow : (c.toNat, codes) ∈ CaseTable.lowerExpansions := by simp [hrows]
    have hcodes : codes = [0x69, 0x307] := (Prod.mk.inj (List.mem_singleton.1 hrow)).2
    have hsmall : (([0x69, 0x307].map Char.ofNat).any fun d =>
        isUppercase d || isTitlecase d || isWhite d) = false := by decide +kernel
    rw [hcodes]
    refine .inr ⟨by simp, fun d hd => ?_⟩
    have hnone := List.any_eq_false.1 hsmall d hd
    simp only [Bool.not_eq_true, Bool.or_eq_false_iff] at hnone
    rcases hnone with ⟨⟨huppercase, htitlecase⟩, hwhite⟩
    exact ⟨isLowered_of_small huppercase htitlecase, hwhite⟩
  | none =>
    cases hsend : CaseTable.lowerShifts.findSome? (·.send? c) with
    | some d => exact .inr ⟨by simp, by simpa using isLowered_of_send? hsend⟩
    | none => exact .inl rfl

/-- Lowering never loses a character. -/
theorem lowerChar_ne_nil (c : Char) : lowerChar c ≠ [] := by
  rcases lowerChar_cases c with h | h
  · simp [h]
  · exact h.1

/-- White space carries no case, and lowering leaves it alone. -/
theorem of_isWhite {c : Char} (h : isWhite c = true) :
    IsLowered c ∧ CaseTable.cased.has c = false ∧ CaseTable.caseIgnorable.has c = false := by
  rcases CharClass.has_iff.1 h with ⟨row, hrow, hhas⟩
  have hnone := List.any_eq_false.1 (white_has_no_case row hrow) c (CharRow.mem_chars hhas)
  simp only [Bool.not_eq_true, Bool.or_eq_false_iff] at hnone
  rcases hnone with ⟨⟨⟨huppercase, htitlecase⟩, hcased⟩, hignorable⟩
  exact ⟨isLowered_of_small huppercase htitlecase, hcased, hignorable⟩

namespace Text

/-! ## Lowering twice -/

/-- Both forms of the small sigma are lowered. -/
theorem isLowered_sigma {c : Char} (h : c ∈ ['ς', 'σ']) : IsLowered c ∧ isWhite c = false := by
  simp only [List.mem_cons, List.not_mem_nil, or_false] at h
  rcases h with rfl | rfl <;> exact ⟨isLowered_of_small (by decide) (by decide), by decide⟩

/-- What comes out for a character of a text is left alone from then on, and it is white
space only if the character was. -/
theorem of_mem_lowerAfter {before t : Text} {d : Char} (h : d ∈ lowerAfter before t) :
    IsLowered d ∧ (isWhite d = true → d ∈ t) := by
  rcases mem_lowerAfter h with hsigma | ⟨c, hc, hne, hfrom⟩
  · have hlowered := isLowered_sigma hsigma
    exact ⟨hlowered.1, fun hwhite => by simp [hlowered.2] at hwhite⟩
  · rcases lowerChar_cases c with hsame | hnew
    · rw [hsame, List.mem_singleton] at hfrom
      rw [hfrom]
      exact ⟨⟨hne, hsame⟩, fun _ => hc⟩
    · have hlowered := hnew.2 d hfrom
      exact ⟨hlowered.1, fun hwhite => by simp [hlowered.2] at hwhite⟩

/-- Lowering leaves nothing to be lowered. -/
theorem isLowered_of_mem_lower {t : Text} {d : Char} (h : d ∈ lower t) : IsLowered d :=
  (of_mem_lowerAfter h).1

/-- Lowering twice is lowering once. -/
theorem lower_lower (t : Text) : lower (lower t) = lower t :=
  lower_of_plain fun _ hc => isLowered_of_mem_lower hc

/-! ## White space cuts what is lowered -/

/-- Nothing behind white space matters for whether a letter comes next. -/
theorem meetsCased_append_white {c : Char} (hc : isWhite c = true) (t rest : Text) :
    meetsCased (t ++ c :: rest) = meetsCased t := by
  rcases of_isWhite hc with ⟨-, hcased, hignorable⟩
  unfold meetsCased
  induction t with
  | nil => simp [hcased, hignorable]
  | cons d t ih =>
    by_cases hd : CaseTable.caseIgnorable.has d = true
    · simpa [hd] using ih
    · simp [hd]

/-- Nothing in front of white space matters for the text behind it. -/
theorem lowerAfter_append_white {c : Char} (hc : isWhite c = true) (near far t : Text) :
    lowerAfter (near ++ c :: far) t = lowerAfter near t := by
  induction t generalizing near with
  | nil => rfl
  | cons d t ih =>
    have hsigma : lowerSigma (near ++ c :: far) t = lowerSigma near t := by
      rw [lowerSigma, lowerSigma, meetsCased_append_white hc]
    rw [lowerAfter, lowerAfter, hsigma]
    exact congrArg _ (ih (d :: near))

/-- White space begins the lowering anew, since no sigma looks beyond it. -/
theorem lowerAfter_white {c : Char} (hc : isWhite c = true) (before t rest : Text) :
    lowerAfter before (t ++ c :: rest) = lowerAfter before t ++ c :: lower rest := by
  rcases (of_isWhite hc).1 with ⟨hsigma, hlower⟩
  induction t generalizing before with
  | nil =>
    have hrest : lowerAfter (c :: before) rest = lower rest :=
      lowerAfter_append_white hc [] before rest
    simp only [List.nil_append, lowerAfter, if_neg hsigma, hlower, hrest, List.singleton_append]
  | cons d t ih =>
    have hsame : lowerSigma before (t ++ c :: rest) = lowerSigma before t := by
      rw [lowerSigma, lowerSigma, meetsCased_append_white hc]
    rw [List.cons_append, lowerAfter, lowerAfter, ih, hsame, List.append_assoc]

/-- White space stays when a text is lowered, and what stands on its two sides is lowered on
its own. -/
theorem lower_append_white {c : Char} (hc : isWhite c = true) (t rest : Text) :
    lower (t ++ c :: rest) = lower t ++ c :: lower rest :=
  lowerAfter_white hc [] t rest

/-! ## The words of a lowered text -/

/-- Only the empty text is lowered to it. -/
theorem lower_eq_nil_iff {t : Text} : lower t = [] ↔ t = [] := by
  cases t with
  | nil => simp [lower, lowerAfter]
  | cons c rest =>
    have hne := lowerChar_ne_nil c
    rw [lower, lowerAfter]
    split <;> simp [hne]

/-- A text without white space has none when it is lowered. -/
theorem splitOnP_lower_of_free {t : Text} (h : ∀ c ∈ t, isWhite c = false) :
    List.splitOnP isWhite (lower t) = [lower t] := by
  apply List.splitOnP_eq_singleton
  intro d hd
  cases hwhite : isWhite d with
  | false => rfl
  | true =>
    have hmem := (of_mem_lowerAfter hd).2 hwhite
    rw [h d hmem] at hwhite
    cases hwhite

/-- Lowering a text lowers its words one by one. -/
theorem splitOnP_lower (t : Text) :
    List.splitOnP isWhite (lower t) = (List.splitOnP isWhite t).map lower := by
  -- The text in front of the next white space grows character by character.
  suffices hfront : ∀ front : Text, (∀ c ∈ front, isWhite c = false) →
      List.splitOnP isWhite (lower (front ++ t)) = (List.splitOnP isWhite (front ++ t)).map lower from
    hfront [] (by simp)
  induction t with
  | nil =>
    intro front hfree
    rw [List.append_nil, splitOnP_lower_of_free hfree, List.splitOnP_eq_singleton hfree]
    rfl
  | cons c t ih =>
    intro front hfree
    cases hc : isWhite c with
    | true =>
      have hrest : List.splitOnP isWhite (lower t) = (List.splitOnP isWhite t).map lower :=
        ih [] (by simp)
      rw [lower_append_white hc, List.splitOnP_append_cons _ _ hc, List.splitOnP_append_cons _ _ hc,
        splitOnP_lower_of_free hfree, List.splitOnP_eq_singleton hfree, hrest, List.map_append]
      rfl
    | false =>
      have hlonger := ih (front ++ [c]) fun d hd => by
        rcases List.mem_append.1 hd with hd | hd
        · exact hfree d hd
        · rw [List.mem_singleton.1 hd]
          exact hc
      rwa [List.append_assoc] at hlonger

/-- The words of a lowered text are the lowered words of the text. -/
theorem words_lower (t : Text) : words (lower t) = (words t).map lower := by
  have hempty : ((!·.isEmpty) ∘ lower : Text → Bool) = (!·.isEmpty) := by
    funext piece
    rw [Function.comp_apply, Bool.eq_iff_iff]
    simp [lower_eq_nil_iff]
  rw [words, words, splitOnP_lower, List.filter_map, hempty]

end Text

end PlainPage
