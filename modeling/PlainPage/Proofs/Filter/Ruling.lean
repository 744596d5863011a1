import Mathlib.Order.Bounds.Basic
import PlainPage.Plugin.Demonstration
import PlainPage.Proofs.Text.Trim

/-!
# Ruled lines

A rule runs beneath a line from its first visible character to its last one, and `padding`
columns further on both sides.  Columns are counted as they are seen: a tab takes four of them
and any other character takes one, whatever it takes in bytes.

Main results:

- Definition `inkColumns` gives the columns of a line that hold ink.
- Theorems `isLeast_inkColumns` and `isGreatest_inkColumns` find the first and the last of them.
- Theorem `ruledFrom_solidRule` says in which columns of a rule the dashes stand.
- Theorem `Filter.underlineAll_rules` says what the rules of a block are.
-/

namespace PlainPage

variable {line lead ink trail : Text} {column padding : Nat}

/-! ## Columns -/

/-- Texts side by side take up their columns together. -/
theorem columnCount_append (s t : Text) :
    columnCount (s ++ t) = columnCount s + columnCount t := by
  induction s with
  | nil => simp [columnCount]
  | cons c rest ih => rw [List.cons_append, columnCount, columnCount, ih, Nat.add_assoc]

/-- A visible character is no tab, so it takes one column. -/
theorem columnsOf_of_visible {c : Char} (h : isWhite c = false) : columnsOf c = 1 := by
  refine if_neg ?_
  rintro rfl
  revert h
  decide

/-- Without a tab a text is as wide as it is long. -/
theorem columnCount_of_not_mem {t : Text} (h : '\t' ∉ t) : columnCount t = t.length := by
  induction t with
  | nil => rfl
  | cons c rest ih =>
    rw [List.mem_cons, not_or] at h
    rw [columnCount, ih h.2, columnsOf, if_neg (Ne.symm h.1), List.length_cons, Nat.add_comm]

theorem untab_cons (c : Char) (t : Text) :
    untab (c :: t) = (if c = '\t' then Text.spaces tabColumns else [c]) ++ untab t := rfl

/-- Spaces in place of the tabs keep the columns. -/
theorem columnCount_untab (t : Text) : columnCount (untab t) = columnCount t := by
  induction t with
  | nil => rfl
  | cons c rest ih =>
    rw [untab_cons, columnCount_append, columnCount, ih]
    congr 1
    by_cases hc : c = '\t'
    · rw [if_pos hc, hc]
      decide
    · rw [if_neg hc]
      rfl

/-- A blank text is blank when its tabs are spaces. -/
theorem isBlank_untab {t : Text} (h : Text.isBlank t = true) : Text.isBlank (untab t) = true := by
  induction t with
  | nil => rfl
  | cons c rest ih =>
    rw [Text.isBlank, List.all_cons, Bool.and_eq_true] at h
    rw [untab_cons, Text.isBlank, List.all_append, ← Text.isBlank, ← Text.isBlank, ih h.2,
      Bool.and_true]
    by_cases hc : c = '\t'
    · rw [if_pos hc]
      decide
    · simp [hc, Text.isBlank, h.1]

/-! ## Columns with ink -/

/-- The columns of a line that hold ink: those where a visible character stands. -/
def inkColumns (line : Text) : Set Nat :=
  {column | ∃ before c after, line = before ++ c :: after ∧ isWhite c = false ∧
    columnCount before = column}

/-- No ink stands in the white space in front. -/
theorem le_of_mem_inkColumns (hlead : Text.isBlank lead = true)
    (h : column ∈ inkColumns (lead ++ ink)) : columnCount lead ≤ column := by
  rcases h with ⟨before, c, after, heq, hc, rfl⟩
  rcases List.append_eq_append_iff.1 heq with ⟨more, rfl, -⟩ | ⟨rest, rfl, hrest⟩
  · rw [columnCount_append]
    exact Nat.le_add_right _ _
  · cases rest with
    | nil => rw [List.append_nil]
    | cons d tail =>
      cases hrest
      exact absurd (by simp) (Text.not_mem_of_isBlank hlead hc)

/-- No ink stands in the white space behind. -/
theorem lt_of_mem_inkColumns (htrail : Text.isBlank trail = true)
    (h : column ∈ inkColumns (ink ++ trail)) : column < columnCount ink := by
  rcases h with ⟨before, c, after, heq, hc, rfl⟩
  rcases List.append_eq_append_iff.1 heq with ⟨more, -, hmore⟩ | ⟨rest, rfl, hrest⟩
  · rw [hmore] at htrail
    exact absurd (by simp) (Text.not_mem_of_isBlank htrail hc)
  · cases rest with
    | nil =>
      rw [List.nil_append] at hrest
      rw [← hrest] at htrail
      exact absurd (by simp) (Text.not_mem_of_isBlank htrail hc)
    | cons d tail =>
      cases hrest
      rw [columnCount_append, columnCount, columnsOf_of_visible hc]
      omega

/-- The first column with ink comes right after the white space in front. -/
theorem isLeast_inkColumns (h : ink.Trimmed) (hne : ink ≠ []) (hlead : Text.isBlank lead = true)
    (trail : Text) : IsLeast (inkColumns (lead ++ (ink ++ trail))) (columnCount lead) := by
  refine ⟨?_, fun _ => le_of_mem_inkColumns hlead⟩
  cases ink with
  | nil => exact absurd rfl hne
  | cons c tail => exact ⟨lead, c, tail ++ trail, rfl, h.head c rfl, rfl⟩

/-- The last column with ink comes right before the white space behind. -/
theorem isGreatest_inkColumns (h : ink.Trimmed) (hne : ink ≠ []) (lead : Text)
    (htrail : Text.isBlank trail = true) :
    IsGreatest (inkColumns (lead ++ (ink ++ trail))) (columnCount (lead ++ ink) - 1) := by
  rw [← List.append_assoc]
  refine ⟨?_, fun _ hcolumn => Nat.le_pred_of_lt (lt_of_mem_inkColumns htrail hcolumn)⟩
  rcases List.eq_nil_or_concat ink with rfl | ⟨init, c, rfl⟩
  · exact absurd rfl hne
  · have hc : isWhite c = false := h.last c (by simp)
    refine ⟨lead ++ init, c, trail, by simp, hc, ?_⟩
    rw [List.concat_eq_append, ← List.append_assoc, columnCount_append _ [c], columnCount,
      columnsOf_of_visible hc]
    rfl

/-! ## The rule beneath a line -/

/-- The parts of a line are the white space at its ends and what is between. -/
theorem inkParts_append (h : ink.Trimmed) (hne : ink ≠ []) (hlead : Text.isBlank lead = true)
    (htrail : Text.isBlank trail = true) :
    inkParts (lead ++ (ink ++ trail)) = (lead, ink, trail) := by
  have hne' : ink.reverse ≠ [] := List.reverse_ne_nil_iff.2 hne
  have hback : Text.isBlank trail.reverse = true := Text.isBlank_reverse.trans htrail
  have hdrop := h.reverse.dropWhile_append hne' hback []
  have htake := h.reverse.takeWhile_append hne' hback []
  rw [List.append_nil, ← List.reverse_append] at hdrop htake
  simp only [inkParts]
  rw [h.takeWhile_append hne hlead, h.dropWhile_append hne hlead, hdrop, htake,
    List.reverse_reverse, List.reverse_reverse]

/-- The rule beneath ink with blanks around it: dashes beneath the ink and the padding, and
spaces beneath the rest. -/
theorem solidRule_append (h : ink.Trimmed) (hne : ink ≠ []) (hlead : Text.isBlank lead = true)
    (htrail : Text.isBlank trail = true) (padding : Nat) :
    solidRule padding (lead ++ (ink ++ trail)) =
      Text.spaces (columnCount lead - padding)
        ++ List.replicate (columnCount ink + 2 * padding) '-'
        ++ Text.spaces (columnCount trail - padding) := by
  have hvisible : Text.isBlank (lead ++ (ink ++ trail)) = false := by
    cases ink with
    | nil => exact absurd rfl hne
    | cons c tail => simp [Text.isBlank, h.head c rfl]
  rw [solidRule, hvisible, inkParts_append h hne hlead htrail]
  rfl

/-- The columns of the dashes in such a rule. -/
theorem getElem?_dashes (before dashes after column : Nat) :
    (Text.spaces before ++ List.replicate dashes '-' ++ Text.spaces after)[column]? = some '-' ↔
      before ≤ column ∧ column < before + dashes := by
  simp only [Text.spaces, List.getElem?_append, List.getElem?_replicate, List.length_append,
    List.length_replicate]
  split
  · split
    · simp
      omega
    · simp
      omega
  · simp
    omega

/-- A rule that is as wide as its line and made of spaces and dashes, with the dashes in the
columns from `first` to `last`. -/
structure RuledFrom (first last : Nat) (line rule : Text) : Prop where
  columns : columnCount rule = columnCount line
  marks : ∀ c ∈ rule, c = ' ' ∨ c = '-'
  dashes : ∀ column : Nat, rule[column]? = some '-' ↔ first ≤ column ∧ column ≤ last

/-- A padding that fits into the white space on both sides widens the rule by as much. -/
theorem ruledFrom_solidRule (h : ink.Trimmed) (hne : ink ≠ []) (hlead : Text.isBlank lead = true)
    (htrail : Text.isBlank trail = true) (hbefore : padding ≤ columnCount lead)
    (hafter : padding ≤ columnCount trail) :
    RuledFrom (columnCount lead - padding) (columnCount (lead ++ ink) - 1 + padding)
      (lead ++ (ink ++ trail)) (solidRule padding (lead ++ (ink ++ trail))) := by
  have hink : columnCount lead < columnCount (lead ++ ink) := by
    have hfirst := (isLeast_inkColumns h hne hlead trail).1
    rw [← List.append_assoc] at hfirst
    exact lt_of_mem_inkColumns htrail hfirst
  rw [columnCount_append] at hink
  have hmarks : ∀ c ∈ solidRule padding (lead ++ (ink ++ trail)), c = ' ' ∨ c = '-' := by
    intro c hc
    rw [solidRule_append h hne hlead htrail, List.mem_append, List.mem_append] at hc
    rcases hc with (hc | hc) | hc
    · exact .inl (List.eq_of_mem_replicate hc)
    · exact .inr (List.eq_of_mem_replicate hc)
    · exact .inl (List.eq_of_mem_replicate hc)
  have htab : '\t' ∉ solidRule padding (lead ++ (ink ++ trail)) := by
    intro hmem
    rcases hmarks _ hmem with htab | htab <;> cases htab
  refine ⟨?_, hmarks, fun column => ?_⟩
  · rw [columnCount_of_not_mem htab, solidRule_append h hne hlead htrail]
    simp only [columnCount_append, List.length_append, Text.length_spaces, List.length_replicate]
    omega
  · rw [solidRule_append h hne hlead htrail, getElem?_dashes, columnCount_append]
    omega

/-- A line with ink is ruled from `padding` columns before the first one with ink to as many
behind the last one, if there are that many. -/
theorem exists_ruledFrom (h : ∃ c ∈ line, isWhite c = false) (padding : Nat) :
    ∃ first last, IsLeast (inkColumns line) first ∧ IsGreatest (inkColumns line) last ∧
      (padding ≤ first → last + 1 + padding ≤ columnCount line →
        RuledFrom (first - padding) (last + padding) line (solidRule padding line)) := by
  have hvisible := Text.isBlank_eq_false_iff.2 h
  have htrimmed := Text.trimmed_trim line
  have hne := Text.trim_ne_nil hvisible
  rcases Text.exists_eq_trim line with ⟨lead, trail, hlead, htrail, heq⟩
  generalize Text.trim line = ink at heq htrimmed hne
  subst heq
  refine ⟨_, _, isLeast_inkColumns htrimmed hne hlead trail,
    isGreatest_inkColumns htrimmed hne lead htrail, fun hbefore hafter => ?_⟩
  refine ruledFrom_solidRule htrimmed hne hlead htrail hbefore ?_
  rw [← List.append_assoc, columnCount_append (lead ++ ink)] at hafter
  omega

/-- The rule of a line without ink has its columns and no dash. -/
theorem solidRule_of_forall_isWhite (h : ∀ c ∈ line, isWhite c = true) (padding : Nat) :
    columnCount (solidRule padding line) = columnCount line ∧ '-' ∉ solidRule padding line := by
  have hblank : Text.isBlank line = true := List.all_eq_true.2 h
  rw [solidRule_of_blank hblank]
  exact ⟨columnCount_untab line, Text.not_mem_of_isBlank (isBlank_untab hblank) (by decide)⟩

/-! ## The rules of a block -/

/-- The padding that the words behind the name of the filter ask for. -/
inductive PaddingWords : List Text → Nat → Prop where
  | absent : PaddingWords [] 0
  | given {raw : Text} {more : List Text} {padding : Nat} (hraw : count? raw = some padding)
      (hle : padding ≤ maxWidth) : PaddingWords (raw :: more) padding

/-- A block of the filter closes with a rule beneath each of its lines.  The rule of a line
without ink has the columns of the line and no dash.  That of any other line, as long as the
padding fits into the white space at both ends, has the columns of the line too, is made of
spaces and dashes, and has its dashes from `padding` columns before the first column with ink
to `padding` columns behind the last one. -/
theorem Filter.underlineAll_rules :
    (∀ (lines args : List Text) (s : Settings) (padding : Nat), PaddingWords args padding →
      underlineAll.close lines args s =
        .ok (lines.flatMap fun line => [line, solidRule padding line])) ∧
    (∀ (line : Text) (padding : Nat), (∀ c ∈ line, isWhite c = true) →
      columnCount (solidRule padding line) = columnCount line ∧ '-' ∉ solidRule padding line) ∧
    ∀ (line : Text) (padding : Nat), (∃ c ∈ line, isWhite c = false) →
      ∃ first last, IsLeast (inkColumns line) first ∧ IsGreatest (inkColumns line) last ∧
        (padding ≤ first → last + 1 + padding ≤ columnCount line →
          RuledFrom (first - padding) (last + padding) line (solidRule padding line)) := by
  refine ⟨fun lines args s padding hpadding => ?_, fun line padding hblank => ?_,
    fun line padding hink => ?_⟩
  · cases hpadding with
    | absent => rfl
    | given hraw hle =>
      simp only [underlineAll]
      rw [readCount_eq_ok_iff.2 ⟨hraw, hle⟩]
      rfl
  · exact solidRule_of_forall_isWhite hblank padding
  · exact exists_ruledFrom hink padding

/-- A line with a tab in front and one within: its ink is in the columns from 5 to 10, and there
are two columns behind it. -/
theorem Filter.underlineAll_rules_tabs :
    underlineAll.close ["\t é\tx  ".toList] ["2".toList] .standard =
        .ok ["\t é\tx  ".toList, "   ----------".toList] ∧
      RuledFrom 3 12 "\t é\tx  ".toList (solidRule 2 "\t é\tx  ".toList) := by
  constructor
  · rw [underlineAll_rules.1 _ _ _ 2 (.given (by decide) (by decide))]
    exact congrArg Except.ok (by decide)
  · have hvisible : ∃ c ∈ "\t é\tx  ".toList, isWhite c = false := ⟨'x', by decide, by decide⟩
    have hink : Text.Trimmed "é\tx".toList :=
      ⟨by rintro c ⟨⟩; decide, by rintro c ⟨⟩; decide⟩
    have hlead : Text.isBlank "\t ".toList = true := by decide
    have htrail : Text.isBlank "  ".toList = true := by decide
    rcases underlineAll_rules.2.2 _ 2 hvisible with ⟨first, last, hfirst, hlast, hrule⟩
    cases hfirst.unique (isLeast_inkColumns hink (by decide) hlead "  ".toList)
    cases hlast.unique (isGreatest_inkColumns hink (by decide) "\t ".toList htrail)
    exact hrule (by decide) (by decide)

end PlainPage
