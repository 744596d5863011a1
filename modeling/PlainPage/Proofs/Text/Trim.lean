import PlainPage.Text.Basic

/-!
# Trimming a text

Every text is white space, then the trimmed text, then white space again, and the trimmed text
has none at its ends.  There is only one way to cut a text like this, unless it is all white
space.

Main results:

- Definition `Text.Trimmed` says that a text has no white space at its ends.
- Theorem `Text.lead_trim_trail` says what trimming takes away.
- Theorem `Text.trimmed_trim` says that nothing is left to take away.
- Theorem `Text.trim_append` says that only white space is taken away.
-/

namespace PlainPage.Text

variable {lead ink trail t : Text}

/-- Whether a text has no white space at its two ends. -/
structure Trimmed (t : Text) : Prop where
  head : ∀ c, t.head? = some c → isWhite c = false
  last : ∀ c, t.getLast? = some c → isWhite c = false

/-- A text without white space is trimmed. -/
theorem Trimmed.of_forall (h : ∀ c ∈ t, isWhite c = false) : t.Trimmed where
  head c hc := h c (List.mem_of_head? hc)
  last c hc := h c (List.mem_of_getLast? hc)

theorem Trimmed.reverse (h : t.Trimmed) : Trimmed t.reverse where
  head c hc := h.last c (by rwa [List.head?_reverse] at hc)
  last c hc := h.head c (by rwa [List.getLast?_reverse] at hc)

/-- White space in front of a text without any is all that is dropped. -/
theorem Trimmed.dropWhile_append (h : ink.Trimmed) (hne : ink ≠ []) (hlead : isBlank lead = true)
    (rest : Text) : (lead ++ (ink ++ rest)).dropWhile isWhite = ink ++ rest := by
  rw [List.dropWhile_append_of_pos (List.all_eq_true.1 hlead)]
  cases ink with
  | nil => exact absurd rfl hne
  | cons c tail => simp [h.head c rfl]

/-- White space in front of a text without any is all that is taken. -/
theorem Trimmed.takeWhile_append (h : ink.Trimmed) (hne : ink ≠ []) (hlead : isBlank lead = true)
    (rest : Text) : (lead ++ (ink ++ rest)).takeWhile isWhite = lead := by
  rw [List.takeWhile_append_of_pos (List.all_eq_true.1 hlead)]
  cases ink with
  | nil => exact absurd rfl hne
  | cons c tail => simp [h.head c rfl]

/-- A blank text has nothing but white space. -/
theorem not_mem_of_isBlank {c : Char} (h : isBlank t = true) (hc : isWhite c = false) : c ∉ t := by
  intro hmem
  rw [List.all_eq_true.1 h c hmem] at hc
  cases hc

theorem isBlank_reverse : isBlank t.reverse = isBlank t := by
  rw [isBlank, List.all_reverse, isBlank]

/-- Only white space is taken away. -/
theorem trim_append (h : ink.Trimmed) (hne : ink ≠ []) (hlead : isBlank lead = true)
    (htrail : isBlank trail = true) : trim (lead ++ (ink ++ trail)) = ink := by
  have hback := h.reverse.dropWhile_append (List.reverse_ne_nil_iff.2 hne)
    (isBlank_reverse.trans htrail) []
  rw [List.append_nil, ← List.reverse_append] at hback
  rw [trim, h.dropWhile_append hne hlead, hback, List.reverse_reverse]

/-- What is left and what is taken away make up the text. -/
theorem lead_trim_trail (t : Text) :
    t.takeWhile isWhite ++
      (trim t ++ ((t.dropWhile isWhite).reverse.takeWhile isWhite).reverse) = t := by
  rw [trim, ← List.reverse_append, List.takeWhile_append_dropWhile, List.reverse_reverse,
    List.takeWhile_append_dropWhile]

/-- The white space in front of a text is blank. -/
theorem isBlank_takeWhile (t : Text) : isBlank (t.takeWhile isWhite) = true :=
  List.all_takeWhile

/-- Trimming takes away white space in front and behind. -/
theorem exists_eq_trim (t : Text) :
    ∃ lead trail, isBlank lead = true ∧ isBlank trail = true ∧ t = lead ++ (trim t ++ trail) :=
  ⟨_, _, isBlank_takeWhile t, isBlank_reverse.trans (isBlank_takeWhile _), (lead_trim_trail t).symm⟩

/-- Behind it the text starts with something else. -/
theorem head?_dropWhile {c : Char} (h : (t.dropWhile isWhite).head? = some c) :
    isWhite c = false := by
  have hhead := List.head?_dropWhile_not isWhite t
  rw [h] at hhead
  simpa using hhead

/-- Nothing is left to take away. -/
theorem trimmed_trim (t : Text) : (trim t).Trimmed where
  head c hc := by
    -- What is left of the text starts as the text does without its white space in front.
    have hpre : trim t <+: t.dropWhile isWhite := by
      have hsuffix := List.dropWhile_suffix (l := (t.dropWhile isWhite).reverse) isWhite
      rwa [← List.reverse_prefix, List.reverse_reverse] at hsuffix
    refine head?_dropWhile (t := t) ?_
    rcases hpre with ⟨trail, htrail⟩
    rw [← htrail, List.head?_append, hc]
    rfl
  last c hc := by
    rw [trim, List.getLast?_reverse] at hc
    exact head?_dropWhile hc

/-- A text that is not blank has something left when it is trimmed. -/
theorem trim_ne_nil (h : isBlank t = false) : trim t ≠ [] := by
  intro hnil
  rcases exists_eq_trim t with ⟨lead, trail, hlead, htrail, heq⟩
  rw [heq, hnil, List.nil_append, isBlank, List.all_append, ← isBlank, ← isBlank, hlead,
    htrail] at h
  cases h

end PlainPage.Text
