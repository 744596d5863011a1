import Mathlib.Data.List.Forall2
import PlainPage.Plugin.Basic
import PlainPage.Proofs.Text.Decimal
import PlainPage.Proofs.Text.Trim

/-!
# How versions are written and compared

A version is written as one to three counts with points between them.  White space around it,
a plus in front of a number and zeros in front of it do not count, and neither do zeros at the
end that may be left out.  So a version has many texts, one of which is printed; what is
compared is the numbers.

Main results:

- Definition `Version.Spells` lists the ways to write a version in pieces.
- Theorem `Version.ofPieces?_eq_some_iff` says which pieces are a version.
- Theorem `Version.compare_eq_lt_iff` and its companions say how versions are ordered.
- Theorem `readVersion_spelled` says which texts are read as a version, that printed versions
  are, and that versions are compared by their numbers.
-/

namespace PlainPage

/-! ## Numbers in pieces -/

theorem isWhite_of_isDigit {c : Char} (h : c.isDigit = true) : isWhite c = false := by
  obtain ⟨d, hd, rfl⟩ := exists_digitChar h
  revert d
  decide

/-- A number holds no white space. -/
theorem CountText.isWhite_eq_false {t : Text} {n : Nat} (h : CountText t n) :
    ∀ c ∈ t, isWhite c = false := by
  intro c hc
  rcases h.isDigit_or_eq_plus c hc with hdigit | rfl
  · exact isWhite_of_isDigit hdigit
  · decide

/-- A number holds no point. -/
theorem CountText.point_not_mem {t : Text} {n : Nat} (h : CountText t n) : '.' ∉ t := by
  intro hmem
  rcases h.isDigit_or_eq_plus '.' hmem with hdigit | hplus
  · revert hdigit
    decide
  · revert hplus
    decide

/-- Pieces that are all counts, and their values. -/
theorem mapM_count?_eq_some_iff {pieces : List Text} {numbers : List Nat} :
    pieces.mapM count? = some numbers ↔ List.Forall₂ CountText pieces numbers := by
  induction pieces generalizing numbers with
  | nil => simp [eq_comm]
  | cons piece rest ih =>
    simp only [List.mapM_cons, Option.bind_eq_bind, Option.bind_eq_some_iff, count?_eq_some_iff, ih,
      List.forall₂_cons_left_iff, Option.pure_def, Option.some.injEq]
    constructor
    · rintro ⟨n, hn, more, hmore, rfl⟩
      exact ⟨n, more, hn, hmore, rfl⟩
    · rintro ⟨n, more, hn, hmore, rfl⟩
      exact ⟨n, hn, more, hmore, rfl⟩

namespace Version

variable {v w : Version}

/-- The ways to write a version in pieces: one to three counts.  Those that are left out are
zero. -/
inductive Spells : List Text → Version → Prop where
  | major {a : Text} {x : Nat} (ha : CountText a x) : Spells [a] { major := x }
  | minor {a b : Text} {x y : Nat} (ha : CountText a x) (hb : CountText b y) :
      Spells [a, b] { major := x, minor := y }
  | patch {a b c : Text} {x y z : Nat} (ha : CountText a x) (hb : CountText b y)
      (hc : CountText c z) : Spells [a, b, c] { major := x, minor := y, patch := z }

/-- Every piece of a version spells a number. -/
theorem Spells.exists_countText {pieces : List Text} (h : Spells pieces v) :
    ∀ piece ∈ pieces, ∃ n, CountText piece n := by
  cases h with
  | major ha => simpa using ⟨_, ha⟩
  | minor ha hb => simpa using ⟨⟨_, ha⟩, ⟨_, hb⟩⟩
  | patch ha hb hc => simpa using ⟨⟨_, ha⟩, ⟨_, hb⟩, ⟨_, hc⟩⟩

/-- A version has at least one piece. -/
theorem Spells.ne_nil {pieces : List Text} (h : Spells pieces v) : pieces ≠ [] := by
  cases h <;> simp

/-- The pieces that are a version, and which one they are. -/
theorem ofPieces?_eq_some_iff {pieces : List Text} :
    ofPieces? pieces = some v ↔ Spells pieces v := by
  rw [ofPieces?, Option.bind_eq_bind, Option.bind_eq_some_iff]
  simp only [mapM_count?_eq_some_iff]
  constructor
  · rintro ⟨numbers, hpieces, hnumbers⟩
    unfold ofNumbers? at hnumbers
    split at hnumbers
    · cases hnumbers
      rcases hpieces with _ | ⟨ha, _ | _⟩
      exact .major ha
    · cases hnumbers
      rcases hpieces with _ | ⟨ha, _ | ⟨hb, _ | _⟩⟩
      exact .minor ha hb
    · cases hnumbers
      rcases hpieces with _ | ⟨ha, _ | ⟨hb, _ | ⟨hc, _ | _⟩⟩⟩
      exact .patch ha hb hc
    · cases hnumbers
  · intro h
    cases h with
    | @major a x ha => exact ⟨[x], .cons ha .nil, rfl⟩
    | @minor a b x y ha hb => exact ⟨[x, y], .cons ha (.cons hb .nil), rfl⟩
    | @patch a b c x y z ha hb hc => exact ⟨[x, y, z], .cons ha (.cons hb (.cons hc .nil)), rfl⟩

/-! ## The text of a version -/

/-- A version has no white space within it. -/
theorem Spells.trimmed {pieces : List Text} (h : Spells pieces v) :
    Text.Trimmed (List.intercalate ['.'] pieces) := by
  refine .of_forall fun c hc => ?_
  rcases Text.mem_intercalate hc with hpoint | ⟨piece, hpiece, hc⟩
  · rw [List.mem_singleton.1 hpoint]
    decide
  · rcases h.exists_countText piece hpiece with ⟨n, hn⟩
    exact hn.isWhite_eq_false c hc

/-- The text of a version is not empty. -/
theorem Spells.intercalate_ne_nil {pieces : List Text} (h : Spells pieces v) :
    List.intercalate ['.'] pieces ≠ [] := by
  cases h with
  | major ha => simpa using ha.ne_nil
  | minor ha hb => simp [List.intercalate_cons_cons]
  | patch ha hb hc => simp [List.intercalate_cons_cons]

/-- The points of a version stand between its pieces only. -/
theorem Spells.splitOn_intercalate {pieces : List Text} (h : Spells pieces v) :
    List.splitOn '.' (List.intercalate ['.'] pieces) = pieces := by
  refine List.splitOn_intercalate '.' (fun piece hpiece => ?_) h.ne_nil
  rcases h.exists_countText piece hpiece with ⟨n, hn⟩
  exact hn.point_not_mem

/-- The texts that are a version: pieces with points between them, and white space around
that. -/
theorem ofText?_eq_some_iff {t : Text} :
    ofText? t = some v ↔ ∃ lead pieces trail, Text.isBlank lead = true ∧
      Text.isBlank trail = true ∧ t = lead ++ (List.intercalate ['.'] pieces ++ trail) ∧
      Spells pieces v := by
  rw [ofText?, ofPieces?_eq_some_iff]
  constructor
  · intro h
    rcases Text.exists_eq_trim t with ⟨lead, trail, hlead, htrail, heq⟩
    have hjoin : List.intercalate ['.'] (List.splitOn '.' (Text.trim t)) = Text.trim t :=
      List.intercalate_splitOn '.'
    exact ⟨lead, _, trail, hlead, htrail, hjoin.symm ▸ heq, h⟩
  · rintro ⟨lead, pieces, trail, hlead, htrail, rfl, h⟩
    rw [Text.trim_append h.trimmed h.intercalate_ne_nil hlead htrail, h.splitOn_intercalate]
    exact h

/-- A version is read back from its text. -/
theorem ofText?_text (h : v.Bounded) : ofText? v.text = some v := by
  have hspells := ofPieces?_eq_some_iff.1 (ofPieces?_text h)
  exact ofText?_eq_some_iff.2 ⟨[], _, [], rfl, rfl, (List.append_nil _).symm, hspells⟩

/-! ## The order of versions -/

/-- A version that comes before another one: the first difference between their numbers
decides. -/
def Before (v w : Version) : Prop :=
  v.major < w.major ∨ v.major = w.major ∧
    (v.minor < w.minor ∨ v.minor = w.minor ∧ v.patch < w.patch)

/-- Versions are compared number by number. -/
theorem compare_eq (v w : Version) : compare v w =
    (compare v.major w.major).then ((compare v.minor w.minor).then (compare v.patch w.patch)) :=
  rfl

/-- The comparison answers less exactly when the first version comes before the second. -/
theorem compare_eq_lt_iff : compare v w = .lt ↔ v.Before w := by
  simp only [compare_eq, Ordering.then_eq_lt, Nat.compare_eq_lt, Nat.compare_eq_eq, Before]

theorem compare_eq_eq_iff : compare v w = .eq ↔ v = w := by
  obtain ⟨major, minor, patch⟩ := v
  obtain ⟨otherMajor, otherMinor, otherPatch⟩ := w
  simp only [compare_eq, Ordering.then_eq_eq, Nat.compare_eq_eq, Version.mk.injEq]

theorem compare_eq_gt_iff : compare v w = .gt ↔ w.Before v := by
  simp only [compare_eq, Ordering.then_eq_gt, Nat.compare_eq_gt, Nat.compare_eq_eq, Before]
  omega

/-- The same for the test that dependencies use. -/
theorem isBefore_eq_true_iff : v.isBefore w = true ↔ v.Before w := by
  rw [isBefore, beq_iff_eq, compare_eq_lt_iff]

end Version

/-- A text is read as a version exactly if it is one to three counts with single points between
them, and white space around that; the version has the values of the counts for its numbers,
and zeros for those that are left out.  A version whose numbers fit 64 bits is read back from
its own text.  Versions are compared by their numbers, of which the first difference decides. -/
theorem readVersion_spelled :
    (∀ (t : Text) (v : Version), readVersion t = .ok v ↔
      ∃ lead pieces trail, Text.isBlank lead = true ∧ Text.isBlank trail = true ∧
        t = lead ++ (List.intercalate ['.'] pieces ++ trail) ∧ Version.Spells pieces v) ∧
    (∀ v : Version, v.Bounded → readVersion v.text = .ok v) ∧
    ∀ v w : Version, (compare v w = .lt ↔ v.Before w) ∧ (compare v w = .eq ↔ v = w) ∧
      (compare v w = .gt ↔ w.Before v) ∧ (v.isBefore w = true ↔ v.Before w) := by
  refine ⟨fun t v => ?_, fun v hv => ?_, fun v w => ?_⟩
  · rw [readVersion_eq_ok_iff, Version.ofText?_eq_some_iff]
  · exact readVersion_eq_ok_iff.2 (Version.ofText?_text hv)
  · exact ⟨Version.compare_eq_lt_iff, Version.compare_eq_eq_iff, Version.compare_eq_gt_iff,
      Version.isBefore_eq_true_iff⟩

/-- A version that is not written as it is printed, one with the largest number, and two whose
texts compare the other way round. -/
theorem readVersion_spelled_largest :
    readVersion "\t +01.20 \n".toList = .ok { major := 1, minor := 20 } ∧
      readVersion (Version.text { major := maxCount, patch := 7 }) =
        .ok { major := maxCount, patch := 7 } ∧
      Version.isBefore { major := 0, minor := 9 } { major := 0, minor := 10 } = true := by
  refine ⟨(readVersion_spelled.1 _ _).2 ?_, readVersion_spelled.2.1 _ ?_,
    (readVersion_spelled.2.2 _ _).2.2.2.2 ?_⟩
  · refine ⟨"\t ".toList, ["+01".toList, "20".toList], " \n".toList, by decide, by decide,
      by decide, .minor ?_ ?_⟩
    · exact count?_eq_some_iff.1 (by decide)
    · exact count?_eq_some_iff.1 (by decide)
  · exact ⟨Nat.le_refl _, Nat.zero_le _, by decide⟩
  · exact .inr ⟨rfl, .inl (by decide)⟩

end PlainPage
