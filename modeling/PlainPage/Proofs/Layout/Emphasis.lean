import PlainPage.Layout.Emphasis
import PlainPage.Proofs.Text.Case

/-!
# Pairs of stars

The pairs of stars of a line cut it into pieces, and every second piece is raised.  A piece in
front of a pair does not end with a star, so when the pairs go, the pieces that meet do not make
a new one.

Main results:

- Definition `starPieces` cuts a line at its pairs of stars, and `raisePieces` raises every
  second piece.
- Theorem `emphasize_eq` says that emphasis raises the pieces of each line.
- Theorem `raiseStretch_idem` says that a line which has been raised has nothing left to raise.
- Theorem `emphasize_pairs` puts the two together.
-/

namespace PlainPage

/-! ## Pieces -/

/-- The pieces of a line between its pairs of stars, which are found from the left and do not
overlap. -/
def starPieces : Text → List Text
  | [] => [[]]
  | '*' :: '*' :: rest => [] :: starPieces rest
  | c :: rest => (starPieces rest).modifyHead (List.cons c)

/-- Glue pieces together, every second one raised and without the pairs of stars around it.  A
pair that has no partner is kept, and the piece after it is not raised. -/
def raisePieces : List Text → Text
  | [] => []
  | [piece] => piece
  | [piece, last] => piece ++ ['*', '*'] ++ last
  | piece :: raised :: next :: rest => piece ++ Text.upper raised ++ raisePieces (next :: rest)

/-- Raise what stands between pairs of stars on one line. -/
def raiseStretch (line : Text) : Text :=
  raisePieces (starPieces line)

/-- A text has a first piece. -/
theorem starPieces_ne_nil (t : Text) : starPieces t ≠ [] := by
  fun_induction starPieces t with
  | case1 => simp
  | case2 rest => simp
  | case3 c rest hpair ih => simpa using ih

/-- Pieces that are glued with pairs of stars give the line back. -/
theorem intercalate_starPieces (t : Text) : List.intercalate ['*', '*'] (starPieces t) = t := by
  fun_induction starPieces t with
  | case1 => rfl
  | case2 rest ih =>
    rw [List.intercalate_cons_of_ne_nil (starPieces_ne_nil rest), ih]
    rfl
  | case3 c rest hpair ih => rw [Text.intercalate_modifyHead_cons _ _ (starPieces_ne_nil rest), ih]

/-- A character that begins no pair goes to the first piece. -/
theorem length_starPieces_of_plain {c : Char} {t : Text}
    (hpair : ∀ tail, c = '*' → t = '*' :: tail → False) :
    (starPieces (c :: t)).length = (starPieces t).length := by
  rw [starPieces, List.length_modifyHead]
  exact hpair

/-- A character in front makes at most one piece more, and none less. -/
theorem length_starPieces_cons (c : Char) (t : Text) :
    (starPieces t).length ≤ (starPieces (c :: t)).length ∧
      (starPieces (c :: t)).length ≤ (starPieces t).length + 1 := by
  induction t generalizing c with
  | nil => simp [starPieces]
  | cons d tail ih =>
    by_cases hpair : c = '*' ∧ d = '*'
    · -- The pair is found one character earlier.
      have hlater := ih d
      have hfound : (starPieces (c :: d :: tail)).length = (starPieces tail).length + 1 := by
        rw [hpair.1, hpair.2]
        rfl
      omega
    · have hsame := length_starPieces_of_plain (c := c) (t := d :: tail)
        fun _ hc hd => hpair ⟨hc, (List.cons.inj hd).1⟩
      omega

/-- With two pieces or fewer there is nothing to raise. -/
theorem raiseStretch_of_length_le {t : Text} (h : (starPieces t).length ≤ 2) :
    raiseStretch t = t := by
  have hjoin := intercalate_starPieces t
  rw [raiseStretch]
  generalize starPieces t = pieces at h hjoin
  match pieces with
  | [] => exact hjoin
  | [piece] => simpa [raisePieces] using hjoin
  | [piece, last] => simpa [raisePieces, List.intercalate_cons_cons] using hjoin
  | _ :: _ :: _ :: _ => simp at h

/-- The first piece is not raised, so a character in front of it stays. -/
theorem raisePieces_modifyHead_cons (c : Char) {pieces : List Text} (h : pieces ≠ []) :
    raisePieces (pieces.modifyHead (List.cons c)) = c :: raisePieces pieces := by
  match pieces with
  | [] => exact absurd rfl h
  | [_] => rfl
  | [_, _] => rfl
  | _ :: _ :: _ :: _ => rfl

/-! ## Scanning -/

/-- The scan for a closing pair finds the first piece. -/
theorem starPieces_of_closing {t body after : Text} (h : closingStars t = some (body, after)) :
    starPieces t = body :: starPieces after := by
  fun_induction closingStars t generalizing body with
  | case1 => cases h
  | case2 rest =>
    cases h
    rfl
  | case3 => cases h
  | case4 c rest hpair hbreak ih =>
    obtain ⟨⟨start, _⟩, hrest, heq⟩ := Option.map_eq_some_iff.1 h
    cases heq
    rw [starPieces, ih hrest]
    · rfl
    · exact hpair

/-- The text is the raised stretch, the closing pair, and what comes after. -/
theorem eq_of_closing {t body after : Text} (h : closingStars t = some (body, after)) :
    t = body ++ ['*', '*'] ++ after := by
  calc t = List.intercalate ['*', '*'] (body :: starPieces after) := by
        rw [← starPieces_of_closing h, intercalate_starPieces]
    _ = body ++ ['*', '*'] ++ after := by
        rw [List.intercalate_cons_of_ne_nil (starPieces_ne_nil after), intercalate_starPieces]

/-- What comes after a closing pair is part of the text. -/
theorem not_mem_of_closing {t body after : Text} {c : Char}
    (h : closingStars t = some (body, after)) (hc : c ∉ t) : c ∉ after := by
  intro hmem
  rw [eq_of_closing h] at hc
  exact hc (List.mem_append_right _ hmem)

/-- A text on one line without a pair of stars is a single piece. -/
theorem starPieces_of_open {t : Text} (hbreak : '\n' ∉ t) (h : closingStars t = none) :
    starPieces t = [t] := by
  fun_induction closingStars t with
  | case1 => rfl
  | case2 => cases h
  | case3 => simp at hbreak
  | case4 c rest hpair hc ih =>
    rw [List.mem_cons, not_or] at hbreak
    rw [starPieces, ih hbreak.2 (by simpa using h)]
    · rfl
    · exact hpair

/-- A line break after a text completes no pair of stars. -/
theorem not_pair_append {c : Char} {t rest : Text}
    (hpair : ∀ tail, c = '*' → t = '*' :: tail → False) :
    ∀ tail, c = '*' → t ++ '\n' :: rest = '*' :: tail → False := by
  rintro tail hc happend
  cases t with
  | nil => cases happend
  | cons d more =>
    cases happend
    exact hpair more hc rfl

/-- The scan for a closing pair stays on its line. -/
theorem closingStars_append {t : Text} (hbreak : '\n' ∉ t) (rest : Text) :
    closingStars (t ++ '\n' :: rest) =
      (closingStars t).map fun found => (found.1, found.2 ++ '\n' :: rest) := by
  fun_induction closingStars t with
  | case1 => simp [closingStars]
  | case2 => rfl
  | case3 => simp at hbreak
  | case4 c tail hpair hc ih =>
    rw [List.mem_cons, not_or] at hbreak
    rw [List.cons_append, closingStars, if_neg hc, ih hbreak.2]
    · cases closingStars tail <;> rfl
    · exact not_pair_append hpair

/-- A stretch between pairs of stars is raised and loses them. -/
theorem emphasize_of_closing {rest body after : Text}
    (h : closingStars rest = some (body, after)) :
    emphasize ('*' :: '*' :: rest) = Text.upper body ++ emphasize after := by
  rw [emphasize]
  split
  · rename_i hfound
    rw [h] at hfound
    cases hfound
    rfl
  · rename_i hnone
    rw [h] at hnone
    cases hnone

/-- A pair of stars that nothing closes stays. -/
theorem emphasize_of_open {rest : Text} (h : closingStars rest = none) :
    emphasize ('*' :: '*' :: rest) = '*' :: emphasize ('*' :: rest) := by
  rw [emphasize]
  split
  · rename_i hfound
    rw [h] at hfound
    cases hfound
  · rfl

/-- Any other character stays. -/
theorem emphasize_of_plain {c : Char} {t : Text}
    (hpair : ∀ tail, c = '*' → t = '*' :: tail → False) :
    emphasize (c :: t) = c :: emphasize t := by
  rw [emphasize]
  exact hpair

/-- On one line, emphasis raises every second piece. -/
theorem emphasize_of_line {t : Text} (hbreak : '\n' ∉ t) : emphasize t = raiseStretch t := by
  fun_induction emphasize t with
  | case1 => rfl
  | case2 rest body after hfound ih =>
    simp only [List.mem_cons, not_or] at hbreak
    rw [ih (not_mem_of_closing hfound hbreak.2.2), raiseStretch, raiseStretch, starPieces,
      starPieces_of_closing hfound]
    cases hpieces : starPieces after with
    | nil => exact absurd hpieces (starPieces_ne_nil after)
    | cons next more => rfl
  | case3 rest hopen ih =>
    simp only [List.mem_cons, not_or] at hbreak
    have hrest := starPieces_of_open hbreak.2.2 hopen
    have hlength := (length_starPieces_cons '*' rest).2
    rw [hrest] at hlength
    rw [ih (by simpa using hbreak.2.2), raiseStretch_of_length_le hlength, raiseStretch, starPieces,
      hrest]
    rfl
  | case4 c rest hpair ih =>
    rw [List.mem_cons, not_or] at hbreak
    rw [ih hbreak.2, raiseStretch, raiseStretch, starPieces,
      raisePieces_modifyHead_cons c (starPieces_ne_nil rest)]
    exact hpair

/-- Emphasis stays on its line. -/
theorem emphasize_append {t : Text} (hbreak : '\n' ∉ t) (rest : Text) :
    emphasize (t ++ '\n' :: rest) = emphasize t ++ '\n' :: emphasize rest := by
  fun_induction emphasize t with
  | case1 =>
    rw [List.nil_append, emphasize_of_plain (by simp)]
    rfl
  | case2 tail body after hfound ih =>
    simp only [List.mem_cons, not_or] at hbreak
    have hlonger := closingStars_append hbreak.2.2 rest
    rw [hfound] at hlonger
    rw [List.cons_append, List.cons_append, emphasize_of_closing hlonger,
      ih (not_mem_of_closing hfound hbreak.2.2), List.append_assoc]
  | case3 tail hopen ih =>
    simp only [List.mem_cons, not_or] at hbreak
    have hlonger := closingStars_append hbreak.2.2 rest
    rw [hopen] at hlonger
    rw [List.cons_append, List.cons_append, emphasize_of_open hlonger, ← List.cons_append,
      ih (by simpa using hbreak.2.2), List.cons_append]
  | case4 c tail hpair ih =>
    rw [List.mem_cons, not_or] at hbreak
    rw [List.cons_append, emphasize_of_plain (not_pair_append hpair), ih hbreak.2,
      List.cons_append]

/-- Emphasis works line by line. -/
theorem emphasize_intercalate {lines : List Text} (hne : lines ≠ [])
    (hbreak : ∀ line ∈ lines, '\n' ∉ line) :
    emphasize (List.intercalate ['\n'] lines) =
      List.intercalate ['\n'] (lines.map raiseStretch) := by
  induction lines with
  | nil => exact absurd rfl hne
  | cons line rest ih =>
    rw [List.forall_mem_cons] at hbreak
    have hline := emphasize_of_line hbreak.1
    cases rest with
    | nil => simpa using hline
    | cons next more =>
      have hrest := ih (by simp) hbreak.2
      calc emphasize (List.intercalate ['\n'] (line :: next :: more))
          = emphasize (line ++ '\n' :: List.intercalate ['\n'] (next :: more)) := by
            rw [List.intercalate_cons_cons, List.append_assoc, List.singleton_append]
        _ = raiseStretch line ++ '\n' ::
              List.intercalate ['\n'] ((next :: more).map raiseStretch) := by
            rw [emphasize_append hbreak.1, hline, hrest]
        _ = List.intercalate ['\n'] ((line :: next :: more).map raiseStretch) := by
            rw [List.map_cons (l := next :: more), List.intercalate_cons_of_ne_nil (by simp),
              List.append_assoc, List.singleton_append]

/-- Emphasis raises every second piece of each line. -/
theorem emphasize_eq (t : Text) :
    emphasize t = List.intercalate ['\n'] ((t.splitOn '\n').map raiseStretch) := by
  calc emphasize t = emphasize (List.intercalate ['\n'] (t.splitOn '\n')) := by
        rw [List.intercalate_splitOn]
    _ = List.intercalate ['\n'] ((t.splitOn '\n').map raiseStretch) :=
        emphasize_intercalate (List.splitOn_ne_nil _ t) fun _ => Text.not_mem_of_mem_splitOn

/-! ## Raising again -/

/-- No other character is raised to a star. -/
theorem star_not_mem_upperChar {c : Char} (hc : c ≠ '*') : '*' ∉ upperChar c :=
  fun h => hc (eq_of_mem_upperChar (by decide) h).symm

/-- A text without a pair of stars that does not end with a star either: no pair begins in it,
whatever follows. -/
inductive Pairless : Text → Prop where
  | nil : Pairless []
  | cons {c : Char} {rest : Text} (hc : c ≠ '*') (h : Pairless rest) : Pairless (c :: rest)
  | star {c : Char} {rest : Text} (hc : c ≠ '*') (h : Pairless rest) : Pairless ('*' :: c :: rest)

namespace Pairless

variable {s t : Text}

/-- Texts without pairs make none together. -/
theorem append (hs : Pairless s) (ht : Pairless t) : Pairless (s ++ t) := by
  induction hs with
  | nil => exact ht
  | cons hc _ ih => exact .cons hc ih
  | star hc _ ih => exact .star hc ih

/-- A text without a star has no pair. -/
theorem of_not_mem (h : '*' ∉ t) : Pairless t := by
  induction t with
  | nil => exact .nil
  | cons c rest ih =>
    rw [List.mem_cons, not_or] at h
    exact .cons (Ne.symm h.1) (ih h.2)

/-- Raising makes no pair. -/
theorem upper (h : Pairless t) : Pairless t.upper := by
  induction h with
  | nil => exact .nil
  | cons hc _ ih =>
    rw [Text.upper_cons]
    exact (of_not_mem (star_not_mem_upperChar hc)).append ih
  | @star c rest hc _ ih =>
    have hstar : upperChar '*' = ['*'] := by decide
    have hfree := star_not_mem_upperChar hc
    rw [Text.upper_cons, Text.upper_cons, hstar]
    cases hraised : upperChar c with
    | nil => exact absurd hraised (upperChar_ne_nil c)
    | cons d more =>
      rw [hraised, List.mem_cons, not_or] at hfree
      exact .star (Ne.symm hfree.1) ((of_not_mem hfree.2).append ih)

/-- Such a text adds no pieces in front of another one. -/
theorem length_starPieces (hs : Pairless s) (t : Text) :
    (starPieces (s ++ t)).length = (starPieces t).length := by
  induction hs with
  | nil => rfl
  | cons hc _ ih =>
    rw [List.cons_append, length_starPieces_of_plain fun _ h => absurd h hc, ih]
  | star hc _ ih =>
    rw [List.cons_append, List.cons_append, length_starPieces_of_plain,
      length_starPieces_of_plain fun _ h => absurd h hc, ih]
    rintro tail - h
    exact hc (List.cons.inj h).1

/-- A character goes in front of such a text unless it begins a pair there. -/
theorem cons_of_plain {c : Char} (h : Pairless t)
    (hpair : ∀ tail, c = '*' → t ++ '*' :: '*' :: s = '*' :: tail → False) : Pairless (c :: t) := by
  by_cases hc : c = '*'
  · cases h with
    | nil => exact absurd rfl (hpair _ hc)
    | cons hd h =>
      rw [hc]
      exact .star hd h
    | star hd h => exact absurd rfl (hpair _ hc)
  · exact .cons hc h

end Pairless

/-- Pieces as the scan leaves them: none has a pair of stars, and only the last one may end with
a star. -/
inductive Scanned : List Text → Prop where
  | last {piece : Text} (hpiece : (starPieces piece).length = 1) : Scanned [piece]
  | cons {piece : Text} {rest : List Text} (hpiece : Pairless piece) (h : Scanned rest) :
      Scanned (piece :: rest)

/-- The pieces of a text are as the scan leaves them. -/
theorem scanned_starPieces (t : Text) : Scanned (starPieces t) := by
  fun_induction starPieces t with
  | case1 => exact .last rfl
  | case2 rest ih => exact .cons .nil ih
  | case3 c rest hpair ih =>
    have hjoin := intercalate_starPieces rest
    cases hpieces : starPieces rest with
    | nil => exact absurd hpieces (starPieces_ne_nil rest)
    | cons first more =>
      rw [hpieces] at ih hjoin
      cases more with
      | nil =>
        have hfirst : first = rest := by simpa using hjoin
        have hlength := length_starPieces_of_plain hpair
        rw [hpieces, ← hfirst] at hlength
        exact .last hlength
      | cons next others =>
        rw [List.intercalate_cons_cons, List.append_assoc] at hjoin
        cases ih with
        | cons hpiece hrest =>
          refine .cons
            (hpiece.cons_of_plain (s := List.intercalate ['*', '*'] (next :: others)) ?_) hrest
          intro tail hc htail
          exact hpair tail hc (hjoin.symm.trans htail)

/-- Raised pieces have at most one pair of stars left. -/
theorem length_starPieces_raisePieces {pieces : List Text} (h : Scanned pieces) :
    (starPieces (raisePieces pieces)).length ≤ 2 := by
  fun_induction raisePieces pieces with
  | case1 => cases h
  | case2 piece =>
    cases h with
    | last hpiece =>
      rw [hpiece]
      decide
    | cons hpiece hrest => cases hrest
  | case3 piece last =>
    rcases h with _ | ⟨hpiece, ⟨hlast⟩ | ⟨_, hnone⟩⟩
    · rw [List.append_assoc, hpiece.length_starPieces]
      exact Nat.succ_le_succ (Nat.le_of_eq hlast)
    · cases hnone
  | case4 piece raised next rest ih =>
    rcases h with _ | ⟨hpiece, _ | ⟨hraised, hrest⟩⟩
    rw [(hpiece.append hraised.upper).length_starPieces]
    exact ih hrest

/-- A line that has been raised has nothing left to raise. -/
theorem raiseStretch_idem (t : Text) : raiseStretch (raiseStretch t) = raiseStretch t :=
  raiseStretch_of_length_le (length_starPieces_raisePieces (scanned_starPieces t))

/-- The signs of raised pieces were there before, or stood between the pieces. -/
theorem mem_of_mem_raisePieces {pieces : List Text} {d : Char} (hd : d.toNat < 'A'.toNat)
    (h : d ∈ raisePieces pieces) : d ∈ List.intercalate ['*', '*'] pieces := by
  fun_induction raisePieces pieces with
  | case1 => exact h
  | case2 piece => simpa using h
  | case3 piece last => simpa [List.intercalate_cons_cons] using h
  | case4 piece raised next rest ih =>
    rw [List.intercalate_cons_cons, List.intercalate_cons_cons]
    simp only [List.mem_append] at h ⊢
    rcases h with (hpiece | hraised) | hrest
    · exact .inl (.inl hpiece)
    · exact .inr (.inl (.inl (Text.mem_of_mem_upper hd hraised)))
    · exact .inr (.inr (ih hrest))

/-- Raising a line makes no line break. -/
theorem lineBreak_not_mem_raiseStretch {t : Text} (h : '\n' ∉ t) : '\n' ∉ raiseStretch t := by
  intro hmem
  have hjoin := mem_of_mem_raisePieces (by decide) hmem
  rw [intercalate_starPieces] at hjoin
  exact h hjoin

/-- Emphasis raises every second piece between the pairs of stars of each line, and leaves
nothing to raise. -/
theorem emphasize_pairs (t : Text) :
    emphasize t = List.intercalate ['\n'] ((t.splitOn '\n').map raiseStretch) ∧
      emphasize (emphasize t) = emphasize t := by
  have hraised : ∀ line ∈ (t.splitOn '\n').map raiseStretch, '\n' ∉ line := by
    intro line hline
    rcases List.mem_map.1 hline with ⟨plain, hplain, rfl⟩
    exact lineBreak_not_mem_raiseStretch (Text.not_mem_of_mem_splitOn hplain)
  have hne : (t.splitOn '\n').map raiseStretch ≠ [] := by
    rw [ne_eq, List.map_eq_nil_iff]
    exact List.splitOnP_ne_nil _ t
  refine ⟨emphasize_eq t, ?_⟩
  rw [emphasize_eq t, emphasize_intercalate hne hraised, List.map_map]
  congr 2
  exact funext raiseStretch_idem

/-- A third star belongs to the piece behind the pair, and a pair without a partner stays. -/
example : emphasize "a***b** c **d".toList = "a*B c **d".toList := by decide +kernel

end PlainPage
