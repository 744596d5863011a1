import PlainPage.Proofs.Typesetter.Lines

/-!
# Line breaks

A line break is a line feed, with a carriage return before it or without.  The last line of a text
needs none behind it unless the line is empty.  Texts that differ in nothing else hold the same
lines, and a document takes no notice of the difference: it comes to the same page or to the same
failure, with the same number.

Main results:

- Definition `Text.lines` is the lines of a text.
- Theorems `hasLines_lines` and `hasLines_withReturns` say that a text holds them, with carriage
  returns before its line feeds as well.
- Theorem `Typesetter.feedPieces_congr` says that only the lines of a stream matter.
- Theorem `Typesetter.typesetOnto_of_hasLines` says that texts which hold the same lines come to
  the same.
- Theorem `Typesetter.typesetOnto_lineBreaks` says so of a text with carriage returns, and of one
  without the line feed at its end.
-/

namespace PlainPage

/-! ## The lines of a text -/

/-- Pieces without the last one if that is empty. -/
def dropEmptyLast (pieces : List Text) : List Text :=
  if pieces.getLast? = some [] then pieces.dropLast else pieces

namespace Text

/-- The lines of a text: what stands between its line feeds.  Behind the last one there is no line
unless something stands there. -/
def lines (t : Text) : List Text :=
  dropEmptyLast (t.splitOn '\n')

/-- A text with a carriage return before each of its line feeds. -/
def withReturns (t : Text) : Text :=
  t.flatMap fun c => if c = '\n' then ['\r', '\n'] else [c]

/-- A line feed behind a line that is not empty begins no other line. -/
theorem lines_append_lineFeed {t : Text} (h : (t ++ ['\n'] : Text).lines.getLast? ≠ some []) :
    (t ++ ['\n'] : Text).lines = t.lines := by
  have hpieces : (t ++ ['\n']).splitOn '\n' = t.splitOn '\n' ++ [[]] :=
    List.splitOn_append_cons_self t []
  have hlines : (t ++ ['\n'] : Text).lines = t.splitOn '\n' := by
    simp [lines, hpieces, dropEmptyLast]
  rw [hlines] at h ⊢
  rw [lines, dropEmptyLast, if_neg h]

/-- A text with carriage returns is its pieces with other line breaks between them. -/
theorem withReturns_eq (t : Text) :
    t.withReturns = List.intercalate ['\r', '\n'] (t.splitOn '\n') := by
  induction t with
  | nil => rfl
  | cons c rest ih =>
    have hne := List.splitOn_ne_nil '\n' rest
    unfold withReturns at ih ⊢
    rw [List.flatMap_cons, ih, List.splitOn_cons_eq_if_modifyHead]
    by_cases hc : c = '\n'
    · rw [if_pos hc, if_pos (beq_iff_eq.2 hc), List.intercalate_cons_of_ne_nil hne]
      rfl
    · rw [if_neg hc, if_neg (by simpa using hc), intercalate_modifyHead_cons _ _ hne]
      rfl

end Text

theorem mem_of_mem_dropEmptyLast {pieces : List Text} {piece : Text}
    (h : piece ∈ dropEmptyLast pieces) : piece ∈ pieces := by
  unfold dropEmptyLast at h
  split at h
  · exact List.dropLast_subset _ h
  · exact h

/-- Only the last piece can be dropped. -/
theorem dropEmptyLast_cons (line : Text) {rest : List Text} (h : rest ≠ []) :
    dropEmptyLast (line :: rest) = line :: dropEmptyLast rest := by
  unfold dropEmptyLast
  rw [List.getLast?_cons_of_ne_nil h, List.dropLast_cons_of_ne_nil h]
  split <;> rfl

/-- Pieces that are glued with line breaks are lines, apart from an empty piece behind the last
line break. -/
theorem hasLines_intercalate {ending : Text} (hending : LineBreak ending) (pieces : List Text) :
    HasLines (List.intercalate ending pieces) (dropEmptyLast pieces) := by
  induction pieces with
  | nil => exact .nil
  | cons line rest ih =>
    cases rest with
    | nil =>
      by_cases hne : line = []
      · rw [hne]
        exact .nil
      · have hlast : [line].getLast? ≠ some [] := fun h => hne (Option.some.inj h)
        rw [dropEmptyLast, if_neg hlast, List.intercalate_singleton]
        exact .last hne
    | cons next more =>
      rw [List.intercalate_cons_of_ne_nil (by simp), dropEmptyLast_cons line (by simp)]
      exact .cons hending ih

/-- A text holds its lines. -/
theorem hasLines_lines (t : Text) : HasLines t t.lines := by
  have hpieces := hasLines_intercalate .lineFeed (t.splitOn '\n')
  rwa [List.intercalate_splitOn] at hpieces

/-- Carriage returns before the line feeds make no other lines. -/
theorem hasLines_withReturns (t : Text) : HasLines t.withReturns t.lines := by
  rw [Text.withReturns_eq]
  exact hasLines_intercalate .returned _

/-! ## Setting a document -/

namespace Typesetter

/-- Of a piece only what is read from it matters. -/
theorem feedPiece_congr {piece other : Bytes} (h : readLine? piece = readLine? other)
    (t : Typesetter) (number : Nat) : t.feedPiece number piece = t.feedPiece number other := by
  unfold readLine? at h
  unfold feedPiece
  cases hpiece : Text.ofUtf8? piece with
  | none =>
    rw [hpiece, Option.map_none, eq_comm, Option.map_eq_none_iff] at h
    rw [h]
  | some line =>
    rw [hpiece, Option.map_some, eq_comm, Option.map_eq_some_iff] at h
    rcases h with ⟨otherLine, hother, hsame⟩
    rw [hother]
    dsimp only
    rw [hsame]

/-- Of a stream only the lines that are read from it matter. -/
theorem feedPieces_congr {stream other : List Bytes}
    (h : stream.map readLine? = other.map readLine?) (t : Typesetter) (number : Nat) :
    t.feedPieces number stream = t.feedPieces number other := by
  induction stream generalizing t number other with
  | nil =>
    rw [List.map_nil, eq_comm, List.map_eq_nil_iff] at h
    rw [h]
  | cons piece rest ih =>
    rw [List.map_cons, eq_comm, List.map_eq_cons_iff] at h
    rcases h with ⟨otherPiece, otherRest, rfl, hpiece, hrest⟩
    rw [feedPieces, feedPieces, feedPiece_congr hpiece.symm]
    congr 1
    funext next
    exact ih hrest.symm next (number + 1)

/-- The lines of a stream are what is read from its pieces. -/
theorem map_readLine?_of_streamLines? {input : Bytes} {lines : List Text}
    (h : streamLines? input = some lines) : (pieces input).map readLine? = lines.map some := by
  unfold streamLines? at h
  generalize pieces input = stream at h ⊢
  induction stream generalizing lines with
  | nil =>
    cases h
    rfl
  | cons piece rest ih =>
    rcases mapM_readLine?_cons_iff.1 h with ⟨line, more, hline, hmore, rfl⟩
    rw [List.map_cons, List.map_cons, hline, ih hmore]

/-- Texts that hold the same lines come to the same page or to the same failure. -/
theorem typesetOnto_of_hasLines (t : Typesetter) {text other : Text} {lines : List Text}
    (hlines : ∀ line ∈ lines, IsLine line) (h : HasLines text lines) (hother : HasLines other lines)
    (output : Text) :
    t.typesetOnto (Text.utf8 text) output = t.typesetOnto (Text.utf8 other) output := by
  have hread : (pieces (Text.utf8 text)).map readLine? =
      (pieces (Text.utf8 other)).map readLine? := by
    rw [map_readLine?_of_streamLines? (streamLines?_of_hasLines h hlines),
      map_readLine?_of_streamLines? (streamLines?_of_hasLines hother hlines)]
  rw [typesetOnto_eq, typesetOnto_eq, typeset, typeset, feedPieces_congr hread]

/-- Line breaks do not matter.  In whatever state a document is, a text comes to the same page, or
to the same failure with the same number, with carriage returns before all of its line feeds and
without the line feed behind a last line that is not empty, unless one of its lines ends in a
carriage return itself. -/
theorem typesetOnto_lineBreaks (t : Typesetter) {text : Text}
    (hreturn : ∀ line ∈ text.lines, line.getLast? ≠ some '\r') (output : Text) :
    t.typesetOnto (Text.utf8 text.withReturns) output = t.typesetOnto (Text.utf8 text) output ∧
      (text.getLast? = some '\n' → text.lines.getLast? ≠ some [] →
        t.typesetOnto (Text.utf8 text.dropLast) output =
          t.typesetOnto (Text.utf8 text) output) := by
  have hlines : ∀ line ∈ text.lines, IsLine line := fun line hline =>
    ⟨Text.not_mem_of_mem_splitOn (mem_of_mem_dropEmptyLast hline), hreturn line hline⟩
  have hwhole := hasLines_lines text
  refine ⟨t.typesetOnto_of_hasLines hlines (hasLines_withReturns text) hwhole output, ?_⟩
  intro hend hlast
  refine t.typesetOnto_of_hasLines hlines ?_ hwhole output
  -- Without the line feed at its end the text still holds all of its lines.
  obtain ⟨body, rfl⟩ := List.getLast?_eq_some_iff.1 hend
  rw [List.dropLast_concat, Text.lines_append_lineFeed hlast]
  exact hasLines_lines body

/-- Prose, a directive, and a line that is taken as it is. -/
theorem typesetOnto_lineBreaks_mixed :
    let t := prepared { width := 6 } Plugin.catalog []
    let page := "ab    \n\n x \n".toList
    t.typesetOnto (Text.utf8 "ab\r\n@set pre on\r\n\r\n x \r\n".toList) [] = (.ok (), page) ∧
      t.typesetOnto (Text.utf8 "ab\n@set pre on\n\n x ".toList) [] = (.ok (), page) := by
  intro t page
  let text : Text := "ab\n@set pre on\n\n x \n".toList
  have hset : (t.typeset (Text.utf8 text)).toOption = some page := by
    decide +kernel
  have hpage : t.typesetOnto (Text.utf8 text) [] = (.ok (), page) := by
    rw [typesetOnto_eq, toOption_eq_some_iff.1 hset]
    rfl
  have hreturn : ∀ line ∈ text.lines, line.getLast? ≠ some '\r' := by
    decide
  rcases typesetOnto_lineBreaks t hreturn [] with ⟨hreturns, hdropped⟩
  exact ⟨hreturns.trans hpage, (hdropped rfl (by decide)).trans hpage⟩

end Typesetter

end PlainPage
