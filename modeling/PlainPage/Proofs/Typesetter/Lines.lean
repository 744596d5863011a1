import PlainPage.Proofs.Typesetter.Reading

/-!
# The lines of a text

The lines that a text holds are read back from its bytes one by one, whether their line breaks
have carriage returns or not.  What a line holds does not matter for this, as long as it has no
line break within it and does not end in a carriage return, which would be taken for a part of the
line break behind it.  A text that ends with a line break is the page of its lines.

Main results:

- Definition `HasLines` says which lines a text holds, however they are ended, and `IsLine` says
  which texts can be its lines.
- Theorem `streamLines?_of_hasLines` says that the lines of a text are read back from its bytes,
  and `streamLines?_pageText` says so of a page.
- Theorem `exists_lines_of_getLast?` says that every text with a line break at its end is a page.
- Theorem `Typesetter.exists_feedAll_of_plain` says that lines without directives are accepted.
-/

namespace PlainPage

/-! ## The bytes of a line -/

/-- Only a line break is written with the byte of a line feed. -/
theorem eq_of_lineFeed_mem {c : Char} (h : lineFeed ∈ String.utf8EncodeChar c) : c = '\n' := by
  have hcode : ∀ n : Nat, lineFeed = UInt8.ofNat n → n % 256 = 10 := by
    intro n hn
    simpa [lineFeed] using (congrArg UInt8.toNat hn).symm
  unfold String.utf8EncodeChar at h
  dsimp only at h
  -- The bytes of the longer encodings all have their highest bit set.
  split at h
  · have hpoint := hcode _ (List.mem_singleton.1 h)
    refine Char.ext (UInt32.toNat_inj.1 ?_)
    change c.val.toNat = 10
    omega
  · split at h
    · simp only [List.mem_cons, List.not_mem_nil, or_false] at h
      rcases h with h | h <;> have := hcode _ h <;> omega
    · split at h
      · simp only [List.mem_cons, List.not_mem_nil, or_false] at h
        rcases h with h | h | h <;> have := hcode _ h <;> omega
      · simp only [List.mem_cons, List.not_mem_nil, or_false] at h
        rcases h with h | h | h | h <;> have := hcode _ h <;> omega

/-- Only a line break is encoded with a line feed. -/
theorem lineFeed_not_mem_utf8 {line : Text} (h : '\n' ∉ line) : lineFeed ∉ Text.utf8 line := by
  intro hmem
  rcases List.mem_flatMap.1 hmem with ⟨c, hc, hbyte⟩
  exact h (eq_of_lineFeed_mem hbyte ▸ hc)

theorem utf8_lineBreak : Text.utf8 ['\n'] = [lineFeed] := by
  decide

theorem utf8_ne_nil {t : Text} (h : t ≠ []) : Text.utf8 t ≠ [] := by
  intro hnone
  have hread := Text.ofUtf8?_utf8 t
  rw [hnone] at hread
  exact h (Option.some.inj (hread.symm.trans (Text.ofUtf8?_utf8 [])))

/-- Bytes without a line feed are one piece. -/
theorem pieces_of_open {bytes : Bytes} (hne : bytes ≠ []) (h : lineFeed ∉ bytes) :
    pieces bytes = [bytes] := by
  induction bytes with
  | nil => exact absurd rfl hne
  | cons b rest ih =>
    rw [List.mem_cons, not_or] at h
    rw [pieces, if_neg (Ne.symm h.1)]
    cases rest with
    | nil => rfl
    | cons next more => rw [ih (by simp) h.2]

/-- Bytes without a line feed are cut off together with the line feed behind them. -/
theorem pieces_append_of_not_mem {bytes : Bytes} (h : lineFeed ∉ bytes) (rest : Bytes) :
    pieces (bytes ++ lineFeed :: rest) = (bytes ++ [lineFeed]) :: pieces rest := by
  induction bytes with
  | nil => simp [pieces]
  | cons b more ih =>
    rw [List.mem_cons, not_or] at h
    rw [List.cons_append, pieces, if_neg (Ne.symm h.1), ih h.2]
    rfl

/-! ## Lines and their ends -/

/-- Whether a text is a line as it is read: without a line break, and without a carriage return
at its end. -/
structure IsLine (line : Text) : Prop where
  unbroken : '\n' ∉ line
  last : line.getLast? ≠ some '\r'

/-- The ways to end a line. -/
inductive LineBreak : Text → Prop where
  | lineFeed : LineBreak ['\n']
  | returned : LineBreak ['\r', '\n']

/-- Whether a text holds the given lines.  Behind every line stands a line break, one way or the
other; only the last line may lack it, if it is not empty. -/
inductive HasLines : Text → List Text → Prop where
  | nil : HasLines [] []
  | last {line : Text} (hne : line ≠ []) : HasLines line [line]
  | cons {line ending rest : Text} {lines : List Text} (hending : LineBreak ending)
      (h : HasLines rest lines) : HasLines (line ++ ending ++ rest) (line :: lines)

/-- A line is cut off the bytes of a text behind its line break. -/
theorem pieces_utf8_line {line ending : Text} (hline : '\n' ∉ line) (h : LineBreak ending)
    (rest : Bytes) :
    pieces (Text.utf8 (line ++ ending) ++ rest) = Text.utf8 (line ++ ending) :: pieces rest := by
  have hcut : ∀ body : Text, '\n' ∉ body →
      pieces (Text.utf8 (body ++ ['\n']) ++ rest) = Text.utf8 (body ++ ['\n']) :: pieces rest := by
    intro body hbody
    rw [Text.utf8_append, utf8_lineBreak, List.append_assoc, List.singleton_append]
    exact pieces_append_of_not_mem (lineFeed_not_mem_utf8 hbody) rest
  cases h with
  | lineFeed => exact hcut line hline
  | returned =>
    -- The carriage return is cut off like a part of the line.
    have hreturned := hcut (line ++ ['\r']) (by simpa using hline)
    rwa [List.append_assoc] at hreturned

/-- A line is read back without its line break, whatever else it holds. -/
theorem readLine?_utf8_line {line ending : Text} (hline : line.getLast? ≠ some '\r')
    (h : LineBreak ending) : readLine? (Text.utf8 (line ++ ending)) = some line := by
  rw [readLine?, Text.ofUtf8?_utf8, Option.map_some, dropTerminator, dropFinal, dropFinal]
  cases h with
  | lineFeed => simp [hline]
  | returned => simp

/-- A line is read back when nothing ends it. -/
theorem readLine?_utf8_last {line : Text} (h : IsLine line) :
    readLine? (Text.utf8 line) = some line := by
  have hbreak : line.getLast? ≠ some '\n' := fun hlast => h.unbroken (List.mem_of_getLast? hlast)
  rw [readLine?, Text.ofUtf8?_utf8, Option.map_some, dropTerminator, dropFinal, dropFinal,
    if_neg hbreak, if_neg h.last]

/-- The lines that a text holds are read back from its bytes. -/
theorem streamLines?_of_hasLines {t : Text} {lines : List Text} (h : HasLines t lines)
    (hlines : ∀ line ∈ lines, IsLine line) : streamLines? (Text.utf8 t) = some lines := by
  induction h with
  | nil => rfl
  | @last line hne =>
    have hline := hlines line (by simp)
    rw [streamLines?, pieces_of_open (utf8_ne_nil hne) (lineFeed_not_mem_utf8 hline.unbroken)]
    exact mapM_readLine?_cons_iff.2 ⟨line, [], readLine?_utf8_last hline, rfl, rfl⟩
  | @cons line ending rest lines hending _ ih =>
    rw [List.forall_mem_cons] at hlines
    have hline := readLine?_utf8_line hlines.1.last hending
    rw [Text.utf8_append, streamLines?, pieces_utf8_line hlines.1.unbroken hending]
    exact mapM_readLine?_cons_iff.2 ⟨line, lines, hline, ih hlines.2, rfl⟩

/-! ## The lines of a page -/

/-- Each line but the last is followed by a line break. -/
theorem pageText_cons (line : Text) {rest : List Text} (h : rest ≠ []) :
    Typesetter.pageText (line :: rest) = line ++ ['\n'] ++ Typesetter.pageText rest := by
  rw [Typesetter.pageText, List.intercalate_cons_of_ne_nil h, Typesetter.pageText]
  exact List.append_assoc ..

/-- The text of a page is read back as its lines. -/
theorem hasLines_pageText {lines : List Text} (hne : lines ≠ []) :
    HasLines (Typesetter.pageText lines) lines := by
  induction lines with
  | nil => exact absurd rfl hne
  | cons line rest ih =>
    cases rest with
    | nil =>
      have hline : HasLines (line ++ ['\n'] ++ []) [line] := .cons .lineFeed .nil
      have hpage : Typesetter.pageText [line] = line ++ ['\n'] := by
        rw [Typesetter.pageText, List.intercalate_singleton]
      rwa [hpage, ← List.append_nil (line ++ ['\n'])]
    | cons next more =>
      rw [pageText_cons line (by simp)]
      exact .cons .lineFeed (ih (by simp))

/-- The lines of a page are read back from its bytes. -/
theorem streamLines?_pageText {lines : List Text} (hne : lines ≠ [])
    (h : ∀ line ∈ lines, IsLine line) :
    streamLines? (Text.utf8 (Typesetter.pageText lines)) = some lines :=
  streamLines?_of_hasLines (hasLines_pageText hne) h

/-- The lines of a page stand between its line breaks. -/
theorem splitOn_pageText {lines : List Text} (hne : lines ≠ []) (h : ∀ line ∈ lines, '\n' ∉ line) :
    List.splitOn '\n' (Typesetter.pageText lines) = lines ++ [[]] := by
  rw [Typesetter.pageText, List.splitOn_append_cons_self, List.splitOn_intercalate _ h hne]
  rfl

/-- A text with a line break at its end is the page of its lines. -/
theorem exists_lines_of_getLast? {t : Text} (h : t.getLast? = some '\n') :
    ∃ lines, lines ≠ [] ∧ t = Typesetter.pageText lines ∧
      t.splitOn '\n' = lines ++ [[]] := by
  rcases List.getLast?_eq_some_iff.1 h with ⟨body, rfl⟩
  refine ⟨body.splitOn '\n', List.splitOn_ne_nil _ body, ?_,
    List.splitOn_append_cons_self body []⟩
  rw [Typesetter.pageText, List.intercalate_splitOn]

/-! ## Documents without directives -/

/-- A line is no directive when its first visible character is not the mark of one. -/
theorem Directive.ofLine?_of_head? {line : Text} (h : (line.dropWhile isWhite).head? ≠ some '@') :
    Directive.ofLine? line = none := by
  rw [Directive.ofLine?, Option.map_eq_none_iff, afterMarker?]
  split
  · rename_i body hbody
    exact absurd (by rw [hbody]; rfl) h
  · rfl

namespace Typesetter

/-- A line without a directive never fails. -/
theorem feed_of_plain {t : Typesetter} {line : Text} (h : Directive.ofLine? line = none) :
    t.feed line = (.ok (), t.feedPlain line) := by
  simp [feed, h]

theorem exists_feedAll_of_plain (t : Typesetter) {lines : List Text}
    (h : ∀ line ∈ lines, Directive.ofLine? line = none) :
    ∃ u, t.feedAll lines = (.ok (), u) := by
  induction lines generalizing t with
  | nil => exact ⟨t, rfl⟩
  | cons line rest ih =>
    rw [List.forall_mem_cons] at h
    rcases ih (t.feedPlain line) h.2 with ⟨u, hrest⟩
    exact ⟨u, feedAll_cons_eq_ok_iff.2 ⟨_, feed_of_plain h.1, hrest⟩⟩

end Typesetter

end PlainPage
