import PlainPage.Proofs.Settings.Extension
import PlainPage.Proofs.Typesetter.Lines

/-!
# Lines taken as they are

From the line that switches `pre` on, a document writes every line that is no directive into
the innermost block as it is: comments, blank lines, white space and stars.  Nothing is wrapped,
padded or raised, so a text that follows is the page.

Main results:

- Theorem `Settings.set_pre_eq` says that `pre` can always be switched on.
- Theorem `Typesetter.feedAll_of_pre` says that lines are then written as they are.
- Theorem `Typesetter.exists_feedAll_verbatim` says the same of the line that switches `pre` on
  and those after it, in any state of a document.
- Theorem `Typesetter.typesetOnto_verbatim` says that the text after that line is the page.
-/

namespace PlainPage

/-- In every document `pre` can be switched on. -/
theorem Settings.set_pre_eq {s : Settings} (h : s.WellFormed) :
    ∃ t, s.set preName "on".toList = .ok t ∧ t.pre = true := by
  rcases h.standard (preName, .switch) (by simp [standardKinds]) with ⟨setting, hget, hkind⟩
  have hparse : setting.kind.parse? "on".toList = some (.switch true) := by
    rw [hkind]
    rfl
  have happly : s.apply (.set preName "on".toList) = .ok (s.push preName (.switch true)) :=
    apply_eq_ok_iff.2 (.set hget hparse rfl)
  exact ⟨_, happly, by simp [pre, current?, hget, Value.switch?]⟩

namespace Typesetter

/-- The line that switches `pre` on. -/
def preLine : Text := "@set pre on".toList

theorem ofLine?_preLine :
    Directive.ofLine? preLine = some (.ok (.set Settings.preName "on".toList)) := rfl

/-- While `pre` is on, lines that are no directives are written as they are. -/
theorem feedAll_of_pre {t : Typesetter} {lines : List Text} (hpre : t.settings.pre = true)
    (h : ∀ line ∈ lines, Directive.ofLine? line = none) :
    t.feedAll lines = (.ok (), t.write lines) := by
  induction lines generalizing t with
  | nil => simp [feedAll, write]
  | cons line rest ih =>
    rw [List.forall_mem_cons] at h
    have hrest : (t.write [line]).feedAll rest = (.ok (), (t.write [line]).write rest) :=
      ih hpre h.2
    rw [feedAll, feed_of_pre h.1 hpre]
    dsimp only
    rw [hrest]
    simp [write]

/-- In every state of a document, the line that switches `pre` on ends the paragraph, and lines
after it that are no directives are written as they are. -/
theorem exists_feedAll_verbatim {t : Typesetter} (h : Reachable t) {lines : List Text}
    (hplain : ∀ line ∈ lines, Directive.ofLine? line = none) :
    ∃ u, t.feedAll (preLine :: lines) = (.ok (), u) ∧ u.settings.pre = true ∧
      u.paragraph = none ∧ u.blocks = t.flush.blocks.feed lines := by
  rcases Settings.set_pre_eq h.wellFormed with ⟨s, hset, hpre⟩
  have hfirst : t.feed preLine = (.ok (), { t.flush with settings := s }) := by
    rw [feed_of_directive ofLine?_preLine]
    change t.flush.withSettings (t.settings.set Settings.preName "on".toList) = _
    rw [hset]
    rfl
  refine ⟨_, feedAll_cons_eq_ok_iff.2 ⟨_, hfirst, feedAll_of_pre hpre hplain⟩, hpre, rfl, rfl⟩

/-- However a document is configured and whatever plugins it starts with, a text that ends with
a line break is written as it is after the line that switches `pre` on, unless one of its lines
is a directive or ends in a carriage return. -/
theorem typesetOnto_verbatim (c : Config) (catalog : Table Plugin) (ids : List Text) {t : Text}
    (hend : t.getLast? = some '\n')
    (hplain : ∀ line ∈ t.splitOn '\n', (line.dropWhile isWhite).head? ≠ some '@')
    (hreturn : ∀ line ∈ t.splitOn '\n', line.getLast? ≠ some '\r') (output : Text) :
    (prepared c catalog ids).typesetOnto (Text.utf8 ("@set pre on\n".toList ++ t)) output =
      (.ok (), output ++ t) := by
  rcases exists_lines_of_getLast? hend with ⟨lines, hne, hpage, hsplit⟩
  have hmem : ∀ line ∈ lines, line ∈ t.splitOn '\n' := by
    intro line hline
    rw [hsplit]
    exact List.mem_append_left _ hline
  have hlines : ∀ line ∈ preLine :: lines, IsLine line := by
    rw [List.forall_mem_cons]
    refine ⟨⟨by decide, by decide⟩, fun line hline => ?_⟩
    exact ⟨Text.not_mem_of_mem_splitOn (hmem line hline), hreturn line (hmem line hline)⟩
  have hinput : "@set pre on\n".toList ++ t = pageText (preLine :: lines) := by
    rw [pageText_cons preLine hne, ← hpage]
    rfl
  rcases exists_feedAll_verbatim (reachable_prepared c catalog ids)
    (fun line hline => Directive.ofLine?_of_head? (hplain line (hmem line hline)))
    with ⟨u, hfeed, -, hparagraph, hblocks⟩
  have hstream := streamLines?_pageText (List.cons_ne_nil preLine lines) hlines
  have hread : (prepared c catalog ids).readOn 0 (Text.utf8 (pageText (preLine :: lines))) = .ok u :=
    readOn_eq_ok_iff.2 ⟨_, hstream, hfeed⟩
  -- Nothing waits to be wrapped when the document ends, and only the page is open.
  have hfinish : u.finish = .ok lines := by
    rw [finish, flush_of_none hparagraph, hblocks,
      flush_of_none (paragraph_prepared c catalog ids), blocks_prepared]
    rfl
  rw [hinput]
  refine typesetOnto_eq_ok_iff.2 ⟨u, t, hread, ?_, rfl⟩
  rw [render, hfinish, hpage]
  rfl

/-- White space, a comment and stars, with a blank line at either end. -/
theorem typesetOnto_verbatim_marked :
    let t := "\n# note\n  **a**\t b \r \n\n".toList
    (prepared { width := 5, align := .right } Plugin.catalog [demoId]).typesetOnto
      (Text.utf8 ("@set pre on\n".toList ++ t)) [] = (.ok (), t) :=
  typesetOnto_verbatim _ _ _ (by decide) (by decide) (by decide) []

end Typesetter

end PlainPage
