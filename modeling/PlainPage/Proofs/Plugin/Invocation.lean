import PlainPage.Proofs.Plugin.History
import PlainPage.Proofs.Text.Case

/-!
# Which names a line can call

The text of a directive is lowered before its words are looked up.  A name without upper
case letters is therefore found again, with one exception: title case letters are not upper
case, so the check lets them pass, and lowering changes them all the same.

Main results:

- Theorem `Typesetter.Reachable.named` says that every command and every filter has a
  name that the check lets pass.
- Theorems `Directive.ofLine?_command_iff` and `Directive.ofLine?_filter_iff` say which
  such names a line can call.
- Theorem `Typesetter.ofLine?_registered` says which of the commands and filters of a
  document its lines can call.
-/

namespace PlainPage

/-! ## Names that pass the check -/

namespace Typesetter

/-- The commands and filters of a document have names that pass the check. -/
structure Named (t : Typesetter) : Prop where
  commands : ∀ name command, t.repertoire.commands.get? name = some command →
    Repertoire.Enterable name
  filters : ∀ name filter, t.repertoire.filters.get? name = some filter →
    Repertoire.Enterable name

/-- The names of a new document are enterable. -/
theorem named_ofConfig (c : Config) : (ofConfig c).Named := by
  have hcommands : ∀ row ∈ Command.standard.rows, Repertoire.nameFault? row.1 = none := by
    decide +kernel
  have hfilters : ∀ row ∈ Filter.standard.rows, Repertoire.nameFault? row.1 = none := by
    decide +kernel
  refine ⟨?_, ?_⟩
  · intro name command hget
    exact Repertoire.nameFault?_eq_none_iff.1 (hcommands _ (Table.mem_of_find? hget))
  · intro name filter hget
    exact Repertoire.nameFault?_eq_none_iff.1 (hfilters _ (Table.mem_of_find? hget))

/-- A step brings in only names that pass the check. -/
theorem Named.take {t : Typesetter} (h : t.Named) (step : Step) : (t.take step).2.Named := by
  have hacquires := t.acquires_take step
  generalize t.loads? step = found, (t.take step).2 = u at hacquires ⊢
  cases found with
  | none =>
    cases hacquires with
    | nothing hsame =>
      refine ⟨?_, ?_⟩
      · rw [hsame]
        exact h.commands
      · rw [hsame]
        exact h.filters
  | some p =>
    rcases hacquires.gains with ⟨hadmits, v, hsettles, hgains⟩
    refine ⟨?_, ?_⟩
    · intro name command hget
      rcases (hgains.commands name command).1 hget with hold | hnew
      · rw [hsettles.repertoire_eq] at hold
        exact h.commands name command hold
      · exact (hadmits.commands.2 name (List.mem_map.2 ⟨_, hnew, rfl⟩)).1
    · intro name filter hget
      rcases (hgains.filters name filter).1 hget with hold | hnew
      · rw [hsettles.repertoire_eq] at hold
        exact h.filters name filter hold
      · exact (hadmits.filters.2 name (List.mem_map.2 ⟨_, hnew, rfl⟩)).1

/-- The commands and filters of every document have names that pass the check. -/
theorem Reachable.named {t : Typesetter} (h : Reachable t) : t.Named := by
  induction h with
  | start config => exact named_ofConfig config
  | offer _ catalog ih => exact ⟨ih.commands, ih.filters⟩
  | step _ step ih => exact ih.take step

end Typesetter

/-! ## Reading a name back -/

/-- The characters of a word stand in the text. -/
theorem Text.mem_of_mem_words {t word : Text} {c : Char} (hword : word ∈ words t)
    (hc : c ∈ word) : c ∈ t :=
  (mem_of_mem_splitOnP (List.mem_filter.1 hword).1 hc).1

namespace Directive

/-- The name that a directive calls. -/
def subject? : Directive → Option Text
  | openBlock filter _ => some filter
  | closeBlock filter => filter
  | set name _ => some name
  | unset name => some name
  | enable plugin => some plugin
  | run command _ => some command

/-- The word that is taken is the first of the line. -/
theorem eq_cons_of_takeWord {directive expected : String} {words rest : List Text} {word : Text}
    (h : takeWord directive expected words = .ok (word, rest)) : words = word :: rest := by
  cases words with
  | nil => cases h
  | cons first more =>
    cases h
    rfl

/-- A directive calls one of the words that it is read from. -/
theorem mem_of_ofWords {words : List Text} {directive : Directive} {name : Text}
    (h : ofWords words = .ok directive) (hname : directive.subject? = some name) :
    name ∈ words := by
  unfold ofWords at h
  split at h
  · cases h
  · rename_i head words
    split at h
    · rcases bind_eq_ok_iff.1 h with ⟨⟨filter, args⟩, hword, h⟩
      cases h
      cases hname
      simp [eq_cons_of_takeWord hword]
    · split at h
      · cases h
        exact List.mem_cons_of_mem _ (List.mem_of_mem_head? hname)
      · split at h
        · rcases bind_eq_ok_iff.1 h with ⟨⟨setting, values⟩, hword, h⟩
          rcases bind_eq_ok_iff.1 h with ⟨⟨first, rest⟩, -, h⟩
          cases h
          cases hname
          simp [eq_cons_of_takeWord hword]
        · split at h
          · rcases bind_eq_ok_iff.1 h with ⟨⟨setting, rest⟩, hword, h⟩
            cases h
            cases hname
            simp [eq_cons_of_takeWord hword]
          · split at h
            · rcases bind_eq_ok_iff.1 h with ⟨⟨id, rest⟩, hword, h⟩
              cases h
              cases hname
              simp [eq_cons_of_takeWord hword]
            · cases h
              cases hname
              exact List.mem_cons_self ..

/-- A word that is not reserved calls a command. -/
theorem ofWords_of_not_reserved {head : Text} (h : head ∉ reservedWords) (words : List Text) :
    ofWords (head :: words) = .ok (run head words) := by
  simp only [reservedWords, List.mem_append, List.mem_cons, List.not_mem_nil, or_false,
    not_or] at h
  rcases h with ⟨⟨hopen, hclose⟩, hset, hunset, hplugin⟩
  unfold ofWords
  dsimp only
  rw [if_neg hopen, if_neg hclose, if_neg hset, if_neg hunset, if_neg hplugin]

/-- The line of an `@` before some text without line breaks. -/
theorem ofLine?_cons {body : Text} (h : '\n' ∉ body) :
    ofLine? ('@' :: body) = some (ofBody body) := by
  have hdrop : ('@' :: body).dropWhile isWhite = '@' :: body := by
    have hat : isWhite '@' = false := by decide
    simp [hat]
  simp [ofLine?, afterMarker?, hdrop, h]

/-- The name that a line calls has no title case letter. -/
theorem not_titlecase_of_ofBody {body name : Text} {directive : Directive}
    (h : ofBody body = .ok directive) (hname : directive.subject? = some name) :
    name.any isTitlecase = false := by
  rw [List.any_eq_false]
  intro c hc
  have hmem := Text.mem_of_mem_words (mem_of_ofWords h hname) hc
  simp [Text.not_titlecase_of_mem_lower hmem]

end Directive

namespace Repertoire.Enterable

variable {name : Text}

/-- An enterable name is a word. -/
theorem isWord (h : Enterable name) : Text.IsWord name :=
  ⟨h.not_empty, h.not_white⟩

/-- An enterable name has no line break in it. -/
theorem not_mem_lineBreak (h : Enterable name) : '\n' ∉ name := by
  intro hmem
  have hwhite : isWhite '\n' = true := by decide
  rw [h.not_white _ hmem] at hwhite
  cases hwhite

/-- A name that passes the check is called as a command by the line that consists of it,
unless it has a title case letter. -/
theorem ofLine?_command_iff (h : Enterable name) :
    Directive.ofLine? ('@' :: name) = some (.ok (.run name [])) ↔
      name.any isTitlecase = false := by
  rw [Directive.ofLine?_cons h.not_mem_lineBreak, Option.some.injEq]
  constructor
  · intro hread
    exact Directive.not_titlecase_of_ofBody hread rfl
  · intro htitlecase
    have hlower := (Text.lower_eq_self_iff h.not_uppercase).2 htitlecase
    have hwords : Text.words (List.intercalate [' '] [name]) = [name] :=
      Text.words_intercalate (by simpa using h.isWord)
    rw [List.intercalate_singleton] at hwords
    rw [Directive.ofBody, hlower, hwords]
    exact Directive.ofWords_of_not_reserved h.not_reserved []

/-- A name that passes the check is called as a filter by the line that begins a block under
it, unless it has a title case letter. -/
theorem ofLine?_filter_iff (h : Enterable name) :
    Directive.ofLine? ("@begin ".toList ++ name) = some (.ok (.openBlock name [])) ↔
      name.any isTitlecase = false := by
  have huppercase : ∀ c ∈ "begin ".toList ++ name, isUppercase c = false := by
    have hbegin : ("begin ".toList.any isUppercase) = false := by decide
    rw [List.any_eq_false] at hbegin
    intro c hc
    rcases List.mem_append.1 hc with hword | hname
    · simpa using hbegin c hword
    · exact h.not_uppercase c hname
  have hfree : '\n' ∉ "begin ".toList ++ name := by
    rw [List.mem_append, not_or]
    exact ⟨by decide, h.not_mem_lineBreak⟩
  have hline : "@begin ".toList ++ name = '@' :: ("begin ".toList ++ name) := rfl
  rw [hline, Directive.ofLine?_cons hfree, Option.some.injEq]
  constructor
  · intro hread
    exact Directive.not_titlecase_of_ofBody hread rfl
  · intro htitlecase
    have hlower : Text.lower ("begin ".toList ++ name) = "begin ".toList ++ name := by
      have hbegin : ("begin ".toList.any isTitlecase) = false := by decide
      rw [Text.lower_eq_self_iff huppercase, List.any_append, hbegin, htitlecase]
      rfl
    have hbegin : "begin".toList ∈ Text.words "begin".toList := by decide
    have hword := Text.isWord_of_mem_words hbegin
    have hwords : Text.words (List.intercalate [' '] ["begin".toList, name]) =
        ["begin".toList, name] :=
      Text.words_intercalate (by simpa using ⟨hword, h.isWord⟩)
    have hjoin : List.intercalate [' '] ["begin".toList, name] = "begin ".toList ++ name := by
      rw [List.intercalate_cons_cons, List.intercalate_singleton]
      rfl
    rw [hjoin] at hwords
    rw [Directive.ofBody, hlower, hwords]
    rfl

end Repertoire.Enterable

/-! ## The names that lines of a document can call -/

namespace Typesetter

/-- A command or a filter of a document can be called by a line that gives its name, unless
the name has a title case letter: then no such line is read as a call of it. -/
theorem ofLine?_registered {t : Typesetter} (ht : Reachable t) :
    (∀ name command, t.repertoire.commands.get? name = some command →
      (Directive.ofLine? ('@' :: name) = some (.ok (.run name [])) ↔
        name.any isTitlecase = false)) ∧
    (∀ name filter, t.repertoire.filters.get? name = some filter →
      (Directive.ofLine? ("@begin ".toList ++ name) = some (.ok (.openBlock name [])) ↔
        name.any isTitlecase = false)) := by
  constructor
  · intro name command hget
    exact (ht.named.commands name command hget).ofLine?_command_iff
  · intro name filter hget
    exact (ht.named.filters name filter hget).ofLine?_filter_iff

/-- The command and a filter of the demonstration plugin can be called. -/
theorem ofLine?_registered_demo :
    Directive.ofLine? ('@' :: horizontalLineName) = some (.ok (.run horizontalLineName [])) ∧
    Directive.ofLine? ("@begin ".toList ++ underlineAllName) =
      some (.ok (.openBlock underlineAllName [])) := by
  have ht : Reachable (({} : Typesetter).load .demo).2 := reachable_default.step (.load .demo)
  constructor
  · exact ((ofLine?_registered ht).1 horizontalLineName Command.horizontalLine rfl).2 (by decide)
  · exact ((ofLine?_registered ht).2 underlineAllName Filter.underlineAll rfl).2 (by decide)

/-- A plugin may bring a command with a title case letter for its name.  The line that gives
the name is read as a call of another one, and refused. -/
theorem not_ofLine?_registered :
    let titled : Plugin := {
      id := "titled".toList
      version := { major := 1 }
      commands := [("ǅ".toList, Command.verticalSpace)] }
    let t := (({} : Typesetter).load titled).2
    Reachable t ∧ t.repertoire.commands.contains "ǅ".toList = true ∧
      Directive.ofLine? "@ǅ".toList = some (.ok (.run "ǆ".toList [])) ∧
      (t.feed "@ǅ".toList).1 = .error (.unknownCommand "ǆ".toList) :=
  ⟨reachable_default.step (.load _), by decide +kernel, rfl, rfl⟩

end Typesetter

end PlainPage
