import PlainPage.Proofs.Settings.Extension

/-!
# Words, values and counts for a setting

A setting is written with the words of a document or with a value.  Words that are read do
what the value does that they are read as, and so does the text of that value.  The page
width can be written as a count, too.  A count that no integer holds is not read when it
comes as words, and is cut to the largest integer when it comes as a value; either way it is
refused, for that integer is too wide a page.

Main results:

- Theorem `Kind.parse?_toText` says that the text of a value that has been read is read as
  the same value again.
- Theorems `Settings.set_decimal_eq_ok_iff` and `MarkedSettings.write_width_eq_ok_iff` say
  which counts can be written as a page width, and what that leaves.
- Theorem `Session.set_agrees` says that the ways of writing a setting agree in every state
  that operations on the settings lead to.
-/

namespace PlainPage

/-! ## The text of a value -/

namespace Value

/-- The text of a switch is not a number. -/
theorem integer?_switchText (on : Bool) : PlainPage.integer? (switchText on) = none := by
  cases on <;> decide

/-- The text of a value that words are taken for is taken for the same value. -/
theorem infer_toText (t : Text) : infer (infer t).toText = infer t := by
  cases hinteger : PlainPage.integer? t with
  | some n =>
    have hread : infer t = integer n := by simp [infer, hinteger]
    have hagain := integer?_integerText_of_integer? hinteger
    rw [hread]
    simp [toText, infer, hagain]
  | none =>
    cases hswitch : PlainPage.switch? t with
    | some on =>
      have hread : infer t = switch on := by simp [infer, hinteger, hswitch]
      rw [hread]
      simp [toText, infer, integer?_switchText]
    | none =>
      have hread : infer t = text t := by simp [infer, hinteger, hswitch]
      rw [hread]
      exact hread

end Value

/-- The text of a value that a kind has read is read as the same value again. -/
theorem Kind.parse?_toText {kind : Kind} {raw : Text} {value : Value}
    (h : kind.parse? raw = some value) : kind.parse? value.toText = some value := by
  cases kind with
  | integer =>
    rcases Option.map_eq_some_iff.1 h with ⟨n, hn, rfl⟩
    simp [parse?, Value.toText, integer?_integerText_of_integer? hn]
  | switch =>
    rcases Option.map_eq_some_iff.1 h with ⟨on, -, rfl⟩
    simp [parse?, Value.toText]
  | alignment =>
    rcases Option.map_eq_some_iff.1 h with ⟨a, -, rfl⟩
    simp [parse?, Value.toText]
  | inferred =>
    rw [parse?, Option.some.injEq] at h
    rw [parse?, ← h, Value.infer_toText]

/-! ## Words that are read -/

namespace Settings

/-- Words that are accepted push a value of the kind of the setting.  The text of the value
and the value itself push it just as well. -/
theorem exists_value_of_set {s t : Settings} {name raw : Text} (h : s.set name raw = .ok t) :
    ∃ setting value, s.entries.get? name = some setting ∧
      setting.kind.accepts value = true ∧ t = s.push name value ∧
      s.set name value.toText = .ok t ∧ s.assign name value = .ok t := by
  cases writes_of_set h with
  | @set _ _ setting value hget hparse hlimit =>
    have haccepts := Kind.accepts_of_parse? hparse
    have hset : s.apply (.set name value.toText) = .ok (s.push name value) :=
      apply_eq_ok_iff.2 (.set hget (Kind.parse?_toText hparse) hlimit)
    have hassign : s.apply (.assign name value) = .ok (s.push name value) :=
      apply_eq_ok_iff.2 (.assign hget haccepts hlimit)
    exact ⟨setting, value, hget, haccepts, rfl, hset, hassign⟩

/-! ## Counts as page widths -/

/-- The integers that are not too wide a page. -/
theorem limitWidth_eq_ok_iff {i : Int} :
    limitWidth widthName (.integer i) = .ok () ↔ i ≤ maxWidth := by
  rw [← Int.not_lt]
  by_cases hwide : (maxWidth : Int) < i
  · simp only [limitWidth, hwide, and_self, if_true, not_true, reduceCtorEq]
  · simp only [limitWidth, hwide, and_false, if_false, not_false_eq_true]

/-- The integers that can be pushed as a page width, and what that leaves. -/
theorem assign_width_eq_ok_iff {s t : Settings} (h : s.WellFormed) {i : Int} :
    s.assign widthName (.integer i) = .ok t ↔ i ≤ maxWidth ∧ t = s.push widthName (.integer i) := by
  rcases h.standard (widthName, .integer) (by simp [standardKinds]) with ⟨setting, hget, hkind⟩
  constructor
  · intro hassign
    cases writes_of_assign hassign with
    | assign _ _ hlimit => exact ⟨limitWidth_eq_ok_iff.1 hlimit, rfl⟩
  · rintro ⟨hi, rfl⟩
    have haccepts : setting.kind.accepts (.integer i) = true := by rw [hkind]; rfl
    exact assign_of_accepts hget haccepts (limitWidth_eq_ok_iff.2 hi)

/-- The counts that can be written in words as a page width, and what that leaves. -/
theorem set_decimal_eq_ok_iff {s t : Settings} (h : s.WellFormed) {n : Nat} :
    s.set widthName (decimal n) = .ok t ↔ n ≤ maxWidth ∧ t = s.push widthName (.integer n) := by
  have hsmall : maxWidth ≤ maxInteger := by decide
  rcases h.standard (widthName, .integer) (by simp [standardKinds]) with ⟨setting, hget, hkind⟩
  have hparse : setting.kind.parse? (decimal n) =
      if n ≤ maxInteger then some (.integer n) else none := by
    rw [hkind, Kind.parse?, integer?_decimal]
    split <;> rfl
  constructor
  · intro hset
    cases writes_of_set hset with
    | set hfound hread hlimit =>
      rw [hget] at hfound
      cases hfound
      rw [hparse] at hread
      split at hread
      · cases hread
        have hn := limitWidth_eq_ok_iff.1 hlimit
        exact ⟨by omega, rfl⟩
      · cases hread
  · rintro ⟨hn, rfl⟩
    rw [if_pos (Nat.le_trans hn hsmall)] at hparse
    have hlimit := limitWidth_eq_ok_iff.2 (Int.ofNat_le.2 hn)
    have happly : s.apply (.set widthName (decimal n)) = .ok (s.push widthName (.integer n)) :=
      apply_eq_ok_iff.2 (.set hget hparse hlimit)
    exact happly

end Settings

namespace MarkedSettings

/-- The counts that can be pushed as a page width, and what that leaves. -/
theorem write_width_eq_ok_iff {m after : MarkedSettings} (h : m.settings.WellFormed) {n : Nat} :
    m.write (.width n) = .ok after ↔ n ≤ maxWidth ∧
      after = ⟨m.settings.push Settings.widthName (.integer n),
        m.marks.note Settings.widthName (m.settings.depth Settings.widthName)⟩ := by
  have hsmall : maxWidth < maxInteger := by decide
  -- Cutting a count to the largest integer makes no difference to those that are allowed.
  have hcut : ((min n maxInteger : Nat) : Int) ≤ maxWidth ↔ n ≤ maxWidth := by omega
  have hsame : n ≤ maxWidth → min n maxInteger = n := by omega
  constructor
  · intro hwrite
    rcases bind_eq_ok_iff.1 hwrite with ⟨settings, hassign, hdone⟩
    cases hdone
    rcases (Settings.assign_width_eq_ok_iff h).1 hassign with ⟨hle, rfl⟩
    have hn := hcut.1 hle
    rw [hsame hn]
    exact ⟨hn, rfl⟩
  · rintro ⟨hn, rfl⟩
    refine bind_eq_ok_iff.2 ⟨_, (Settings.assign_width_eq_ok_iff h).2 ⟨hcut.2 hn, rfl⟩, ?_⟩
    rw [hsame hn]
    rfl

end MarkedSettings

/-! ## Every state of the settings -/

namespace Session

/-- Operations keep settings well formed that a document starts with. -/
theorem wellFormed_run {start : Settings}
    (hstart : start = .standard ∨ ∃ c : Config, start = c.settings)
    (operations : List Operation) : (run { settings := start } operations).settings.WellFormed := by
  have hwell : start.WellFormed := by
    rcases hstart with rfl | ⟨c, rfl⟩
    · exact Settings.wellFormed_start ..
    · exact Settings.wellFormed_start ..
  have hsound : Sound { settings := start } := by
    refine ⟨hwell, fun marks hmarks => ?_⟩
    rw [List.mem_singleton.1 hmarks]
    exact Marks.fit_empty start
  exact (hsound.run operations).wellFormed

/-- The ways of writing a setting agree.  Words that are accepted in any settings push a value
of the kind of the setting, and the text of that value and the value itself push the same.
After any operations on the settings that a document starts with, a count can be pushed as
the page width exactly when its digits can, both make it the page width, and they leave the
same settings. -/
theorem set_agrees {start : Settings}
    (hstart : start = .standard ∨ ∃ c : Config, start = c.settings) :
    (∀ (s : Settings) (name raw : Text) (t : Settings), s.set name raw = .ok t →
      ∃ setting value, s.entries.get? name = some setting ∧
        setting.kind.accepts value = true ∧ t = s.push name value ∧
        s.set name value.toText = .ok t ∧ s.assign name value = .ok t) ∧
    ∀ (operations : List Operation) (marks : Marks) (n : Nat),
      let s := (run { settings := start } operations).settings
      ((∃ after, MarkedSettings.write { settings := s, marks } (.width n) = .ok after) ↔
        n ≤ maxWidth) ∧
      ((∃ t, s.set Settings.widthName (decimal n) = .ok t) ↔ n ≤ maxWidth) ∧
      ∀ after t, MarkedSettings.write { settings := s, marks } (.width n) = .ok after →
        s.set Settings.widthName (decimal n) = .ok t → after.settings = t ∧ t.width = n := by
  refine ⟨fun s name raw t hset => Settings.exists_value_of_set hset, ?_⟩
  intro operations marks n s
  have hwell : s.WellFormed := wellFormed_run hstart operations
  have hcount (after : MarkedSettings) :=
    @MarkedSettings.write_width_eq_ok_iff { settings := s, marks } after hwell n
  have hdigits (t : Settings) := @Settings.set_decimal_eq_ok_iff s t hwell n
  refine ⟨?_, ?_, fun after t hafter ht => ?_⟩
  · simp only [hcount, exists_and_left, exists_eq, and_true]
  · simp only [hdigits, exists_and_left, exists_eq, and_true]
  · have hwidth := MarkedSettings.width_of_write hafter
    rcases (hcount after).1 hafter with ⟨-, rfl⟩
    rcases (hdigits t).1 ht with ⟨-, rfl⟩
    exact ⟨rfl, hwidth⟩

/-- On a page that was narrowed and made negative, seven is read with a plus and with zeros in
front, the widest page is as wide as its digits say, and the largest count is refused both
ways. -/
theorem set_agrees_narrow :
    let s := (run { settings := .standard }
      [.mark (.width 40), .keep, .change (.set Settings.widthName "-5".toList)]).settings
    (∃ t, s.set Settings.widthName "+007".toList = .ok t ∧
      s.set Settings.widthName "7".toList = .ok t ∧
      s.assign Settings.widthName (.integer 7) = .ok t) ∧
    (∃ t, s.set Settings.widthName (decimal 1000) = .ok t ∧ t.width = 1000) ∧
    (¬∃ t, s.set Settings.widthName (decimal maxCount) = .ok t) ∧
    ¬∃ after, MarkedSettings.write { settings := s } (.width maxCount) = .ok after := by
  intro s
  rcases @set_agrees .standard (.inl rfl) with ⟨hwords, hwidths⟩
  have hwide := hwidths
    [.mark (.width 40), .keep, .change (.set Settings.widthName "-5".toList)] {} 1000
  have hlargest := hwidths
    [.mark (.width 40), .keep, .change (.set Settings.widthName "-5".toList)] {} maxCount
  refine ⟨?_, ?_, ?_, ?_⟩
  · have hset : s.set Settings.widthName "+007".toList =
        .ok (s.push Settings.widthName (.integer 7)) := rfl
    rcases hwords _ _ _ _ hset with ⟨setting, value, hget, -, hpush, htext, hassign⟩
    -- The value that was pushed is the one in force.
    have htop : (.integer 7 : Value) = value := by
      have hcurrent := congrArg (·.current? Settings.widthName) hpush
      simpa [Settings.current?, hget] using hcurrent
    subst htop
    exact ⟨_, hset, htext, hassign⟩
  · rcases hwide.2.1.2 (by decide) with ⟨t, ht⟩
    rcases hwide.1.2 (by decide) with ⟨after, hafter⟩
    exact ⟨t, ht, (hwide.2.2 after t hafter ht).2⟩
  · exact fun h => absurd (hlargest.2.1.1 h) (by decide)
  · exact fun h => absurd (hlargest.1.1 h) (by decide)

end Session

end PlainPage
