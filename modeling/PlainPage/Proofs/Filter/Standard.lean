import PlainPage.Filter.Standard
import PlainPage.Proofs.Settings.WellFormed

/-!
# What the standard filters do

The standard filters narrow the page inside a block by the columns that they fill
themselves when the block closes.  They push nothing but page widths and the indent, and a
narrower page is never too wide.

Main results:

- Theorem `Settings.Confined.width_le` says that no page is wider than the widest one.
- Theorem `Filter.exists_of_usable` says that a standard filter which is given words that it
  can use opens and closes on every page.
- Theorem `Filter.exists_frames` says that a block under a standard filter takes up the
  width of the page around it.
-/

namespace PlainPage

/-! ## Pages that are not too wide -/

namespace Settings

/-- Well formed settings that start with a page no wider than the widest one. -/
structure Confined (s : Settings) : Prop where
  wellFormed : s.WellFormed
  bottom : ∃ n : Int, s.origin? widthName = some (.integer, .integer n) ∧ n ≤ maxWidth

/-- A write keeps the first page no wider than the widest one. -/
theorem Writes.confined {s t : Settings} {change : Change} (h : s.Writes change t)
    (hs : s.Confined) : t.Confined where
  wellFormed := h.wellFormed hs.wellFormed
  bottom := by
    rcases hs.bottom with ⟨n, horigin, hn⟩
    refine ⟨n, ?_, hn⟩
    rw [h.origin?_eq, horigin]
    rfl

theorem Leads.confined {P : Settings → Prop} {s t : Settings} (h : Leads P s t)
    (hs : s.Confined) : t.Confined :=
  h.preserves (fun hwrite => hwrite.confined) hs

/-- No page is wider than the widest one. -/
theorem Confined.width_le {s : Settings} (h : s.Confined) : s.width ≤ maxWidth := by
  rcases h.bottom with ⟨bottom, horigin, hbottom⟩
  rcases Option.map_eq_some_iff.1 horigin with ⟨setting, hget, heq⟩
  rcases h.wellFormed.width_eq with ⟨n, hcurrent, hwidth⟩
  have htop : setting.current = .integer n := by simpa [current?, hget] using hcurrent
  have hn : n ≤ maxWidth := by
    cases hpushed : setting.pushed with
    | nil =>
      have hdefault : setting.default = .integer n := by
        simpa [Setting.current, hpushed] using htop
      have hsame : Value.integer n = .integer bottom :=
        hdefault.symm.trans (Prod.mk.inj heq).2
      cases hsame
      exact hbottom
    | cons top rest =>
      have hmem : Value.integer n ∈ setting.pushed := by
        rw [← htop, Setting.current, hpushed]
        exact List.mem_cons_self
      rcases h.wellFormed.limited setting hget _ hmem with ⟨m, hm, hle⟩
      cases hm
      exact hle
  rw [hwidth]
  omega

/-- A document starts with confined settings if its page is not too wide. -/
theorem confined_start {width : Nat} (h : width ≤ maxWidth) (align : Alignment)
    (indent : Bool) : (start width align indent).Confined where
  wellFormed := wellFormed_start ..
  bottom := ⟨width, rfl, Int.ofNat_le.2 h⟩

/-! ## Pushes of widths and of the indent -/

/-- The page width depends on nothing but its own setting. -/
theorem width_congr {s t : Settings} (h : t.entries.get? widthName = s.entries.get? widthName) :
    t.width = s.width := by
  simp only [width, current?, h]

/-- Whether lines are taken as they are depends on nothing but its own setting. -/
theorem pre_congr {s t : Settings} (h : t.entries.get? preName = s.entries.get? preName) :
    t.pre = s.pre := by
  simp only [pre, current?, h]

/-- A pushed page width is the one in force; a negative one counts as zero. -/
theorem width_push {s : Settings} (h : s.isDeclared widthName = true) (n : Int) :
    (s.push widthName (.integer n)).width = n.toNat := by
  rcases isDeclared_iff.1 h with ⟨setting, hget⟩
  simp [width, current?, hget, Value.integer?]

/-- A value that is checked can be pushed. -/
theorem assign_of_accepts {s : Settings} {name : Text} {value : Value} {setting : Setting}
    (hget : s.entries.get? name = some setting) (haccepts : setting.kind.accepts value = true)
    (hlimit : limitWidth name value = .ok ()) : s.assign name value = .ok (s.push name value) := by
  unfold assign
  rw [lookup_eq_ok_iff.2 hget]
  refine bind_eq_ok_iff.2 ⟨setting, rfl, ?_⟩
  rw [if_pos haccepts, hlimit]
  rfl

end Settings

namespace MarkedSettings

variable {m after : MarkedSettings}

/-- A typed write that goes through was allowed, and pushes its value. -/
theorem settings_of_write_typed {name : Text} {value : Value}
    (h : m.write (.typed name value) = .ok after) :
    m.settings.isDeclared name = true ∧ Settings.limitWidth name value = .ok () ∧
      after.settings = m.settings.push name value := by
  cases hafter : after.settings with
  | mk entries =>
    have hwrites := Settings.writes_of_assign (perform_of_write h)
    rw [hafter] at hwrites
    cases hwrites with
    | assign hget _ hlimit => exact ⟨Settings.isDeclared_iff.2 ⟨_, hget⟩, hlimit, rfl⟩

/-- A value that is checked can be pushed and marked. -/
theorem exists_write_typed {name : Text} {kind : Kind} {value : Value}
    (h : m.settings.WellFormed) (hrow : (name, kind) ∈ Settings.standardKinds)
    (haccepts : kind.accepts value = true) (hlimit : Settings.limitWidth name value = .ok ()) :
    ∃ after, m.write (.typed name value) = .ok after ∧ after.settings.WellFormed := by
  rcases h.standard _ hrow with ⟨setting, hget, rfl⟩
  have hassign := Settings.assign_of_accepts hget haccepts hlimit
  refine ⟨_, bind_eq_ok_iff.2 ⟨_, hassign, rfl⟩, ?_⟩
  exact (Settings.writes_of_assign hassign).wellFormed h

/-- A page that is not too wide can be asked for. -/
theorem exists_write_width (h : m.settings.WellFormed) {n : Nat} (hn : n ≤ maxWidth) :
    ∃ after, m.write (.width n) = .ok after ∧ after.settings.WellFormed := by
  have hlimit : Settings.limitWidth Settings.widthName (.integer (min n maxInteger : Nat)) =
      .ok () := by
    rw [Settings.limitWidth, if_neg]
    rintro ⟨-, hwide⟩
    omega
  have hrow : (Settings.widthName, Kind.integer) ∈ Settings.standardKinds := by
    simp [Settings.standardKinds]
  exact exists_write_typed h hrow rfl hlimit

/-- A page width that is asked for and granted is the width from then on. -/
theorem width_of_write {n : Nat} (h : m.write (.width n) = .ok after) :
    after.settings.width = n := by
  rcases settings_of_write_typed h with ⟨hdeclared, hlimit, hafter⟩
  have hn : n ≤ maxWidth := by
    rcases Settings.exists_integer_of_limitWidth rfl hlimit with ⟨i, heq, hi⟩
    cases heq
    have hsmall : maxWidth < maxInteger := by decide
    omega
  have hmin : min n maxInteger = n := Nat.min_eq_left (Nat.le_trans hn (by decide))
  rw [hafter, Settings.width_push hdeclared, hmin]
  exact Int.toNat_natCast n

/-- A write leaves the settings alone that it does not name. -/
theorem get?_of_write {w : SettingWrite} {name : Text} (h : m.write w = .ok after)
    (hname : name ≠ w.name) : after.settings.entries.get? name = m.settings.entries.get? name := by
  rcases SettingWrite.perform_eq_ok (perform_of_write h) with ⟨-, value, hpush⟩
  rw [hpush]
  exact Settings.get?_push_of_ne _ value hname

/-- Asking for a page width does not change whether lines are taken as they are. -/
theorem pre_of_write_width {n : Nat} (h : m.write (.width n) = .ok after) :
    after.settings.pre = m.settings.pre := by
  have hname : Settings.preName ≠ Settings.widthName := by decide
  exact Settings.pre_congr (get?_of_write h hname)

end MarkedSettings

/-- When a script that starts with a write succeeds. -/
theorem Opening.run_write_eq_ok_iff {w : SettingWrite} {next : Opening}
    {m after : MarkedSettings} :
    (write w next).run m = (.ok (), after) ↔
      ∃ middle, m.write w = .ok middle ∧ next.run middle = (.ok (), after) := by
  rw [run_write]
  cases m.write w <;> simp

/-! ## Filters that open and close -/

namespace Filter

/-- With these words the filter opens on every page, and closes whatever its lines are. -/
structure Serves (filter : Filter) (args : List Text) : Prop where
  opens : ∀ s : Settings, s.Confined →
    ∃ after, (filter.opening args).run { settings := s } = (.ok (), after)
  closes : ∀ lines s, ∃ result, filter.close lines args s = .ok result

/-- Underlining never fails. -/
theorem serves_underline (args : List Text) : underline.Serves args where
  opens s _ := ⟨{ settings := s }, rfl⟩
  closes _ _ := ⟨_, rfl⟩

/-- A margin that is a number never fails. -/
theorem serves_margin {args : List Text} {size : Nat} (h : marginColumns args = .ok size) :
    margin.Serves args where
  opens s hs := by
    have hn : s.width - size ≤ maxWidth := Nat.le_trans (Nat.sub_le ..) hs.width_le
    rcases MarkedSettings.exists_write_width (m := { settings := s }) hs.wellFormed hn with
      ⟨after, hwrite, -⟩
    refine ⟨after, ?_⟩
    simp only [margin, h, Opening.run_inspect]
    exact Opening.run_write_eq_ok_iff.2 ⟨after, hwrite, rfl⟩
  closes _ _ := by
    simp only [margin, h]
    exact ⟨_, rfl⟩

theorem serves_twoColumns (args : List Text) : twoColumns.Serves args where
  opens s hs := by
    have hn : halfColumn s.width ≤ maxWidth := by
      have hwidth := hs.width_le
      unfold halfColumn
      omega
    rcases MarkedSettings.exists_write_width (m := { settings := s }) hs.wellFormed hn with
      ⟨after, hwrite, -⟩
    exact ⟨after, Opening.run_write_eq_ok_iff.2 ⟨after, hwrite, rfl⟩⟩
  closes _ _ := ⟨_, rfl⟩

theorem serves_listItem (args : List Text) : listItem.Serves args where
  opens s hs := by
    have hn : s.width - bulletColumns ≤ maxWidth := Nat.le_trans (Nat.sub_le ..) hs.width_le
    rcases MarkedSettings.exists_write_width (m := { settings := s }) hs.wellFormed hn with
      ⟨narrow, hwidth, hwell⟩
    have hrow : (Settings.indentName, Kind.switch) ∈ Settings.standardKinds := by
      simp [Settings.standardKinds]
    have hlimit : Settings.limitWidth Settings.indentName (.switch false) = .ok () := rfl
    rcases MarkedSettings.exists_write_typed hwell hrow rfl hlimit with ⟨after, hindent, -⟩
    refine ⟨after, Opening.run_write_eq_ok_iff.2 ⟨narrow, hwidth, ?_⟩⟩
    exact Opening.run_write_eq_ok_iff.2 ⟨after, hindent, rfl⟩
  closes lines s := by
    cases lines with
    | nil => exact ⟨_, rfl⟩
    | cons first rest => exact ⟨_, rfl⟩

/-- The name of a standard filter, and words that it can use: a margin needs a count of
columns. -/
def Usable (name : Text) (args : List Text) : Prop :=
  name ∈ ["underline".toList, "twocols".toList, "li".toList] ∨
    name = marginName ∧ ∃ raw ∈ args.head?, ∃ n, count? raw = some n ∧ n ≤ maxWidth

/-- A count of columns is a margin. -/
theorem marginColumns_eq_ok_iff {args : List Text} {n : Nat} :
    marginColumns args = .ok n ↔ ∃ raw ∈ args.head?, count? raw = some n ∧ n ≤ maxWidth := by
  cases args with
  | nil => simp [marginColumns]
  | cons raw rest => simp [marginColumns, readCount_eq_ok_iff]

/-- A standard filter opens and closes if it can use the words that it is given. -/
theorem exists_of_usable {name : Text} {args : List Text} (h : Usable name args) :
    ∃ filter, standard.get? name = some filter ∧ filter.Serves args := by
  rcases h with hname | ⟨rfl, raw, hraw, n, hcount⟩
  · simp only [List.mem_cons, List.not_mem_nil, or_false] at hname
    rcases hname with rfl | rfl | rfl
    · exact ⟨underline, rfl, serves_underline args⟩
    · exact ⟨twoColumns, rfl, serves_twoColumns args⟩
    · exact ⟨listItem, rfl, serves_listItem args⟩
  · exact ⟨margin, rfl, serves_margin (marginColumns_eq_ok_iff.2 ⟨raw, hraw, hcount⟩)⟩

/-! ## Filters that give back the width -/

/-- A block on a page of the width `outer`: the page inside it has the width `inner`, and
when it closes, its lines are as wide as the page around it.  Whether lines are taken as
they are stays as it is. -/
structure Frames (filter : Filter) (args : List Text) (outer inner : Nat) : Prop where
  opening : ∀ (s : Settings) (after : MarkedSettings), s.width = outer →
    (filter.opening args).run { settings := s } = (.ok (), after) →
    after.settings.width = inner ∧ after.settings.pre = s.pre
  closing : ∀ (lines : List Text) (s : Settings) (result : List Text), s.width = outer →
    filter.close lines args s = .ok result → (∀ line ∈ lines, line.length = inner) →
    ∀ line ∈ result, line.length = outer

/-- Opening a block that only asks for another page width. -/
theorem opening_of_width {s : Settings} {after : MarkedSettings} {n : Nat}
    (h : (Opening.write (.width n) .done).run { settings := s } = (.ok (), after)) :
    after.settings.width = n ∧ after.settings.pre = s.pre := by
  rcases Opening.run_write_eq_ok_iff.1 h with ⟨middle, hwrite, hdone⟩
  cases hdone
  exact ⟨MarkedSettings.width_of_write hwrite, MarkedSettings.pre_of_write_width hwrite⟩

/-- Underlined lines stay as wide as the page. -/
theorem frames_underline (args : List Text) (width : Nat) :
    underline.Frames args width width where
  opening s after hwidth hrun := by
    cases hrun
    exact ⟨hwidth, rfl⟩
  closing lines s result _ hclose hlines row hrow := by
    cases hclose
    rcases List.mem_flatMap.1 hrow with ⟨line, hline, hrow⟩
    simp only [List.mem_cons, List.not_mem_nil, or_false] at hrow
    rcases hrow with rfl | rfl
    · exact hlines _ hline
    · rw [length_ruleBeneath]
      exact hlines _ hline

/-- A margin no wider than the page fills what it takes away. -/
theorem frames_margin {args : List Text} {width : Nat}
    (h : ∀ size ∈ (marginColumns args).toOption, size ≤ width) :
    ∃ inner, margin.Frames args width inner := by
  cases hsize : marginColumns args with
  | error error =>
    refine ⟨0, fun s after _ hrun => ?_, fun lines s result _ hclose => ?_⟩
    · simp [margin, hsize] at hrun
    · simp [margin, hsize, bind, Except.bind] at hclose
  | ok size =>
    have hle : size ≤ width := h size (by rw [hsize]; rfl)
    refine ⟨width - size, fun s after hwidth hrun => ?_,
      fun lines s result _ hclose hlines row hrow => ?_⟩
    · simp only [margin, hsize, Opening.run_inspect, hwidth] at hrun
      exact opening_of_width hrun
    · simp only [margin, hsize] at hclose
      cases hclose
      rcases List.mem_map.1 hrow with ⟨line, hline, rfl⟩
      rw [List.length_append, Text.length_spaces, hlines line hline]
      omega

/-- Rows of two columns are as wide as both columns and the gutter. -/
theorem length_of_mem_beside {column : Nat} {gutter : Text} {left right : List Text}
    (hleft : ∀ line ∈ left, line.length = column)
    (hright : ∀ line ∈ right, line.length = column) :
    ∀ row ∈ beside column gutter left right, row.length = 2 * column + gutter.length := by
  induction left generalizing right with
  | nil => simp [beside]
  | cons line left ih =>
    have hcell : (Alignment.left.pad column line).length = column := by
      rw [Alignment.length_pad, hleft line List.mem_cons_self, Nat.max_self]
    have hneighbour : (right.head?.getD (Text.spaces column)).length = column := by
      cases right with
      | nil => exact Text.length_spaces column
      | cons first rest => exact hright first List.mem_cons_self
    intro row hrow
    rw [beside] at hrow
    rcases List.mem_cons.1 hrow with rfl | hrest
    · rw [hcell, List.length_append, List.length_append, hcell, hneighbour]
      omega
    · refine ih (fun other hother => hleft other (List.mem_cons_of_mem _ hother))
        (fun other hother => hright other (List.mem_of_mem_tail hother)) row hrest

/-- Two columns of half the page make rows as wide as the page. -/
theorem frames_twoColumns (args : List Text) (width : Nat) :
    twoColumns.Frames args width (halfColumn width) where
  opening s after hwidth hrun := by
    rw [← hwidth]
    exact opening_of_width hrun
  closing lines s result hwidth hclose hlines row hrow := by
    cases hclose
    have hrow := length_of_mem_beside
      (fun line hline => (hlines line (List.mem_of_mem_take hline)).trans (by rw [hwidth]))
      (fun line hline => (hlines line (List.mem_of_mem_drop hline)).trans (by rw [hwidth])) row hrow
    rw [hrow, Text.length_spaces, hwidth]
    unfold halfColumn
    omega

theorem frames_listItem {width : Nat} (args : List Text) (h : bulletColumns ≤ width) :
    listItem.Frames args width (width - bulletColumns) where
  opening s after hwidth hrun := by
    rcases Opening.run_write_eq_ok_iff.1 hrun with ⟨narrow, hnarrow, hrest⟩
    rcases Opening.run_write_eq_ok_iff.1 hrest with ⟨last, hindent, hdone⟩
    cases hdone
    have hlast : ∀ name, name ≠ Settings.indentName →
        after.settings.entries.get? name = narrow.settings.entries.get? name :=
      fun name hname => MarkedSettings.get?_of_write hindent hname
    constructor
    · rw [Settings.width_congr (hlast _ (by decide)), MarkedSettings.width_of_write hnarrow, hwidth]
    · rw [Settings.pre_congr (hlast _ (by decide)), MarkedSettings.pre_of_write_width hnarrow]
  closing lines s result _ hclose hlines row hrow := by
    -- A bullet and the blanks under it are equally wide.
    have hbullet : ∀ line ∈ lines, ∀ mark : Text, mark.length = bulletColumns →
        (mark ++ line).length = width := by
      intro line hline mark hmark
      rw [List.length_append, hmark, hlines line hline]
      omega
    cases lines with
    | nil =>
      cases hclose
      cases hrow
    | cons first rest =>
      cases hclose
      rcases List.mem_cons.1 hrow with rfl | hrest
      · exact hbullet first List.mem_cons_self _ rfl
      · rcases List.mem_map.1 hrest with ⟨line, hline, rfl⟩
        exact hbullet line (List.mem_cons_of_mem _ hline) _ rfl

/-- Whether a page is wide enough for a block under a standard filter: a margin needs its
columns, and list items and two columns need two. -/
def FitsOn (name : Text) (args : List Text) (width : Nat) : Prop :=
  name = "underline".toList ∨
    name = marginName ∧ (∀ size ∈ (marginColumns args).toOption, size ≤ width) ∨
    name ∈ ["twocols".toList, "li".toList] ∧ 2 ≤ width

instance decidableFitsOn (name : Text) (args : List Text) (width : Nat) :
    Decidable (FitsOn name args width) :=
  inferInstanceAs (Decidable (_ ∨ _ ∧ (∀ size ∈ _, _) ∨ _))

/-- On a page that is wide enough, a block under a standard filter takes up its width. -/
theorem exists_frames {name : Text} {args : List Text} {width : Nat}
    (h : FitsOn name args width) :
    ∃ filter inner, standard.get? name = some filter ∧ filter.Frames args width inner := by
  rcases h with rfl | ⟨rfl, hsize⟩ | ⟨hname, hwidth⟩
  · exact ⟨underline, width, rfl, frames_underline args width⟩
  · rcases frames_margin hsize with ⟨inner, hframes⟩
    exact ⟨margin, inner, rfl, hframes⟩
  · simp only [List.mem_cons, List.not_mem_nil, or_false] at hname
    rcases hname with rfl | rfl
    · exact ⟨twoColumns, _, rfl, frames_twoColumns args width⟩
    · exact ⟨listItem, _, rfl, frames_listItem args hwidth⟩

end Filter

end PlainPage
