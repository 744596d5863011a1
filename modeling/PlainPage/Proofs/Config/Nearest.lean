import PlainPage.Proofs.Config.Discovery

/-!
# The nearest configuration file

From the root, no two of the directories around a document lead along the same steps, so each
of their configuration files is laid over those further out.  Only the file of the home
directory is not: it is listed before all others, and passed over where its directory comes
again.  So the nearest file decides, except that a home directory around the document counts
as the furthest one.

Main results:

- Definition `Surroundings.nearest?` is what the nearest directory says that says something.
- Theorem `Surroundings.ofFiles_gather` says in which order directories decide.
- Theorem `Surroundings.nearest?_ranked_iff` says when the place of the home directory makes no
  difference.
- Theorem `Surroundings.ofFiles_discover_nearest` says when the nearest configuration file
  decides for a document.
- Theorem `Surroundings.not_ofFiles_discover_nearest` says that it does not always.
-/

namespace PlainPage

namespace Surroundings

variable {toml : Toml.Reader} {s : Surroundings} {directory start : Path}
  {directories : List Path} {α : Type}

/-! ## The order in which directories decide -/

/-- What the first of some directories says that says something. -/
def nearest? (toml : Toml.Reader) (s : Surroundings) (entry : Layer → Option α)
    (directories : List Path) : Option α :=
  (directories.filterMap (s.layerIn? toml)).findSome? entry

/-- Whether a directory is passed over since its configuration file is listed as that of the home
directory. -/
def isHome (s : Surroundings) (directory : Path) : Bool :=
  s.home.any fun home => s.isFile (home.join configName) && directory.same home

/-- Directories in the order in which they decide: the home directory comes last, also when it is
one of them. -/
def ranked (s : Surroundings) (directories : List Path) : List Path :=
  directories.filter (!s.isHome ·) ++ s.home.toList

@[simp] theorem nearest?_nil (entry : Layer → Option α) : s.nearest? toml entry [] = none := rfl

@[simp] theorem nearest?_cons (entry : Layer → Option α) (directory : Path)
    (directories : List Path) :
    s.nearest? toml entry (directory :: directories) =
      ((s.layerIn? toml directory).bind entry).or (s.nearest? toml entry directories) := by
  unfold nearest?
  cases hlayer : s.layerIn? toml directory with
  | none => simp [hlayer]
  | some layer => cases hsaid : entry layer <;> simp [hlayer, hsaid]

/-- The first directories are asked before the others. -/
theorem nearest?_append (entry : Layer → Option α) (first second : List Path) :
    s.nearest? toml entry (first ++ second) =
      (s.nearest? toml entry first).or (s.nearest? toml entry second) := by
  rw [nearest?, List.filterMap_append, List.findSome?_append]
  rfl

/-- Configuration files have the same path exactly when their directories do. -/
theorem same_join (h : directory.isAbsolute = true) (other : Path) :
    (directory.join configName).same (other.join configName) = directory.same other := by
  have hplain : Path.idles configName = false := by decide
  rcases Path.exists_segments_join directory slash_not_mem_configName with ⟨_, -, -, hdirectory⟩
  rcases Path.exists_segments_join other slash_not_mem_configName with ⟨_, -, -, hother⟩
  rw [Bool.eq_iff_iff, Path.same_iff_of_absolute (hdirectory.trans h), Path.same_iff_of_absolute h,
    Path.steps_join _ slash_not_mem_configName hplain,
    Path.steps_join _ slash_not_mem_configName hplain, List.append_left_inj, hother]

/-- The directories that are passed over: those with the path of a home directory that has a
configuration file. -/
theorem isHome_iff : s.isHome directory = true ↔
    ∃ home place, s.home = some home ∧ s.place? home = some place ∧ directory.same home = true := by
  simp only [isHome, Option.any_eq_true, Bool.and_eq_true, isFile_join, Option.isSome_iff_exists]
  constructor
  · rintro ⟨home, hhome, ⟨place, hplace⟩, hsame⟩
    exact ⟨home, place, hhome, hplace, hsame⟩
  · rintro ⟨home, place, hhome, hplace, hsame⟩
    exact ⟨home, hhome, ⟨place, hplace⟩, hsame⟩

/-- The configuration file of the home directory is listed. -/
theorem home_mem_gather {home : Path} {place : Location} (hhome : s.home = some home)
    (hplace : s.place? home = some place) (directories : List Path) :
    home.join configName ∈ s.gather directories := by
  induction directories with
  | nil => simp [gather, hhome, addCandidate_eq, hplace]
  | cons first rest ih =>
    rw [gather_cons, addCandidate_eq]
    split
    · exact List.mem_append_left _ ih
    · exact ih

/-- A directory comes again exactly as the home directory, if no two others lead along the same
steps. -/
theorem any_gather_eq_isHome (habsolute : directory.isAbsolute = true)
    (hfresh : ∀ other ∈ directories, other.steps ≠ directory.steps) :
    (s.gather directories).any (directory.join configName).same = s.isHome directory := by
  rw [Bool.eq_iff_iff, List.any_eq_true, isHome_iff]
  constructor
  · rintro ⟨path, hpath, hsame⟩
    rcases mem_gather hpath with ⟨other, place, rfl, hplace, hhome | hmem⟩
    · exact ⟨other, place, hhome, hplace, (same_join habsolute other).symm.trans hsame⟩
    · exact absurd (steps_eq_of_same_join hsame).2.symm (hfresh other hmem)
  · rintro ⟨home, place, hhome, hplace, hsame⟩
    exact ⟨_, home_mem_gather hhome hplace directories, (same_join habsolute home).trans hsame⟩

/-- A directory adds what its file says, unless its path is listed. -/
theorem ofFiles_addCandidate (found : List Path) (directory : Path) :
    Layer.ofFiles toml s.tree s.current (s.addCandidate found directory) =
      if found.any (directory.join configName).same then Layer.ofFiles toml s.tree s.current found
      else Layer.ofFiles toml s.tree s.current found ++ (s.layerIn? toml directory).toList := by
  have hlast : Layer.ofFiles toml s.tree s.current (found ++ [directory.join configName]) =
      Layer.ofFiles toml s.tree s.current found ++ (s.layerIn? toml directory).toList := by
    rw [Layer.ofFiles, List.filterMap_append, layerIn?]
    cases hfile : Layer.ofFile toml s.tree s.current (directory.join configName) <;>
      simp [hfile, Layer.ofFiles, Except.toOption]
  rw [addCandidate_eq]
  cases hplace : s.place? directory with
  | none => simp [layerIn?_eq, hplace]
  | some place => cases found.any (directory.join configName).same <;> simp [hlast]

/-- Directories from the root, listed from the inside: each leads along fewer steps than those
before it. -/
structure Nested (directories : List Path) : Prop where
  absolute : ∀ directory ∈ directories, directory.isAbsolute = true
  steps : directories.Pairwise fun inner outer => outer.steps.length < inner.steps.length

/-- The directories around an absolute path are nested. -/
theorem nested_ancestors (h : start.isAbsolute = true) : Nested start.ancestors where
  absolute _ := Path.isAbsolute_of_mem_ancestors h
  steps := Path.pairwise_ancestors h

/-- The files that are found, from the last to the first, are those of the directories in the
order in which they decide. -/
theorem ofFiles_gather (h : Nested directories) :
    Layer.ofFiles toml s.tree s.current (s.gather directories) =
      ((s.ranked directories).filterMap (s.layerIn? toml)).reverse := by
  induction directories with
  | nil =>
    cases hhome : s.home with
    | none => simp [gather, ranked, hhome, Layer.ofFiles]
    | some home =>
      have hgather : s.gather [] = s.addCandidate [] home := by rw [gather, hhome]; rfl
      rw [hgather, ofFiles_addCandidate, ranked, hhome]
      cases hlayer : s.layerIn? toml home <;> simp [hlayer, Layer.ofFiles]
  | cons first rest ih =>
    have habsolute := List.forall_mem_cons.1 h.absolute
    have hsteps := List.pairwise_cons.1 h.steps
    have hfresh : ∀ other ∈ rest, other.steps ≠ first.steps := by
      intro other hother heq
      have hlength := hsteps.1 other hother
      rw [heq] at hlength
      exact Nat.lt_irrefl _ hlength
    rw [gather_cons, ofFiles_addCandidate, any_gather_eq_isHome habsolute.1 hfresh,
      ih ⟨habsolute.2, hsteps.2⟩, ranked, ranked]
    cases hhome : s.isHome first with
    | true => simp [hhome]
    | false => cases hlayer : s.layerIn? toml first <;> simp [hhome, hlayer]

/-! ## The place of the home directory -/

/-- The place of the home directory makes no difference to an entry.  Wherever the home directory
is one of the directories, either a nearer one decides, or no one further out says anything else
than the home directory. -/
def HomeAgrees (toml : Toml.Reader) (s : Surroundings) (entry : Layer → Option α)
    (directories : List Path) : Prop :=
  ∀ before home after, directories = before ++ home :: after → s.isHome home = true →
    s.nearest? toml entry before = none → ∀ value ∈ s.nearest? toml entry [home],
      ∀ other ∈ s.nearest? toml entry after, other = value

/-- The home directory says the same under its own name, unless it says nothing as one of the
directories. -/
theorem nearest?_of_isHome (habsolute : directory.isAbsolute = true)
    (hhome : s.isHome directory = true) (entry : Layer → Option α) :
    s.nearest? toml entry [directory] = none ∨
      s.nearest? toml entry [directory] = s.nearest? toml entry s.home.toList := by
  rcases isHome_iff.1 hhome with ⟨home, place, hhome, hplace, hsame⟩
  rw [← same_join habsolute] at hsame
  cases hdirectory : s.place? directory with
  | none => simp [layerIn?_eq, hdirectory]
  | some found =>
    cases place?_eq_of_same hsame hdirectory hplace
    simp [layerIn?_eq, hdirectory, hhome, hplace]

/-- All directories that are passed over have the same steps. -/
theorem steps_eq_of_isHome {other : Path} (h : s.isHome directory = true)
    (hother : s.isHome other = true) : directory.steps = other.steps := by
  rcases isHome_iff.1 h with ⟨home, -, hhome, -, hsame⟩
  rcases isHome_iff.1 hother with ⟨home', -, hhome', -, hsame'⟩
  cases hhome.symm.trans hhome'
  exact (Path.steps_eq_of_same hsame).2.trans (Path.steps_eq_of_same hsame').2.symm

/-- One of nested directories at most is the home directory. -/
theorem Nested.filter_isHome {before after : List Path} {home : Path}
    (h : Nested (before ++ home :: after)) (hhome : s.isHome home = true) :
    (before ++ home :: after).filter (!s.isHome ·) = before ++ after := by
  have hpairs := List.pairwise_append.1 h.steps
  have hother : ∀ other : Path, other.steps.length ≠ home.steps.length →
      (!s.isHome other) = true := by
    intro other hlength
    cases hsame : s.isHome other with
    | false => rfl
    | true => exact absurd (congrArg List.length (steps_eq_of_isHome hsame hhome)) hlength
  have hbefore : ∀ other ∈ before, (!s.isHome other) = true := fun other hmem =>
    hother other (Nat.ne_of_gt (hpairs.2.2 other hmem home List.mem_cons_self))
  have hafter : ∀ other ∈ after, (!s.isHome other) = true := fun other hmem =>
    hother other (Nat.ne_of_lt ((List.pairwise_cons.1 hpairs.2.1).1 other hmem))
  rw [List.filter_append, List.filter_cons_of_neg (by simp [hhome]), List.filter_eq_self.2 hbefore,
    List.filter_eq_self.2 hafter]

/-- The nearest directory decides, as if the home directory had its place among the others,
exactly if that place makes no difference. -/
theorem nearest?_ranked_iff (h : Nested directories) (entry : Layer → Option α) (default : α) :
    (s.nearest? toml entry (s.ranked directories)).getD default =
        (s.nearest? toml entry (directories ++ s.home.toList)).getD default ↔
      s.HomeAgrees toml entry directories := by
  -- The orders differ in whether the home directory comes before or after those further out.
  have haround : ∀ {before home after}, directories = before ++ home :: after →
      s.isHome home = true →
      s.nearest? toml entry (s.ranked directories) =
          (s.nearest? toml entry before).or
            ((s.nearest? toml entry after).or (s.nearest? toml entry s.home.toList)) ∧
        s.nearest? toml entry (directories ++ s.home.toList) =
          (s.nearest? toml entry before).or ((s.nearest? toml entry [home]).or
            ((s.nearest? toml entry after).or (s.nearest? toml entry s.home.toList))) := by
    rintro before home after rfl hhome
    rw [ranked, h.filter_isHome hhome]
    simp [nearest?_append]
  constructor
  · rintro heq before home after hsplit hhome hbefore value hvalue other hother
    rw [(haround hsplit hhome).1, (haround hsplit hhome).2, hbefore, hvalue, hother] at heq
    exact heq
  · intro hagrees
    by_cases hhome : ∃ home ∈ directories, s.isHome home = true
    · rcases hhome with ⟨home, hmem, hhome⟩
      rcases List.append_of_mem hmem with ⟨before, after, hsplit⟩
      rw [(haround hsplit hhome).1, (haround hsplit hhome).2]
      have hsame := hagrees before home after hsplit hhome
      rcases nearest?_of_isHome (h.absolute home hmem) hhome entry with hnone | hsaid
      · rw [hnone, Option.none_or]
      · rw [hsaid] at hsame ⊢
        cases hbefore : s.nearest? toml entry before with
        | some value => rfl
        | none =>
          cases hvalue : s.nearest? toml entry s.home.toList with
          | none => rfl
          | some value =>
            cases hother : s.nearest? toml entry after with
            | none => rfl
            | some other =>
              rw [hvalue, hother] at hsame
              exact hsame hbefore value rfl other rfl
    · have hall : directories.filter (!s.isHome ·) = directories :=
        List.filter_eq_self.2 fun other hother => by
          simpa using fun hsame => hhome ⟨other, hother, hsame⟩
      rw [ranked, hall]

/-! ## The configuration for a document -/

/-- There is no configuration file in a file. -/
theorem layerIn?_of_file {content : Bytes} (h : s.tree.find s.current start = .ok (.file content)) :
    s.layerIn? toml start = none := by
  obtain ⟨-, location, hfollow, hfile⟩ := FileTree.find_eq_ok_iff.1 h
  have hend : s.tree.node? location ≠ some .directory := by simp [hfile]
  have hnowhere : ∃ error, s.tree.followAll (FileTree.origin s.current start)
      (start.steps ++ [configName]) = .error error := by
    obtain ⟨error, herror⟩ := FileTree.exists_followAll_eq_error hend
    refine ⟨error, ?_⟩
    rw [Path.steps, ← FileTree.followAll_steps, FileTree.followAll_append, hfollow]
    exact herror [configName] (by simp)
  obtain ⟨error, herror⟩ := hnowhere
  have hplace : s.place? start = none := by
    cases hplace : s.place? start with
    | none => rfl
    | some place =>
      have hat := place?_eq (s := s) (checkPath_of_place? hplace)
      rw [hplace, placeAt?, herror] at hat
      cases hat
  rw [layerIn?_eq, hplace, Option.bind_none]

/-- The directories that are searched for a document are its path and the directories around it,
less the path of a file, which says nothing. -/
theorem ancestors_startDirectory (toml : Toml.Reader) {node : Node}
    (h : s.tree.find s.current start = .ok node) :
    start.ancestors = (s.startDirectory start).ancestors ∨
      start.ancestors = start :: (s.startDirectory start).ancestors ∧
        s.layerIn? toml start = none := by
  cases node with
  | directory => exact .inl (by rw [startDirectory_of_directory h])
  | file content =>
    obtain ⟨segment, rest, hreverse, hstep⟩ := FileTree.exists_step_of_find_file h
    have hchecked := checkPath_eq_ok_iff.1 (FileTree.find_eq_ok_iff.1 h).1
    have hwritten := Path.written_segments hchecked.2.1
    rw [hreverse] at hwritten
    have hdirectory : s.startDirectory start =
        Path.ofReversed start.isAbsolute (Path.dropIdle start.isAbsolute rest) := by
      rw [startDirectory_of_file h, Path.parent?_of_step hreverse hstep, Option.getD_some]
    refine .inr ⟨?_, layerIn?_of_file h⟩
    rw [hdirectory, Path.ancestors_ofReversed hwritten.tail, Path.ancestors, hreverse,
      Path.outerPaths_of_not_isIdle (Path.isIdle_eq_false hstep _ _)]

/-- What the files that are found for a document say, in the order in which they decide. -/
theorem findSome?_ofFiles_discover {node : Node} (habsolute : start.isAbsolute = true)
    (hexists : s.tree.find s.current start = .ok node) (entry : Layer → Option α) :
    (Layer.ofFiles toml s.tree s.current (s.discover start)).reverse.findSome? entry =
      s.nearest? toml entry (s.ranked start.ancestors) := by
  have hsearched :
      (Layer.ofFiles toml s.tree s.current (s.discover start)).reverse.findSome? entry =
      s.nearest? toml entry (s.ranked (s.startDirectory start).ancestors) := by
    have hmem : s.startDirectory start ∈ (s.startDirectory start).ancestors := List.mem_cons_self
    have hstart : (s.startDirectory start).isAbsolute = true := by
      refine Path.isAbsolute_of_mem_ancestors habsolute ?_
      rcases ancestors_startDirectory toml hexists with hsame | ⟨hmore, -⟩
      · rwa [hsame]
      · rw [hmore]
        exact List.mem_cons_of_mem _ hmem
    rw [discover_eq, ofFiles_gather (nested_ancestors hstart), List.reverse_reverse]
    rfl
  rw [hsearched]
  rcases ancestors_startDirectory toml hexists with hsame | ⟨hmore, hnone⟩
  · rw [hsame]
  · rw [hmore, ranked, ranked]
    cases hhome : s.isHome start <;> simp [hhome, hnone]

/-- For a document that is named from the root, the nearest configuration file that says
something decides, and the file of the home directory is the last to be asked.  So the nearest
file decides with the home directory in its place among the others exactly if that place makes
no difference. -/
theorem ofFiles_discover_nearest (toml : Toml.Reader) {node : Node}
    (habsolute : start.isAbsolute = true) (hexists : s.tree.find s.current start = .ok node) :
    let config := Config.ofFiles toml s.tree s.current (s.discover start)
    let ranked := s.ranked start.ancestors
    let inPlace := start.ancestors ++ s.home.toList
    (config.width = (s.nearest? toml (·.width) ranked).getD defaultWidth ∧
      config.align = (s.nearest? toml (·.align) ranked).getD .left ∧
      config.indent = (s.nearest? toml (·.indent) ranked).getD false) ∧
    (config.width = (s.nearest? toml (·.width) inPlace).getD defaultWidth ↔
      s.HomeAgrees toml (·.width) start.ancestors) ∧
    (config.align = (s.nearest? toml (·.align) inPlace).getD .left ↔
      s.HomeAgrees toml (·.align) start.ancestors) ∧
    (config.indent = (s.nearest? toml (·.indent) inPlace).getD false ↔
      s.HomeAgrees toml (·.indent) start.ancestors) := by
  intro config ranked inPlace
  have hnested := nested_ancestors habsolute
  have hconfig : config = _ := Config.ofFiles_eq toml s.tree s.current (s.discover start)
  have hwidth : config.width = (s.nearest? toml (·.width) ranked).getD defaultWidth := by
    rw [hconfig, ← findSome?_ofFiles_discover habsolute hexists]
    rfl
  have halign : config.align = (s.nearest? toml (·.align) ranked).getD .left := by
    rw [hconfig, ← findSome?_ofFiles_discover habsolute hexists]
    rfl
  have hindent : config.indent = (s.nearest? toml (·.indent) ranked).getD false := by
    rw [hconfig, ← findSome?_ofFiles_discover habsolute hexists]
    rfl
  refine ⟨⟨hwidth, halign, hindent⟩, ?_, ?_, ?_⟩
  · rw [hwidth]
    exact nearest?_ranked_iff hnested (·.width) defaultWidth
  · rw [halign]
    exact nearest?_ranked_iff hnested (·.align) Alignment.left
  · rw [hindent]
    exact nearest?_ranked_iff hnested (·.indent) false

/-- The home directory is around the document and the directory around that one decides about
the alignment. -/
theorem ofFiles_discover_nearest_home :
    let s : Surroundings :=
      { tree := ⟨[([configName], .file (Text.utf8 "align = \"right\"".toList)),
          (["u".toList, configName], .file (Text.utf8 "width = 9\nalign = \"center\"".toList)),
          (["u".toList, "docs".toList, "a".toList], .file [])]⟩,
        home := some "/u".toList }
    let start : Path := "/u/docs/a".toList
    Config.ofFiles Toml.ofText? s.tree s.current (s.discover start) =
        { width := 9, align := .right } ∧
      s.HomeAgrees Toml.ofText? (·.width) start.ancestors ∧
      ¬ s.HomeAgrees Toml.ofText? (·.align) start.ancestors := by
  intro s start
  have hdecides := @ofFiles_discover_nearest s start Toml.ofText? (.file []) rfl rfl
  refine ⟨by decide +kernel, hdecides.2.1.1 (by decide +kernel), fun hagrees => ?_⟩
  have halign := hdecides.2.2.1.2 hagrees
  revert halign
  decide +kernel

/-- The nearest configuration file does not always decide. -/
theorem not_ofFiles_discover_nearest :
    ¬ ∀ (s : Surroundings) (start : Path) (node : Node), start.isAbsolute = true →
      s.tree.find s.current start = .ok node →
      (Config.ofFiles Toml.ofText? s.tree s.current (s.discover start)).width =
        (s.nearest? Toml.ofText? (·.width)
          (start.ancestors ++ s.home.toList)).getD defaultWidth := by
  intro h
  let s : Surroundings :=
    { tree := ⟨[([configName], .file (Text.utf8 "width = 50".toList)),
        (["work".toList, configName], .file (Text.utf8 "width = 30".toList)),
        (["work".toList, "doc.ltx".toList], .file [])]⟩,
      current := ["work".toList], home := some "/work".toList }
  have hnearest := h s "/work/doc.ltx".toList (.file []) rfl rfl
  revert hnearest
  decide +kernel

end Surroundings

end PlainPage
