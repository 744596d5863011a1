import PlainPage.Proofs.Config.Gathering

/-!
# Starting the search for configuration files

A path that starts from the current directory has no directories around it but those from
there on, and the same path from the root has those above as well.  The spelling of a start
path does not matter as long as the directories above have nothing to say, and the home
directory, whose file is passed over where its path is listed already, is not on the way.

Main results:

- Definition `Surroundings.Settled` says when the spelling of a path does not matter.
- Theorem `Surroundings.gathered_outward` compares the directories around two spellings.
- Theorem `Surroundings.ofFiles_discover_join` says when a path that starts from the current
  directory and the same path from the root lead to the same configuration.
- Theorem `Surroundings.not_ofFiles_discover_join` says that this is not always so.
-/

namespace PlainPage

namespace Surroundings

variable {toml : Toml.Reader} {s : Surroundings} {directory : Path}

/-! ## The current directory -/

/-- A current directory that can be written: it is a directory under a name, in a directory
under a name, and so on to the root. -/
structure Placed (s : Surroundings) : Prop where
  names : ∀ name ∈ s.current, FileTree.IsName name
  directories : ∀ around, around <+: s.current → s.tree.node? around = some .directory

namespace Placed

variable (hs : s.Placed)
include hs

/-- The names of the current directory lead to it from the root. -/
theorem followAll_current : s.tree.followAll [] s.current = .ok s.current :=
  FileTree.followAll_names hs.names hs.directories

/-- From the root, the way to the current directory and on is the way on from there. -/
theorem placeAt?_current (steps : List Text) :
    s.placeAt? [] (s.current ++ steps) = s.placeAt? s.current steps := by
  rw [placeAt?, List.append_assoc, FileTree.followAll_append, hs.followAll_current]
  rfl

/-- A relative spelling behind that of the current directory is one from the root. -/
theorem written_append {reversed : List Text} (h : Path.Written false reversed) :
    Path.Written true (reversed ++ s.current.reverse) := by
  refine ⟨fun segment hsegment => ?_, fun hfalse => by cases hfalse⟩
  rcases List.mem_append.1 hsegment with hmem | hmem
  · exact h.1 segment hmem
  · exact (hs.names segment (List.mem_reverse.1 hmem)).slash

/-- From the root, the steps of the current directory come first. -/
theorem stepsOf_append (reversed : List Text) :
    Path.stepsOf (reversed ++ s.current.reverse) = s.current ++ Path.stepsOf reversed := by
  have hnames : s.current.filter (!Path.idles ·) = s.current :=
    List.filter_eq_self.2 fun name hname => by simp [(hs.names name hname).plain]
  rw [Path.stepsOf, List.filter_append, List.filter_reverse, hnames, List.reverse_append,
    List.reverse_reverse, Path.stepsOf]

/-- The directories above the current one lead along fewer steps. -/
theorem mem_outerPaths_current (h : directory ∈ Path.outerPaths true s.current.reverse) :
    directory.isAbsolute = true ∧ directory.steps <+: s.current ∧ directory.steps ≠ s.current := by
  have hwritten := hs.written_append (show Path.Written false [] from ⟨by simp, by simp⟩)
  have hcurrent := hs.stepsOf_append []
  rw [List.nil_append] at hwritten hcurrent
  cases hreverse : s.current.reverse with
  | nil =>
    rw [hreverse] at h
    cases h
  | cons name rest =>
    have hname : name ∈ s.current := List.mem_reverse.1 (hreverse ▸ List.mem_cons_self)
    have hplain := (hs.names name hname).plain
    rw [hreverse, Path.stepsOf_cons hplain] at hcurrent
    rw [hreverse] at h hwritten
    rw [Path.outerPaths_of_not_isIdle (Path.isIdle_eq_false hplain _ _)] at h
    rcases Path.mem_outward hwritten.tail h with ⟨habsolute, hsteps⟩
    refine ⟨habsolute, hsteps.trans ⟨[name], hcurrent.trans (List.append_nil _)⟩, fun heq => ?_⟩
    have hlength := congrArg List.length hcurrent
    have hshorter := hsteps.length_le
    rw [heq] at hshorter
    simp only [Path.stepsOf, List.filter_nil, List.reverse_nil, List.append_nil, List.length_append,
      List.length_singleton] at hlength hshorter
    omega

end Placed

/-- The configuration files that a spelling decides about are not there: the directories above
the current one have none but that of the home directory, and the home directory is none of
those on the way from the current one. -/
structure Settled (s : Surroundings) (steps : List Text) : Prop where
  above : ∀ around, around <+: s.current → around ≠ s.current →
    s.placeAt? [] around = none ∨ s.placeAt? [] around = s.homePlace?
  below : ∀ way place, way <+: steps → way ≠ [] → s.placeAt? s.current way = some place →
    s.homePlace? ≠ some place

/-- What is settled for a way is settled for the start of it. -/
theorem Settled.mono {steps shorter : List Text} (h : s.Settled steps)
    (hfront : shorter <+: steps) : s.Settled shorter where
  above := h.above
  below way place hway := h.below way place (hway.trans hfront)

/-! ## Two spellings -/

/-- A directory that is spelled with segments, which are listed from the last to the first.  The
configuration files in it and around it can be looked up. -/
structure Spells (absolute : Bool) (reversed : List Text) (directory : Path) : Prop where
  origin : directory.isAbsolute = absolute
  steps : directory.steps = Path.stepsOf reversed
  checked : ∀ other ∈ directory :: Path.outerPaths absolute reversed,
    FileTree.checkPath (other.join configName) = .ok ()

namespace Spells

variable {absolute : Bool} {reversed : List Text} {segment : Text}

/-- A segment that means nothing makes no difference. -/
theorem skip (h : Spells absolute (segment :: reversed) directory)
    (hidle : Path.isIdle absolute reversed.isEmpty segment = true) :
    Spells absolute reversed directory where
  origin := h.origin
  steps := h.steps.trans (Path.stepsOf_cons_of_idles (Path.idles_of_isIdle hidle) _)
  checked other hother := h.checked other (by rwa [Path.outerPaths, if_pos hidle])

/-- The next directory is spelled with the other segments. -/
theorem inner (h : Spells absolute (segment :: reversed) directory)
    (hwritten : Path.Written absolute reversed)
    (hkept : Path.isIdle absolute reversed.isEmpty segment = false) :
    Spells absolute reversed (Path.ofReversed absolute (Path.dropIdle absolute reversed)) where
  origin := (Path.steps_ofReversed_dropIdle hwritten).1
  steps := (Path.steps_ofReversed_dropIdle hwritten).2
  checked other hother := by
    refine h.checked other (List.mem_cons_of_mem _ ?_)
    rw [Path.outerPaths_of_not_isIdle hkept]
    exact hother

/-- The directories around lead along fewer steps. -/
theorem length_lt (h : Spells absolute (segment :: reversed) directory)
    (hwritten : Path.Written absolute reversed) (hstep : Path.idles segment = false) :
    ∀ other ∈ Path.outward absolute reversed, other.steps.length < directory.steps.length := by
  intro other hother
  have hlength := (Path.mem_outward hwritten hother).2.length_le
  rw [h.steps, Path.stepsOf_cons hstep, List.length_append, List.length_singleton]
  omega

/-- From a relative spelling, the steps lead on from the current directory. -/
theorem place?_of_relative (h : Spells false reversed directory) :
    s.place? directory = s.placeAt? s.current (Path.stepsOf reversed) := by
  rw [place?_eq (h.checked _ List.mem_cons_self), FileTree.origin, h.origin, h.steps]
  rfl

/-- So they do from a spelling that goes through the current directory. -/
theorem place?_of_absolute (hs : s.Placed)
    (h : Spells true (reversed ++ s.current.reverse) directory) :
    s.place? directory = s.placeAt? s.current (Path.stepsOf reversed) := by
  rw [place?_eq (h.checked _ List.mem_cons_self), FileTree.origin, h.origin, h.steps,
    hs.stepsOf_append, ← hs.placeAt?_current]
  rfl

end Spells

/-- Above the current directory nothing counts. -/
theorem gathered_current (hs : s.Placed) {steps : List Text} (hsettled : s.Settled steps)
    (h : Spells true s.current.reverse directory) :
    s.gathered toml (directory :: Path.outerPaths true s.current.reverse) =
      s.lay toml (s.placeAt? s.current []) (s.gathered toml []) := by
  have habove : s.gathered toml (Path.outerPaths true s.current.reverse) = s.gathered toml [] := by
    refine gathered_of_home fun other hother => ?_
    rcases hs.mem_outerPaths_current hother with ⟨hroot, hfront, hne⟩
    rw [place?_eq (h.checked other (List.mem_cons_of_mem _ hother)), FileTree.origin, hroot]
    exact hsettled.above _ hfront hne
  have hsteps : directory.steps = s.current :=
    h.steps.trans ((hs.stepsOf_append []).trans (List.append_nil _))
  have hplace : s.place? directory = s.placeAt? s.current [] :=
    Spells.place?_of_absolute hs (show Spells true ([] ++ s.current.reverse) directory from h)
  rw [gathered_cons, habove, hplace]
  rintro place - (hhome | ⟨other, hother, heq⟩)
  · rw [habove, gathered_nil, hhome, lay_lay]
  · exact absurd (heq.trans hsteps) (hs.mem_outerPaths_current hother).2.2

/-- A directory on the way from the current one counts as what its file says. -/
theorem gathered_below {directories : List Path} {steps : List Text} (hsettled : s.Settled steps)
    (hne : steps ≠ []) (hplace : s.place? directory = s.placeAt? s.current steps)
    (hlonger : ∀ other ∈ directories, other.steps.length < directory.steps.length) :
    s.gathered toml (directory :: directories) =
      s.lay toml (s.placeAt? s.current steps) (s.gathered toml directories) := by
  rw [gathered_cons, hplace]
  rintro place hsome (hhome | ⟨other, hother, heq⟩)
  · exact absurd hhome (hsettled.below steps place List.prefix_rfl hne (hplace ▸ hsome))
  · have hlength := hlonger other hother
    rw [heq] at hlength
    exact absurd hlength (Nat.lt_irrefl _)

/-- The directories around a path that starts from the current directory make the same
configuration as those around the path from the root. -/
theorem gathered_outward (hs : s.Placed) {relative absolute : Path} {reversed : List Text}
    (hsettled : s.Settled (Path.stepsOf reversed)) (hwritten : Path.Written false reversed)
    (hrelative : Spells false reversed relative)
    (habsolute : Spells true (reversed ++ s.current.reverse) absolute) :
    s.gathered toml (absolute :: Path.outerPaths true (reversed ++ s.current.reverse)) =
      s.gathered toml (relative :: Path.outerPaths false reversed) := by
  induction reversed generalizing relative absolute with
  | nil =>
    rw [Path.outerPaths, gathered_singleton, hrelative.place?_of_relative]
    exact gathered_current hs hsettled habsolute
  | cons segment rest ih =>
    cases hidle : Path.idles segment with
    | true =>
      rw [Path.stepsOf_cons_of_idles hidle] at hsettled
      have hskip : Path.isIdle true (rest ++ s.current.reverse).isEmpty segment = true := by
        rw [Path.isIdle_absolute, hidle]
      rw [List.cons_append, Path.outerPaths, if_pos hskip]
      cases hfirst : Path.isIdle false rest.isEmpty segment with
      | true =>
        rw [Path.outerPaths, if_pos hfirst]
        exact ih hsettled hwritten.tail (hrelative.skip hfirst) (habsolute.skip hskip)
      | false =>
        -- A point that opens the path stands for the current directory, which comes once more.
        cases Path.eq_nil_of_not_isIdle hidle hfirst
        have hinner : Spells false [] [] := hrelative.inner hwritten.tail hfirst
        have hplace : s.place? relative = s.place? [] := by
          rw [hrelative.place?_of_relative, hinner.place?_of_relative,
            Path.stepsOf_cons_of_idles hidle]
        rw [Path.outerPaths_of_not_isIdle hfirst]
        exact (ih hsettled hwritten.tail hinner (habsolute.skip hskip)).trans
          (gathered_twice hplace).symm
    | false =>
      have hkept := Path.isIdle_eq_false hidle
      have hjoined := hs.written_append hwritten.tail
      rw [List.cons_append] at habsolute
      have hinner := ih (hsettled.mono ⟨_, (Path.stepsOf_cons hidle rest).symm⟩) hwritten.tail
        (hrelative.inner hwritten.tail (hkept _ _)) (habsolute.inner hjoined (hkept _ _))
      have hne : Path.stepsOf (segment :: rest) ≠ [] := by simp [Path.stepsOf_cons hidle]
      rw [List.cons_append, Path.outerPaths_of_not_isIdle (hkept _ _),
        Path.outerPaths_of_not_isIdle (hkept _ _),
        gathered_below hsettled hne (Spells.place?_of_absolute hs habsolute)
          (habsolute.length_lt hjoined hidle),
        gathered_below hsettled hne hrelative.place?_of_relative
          (hrelative.length_lt hwritten.tail hidle)]
      exact congrArg _ hinner

/-! ## Starting from the current directory or from the root -/

/-- The current directory is written with its names. -/
theorem segments_currentPath (hs : s.Placed) (hne : s.current ≠ []) :
    s.currentPath.segments = s.current :=
  List.splitOn_intercalate '/' (fun name hname => (hs.names name hname).slash) hne

/-- A path in the current directory, written from the root. -/
theorem join_currentPath (hs : s.Placed) {path : Path} (hrelative : path.isAbsolute = false) :
    (s.currentPath.join path).isAbsolute = true ∧
      (s.currentPath.join path).segments = s.current ++ path.segments := by
  have hsegments : path.segments = path.splitOn '/' := by
    rw [Path.segments, hrelative]
    rfl
  rw [Path.join, hrelative, if_neg Bool.false_ne_true]
  by_cases hroot : s.current = []
  · have hcurrent : s.currentPath = ['/'] := by rw [currentPath, hroot]; rfl
    rw [hcurrent, hroot, if_pos (.inr rfl)]
    exact ⟨rfl, hsegments.symm⟩
  · have hslash : ¬ (s.currentPath = [] ∨ s.currentPath.getLast? = some '/') := by
      rintro (hnone | hlast)
      · cases hnone
      · obtain ⟨start, hstart⟩ := List.getLast?_eq_some_iff.1 hlast
        have hempty : [] ∈ s.current := by
          rw [← segments_currentPath hs hroot, hstart]
          cases start with
          | nil => exact List.mem_singleton_self _
          | cons c rest =>
            rw [Path.segments_append_slash (by simp) (by simp)]
            exact List.mem_append_right _ (List.mem_singleton_self _)
        have hplain := (hs.names [] hempty).plain
        revert hplain
        decide
    rw [if_neg hslash]
    refine ⟨rfl, ?_⟩
    have hbody := @List.splitOn_append_cons_self _ _ _ '/' (List.intercalate ['/'] s.current) path
    rw [← hsegments] at hbody
    exact hbody.trans (congrArg (· ++ path.segments) (segments_currentPath hs hroot))

/-- The current directory and the root are two origins of one path. -/
theorem resolve_join (hs : s.Placed) {path : Path} (hrelative : path.isAbsolute = false)
    (hpath : FileTree.checkPath path = .ok ())
    (hjoin : FileTree.checkPath (s.currentPath.join path) = .ok ()) :
    s.tree.resolve s.current (s.currentPath.join path) = s.tree.resolve s.current path := by
  rcases join_currentPath hs hrelative with ⟨habsolute, hsegments⟩
  have hfollow : s.tree.followAll [] (s.current ++ path.segments) =
      s.tree.followAll s.current path.segments := by
    rw [FileTree.followAll_append, hs.followAll_current]
    rfl
  rw [FileTree.resolve, FileTree.resolve, hpath, hjoin, FileTree.origin, FileTree.origin, habsolute,
    hrelative, hsegments, if_pos rfl, if_neg Bool.false_ne_true, hfollow]

/-- The paths that the system takes. -/
theorem checkPath_eq_ok_iff {path : Path} :
    FileTree.checkPath path = .ok () ↔
      '\x00' ∉ path ∧ path ≠ [] ∧ (Text.utf8 path).length < FileTree.maxPath := by
  unfold FileTree.checkPath
  split
  · simp [*]
  · split
    · simp [*]
    · split
      · simp [*]
      · simp [*]
        omega

theorem length_utf8_slash (before after : Text) :
    (Text.utf8 (before ++ '/' :: after)).length =
      (Text.utf8 before).length + 1 + (Text.utf8 after).length := by
  have hslash : (Text.utf8 ['/']).length = 1 := by decide
  rw [List.append_cons, Text.utf8_append, Text.utf8_append, List.length_append, List.length_append,
    hslash]

/-- The configuration files around a path can be looked up if the path is not too long. -/
theorem checkPath_of_mem_ancestors {path : Path} (hnul : '\x00' ∉ path)
    (hshort : (Text.utf8 (path ++ '/' :: configName)).length < FileTree.maxPath) :
    ∀ directory ∈ path.ancestors, FileTree.checkPath (directory.join configName) = .ok () := by
  intro directory hdirectory
  obtain ⟨rest, rfl⟩ := Path.prefix_of_mem_ancestors hdirectory
  have hname : '\x00' ∉ configName ∧ configName ≠ [] := by decide
  rw [List.mem_append, not_or] at hnul
  rw [length_utf8_slash, Text.utf8_append, List.length_append] at hshort
  rw [checkPath_eq_ok_iff]
  have hrelative : Path.isAbsolute configName = false := rfl
  rcases Path.join_eq directory hrelative with hjoin | hjoin
  · rw [hjoin, Text.utf8_append, List.length_append]
    refine ⟨?_, by simp [hname.2], by omega⟩
    simp [hnul.1, hname.1]
  · rw [hjoin, length_utf8_slash]
    refine ⟨?_, by simp, by omega⟩
    simp [hnul.1, hname.1]

/-- A relative path stands at the end of its path from the root. -/
theorem exists_join_eq (hs : s.Placed) {path : Path} (hrelative : path.isAbsolute = false) :
    ∃ start, s.currentPath.join path = start ++ path ∧ '\x00' ∉ start := by
  have hnul : '\x00' ∉ s.currentPath := by
    intro hmem
    rcases List.mem_cons.1 hmem with hslash | hmem
    · cases hslash
    · rcases Text.mem_intercalate hmem with hslash | ⟨name, hname, hmem⟩
      · simp at hslash
      · exact (hs.names name hname).nul hmem
  rcases Path.join_eq s.currentPath hrelative with hjoin | hjoin
  · exact ⟨s.currentPath, hjoin, hnul⟩
  · exact ⟨s.currentPath ++ ['/'], by rw [hjoin, List.append_assoc]; rfl, by simp [hnul]⟩

/-- The two spellings of a path that is not too long. -/
theorem spells_join (hs : s.Placed) {path : Path} (hrelative : path.isAbsolute = false)
    (hpath : FileTree.checkPath path = .ok ())
    (hshort :
      (Text.utf8 (s.currentPath.join path ++ '/' :: configName)).length < FileTree.maxPath) :
    FileTree.checkPath (s.currentPath.join path) = .ok () ∧
      Spells false path.segments.reverse path ∧
      Spells true (path.segments.reverse ++ s.current.reverse) (s.currentPath.join path) := by
  obtain ⟨start, hstart, hstartNul⟩ := exists_join_eq hs hrelative
  obtain ⟨habsolute, hsegments⟩ := join_currentPath hs hrelative
  obtain ⟨hnul, hne, -⟩ := checkPath_eq_ok_iff.1 hpath
  have hjoinNul : '\x00' ∉ s.currentPath.join path := by
    rw [hstart, List.mem_append, not_or]
    exact ⟨hstartNul, hnul⟩
  have hjoinReverse : (s.currentPath.join path).segments.reverse =
      path.segments.reverse ++ s.current.reverse := by
    rw [hsegments, List.reverse_append]
  have hjoinLength := length_utf8_slash (s.currentPath.join path) configName
  have hlength := length_utf8_slash path configName
  have hstartLength : (Text.utf8 (s.currentPath.join path)).length =
      (Text.utf8 start).length + (Text.utf8 path).length := by
    rw [hstart, Text.utf8_append, List.length_append]
  refine ⟨checkPath_eq_ok_iff.2 ⟨hjoinNul, by simp [hstart, hne], by omega⟩,
    ⟨hrelative, path.steps_eq, ?_⟩, ⟨habsolute, ?_, ?_⟩⟩
  · have hchecked := checkPath_of_mem_ancestors hnul (by omega)
    rwa [Path.ancestors, hrelative] at hchecked
  · rw [Path.steps_eq, hjoinReverse]
  · have hchecked := checkPath_of_mem_ancestors hjoinNul hshort
    rwa [Path.ancestors, habsolute, hjoinReverse] at hchecked

/-- For a directory the search starts at its path. -/
theorem startDirectory_of_directory {path : Path}
    (h : s.tree.find s.current path = .ok .directory) : s.startDirectory path = path := by
  simp [startDirectory, isFile, FileTree.isFile, FileTree.isDirectory, h]

/-- For a file the search starts at the directory around its path. -/
theorem startDirectory_of_file {path : Path} {content : Bytes}
    (h : s.tree.find s.current path = .ok (.file content)) :
    s.startDirectory path = path.parent?.getD [] := by
  simp [startDirectory, isFile, FileTree.isFile, h]

/-- The search from the current directory and the search from the root start with two spellings
of one directory. -/
theorem exists_spells_startDirectory (hs : s.Placed) {path : Path} {node : Node}
    (hrelative : path.isAbsolute = false) (hexists : s.tree.find s.current path = .ok node)
    (hshort :
      (Text.utf8 (s.currentPath.join path ++ '/' :: configName)).length < FileTree.maxPath) :
    ∃ reversed, Path.Written false reversed ∧
      Spells false reversed (s.startDirectory path) ∧
      Spells true (reversed ++ s.current.reverse) (s.startDirectory (s.currentPath.join path)) ∧
      (s.startDirectory path).ancestors =
        s.startDirectory path :: Path.outerPaths false reversed ∧
      (s.startDirectory (s.currentPath.join path)).ancestors =
        s.startDirectory (s.currentPath.join path) ::
          Path.outerPaths true (reversed ++ s.current.reverse) := by
  have hpath := (FileTree.find_eq_ok_iff.1 hexists).1
  obtain ⟨hjoin, hspells, hjoinSpells⟩ := spells_join hs hrelative hpath hshort
  obtain ⟨habsolute, hsegments⟩ := join_currentPath hs hrelative
  have hjoinReverse : (s.currentPath.join path).segments.reverse =
      path.segments.reverse ++ s.current.reverse := by
    rw [hsegments, List.reverse_append]
  have hfind : s.tree.find s.current (s.currentPath.join path) = .ok node := by
    rw [FileTree.find, resolve_join hs hrelative hpath hjoin]
    exact hexists
  have hwritten := Path.written_segments (checkPath_eq_ok_iff.1 hpath).2.1
  rw [hrelative] at hwritten
  cases node with
  | directory =>
    rw [startDirectory_of_directory hexists, startDirectory_of_directory hfind]
    refine ⟨_, hwritten, hspells, hjoinSpells, ?_, ?_⟩
    · rw [Path.ancestors, hrelative]
    · rw [Path.ancestors, habsolute, hjoinReverse]
  | file content =>
    -- The last segment names the file, and the others spell the directory around it.
    obtain ⟨segment, rest, hreverse, hstep⟩ := FileTree.exists_step_of_find_file hexists
    rw [hreverse] at hwritten hspells hjoinSpells hjoinReverse
    rw [List.cons_append] at hjoinSpells hjoinReverse
    have hkept := Path.isIdle_eq_false hstep
    have hjoined := hs.written_append hwritten.tail
    have hparent := Path.parent?_of_step hreverse hstep
    have hjoinParent := Path.parent?_of_step hjoinReverse hstep
    rw [hrelative] at hparent
    rw [habsolute] at hjoinParent
    rw [startDirectory_of_file hexists, startDirectory_of_file hfind, hparent, hjoinParent,
      Option.getD_some, Option.getD_some]
    exact ⟨rest, hwritten.tail, hspells.inner hwritten.tail (hkept _ _),
      hjoinSpells.inner hjoined (hkept _ _), Path.ancestors_ofReversed hwritten.tail,
      Path.ancestors_ofReversed hjoined⟩

/-- The configuration for a document does not depend on the spelling of its path, as long as
the directories above the current one have no configuration file but that of the home
directory, and the home directory is not on the way from the current one to the document. -/
theorem ofFiles_discover_join (toml : Toml.Reader) (hs : s.Placed) {path : Path} {node : Node}
    (hrelative : path.isAbsolute = false) (hexists : s.tree.find s.current path = .ok node)
    (hshort : (Text.utf8 (s.currentPath.join path ++ '/' :: configName)).length < FileTree.maxPath)
    (hsettled : s.Settled (s.startDirectory path).steps) :
    Config.ofFiles toml s.tree s.current (s.discover (s.currentPath.join path)) =
      Config.ofFiles toml s.tree s.current (s.discover path) := by
  obtain ⟨reversed, hwritten, hspells, hjoinSpells, hancestors, hjoinAncestors⟩ :=
    exists_spells_startDirectory hs hrelative hexists hshort
  rw [hspells.steps] at hsettled
  rw [discover_eq, discover_eq, hancestors, hjoinAncestors]
  exact gathered_outward hs hsettled hwritten hspells hjoinSpells

/-- A home directory above the current one. -/
theorem ofFiles_discover_join_home :
    let s : Surroundings :=
      { tree := ⟨[(["u".toList, configName], .file (Text.utf8 "width = 9".toList)),
          (["u".toList, "docs".toList, configName], .file (Text.utf8 "indent = true".toList)),
          (["u".toList, "docs".toList, "a".toList, "b".toList], .file [])]⟩,
        current := ["u".toList, "docs".toList], home := some "/u".toList }
    Config.ofFiles Toml.ofText? s.tree s.current (s.discover "/u/docs/a/b".toList) =
        Config.ofFiles Toml.ofText? s.tree s.current (s.discover "a/b".toList) ∧
      Config.ofFiles Toml.ofText? s.tree s.current (s.discover "a/b".toList) =
        { width := 9, indent := true } := by
  intro s
  have hs : s.Placed := by
    constructor
    · intro name hname
      simp only [s, List.mem_cons, List.not_mem_nil, or_false] at hname
      rcases hname with rfl | rfl <;> constructor <;> decide
    · intro around haround
      simp only [s, List.prefix_cons_iff, List.prefix_nil] at haround
      rcases haround with rfl | ⟨_, rfl, rfl | ⟨_, rfl, rfl⟩⟩ <;> decide
  have hsettled : s.Settled (s.startDirectory "a/b".toList).steps := by
    have hsteps : (s.startDirectory "a/b".toList).steps = ["a".toList] := by decide +kernel
    rw [hsteps]
    constructor
    · intro around haround hne
      simp only [s, List.prefix_cons_iff, List.prefix_nil] at haround
      rcases haround with rfl | ⟨_, rfl, rfl | ⟨_, rfl, rfl⟩⟩
      · exact .inl (by decide +kernel)
      · exact .inr (by decide +kernel)
      · exact absurd rfl hne
    · intro way place hway hne hplace
      simp only [List.prefix_cons_iff, List.prefix_nil] at hway
      rcases hway with rfl | ⟨_, rfl, rfl⟩
      · exact absurd rfl hne
      · have hnone : s.placeAt? s.current ["a".toList] = none := by decide +kernel
        cases hnone.symm.trans hplace
  have hrelative : Path.isAbsolute "a/b".toList = false := rfl
  have hsame := ofFiles_discover_join Toml.ofText? hs hrelative rfl (by decide +kernel) hsettled
  exact ⟨hsame, by decide +kernel⟩

/-- A path that starts from the current directory does not lead to the configuration files
above that directory. -/
theorem not_ofFiles_discover_join :
    ¬ ∀ (s : Surroundings) (path : Path) (node : Node), s.Placed → path.isAbsolute = false →
      s.tree.find s.current path = .ok node →
      Config.ofFiles Toml.ofText? s.tree s.current (s.discover (s.currentPath.join path)) =
        Config.ofFiles Toml.ofText? s.tree s.current (s.discover path) := by
  intro h
  let s : Surroundings :=
    { tree := ⟨[([configName], .file (Text.utf8 "width = 5".toList)),
        (["work".toList, "doc.ltx".toList], .file [])]⟩,
      current := ["work".toList] }
  have hs : s.Placed := by
    constructor
    · intro name hname
      simp only [s, List.mem_singleton] at hname
      subst hname
      constructor <;> decide
    · intro around haround
      simp only [s, List.prefix_cons_iff, List.prefix_nil] at haround
      rcases haround with rfl | ⟨_, rfl, rfl⟩ <;> decide
  have hsame := h s "doc.ltx".toList (.file []) hs rfl rfl
  revert hsame
  decide +kernel

-- The home directory is on the way: under its own path its file is passed over the second
-- time, and under the other path it is laid over that of the directory around it.
example :
    let s : Surroundings :=
      { tree := ⟨[(["work".toList, configName], .file (Text.utf8 "width = 5".toList)),
          (["work".toList, "sub".toList, configName], .file (Text.utf8 "width = 7".toList)),
          (["work".toList, "sub".toList, "doc".toList], .file [])]⟩,
        current := ["work".toList], home := some "/work/sub".toList }
    (Config.ofFiles Toml.ofText? s.tree s.current (s.discover "/work/sub/doc".toList)).width = 5 ∧
      (Config.ofFiles Toml.ofText? s.tree s.current (s.discover "sub/doc".toList)).width = 7 := by
  decide +kernel

end Surroundings

end PlainPage
