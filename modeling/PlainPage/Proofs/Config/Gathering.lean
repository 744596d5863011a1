import PlainPage.Config.Discovery
import PlainPage.Proofs.Config.Layering
import PlainPage.Proofs.File.Tree

/-!
# Gathering configuration files

A configuration file counts by its place in the file tree.  It is laid over the others unless
its path has the components of one that is listed already, which then is in the same place.
How the text of the file is read makes no difference to that, so the reader is a variable.

Main results:

- Definition `Surroundings.place?` is the place of the configuration file of a directory.
- Theorem `Surroundings.place?_eq` says that the place can be told from the steps of the path.
- Theorem `Surroundings.overlayFile_join` says that a configuration file counts by its place.
- Theorem `Surroundings.gathered_cons` says what one more directory adds.
-/

namespace PlainPage

namespace Surroundings

variable {toml : Toml.Reader} {s : Surroundings} {directory : Path} {directories : List Path}

/-! ## Places of configuration files -/

/-- The place of the configuration file of a directory, if it has one. -/
def place? (s : Surroundings) (directory : Path) : Option Location :=
  match s.tree.resolve s.current (directory.join configName) with
  | .ok (location, .file _) => some location
  | _ => none

/-- The place of the configuration file of the directory that steps lead to. -/
def placeAt? (s : Surroundings) (start : Location) (steps : List Text) : Option Location :=
  match s.tree.followAll start (steps ++ [configName]) with
  | .ok location =>
    match s.tree.node? location with
    | some (.file _) => some location
    | _ => none
  | .error _ => none

/-- The place of the configuration file of the home directory. -/
def homePlace? (s : Surroundings) : Option Location :=
  s.home.bind s.place?

theorem slash_not_mem_configName : '/' ∉ configName := by
  decide

/-- A directory has a configuration file exactly when that file has a place. -/
theorem isFile_join (s : Surroundings) (directory : Path) :
    s.isFile (directory.join configName) = (s.place? directory).isSome := by
  unfold isFile FileTree.isFile place? FileTree.find
  cases s.tree.resolve s.current (directory.join configName) with
  | error error => rfl
  | ok found =>
    obtain ⟨location, node⟩ := found
    cases node <;> rfl

/-- The place can be told from the steps of the path. -/
theorem place?_eq (h : FileTree.checkPath (directory.join configName) = .ok ()) :
    s.place? directory = s.placeAt? (FileTree.origin s.current directory) directory.steps := by
  rcases Path.exists_segments_join directory slash_not_mem_configName with
    ⟨around, hsegments, haround, habsolute⟩
  have horigin : FileTree.origin s.current (directory.join configName) =
      FileTree.origin s.current directory := by
    rw [FileTree.origin, habsolute, FileTree.origin]
  rw [place?, placeAt?, FileTree.resolve, h, horigin, hsegments, ← haround,
    ← FileTree.followAll_steps]
  cases s.tree.followAll (FileTree.origin s.current directory) (around ++ [configName]) with
  | error error => rfl
  | ok location =>
    simp only [bind, Except.bind]
    cases s.tree.node? location with
    | none => rfl
    | some node => cases node <;> rfl

/-- The system takes the path of a configuration file that has a place. -/
theorem checkPath_of_place? {place : Location} (h : s.place? directory = some place) :
    FileTree.checkPath (directory.join configName) = .ok () := by
  unfold place? at h
  split at h
  · rename_i hresolve
    exact (FileTree.resolve_eq_ok_iff.1 hresolve).1
  · cases h

/-- Paths of configuration files with the same components are those of directories with the
same steps. -/
theorem steps_eq_of_same_join {other : Path}
    (h : (directory.join configName).same (other.join configName) = true) :
    directory.isAbsolute = other.isAbsolute ∧ directory.steps = other.steps := by
  rcases Path.steps_eq_of_same h with ⟨habsolute, hsteps⟩
  rcases Path.exists_segments_join directory slash_not_mem_configName with ⟨_, -, -, hdirectory⟩
  rcases Path.exists_segments_join other slash_not_mem_configName with ⟨_, -, -, hother⟩
  have hplain : Path.idles configName = false := by decide
  rw [Path.steps_join _ slash_not_mem_configName hplain,
    Path.steps_join _ slash_not_mem_configName hplain, List.append_left_inj] at hsteps
  rw [hdirectory, hother] at habsolute
  exact ⟨habsolute, hsteps⟩

/-- Configuration files whose paths have the same components are in one place. -/
theorem place?_eq_of_same {other : Path} {place otherPlace : Location}
    (hsame : (directory.join configName).same (other.join configName) = true)
    (hplace : s.place? directory = some place) (hother : s.place? other = some otherPlace) :
    place = otherPlace := by
  rcases steps_eq_of_same_join hsame with ⟨habsolute, hsteps⟩
  have hfirst := place?_eq (s := s) (checkPath_of_place? hplace)
  have hsecond := place?_eq (s := s) (checkPath_of_place? hother)
  rw [hplace, FileTree.origin, habsolute, hsteps] at hfirst
  rw [hother, FileTree.origin] at hsecond
  exact Option.some.inj (hfirst.trans hsecond.symm)

/-! ## What a configuration file says -/

/-- What the file in a place says. -/
def layerAt? (toml : Toml.Reader) (s : Surroundings) (place : Location) : Option Layer := do
  Layer.ofToml? toml (← Text.ofUtf8? (← (s.tree.contentAt place).toOption))

/-- The configuration with what the file in a place says over it. -/
def lay (toml : Toml.Reader) (s : Surroundings) (place : Option Location) (c : Config) : Config :=
  match place.bind (s.layerAt? toml) with
  | some layer => c.overlay layer
  | none => c

@[simp] theorem lay_none (c : Config) : s.lay toml none c = c := rfl

/-- A file that is laid over a configuration twice in a row counts once. -/
@[simp] theorem lay_lay (place : Option Location) (c : Config) :
    s.lay toml place (s.lay toml place c) = s.lay toml place c := by
  unfold lay
  cases place.bind (s.layerAt? toml) with
  | none => rfl
  | some layer => exact c.overlay_overlay layer

/-- What the configuration file of a directory says, if it is usable. -/
def layerIn? (toml : Toml.Reader) (s : Surroundings) (directory : Path) : Option Layer :=
  (Layer.ofFile toml s.tree s.current (directory.join configName)).toOption

/-- What a configuration file says depends on its place. -/
theorem layerIn?_eq (s : Surroundings) (directory : Path) :
    s.layerIn? toml directory = (s.place? directory).bind (s.layerAt? toml) := by
  unfold layerIn? Layer.ofFile FileTree.read FileTree.find place? layerAt?
  cases hresolve : s.tree.resolve s.current (directory.join configName) with
  | error error => rfl
  | ok found =>
    obtain ⟨location, node⟩ := found
    cases node with
    | directory => rfl
    | file content =>
      have hcontent : s.tree.contentAt location = .ok content := by
        rw [FileTree.contentAt, FileTree.node?_of_resolve hresolve]
        rfl
      simp only [bind, Except.bind, pure, Except.pure, FileTree.contentOf, Option.bind_some,
        hcontent, Except.toOption]
      cases Text.ofUtf8? content with
      | none => rfl
      | some text =>
        dsimp only [Option.bind]
        cases Layer.ofToml? toml text <;> rfl

/-- A configuration file counts by its place. -/
theorem overlayFile_join (c : Config) (directory : Path) :
    c.overlayFile toml s.tree s.current (directory.join configName) =
      s.lay toml (s.place? directory) c := by
  rw [lay, ← layerIn?_eq, layerIn?, Config.overlayFile]
  cases Layer.ofFile toml s.tree s.current (directory.join configName) <;> rfl

/-! ## Directories from the inside -/

/-- The configuration files that are found in the home directory and in directories, which are
listed from the inside. -/
def gather (s : Surroundings) (directories : List Path) : List Path :=
  directories.foldr (fun directory found => s.addCandidate found directory)
    (s.home.toList.foldl s.addCandidate [])

@[simp] theorem gather_cons (s : Surroundings) (directory : Path) (directories : List Path) :
    s.gather (directory :: directories) = s.addCandidate (s.gather directories) directory := rfl

/-- The configuration that the files in directories make of the defaults. -/
def gathered (toml : Toml.Reader) (s : Surroundings) (directories : List Path) : Config :=
  Config.ofFiles toml s.tree s.current (s.gather directories)

/-- The files are gathered from the outermost directory to the start. -/
theorem discover_eq (s : Surroundings) (start : Path) :
    s.discover start = s.gather (s.startDirectory start).ancestors := by
  rw [discover, searched, List.foldl_append, List.foldl_reverse]
  rfl

/-- A configuration file is listed if it has a place and no listed path is the same. -/
theorem addCandidate_eq (s : Surroundings) (found : List Path) (directory : Path) :
    s.addCandidate found directory =
      if (s.place? directory).isSome && !found.any (directory.join configName).same then
        found ++ [directory.join configName]
      else found := by
  rw [addCandidate, ← isFile_join]

/-- Every file that is found is the configuration file of the home directory or of one of the
directories. -/
theorem mem_gather {path : Path} (h : path ∈ s.gather directories) :
    ∃ directory place, path = directory.join configName ∧ s.place? directory = some place ∧
      (s.home = some directory ∨ directory ∈ directories) := by
  have hadded : ∀ {found directory}, path ∈ s.addCandidate found directory →
      path ∈ found ∨
        ∃ place, path = directory.join configName ∧ s.place? directory = some place := by
    intro found directory hpath
    rw [addCandidate_eq] at hpath
    split at hpath
    · rename_i hnew
      rcases List.mem_append.1 hpath with hold | hpath
      · exact .inl hold
      · rw [Bool.and_eq_true, Option.isSome_iff_exists] at hnew
        rcases hnew.1 with ⟨place, hplace⟩
        exact .inr ⟨place, List.mem_singleton.1 hpath, hplace⟩
    · exact .inl hpath
  induction directories with
  | nil =>
    cases hhome : s.home with
    | none => simp [gather, hhome] at h
    | some home =>
      simp only [gather, hhome, List.foldr_nil, Option.toList_some, List.foldl_cons,
        List.foldl_nil] at h
      rcases hadded h with hnone | ⟨place, hpath, hplace⟩
      · cases hnone
      · exact ⟨home, place, hpath, hplace, .inl rfl⟩
  | cons first rest ih =>
    rcases hadded h with hold | ⟨place, hpath, hplace⟩
    · rcases ih hold with ⟨directory, place, hpath, hplace, hwhere⟩
      exact ⟨directory, place, hpath, hplace, hwhere.imp_right (List.mem_cons_of_mem _)⟩
    · exact ⟨first, place, hpath, hplace, .inr List.mem_cons_self⟩

/-- Without directories only the home directory counts. -/
theorem gathered_nil (s : Surroundings) : s.gathered toml [] = s.lay toml s.homePlace? {} := by
  cases hhome : s.home with
  | none => simp [gathered, gather, hhome, homePlace?, Config.ofFiles]
  | some home =>
    simp only [gathered, gather, hhome, homePlace?, List.foldr_nil, Option.toList_some,
      List.foldl_cons, List.foldl_nil, addCandidate_eq, Option.bind_some]
    cases hplace : s.place? home with
    | none => rfl
    | some place =>
      have hlaid : Config.overlayFile toml s.tree s.current {} (home.join configName) =
          s.lay toml (s.place? home) {} := overlayFile_join {} home
      rw [hplace] at hlaid
      exact hlaid

/-- The configuration file of one more directory is laid over the others, unless it is passed
over because its path is listed already.  That makes no difference if its layer would make
none. -/
theorem gathered_cons
    (h : ∀ place, s.place? directory = some place →
      s.homePlace? = some place ∨ (∃ other ∈ directories, other.steps = directory.steps) →
      s.lay toml (some place) (s.gathered toml directories) = s.gathered toml directories) :
    s.gathered toml (directory :: directories) =
      s.lay toml (s.place? directory) (s.gathered toml directories) := by
  rw [gathered, gather_cons, addCandidate_eq]
  cases hplace : s.place? directory with
  | none => rfl
  | some place =>
    cases hany : (s.gather directories).any (directory.join configName).same with
    | false =>
      simp only [Option.isSome_some, Bool.not_false, Bool.and_self, if_true]
      rw [Config.ofFiles_append, ← hplace]
      exact overlayFile_join _ directory
    | true =>
      rcases List.any_eq_true.1 hany with ⟨path, hpath, hsame⟩
      rcases mem_gather hpath with ⟨other, otherPlace, rfl, hother, hwhere⟩
      cases place?_eq_of_same hsame hplace hother
      simp only [Bool.not_true, Bool.and_false, Bool.false_eq_true, if_false]
      refine (h place hplace ?_).symm
      rcases hwhere with hhome | hmem
      · exact .inl (by rw [homePlace?, hhome, Option.bind_some, hother])
      · exact .inr ⟨other, hmem, (steps_eq_of_same_join hsame).2.symm⟩

/-- One directory is laid over what the home directory says. -/
theorem gathered_singleton (s : Surroundings) (directory : Path) :
    s.gathered toml [directory] = s.lay toml (s.place? directory) (s.gathered toml []) := by
  refine gathered_cons fun place hplace hwhere => ?_
  rcases hwhere with hhome | ⟨_, hnone, -⟩
  · rw [gathered_nil, hhome, lay_lay]
  · cases hnone

/-- Directories that have nothing to say besides what the home directory says do not count. -/
theorem gathered_of_home
    (h : ∀ directory ∈ directories,
      s.place? directory = none ∨ s.place? directory = s.homePlace?) :
    s.gathered toml directories = s.gathered toml [] := by
  induction directories with
  | nil => rfl
  | cons first rest ih =>
    rw [List.forall_mem_cons] at h
    have habsorbed : s.lay toml (s.place? first) (s.gathered toml rest) = s.gathered toml rest := by
      rw [ih h.2, gathered_nil]
      rcases h.1 with hnone | hhome
      · rw [hnone, lay_none]
      · rw [hhome, lay_lay]
    rw [gathered_cons fun place hplace _ => hplace ▸ habsorbed, habsorbed, ih h.2]

/-- Two spellings of the current directory count as one. -/
theorem gathered_twice {other : Path} (h : s.place? directory = s.place? other) :
    s.gathered toml [directory, other] = s.gathered toml [other] := by
  have habsorbed :
      s.lay toml (s.place? directory) (s.gathered toml [other]) = s.gathered toml [other] := by
    rw [gathered_singleton, h, lay_lay]
  rw [gathered_cons fun place hsome _ => hsome ▸ habsorbed, habsorbed]

end Surroundings

end PlainPage
