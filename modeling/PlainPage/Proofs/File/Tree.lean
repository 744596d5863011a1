import PlainPage.File.Tree
import PlainPage.Proofs.File.Path
import PlainPage.Proofs.Settings.Changes

/-!
# Paths in a file tree

Only from a directory does a segment lead anywhere, so of the segments before a name only
those count that lead to another place.  A file is created only in a directory that exists and
never in the place of a directory.  So writing it changes what stands at that one location and
nothing else, and the path that led to the location leads to the new file.

Main results:

- Theorem `FileTree.find_eq_ok_iff` says what a path finds.
- Theorem `FileTree.followAll_steps` says that segments which lead nowhere can be left out.
- Theorem `FileTree.followAll_names` says where names lead.
- Theorem `FileTree.exists_of_target` says where a path would create a file.
- Theorem `FileTree.node?_put_of_ne` says that writing a file changes no other location.
- Theorem `FileTree.read_put_of_target` says that a written file is read back by its path.
-/

namespace PlainPage

namespace FileTree

variable {tree : FileTree} {current location : Location} {path : Path}

/-! ## One location changes -/

/-- Writing twice is writing the second time. -/
@[simp] theorem put_put (tree : FileTree) (location : Location) (first second : Bytes) :
    (tree.put location first).put location second = tree.put location second := by
  have hnodes : ∀ nodes, putFile location second (putFile location first nodes) =
      putFile location second nodes := by
    intro nodes
    induction nodes with
    | nil => simp [putFile]
    | cons entry rest ih =>
      obtain ⟨place, node⟩ := entry
      by_cases hplace : place = location <;> simp [putFile, hplace, ih]
  simp [put, hnodes]

/-- The locations that are listed after a file is written. -/
theorem any_putFile (p : Location → Bool) (location : Location) (content : Bytes)
    (nodes : List (Location × Node)) :
    (putFile location content nodes).any (p ·.1) = (p location || nodes.any (p ·.1)) := by
  induction nodes with
  | nil => simp [putFile]
  | cons entry rest ih =>
    obtain ⟨place, node⟩ := entry
    by_cases hplace : place = location
    · simp [putFile, hplace]
    · simp [putFile, hplace, ih, Bool.or_left_comm]

/-- What is listed is among the nodes. -/
theorem exists_mem_of_listed? {node : Node} {nodes : List (Location × Node)}
    (h : listed? location nodes = some node) : ∃ entry ∈ nodes, entry.1 = location := by
  induction nodes with
  | nil => cases h
  | cons entry rest ih =>
    obtain ⟨place, other⟩ := entry
    by_cases hplace : place = location
    · exact ⟨_, List.mem_cons_self, hplace⟩
    · rw [listed?, if_neg hplace] at h
      rcases ih h with ⟨entry, hentry, heq⟩
      exact ⟨entry, List.mem_cons_of_mem _ hentry, heq⟩

/-- Whatever is around a location at which something stands is on the way to a listed
location, or is the root. -/
theorem any_isPrefixOf_of_node? {node : Node} {around : Location}
    (h : tree.node? location = some node) (hfront : around <+: location) :
    around = [] ∨ tree.nodes.any (around.isPrefixOf ·.1) = true := by
  have hreach : location = [] ∨ ∃ entry ∈ tree.nodes, location <+: entry.1 := by
    unfold node? at h
    cases hlisted : listed? location tree.nodes with
    | some other =>
      rcases exists_mem_of_listed? hlisted with ⟨entry, hentry, rfl⟩
      exact .inr ⟨entry, hentry, List.prefix_rfl⟩
    | none =>
      simp only [hlisted, Option.ite_none_right_eq_some] at h
      simpa using h.1
  rcases hreach with rfl | ⟨entry, hentry, hlocation⟩
  · exact .inl (List.prefix_nil.1 hfront)
  · exact .inr (List.any_eq_true.2 ⟨entry, hentry, by simpa using hfront.trans hlocation⟩)

/-- Writing a file in a directory changes no other location. -/
theorem node?_put_of_ne {other : Location} (content : Bytes)
    (haround : tree.node? location.dropLast = some .directory) (hne : other ≠ location) :
    (tree.put location content).node? other = tree.node? other := by
  have hnew : other.isPrefixOf location = true →
      other = [] ∨ tree.nodes.any (other.isPrefixOf ·.1) = true := by
    intro hfront
    rw [List.isPrefixOf_iff_prefix] at hfront
    -- What is around the new file is around its directory, which is already there.
    have hdirectory : other <+: location.dropLast := by
      rcases hfront with ⟨rest, rfl⟩
      have hrest : rest ≠ [] := by
        rintro rfl
        exact hne (List.append_nil other).symm
      exact ⟨rest.dropLast, (List.dropLast_append_of_ne_nil hrest).symm⟩
    exact any_isPrefixOf_of_node? haround hdirectory
  unfold node?
  simp only [put, listed?_putFile_of_ne hne, any_putFile]
  cases listed? other tree.nodes with
  | some node => rfl
  | none =>
    cases hfront : other.isPrefixOf location with
    | false => rw [Bool.false_or]
    | true => rcases hnew hfront with rfl | hany <;> simp [*]

/-! ## Where a file is found -/

/-- When a path leads somewhere. -/
theorem resolve_eq_ok_iff {node : Node} :
    tree.resolve current path = .ok (location, node) ↔
      checkPath path = .ok () ∧
        tree.followAll (origin current path) path.segments = .ok location ∧
        tree.node? location = some node := by
  unfold resolve
  simp only [bind_eq_ok_iff]
  constructor
  · rintro ⟨⟨⟩, hcheck, found, hfollow, hnode⟩
    split at hnode
    · cases hnode
      exact ⟨hcheck, hfollow, by assumption⟩
    · cases hnode
  · rintro ⟨hcheck, hfollow, hnode⟩
    exact ⟨(), hcheck, location, hfollow, by rw [hnode]; rfl⟩

/-- A path that leads somewhere leads to a node. -/
theorem node?_of_resolve {node : Node} (h : tree.resolve current path = .ok (location, node)) :
    tree.node? location = some node :=
  (resolve_eq_ok_iff.1 h).2.2

/-- What a path finds is at the end of its segments. -/
theorem find_eq_ok_iff {node : Node} :
    tree.find current path = .ok node ↔
      checkPath path = .ok () ∧
        ∃ location, tree.followAll (origin current path) path.segments = .ok location ∧
          tree.node? location = some node := by
  unfold find
  rw [bind_eq_ok_iff]
  constructor
  · rintro ⟨⟨location, found⟩, hresolve, heq⟩
    cases heq
    obtain ⟨hcheck, hfollow, hnode⟩ := resolve_eq_ok_iff.1 hresolve
    exact ⟨hcheck, location, hfollow, hnode⟩
  · rintro ⟨hcheck, location, hfollow, hnode⟩
    exact ⟨_, resolve_eq_ok_iff.2 ⟨hcheck, hfollow, hnode⟩, rfl⟩

/-! ## Segments that lead somewhere -/

/-- Only from a directory does a segment lead anywhere. -/
theorem node?_of_follow {directory next : Location} {segment : Text}
    (h : tree.follow directory segment = .ok next) : tree.node? directory = some .directory := by
  unfold follow at h
  split at h <;> simp_all

/-- Segments are followed one part after the other. -/
theorem followAll_append (tree : FileTree) (start : Location) (first second : List Text) :
    tree.followAll start (first ++ second) =
      (tree.followAll start first).bind (tree.followAll · second) := by
  induction first generalizing start with
  | nil => rfl
  | cons segment rest ih =>
    simp only [List.cons_append, followAll, bind]
    cases tree.follow start segment with
    | error error => rfl
    | ok next => exact ih next

/-- From what is no directory nothing is reached, whatever the segments are. -/
theorem exists_followAll_eq_error {start : Location} (h : tree.node? start ≠ some .directory) :
    ∃ error, ∀ segments, segments ≠ [] → tree.followAll start segments = .error error := by
  have hall : ∀ error, (∀ segment, tree.follow start segment = .error error) →
      ∀ segments, segments ≠ [] → tree.followAll start segments = .error error := by
    intro error hfollow segments hne
    cases segments with
    | nil => exact absurd rfl hne
    | cons segment rest => rw [followAll, hfollow]; rfl
  cases hnode : tree.node? start with
  | none => exact ⟨.notFound, hall _ fun _ => by rw [follow, hnode]⟩
  | some node =>
    cases node with
    | file content => exact ⟨.notDirectory, hall _ fun _ => by rw [follow, hnode]⟩
    | directory => exact absurd hnode h

/-- A segment that leads nowhere stays in its directory. -/
theorem follow_of_idles {start : Location} {segment : Text} (h : Path.idles segment = true)
    (hstart : tree.node? start = some .directory) : tree.follow start segment = .ok start := by
  have hidle : segment = [] ∨ segment = Path.here := by simpa [Path.idles] using h
  rw [follow, hstart]
  exact if_pos hidle

/-- A path to a file ends in a step. -/
theorem exists_step_of_find_file {content : Bytes}
    (h : tree.find current path = .ok (.file content)) :
    ∃ segment rest, path.segments.reverse = segment :: rest ∧ Path.idles segment = false := by
  obtain ⟨segment, rest, hreverse⟩ : ∃ segment rest, path.segments.reverse = segment :: rest := by
    refine List.exists_cons_of_ne_nil fun hnil => ?_
    rw [List.reverse_eq_nil_iff, Path.segments_eq] at hnil
    exact List.splitOnP_ne_nil _ _ hnil
  have hsegments : path.segments = rest.reverse ++ [segment] := by
    rw [← List.reverse_reverse path.segments, hreverse, List.reverse_cons]
  refine ⟨segment, rest, hreverse, ?_⟩
  obtain ⟨-, location, hfollow, hfile⟩ := find_eq_ok_iff.1 h
  rw [hsegments, followAll_append] at hfollow
  rcases bind_eq_ok_iff.1 hfollow with ⟨before, -, hlast⟩
  rcases bind_eq_ok_iff.1 hlast with ⟨last, hsegment, hdone⟩
  cases hdone
  cases hidle : Path.idles segment with
  | false => rfl
  | true =>
    -- A segment that leads nowhere would stay in a directory.
    have hdirectory := node?_of_follow hsegment
    cases (follow_of_idles hidle hdirectory).symm.trans hsegment
    cases hdirectory.symm.trans hfile

/-- Before a name, the segments that lead nowhere can be left out. -/
theorem followAll_steps (tree : FileTree) (start : Location) (segments : List Text) (name : Text) :
    tree.followAll start (segments ++ [name]) =
      tree.followAll start (segments.filter (!Path.idles ·) ++ [name]) := by
  induction segments generalizing start with
  | nil => rfl
  | cons segment rest ih =>
    cases hidle : Path.idles segment with
    | false =>
      rw [List.filter_cons_of_pos (by simp [hidle]), List.cons_append, List.cons_append, followAll,
        followAll]
      cases tree.follow start segment with
      | error error => rfl
      | ok next => exact ih next
    | true =>
      rw [List.filter_cons_of_neg (by simp [hidle])]
      by_cases hstart : tree.node? start = some .directory
      · rw [List.cons_append, followAll, follow_of_idles hidle hstart]
        exact ih start
      · rcases exists_followAll_eq_error hstart with ⟨error, herror⟩
        rw [herror _ (by simp), herror _ (by simp)]

/-- What a file or a directory can be called. -/
structure IsName (name : Text) : Prop where
  plain : Path.idles name = false
  inner : name ≠ Path.up
  slash : '/' ∉ name
  nul : '\x00' ∉ name
  short : (Text.utf8 name).length ≤ maxName

/-- A name leads from a directory to what is under that name. -/
theorem follow_of_isName {start : Location} {name : Text} (h : IsName name)
    (hstart : tree.node? start = some .directory) :
    tree.follow start name = .ok (start ++ [name]) := by
  have hplain : ¬ (name = [] ∨ name = Path.here) := by
    have hidle := h.plain
    simpa [Path.idles] using hidle
  rw [follow, hstart]
  simp only [hplain, h.inner, if_false, Nat.not_lt.2 h.short]

/-- Names lead from directory to directory. -/
theorem followAll_names {start : Location} {names : List Text}
    (hnames : ∀ name ∈ names, IsName name)
    (hstart : ∀ around, around <+: names → tree.node? (start ++ around) = some .directory) :
    tree.followAll start names = .ok (start ++ names) := by
  induction names generalizing start with
  | nil => rw [followAll, List.append_nil]
  | cons name rest ih =>
    rw [List.forall_mem_cons] at hnames
    have hhere := hstart [] List.nil_prefix
    rw [List.append_nil] at hhere
    rw [followAll, follow_of_isName hnames.1 hhere]
    change tree.followAll (start ++ [name]) rest = _
    rw [ih hnames.2, List.append_assoc]
    · rfl
    · intro around haround
      have hnext := hstart (name :: around) ((List.prefix_cons_inj name).2 haround)
      rw [List.append_assoc]
      exact hnext

/-! ## Where a file is created -/

theorem follow_here {directory next : Location}
    (h : tree.follow directory Path.here = .ok next) : next = directory := by
  unfold follow at h
  rw [node?_of_follow h] at h
  cases h
  rfl

/-- A name leads into a directory. -/
theorem follow_name {directory next : Location} {name : Text} (hempty : name ≠ [])
    (hhere : name ≠ Path.here) (hup : name ≠ Path.up) (h : tree.follow directory name = .ok next) :
    next = directory ++ [name] := by
  have hnode := node?_of_follow h
  unfold follow at h
  simp only [hnode, hempty, hhere, hup, or_self, if_false] at h
  split at h
  · cases h
  · cases h
    rfl

/-- A path creates a file under a name of its own, in a directory that exists, and not in the
place of a directory. -/
theorem exists_of_target (h : tree.target current path = .ok location) :
    ∃ around directory name, path.segments = around ++ [name] ∧ checkPath path = .ok () ∧
      tree.followAll (origin current path) around = .ok directory ∧
      tree.follow directory name = .ok location ∧ location = directory ++ [name] ∧
      tree.node? location ≠ some .directory := by
  unfold target at h
  rcases bind_eq_ok_iff.1 h with ⟨⟨⟩, hcheck, h⟩
  dsimp only at h
  cases hrest : path.segments.reverse.dropWhile (· == []) with
  | nil =>
    rw [hrest] at h
    cases h
  | cons name around =>
    rw [hrest] at h
    rcases bind_eq_ok_iff.1 h with ⟨directory, haround, h⟩
    rcases bind_eq_ok_iff.1 h with ⟨same, hhere, h⟩
    cases follow_here hhere
    split at h
    · cases h
    · rename_i hplain
      simp only [not_or] at hplain
      rcases bind_eq_ok_iff.1 h with ⟨found, hname, h⟩
      split at h
      · cases h
      · rename_i hfree
        cases h
        -- The path does not end in a slash, so that nothing was dropped from its end.
        have hsegments : path.segments.reverse = name :: around := by
          cases hreversed : path.segments.reverse with
          | nil => simp [hreversed] at hrest
          | cons last more =>
            have hlast : last ≠ [] := by simpa [hreversed] using hplain.2.2
            rwa [hreversed, List.dropWhile_cons_of_neg (by simpa using hlast)] at hrest
        have hempty : name ≠ [] := by simpa [hsegments] using hplain.2.2
        refine ⟨around.reverse, directory, name, ?_, hcheck, haround, hname,
          follow_name hempty hplain.1 hplain.2.1 hname, hfree⟩
        rw [← List.reverse_reverse path.segments, hsegments, List.reverse_cons]

/-! ## Following paths in the new tree -/

section NewFile

variable (content : Bytes) (haround : tree.node? location.dropLast = some .directory)
  (hnew : tree.node? location ≠ some .directory)
include haround hnew

/-- The way along directories is the same after a file is written. -/
theorem follow_put {start next : Location} {segment : Text}
    (h : tree.follow start segment = .ok next) :
    (tree.put location content).follow start segment = .ok next := by
  have hne : start ≠ location := by
    rintro rfl
    exact hnew (node?_of_follow h)
  rw [follow, node?_put_of_ne content haround hne]
  exact h

/-- A file that is put into the tree blocks no way that was open. -/
theorem followAll_put {start next : Location} {segments : List Text}
    (h : tree.followAll start segments = .ok next) :
    (tree.put location content).followAll start segments = .ok next := by
  induction segments generalizing start with
  | nil => exact h
  | cons segment rest ih =>
    rcases bind_eq_ok_iff.1 h with ⟨between, hfirst, hrest⟩
    exact bind_eq_ok_iff.2 ⟨between, follow_put content haround hnew hfirst, ih hrest⟩

end NewFile

/-- The directory in which a path creates a file. -/
theorem node?_dropLast_of_target (h : tree.target current path = .ok location) :
    tree.node? location.dropLast = some .directory := by
  rcases exists_of_target h with ⟨_, directory, name, -, -, -, hname, rfl, -⟩
  rw [List.dropLast_concat]
  exact node?_of_follow hname

/-- A written file is read back by its path. -/
theorem read_put_of_target (h : tree.target current path = .ok location) (content : Bytes) :
    (tree.put location content).read current path = .ok content := by
  have hdirectory := node?_dropLast_of_target h
  rcases exists_of_target h with
    ⟨around, directory, name, hsegments, hcheck, haround, hname, -, hfree⟩
  have hfollowed : (tree.put location content).followAll (origin current path) path.segments =
      .ok location := by
    rw [hsegments, followAll_append, followAll_put content hdirectory hfree haround]
    change (tree.put location content).followAll directory [name] = _
    exact bind_eq_ok_iff.2 ⟨location, follow_put content hdirectory hfree hname, rfl⟩
  have hfound : (tree.put location content).find current path = .ok (.file content) :=
    find_eq_ok_iff.2 ⟨hcheck, location, hfollowed, node?_put_self _ _ _⟩
  rw [read, hfound]
  rfl

end FileTree

end PlainPage
