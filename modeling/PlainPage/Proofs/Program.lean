import PlainPage.Program
import PlainPage.Proofs.File.Tree
import PlainPage.Proofs.Typesetter.Reading

/-!
# What a run leaves behind

Every part of a run that can fail comes before the first one that changes the world, or
changes nothing when it fails.  So a run that fails leaves the files as they were and prints
nothing, and a run that succeeds has set the document that was there at its start, also when
the page takes the place of that document.

Main results:

- Definitions `Task.Still`, `Task.Atomic` and `Task.Sure` are the parts of a run that change
  nothing, that change nothing when they fail, and that do not fail.
- Theorem `Task.atomic_carryOut` says that a run as a whole changes nothing when it fails.
- Theorem `Task.perform_carryOut_eq_ok_iff` says when a run succeeds and what it does then.
- Theorem `Surroundings.run_delivers` says what a run leaves behind.
-/

namespace PlainPage

@[simp] theorem World.put_put (w : World) (location : Location) (first second : Bytes) :
    (w.put location first).put location second = w.put location second := by
  simp [World.put]

/-- What the world is after it takes a page: the page is printed, or it is in the file that a
path leads to. -/
def World.Takes (w : World) (output : Option Path) (page : Text) (after : World) : Prop :=
  match output with
  | none => after = { w with printed := w.printed ++ page }
  | some path =>
    ∃ location, w.surroundings.tree.target w.surroundings.current path = .ok location ∧
      after = w.put location (Text.utf8 page)

namespace Task

variable {α β : Type} {task : Task α} {next : α → Task β} {w after : World}

/-! ## Parts that change nothing -/

/-- A task in two parts succeeds exactly when both parts do. -/
theorem perform_bind_eq_ok_iff {b : β} :
    perform (task >>= next) w = (.ok b, after) ↔
      ∃ a between, perform task w = (.ok a, between) ∧
        perform (next a) between = (.ok b, after) := by
  rw [perform_bind]
  rcases perform task w with ⟨answer, between⟩
  cases answer <;> simp [and_assoc]

/-- It fails when the first part fails, or the second one after it. -/
theorem perform_bind_eq_error_iff {failure : Failure} :
    perform (task >>= next) w = (.error failure, after) ↔
      perform task w = (.error failure, after) ∨
        ∃ a between, perform task w = (.ok a, between) ∧
          perform (next a) between = (.error failure, after) := by
  rw [perform_bind]
  rcases perform task w with ⟨answer, between⟩
  cases answer <;> simp [and_assoc]

theorem perform_adapt (f : Failure → Failure) (task : Task α) (w : World) :
    perform (ExceptT.adapt f task) w = ((perform task w).1.mapError f, (perform task w).2) := rfl

theorem perform_adapt_eq_ok_iff {f : Failure → Failure} {a : α} :
    perform (ExceptT.adapt f task) w = (.ok a, after) ↔ perform task w = (.ok a, after) := by
  rw [perform_adapt, Prod.mk.injEq, mapError_eq_ok_iff, Prod.ext_iff]

/-- A part of a run that changes nothing. -/
def Still (task : Task α) : Prop :=
  ∀ w, (perform task w).2 = w

/-- A part of a run that changes nothing when it fails. -/
def Atomic (task : Task α) : Prop :=
  ∀ w failure after, perform task w = (.error failure, after) → after = w

/-- A part of a run that does not fail. -/
def Sure (task : Task α) : Prop :=
  ∀ w, ∃ a after, perform task w = (.ok a, after)

theorem still_consult (look : Surroundings → Except Failure α) : Still (consult look) :=
  fun _ => rfl

/-- Failing at once changes nothing. -/
theorem atomic_throw (failure : Failure) : Atomic (throw failure : Task α) := by
  intro w _ after hfail
  cases hfail
  rfl

/-- A write to a file that is open never fails. -/
theorem sure_writeFile (location : Location) (content : Bytes) :
    Sure (writeFile location content) :=
  fun _ => ⟨_, _, perform_writeFile _ _ _⟩

/-- Changes may only come after all that can fail and changes nothing. -/
theorem Still.bind_atomic (h : Still task) (hnext : ∀ a, Atomic (next a)) :
    Atomic (task >>= next) := by
  intro w failure after hfail
  rcases perform_bind_eq_error_iff.1 hfail with hfirst | ⟨a, between, hfirst, hrest⟩
  · rw [← h w, hfirst]
  · have hsame : between = w := by rw [← h w, hfirst]
    exact hsame ▸ hnext a _ _ _ hrest

/-- What comes after a change may not fail. -/
theorem Atomic.bind_sure (h : Atomic task) (hnext : ∀ a, Sure (next a)) :
    Atomic (task >>= next) := by
  intro w failure after hfail
  rcases perform_bind_eq_error_iff.1 hfail with hfirst | ⟨a, between, -, hrest⟩
  · exact h _ _ _ hfirst
  · rcases hnext a between with ⟨b, last, hsure⟩
    cases hsure.symm.trans hrest

/-- A context on the failure does not change what was done. -/
theorem Atomic.adapt (h : Atomic task) (f : Failure → Failure) :
    Atomic (ExceptT.adapt f task) := by
  intro w failure after hfail
  rw [perform_adapt] at hfail
  rcases hperform : perform task w with ⟨answer, last⟩
  rw [hperform] at hfail
  cases answer with
  | ok a => cases hfail
  | error cause =>
    cases hfail
    exact h _ _ _ hperform

/-! ## Parts that deliver the page -/

/-- Creating a file empties it, or fails with the path in the message. -/
theorem perform_createFile (path : Path) (w : World) :
    perform (createFile path) w =
      match w.surroundings.tree.target w.surroundings.current path with
      | .ok location => (.ok location, w.put location [])
      | .error error =>
        (.error { contexts := ["cannot create ".toList ++ path], cause := .file error }, w) := by
  unfold createFile
  rw [perform_bind]
  change perform (match w.surroundings.tree.target w.surroundings.current path with
    | .ok location => do
      writeFile location []
      return location
    | .error error =>
      throw { contexts := ["cannot create ".toList ++ path], cause := .file error }) w = _
  cases w.surroundings.tree.target w.surroundings.current path <;> rfl

theorem perform_printPage (t : Typesetter) (input : Bytes) (w : World) :
    perform (printPage t input) w =
      ((t.typesetOnto input w.printed).1,
        { w with printed := (t.typesetOnto input w.printed).2 }) := rfl

theorem atomic_createFile (path : Path) : Atomic (createFile path) := by
  intro w failure after hfail
  rw [perform_createFile] at hfail
  split at hfail <;> cases hfail
  rfl

theorem atomic_printPage (t : Typesetter) (input : Bytes) : Atomic (printPage t input) := by
  intro w failure after hfail
  rw [perform_printPage] at hfail
  rcases hpage : t.typesetOnto input w.printed with ⟨answer, printed⟩
  rw [hpage] at hfail
  cases hfail
  rw [(Typesetter.typesetOnto_eq_error_iff.1 hpage).1]

/-- Nor is a file touched for it, and one that cannot be created stays as it was. -/
theorem atomic_writePage (t : Typesetter) (input : Bytes) (path : Path) :
    Atomic (writePage t input path) := by
  unfold writePage
  split
  · exact atomic_throw _
  · exact (atomic_createFile path).bind_sure fun location => sure_writeFile location _

/-- A page is printed after what is printed before. -/
theorem perform_printPage_eq_ok_iff {t : Typesetter} {input : Bytes} :
    perform (printPage t input) w = (.ok (), after) ↔
      ∃ page, t.typeset input = .ok page ∧ after = { w with printed := w.printed ++ page } := by
  rw [perform_printPage, Typesetter.typesetOnto_eq]
  cases t.typeset input <;> simp [eq_comm]

/-- A page is written where its path would create a file. -/
theorem perform_writePage_eq_ok_iff {t : Typesetter} {input : Bytes} {path : Path} :
    perform (writePage t input path) w = (.ok (), after) ↔
      ∃ page location, t.typeset input = .ok page ∧
        w.surroundings.tree.target w.surroundings.current path = .ok location ∧
        after = w.put location (Text.utf8 page) := by
  unfold writePage
  rw [Typesetter.typesetOnto_eq]
  cases t.typeset input with
  | error failure => simp
  | ok page =>
    simp only [List.nil_append, perform_bind, perform_createFile]
    cases w.surroundings.tree.target w.surroundings.current path <;> simp [eq_comm]

/-! ## The run -/

/-- Nothing is delivered in part, whichever output was asked for. -/
theorem atomic_deliver (o : Options) (t : Typesetter) (source : Surroundings.Source) :
    Atomic (deliver o t source) := by
  refine (still_consult _).bind_atomic fun bytes => ?_
  cases o.output with
  | none => exact atomic_printPage t bytes
  | some path => exact atomic_writePage t bytes path

/-- A run that fails changes nothing. -/
theorem atomic_carryOut (toml : Toml.Reader) (o : Options) (stdin : Bytes) :
    Atomic (carryOut toml o stdin) :=
  (still_consult _).bind_atomic fun c =>
    (still_consult _).bind_atomic fun source =>
      (atomic_deliver o (Typesetter.configured c) source).adapt _

/-- A page is delivered once its document is read and set. -/
theorem perform_deliver_eq_ok_iff {o : Options} {t : Typesetter} {source : Surroundings.Source} :
    perform (deliver o t source) w = (.ok (), after) ↔
      ∃ bytes page, w.surroundings.readSource source = .ok bytes ∧ t.typeset bytes = .ok page ∧
        w.Takes o.output page after := by
  unfold deliver World.Takes
  rw [perform_bind_eq_ok_iff]
  cases o.output <;> simp [perform_printPage_eq_ok_iff, perform_writePage_eq_ok_iff, and_assoc]

end Task

namespace Surroundings

variable {toml : Toml.Reader} {s : Surroundings} {o : Options} {stdin : Bytes} {page : Text}
  {after : World}

/-- The document of a run. -/
def document (s : Surroundings) (o : Options) (stdin : Bytes) : Except FileError Bytes :=
  match o.inputFile? with
  | none => .ok stdin
  | some path => s.tree.read s.current path

/-- What is read from the open document is the document. -/
theorem exists_readSource_iff {bytes : Bytes} :
    (∃ source, s.openSource o stdin = .ok source ∧ s.readSource source = .ok bytes) ↔
      s.document o stdin = .ok bytes := by
  unfold openSource document
  cases o.inputFile? with
  | none => simp [readSource]
  | some path =>
    simp only [FileTree.read, FileTree.find, bind_assoc]
    cases hresolve : s.tree.resolve s.current path with
    | error error => simp [bind, Except.bind]
    | ok found =>
      obtain ⟨location, node⟩ := found
      have hcontent : s.tree.contentAt location = FileTree.contentOf node := by
        rw [FileTree.contentAt, FileTree.node?_of_resolve hresolve]
      simp only [Except.ok.injEq, exists_eq_left', readSource, hcontent, bind, Except.bind, pure,
        Except.pure]
      cases FileTree.contentOf node <;> simp

/-- The page of a run: its document, set under its configuration. -/
def Sets (toml : Toml.Reader) (s : Surroundings) (o : Options) (stdin : Bytes) (page : Text) :
    Prop :=
  ∃ c bytes, s.configuration toml o = .ok c ∧ s.document o stdin = .ok bytes ∧
    typesetDocument c bytes = .ok page

/-- A run succeeds when there is a page and a place for it. -/
theorem perform_carryOut_eq_ok_iff :
    (Task.carryOut toml o stdin).perform { surroundings := s } = (.ok (), after) ↔
      ∃ page, s.Sets toml o stdin page ∧ World.Takes { surroundings := s } o.output page after := by
  unfold Task.carryOut
  simp only [Task.perform_bind_eq_ok_iff, Task.perform_adapt_eq_ok_iff, Task.perform_consult,
    Task.perform_deliver_eq_ok_iff, Prod.mk.injEq]
  constructor
  · rintro ⟨c, _, ⟨hc, rfl⟩, source, _, ⟨hopen, rfl⟩, bytes, page, hread, hpage, hafter⟩
    exact ⟨page, ⟨c, bytes, hc, exists_readSource_iff.1 ⟨source, hopen, hread⟩, hpage⟩, hafter⟩
  · rintro ⟨page, ⟨c, bytes, hc, hdocument, hpage⟩, hafter⟩
    rcases exists_readSource_iff.2 hdocument with ⟨source, hopen, hread⟩
    exact ⟨c, _, ⟨hc, rfl⟩, source, _, ⟨hopen, rfl⟩, bytes, page, hread, hpage, hafter⟩

/-! ## What a run leaves behind -/

/-- What a run leaves behind when it delivers a page: the page is printed, or it is all there
is in the file that the command line names.  The other files stay as they are. -/
def Delivers (s : Surroundings) (o : Options) (page : Text) (outcome : Outcome) : Prop :=
  match o.output with
  | none => outcome.printed = page ∧ outcome.tree = s.tree
  | some path =>
    outcome.printed = [] ∧
      ∃ location, s.tree.target s.current path = .ok location ∧
        outcome.tree.read s.current path = .ok (Text.utf8 page) ∧
        outcome.tree.node? location = some (.file (Text.utf8 page)) ∧
        ∀ other, other ≠ location → outcome.tree.node? other = s.tree.node? other

/-- An outcome with what is left in a world that has taken the page delivers it. -/
theorem delivers_of_takes {outcome : Outcome}
    (h : World.Takes { surroundings := s } o.output page after)
    (hprinted : outcome.printed = after.printed)
    (htree : outcome.tree = after.surroundings.tree) : s.Delivers o page outcome := by
  unfold Delivers
  unfold World.Takes at h
  cases houtput : o.output with
  | none =>
    rw [houtput] at h
    subst h
    exact ⟨hprinted, htree⟩
  | some path =>
    rw [houtput] at h
    rcases h with ⟨location, htarget, rfl⟩
    have hput : outcome.tree = s.tree.put location (Text.utf8 page) := htree
    rw [hput]
    exact ⟨hprinted, location, htarget, FileTree.read_put_of_target htarget _,
      FileTree.node?_put_self _ _ _, fun other hother =>
        FileTree.node?_put_of_ne _ (FileTree.node?_dropLast_of_target htarget) hother⟩

/-- A run that is asked for a page either sets the document that it finds at its start and
delivers the page, or it fails and leaves everything as it was.  It succeeds exactly when
there is a page and, if a file is named for it, a place for that file.  This holds whatever
the readers are, for those of the program in particular. -/
theorem run_delivers {read : Options.Reader} {arguments : List Text}
    (h : read arguments = .ok o) :
    let outcome := s.runWith toml read stdin arguments
    (outcome.code = 0 ↔
      (∃ page, s.Sets toml o stdin page) ∧
        ∀ path, o.output = some path → ∃ location, s.tree.target s.current path = .ok location) ∧
    (outcome.code = 0 → ∃ page, s.Sets toml o stdin page ∧ s.Delivers o page outcome) ∧
    (outcome.code ≠ 0 → outcome.tree = s.tree ∧ outcome.printed = []) := by
  unfold runWith
  simp only [h]
  rcases hperform : (Task.carryOut toml o stdin).perform { surroundings := s } with ⟨answer, after⟩
  cases answer with
  | ok _ =>
    rcases perform_carryOut_eq_ok_iff.1 hperform with ⟨page, hpage, hafter⟩
    refine ⟨⟨fun _ => ⟨⟨page, hpage⟩, fun path houtput => ?_⟩, fun _ => rfl⟩,
      fun _ => ⟨page, hpage, delivers_of_takes hafter rfl rfl⟩, fun hcode => absurd rfl hcode⟩
    rw [houtput] at hafter
    rcases hafter with ⟨location, htarget, -⟩
    exact ⟨location, htarget⟩
  | error failure =>
    cases Task.atomic_carryOut toml o stdin _ _ _ hperform
    refine ⟨⟨fun hcode => absurd hcode Nat.one_ne_zero, fun ⟨⟨page, hpage⟩, hplace⟩ => ?_⟩,
      fun hcode => absurd hcode Nat.one_ne_zero, fun _ => ⟨rfl, rfl⟩⟩
    -- With a page and a place the run would have succeeded.
    have htakes : ∃ after, World.Takes { surroundings := s } o.output page after := by
      cases houtput : o.output with
      | none => exact ⟨_, rfl⟩
      | some path =>
        rcases hplace path houtput with ⟨location, htarget⟩
        exact ⟨_, location, htarget, rfl⟩
    rcases htakes with ⟨after, hafter⟩
    cases hperform.symm.trans (perform_carryOut_eq_ok_iff.2 ⟨page, hpage, hafter⟩)

/-- A page takes the place of its document. -/
theorem run_delivers_in_place :
    let s : Surroundings := { tree := ⟨[(["doc".toList], .file (Text.utf8 "a\nb\n".toList))]⟩ }
    let o : Options := { input := some "doc".toList, output := some "doc".toList, width := some 4 }
    let outcome := s.run [] ["doc".toList, "-o".toList, "doc".toList, "-w".toList, "4".toList]
    outcome.code = 0 ∧ outcome.tree.file? ["doc".toList] = some (Text.utf8 "a b \n".toList) ∧
      ∃ page, s.Sets Toml.ofText? o [] page ∧ s.Delivers o page outcome := by
  intro s o outcome
  have hread : Options.ofArguments
      ["doc".toList, "-o".toList, "doc".toList, "-w".toList, "4".toList] = .ok o := rfl
  have hcode : outcome.code = 0 := by decide +kernel
  exact ⟨hcode, by decide +kernel, (run_delivers hread).2.1 hcode⟩

end Surroundings

end PlainPage
