import PlainPage.CommandLine.Help
import PlainPage.CommandLine.Reader
import PlainPage.Config.Discovery
import PlainPage.Typesetter.Configured

/-!
# A run of the program

A run reads the command line, builds the configuration, opens the document, sets it and
delivers the page.  Each part of a run works on the world as it finds it, which is the files
and what is printed.  What a part has done to the world stays done, also when it fails or a
later part does.

Two things are left out.  Writing cannot fail once a file is open: a full disk, a closed
pipe and other faults of a writer have no place here, so `Task.writeFile` and the printing in
`Task.printPage` always succeed.  And how command lines and configuration files are read is up
to two readers, which `Surroundings.run` chooses.

Main results:

- Definition `Surroundings.runWith` is a run with any two readers, and definition
  `Surroundings.run` is a run of the program.
- Theorem `Task.perform_bind` says that the parts of a run work on the world one after the
  other, up to the first that fails.
-/

namespace PlainPage

/-- What a run of the program leaves behind. -/
structure Outcome where
  /-- The exit code. -/
  code : Nat
  /-- What is printed. -/
  printed : Text := []
  /-- What is reported as an error. -/
  report : Text := []
  /-- What is said about a command line that makes no sense. -/
  usage : Text := []
  /-- The files after the run. -/
  tree : FileTree

/-! ## Parts of a run -/

/-- The world of a run: what it finds around it, and what it has printed. -/
structure World where
  surroundings : Surroundings
  printed : Text := []

/-- The world with a file at a location. -/
def World.put (w : World) (location : Location) (content : Bytes) : World :=
  { w with
    surroundings := { w.surroundings with tree := w.surroundings.tree.put location content } }

/-- A part of a run.  It works on the world and comes to a value or fails; what it has done
to the world stays done either way. -/
abbrev Task := ExceptT Failure (StateM World)

namespace Task

variable {α β : Type}

/-- Perform a part of a run: what it comes to, and the world after it. -/
def perform (task : Task α) (w : World) : Except Failure α × World :=
  task.run.run w

/-- Look around without touching anything. -/
def consult (look : Surroundings → Except Failure α) : Task α :=
  ExceptT.mk do return look (← get).surroundings

/-- Write to an open file, in place of what it holds; this does not fail. -/
def writeFile (location : Location) (content : Bytes) : Task Unit :=
  modify (·.put location content)

/-- Open the file that a path leads to for writing.  It is created if it does not exist, and
emptied if it does. -/
def createFile (path : Path) : Task Location := do
  let s := (← get).surroundings
  match s.tree.target s.current path with
  | .ok location =>
    writeFile location []
    return location
  | .error error => throw { contexts := ["cannot create ".toList ++ path], cause := .file error }

/-- Set a document and print the page; the printing does not fail. -/
def printPage (t : Typesetter) (input : Bytes) : Task Unit :=
  ExceptT.mk do
    let w ← get
    let (answer, printed) := t.typesetOnto input w.printed
    set { w with printed }
    return answer

/-- Set a document into the file that a path leads to.  The page is gathered first, so that
the file is opened only when the whole document is set. -/
def writePage (t : Typesetter) (input : Bytes) (path : Path) : Task Unit := do
  match t.typesetOnto input [] with
  | (.error failure, _) => throw failure
  | (.ok _, page) =>
    let location ← createFile path
    writeFile location (Text.utf8 page)

@[simp] theorem perform_pure (a : α) (w : World) : (pure a : Task α).perform w = (.ok a, w) := rfl

@[simp] theorem perform_throw (failure : Failure) (w : World) :
    (throw failure : Task α).perform w = (.error failure, w) := rfl

@[simp] theorem perform_consult (look : Surroundings → Except Failure α) (w : World) :
    (consult look).perform w = (look w.surroundings, w) := rfl

@[simp] theorem perform_writeFile (location : Location) (content : Bytes) (w : World) :
    (writeFile location content).perform w = (.ok (), w.put location content) := rfl

/-- Parts of a run work on the world one after the other, up to the first that fails. -/
theorem perform_bind (task : Task α) (next : α → Task β) (w : World) :
    (task >>= next).perform w =
      match task.perform w with
      | (.ok a, w) => (next a).perform w
      | (.error failure, w) => (.error failure, w) := by
  unfold perform
  rw [ExceptT.run_bind, StateT.run_bind]
  rcases task.run.run w with ⟨answer, after⟩
  cases answer <;> rfl

end Task

namespace Surroundings

/-! ## Configuration -/

/-- The configuration of a run: the one file that the command line names or else the files
that are found, under what the command line says. -/
def configuration (toml : Toml.Reader) (s : Surroundings) (o : Options) :
    Except Failure Config := do
  let c ←
    match o.config with
    | some path =>
      within ("cannot load config ".toList ++ path) (Config.ofFile toml s.tree s.current path)
    | none =>
      pure (Config.ofFiles toml s.tree s.current
        (s.discover (o.inputFile?.getD s.currentPath)))
  let c := o.overlay c
  match c.problem? with
  | some problem => throw { cause := .badConfig problem }
  | none => return c

/-! ## Input and output -/

/-- The document of a run, before it is read. -/
inductive Source where
  | stdin (content : Bytes)
  /-- An open file. -/
  | file (path : Path) (location : Location)

/-- The name that reports give a document. -/
def Source.name : Source → Text
  | stdin _ => "stdin".toList
  | file path _ => path

/-- Open the document. -/
def openSource (s : Surroundings) (o : Options) (stdin : Bytes) : Except Failure Source :=
  match o.inputFile? with
  | none => .ok (.stdin stdin)
  | some path =>
    match s.tree.resolve s.current path with
    | .ok (location, _) => .ok (.file path location)
    | .error error =>
      .error { contexts := ["cannot open ".toList ++ path], cause := .file error }

/-- The bytes of the document, as they are now. -/
def readSource (s : Surroundings) : Source → Except Failure Bytes
  | .stdin content => .ok content
  | .file _ location =>
    match s.tree.contentAt location with
    | .ok bytes => .ok bytes
    | .error error =>
      .error { contexts := [Typesetter.lineContext "failed to read line " 1], cause := .file error }

end Surroundings

namespace Task

/-- Set the document and deliver the page. -/
def deliver (o : Options) (t : Typesetter) (source : Surroundings.Source) : Task Unit := do
  let bytes ← consult (·.readSource source)
  match o.output with
  | none => printPage t bytes
  | some path => writePage t bytes path

/-- Carry out what a command line asks for. -/
def carryOut (toml : Toml.Reader) (o : Options) (stdin : Bytes) : Task Unit := do
  let c ← consult (·.configuration toml o)
  let source ← consult (·.openSource o stdin)
  ExceptT.adapt (·.within source.name) (deliver o (Typesetter.configured c) source)

end Task

/-! ## The run -/

/-- A run on a command line, with the readers of configuration files and of the command
line. -/
def Surroundings.runWith (toml : Toml.Reader) (read : Options.Reader) (s : Surroundings)
    (stdin : Bytes) (arguments : List Text) : Outcome :=
  match read arguments with
  | .error .showVersion => { code := 0, printed := versionPage, tree := s.tree }
  | .error .showHelp => { code := 0, printed := helpPage, tree := s.tree }
  | .error refusal =>
    { code := 2, usage := "error: ".toList ++ refusal.message ++ ['\n'], tree := s.tree }
  | .ok o =>
    match (Task.carryOut toml o stdin).perform { surroundings := s } with
    | (.ok _, w) => { code := 0, printed := w.printed, tree := w.surroundings.tree }
    | (.error failure, w) =>
      { code := 1, printed := w.printed, report := failure.report, tree := w.surroundings.tree }

/-- A run of the program on a command line, without the name of the program. -/
def Surroundings.run (s : Surroundings) (stdin : Bytes) (arguments : List Text) : Outcome :=
  s.runWith Toml.ofText? Options.ofArguments stdin arguments

end PlainPage
