import PlainPage.Block
import PlainPage.Layout.Paragraph
import PlainPage.Plugin.Demonstration
import PlainPage.Plugin.Repertoire

/-!
# Setting a document line by line

A typesetter holds everything that the lines of a document can change: the settings,
the open blocks, the repertoire, and the paragraph that is being filled.  Lines are fed
one at a time; at the end the lines of the page come out.

A refused line is no end: its error comes back together with the state that it
leaves, and more lines may follow.

Main results:

- Theorem `Typesetter.flush_flush` says that a paragraph is written once.
- Theorems `Typesetter.feed_of_pre`, `Typesetter.feed_of_comment` and
  `Typesetter.feed_of_blank` say what the lines do that hold no prose.
- Theorem `Typesetter.enable_of_loaded` says that a loaded plugin is not loaded again.
-/

namespace PlainPage

/-- The state of a document between two lines. -/
structure Typesetter where
  settings : Settings := .standard
  blocks : Blocks := {}
  repertoire : Repertoire := {}
  /-- The plugins that a document may enable, by the names it may use for them. -/
  catalog : Table Plugin := Plugin.catalog
  /-- The paragraph between its first line and its end. -/
  paragraph : Option Paragraph := none

/-- The answer to a line, and the state after it. -/
abbrev Answer := Except DocumentError Unit × Typesetter

namespace Typesetter

/-! ## Paragraphs -/

/-- Write lines into the innermost block. -/
def write (t : Typesetter) (lines : List Text) : Typesetter :=
  { t with blocks := t.blocks.feed lines }

/-- Pad a line to the page in force. -/
def align (t : Typesetter) (line : Text) : Text :=
  t.settings.alignment.pad t.settings.width line

/-- The last line of a paragraph, if it has words. -/
def pendingLines (t : Typesetter) : List Text :=
  match t.paragraph with
  | some p => if p.hasWords then [t.align p.text] else []
  | none => []

/-- End the paragraph and write its last line. -/
def flush (t : Typesetter) : Typesetter :=
  { t with blocks := t.blocks.feed t.pendingLines, paragraph := none }

/-- Add a line of prose to the paragraph, which starts here if there is none, and write
the lines that it completes. -/
def feedProse (t : Typesetter) (line : Text) : Typesetter :=
  let p := t.paragraph.getD (.start t.settings.indent)
  let (completed, p) := p.addLine t.settings.width line
  { t with blocks := t.blocks.feed (completed.map t.align), paragraph := some p }

/-! ## Blocks -/

/-- Open a block under a filter. -/
def openBlock (t : Typesetter) (name : Text) (args : List Text) : Answer :=
  match t.repertoire.filters.get? name with
  | none => (.error (.unknownFilter name), t)
  | some filter =>
    match (filter.opening args).run { settings := t.settings } with
    | (.ok _, ⟨settings, marks⟩) =>
      let block := { opened := some (name, filter), args, marks }
      (.ok (), { t with settings, blocks := t.blocks.push block })
    | (.error cause, ⟨settings, marks⟩) =>
      match marks.restore settings with
      | (.ok _, settings) => (.error (.filterFailed name .opening cause), { t with settings })
      | (.error error, settings) => (.error error, { t with settings })

/-- Close a block that has been taken off: take back what its opening wrote, and write
what its filter makes of its lines. -/
def finishBlock (t : Typesetter) (block : Block) : Answer :=
  match block.marks.restore t.settings with
  | (.error error, settings) => (.error error, { t with settings })
  | (.ok _, settings) =>
    let t := { t with settings }
    match block.opened with
    | none => (.error .nothingToClose, t)
    | some (name, filter) =>
      match filter.close block.lines block.args settings with
      | .ok lines => (.ok (), t.write lines)
      | .error cause => (.error (.filterFailed name .closing cause), t)

/-- Close the innermost block, which must have the given name if there is one. -/
def closeBlock (t : Typesetter) (name : Option Text) : Answer :=
  match t.blocks.pop with
  | .error error => (.error error, t)
  | .ok (block, blocks) =>
    match name with
    | none => finishBlock { t with blocks } block
    | some found =>
      if found = block.name then finishBlock { t with blocks } block
      else (.error (.mismatchedClose block.name found), t)

/-! ## Commands and plugins -/

/-- Run a command. -/
def callCommand (t : Typesetter) (name : Text) (args : List Text) : Answer :=
  match t.repertoire.commands.get? name with
  | none => (.error (.unknownCommand name), t)
  | some command =>
    let effect := (command args).run t.settings
    (effect.result.mapError (.commandFailed name),
      { t with settings := effect.settings, blocks := t.blocks.feed effect.lines })

/-- Load a plugin, or refuse it as a whole. -/
def load (t : Typesetter) (p : Plugin) : Answer :=
  match t.repertoire.load t.settings p with
  | .ok (repertoire, settings) => (.ok (), { t with repertoire, settings })
  | .error error => (.error error, t)

/-- Enable a plugin of the catalog; the answer is whether it is loaded.  One that is not
in the catalog or is refused is passed over. -/
def enable (t : Typesetter) (id : Text) : Bool × Typesetter :=
  if t.repertoire.loaded.contains id then (true, t)
  else
    match t.catalog.get? id with
    | none => (false, t)
    | some p =>
      match t.load p with
      | (.ok _, t) => (true, t)
      | (.error _, t) => (false, t)

/-- Enable plugins one after the other. -/
def enableAll (t : Typesetter) (ids : List Text) : Typesetter :=
  ids.foldl (fun t id => (t.enable id).2) t

/-! ## Lines -/

/-- Replace the settings by those that a write gave. -/
def withSettings (t : Typesetter) : Except DocumentError Settings → Answer
  | .ok settings => (.ok (), { t with settings })
  | .error error => (.error error, t)

/-- Do what a directive asks for. -/
def perform (t : Typesetter) : Directive → Answer
  | .openBlock filter args => t.openBlock filter args
  | .closeBlock filter => t.closeBlock filter
  | .set name value => t.withSettings (t.settings.set name value)
  | .unset name => t.withSettings ((t.settings.unset name).map (·.2))
  | .enable plugin => (.ok (), (t.enable plugin).2)
  | .run command args => t.callCommand command args

/-- Feed a line that is no directive. -/
def feedPlain (t : Typesetter) (line : Text) : Typesetter :=
  if t.settings.pre then t.write [line]
  else if isComment line then t
  else if Text.isBlank line then t.flush
  else t.feedProse line

/-- Feed a line, without its terminator.  A directive ends the paragraph before
anything else, even if it cannot be read. -/
def feed (t : Typesetter) (line : Text) : Answer :=
  match Directive.ofLine? line with
  | some (.ok directive) => t.flush.perform directive
  | some (.error error) => (.error error, t.flush)
  | none => (.ok (), t.feedPlain line)

/-- Feed lines one after the other, up to the first that is refused. -/
def feedAll (t : Typesetter) : List Text → Answer
  | [] => (.ok (), t)
  | line :: rest =>
    match t.feed line with
    | (.ok _, t) => t.feedAll rest
    | (.error error, t) => (.error error, t)

/-! ## The page -/

/-- End the document: the lines of the page, unless a block is still open. -/
def finish (t : Typesetter) : Except DocumentError (List Text) :=
  t.flush.blocks.pageLines

/-- The text of a page: its lines with line breaks between them and one at the end. -/
def pageText (lines : List Text) : Text :=
  List.intercalate ['\n'] lines ++ ['\n']

/-- End the document: the text of the page, unless a block is still open. -/
def render (t : Typesetter) : Except DocumentError Text :=
  t.finish.map pageText

/-! ## What lines do -/

@[simp] theorem paragraph_flush (t : Typesetter) : t.flush.paragraph = none := rfl

@[simp] theorem settings_flush (t : Typesetter) : t.flush.settings = t.settings := rfl

@[simp] theorem depth_flush (t : Typesetter) : t.flush.blocks.depth = t.blocks.depth := rfl

/-- A paragraph is written once. -/
@[simp] theorem flush_flush (t : Typesetter) : t.flush.flush = t.flush := by
  simp [flush, pendingLines]

/-- Without a paragraph there is nothing to end. -/
theorem flush_of_none {t : Typesetter} (h : t.paragraph = none) : t.flush = t := by
  simp only [flush, pendingLines, h, Blocks.feed_nil]
  rw [← h]

/-- A line that is taken as it is goes into the innermost block. -/
theorem feed_of_pre {t : Typesetter} {line : Text} (hline : Directive.ofLine? line = none)
    (hpre : t.settings.pre = true) : t.feed line = (.ok (), t.write [line]) := by
  simp [feed, hline, feedPlain, hpre]

/-- A comment does nothing. -/
theorem feed_of_comment {t : Typesetter} {line : Text} (hline : Directive.ofLine? line = none)
    (hpre : t.settings.pre = false) (hcomment : isComment line = true) :
    t.feed line = (.ok (), t) := by
  simp [feed, hline, feedPlain, hpre, hcomment]

/-- A blank line ends the paragraph. -/
theorem feed_of_blank {t : Typesetter} {line : Text} (hline : Directive.ofLine? line = none)
    (hpre : t.settings.pre = false) (hcomment : isComment line = false)
    (hblank : Text.isBlank line = true) : t.feed line = (.ok (), t.flush) := by
  simp [feed, hline, feedPlain, hpre, hcomment, hblank]

/-- A loaded plugin is not loaded again. -/
theorem enable_of_loaded {t : Typesetter} {id : Text}
    (h : t.repertoire.loaded.contains id = true) : t.enable id = (true, t) := by
  simp [enable, h]

end Typesetter

end PlainPage
