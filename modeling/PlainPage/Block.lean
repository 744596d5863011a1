import PlainPage.Filter.Basic
import PlainPage.Text.Record

/-!
# Open blocks

The lines of a document gather in blocks.  The outermost block is the page itself; a
block opened under a filter stands above it until it is closed.

Main results:

- Theorems `Blocks.pop_push` and `Blocks.pop_eq_ok_iff` say that closing undoes opening.
- Theorem `Blocks.depth_feed` says that writing lines opens and closes nothing.
- Theorem `Blocks.pop_eq_error_iff` says when there is nothing to close.
-/

namespace PlainPage

/-- A block that is not closed yet. -/
structure Block where
  /-- The filter that the block was opened under, and its name; none for the page. -/
  opened : Option (Text × Filter) := none
  /-- The words that the filter was given. -/
  args : List Text := []
  /-- The lines gathered so far. -/
  lines : List Text := []
  /-- The depths to which the settings return when the block closes. -/
  marks : Marks := {}

namespace Block

/-- The page, or another block without a filter. -/
def page : Block := {}

/-- Whether a block has no filter. -/
def isPage (b : Block) : Bool :=
  b.opened.isNone

/-- The name of a block. -/
def name (b : Block) : Text :=
  match b.opened with
  | some (name, _) => name
  | none => "root".toList

/-- A short account of a block, with the number of its lines. -/
def summary (b : Block) : Text :=
  let depths := b.marks.depths.map fun (name, depth) =>
    '(' :: name.quoted ++ ", ".toList ++ decimal depth ++ [')']
  let marks := Text.recorded "RestoreToken" [Text.field "depths" (Text.bracketed depths)]
  Text.recorded "Scope"
    [Text.field "name" b.name.quoted,
     Text.field "args" (Text.bracketed (b.args.map Text.quoted)),
     Text.field "lines" (decimal b.lines.length),
     Text.field "restore" marks,
     "..".toList]

end Block

/-- The open blocks, the innermost one apart from those around it. -/
structure Blocks where
  innermost : Block := .page
  /-- The blocks around the innermost one, from the inside to the page. -/
  outer : List Block := []

namespace Blocks

/-- The number of blocks above the page. -/
def depth (b : Blocks) : Nat :=
  b.outer.length

/-- All blocks, from the inside to the page. -/
def toList (b : Blocks) : List Block :=
  b.innermost :: b.outer

/-- Open a block. -/
def push (b : Blocks) (block : Block) : Blocks :=
  { innermost := block, outer := b.innermost :: b.outer }

/-- Take the innermost block off. -/
def pop (b : Blocks) : Except DocumentError (Block × Blocks) :=
  match b.outer with
  | [] => .error .nothingToClose
  | next :: rest => .ok (b.innermost, { innermost := next, outer := rest })

/-- Write lines at the end of the innermost block. -/
def feed (b : Blocks) (lines : List Text) : Blocks :=
  { b with innermost := { b.innermost with lines := b.innermost.lines ++ lines } }

/-- The page. -/
def bottom (b : Blocks) : Block :=
  b.outer.getLast?.getD b.innermost

/-- The lines of the page, unless a block with a filter is open; the outermost such
block is named. -/
def pageLines (b : Blocks) : Except DocumentError (List Text) :=
  match b.toList.reverse.find? (!·.isPage) with
  | some block => .error (.unclosedBlock block.name)
  | none => .ok b.bottom.lines

/-- Closing undoes opening. -/
@[simp] theorem pop_push (b : Blocks) (block : Block) : (b.push block).pop = .ok (block, b) := rfl

/-- Writing lines opens and closes nothing. -/
@[simp] theorem depth_feed (b : Blocks) (lines : List Text) : (b.feed lines).depth = b.depth := rfl

@[simp] theorem depth_push (b : Blocks) (block : Block) : (b.push block).depth = b.depth + 1 := rfl

@[simp] theorem feed_nil (b : Blocks) : b.feed [] = b := by
  simp [feed]

/-- Writing twice is writing together. -/
@[simp] theorem feed_feed (b : Blocks) (first second : List Text) :
    (b.feed first).feed second = b.feed (first ++ second) := by
  simp [feed]

/-- What is taken off was put on last. -/
theorem pop_eq_ok_iff {b rest : Blocks} {block : Block} :
    b.pop = .ok (block, rest) ↔ b = rest.push block := by
  constructor
  · intro h
    obtain ⟨innermost, outer⟩ := b
    cases outer with
    | nil => cases h
    | cons next more =>
      cases h
      rfl
  · rintro rfl
    exact pop_push rest block

theorem push_inj {b other : Blocks} {first second : Block} :
    b.push first = other.push second ↔ b = other ∧ first = second := by
  rw [← pop_eq_ok_iff, pop_push, Except.ok.injEq, Prod.mk.injEq, and_comm]

/-- When more than the page is open, something can be taken off. -/
theorem exists_push_of_depth {b : Blocks} (h : 0 < b.depth) :
    ∃ (block : Block) (rest : Blocks), b = rest.push block := by
  obtain ⟨innermost, outer⟩ := b
  cases outer with
  | nil => cases h
  | cons next more => exact ⟨innermost, ⟨next, more⟩, rfl⟩

/-- There is nothing to close when only the page is open. -/
theorem pop_eq_error_iff {b : Blocks} : (∃ error, b.pop = .error error) ↔ b.depth = 0 := by
  unfold pop depth
  cases b.outer <;> simp

end Blocks

end PlainPage
