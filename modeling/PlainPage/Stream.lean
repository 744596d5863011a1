import PlainPage.Failure
import PlainPage.Typesetter.Basic

/-!
# Setting a stream of bytes

A document arrives as bytes.  A line is taken off the stream when its turn comes: it is
read as UTF-8, stripped of its terminator, and fed to a typesetter.  The first line that is
no text or is refused ends the run, and its number is reported.

Reading a stream to its end comes to feeding its pieces, which are the bytes cut after each
line feed.

Main results:

- Definition `Typesetter.typesetOnto` reads a stream and writes the page to an output.
- Theorem `flatten_pieces` says that cutting loses nothing.
- Theorem `pieces_append` says that what follows a line feed is cut on its own.
- Theorem `pieces_eq_cons` says that the first piece is the first line of the stream.
- Theorem `feedPieces_append` says that the pieces of a stream are fed in order.
-/

namespace PlainPage

/-- The byte that ends a line. -/
def lineFeed : UInt8 := 10

/-- Take a line off a stream: the bytes up to the first line feed, with that line feed, and
the bytes after it. -/
def takeLine : Bytes → Bytes × Bytes
  | [] => ([], [])
  | b :: rest =>
    if b = lineFeed then ([b], rest)
    else (b :: (takeLine rest).1, (takeLine rest).2)

/-- Taking a line off a stream shortens it. -/
theorem length_takeLine_lt {bytes : Bytes} (h : bytes ≠ []) :
    (takeLine bytes).2.length < bytes.length := by
  induction bytes with
  | nil => exact absurd rfl h
  | cons b rest ih =>
    rw [takeLine]
    split
    · simp
    · cases rest with
      | nil => simp [takeLine]
      | cons next more => exact Nat.lt_succ_of_lt (ih (by simp))

/-- The bytes cut after each line feed. -/
def pieces : Bytes → List Bytes
  | [] => []
  | b :: rest =>
    if b = lineFeed then [b] :: pieces rest
    else
      match pieces rest with
      | [] => [[b]]
      | piece :: more => (b :: piece) :: more

/-- Cutting loses nothing. -/
theorem flatten_pieces (bytes : Bytes) : (pieces bytes).flatten = bytes := by
  induction bytes with
  | nil => rfl
  | cons b rest ih =>
    unfold pieces
    split
    · simp [ih]
    · split <;> rename_i h <;> rw [h] at ih <;> simp_all

/-- What follows a line feed is cut on its own. -/
theorem pieces_append (first rest : Bytes) :
    pieces (first ++ lineFeed :: rest) = pieces (first ++ [lineFeed]) ++ pieces rest := by
  induction first with
  | nil => simp [pieces]
  | cons b tail ih =>
    have hne : ∀ bytes : Bytes, pieces (tail ++ lineFeed :: bytes) ≠ [] := by
      intro bytes h
      have := flatten_pieces (tail ++ lineFeed :: bytes)
      simp [h] at this
    simp only [List.cons_append, pieces]
    split
    · simp [ih]
    · rw [ih]
      cases htail : pieces (tail ++ [lineFeed]) with
      | nil => exact absurd htail (hne [])
      | cons piece more => simp

/-- The first piece is the first line of the stream. -/
theorem pieces_eq_cons {bytes : Bytes} (h : bytes ≠ []) :
    pieces bytes = (takeLine bytes).1 :: pieces (takeLine bytes).2 := by
  induction bytes with
  | nil => exact absurd rfl h
  | cons b rest ih =>
    rw [pieces, takeLine]
    split
    · rfl
    · cases rest with
      | nil => rfl
      | cons next more => rw [ih (by simp)]

/-- A text without its last character, if that is `c`. -/
def dropFinal (c : Char) (t : Text) : Text :=
  if t.getLast? = some c then t.dropLast else t

/-- A line without its terminator: a line feed, and a carriage return before it. -/
def dropTerminator (line : Text) : Text :=
  dropFinal '\r' (dropFinal '\n' line)

namespace Typesetter

/-- The words for a line of the input, by its number. -/
def lineContext (what : String) (number : Nat) : Text :=
  what.toList ++ decimal number

/-- Feed the piece with the given number. -/
def feedPiece (t : Typesetter) (number : Nat) (piece : Bytes) : Except Failure Typesetter :=
  match Text.ofUtf8? piece with
  | none => .error { contexts := [lineContext "failed to read line " number], cause := .notText }
  | some line =>
    match t.feed (dropTerminator line) with
    | (.ok _, t) => .ok t
    | (.error error, _) =>
      .error { contexts := [lineContext "line " number], cause := .document error }

/-- Feed pieces, the first of which has the given number. -/
def feedPieces (t : Typesetter) (number : Nat) : List Bytes → Except Failure Typesetter
  | [] => .ok t
  | piece :: rest => do feedPieces (← t.feedPiece number piece) (number + 1) rest

/-- End the document. -/
def renderEnd (t : Typesetter) : Except Failure Text :=
  match t.render with
  | .ok page => .ok page
  | .error error => .error { contexts := ["end of input".toList], cause := .document error }

/-- Set a whole document. -/
def typeset (t : Typesetter) (input : Bytes) : Except Failure Text := do
  renderEnd (← t.feedPieces 1 (pieces input))

/-- Read the rest of a stream, of which `count` lines have been read, and feed each line as
it is read. -/
def readOn (t : Typesetter) (count : Nat) (unread : Bytes) : Except Failure Typesetter :=
  if unread = [] then .ok t
  else
    match t.feedPiece (count + 1) (takeLine unread).1 with
    | .ok t => readOn t (count + 1) (takeLine unread).2
    | .error failure => .error failure
termination_by unread.length
decreasing_by exact length_takeLine_lt ‹_›

/-- Read a stream to its end and write the page to an output.  The answer comes with the
output after it. -/
def typesetOnto (t : Typesetter) (input : Bytes) (output : Text) : Except Failure Unit × Text :=
  match t.readOn 0 input with
  | .error failure => (.error failure, output)
  | .ok t =>
    match t.renderEnd with
    | .error failure => (.error failure, output)
    | .ok page => (.ok (), output ++ page)

/-- Pieces are fed in order, and numbered on. -/
theorem feedPieces_append (t : Typesetter) (number : Nat) (first second : List Bytes) :
    t.feedPieces number (first ++ second) =
      (t.feedPieces number first).bind fun t => t.feedPieces (number + first.length) second := by
  induction first generalizing t number with
  | nil => rfl
  | cons piece rest ih =>
    simp only [List.cons_append, feedPieces, bind, List.length_cons]
    cases t.feedPiece number piece with
    | error failure => rfl
    | ok next =>
      simp only [Except.bind, ih]
      congr 1
      funext t
      congr 1
      omega

end Typesetter

end PlainPage
