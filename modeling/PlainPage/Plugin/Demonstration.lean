import PlainPage.Plugin.Basic

/-!
# The demonstration plugin

A small plugin that shows what plugins can bring: a filter that turns words around, a
filter that rules whole lines, and a command that draws a line.

Main results:

- Theorem `length_reverseWords` says that turning words around keeps the width.
- Theorem `solidRule_of_blank` says that a line without ink gets no dashes.
- Definition `Plugin.demo` is the plugin.
-/

namespace PlainPage

/-! ## Words turned around -/

/-- Turn every word of a line around; the spaces stay where they are. -/
def reverseWords (line : Text) : Text :=
  List.intercalate [' '] ((line.splitOn ' ').map List.reverse)

theorem length_intercalate_map_reverse (pieces : List Text) :
    (List.intercalate [' '] (pieces.map List.reverse)).length =
      (List.intercalate [' '] pieces).length := by
  induction pieces with
  | nil => rfl
  | cons piece rest ih =>
    cases rest with
    | nil => simp
    | cons next rest =>
      simp only [List.map_cons] at ih ⊢
      simp [List.intercalate_cons_cons, ih]

/-- Turning words around keeps the width of a line. -/
theorem length_reverseWords (line : Text) : (reverseWords line).length = line.length := by
  rw [reverseWords, length_intercalate_map_reverse, List.intercalate_splitOn]

/-- Turn the words of every line around. -/
def Filter.reverse : Filter where
  close lines _ _ := .ok (lines.map reverseWords)

/-! ## Ruled lines -/

/-- The columns that a tab takes beneath a rule. -/
def tabColumns : Nat := 4

/-- The columns that a character takes beneath a rule. -/
def columnsOf (c : Char) : Nat :=
  if c = '\t' then tabColumns else 1

/-- The columns that a text takes beneath a rule. -/
def columnCount : Text → Nat
  | [] => 0
  | c :: rest => columnsOf c + columnCount rest

/-- A text with spaces for its tabs. -/
def untab (t : Text) : Text :=
  t.flatMap fun c => if c = '\t' then Text.spaces tabColumns else [c]

/-- The blanks before the first visible character of a line, the text from there to the
last visible one, and the blanks after that. -/
def inkParts (line : Text) : Text × Text × Text :=
  let body := line.dropWhile isWhite
  (line.takeWhile isWhite, (body.reverse.dropWhile isWhite).reverse,
    (body.reverse.takeWhile isWhite).reverse)

/-- The rule beneath a line: dashes from its first visible character to its last one,
and `padding` columns more on both sides. -/
def solidRule (padding : Nat) (line : Text) : Text :=
  if Text.isBlank line then untab line
  else
    let (lead, ink, trail) := inkParts line
    Text.spaces (columnCount lead - padding)
      ++ List.replicate (columnCount ink + 2 * padding) '-'
      ++ Text.spaces (columnCount trail - padding)

/-- A line without ink gets no dashes. -/
theorem solidRule_of_blank {line : Text} (h : Text.isBlank line = true) (padding : Nat) :
    solidRule padding line = untab line := by
  simp [solidRule, h]

/-- The name of the filter that rules whole lines. -/
def underlineAllName : Text := "underline-all".toList

/-- Follow every line with a rule from its first visible character to its last one. -/
def Filter.underlineAll : Filter where
  close lines args _ := do
    let padding ←
      match args with
      | [] => pure 0
      | raw :: _ => readCount underlineAllName raw "expected a padding width"
    return lines.flatMap fun line => [line, solidRule padding line]

/-! ## Drawn lines -/

/-- The name of the command that draws a line. -/
def horizontalLineName : Text := "horizontal-line".toList

/-- Draw a line as wide as the page, or as long as told. -/
def Command.horizontalLine : Command := fun args =>
  match args with
  | [] => .inspect fun settings => .feed [List.replicate settings.width '-'] .done
  | raw :: _ =>
    match readCount horizontalLineName raw "expected a length" with
    | .error error => .fail error
    | .ok length => .feed [List.replicate length '-'] .done

/-! ## The plugin -/

/-- The name of the demonstration plugin. -/
def demoId : Text := "demo-plugin".toList

/-- The demonstration plugin. -/
def Plugin.demo : Plugin where
  id := demoId
  version := { major := 0, minor := 1, patch := 1 }
  commands := [(horizontalLineName, Command.horizontalLine)]
  filters := [("reverse".toList, Filter.reverse), (underlineAllName, Filter.underlineAll)]

/-- The plugins that a document may enable. -/
def Plugin.catalog : Table Plugin :=
  Table.empty.insert demoId Plugin.demo

end PlainPage
