import PlainPage.Toml.Lexical

/-!
# The values of a configuration file

Strings, integers, switches, arrays and tables on one line.  Numbers with a fraction
and dates have no place in a configuration, so no reader knows them.

Main results:

- Definition `Toml.readValue?` reads a value.
-/

namespace PlainPage.Toml

/-- A value on the right of an equals sign. -/
inductive Value where
  | string (t : Text)
  | integer (n : Int)
  | boolean (b : Bool)
  | array (items : List Value)
  /-- A table between braces, as its keys and values in order. -/
  | inline (pairs : List (List Text × Value))

/-- The text after a word at its front. -/
def dropWord? (word : String) (t : Text) : Option Text :=
  if word.toList.isPrefixOf t then some (t.drop word.length) else none

/-- Read a value that holds no other values. -/
def readScalar? (t : Text) : Option (Value × Text) :=
  match t with
  | '"' :: _ => (readString? t).map fun (s, rest) => (.string s, rest)
  | '\'' :: _ => (readString? t).map fun (s, rest) => (.string s, rest)
  | 't' :: _ => (dropWord? "true" t).map fun rest => (.boolean true, rest)
  | 'f' :: _ => (dropWord? "false" t).map fun rest => (.boolean false, rest)
  | _ => (readInteger? t).map fun (n, rest) => (.integer n, rest)

mutual

/-- Read a value, through at most `fuel` readers. -/
def readValueWithin? : Nat → Text → Option (Value × Text)
  | 0, _ => none
  | fuel + 1, t =>
    match t with
    | '[' :: rest => (readItems? fuel rest).map fun (items, rest) => (.array items, rest)
    | '{' :: rest =>
      match dropBlanks rest with
      | '}' :: rest => some (.inline [], rest)
      | _ => (readPairs? fuel rest).map fun (pairs, rest) => (.inline pairs, rest)
    | t => readScalar? t

/-- Read the items of an array, after its bracket or a comma.  A comma may stand after
the last item. -/
def readItems? : Nat → Text → Option (List Value × Text)
  | 0, _ => none
  | fuel + 1, t => do
    match ← skipSpace? false t with
    | ']' :: rest => some ([], rest)
    | t => do
      let (item, t) ← readValueWithin? fuel t
      match ← skipSpace? false t with
      | ',' :: rest => do
        let (items, rest) ← readItems? fuel rest
        return (item :: items, rest)
      | ']' :: rest => some ([item], rest)
      | _ => none

/-- Read the pairs of a table on one line, after its brace or a comma.  No comma may stand
after the last pair. -/
def readPairs? : Nat → Text → Option (List (List Text × Value) × Text)
  | 0, _ => none
  | fuel + 1, t => do
    let (key, t) ← readKey? t
    match t with
    | '=' :: rest => do
      let (value, t) ← readValueWithin? fuel (dropBlanks rest)
      match dropBlanks t with
      | ',' :: rest => do
        let (pairs, rest) ← readPairs? fuel rest
        return ((key, value) :: pairs, rest)
      | '}' :: rest => some ([(key, value)], rest)
      | _ => none
    | _ => none

end

/-- Read a value.  Every reader but the first follows a character that was read, so twice
the length of the text is enough. -/
def readValue? (t : Text) : Option (Value × Text) :=
  readValueWithin? (2 * t.length + 2) t

end PlainPage.Toml
