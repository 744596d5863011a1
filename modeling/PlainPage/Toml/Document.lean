import PlainPage.Table
import PlainPage.Toml.Value

/-!
# Whole configuration files

A file is a list of lines: pairs of a key and a value, and headers that say to which
table the following pairs belong.  No table may be opened twice by its own header, and
no key may be given twice.

Main results:

- Definition `Toml.ofText?` reads a file as the entries of its root table.
-/

namespace PlainPage.Toml

/-- How a table came about, which decides how it may be added to. -/
inductive Origin where
  /-- By a header of its own, or as the root. -/
  | header
  /-- On the way to the table of a header. -/
  | passing
  /-- By the points in a key. -/
  | dotted
  deriving DecidableEq, Repr

/-- What stands under a key. -/
inductive Node where
  | value (v : Value)
  | table (origin : Origin) (entries : List (Text × Node))
  /-- Tables in a row under one repeated header. -/
  | tables (items : List (List (Text × Node)))

/-- What stands under the keys of a table. -/
abbrev Entries := List (Text × Node)

/-- A way to read the text of a file as the entries of its root table. -/
abbrev Reader := Text → Option Entries

/-- Change the table at a path of keys by `f`, and make the tables on the way that are
missing.  The path stands in a header or, if `dotted`, in front of a key; a dotted path
may not enter a table that has a header of its own. -/
def changeAt (dotted : Bool) (f : Origin → Entries → Option Entries) :
    List Text → Origin → Entries → Option Entries
  | [], origin, entries => f origin entries
  | key :: path, _, entries =>
    match Table.find? key entries with
    | none => do
      let origin := if dotted then Origin.dotted else .passing
      let inner ← changeAt dotted f path origin []
      return Table.put key (.table origin inner) entries
    | some (.value _) => none
    | some (.table origin inner) => do
      if dotted && origin == .header then none
      let inner ← changeAt dotted f path origin inner
      return Table.put key (.table origin inner) entries
    | some (.tables items) =>
      match items.reverse with
      | [] => none
      | last :: others => do
        let last ← changeAt dotted f path .header last
        return Table.put key (.tables (last :: others).reverse) entries

/-- Enter a node under a key that is not there yet. -/
def enterNew (key : Text) (node : Node) (entries : Entries) : Option Entries :=
  match Table.find? key entries with
  | some _ => none
  | none => some (Table.put key node entries)

/-- Enter a value under a key with points, in the table at a path. -/
def enterValue (path keyPath : List Text) (v : Value) (root : Entries) : Option Entries := do
  let key ← keyPath.getLast?
  let around := keyPath.dropLast
  let enter (origin : Origin) (entries : Entries) : Option Entries :=
    if (origin == .dotted) == around.isEmpty then none else enterNew key (.value v) entries
  changeAt false (fun origin => changeAt true enter around origin) path .header root

/-- Open the table of a header. -/
def openTable (path : List Text) (root : Entries) : Option Entries := do
  let key ← path.getLast?
  let enter (_ : Origin) (entries : Entries) : Option Entries :=
    match Table.find? key entries with
    | none => some (Table.put key (.table .header []) entries)
    | some (.table .passing inner) => some (Table.put key (.table .header inner) entries)
    | some _ => none
  changeAt false enter path.dropLast .header root

/-- Open the next table of a repeated header. -/
def openNext (path : List Text) (root : Entries) : Option Entries := do
  let key ← path.getLast?
  let enter (_ : Origin) (entries : Entries) : Option Entries :=
    match Table.find? key entries with
    | none => some (Table.put key (.tables [[]]) entries)
    | some (.tables items) => some (Table.put key (.tables (items ++ [[]])) entries)
    | some _ => none
  changeAt false enter path.dropLast .header root

/-- One line that says something. -/
inductive Line where
  | pair (key : List Text) (value : Value)
  | header (path : List Text)
  | nextHeader (path : List Text)

/-- Read one line that says something, up to its end. -/
def readLine? (t : Text) : Option (Line × Text) :=
  match t with
  | '[' :: '[' :: rest => do
    match ← readKey? rest with
    | (path, ']' :: ']' :: rest) => return (.nextHeader path, ← endLine? rest)
    | _ => none
  | '[' :: rest => do
    match ← readKey? rest with
    | (path, ']' :: rest) => return (.header path, ← endLine? rest)
    | _ => none
  | t => do
    match ← readKey? t with
    | (key, '=' :: rest) => do
      let (value, rest) ← readValue? (dropBlanks rest)
      return (.pair key value, ← endLine? rest)
    | _ => none

/-- A file as far as it is read: its root table, and the path of the table to which pairs
belong now. -/
structure Draft where
  root : Entries := []
  path : List Text := []

/-- Add a line to a draft. -/
def Draft.add? (d : Draft) : Line → Option Draft
  | .pair key value => do return { d with root := ← enterValue d.path key value d.root }
  | .header path => do return { root := ← openTable path d.root, path }
  | .nextHeader path => do return { root := ← openNext path d.root, path }

/-- Read at most `fuel` lines into a draft. -/
def readLines? : Nat → Draft → Text → Option Entries
  | 0, _, _ => none
  | fuel + 1, d, t =>
    match dropBlanks t with
    | [] => some d.root
    | t@('#' :: _) => do readLines? fuel d (← endLine? t)
    | t@('\n' :: _) => do readLines? fuel d (← endLine? t)
    | t@('\r' :: _) => do readLines? fuel d (← endLine? t)
    | t => do
      let (line, rest) ← readLine? t
      readLines? fuel (← d.add? line) rest

/-- The text without a byte order mark at its front. -/
def dropMark : Text → Text
  | '\uFEFF' :: rest => rest
  | t => t

/-- Read a file as the entries of its root table.  Every line but the last takes at least
one character. -/
def ofText? (t : Text) : Option Entries :=
  readLines? (t.length + 2) {} (dropMark t)

end PlainPage.Toml
