import Gatehouse.Toml.Value

/-!
# Tables of a document

A TOML document is a sequence of statements that together define a table: an assignment gives a
value to a dotted key, a header opens a table, and a double header opens a new element of an array
of tables.

Every table is defined in one way only.  A table that a header has opened is not opened again, and
dotted keys do not reach into it from outside; a table that dotted keys have made is not opened by
a header.  A table that only stands above another header's table may still be opened.  No key is
assigned twice.
-/

namespace Gatehouse.Toml

set_option autoImplicit false

/-! ## Statements -/

/-- What a document says, line by line. -/
inductive Statement where
  /-- A value for a dotted key of the open table. -/
  | assignment (key : List String) (value : Value)
  /-- A header that opens a table. -/
  | header (path : List String)
  /-- A double header that opens a new element of an array of tables. -/
  | elementHeader (path : List String)

/-! ## Nodes -/

/-- How a table came to be. -/
inductive Origin where
  /-- A header opened it. -/
  | opened
  /-- It stands above a table that a header opened. -/
  | implied
  /-- Dotted keys made it. -/
  | dotted
  deriving DecidableEq, Repr

/-- What a key of a table under definition has. -/
inductive Node where
  | value (value : Value)
  | table (origin : Origin) (entries : List (String × Node))
  /-- An array of tables, of which the last is still open. -/
  | tables (elements : List (List (String × Node)))

/-- The keys of a table under definition with what they have, in the order in which they came. -/
abbrev Entries : Type := List (String × Node)

namespace Entries

/-- What a key has. -/
def get? (entries : Entries) (key : String) : Option Node :=
  (entries.find? fun entry => entry.1 == key).map Prod.snd

/-- Replaces what a key has, or adds the key. -/
def set (entries : Entries) (key : String) (node : Node) : Entries :=
  if entries.any fun entry => entry.1 == key then
    entries.map fun entry => if entry.1 == key then (key, node) else entry
  else entries ++ [(key, node)]

/-! ## Assignments -/

/-- Assigns a value to a dotted key.  The table that takes the value must have been made by dotted
keys, unless it is the one to begin with; on the way to it, a table above a header's table and the
open element of an array may be passed through too. -/
def assign (value : Value) : List String → Entries → Option Entries
  | [], _ => none
  | [key], entries =>
      match entries.get? key with
      | some _ => none
      | none => some (entries.set key (.value value))
  | key :: next :: rest, entries =>
      match entries.get? key with
      | none => (assign value (next :: rest) []).map fun inner =>
          entries.set key (.table .dotted inner)
      | some (.value _) => none
      | some (.table origin inner) =>
          if origin == .dotted || (origin == .implied && !rest.isEmpty) then
            (assign value (next :: rest) inner).map fun inner =>
              entries.set key (.table origin inner)
          else none
      | some (.tables elements) =>
          if rest.isEmpty then none
          else
            elements.getLast?.bind fun last =>
              (assign value (next :: rest) last).map fun last =>
                entries.set key (.tables (elements.dropLast ++ [last]))

/-! ## Headers -/

/-- Changes the table that a header's path leads to.  Tables that are missing on the way are
implied, and of an array of tables the open element counts. -/
def alter (change : Entries → Option Entries) : List String → Entries → Option Entries
  | [], entries => change entries
  | key :: rest, entries =>
      match entries.get? key with
      | none => (alter change rest []).map fun inner => entries.set key (.table .implied inner)
      | some (.value _) => none
      | some (.table origin inner) =>
          (alter change rest inner).map fun inner => entries.set key (.table origin inner)
      | some (.tables elements) =>
          elements.getLast?.bind fun last =>
            (alter change rest last).map fun last =>
              entries.set key (.tables (elements.dropLast ++ [last]))

/-- Opens a table under a key. -/
def openTable (key : String) (entries : Entries) : Option Entries :=
  match entries.get? key with
  | none => some (entries.set key (.table .opened []))
  | some (.table .implied inner) => some (entries.set key (.table .opened inner))
  | _ => none

/-- Opens a new element of the array of tables under a key. -/
def openElement (key : String) (entries : Entries) : Option Entries :=
  match entries.get? key with
  | none => some (entries.set key (.tables [[]]))
  | some (.tables elements) => some (entries.set key (.tables (elements ++ [[]])))
  | _ => none

/-- Makes a change under the last key of a path, in the table that the other keys lead to. -/
def alterLast (change : String → Entries → Option Entries) (path : List String)
    (entries : Entries) : Option Entries :=
  path.getLast?.bind fun key => alter (change key) path.dropLast entries

end Entries

/-! ## Documents -/

/-- A document under definition: its table, and the path of the table that is open. -/
structure Draft where
  entries : Entries
  openPath : List String

namespace Draft

/-- The document that nothing has been said about. -/
def empty : Draft := ⟨[], []⟩

/-- Takes in one statement. -/
def add (draft : Draft) : Statement → Option Draft
  | .assignment key value =>
      (draft.entries.alter (Entries.assign value key) draft.openPath).map fun entries =>
        ⟨entries, draft.openPath⟩
  | .header path =>
      (draft.entries.alterLast Entries.openTable path).map fun entries => ⟨entries, path⟩
  | .elementHeader path =>
      (draft.entries.alterLast Entries.openElement path).map fun entries => ⟨entries, path⟩

/-- Takes in statements in order. -/
def addAll (draft : Draft) : List Statement → Option Draft
  | [] => some draft
  | statement :: rest => (draft.add statement).bind fun draft => draft.addAll rest

end Draft

mutual

/-- The value of a node. -/
def Node.toValue : Node → Value
  | .value value => value
  | .table _ entries => .table (entriesToValues entries)
  | .tables elements => .array (elementsToValues elements)

/-- The entries of a table with their values. -/
def entriesToValues : List (String × Node) → List (String × Value)
  | [] => []
  | (key, node) :: rest => (key, node.toValue) :: entriesToValues rest

/-- The tables of an array. -/
def elementsToValues : List (List (String × Node)) → List Value
  | [] => []
  | entries :: rest => .table (entriesToValues entries) :: elementsToValues rest

end

/-- The table that statements define. -/
def tableOfStatements? (statements : List Statement) : Option (List (String × Value)) :=
  (Draft.empty.addAll statements).map fun draft => entriesToValues draft.entries

/-- The table that assignments alone define, such as those within braces. -/
def tableOfAssignments? (assignments : List (List String × Value)) :
    Option (List (String × Value)) :=
  tableOfStatements? (assignments.map fun (key, value) => .assignment key value)

end Gatehouse.Toml
