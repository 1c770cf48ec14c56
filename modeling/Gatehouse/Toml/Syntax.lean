import Gatehouse.Toml.Document
import Gatehouse.Toml.Moment
import Gatehouse.Toml.Numeral
import Gatehouse.Toml.Quoted

/-!
# Reading documents

Keys, values and the lines of a TOML document.  Arrays may run over several lines and end in a
comma; tables within braces may do neither.  Values nest less than eighty levels deep and dotted
keys have less than eighty parts, so the reader of values goes down by the number of levels left.
-/

namespace Gatehouse.Toml

set_option autoImplicit false

open Text (Reader)

/-! ## Keys -/

/-- Whether a character may stand in a key without quotes. -/
def isKeyChar (c : Char) : Bool :=
  c.isAlphanum || c == '-' || c == '_'

/-- Reads a key without dots. -/
def readSimpleKey (cs : List Char) : Option (String × List Char) :=
  match readLineText cs with
  | some found => some found
  | none =>
      let name := cs.takeWhile isKeyChar
      if name.isEmpty then none else some (String.ofList name, cs.dropWhile isKeyChar)

/-- Reads the parts of a dotted key; blanks may surround each of them. -/
def readKeyParts (cs : List Char) : Option (List String × List Char) :=
  match readSimpleKey (skipBlanks cs) with
  | none => none
  | some (part, rest) =>
      match skipBlanks rest with
      | '.' :: more =>
          if more.length < cs.length then
            (readKeyParts more).map fun (parts, rest) => (part :: parts, rest)
          else none
      | rest => some ([part], rest)
  termination_by cs.length

/-- The number of levels that values and the parts of a key stay below. -/
def levelLimit : Nat := 80

/-- Reads a dotted key. -/
def readKey (cs : List Char) : Option (List String × List Char) := do
  let (parts, rest) ← readKeyParts cs
  if parts.length < levelLimit then some (parts, rest) else none

/-! ## Values -/

/-- Reads the elements of an array up to its closing bracket.  An element takes at least one
character. -/
def readElements (read : Reader Value) (cs : List Char) : Option (List Value × List Char) :=
  match skipLines cs with
  | ']' :: rest => some ([], rest)
  | start =>
      match read start with
      | none => none
      | some (element, rest) =>
          match skipLines rest with
          | ']' :: rest => some ([element], rest)
          | ',' :: more =>
              if more.length < cs.length then
                (readElements read more).map fun (elements, rest) => (element :: elements, rest)
              else none
          | _ => none
  termination_by cs.length

/-- Reads a key, an equals sign and a value. -/
def readAssignment (read : Reader Value) (cs : List Char) :
    Option ((List String × Value) × List Char) :=
  match readKey cs with
  | some (key, '=' :: rest) =>
      (read (skipBlanks rest)).map fun (value, rest) => ((key, value), rest)
  | _ => none

/-- Reads the assignments of a table within braces up to the closing brace. -/
def readMembers (read : Reader Value) (cs : List Char) :
    Option (List (List String × Value) × List Char) :=
  match readAssignment read cs with
  | none => none
  | some (member, rest) =>
      match skipBlanks rest with
      | '\x7d' :: rest => some ([member], rest)
      | ',' :: more =>
          if more.length < cs.length then
            (readMembers read more).map fun (members, rest) => (member :: members, rest)
          else none
      | _ => none
  termination_by cs.length

/-- Reads a table within braces, behind the opening one. -/
def readInlineTable (read : Reader Value) (cs : List Char) : Option (Value × List Char) :=
  match skipBlanks cs with
  | '\x7d' :: rest => some (.table [], rest)
  | start => do
      let (members, rest) ← readMembers read start
      let entries ← tableOfAssignments? members
      return (.table entries, rest)

/-- Reads a value that holds no others. -/
def readScalarValue (cs : List Char) : Option (Value × List Char) :=
  match cs with
  | '"' :: _ => (readText cs).map fun (text, rest) => (.string text, rest)
  | '\x27' :: _ => (readText cs).map fun (text, rest) => (.string text, rest)
  | 't' :: 'r' :: 'u' :: 'e' :: rest => some (.boolean true, rest)
  | 'f' :: 'a' :: 'l' :: 's' :: 'e' :: rest => some (.boolean false, rest)
  | _ => if startsLikeMoment cs then readMoment cs else readNumeral cs

/-- Reads a value that has a number of levels at most below it. -/
def readValue : Nat → Reader Value
  | 0, '[' :: _ => none
  | 0, '\x7b' :: _ => none
  | levels + 1, '[' :: rest =>
      (readElements (readValue levels) rest).map fun (elements, rest) => (.array elements, rest)
  | levels + 1, '\x7b' :: rest => readInlineTable (readValue levels) rest
  | _, cs => readScalarValue cs

/-! ## Lines -/

/-- Reads a header behind its opening bracket. -/
def readHeader : Reader Statement
  | '[' :: rest =>
      match readKey rest with
      | some (path, ']' :: ']' :: rest) => some (.elementHeader path, rest)
      | _ => none
  | cs =>
      match readKey cs with
      | some (path, ']' :: rest) => some (.header path, rest)
      | _ => none

/-- Reads a statement at its first character. -/
def readStatement : Reader Statement
  | '[' :: rest => readHeader rest
  | cs =>
      (readAssignment (readValue (levelLimit - 1)) cs).map fun ((key, value), rest) =>
        (.assignment key value, rest)

/-- Reads the statements of a document to its end.  A statement takes at least one character and
ends with its line. -/
def readStatements (cs : List Char) : Option (List Statement) :=
  match skipLines cs with
  | [] => some []
  | start =>
      match readStatement start with
      | none => none
      | some (statement, rest) =>
          match finishLine? rest with
          | none => none
          | some more =>
              if more.length < cs.length then (readStatements more).map (statement :: ·) else none
  termination_by cs.length

/-- The text behind a byte order mark at its front. -/
def skipMark : List Char → List Char
  | '\uFEFF' :: rest => rest
  | cs => cs

/-- Reads a document: the keys of its table with their values. -/
def parse? (text : String) : Option (List (String × Value)) :=
  (readStatements (skipMark text.toList)).bind tableOfStatements?

end Gatehouse.Toml
