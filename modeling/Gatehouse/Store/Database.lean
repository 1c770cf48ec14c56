import Gatehouse.FileTree
import Gatehouse.Store.Accounts
import Gatehouse.Store.Grants
import Gatehouse.Store.Tokens
import Gatehouse.Text.Query

/-!
# The database

A database holds the tables and is open or closed; once closed, every use of it fails.  A change
is either applied as a whole or not at all: `Database.commit` takes an attempt and keeps its
tables only if it succeeded.

A database is opened by the path of its file or by a URL.  For a path, missing directories above
the file are made; for a URL they are not, and parameters behind a question mark say how the file
is opened.
-/

namespace Gatehouse

set_option autoImplicit false

/-- The store as the service uses it. -/
structure Database where
  tables : Tables
  isOpen : Bool
  deriving DecidableEq, Repr

namespace Database

/-- A database with nothing kept in it. -/
def fresh : Database := ⟨.fresh, true⟩

/-- The fault of using a closed database. -/
def closedFault : Fault := .storage "the database is closed"

/-- The tables, as long as the database is open. -/
def connect (database : Database) : Except Fault Tables :=
  if database.isOpen then .ok database.tables else .error closedFault

/-- Keeps the tables of a successful attempt and leaves the database as it is otherwise. -/
def commit {α : Type} (database : Database) (attempt : Except Fault (α × Tables)) :
    Except Fault α × Database :=
  match attempt with
  | .error fault => (.error fault, database)
  | .ok (result, tables) => (.ok result, { database with tables := tables })

/-- Closes the database. -/
def close (database : Database) : Database :=
  { database with isOpen := false }

/-- What is logged of a database: nothing that it keeps. -/
def logText (_ : Database) : String := "Database"

/-! ## Schema -/

/-- The names of the tables that the schema has, those of the engine included. -/
def tableNames : List String :=
  ["schema_version", "users", "tokens", "permissions", "user_permissions", "sqlite_sequence"]

/-- The number of migrations that make up the schema. -/
def currentSchemaVersion : Nat := 3

/-- The version of the schema. -/
def schemaVersion (database : Database) : Except Fault Nat :=
  database.connect.map fun _ => currentSchemaVersion

/-- Whether there is a table with a name. -/
def hasTable (database : Database) (name : String) : Except Fault Bool :=
  database.connect.map fun _ => tableNames.contains name

/-- Brings the schema up to date, which it always is. -/
def migrate (database : Database) : Except Fault Unit :=
  database.connect.map fun _ => ()

/-! ## Opening -/

/-- How a database file is to be opened. -/
structure Location where
  path : String
  /-- Whether the data is kept in memory only. -/
  inMemory : Bool
  /-- Whether the file must be there and is only read. -/
  isReadOnly : Bool
  /-- Whether the file is known never to change. -/
  isImmutable : Bool
  /-- Whether missing directories above the file are made. -/
  makesDirectories : Bool
  deriving DecidableEq, Repr

/-- The fault of a location that cannot be read. -/
def locationFault (detail : String) : Fault :=
  .storage ("error with configuration: " ++ detail)

/-- Applies one parameter of a URL. -/
def applyParameter (location : Location) (name value : String) : Except Fault Location :=
  let refused : Except Fault Location :=
    .error (locationFault ("unknown value for " ++ name ++ ": " ++ value))
  if name == "mode" then
    if value == "ro" then .ok { location with isReadOnly := true }
    else if value == "rw" || value == "rwc" then .ok location
    else if value == "memory" then .ok { location with inMemory := true }
    else refused
  else if name == "cache" then
    if value == "private" || value == "shared" then .ok location else refused
  else if name == "immutable" then
    if value == "true" || value == "1" then .ok { location with isImmutable := true }
    else if value == "false" || value == "0" then .ok { location with isImmutable := false }
    else refused
  else if name == "vfs" then
    if ["unix", "unix-dotfile", "unix-excl", "unix-none"].contains value then .ok location
    else refused
  else .error (locationFault ("unknown query parameter " ++ name))

/-- Applies the parameters of a URL one after the other. -/
def applyParameters (location : Location) : List (String × String) → Except Fault Location
  | [] => .ok location
  | (name, value) :: rest =>
      match applyParameter location name value with
      | .error fault => .error fault
      | .ok location => applyParameters location rest

/-- Drops a text from the front as often as it stands there. -/
def dropRepeated (front : List Char) : Nat → List Char → List Char
  | 0, cs => cs
  | count + 1, cs =>
      if front.isPrefixOf cs then dropRepeated front count (cs.drop front.length) else cs

/-- The scheme of a database URL. -/
def urlScheme : List Char := ['s', 'q', 'l', 'i', 't', 'e', ':']

/-- Reads the path or the URL of a database. -/
def locate (text : String) : Except Fault Location :=
  let cs := text.toList
  if urlScheme.isPrefixOf cs then
    let rest := dropRepeated (urlScheme ++ ['/', '/']) cs.length cs
    let rest := dropRepeated urlScheme rest.length rest
    let path := rest.takeWhile fun c => c != '?'
    match Text.percentDecoded? (String.ofList path) with
    | none => .error (locationFault "the path is not a text")
    | some path =>
        applyParameters ⟨path, path == ":memory:", false, false, false⟩
          (Text.queryParameters ((rest.dropWhile fun c => c != '?').drop 1))
  else .ok ⟨text, text == ":memory:" || text == "", false, false, true⟩

/-- The fault of a database file that cannot be opened. -/
def openFault : Fault := .storage "unable to open database file"

/-- Opens the file of a database that is not kept in memory. -/
def openFile (tree : FileTree) (location : Location) : Except Fault FileTree :=
  let path := FilePath.ofString location.path
  match if location.makesDirectories then tree.makeParents path else .ok tree with
  | .error fault => .error (.file fault)
  | .ok tree =>
      if location.isImmutable || (location.isReadOnly && (tree.node? path.parts).isNone) then
        .error openFault
      else
        match tree.openFile path with
        | .error _ => .error openFault
        | .ok (_, tree) => .ok tree

/-- Makes ready the place of a database, and gives the tree with its file in it. -/
def prepare (tree : FileTree) (text : String) : Except Fault FileTree :=
  match locate text with
  | .error fault => .error fault
  | .ok location => if location.inMemory then .ok tree else openFile tree location

end Database

end Gatehouse
