import Gatehouse.Number.Digits
import Gatehouse.Text.Reader
import Gatehouse.Toml.Blank

/-!
# Quoted texts

The four forms in which a TOML document quotes a text: in double quotes with escapes or in single
quotes without, and each of them on one line or, between triple quotes, on several.

A text on several lines drops a line end that directly follows the opening quotes, has line feeds
for line ends, and may end in up to two quotes of its own before the closing three.  With escapes,
a backslash at the end of a line drops the line end and all blanks and line ends that follow.
-/

namespace Gatehouse.Toml

set_option autoImplicit false

open Text (Reader)

/-! ## Escapes -/

/-- Reads the number of a character in a fixed number of hexadecimal digits. -/
def readScalar (count : Nat) : Reader Char := fun cs =>
  let digits := cs.take count
  if digits.length < count then none
  else
    (Number.ofDigits? 16 digits).bind fun code =>
      if code.isValidChar then some (Char.ofNat code, cs.drop count) else none

/-- Reads what follows the backslash of an escape. -/
def readEscape : Reader Char
  | 'b' :: rest => some ('\x08', rest)
  | 't' :: rest => some ('\t', rest)
  | 'n' :: rest => some ('\n', rest)
  | 'f' :: rest => some ('\x0c', rest)
  | 'r' :: rest => some ('\r', rest)
  | '"' :: rest => some ('"', rest)
  | '\\' :: rest => some ('\\', rest)
  | 'u' :: rest => readScalar 4 rest
  | 'U' :: rest => readScalar 8 rest
  | _ => none

/-- What follows the number of a character is no longer than the whole. -/
theorem length_of_readScalar {count : Nat} {cs rest : List Char} {c : Char}
    (read : readScalar count cs = some (c, rest)) : rest.length ≤ cs.length := by
  simp only [readScalar] at read
  split at read
  · simp at read
  · obtain ⟨code, _, found⟩ := Option.bind_eq_some_iff.1 read
    split at found
    · simp only [Option.some.injEq, Prod.mk.injEq] at found
      simp [← found.2]
    · simp at found

/-- An escape takes at least one character. -/
theorem length_of_readEscape {cs rest : List Char} {c : Char}
    (read : readEscape cs = some (c, rest)) : rest.length < cs.length := by
  unfold readEscape at read
  split at read
  case h_8 =>
    have := length_of_readScalar read
    simp only [List.length_cons]
    omega
  case h_9 =>
    have := length_of_readScalar read
    simp only [List.length_cons]
    omega
  case h_10 => simp at read
  all_goals
    simp only [Option.some.injEq, Prod.mk.injEq] at read
    simp [← read.2]

/-! ## Texts on one line -/

/-- Whether a character may stand for itself between double quotes. -/
def isPlainChar (c : Char) : Bool :=
  isCommentChar c && c != '"' && c != '\\'

/-- Whether a character may stand between single quotes. -/
def isLiteralChar (c : Char) : Bool :=
  isCommentChar c && c != '\x27'

/-- Puts a character in front of what was read. -/
def withChar (c : Char) (read : Option (List Char × List Char)) :
    Option (List Char × List Char) :=
  read.map fun (content, rest) => (c :: content, rest)

/-- Reads up to the closing double quote. -/
def readPlain : Reader (List Char)
  | [] => none
  | c :: rest =>
      if c == '"' then some ([], rest)
      else if c == '\\' then
        match _escape : readEscape rest with
        | none => none
        | some (escaped, more) => withChar escaped (readPlain more)
      else if isPlainChar c then withChar c (readPlain rest)
      else none
  termination_by cs => cs.length
  decreasing_by
    · have := length_of_readEscape _escape
      simp only [List.length_cons]
      omega
    · simp

/-- Reads up to the closing single quote. -/
def readLiteral : Reader (List Char)
  | [] => none
  | c :: rest =>
      if c == '\x27' then some ([], rest)
      else if isLiteralChar c then withChar c (readLiteral rest)
      else none

/-! ## Texts on several lines -/

/-- The text behind blanks and line ends. -/
def skipBreaks : List Char → List Char
  | [] => []
  | c :: rest =>
      if Text.isSpaceOrTab c || c == '\n' || (c == '\r' && rest.head? == some '\n') then
        skipBreaks rest
      else c :: rest

/-- Skipping blanks and line ends makes a text no longer. -/
theorem length_skipBreaks (cs : List Char) : (skipBreaks cs).length ≤ cs.length := by
  induction cs with
  | nil => simp [skipBreaks]
  | cons c rest ih =>
      rw [skipBreaks]
      split
      · simp only [List.length_cons]
        omega
      · simp

/-- The text behind a backslash that ends its line. -/
def skipContinuation? (cs : List Char) : Option (List Char) :=
  if (lineEnd? (skipBlanks cs)).isSome then some (skipBreaks cs) else none

/-- A text behind a line end at the front. -/
def skipLineEnd (cs : List Char) : List Char :=
  (lineEnd? cs).getD cs

/-- Reads up to the closing three double quotes. -/
def readPlainLines : Reader (List Char)
  | [] => none
  | '"' :: '"' :: '"' :: '"' :: '"' :: rest => some (['"', '"'], rest)
  | '"' :: '"' :: '"' :: '"' :: rest => some (['"'], rest)
  | '"' :: '"' :: '"' :: rest => some ([], rest)
  | c :: rest =>
      if c == '\\' then
        match _continued : skipContinuation? rest with
        | some more => readPlainLines more
        | none =>
            match _escape : readEscape rest with
            | none => none
            | some (escaped, more) => withChar escaped (readPlainLines more)
      else if c == '\r' && rest.head? == some '\n' then readPlainLines rest
      else if c == '\n' || c == '"' || isPlainChar c then withChar c (readPlainLines rest)
      else none
  termination_by cs => cs.length
  decreasing_by
    · simp only [skipContinuation?] at _continued
      split at _continued
      · simp only [Option.some.injEq] at _continued
        have := length_skipBreaks rest
        simp only [← _continued, List.length_cons]
        omega
      · simp at _continued
    · have := length_of_readEscape _escape
      simp only [List.length_cons]
      omega
    · simp
    · simp

/-- Reads up to the closing three single quotes. -/
def readLiteralLines : Reader (List Char)
  | [] => none
  | '\x27' :: '\x27' :: '\x27' :: '\x27' :: '\x27' :: rest => some (['\x27', '\x27'], rest)
  | '\x27' :: '\x27' :: '\x27' :: '\x27' :: rest => some (['\x27'], rest)
  | '\x27' :: '\x27' :: '\x27' :: rest => some ([], rest)
  | c :: rest =>
      if c == '\r' && rest.head? == some '\n' then readLiteralLines rest
      else if c == '\n' || c == '\x27' || isLiteralChar c then withChar c (readLiteralLines rest)
      else none

/-! ## All forms -/

/-- Reads a text quoted on one line. -/
def readLineText : Reader String
  | '"' :: rest => (readPlain rest).map fun (content, rest) => (String.ofList content, rest)
  | '\x27' :: rest => (readLiteral rest).map fun (content, rest) => (String.ofList content, rest)
  | _ => none

/-- Reads a quoted text. -/
def readText : Reader String
  | '"' :: '"' :: '"' :: rest =>
      (readPlainLines (skipLineEnd rest)).map fun (content, rest) => (String.ofList content, rest)
  | '\x27' :: '\x27' :: '\x27' :: rest =>
      (readLiteralLines (skipLineEnd rest)).map fun (content, rest) =>
        (String.ofList content, rest)
  | cs => readLineText cs

end Gatehouse.Toml
