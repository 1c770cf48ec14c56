import Gatehouse.Text.Blank

/-!
# Blanks, comments and line ends

What may stand between the tokens of a TOML document.  A line ends in a line feed, before which a
carriage return may stand, or with the document.
-/

namespace Gatehouse.Toml

set_option autoImplicit false

/-- The text behind the blanks at its front. -/
def skipBlanks (cs : List Char) : List Char :=
  cs.dropWhile Text.isSpaceOrTab

/-- Whether a character may stand in a comment. -/
def isCommentChar (c : Char) : Bool :=
  c == '\t' || (decide (' ' ≤ c) && c != '\x7f')

/-- The text behind the end of a line at its front. -/
def lineEnd? : List Char → Option (List Char)
  | '\n' :: rest => some rest
  | '\r' :: '\n' :: rest => some rest
  | _ => none

/-- The text behind a comment at its front. -/
def skipComment : List Char → List Char
  | '#' :: rest => rest.dropWhile isCommentChar
  | cs => cs

/-- The text of the lines that follow, if only blanks and a comment are left on this one. -/
def finishLine? (cs : List Char) : Option (List Char) :=
  match skipComment (skipBlanks cs) with
  | [] => some []
  | rest => lineEnd? rest

/-- The text behind blanks, line ends and comments; the flag says whether the text begins within a
comment. -/
def skipLinesFrom : Bool → List Char → List Char
  | _, [] => []
  | inComment, c :: rest =>
      if c == '\n' || (c == '\r' && rest.head? == some '\n') then skipLinesFrom false rest
      else if inComment then
        if isCommentChar c then skipLinesFrom true rest else c :: rest
      else if Text.isSpaceOrTab c then skipLinesFrom false rest
      else if c == '#' then skipLinesFrom true rest
      else c :: rest

/-- The text behind blanks, line ends and comments. -/
def skipLines (cs : List Char) : List Char :=
  skipLinesFrom false cs

end Gatehouse.Toml
