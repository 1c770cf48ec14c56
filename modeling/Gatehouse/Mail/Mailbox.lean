import Gatehouse.Text.Blank
import Gatehouse.Text.Reader
import Gatehouse.Text.Split

/-!
# Mailboxes

A mailbox is an address, alone or in angle brackets behind a display name.  A display name is made
of words and dots; a word is a run of atom characters, with a blank in front if one or more stand
there, or a quoted text.  An address is a local part, which may be quoted, an at-sign and a domain.

The text of a mailbox is read by taking the first form that fits at each place.  What has been read
as an address must then keep the rules for addresses: a local part of at most 64 bytes in atoms
separated by dots, and a domain of at most 254 bytes in labels of at most 63.  Characters outside
ASCII count as atom characters, and labels with them are taken as they are.
-/

namespace Gatehouse.Mail

set_option autoImplicit false

open Text (Reader)

/-! ## Characters -/

/-- Whether a character lies outside ASCII. -/
def isForeign (c : Char) : Bool :=
  decide (128 ≤ c.toNat)

/-- The symbols that an atom may hold. -/
def atomSymbols : List Char :=
  ['!', '#', '$', '%', '&', '\x27', '*', '+', '-', '/', '=', '?', '^', '_', '\x60', '\x7b', '|',
   '\x7d', '~']

/-- Whether a character may stand in an atom. -/
def isAtomChar (c : Char) : Bool :=
  c.isAlphanum || atomSymbols.contains c || isForeign c

/-- Whether a character is a control character that is no white space of its own. -/
def isPlainControl (c : Char) : Bool :=
  let code := c.toNat
  (decide (1 ≤ code) && decide (code ≤ 8)) || code == 11 || code == 12
    || (decide (14 ≤ code) && decide (code ≤ 31)) || code == 127

/-- Whether a character is visible, the quote and the backslash excepted. -/
def isQuotableChar (c : Char) : Bool :=
  decide (33 ≤ c.toNat) && decide (c.toNat ≤ 126) && c != '"' && c != '\\'

/-- Whether a character may follow a backslash between quotes. -/
def isEscapableChar (c : Char) : Bool :=
  let code := c.toNat
  decide (1 ≤ code) && decide (code ≤ 127) && code != 10 && code != 13

/-! ## Words -/

/-- Reads one character between quotes. -/
def readQuotedChar : Reader Char
  | [] => none
  | ['\\'] => none
  | '\\' :: c :: rest => if isEscapableChar c then some (c, rest) else none
  | c :: rest =>
      if isQuotableChar c || isPlainControl c || isForeign c then some (c, rest) else none

/-- A quoted character takes at least one character. -/
theorem length_of_readQuotedChar {cs rest : List Char} {c : Char}
    (read : readQuotedChar cs = some (c, rest)) : rest.length < cs.length := by
  unfold readQuotedChar at read
  split at read
  · simp at read
  · simp at read
  · split at read
    · simp only [Option.some.injEq, Prod.mk.injEq] at read
      simp only [← read.2, List.length_cons]
      omega
    · simp at read
  · split at read
    · simp only [Option.some.injEq, Prod.mk.injEq] at read
      simp [← read.2]
    · simp at read

/-- Reads up to the closing quote.  Of blanks in a row in front of a character the first is kept,
and white space in front of the closing quote is dropped. -/
def readQuoted (cs : List Char) : Option (List Char × List Char) :=
  match _read : readQuotedChar (cs.dropWhile Text.isSpaceOrTab) with
  | some (c, rest) =>
      (readQuoted rest).map fun (content, rest) =>
        ((cs.takeWhile Text.isSpaceOrTab).take 1 ++ c :: content, rest)
  | none =>
      match cs.dropWhile Text.isWhiteSpace with
      | '"' :: rest => some ([], rest)
      | _ => none
  termination_by cs.length
  decreasing_by
    have := length_of_readQuotedChar _read
    have : (cs.dropWhile Text.isSpaceOrTab).length ≤ cs.length :=
      (List.dropWhile_suffix _).length_le
    omega

/-- Reads a run of atom characters, with the first of the blanks in front of it. -/
def readAtom (cs : List Char) : Option (List Char × List Char) :=
  let start := cs.dropWhile Text.isSpaceOrTab
  let atom := start.takeWhile isAtomChar
  if atom.isEmpty then none
  else some ((cs.takeWhile Text.isSpaceOrTab).take 1 ++ atom, start.dropWhile isAtomChar)

/-- Reads a word. -/
def readWord (cs : List Char) : Option (List Char × List Char) :=
  match cs with
  | '"' :: rest =>
      match readQuoted rest with
      | some found => some found
      | none => readAtom cs
  | _ => readAtom cs

/-! ## Display names -/

/-- Reads words and dots as long as there are any. -/
def readNameTail (cs : List Char) : List Char × List Char :=
  match readWord cs with
  | some (word, rest) =>
      if rest.length < cs.length then
        let (more, rest) := readNameTail rest
        (word ++ more, rest)
      else ([], cs)
  | none =>
      match cs with
      | '.' :: rest =>
          let (more, rest) := readNameTail rest
          ('.' :: more, rest)
      | _ => ([], cs)
  termination_by cs.length

/-- Reads a display name, which begins with a word. -/
def readName (cs : List Char) : Option (List Char × List Char) :=
  (readWord cs).map fun (word, rest) =>
    let (more, rest) := readNameTail rest
    (word ++ more, rest)

/-! ## Addresses -/

/-- An address. -/
structure Address where
  localPart : String
  domain : String
  deriving DecidableEq, Repr

/-- Reads atoms separated by dots, behind a first one. -/
def readMoreAtoms : Nat → List Char → List Char × List Char
  | 0, cs => ([], cs)
  | count + 1, '.' :: rest =>
      let atom := rest.takeWhile isAtomChar
      if atom.isEmpty then ([], '.' :: rest)
      else
        let (more, rest) := readMoreAtoms count (rest.dropWhile isAtomChar)
        ('.' :: atom ++ more, rest)
  | _, cs => ([], cs)

/-- Reads atoms separated by dots, with the first of the blanks in front of them. -/
def readAtoms (cs : List Char) : Option (List Char × List Char) :=
  (readAtom cs).map fun (atom, rest) =>
    let (more, rest) := readMoreAtoms rest.length rest
    (atom ++ more, rest)

/-- Reads a local part. -/
def readLocalPart (cs : List Char) : Option (List Char × List Char) :=
  match readAtoms cs with
  | some found => some found
  | none =>
      match cs with
      | '"' :: rest => readQuoted rest
      | _ => none

/-- Reads an address. -/
def readAddress (cs : List Char) : Option (Address × List Char) :=
  match readLocalPart cs with
  | some (localPart, '@' :: rest) =>
      (readAtoms rest).map fun (domain, rest) =>
        (⟨String.ofList localPart, String.ofList domain⟩, rest)
  | _ => none

/-- Whether a character is a visible one or a blank that may stand in a quoted local part. -/
def isQuotedLocal : List Char → Bool
  | [] => true
  | ['\\'] => false
  | '\\' :: c :: rest => decide (33 ≤ c.toNat) && decide (c.toNat ≤ 126) && isQuotedLocal rest
  | c :: rest => (Text.isSpaceOrTab c || isQuotableChar c || isForeign c) && isQuotedLocal rest

/-- Whether characters are atoms separated by dots. -/
def isAtoms (cs : List Char) : Bool :=
  (Text.splitOn '.' cs).all fun atom => !atom.isEmpty && atom.all isAtomChar

/-- Whether a local part keeps the rules. -/
def isLocalPart (localPart : String) : Bool :=
  let cs := localPart.toList
  decide (localPart.utf8ByteSize ≤ 64) &&
    if cs.head? == some '"' && cs.getLast? == some '"' then
      decide (2 < cs.length) && isQuotedLocal (cs.drop 1).dropLast
    else isAtoms cs

/-- Whether a label of a domain keeps the rules: in ASCII it begins and ends with a letter or a
digit. -/
def isLabel (label : List Char) : Bool :=
  let isEnd (c : Option Char) : Bool := (c.map Char.isAlphanum).getD false
  decide ((String.ofList label).utf8ByteSize ≤ 63) && !label.isEmpty && label.all isAtomChar
    && (label.any isForeign || (isEnd label.head? && isEnd label.getLast?))

/-- Whether a domain keeps the rules. -/
def isDomain (domain : String) : Bool :=
  decide (domain.utf8ByteSize ≤ 254) && (Text.splitOn '.' domain.toList).all isLabel

namespace Address

/-- Whether an address keeps the rules. -/
def isAcceptable (address : Address) : Bool :=
  isLocalPart address.localPart && isDomain address.domain

/-- The text of an address. -/
def text (address : Address) : String :=
  address.localPart ++ "@" ++ address.domain

end Address

/-! ## Mailboxes -/

/-- An address with the name that it is shown under. -/
structure Mailbox where
  name : Option String
  address : Address
  deriving DecidableEq, Repr

/-- Reads an address in angle brackets, with white space around them. -/
def readBracketed (cs : List Char) : Option (Address × List Char) :=
  match cs.dropWhile Text.isWhiteSpace with
  | '<' :: rest =>
      match readAddress rest with
      | some (address, '>' :: rest) => some (address, rest.dropWhile Text.isWhiteSpace)
      | _ => none
  | _ => none

/-- Reads a mailbox. -/
def readMailbox (cs : List Char) : Option (Mailbox × List Char) :=
  let (name, rest) : Option String × List Char :=
    match readName cs with
    | some (name, rest) => (some (String.ofList name), rest)
    | none => (none, cs)
  match readBracketed rest with
  | some (address, rest) => some (⟨name, address⟩, rest)
  | none => (readAddress cs).map fun (address, rest) => (⟨none, address⟩, rest)

namespace Mailbox

/-- Reads the text of a mailbox. -/
def parse? (text : String) : Option Mailbox :=
  match readMailbox (text.toList.dropWhile Text.isWhiteSpace) with
  | none => none
  | some (mailbox, rest) =>
      if rest.all Text.isWhiteSpace && mailbox.address.isAcceptable then some mailbox else none

/-- Whether a character of a name needs no quotes. -/
def isBareNameChar (c : Char) : Bool :=
  Text.isSpaceOrTab c || (isAtomChar c && c != '9')

/-- A name as it is written: between quotes if a character needs them. -/
def nameText (name : List Char) : List Char :=
  if name.all isBareNameChar then name
  else
    let escaped := name.flatMap fun c => if c == '"' || c == '\\' then ['\\', c] else [c]
    '"' :: escaped ++ ['"']

/-- The text of a mailbox. -/
def text (mailbox : Mailbox) : String :=
  match Text.trim (mailbox.name.getD "").toList with
  | [] => mailbox.address.text
  | name => String.ofList (nameText name) ++ " <" ++ mailbox.address.text ++ ">"

end Mailbox

end Gatehouse.Mail
