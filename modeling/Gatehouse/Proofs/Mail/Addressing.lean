import Gatehouse.Mail.Mailer
import Gatehouse.Proofs.Mail.Templates

/-!
# Which addresses mail can be sent to

An address as the rule for accounts has it (`Validation.isEmail`) need not be one that a mailer takes
for a recipient.  The rule lets dots and hyphens stand anywhere and sets no bound; the reader of
mailboxes wants atoms between the dots of the local part, labels between those of the domain, and
keeps to the lengths that mail allows.  `Validation.AddressParts.IsDeliverable` says what is wanted
in terms of the parts of an address, and `Mailer.rejects_recipient_iff` that nothing else is: all
other addresses are rejected, for their form, and all these are taken.

The reader tries a display name first.  In an address there is no bracket, so the name, whatever it
takes of the text, leads nowhere (`readMailbox_of_noBracket`).  Behind that the reader goes over
atoms and dots as far as there are any; what it has read and what it has left are the text
(`append_of_readAddress`), and a text of atoms is read to its end (`readAtoms_of_isAtoms`).
-/

namespace Gatehouse

set_option autoImplicit false

/-! ## Deliverable addresses -/

namespace Validation.AddressParts

/-- What stands behind the at-sign. -/
def domain (parts : AddressParts) : List Char :=
  parts.host ++ '.' :: parts.topLevel

/-- Whether mail can be sent to an address with some parts: the local part is short enough and has
something on both sides of each of its dots, and so has the domain, whose labels are short enough
and neither begin nor end with a hyphen. -/
structure IsDeliverable (parts : AddressParts) : Prop where
  length_localPart : parts.localPart.length ≤ 64
  atom_ne_nil : ∀ atom ∈ Text.splitOn '.' parts.localPart, atom ≠ []
  length_domain : parts.domain.length ≤ 254
  label_ne_nil : ∀ label ∈ Text.splitOn '.' parts.domain, label ≠ []
  length_label : ∀ label ∈ Text.splitOn '.' parts.domain, label.length ≤ 63
  noHyphen : ∀ label ∈ Text.splitOn '.' parts.domain,
    label.head? ≠ some '-' ∧ label.getLast? ≠ some '-'

/-- The address that a mailer makes of one with some parts. -/
def address (parts : AddressParts) : Mail.Address :=
  ⟨String.ofList parts.localPart, String.ofList parts.domain⟩

theorem domain_mem (parts : AddressParts) : ∀ c ∈ parts.domain, c ∈ hostClass := by
  intro c inDomain
  rcases List.mem_append.1 inDomain with inHost | behindHost
  · exact parts.host_mem c inHost
  rcases List.mem_cons.1 behindHost with rfl | inTopLevel
  · exact .inr (.inl rfl)
  · exact .inl (.inl (parts.topLevel_mem c inTopLevel))

end Validation.AddressParts

namespace Mail

/-! ## Characters of addresses -/

open Validation (localClass hostClass)

theorem isAtomChar_of_mem_localClass {c : Char} (isLocal : c ∈ localClass) (notDot : c ≠ '.') :
    isAtomChar c = true := by
  rw [← Validation.isLocalChar_iff, Validation.isLocalChar, Bool.or_eq_true] at isLocal
  rcases isLocal with isAlphanum | isSign
  · have isAlphanum : c.isAlphanum = true := isAlphanum
    simp [isAtomChar, isAlphanum]
  · have areAtomChars : (['.', '_', '%', '+', '-'].all fun c => c == '.' || isAtomChar c) = true := by
      decide
    have isAtomOrDot := List.all_eq_true.1 areAtomChars c (List.contains_iff_mem.1 isSign)
    simpa [notDot] using isAtomOrDot

theorem isVisible_of_mem_localClass {c : Char} (isLocal : c ∈ localClass) :
    33 ≤ c.toNat ∧ c.toNat < 128 := by
  have inRange {least most : Char} (isMember : c ∈ Set.Icc least most) (isLeast : 33 ≤ least.toNat)
      (isMost : most.toNat < 128) : 33 ≤ c.toNat ∧ c.toNat < 128 :=
    ⟨isLeast.trans (UInt32.le_iff_toNat_le.1 isMember.1),
      (UInt32.le_iff_toNat_le.1 isMember.2).trans_lt isMost⟩
  rcases isLocal with ((isUpper | isLower) | isDigit) | isSign
  · exact inRange isUpper (by decide) (by decide)
  · exact inRange isLower (by decide) (by decide)
  · exact inRange isDigit (by decide) (by decide)
  · rcases isSign with rfl | rfl | rfl | rfl | rfl <;> decide

/-- No character of an address is white space. -/
theorem isWhiteSpace_of_mem_valueClass {c : Char} (isMember : c ∈ valueClass) :
    Text.isWhiteSpace c = false := by
  rcases isMember with isLocal | rfl
  · obtain ⟨isVisible, isAscii⟩ := isVisible_of_mem_localClass isLocal
    simp only [Text.isWhiteSpace, Bool.or_eq_false_iff, Bool.and_eq_false_iff,
      beq_eq_false_iff_ne, decide_eq_false_iff_not]
    omega
  · decide

theorem isSpaceOrTab_of_mem_valueClass {c : Char} (isMember : c ∈ valueClass) :
    Text.isSpaceOrTab c = false := by
  have notSpace := isWhiteSpace_of_mem_valueClass isMember
  rw [Text.isSpaceOrTab, Bool.or_eq_false_iff, beq_eq_false_iff_ne, beq_eq_false_iff_ne]
  constructor <;> rintro rfl <;> cases notSpace

/-! ## What readers leave -/

section

variable {cs rest : List Char}

theorem suffix_of_readQuotedChar {c : Char} (read : readQuotedChar cs = some (c, rest)) :
    rest <:+ cs := by
  unfold readQuotedChar at read
  split at read
  · cases read
  · cases read
  · split at read
    · cases read
      exact (List.suffix_cons _ _).trans (List.suffix_cons _ _)
    · cases read
  · split at read
    · cases read
      exact List.suffix_cons _ _
    · cases read

theorem suffix_of_readQuoted {content : List Char} (read : readQuoted cs = some (content, rest)) :
    rest <:+ cs := by
  fun_induction readQuoted cs generalizing content with
  | case1 cs c behind isRead ih =>
      obtain ⟨⟨more, behindMore⟩, readMore, same⟩ := Option.map_eq_some_iff.1 read
      cases same
      exact ((ih readMore).trans (suffix_of_readQuotedChar isRead)).trans (List.dropWhile_suffix _)
  | case2 cs notRead behind isQuote =>
      cases read
      exact (isQuote ▸ List.suffix_cons _ _ : rest <:+ cs.dropWhile Text.isWhiteSpace).trans
        (List.dropWhile_suffix _)
  | case3 => cases read

theorem suffix_of_readAtom {atom : List Char} (read : readAtom cs = some (atom, rest)) :
    rest <:+ cs := by
  simp only [readAtom] at read
  split at read
  · cases read
  · cases read
    exact (List.dropWhile_suffix _).trans (List.dropWhile_suffix _)

theorem suffix_of_readWord {word : List Char} (read : readWord cs = some (word, rest)) :
    rest <:+ cs := by
  unfold readWord at read
  split at read
  · split at read
    next isQuoted =>
      cases read
      exact (suffix_of_readQuoted isQuoted).trans (List.suffix_cons _ _)
    next => exact suffix_of_readAtom read
  · exact suffix_of_readAtom read

theorem suffix_of_readNameTail (cs : List Char) : (readNameTail cs).2 <:+ cs := by
  fun_induction readNameTail cs with
  | case1 cs word behind isRead isShorter more last isMore ih =>
      rw [isMore] at ih
      exact ih.trans (suffix_of_readWord isRead)
  | case2 | case4 => exact List.suffix_rfl
  | case3 behind more last isMore notRead ih =>
      rw [isMore] at ih
      exact ih.trans (List.suffix_cons _ _)

theorem suffix_of_readName {name : List Char} (read : readName cs = some (name, rest)) :
    rest <:+ cs := by
  obtain ⟨⟨word, behind⟩, isWord, same⟩ := Option.map_eq_some_iff.1 read
  cases same
  exact (suffix_of_readNameTail behind).trans (suffix_of_readWord isWord)

theorem readBracketed_eq_none (noBracket : '<' ∉ cs) : readBracketed cs = none := by
  unfold readBracketed
  split
  next behind isBracket =>
    have isThere : '<' ∈ cs.dropWhile Text.isWhiteSpace := isBracket ▸ .head _
    exact absurd ((List.dropWhile_suffix _).subset isThere) noBracket
  next => rfl

/-- A text without a bracket is read as an address: what a display name would take of it leaves none
either. -/
theorem readMailbox_of_noBracket (noBracket : '<' ∉ cs) :
    readMailbox cs = (readAddress cs).map fun (address, rest) => (⟨none, address⟩, rest) := by
  unfold readMailbox
  cases isName : readName cs with
  | none => simp only [readBracketed_eq_none noBracket]
  | some read =>
      obtain ⟨name, rest⟩ := read
      have noBracket : '<' ∉ rest := fun isThere =>
        noBracket ((suffix_of_readName isName).subset isThere)
      simp only [readBracketed_eq_none noBracket]

/-! ## Atoms and dots -/

theorem append_of_readMoreAtoms (count : Nat) (cs : List Char) :
    (readMoreAtoms count cs).1 ++ (readMoreAtoms count cs).2 = cs := by
  fun_induction readMoreAtoms count cs with
  | case1 | case2 | case4 => rfl
  | case3 count behind atom notEmpty more last isMore ih =>
      rw [isMore] at ih
      simp only [List.cons_append, List.append_assoc, ih, atom, List.takeWhile_append_dropWhile]

/-- Blanks in front of an atom would be passed over. -/
theorem readAtom_of_noBlank (noBlank : ∀ c ∈ cs.head?, Text.isSpaceOrTab c = false) :
    readAtom cs =
      if (cs.takeWhile isAtomChar).isEmpty then none
      else some (cs.takeWhile isAtomChar, cs.dropWhile isAtomChar) := by
  cases cs with
  | nil => rfl
  | cons c cs =>
      have notBlank := noBlank c rfl
      simp [readAtom, List.dropWhile_cons, List.takeWhile_cons, notBlank]

theorem notBlank_of_isAtomChar {c : Char} (isAtom : isAtomChar c = true) :
    Text.isSpaceOrTab c = false := by
  rw [Text.isSpaceOrTab, Bool.or_eq_false_iff, beq_eq_false_iff_ne, beq_eq_false_iff_ne]
  constructor <;> rintro rfl <;> cases isAtom

/-- What has been read and what is left are the text, if no blanks have been passed over. -/
theorem append_of_readAtoms {front : List Char} (noBlank : ∀ c ∈ cs, Text.isSpaceOrTab c = false)
    (read : readAtoms cs = some (front, rest)) : front ++ rest = cs := by
  obtain ⟨⟨atom, behind⟩, isAtom, same⟩ := Option.map_eq_some_iff.1 read
  cases same
  rw [readAtom_of_noBlank fun c isHead => noBlank c (List.mem_of_mem_head? isHead)] at isAtom
  split at isAtom
  · cases isAtom
  · cases isAtom
    rw [List.append_assoc, append_of_readMoreAtoms, List.takeWhile_append_dropWhile]

theorem append_of_readAddress {address : Address}
    (noBlank : ∀ c ∈ cs, Text.isSpaceOrTab c = false) (noQuote : '"' ∉ cs)
    (read : readAddress cs = some (address, rest)) :
    address.localPart.toList ++ '@' :: (address.domain.toList ++ rest) = cs := by
  have isUnquoted : readLocalPart cs = readAtoms cs := by
    unfold readLocalPart
    split
    next isRead => exact isRead.symm
    next notRead =>
      split
      next => exact absurd (.head _) noQuote
      next => exact notRead.symm
  unfold readAddress at read
  rw [isUnquoted] at read
  split at read
  next localPart behind isLocal =>
    obtain ⟨⟨domain, last⟩, isDomain, same⟩ := Option.map_eq_some_iff.1 read
    cases same
    have whole := append_of_readAtoms noBlank isLocal
    have noBlank : ∀ c ∈ behind, Text.isSpaceOrTab c = false := fun c isBehind =>
      noBlank c (whole ▸ List.mem_append_right _ (.tail _ isBehind))
    rw [String.toList_ofList, String.toList_ofList, append_of_readAtoms noBlank isDomain, whole]
  next => cases read

/-- Atoms, each behind a dot. -/
def dotted : List (List Char) → List Char
  | [] => []
  | atom :: atoms => '.' :: (atom ++ dotted atoms)

theorem intercalate_dot (atom : List Char) (atoms : List (List Char)) :
    ['.'].intercalate (atom :: atoms) = atom ++ dotted atoms := by
  induction atoms generalizing atom with
  | nil => simp [dotted]
  | cons next atoms ih => simp [List.intercalate_cons_cons, dotted, ih]

theorem length_le_length_dotted (atoms : List (List Char)) :
    atoms.length ≤ (dotted atoms).length := by
  induction atoms with
  | nil => exact Nat.le_refl 0
  | cons atom atoms ih =>
      rw [dotted, List.length_cons, List.length_cons, List.length_append]
      omega

/-- Whether a text does not go on with an atom or a dot. -/
def EndsAtoms (rest : List Char) : Prop :=
  ∀ c ∈ rest.head?, isAtomChar c = false ∧ c ≠ '.'

/-- An atom does not run into the atoms behind it. -/
theorem EndsAtoms.dotted (ends : EndsAtoms rest) (atoms : List (List Char)) :
    ∀ c ∈ (dotted atoms ++ rest).head?, isAtomChar c = false := by
  cases atoms with
  | nil => exact fun c isHead => (ends c isHead).1
  | cons atom atoms =>
      rintro c ⟨⟩
      decide

theorem takeWhile_append_of_stops {atom : List Char} (isAtom : ∀ c ∈ atom, isAtomChar c = true)
    (stops : ∀ c ∈ rest.head?, isAtomChar c = false) :
    (atom ++ rest).takeWhile isAtomChar = atom ∧ (atom ++ rest).dropWhile isAtomChar = rest := by
  rw [List.takeWhile_append_of_pos isAtom, List.dropWhile_append_of_pos isAtom]
  cases rest with
  | nil => simp
  | cons c rest =>
      have notAtomChar := stops c rfl
      simp [notAtomChar]

theorem readMoreAtoms_of_endsAtoms (ends : EndsAtoms rest) (count : Nat) :
    readMoreAtoms count rest = ([], rest) := by
  cases rest with
  | nil => cases count <;> rfl
  | cons c rest =>
      have notDot := (ends c rfl).2
      cases count <;> simp [readMoreAtoms, notDot]

/-- Atoms behind dots are read to their end, if the count allows for them. -/
theorem readMoreAtoms_of_atoms {atoms : List (List Char)} (ends : EndsAtoms rest)
    (areAtoms : ∀ atom ∈ atoms, atom ≠ [] ∧ ∀ c ∈ atom, isAtomChar c = true) {count : Nat}
    (isEnough : atoms.length ≤ count) :
    readMoreAtoms count (dotted atoms ++ rest) = (dotted atoms, rest) := by
  induction atoms generalizing count with
  | nil => exact readMoreAtoms_of_endsAtoms ends count
  | cons atom atoms ih =>
      obtain ⟨⟨notEmpty, isAtom⟩, areAtoms⟩ := List.forall_mem_cons.1 areAtoms
      cases count with
      | zero => cases isEnough
      | succ count =>
          obtain ⟨isTaken, isLeft⟩ := takeWhile_append_of_stops isAtom (ends.dotted atoms)
          simp only [dotted, List.cons_append, List.append_assoc, readMoreAtoms, isTaken, isLeft,
            ih areAtoms (Nat.le_of_succ_le_succ isEnough)]
          simp [notEmpty]

theorem isAtoms_iff :
    isAtoms cs = true ↔
      ∀ atom ∈ Text.splitOn '.' cs, atom ≠ [] ∧ ∀ c ∈ atom, isAtomChar c = true := by
  simp [isAtoms]

/-- **Atoms with dots between them are read to their end.** -/
theorem readAtoms_of_isAtoms (isAtoms : isAtoms cs = true) (ends : EndsAtoms rest) :
    readAtoms (cs ++ rest) = some (cs, rest) := by
  have areAtoms := isAtoms_iff.1 isAtoms
  cases parts : Text.splitOn '.' cs with
  | nil => exact absurd parts (Text.splitOn_ne_nil _ _)
  | cons atom atoms =>
      have whole : cs = atom ++ dotted atoms := by
        rw [← intercalate_dot, ← parts, Text.join_splitOn]
      rw [parts] at areAtoms
      obtain ⟨⟨notEmpty, isAtom⟩, areAtoms⟩ := List.forall_mem_cons.1 areAtoms
      have isFirst : readAtom (atom ++ (dotted atoms ++ rest)) = some (atom, dotted atoms ++ rest) := by
        obtain ⟨isTaken, isLeft⟩ := takeWhile_append_of_stops isAtom (ends.dotted atoms)
        rw [readAtom_of_noBlank, isTaken, isLeft]
        · simp [notEmpty]
        · intro c isHead
          rw [List.head?_append_of_ne_nil _ notEmpty] at isHead
          exact notBlank_of_isAtomChar (isAtom c (List.mem_of_mem_head? isHead))
      have isEnough : atoms.length ≤ (dotted atoms ++ rest).length := by
        have := length_le_length_dotted atoms
        rw [List.length_append]
        omega
      simp only [readAtoms, whole, List.append_assoc, isFirst, Option.map_some,
        readMoreAtoms_of_atoms ends areAtoms isEnough]

end

/-! ## Rules for deliverable addresses -/

/-- In a host all is a letter or a digit but dots and hyphens. -/
theorem isAlphanum_iff_of_mem_hostClass {c : Char} (isHost : c ∈ hostClass) (notDot : c ≠ '.') :
    c.isAlphanum = true ↔ c ≠ '-' := by
  constructor
  · rintro isAlphanum rfl
    cases isAlphanum
  · intro notHyphen
    rcases isHost with isLetterOrDigit | rfl | rfl
    · exact Validation.isLetterOrDigit_iff.2 isLetterOrDigit
    · exact absurd rfl notDot
    · exact absurd rfl notHyphen

theorem utf8ByteSize_of_mem_localClass {cs : List Char} (isLocal : ∀ c ∈ cs, c ∈ localClass) :
    (String.ofList cs).utf8ByteSize = cs.length :=
  Text.utf8ByteSize_ofList_of_ascii fun c isMember =>
    (isVisible_of_mem_localClass (isLocal c isMember)).2

theorem isLabel_iff {label : List Char} (isHost : ∀ c ∈ label, c ∈ hostClass)
    (noDot : '.' ∉ label) :
    isLabel label = true ↔
      label ≠ [] ∧ label.length ≤ 63 ∧ label.head? ≠ some '-' ∧ label.getLast? ≠ some '-' := by
  have isLocal : ∀ c ∈ label, c ∈ localClass := fun c isMember =>
    Validation.hostClass_subset_localClass (isHost c isMember)
  have notDot : ∀ c ∈ label, c ≠ '.' := fun c isMember same => noDot (same ▸ isMember)
  have areAtomChars : label.all isAtomChar = true := List.all_eq_true.2 fun c isMember =>
    isAtomChar_of_mem_localClass (isLocal c isMember) (notDot c isMember)
  have noneForeign : label.any isForeign = false := List.any_eq_false.2 fun c isMember => by
    have isAscii := (isVisible_of_mem_localClass (isLocal c isMember)).2
    simpa [isForeign] using isAscii
  have isEnd {c : Char} (isMember : c ∈ label) : c.isAlphanum = true ↔ c ≠ '-' :=
    isAlphanum_iff_of_mem_hostClass (isHost c isMember) (notDot c isMember)
  cases hasFirst : label.head? with
  | none =>
      rw [List.head?_eq_none_iff.1 hasFirst]
      decide
  | some first =>
      have notEmpty : label ≠ [] := by
        rintro rfl
        cases hasFirst
      have hasLast := List.getLast?_eq_some_getLast notEmpty
      have isFirst := isEnd (List.mem_of_mem_head? hasFirst)
      have isLast := isEnd (List.getLast_mem notEmpty)
      simp [isLabel, hasFirst, hasLast, areAtomChars, noneForeign, notEmpty, isFirst, isLast,
        utf8ByteSize_of_mem_localClass isLocal]

/-- What a local part or a host is made of has the form of atoms and dots unless an atom is
missing. -/
theorem isAtoms_iff_ne_nil {cs : List Char} (isLocal : ∀ c ∈ cs, c ∈ localClass) :
    isAtoms cs = true ↔ ∀ atom ∈ Text.splitOn '.' cs, atom ≠ [] := by
  rw [isAtoms_iff]
  refine forall₂_congr fun atom isAtom => and_iff_left fun c isMember => ?_
  refine isAtomChar_of_mem_localClass (isLocal c (Text.subset_of_mem_splitOn isAtom isMember)) ?_
  rintro rfl
  exact Text.not_mem_of_mem_splitOn isAtom isMember

open Validation (AddressParts)

variable (parts : AddressParts)

theorem domain_mem_localClass : ∀ c ∈ parts.domain, c ∈ localClass := fun c inDomain =>
  Validation.hostClass_subset_localClass (parts.domain_mem c inDomain)

theorem characters_eq : parts.characters = parts.localPart ++ '@' :: parts.domain :=
  rfl

theorem mem_valueClass_of_mem_characters {c : Char} (inText : c ∈ parts.characters) :
    c ∈ valueClass :=
  parts.mem_characters inText

theorem isLocalPart_address_iff :
    isLocalPart parts.address.localPart = true ↔
      parts.localPart.length ≤ 64 ∧ ∀ atom ∈ Text.splitOn '.' parts.localPart, atom ≠ [] := by
  have notQuoted : parts.localPart.head? ≠ some '"' := by
    intro isQuote
    have isLocal := parts.localPart_mem _ (List.mem_of_mem_head? isQuote)
    exact notMem_valueClass (by decide) (.inl isLocal)
  have size := utf8ByteSize_of_mem_localClass parts.localPart_mem
  simp [isLocalPart, AddressParts.address, notQuoted, isAtoms_iff_ne_nil parts.localPart_mem, size]

theorem isDomain_address_iff :
    isDomain parts.address.domain = true ↔
      parts.domain.length ≤ 254 ∧ ∀ label ∈ Text.splitOn '.' parts.domain,
        label ≠ [] ∧ label.length ≤ 63 ∧ label.head? ≠ some '-' ∧ label.getLast? ≠ some '-' := by
  have areLabels : (Text.splitOn '.' parts.domain).all isLabel = true ↔
      ∀ label ∈ Text.splitOn '.' parts.domain,
        label ≠ [] ∧ label.length ≤ 63 ∧ label.head? ≠ some '-' ∧ label.getLast? ≠ some '-' := by
    rw [List.all_eq_true]
    refine forall₂_congr fun label isLabel => isLabel_iff (fun c isMember => ?_) ?_
    · exact parts.domain_mem c (Text.subset_of_mem_splitOn isLabel isMember)
    · exact Text.not_mem_of_mem_splitOn isLabel
  have size := utf8ByteSize_of_mem_localClass (domain_mem_localClass parts)
  simp only [isDomain, AddressParts.address, String.toList_ofList, size, Bool.and_eq_true,
    decide_eq_true_eq, areLabels]

/-- What is made of an address keeps the rules for addresses of mail if it is deliverable. -/
theorem isAcceptable_address_iff :
    parts.address.isAcceptable = true ↔ parts.IsDeliverable := by
  rw [Address.isAcceptable, Bool.and_eq_true, isLocalPart_address_iff, isDomain_address_iff]
  constructor
  · rintro ⟨⟨lengthLocal, atoms⟩, lengthDomain, labels⟩
    exact ⟨lengthLocal, atoms, lengthDomain, fun label isLabel => (labels label isLabel).1,
      fun label isLabel => (labels label isLabel).2.1,
      fun label isLabel => (labels label isLabel).2.2⟩
  · rintro ⟨lengthLocal, atoms, lengthDomain, notEmpty, length, noHyphen⟩
    exact ⟨⟨lengthLocal, atoms⟩, lengthDomain, fun label isLabel =>
      ⟨notEmpty label isLabel, length label isLabel, noHyphen label isLabel⟩⟩

/-! ## Reading addresses -/

/-- An address is read without regard to display names. -/
theorem parse?_text :
    Mailbox.parse? parts.text =
      match readAddress parts.characters with
      | none => none
      | some (address, rest) =>
          if rest.all Text.isWhiteSpace && address.isAcceptable then some ⟨none, address⟩
          else none := by
  have noSpace : parts.characters.dropWhile Text.isWhiteSpace = parts.characters := by
    cases whole : parts.characters with
    | nil => rfl
    | cons c cs =>
        have inText : c ∈ parts.characters := whole ▸ List.mem_cons_self
        have isFirst := mem_valueClass_of_mem_characters parts inText
        rw [List.dropWhile_cons, isWhiteSpace_of_mem_valueClass isFirst, if_neg Bool.false_ne_true]
  have noBracket : '<' ∉ parts.characters := fun inText =>
    notMem_valueClass (by decide) (mem_valueClass_of_mem_characters parts inText)
  rw [Mailbox.parse?, parts.toList_text, noSpace, readMailbox_of_noBracket noBracket]
  cases readAddress parts.characters <;> rfl

/-- What is read of an address, if it is read to its end, are its parts. -/
theorem eq_address_of_readAddress {address : Address} {rest : List Char}
    (read : readAddress parts.characters = some (address, rest))
    (isAtEnd : rest.all Text.isWhiteSpace = true) : address = parts.address ∧ rest = [] := by
  have isMember {c : Char} := mem_valueClass_of_mem_characters (c := c) parts
  have whole := append_of_readAddress
    (fun c inText => isSpaceOrTab_of_mem_valueClass (isMember inText))
    (fun inText => notMem_valueClass (by decide) (isMember inText)) read
  have noRest : rest = [] := by
    refine List.eq_nil_iff_forall_not_mem.2 fun c inRest => ?_
    have inText : c ∈ parts.characters := by
      rw [← whole]
      simp [inRest]
    have notSpace := isWhiteSpace_of_mem_valueClass (isMember inText)
    rw [List.all_eq_true.1 isAtEnd c inRest] at notSpace
    cases notSpace
  subst noRest
  rw [List.append_nil, characters_eq] at whole
  have noAtSign {cs : List Char} (isLocal : ∀ c ∈ cs, c ∈ localClass) : '@' ∉ cs := by
    intro isThere
    have isLocal := Validation.isLocalChar_iff.2 (isLocal '@' isThere)
    cases isLocal
  obtain ⟨sameLocal, -, sameDomain⟩ := (List.append_cons_inj_of_notMem
    (noAtSign parts.localPart_mem) (noAtSign (domain_mem_localClass parts))).1 whole.symm
  refine ⟨?_, rfl⟩
  rw [AddressParts.address, sameLocal, sameDomain, String.ofList_toList, String.ofList_toList]

/-- The parts of a deliverable address are read. -/
theorem readAddress_of_isAcceptable (isAcceptable : parts.address.isAcceptable = true) :
    readAddress parts.characters = some (parts.address, []) := by
  obtain ⟨isLocalPart, isDomain⟩ := Bool.and_eq_true_iff.1 isAcceptable
  have localAtoms : isAtoms parts.localPart = true :=
    (isAtoms_iff_ne_nil parts.localPart_mem).2 ((isLocalPart_address_iff parts).1 isLocalPart).2
  have domainAtoms : isAtoms parts.domain = true :=
    (isAtoms_iff_ne_nil (domain_mem_localClass parts)).2 fun label isLabel =>
      (((isDomain_address_iff parts).1 isDomain).2 label isLabel).1
  have isRead : readAtoms parts.characters = some (parts.localPart, '@' :: parts.domain) := by
    refine readAtoms_of_isAtoms localAtoms ?_
    rintro c ⟨⟩
    decide
  have domainRead : readAtoms parts.domain = some (parts.domain, []) := by
    have isRead : readAtoms (parts.domain ++ []) = some (parts.domain, []) :=
      readAtoms_of_isAtoms domainAtoms nofun
    rwa [List.append_nil] at isRead
  simp only [readAddress, readLocalPart, isRead, domainRead, Option.map_some]
  rfl

/-- **A mailer takes an address for a recipient exactly if it is deliverable**, and reads its parts
then. -/
theorem parse?_eq_some_iff {mailbox : Mailbox} :
    Mailbox.parse? parts.text = some mailbox ↔
      parts.IsDeliverable ∧ mailbox = ⟨none, parts.address⟩ := by
  rw [parse?_text, ← isAcceptable_address_iff]
  constructor
  · intro parsed
    split at parsed
    next => cases parsed
    next address rest isRead =>
      split at parsed
      next kept =>
        obtain ⟨isAtEnd, isAcceptable⟩ := Bool.and_eq_true_iff.1 kept
        obtain ⟨rfl, -⟩ := eq_address_of_readAddress parts isRead isAtEnd
        cases parsed
        exact ⟨isAcceptable, rfl⟩
      next => cases parsed
  · rintro ⟨isAcceptable, rfl⟩
    simp only [readAddress_of_isAcceptable parts isAcceptable, isAcceptable]
    rfl

/-! ## Recipients -/

instance : DecidablePred AddressParts.IsDeliverable := fun parts =>
  decidable_of_iff _ (isAcceptable_address_iff parts)

/-- The recipient is read once the template has been filled. -/
theorem Mailer.compose_of_render (mailer : Mailer) {letter : Letter} {texts : Texts}
    (isFilled : letter.template.render letter.values = .ok texts) :
    mailer.compose letter =
      match Mailbox.parse? letter.recipient with
      | none => .error (.mail "Invalid recipient address")
      | some recipient => .ok ⟨mailer.sender, recipient, texts⟩ := by
  cases isRead : Mailbox.parse? letter.recipient <;>
    simp only [compose, Template.fillWith, isFilled, isRead]

theorem parse?_eq_none_iff : Mailbox.parse? parts.text = none ↔ ¬parts.IsDeliverable := by
  rw [Option.eq_none_iff_forall_ne_some]
  constructor
  · intro noMailbox isDeliverable
    exact noMailbox _ ((parse?_eq_some_iff parts).2 ⟨isDeliverable, rfl⟩)
  · intro notDeliverable mailbox isRead
    exact notDeliverable ((parse?_eq_some_iff parts).1 isRead).1

/-- **A mailer rejects the addresses that are not deliverable, and no others.**  Take any mailer, any
address in the sense of the rule for accounts, and any template with a value for each of its names.
The letter is rejected for its recipient exactly if the address is not deliverable; if it is, the
letter becomes a message to the parts of the address. -/
theorem Mailer.rejects_recipient_iff (mailer : Mailer) (letter : Letter)
    (isAddress : Validation.isEmail letter.recipient = true)
    (isComplete : ∀ name ∈ letter.template.names, ∃ value, letter.values.get? name = some value) :
    ∃ parts : AddressParts, parts.text = letter.recipient ∧
      (mailer.compose letter = .error (.mail "Invalid recipient address") ↔
        ¬parts.IsDeliverable) ∧
      (parts.IsDeliverable → ∃ texts, letter.template.render letter.values = .ok texts ∧
        mailer.compose letter = .ok ⟨mailer.sender, ⟨none, parts.address⟩, texts⟩) := by
  obtain ⟨parts, same⟩ := Validation.isEmail_iff_exists_parts.1 isAddress
  obtain ⟨texts, isFilled⟩ := letter.template.render_of_complete isComplete
  have isComposed := mailer.compose_of_render isFilled
  rw [← same] at isComposed
  refine ⟨parts, same, ?_, fun isDeliverable => ⟨texts, isFilled, ?_⟩⟩
  · rw [isComposed, ← parse?_eq_none_iff]
    cases Mailbox.parse? parts.text <;> simp
  · simp only [isComposed, (parse?_eq_some_iff parts).2 ⟨isDeliverable, rfl⟩]

/-- An address with a dot in its local part and a hyphen in its domain. -/
def dottedAddress : AddressParts where
  localPart := ['f', 'i', 'r', 's', 't', '.', 'l', 'a', 's', 't']
  host := ['m', 'a', 'i', 'l', '-', '1']
  topLevel := ['o', 'r', 'g']
  localPart_ne_nil := List.cons_ne_nil _ _
  localPart_mem := by simp [← Validation.isLocalChar_iff]; decide
  host_ne_nil := List.cons_ne_nil _ _
  host_mem := by simp [← Validation.isHostChar_iff]; decide
  two_le_topLevel := by decide
  topLevel_mem := by simp [← Validation.isLetter_iff]; decide

/-- A mailer for a relay on the same machine. -/
def localMailer : Mailer :=
  ⟨⟨"localhost", 2525, .none, none⟩, ⟨none, ⟨"a", "b.co"⟩⟩⟩

/-- The letter with a token to a recipient. -/
def letterWithToken (recipient : String) : Letter :=
  ⟨recipient, .activation, activationValues "x"⟩

theorem letterWithToken_isComplete (recipient : String) :
    ∀ name ∈ (letterWithToken recipient).template.names,
      ∃ value, (letterWithToken recipient).values.get? name = some value := by
  intro name isName
  obtain rfl := List.mem_singleton.1 isName
  exact ⟨"x", rfl⟩

/-- A dot between two atoms and a hyphen inside a label are no obstacle. -/
theorem dotted_recipient_is_taken :
    ∃ texts, localMailer.compose (letterWithToken "first.last@mail-1.org") =
      .ok ⟨localMailer.sender, ⟨none, ⟨"first.last", "mail-1.org"⟩⟩, texts⟩ := by
  obtain ⟨parts, same, -, isTaken⟩ :=
    Mailer.rejects_recipient_iff localMailer (letterWithToken "first.last@mail-1.org")
      (by decide) (letterWithToken_isComplete _)
  have isDotted : dottedAddress.text = "first.last@mail-1.org" := by decide
  obtain rfl := AddressParts.text_injective (same.trans isDotted.symm)
  obtain ⟨texts, -, isComposed⟩ := isTaken (by decide)
  exact ⟨texts, isComposed⟩

/-- Two dots in a row keep to the rule for accounts, but a mailer that has been built and a template
that can be filled do not help: the letter is rejected for its recipient. -/
theorem dots_in_a_row_are_rejected :
    Validation.isEmail "first..last@example.com" = true ∧
      Mailer.ofTexts "smtp://localhost:2525" "a@b.co" = .ok localMailer ∧
      (∃ texts, Template.activation.render (activationValues "x") = .ok texts) ∧
      localMailer.compose ⟨"first..last@example.com", .activation, activationValues "x"⟩ =
        .error (.mail "Invalid recipient address") := by
  have isRelay : Relay.parse? "smtp://localhost:2525" = some localMailer.relay := by
    decide +kernel
  have isSender : Mailbox.parse? "a@b.co" = some localMailer.sender := by decide +kernel
  have notRead : Mailbox.parse? (letterWithToken "first..last@example.com").recipient = none := by
    decide +kernel
  obtain ⟨texts, isFilled⟩ :=
    Template.activation.render_of_complete (letterWithToken_isComplete "first..last@example.com")
  refine ⟨by decide, by simp only [Mailer.ofTexts, isRelay, isSender], ⟨texts, isFilled⟩, ?_⟩
  have isComposed := localMailer.compose_of_render isFilled
  rwa [notRead] at isComposed

end Mail

end Gatehouse
