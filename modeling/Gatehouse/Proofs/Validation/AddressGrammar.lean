import Mathlib.Computability.Language
import Mathlib.Data.Char
import Gatehouse.Text.Utf8
import Gatehouse.Validation.Rules

/-!
# The grammar of email addresses

An address has a local part, a host and a top-level domain, with an at-sign and a dot between them.
The rule for addresses looks for the first at-sign and the last dot behind it, and counts the bytes
of what is left as the top-level domain, which are its characters if they are all letters.  No other
choice could do better: a local part holds no at-sign and a top-level domain no dot, so a text has
its parts in at most one way (`AddressParts.text_injective`), and the rule accepts a text exactly
when it has parts at all (`isEmail_iff_exists_parts`).

The parts are those of an anchored regular expression, which is written here as a product of
languages (`addressLanguage`).
-/

namespace Gatehouse.Validation

set_option autoImplicit false

open Computability

/-! ## Classes of characters -/

/-- The letters `A-Z` and `a-z`. -/
def letterClass : Set Char := Set.Icc 'A' 'Z' ∪ Set.Icc 'a' 'z'

/-- The digits `0-9`. -/
def digitClass : Set Char := Set.Icc '0' '9'

/-- What a local part is made of: `A-Za-z0-9._%+-`. -/
def localClass : Set Char := letterClass ∪ digitClass ∪ {'.', '_', '%', '+', '-'}

/-- What a host is made of: `A-Za-z0-9.-`. -/
def hostClass : Set Char := letterClass ∪ digitClass ∪ {'.', '-'}

theorem isLetter_iff {c : Char} : isLetter c = true ↔ c ∈ letterClass := by
  have isUpper : c.isUpper = true ↔ c ∈ Set.Icc 'A' 'Z' := decide_eq_true_iff
  have isLower : c.isLower = true ↔ c ∈ Set.Icc 'a' 'z' :=
    Bool.and_eq_true_iff.trans (and_congr decide_eq_true_iff decide_eq_true_iff)
  exact Bool.or_eq_true_iff.trans (or_congr isUpper isLower)

theorem toNat_of_letter {c : Char} (isMember : c ∈ letterClass) : c.toNat < 128 := by
  rcases isMember with ⟨-, isUpper⟩ | ⟨-, isLower⟩
  · exact Nat.lt_of_le_of_lt (UInt32.le_iff_toNat_le.1 isUpper) (by decide)
  · exact Nat.lt_of_le_of_lt (UInt32.le_iff_toNat_le.1 isLower) (by decide)

theorem isLetterOrDigit_iff {c : Char} :
    isLetterOrDigit c = true ↔ c ∈ letterClass ∪ digitClass := by
  have isDigit : c.isDigit = true ↔ c ∈ digitClass := by
    simp only [Char.isDigit, Bool.and_eq_true, decide_eq_true_eq]
    exact Iff.rfl
  rw [isLetterOrDigit, Char.isAlphanum, Bool.or_eq_true, isDigit]
  exact or_congr_left isLetter_iff

theorem isLocalChar_iff {c : Char} : isLocalChar c = true ↔ c ∈ localClass := by
  rw [isLocalChar, Bool.or_eq_true, isLetterOrDigit_iff, List.contains_iff_mem]
  refine or_congr_right ?_
  simp

theorem isHostChar_iff {c : Char} : isHostChar c = true ↔ c ∈ hostClass := by
  rw [isHostChar, Bool.or_assoc, Bool.or_eq_true, isLetterOrDigit_iff]
  refine or_congr_right ?_
  simp

theorem hostClass_subset_localClass : hostClass ⊆ localClass := by
  rintro c (isLetterOrDigit | rfl | rfl)
  · exact .inl isLetterOrDigit
  · exact .inr (.inl rfl)
  · exact .inr (.inr (.inr (.inr (.inr rfl))))

/-! ## Parts of an address -/

/-- The parts of an address. -/
structure AddressParts where
  localPart : List Char
  host : List Char
  topLevel : List Char
  localPart_ne_nil : localPart ≠ []
  localPart_mem : ∀ c ∈ localPart, c ∈ localClass
  host_ne_nil : host ≠ []
  host_mem : ∀ c ∈ host, c ∈ hostClass
  two_le_topLevel : 2 ≤ topLevel.length
  topLevel_mem : ∀ c ∈ topLevel, c ∈ letterClass

namespace AddressParts

/-- The characters of the address with some parts. -/
def characters (parts : AddressParts) : List Char :=
  parts.localPart ++ '@' :: (parts.host ++ '.' :: parts.topLevel)

/-- The address with some parts. -/
def text (parts : AddressParts) : String :=
  String.ofList parts.characters

theorem toList_text (parts : AddressParts) : parts.text.toList = parts.characters :=
  String.toList_ofList

/-- An address is made of what local parts are made of and of the at-sign. -/
theorem mem_characters (parts : AddressParts) {c : Char} (inText : c ∈ parts.characters) :
    c ∈ localClass ∨ c = '@' := by
  rcases List.mem_append.1 inText with inLocal | behindLocal
  · exact .inl (parts.localPart_mem c inLocal)
  rcases List.mem_cons.1 behindLocal with rfl | inDomain
  · exact .inr rfl
  rcases List.mem_append.1 inDomain with inHost | behindHost
  · exact .inl (hostClass_subset_localClass (parts.host_mem c inHost))
  rcases List.mem_cons.1 behindHost with rfl | inTopLevel
  · exact .inl (.inr (.inl rfl))
  · exact .inl (.inl (.inl (parts.topLevel_mem c inTopLevel)))

/-- The at-sign that is first in an address is the one behind the local part. -/
theorem cutAtFirst_characters (parts : AddressParts) :
    Text.cutAtFirst (· == '@') parts.characters =
      some (parts.localPart, parts.host ++ '.' :: parts.topLevel) := by
  refine Text.cutAtFirst_eq_some.2 ⟨'@', rfl, rfl, fun c inLocal => ?_⟩
  have notLocal : '@' ∉ localClass := by
    rw [← isLocalChar_iff]
    decide
  rw [beq_eq_false_iff_ne]
  rintro rfl
  exact notLocal (parts.localPart_mem _ inLocal)

/-- The dot that is last in the domain is the one in front of the top-level domain. -/
theorem cutAtLast_domain (parts : AddressParts) :
    Text.cutAtLast (· == '.') (parts.host ++ '.' :: parts.topLevel) =
      some (parts.host, parts.topLevel) := by
  refine Text.cutAtLast_eq_some.2 ⟨'.', rfl, rfl, fun c inTopLevel => ?_⟩
  have notLetter : '.' ∉ letterClass := by
    rw [← isLetter_iff]
    decide
  rw [beq_eq_false_iff_ne]
  rintro rfl
  exact notLetter (parts.topLevel_mem _ inTopLevel)

/-- **An address has its parts in one way only.** -/
theorem text_injective : Function.Injective text := by
  intro former latter same
  have same : former.characters = latter.characters := String.ofList_injective same
  have sameCut := former.cutAtFirst_characters
  rw [same, latter.cutAtFirst_characters] at sameCut
  obtain ⟨sameLocal, sameDomain⟩ := Prod.mk.injEq .. ▸ Option.some.inj sameCut
  have sameCut := former.cutAtLast_domain
  rw [← sameDomain, latter.cutAtLast_domain] at sameCut
  obtain ⟨sameHost, sameTopLevel⟩ := Prod.mk.injEq .. ▸ Option.some.inj sameCut
  cases former
  cases latter
  cases sameLocal
  cases sameHost
  cases sameTopLevel
  rfl

end AddressParts

/-- A letter takes one byte, so that it does not matter to a top-level domain that its length is
counted in bytes. -/
theorem isDomain_iff {host topLevel : List Char} :
    isDomain host topLevel = true ↔ host ≠ [] ∧ (∀ c ∈ host, c ∈ hostClass) ∧
      2 ≤ topLevel.length ∧ ∀ c ∈ topLevel, c ∈ letterClass := by
  have sameLength (isTopLevel : ∀ c ∈ topLevel, c ∈ letterClass) :
      (String.ofList topLevel).utf8ByteSize = topLevel.length :=
    Text.utf8ByteSize_ofList_of_ascii fun c inTopLevel => toNat_of_letter (isTopLevel c inTopLevel)
  simp only [isDomain, Bool.and_eq_true, Bool.not_eq_true', List.isEmpty_eq_false_iff,
    List.all_eq_true, decide_eq_true_eq, isHostChar_iff, isLetter_iff, and_assoc]
  refine and_congr_right fun _ => and_congr_right fun _ => and_congr_left fun isTopLevel => ?_
  rw [sameLength isTopLevel]

/-- The rule for addresses in terms of the two cuts. -/
theorem isAddress_iff {cs : List Char} :
    isAddress cs = true ↔ ∃ localPart domain host topLevel,
      Text.cutAtFirst (· == '@') cs = some (localPart, domain) ∧
        Text.cutAtLast (· == '.') domain = some (host, topLevel) ∧
          localPart ≠ [] ∧ (∀ c ∈ localPart, c ∈ localClass) ∧ isDomain host topLevel = true := by
  unfold isAddress
  cases Text.cutAtFirst (· == '@') cs with
  | none => simp
  | some cut =>
      obtain ⟨localPart, domain⟩ := cut
      cases isCut : Text.cutAtLast (· == '.') domain with
      | none => simp [isCut]
      | some cut =>
          obtain ⟨host, topLevel⟩ := cut
          simp [isCut, ← isLocalChar_iff, and_assoc]

/-- A text is an address exactly when it has the parts of one. -/
theorem isEmail_iff_exists_parts {email : String} :
    isEmail email = true ↔ ∃ parts : AddressParts, parts.text = email := by
  rw [isEmail, isAddress_iff]
  constructor
  · rintro ⟨localPart, domain, host, topLevel, isFirst, isLast, isGiven, isLocal, isDomain⟩
    obtain ⟨atSign, whole, isAt, -⟩ := Text.cutAtFirst_eq_some.1 isFirst
    obtain ⟨dot, rfl, isDot, -⟩ := Text.cutAtLast_eq_some.1 isLast
    obtain ⟨hostGiven, isHost, isLong, isTopLevel⟩ := isDomain_iff.1 isDomain
    refine ⟨⟨localPart, host, topLevel, isGiven, isLocal, hostGiven, isHost, isLong, isTopLevel⟩, ?_⟩
    rw [beq_iff_eq.1 isAt, beq_iff_eq.1 isDot] at whole
    rw [AddressParts.text, AddressParts.characters, ← whole, String.ofList_toList]
  · rintro ⟨parts, rfl⟩
    refine ⟨_, _, _, _, parts.toList_text ▸ parts.cutAtFirst_characters, parts.cutAtLast_domain,
      parts.localPart_ne_nil, parts.localPart_mem, isDomain_iff.2 ?_⟩
    exact ⟨parts.host_ne_nil, parts.host_mem, parts.two_le_topLevel, parts.topLevel_mem⟩

/-- An address holds no null character. -/
theorem null_notMem_of_isEmail {email : String} (isAddress : isEmail email = true) :
    '\x00' ∉ email.toList := by
  obtain ⟨parts, rfl⟩ := isEmail_iff_exists_parts.1 isAddress
  rw [parts.toList_text]
  intro isThere
  rcases parts.mem_characters isThere with isLocal | isAtSign
  · exact absurd (isLocalChar_iff.2 isLocal) (by decide)
  · exact absurd isAtSign (by decide)

/-! ## The regular expression -/

/-- The texts of one character of a class. -/
def oneOf (characters : Set Char) : Language Char :=
  {text | ∃ c ∈ characters, text = [c]}

/-- The texts of one character or more of a class. -/
def someOf (characters : Set Char) : Language Char :=
  oneOf characters * (oneOf characters)∗

/-- The anchored regular expression of addresses:
`[A-Za-z0-9._%+-]+@[A-Za-z0-9.-]+\.[A-Za-z]{2,}`. -/
def addressLanguage : Language Char :=
  someOf localClass * oneOf {'@'} * someOf hostClass * oneOf {'.'} *
    (oneOf letterClass * someOf letterClass)

theorem mem_oneOf_mul {characters : Set Char} {language : Language Char} {text : List Char} :
    text ∈ oneOf characters * language ↔
      ∃ c rest, text = c :: rest ∧ c ∈ characters ∧ rest ∈ language := by
  rw [Language.mem_mul]
  constructor
  · rintro ⟨_, ⟨c, isMember, rfl⟩, rest, isRest, rfl⟩
    exact ⟨c, rest, rfl, isMember, isRest⟩
  · rintro ⟨c, rest, rfl, isMember, isRest⟩
    exact ⟨[c], ⟨c, isMember, rfl⟩, rest, isRest, rfl⟩

theorem mem_kstar_oneOf {characters : Set Char} {text : List Char} :
    text ∈ (oneOf characters)∗ ↔ ∀ c ∈ text, c ∈ characters := by
  rw [Language.mem_kstar]
  constructor
  · rintro ⟨pieces, rfl, isPieces⟩ c inText
    obtain ⟨piece, isPiece, inPiece⟩ := List.mem_flatten.1 inText
    obtain ⟨d, isMember, rfl⟩ := isPieces piece isPiece
    exact List.mem_singleton.1 inPiece ▸ isMember
  · intro isMember
    refine ⟨text.map fun c => [c], ?_, fun piece isPiece => ?_⟩
    · induction text with
      | nil => rfl
      | cons c rest ih => rw [List.map_cons, List.flatten_cons, ← ih fun d isLater =>
          isMember d (.tail _ isLater), List.singleton_append]
    · obtain ⟨c, inText, rfl⟩ := List.mem_map.1 isPiece
      exact ⟨c, isMember c inText, rfl⟩

theorem mem_someOf {characters : Set Char} {text : List Char} :
    text ∈ someOf characters ↔ text ≠ [] ∧ ∀ c ∈ text, c ∈ characters := by
  rw [someOf, mem_oneOf_mul]
  constructor
  · rintro ⟨c, rest, rfl, isMember, isRest⟩
    exact ⟨List.cons_ne_nil c rest, List.forall_mem_cons.2 ⟨isMember, mem_kstar_oneOf.1 isRest⟩⟩
  · rintro ⟨isGiven, isMember⟩
    obtain ⟨c, rest, rfl⟩ := List.exists_cons_of_ne_nil isGiven
    obtain ⟨isFirst, isRest⟩ := List.forall_mem_cons.1 isMember
    exact ⟨c, rest, rfl, isFirst, mem_kstar_oneOf.2 isRest⟩

theorem mem_oneOf_mul_someOf {characters : Set Char} {text : List Char} :
    text ∈ oneOf characters * someOf characters ↔
      2 ≤ text.length ∧ ∀ c ∈ text, c ∈ characters := by
  rw [mem_oneOf_mul]
  constructor
  · rintro ⟨c, rest, rfl, isMember, isRest⟩
    obtain ⟨isGiven, isRest⟩ := mem_someOf.1 isRest
    have isLong := List.length_pos_of_ne_nil isGiven
    exact ⟨Nat.succ_le_succ isLong, List.forall_mem_cons.2 ⟨isMember, isRest⟩⟩
  · rintro ⟨isLong, isMember⟩
    cases text with
    | nil => cases isLong
    | cons c rest =>
        obtain ⟨isFirst, isRest⟩ := List.forall_mem_cons.1 isMember
        have isGiven : rest ≠ [] := List.ne_nil_of_length_pos (Nat.le_of_succ_le_succ isLong)
        exact ⟨c, rest, rfl, isFirst, mem_someOf.2 ⟨isGiven, isRest⟩⟩

/-- What the regular expression matches are the texts that have the parts of an address. -/
theorem mem_addressLanguage {text : List Char} :
    text ∈ addressLanguage ↔ ∃ parts : AddressParts, parts.characters = text := by
  simp only [addressLanguage, mul_assoc]
  rw [Language.mem_mul]
  constructor
  · rintro ⟨localPart, isLocal, _, behindLocal, rfl⟩
    obtain ⟨atSign, _, rfl, isAt, domain⟩ := mem_oneOf_mul.1 behindLocal
    obtain ⟨host, isHost, _, behindHost, rfl⟩ := (Language.mem_mul ..).1 domain
    obtain ⟨dot, topLevel, rfl, isDot, isTopLevel⟩ := mem_oneOf_mul.1 behindHost
    obtain ⟨isLong, isTopLevel⟩ := mem_oneOf_mul_someOf.1 isTopLevel
    obtain ⟨localGiven, isLocal⟩ := mem_someOf.1 isLocal
    obtain ⟨hostGiven, isHost⟩ := mem_someOf.1 isHost
    obtain rfl : atSign = '@' := isAt
    obtain rfl : dot = '.' := isDot
    exact ⟨⟨localPart, host, topLevel, localGiven, isLocal, hostGiven, isHost, isLong, isTopLevel⟩,
      rfl⟩
  · rintro ⟨parts, rfl⟩
    have topLevel := mem_oneOf_mul_someOf.2 ⟨parts.two_le_topLevel, parts.topLevel_mem⟩
    have behindHost := mem_oneOf_mul.2 ⟨'.', _, rfl, Set.mem_singleton _, topLevel⟩
    have isHost := mem_someOf.2 ⟨parts.host_ne_nil, parts.host_mem⟩
    have domain := (Language.mem_mul ..).2 ⟨_, isHost, _, behindHost, rfl⟩
    have behindLocal := mem_oneOf_mul.2 ⟨'@', _, rfl, Set.mem_singleton _, domain⟩
    exact ⟨_, mem_someOf.2 ⟨parts.localPart_ne_nil, parts.localPart_mem⟩, _, behindLocal, rfl⟩

/-- **The rule for addresses accepts exactly the grammar**: it accepts a text if and only if the text
has the parts of an address, which is to say that the regular expression matches it, and then there
is only one choice of the parts. -/
theorem isEmail_grammar (email : String) :
    (isEmail email = true ↔ ∃ parts : AddressParts, parts.text = email) ∧
      {parts : AddressParts | parts.text = email}.Subsingleton ∧
        (isEmail email = true ↔ email.toList ∈ addressLanguage) := by
  refine ⟨isEmail_iff_exists_parts, ?_, ?_⟩
  · intro former isFormer latter isLatter
    exact AddressParts.text_injective (isFormer.trans isLatter.symm)
  · rw [isEmail_iff_exists_parts, mem_addressLanguage]
    refine exists_congr fun parts => ?_
    rw [AddressParts.text, ← String.toList_inj, String.toList_ofList]

/-- A dot in the host is no obstacle, a second at-sign is one wherever it stands. -/
example : isEmail "first.last+tag@mail.example.co" = true ∧ isEmail "a@b@c.org" = false := by
  decide

end Gatehouse.Validation
