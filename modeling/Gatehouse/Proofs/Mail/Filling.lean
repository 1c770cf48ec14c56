import Mathlib.Data.List.Forall2
import Gatehouse.Mail.Template

/-!
# Filling is one substitution

A text with placeholders is taken apart by looking, again and again, for the first opening braces
and for the first closing braces behind them (`Decomposition`).  Every text can be taken apart, and
in one way only (`Decomposition.unique`).

Its parts decide what the text is filled with (`Filling`).  If every part can be filled, the result
is what they are filled with, one after the other; else the first part that cannot be filled says
what is wrong.  The pass that fills a text never takes it apart as a whole, and puts values out while
it is still looking for the next placeholder.  `fill_is_one_substitution` says that it comes to the
same: no value is ever taken for a part of the text, whatever it holds.
-/

namespace Gatehouse.Mail

set_option autoImplicit false

/-! ## Marks -/

/-- The braces that open a placeholder. -/
def opening : List Char := ['{', '{']

/-- The braces that close a placeholder. -/
def closing : List Char := ['}', '}']

/-- Whether a mark stands in a text between a front and a rest, and nowhere further to the front. -/
structure FirstMark (mark text front rest : List Char) : Prop where
  whole : text = front ++ mark ++ rest
  isFirst : ∀ front' rest', text = front' ++ mark ++ rest' → front.length ≤ front'.length

namespace FirstMark

variable {mark text front rest front' rest' : List Char}

/-- A mark stands in a text for the first time at one place only. -/
theorem unique (former : FirstMark mark text front rest) (latter : FirstMark mark text front' rest') :
    front = front' ∧ rest = rest' := by
  have sameLength : front.length = front'.length :=
    Nat.le_antisymm (former.isFirst _ _ latter.whole) (latter.isFirst _ _ former.whole)
  have same : front ++ (mark ++ rest) = front' ++ (mark ++ rest') := by
    rw [← List.append_assoc, ← List.append_assoc, ← former.whole, latter.whole]
  obtain ⟨sameFront, sameBehind⟩ := List.append_inj same sameLength
  exact ⟨sameFront, List.append_cancel_left sameBehind⟩

theorem isInfix (first : FirstMark mark text front rest) : mark <:+: text :=
  ⟨front, rest, first.whole.symm⟩

/-- A mark at the very front is the first one. -/
theorem here (rest : List Char) : FirstMark mark (mark ++ rest) [] rest where
  whole := rfl
  isFirst _ _ _ := Nat.zero_le _

/-- If a text does not begin with a mark, its first mark is the first one behind its first
character. -/
theorem cons {c : Char} (notHere : ¬mark <+: c :: text) (first : FirstMark mark text front rest) :
    FirstMark mark (c :: text) (c :: front) rest where
  whole := by rw [first.whole, List.cons_append, List.cons_append]
  isFirst front' rest' whole := by
    cases front' with
    | nil => exact absurd ⟨rest', whole.symm⟩ notHere
    | cons d front' =>
        rw [List.cons_append, List.cons_append] at whole
        exact Nat.succ_le_succ (first.isFirst _ _ (List.cons.inj whole).2)

end FirstMark

variable {mark : Char} {text front behind inside rest : List Char}

theorem pair_prefix_iff {c d : Char} : [mark, mark] <+: c :: d :: text ↔ c = mark ∧ d = mark := by
  simp [List.cons_prefix_cons, eq_comm]

/-- What is cut at a pair is cut at the first one. -/
theorem firstMark_of_cutAtPair (isCut : cutAtPair mark text = some (front, rest)) :
    FirstMark [mark, mark] text front rest := by
  fun_induction cutAtPair mark text generalizing front with
  | case1 | case2 => cases isCut
  | case3 c d _ isPair =>
      obtain ⟨rfl, rfl⟩ := isPair
      cases isCut
      exact .here _
  | case4 c d _ notPair ih =>
      obtain ⟨⟨front, _⟩, isCut, same⟩ := Option.map_eq_some_iff.1 isCut
      cases same
      exact (ih isCut).cons (mt pair_prefix_iff.1 notPair)

/-- A text that is not cut at a pair has none. -/
theorem not_infix_of_cutAtPair (isWhole : cutAtPair mark text = none) :
    ¬[mark, mark] <:+: text := by
  fun_induction cutAtPair mark text with
  | case1 | case2 => exact fun isInfix => absurd isInfix.length_le (by simp)
  | case3 => cases isWhole
  | case4 c d _ notPair ih =>
      rw [List.infix_cons_iff, not_or]
      exact ⟨mt pair_prefix_iff.1 notPair, ih (Option.map_eq_none_iff.1 isWhole)⟩

theorem cutAtPair_eq_some_iff :
    cutAtPair mark text = some (front, rest) ↔ FirstMark [mark, mark] text front rest := by
  refine ⟨firstMark_of_cutAtPair, fun first => ?_⟩
  cases isCut : cutAtPair mark text with
  | none => exact absurd first.isInfix (not_infix_of_cutAtPair isCut)
  | some cut =>
      obtain ⟨rfl, rfl⟩ := (firstMark_of_cutAtPair isCut).unique first
      rfl

theorem cutAtPair_eq_none_iff : cutAtPair mark text = none ↔ ¬[mark, mark] <:+: text := by
  refine ⟨not_infix_of_cutAtPair, fun noPair => ?_⟩
  cases isCut : cutAtPair mark text with
  | none => rfl
  | some cut => exact absurd (firstMark_of_cutAtPair isCut).isInfix noPair

/-! ## Taking a text apart -/

/-- A part of a text with placeholders. -/
inductive Part where
  /-- Characters that stand for themselves. -/
  | literal (text : List Char)
  /-- A place to be filled, with what stands between its braces. -/
  | placeholder (inside : List Char)
  /-- Opening braces without closing ones, with all that stands behind them. -/
  | unclosed (rest : List Char)
  deriving DecidableEq, Repr

/-- The characters of a part as they stand in the text. -/
def Part.source : Part → List Char
  | .literal text => text
  | .placeholder inside => opening ++ inside ++ closing
  | .unclosed rest => opening ++ rest

/-- Whether a text has some parts: they are found by looking for the first opening braces and for
the first closing braces behind them, as long as there are any. -/
inductive Decomposition : List Char → List Part → Prop
  | literal {text : List Char} (noOpening : ¬opening <:+: text) :
      Decomposition text [.literal text]
  | unclosed {text front rest : List Char} (opens : FirstMark opening text front rest)
      (noClosing : ¬closing <:+: rest) : Decomposition text [.literal front, .unclosed rest]
  | placeholder {text front behind inside rest : List Char} {parts : List Part}
      (opens : FirstMark opening text front behind) (closes : FirstMark closing behind inside rest)
      (others : Decomposition rest parts) :
      Decomposition text (.literal front :: .placeholder inside :: parts)

/-- The parts of a text. -/
def decompose (text : List Char) : List Part :=
  match _opened : cutAtPair '{' text with
  | none => [.literal text]
  | some (front, behind) =>
      match _closed : cutAtPair '}' behind with
      | none => [.literal front, .unclosed behind]
      | some (inside, rest) => .literal front :: .placeholder inside :: decompose rest
  termination_by text.length
  decreasing_by
    have := length_of_cutAtPair _opened
    have := length_of_cutAtPair _closed
    omega

/-- Every text can be taken apart. -/
theorem decomposition_decompose (text : List Char) : Decomposition text (decompose text) := by
  fun_induction decompose text with
  | case1 text notOpened => exact .literal (cutAtPair_eq_none_iff.1 notOpened)
  | case2 text front behind opened notClosed =>
      exact .unclosed (cutAtPair_eq_some_iff.1 opened) (cutAtPair_eq_none_iff.1 notClosed)
  | case3 text front behind opened inside rest closed ih =>
      exact .placeholder (cutAtPair_eq_some_iff.1 opened) (cutAtPair_eq_some_iff.1 closed) ih

namespace Decomposition

variable {parts parts' : List Part}

/-- A text can be taken apart in one way only. -/
theorem unique (former : Decomposition text parts) (latter : Decomposition text parts') :
    parts = parts' := by
  induction former generalizing parts' with
  | literal noOpening =>
      cases latter with
      | literal => rfl
      | unclosed opens | placeholder opens => exact absurd opens.isInfix noOpening
  | unclosed opens noClosing =>
      cases latter with
      | literal noOpening => exact absurd opens.isInfix noOpening
      | unclosed opens' =>
          obtain ⟨rfl, rfl⟩ := opens.unique opens'
          rfl
      | placeholder opens' closes =>
          obtain ⟨rfl, rfl⟩ := opens.unique opens'
          exact absurd closes.isInfix noClosing
  | placeholder opens closes _ ih =>
      cases latter with
      | literal noOpening => exact absurd opens.isInfix noOpening
      | unclosed opens' noClosing =>
          obtain ⟨rfl, rfl⟩ := opens.unique opens'
          exact absurd closes.isInfix noClosing
      | placeholder opens' closes' others =>
          obtain ⟨rfl, rfl⟩ := opens.unique opens'
          obtain ⟨rfl, rfl⟩ := closes.unique closes'
          rw [ih others]

/-- The parts of a text are all of it. -/
theorem flatMap_source (decomposition : Decomposition text parts) :
    parts.flatMap Part.source = text := by
  induction decomposition with
  | literal => simp [Part.source]
  | unclosed opens => simp [Part.source, opens.whole]
  | placeholder opens closes _ ih => simp [Part.source, opens.whole, closes.whole, ih]

end Decomposition

/-! ## What the parts are filled with -/

/-- Whether a part is filled with some characters. -/
inductive Part.FilledBy (values : Values) : Part → List Char → Prop
  | literal (text : List Char) : FilledBy values (.literal text) text
  | placeholder {inside : List Char} {value : String}
      (isGiven : values.get? (placeholderName inside) = some value) :
      FilledBy values (.placeholder inside) value.toList

/-- Whether a part cannot be filled, and what is said then. -/
inductive Part.Lacks (values : Values) : Part → String → Prop
  | missing {inside : List Char} (isMissing : values.get? (placeholderName inside) = none) :
      Lacks values (.placeholder inside) ("missing mail data: " ++ placeholderName inside)
  | unclosed (rest : List Char) : Lacks values (.unclosed rest) "unterminated placeholder"

/-- What some parts are filled with, or what is said of the first one that cannot be filled. -/
inductive Filling (values : Values) (parts : List Part) : Except String String → Prop
  | done {texts : List (List Char)} (filled : List.Forall₂ (Part.FilledBy values) parts texts) :
      Filling values parts (.ok (String.ofList texts.flatten))
  | stopped {former later : List Part} {part : Part} {texts : List (List Char)} {message : String}
      (isSplit : parts = former ++ part :: later)
      (filled : List.Forall₂ (Part.FilledBy values) former texts)
      (lacks : part.Lacks values message) : Filling values parts (.error message)

/-! ## The result of substituting -/

/-- Puts values in for the placeholders among some parts. -/
def substitute (values : Values) : List Part → Except FillFault (List Char)
  | [] => .ok []
  | .literal text :: others => (substitute values others).map (text ++ ·)
  | .placeholder inside :: others =>
      match values.get? (placeholderName inside) with
      | none => .error (.missing (placeholderName inside))
      | some value => (substitute values others).map (value.toList ++ ·)
  | .unclosed _ :: _ => .error .unterminated

/-- A result in the words in which it is told. -/
def worded (result : Except FillFault (List Char)) : Except String String :=
  match result with
  | .ok text => .ok (String.ofList text)
  | .error fault => .error fault.message

variable {values : Values} {part : Part} {parts former later : List Part} {message : String}

/-- What parts that can be filled are filled with stands in front of the result. -/
theorem substitute_append {texts : List (List Char)}
    (filled : List.Forall₂ (Part.FilledBy values) former texts) (later : List Part) :
    substitute values (former ++ later) = (substitute values later).map (texts.flatten ++ ·) := by
  induction filled with
  | nil => cases isResult : substitute values later <;> simp [Except.map, isResult]
  | cons isFilled _ ih =>
      cases isFilled with
      | literal text =>
          rw [List.cons_append, substitute, ih]
          cases substitute values later <;> simp [Except.map]
      | placeholder isGiven =>
          rw [List.cons_append, substitute, isGiven, ih]
          cases substitute values later <;> simp [Except.map]

/-- A part that cannot be filled decides the result. -/
theorem substitute_of_lacks (lacks : part.Lacks values message) (later : List Part) :
    ∃ fault, substitute values (part :: later) = .error fault ∧ fault.message = message := by
  cases lacks with
  | missing isMissing =>
      rw [substitute, isMissing]
      exact ⟨_, rfl, rfl⟩
  | unclosed => exact ⟨_, rfl, rfl⟩

namespace Filling

theorem cons_filled {text : List Char} {result : Except FillFault (List Char)}
    (isFilled : part.FilledBy values text) (filling : Filling values parts (worded result)) :
    Filling values (part :: parts) (worded (result.map (text ++ ·))) := by
  generalize same : worded result = told at filling
  cases filling with
  | @done texts filled =>
      cases result with
      | error => cases same
      | ok rest =>
          have together := Filling.done (.cons isFilled filled)
          rw [List.flatten_cons, ← String.ofList_injective (Except.ok.inj same)] at together
          exact together
  | stopped isSplit filled lacks =>
      cases result with
      | ok => cases same
      | error fault =>
          cases same
          subst isSplit
          exact .stopped rfl (.cons isFilled filled) lacks

theorem cons_lacks (lacks : part.Lacks values message) :
    Filling values (part :: parts) (.error message) :=
  .stopped (List.nil_append _).symm .nil lacks

end Filling

/-- What some parts are filled with is what substituting comes to. -/
theorem filling_iff {result : Except String String} :
    Filling values parts result ↔ worded (substitute values parts) = result := by
  constructor
  · rintro (⟨filled⟩ | ⟨rfl, filled, lacks⟩)
    · have isFilled := substitute_append filled []
      rw [List.append_nil] at isFilled
      simp [isFilled, substitute, worded, Except.map]
    · obtain ⟨fault, isStopped, rfl⟩ := substitute_of_lacks lacks _
      rw [substitute_append filled _, isStopped]
      rfl
  · rintro rfl
    induction parts with
    | nil => exact .done .nil
    | cons part parts ih =>
        cases part with
        | literal text => exact ih.cons_filled (.literal text)
        | placeholder inside =>
            rw [substitute]
            split
            next isMissing => exact .cons_lacks (.missing isMissing)
            next isGiven => exact ih.cons_filled (.placeholder isGiven)
        | unclosed rest => exact .cons_lacks (.unclosed rest)

/-- Only the values of the names that occur matter. -/
theorem substitute_congr {others : Values}
    (agree : ∀ inside, .placeholder inside ∈ parts →
      values.get? (placeholderName inside) = others.get? (placeholderName inside)) :
    substitute values parts = substitute others parts := by
  induction parts with
  | nil => rfl
  | cons part parts ih =>
      have ih := ih fun inside isLater => agree inside (.tail _ isLater)
      cases part with
      | literal text => rw [substitute, substitute, ih]
      | placeholder inside => rw [substitute, substitute, agree inside (.head _), ih]
      | unclosed rest => rfl

/-! ## The pass that fills a text -/

theorem fillFrom_literal (noOpening : ¬opening <:+: text) (output : List Char) :
    fillFrom values output text = .ok (output ++ text) := by
  rw [fillFrom]
  split
  next => rfl
  next opened => exact absurd (cutAtPair_eq_some_iff.1 opened).isInfix noOpening

theorem fillFrom_unclosed (opens : FirstMark opening text front rest)
    (noClosing : ¬closing <:+: rest) (output : List Char) :
    fillFrom values output text = .error .unterminated := by
  rw [fillFrom]
  split
  next notOpened => exact absurd opens.isInfix (cutAtPair_eq_none_iff.1 notOpened)
  next opened =>
    obtain ⟨rfl, rfl⟩ := (cutAtPair_eq_some_iff.1 opened).unique opens
    split
    next => rfl
    next closed => exact absurd (cutAtPair_eq_some_iff.1 closed).isInfix noClosing

theorem fillFrom_placeholder (opens : FirstMark opening text front behind)
    (closes : FirstMark closing behind inside rest) (output : List Char) :
    fillFrom values output text =
      match values.get? (placeholderName inside) with
      | none => .error (.missing (placeholderName inside))
      | some value => fillFrom values (output ++ front ++ value.toList) rest := by
  rw [fillFrom]
  split
  next notOpened => exact absurd opens.isInfix (cutAtPair_eq_none_iff.1 notOpened)
  next opened =>
    obtain ⟨rfl, rfl⟩ := (cutAtPair_eq_some_iff.1 opened).unique opens
    split
    next notClosed => exact absurd closes.isInfix (cutAtPair_eq_none_iff.1 notClosed)
    next closed =>
      obtain ⟨rfl, rfl⟩ := (cutAtPair_eq_some_iff.1 closed).unique closes
      rfl

/-- The pass puts out what substituting comes to, behind what it has put out before. -/
theorem Decomposition.fillFrom_eq (decomposition : Decomposition text parts)
    (output : List Char) :
    fillFrom values output text = (substitute values parts).map (output ++ ·) := by
  -- the induction is on the placeholders that are still ahead, for any output so far
  induction decomposition generalizing output with
  | literal noOpening =>
      rw [fillFrom_literal noOpening]
      simp [substitute, Except.map]
  | unclosed opens noClosing =>
      rw [fillFrom_unclosed opens noClosing]
      rfl
  | @placeholder _ front _ inside _ parts opens closes _ ih =>
      rw [fillFrom_placeholder opens closes, substitute, substitute]
      cases values.get? (placeholderName inside) with
      | none => rfl
      | some value =>
          simp only [ih]
          cases substitute values parts <;> simp [Except.map]

theorem Decomposition.fill_eq {text : String} (decomposition : Decomposition text.toList parts)
    (values : Values) :
    fill text values = (substitute values parts).map String.ofList := by
  rw [fill, decomposition.fillFrom_eq]
  cases substitute values parts <;> rfl

/-- **Filling a text is one substitution from left to right.**

* The text has parts in exactly one way, and they are all of it.
* What it is filled with, or the message of the failure, is what its parts are filled with, or what
  is said of the first part that cannot be filled.
* Only the values of the names that occur matter, and a text without opening braces stays as it
  is. -/
theorem fill_is_one_substitution (text : String) :
    (∃! parts, Decomposition text.toList parts) ∧
      (∀ parts, Decomposition text.toList parts →
        parts.flatMap Part.source = text.toList ∧
          (∀ values result, (fill text values).mapError FillFault.message = result ↔
            Filling values parts result) ∧
          ∀ values others : Values,
            (∀ inside, .placeholder inside ∈ parts →
              values.get? (placeholderName inside) = others.get? (placeholderName inside)) →
            fill text values = fill text others) ∧
      (¬opening <:+: text.toList → ∀ values, fill text values = .ok text) := by
  refine ⟨⟨_, decomposition_decompose _, fun _ other => other.unique (decomposition_decompose _)⟩,
    fun parts decomposition => ⟨decomposition.flatMap_source, fun values result => ?_,
      fun values others agree => ?_⟩, fun noOpening values => ?_⟩
  · rw [filling_iff, decomposition.fill_eq]
    cases substitute values parts <;> rfl
  · rw [decomposition.fill_eq, decomposition.fill_eq, substitute_congr agree]
  · rw [fill, fillFrom_literal noOpening]
    exact congrArg Except.ok String.ofList_toList

/-- A text in which a placeholder is followed by three braces and then by two that are never
closed. -/
def sampleText : String := "\x7b\x7b a \x7d\x7d\x7b\x7b\x7bb\x7d\x7d\x7b\x7bc"

/-- A value that looks like a placeholder. -/
def sampleValues : Values := Text.Dictionary.empty.insert "a" "\x7b\x7bb\x7d\x7d"

/-- The parts of the text. -/
def sampleParts : List Part :=
  [.literal [], .placeholder [' ', 'a', ' '], .literal [], .placeholder ['\x7b', 'b'],
    .literal [], .unclosed ['c']]

/-- The first two of three braces open a placeholder, and it is the first one without a value: what
looks like one in the value before it does not count, and neither does the one that is left open. -/
theorem third_brace_belongs_to_name :
    Decomposition sampleText.toList sampleParts ∧
      (fill sampleText sampleValues).mapError FillFault.message =
        .error "missing mail data: \x7bb" := by
  have isTaken : Decomposition sampleText.toList sampleParts := by
    have same : decompose sampleText.toList = sampleParts := by decide +kernel
    rw [← same]
    exact decomposition_decompose _
  obtain ⟨-, told, -⟩ := fill_is_one_substitution sampleText
  refine ⟨isTaken, ((told _ isTaken).2.1 sampleValues _).2 (filling_iff.2 ?_)⟩
  rfl

end Gatehouse.Mail
