import Mathlib.Data.List.Chain
import Gatehouse.Proofs.Mail.Filling
import Gatehouse.Proofs.Validation.AddressGrammar

/-!
# The templates of the service

The placeholders of a template have the names that `Template.names` lists, so that the template is
filled as soon as there are values for these (`Template.render_of_complete`).

What is put in for a name stands between the literals on both sides of it.  If it is not empty and
holds no brace, no two braces come together that have not been together before, and if it holds no
character of some kind, there are as many of these as in the template.  Nothing is escaped, so it is
on the values that this rests; for values of letters, digits and the signs that stand in addresses
it is put together in `Template.render_of_harmless`.
-/

namespace Gatehouse.Mail

set_option autoImplicit false

/-! ## Braces in a row -/

section

variable {mark : Char} {text front value rest : List Char}

theorem not_pair_infix_iff :
    ¬[mark, mark] <:+: text ↔ text.IsChain fun c d => ¬(c = mark ∧ d = mark) := by
  induction text with
  | nil => simp
  | cons c text ih =>
      cases text with
      | nil => simp [List.infix_cons_iff, List.cons_prefix_cons]
      | cons d text =>
          rw [List.infix_cons_iff, not_or, ih, pair_prefix_iff, List.isChain_cons_cons]

/-- What holds no brace keeps the braces on both sides apart. -/
theorem not_pair_infix_append (inFront : ¬[mark, mark] <:+: front) (isGiven : value ≠ [])
    (notMark : mark ∉ value) (inRest : ¬[mark, mark] <:+: rest) :
    ¬[mark, mark] <:+: front ++ (value ++ rest) := by
  have inValue : ¬[mark, mark] <:+: value := fun isInfix => notMark (isInfix.subset (.head _))
  rw [not_pair_infix_iff] at inFront inValue inRest ⊢
  refine List.isChain_append.2 ⟨inFront, List.isChain_append.2 ⟨inValue, inRest, ?_⟩, ?_⟩
  · rintro c isLast d - ⟨rfl, -⟩
    exact notMark (List.mem_of_mem_getLast? isLast)
  · rintro c - d isHead ⟨-, rfl⟩
    rw [List.head?_append_of_ne_nil _ isGiven] at isHead
    exact notMark (List.mem_of_mem_head? isHead)

end

/-- In front of the first mark there is none. -/
theorem FirstMark.not_infix_front {mark text front rest : List Char} (isGiven : mark ≠ [])
    (first : FirstMark mark text front rest) : ¬mark <:+: front := by
  rintro ⟨before, between, rfl⟩
  have isEarlier := first.isFirst before (between ++ mark ++ rest) (by simp [first.whole])
  have isLong := List.length_pos_of_ne_nil isGiven
  simp only [List.length_append] at isEarlier
  omega

/-- No literal of a text holds opening braces. -/
theorem Decomposition.noOpening {text : List Char} {parts : List Part}
    (decomposition : Decomposition text parts) {literal : List Char}
    (isPart : .literal literal ∈ parts) : ¬opening <:+: literal := by
  induction decomposition with
  | literal noOpening =>
      cases List.mem_singleton.1 isPart
      exact noOpening
  | unclosed opens =>
      simp only [List.mem_cons, Part.literal.injEq, reduceCtorEq, List.not_mem_nil, or_false]
        at isPart
      exact isPart ▸ opens.not_infix_front (List.cons_ne_nil _ _)
  | placeholder opens _ _ ih =>
      simp only [List.mem_cons, Part.literal.injEq, reduceCtorEq, false_or] at isPart
      rcases isPart with rfl | isLater
      · exact opens.not_infix_front (List.cons_ne_nil _ _)
      · exact ih isLater

/-! ## Tame texts -/

/-- Whether a part of a text is a literal without closing braces, or a placeholder whose name is a
word and one of some names. -/
def Part.IsTame (names : List String) : Part → Prop
  | .literal text => ¬closing <:+: text
  | .placeholder inside => placeholderName inside ∈ names ∧ inside.all Char.isAlpha = true
  | .unclosed _ => False

instance (names : List String) : DecidablePred (Part.IsTame names)
  | .literal text =>
      decidable_of_iff ((cutAtPair '}' text).isNone = true)
        (Option.isNone_iff_eq_none.trans cutAtPair_eq_none_iff)
  | .placeholder _ => inferInstanceAs (Decidable (_ ∧ _))
  | .unclosed _ => inferInstanceAs (Decidable False)

/-- Whether all parts of a text are tame. -/
def IsTame (names : List String) (text : List Char) : Prop :=
  ∀ part ∈ decompose text, part.IsTame names

instance (names : List String) (text : List Char) : Decidable (IsTame names text) :=
  inferInstanceAs (Decidable (∀ part ∈ decompose text, part.IsTame names))

namespace Template

/-- The names that need a value. -/
def names : Template → List String
  | .activation => ["activationToken"]
  | .passwordReset => ["email", "resetPasswordToken"]

theorem toList_lines (texts : List String) :
    (lines texts).toList = texts.flatMap fun text => text.toList ++ ['\n'] := by
  induction texts with
  | nil => rfl
  | cons text texts ih => simp_all [lines, String.join_cons]

end Template

/-- The subject and the two bodies. -/
def Texts.all (texts : Texts) : List String :=
  [texts.subject, texts.plain, texts.html]

theorem Template.isTame_texts (template : Template) :
    ∀ text ∈ template.texts.all, IsTame template.names text.toList := by
  simp only [Texts.all, List.forall_mem_cons, List.not_mem_nil, IsEmpty.forall_iff, implies_true, and_true]
  cases template with
  | activation =>
      refine ⟨by decide +kernel, ?_, ?_⟩
      · rw [texts, activationPlain, toList_lines]
        decide +kernel
      · rw [texts, activationHtml, toList_lines]
        decide +kernel
  | passwordReset =>
      refine ⟨by decide +kernel, ?_, ?_⟩
      · rw [texts, resetPlain, toList_lines]
        decide +kernel
      · rw [texts, resetHtml, toList_lines]
        decide +kernel

/-! ## Filling tame texts -/

section

variable {names : List String} {values : Values} {text : List Char} {parts : List Part}
  {texts : List (List Char)}

/-- Tame parts are filled if there is a value for each name. -/
theorem filled_of_isTame (areTame : ∀ part ∈ parts, part.IsTame names)
    (areGiven : ∀ name ∈ names, ∃ value, values.get? name = some value) :
    ∃ texts, List.Forall₂ (Part.FilledBy values) parts texts := by
  induction parts with
  | nil => exact ⟨[], .nil⟩
  | cons part parts ih =>
      obtain ⟨isTame, areTame⟩ := List.forall_mem_cons.1 areTame
      obtain ⟨texts, filled⟩ := ih areTame
      cases part with
      | literal text => exact ⟨_, .cons (.literal text) filled⟩
      | placeholder inside =>
          obtain ⟨value, isGiven⟩ := areGiven _ isTame.1
          exact ⟨_, .cons (.placeholder isGiven) filled⟩
      | unclosed rest => exact isTame.elim

theorem fill_of_filled {text : String}
    (filled : List.Forall₂ (Part.FilledBy values) (decompose text.toList) texts) :
    fill text values = .ok (String.ofList texts.flatten) := by
  have isFilled := substitute_append filled []
  rw [List.append_nil] at isFilled
  rw [(decomposition_decompose _).fill_eq, isFilled]
  simp [substitute, Except.map]

/-- A character that no value holds is in the filled parts as often as in the parts, unless it is a
letter or a brace. -/
theorem count_of_filled {c : Char} (filled : List.Forall₂ (Part.FilledBy values) parts texts)
    (areTame : ∀ part ∈ parts, part.IsTame names)
    (notGiven : ∀ name ∈ names, ∀ value, values.get? name = some value → c ∉ value.toList)
    (notAlpha : c.isAlpha = false) (notBrace : c ∉ ['{', '}']) :
    texts.flatten.count c = (parts.flatMap Part.source).count c := by
  induction filled with
  | nil => rfl
  | cons isFilled _ ih =>
      obtain ⟨isTame, areTame⟩ := List.forall_mem_cons.1 areTame
      rw [List.flatten_cons, List.flatMap_cons, List.count_append, List.count_append, ih areTame]
      cases isFilled with
      | literal => rfl
      | @placeholder inside value isGiven =>
          have notInside : c ∉ inside := fun isInside => by
            rw [List.all_eq_true.1 isTame.2 c isInside] at notAlpha
            cases notAlpha
          have notSource : c ∉ (Part.placeholder inside).source := by
            simp_all [Part.source, opening, closing]
          rw [List.count_eq_zero_of_not_mem (notGiven _ isTame.1 _ isGiven),
            List.count_eq_zero_of_not_mem notSource]

/-- Two braces of a kind stand together in the filled parts only if they do in a literal. -/
theorem Decomposition.not_pair_infix_filled {mark : Char}
    (decomposition : Decomposition text parts)
    (filled : List.Forall₂ (Part.FilledBy values) parts texts)
    (notLiteral : ∀ literal, .literal literal ∈ parts → ¬[mark, mark] <:+: literal)
    (areGiven : ∀ inside, .placeholder inside ∈ parts → ∀ value,
      values.get? (placeholderName inside) = some value → value.toList ≠ [] ∧ mark ∉ value.toList) :
    ¬[mark, mark] <:+: texts.flatten := by
  induction decomposition generalizing texts with
  | literal =>
      cases filled with
      | cons isFilled others =>
          cases isFilled
          cases others
          simpa using notLiteral _ (.head _)
  | unclosed =>
      cases filled with
      | cons _ others =>
          cases others with
          | cons isFilled => cases isFilled
  | placeholder _ _ _ ih =>
      cases filled with
      | cons isFilled others =>
          cases isFilled
          cases others with
          | cons isFilled others =>
              cases isFilled with
              | placeholder isGiven =>
                  obtain ⟨notEmpty, notMark⟩ := areGiven _ (.tail _ (.head _)) _ isGiven
                  rw [List.flatten_cons, List.flatten_cons]
                  refine not_pair_infix_append (notLiteral _ (.head _)) notEmpty notMark ?_
                  exact ih others (fun literal isLater => notLiteral literal (.tail _ (.tail _ isLater)))
                    fun inside isLater => areGiven inside (.tail _ (.tail _ isLater))

end

/-! ## Harmless values -/

/-- What a harmless value is made of: `A-Za-z0-9._%+@-`. -/
def valueClass : Set Char := Validation.localClass ∪ {'@'}

theorem mem_valueClass_iff {c : Char} :
    c ∈ valueClass ↔ (Validation.isLocalChar c || c == '@') = true := by
  rw [Bool.or_eq_true, Validation.isLocalChar_iff, beq_iff_eq]
  rfl

/-- The characters that have a meaning in a template, in JSON or in HTML, and those that end a
line. -/
def specialChars : List Char := ['{', '}', '"', '\\', '<', '>', '&', '\x27', '\n', '\r']

theorem notMem_valueClass {c : Char} (isSpecial : c ∈ specialChars) : c ∉ valueClass := by
  have notValue : (specialChars.any fun c => Validation.isLocalChar c || c == '@') = false := by
    decide
  exact mt mem_valueClass_iff.1 (List.any_eq_false.1 notValue c isSpecial)

/-- Whether a value has characters, and only such as cannot be mistaken for a part of the text that
they are put into. -/
structure IsHarmless (value : String) : Prop where
  ne_nil : value.toList ≠ []
  mem_valueClass : ∀ c ∈ value.toList, c ∈ valueClass

theorem IsHarmless.notMem {value : String} (isHarmless : IsHarmless value) {c : Char}
    (isSpecial : c ∈ specialChars) : c ∉ value.toList :=
  fun isGiven => notMem_valueClass isSpecial (isHarmless.mem_valueClass c isGiven)

/-- Whether filling has left a text in its form: there are as many of each character that matters in
HTML as before, and no braces of a placeholder are left. -/
structure KeepsForm (text filled : String) : Prop where
  count_eq : ∀ c ∈ ['<', '>', '&', '"'], filled.toList.count c = text.toList.count c
  noOpening : ¬opening <:+: filled.toList
  noClosing : ¬closing <:+: filled.toList

/-- A tame text that is filled with harmless values keeps its form. -/
theorem fill_of_isHarmless {names : List String} {values : Values} {text : String}
    (isTame : IsTame names text.toList)
    (areHarmless : ∀ name ∈ names, ∃ value, values.get? name = some value ∧ IsHarmless value) :
    ∃ filled, fill text values = .ok filled ∧ KeepsForm text filled := by
  have decomposition := decomposition_decompose text.toList
  obtain ⟨texts, filled⟩ := filled_of_isTame isTame fun name isName =>
    (areHarmless name isName).imp fun _ => And.left
  have isHarmless : ∀ name ∈ names, ∀ value, values.get? name = some value → IsHarmless value := by
    intro name isName value isGiven
    obtain ⟨other, isOther, isHarmless⟩ := areHarmless name isName
    exact Option.some.inj (isOther.symm.trans isGiven) ▸ isHarmless
  have isGiven {mark : Char} (isSpecial : mark ∈ specialChars) (inside : List Char)
      (isPart : .placeholder inside ∈ decompose text.toList) (value : String)
      (isValue : values.get? (placeholderName inside) = some value) :
      value.toList ≠ [] ∧ mark ∉ value.toList := by
    have isHarmless := isHarmless _ (isTame _ isPart).1 value isValue
    exact ⟨isHarmless.ne_nil, isHarmless.notMem isSpecial⟩
  refine ⟨_, fill_of_filled filled, ⟨fun c isCounted => ?_, ?_, ?_⟩⟩ <;> rw [String.toList_ofList]
  · have areSpecial : ∀ c ∈ ['<', '>', '&', '"'],
        c ∈ specialChars ∧ c.isAlpha = false ∧ c ∉ ['{', '}'] := by
      simp only [List.forall_mem_cons, List.not_mem_nil, IsEmpty.forall_iff, implies_true, and_true]
      decide
    obtain ⟨isSpecial, notAlpha, notBrace⟩ := areSpecial c isCounted
    have notGiven name isName value isValue := (isHarmless name isName value isValue).notMem isSpecial
    rw [count_of_filled filled isTame notGiven notAlpha notBrace, decomposition.flatMap_source]
  · exact decomposition.not_pair_infix_filled filled (fun _ => decomposition.noOpening)
      (isGiven (by decide))
  · exact decomposition.not_pair_infix_filled filled (fun literal isPart => isTame _ isPart)
      (isGiven (by decide))

namespace Template

variable {template : Template} {values : Values}

theorem render_eq_ok {texts : Texts} (isSubject : fill template.texts.subject values = .ok texts.subject)
    (isPlain : fill template.texts.plain values = .ok texts.plain)
    (isHtml : fill template.texts.html values = .ok texts.html) :
    template.render values = .ok texts := by
  simp only [render, isSubject, isPlain, isHtml]

/-- **A template is filled if there is a value for each of its names.** -/
theorem render_of_complete
    (areGiven : ∀ name ∈ template.names, ∃ value, values.get? name = some value) :
    ∃ texts, template.render values = .ok texts := by
  have isFilled (text : String) (isText : text ∈ template.texts.all) :
      ∃ filled, fill text values = .ok filled := by
    obtain ⟨texts, filled⟩ := filled_of_isTame (template.isTame_texts text isText) areGiven
    exact ⟨_, fill_of_filled filled⟩
  obtain ⟨subject, isSubject⟩ := isFilled template.texts.subject (.head _)
  obtain ⟨plain, isPlain⟩ := isFilled template.texts.plain (.tail _ (.head _))
  obtain ⟨html, isHtml⟩ := isFilled template.texts.html (.tail _ (.tail _ (.head _)))
  exact ⟨⟨subject, plain, html⟩, render_eq_ok isSubject isPlain isHtml⟩

/-- **A template that is filled with harmless values keeps its form**, in all its texts. -/
theorem render_of_harmless
    (areHarmless : ∀ name ∈ template.names,
      ∃ value, values.get? name = some value ∧ IsHarmless value) :
    ∃ texts, template.render values = .ok texts ∧
      KeepsForm template.texts.subject texts.subject ∧
        KeepsForm template.texts.plain texts.plain ∧ KeepsForm template.texts.html texts.html := by
  have isFilled (text : String) (isText : text ∈ template.texts.all) :
      ∃ filled, fill text values = .ok filled ∧ KeepsForm text filled :=
    fill_of_isHarmless (template.isTame_texts text isText) areHarmless
  obtain ⟨subject, isSubject, subjectKept⟩ := isFilled template.texts.subject (.head _)
  obtain ⟨plain, isPlain, plainKept⟩ := isFilled template.texts.plain (.tail _ (.head _))
  obtain ⟨html, isHtml, htmlKept⟩ := isFilled template.texts.html (.tail _ (.tail _ (.head _)))
  exact ⟨⟨subject, plain, html⟩, render_eq_ok isSubject isPlain isHtml, subjectKept, plainKept,
    htmlKept⟩

end Template

end Gatehouse.Mail
