/-!
# Cutting texts

Cutting a list of characters at every occurrence of a separator, or in two at the first or the
last character that satisfies a test.  Cutting at every separator gives one part more than there
are separators, and joining the parts by the separator gives the characters back
(`join_splitOn`).  No part holds the separator, so the parts are the only ones there are.
-/

namespace Gatehouse.Text

set_option autoImplicit false

/-- The parts of a text between the occurrences of a separator. -/
def splitOn (separator : Char) : List Char → List (List Char)
  | [] => [[]]
  | c :: rest =>
      if c = separator then [] :: splitOn separator rest
      else
        match splitOn separator rest with
        | [] => [[c]]
        | part :: parts => (c :: part) :: parts

/-- There is always a first part. -/
theorem splitOn_ne_nil (separator : Char) (cs : List Char) : splitOn separator cs ≠ [] := by
  cases cs with
  | nil => simp [splitOn]
  | cons c rest =>
      rw [splitOn]
      split
      · simp
      · split <;> simp

/-- Joining the parts by the separator gives the text back. -/
theorem join_splitOn (separator : Char) (cs : List Char) :
    [separator].intercalate (splitOn separator cs) = cs := by
  induction cs with
  | nil => rfl
  | cons c rest ih =>
      rw [splitOn]
      split
      · rename_i same
        subst same
        cases parts : splitOn c rest with
        | nil => exact absurd parts (splitOn_ne_nil c rest)
        | cons part others =>
            rw [parts] at ih
            simpa [List.intercalate_cons_cons] using ih
      · cases parts : splitOn separator rest with
        | nil => exact absurd parts (splitOn_ne_nil separator rest)
        | cons part others =>
            rw [parts] at ih
            cases others with
            | nil => simpa using ih
            | cons next more => simpa [List.intercalate_cons_cons] using ih

/-- No part holds the separator. -/
theorem not_mem_of_mem_splitOn {separator : Char} {cs part : List Char}
    (member : part ∈ splitOn separator cs) : separator ∉ part := by
  induction cs generalizing part with
  | nil =>
      obtain rfl := List.mem_singleton.1 member
      exact List.not_mem_nil
  | cons c rest ih =>
      rw [splitOn] at member
      split at member
      · rcases List.mem_cons.1 member with rfl | isLater
        · exact List.not_mem_nil
        · exact ih isLater
      next notSeparator =>
        split at member
        next parts => exact absurd parts (splitOn_ne_nil separator rest)
        next first others parts =>
          rw [parts] at ih
          rcases List.mem_cons.1 member with rfl | isLater
          · rintro (_ | ⟨_, inFirst⟩)
            · exact notSeparator rfl
            · exact ih (.head _) inFirst
          · exact ih (.tail _ isLater)

/-- A part holds nothing that the text does not hold. -/
theorem subset_of_mem_splitOn {separator : Char} {cs part : List Char}
    (member : part ∈ splitOn separator cs) : part ⊆ cs := by
  induction cs generalizing part with
  | nil =>
      obtain rfl := List.mem_singleton.1 member
      exact List.nil_subset _
  | cons c rest ih =>
      rw [splitOn] at member
      split at member
      · rcases List.mem_cons.1 member with rfl | isLater
        · exact List.nil_subset _
        · exact List.Subset.trans (ih isLater) (List.subset_cons_self _ _)
      · split at member
        next parts => exact absurd parts (splitOn_ne_nil separator rest)
        next first others parts =>
          rw [parts] at ih
          rcases List.mem_cons.1 member with rfl | isLater
          · exact List.cons_subset_cons c (ih (.head _))
          · exact List.Subset.trans (ih (.tail _ isLater)) (List.subset_cons_self _ _)

/-- A text without separators is its only part. -/
theorem splitOn_eq_singleton {separator : Char} {cs : List Char} (isWhole : separator ∉ cs) :
    splitOn separator cs = [cs] := by
  induction cs with
  | nil => rfl
  | cons c rest ih =>
      obtain ⟨isOther, isWhole⟩ := not_or.1 (mt List.mem_cons.2 isWhole)
      rw [splitOn, if_neg (Ne.symm isOther), ih isWhole]

/-- A text in front of the first separator is the first part. -/
theorem splitOn_append_cons {separator : Char} {front : List Char} (isWhole : separator ∉ front)
    (rest : List Char) :
    splitOn separator (front ++ separator :: rest) = front :: splitOn separator rest := by
  induction front with
  | nil => rw [List.nil_append, splitOn, if_pos rfl]
  | cons c front ih =>
      obtain ⟨isOther, isWhole⟩ := not_or.1 (mt List.mem_cons.2 isWhole)
      rw [List.cons_append, splitOn, if_neg (Ne.symm isOther), ih isWhole]

/-- A text has two parts exactly when they stand on both sides of the only separator. -/
theorem splitOn_eq_pair {separator : Char} {cs front rest : List Char} :
    splitOn separator cs = [front, rest] ↔
      cs = front ++ separator :: rest ∧ separator ∉ front ∧ separator ∉ rest := by
  constructor
  · intro parts
    have joined := join_splitOn separator cs
    rw [parts] at joined
    refine ⟨by simpa using joined.symm, ?_, ?_⟩
    · exact not_mem_of_mem_splitOn (parts ▸ List.mem_cons_self)
    · exact not_mem_of_mem_splitOn (parts ▸ List.mem_cons_of_mem _ List.mem_cons_self)
  · rintro ⟨rfl, isFront, isRest⟩
    rw [splitOn_append_cons isFront, splitOn_eq_singleton isRest]

/-- Parts that do not hold the separator are the parts of what they are joined to. -/
theorem splitOn_intercalate {separator : Char} {parts : List (List Char)} (notNone : parts ≠ [])
    (areWhole : ∀ part ∈ parts, separator ∉ part) :
    splitOn separator ([separator].intercalate parts) = parts := by
  induction parts with
  | nil => exact absurd rfl notNone
  | cons part parts ih =>
      obtain ⟨isWhole, othersAreWhole⟩ := List.forall_mem_cons.1 areWhole
      cases parts with
      | nil => rw [List.intercalate_singleton, splitOn_eq_singleton isWhole]
      | cons next parts =>
          rw [List.intercalate_cons_cons, List.append_assoc, List.singleton_append,
            splitOn_append_cons isWhole, ih (List.cons_ne_nil _ _) othersAreWhole]

/-- Cuts a list at the first character that satisfies a test, which is dropped. -/
def cutAtFirst (test : Char → Bool) (cs : List Char) : Option (List Char × List Char) :=
  match cs.dropWhile fun c => !test c with
  | [] => none
  | _ :: rest => some (cs.takeWhile (fun c => !test c), rest)

/-- Cuts a list at the last character that satisfies a test, which is dropped. -/
def cutAtLast (test : Char → Bool) (cs : List Char) : Option (List Char × List Char) :=
  (cutAtFirst test cs.reverse).map fun (back, front) => (front.reverse, back.reverse)

/-- A cut at the first character that satisfies a test is the only one with a front in which no
character does. -/
theorem cutAtFirst_eq_some {test : Char → Bool} {cs front rest : List Char} :
    cutAtFirst test cs = some (front, rest) ↔
      ∃ c, cs = front ++ c :: rest ∧ test c = true ∧ ∀ d ∈ front, test d = false := by
  unfold cutAtFirst
  constructor
  · intro isCut
    split at isCut
    next => cases isCut
    next c others found =>
      cases isCut
      refine ⟨c, ?_, ?_, fun d inFront => ?_⟩
      · rw [← found, List.takeWhile_append_dropWhile]
      · have stopped := List.head?_dropWhile_not (fun c => !test c) cs
        rw [found] at stopped
        simpa using stopped
      · simpa using List.all_eq_true.1 List.all_takeWhile d inFront
  · rintro ⟨c, rfl, isFound, isFront⟩
    have passed : ∀ d ∈ front, (!test d) = true := fun d inFront => by simp [isFront d inFront]
    have stopped : ¬(!test c) = true := by simp [isFound]
    rw [List.dropWhile_append_of_pos passed, List.takeWhile_append_of_pos passed,
      List.dropWhile_cons_of_neg (p := fun c => !test c) stopped,
      List.takeWhile_cons_of_neg (p := fun c => !test c) stopped, List.append_nil]

/-- A cut at the last character that satisfies a test is the only one with a rest in which no
character does. -/
theorem cutAtLast_eq_some {test : Char → Bool} {cs front rest : List Char} :
    cutAtLast test cs = some (front, rest) ↔
      ∃ c, cs = front ++ c :: rest ∧ test c = true ∧ ∀ d ∈ rest, test d = false := by
  have mirrored : cutAtLast test cs = some (front, rest) ↔
      cutAtFirst test cs.reverse = some (rest.reverse, front.reverse) := by
    rw [cutAtLast, Option.map_eq_some_iff]
    constructor
    · rintro ⟨⟨back, front⟩, isCut, same⟩
      cases same
      simpa using isCut
    · intro isCut
      exact ⟨_, isCut, by simp⟩
  rw [mirrored, cutAtFirst_eq_some]
  refine exists_congr fun c => and_congr ?_ (and_congr_right fun _ => by simp)
  rw [List.reverse_eq_iff]
  simp

end Gatehouse.Text
