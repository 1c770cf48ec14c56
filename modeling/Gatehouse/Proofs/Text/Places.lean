import Gatehouse.Text.Place

/-!
# Places and offsets

The line of a place is one more than the number of newlines in front of it, and its column counts
the bytes since the last of them (`behind_take`).  Turned back into a number of bytes it gives the
bytes that were counted (`offset_place`): the lines in front of the place hold all that is in front
of the last newline, and the column holds the rest.

Neither the newlines behind the place nor a line that goes on behind it matter, since only whole
lines are added up.
-/

namespace Gatehouse.Text

set_option autoImplicit false

variable {body : List UInt8}

/-! ## Lines -/

/-- There is one line more than there are newlines. -/
theorem length_splitOn_newline (body : List UInt8) :
    (body.splitOn newline).length = body.count newline + 1 := by
  induction body with
  | nil => rfl
  | cons byte rest ih =>
      rw [List.splitOn_cons_eq_if_modifyHead, List.count_cons]
      split
      · rw [List.length_cons, ih]
      · rw [List.length_modifyHead, ih, Nat.add_zero]

/-- The lines with a newline each are one byte longer than the text, whose last line has none. -/
theorem lengthOfLines_splitOn_newline (body : List UInt8) :
    lengthOfLines (body.splitOn newline) = body.length + 1 := by
  induction body with
  | nil => rfl
  | cons byte rest ih =>
      rw [List.splitOn_cons_eq_if_modifyHead]
      split
      · rw [lengthOfLines, ih, List.length_nil, List.length_cons]
        omega
      · obtain ⟨line, lines, isSplit⟩ :=
          List.exists_cons_of_ne_nil (List.splitOn_ne_nil newline rest)
        rw [isSplit, lengthOfLines] at ih
        rw [isSplit, List.modifyHead_cons, lengthOfLines, List.length_cons, List.length_cons]
        omega

/-- The index just behind the last newline among the first bytes of a text, and zero if there is
none. -/
def lineStart (body : List UInt8) : Nat → Nat
  | 0 => 0
  | index + 1 => if body[index]? = some newline then index + 1 else lineStart body index

theorem lineStart_le (body : List UInt8) (index : Nat) : lineStart body index ≤ index := by
  induction index with
  | zero => exact Nat.le_refl 0
  | succ index ih =>
      rw [lineStart]
      split
      · exact Nat.le_refl _
      · exact Nat.le_succ_of_le ih

/-- A line that is not the first one begins behind a newline. -/
theorem newline_before_lineStart {index before : Nat} (starts : lineStart body index = before + 1) :
    body[before]? = some newline := by
  induction index with
  | zero => cases starts
  | succ index ih =>
      rw [lineStart] at starts
      split at starts
      next isNewline =>
        cases starts
        exact isNewline
      next => exact ih starts

/-- Behind the start of the line there is no newline. -/
theorem count_take_lineStart (body : List UInt8) (index : Nat) :
    (body.take (lineStart body index)).count newline = (body.take index).count newline := by
  induction index with
  | zero => rfl
  | succ index ih =>
      rw [lineStart]
      split
      next => rfl
      next notNewline =>
        rw [ih, List.take_add_one, List.count_append]
        cases isByte : body[index]? with
        | none => rfl
        | some byte =>
            rw [isByte, Option.some.injEq] at notNewline
            rw [Option.toList_some, List.count_singleton, beq_eq_false_iff_ne.2 notNewline]
            rfl

/-! ## Places -/

namespace Place

/-- **The place behind the first bytes of a text**: one line for each newline among them and one
more, and a column for each byte since the last newline. -/
theorem behind_take {index : Nat} (isWithin : index ≤ body.length) :
    behind (body.take index) =
      ⟨1 + (body.take index).count newline, index - lineStart body index⟩ := by
  induction index with
  | zero => rfl
  | succ index ih =>
      have isByte : body[index]? = some body[index] := List.getElem?_eq_getElem isWithin
      have start := lineStart_le body index
      rw [List.take_add_one, isByte, Option.toList_some, behind_concat,
        ih (Nat.le_of_succ_le isWithin), List.count_append, List.count_singleton, advance,
        lineStart, isByte]
      by_cases isNewline : body[index] = newline
      · simp [isNewline, Nat.add_assoc]
      · simp [isNewline, Nat.sub_add_comm start]

/-- **The offset of the place behind the first bytes of a text is their number.**  The place is told
by the newlines among them and the bytes since the last one. -/
theorem offset_place (body : List UInt8) (index : Nat) :
    offset ⟨1 + (body.take index).count newline, index - lineStart body index⟩ body = index := by
  have start := lineStart_le body index
  simp only [offset, Nat.add_sub_cancel_left, ← count_take_lineStart body index]
  cases starts : lineStart body index with
  | zero => simp [lengthOfLines]
  | succ before =>
      -- the text is cut at the newline in front of the line, and the lines before are counted whole
      obtain ⟨isBefore, isNewline⟩ :=
        List.getElem?_eq_some_iff.1 (newline_before_lineStart starts)
      have isCut : body = body.take before ++ newline :: body.drop (before + 1) := by
        rw [← isNewline, List.getElem_cons_drop, List.take_append_drop]
      have lines : (body.take (before + 1)).count newline =
          ((body.take before).splitOn newline).length := by
        rw [length_splitOn_newline, List.take_add_one, List.getElem?_eq_getElem isBefore, isNewline,
          Option.toList_some, List.count_append, List.count_singleton_self]
      rw [lines, isCut, List.splitOn_append_cons_self, ← isCut, List.take_left,
        lengthOfLines_splitOn_newline, List.length_take, Nat.min_eq_left (Nat.le_of_lt isBefore)]
      omega

/-- A place that a reader has found leads back to the number of bytes that it has gone through. -/
theorem offset_behind {index : Nat} (isWithin : index ≤ body.length) :
    (behind (body.take index)).offset body = index := by
  rw [behind_take isWithin, offset_place]

end Place

end Gatehouse.Text
