import Mathlib.Tactic.SplitIfs
import Gatehouse.Text.Dictionary
import Gatehouse.Text.Utf8

/-!
# The order of bytes

Texts are ordered by the codes of their characters.  In UTF-8 that is the order of their bytes: the
first byte of a character tells how many there are, and more of them stand for a greater code, and
the digits of a code come with the most significant one first.
-/

namespace Gatehouse.Text

set_option autoImplicit false

/-- Of two characters the one that comes first has the lesser bytes, whatever follows them. -/
theorem utf8EncodeChar_append_lt {former latter : Char} (isBelow : former < latter)
    (behind behind' : List UInt8) :
    String.utf8EncodeChar former ++ behind < String.utf8EncodeChar latter ++ behind' := by
  have isBelow : former.val.toNat < latter.val.toNat := UInt32.lt_iff_toNat_lt.1 isBelow
  have isCode : latter.val.toNat < 1114112 := by
    have isScalar := latter.valid
    simp only [UInt32.isValidChar, Nat.isValidChar] at isScalar
    omega
  -- the marks of a first byte and of the others leave room for the digits
  have two (n : Nat) : (n % 32 + 192) % 2 ^ 8 = n % 32 + 192 := by omega
  have three (n : Nat) : (n % 16 + 224) % 2 ^ 8 = n % 16 + 224 := by omega
  have four (n : Nat) : (n % 8 + 240) % 2 ^ 8 = n % 8 + 240 := by omega
  have other (n : Nat) : (n % 64 + 128) % 2 ^ 8 = n % 64 + 128 := by omega
  have twice (n : Nat) : n / 4096 = n / 64 / 64 := by omega
  have thrice (n : Nat) : n / 262144 = n / 64 / 64 / 64 := by omega
  simp only [String.utf8EncodeChar, twice, thrice]
  split_ifs <;>
    simp only [List.cons_append, List.nil_append, List.cons_lt_cons_iff, UInt8.lt_iff_toNat_lt,
      ← UInt8.toNat_inj, UInt8.toNat_ofNat', two, three, four, other] <;>
    omega

theorem bytes_lt_bytes {former latter : String} (isBelow : former < latter) :
    bytes former < bytes latter := by
  rw [String.lt_iff, ← List.lex_lt] at isBelow
  rw [← String.ofList_toList (s := former), ← String.ofList_toList (s := latter), bytes_ofList,
    bytes_ofList]
  generalize former.toList = cs, latter.toList = ds at isBelow
  induction isBelow with
  | @nil d ds =>
      have hasByte : 0 < (String.utf8EncodeChar d).length :=
        String.length_utf8EncodeChar d ▸ d.utf8Size_pos
      obtain ⟨byte, bytes, isEncoded⟩ := List.exists_cons_of_length_pos hasByte
      rw [List.flatMap_cons, isEncoded]
      exact List.nil_lt_cons _ _
  | rel isBelow => exact utf8EncodeChar_append_lt isBelow _ _
  | cons _ ih => exact List.append_left_lt ih

/-- **The order of texts is that of their bytes.** -/
theorem bytes_lt_bytes_iff {former latter : String} :
    bytes former < bytes latter ↔ former < latter := by
  refine ⟨fun isBelow => Decidable.byContradiction fun notBelow => ?_, bytes_lt_bytes⟩
  by_cases isAbove : latter < former
  · exact List.lt_asymm isBelow (bytes_lt_bytes isAbove)
  · rw [Dictionary.eq_of_not_lt notBelow isAbove] at isBelow
    exact List.lt_irrefl _ isBelow

end Gatehouse.Text
