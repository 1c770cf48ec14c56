import Gatehouse.Encoding.Base64

/-!
# Base 64 there and back

The reader takes exactly what the writer makes: a text stands for some bytes if and only if it is
the text of those bytes (`decode?_eq_some_iff`).  Three bytes are four digits, so both directions go
group by group; in the last group, which may be shorter, the reader asks for zero bits where the
writer puts them.
-/

namespace Gatehouse.Encoding.Base64

set_option autoImplicit false

/-! ## Digits -/

/-- The digits of a byte string. -/
def digits : List UInt8 → List Nat
  | [] => []
  | [a] => [a.toNat / 4, a.toNat % 4 * 16]
  | [a, b] => [a.toNat / 4, a.toNat % 4 * 16 + b.toNat / 16, b.toNat % 16 * 4]
  | a :: b :: c :: rest =>
      [a.toNat / 4, a.toNat % 4 * 16 + b.toNat / 16, b.toNat % 16 * 4 + c.toNat / 64,
        c.toNat % 64] ++ digits rest

theorem encode_eq_map_digits (bytes : List UInt8) : encode bytes = (digits bytes).map digitChar := by
  induction bytes using digits.induct with
  | case1 => rfl
  | case2 a => rfl
  | case3 a b => rfl
  | case4 a b c rest ih => simp [encode, digits, ih]

theorem lt_of_mem_digits {bytes : List UInt8} {digit : Nat} (isDigit : digit ∈ digits bytes) :
    digit < 64 := by
  induction bytes using digits.induct with
  | case1 => cases isDigit
  | case2 a =>
      have := a.toNat_lt
      simp only [digits, List.mem_cons, List.not_mem_nil, or_false] at isDigit
      omega
  | case3 a b =>
      have := a.toNat_lt
      have := b.toNat_lt
      simp only [digits, List.mem_cons, List.not_mem_nil, or_false] at isDigit
      omega
  | case4 a b c rest ih =>
      have := a.toNat_lt
      have := b.toNat_lt
      have := c.toNat_lt
      rcases List.mem_append.1 isDigit with inGroup | later
      · simp only [List.mem_cons, List.not_mem_nil, or_false] at inGroup
        omega
      · exact ih later

/-- A group of three bytes takes four digits, and a shorter last one a digit more than bytes. -/
theorem length_encode (bytes : List UInt8) : (encode bytes).length = (4 * bytes.length + 2) / 3 := by
  induction bytes using digits.induct with
  | case1 => rfl
  | case2 a => simp [encode]
  | case3 a b => simp [encode]
  | case4 a b c rest ih =>
      simp only [encode, List.length_cons, ih]
      omega

/-! ## Characters -/

theorem digitValue?_digitChar : ∀ digit < 64, digitValue? (digitChar digit) = some digit := by
  decide

/-- A character with a digit is the character of that digit. -/
theorem digitChar_of_digitValue? {c : Char} {digit : Nat} (isDigit : digitValue? c = some digit) :
    digit < 64 ∧ digitChar digit = c := by
  have ofNumber (number : Nat) (same : c.toNat = number) : Char.ofNat number = c := by
    rw [← same, Char.ofNat_toNat]
  unfold digitValue? at isDigit
  split at isDigit
  next upper =>
    have low : 65 ≤ c.toNat := upper.1
    have high : c.toNat ≤ 90 := upper.2
    cases isDigit
    exact ⟨by omega, by rw [digitChar, if_pos (by omega)]; exact ofNumber _ (by omega)⟩
  split at isDigit
  next lower =>
    have low : 97 ≤ c.toNat := lower.1
    have high : c.toNat ≤ 122 := lower.2
    cases isDigit
    refine ⟨by omega, ?_⟩
    rw [digitChar, if_neg (by omega), if_pos (by omega)]
    exact ofNumber _ (by omega)
  split at isDigit
  next decimal =>
    have low : 48 ≤ c.toNat := decimal.1
    have high : c.toNat ≤ 57 := decimal.2
    cases isDigit
    refine ⟨by omega, ?_⟩
    rw [digitChar, if_neg (by omega), if_neg (by omega), if_pos (by omega)]
    exact ofNumber _ (by omega)
  split at isDigit
  next plus => cases isDigit; exact ⟨by decide, plus.symm⟩
  split at isDigit
  next slash => cases isDigit; exact ⟨by decide, slash.symm⟩
  next => cases isDigit

/-- Reading characters as digits takes exactly the characters of the digits. -/
theorem mapM_digitValue?_eq_some {text : List Char} {ds : List Nat} :
    text.mapM digitValue? = some ds ↔ ds.map digitChar = text ∧ ∀ digit ∈ ds, digit < 64 := by
  induction text generalizing ds with
  | nil => cases ds <;> simp
  | cons c text ih =>
      rw [List.mapM_cons]
      constructor
      · intro isRead
        obtain ⟨digit, isDigit, isRead⟩ := Option.bind_eq_some_iff.1 isRead
        obtain ⟨later, isLater, isRead⟩ := Option.bind_eq_some_iff.1 isRead
        cases isRead
        obtain ⟨small, same⟩ := digitChar_of_digitValue? isDigit
        obtain ⟨sameLater, smallLater⟩ := ih.1 isLater
        exact ⟨by rw [List.map_cons, same, sameLater], List.forall_mem_cons.2 ⟨small, smallLater⟩⟩
      · rintro ⟨same, small⟩
        cases ds with
        | nil => cases same
        | cons digit ds =>
            obtain ⟨rfl, rfl⟩ := List.cons.inj same
            obtain ⟨small, smallLater⟩ := List.forall_mem_cons.1 small
            rw [digitValue?_digitChar digit small, ih.2 ⟨rfl, smallLater⟩]
            rfl

/-! ## Groups -/

theorem byte_eq {a : UInt8} {value : Nat} (same : value = a.toNat) : UInt8.ofNat value = a := by
  rw [same, UInt8.ofNat_toNat]

/-- The digits of some bytes stand for them. -/
theorem bytesOfDigits_digits (bytes : List UInt8) : bytesOfDigits (digits bytes) = some bytes := by
  induction bytes using digits.induct with
  | case1 => rfl
  | case2 a =>
      rw [digits, bytesOfDigits, if_pos (by omega), byte_eq (a := a) (by omega)]
  | case3 a b =>
      have := b.toNat_lt
      rw [digits, bytesOfDigits, if_pos (by omega), byte_eq (a := a) (by omega),
        byte_eq (a := b) (by omega)]
  | case4 a b c rest ih =>
      have := b.toNat_lt
      have := c.toNat_lt
      simp only [digits, List.cons_append, List.nil_append, bytesOfDigits]
      rw [ih, byte_eq (a := a) (by omega), byte_eq (a := b) (by omega),
        byte_eq (a := c) (by omega), Option.map_some]

/-- Digits that stand for some bytes are the digits of those bytes. -/
theorem digits_of_bytesOfDigits {ds : List Nat} {bytes : List UInt8}
    (small : ∀ digit ∈ ds, digit < 64) (isRead : bytesOfDigits ds = some bytes) :
    digits bytes = ds := by
  induction ds using bytesOfDigits.induct generalizing bytes with
  | case1 => cases isRead; rfl
  | case2 a => cases isRead
  | case3 a b isZero =>
      rw [bytesOfDigits, if_pos isZero] at isRead
      cases isRead
      simp only [List.mem_cons, List.not_mem_nil, or_false, forall_eq_or_imp, forall_eq] at small
      simp only [digits, UInt8.toNat_ofNat', List.cons.injEq, and_true]
      omega
  | case4 a b notZero =>
      rw [bytesOfDigits, if_neg notZero] at isRead
      cases isRead
  | case5 a b c isZero =>
      rw [bytesOfDigits, if_pos isZero] at isRead
      cases isRead
      simp only [List.mem_cons, List.not_mem_nil, or_false, forall_eq_or_imp, forall_eq] at small
      simp only [digits, UInt8.toNat_ofNat', List.cons.injEq, and_true]
      omega
  | case6 a b c notZero =>
      rw [bytesOfDigits, if_neg notZero] at isRead
      cases isRead
  | case7 a b c d rest ih =>
      rw [bytesOfDigits, Option.map_eq_some_iff] at isRead
      obtain ⟨later, isRead, rfl⟩ := isRead
      simp only [List.forall_mem_cons] at small
      obtain ⟨smallA, smallB, smallC, smallD, small⟩ := small
      simp only [digits, ih small isRead, UInt8.toNat_ofNat', List.cons_append, List.nil_append,
        List.cons.injEq, and_true]
      omega

/-- **A text stands for some bytes exactly if it is the text of those bytes.** -/
theorem decode?_eq_some_iff {text : List Char} {bytes : List UInt8} :
    decode? text = some bytes ↔ encode bytes = text := by
  rw [decode?, Option.bind_eq_some_iff, encode_eq_map_digits]
  constructor
  · rintro ⟨ds, isText, isRead⟩
    obtain ⟨same, small⟩ := mapM_digitValue?_eq_some.1 isText
    rw [digits_of_bytesOfDigits small isRead, same]
  · rintro same
    exact ⟨_, mapM_digitValue?_eq_some.2 ⟨same, fun _ => lt_of_mem_digits⟩,
      bytesOfDigits_digits bytes⟩

/-- The text of some bytes stands for them. -/
theorem decode?_encode (bytes : List UInt8) : decode? (encode bytes) = some bytes :=
  decode?_eq_some_iff.2 rfl

end Gatehouse.Encoding.Base64
