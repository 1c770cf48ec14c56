import Gatehouse.Password.Scheme
import Gatehouse.Proofs.Password.PhcString

/-!
# What a stored password says

A newly stored text is read as the record it was made from, and the record asks a check for the
inputs it was made with: the same variant, version, costs and salt, whatever the defaults of a check
are (`readsAs_render`).  So a check of any candidate comes to an answer, and the answer says whether
the candidate has the tag of the password (`verifyPhc_of_readsAs`).
-/

namespace Gatehouse.PasswordScheme

set_option autoImplicit false

open Digest

/-! ## Texts and the inputs they ask for -/

/-- That a check reads a text as asking for these inputs, each for its candidate, and for this
digest. -/
def ReadsAs (stored : String) (input : String → Argon2.Input) (digest : List UInt8) : Prop :=
  ∃ parts salt, PhcString.parse? stored = some parts ∧ parts.salt = some salt ∧
    parts.digest = some digest ∧ ∀ candidate, inputFor? parts salt candidate = some (input candidate)

/-- A check against a text that can be read compares the tag of the candidate with the digest. -/
theorem verifyPhc_of_readsAs {stored : String} {input : String → Argon2.Input}
    {digest : List UInt8} (reads : ReadsAs stored input digest) (candidate : String) :
    verifyPhc candidate stored =
      .ok (Argon2.tag? (input candidate) digest.length == some digest) := by
  obtain ⟨parts, salt, isRead, hasSalt, hasDigest, asks⟩ := reads
  simp only [verifyPhc, isRead, hasSalt, hasDigest, asks candidate]

/-! ## New texts -/

section

variable (password : String) (salt : Draw)

/-- The costs of new texts as they are written. -/
def newParameters : List (String × String) :=
  [("m", "65536"), ("t", "3"), ("p", "1")]

theorem newRecord_parameters : (newRecord password salt).parameters = newParameters := by
  simp only [newRecord]
  decide +kernel

/-- A cost that a new text names counts, whatever the default is. -/
theorem cost_newRecord (name : String) (value : Nat) (isNamed :
    (newParameters.reverse.find? fun entry => entry.1 == name).bind
      (fun entry => PhcString.decimal? entry.2.toList) = some value) (otherwise : Nat) :
    cost (newRecord password salt) name otherwise = value := by
  rw [cost, PhcString.parameter, newRecord_parameters, Option.bind_map]
  exact congrArg (Option.getD · otherwise) isNamed

theorem length_newTag :
    (Argon2.tag (newInput password salt) newDigestLength).length = newDigestLength :=
  Digest.Argon2.length_tag _ _

/-- The text of a salt of sixteen bytes is a salt. -/
theorem isSalt_encode : PhcString.isSalt (Encoding.Base64.encode salt.toList) = true := by
  simp [PhcString.isSalt, PhcString.isValue, Encoding.Base64.length_encode,
    PhcString.all_isValueChar_encode]

/-- A new record can be written as a text. -/
theorem newRecord_isWritable : (newRecord password salt).IsWritable where
  isAlgorithm := show PhcString.isName (variantName .hybrid).toList = true by decide +kernel
  isVersion := by rintro version ⟨⟩; decide
  areParameters := by rw [newRecord_parameters]; decide +kernel
  areShort := by rw [newRecord_parameters]; decide +kernel
  isSalt := by
    rintro text ⟨⟩
    rw [String.toList_ofList]
    exact isSalt_encode salt
  isDigest := by
    rintro digest ⟨⟩
    rw [length_newTag]
    decide
  digestHasSalt := nofun
  noOtherVersion := nofun

/-- A new text asks for the inputs that it was made with. -/
theorem readsAs_render : ReadsAs (newRecord password salt).render (newInput · salt)
    (Argon2.tag (newInput password salt) newDigestLength) := by
  refine ⟨newRecord password salt, _, PhcString.parse?_render (newRecord_isWritable password salt),
    rfl, rfl, fun candidate => ?_⟩
  have isVariant : variant? (newRecord password salt).algorithm = some .hybrid :=
    show variant? (variantName .hybrid) = some .hybrid by decide
  have isVersion : version? (newRecord password salt).version = some .combining :=
    show version? (some Argon2.Version.combining.code) = some .combining by decide
  have areKnown : (newRecord password salt).parameters.all isKnownParameter = true := by
    rw [newRecord_parameters]
    decide +kernel
  have memory := cost_newRecord password salt "m" 65536 (by decide +kernel)
  have passes := cost_newRecord password salt "t" 3 (by decide +kernel)
  have lanes := cost_newRecord password salt "p" 1 (by decide +kernel)
  have nothingElse : associatedData (newRecord password salt) = [] := by
    rw [associatedData, PhcString.parameter, newRecord_parameters]
    decide +kernel
  have inRange : (⟨65536, 3, 1⟩ : Argon2.Parameters).inRange = true := by decide
  simp only [inputFor?, isVariant, isVersion, areKnown, memory, passes, lanes, nothingElse,
    String.toList_ofList, Encoding.Base64.decode?_encode]
  simp [inRange, newInput, newCosts]

end

/-! ## Storing and checking -/

/-- A password that meets the policy is short enough to be hashed. -/
theorem tag?_of_meetsPolicy {password : String}
    (isMet : Validation.meetsPasswordPolicy password = true) (salt : Draw) (size : Nat) :
    Argon2.tag? (newInput password salt) size = some (Argon2.tag (newInput password salt) size) := by
  have isShort : password.utf8ByteSize ≤ 72 := by
    simp only [Validation.meetsPasswordPolicy, Validation.lengthBetween, Bool.and_eq_true,
      decide_eq_true_eq] at isMet
    exact isMet.1.1.1.1.2
  refine if_pos (Nat.lt_of_le_of_lt ?_ (by decide : 72 < UInt32.size))
  exact isShort

/-- A password that meets the policy is stored as the text of its record. -/
theorem argon2id_hash {password : String}
    (isMet : Validation.meetsPasswordPolicy password = true) (salt : Draw) :
    argon2id.hash password salt = .ok (newRecord password salt).render :=
  if_pos isMet

/-- A check against a new text compares tags, and is never a fault. -/
theorem argon2id_verify {password : String}
    (isMet : Validation.meetsPasswordPolicy password = true) (salt : Draw) (candidate : String) :
    argon2id.verify candidate (newRecord password salt).render =
      .ok (Argon2.tag? (newInput candidate salt) newDigestLength ==
        Argon2.tag? (newInput password salt) newDigestLength) := by
  have checked := verifyPhc_of_readsAs (readsAs_render password salt) candidate
  rwa [length_newTag, ← tag?_of_meetsPolicy isMet] at checked

/-- A password matches its own text. -/
theorem argon2id_verify_self {password : String}
    (isMet : Validation.meetsPasswordPolicy password = true) (salt : Draw) :
    argon2id.verify password (newRecord password salt).render = .ok true := by
  rw [argon2id_verify isMet, beq_self_eq_true]

/-- What a password has been stored as matches it. -/
theorem argon2id_verify_of_hash {password stored : String} {salt : Draw}
    (isHashed : argon2id.hash password salt = .ok stored) :
    argon2id.verify password stored = .ok true := by
  change hashPhc password salt = .ok stored at isHashed
  unfold hashPhc at isHashed
  split at isHashed
  next isMet =>
    cases isHashed
    exact argon2id_verify_self isMet salt
  next => cases isHashed

/-- **A password that meets the policy is stored as a text which asks every check for what the
password was hashed with, so that it matches itself and a candidate matches exactly if its tag is
the same; a password that does not meet the policy is not hashed.** -/
theorem argon2id_round_trip (password : String) (salt : Draw) :
    (Validation.meetsPasswordPolicy password = true →
      ∃ stored, argon2id.hash password salt = .ok stored ∧
        PhcString.parse? stored = some (newRecord password salt) ∧
        ReadsAs stored (newInput · salt) (Argon2.tag (newInput password salt) newDigestLength) ∧
        argon2id.verify password stored = .ok true ∧
        ∀ candidate, ∃ matched, argon2id.verify candidate stored = .ok matched ∧
          (matched = true ↔ Argon2.tag? (newInput candidate salt) newDigestLength =
            Argon2.tag? (newInput password salt) newDigestLength)) ∧
    (Validation.meetsPasswordPolicy password = false →
      argon2id.hash password salt = .error .policy) := by
  constructor
  · intro isMet
    exact ⟨_, argon2id_hash isMet salt, PhcString.parse?_render (newRecord_isWritable password salt),
      readsAs_render password salt, argon2id_verify_self isMet salt,
      fun candidate => ⟨_, argon2id_verify isMet salt candidate, beq_iff_eq⟩⟩
  · intro notMet
    exact if_neg (by simp [notMet])

/-- A password with every kind of character is stored and matches, and one without is refused. -/
theorem argon2id_round_trip_sample :
    (∃ stored, argon2id.hash "Abcdef1!" (.replicate 16 0) = .ok stored ∧
      argon2id.verify "Abcdef1!" stored = .ok true ∧
      ∃ matched, argon2id.verify "Abcdef2!" stored = .ok matched) ∧
    argon2id.hash "abcdef1!" (.replicate 16 0) = .error .policy := by
  obtain ⟨stored, isStored, -, -, matchesItself, isChecked⟩ :=
    (argon2id_round_trip "Abcdef1!" (.replicate 16 0)).1 (by decide)
  obtain ⟨matched, isMatched, -⟩ := isChecked "Abcdef2!"
  exact ⟨⟨stored, isStored, matchesItself, matched, isMatched⟩,
    (argon2id_round_trip "abcdef1!" (.replicate 16 0)).2 (by decide)⟩

end Gatehouse.PasswordScheme
