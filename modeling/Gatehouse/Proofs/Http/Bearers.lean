import Gatehouse.Proofs.Http.Exchanges
import Gatehouse.Proofs.Store.Integrity
import Gatehouse.Proofs.Workflow.Logins
import Gatehouse.Proofs.Workflow.Readings

/-!
# Who bears a token

A request is made by the holder of an account exactly when the value of its `Authorization` header
consists of the word `Bearer`, one space and a live access token of that account, byte for byte
(`resolves_known_iff`).  Any other value, be it in another case, with more blanks or with a token
that has expired or is good for something else, resolves to nobody.
-/

namespace Gatehouse.Http

set_option autoImplicit false

/-! ## Header values -/

/-- Whether a character may stand in a token that a header carries: a tab or one that shows. -/
def isBearerChar (c : Char) : Bool :=
  c == '\t' || (decide ('!' ≤ c) && decide (c ≤ '~'))

theorem isBearerChar_iff {c : Char} :
    isBearerChar c = true ↔ c.toNat = 9 ∨ (33 ≤ c.toNat ∧ c.toNat ≤ 126) := by
  have isTab : c = '\t' ↔ c.toNat = 9 := ⟨fun same => same ▸ rfl, fun same => Char.toNat_inj.1 same⟩
  simp only [isBearerChar, Bool.or_eq_true, Bool.and_eq_true, beq_iff_eq, decide_eq_true_eq, isTab,
    Char.le_def, UInt32.le_iff_toNat_le]
  exact Iff.rfl

theorem isHeaderByte_iff {byte : UInt8} :
    isHeaderByte byte = true ↔ byte.toNat = 9 ∨ (32 ≤ byte.toNat ∧ byte.toNat ≤ 126) := by
  simp only [isHeaderByte, Bool.or_eq_true, Bool.and_eq_true, beq_iff_eq, decide_eq_true_eq,
    UInt8.le_iff_toNat_le, ← UInt8.toNat_inj]
  exact Iff.rfl

theorem eq_space_iff {c : Char} : c = ' ' ↔ c.toNat = 32 :=
  ⟨fun same => same ▸ rfl, fun same => Char.toNat_inj.1 same⟩

/-- Whether a text may stand in a header. -/
def IsHeaderText (text : List Char) : Prop :=
  ∀ c ∈ text, c = ' ' ∨ isBearerChar c = true

theorem IsHeaderText.isAscii {text : List Char} (isHeader : IsHeaderText text) :
    ∀ c ∈ text, c.toNat < 128 := by
  intro c member
  rcases isHeader c member with rfl | isShown
  · decide
  · rcases isBearerChar_iff.1 isShown with isTab | bounds <;> omega

theorem isHeaderText_of_bytes {value : List UInt8} (isHeader : value.all isHeaderByte = true) :
    IsHeaderText (value.map fun byte => Char.ofNat byte.toNat) := by
  intro c member
  obtain ⟨byte, isByte, rfl⟩ := List.mem_map.1 member
  have bounds := isHeaderByte_iff.1 (List.all_eq_true.1 isHeader byte isByte)
  rw [eq_space_iff, isBearerChar_iff, Text.toNat_ofNat_byte]
  omega

/-- A header value is read character by character, and written as it was. -/
theorem headerText?_eq_some {value : List UInt8} {text : List Char} :
    headerText? value = some text ↔
      value = Text.bytes (String.ofList text) ∧ IsHeaderText text := by
  unfold headerText?
  constructor
  · intro isRead
    split at isRead
    next isHeader =>
      cases isRead
      have isText := isHeaderText_of_bytes isHeader
      refine ⟨?_, isText⟩
      rw [Text.bytes_ofList_of_ascii isText.isAscii, List.map_map]
      refine (List.map_id'' (fun byte => ?_) value).symm
      simp only [Function.comp_apply, Text.toNat_ofNat_byte, UInt8.ofNat_toNat]
    next => cases isRead
  · rintro ⟨rfl, isText⟩
    have number {c : Char} (member : c ∈ text) : (UInt8.ofNat c.toNat).toNat = c.toNat :=
      UInt8.toNat_ofNat_of_lt' (Nat.lt_trans (isText.isAscii c member) (by decide))
    rw [Text.bytes_ofList_of_ascii isText.isAscii, if_pos]
    · rw [List.map_map]
      refine congrArg some ((List.map_congr_left fun c member => ?_).trans (List.map_id text))
      simp only [Function.comp_apply, number member, Char.ofNat_toNat, id]
    · refine List.all_eq_true.2 fun byte member => ?_
      obtain ⟨c, isChar, rfl⟩ := List.mem_map.1 member
      rw [isHeaderByte_iff, number isChar]
      rcases isText c isChar with rfl | isShown
      · decide
      · rcases isBearerChar_iff.1 isShown with isTab | bounds <;> omega

/-- The value that carries a token. -/
def bearerValue (token : String) : List UInt8 :=
  Text.bytes ("Bearer " ++ token)

/-- The word that stands in front of a token. -/
def bearerWord : List Char := ['B', 'e', 'a', 'r', 'e', 'r']

theorem bearerValue_eq (token : String) :
    bearerValue token = Text.bytes (String.ofList (bearerWord ++ ' ' :: token.toList)) := by
  have same : ("Bearer " ++ token).toList = bearerWord ++ ' ' :: token.toList := by
    simp [bearerWord]
  rw [← same, String.ofList_toList, bearerValue]

/-- A header value carries a token exactly when it is the word, a space and the token. -/
theorem bearerToken?_eq_some {value : List UInt8} {token : String} :
    bearerToken? value = some token ↔
      value = bearerValue token ∧ token ≠ "" ∧ ∀ c ∈ token.toList, isBearerChar c = true := by
  have noSpace : isBearerChar ' ' = false := by decide
  unfold bearerToken?
  constructor
  · intro isRead
    obtain ⟨text, isText, isRead⟩ := Option.bind_eq_some_iff.1 isRead
    obtain ⟨isValue, isHeader⟩ := headerText?_eq_some.1 isText
    split at isRead
    next word rest parts =>
      obtain ⟨rfl, -, isWhole⟩ := Text.splitOn_eq_pair.1 parts
      split at isRead
      next isBearer =>
        cases isRead
        simp only [Bool.and_eq_true, beq_iff_eq, Bool.not_eq_true', List.isEmpty_eq_false_iff]
          at isBearer
        obtain rfl : word = bearerWord := by
          simpa [bearerWord] using congrArg String.toList isBearer.1
        rw [bearerValue_eq, String.toList_ofList]
        refine ⟨isValue, ?_, fun c member => ?_⟩
        · exact fun isEmpty => isBearer.2 (by simpa using congrArg String.toList isEmpty)
        · rcases isHeader c (by simp [member]) with rfl | isShown
          · exact absurd member isWhole
          · exact isShown
      next => cases isRead
    next => cases isRead
  · rintro ⟨rfl, isGiven, isShown⟩
    have isHeader : IsHeaderText (bearerWord ++ ' ' :: token.toList) := by
      have wordShows : bearerWord.all isBearerChar = true := by decide
      intro c member
      rcases List.mem_append.1 member with inWord | inRest
      · exact .inr (List.all_eq_true.1 wordShows c inWord)
      · rcases List.mem_cons.1 inRest with rfl | inToken
        · exact .inl rfl
        · exact .inr (isShown c inToken)
    have isWhole : ' ' ∉ token.toList := by
      intro member
      rw [isShown ' ' member] at noSpace
      cases noSpace
    have parts := Text.splitOn_eq_pair.2 ⟨rfl, show ' ' ∉ bearerWord by decide, isWhole⟩
    rw [headerText?_eq_some.2 ⟨bearerValue_eq token, isHeader⟩, Option.bind_some, parts]
    simp [bearerWord, isGiven]

/-! ## Holders -/

/-- Whether an account holds a live token in a scope. -/
def Holds (tables : Tables) (now : Instant) (scope : Scope) (token : String) (owner : Account) :
    Prop :=
  owner ∈ tables.accounts ∧ ∃ row ∈ tables.tokens, row.digest = Token.digestOf token ∧
    row.scope = scope.tag ∧ now.milliseconds < row.expiry ∧ row.accountId = owner.id

/-- Whether a header value is the word, a space and a live access token of an account.  A token has
26 bytes, of which none is a space or a control character other than the tab. -/
def Bears (tables : Tables) (now : Instant) (value : List UInt8) (owner : Account) : Prop :=
  ∃ token, value = bearerValue token ∧ token.utf8ByteSize = Validation.tokenLength ∧
    (∀ c ∈ token.toList, isBearerChar c = true) ∧ Holds tables now .access token owner

variable {now : Instant} {database : Database}

theorem isAcceptable_tokenReport {token : String} :
    (Validation.tokenReport token).isAcceptable = true ↔
      token.utf8ByteSize = Validation.tokenLength := by
  have start : Validation.Report.empty.isAcceptable = true := rfl
  simp only [Validation.tokenReport, Validation.checkToken, Validation.isAcceptable_check, start,
    Bool.true_and, Bool.and_eq_true, beq_iff_eq]
  refine and_iff_right_of_imp fun isLong => ?_
  rw [Bool.not_eq_true', String.isEmpty_eq_false_iff]
  rintro rfl
  cases isLong

theorem authenticate_eq_ok (isOpen : database.isOpen = true) (sound : database.tables.Sound)
    {token : String} {owner : Account} :
    Service.authenticate now database token = .ok owner ↔
      token.utf8ByteSize = Validation.tokenLength ∧
        Holds database.tables now .access token owner := by
  have connected : database.connect = .ok database.tables :=
    Database.connect_eq_ok.2 ⟨isOpen, rfl⟩
  rw [Holds, ← sound.accountByToken?_eq_some, ← isAcceptable_tokenReport, Service.authenticate_eq]
  split
  next isAccepted =>
    rw [Service.except_bind_eq_ok]
    constructor
    · rintro ⟨tables, isRead, isFound⟩
      obtain rfl := Except.ok.inj (connected.symm.trans isRead)
      exact ⟨isAccepted, Service.found_eq_ok.1 isFound⟩
    · rintro ⟨-, isFound⟩
      exact ⟨_, connected, Service.found_eq_ok.2 isFound⟩
  next isRefused =>
    constructor
    · intro impossible
      cases impossible
    · rintro ⟨isAccepted, -⟩
      exact absurd isAccepted isRefused

/-- On an open database whoever cannot be told by a token is not known, and for no other reason. -/
theorem authenticate_eq_error (isOpen : database.isOpen = true) {token : String} {fault : Fault}
    (refused : Service.authenticate now database token = .error fault) :
    fault = .unauthenticated := by
  have connected : database.connect = .ok database.tables :=
    Database.connect_eq_ok.2 ⟨isOpen, rfl⟩
  rw [Service.authenticate_eq] at refused
  split at refused
  · rcases bind_eq_error.1 refused with failed | ⟨tables, -, missed⟩
    · rw [connected] at failed
      cases failed
    · unfold Service.found at missed
      split at missed
      · cases missed
        rfl
      · cases missed
  · cases refused
    rfl

/-- **A header value stands for the account that it bears a live access token of**, and any value
that bears none for nobody. -/
theorem resolves_known_iff (isOpen : database.isOpen = true) (sound : database.tables.Sound)
    {value : List UInt8} {identity : Identity} :
    Resolves now database (some value) identity ↔
      ∃ owner, identity = .known owner ∧ Bears database.tables now value owner := by
  constructor
  · rintro (_ | ⟨carries, isKnown⟩)
    obtain ⟨isValue, -, isShown⟩ := bearerToken?_eq_some.1 carries
    obtain ⟨isLong, holds⟩ := (authenticate_eq_ok isOpen sound).1 isKnown
    exact ⟨_, rfl, _, isValue, isLong, isShown, holds⟩
  · rintro ⟨owner, rfl, token, isValue, isLong, isShown, holds⟩
    refine .bearer (bearerToken?_eq_some.2 ⟨isValue, ?_, isShown⟩)
      ((authenticate_eq_ok isOpen sound).2 ⟨isLong, holds⟩)
    rintro rfl
    cases isLong

/-- Whoever makes a request with a header value that bears no token is asked for one. -/
theorem identify_of_not_bears (isOpen : database.isOpen = true) (sound : database.tables.Sound)
    {value : List UInt8} (noOwner : ∀ owner, ¬Bears database.tables now value owner) :
    identify now database (some value) = .error .invalidToken := by
  cases isKnown : identify now database (some value) with
  | ok identity =>
      obtain ⟨owner, -, bears⟩ := (resolves_known_iff isOpen sound).1 (identify_eq_ok.1 isKnown)
      exact absurd bears (noOwner owner)
  | error problem =>
      unfold identify at isKnown
      split at isKnown
      next => cases isKnown
      next =>
        split at isKnown
        next => exact isKnown.symm ▸ rfl
        next =>
          split at isKnown
          next refused =>
            cases isKnown
            rw [authenticate_eq_error isOpen refused]
            rfl
          next => cases isKnown

end Gatehouse.Http
