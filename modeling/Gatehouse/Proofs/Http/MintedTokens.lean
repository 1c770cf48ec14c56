import Gatehouse.Proofs.Encoding.Base32
import Gatehouse.Proofs.Http.Bearers
import Gatehouse.Proofs.Workflow.Complaints

/-!
# Tokens that are handed out

Whatever the random source gives, the token that is made from it can be used: its plaintext has the
length and the letters of a token, no call complains about it, and a header carries it as it is
(`IssuedToken.isFit_ofDraw`).  Nothing of the draw is lost on the way, so two draws never make the
same plaintext.
-/

namespace Gatehouse

set_option autoImplicit false

/-- What a token that is made from a draw is like. -/
structure IssuedToken.IsFit (issued : IssuedToken) (draw : Draw) : Prop where
  size : issued.plaintext.utf8ByteSize = 26
  letters : ∀ c ∈ issued.plaintext.toList, ('A' ≤ c ∧ c ≤ 'Z') ∨ ('2' ≤ c ∧ c ≤ '7')
  /-- The last character holds three bits only. -/
  lastLetter : ∃ c ∈ ['A', 'E', 'I', 'M', 'Q', 'U', 'Y', '4'],
    issued.plaintext.toList.getLast? = some c
  isAcceptable : (Validation.tokenReport issued.plaintext).isAcceptable = true
  /-- No call that it is presented to refuses it with a report on the token. -/
  isSpared : ∀ scheme moment database (call : Service.Call),
    call.presented? = some issued.plaintext →
      NoComplaint "token" (Service.perform scheme moment database call).result
  /-- Who bears it is looked up at once. -/
  isLookedUp : ∀ now database, Service.authenticate now database issued.plaintext =
    database.connect >>= fun tables => Service.found .unauthenticated
      (tables.accountByToken? .access (Token.digestOf issued.plaintext) now)
  isCarried : Http.bearerToken? (Http.bearerValue issued.plaintext) = some issued.plaintext
  digest : issued.token.digest = Token.digestOf issued.plaintext
  /-- No other draw makes the same plaintext. -/
  draw_unique : ∀ other, Token.plaintextOf other = issued.plaintext → other = draw

namespace Token

theorem toList_plaintextOf (draw : Draw) :
    (plaintextOf draw).toList = Encoding.Base32.encode draw.toList :=
  String.toList_ofList

theorem plaintextOf_inj {former latter : Draw} (same : plaintextOf former = plaintextOf latter) :
    former = latter := by
  have sameText := congrArg String.toList same
  rw [toList_plaintextOf, toList_plaintextOf] at sameText
  have sameLength : former.toList.length = latter.toList.length := by simp
  exact Vector.toList_inj.1 (Encoding.Base32.encode_inj sameLength sameText)

/-- Sixteen bytes fill 25 characters and three bits of one more. -/
theorem getLast?_plaintextOf (draw : Draw) :
    ∃ c ∈ ['A', 'E', 'I', 'M', 'Q', 'U', 'Y', '4'],
      (plaintextOf draw).toList.getLast? = some c := by
  have areLast : ∀ bits < 8,
      Encoding.Base32.digitChar (bits * 4) ∈ ['A', 'E', 'I', 'M', 'Q', 'U', 'Y', '4'] := by decide
  have size : draw.toList.length = 16 := Vector.length_toList
  have notEmpty : draw.toList ≠ [] := List.ne_nil_of_length_pos (by omega)
  have isLast := Encoding.Base32.getLast?_encode notEmpty
  rw [size] at isLast
  rw [toList_plaintextOf]
  exact ⟨_, areLast _ (Nat.mod_lt _ (by decide)), isLast⟩

end Token

theorem Http.isBearerChar_of_isLetter {c : Char} (isLetter : Encoding.Base32.isLetter c = true) :
    isBearerChar c = true := by
  simp only [Encoding.Base32.isLetter, Bool.or_eq_true, Bool.and_eq_true, decide_eq_true_eq]
    at isLetter
  simp only [isBearerChar, Bool.or_eq_true, Bool.and_eq_true, decide_eq_true_eq]
  rcases isLetter with ⟨low, high⟩ | ⟨low, high⟩
  · exact .inr ⟨Char.le_trans (by decide) low, Char.le_trans high (by decide)⟩
  · exact .inr ⟨Char.le_trans (by decide) low, Char.le_trans high (by decide)⟩

/-- **Every token that is made is fit for use**, whatever the draw, the account, the lifetime and
the scope. -/
theorem IssuedToken.isFit_ofDraw (draw : Draw) (now : Instant) (accountId : Int)
    (lifetime : Duration) (scope : Scope) :
    (ofDraw draw now accountId lifetime scope).IsFit draw := by
  have isLong : (Token.plaintextOf draw).utf8ByteSize = Validation.tokenLength :=
    Token.utf8ByteSize_plaintextOf draw
  have isAcceptable := Http.isAcceptable_tokenReport.2 isLong
  have notEmpty : Token.plaintextOf draw ≠ "" := by
    intro isEmpty
    rw [isEmpty] at isLong
    cases isLong
  have letters : ∀ c ∈ (Token.plaintextOf draw).toList, Encoding.Base32.isLetter c = true := by
    intro c member
    rw [Token.toList_plaintextOf] at member
    exact Encoding.Base32.isLetter_of_mem_encode member
  exact {
    size := isLong
    letters := fun c member => by simpa [Encoding.Base32.isLetter] using letters c member
    lastLetter := Token.getLast?_plaintextOf draw
    isAcceptable := isAcceptable
    isSpared := fun _ _ _ _ isPresented => Service.noComplaint_of_presented isPresented isLong
    isLookedUp := fun now _ => (Service.authenticate_eq _ now _).trans (if_pos isAcceptable)
    isCarried := Http.bearerToken?_eq_some.2
      ⟨rfl, notEmpty, fun c member => Http.isBearerChar_of_isLetter (letters c member)⟩
    digest := rfl
    draw_unique := fun other same => Token.plaintextOf_inj same }

end Gatehouse
