import Gatehouse.Proofs.Password.Scheme
import Gatehouse.Proofs.Validation.Profiles
import Gatehouse.Proofs.Workflow.Steps
import Gatehouse.Service.Call

/-!
# Passwords that are handed on to be hashed

Every call that sets a password has the password checked before it is hashed, by the profile for
what the call is handed.  Hashing makes the same check once more, but never to any effect: a call
comes out the same with two schemes that differ in what they do with passwords that do not meet the
policy (`Service.performAmid_congr`).

With that, all places where a password, a username or an address is judged are known to agree
(`Validation.profiles_agree`).
-/

namespace Gatehouse

set_option autoImplicit false

/-- Whether two schemes check candidates alike, and hash alike the passwords that meet the
policy. -/
structure PasswordScheme.AgreesWithinPolicy (scheme other : PasswordScheme) : Prop where
  verify : scheme.verify = other.verify
  hash : ∀ password salt, Validation.meetsPasswordPolicy password = true →
    scheme.hash password salt = other.hash password salt

variable {scheme other : PasswordScheme}

/-! ## Steps -/

namespace Workflow

variable {α : Type}

/-- Workflows are equal that do the same from wherever they are carried on, whatever goes wrong. -/
theorem eq_of_runAmid {workflow other : Workflow α}
    (same : ∀ disturbances progress,
      runAmid disturbances workflow progress = runAmid disturbances other progress) :
    workflow = other := by
  funext disturbances progress
  exact same disturbances progress

/-- What follows a check only matters if the check is passed. -/
theorem accept_bind_congr {report : Validation.Report} {next next' : Unit → Workflow α}
    (rest : report.isAcceptable = true → next () = next' ()) :
    ((liftM (Service.accept report) : Workflow Unit) >>= next) =
      ((liftM (Service.accept report) : Workflow Unit) >>= next') := by
  apply eq_of_runAmid
  intro disturbances progress
  rw [runAmid_bind, runAmid_bind, runAmid_lift, Service.accept]
  by_cases isAccepted : report.isAcceptable = true
  · rw [if_pos isAccepted]
    exact congrArg (runAmid disturbances · progress) (rest isAccepted)
  · rw [if_neg isAccepted]

/-- Schemes that agree make the same of a password that meets the policy. -/
theorem hashPassword_congr (agree : scheme.AgreesWithinPolicy other) {password : String}
    (isMet : Validation.meetsPasswordPolicy password = true) :
    hashPassword scheme password = hashPassword other password := by
  apply eq_of_runAmid
  intro disturbances progress
  have hashed : Service.hashPassword scheme progress.moment password =
      Service.hashPassword other progress.moment password := by
    obtain ⟨now, draws⟩ := progress.moment
    cases draws with
    | nil => rfl
    | cons salt rest =>
        simp only [Service.hashPassword, Moment.drawSalt, bind, Except.bind]
        rw [agree.hash password salt isMet]
  rw [runAmid_hashPassword, runAmid_hashPassword, hashed]

end Workflow

/-! ## Calls -/

namespace Service

open Validation (Report meetsPasswordPolicy)

/-- A report without an entry for the password is one on a password that meets the policy. -/
theorem meetsPolicy_of_isAcceptable {report : Report} {password : String}
    (isAccepted : (Validation.checkPassword report password).isAcceptable = true) :
    meetsPasswordPolicy password = true := by
  rw [Validation.checkPassword, Validation.isAcceptable_check, Bool.and_eq_true] at isAccepted
  exact isAccepted.2

theorem registering_congr (agree : scheme.AgreesWithinPolicy other)
    (username email password : String) :
    registering scheme username email password = registering other username email password := by
  apply Workflow.accept_bind_congr
  intro isAccepted
  rw [Workflow.hashPassword_congr agree (meetsPolicy_of_isAcceptable isAccepted)]

theorem loggingIn_congr (agree : scheme.AgreesWithinPolicy other) (username password : String) :
    loggingIn scheme username password = loggingIn other username password := by
  have isMatch : passwordMatches scheme = passwordMatches other := by
    funext account candidate
    rw [passwordMatches, passwordMatches, agree.verify]
  rw [loggingIn, loggingIn, isMatch]

theorem settingPassword_congr (agree : scheme.AgreesWithinPolicy other)
    (token password : String) :
    settingPassword scheme token password = settingPassword other token password := by
  apply Workflow.accept_bind_congr
  intro isAccepted
  rw [Validation.checkToken, Validation.isAcceptable_check, Validation.isAcceptable_check,
    Bool.and_assoc, Bool.and_eq_true] at isAccepted
  rw [Workflow.hashPassword_congr agree (meetsPolicy_of_isAcceptable isAccepted.1)]

theorem changingAccount_congr (agree : scheme.AgreesWithinPolicy other) (identity : Identity)
    (username : String) (email password : Option String) :
    changingAccount scheme identity username email password =
      changingAccount other identity username email password := by
  cases password with
  | none => rfl
  | some password =>
      unfold changingAccount
      congr 1
      funext caller
      apply Workflow.accept_bind_congr
      intro isAccepted
      rw [updateReport, Validation.isAcceptable_check, Bool.and_eq_true] at isAccepted
      rw [withPassword, withPassword,
        Workflow.hashPassword_congr agree (meetsPolicy_of_isAcceptable isAccepted.1)]

/-- What becomes of a password that does not meet the policy when it is hashed makes no difference
to any call. -/
theorem performAmid_congr (agree : scheme.AgreesWithinPolicy other) (disturbances : Disturbances)
    (moment : Moment) (database : Database) (call : Call) :
    performAmid disturbances scheme moment database call =
      performAmid disturbances other moment database call := by
  cases call with
  | register username email password => rw [performAmid, performAmid, registering_congr agree]
  | login username password => rw [performAmid, performAmid, loggingIn_congr agree]
  | updatePassword token password => rw [performAmid, performAmid, settingPassword_congr agree]
  | updateAccount identity username email password =>
      rw [performAmid, performAmid, changingAccount_congr agree]
  | _ => rfl

end Service

/-! ## Agreement -/

/-- A password is hashed exactly if it meets the policy, whatever the salt. -/
theorem PasswordScheme.argon2id_hashes_iff (password : String) (salt : Draw) :
    (∃ stored, argon2id.hash password salt = .ok stored) ↔
      Validation.meetsPasswordPolicy password = true := by
  constructor
  · rintro ⟨stored, isStored⟩
    change hashPhc password salt = .ok stored at isStored
    unfold hashPhc at isStored
    split at isStored
    next isMet => exact isMet
    next => cases isStored
  · intro isMet
    exact ⟨_, argon2id_hash isMet salt⟩

namespace Validation

variable (username email password : String)

/-- What is said of the parts of a registration when they are handed in again, with the fields that
are handed in: to log in, to ask for a reset, to set a password, and to change the account. -/
def laterProfiles : List (List String × Report) :=
  [(["username", "password"], loginReport username password),
   (["email"], emailReport email),
   (["password"], passwordReport password),
   ([], changeReport none none),
   (["email"], changeReport (some email) none),
   (["password"], changeReport none (some password)),
   (["email", "password"], changeReport (some email) (some password))]

theorem agreesOn_of_mem_laterProfiles {profile : List String × Report}
    (isLater : profile ∈ laterProfiles username email password) :
    profile.2.AgreesOn (registrationReport username email password) profile.1 := by
  simp only [laterProfiles, List.mem_cons, List.not_mem_nil, or_false] at isLater
  rcases isLater with rfl | rfl | rfl | rfl | rfl | rfl | rfl
  · exact formReport_agreesOn username email password (.inr rfl) (.inl rfl) (.inr rfl)
  · exact formReport_agreesOn username email password (.inl rfl) (.inr rfl) (.inl rfl)
  · exact formReport_agreesOn username email password (.inl rfl) (.inl rfl) (.inr rfl)
  · exact formReport_agreesOn username email password (.inl rfl) (.inl rfl) (.inl rfl)
  · exact formReport_agreesOn username email password (.inl rfl) (.inr rfl) (.inl rfl)
  · exact formReport_agreesOn username email password (.inl rfl) (.inl rfl) (.inr rfl)
  · exact formReport_agreesOn username email password (.inl rfl) (.inr rfl) (.inr rfl)

/-- **All places that judge a username, an address or a password agree.**

* A registration has an entry for the username exactly if it does not have 3 to 25 characters that
  are all ASCII letters and digits, for the address exactly if it is none, for the password exactly
  if it does not meet the policy, and no other entry.  Each entry is the message of the first rule
  of its field that is broken, whatever the other fields are.
* A later profile says of each field that it checks what the registration says, and nothing of the
  others.  So it refuses nothing that a registration has accepted.
* A password is hashed exactly if the profiles that check it have no entry for it.  What hashing
  does with a password that does not meet the policy makes no difference to any call, so that no
  call ever fails there. -/
theorem profiles_agree :
    (registrationReport username email password).Judges username email password ∧
    (∀ profile ∈ laterProfiles username email password,
      profile.2.AgreesOn (registrationReport username email password) profile.1 ∧
      ((registrationReport username email password).isAcceptable = true →
        profile.2.isAcceptable = true) ∧
      ("password" ∈ profile.1 → ∀ salt,
        ((∃ stored, PasswordScheme.argon2id.hash password salt = .ok stored) ↔
          profile.2.get? "password" = none))) ∧
    (∀ salt, (∃ stored, PasswordScheme.argon2id.hash password salt = .ok stored) ↔
      (registrationReport username email password).get? "password" = none) ∧
    ∀ other, PasswordScheme.argon2id.AgreesWithinPolicy other →
      ∀ moment database call,
        Service.perform PasswordScheme.argon2id moment database call =
          Service.perform other moment database call := by
  have judges := registrationReport_judges username email password
  have hashes (salt : Draw) : (∃ stored, PasswordScheme.argon2id.hash password salt = .ok stored) ↔
      (registrationReport username email password).get? "password" = none := by
    rw [PasswordScheme.argon2id_hashes_iff, ← Option.not_isSome_iff_eq_none, judges.password_iff,
      Bool.not_eq_false]
  refine ⟨judges, fun profile isLater => ?_, hashes, fun other agree moment database call =>
    Service.performAmid_congr agree .calm moment database call⟩
  have agrees := agreesOn_of_mem_laterProfiles username email password isLater
  refine ⟨agrees, agrees.isAcceptable, fun isChecked salt => ?_⟩
  rw [agrees "password", if_pos isChecked]
  exact hashes salt

end Validation

end Gatehouse
