import Mathlib.Data.List.Forall2
import Gatehouse.Identity
import Gatehouse.Store.Database

/-!
# States that differ in stored passwords only

Two states of the store are alike (`Tables.Alike`) when they keep the same, except that the stored
texts of passwords may differ in which no candidate can tell apart: what matches the one matches the
other.  A stored text that cannot be read is like one that nothing matches.

Accounts that are alike stand at the same places, so that a search by anything but the password
finds accounts that are alike, and a write to one state takes place in the other too and leaves
states that are alike.
-/

namespace Gatehouse

set_option autoImplicit false

variable {scheme : PasswordScheme}

/-! ## Results -/

/-- Two results that both hold values in a relation, or the same fault. -/
inductive ResultsAlike {ε α β : Type} (related : α → β → Prop) : Except ε α → Except ε β → Prop
  | ok {former : α} {latter : β} (values : related former latter) :
      ResultsAlike related (.ok former) (.ok latter)
  | error (fault : ε) : ResultsAlike related (.error fault) (.error fault)

namespace ResultsAlike

variable {ε α β γ δ : Type} {related : α → β → Prop} {mapped : γ → δ → Prop}
  {former : Except ε α} {latter : Except ε β}

theorem refl (result : Except ε α) : ResultsAlike Eq result result := by
  cases result with
  | ok value => exact .ok rfl
  | error fault => exact .error fault

theorem map (alike : ResultsAlike related former latter) {f : α → γ} {g : β → δ}
    (maps : ∀ a b, related a b → mapped (f a) (g b)) :
    ResultsAlike mapped (former.map f) (latter.map g) := by
  cases alike with
  | ok values => exact .ok (maps _ _ values)
  | error fault => exact .error fault

theorem bind (alike : ResultsAlike related former latter) {next : α → Except ε γ}
    {next' : β → Except ε δ} (rest : ∀ a b, related a b → ResultsAlike mapped (next a) (next' b)) :
    ResultsAlike mapped (former >>= next) (latter >>= next') := by
  cases alike with
  | ok values => exact rest _ _ values
  | error fault => exact .error fault

/-- What follows the same result on both sides. -/
theorem bind_eq (result : Except ε α) {next : α → Except ε γ} {next' : α → Except ε δ}
    (rest : ∀ a, ResultsAlike mapped (next a) (next' a)) :
    ResultsAlike mapped (result >>= next) (result >>= next') :=
  (refl result).bind fun a _ same => same ▸ rest a

end ResultsAlike

/-! ## Accounts -/

/-- Two copies of an account that differ in the stored password at most, where the same candidates
match. -/
structure Account.Alike (scheme : PasswordScheme) (former latter : Account) : Prop where
  id : former.id = latter.id
  createdAt : former.createdAt = latter.createdAt
  username : former.username = latter.username
  email : former.email = latter.email
  isActivated : former.isActivated = latter.isActivated
  version : former.version = latter.version
  candidates : ∀ candidate, scheme.verify candidate former.passwordHash = .ok true ↔
    scheme.verify candidate latter.passwordHash = .ok true

theorem Account.Alike.refl (account : Account) : account.Alike scheme account :=
  ⟨rfl, rfl, rfl, rfl, rfl, rfl, fun _ => Iff.rfl⟩

/-- Two callers that are both nobody in particular, or holders of accounts that are alike. -/
inductive Identity.Alike (scheme : PasswordScheme) : Identity → Identity → Prop
  | anonymous : Identity.Alike scheme .anonymous .anonymous
  | known {former latter : Account} (alike : former.Alike scheme latter) :
      Identity.Alike scheme (.known former) (.known latter)

theorem Identity.Alike.require {former latter : Identity} (alike : former.Alike scheme latter) :
    ResultsAlike (Account.Alike scheme) former.require latter.require := by
  cases alike with
  | anonymous => exact .error _
  | known alike => exact .ok alike

theorem Identity.Alike.owner {former latter : Identity} (alike : former.Alike scheme latter)
    (username : String) :
    ResultsAlike (Account.Alike scheme) (former.owner username) (latter.owner username) := by
  cases alike with
  | anonymous => exact .error _
  | known alike =>
      simp only [Identity.owner, Identity.require, alike.username]
      split
      · exact .ok alike
      · exact .error _

/-! ## Tables -/

/-- Two states of the store that differ in stored passwords at most, where the same candidates
match the same accounts. -/
structure Tables.Alike (scheme : PasswordScheme) (former latter : Tables) : Prop where
  accounts : List.Forall₂ (Account.Alike scheme) former.accounts latter.accounts
  tokens : former.tokens = latter.tokens
  permissionCodes : former.permissionCodes = latter.permissionCodes
  grants : former.grants = latter.grants
  lastAccountId : former.lastAccountId = latter.lastAccountId

/-- Two databases that are both open or both closed, and differ in stored passwords at most. -/
structure Database.Alike (scheme : PasswordScheme) (former latter : Database) : Prop where
  tables : former.tables.Alike scheme latter.tables
  isOpen : former.isOpen = latter.isOpen

theorem Database.Alike.connect {former latter : Database} (alike : former.Alike scheme latter) :
    ResultsAlike (Tables.Alike scheme) former.connect latter.connect := by
  unfold Database.connect
  rw [alike.isOpen]
  split
  · exact .ok alike.tables
  · exact .error _

/-! ## Searching -/

section Searching

variable {former latter : List Account} {test test' : Account → Bool}

/-- A search by anything but the password finds accounts that are alike. -/
theorem find?_alike (alike : List.Forall₂ (Account.Alike scheme) former latter)
    (sameTest : ∀ a b, Account.Alike scheme a b → test a = test' b) :
    Option.Rel (Account.Alike scheme) (former.find? test) (latter.find? test') := by
  induction alike with
  | nil => exact .none
  | @cons a b rest rest' here others ih =>
      rw [List.find?_cons, List.find?_cons, sameTest a b here]
      cases test' b with
      | true => exact .some here
      | false => exact ih

theorem any_alike (alike : List.Forall₂ (Account.Alike scheme) former latter)
    (sameTest : ∀ a b, Account.Alike scheme a b → test a = test' b) :
    former.any test = latter.any test' := by
  induction alike with
  | nil => rfl
  | cons here others ih => rw [List.any_cons, List.any_cons, sameTest _ _ here, ih]

theorem filter_alike (alike : List.Forall₂ (Account.Alike scheme) former latter)
    (sameTest : ∀ a b, Account.Alike scheme a b → test a = test' b) :
    List.Forall₂ (Account.Alike scheme) (former.filter test) (latter.filter test') := by
  apply List.rel_filter _ alike
  intro a b here
  simp only [sameTest a b here]

end Searching

/-- Whether a name or an address is taken does not depend on passwords. -/
theorem Tables.takenFault?_alike {others others' : List Account}
    (alike : List.Forall₂ (Account.Alike scheme) others others') (username email : String) :
    Tables.takenFault? others username email = Tables.takenFault? others' username email := by
  have sameAddresses : others.any (fun other => sameAddress other.email email) =
      others'.any fun other => sameAddress other.email email := by
    apply any_alike alike
    intro a b here
    rw [here.email]
  have sameNames : others.any (fun other => other.username == username) =
      others'.any fun other => other.username == username := by
    apply any_alike alike
    intro a b here
    rw [here.username]
  unfold Tables.takenFault?
  rw [sameAddresses, sameNames]

namespace Tables.Alike

variable {former latter : Tables}

theorem account? (alike : former.Alike scheme latter) {id id' : Int} (sameId : id = id') :
    Option.Rel (Account.Alike scheme) (former.account? id) (latter.account? id') := by
  apply find?_alike alike.accounts
  intro a b here
  rw [here.id, sameId]

theorem accountNamed? (alike : former.Alike scheme latter) (username : String) :
    Option.Rel (Account.Alike scheme) (former.accountNamed? username)
      (latter.accountNamed? username) := by
  apply find?_alike alike.accounts
  intro a b here
  rw [here.username]

theorem accountAt? (alike : former.Alike scheme latter) (email : String) :
    Option.Rel (Account.Alike scheme) (former.accountAt? email) (latter.accountAt? email) := by
  apply find?_alike alike.accounts
  intro a b here
  rw [here.email]

theorem accountByToken? (alike : former.Alike scheme latter) (scope : Scope)
    (digest : List UInt8) (now : Instant) :
    Option.Rel (Account.Alike scheme) (former.accountByToken? scope digest now)
      (latter.accountByToken? scope digest now) := by
  unfold Tables.accountByToken?
  rw [alike.tokens]
  cases latter.tokens.find? _ with
  | none => exact .none
  | some row => exact alike.account? rfl

theorem hasAccount (alike : former.Alike scheme latter) (id : Int) :
    former.hasAccount id = latter.hasAccount id := by
  have found := alike.account? (rfl : id = id)
  unfold Tables.hasAccount
  generalize former.account? id = stored at found
  generalize latter.account? id = stored' at found
  cases found <;> rfl

theorem permissionsOf (alike : former.Alike scheme latter) (id : Int) :
    former.permissionsOf id = latter.permissionsOf id := by
  unfold Tables.permissionsOf Tables.heldCodes
  rw [alike.grants]

/-! ## Writing -/

/-- What a write to one of two states gives is like what it gives on the other. -/
abbrev Written {α β : Type} (scheme : PasswordScheme) (related : α → β → Prop) :
    Except Fault (α × Tables) → Except Fault (β × Tables) → Prop :=
  ResultsAlike fun written written' =>
    related written.1 written'.1 ∧ written.2.Alike scheme written'.2

theorem createAccount (alike : former.Alike scheme latter) (now : Instant) (new : NewAccount) :
    Written scheme (Account.Alike scheme) (former.createAccount now new)
      (latter.createAccount now new) := by
  unfold Tables.createAccount
  rw [takenFault?_alike alike.accounts]
  cases Tables.takenFault? latter.accounts new.username new.email with
  | some fault => exact .error fault
  | none =>
      have sameNext : former.nextAccount now new = latter.nextAccount now new := by
        unfold Tables.nextAccount
        rw [alike.lastAccountId]
      refine .ok ⟨sameNext ▸ .refl _, ?_⟩
      rw [sameNext]
      exact ⟨List.rel_append alike.accounts (.cons (.refl _) .nil), alike.tokens,
        alike.permissionCodes, alike.grants, rfl⟩

theorem isSource {changed changed' stored stored' : Account}
    (changes : changed.Alike scheme changed') (rows : stored.Alike scheme stored') :
    Tables.isSource changed stored = Tables.isSource changed' stored' := by
  unfold Tables.isSource
  rw [rows.id, rows.version, changes.id, changes.version]

theorem applyChange {changed changed' stored stored' : Account}
    (changes : changed.Alike scheme changed') (rows : stored.Alike scheme stored') :
    (Tables.applyChange stored changed).Alike scheme (Tables.applyChange stored' changed') where
  id := rows.id
  createdAt := rows.createdAt
  username := changes.username
  email := changes.email
  isActivated := changes.isActivated
  version := congrArg (· + 1) rows.version
  candidates := changes.candidates

theorem withChange (alike : former.Alike scheme latter) {changed changed' : Account}
    (changes : changed.Alike scheme changed') :
    (former.withChange changed).Alike scheme (latter.withChange changed') where
  accounts := by
    apply List.rel_map _ alike.accounts
    intro stored stored' rows
    dsimp only
    rw [isSource changes rows]
    split
    · exact applyChange changes rows
    · exact rows
  tokens := alike.tokens
  permissionCodes := alike.permissionCodes
  grants := alike.grants
  lastAccountId := alike.lastAccountId

theorem updateAccount (alike : former.Alike scheme latter) {changed changed' : Account}
    (changes : changed.Alike scheme changed') :
    Written scheme (Account.Alike scheme) (former.updateAccount changed)
      (latter.updateAccount changed') := by
  have found : Option.Rel (Account.Alike scheme)
      (former.accounts.find? (Tables.isSource changed))
      (latter.accounts.find? (Tables.isSource changed')) :=
    find?_alike alike.accounts fun _ _ rows => isSource changes rows
  have others : List.Forall₂ (Account.Alike scheme) (former.othersThan changed.id)
      (latter.othersThan changed'.id) := by
    apply filter_alike alike.accounts
    intro a b here
    rw [here.id, changes.id]
  unfold Tables.updateAccount Tables.writeBack Tables.updateRow
  rw [takenFault?_alike others, changes.username, changes.email]
  generalize former.accounts.find? (Tables.isSource changed) = stored at found
  generalize latter.accounts.find? (Tables.isSource changed') = stored' at found
  cases found with
  | none => exact .error _
  | some rows =>
      dsimp only
      cases Tables.takenFault? (latter.othersThan changed'.id) changed'.username
          changed'.email with
      | some fault => exact .error fault
      | none =>
          refine .ok ⟨?_, alike.withChange changes⟩
          exact ⟨changes.id, changes.createdAt, rfl, rfl, changes.isActivated,
            congrArg (· + 1) rows.version, changes.candidates⟩

theorem grantOne (alike : former.Alike scheme latter) (id : Int) (permission : Permission) :
    ResultsAlike (Tables.Alike scheme) (former.grantOne id permission)
      (latter.grantOne id permission) := by
  unfold Tables.grantOne
  rw [alike.permissionCodes, alike.grants, alike.hasAccount]
  dsimp only
  split
  · exact .ok alike
  · split
    · exact .ok alike
    · split
      · exact .error _
      · refine .ok { alike with grants := ?_ }
        exact congrArg (· ++ [(id, permission.code)]) alike.grants

theorem withoutToken (alike : former.Alike scheme latter) (id : Int) (scope : Scope) :
    (former.withoutToken id scope).Alike scheme (latter.withoutToken id scope) where
  accounts := alike.accounts
  tokens := congrArg (List.filter _) alike.tokens
  permissionCodes := alike.permissionCodes
  grants := alike.grants
  lastAccountId := alike.lastAccountId

theorem insertToken (alike : former.Alike scheme latter) (token : Token) :
    ResultsAlike (Tables.Alike scheme) (former.insertToken token) (latter.insertToken token) := by
  unfold Tables.insertToken Tables.insertTokenRow Tables.tokenIsTaken
  dsimp only
  rw [alike.tokens, alike.hasAccount]
  split
  · exact .error _
  · split
    · exact .error _
    · refine .ok { alike with tokens := ?_ }
      exact congrArg (· ++ [Tables.rowOfToken token]) alike.tokens

end Tables.Alike

end Gatehouse
