import Gatehouse.Proofs.History.Addresses
import Gatehouse.Proofs.History.Versions

/-!
# What is stored fits together

The constraints of the tables, read off the rows.  Whatever has been asked of the service and of its
store, accounts differ in id, in name and in address even if case is left aside, tokens differ in
digest and in place, nothing belongs to an account that is not there, and no id has been given out
twice (`Run.storage_is_consistent`).

A lookup is therefore exact.  Addresses are compared by `sameAddress`, which looks no further than a
null character; on an address without one it is equality up to case
(`sameAddress_iff_sameUpToCase`).
-/

namespace Gatehouse

set_option autoImplicit false

namespace Tables

/-! ## Addresses in lower case -/

theorem utf8Size_toLower (c : Char) : c.toLower.utf8Size = c.utf8Size := by
  unfold Char.toLower
  split
  next isUpper =>
    have least : 65 ≤ c.val := isUpper.1
    have greatest : c.val ≤ 90 := isUpper.2
    rw [Char.utf8Size_eq_one_iff.2, Char.utf8Size_eq_one_iff.2]
    · exact UInt32.le_trans greatest (by decide)
    · change c.val + 32 ≤ 127
      simp only [UInt32.le_iff_toNat_le, UInt32.toNat_add, UInt32.reduceToNat] at least greatest ⊢
      omega
  next => rfl

theorem utf8ByteSize_map_toLower (cs : List Char) :
    (String.ofList (cs.map Char.toLower)).utf8ByteSize = (String.ofList cs).utf8ByteSize := by
  induction cs with
  | nil => rfl
  | cons c cs ih =>
      rw [List.map_cons, String.ofList_cons, String.ofList_cons, String.utf8ByteSize_append,
        String.utf8ByteSize_append, String.utf8ByteSize_singleton, String.utf8ByteSize_singleton,
        utf8Size_toLower, ih]

/-- Texts that are equal up to case count as one address, also if they hold null characters. -/
theorem sameAddressChars_of_map_eq {cs ds : List Char}
    (same : cs.map Char.toLower = ds.map Char.toLower) : sameAddressChars cs ds = true := by
  induction cs generalizing ds with
  | nil =>
      rw [List.map_nil, eq_comm, List.map_eq_nil_iff] at same
      rw [same]
      rfl
  | cons c cs ih =>
      cases ds with
      | nil => cases same
      | cons d ds =>
          obtain ⟨sameHead, sameTail⟩ := List.cons.inj same
          have sizes : (String.ofList cs).utf8ByteSize = (String.ofList ds).utf8ByteSize := by
            rw [← utf8ByteSize_map_toLower cs, sameTail, utf8ByteSize_map_toLower]
          simp [sameAddressChars, sameHead, sizes, ih sameTail]

/-- Behind a null character the letters no longer count, so that the other direction needs an
address that holds none. -/
theorem map_eq_of_sameAddressChars {cs ds : List Char} (noNull : '\x00' ∉ ds)
    (same : sameAddressChars cs ds = true) : cs.map Char.toLower = ds.map Char.toLower := by
  induction cs generalizing ds with
  | nil =>
      cases ds with
      | nil => rfl
      | cons d ds => cases same
  | cons c cs ih =>
      cases ds with
      | nil => cases same
      | cons d ds =>
          rw [List.mem_cons, not_or] at noNull
          unfold sameAddressChars at same
          split at same
          next sameHead =>
            have sameHead := beq_iff_eq.1 sameHead
            have notNull : c ≠ '\x00' := by
              rintro rfl
              exact noNull.1 (toLower_eq_null.1 sameHead.symm).symm
            rw [if_neg (by simpa using notNull)] at same
            rw [List.map_cons, List.map_cons, sameHead, ih noNull.2 same]
          next => cases same

theorem sameAddress_of_sameUpToCase {former latter : String}
    (same : Service.sameUpToCase former latter = true) : sameAddress former latter = true := by
  refine sameAddressChars_of_map_eq ?_
  rw [← String.toList_map, ← String.toList_map, Service.sameUpToCase_iff.1 same]

theorem sameAddress_iff_sameUpToCase {former latter : String} (noNull : '\x00' ∉ latter.toList) :
    sameAddress former latter = true ↔ Service.sameUpToCase former latter = true := by
  refine ⟨fun same => Service.sameUpToCase_iff.2 (String.toList_inj.1 ?_),
    sameAddress_of_sameUpToCase⟩
  rw [String.toList_map, String.toList_map]
  exact map_eq_of_sameAddressChars noNull same

/-! ## Consistent rows -/

/-- The constraints that the stored rows meet at all times. -/
structure Consistent (tables : Tables) : Prop where
  ids : (tables.accounts.map Account.id).Nodup
  /-- Names differ as texts, so two names may differ in case alone. -/
  usernames : (tables.accounts.map Account.username).Nodup
  /-- Addresses differ even in lower case. -/
  addresses : (tables.accounts.map fun account => account.email.map Char.toLower).Nodup
  versions : ∀ account ∈ tables.accounts, 1 ≤ account.version
  /-- An account has at most one token in a scope. -/
  places : (tables.tokens.map fun row => (row.accountId, row.scope)).Nodup
  digests : (tables.tokens.map TokenRow.digest).Nodup
  owners : ∀ row ∈ tables.tokens, ∃ owner ∈ tables.accounts, owner.id = row.accountId
  holders : ∀ grant ∈ tables.grants, ∃ holder ∈ tables.accounts, holder.id = grant.1
  grants : tables.grants.Nodup

variable {tables : Tables}

theorem Sound.consistent (sound : tables.Sound) : tables.Consistent where
  ids := List.pairwise_map.2 (sound.accounts.imp Distinct.id)
  usernames := List.pairwise_map.2 (sound.accounts.imp Distinct.username)
  addresses := by
    refine List.pairwise_map.2 (sound.accounts.imp fun {former latter} distinct same => ?_)
    have isSame := sameAddress_of_sameUpToCase (Service.sameUpToCase_iff.2 same)
    cases isSame.symm.trans distinct.email
  versions := sound.versions
  places := by
    refine List.pairwise_map.2 (sound.tokens.imp fun apart same => apart.place ?_)
    exact Prod.mk.injEq .. ▸ same
  digests := List.pairwise_map.2 (sound.tokens.imp Apart.digest)
  owners := fun row isStored => hasAccount_iff.1 (sound.owners row isStored)
  holders := fun grant isStored => hasAccount_iff.1 (sound.holders grant isStored)
  grants := sound.grants

/-- Accounts that may not stand side by side are one account. -/
theorem Sound.eq_of_not_distinct (sound : tables.Sound) {former latter : Account}
    (isStored : former ∈ tables.accounts) (isStored' : latter ∈ tables.accounts)
    (alike : ¬Distinct former latter) : former = latter := by
  have unique : ∀ ⦃one⦄, one ∈ tables.accounts → ∀ ⦃other⦄, other ∈ tables.accounts →
      ¬Distinct one other → one = other :=
    List.Pairwise.forall_of_forall_of_flip (fun _ _ _ => rfl)
      (sound.accounts.imp fun distinct alike => absurd distinct alike)
      (sound.accounts.imp fun distinct alike => absurd distinct.symm alike)
  exact unique isStored isStored' alike

/-- A search finds the one account that matches if no two accounts match that may stand side by
side. -/
theorem Sound.find?_eq_some (sound : tables.Sound) {isSought : Account → Bool}
    (alike : ∀ former latter, isSought former = true → isSought latter = true →
      ¬Distinct former latter) {account : Account} :
    tables.accounts.find? isSought = some account ↔
      account ∈ tables.accounts ∧ isSought account = true := by
  constructor
  · intro search
    exact ⟨List.mem_of_find?_eq_some search, List.find?_some search⟩
  · rintro ⟨isStored, isMatch⟩
    cases search : tables.accounts.find? isSought with
    | none => exact absurd isMatch (List.find?_eq_none.1 search account isStored)
    | some found =>
        have isFound := List.mem_of_find?_eq_some search
        rw [sound.eq_of_not_distinct isFound isStored
          (alike found account (List.find?_some search) isMatch)]

theorem Sound.accountNamed?_eq_some (sound : tables.Sound) {username : String}
    {account : Account} : tables.accountNamed? username = some account ↔
      account ∈ tables.accounts ∧ account.username = username := by
  rw [accountNamed?, sound.find?_eq_some, beq_iff_eq]
  intro former latter isFormer isLatter distinct
  exact distinct.username ((beq_iff_eq.1 isFormer).trans (beq_iff_eq.1 isLatter).symm)

theorem Sound.accountAt?_eq_some (sound : tables.Sound) {email : String}
    (noNull : '\x00' ∉ email.toList) {account : Account} :
    tables.accountAt? email = some account ↔
      account ∈ tables.accounts ∧ Service.sameUpToCase account.email email = true := by
  rw [accountAt?, sound.find?_eq_some, sameAddress_iff_sameUpToCase noNull]
  intro former latter isFormer isLatter distinct
  -- the address asked for holds no null character, so both addresses are equal to it up to case
  have same := (Service.sameUpToCase_iff.1 ((sameAddress_iff_sameUpToCase noNull).1 isFormer)).trans
    (Service.sameUpToCase_iff.1 ((sameAddress_iff_sameUpToCase noNull).1 isLatter)).symm
  have isSame := sameAddress_of_sameUpToCase (Service.sameUpToCase_iff.2 same)
  cases isSame.symm.trans distinct.email

end Tables

/-! ## Lookups -/

/-- Whether the store answers a lookup with the one account that matches, if there is one, and with
nothing otherwise, and is left as it is. -/
structure Database.FindsExactly (scheme : PasswordScheme) (database : Database) : Prop where
  byId : ∀ moment id, ∃ found,
    (Action.accountById id).perform scheme moment database = ⟨.ok (.lookup found), database, []⟩ ∧
      ∀ account, found = some account ↔ account ∈ database.tables.accounts ∧ account.id = id
  byName : ∀ moment username, ∃ found,
    (Action.accountNamed username).perform scheme moment database =
        ⟨.ok (.lookup found), database, []⟩ ∧
      ∀ account, found = some account ↔
        account ∈ database.tables.accounts ∧ account.username = username
  byAddress : ∀ moment email, '\x00' ∉ email.toList → ∃ found,
    (Action.accountAt email).perform scheme moment database = ⟨.ok (.lookup found), database, []⟩ ∧
      ∀ account, found = some account ↔
        account ∈ database.tables.accounts ∧ Service.sameUpToCase account.email email = true

/-- A use of an open store that only looks is answered with what it finds. -/
theorem Workflow.ofWorkflow_connected {moment : Moment} {database : Database}
    {statements : Workflow Answer} {answer : Answer} (isOpen : database.isOpen = true)
    (runs : statements.runFrom (Progress.start moment database).used =
      (.ok answer, (Progress.start moment database).used.used)) :
    Outcome.ofWorkflow moment database (connected statements) = ⟨.ok answer, database, []⟩ :=
  ofWorkflow_connected_of_isOpen isOpen runs

theorem Tables.Sound.findsExactly {database : Database} (sound : database.tables.Sound)
    (isOpen : database.isOpen = true) (scheme : PasswordScheme) :
    database.FindsExactly scheme where
  byId _ _ := ⟨_, Workflow.ofWorkflow_connected isOpen rfl, fun _ => sound.account?_eq_some⟩
  byName _ _ := ⟨_, Workflow.ofWorkflow_connected isOpen rfl, fun _ => sound.accountNamed?_eq_some⟩
  byAddress _ _ noNull :=
    ⟨_, Workflow.ofWorkflow_connected isOpen rfl, fun _ => sound.accountAt?_eq_some noNull⟩

/-! ## Ids -/

/-- Whether the stored accounts have the ids that they had, and after them that of an account which
has been created with the next id. -/
structure Tables.AppendsId (before after : Tables) (created : Option Int) : Prop where
  ids : after.accounts.map Account.id = before.accounts.map Account.id ++ created.toList
  isNext : ∀ id ∈ created, id = before.lastAccountId + 1

variable {before after : Tables}

theorem Tables.appendsId_none (sameAccounts : after.accounts = before.accounts) :
    before.AppendsId after none :=
  ⟨by simp [sameAccounts], nofun⟩

theorem Tables.appendsId_next {now : Instant} {new : NewAccount}
    (isAdded : after.accounts = (before.withAccount (before.nextAccount now new)).accounts) :
    before.AppendsId after (some (before.nextAccount now new).id) := by
  refine ⟨?_, ?_⟩
  · rw [isAdded, withAccount, List.map_append]
    rfl
  · intro id isCreated
    exact (Option.some.inj isCreated).symm

theorem Tables.appendsId_changed {changed : Account}
    (isWritten : after.accounts = (before.withChange changed).accounts) :
    before.AppendsId after none := by
  refine ⟨?_, nofun⟩
  rw [isWritten, withChange, List.map_map, Option.toList_none, List.append_nil]
  exact List.map_congr_left fun stored _ => id_rewritten changed stored

variable {scheme : PasswordScheme} {past : History scheme} {database : Database}

/-- An event that creates an account gives it the next id, and no other event changes an id. -/
theorem Event.appendsId (event : Event scheme) :
    event.before.tables.AppendsId event.after.tables event.created? := by
  obtain ⟨moment, action, database⟩ := event
  have leads := Action.leads scheme moment database action
  simp only [Event.created?, Event.answer?, Event.after, Event.outcome]
  generalize action.perform scheme moment database = outcome at leads
  cases leads with
  | failed =>
      split
      next succeeded => cases succeeded
      next succeeded => cases succeeded
      next => exact Tables.appendsId_none rfl
  | closed isClose =>
      subst isClose
      exact Tables.appendsId_none rfl
  | done effect =>
      cases effect with
      | call effect =>
          cases effect with
          | register _ _ _ isNext =>
              subst isNext
              exact Tables.appendsId_next (Tables.accounts_granted _ _)
          | activate => exact Tables.appendsId_changed (Tables.accounts_granted _ _)
          | updatePassword | updateInPlace | updateAddress => exact Tables.appendsId_changed rfl
          | _ => exact Tables.appendsId_none rfl
      | createAccount => exact Tables.appendsId_next rfl
      | updateAccount => exact Tables.appendsId_changed rfl
      | grant isGranted =>
          obtain ⟨_, rfl⟩ := Tables.exists_grants_of_grant isGranted
          exact Tables.appendsId_none rfl
      | _ => exact Tables.appendsId_none rfl

theorem History.created_concat (past : History scheme) (event : Event scheme) :
    (past ++ [event]).created = past.created ++ event.created?.toList := by
  rw [created, List.filterMap_append]
  cases isCreated : event.created? <;> simp [created, isCreated]

/-- The stored accounts are those that the run has created, and each has a greater id than those
before it. -/
theorem Run.ids_eq_created {admits : History scheme → Action → Prop}
    (run : Run scheme admits past database) :
    database.tables.accounts.map Account.id = past.created ∧ past.created.Pairwise (· < ·) := by
  induction run with
  | start => exact ⟨rfl, .nil⟩
  | @step past database run moment action admitted ih =>
      obtain ⟨ids, ascending⟩ := ih
      obtain ⟨idsAfter, isNext⟩ := Event.appendsId (⟨moment, action, database⟩ : Event scheme)
      rw [History.created_concat]
      refine ⟨idsAfter.trans (congrArg (· ++ _) ids), List.pairwise_append.2 ⟨ascending, ?_, ?_⟩⟩
      · cases Event.created? (⟨moment, action, database⟩ : Event scheme) with
        | none => exact .nil
        | some id => exact List.pairwise_singleton _ _
      · intro former isFormer latter isLatter
        rw [← ids] at isFormer
        obtain ⟨account, isStored, rfl⟩ := List.mem_map.1 isFormer
        have bound := run.sound.ids account isStored
        have next : latter = database.tables.lastAccountId + 1 :=
          isNext latter (Option.mem_toList.1 isLatter)
        omega

/-- **What is stored fits together.**  After any run of calls of the service and of uses of the
store, with any arguments: the stored rows meet the constraints, a lookup in the open store gives
the one account that matches and nothing otherwise, and the stored accounts have the ids that the
run has given out, each greater than all before it, so that none is ever given out again. -/
theorem Run.storage_is_consistent {admits : History scheme → Action → Prop}
    (run : Run scheme admits past database) :
    database.tables.Consistent ∧
      (database.isOpen = true → database.FindsExactly scheme) ∧
      database.tables.accounts.map Account.id = past.created ∧ past.created.Pairwise (· < ·) :=
  ⟨run.sound.consistent, fun isOpen => run.sound.findsExactly isOpen scheme, run.ids_eq_created⟩

/-- Nobody else gets an account with the same address in another case. -/
def refusedCreation : Event .argon2id :=
  ⟨.idle, .createAccount ⟨"Alice", "ALICE@example.com", "stored"⟩, creation.after⟩

/-- A name in another case is another name. -/
def namesakeCreation : Event .argon2id :=
  ⟨.idle, .createAccount ⟨"Alice", "bob@example.com", "stored"⟩, refusedCreation.after⟩

/-- The account whose name is that of the first one in another case. -/
def namesake : Account :=
  ⟨2, ⟨0⟩, "Alice", "bob@example.com", "stored", false, 1⟩

/-- Of two accounts whose names differ in case each is found by its own name, and by its address in
any case; the account that was refused has used up no id. -/
theorem namesakes_are_found_apart :
    Run .argon2id (fun _ _ => True) [creation, refusedCreation, namesakeCreation]
        namesakeCreation.after ∧
      refusedCreation.answer? = none ∧
      namesakeCreation.after.tables.accounts.map Account.id = [1, 2] ∧
      (Action.accountNamed "Alice").perform .argon2id .idle namesakeCreation.after =
        ⟨.ok (.lookup (some namesake)), namesakeCreation.after, []⟩ ∧
      (Action.accountAt "Alice@Example.com").perform .argon2id .idle namesakeCreation.after =
        ⟨.ok (.lookup (some firstCopy)), namesakeCreation.after, []⟩ := by
  have run : Run .argon2id (fun _ _ => True) [creation, refusedCreation, namesakeCreation]
      namesakeCreation.after :=
    .step (.step (.step .start .idle _ trivial) .idle _ trivial) .idle _ trivial
  obtain ⟨-, finds, ids, -⟩ := Run.storage_is_consistent run
  have created : History.created [creation, refusedCreation, namesakeCreation] = [1, 2] := by
    decide
  obtain ⟨named, isNamed, byName⟩ := (finds rfl).byName .idle "Alice"
  obtain ⟨addressed, isAt, byAddress⟩ :=
    (finds rfl).byAddress .idle "Alice@Example.com" (by decide)
  have sameUpToCase : Service.sameUpToCase firstCopy.email "Alice@Example.com" = true := by
    rw [Service.sameUpToCase_iff, ← String.toList_inj, String.toList_map, String.toList_map]
    decide
  refine ⟨run, by decide, ids.trans created, ?_, ?_⟩
  · rw [isNamed, (byName namesake).2 (by decide)]
  · rw [isAt, (byAddress firstCopy).2 ⟨by decide, sameUpToCase⟩]

end Gatehouse
