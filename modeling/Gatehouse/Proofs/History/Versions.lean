import Gatehouse.Proofs.History.Copies

/-!
# No update is lost

The version of an account counts its changes, and a change is written back only while the version
of the copy is still that of the row.  So the id and the version of a copy stand for one content
for good: a caller whose copy can be written back has seen all that its change replaces
(`Run.no_update_is_lost`).

Writing back is decided by the rows alone (`Tables.WritesBack`).  A copy that is out of date is
refused before anything else is looked at; a name or an address that somebody else has is refused
next, the address first; and otherwise exactly the row of the copy is changed.
-/

namespace Gatehouse

set_option autoImplicit false

/-! ## Writing back -/

/-- Whether somebody else has the address of a changed copy. -/
def Tables.AddressIsTaken (tables : Tables) (changed : Account) : Prop :=
  ∃ other ∈ tables.accounts, other.id ≠ changed.id ∧ sameAddress other.email changed.email = true

/-- Whether somebody else has the name of a changed copy. -/
def Tables.NameIsTaken (tables : Tables) (changed : Account) : Prop :=
  ∃ other ∈ tables.accounts, other.id ≠ changed.id ∧ other.username = changed.username

/-- What writing a changed copy of an account back leads to. -/
structure Tables.WritesBack (tables : Tables) (changed : Account) : Prop where
  /-- A copy that is out of date is refused, also if its name or its address is taken. -/
  stale : (∀ stored ∈ tables.accounts, stored.id = changed.id → stored.version ≠ changed.version) →
    tables.writeBack changed = (.error .notFound, changed, tables)
  /-- An address that somebody else has is refused. -/
  addressTaken : ∀ stored ∈ tables.accounts, stored.id = changed.id →
    stored.version = changed.version → tables.AddressIsTaken changed →
      tables.writeBack changed = (.error emailTaken, changed, tables)
  /-- A name that somebody else has is refused. -/
  nameTaken : ∀ stored ∈ tables.accounts, stored.id = changed.id →
    stored.version = changed.version → ¬tables.AddressIsTaken changed →
      tables.NameIsTaken changed →
        tables.writeBack changed = (.error usernameTaken, changed, tables)
  /-- Otherwise the row takes what the copy may change and gets the next version, as the copy does,
  and all else stays. -/
  written : ∀ stored ∈ tables.accounts, stored.id = changed.id →
    stored.version = changed.version → ¬tables.AddressIsTaken changed →
      ¬tables.NameIsTaken changed →
        ∃ after, tables.writeBack changed =
            (.ok (), { changed with version := changed.version + 1 }, after) ∧
          after = { tables with accounts := after.accounts } ∧
          ∀ account, account ∈ after.accounts ↔
            (account ∈ tables.accounts ∧ account.id ≠ changed.id) ∨
              account = { stored with
                username := changed.username, email := changed.email
                passwordHash := changed.passwordHash, isActivated := changed.isActivated
                version := changed.version + 1 }

namespace Tables

variable {tables : Tables} {changed : Account}

theorem mem_othersThan {id : Int} {other : Account} :
    other ∈ tables.othersThan id ↔ other ∈ tables.accounts ∧ other.id ≠ id := by
  simp [othersThan]

theorem takenFault?_of_addressIsTaken (isTaken : tables.AddressIsTaken changed) :
    takenFault? (tables.othersThan changed.id) changed.username changed.email =
      some emailTaken := by
  obtain ⟨other, isStored, notOwn, same⟩ := isTaken
  have found : ((tables.othersThan changed.id).any fun other =>
      sameAddress other.email changed.email) = true :=
    List.any_eq_true.2 ⟨other, mem_othersThan.2 ⟨isStored, notOwn⟩, same⟩
  rw [takenFault?, if_pos found]

theorem takenFault?_of_nameIsTaken (isFree : ¬tables.AddressIsTaken changed)
    (isTaken : tables.NameIsTaken changed) :
    takenFault? (tables.othersThan changed.id) changed.username changed.email =
      some usernameTaken := by
  obtain ⟨other, isStored, notOwn, same⟩ := isTaken
  have missed : ¬((tables.othersThan changed.id).any fun other =>
      sameAddress other.email changed.email) = true := by
    intro found
    obtain ⟨another, isOther, sameAddress⟩ := List.any_eq_true.1 found
    obtain ⟨isStored', notOwn'⟩ := mem_othersThan.1 isOther
    exact isFree ⟨another, isStored', notOwn', sameAddress⟩
  have found : ((tables.othersThan changed.id).any fun other =>
      other.username == changed.username) = true :=
    List.any_eq_true.2 ⟨other, mem_othersThan.2 ⟨isStored, notOwn⟩, by simp [same]⟩
  rw [takenFault?, if_neg missed, if_pos found]

theorem takenFault?_of_free (isFree : ¬tables.AddressIsTaken changed)
    (isFree' : ¬tables.NameIsTaken changed) :
    takenFault? (tables.othersThan changed.id) changed.username changed.email = none := by
  refine takenFault?_eq_none.2 fun other isOther => ?_
  obtain ⟨isStored, notOwn⟩ := mem_othersThan.1 isOther
  constructor
  · rw [← Bool.not_eq_true]
    exact fun same => isFree ⟨other, isStored, notOwn, same⟩
  · exact fun same => isFree' ⟨other, isStored, notOwn, same⟩

/-- On sound tables writing back does what it should. -/
theorem Sound.writesBack (sound : tables.Sound) (changed : Account) :
    tables.WritesBack changed where
  stale := writeBack_of_stale
  addressTaken stored isStored sameId sameVersion isTaken :=
    writeBack_of_taken isStored sameId sameVersion (takenFault?_of_addressIsTaken isTaken)
  nameTaken stored isStored sameId sameVersion isFree isTaken :=
    writeBack_of_taken isStored sameId sameVersion (takenFault?_of_nameIsTaken isFree isTaken)
  written stored isStored sameId sameVersion isFree isFree' := by
    have accepts : tables.Accepts changed :=
      ⟨⟨stored, isStored, sameId, sameVersion⟩, takenFault?_of_free isFree isFree'⟩
    refine ⟨tables.withChange changed, writeBack_of_accepts accepts, rfl, fun account => ?_⟩
    rw [sound.mem_withChange_iff isStored sameId sameVersion, applyChange, sameVersion]

end Tables

/-! ## Counting changes -/

variable {scheme : PasswordScheme} {past : History scheme} {database : Database}

theorem History.updates_concat (past : History scheme) (event : Event scheme) (id : Int) :
    (past ++ [event]).updates id =
      past.updates id + if event.updated? = some id then 1 else 0 := by
  simp [History.updates, List.countP_append, List.countP_singleton]

/-- Whether each version counts the changes of its account, and none are counted of an account that
is still to come. -/
structure History.CountsVersions (past : History scheme) (tables : Tables) : Prop where
  stored : ∀ stored ∈ tables.accounts, stored.version = 1 + past.updates stored.id
  later : ∀ id, tables.lastAccountId < id → past.updates id = 0

/-- One more event is counted for the account that it changes. -/
theorem History.CountsVersions.step {event : Event scheme}
    (counts : past.CountsVersions event.before.tables) (sound : event.before.tables.Sound) :
    (past ++ [event]).CountsVersions event.after.tables := by
  have step := event.accountsStep
  have counted := past.updates_concat event
  generalize event.updated? = updated at step counted
  cases step with
  | kept sameAccounts sameLast =>
      simp only [reduceCtorEq, if_false, Nat.add_zero] at counted
      constructor
      · intro stored isStored
        rw [counted]
        exact counts.stored stored (sameAccounts ▸ isStored)
      · intro id isLater
        rw [counted]
        exact counts.later id (sameLast ▸ isLater)
  | created now new isAdded isNext =>
      simp only [reduceCtorEq, if_false, Nat.add_zero] at counted
      constructor
      · intro stored isStored
        rw [counted]
        rw [isAdded, Tables.mem_withAccount] at isStored
        rcases isStored with isStored | rfl
        · exact counts.stored stored isStored
        · -- nothing that came before can have changed an account with the next id
          have none := counts.later (event.before.tables.lastAccountId + 1) (by omega)
          change (1 : Int) = 1 + (past.updates (event.before.tables.lastAccountId + 1) : Int)
          omega
      · intro id isLater
        rw [counted]
        exact counts.later id (by omega)
  | @changed changed id accepts isWritten sameLast sameId =>
      obtain ⟨source, isSource, sourceId, sourceVersion⟩ := accepts.source
      simp only [Option.some.injEq] at counted
      constructor
      · intro account isStored
        rw [isWritten, sound.mem_withChange_iff isSource sourceId sourceVersion] at isStored
        rcases isStored with ⟨isStored, notOwn⟩ | rfl
        · have other : ¬id = account.id := fun same => notOwn (same.symm.trans sameId.symm)
          rw [counted, if_neg other]
          exact counts.stored account isStored
        · have before := counts.stored source isSource
          have own : id = source.id := sameId.symm.trans sourceId.symm
          change source.version + 1 = 1 + ((past ++ [event]).updates source.id : Int)
          rw [counted, if_pos own]
          omega
      · intro other isLater
        have bound := sound.ids source isSource
        have different : ¬id = other := by omega
        rw [counted, if_neg different]
        exact counts.later other (sameLast ▸ isLater)

theorem Run.countsVersions {admits : History scheme → Action → Prop}
    (run : Run scheme admits past database) : past.CountsVersions database.tables := by
  induction run with
  | start => exact ⟨nofun, fun _ _ => rfl⟩
  | step run moment action admitted ih => exact ih.step run.sound

/-- **No update is lost.**  Take any run in which what is written back comes from copies that were
handed out.  If a stored account has the version of such a copy, or of one that writing back has
left to its caller, it has the content of the copy.  Writing back is decided by the rows as it
should be.  The version of each account is one more than the number of its changes.

A copy that is refused since somebody else has its name or its address is not among these: it is
left as the caller has made it, and with a version that may well be that of the row. -/
theorem Run.no_update_is_lost (run : Run scheme History.AdmitsEdits past database) :
    (∀ copy, past.Knows copy ∨ past.Leaves copy → ∀ stored ∈ database.tables.accounts,
      stored.id = copy.id → stored.version = copy.version → stored = copy) ∧
    (∀ changed, database.tables.WritesBack changed) ∧
    (∀ stored ∈ database.tables.accounts, stored.version = 1 + past.updates stored.id) := by
  refine ⟨?_, run.sound.writesBack, run.countsVersions.stored⟩
  intro copy isHeld stored isStored sameId sameVersion
  have remembers : database.tables.Remembers copy :=
    isHeld.elim (run.remembers copy) (run.remembers_left copy)
  obtain ⟨remembered, isStored', sameId', -, -, sameContent⟩ := remembers
  obtain rfl := run.sound.eq_of_id_eq isStored isStored' (sameId.trans sameId'.symm)
  exact sameContent sameVersion

/-- A copy as it is handed out when an account is created. -/
def firstCopy : Account :=
  ⟨1, ⟨0⟩, "alice", "alice@example.com", "stored", false, 1⟩

/-- An account is created. -/
def creation : Event .argon2id :=
  ⟨.idle, .createAccount ⟨"alice", "alice@example.com", "stored"⟩, .fresh⟩

/-- The first copy of the account is written back with another address. -/
def changeOfAddress : Event .argon2id :=
  ⟨.idle, .updateAccount { firstCopy with email := "new@example.com" }, creation.after⟩

/-- After one change of an account its first copy is refused, and the account has version 2. -/
theorem first_copy_is_refused_after_change :
    Run .argon2id History.AdmitsEdits [creation, changeOfAddress] changeOfAddress.after ∧
      changeOfAddress.after.tables.writeBack firstCopy =
        (.error .notFound, firstCopy, changeOfAddress.after.tables) ∧
      ∀ stored ∈ changeOfAddress.after.tables.accounts, stored.version = 2 := by
  have isKnown : History.Knows [creation] firstCopy := ⟨creation, .head _, .head _⟩
  have run : Run .argon2id History.AdmitsEdits [creation, changeOfAddress]
      changeOfAddress.after :=
    .step (.step .start .idle _ trivial) .idle _ ⟨firstCopy, isKnown, rfl, rfl, rfl⟩
  have rows : changeOfAddress.after.tables.accounts =
      [⟨1, ⟨0⟩, "alice", "new@example.com", "stored", false, 2⟩] := by decide
  obtain ⟨-, writesBack, counted⟩ := Run.no_update_is_lost run
  refine ⟨run, (writesBack firstCopy).stale ?_, ?_⟩
  · rw [rows]
    decide
  · intro stored isStored
    have same := counted stored isStored
    rw [rows] at isStored
    obtain rfl := List.mem_singleton.1 isStored
    exact same

/-- A second account is created. -/
def secondCreation : Event .argon2id :=
  ⟨.idle, .createAccount ⟨"bob", "bob@example.com", "stored"⟩, creation.after⟩

/-- The first copy of the first account with the address of the second one. -/
def refusedEdit : Account :=
  { firstCopy with email := "bob@example.com" }

/-- The first account is to get the address of the second one. -/
def refusedChange : Event .argon2id :=
  ⟨.idle, .updateAccount refusedEdit, secondCreation.after⟩

/-- A change that is refused since the address is taken leaves the caller's copy with the version of
the row, which has not changed, and with another address. -/
theorem refused_edit_differs_from_row :
    Run .argon2id History.AdmitsEdits [creation, secondCreation, refusedChange]
        refusedChange.after ∧
      refusedChange.Leaves (.error Tables.emailTaken) refusedEdit ∧
        firstCopy ∈ refusedChange.after.tables.accounts ∧ firstCopy.id = refusedEdit.id ∧
          firstCopy.version = refusedEdit.version ∧ firstCopy ≠ refusedEdit := by
  have isKnown : History.Knows [creation, secondCreation] firstCopy :=
    ⟨creation, .head _, .head _⟩
  have run : Run .argon2id History.AdmitsEdits [creation, secondCreation, refusedChange]
      refusedChange.after :=
    .step (.step (.step .start .idle _ trivial) .idle _ trivial) .idle _
      ⟨firstCopy, isKnown, rfl, rfl, rfl⟩
  exact ⟨run, ⟨rfl, refusedEdit, _, rfl, rfl⟩, by decide, rfl, rfl, by decide⟩

end Gatehouse
