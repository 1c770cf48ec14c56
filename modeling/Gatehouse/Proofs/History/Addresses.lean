import Gatehouse.Proofs.History.Copies

/-!
# Changes of addresses

Whether a change of an account has a new address is decided by comparing the address that it asks
for with the one in the caller's copy.  A copy that can be written back is the stored account, so
this is the same as comparing what is stored before and after (`changesAddress_iff`).
-/

namespace Gatehouse

set_option autoImplicit false

/-! ## Equality up to case -/

namespace Service

theorem sameUpToCase_iff {former latter : String} :
    sameUpToCase former latter = true ↔ former.map Char.toLower = latter.map Char.toLower := by
  rw [sameUpToCase, beq_iff_eq]

theorem sameUpToCase_refl (text : String) : sameUpToCase text text = true :=
  sameUpToCase_iff.2 rfl

theorem sameUpToCase_trans {first second third : String} (former : sameUpToCase first second = true)
    (latter : sameUpToCase second third = true) : sameUpToCase first third = true :=
  sameUpToCase_iff.2 ((sameUpToCase_iff.1 former).trans (sameUpToCase_iff.1 latter))

theorem isNewAddress_iff {account : Account} {email : Option String} :
    isNewAddress account email = true ↔
      sameUpToCase account.email (withAddress account email).email = false := by
  cases email with
  | none => simp [isNewAddress, withAddress, sameUpToCase_refl]
  | some email =>
      rw [isNewAddress, Bool.not_eq_true', sameUpToCase, BEq.comm]
      rfl

end Service

/-! ## Stored addresses -/

variable {tables after : Tables}

/-- A copy that can be written back is the stored account. -/
theorem Tables.Remembers.mem_of_accepts {copy changed : Account} (remembers : tables.Remembers copy)
    (sound : tables.Sound) (accepts : tables.Accepts changed) (sameId : changed.id = copy.id)
    (sameVersion : changed.version = copy.version) : copy ∈ tables.accounts := by
  obtain ⟨stored, isStored, storedId, -, -, sameContent⟩ := remembers
  obtain ⟨source, isSource, sourceId, sourceVersion⟩ := accepts.source
  obtain rfl := sound.eq_of_id_eq isSource isStored
    ((sourceId.trans sameId).trans storedId.symm)
  exact sameContent (sourceVersion.trans sameVersion) ▸ isStored

theorem Tables.changesAddress_iff_of_stored {former latter : Account} {id : Int}
    (isFormer : tables.account? id = some former) (isLatter : after.account? id = some latter) :
    tables.ChangesAddress after id ↔ Service.sameUpToCase former.email latter.email = false := by
  constructor
  · rintro ⟨one, other, isOne, isOther, differ⟩
    obtain rfl := Option.some.inj (isFormer.symm.trans isOne)
    obtain rfl := Option.some.inj (isLatter.symm.trans isOther)
    exact differ
  · intro differ
    exact ⟨former, latter, isFormer, isLatter, differ⟩

/-- Tables with the same accounts find the same account. -/
theorem Tables.account?_congr (sameAccounts : after.accounts = tables.accounts) (id : Int) :
    after.account? id = tables.account? id := by
  rw [Tables.account?, Tables.account?, sameAccounts]

/-- The row of a copy that has been written back is the copy as it then stands. -/
theorem Tables.Sound.account?_withChange (sound : tables.Sound) {changed : Account}
    (accepts : tables.Accepts changed) (origin : tables.HasOrigin changed)
    (isWritten : after.accounts = (tables.withChange changed).accounts) :
    after.account? changed.id = some (advanced changed) := by
  rw [account?_congr isWritten]
  exact (sound.withChange accepts).account?_eq_some.2 ⟨sound.advanced_mem accepts origin, rfl⟩

namespace Service.SetsPassword

variable {scheme : PasswordScheme} {caller changed : Account} {email password : Option String}

theorem version_eq (isSet : SetsPassword scheme (withAddress caller email) changed password) :
    changed.version = caller.version := by
  rw [isSet.eq]
  rfl

theorem createdAt_eq (isSet : SetsPassword scheme (withAddress caller email) changed password) :
    changed.createdAt = caller.createdAt := by
  rw [isSet.eq]
  rfl

theorem email_eq (isSet : SetsPassword scheme (withAddress caller email) changed password) :
    changed.email = (withAddress caller email).email := by
  rw [isSet.eq]

theorem isActivated_eq
    (isSet : SetsPassword scheme (withAddress caller email) changed password) :
    changed.isActivated = (caller.isActivated && !isNewAddress caller email) := by
  rw [isSet.eq]
  rfl

/-- A change that can be written back comes from the account as it is stored. -/
theorem caller_mem (isSet : SetsPassword scheme (withAddress caller email) changed password)
    (sound : tables.Sound) (remembers : tables.Remembers caller)
    (accepts : tables.Accepts changed) : caller ∈ tables.accounts :=
  remembers.mem_of_accepts sound accepts isSet.id_eq isSet.version_eq

/-- A change of a caller's account changes the stored address in more than case if and only if the
address that it asks for is new to the caller. -/
theorem changesAddress_iff (isSet : SetsPassword scheme (withAddress caller email) changed password)
    (sound : tables.Sound) (remembers : tables.Remembers caller) (accepts : tables.Accepts changed)
    (after : Tables) (isWritten : after.accounts = (tables.withChange changed).accounts) :
    tables.ChangesAddress after caller.id ↔ isNewAddress caller email = true := by
  have isStored := isSet.caller_mem sound remembers accepts
  have origin : tables.HasOrigin changed :=
    ⟨caller, isStored, isSet.id_eq.symm, isSet.createdAt_eq.symm⟩
  have isFormer := sound.account?_eq_some.2 ⟨isStored, rfl⟩
  have isLatter := sound.account?_withChange accepts origin isWritten
  rw [isSet.id_eq] at isLatter
  rw [Tables.changesAddress_iff_of_stored isFormer isLatter, isNewAddress_iff, ← isSet.email_eq]
  rfl

end Service.SetsPassword

end Gatehouse
