import Gatehouse.Proofs.History.Activation
import Gatehouse.Proofs.History.Storage

/-!
# Grants form a union

Permissions are granted one statement after the other and without a transaction.  What an account
holds afterwards is nevertheless what it held before together with all that was granted to it, in
whatever order, however often and in however many requests (`grants_afterGrants`).  A permission that is
held already stays held, and a request for an account that does not exist writes nothing, since its
first statement is refused.

This rests on two facts about the database: its rows meet the constraints of the schema, so that
nobody holds a permission without an account, and the permissions that the service knows exist.  Both
hold of every database that a run reaches (`Run.isInOrder`), and granting keeps them.
-/

namespace Gatehouse

set_option autoImplicit false

theorem Permission.code_inj {former latter : Permission} :
    former.code = latter.code ↔ former = latter := by
  cases former <;> cases latter <;> decide

/-- Sets with the same permissions are equal. -/
theorem Permissions.eq_of_includes {former latter : Permissions}
    (same : ∀ permission, former.includes permission = true ↔ latter.includes permission = true) :
    former = latter := by
  have reads : former.readsUser = latter.readsUser := Bool.eq_iff_iff.2 (same .readUser)
  have writes : former.writesUser = latter.writesUser := Bool.eq_iff_iff.2 (same .writeUser)
  cases former
  cases latter
  cases reads
  cases writes
  rfl

/-! ## Granting in the tables -/

namespace Tables

variable {tables after : Tables} {id other : Int} {permission : Permission}

theorem includes_granted {granted : Permission} (isKnown : granted.code ∈ tables.permissionCodes) :
    ((tables.granted id granted).permissionsOf other).includes permission = true ↔
      (tables.permissionsOf other).includes permission = true ∨
        other = id ∧ permission = granted := by
  rw [includes_permissionsOf, includes_permissionsOf]
  by_cases isOwn : other = id
  · subst isOwn
    rw [holding_granted_self isKnown, Holding.mem_codes_granting, Permission.code_inj,
      and_iff_right rfl]
  · rw [holding_granted_of_ne isOwn]
    simp [isOwn]

/-- Granting adds the permissions in the list to those of the account, and to no others. -/
theorem includes_of_grant (areKnown : ∀ permission : Permission,
      permission.code ∈ tables.permissionCodes)
    {permissions : List Permission} (done : tables.grant id permissions = .ok after) :
    (after.permissionsOf other).includes permission = true ↔
      (tables.permissionsOf other).includes permission = true ∨
        other = id ∧ permission ∈ permissions := by
  induction permissions generalizing tables with
  | nil =>
      cases done
      simp
  | cons first rest ih =>
      rw [grant] at done
      split at done
      next => cases done
      next granted isGranted =>
        obtain rfl := eq_granted_of_grantOne isGranted
        rw [ih (fun permission => (permissionCodes_granted id first).symm ▸ areKnown permission) done,
          includes_granted (areKnown first), or_assoc, ← and_or_left, List.mem_cons]

/-- An account that is there is granted what is asked for. -/
theorem exists_grant (hasAccount : tables.hasAccount id = true) (permissions : List Permission) :
    ∃ after, tables.grant id permissions = .ok after := by
  cases done : tables.grant id permissions with
  | ok after => exact ⟨after, rfl⟩
  | error fault =>
      rw [hasAccount_of_grant_error done] at hasAccount
      cases hasAccount

/-- An account that is not there is refused the first permission that it would be granted. -/
theorem Sound.grant_eq_of_absent (sound : tables.Sound) (isAbsent : tables.hasAccount id = false)
    (areKnown : ∀ permission : Permission, permission.code ∈ tables.permissionCodes)
    (permissions : List Permission) :
    tables.grant id permissions =
      if permissions = [] then .ok tables else .error (constraintFault "grants") := by
  cases permissions with
  | nil => rfl
  | cons first rest =>
      have notHeld : (id, first.code) ∉ tables.grants := fun isHeld => by
        cases isAbsent.symm.trans (sound.holders _ isHeld)
      simp [Tables.grant, grantOne, areKnown first, notHeld, isAbsent]

end Tables

/-! ## Requests -/

/-- A request to grant permissions to an account, and the moment at which it is made. -/
structure GrantRequest where
  moment : Moment
  accountId : Int
  permissions : List Permission

/-- Whether requests ask for a permission of an account. -/
def AskFor (requests : List GrantRequest) (id : Int) (permission : Permission) : Prop :=
  ∃ request ∈ requests, request.accountId = id ∧ permission ∈ request.permissions

/-- What a request leads to. -/
def GrantRequest.outcome (scheme : PasswordScheme) (database : Database) (request : GrantRequest) :
    Outcome Answer :=
  (Action.grant request.accountId request.permissions).perform scheme request.moment database

namespace Database

/-- The database after requests that are made one after the other, whatever each comes to. -/
def afterGrants (scheme : PasswordScheme) (database : Database) (requests : List GrantRequest) :
    Database :=
  requests.foldl (fun database request => (request.outcome scheme database).database) database

/-- What is answered to whoever asks for the permissions of an account. -/
def answerPermissions (scheme : PasswordScheme) (moment : Moment) (database : Database) (id : Int) :
    Except Fault Answer :=
  ((Action.permissions id).perform scheme moment database).result

/-- Whether a database is open, its rows meet the constraints of the schema, and the permissions that
the service knows exist. -/
structure IsInOrder (database : Database) : Prop where
  isOpen : database.isOpen = true
  sound : database.tables.Sound
  areKnown : ∀ permission : Permission, permission.code ∈ database.tables.permissionCodes

end Database

/-- Whether the accounts of a database are granted what requests ask for, and nothing else. -/
structure Database.Grants (before : Database) (requests : List GrantRequest) (after : Database) :
    Prop where
  inOrder : after.IsInOrder
  sameAccounts : ∀ id, after.tables.hasAccount id = before.tables.hasAccount id
  includes_iff : ∀ id permission,
    (after.tables.permissionsOf id).includes permission = true ↔
      (before.tables.permissionsOf id).includes permission = true ∨
        before.tables.hasAccount id = true ∧ AskFor requests id permission

variable {scheme : PasswordScheme} {database : Database}

theorem askFor_nil {id : Int} {permission : Permission} : ¬AskFor [] id permission := by
  rintro ⟨request, isMember, -⟩
  cases isMember

theorem askFor_cons {request : GrantRequest} {requests : List GrantRequest} {id : Int}
    {permission : Permission} :
    AskFor (request :: requests) id permission ↔
      (request.accountId = id ∧ permission ∈ request.permissions) ∨
        AskFor requests id permission := by
  simp only [AskFor, List.mem_cons, or_and_right, exists_or, exists_eq_left]

/-- Every database that a run reaches is in order until it is closed. -/
theorem Run.isInOrder {admits : History scheme → Action → Prop} {past : History scheme}
    (run : Run scheme admits past database) (isOpen : database.isOpen = true) :
    database.IsInOrder :=
  ⟨isOpen, run.sound, run.permission_mem⟩

namespace Database.IsInOrder

variable (inOrder : database.IsInOrder)
include inOrder

/-- Whoever asks for the permissions of an account is told them. -/
theorem answerPermissions_eq (scheme : PasswordScheme) (moment : Moment) (id : Int) :
    database.answerPermissions scheme moment id =
      .ok (.permissions (database.tables.permissionsOf id)) := by
  have looks : ((Action.permissions id).perform scheme moment database) =
      ⟨.ok (.permissions (database.tables.permissionsOf id)), database, []⟩ :=
    Workflow.ofWorkflow_connected inOrder.isOpen rfl
  rw [answerPermissions, looks]

/-- A request leads to what its statements write together. -/
theorem outcome_eq (scheme : PasswordScheme) (request : GrantRequest) :
    request.outcome scheme database =
      match database.tables.grant request.accountId request.permissions with
      | .ok after => ⟨.ok .done, { database with tables := after }, []⟩
      | .error fault => ⟨.error fault, database, []⟩ := by
  obtain ⟨uses, granting⟩ := Action.runFrom_grant request.accountId request.permissions
    (Progress.start request.moment database).used
  have runs := Workflow.runFrom_bind_pure
    (Workflow.grant request.accountId request.permissions) (fun _ => Answer.done)
    (Progress.start request.moment database).used
  rw [granting] at runs
  refine (Workflow.ofWorkflow_connected_of_isOpen inOrder.isOpen runs).trans ?_
  rw [Progress.tables_used, Progress.tables_start]
  cases database.tables.grant request.accountId request.permissions with
  | ok after => rfl
  | error fault => rfl

/-- A request for an account that is there succeeds, and one for an account that is not there is
refused and changes nothing, unless it asks for nothing. -/
theorem outcome_cases (scheme : PasswordScheme) (request : GrantRequest) :
    (database.tables.hasAccount request.accountId = true ∧
      ∃ after, database.tables.grant request.accountId request.permissions = .ok after ∧
        request.outcome scheme database = ⟨.ok .done, { database with tables := after }, []⟩) ∨
    (database.tables.hasAccount request.accountId = false ∧
      request.outcome scheme database =
        ⟨if request.permissions = [] then .ok .done else .error (Tables.constraintFault "grants"),
          database, []⟩) := by
  rw [inOrder.outcome_eq]
  cases hasAccount : database.tables.hasAccount request.accountId with
  | true =>
      obtain ⟨after, done⟩ := Tables.exists_grant hasAccount request.permissions
      exact .inl ⟨rfl, after, done, by rw [done]⟩
  | false =>
      refine .inr ⟨rfl, ?_⟩
      rw [inOrder.sound.grant_eq_of_absent hasAccount inOrder.areKnown]
      by_cases isEmpty : request.permissions = [] <;> simp [isEmpty]

/-- **What one request does.** -/
theorem grants_outcome (scheme : PasswordScheme) (request : GrantRequest) :
    database.Grants [request] (request.outcome scheme database).database := by
  rcases inOrder.outcome_cases scheme request with
    ⟨hasAccount, after, done, isOutcome⟩ | ⟨isAbsent, isOutcome⟩
  · obtain ⟨grants, isAfter⟩ := Tables.exists_grants_of_grant done
    rw [isOutcome]
    constructor
    case inOrder =>
      refine ⟨inOrder.isOpen, inOrder.sound.grant done, fun permission => ?_⟩
      exact (Tables.permissionCodes_of_grant done).symm ▸ inOrder.areKnown permission
    case sameAccounts =>
      intro id
      rw [isAfter]
      rfl
    case includes_iff =>
      intro id permission
      rw [Tables.includes_of_grant inOrder.areKnown done, askFor_cons, or_iff_left askFor_nil]
      refine or_congr_right ⟨?_, ?_⟩
      · rintro ⟨rfl, isAsked⟩
        exact ⟨hasAccount, rfl, isAsked⟩
      · rintro ⟨-, rfl, isAsked⟩
        exact ⟨rfl, isAsked⟩
  · rw [isOutcome]
    refine ⟨inOrder, fun _ => rfl, fun id permission => (or_iff_left ?_).symm⟩
    rintro ⟨hasAccount, isAsked⟩
    rw [askFor_cons, or_iff_left askFor_nil] at isAsked
    rw [← isAsked.1, isAbsent] at hasAccount
    cases hasAccount

/-- **What requests do**, one after the other. -/
theorem grants_afterGrants (scheme : PasswordScheme) (requests : List GrantRequest) :
    database.Grants requests (database.afterGrants scheme requests) := by
  induction requests generalizing database with
  | nil => exact ⟨inOrder, fun _ => rfl, fun _ _ => by simp [askFor_nil, Database.afterGrants]⟩
  | cons request requests ih =>
      have first := inOrder.grants_outcome scheme request
      have others := ih first.inOrder
      constructor
      case inOrder => exact others.inOrder
      case sameAccounts => exact fun id => (others.sameAccounts id).trans (first.sameAccounts id)
      case includes_iff =>
        intro id permission
        rw [askFor_cons, and_or_left, ← or_assoc]
        refine (others.includes_iff id permission).trans ?_
        rw [first.includes_iff, first.sameAccounts, askFor_cons, or_iff_left askFor_nil]

end Database.IsInOrder

/-- Requests that ask for the same of an account leave it with the same permissions. -/
theorem Database.Grants.permissionsOf_eq {requests others : List GrantRequest}
    {after after' : Database} (grants : database.Grants requests after)
    (grants' : database.Grants others after') {id : Int}
    (same : ∀ permission, AskFor requests id permission ↔ AskFor others id permission) :
    after.tables.permissionsOf id = after'.tables.permissionsOf id := by
  refine Permissions.eq_of_includes fun permission => ?_
  rw [grants.includes_iff, grants'.includes_iff, same]

/-- **Grants form a union.**  Every database that a run reaches is in order until it is closed.  Take
any database that is in order, and any requests to grant permissions, which are made one after the
other.

* An account that is there holds afterwards what it held before and all that the requests ask for
  it, and nothing else.
* Requests that ask for the same permissions of an account, in another order, repeated or split in
  another way, leave it with the same permissions.
* Requests for other accounts change nothing for an account.
* The database stays in order, so all this and the following hold again of what comes after.
* A request for an account that is there succeeds.  One for an account that is not there is refused,
  unless it asks for nothing, and leaves the database as it is. -/
theorem grants_form_union (scheme : PasswordScheme) :
    (∀ {admits : History scheme → Action → Prop} {past : History scheme} {database : Database},
      Run scheme admits past database → database.isOpen = true → database.IsInOrder) ∧
    ∀ database : Database, database.IsInOrder →
      ∀ (requests : List GrantRequest) (moment : Moment),
        (∀ id, database.tables.hasAccount id = true →
          ∃ before after,
            database.answerPermissions scheme moment id = .ok (.permissions before) ∧
            (database.afterGrants scheme requests).answerPermissions scheme moment id =
              .ok (.permissions after) ∧
            ∀ permission, after.includes permission = true ↔
              before.includes permission = true ∨ ∃ request ∈ requests,
                request.accountId = id ∧ permission ∈ request.permissions) ∧
        (∀ (others : List GrantRequest) (id : Int),
          (∀ permission, AskFor requests id permission ↔ AskFor others id permission) →
            (database.afterGrants scheme requests).answerPermissions scheme moment id =
              (database.afterGrants scheme others).answerPermissions scheme moment id) ∧
        (∀ id, (∀ request ∈ requests, request.accountId ≠ id) →
          (database.afterGrants scheme requests).answerPermissions scheme moment id =
            database.answerPermissions scheme moment id) ∧
        (database.afterGrants scheme requests).IsInOrder ∧
        ∀ request : GrantRequest,
          (database.tables.hasAccount request.accountId = true →
            (request.outcome scheme database).result = .ok .done) ∧
          (database.tables.hasAccount request.accountId = false →
            (request.outcome scheme database).result = (if request.permissions = [] then .ok .done
              else .error (Tables.constraintFault "grants")) ∧
            (request.outcome scheme database).database = database) := by
  refine ⟨fun run => run.isInOrder, fun database inOrder requests moment => ?_⟩
  have grants := inOrder.grants_afterGrants scheme requests
  refine ⟨fun id hasAccount => ?_, fun others id same => ?_, fun id areOther => ?_,
    grants.inOrder, fun request => ?_⟩
  · refine ⟨_, _, inOrder.answerPermissions_eq scheme moment id,
      grants.inOrder.answerPermissions_eq scheme moment id, fun permission => ?_⟩
    rw [grants.includes_iff, and_iff_right hasAccount]
    rfl
  · have grants' := inOrder.grants_afterGrants scheme others
    rw [grants.inOrder.answerPermissions_eq, grants'.inOrder.answerPermissions_eq,
      grants.permissionsOf_eq grants' same]
  · have noneAsks : ∀ permission, AskFor requests id permission ↔ AskFor [] id permission := by
      refine fun permission => iff_of_false ?_ askFor_nil
      rintro ⟨request, isMember, isOwn, -⟩
      exact areOther request isMember isOwn
    rw [grants.inOrder.answerPermissions_eq, inOrder.answerPermissions_eq,
      grants.permissionsOf_eq (inOrder.grants_afterGrants scheme []) noneAsks]
    rfl
  · rcases inOrder.outcome_cases scheme request with
      ⟨hasAccount, after, -, isOutcome⟩ | ⟨isAbsent, isOutcome⟩
    · rw [isOutcome, hasAccount]
      exact ⟨fun _ => rfl, nofun⟩
    · rw [isOutcome, isAbsent]
      exact ⟨nofun, fun _ => ⟨rfl, rfl⟩⟩

/-- Requests for the second of two accounts, with one in between for an account that is not there. -/
def sampleRequests : List GrantRequest :=
  [⟨.idle, 2, [.readUser]⟩, ⟨.idle, 7, [.writeUser]⟩,
    ⟨.idle, 2, [.writeUser, .readUser, .writeUser]⟩]

/-- The second account holds both permissions then, and the first one what it held before. -/
theorem sample_requests_are_granted :
    Run sampleScheme History.AdmitsUses ([sampleRegistration] ++ [sampleNeighbour])
        sampleNeighbour.after ∧
      sampleNeighbour.after.tables.hasAccount 2 = true ∧
      (∃ after, (sampleNeighbour.after.afterGrants sampleScheme sampleRequests).answerPermissions
          sampleScheme .idle 2 = .ok (.permissions after) ∧
        ∀ permission, after.includes permission = true) ∧
      (sampleNeighbour.after.afterGrants sampleScheme sampleRequests).answerPermissions
          sampleScheme .idle 1 =
        sampleNeighbour.after.answerPermissions sampleScheme .idle 1 ∧
      sampleNeighbour.after.tables.hasAccount 7 = false ∧
      (GrantRequest.outcome sampleScheme sampleNeighbour.after ⟨.idle, 7, [.writeUser]⟩).result =
        .error (Tables.constraintFault "grants") := by
  obtain ⟨isReached, holds⟩ := grants_form_union sampleScheme
  have isOpen : sampleNeighbour.after.isOpen = true := by decide +kernel
  have isThere : sampleNeighbour.after.tables.hasAccount 2 = true := by decide +kernel
  have isAbsent : sampleNeighbour.after.tables.hasAccount 7 = false := by decide +kernel
  obtain ⟨isUnion, -, isOther, -, single⟩ :=
    holds _ (isReached run_sampleNeighbour isOpen) sampleRequests .idle
  obtain ⟨before, after, -, isAfter, includes⟩ := isUnion 2 isThere
  have areAsked : ∀ permission, ∃ request ∈ sampleRequests,
      request.accountId = 2 ∧ permission ∈ request.permissions := by
    intro permission
    refine ⟨⟨.idle, 2, [.writeUser, .readUser, .writeUser]⟩, by simp [sampleRequests], rfl, ?_⟩
    cases permission <;> decide
  have areOther : ∀ request ∈ sampleRequests, request.accountId ≠ 1 := by
    simp [sampleRequests]
  exact ⟨run_sampleNeighbour, isThere,
    ⟨after, isAfter, fun permission => (includes permission).2 (.inr (areAsked permission))⟩,
    isOther 1 areOther, isAbsent, ((single ⟨.idle, 7, [.writeUser]⟩).2 isAbsent).1⟩

end Gatehouse
