import Gatehouse.Proofs.History.Storage
import Gatehouse.Proofs.History.Versions
import Gatehouse.Proofs.Store.TokenMap

/-!
# Using the tokens of the store

Tokens are created, inserted, looked up and removed, and accounts are looked up by them, one use
after the other and each at a time of its own.  The store answers all of this as a partial map from
accounts and scopes does (`TokenMap.Answers`), and leaves what the map leaves.  A token may be
created with any lifetime; if its expiry has no date, the creation breaks off and the map stays as
it is.

One use is followed by the map from wherever the rows are legible, and leaves them legible
(`Action.follows`).  So the map follows any number of uses, and says what each of them is answered
(`Run.tokens_are_kept_as_map`).
-/

namespace Gatehouse

set_option autoImplicit false

/-! ## What a map answers -/

/-- Whether an action uses the tokens of the store, and inserts only what can be a token. -/
inductive Action.UsesTokens : Action → Prop
  | create {accountId : Int} {lifetime : Duration} {scope : Scope} :
      UsesTokens (.createToken accountId lifetime scope)
  | insert {token : Token} (isProper : token.IsProper) : UsesTokens (.insertToken token)
  | get {accountId : Int} {scope : Scope} : UsesTokens (.token accountId scope)
  | remove {accountId : Int} {scope : Scope} : UsesTokens (.removeToken accountId scope)
  | find {scope : Scope} {digest : List UInt8} : UsesTokens (.accountByToken scope digest)
  | purge : UsesTokens .purgeExpired

/-- Whether a token is the one that is made from a draw for an account and a scope, good from now on
for a lifetime. -/
structure IssuedToken.IsMadeFrom (made : IssuedToken) (draw : Draw) (now : Instant)
    (accountId : Int) (lifetime : Duration) (scope : Scope) : Prop where
  plaintext : made.plaintext = Token.plaintextOf draw
  token : made.token = ⟨Token.digestOf (Token.plaintextOf draw), accountId,
    ⟨now.nanoseconds + lifetime.nanoseconds⟩, scope⟩

/-- Two tokens that are made from the first of some draws are one. -/
theorem IssuedToken.IsMadeFrom.eq_of_drawn {made made' : IssuedToken} {draws : List Draw}
    {draw draw' : Draw} {now : Instant} {accountId : Int} {lifetime : Duration} {scope : Scope}
    (isMade : made.IsMadeFrom draw now accountId lifetime scope) (isDrawn : draws.head? = some draw)
    (isMade' : made'.IsMadeFrom draw' now accountId lifetime scope)
    (isDrawn' : draws.head? = some draw') : made = made' := by
  obtain rfl := Option.some.inj (isDrawn.symm.trans isDrawn')
  obtain ⟨plaintext, token⟩ := made
  obtain ⟨plaintext', token'⟩ := made'
  obtain ⟨rfl, rfl⟩ := isMade
  obtain ⟨rfl, rfl⟩ := isMade'
  rfl

namespace TokenMap

/-- What a use of the tokens is answered by a map, among some accounts, and the map that it
leaves. -/
inductive Answers (accounts : List Account) (moment : Moment) (map : TokenMap) :
    Action → Except Fault Answer → TokenMap → Prop
  | inserted {token : Token} {after : TokenMap} (stores : map.Stores accounts token (.ok after)) :
      Answers accounts moment map (.insertToken token) (.ok .done) after
  | notInserted {token : Token} {fault : Fault}
      (stores : map.Stores accounts token (.error fault)) :
      Answers accounts moment map (.insertToken token) (.error fault) map
  /-- The token that is made from the first draw is stored and handed out. -/
  | created {accountId : Int} {lifetime : Duration} {scope : Scope} {draw : Draw}
      {made : IssuedToken} {after : TokenMap} (isDrawn : moment.draws.head? = some draw)
      (isMade : made.IsMadeFrom draw moment.now accountId lifetime scope)
      (hasDate : made.token.expiry.HasDate) (stores : map.Stores accounts made.token (.ok after)) :
      Answers accounts moment map (.createToken accountId lifetime scope) (.ok (.issued made)) after
  | notCreated {accountId : Int} {lifetime : Duration} {scope : Scope} {draw : Draw}
      {made : IssuedToken} {fault : Fault} (isDrawn : moment.draws.head? = some draw)
      (isMade : made.IsMadeFrom draw moment.now accountId lifetime scope)
      (hasDate : made.token.expiry.HasDate)
      (stores : map.Stores accounts made.token (.error fault)) :
      Answers accounts moment map (.createToken accountId lifetime scope) (.error fault) map
  /-- No token is made that would be good beyond the calendar, or would have expired before it. -/
  | brokenOff {accountId : Int} {lifetime : Duration} {scope : Scope} {draw : Draw}
      {made : IssuedToken} (isDrawn : moment.draws.head? = some draw)
      (isMade : made.IsMadeFrom draw moment.now accountId lifetime scope)
      (noDate : ¬made.token.expiry.HasDate) :
      Answers accounts moment map (.createToken accountId lifetime scope) (.ok .brokenOff) map
  | notDrawn {accountId : Int} {lifetime : Duration} {scope : Scope}
      (isEmpty : moment.draws.head? = none) :
      Answers accounts moment map (.createToken accountId lifetime scope)
        (.error (.entropy "no random bytes")) map
  /-- What is kept in the place, good or not. -/
  | got {accountId : Int} {scope : Scope} :
      Answers accounts moment map (.token accountId scope)
        (.ok (.token ((map (accountId, scope)).map fun slot => slot.token (accountId, scope)))) map
  /-- Just the one place is emptied. -/
  | removed {accountId : Int} {scope : Scope} :
      Answers accounts moment map (.removeToken accountId scope)
        (.ok (.removed (if map (accountId, scope) = none then 0 else 1)))
        (map.erase (accountId, scope))
  /-- The owner of the place that has the digest, if it is in the scope and still good. -/
  | found {scope : Scope} {digest : List UInt8} {owner : Option Account}
      (isOwner : ∀ account, owner = some account ↔
        account ∈ accounts ∧ map.Holds moment.now scope digest account.id)
      (isNobody : owner = none ↔ ∀ accountId, ¬map.Holds moment.now scope digest accountId) :
      Answers accounts moment map (.accountByToken scope digest) (.ok (.lookup owner)) map
  | purged :
      Answers accounts moment map .purgeExpired (.ok (.removed (map.past moment.now).ncard))
        (map.keepGood moment.now)

variable {accounts : List Account} {moment : Moment} {map after after' : TokenMap}
  {action : Action} {result result' : Except Fault Answer}

/-- A map has one answer to each use. -/
theorem Answers.unique (answers : Answers accounts moment map action result after)
    (answers' : Answers accounts moment map action result' after') :
    result = result' ∧ after = after' := by
  cases answers with
  | inserted stores =>
      cases answers' with
      | inserted stores' => exact ⟨rfl, Except.ok.inj (stores.unique stores')⟩
      | notInserted stores' => cases stores.unique stores'
  | notInserted stores =>
      cases answers' with
      | inserted stores' => cases stores.unique stores'
      | notInserted stores' => exact ⟨congrArg _ (Except.error.inj (stores.unique stores')), rfl⟩
  | created isDrawn isMade hasDate stores =>
      cases answers' with
      | created isDrawn' isMade' _ stores' =>
          obtain rfl := isMade.eq_of_drawn isDrawn isMade' isDrawn'
          exact ⟨rfl, Except.ok.inj (stores.unique stores')⟩
      | notCreated isDrawn' isMade' _ stores' =>
          obtain rfl := isMade.eq_of_drawn isDrawn isMade' isDrawn'
          cases stores.unique stores'
      | brokenOff isDrawn' isMade' noDate =>
          obtain rfl := isMade.eq_of_drawn isDrawn isMade' isDrawn'
          exact absurd hasDate noDate
      | notDrawn isEmpty => cases isDrawn.symm.trans isEmpty
  | notCreated isDrawn isMade hasDate stores =>
      cases answers' with
      | created isDrawn' isMade' _ stores' =>
          obtain rfl := isMade.eq_of_drawn isDrawn isMade' isDrawn'
          cases stores.unique stores'
      | notCreated isDrawn' isMade' _ stores' =>
          obtain rfl := isMade.eq_of_drawn isDrawn isMade' isDrawn'
          exact ⟨congrArg _ (Except.error.inj (stores.unique stores')), rfl⟩
      | brokenOff isDrawn' isMade' noDate =>
          obtain rfl := isMade.eq_of_drawn isDrawn isMade' isDrawn'
          exact absurd hasDate noDate
      | notDrawn isEmpty => cases isDrawn.symm.trans isEmpty
  | brokenOff isDrawn isMade noDate =>
      cases answers' with
      | created isDrawn' isMade' hasDate | notCreated isDrawn' isMade' hasDate =>
          obtain rfl := isMade.eq_of_drawn isDrawn isMade' isDrawn'
          exact absurd hasDate noDate
      | brokenOff => exact ⟨rfl, rfl⟩
      | notDrawn isEmpty => cases isDrawn.symm.trans isEmpty
  | notDrawn isEmpty =>
      cases answers' with
      | created isDrawn | notCreated isDrawn | brokenOff isDrawn =>
          cases isDrawn.symm.trans isEmpty
      | notDrawn => exact ⟨rfl, rfl⟩
  | got => cases answers' with | got => exact ⟨rfl, rfl⟩
  | removed => cases answers' with | removed => exact ⟨rfl, rfl⟩
  | purged => cases answers' with | purged => exact ⟨rfl, rfl⟩
  | found isOwner =>
      cases answers' with
      | found isOwner' =>
          obtain rfl := Option.ext fun account => (isOwner account).trans (isOwner' account).symm
          exact ⟨rfl, rfl⟩

/-- What uses of the tokens are answered by a map, one after the other and each at its own moment,
and the map that they leave. -/
inductive Yields (accounts : List Account) :
    TokenMap → List (Moment × Action) → List (Except Fault Answer) → TokenMap → Prop
  | nil {map : TokenMap} : Yields accounts map [] [] map
  | cons {map between last : TokenMap} {moment : Moment} {action : Action}
      {uses : List (Moment × Action)} {result : Except Fault Answer}
      {results : List (Except Fault Answer)}
      (answers : Answers accounts moment map action result between)
      (rest : Yields accounts between uses results last) :
      Yields accounts map ((moment, action) :: uses) (result :: results) last

theorem Yields.unique {uses : List (Moment × Action)}
    {results results' : List (Except Fault Answer)} {last last' : TokenMap}
    (yields : Yields accounts map uses results last)
    (yields' : Yields accounts map uses results' last') : results = results' ∧ last = last' := by
  induction yields generalizing results' with
  | nil =>
      cases yields' with
      | nil => exact ⟨rfl, rfl⟩
  | cons answers _ ih =>
      cases yields' with
      | cons answers' rest' =>
          obtain ⟨rfl, rfl⟩ := answers.unique answers'
          obtain ⟨rfl, rfl⟩ := ih rest'
          exact ⟨rfl, rfl⟩

end TokenMap

/-! ## What the store answers -/

/-- The results of actions that are carried out one after the other, and the database that they
leave. -/
def Database.carryOut (scheme : PasswordScheme) :
    Database → List (Moment × Action) → List (Except Fault Answer) × Database
  | database, [] => ([], database)
  | database, (moment, action) :: rest =>
      let outcome := action.perform scheme moment database
      let (results, last) := carryOut scheme outcome.database rest
      (outcome.result :: results, last)

/-- A database with other rows of tokens. -/
def Database.withTokens (database : Database) (rows : List TokenRow) : Database :=
  { database with tables := { database.tables with tokens := rows } }

/-- Whether a database differs from another one at most in its rows of tokens, and these stand for
tokens. -/
structure Database.ChangesTokens (before after : Database) : Prop where
  legible : after.tables.Legible
  isKept : ∃ rows, after = before.withTokens rows

theorem Database.ChangesTokens.trans {before between after : Database}
    (former : before.ChangesTokens between) (latter : between.ChangesTokens after) :
    before.ChangesTokens after := by
  obtain ⟨-, _, rfl⟩ := former
  obtain ⟨legible, rows, rfl⟩ := latter
  exact ⟨legible, rows, rfl⟩

/-- Whether an outcome is what the tokens of a database, as a map, say of an action. -/
structure Action.Follows (moment : Moment) (database : Database) (action : Action)
    (outcome : Outcome Answer) : Prop where
  answers : TokenMap.Answers database.tables.accounts moment database.tables.tokenMap action
    outcome.result outcome.database.tables.tokenMap
  changes : database.ChangesTokens outcome.database

namespace Tables

variable {tables after : Tables} {token : Token}

/-- Inserting a proper token adds its row, and the rows stay legible. -/
theorem Legible.insertToken (legible : tables.Legible) (isProper : token.IsProper)
    (inserted : tables.insertToken token = .ok after) :
    after.Legible ∧ ∃ rows, after = { tables with tokens := rows } := by
  obtain ⟨isFree, hasAccount, rfl⟩ := insertToken_eq_ok.1 inserted
  exact ⟨legible.withTokenRow isProper isFree hasAccount, _, rfl⟩

end Tables

namespace Action

variable {moment : Moment} {database : Database} {action : Action}

/-- A use that changes nothing is followed if its answer, or the fault that it ends with, is that of
the map. -/
theorem follows_of_unchanged {statements : Workflow Answer} {result : Except Fault Answer}
    {last : Progress} (isOpen : database.isOpen = true) (legible : database.tables.Legible)
    (stage : last.At database moment.now none)
    (runs : statements.runFrom (Progress.start moment database).used = (result, last))
    (answers : TokenMap.Answers database.tables.accounts moment database.tables.tokenMap action
      result database.tables.tokenMap) :
    Follows moment database action
      (.ofWorkflow moment database (Workflow.connected statements)) := by
  rw [Workflow.ofWorkflow_connected_of_isOpen isOpen runs, stage.database, stage.letters]
  exact ⟨answers, legible, _, rfl⟩

/-- A use that ends in what a statement makes of the tables is followed if what the statement
writes, or the fault that it ends with, is what the map says. -/
theorem follows_of_settled {α : Type} {statements : Workflow Answer} {form : α → Answer}
    {progress : Progress} {result : Except Fault (α × Tables)} (isOpen : database.isOpen = true)
    (legible : database.tables.Legible) (stage : progress.At database moment.now none)
    (runs : statements.runFrom (Progress.start moment database).used =
      ((progress.settled result).1.map form, (progress.settled result).2))
    (fails : ∀ fault, result = .error fault →
      TokenMap.Answers database.tables.accounts moment database.tables.tokenMap action
        (.error fault) database.tables.tokenMap)
    (succeeds : ∀ written, result = .ok written →
      TokenMap.Answers database.tables.accounts moment database.tables.tokenMap action
        (.ok (form written.1)) written.2.tokenMap ∧
      written.2.Legible ∧ ∃ rows, written.2 = { database.tables with tokens := rows }) :
    Follows moment database action
      (.ofWorkflow moment database (Workflow.connected statements)) := by
  cases result with
  | error fault => exact follows_of_unchanged isOpen legible stage runs (fails fault rfl)
  | ok written =>
      obtain ⟨answers, legibleAfter, rows, isKept⟩ := succeeds written rfl
      rw [Workflow.ofWorkflow_connected_of_isOpen isOpen runs]
      simp only [Progress.settled, Progress.write, stage.work, stage.database, stage.letters]
      exact ⟨answers, legibleAfter, rows, congrArg (fun tables => { database with tables }) isKept⟩

/-- Creating a token is storing the one that is made from the first draw, if there is one and the
expiry has a date. -/
theorem follows_create {scheme : PasswordScheme} {accountId : Int} {lifetime : Duration}
    {scope : Scope} (isOpen : database.isOpen = true) (legible : database.tables.Legible) :
    Follows moment database (.createToken accountId lifetime scope)
      ((Action.createToken accountId lifetime scope).perform scheme moment database) := by
  have stage := (Progress.at_start moment database).used
  have runs := runFrom_createToken accountId lifetime scope (Progress.start moment database).used
  obtain ⟨now, draws⟩ := moment
  cases draws with
  | nil => exact follows_of_unchanged isOpen legible stage runs (.notDrawn rfl)
  | cons draw rest =>
      let issued := IssuedToken.ofDraw draw now accountId lifetime scope
      have isMade : issued.IsMadeFrom draw now accountId lifetime scope := ⟨rfl, rfl⟩
      by_cases hasDate : (now.plus lifetime).HasDate
      · have isProper : issued.token.IsProper := ⟨Digest.Sha256.length_digest _, hasDate⟩
        have stores := legible.stores_insertToken issued.token
        let stored := Service.storeToken draw now database.tables accountId lifetime scope
        refine follows_of_settled isOpen legible stage.spent.used
          (runs.trans (if_pos hasDate)) ?_ ?_
        · intro fault isRefused
          change stored = _ at isRefused
          rw [Service.except_map_eq_error.1 isRefused] at stores
          exact .notCreated rfl isMade hasDate stores
        · rintro ⟨made, after⟩ isStored
          change stored = _ at isStored
          obtain ⟨rfl, inserted⟩ := Service.storeToken_eq_ok.1 isStored
          rw [inserted] at stores
          exact ⟨.created rfl isMade hasDate stores, legible.insertToken isProper inserted⟩
      · exact follows_of_unchanged isOpen legible stage.spent (runs.trans (if_neg hasDate))
          (.brokenOff rfl isMade hasDate)

/-- Every use of the tokens is followed by the map, on legible tables. -/
theorem follows (scheme : PasswordScheme) (isOpen : database.isOpen = true)
    (legible : database.tables.Legible) (usesTokens : action.UsesTokens) :
    Follows moment database action (action.perform scheme moment database) := by
  have stage := (Progress.at_start moment database).used
  cases usesTokens with
  | get =>
      refine follows_of_unchanged isOpen legible stage.used ?_ .got
      simp only [statements, Workflow.runFrom_bind, Workflow.runFrom_look, Workflow.runFrom_lift,
        Progress.tables_used, Progress.tables_start, legible.token?_eq (_, _),
        Workflow.runFrom_pure]
  | find =>
      exact follows_of_unchanged isOpen legible stage.used rfl
        (.found (fun _ => legible.accountByToken?_eq_some_iff) legible.accountByToken?_eq_none_iff)
  | @insert token isProper =>
      have stores := legible.stores_insertToken token
      refine follows_of_settled isOpen legible stage.used
        (Workflow.runFrom_bind_pure_of_eq (Workflow.runFrom_change _ _)) ?_ ?_
      all_goals rw [Progress.tables_used, Progress.tables_start]
      · intro fault isRefused
        rw [Service.except_map_eq_error.1 isRefused] at stores
        exact .notInserted stores
      · intro _ isStored
        obtain ⟨after, inserted, rfl⟩ := Service.except_map_eq_ok.1 isStored
        rw [inserted] at stores
        exact ⟨.inserted stores, legible.insertToken isProper inserted⟩
  | create => exact follows_create isOpen legible
  | @remove accountId scope =>
      refine follows_of_settled isOpen legible stage.used
        (Workflow.runFrom_bind_pure_of_eq (Workflow.runFrom_change _ _)) ?_ ?_
      · intro _ impossible
        cases impossible
      · rintro _ ⟨⟩
        refine ⟨?_, legible.filterTokens _, _, rfl⟩
        rw [Progress.tables_used, Progress.tables_start, legible.removeToken_fst (accountId, scope)]
        exact legible.tokenMap_withoutToken (accountId, scope) ▸ .removed
  | purge =>
      refine follows_of_settled isOpen legible stage.used
        (Workflow.runFrom_bind_pure_of_eq (Workflow.runFrom_purgeExpired _)) ?_ ?_
      · intro _ impossible
        cases impossible
      · rintro _ ⟨⟩
        refine ⟨?_, legible.filterTokens _, _, rfl⟩
        rw [Progress.tables_used, Progress.tables_start, legible.purgeExpired_fst]
        exact legible.tokenMap_purgeExpired moment.now ▸ .purged

end Action

/-! ## Sequences of uses -/

/-- The map follows any number of uses of an open database whose rows are legible. -/
theorem TokenMap.yields_carryOut (scheme : PasswordScheme) {database : Database}
    {uses : List (Moment × Action)} (isOpen : database.isOpen = true)
    (legible : database.tables.Legible)
    (usesTokens : ∀ use ∈ uses, use.2.UsesTokens) :
    TokenMap.Yields database.tables.accounts database.tables.tokenMap uses
        (database.carryOut scheme uses).1 (database.carryOut scheme uses).2.tables.tokenMap ∧
      database.ChangesTokens (database.carryOut scheme uses).2 := by
  induction uses generalizing database with
  | nil => exact ⟨.nil, legible, _, rfl⟩
  | cons use rest ih =>
      obtain ⟨moment, action⟩ := use
      have first : action.Follows moment database (action.perform scheme moment database) :=
        Action.follows scheme isOpen legible (usesTokens _ (.head _))
      obtain ⟨legibleAfter, rows, isKept⟩ := first.changes
      have sameAccounts := congrArg (fun database => database.tables.accounts) isKept
      have isOpenAfter := (congrArg Database.isOpen isKept).trans isOpen
      obtain ⟨yields, changes⟩ :=
        ih isOpenAfter legibleAfter fun use isLater => usesTokens use (.tail _ isLater)
      exact ⟨.cons first.answers (sameAccounts ▸ yields), first.changes.trans changes⟩

/-- **The store of tokens is a map.**  From any open database that a run leads to and whose rows
stand for tokens, and for any uses of the tokens, one after the other and at any times: the results
are those of the partial map from accounts and scopes that the stored tokens make up, the tokens
stored in the end make up the map that the uses leave, and no other rows change. -/
theorem Run.tokens_are_kept_as_map {scheme : PasswordScheme}
    {admits : History scheme → Action → Prop} {past : History scheme} {database : Database}
    (run : Run scheme admits past database)
    (isOpen : database.isOpen = true)
    (isRead : ∀ row ∈ database.tables.tokens, ∃ token, Tables.tokenOfRow row = .ok token)
    {uses : List (Moment × Action)} (usesTokens : ∀ use ∈ uses, use.2.UsesTokens) :
    (∀ results last,
      TokenMap.Yields database.tables.accounts database.tables.tokenMap uses results last ↔
        results = (database.carryOut scheme uses).1 ∧
          last = (database.carryOut scheme uses).2.tables.tokenMap) ∧
    database.ChangesTokens (database.carryOut scheme uses).2 := by
  obtain ⟨yields, changes⟩ :=
    TokenMap.yields_carryOut scheme isOpen ⟨run.sound, isRead⟩ usesTokens
  refine ⟨fun results last => ⟨fun other => other.unique yields, ?_⟩, changes⟩
  rintro ⟨rfl, rfl⟩
  exact yields

/-- A token of the first account, good for a millisecond and a half. -/
def briefToken : Token :=
  ⟨.replicate 32 0, 1, ⟨1500000⟩, .access⟩

/-- A draw of zeros. -/
def zeroDraw : Draw := .replicate 16 0

/-- The token is inserted, which takes its place, and nobody else may have one.  It is found with a
whole number of milliseconds, for as long as these have not passed; then it is purged.  Another one
that is good for as long is created in the empty place and removed from it, and one that would be
good for half a million years is not made. -/
def usesOfBriefToken : List (Moment × Action) :=
  [(.idle, .insertToken briefToken),
    (.idle, .insertToken { briefToken with digest := .replicate 32 1 }),
    (.idle, .insertToken ⟨.replicate 32 2, 7, ⟨0⟩, .access⟩),
    (.idle, .token 1 .access),
    (⟨⟨999999⟩, []⟩, .accountByToken .access (.replicate 32 0)),
    (⟨⟨1000000⟩, []⟩, .accountByToken .access (.replicate 32 0)),
    (⟨⟨1000000⟩, []⟩, .purgeExpired),
    (⟨⟨0⟩, [zeroDraw]⟩, .createToken 1 ⟨1500000⟩ .access),
    (.idle, .removeToken 1 .access),
    (⟨⟨0⟩, [zeroDraw]⟩, .createToken 1 (.ofSeconds (500000 * 365 * 24 * 60 * 60)) .access),
    (.idle, .removeToken 1 .access)]

theorem brief_token_is_kept :
    TokenMap.Yields [firstCopy] (fun _ => none) usesOfBriefToken
      [.ok .done, .error Tables.tokenTaken, .error (Tables.constraintFault "tokens"),
        .ok (.token (some ⟨.replicate 32 0, 1, ⟨1000000⟩, .access⟩)),
        .ok (.lookup (some firstCopy)), .ok (.lookup none), .ok (.removed 1),
        .ok (.issued (.ofDraw zeroDraw ⟨0⟩ 1 ⟨1500000⟩ .access)), .ok (.removed 1),
        .ok .brokenOff, .ok (.removed 0)]
      (fun _ => none) := by
  have run : Run .argon2id History.AdmitsEdits [creation] creation.after :=
    .step .start .idle _ trivial
  have usesTokens : ∀ use ∈ usesOfBriefToken, use.2.UsesTokens := by
    simp only [usesOfBriefToken, List.forall_mem_cons, List.not_mem_nil, false_implies,
      implies_true, and_true]
    exact ⟨.insert ⟨rfl, by decide⟩, .insert ⟨rfl, by decide⟩, .insert ⟨rfl, by decide⟩, .get,
      .find, .find, .purge, .create, .remove, .create, .remove⟩
  exact ((run.tokens_are_kept_as_map rfl nofun usesTokens).1 _ _).2 ⟨rfl, rfl⟩

end Gatehouse
