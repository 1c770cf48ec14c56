import Gatehouse.Http.Traffic
import Gatehouse.Proofs.History.Tokens
import Gatehouse.Proofs.Http.Exchanges
import Gatehouse.Proofs.Workflow.Purging

/-!
# Purging is not seen from outside

Removing the tokens that are no longer good makes no difference to what comes after it: calls and
requests get the same answers and send the same letters as they would without it, and at each of
them the accounts, the grants and the tokens that are still good are the same
(`Run.purge_is_invisible`).

Both courses of events are compared step by step.  The one with the removal is always the other one
with these tokens left out (`turn_purged`), since no step sees them and no step adds one.
-/

namespace Gatehouse.Http

set_option autoImplicit false

variable {scheme : PasswordScheme} {moment : Moment} {now purge : Instant} {database : Database}

/-! ## Requests -/

theorem identify_purged (isLater : purge.milliseconds ≤ now.milliseconds)
    (value : Option (List UInt8)) :
    identify now (database.purged purge) value = identify now database value := by
  unfold identify
  simp only [Service.authenticate_purged isLater]

theorem callOf_purged (identity : Identity) (body : List UInt8) (route : Route) :
    callOf (database.purged purge) identity body route = callOf database identity body route := by
  have samePermission (required : List Permission) :
      receivePermission (database.purged purge) identity required =
        receivePermission database identity required := by
    rw [receivePermission, Service.requirePermissions_purged]
    rfl
  cases route <;> simp only [callOf, samePermission]

/-- Nobody asks over HTTP when a session expires. -/
theorem Route.Asks.not_expiry {route : Route} {identity : Identity} {body : List UInt8}
    {call : Service.Call} (asks : route.Asks identity body call) (caller : Identity) :
    call ≠ .sessionExpiry caller := by
  rintro rfl
  cases asks

/-- An exchange with the tokens that are no longer good left out. -/
def Exchange.purged (purge : Instant) (exchange : Exchange) : Exchange :=
  { exchange with database := exchange.database.purged purge }

theorem serve_purged (sound : database.tables.Sound)
    (isLater : purge.milliseconds ≤ moment.now.milliseconds)
    (isNew : moment.IsNew database.tables) (identity : Identity) (route : Route)
    (body : List UInt8) :
    serve scheme moment (database.purged purge) identity route body =
      (serve scheme moment database identity route body).purged purge := by
  unfold serve
  rw [callOf_purged]
  cases asked : callOf database identity body route with
  | error response => rfl
  | ok call =>
      have notExpiry := (callOf_eq_ok.1 asked).1.not_expiry
      simp only [Service.perform_purged sound isLater isNew notExpiry]
      rfl

theorem answer_purged (sound : database.tables.Sound)
    (isLater : purge.milliseconds ≤ moment.now.milliseconds)
    (isNew : moment.IsNew database.tables) (request : Request) :
    answer scheme moment (database.purged purge) request =
      (answer scheme moment database request).purged purge := by
  have answered (route : Route) : answerAt scheme moment (database.purged purge) request route =
      (answerAt scheme moment database request route).purged purge := by
    unfold answerAt
    simp only [identify_purged isLater]
    cases identify moment.now database
        (if route.identifies then request.header? "authorization" else none) with
    | error problem => rfl
    | ok identity =>
        simp only [serve_purged sound isLater isNew]
        split <;> rfl
  unfold answer
  cases Route.ofTarget? request.target with
  | none =>
      dsimp only
      split <;> rfl
  | some route =>
      simp only [answered]
      split <;> rfl

/-! ## Turns -/

/-- A turn with the tokens that are no longer good left out. -/
def Turn.purged (purge : Instant) (turn : Turn) : Turn :=
  { turn with database := turn.database.purged purge }

variable {demand : Demand}

theorem turn_purged (sound : database.tables.Sound)
    (isLater : purge.milliseconds ≤ moment.now.milliseconds)
    (isNew : moment.IsNew database.tables)
    (notExpiry : ∀ identity, demand ≠ .call (.sessionExpiry identity)) :
    demand.turn scheme moment (database.purged purge) =
      (demand.turn scheme moment database).purged purge := by
  cases demand with
  | call call =>
      have notExpiry (identity : Identity) : call ≠ .sessionExpiry identity :=
        fun same => notExpiry identity (congrArg Demand.call same)
      simp only [Demand.turn, Service.perform_purged sound isLater isNew notExpiry]
      rfl
  | request request =>
      simp only [Demand.turn, answer_purged sound isLater isNew]
      rfl

/-- Leaving out what is no longer good changes nothing that counts. -/
theorem Turn.view_purged {turn : Turn} (isLater : purge.milliseconds ≤ turn.now.milliseconds) :
    (turn.purged purge).view = turn.view := by
  have sameTokens : (turn.database.tables.purged purge).tokens.filter
        (fun row => !Tables.isPast turn.now row) =
      turn.database.tables.tokens.filter fun row => !Tables.isPast turn.now row :=
    Tables.filter_purged isLater
  exact congrArg (View.mk _ _ _ _) sameTokens

theorem Demand.sound_turn (sound : database.tables.Sound) (moment : Moment) (demand : Demand) :
    (demand.turn scheme moment database).database.tables.Sound := by
  have performed (call : Service.Call) :
      (Service.perform scheme moment database call).database.tables.Sound := by
    have leads : (⟨moment, .call call, database⟩ : Event scheme).after.tables.Sound :=
      Event.sound_after sound
    exact leads
  cases demand with
  | call call => exact performed call
  | request request =>
      change (answer scheme moment database request).database.tables.Sound
      cases answer_answered scheme moment database request with
      | called _ sameDatabase => exact sameDatabase ▸ performed _
      | refused _ isUnchanged =>
          rw [isUnchanged]
          exact sound

/-! ## Courses of events -/

/-- Whether, at each of some demands, no draw makes a token that is stored by then. -/
def DrawsAreNew (scheme : PasswordScheme) (database : Database) : List (Moment × Demand) → Prop
  | [] => True
  | (moment, demand) :: rest =>
      moment.IsNew database.tables ∧
        DrawsAreNew scheme (demand.turn scheme moment database).database rest

/-- Whether a demand asks when a session expires. -/
def Demand.AsksExpiry (demand : Demand) : Prop :=
  ∃ identity, demand = .call (.sessionExpiry identity)

/-- At every step the one course of events is the other one with the same tokens left out. -/
theorem view_turns_purged (sound : database.tables.Sound) {demands : List (Moment × Demand)}
    (isLater : ∀ asked ∈ demands, purge.milliseconds ≤ asked.1.now.milliseconds)
    (notExpiry : ∀ asked ∈ demands, ¬asked.2.AsksExpiry)
    (areNew : DrawsAreNew scheme database demands) :
    (turns scheme (database.purged purge) demands).map Turn.view =
      (turns scheme database demands).map Turn.view := by
  induction demands generalizing database with
  | nil => rfl
  | cons asked rest ih =>
      obtain ⟨moment, demand⟩ := asked
      obtain ⟨isNew, areNew⟩ := areNew
      have isLater' := isLater _ (.head _)
      have same : demand.turn scheme moment (database.purged purge) =
          (demand.turn scheme moment database).purged purge :=
        turn_purged sound isLater' isNew fun identity isExpiry =>
          notExpiry _ (.head _) ⟨identity, isExpiry⟩
      have sameNow : (demand.turn scheme moment database).now = moment.now := by
        cases demand <;> rfl
      simp only [turns, List.map_cons, same]
      rw [Turn.view_purged (sameNow ▸ isLater')]
      exact congrArg _ (ih (Demand.sound_turn sound moment demand)
        (fun asked isAsked => isLater asked (.tail _ isAsked))
        (fun asked isAsked => notExpiry asked (.tail _ isAsked)) areNew)

end Gatehouse.Http

namespace Gatehouse

open Http

variable {scheme : PasswordScheme} {database : Database}

/-- Purging an open database leaves out the tokens that are no longer good. -/
theorem after_purge (moment : Moment) (isOpen : database.isOpen = true) :
    (⟨moment, .purgeExpired, database⟩ : Event scheme).after = database.purged moment.now := by
  obtain ⟨tables, _⟩ := database
  cases isOpen
  rfl

theorem after_purge_of_closed (moment : Moment) (isClosed : database.isOpen = false) :
    (⟨moment, .purgeExpired, database⟩ : Event scheme).after = database := by
  obtain ⟨tables, _⟩ := database
  cases isClosed
  rfl

/-- **Purging is not seen from outside.**  In every state that the service and its store can come
to, whatever is asked for after a purge, by calls and by requests at times not before it, is
answered as it would be without the purge, with the same letters, and each time the accounts, the
grants and the tokens that are still good are the same.  No draw may make a token that is stored by
then, and only the expiry of a session must not be asked for. -/
theorem Run.purge_is_invisible {admits : History scheme → Action → Prop} {past : History scheme}
    (run : Run scheme admits past database) (purge : Moment) (demands : List (Moment × Demand))
    (isLater : ∀ asked ∈ demands, purge.now.nanoseconds ≤ asked.1.now.nanoseconds)
    (notExpiry : ∀ asked ∈ demands, ¬asked.2.AsksExpiry)
    (areNew : DrawsAreNew scheme database demands) :
    (turns scheme (⟨purge, .purgeExpired, database⟩ : Event scheme).after demands).map Turn.view =
      (turns scheme database demands).map Turn.view := by
  cases isOpen : database.isOpen with
  | false => rw [after_purge_of_closed purge isOpen]
  | true =>
      rw [after_purge purge isOpen]
      refine view_turns_purged run.sound (fun asked isAsked => ?_) notExpiry areNew
      exact Int.ediv_le_ediv (by decide) (isLater asked isAsked)

/-- Four days after the first account was registered. -/
def sampleLater : Instant := ⟨4 * 24 * 60 * 60 * 1000000000⟩

/-- The tokens that are no longer good then are removed. -/
def samplePurge : Event sampleScheme :=
  ⟨⟨sampleLater, []⟩, .purgeExpired, sampleRegistration.after⟩

/-- The holder of the first account asks for a new password, and presents an old token. -/
def sampleDemands : List (Moment × Demand) :=
  [(⟨sampleLater, [.replicate 16 1]⟩, .call (.requestPasswordReset "alice@example.com")),
    (⟨sampleLater, []⟩, .call (.activate sampleToken.plaintext))]

/-- The activation token that nobody has used within four days is purged unseen. -/
theorem purge_of_activation_token_is_invisible :
    sampleRegistration.after.tables.tokens.length = 1 ∧ samplePurge.after.tables.tokens = [] ∧
      (turns sampleScheme samplePurge.after sampleDemands).map Turn.view =
        (turns sampleScheme sampleRegistration.after sampleDemands).map Turn.view := by
  have isUnused : (sampleRegistration.after.tables.tokens.all fun row =>
      row.digest != Token.digestOf (Token.plaintextOf (.replicate 16 1))) = true := by
    decide +kernel
  have areNew : DrawsAreNew sampleScheme sampleRegistration.after sampleDemands := by
    refine ⟨fun row isStored draw isDraw => ?_, fun _ _ _ isDraw => (List.not_mem_nil isDraw).elim,
      trivial⟩
    rw [List.mem_singleton.1 isDraw]
    exact bne_iff_ne.1 (List.all_eq_true.1 isUnused row isStored)
  refine ⟨by decide +kernel, by decide +kernel, ?_⟩
  refine Run.purge_is_invisible run_sampleRegistration ⟨sampleLater, []⟩ sampleDemands ?_ ?_ areNew
  · rintro asked (_ | ⟨_, _ | ⟨_, ⟨⟩⟩⟩) <;> exact Int.le_refl _
  · rintro asked (_ | ⟨_, _ | ⟨_, ⟨⟩⟩⟩) ⟨identity, ⟨⟩⟩

end Gatehouse
