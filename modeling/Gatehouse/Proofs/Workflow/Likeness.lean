import Gatehouse.Proofs.Store.Likeness
import Gatehouse.Proofs.Workflow.Steps

/-!
# Steps on states that differ in stored passwords only

Two workflows *go together* (`Workflow.GoTogether`) when, carried out side by side from stages that
are alike, they come to results in a given relation, or to the same fault, and to stages that are
alike.  Every step that reads or writes goes together with itself, and sequences go together when
their parts do (`GoTogether.bind`).  The draws and the time are the same on both sides, so that the
same tokens are made and the same texts are stored for new passwords.
-/

namespace Gatehouse

set_option autoImplicit false

variable {scheme : PasswordScheme}

/-- Two stages of a call that differ in stored passwords at most. -/
structure Progress.Alike (scheme : PasswordScheme) (former latter : Progress) : Prop where
  moment : former.moment = latter.moment
  database : former.database.Alike scheme latter.database
  work : Option.Rel (Tables.Alike scheme) former.work latter.work
  letters : former.letters = latter.letters

namespace Progress.Alike

variable {former latter : Progress}

theorem tables (alike : former.Alike scheme latter) :
    former.tables.Alike scheme latter.tables := by
  obtain ⟨_, _, work, _, _⟩ := former
  obtain ⟨_, _, work', _, _⟩ := latter
  cases alike.work with
  | none => exact alike.database.tables
  | some inside => exact inside

theorem write (alike : former.Alike scheme latter) {tables tables' : Tables}
    (written : tables.Alike scheme tables') :
    (former.write tables).Alike scheme (latter.write tables') := by
  obtain ⟨_, _, work, _, _⟩ := former
  obtain ⟨_, _, work', _, _⟩ := latter
  cases alike.work with
  | none => exact ⟨alike.moment, ⟨written, alike.database.isOpen⟩, .none, alike.letters⟩
  | some inside => exact ⟨alike.moment, alike.database, .some written, alike.letters⟩

theorem committed (alike : former.Alike scheme latter) :
    former.committed.Alike scheme latter.committed :=
  ⟨alike.moment, ⟨alike.tables, alike.database.isOpen⟩, .none, alike.letters⟩

theorem used (alike : former.Alike scheme latter) : former.used.Alike scheme latter.used :=
  ⟨alike.moment, alike.database, alike.work, alike.letters⟩

theorem withMoment (alike : former.Alike scheme latter) (later : Moment) :
    Progress.Alike scheme { former with moment := later } { latter with moment := later } :=
  ⟨rfl, alike.database, alike.work, alike.letters⟩

end Progress.Alike

namespace Workflow

variable {α β γ δ : Type}

/-! ## Going together -/

/-- Two workflows that, from stages that are alike, come to results in a relation, or to the same
fault, and to stages that are alike. -/
def GoTogether (scheme : PasswordScheme) (related : α → β → Prop) (workflow : Workflow α)
    (other : Workflow β) : Prop :=
  ∀ former latter : Progress, former.Alike scheme latter →
    ResultsAlike related (runFrom workflow former).1 (runFrom other latter).1 ∧
      (runFrom workflow former).2.Alike scheme (runFrom other latter).2

theorem GoTogether.bind {related : α → β → Prop} {onward : γ → δ → Prop} {workflow : Workflow α}
    {other : Workflow β} {next : α → Workflow γ} {next' : β → Workflow δ}
    (first : GoTogether scheme related workflow other)
    (rest : ∀ a b, related a b → GoTogether scheme onward (next a) (next' b)) :
    GoTogether scheme onward (workflow >>= next) (other >>= next') := by
  intro former latter alike
  obtain ⟨results, stages⟩ := first former latter alike
  rw [runFrom_bind, runFrom_bind]
  generalize runFrom workflow former = step at results stages
  generalize runFrom other latter = step' at results stages
  obtain ⟨result, later⟩ := step
  obtain ⟨result', later'⟩ := step'
  cases results with
  | ok values => exact rest _ _ values later later' stages
  | error fault => exact ⟨.error fault, stages⟩

/-- What follows a step with one result for both. -/
theorem GoTogether.bind_eq {onward : γ → δ → Prop} {workflow other : Workflow α}
    {next : α → Workflow γ} {next' : α → Workflow δ}
    (first : GoTogether scheme Eq workflow other)
    (rest : ∀ a, GoTogether scheme onward (next a) (next' a)) :
    GoTogether scheme onward (workflow >>= next) (other >>= next') :=
  first.bind fun a _ same => same ▸ rest a

theorem goTogether_lift {related : α → β → Prop} {result : Except Fault α}
    {result' : Except Fault β} (results : ResultsAlike related result result') :
    GoTogether scheme related (liftM result) (liftM result') :=
  fun _ _ alike => ⟨results, alike⟩

theorem goTogether_pure {related : α → β → Prop} {a : α} {b : β} (values : related a b) :
    GoTogether scheme related (pure a) (pure b) :=
  goTogether_lift (.ok values)

theorem goTogether_throw {related : α → β → Prop} (fault : Fault) :
    GoTogether scheme related (throw fault) (throw fault) :=
  fun _ _ alike => ⟨.error fault, alike⟩

/-! ## Transactions -/

theorem goTogether_connect : GoTogether scheme Eq connect connect := by
  intro former latter alike
  rw [runFrom_connect, runFrom_connect]
  exact ⟨alike.database.connect.map fun _ _ _ => rfl, alike.used⟩

theorem goTogether_begin : GoTogether scheme Eq begin begin := by
  intro former latter alike
  have connected := alike.database.connect
  rw [runFrom_begin, runFrom_begin]
  generalize former.database.connect = opened at connected
  generalize latter.database.connect = opened' at connected
  cases connected with
  | ok tables => exact ⟨.ok rfl, alike.moment, alike.database, .some tables, alike.letters⟩
  | error fault => exact ⟨.error fault, alike.used⟩

theorem goTogether_commit : GoTogether scheme Eq commit commit :=
  fun _ _ alike => ⟨.ok rfl, alike.used.committed⟩

theorem goTogether_queue (letter : Mail.Letter) :
    GoTogether scheme Eq (queue letter) (queue letter) :=
  fun _ _ alike =>
    ⟨.ok rfl, alike.moment, alike.database, alike.work, congrArg (· ++ [letter]) alike.letters⟩

/-! ## Statements -/

theorem goTogether_look : GoTogether scheme (Tables.Alike scheme) look look :=
  fun _ _ alike => ⟨.ok alike.tables, alike.used⟩

/-- What a statement that writes alike leads to. -/
theorem settled_alike {related : α → β → Prop} {former latter : Progress}
    (alike : former.Alike scheme latter) {written : Except Fault (α × Tables)}
    {written' : Except Fault (β × Tables)}
    (writes : Tables.Alike.Written scheme related written written') :
    ResultsAlike related (former.settled written).1 (latter.settled written').1 ∧
      (former.settled written).2.Alike scheme (latter.settled written').2 := by
  cases writes with
  | ok values => exact ⟨.ok values.1, alike.write values.2⟩
  | error fault => exact ⟨.error fault, alike⟩

theorem goTogether_change {related : α → β → Prop} {statement : Tables → Except Fault (α × Tables)}
    {statement' : Tables → Except Fault (β × Tables)}
    (writes : ∀ former latter : Tables, former.Alike scheme latter →
      Tables.Alike.Written scheme related (statement former) (statement' latter)) :
    GoTogether scheme related (change statement) (change statement') := by
  intro former latter alike
  rw [runFrom_change, runFrom_change]
  exact settled_alike alike.used (writes _ _ alike.tables)

/-- What is found in both of two states, or in neither. -/
theorem found_alike {former latter : Option Account} (fault : Fault)
    (alike : Option.Rel (Account.Alike scheme) former latter) :
    ResultsAlike (Account.Alike scheme) (Service.found fault former)
      (Service.found fault latter) := by
  cases alike with
  | none => exact .error fault
  | some here => exact .ok here

theorem goTogether_holder (fault : Fault) (scope : Scope) (plaintext : String) :
    GoTogether scheme (Account.Alike scheme) (holder fault scope plaintext)
      (holder fault scope plaintext) := by
  intro former latter alike
  rw [runFrom_holder, runFrom_holder, alike.moment]
  exact ⟨found_alike fault (alike.tables.accountByToken? scope _ _), alike.used⟩

theorem goTogether_createAccount (new : NewAccount) :
    GoTogether scheme (Account.Alike scheme) (createAccount new) (createAccount new) := by
  intro former latter alike
  rw [runFrom_createAccount, runFrom_createAccount, alike.moment]
  exact settled_alike alike.used (alike.tables.createAccount _ new)

theorem goTogether_updateAccount {changed changed' : Account}
    (changes : changed.Alike scheme changed') :
    GoTogether scheme (Account.Alike scheme) (updateAccount changed) (updateAccount changed') :=
  goTogether_change fun _ _ alike => alike.updateAccount changes

theorem goTogether_grant (id : Int) (permissions : List Permission) :
    GoTogether scheme Eq (grant id permissions) (grant id permissions) := by
  induction permissions with
  | nil => exact goTogether_pure rfl
  | cons permission rest ih =>
      refine (goTogether_change fun former latter alike => ?_).bind_eq fun _ => ih
      exact (alike.grantOne id permission).map fun _ _ granted => ⟨rfl, granted⟩

theorem goTogether_removeToken (id : Int) (scope : Scope) :
    GoTogether scheme Eq (removeToken id scope) (removeToken id scope) := by
  refine goTogether_change fun former latter alike => .ok ⟨?_, alike.withoutToken id scope⟩
  simp only [Tables.removeToken, alike.tokens]

theorem goTogether_issue (id : Int) (lifetime : Duration) (scope : Scope) :
    GoTogether scheme Eq (issue id lifetime scope) (issue id lifetime scope) := by
  intro former latter alike
  have afterDraw : former.spent.Alike scheme latter.spent := by
    unfold Progress.spent
    rw [alike.moment]
    exact alike.withMoment _
  rw [runFrom_issue, runFrom_issue, alike.moment]
  cases latter.moment.draws with
  | nil => exact ⟨.error _, alike⟩
  | cons draw rest =>
      apply settled_alike afterDraw.used
      exact (alike.tables.insertToken _).map fun _ _ inserted => ⟨rfl, inserted⟩

theorem goTogether_mint (id : Int) (scope : Scope) :
    GoTogether scheme Eq (mint id scope) (mint id scope) := by
  intro former latter alike
  obtain ⟨results, stages⟩ := goTogether_issue id scope.lifetime scope former latter alike
  rw [mint, runFrom_tryCatch, runFrom_tryCatch]
  generalize runFrom (issue id scope.lifetime scope) former = step at results stages
  generalize runFrom (issue id scope.lifetime scope) latter = step' at results stages
  obtain ⟨result, later⟩ := step
  obtain ⟨result', later'⟩ := step'
  cases results with
  | ok values => exact ⟨.ok values, stages⟩
  | error fault =>
      dsimp only
      split
      · have again : GoTogether scheme Eq
            (removeToken id scope >>= fun _ => issue id scope.lifetime scope)
            (removeToken id scope >>= fun _ => issue id scope.lifetime scope) :=
          (goTogether_removeToken id scope).bind_eq fun _ => goTogether_issue id scope.lifetime scope
        exact again later later' stages
      · exact goTogether_throw fault later later' stages

theorem goTogether_hashPassword (password : String) :
    GoTogether scheme Eq (hashPassword scheme password) (hashPassword scheme password) := by
  intro former latter alike
  rw [runFrom_hashPassword, runFrom_hashPassword, alike.moment]
  cases Service.hashPassword scheme latter.moment password with
  | error fault => exact ⟨.error fault, alike⟩
  | ok hashed => exact ⟨.ok rfl, alike.withMoment _⟩

end Workflow

/-- The outcomes of two workflows that go together. -/
structure Outcome.Alike {α β : Type} (scheme : PasswordScheme) (related : α → β → Prop)
    (former : Outcome α) (latter : Outcome β) : Prop where
  result : ResultsAlike related former.result latter.result
  database : former.database.Alike scheme latter.database
  letters : former.letters = latter.letters

theorem Workflow.GoTogether.outcome {α β : Type} {related : α → β → Prop} {workflow : Workflow α}
    {other : Workflow β} (goes : GoTogether scheme related workflow other) (moment : Moment)
    {former latter : Database} (alike : former.Alike scheme latter) :
    Outcome.Alike scheme related (.ofWorkflow moment former workflow)
      (.ofWorkflow moment latter other) := by
  have start : (Progress.start moment former).Alike scheme (.start moment latter) :=
    ⟨rfl, alike, .none, rfl⟩
  obtain ⟨results, stages⟩ := goes _ _ start
  exact ⟨results, stages.database, stages.letters⟩

theorem Outcome.Alike.map {α β γ δ : Type} {related : α → β → Prop} {mapped : γ → δ → Prop}
    {former : Outcome α} {latter : Outcome β} (alike : Outcome.Alike scheme related former latter)
    {f : α → γ} {g : β → δ} (maps : ∀ a b, related a b → mapped (f a) (g b)) :
    Outcome.Alike scheme mapped (former.map f) (latter.map g) :=
  ⟨alike.result.map maps, alike.database, alike.letters⟩

end Gatehouse
