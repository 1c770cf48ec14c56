import Gatehouse.Proofs.History.Addresses

/-!
# The life of a token

A stored token is one that some event has handed out and that no event since then has ended.  This
is so for every row of the store and in every run of calls (`Run.mem_tokens`), because each call
takes away the rows that it ends and adds those of the tokens it hands out, and nothing else
(`Service.Effect.mem_tokens`).

A plaintext therefore leads to an account if and only if it has been handed out for the account and
the scope, has not been ended since, and has not expired (`Run.token_resolves_iff`).
-/

namespace Gatehouse

set_option autoImplicit false

namespace Tables

variable {tables : Tables} {now : Instant}

/-- The rows once an account has a new session. -/
theorem mem_withSession {accountId : Int} {session : Service.Session} {row : TokenRow}
    (renews : Service.Renews now tables accountId session) :
    row ∈ (tables.withSession accountId session).tokens ↔
      (row ∈ tables.tokens ∧ ¬(row.accountId = accountId ∧
        (row.scope = Scope.access.tag ∨ row.scope = Scope.refresh.tag))) ∨
      row = rowOfToken session.access.token ∨ row = rowOfToken session.refresh.token := by
  have accessOwner := renews.access.accountId_eq
  have accessScope := renews.access.scope_eq
  have refreshOwner := renews.refresh.accountId_eq
  have refreshScope := renews.refresh.scope_eq
  have apart : Scope.access.tag ≠ Scope.refresh.tag := by decide
  rw [withSession, mem_withToken, mem_withToken, mem_withoutToken, mem_withoutToken, accessOwner,
    accessScope, refreshOwner, refreshScope]
  constructor
  · rintro (⟨⟨⟨⟨isStored, notRefresh⟩, notAccess⟩, -⟩ | rfl, -⟩ | rfl)
    · refine .inl ⟨isStored, ?_⟩
      rintro ⟨sameId, sameScope | sameScope⟩
      · exact notAccess ⟨sameId, sameScope⟩
      · exact notRefresh ⟨sameId, sameScope⟩
    · exact .inr (.inl rfl)
    · exact .inr (.inr rfl)
  · rintro (⟨isStored, notSession⟩ | rfl | rfl)
    · have notRefresh : ¬(row.accountId = accountId ∧ row.scope = Scope.refresh.tag) :=
        fun slot => notSession ⟨slot.1, .inr slot.2⟩
      have notAccess : ¬(row.accountId = accountId ∧ row.scope = Scope.access.tag) :=
        fun slot => notSession ⟨slot.1, .inl slot.2⟩
      exact .inl ⟨.inl ⟨⟨⟨isStored, notRefresh⟩, notAccess⟩, notAccess⟩, notRefresh⟩
    · refine .inl ⟨.inr rfl, fun slot => apart ?_⟩
      rw [← accessScope]
      exact slot.2
    · exact .inr rfl

/-- The rows once a token has been put in place of another one. -/
theorem mem_replaced {accountId : Int} {scope : Scope} {issued : IssuedToken} {row : TokenRow}
    (mints : (tables.withoutToken accountId scope).Mints now accountId scope issued) :
    row ∈ ((tables.withoutToken accountId scope).withToken issued).tokens ↔
      (row ∈ tables.tokens ∧ ¬(row.accountId = accountId ∧ row.scope = scope.tag)) ∨
        row = rowOfToken issued.token := by
  rw [mem_withToken, mem_withoutToken, mints.accountId_eq, mints.scope_eq, and_assoc, and_self]

end Tables

/-! ## Rows that calls end and add -/

namespace Service

/-- Whether a call, when it succeeds, ends the token that a row stands for. -/
def Call.EndsRow (call : Call) (now : Instant) (before after : Tables) (row : TokenRow) : Prop :=
  call.subject? now before = some row.accountId ∧
    ∃ scope, row.scope = scope.tag ∧ call.Ends (before.ChangesAddress after row.accountId) scope

variable {scheme : PasswordScheme} {now : Instant} {before after : Tables} {row : TokenRow}

/-- The rows that a call leaves if it ends the tokens of an account in some scopes. -/
theorem mem_tokens_of_ends {call : Call} {id : Int} {minted : List IssuedToken}
    (scopes : List Scope) (subject : call.subject? now before = some id)
    (ends : ∀ scope, call.Ends (before.ChangesAddress after id) scope ↔ scope ∈ scopes)
    (rows : row ∈ after.tokens ↔ (row ∈ before.tokens ∧
        ¬(row.accountId = id ∧ ∃ scope ∈ scopes, row.scope = scope.tag)) ∨
      ∃ issued ∈ minted, row = Tables.rowOfToken issued.token) :
    row ∈ after.tokens ↔ (row ∈ before.tokens ∧ ¬call.EndsRow now before after row) ∨
      ∃ issued ∈ minted, row = Tables.rowOfToken issued.token := by
  have isEnded : call.EndsRow now before after row ↔
      row.accountId = id ∧ ∃ scope ∈ scopes, row.scope = scope.tag := by
    rw [Call.EndsRow, subject]
    constructor
    · rintro ⟨same, scope, sameScope, isEnded⟩
      obtain rfl := Option.some.inj same
      exact ⟨rfl, scope, (ends scope).1 isEnded, sameScope⟩
    · rintro ⟨rfl, scope, isEnded, sameScope⟩
      exact ⟨rfl, scope, sameScope, (ends scope).2 isEnded⟩
  rw [rows, isEnded]

/-- The rows that a call leaves if it ends no tokens. -/
theorem mem_tokens_of_adds {call : Call} {minted : List IssuedToken}
    (ends : ∀ id scope, ¬call.Ends (before.ChangesAddress after id) scope)
    (rows : row ∈ after.tokens ↔ row ∈ before.tokens ∨
      ∃ issued ∈ minted, row = Tables.rowOfToken issued.token) :
    row ∈ after.tokens ↔ (row ∈ before.tokens ∧ ¬call.EndsRow now before after row) ∨
      ∃ issued ∈ minted, row = Tables.rowOfToken issued.token := by
  have nothing : ¬call.EndsRow now before after row := fun ⟨_, scope, _, isEnded⟩ =>
    ends row.accountId scope isEnded
  rw [rows, and_iff_left nothing]

/-- A call takes away the rows that it ends and adds those of the tokens it hands out. -/
theorem Effect.mem_tokens {call : Call} {reply : Reply} {letters : List Mail.Letter}
    (effect : Effect scheme now before call reply letters after) (sound : before.Sound)
    (remembers : ∀ caller, call.identity = .known caller → before.Remembers caller) :
    row ∈ after.tokens ↔ (row ∈ before.tokens ∧ ¬call.EndsRow now before after row) ∨
      ∃ issued ∈ reply.tokens, row = Tables.rowOfToken issued.token := by
  have owner {scope : Scope} {plaintext : String} {stored : Account}
      (holds : before.accountByToken? scope (Token.digestOf plaintext) now = some stored) :
      Call.subject?.ownerId? now before scope plaintext = some stored.id :=
    congrArg (Option.map Account.id) holds
  have session {id : Int} {session : Session} (renews : Renews now before id session) :
      row ∈ (before.withSession id session).tokens ↔ (row ∈ before.tokens ∧
          ¬(row.accountId = id ∧ ∃ scope ∈ [Scope.access, .refresh], row.scope = scope.tag)) ∨
        ∃ issued ∈ [session.access, session.refresh], row = Tables.rowOfToken issued.token := by
    rw [Tables.mem_withSession renews]
    simp
  cases effect with
  | register _ _ _ isNext mints =>
      refine mem_tokens_of_adds (fun _ _ => id) ?_
      subst isNext
      -- the new account has no rows yet, so storing its token displaces none
      have isFresh : row ∈ before.tokens → row.accountId ≠ before.lastAccountId + 1 := by
        intro isStored sameId
        obtain ⟨owner, isOwner, owns⟩ := Tables.hasAccount_iff.1 (sound.owners row isStored)
        exact sound.id_ne_next isOwner (owns.trans sameId)
      rw [Tables.mem_withToken, mints.accountId_eq, Tables.tokens_granted]
      constructor
      · rintro (⟨isStored, -⟩ | rfl)
        · exact .inl isStored
        · exact .inr ⟨_, .head _, rfl⟩
      · rintro (isStored | ⟨issued, isIssued, rfl⟩)
        · exact .inl ⟨isStored, fun slot => isFresh isStored slot.1⟩
        · rw [List.mem_singleton.1 isIssued]
          exact .inr rfl
  | activate _ holds =>
      refine mem_tokens_of_ends [.activation] (owner holds) (by simp [Call.Ends]) ?_
      rw [Tables.mem_withoutToken, Tables.tokens_granted]
      simp [Tables.withChange, Reply.tokens]
  | login _ isNamed _ renews =>
      exact mem_tokens_of_ends [.access, .refresh] (congrArg (Option.map Account.id) isNamed)
        (by simp [Call.Ends]) (session renews)
  | refresh _ holds renews =>
      exact mem_tokens_of_ends [.access, .refresh] (owner holds) (by simp [Call.Ends])
        (session renews)
  | logout =>
      refine mem_tokens_of_ends [.access, .refresh] rfl (by simp [Call.Ends]) ?_
      rw [Tables.mem_withoutToken, Tables.mem_withoutToken, and_assoc, ← not_or, ← and_or_left]
      simp [Reply.tokens]
  | requestPasswordReset _ isAt mints =>
      refine mem_tokens_of_ends [.passwordReset] (congrArg (Option.map Account.id) isAt)
        (by simp [Call.Ends]) ?_
      rw [Tables.mem_replaced mints]
      simp [Reply.tokens]
  | updatePassword _ _ holds =>
      refine mem_tokens_of_ends [.passwordReset] (owner holds) (by simp [Call.Ends]) ?_
      rw [Tables.mem_withoutToken]
      simp [Tables.withChange, Reply.tokens]
  | updateInPlace _ isSame isSet accepts =>
      have isKept := isSet.changesAddress_iff sound (remembers _ rfl) accepts _ rfl
      refine mem_tokens_of_ends [] rfl ?_ ?_
      · simp [Call.Ends, isKept, isSame]
      · simp [Tables.withChange, Reply.tokens]
  | updateAddress _ isNew isSet accepts mints =>
      refine mem_tokens_of_ends [.activation] rfl (fun scope => ?_) ?_
      · rw [List.mem_singleton]
        exact and_iff_right
          ((isSet.changesAddress_iff sound (remembers _ rfl) accepts _ rfl).2 isNew)
      · rw [Tables.mem_replaced mints, isSet.id_eq]
        simp [Tables.withChange, Reply.tokens]
  | getAccount | authenticate | requirePermissions | sessionExpiry =>
      refine mem_tokens_of_adds (fun _ _ => id) ?_
      simp [Reply.tokens]

end Service

/-! ## Events -/

variable {scheme : PasswordScheme} {past : History scheme} {database : Database}
  {event : Event scheme} {row : TokenRow}

/-- An event whose call succeeds ends what the call ends. -/
theorem Event.retires_iff {call : Service.Call} {accountId : Int} {scope : Scope}
    (isCall : event.action = .call call) (succeeded : event.answer?.isSome = true) :
    event.Retires accountId scope ↔
      call.subject? event.moment.now event.before.tables = some accountId ∧
        call.Ends (event.ChangesAddress accountId) scope := by
  constructor
  · rintro ⟨other, ⟨isOther, -, subject⟩, ends⟩
    obtain rfl : call = other := by simpa [isCall] using isOther
    exact ⟨subject, ends⟩
  · rintro ⟨subject, ends⟩
    exact ⟨call, ⟨isCall, succeeded, subject⟩, ends⟩

/-- An event takes away the rows of the tokens that it ends and adds those of the tokens that it
hands out. -/
theorem Event.mem_tokens (sound : event.before.tables.Sound)
    (known : ∀ copy, past.Knows copy → event.before.tables.Remembers copy)
    (admitted : past.AdmitsCalls event.action) :
    row ∈ event.after.tables.tokens ↔
      (row ∈ event.before.tables.tokens ∧
        ¬∃ scope, row.scope = scope.tag ∧ event.Retires row.accountId scope) ∨
      ∃ issued ∈ event.minted, row = Tables.rowOfToken issued.token := by
  rcases Event.failed_or_effect known admitted with
    failed | ⟨call, reply, isCall, answered, effect, remembers⟩
  · have nothing : ¬∃ scope, row.scope = scope.tag ∧ event.Retires row.accountId scope := by
      rintro ⟨scope, -, other, ⟨-, succeeded, -⟩, -⟩
      simp [failed] at succeeded
    rw [(Event.unchanged_of_failed failed).1, Event.minted, failed]
    simp [nothing]
  · have same : call.EndsRow event.moment.now event.before.tables event.after.tables row ↔
        ∃ scope, row.scope = scope.tag ∧ event.Retires row.accountId scope := by
      simp only [Event.retires_iff isCall (answered ▸ rfl), Service.Call.EndsRow]
      constructor
      · rintro ⟨subject, scope, sameScope, ends⟩
        exact ⟨scope, sameScope, subject, ends⟩
      · rintro ⟨scope, sameScope, subject, ends⟩
        exact ⟨subject, scope, sameScope, ends⟩
    rw [effect.mem_tokens sound remembers, Event.minted, answered, same]
    rfl

/-! ## Runs -/

/-- A token is kept by one more event if it was kept before and the event does not end it, or if the
event hands it out. -/
theorem History.keeps_concat {issued : IssuedToken} :
    (past ++ [event]).Keeps issued ↔
      (past.Keeps issued ∧ ¬event.Retires issued.token.accountId issued.token.scope) ∨
        issued ∈ event.minted :=
  since_concat

/-- The stored rows are those of the tokens that the run has handed out and not ended. -/
theorem Run.mem_tokens (run : Run scheme History.AdmitsCalls past database) :
    row ∈ database.tables.tokens ↔
      ∃ issued, past.Keeps issued ∧ row = Tables.rowOfToken issued.token := by
  induction run generalizing row with
  | start =>
      constructor
      · intro isStored
        cases isStored
      · rintro ⟨issued, ⟨earlier, event, later, same, -⟩, -⟩
        simp at same
  | step run moment action admitted ih =>
      rw [Event.mem_tokens run.sound run.remembers_of_calls admitted]
      simp only [ih, History.keeps_concat]
      constructor
      · rintro (⟨⟨issued, isKept, rfl⟩, notEnded⟩ | ⟨issued, isMinted, rfl⟩)
        · exact ⟨issued, .inl ⟨isKept, fun ended => notEnded ⟨_, rfl, ended⟩⟩, rfl⟩
        · exact ⟨issued, .inr isMinted, rfl⟩
      · rintro ⟨issued, ⟨isKept, notEnded⟩ | isMinted, rfl⟩
        · refine .inl ⟨⟨issued, isKept, rfl⟩, ?_⟩
          -- the row tells the scope by its tag only
          rintro ⟨scope, sameScope, ended⟩
          have sameTag : issued.token.scope.tag = scope.tag := sameScope
          obtain rfl := Scope.tag_injective sameTag
          exact notEnded ended
        · exact .inr ⟨issued, isMinted, rfl⟩

/-- A call hands out tokens with the digests of their plaintexts. -/
theorem Service.Effect.digest_eq {now : Instant} {before after : Tables} {call : Call}
    {reply : Reply} {letters : List Mail.Letter}
    (effect : Effect scheme now before call reply letters after) :
    ∀ issued ∈ reply.tokens, issued.token.digest = Token.digestOf issued.plaintext := by
  intro issued isIssued
  cases effect with
  | register _ _ _ _ mints | requestPasswordReset _ _ mints | updateAddress _ _ _ _ mints =>
      rw [List.mem_singleton.1 isIssued]
      exact mints.digest_eq
  | login _ _ _ renews | refresh _ _ renews =>
      rcases List.mem_cons.1 isIssued with rfl | isRefresh
      · exact renews.access.digest_eq
      · rw [List.mem_singleton.1 isRefresh]
        exact renews.refresh.digest_eq
  | activate | logout | updatePassword | updateInPlace | getAccount | authenticate
  | requirePermissions | sessionExpiry => cases isIssued

theorem Event.digest_eq {issued : IssuedToken} (isMinted : issued ∈ event.minted) :
    issued.token.digest = Token.digestOf issued.plaintext := by
  have leads := event.leads
  simp only [Event.minted, Event.answer?] at isMinted
  generalize event.outcome = outcome at leads isMinted
  generalize event.action = action at leads
  cases leads with
  | failed | closed => cases isMinted
  | done effect =>
      cases effect with
      | call effect => exact effect.digest_eq issued isMinted
      | createToken draw =>
          rw [List.mem_singleton.1 isMinted]
          obtain ⟨draw, rfl⟩ := draw
          rfl
      | _ => cases isMinted

/-- A token that is kept has been handed out. -/
theorem History.Keeps.minted {issued : IssuedToken} (keeps : past.Keeps issued) :
    issued.token.digest = Token.digestOf issued.plaintext ∧ issued.plaintext ∈ past.minted := by
  obtain ⟨earlier, one, later, rfl, isMinted, -⟩ := keeps
  refine ⟨Event.digest_eq isMinted, List.mem_flatMap.2 ⟨one, by simp, ?_⟩⟩
  exact List.mem_map_of_mem isMinted

/-- **When a token is good.**  At every point of every run of calls, a plaintext leads to an account
in a scope if and only if a token with that plaintext was handed out for the account and the scope,
no call that succeeded since then has ended the account's token in the scope, and the token's expiry
lies ahead, in whole milliseconds. -/
theorem Run.token_resolves_iff (run : Run scheme History.AdmitsCalls past database)
    {plaintext : String} (separates : Token.Separates (plaintext :: past.minted)) (scope : Scope)
    (now : Instant) (account : Account) :
    database.tables.accountByToken? scope (Token.digestOf plaintext) now = some account ↔
      account ∈ database.tables.accounts ∧ ∃ issued, past.Keeps issued ∧
        issued.plaintext = plaintext ∧ issued.token.accountId = account.id ∧
        issued.token.scope = scope ∧ now.milliseconds < issued.token.expiry.milliseconds := by
  rw [run.sound.accountByToken?_eq_some]
  refine and_congr_right fun _ => ?_
  constructor
  · rintro ⟨row, isStored, sameDigest, sameScope, isGood, owner⟩
    obtain ⟨issued, keeps, rfl⟩ := run.mem_tokens.1 isStored
    obtain ⟨digest, isMinted⟩ := keeps.minted
    have same : issued.plaintext = plaintext :=
      separates _ (.tail _ isMinted) _ (.head _) (digest.symm.trans sameDigest)
    have sameTag : issued.token.scope.tag = scope.tag := sameScope
    exact ⟨issued, keeps, same, owner, Scope.tag_injective sameTag, isGood⟩
  · rintro ⟨issued, keeps, rfl, owner, rfl, isGood⟩
    exact ⟨_, run.mem_tokens.2 ⟨issued, keeps, rfl⟩, keeps.minted.1, rfl, isGood, owner⟩

/-! ## A token that is used -/

/-- The scheme of the service, with the text for one password at hand. -/
def sampleScheme : PasswordScheme where
  hash password salt :=
    if password = "Abcdef1!" ∧ salt = .replicate 16 0 then
      .ok ("$argon2id$v=19$m=65536,t=3,p=1$AAAAAAAAAAAAAAAAAAAAAA$"
        ++ "QHDM0/3ekDodAuSs8v6jd2ACr6nZAYPLc7vRmp2ambI")
    else PasswordScheme.argon2id.hash password salt
  verify := PasswordScheme.argon2id.verify

/-- The token made for the first account to activate it with. -/
def sampleToken : IssuedToken :=
  .ofDraw (.replicate 16 0) ⟨0⟩ 1 Scope.activation.lifetime .activation

/-- Somebody registers. -/
def sampleRegistration : Event sampleScheme :=
  ⟨⟨⟨0⟩, [.replicate 16 0, .replicate 16 0]⟩,
    .call (.register "alice" "alice@example.com" "Abcdef1!"), .fresh⟩

/-- The account is activated. -/
def sampleActivation : Event sampleScheme :=
  ⟨⟨⟨0⟩, []⟩, .call (.activate sampleToken.plaintext), sampleRegistration.after⟩

theorem run_sampleRegistration :
    Run sampleScheme History.AdmitsCalls [sampleRegistration] sampleRegistration.after :=
  .step .start _ _ nofun

theorem run_sampleActivation :
    Run sampleScheme History.AdmitsCalls ([sampleRegistration] ++ [sampleActivation])
      sampleActivation.after :=
  .step run_sampleRegistration _ _ nofun

theorem minted_sampleRegistration : sampleRegistration.minted = [sampleToken] := by
  decide +kernel

theorem minted_sampleActivation : sampleActivation.minted = [] := by
  decide +kernel

theorem minted_run_sampleActivation :
    History.minted ([sampleRegistration] ++ [sampleActivation]) = [sampleToken.plaintext] := by
  simp [History.minted, minted_sampleRegistration, minted_sampleActivation]

theorem served_sampleActivation : sampleActivation.Served (.activate sampleToken.plaintext) 1 :=
  ⟨rfl, by decide +kernel, by decide +kernel⟩

theorem Token.separates_replicate (count : Nat) (plaintext : String) :
    Token.Separates (List.replicate count plaintext) := by
  intro former isFormer latter isLatter _
  rw [List.eq_of_mem_replicate isFormer, List.eq_of_mem_replicate isLatter]

/-- An activation token leads to its account until it is used. -/
theorem token_resolves_until_used :
    (∃ account, sampleRegistration.after.tables.accountByToken? .activation
      (Token.digestOf sampleToken.plaintext) ⟨0⟩ = some account) ∧
    ∀ account, sampleActivation.after.tables.accountByToken? .activation
      (Token.digestOf sampleToken.plaintext) ⟨0⟩ ≠ some account := by
  have minted : History.minted [sampleRegistration] = [sampleToken.plaintext] := by
    simp [History.minted, minted_sampleRegistration]
  have minted' := minted_run_sampleActivation
  constructor
  · obtain ⟨account, isStored, isFirst⟩ :
        ∃ account ∈ sampleRegistration.after.tables.accounts, account.id = 1 := by decide +kernel
    have keeps : History.Keeps ([] ++ [sampleRegistration]) sampleToken :=
      History.keeps_concat.2 (.inr (minted_sampleRegistration ▸ .head _))
    refine ⟨account, (Run.token_resolves_iff run_sampleRegistration ?_ _ _ _).2 ?_⟩
    · exact minted ▸ Token.separates_replicate 2 _
    · exact ⟨isStored, sampleToken, keeps, rfl, isFirst.symm, rfl, by decide⟩
  · intro account resolves
    obtain ⟨isStored, issued, keeps, -, owner, sameScope, -⟩ :=
      (Run.token_resolves_iff run_sampleActivation (minted' ▸ Token.separates_replicate 2 _) _ _
        _).1 resolves
    have isFirst : account.id = 1 := by
      have ids : ∀ stored ∈ sampleActivation.after.tables.accounts, stored.id = 1 := by
        decide +kernel
      exact ids account isStored
    rcases History.keeps_concat.1 keeps with ⟨-, notEnded⟩ | isMinted
    · rw [owner, isFirst, sameScope] at notEnded
      exact notEnded ⟨_, served_sampleActivation, rfl⟩
    · rw [minted_sampleActivation] at isMinted
      cases isMinted

end Gatehouse
