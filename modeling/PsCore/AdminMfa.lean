import PsCore.AuthSteps

/-!
The administrators' second factor. Whoever is accepted as an administrator holds a token that
goes back to a second factor of the same account, and that to its password.
-/

namespace PsCore.Auth

open Fallible RowTable Transaction Transaction.Program TransitionRun

/-! Which requests issue tokens that carry the second factor. -/

theorem authenticateVerifiedPhone_plain (settings : Settings) (phoneNumber : String) :
    Answers (fun result => result.claims.mfa = false) (authenticateVerifiedPhone settings phoneNumber) :=
  Answers.atomic <| .bind _ fun _ => .bind _ fun _ => .bind _ fun _ => .bind _ fun _ => .bind _ fun _ => .pure rfl

theorem authenticateWithOtp_plain (settings : Settings) (now : Instant) (phoneNumber otp : String) :
    Answers (fun result => result.claims.mfa = false) (authenticateWithOtp settings now phoneNumber otp) :=
  .bind _ fun _ => .bind _ fun _ => .bind _ fun _ => .bind _ fun _ => authenticateVerifiedPhone_plain settings _

theorem authenticateWithFirebase_plain (settings : Settings) (verified : Except AuthError String) :
    Answers (fun result => result.claims.mfa = false) (authenticateWithFirebase settings verified) :=
  Answers.atomic <| .bind _ fun _ => .bind _ fun _ => authenticateVerifiedPhone_plain settings _

theorem authenticateCustomerAccess_plain (settings : Settings) (name phoneNumber unusable : String) :
    Answers (fun result => result.claims.mfa = false)
      (authenticateCustomerAccess settings name phoneNumber unusable) :=
  Answers.atomic <| .bind _ fun _ => .bind _ fun _ => .bind _ fun _ => .bind _ fun _ => .bind _ fun _ =>
    .bind _ fun _ => .bind _ fun _ => .pure rfl

theorem registerWithPassword_plain (settings : Settings) (phoneNumber password salt : String)
    (fields : ProfileFields) :
    Answers (fun result => result.claims.mfa = false)
      (registerWithPassword settings phoneNumber password salt fields) :=
  Answers.atomic <| .bind _ fun _ => .bind _ fun _ => .bind _ fun _ => .bind _ fun _ => .bind _ fun _ =>
    .bind _ fun _ => .pure rfl

theorem devPhoneLogin_plain {settings : Settings} (production : settings.debug = false) (phoneNumber : String) :
    Answers (fun result => result.claims.mfa = false) (devPhoneLogin settings phoneNumber) := by
  refine .bind _ fun _ => .bind _ fun _ => Answers.atomic <| .bind _ fun normalized => .bind _ fun found => ?_
  cases found.filter (·.2.role.isAdmin) with
  | none => exact authenticateVerifiedPhone_plain settings normalized
  | some account => exact .bind _ fun _ => .pure production

section

variable {settings : Settings} (enabled : settings.adminMfaEnabled = true) (production : settings.debug = false)

include enabled production

theorem secondFactor_of_mfa {db : AuthDb} {now : Instant} {request : AuthRequest} {result : LoginResult}
    (answer : ((handle settings now request).run db).answer = .ok (.loggedIn result))
    (carries : result.claims.mfa = true) : ∃ challengeId otp, request = .completeAdminMfa challengeId otp := by
  have plain {login : AuthProgram LoginResult} (answers : Answers (fun result => result.claims.mfa = false) login)
      (accepted : ((answering login).run db).answer = .ok (.loggedIn result)) : False := by
    rw [answering_run] at accepted
    cases logged : (login.run db).answer with
    | error error => simp [logged, Except.map] at accepted
    | ok value =>
        simp only [logged, Except.map, Except.ok.injEq, Reply.loggedIn.injEq] at accepted
        subst accepted
        rw [answers db value logged] at carries
        cases carries
  cases request with
  | completeAdminMfa challengeId otp => exact ⟨challengeId, otp, rfl⟩
  | sendLoginOtp phoneNumber channel delivery =>
      have noLogin : Answers (fun reply : Reply => ∀ result, reply ≠ .loggedIn result)
          (handle settings now (.sendLoginOtp phoneNumber channel delivery)) := .bind _ fun _ => .pure nofun
      exact absurd rfl (noLogin db _ answer result)
  | authenticateWithOtp phoneNumber otp => exact (plain (authenticateWithOtp_plain settings now phoneNumber otp) answer).elim
  | authenticateWithFirebase verified => exact (plain (authenticateWithFirebase_plain settings verified) answer).elim
  | authenticateCustomerAccess name phoneNumber unusable =>
      exact (plain (authenticateCustomerAccess_plain settings name phoneNumber unusable) answer).elim
  | registerWithPassword phoneNumber password salt fields =>
      exact (plain (registerWithPassword_plain settings phoneNumber password salt fields) answer).elim
  | devPhoneLogin phoneNumber => exact (plain (devPhoneLogin_plain production phoneNumber) answer).elim
  | authenticateWithPassword phoneNumber password channel delivery =>
      obtain ⟨_, userId, user, _, _, _, _, ⟨_, isReply, _⟩ | ⟨noMfa, isReply, _⟩⟩ :=
        authenticateWithPassword_returns (returns_of_answer answer)
      · cases isReply
      · -- An administrator would have got a challenge.
        rw [enabled, Bool.and_true] at noMfa
        cases isReply
        rw [show _ = user.role.isAdmin from rfl, noMfa] at carries
        cases carries

end

def AdminMfaChallenge.Follows (before after : AdminMfaChallenge) : Prop :=
  after.user = before.user ∧ (before.consumedAt.isSome = true → after.consumedAt.isSome = true)

theorem AdminMfaChallenge.Follows.refl (challenge : AdminMfaChallenge) : challenge.Follows challenge :=
  ⟨rfl, id⟩

theorem AdminMfaChallenge.Follows.trans (first second third : AdminMfaChallenge) (earlier : first.Follows second)
    (later : second.Follows third) : first.Follows third :=
  ⟨later.1.trans earlier.1, fun used => later.2 (earlier.2 used)⟩

theorem consumedBy_follows (now : Instant) (userId : UserId) (challenge : AdminMfaChallenge) :
    challenge.Follows (challenge.consumedBy now userId) := by
  unfold AdminMfaChallenge.consumedBy
  split
  · exact ⟨rfl, fun _ => rfl⟩
  · exact .refl challenge

structure ChallengesFollow (settings : Settings) (state : AuthState) (input : AuthInput) : Prop where
  kept : KeptBy AdminMfaChallenge.Follows state.db.mfaChallenges (state.step settings input).db.mfaChallenges
  added : ∀ (challengeId : ChallengeId) (challenge : AdminMfaChallenge),
    state.db.mfaChallenges[challengeId]? = none →
    (state.step settings input).db.mfaChallenges[challengeId]? = some challenge →
    ∃ now phoneNumber password channel delivery expiresIn,
      input = .request now (.authenticateWithPassword phoneNumber password channel delivery) ∧
      (state.outcome settings now (.authenticateWithPassword phoneNumber password channel delivery)).answer =
        .ok (.mfaRequired challengeId channel expiresIn) ∧
      ∃ normalized owner, normalizePhoneNumber phoneNumber = .ok normalized ∧
        state.db.userOfPhone normalized = some (challenge.user, owner) ∧
        settings.checkPassword password owner.password = true

theorem ChallengesFollow.of_same {settings : Settings} {state : AuthState} {input : AuthInput}
    (same : (state.step settings input).db.mfaChallenges = state.db.mfaChallenges) :
    ChallengesFollow settings state input where
  kept := by
    rw [same]
    exact KeptBy.refl AdminMfaChallenge.Follows.refl _
  added := by
    intro challengeId challenge absent present
    rw [same, absent] at present
    cases present

def KeepsChallenges (db : AuthDb) (_events : List AuthEvent) (next : AuthDb) : Prop :=
  next.mfaChallenges = db.mfaChallenges

theorem keepsChallenges_composes : Composes KeepsChallenges where
  idle := fun _ => rfl
  trans := fun _ _ _ _ _ earlier later => later.trans earlier

theorem authenticateWithOtp_keepsChallenges (settings : Settings) (now : Instant) (phoneNumber otp : String) :
    Respects KeepsChallenges (authenticateWithOtp settings now phoneNumber otp) := by
  refine keepsChallenges_composes.bind (keepsChallenges_composes.lift _) fun normalized => ?_
  refine keepsChallenges_composes.bind (keepsChallenges_composes.read _) fun found => ?_
  refine keepsChallenges_composes.bind (keepsChallenges_composes.lift _) fun _ => ?_
  refine keepsChallenges_composes.bind (fun db => (verifyOtp_codesOnly settings now _ otp db).2) fun _ => ?_
  exact fun db => (authenticateVerifiedPhone_accountsOnly settings normalized db).2.1

theorem startMfa_follow {settings : Settings} {now : Instant} {userId : UserId} {channel : String} {db : AuthDb} :
    KeptBy AdminMfaChallenge.Follows db.mfaChallenges (db.startMfa settings now userId channel).mfaChallenges ∧
    ∀ (challengeId : ChallengeId) (challenge : AdminMfaChallenge), db.mfaChallenges[challengeId]? = none →
      (db.startMfa settings now userId channel).mfaChallenges[challengeId]? = some challenge →
      challengeId = db.mfaChallenges.length ∧ challenge.user = userId := by
  constructor
  · intro challengeId challenge present
    refine ⟨challenge.consumedBy now userId, ?_, consumedBy_follows now userId challenge⟩
    have below : challengeId < db.mfaChallenges.length := (List.getElem?_eq_some_iff.mp present).1
    rw [AuthDb.startMfa, List.getElem?_append_left (by simpa using below), List.getElem?_map, present]
    rfl
  · intro challengeId challenge absent present
    rcases append_cases present with old | ⟨atEnd, rfl⟩
    · rw [List.getElem?_map, absent] at old
      cases old
    · exact ⟨by simpa using atEnd, rfl⟩

section

variable (settings : Settings) (state : AuthState) (now : Instant)

theorem sendLoginOtp_follow (phoneNumber channel : String) (delivery : Delivery) :
    ChallengesFollow settings state (.request now (.sendLoginOtp phoneNumber channel delivery)) := by
  refine .of_same ?_
  unfold AuthState.step AuthState.outcome handle
  simp only [run_bind]
  rcases sendLoginOtp_cases settings now phoneNumber channel delivery false state.db with
    ⟨requestId, mobile, code, ran⟩ | ⟨error, ran⟩
  · rw [ran]
    rfl
  · rw [ran]
    rfl

theorem authenticateWithPassword_follow (phoneNumber password channel : String) (delivery : Delivery) :
    ChallengesFollow settings state (.request now (.authenticateWithPassword phoneNumber password channel delivery)) := by
  cases answer : (state.outcome settings now
      (.authenticateWithPassword phoneNumber password channel delivery)).answer with
  | error error =>
      have unchanged := atomic_error answer
      exact .of_same (congrArg AuthDb.mfaChallenges unchanged)
  | ok reply =>
      obtain ⟨normalized, userId, user, isNormalized, found, _, checked, ⟨_, isReply, mobile, code, isNext⟩ |
        ⟨_, _, stored, _, isNext⟩⟩ := authenticateWithPassword_returns (returns_of_answer answer)
      · have next : (state.step settings (.request now
            (.authenticateWithPassword phoneNumber password channel delivery))).db =
            (state.db.storeOtp mobile code).startMfa settings now userId channel := isNext
        constructor
        · rw [next]
          exact startMfa_follow.1
        · intro challengeId challenge absent present
          rw [next] at present
          obtain ⟨rfl, owns⟩ := startMfa_follow.2 challengeId challenge absent present
          subst isReply
          exact ⟨now, phoneNumber, password, channel, delivery, _, rfl, answer, normalized, user,
            isNormalized, owns ▸ found, checked⟩
      · have next : (state.step settings (.request now
            (.authenticateWithPassword phoneNumber password channel delivery))).db =
            { state.db with users := stored } := isNext
        exact .of_same (by rw [next])

theorem completeAdminMfa_follow (challengeId : ChallengeId) (otp : String) :
    ChallengesFollow settings state (.request now (.completeAdminMfa challengeId otp)) := by
  have step_db : (state.step settings (.request now (.completeAdminMfa challengeId otp))).db =
      ((completeAdminMfa settings now challengeId otp).run state.db).db := by
    unfold AuthState.step AuthState.outcome handle
    simp only [answering_run]
  rcases completeAdminMfa_cases settings now challengeId otp state.db with
    ⟨challenge, user, code, reaches, _, ran⟩ | ⟨error, ran⟩ | ⟨challenge, user, code, error, _, _, ran⟩
  · have written : (state.step settings (.request now (.completeAdminMfa challengeId otp))).db.mfaChallenges =
        state.db.mfaChallenges.set challengeId { challenge with consumedAt := some now } := by
      rw [step_db, ran]
    constructor
    · rw [written]
      exact KeptBy.set AdminMfaChallenge.Follows.refl reaches.found ⟨rfl, fun _ => rfl⟩
    · intro otherId other absent present
      rw [written] at present
      rcases set_cases present with ⟨rfl, _⟩ | old
      · rw [reaches.found] at absent
        cases absent
      · rw [old] at absent
        cases absent
  · exact .of_same (by rw [step_db, ran])
  · exact .of_same (by rw [step_db, ran])

end

theorem challenges_step (settings : Settings) (state : AuthState) (input : AuthInput) :
    ChallengesFollow settings state input := by
  cases input with
  | refresh token => exact .of_same rfl
  | editUser userId user => exact .of_same rfl
  | addUser user => exact .of_same rfl
  | request now request =>
      by_cases codeless : request.needsNoCode = true
      · exact .of_same (handle_accountsOnly settings now codeless state.db).2.1
      · cases request with
        | sendLoginOtp phoneNumber channel delivery =>
            exact sendLoginOtp_follow settings state now phoneNumber channel delivery
        | authenticateWithOtp phoneNumber otp =>
            exact .of_same (answering_respects (authenticateWithOtp_keepsChallenges settings now phoneNumber otp)
              state.db)
        | authenticateWithPassword phoneNumber password channel delivery =>
            exact authenticateWithPassword_follow settings state now phoneNumber password channel delivery
        | completeAdminMfa challengeId otp => exact completeAdminMfa_follow settings state now challengeId otp
        | authenticateWithFirebase => exact absurd rfl codeless
        | authenticateCustomerAccess => exact absurd rfl codeless
        | registerWithPassword => exact absurd rfl codeless
        | devPhoneLogin => exact absurd rfl codeless

def PasswordProven (settings : Settings) (start : AuthState) (inputs : List AuthInput) (challengeId : ChallengeId)
    (userId : UserId) : Prop :=
  ∃ earlier now phoneNumber password channel delivery later expiresIn,
    inputs = earlier ++ .request now (.authenticateWithPassword phoneNumber password channel delivery) :: later ∧
    ((runAll (AuthState.step settings) start earlier).outcome settings now
      (.authenticateWithPassword phoneNumber password channel delivery)).answer =
        .ok (.mfaRequired challengeId channel expiresIn) ∧
    ∃ normalized owner, normalizePhoneNumber phoneNumber = .ok normalized ∧
      (runAll (AuthState.step settings) start earlier).db.userOfPhone normalized = some (userId, owner) ∧
      settings.checkPassword password owner.password = true

theorem challenge_proven {settings : Settings} {start : AuthState} {inputs : List AuthInput}
    (fresh : start.db.mfaChallenges = []) {challengeId : ChallengeId} {challenge : AdminMfaChallenge}
    (present : (runAll (AuthState.step settings) start inputs).db.mfaChallenges[challengeId]? = some challenge) :
    PasswordProven settings start inputs challengeId challenge.user := by
  let owned (state : AuthState) : Prop :=
    ∃ row, state.db.mfaChallenges[challengeId]? = some row ∧ row.user = challenge.user
  have absent : ¬ owned start := by
    rintro ⟨row, found, _⟩
    rw [fresh] at found
    cases found
  obtain ⟨earlier, input, later, rfl, notYet, row, found, sameUser⟩ :=
    runAll_becomes owned absent ⟨challenge, present, rfl⟩
  have follow := challenges_step settings (runAll (AuthState.step settings) start earlier) input
  cases before : (runAll (AuthState.step settings) start earlier).db.mfaChallenges[challengeId]? with
  | some old =>
      obtain ⟨after, foundAfter, follows⟩ := follow.kept challengeId old before
      rw [found, Option.some.injEq] at foundAfter
      subst foundAfter
      exact absurd ⟨old, before, follows.1.symm.trans sameUser⟩ notYet
  | none =>
      obtain ⟨now, phoneNumber, password, channel, delivery, expiresIn, rfl, answer, normalized, owner, isNormalized,
        isOwner, checked⟩ := follow.added challengeId row before found
      exact ⟨earlier, now, phoneNumber, password, channel, delivery, later, expiresIn, rfl, answer, normalized, owner,
        isNormalized, sameUser ▸ isOwner, checked⟩

/-- The token is the other one, or was refreshed from it, from one refreshed from it, and so on. -/
inductive Descends (tokens : List Token) : TokenId → TokenId → Prop
  | self (token : TokenId) : Descends tokens token token
  | refreshed {tokenId parent root : TokenId} {token : Token} (found : tokens[tokenId]? = some token)
      (refreshes : token.parent = some parent) (descends : Descends tokens parent root) : Descends tokens tokenId root

theorem tokens_step (settings : Settings) (state : AuthState) (input : AuthInput) :
    ∃ added, (state.step settings input).tokens = state.tokens ++ added := by
  cases input with
  | request now request => exact ⟨_, rfl⟩
  | refresh token => exact ⟨_, rfl⟩
  | editUser userId user => exact ⟨[], (List.append_nil _).symm⟩
  | addUser user => exact ⟨[], (List.append_nil _).symm⟩

theorem tokens_run (settings : Settings) (state : AuthState) (inputs : List AuthInput) :
    ∃ added, (runAll (AuthState.step settings) state inputs).tokens = state.tokens ++ added := by
  induction inputs generalizing state with
  | nil => exact ⟨[], (List.append_nil _).symm⟩
  | cons input rest ih =>
      obtain ⟨first, stepped⟩ := tokens_step settings state input
      obtain ⟨second, ran⟩ := ih (state.step settings input)
      exact ⟨first ++ second, by rw [runAll_cons, ran, stepped, List.append_assoc]⟩

theorem token_kept {settings : Settings} {start : AuthState} (earlier later : List AuthInput) {tokenId : TokenId}
    {token : Token} (found : (runAll (AuthState.step settings) start earlier).tokens[tokenId]? = some token) :
    (runAll (AuthState.step settings) start (earlier ++ later)).tokens[tokenId]? = some token := by
  obtain ⟨added, grown⟩ := tokens_run settings (runAll (AuthState.step settings) start earlier) later
  rw [runAll_append, grown, List.getElem?_append_left (List.getElem?_eq_some_iff.mp found).1, found]

theorem token_added {settings : Settings} {state : AuthState} {input : AuthInput} {tokenId : TokenId} {token : Token}
    (absent : state.tokens[tokenId]? ≠ some token)
    (present : (state.step settings input).tokens[tokenId]? = some token) :
    tokenId = state.tokens.length ∧
      ((∃ now request result, input = .request now request ∧
          (state.outcome settings now request).answer = .ok (.loggedIn result) ∧ token.claims = result.claims) ∨
        ∃ parent old, state.tokens[parent]? = some old ∧ token = { claims := old.claims, parent := some parent }) := by
  cases input with
  | editUser userId user => exact absurd present absent
  | addUser user => exact absurd present absent
  | request now request =>
      have grown : (state.step settings (.request now request)).tokens =
        state.tokens ++ issued (state.outcome settings now request).answer := rfl
      rw [grown] at present
      unfold issued at present
      split at present
      · rename_i result answer
        rcases append_cases present with old | ⟨atEnd, rfl⟩
        · exact absurd old absent
        · exact ⟨atEnd, .inl ⟨now, request, result, rfl, answer, rfl⟩⟩
      · rw [List.append_nil] at present
        exact absurd present absent
  | refresh parent =>
      have grown : (state.step settings (.refresh parent)).tokens = state.tokens ++ refreshed parent state.tokens := rfl
      rw [grown] at present
      unfold refreshed at present
      cases found : state.tokens[parent]? with
      | none =>
          rw [found, Option.map_none, Option.toList_none, List.append_nil] at present
          exact absurd present absent
      | some old =>
          rw [found, Option.map_some, Option.toList_some] at present
          rcases append_cases present with earlier | ⟨atEnd, rfl⟩
          · exact absurd earlier absent
          · exact ⟨atEnd, .inr ⟨parent, old, found, rfl⟩⟩

/-- A login of the run has issued the token that this one descends from, with the same claims. -/
theorem token_issued {settings : Settings} {start : AuthState} {inputs : List AuthInput} (noTokens : start.tokens = [])
    (tokenId : TokenId) : ∀ token, (runAll (AuthState.step settings) start inputs).tokens[tokenId]? = some token →
    ∃ earlier now request later result, inputs = earlier ++ .request now request :: later ∧
      ((runAll (AuthState.step settings) start earlier).outcome settings now request).answer =
        .ok (.loggedIn result) ∧ result.claims = token.claims ∧
      Descends (runAll (AuthState.step settings) start inputs).tokens tokenId
        (runAll (AuthState.step settings) start earlier).tokens.length := by
  induction tokenId using Nat.strongRecOn with
  | ind tokenId ih =>
      intro token present
      have absent : ¬ start.tokens[tokenId]? = some token := by simp [noTokens]
      obtain ⟨earlier, input, later, split, notYet, added⟩ :=
        runAll_becomes (fun state : AuthState => state.tokens[tokenId]? = some token) absent present
      obtain ⟨atEnd, ⟨now, request, result, rfl, answer, sameClaims⟩ | ⟨parent, old, found, rfl⟩⟩ :=
        token_added notYet added
      · exact ⟨earlier, now, request, later, result, split, answer, sameClaims.symm, atEnd ▸ .self tokenId⟩
      · have below : parent < tokenId := atEnd ▸ (List.getElem?_eq_some_iff.mp found).1
        have foundParent := token_kept earlier (input :: later) found
        rw [← split] at foundParent
        obtain ⟨first, now, request, last, result, position, answer, sameClaims, descends⟩ :=
          ih parent below old foundParent
        exact ⟨first, now, request, last, result, position, answer, sameClaims, .refreshed present rfl descends⟩

/-- A token of the user's own second factor is behind this one, and a password login of the user
behind the challenge. -/
def SecondFactorProven (settings : Settings) (start : AuthState) (inputs : List AuthInput) (tokenId : TokenId)
    (userId : UserId) : Prop :=
  ∃ before now challengeId otp after result,
    inputs = before ++ .request now (.completeAdminMfa challengeId otp) :: after ∧
    ((runAll (AuthState.step settings) start before).outcome settings now (.completeAdminMfa challengeId otp)).answer =
      .ok (.loggedIn result) ∧ result.user = userId ∧
    Descends (runAll (AuthState.step settings) start inputs).tokens tokenId
      (runAll (AuthState.step settings) start before).tokens.length ∧
    PasswordProven settings start before challengeId userId

theorem getUser_accepted {settings : Settings} {db : AuthDb} {claims : TokenClaims} {user : User}
    (accepted : getUser settings db claims = .ok user) :
    db.users.rows[claims.user]? = some user ∧
      (settings.adminMfaEnabled && user.role.isAdmin && !claims.mfa) = false := by
  unfold getUser at accepted
  simp only [accepted_bind, accepted_orRaise, accepted_require, accepted_pure] at accepted
  obtain ⟨found, present, _, _, _, _, _, mfa, rfl⟩ := accepted
  exact ⟨present, mfa⟩

theorem completeAdminMfa_accepted {settings : Settings} {state : AuthState} {now : Instant} {challengeId : ChallengeId}
    {otp : String} {reply : Reply}
    (answer : (state.outcome settings now (.completeAdminMfa challengeId otp)).answer = .ok reply) :
    ∃ challenge user, state.db.mfaChallenges[challengeId]? = some challenge ∧ challenge.isOpen now = true ∧
      reply = .loggedIn (loginResult settings challenge.user user false true) ∧
      (state.step settings (.request now (.completeAdminMfa challengeId otp))).db.mfaChallenges[challengeId]? =
        some { challenge with consumedAt := some now } := by
  have ran_eq : state.outcome settings now (.completeAdminMfa challengeId otp) = _ := answering_run _ _
  rcases completeAdminMfa_cases settings now challengeId otp state.db with
    ⟨challenge, user, code, reaches, _, ran⟩ | ⟨error, ran⟩ | ⟨challenge, user, code, error, _, _, ran⟩
  · rw [ran] at ran_eq
    rw [ran_eq] at answer
    simp only [Except.map, Except.ok.injEq] at answer
    refine ⟨challenge, user, reaches.found, reaches.isOpen, answer.symm, ?_⟩
    have below : challengeId < state.db.mfaChallenges.length := (List.getElem?_eq_some_iff.mp reaches.found).1
    unfold AuthState.step
    simp only [ran_eq, List.getElem?_set_self below]
  · rw [ran_eq, ran] at answer
    cases answer
  · rw [ran_eq, ran] at answer
    cases answer

theorem challenges_run (settings : Settings) (state : AuthState) (inputs : List AuthInput) :
    KeptBy AdminMfaChallenge.Follows state.db.mfaChallenges
      (runAll (AuthState.step settings) state inputs).db.mfaChallenges := by
  induction inputs generalizing state with
  | nil => exact KeptBy.refl AdminMfaChallenge.Follows.refl _
  | cons input rest ih =>
      exact KeptBy.trans AdminMfaChallenge.Follows.trans (challenges_step settings state input).kept (ih _)

theorem acceptedAdmin_proven {settings : Settings} (enabled : settings.adminMfaEnabled = true)
    (production : settings.debug = false) {start : AuthState} (noTokens : start.tokens = [])
    (noChallenges : start.db.mfaChallenges = []) {inputs : List AuthInput} {tokenId : TokenId} {token : Token}
    {user : User} (holds : (runAll (AuthState.step settings) start inputs).tokens[tokenId]? = some token)
    (accepted : getUser settings (runAll (AuthState.step settings) start inputs).db token.claims = .ok user)
    (isAdmin : user.role.isAdmin = true) : SecondFactorProven settings start inputs tokenId token.claims.user := by
  have carries : token.claims.mfa = true := by
    have mfa := (getUser_accepted accepted).2
    simpa [enabled, isAdmin] using mfa
  obtain ⟨before, now, request, after, result, split, answer, sameClaims, descends⟩ :=
    token_issued noTokens tokenId token holds
  obtain ⟨challengeId, otp, rfl⟩ := secondFactor_of_mfa enabled production answer (sameClaims ▸ carries)
  obtain ⟨challenge, owner, found, _, isReply, _⟩ := completeAdminMfa_accepted answer
  rw [Reply.loggedIn.injEq] at isReply
  have isUser : challenge.user = token.claims.user := by
    rw [← sameClaims, isReply]
    rfl
  refine ⟨before, now, challengeId, otp, after, result, split, answer, ?_, descends, ?_⟩
  · rw [isReply]
    exact isUser
  · exact isUser ▸ challenge_proven noChallenges found

theorem challenge_usedOnce {settings : Settings} {state : AuthState} {first second : Instant}
    {challengeId : ChallengeId} {firstOtp secondOtp : String} {middle : List AuthInput} {firstReply secondReply : Reply}
    (firstAnswer : (state.outcome settings first (.completeAdminMfa challengeId firstOtp)).answer = .ok firstReply)
    (secondAnswer : ((runAll (AuthState.step settings)
      (state.step settings (.request first (.completeAdminMfa challengeId firstOtp))) middle).outcome settings second
      (.completeAdminMfa challengeId secondOtp)).answer = .ok secondReply) : False := by
  obtain ⟨challenge, _, _, _, _, used⟩ := completeAdminMfa_accepted firstAnswer
  obtain ⟨later, _, found, isOpen, _⟩ := completeAdminMfa_accepted secondAnswer
  obtain ⟨kept, foundKept, follows⟩ := challenges_run settings _ middle challengeId _ used
  rw [found, Option.some.injEq] at foundKept
  subst foundKept
  have stillUsed := follows.2 rfl
  simp only [AdminMfaChallenge.isOpen, Bool.and_eq_true, Option.isNone_iff_eq_none] at isOpen
  rw [isOpen.1] at stillUsed
  cases stillUsed

/-- Whoever is accepted as an administrator has completed the second factor of that account,
after its password; and a challenge is good for one login. -/
theorem adminMfa_notBypassed (settings : Settings) (enabled : settings.adminMfaEnabled = true)
    (production : settings.debug = false) (start : AuthState) (noTokens : start.tokens = [])
    (noChallenges : start.db.mfaChallenges = []) (inputs : List AuthInput) :
    (∀ tokenId token user, (runAll (AuthState.step settings) start inputs).tokens[tokenId]? = some token →
      getUser settings (runAll (AuthState.step settings) start inputs).db token.claims = .ok user →
      user.role.isAdmin = true → SecondFactorProven settings start inputs tokenId token.claims.user) ∧
    (∀ before first challengeId firstOtp middle second secondOtp after,
      inputs = before ++ .request first (.completeAdminMfa challengeId firstOtp) ::
        (middle ++ .request second (.completeAdminMfa challengeId secondOtp) :: after) →
      ¬ (((runAll (AuthState.step settings) start before).outcome settings first
            (.completeAdminMfa challengeId firstOtp)).answer.isOk = true ∧
          ((runAll (AuthState.step settings) start
            (before ++ .request first (.completeAdminMfa challengeId firstOtp) :: middle)).outcome settings second
            (.completeAdminMfa challengeId secondOtp)).answer.isOk = true)) := by
  constructor
  · intro tokenId token user holds accepted isAdmin
    exact acceptedAdmin_proven enabled production noTokens noChallenges holds accepted isAdmin
  · rintro before first challengeId firstOtp middle second secondOtp after _ ⟨firstAccepted, secondAccepted⟩
    obtain ⟨firstReply, firstAnswer⟩ := isOk_iff.mp firstAccepted
    obtain ⟨secondReply, secondAnswer⟩ := isOk_iff.mp secondAccepted
    rw [runAll_append, runAll_cons] at secondAnswer
    exact challenge_usedOnce firstAnswer secondAnswer

def loggedInTwice : List AuthInput := [
  startsMfa,
  .request minute (.completeAdminMfa 0 "123456"),
  .refresh 0]

theorem adminMfa_notBypassed_loggedInTwice :
    SecondFactorProven sampleSettings sampleState loggedInTwice 1 0 := by
  have holds : (runAll (AuthState.step sampleSettings) sampleState loggedInTwice).tokens[1]? = some {
      claims := { user := 0, passwordMark := "secret password", mfa := true }, parent := some 0 } := by decide
  have accepted : getUser sampleSettings (runAll (AuthState.step sampleSettings) sampleState loggedInTwice).db
      { user := 0, passwordMark := "secret password", mfa := true } = .ok sampleAdmin := by decide
  exact (adminMfa_notBypassed sampleSettings rfl rfl sampleState rfl rfl loggedInTwice).1 1 _ _ holds accepted rfl

end PsCore.Auth
