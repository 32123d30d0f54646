import PsCore.AuthSteps

/-!
How often a code is guessed between two sends. The attempts of a challenge count the guesses,
unless the transaction around a guess takes the attempt back.
-/

namespace PsCore.Auth

open Fallible Transaction Transaction.Program TransitionRun

def AuthDb.spent (mobile : String) (db : AuthDb) : Nat :=
  min 5 ((db.otps mobile).elim 0 LoginOtpChallenge.attempts)

def compared (mobile : String) (events : List AuthEvent) : Nat :=
  events.count (.compared mobile)

/-- A wrong code reaches the stored one in a transaction that raises for it. -/
def AuthRequest.guessesInVain (settings : Settings) (now : Instant) (db : AuthDb) : AuthRequest → Bool
  | .completeAdminMfa challengeId otp =>
      ((db.mfaChallenges[challengeId]?).filter (·.isOpen now)).any fun challenge =>
        (db.users.rows[challenge.user]?).any fun user =>
          user.isActive && user.role.isAdmin &&
          ((db.otps (mobileOf user.phoneNumber)).filter (·.isOpen now)).any fun code =>
            code.codeHash != otpHash settings (mobileOf user.phoneNumber) otp
  | _ => false

def AuthInput.guessesInVain (settings : Settings) (state : AuthState) : AuthInput → Bool
  | .request now asked => asked.guessesInVain settings now state.db
  | .refresh _ | .editUser _ _ | .addUser _ => false

def AuthInput.sendsCode (settings : Settings) (state : AuthState) (mobile : String) : AuthInput → Bool
  | .request now asked =>
      let outcome := state.outcome settings now asked
      outcome.answer.isOk && outcome.events.contains (.sent mobile)
  | .refresh _ | .editUser _ _ | .addUser _ => false

/-! Programs whose guesses are counted. -/

section

variable (mobile : String)

def Counted (db : AuthDb) (events : List AuthEvent) (next : AuthDb) : Prop :=
  compared mobile events + db.spent mobile ≤ next.spent mobile

theorem counted_composes : Composes (Counted mobile) where
  idle := fun _ => Nat.le_of_eq (Nat.zero_add _)
  trans := by
    intro db middle last first second earlier later
    unfold Counted compared at *
    rw [List.count_append]
    omega

theorem spent_of_otps {db next : AuthDb} (same : next.otps mobile = db.otps mobile) :
    next.spent mobile = db.spent mobile := by
  rw [AuthDb.spent, same, AuthDb.spent]

theorem AccountsOnly.counted {db next : AuthDb} {events : List AuthEvent} (kept : AccountsOnly db events next) :
    Counted mobile db events next := by
  obtain ⟨codes, _, rfl⟩ := kept
  unfold Counted
  rw [spent_of_otps mobile (congrFun codes mobile)]
  exact Nat.le_of_eq (Nat.zero_add _)

theorem verifyOtp_counted (settings : Settings) (now : Instant) (other otp : String) :
    Respects (Counted mobile) (verifyOtp settings now other otp) := by
  intro db
  cases found : (db.otps other).filter (·.isOpen now) with
  | none =>
      rw [verifyOtp_closed found]
      exact (counted_composes mobile).idle db
  | some challenge =>
      obtain ⟨present, isOpen⟩ := Option.filter_eq_some_iff.mp found
      rw [verifyOtp_open present isOpen]
      unfold Counted
      by_cases own : other = mobile
      · subst own
        have left : challenge.attempts < 5 := by
          simp only [LoginOtpChallenge.isOpen, Bool.and_eq_true, decide_eq_true_eq] at isOpen
          exact isOpen.2
        have counted (valid : Bool) : (challenge.guessed now valid).attempts = challenge.attempts + 1 := by
          cases valid <;> rfl
        simp only [AuthDb.spent, storeOtp_self, present, Option.elim_some, counted, compared, List.count_singleton_self]
        omega
      · rw [spent_of_otps mobile (storeOtp_other _ _ (Ne.symm own))]
        simp [compared, own]

def ComparesNone (db : AuthDb) (events : List AuthEvent) (next : AuthDb) : Prop :=
  compared mobile events = 0 ∧ (.sent mobile ∈ events ∨ next.spent mobile = db.spent mobile)

theorem comparesNone_composes : Composes (ComparesNone mobile) where
  idle := fun _ => ⟨rfl, .inr rfl⟩
  trans := by
    rintro db middle last first second ⟨noneFirst, earlier⟩ ⟨noneSecond, later⟩
    refine ⟨by unfold compared at *; rw [List.count_append, noneFirst, noneSecond], ?_⟩
    rcases earlier with sent | same
    · exact .inl (List.mem_append_left _ sent)
    rcases later with sent | sameLater
    · exact .inl (List.mem_append_right _ sent)
    · exact .inr (sameLater.trans same)

theorem AccountsOnly.comparesNone {db next : AuthDb} {events : List AuthEvent} (kept : AccountsOnly db events next) :
    ComparesNone mobile db events next := by
  obtain ⟨codes, _, rfl⟩ := kept
  exact ⟨rfl, .inr (spent_of_otps mobile (congrFun codes mobile))⟩

theorem sendLoginOtp_comparesNone (settings : Settings) (now : Instant) (phoneNumber channel : String)
    (delivery : Delivery) (allowAdmin : Bool) :
    Respects (ComparesNone mobile) (sendLoginOtp settings now phoneNumber channel delivery allowAdmin) := by
  intro db
  rcases sendLoginOtp_cases settings now phoneNumber channel delivery allowAdmin db with
    ⟨requestId, other, challenge, ran⟩ | ⟨error, ran⟩
  · rw [ran]
    refine ⟨by simp [compared], ?_⟩
    by_cases own : mobile = other
    · subst own
      exact .inl (List.mem_singleton_self _)
    · exact .inr (spent_of_otps mobile (storeOtp_other _ _ own))
  · rw [ran]
    exact (comparesNone_composes mobile).idle db

theorem authenticateWithPassword_comparesNone (settings : Settings) (now : Instant)
    (phoneNumber password channel : String) (delivery : Delivery) :
    Respects (ComparesNone mobile) (authenticateWithPassword settings now phoneNumber password channel delivery) := by
  have composes := comparesNone_composes mobile
  refine Respects.atomic ?_ fun db events next kept => ⟨kept.1, .inr rfl⟩
  refine composes.bind (composes.lift _) fun normalized => ?_
  refine composes.bind (composes.read _) fun found => ?_
  refine composes.bind (composes.lift _) fun (userId, user) => ?_
  refine composes.bind (composes.lift _) fun _ => ?_
  refine composes.bind (composes.lift _) fun _ => ?_
  split
  · refine composes.bind (sendLoginOtp_comparesNone mobile settings now _ _ _ _) fun _ => ?_
    refine composes.bind (composes.read _) fun challengeId => ?_
    refine composes.bind (Respects.change fun db => ⟨rfl, .inr rfl⟩) fun _ => ?_
    exact composes.pure _
  · refine composes.bind (fun db => (saveUser_accountsOnly _ _ db).comparesNone mobile) fun _ => ?_
    exact composes.pure _

theorem guessesInVain_of_wrong {settings : Settings} {now : Instant} {db : AuthDb} {challengeId : ChallengeId}
    {challenge : AdminMfaChallenge} {user : User} {code : LoginOtpChallenge} {otp : String}
    (reaches : ReachesCode now db challengeId challenge user code)
    (wrong : code.codeHash ≠ otpHash settings (mobileOf user.phoneNumber) otp) :
    (AuthRequest.completeAdminMfa challengeId otp).guessesInVain settings now db = true := by
  simp [AuthRequest.guessesInVain, reaches.found, reaches.isOpen, reaches.owner, reaches.stored, reaches.codeOpen,
    wrong, Option.filter, Bool.and_eq_true_iff.mp reaches.activeAdmin]

theorem completeAdminMfa_counted (settings : Settings) (now : Instant) (challengeId : ChallengeId) (otp : String)
    (db : AuthDb) (useful : (AuthRequest.completeAdminMfa challengeId otp).guessesInVain settings now db = false) :
    Counted mobile db ((completeAdminMfa settings now challengeId otp).run db).events
      ((completeAdminMfa settings now challengeId otp).run db).db := by
  rcases completeAdminMfa_cases settings now challengeId otp db with
    ⟨challenge, user, code, reaches, right, ran⟩ | ⟨error, ran⟩ | ⟨challenge, user, code, error, reaches, wrong, ran⟩
  · have counted := verifyOtp_counted mobile settings now (mobileOf user.phoneNumber) otp db
    rw [verifyOtp_open reaches.stored reaches.codeOpen, right, beq_self_eq_true] at counted
    rw [ran]
    exact counted
  · rw [ran]
    exact (counted_composes mobile).idle db
  · rw [guessesInVain_of_wrong reaches wrong] at useful
    cases useful

theorem request_counted (settings : Settings) (state : AuthState) (now : Instant) (request : AuthRequest)
    (useful : request.guessesInVain settings now state.db = false) :
    (AuthInput.request now request).sendsCode settings state mobile = true ∨
      Counted mobile state.db (state.outcome settings now request).events (state.outcome settings now request).db := by
  have composes := counted_composes mobile
  by_cases codeless : request.needsNoCode = true
  · exact .inr ((handle_accountsOnly settings now codeless state.db).counted mobile)
  · cases request with
    | sendLoginOtp phoneNumber channel delivery =>
        rcases sendLoginOtp_cases settings now phoneNumber channel delivery false state.db with
          ⟨requestId, other, challenge, ran⟩ | ⟨error, ran⟩
        · by_cases own : mobile = other
          · subst own
            refine .inl ?_
            simp [AuthInput.sendsCode, AuthState.outcome, handle, run_bind, ran, andThen_ok, run_pure]
          · refine .inr ?_
            unfold Counted AuthState.outcome handle
            rw [run_bind, ran, andThen_ok, run_pure, spent_of_otps mobile (storeOtp_other _ _ own)]
            simp [compared]
        · refine .inr ?_
          unfold AuthState.outcome handle
          rw [run_bind, ran]
          exact composes.idle _
    | authenticateWithOtp phoneNumber otp =>
        refine .inr (answering_respects ?_ state.db)
        refine composes.bind (composes.lift _) fun normalized => ?_
        refine composes.bind (composes.read _) fun found => ?_
        refine composes.bind (composes.lift _) fun _ => ?_
        refine composes.bind (verifyOtp_counted mobile settings now _ otp) fun _ => ?_
        exact fun db => (authenticateVerifiedPhone_accountsOnly settings normalized db).counted mobile
    | authenticateWithPassword phoneNumber password channel delivery =>
        have kept := authenticateWithPassword_comparesNone mobile settings now phoneNumber password channel delivery
          state.db
        have counted_of_same (same : (state.outcome settings now
            (.authenticateWithPassword phoneNumber password channel delivery)).db.spent mobile = state.db.spent mobile) :
            Counted mobile state.db
              (state.outcome settings now (.authenticateWithPassword phoneNumber password channel delivery)).events
              (state.outcome settings now (.authenticateWithPassword phoneNumber password channel delivery)).db := by
          have none_ : compared mobile (state.outcome settings now
              (.authenticateWithPassword phoneNumber password channel delivery)).events = 0 := kept.1
          unfold Counted
          omega
        cases answer : (state.outcome settings now
            (.authenticateWithPassword phoneNumber password channel delivery)).answer with
        | error error =>
            have unchanged : (state.outcome settings now
                (.authenticateWithPassword phoneNumber password channel delivery)).db = state.db := atomic_error answer
            exact .inr (counted_of_same (by rw [unchanged]))
        | ok reply =>
            rcases kept.2 with sent | same
            · refine .inl ?_
              simp only [AuthInput.sendsCode, answer, isOk_ok, Bool.true_and, List.contains_iff_mem]
              exact sent
            · exact .inr (counted_of_same same)
    | completeAdminMfa challengeId otp =>
        refine .inr ?_
        unfold AuthState.outcome handle
        rw [answering_run]
        exact completeAdminMfa_counted mobile settings now challengeId otp state.db useful
    | authenticateWithFirebase => exact absurd rfl codeless
    | authenticateCustomerAccess => exact absurd rfl codeless
    | registerWithPassword => exact absurd rfl codeless
    | devPhoneLogin => exact absurd rfl codeless

theorem input_counted (settings : Settings) (state : AuthState) (input : AuthInput)
    (useful : input.guessesInVain settings state = false) (quiet : input.sendsCode settings state mobile = false) :
    Counted mobile state.db (state.events settings input) (state.step settings input).db := by
  cases input with
  | request now request =>
      rcases request_counted mobile settings state now request useful with sends | counted
      · rw [sends] at quiet
        cases quiet
      · exact counted
  | refresh token => exact (counted_composes mobile).idle state.db
  | editUser userId user => exact (counted_composes mobile).idle state.db
  | addUser user => exact (counted_composes mobile).idle state.db

theorem history_counted (settings : Settings) {state : AuthState} {inputs : List AuthInput}
    (useful : Guarded (AuthState.step settings) (fun state input => input.guessesInVain settings state = false)
      state inputs)
    (quiet : Guarded (AuthState.step settings) (fun state input => input.sendsCode settings state mobile = false)
      state inputs) :
    Counted mobile state.db (state.history settings inputs) (runAll (AuthState.step settings) state inputs).db := by
  induction inputs generalizing state with
  | nil => exact (counted_composes mobile).idle _
  | cons input rest ih =>
      have first := input_counted mobile settings state input useful.1 quiet.1
      exact (counted_composes mobile).trans _ _ _ _ _ first (ih useful.2 quiet.2)

end

/-- While no step guesses in vain, at most five codes are compared between two sends. -/
theorem guessesBounded_run {settings : Settings} {start : AuthState} {inputs : List AuthInput}
    (useful : Guarded (AuthState.step settings) (fun state input => input.guessesInVain settings state = false)
      start inputs)
    (mobile : String) (before middle after : List AuthInput) (split : inputs = before ++ middle ++ after)
    (quiet : ∀ earlier input later, middle = earlier ++ input :: later →
      input.sendsCode settings (runAll (AuthState.step settings) start (before ++ earlier)) mobile = false) :
    compared mobile ((runAll (AuthState.step settings) start before).history settings middle) ≤ 5 := by
  have usefulMiddle := (Guarded.append.mp (useful.upTo split)).2
  have quietMiddle : Guarded (AuthState.step settings)
      (fun state input => input.sendsCode settings state mobile = false)
      (runAll (AuthState.step settings) start before) middle := by
    refine Guarded.iff_at.mpr fun earlier input later isMiddle => ?_
    rw [← runAll_append]
    exact quiet earlier input later isMiddle
  have counted := history_counted mobile settings usefulMiddle quietMiddle
  have atMost : (runAll (AuthState.step settings) (runAll (AuthState.step settings) start before) middle).db.spent
      mobile ≤ 5 := Nat.min_le_left _ _
  unfold Counted at counted
  omega

theorem guessesBounded_run_secondFactor :
    compared "919876543210" ((runAll (AuthState.step sampleSettings) sampleState [startsMfa]).history sampleSettings
      [.request minute (.completeAdminMfa 0 "123456")]) ≤ 5 := by
  have quiet : Guarded (AuthState.step sampleSettings)
      (fun state input => input.sendsCode sampleSettings state "919876543210" = false)
      (runAll (AuthState.step sampleSettings) sampleState [startsMfa])
      [.request minute (.completeAdminMfa 0 "123456")] := by decide
  have useful : Guarded (AuthState.step sampleSettings)
      (fun state input => input.guessesInVain sampleSettings state = false) sampleState
      [startsMfa, .request minute (.completeAdminMfa 0 "123456")] := by decide
  refine guessesBounded_run useful "919876543210" [startsMfa] _ [] rfl fun earlier input later split => ?_
  rw [runAll_append]
  exact Guarded.iff_at.mp quiet earlier input later split

/-- Six wrong codes for the second factor, and no send among them. -/
theorem guesses_unbounded :
    ¬ ∀ (settings : Settings) (start : AuthState) (inputs : List AuthInput) (mobile : String)
      (before middle after : List AuthInput), inputs = before ++ middle ++ after →
      (∀ earlier input later, middle = earlier ++ input :: later →
        input.sendsCode settings (runAll (AuthState.step settings) start (before ++ earlier)) mobile = false) →
      compared mobile ((runAll (AuthState.step settings) start before).history settings middle) ≤ 5 := by
  intro bounded
  have atMost := bounded sampleSettings sampleState _ "919876543210" [startsMfa]
    (List.replicate 6 (.request minute (.completeAdminMfa 0 "000000"))) [] rfl
  have quiet : Guarded (AuthState.step sampleSettings)
      (fun state input => input.sendsCode sampleSettings state "919876543210" = false)
      (runAll (AuthState.step sampleSettings) sampleState [startsMfa])
      (List.replicate 6 (.request minute (.completeAdminMfa 0 "000000"))) := by decide
  have six := atMost fun earlier input later split => by
    rw [runAll_append]
    exact Guarded.iff_at.mp quiet earlier input later split
  exact absurd six (by decide)

end PsCore.Auth
