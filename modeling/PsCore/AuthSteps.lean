import PsCore.OneTimeCodes

/-!
What the entry points do to the accounts: which of them leave codes and challenges alone, whose
rows they write, and for whom they issue tokens.
-/

namespace PsCore.Auth

open Fallible RowTable Transaction Transaction.Program TransitionRun

def AccountsOnly (db : AuthDb) (events : List AuthEvent) (next : AuthDb) : Prop :=
  next.otps = db.otps ∧ next.mfaChallenges = db.mfaChallenges ∧ events = []

theorem accountsOnly_composes : Composes AccountsOnly where
  idle := fun _ => ⟨rfl, rfl, rfl⟩
  trans := by
    rintro db middle last first second ⟨codes, challenges, rfl⟩ ⟨codesAfter, challengesAfter, rfl⟩
    exact ⟨codesAfter.trans codes, challengesAfter.trans challenges, rfl⟩

theorem AccountsOnly.restores (db : AuthDb) (events : List AuthEvent) (next : AuthDb)
    (kept : AccountsOnly db events next) : AccountsOnly db events db :=
  ⟨rfl, rfl, kept.2.2⟩

section

variable (settings : Settings)

theorem saveUser_accountsOnly (known : Option UserId) (user : User) : Respects AccountsOnly (saveUser known user) := by
  refine accountsOnly_composes.bind (accountsOnly_composes.lift _) fun _ => ?_
  refine accountsOnly_composes.bind (accountsOnly_composes.read _) fun users => ?_
  refine accountsOnly_composes.bind (accountsOnly_composes.lift _) fun stored => ?_
  refine accountsOnly_composes.bind (Respects.change fun _ => ⟨rfl, rfl, rfl⟩) fun _ => ?_
  exact accountsOnly_composes.pure _

theorem authenticateVerifiedPhone_accountsOnly (phoneNumber : String) :
    Respects AccountsOnly (authenticateVerifiedPhone settings phoneNumber) := by
  refine Respects.atomic ?_ AccountsOnly.restores
  refine accountsOnly_composes.bind (accountsOnly_composes.lift _) fun normalized => ?_
  refine accountsOnly_composes.bind (accountsOnly_composes.read _) fun found => ?_
  refine accountsOnly_composes.bind (accountsOnly_composes.lift _) fun _ => ?_
  refine accountsOnly_composes.bind (accountsOnly_composes.lift _) fun _ => ?_
  refine accountsOnly_composes.bind (saveUser_accountsOnly _ _) fun userId => ?_
  exact accountsOnly_composes.pure _

theorem authenticateWithFirebase_accountsOnly (verified : Except AuthError String) :
    Respects AccountsOnly (authenticateWithFirebase settings verified) := by
  refine Respects.atomic ?_ AccountsOnly.restores
  refine accountsOnly_composes.bind (accountsOnly_composes.lift _) fun phoneNumber => ?_
  refine accountsOnly_composes.bind (accountsOnly_composes.lift _) fun normalized => ?_
  exact authenticateVerifiedPhone_accountsOnly settings normalized

theorem authenticateCustomerAccess_accountsOnly (name phoneNumber unusable : String) :
    Respects AccountsOnly (authenticateCustomerAccess settings name phoneNumber unusable) := by
  refine Respects.atomic ?_ AccountsOnly.restores
  refine accountsOnly_composes.bind (accountsOnly_composes.lift _) fun normalized => ?_
  refine accountsOnly_composes.bind (accountsOnly_composes.lift _) fun _ => ?_
  refine accountsOnly_composes.bind (accountsOnly_composes.read _) fun found => ?_
  refine accountsOnly_composes.bind (accountsOnly_composes.lift _) fun _ => ?_
  refine accountsOnly_composes.bind (accountsOnly_composes.lift _) fun _ => ?_
  refine accountsOnly_composes.bind (saveUser_accountsOnly _ _) fun userId => ?_
  refine accountsOnly_composes.bind (accountsOnly_composes.lift _) fun _ => ?_
  exact accountsOnly_composes.pure _

theorem registerWithPassword_accountsOnly (phoneNumber password salt : String) (fields : ProfileFields) :
    Respects AccountsOnly (registerWithPassword settings phoneNumber password salt fields) := by
  refine Respects.atomic ?_ AccountsOnly.restores
  refine accountsOnly_composes.bind (accountsOnly_composes.lift _) fun normalized => ?_
  refine accountsOnly_composes.bind (accountsOnly_composes.read _) fun found => ?_
  refine accountsOnly_composes.bind (accountsOnly_composes.lift _) fun _ => ?_
  refine accountsOnly_composes.bind (accountsOnly_composes.lift _) fun _ => ?_
  refine accountsOnly_composes.bind (accountsOnly_composes.lift _) fun _ => ?_
  refine accountsOnly_composes.bind (saveUser_accountsOnly _ _) fun userId => ?_
  exact accountsOnly_composes.pure _

theorem devPhoneLogin_accountsOnly (phoneNumber : String) :
    Respects AccountsOnly (devPhoneLogin settings phoneNumber) := by
  refine accountsOnly_composes.bind (accountsOnly_composes.lift _) fun _ => ?_
  refine accountsOnly_composes.bind (accountsOnly_composes.lift _) fun _ => ?_
  refine Respects.atomic ?_ AccountsOnly.restores
  refine accountsOnly_composes.bind (accountsOnly_composes.lift _) fun normalized => ?_
  refine accountsOnly_composes.bind (accountsOnly_composes.read _) fun found => ?_
  cases found.filter (·.2.role.isAdmin) with
  | none => exact authenticateVerifiedPhone_accountsOnly settings normalized
  | some account =>
      refine accountsOnly_composes.bind (accountsOnly_composes.lift _) fun _ => ?_
      exact accountsOnly_composes.pure _

/-- The requests that neither send nor ask for a code, nor open a challenge of the second factor. -/
def AuthRequest.needsNoCode : AuthRequest → Bool
  | .authenticateWithFirebase _ | .authenticateCustomerAccess _ _ _ | .registerWithPassword _ _ _ _
  | .devPhoneLogin _ => true
  | .sendLoginOtp _ _ _ | .authenticateWithOtp _ _ | .authenticateWithPassword _ _ _ _ | .completeAdminMfa _ _ => false

theorem answering_respects {relation : AuthDb → List AuthEvent → AuthDb → Prop} {login : AuthProgram LoginResult}
    (respects : Respects relation login) : Respects relation (answering login) := by
  intro db
  rw [answering_run]
  exact respects db

theorem handle_accountsOnly (now : Instant) {request : AuthRequest} (codeless : request.needsNoCode = true) :
    Respects AccountsOnly (handle settings now request) := by
  cases request with
  | authenticateWithFirebase verified =>
      exact answering_respects (authenticateWithFirebase_accountsOnly settings verified)
  | authenticateCustomerAccess name phoneNumber unusable =>
      exact answering_respects (authenticateCustomerAccess_accountsOnly settings name phoneNumber unusable)
  | registerWithPassword phoneNumber password salt fields =>
      exact answering_respects (registerWithPassword_accountsOnly settings phoneNumber password salt fields)
  | devPhoneLogin phoneNumber => exact answering_respects (devPhoneLogin_accountsOnly settings phoneNumber)
  | sendLoginOtp => cases codeless
  | authenticateWithOtp => cases codeless
  | authenticateWithPassword => cases codeless
  | completeAdminMfa => cases codeless

end

def CodesOnly (db : AuthDb) (_events : List AuthEvent) (next : AuthDb) : Prop :=
  next.users = db.users ∧ next.mfaChallenges = db.mfaChallenges

theorem verifyOtp_codesOnly (settings : Settings) (now : Instant) (mobile otp : String) :
    Respects CodesOnly (verifyOtp settings now mobile otp) := by
  intro db
  cases found : (db.otps mobile).filter (·.isOpen now) with
  | none =>
      rw [verifyOtp_closed found]
      exact ⟨rfl, rfl⟩
  | some challenge =>
      obtain ⟨present, isOpen⟩ := Option.filter_eq_some_iff.mp found
      rw [verifyOtp_open present isOpen]
      exact ⟨rfl, rfl⟩

/-! The second factor. -/

/-- The request finds an open challenge of an active administrator, with an open code. -/
structure ReachesCode (now : Instant) (db : AuthDb) (challengeId : ChallengeId) (challenge : AdminMfaChallenge)
    (user : User) (code : LoginOtpChallenge) : Prop where
  found : db.mfaChallenges[challengeId]? = some challenge
  isOpen : challenge.isOpen now = true
  owner : db.users.rows[challenge.user]? = some user
  activeAdmin : (user.isActive && user.role.isAdmin) = true
  stored : db.otps (mobileOf user.phoneNumber) = some code
  codeOpen : code.isOpen now = true

theorem completeAdminMfa_cases (settings : Settings) (now : Instant) (challengeId : ChallengeId) (otp : String)
    (db : AuthDb) :
    (∃ challenge user code, ReachesCode now db challengeId challenge user code ∧
      code.codeHash = otpHash settings (mobileOf user.phoneNumber) otp ∧
      (completeAdminMfa settings now challengeId otp).run db = {
        answer := .ok (loginResult settings challenge.user user false true)
        db := { db.storeOtp (mobileOf user.phoneNumber) (code.guessed now true) with
          mfaChallenges := db.mfaChallenges.set challengeId { challenge with consumedAt := some now } }
        events := [.compared (mobileOf user.phoneNumber)] }) ∨
    (∃ error, (completeAdminMfa settings now challengeId otp).run db =
      { answer := .error error, db := db, events := [] }) ∨
    ∃ challenge user code error, ReachesCode now db challengeId challenge user code ∧
      code.codeHash ≠ otpHash settings (mobileOf user.phoneNumber) otp ∧
      (completeAdminMfa settings now challengeId otp).run db =
        { answer := .error error, db := db, events := [.compared (mobileOf user.phoneNumber)] } := by
  unfold completeAdminMfa
  rw [run_atomic, run_bind, run_read]
  simp only [andThen_ok, run_bind, run_lift]
  cases openChallenge : (db.mfaChallenges[challengeId]?).filter (·.isOpen now) with
  | none => exact .inr (.inl ⟨_, rfl⟩)
  | some challenge =>
      obtain ⟨found, isOpen⟩ := Option.filter_eq_some_iff.mp openChallenge
      simp only [orRaise, andThen_ok, run_bind, run_read, run_lift]
      cases owner : db.users.rows[challenge.user]? with
      | none => exact .inr (.inl ⟨_, rfl⟩)
      | some user =>
          simp only [andThen_ok, run_bind]
          by_cases activeAdmin : (user.isActive && user.role.isAdmin) = true
          · rw [run_require _ _ activeAdmin, andThen_ok, run_bind]
            cases openCode : (db.otps (mobileOf user.phoneNumber)).filter (·.isOpen now) with
            | none =>
                rw [verifyOtp_closed openCode]
                exact .inr (.inl ⟨_, rfl⟩)
            | some code =>
                obtain ⟨stored, codeOpen⟩ := Option.filter_eq_some_iff.mp openCode
                have reaches : ReachesCode now db challengeId challenge user code :=
                  ⟨found, isOpen, owner, activeAdmin, stored, codeOpen⟩
                rw [verifyOtp_open stored codeOpen]
                by_cases right : code.codeHash = otpHash settings (mobileOf user.phoneNumber) otp
                · rw [if_pos right, right, beq_self_eq_true]
                  exact .inl ⟨challenge, user, code, reaches, right, rfl⟩
                · rw [if_neg right]
                  exact .inr (.inr ⟨challenge, user, code, _, reaches, right, rfl⟩)
          · rw [run_require_not _ _ activeAdmin]
            exact .inr (.inl ⟨_, rfl⟩)

theorem saveUser_returns {known : Option UserId} {user : User} {db next : AuthDb} {userId : UserId}
    {events : List AuthEvent} (returned : (saveUser known user).Returns db userId next events) :
    user.fits = true ∧ ∃ stored, next = { db with users := stored } ∧
      ((known = some userId ∧ db.users.replace? userId user = some stored) ∨
        (known = none ∧ userId = db.users.rows.length ∧ db.users.insert? user = some stored)) := by
  unfold saveUser at returned
  simp only [returns_require_bind, returns_read_bind, returns_lift_bind, returns_change_bind, returns_pure,
    accepted_orRaise] at returned
  obtain ⟨fits, stored, stores, isId, rfl, rfl⟩ := returned
  refine ⟨fits, stored, rfl, ?_⟩
  cases known with
  | none => exact .inr ⟨rfl, isId.symm, stores⟩
  | some knownId =>
      simp only [Option.getD_some] at isId
      subst isId
      exact .inl ⟨rfl, stores⟩

theorem authenticateWithPassword_returns {settings : Settings} {now : Instant}
    {phoneNumber password channel : String} {delivery : Delivery} {db next : AuthDb} {reply : Reply}
    {events : List AuthEvent}
    (returned : (authenticateWithPassword settings now phoneNumber password channel delivery).Returns db reply next
      events) :
    ∃ normalized userId user, normalizePhoneNumber phoneNumber = .ok normalized ∧
      db.userOfPhone normalized = some (userId, user) ∧ user.isActive = true ∧
      settings.checkPassword password user.password = true ∧
      (((user.role.isAdmin && settings.adminMfaEnabled) = true ∧
          reply = .mfaRequired db.mfaChallenges.length channel (settings.adminMfaTtlMinutes * 60) ∧
          ∃ mobile code, next = (db.storeOtp mobile code).startMfa settings now userId channel) ∨
        ((user.role.isAdmin && settings.adminMfaEnabled) = false ∧
          reply = .loggedIn (loginResult settings userId user false user.role.isAdmin) ∧
          ∃ stored, db.users.replace? userId user.withProfile = some stored ∧ next = { db with users := stored })) := by
  unfold authenticateWithPassword at returned
  simp only [returns_atomic, returns_lift_bind, returns_read_bind, returns_require_bind, accepted_orRaise] at returned
  obtain ⟨normalized, isNormalized, ⟨userId, user⟩, found, active, checked, finished⟩ := returned
  refine ⟨normalized, userId, user, isNormalized, found, active, (Bool.and_eq_true_iff.mp checked).2, ?_⟩
  cases needsMfa : user.role.isAdmin && settings.adminMfaEnabled with
  | true =>
      rw [needsMfa, if_pos rfl, returns_bind] at finished
      obtain ⟨requestId, middle, _, _, sent, stored, rfl⟩ := finished
      rw [returns_read_bind, returns_change_bind, returns_pure] at stored
      obtain ⟨rfl, rfl, rfl⟩ := stored
      rcases sendLoginOtp_cases settings now user.phoneNumber channel delivery true db with
        ⟨_, mobile, code, ran⟩ | ⟨error, ran⟩
      · have isMiddle : middle = db.storeOtp mobile code := by
          unfold Returns at sent
          rw [ran] at sent
          simp only [Outcome.mk.injEq] at sent
          exact sent.2.1.symm
        subst isMiddle
        exact .inl ⟨rfl, rfl, mobile, code, rfl⟩
      · have raised := sent.answer
        rw [ran] at raised
        cases raised
  | false =>
      simp only [needsMfa, if_false, Bool.false_eq_true, returns_bind_pure] at finished
      obtain ⟨savedId, saved, rfl⟩ := finished
      obtain ⟨_, stored, rfl, ⟨own, stores⟩ | ⟨absent, _⟩⟩ := saveUser_returns saved
      · rw [Option.some.injEq] at own
        subst own
        exact .inr ⟨rfl, rfl, stored, stores, rfl⟩
      · cases absent

end PsCore.Auth
