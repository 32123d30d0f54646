import PsCore.AuthSteps

/-!
Disabled accounts. Every login asks whether the user is active; a sign-up for a known customer
without a password sets it.
-/

namespace PsCore.Auth

open Fallible RowTable Transaction Transaction.Program TransitionRun

structure LogsIn (db : AuthDb) (userId : UserId) (next : AuthDb) : Prop where
  active : ∀ user, db.users.rows[userId]? = some user → user.isActive = true
  spares : ∀ (other : UserId) (user : User), db.users.rows[other]? = some user → user.isActive = false →
    next.users.rows[other]? = some user

theorem LogsIn.of_users {db middle next : AuthDb} {userId : UserId} (logsIn : LogsIn middle userId next)
    (same : middle.users = db.users) : LogsIn db userId next where
  active := same ▸ logsIn.active
  spares := same ▸ logsIn.spares

theorem active_of_found {db : AuthDb} {userId : UserId} {user : User} (found : db.users.rows[userId]? = some user)
    (isActive : user.isActive = true) : ∀ other, db.users.rows[userId]? = some other → other.isActive = true := by
  intro other foundOther
  rw [found, Option.some.injEq] at foundOther
  exact foundOther ▸ isActive

theorem LogsIn.of_same {db next : AuthDb} {userId : UserId} {user : User} (same : next.users = db.users)
    (found : db.users.rows[userId]? = some user) (isActive : user.isActive = true) : LogsIn db userId next where
  active := active_of_found found isActive
  spares := fun _ _ foundRow _ => same.symm ▸ foundRow

theorem logsIn_replaced {db : AuthDb} {userId : UserId} {user saved : User} {stored : UserTable}
    (found : db.users.rows[userId]? = some user) (isActive : user.isActive = true)
    (stores : db.users.replace? userId saved = some stored) : LogsIn db userId { db with users := stored } where
  active := active_of_found found isActive
  spares := by
    intro other row foundRow inactive
    rw [UniqueTable.replace?_some stores, List.getElem?_set_ne, foundRow]
    rintro rfl
    rw [found, Option.some.injEq] at foundRow
    subst foundRow
    rw [isActive] at inactive
    cases inactive

theorem logsIn_inserted {db : AuthDb} {saved : User} {stored : UserTable}
    (stores : db.users.insert? saved = some stored) :
    LogsIn db db.users.rows.length { db with users := stored } where
  active := by
    intro user found
    simp at found
  spares := by
    intro other row foundRow _
    rw [(UniqueTable.insert?_some stores).1, List.getElem?_append_left (List.getElem?_eq_some_iff.mp foundRow).1,
      foundRow]

theorem userOfPhone_found {db : AuthDb} {phoneNumber : String} {userId : UserId} {user : User}
    (found : db.userOfPhone phoneNumber = some (userId, user)) :
    db.users.rows[userId]? = some user ∧ user.phoneNumber = phoneNumber := by
  obtain ⟨present, accepted⟩ := firstRow_some found
  exact ⟨present, beq_iff_eq.mp accepted⟩

theorem saveUser_logsIn {db next : AuthDb} {phoneNumber : String} {saved : User} {userId : UserId}
    {events : List AuthEvent} (active : ∀ account, db.userOfPhone phoneNumber = some account →
      account.2.isActive = true)
    (returned : (saveUser ((db.userOfPhone phoneNumber).map Prod.fst) saved).Returns db userId next events) :
    LogsIn db userId next := by
  obtain ⟨_, stored, rfl, ⟨known, stores⟩ | ⟨_, rfl, stores⟩⟩ := saveUser_returns returned
  · obtain ⟨⟨foundId, user⟩, found, rfl⟩ := Option.map_eq_some_iff.mp known
    exact logsIn_replaced (userOfPhone_found found).1 (active _ found) stores
  · exact logsIn_inserted stores

def ActiveOnly (login : AuthProgram LoginResult) : Prop :=
  ∀ db result next events, login.Returns db result next events → LogsIn db result.claims.user next

theorem authenticateVerifiedPhone_activeOnly (settings : Settings) (phoneNumber : String) :
    ActiveOnly (authenticateVerifiedPhone settings phoneNumber) := by
  intro db result next events returned
  unfold authenticateVerifiedPhone at returned
  simp only [returns_atomic, returns_lift_bind, returns_read_bind, returns_require_bind, returns_bind_pure] at returned
  obtain ⟨normalized, _, active, _, userId, saved, rfl⟩ := returned
  refine saveUser_logsIn (fun account found => ?_) saved
  rw [found] at active
  exact active

theorem authenticateWithOtp_activeOnly (settings : Settings) (now : Instant) (phoneNumber otp : String) :
    ActiveOnly (authenticateWithOtp settings now phoneNumber otp) := by
  intro db result next events returned
  unfold authenticateWithOtp at returned
  simp only [returns_lift_bind, returns_read_bind, returns_require_bind] at returned
  obtain ⟨normalized, _, _, verifies⟩ := returned
  obtain ⟨_, middle, _, _, verified, loggedIn, rfl⟩ := returns_bind.mp verifies
  refine (authenticateVerifiedPhone_activeOnly settings normalized _ _ _ _ loggedIn).of_users ?_
  have codesOnly := verifyOtp_codesOnly settings now (mobileOf normalized) otp db
  rw [verified] at codesOnly
  exact codesOnly.1

theorem authenticateWithFirebase_activeOnly (settings : Settings) (verified : Except AuthError String) :
    ActiveOnly (authenticateWithFirebase settings verified) := by
  intro db result next events returned
  unfold authenticateWithFirebase at returned
  simp only [returns_atomic, returns_lift_bind] at returned
  obtain ⟨_, _, normalized, _, loggedIn⟩ := returned
  exact authenticateVerifiedPhone_activeOnly settings normalized _ _ _ _ loggedIn

theorem authenticateCustomerAccess_activeOnly (settings : Settings) (name phoneNumber unusable : String) :
    ActiveOnly (authenticateCustomerAccess settings name phoneNumber unusable) := by
  intro db result next events returned
  unfold authenticateCustomerAccess at returned
  simp only [returns_atomic, returns_lift_bind, returns_read_bind, returns_require_bind] at returned
  obtain ⟨normalized, _, _, _, active, saves⟩ := returned
  obtain ⟨userId, _, _, _, saved, answers, rfl⟩ := returns_bind.mp saves
  rw [returns_require_bind, returns_pure] at answers
  obtain ⟨_, rfl, rfl, rfl⟩ := answers
  refine saveUser_logsIn (fun account found => ?_) saved
  rw [found] at active
  exact active

theorem completeAdminMfa_activeOnly (settings : Settings) (now : Instant) (challengeId : ChallengeId) (otp : String) :
    ActiveOnly (completeAdminMfa settings now challengeId otp) := by
  intro db result next events returned
  rcases completeAdminMfa_cases settings now challengeId otp db with
    ⟨challenge, user, code, reaches, _, ran⟩ | ⟨error, ran⟩ | ⟨challenge, user, code, error, _, _, ran⟩
  · unfold Returns at returned
    rw [ran] at returned
    simp only [Outcome.mk.injEq, Except.ok.injEq] at returned
    obtain ⟨rfl, rfl, _⟩ := returned
    exact .of_same rfl reaches.owner (Bool.and_eq_true_iff.mp reaches.activeAdmin).1
  · have answer := returned.answer
    rw [ran] at answer
    cases answer
  · have answer := returned.answer
    rw [ran] at answer
    cases answer

theorem devPhoneLogin_activeOnly (settings : Settings) (phoneNumber : String) :
    ActiveOnly (devPhoneLogin settings phoneNumber) := by
  intro db result next events returned
  unfold devPhoneLogin authenticateDevPhone at returned
  simp only [returns_atomic, returns_lift_bind, returns_read_bind, returns_require_bind] at returned
  obtain ⟨_, _, normalized, _, loggedIn⟩ := returned
  cases staff : (db.userOfPhone normalized).filter (·.2.role.isAdmin) with
  | none =>
      rw [staff] at loggedIn
      exact authenticateVerifiedPhone_activeOnly settings normalized _ _ _ _ loggedIn
  | some account =>
      obtain ⟨userId, user⟩ := account
      rw [staff] at loggedIn
      rw [returns_require_bind, returns_pure] at loggedIn
      obtain ⟨active, rfl, rfl, rfl⟩ := loggedIn
      exact .of_same rfl (userOfPhone_found (Option.filter_eq_some_iff.mp staff).1).1 active

/-! The sign-up. -/

/-- The request signs up for the customer of the row, whose password is unusable. -/
def AuthRequest.signsUpFor (settings : Settings) (user : User) : AuthRequest → Bool
  | .registerWithPassword phoneNumber password salt fields =>
      (normalizePhoneNumber phoneNumber).toOption == some user.phoneNumber && user.role == .customer &&
      !user.hasUsablePassword && (settings.validatePassword password user).isEmpty &&
      (user.signedUp settings password salt fields).fits
  | _ => false

theorem withProfile_kept (user : User) :
    user.withProfile.phoneNumber = user.phoneNumber ∧ user.withProfile.isActive = user.isActive := by
  unfold User.withProfile
  split <;> exact ⟨rfl, rfl⟩

theorem signedUp_phoneNumber (settings : Settings) (password salt : String) (fields : ProfileFields) (user : User) :
    (user.signedUp settings password salt fields).phoneNumber = user.phoneNumber :=
  (withProfile_kept _).1

theorem signedUp_isActive (settings : Settings) (password salt : String) (fields : ProfileFields) (user : User) :
    (user.signedUp settings password salt fields).isActive = true :=
  (withProfile_kept _).2

theorem userOfPhone_own {db : AuthDb} {userId : UserId} {user : User} (found : db.users.rows[userId]? = some user) :
    db.userOfPhone user.phoneNumber = some (userId, user) := by
  refine firstRow_unique found (beq_self_eq_true _) fun other row foundRow accepted => ?_
  refine Decidable.byContradiction fun differs => ?_
  exact db.users.apart (fun _ _ => Eq.symm) foundRow found differs (beq_iff_eq.mp accepted)

theorem replace?_samePhone {users : UserTable} {userId : UserId} {user saved : User}
    (found : users.rows[userId]? = some user) (same : saved.phoneNumber = user.phoneNumber) :
    ∃ stored, users.replace? userId saved = some stored := by
  refine Option.isSome_iff_exists.mp ((UniqueTable.replace?_isSome_iff fun _ _ => Eq.symm).mpr ?_)
  intro position other foundOther differs clashes
  exact users.apart (fun _ _ => Eq.symm) foundOther found differs (clashes.trans same)

theorem normalizePhoneNumber_toOption {phoneNumber normalized : String}
    (same : (normalizePhoneNumber phoneNumber).toOption = some normalized) :
    normalizePhoneNumber phoneNumber = .ok normalized := by
  cases isNormalized : normalizePhoneNumber phoneNumber with
  | error error => simp [isNormalized, Except.toOption] at same
  | ok value =>
      rw [isNormalized] at same
      exact congrArg Except.ok (Option.some.inj same)

theorem saveUser_saves {db : AuthDb} {userId : UserId} {saved : User} {stored : UserTable}
    (fits : saved.fits = true) (stores : db.users.replace? userId saved = some stored) :
    (saveUser (some userId) saved).Returns db userId { db with users := stored } [] := by
  unfold saveUser
  simp only [returns_require_bind, returns_read_bind, returns_lift_bind, returns_change_bind, returns_pure,
    accepted_orRaise]
  exact ⟨fits, stored, stores, rfl, rfl, trivial⟩

theorem registerWithPassword_activates {settings : Settings} {db : AuthDb} {userId : UserId} {user : User}
    {phoneNumber password salt : String} {fields : ProfileFields} (found : db.users.rows[userId]? = some user)
    (signsUp : (AuthRequest.registerWithPassword phoneNumber password salt fields).signsUpFor settings user = true) :
    ((registerWithPassword settings phoneNumber password salt fields).run db).db.users.rows[userId]? =
      some (user.signedUp settings password salt fields) := by
  simp only [AuthRequest.signsUpFor, Bool.and_eq_true, beq_iff_eq, Bool.not_eq_true', List.isEmpty_iff] at signsUp
  obtain ⟨⟨⟨⟨samePhone, customer⟩, unusable⟩, valid⟩, fits⟩ := signsUp
  obtain ⟨stored, stores⟩ := replace?_samePhone found (signedUp_phoneNumber settings password salt fields user)
  have returned : (registerWithPassword settings phoneNumber password salt fields).Returns db
      (loginResult settings userId (user.signedUp settings password salt fields) false false)
      { db with users := stored } [] := by
    unfold registerWithPassword
    simp only [returns_atomic, returns_lift_bind, returns_read_bind, returns_require_bind, returns_bind_pure]
    refine ⟨user.phoneNumber, normalizePhoneNumber_toOption samePhone, ?_⟩
    rw [userOfPhone_own found]
    refine ⟨?_, ?_, valid, userId, saveUser_saves fits stores, rfl⟩
    · simpa using customer
    · simpa using unusable
  rw [returned, UniqueTable.replace?_some stores]
  exact List.getElem?_set_self (List.getElem?_eq_some_iff.mp found).1

theorem registerWithPassword_spares {settings : Settings} {db next : AuthDb} {userId : UserId} {user : User}
    {phoneNumber password salt : String} {fields : ProfileFields} {result : LoginResult} {events : List AuthEvent}
    (found : db.users.rows[userId]? = some user)
    (other : (AuthRequest.registerWithPassword phoneNumber password salt fields).signsUpFor settings user = false)
    (returned : (registerWithPassword settings phoneNumber password salt fields).Returns db result next events) :
    next.users.rows[userId]? = some user ∧ result.claims.user ≠ userId := by
  unfold registerWithPassword at returned
  simp only [returns_atomic, returns_lift_bind, returns_read_bind, returns_require_bind, returns_bind_pure] at returned
  obtain ⟨normalized, isNormalized, customer, unusable, valid, savedId, saved, rfl⟩ := returned
  generalize isAccount : db.userOfPhone normalized = account at customer unusable valid saved
  obtain ⟨fits, stored, rfl, ⟨known, stores⟩ | ⟨_, rfl, stores⟩⟩ := saveUser_returns saved
  · obtain ⟨⟨foundId, owner⟩, rfl, rfl⟩ := Option.map_eq_some_iff.mp known
    have own := userOfPhone_found isAccount
    have differs : foundId ≠ userId := by
      rintro rfl
      rw [found, Option.some.injEq] at own
      obtain ⟨rfl, rfl⟩ := own
      have signsUp : (AuthRequest.registerWithPassword phoneNumber password salt fields).signsUpFor settings user =
          true := by
        simp_all [AuthRequest.signsUpFor, Except.toOption]
      rw [signsUp] at other
      cases other
    refine ⟨?_, differs⟩
    rw [UniqueTable.replace?_some stores, List.getElem?_set_ne differs, found]
  · have below : userId < db.users.rows.length := (List.getElem?_eq_some_iff.mp found).1
    refine ⟨?_, Nat.ne_of_gt below⟩
    rw [(UniqueTable.insert?_some stores).1, List.getElem?_append_left below, found]

def RaisesSparing (login : AuthProgram LoginResult) : Prop :=
  ∀ db error, (login.run db).answer = .error error → (login.run db).db.users = db.users

theorem RaisesSparing.atomic (login : AuthProgram LoginResult) : RaisesSparing (atomic login) := by
  intro db error answer
  rw [atomic_error answer]

theorem RaisesSparing.bind {α : Type} {first : AuthProgram α} {rest : α → AuthProgram LoginResult}
    (keeps : ∀ db, (first.run db).db.users = db.users) (sparing : ∀ value, RaisesSparing (rest value)) :
    RaisesSparing (first >>= rest) := by
  intro db error answer
  rw [run_bind] at answer ⊢
  cases ran : first.run db with
  | mk result middle events =>
      have same := keeps db
      rw [ran] at answer same
      cases result with
      | error raised => exact same
      | ok value => exact (sparing value middle error answer).trans same

structure Spares (settings : Settings) (state : AuthState) (now : Instant) (request : AuthRequest) (userId : UserId)
    (user : User) : Prop where
  row : (state.outcome settings now request).db.users.rows[userId]? = some user
  noLogin : ∀ result, (state.outcome settings now request).answer = .ok (.loggedIn result) →
    result.claims.user ≠ userId

section

variable {settings : Settings} {state : AuthState} {now : Instant} {request : AuthRequest} {userId : UserId} {user : User}
  (found : state.db.users.rows[userId]? = some user)

include found

theorem login_spares (inactive : user.isActive = false) {login : AuthProgram LoginResult}
    (handled : handle settings now request = answering login) (activeOnly : ActiveOnly login)
    (sparing : RaisesSparing login) : Spares settings state now request userId user := by
  have ran : state.outcome settings now request = _ := (congrArg (·.run state.db) handled).trans (answering_run _ _)
  cases answer : (login.run state.db).answer with
  | error error =>
      constructor
      · rw [ran, sparing state.db error answer, found]
      · intro result accepted
        rw [ran, answer] at accepted
        cases accepted
  | ok value =>
      have logsIn := activeOnly state.db value _ _ (returns_of_answer answer)
      constructor
      · rw [ran]
        exact logsIn.spares userId user found inactive
      · rintro result accepted rfl
        rw [ran, answer] at accepted
        simp only [Except.map, Except.ok.injEq, Reply.loggedIn.injEq] at accepted
        subst accepted
        rw [logsIn.active user found] at inactive
        cases inactive

theorem sendLoginOtp_spares (phoneNumber channel : String) (delivery : Delivery) :
    Spares settings state now (.sendLoginOtp phoneNumber channel delivery) userId user := by
  have ran : state.outcome settings now (.sendLoginOtp phoneNumber channel delivery) = _ := run_bind _ _ _
  rcases sendLoginOtp_cases settings now phoneNumber channel delivery false state.db with
    ⟨requestId, mobile, challenge, sent⟩ | ⟨error, raised⟩
  · rw [sent] at ran
    exact ⟨by rw [ran]; exact found, fun result accepted => by rw [ran] at accepted; cases accepted⟩
  · rw [raised] at ran
    exact ⟨by rw [ran]; exact found, fun result accepted => by rw [ran] at accepted; cases accepted⟩

theorem signUp_spares {phoneNumber password salt : String} {fields : ProfileFields}
    (other : (AuthRequest.registerWithPassword phoneNumber password salt fields).signsUpFor settings user = false) :
    Spares settings state now (.registerWithPassword phoneNumber password salt fields) userId user := by
  have ran : state.outcome settings now (.registerWithPassword phoneNumber password salt fields) = _ :=
    answering_run _ _
  cases answer : ((registerWithPassword settings phoneNumber password salt fields).run state.db).answer with
  | error error =>
      constructor
      · have unchanged : ((registerWithPassword settings phoneNumber password salt fields).run state.db).db =
            state.db := atomic_error answer
        rw [ran, unchanged, found]
      · intro result accepted
        rw [ran, answer] at accepted
        cases accepted
  | ok value =>
      have spared := registerWithPassword_spares found other (returns_of_answer answer)
      constructor
      · rw [ran]
        exact spared.1
      · intro result accepted
        rw [ran, answer] at accepted
        simp only [Except.map, Except.ok.injEq, Reply.loggedIn.injEq] at accepted
        exact accepted ▸ spared.2

theorem authenticateWithPassword_spares (inactive : user.isActive = false) (phoneNumber password channel : String)
    (delivery : Delivery) :
    Spares settings state now (.authenticateWithPassword phoneNumber password channel delivery) userId user := by
  cases answer : (state.outcome settings now
      (.authenticateWithPassword phoneNumber password channel delivery)).answer with
  | error error =>
      have unchanged : (state.outcome settings now
          (.authenticateWithPassword phoneNumber password channel delivery)).db = state.db := atomic_error answer
      exact ⟨by rw [unchanged, found], fun result accepted => by rw [answer] at accepted; cases accepted⟩
  | ok reply =>
      obtain ⟨normalized, ownerId, owner, _, isOwner, active, _, ⟨_, rfl, mobile, code, isNext⟩ |
        ⟨_, rfl, stored, stores, isNext⟩⟩ := authenticateWithPassword_returns (returns_of_answer answer)
      · constructor
        · unfold AuthState.outcome handle
          rw [isNext]
          exact found
        · intro result accepted
          rw [answer] at accepted
          cases accepted
      · have logsIn := logsIn_replaced (userOfPhone_found isOwner).1 active stores
        constructor
        · unfold AuthState.outcome handle
          rw [isNext]
          exact logsIn.spares userId user found inactive
        · rintro result accepted rfl
          rw [answer] at accepted
          cases accepted
          rw [logsIn.active user found] at inactive
          cases inactive

theorem request_spares (inactive : user.isActive = false) (other : request.signsUpFor settings user = false) :
    Spares settings state now request userId user := by
  cases request with
  | sendLoginOtp phoneNumber channel delivery => exact sendLoginOtp_spares found phoneNumber channel delivery
  | authenticateWithOtp phoneNumber otp =>
      refine login_spares found inactive rfl (authenticateWithOtp_activeOnly settings now phoneNumber otp) ?_
      refine .bind (fun _ => rfl) fun _ => .bind (fun _ => rfl) fun _ => .bind (fun _ => rfl) fun _ => ?_
      exact .bind (fun db => (verifyOtp_codesOnly settings now _ otp db).1) fun _ => .atomic _
  | authenticateWithFirebase verified =>
      exact login_spares found inactive rfl (authenticateWithFirebase_activeOnly settings verified) (.atomic _)
  | authenticateCustomerAccess name phoneNumber unusable =>
      exact login_spares found inactive rfl
        (authenticateCustomerAccess_activeOnly settings name phoneNumber unusable) (.atomic _)
  | completeAdminMfa challengeId otp =>
      exact login_spares found inactive rfl (completeAdminMfa_activeOnly settings now challengeId otp) (.atomic _)
  | devPhoneLogin phoneNumber =>
      refine login_spares found inactive rfl (devPhoneLogin_activeOnly settings phoneNumber) ?_
      exact .bind (fun _ => rfl) fun _ => .bind (fun _ => rfl) fun _ => .atomic _
  | registerWithPassword phoneNumber password salt fields => exact signUp_spares found other
  | authenticateWithPassword phoneNumber password channel delivery =>
      exact authenticateWithPassword_spares found inactive phoneNumber password channel delivery

end

def requestStep (settings : Settings) (state : AuthState) (call : Instant × AuthRequest) : AuthState :=
  state.step settings (.request call.1 call.2)

/-- The user is inactive and holds the tokens from the start, and no other. -/
structure StaysDisabled (start : AuthState) (userId : UserId) (state : AuthState) : Prop where
  inactive : ∃ user, state.db.users.rows[userId]? = some user ∧ user.isActive = false
  tokens : (state.tokens.filter fun token => token.claims.user == userId) =
    start.tokens.filter fun token => token.claims.user == userId

def signsUp (settings : Settings) (userId : UserId) (state : AuthState) (call : Instant × AuthRequest) : Bool :=
  (state.db.users.rows[userId]?).any (call.2.signsUpFor settings)

theorem staysDisabled_step {settings : Settings} {start state : AuthState} {userId : UserId}
    {call : Instant × AuthRequest} (disabled : StaysDisabled start userId state)
    (other : signsUp settings userId state call = false) :
    StaysDisabled start userId (requestStep settings state call) := by
  obtain ⟨user, found, inactive⟩ := disabled.inactive
  have spares : Spares settings state call.1 call.2 userId user := by
    refine request_spares found inactive ?_
    simpa [signsUp, found] using other
  refine ⟨⟨user, spares.row, inactive⟩, ?_⟩
  have grown : (requestStep settings state call).tokens =
    state.tokens ++ issued (state.outcome settings call.1 call.2).answer := rfl
  rw [grown, List.filter_append, disabled.tokens]
  unfold issued
  split
  · rename_i result answer
    have elsewhere := spares.noLogin result answer
    simp [elsewhere]
  · simp

theorem signsUp_activates {settings : Settings} {start state : AuthState} {userId : UserId}
    {call : Instant × AuthRequest} (opens : ¬ signsUp settings userId state call = false) :
    ¬ StaysDisabled start userId (requestStep settings state call) := by
  rintro ⟨⟨after, foundAfter, inactive⟩, _⟩
  simp only [Bool.not_eq_false, signsUp, Option.any_eq_true] at opens
  obtain ⟨user, found, signs⟩ := opens
  obtain ⟨now, request⟩ := call
  cases request with
  | registerWithPassword phoneNumber password salt fields =>
      have activated := registerWithPassword_activates found signs
      have ran : (requestStep settings state (now, .registerWithPassword phoneNumber password salt fields)).db =
          ((registerWithPassword settings phoneNumber password salt fields).run state.db).db :=
        congrArg Transaction.Outcome.db (answering_run _ _)
      rw [ran, activated, Option.some.injEq] at foundAfter
      subst foundAfter
      rw [signedUp_isActive] at inactive
      cases inactive
  | sendLoginOtp => cases signs
  | authenticateWithOtp => cases signs
  | authenticateWithFirebase => cases signs
  | authenticateCustomerAccess => cases signs
  | authenticateWithPassword => cases signs
  | completeAdminMfa => cases signs
  | devPhoneLogin => cases signs

/-- A disabled user stays so all along a run of requests exactly when none signs up for the user. -/
theorem staysDisabled_iff {settings : Settings} {start : AuthState} {userId : UserId} {user : User}
    (found : start.db.users.rows[userId]? = some user) (inactive : user.isActive = false)
    (requests : List (Instant × AuthRequest)) :
    Guarded (requestStep settings) (fun state call => signsUp settings userId state call = false) start requests ↔
      ∀ before after, requests = before ++ after →
        StaysDisabled start userId (runAll (requestStep settings) start before) :=
  Guarded.iff_throughout (fun _ disabled => disabled)
    (fun _ _ disabled other => staysDisabled_step disabled other)
    (fun _ _ _ opens => signsUp_activates opens) ⟨⟨user, found, inactive⟩, rfl⟩

def disabledCustomer : User :=
  { newCustomer "+919876543210" "!unusable" false with isActive := false }

def disabledState : AuthState where
  db := { sampleDb with users := { rows := [disabledCustomer], distinct := List.pairwise_singleton _ _ } }
  tokens := []

theorem disabledFound : disabledState.db.users.rows[0]? = some disabledCustomer := rfl

theorem staysDisabled_iff_turnedAway :
    StaysDisabled disabledState 0 (runAll (requestStep sampleSettings) disabledState
      [(0, .authenticateCustomerAccess "Asha Rao" "9876543210" "")]) :=
  (staysDisabled_iff disabledFound rfl
    [(0, .authenticateCustomerAccess "Asha Rao" "9876543210" "")]).mp (by decide) _ [] rfl

theorem disabled_reopened :
    ¬ ∀ (settings : Settings) (start : AuthState) (userId : UserId) (user : User),
      start.db.users.rows[userId]? = some user → user.isActive = false →
      ∀ requests before after, requests = before ++ after →
        StaysDisabled start userId (runAll (requestStep settings) start before) := by
  intro always
  have stays := always sampleSettings disabledState 0 disabledCustomer rfl rfl _
    [(0, .registerWithPassword "+919876543210" "new password" "" ⟨none, none, none⟩)] [] rfl
  obtain ⟨user, found, inactive⟩ := stays.inactive
  have stored : ((runAll (requestStep sampleSettings) disabledState
      [(0, .registerWithPassword "+919876543210" "new password" "" ⟨none, none, none⟩)]).db.users.rows[0]?).map
      User.isActive = some true := by decide
  rw [found, Option.map_some, inactive] at stored
  cases stored

end PsCore.Auth
