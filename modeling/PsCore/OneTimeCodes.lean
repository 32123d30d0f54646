import PsCore.AuthSystemCore
import PsCore.Library.OneTimeCode

/-!
The one-time codes of the logins. For every mobile, the sends and the guesses of its codes are
those of a one-time code with a cooldown of a minute and five attempts.
-/

namespace PsCore.Auth

open Fallible RowTable Transaction Transaction.Program TransitionRun

def sendable (settings : Settings) (mobile channel : String) (delivery : Delivery) : Bool :=
  isIndianMobile mobile &&
  (OtpDeliveryChannel.ofText? channel).any (fun deliveryChannel => (ensureConfigured settings deliveryChannel).isOk) &&
  (deliver delivery).isOk

def AuthDb.coolsDown (db : AuthDb) (now : Instant) (mobile : String) : Bool :=
  (db.otps mobile).any (·.coolsDown now)

theorem coolsDown_getD (db : AuthDb) (now : Instant) (mobile : String) :
    ((db.otps mobile).getD .new).coolsDown now = db.coolsDown now mobile := by
  unfold AuthDb.coolsDown
  cases db.otps mobile <;> rfl

theorem storeOtp_self (mobile : String) (row : LoginOtpChallenge) (db : AuthDb) :
    (db.storeOtp mobile row).otps mobile = some row := if_pos rfl

theorem storeOtp_other {mobile other : String} (row : LoginOtpChallenge) (db : AuthDb) (apart : other ≠ mobile) :
    (db.storeOtp mobile row).otps other = db.otps other := if_neg apart

theorem storeOtp_twice (mobile : String) (first second : LoginOtpChallenge) (db : AuthDb) :
    (db.storeOtp mobile first).storeOtp mobile second = db.storeOtp mobile second := by
  unfold AuthDb.storeOtp
  congr 1
  funext other
  by_cases same : other = mobile <;> simp [same]

section

variable {settings : Settings} {now : Instant} {mobile channel : String} {delivery : Delivery} {db : AuthDb}

theorem sendChallenge_run {deliveryChannel : OtpDeliveryChannel} :
    (sendChallenge settings now mobile deliveryChannel delivery).run db =
      if db.coolsDown now mobile then
        { answer := .error (.throttled "Please wait before requesting another OTP."), db := db, events := [] }
      else match deliver delivery with
        | .error error => { answer := .error error, db := db, events := [] }
        | .ok payload => {
            answer := .ok payload
            db := db.storeOtp mobile (.resent settings now mobile delivery.codeText deliveryChannel)
            events := [.sent mobile] } := by
  unfold sendChallenge
  rw [run_atomic]
  simp only [run_bind, run_read, andThen_ok, run_change]
  cases cools : db.coolsDown now mobile with
  | true =>
      rw [run_require_not _ _ (by rw [coolsDown_getD, cools]; simp)]
      simp [andThen_error, Outcome.orRestore]
  | false =>
      rw [run_require _ _ (by rw [coolsDown_getD, cools])]
      simp only [andThen_ok, run_bind, run_lift]
      cases deliver delivery with
      | error error => simp [andThen_error, Outcome.orRestore]
      | ok payload =>
          simp [andThen_ok, run_bind, run_change, run_happen, run_pure, Outcome.orRestore, storeOtp_twice]

theorem sendOtp_sends (ready : sendable settings mobile channel delivery = true)
    (rested : db.coolsDown now mobile = false) :
    ∃ requestId deliveryChannel, (sendOtp settings now mobile channel delivery).run db = {
      answer := .ok requestId
      db := db.storeOtp mobile (.resent settings now mobile delivery.codeText deliveryChannel)
      events := [.sent mobile] } := by
  simp only [sendable, Bool.and_eq_true, Option.any_eq_true, isOk_iff] at ready
  obtain ⟨⟨indian, deliveryChannel, known, ⟨⟩, configured⟩, payload, delivered⟩ := ready
  unfold sendOtp
  rw [run_bind, run_require _ _ indian]
  simp only [andThen_ok, run_bind, run_lift, known, orRaise, configured, sendChallenge_run, rested, delivered, run_pure,
    Bool.false_eq_true, if_false]
  exact ⟨_, deliveryChannel, rfl⟩

theorem sendOtp_raises (refused : ¬ (sendable settings mobile channel delivery = true ∧ db.coolsDown now mobile = false)) :
    ∃ error, (sendOtp settings now mobile channel delivery).run db =
      { answer := .error error, db := db, events := [] } := by
  unfold sendOtp
  rw [run_bind]
  by_cases indian : isIndianMobile mobile = true
  · rw [run_require _ _ indian]
    simp only [andThen_ok, run_bind, run_lift]
    cases known : OtpDeliveryChannel.ofText? channel with
    | none => exact ⟨_, rfl⟩
    | some deliveryChannel =>
        simp only [orRaise, andThen_ok, run_bind, run_lift]
        cases configured : ensureConfigured settings deliveryChannel with
        | error error => exact ⟨error, rfl⟩
        | ok done =>
            simp only [andThen_ok, run_bind, sendChallenge_run]
            cases cools : db.coolsDown now mobile with
            | true => exact ⟨_, rfl⟩
            | false =>
                cases delivered : deliver delivery with
                | error error => exact ⟨error, rfl⟩
                | ok payload => simp [sendable, indian, known, configured, delivered, cools] at refused
  · rw [run_require_not _ _ indian]
    exact ⟨_, rfl⟩

end

theorem sendLoginOtp_cases (settings : Settings) (now : Instant) (phoneNumber channel : String) (delivery : Delivery)
    (allowAdmin : Bool) (db : AuthDb) :
    (∃ requestId mobile challenge, (sendLoginOtp settings now phoneNumber channel delivery allowAdmin).run db =
      { answer := .ok requestId, db := db.storeOtp mobile challenge, events := [.sent mobile] }) ∨
    ∃ error, (sendLoginOtp settings now phoneNumber channel delivery allowAdmin).run db =
      { answer := .error error, db := db, events := [] } := by
  unfold sendLoginOtp
  rw [run_bind, run_lift]
  cases normalizePhoneNumber phoneNumber with
  | error error => exact .inr ⟨error, rfl⟩
  | ok phoneNumber =>
      simp only [andThen_ok, run_bind, run_read]
      by_cases allowed : ((db.userOfPhone phoneNumber).any (·.2.role.isAdmin) && !allowAdmin) = false
      · rw [run_require _ _ allowed]
        by_cases ready : sendable settings (mobileOf phoneNumber) channel delivery = true ∧
            db.coolsDown now (mobileOf phoneNumber) = false
        · obtain ⟨requestId, deliveryChannel, ran⟩ := sendOtp_sends ready.1 ready.2
          rw [andThen_ok, ran]
          exact .inl ⟨requestId, _, _, rfl⟩
        · obtain ⟨error, ran⟩ := sendOtp_raises ready
          rw [andThen_ok, ran]
          exact .inr ⟨error, rfl⟩
      · rw [run_require_not _ _ allowed]
        exact .inr ⟨_, rfl⟩

theorem verifyOtp_open {settings : Settings} {now : Instant} {mobile otp : String} {db : AuthDb}
    {challenge : LoginOtpChallenge} (found : db.otps mobile = some challenge) (isOpen : challenge.isOpen now = true) :
    (verifyOtp settings now mobile otp).run db = {
      answer := if challenge.codeHash = otpHash settings mobile otp then .ok ()
        else .error (.validation "Invalid or expired OTP. Request a new code if needed.")
      db := db.storeOtp mobile (challenge.guessed now (challenge.codeHash == otpHash settings mobile otp))
      events := [.compared mobile] } := by
  unfold verifyOtp guessChallenge
  rw [run_bind, run_atomic]
  simp only [run_bind, run_read, andThen_ok, found, Option.filter, isOpen, if_true, run_happen, run_change, run_pure,
    Outcome.orRestore]
  by_cases right : challenge.codeHash = otpHash settings mobile otp
  · simp [right, run_require]
  · simp [right, run_require_not]

theorem verifyOtp_closed {settings : Settings} {now : Instant} {mobile otp : String} {db : AuthDb}
    (closed : (db.otps mobile).filter (·.isOpen now) = none) :
    (verifyOtp settings now mobile otp).run db = {
      answer := .error (.validation "Invalid or expired OTP. Request a new code if needed.")
      db := db
      events := [] } := by
  unfold verifyOtp guessChallenge
  rw [run_bind, run_atomic]
  simp only [run_bind, run_read, andThen_ok, closed, run_pure, Outcome.orRestore]
  rw [run_require_not _ _ Bool.false_ne_true]
  rfl

end PsCore.Auth
