import PsCore.OneTimeCodes

/-!
Calls of the one-time code provider, in any order and for any mobiles. The row of each mobile
follows a one-time code challenge through the calls for that mobile.
-/

namespace PsCore.Auth

open Fallible Transaction Transaction.Program TransitionRun

inductive OtpCall
  | sendOtp (now : Instant) (mobile channel : String) (delivery : Delivery)
  | verifyOtp (now : Instant) (mobile otp : String)

namespace OtpCall

def now : OtpCall → Instant
  | .sendOtp now _ _ _ | .verifyOtp now _ _ => now

def mobile : OtpCall → String
  | .sendOtp _ mobile _ _ | .verifyOtp _ mobile _ => mobile

def isVerify : OtpCall → Bool
  | .verifyOtp _ _ _ => true
  | .sendOtp _ _ _ _ => false

def program (settings : Settings) : OtpCall → AuthProgram Unit
  | .sendOtp now mobile channel delivery => do
      let _ ← Auth.sendOtp settings now mobile channel delivery
      pure ()
  | .verifyOtp now mobile otp => Auth.verifyOtp settings now mobile otp

def accepted (settings : Settings) (db : AuthDb) (call : OtpCall) : Bool :=
  ((call.program settings).run db).answer.isOk

def step (settings : Settings) (db : AuthDb) (call : OtpCall) : AuthDb :=
  ((call.program settings).run db).db

def request (settings : Settings) : OtpCall → OneTimeCode.Call String
  | .sendOtp now mobile channel delivery =>
      { now := now, request := .send delivery.codeText (sendable settings mobile channel delivery) }
  | .verifyOtp now _ otp => { now := now, request := .guess otp }

def requestFor (settings : Settings) (mobile : String) (call : OtpCall) : Option (OneTimeCode.Call String) :=
  if call.mobile = mobile then some (call.request settings) else none

end OtpCall

def otpPolicy (settings : Settings) (mobile : String) : OneTimeCode.Policy String String where
  cooldown := 60 * second
  lifetime := settings.msg91OtpExpiryMinutes * minute
  maxAttempts := 5
  digest := otpHash settings mobile

theorem otpPolicy_injective {settings : Settings} (injective : Function.Injective settings.secretHmac)
    (mobile : String) : Function.Injective (otpPolicy settings mobile).digest := by
  intro first second same
  exact String.append_right_inj (mobile ++ ":") |>.mp (injective same)

structure StandsFor (policy : OneTimeCode.Policy String String) (row : LoginOtpChallenge)
    (challenge : OneTimeCode.Challenge String) : Prop where
  sentAt : row.sentAt = some challenge.sentAt
  expiresAt : row.expiresAt = some (challenge.sentAt + policy.lifetime)
  attempts : row.attempts = challenge.attempts
  consumed : row.consumedAt.isSome = challenge.consumed
  codeHash : challenge.consumed = false → row.codeHash = challenge.digest

def Represents (policy : OneTimeCode.Policy String String) :
    Option LoginOtpChallenge → Option (OneTimeCode.Challenge String) → Prop
  | none, none => True
  | some row, some challenge => StandsFor policy row challenge
  | _, _ => False

section

variable {settings : Settings} {db : AuthDb} {mobile : String} {challenge : Option (OneTimeCode.Challenge String)}

theorem StandsFor.isOpen {row : LoginOtpChallenge} {challenge : OneTimeCode.Challenge String}
    (stands : StandsFor (otpPolicy settings mobile) row challenge) (now : Instant) :
    row.isOpen now = (otpPolicy settings mobile).isOpen now challenge := by
  have unconsumed : row.consumedAt.isNone = !challenge.consumed := by
    rw [← stands.consumed]
    cases row.consumedAt <;> rfl
  unfold LoginOtpChallenge.isOpen OneTimeCode.Policy.isOpen
  have five : (otpPolicy settings mobile).maxAttempts = 5 := rfl
  rw [stands.expiresAt, unconsumed, stands.attempts, five, Option.any_some]

theorem Represents.coolsDown (related : Represents (otpPolicy settings mobile) (db.otps mobile) challenge)
    (now : Instant) : db.coolsDown now mobile = !(otpPolicy settings mobile).rested now challenge := by
  unfold AuthDb.coolsDown OneTimeCode.Policy.rested
  cases found : db.otps mobile with
  | none => cases challenge with
    | none => rfl
    | some last => simp [found, Represents] at related
  | some row => cases challenge with
    | none => simp [found, Represents] at related
    | some last =>
        rw [found] at related
        have sentAt := StandsFor.sentAt related
        have cooldown : (otpPolicy settings mobile).cooldown = 60 * second := rfl
        rw [Option.any_some, Option.all_some, LoginOtpChallenge.coolsDown, sentAt, Option.any_some, cooldown,
          ← decide_not, decide_eq_decide, Nat.not_le]

theorem step_send {now : Instant} {channel : String} {delivery : Delivery}
    (related : Represents (otpPolicy settings mobile) (db.otps mobile) challenge) :
    (OtpCall.sendOtp now mobile channel delivery).accepted settings db =
      (otpPolicy settings mobile).accepts challenge ((OtpCall.sendOtp now mobile channel delivery).request settings) ∧
    Represents (otpPolicy settings mobile) (((OtpCall.sendOtp now mobile channel delivery).step settings db).otps mobile)
      ((otpPolicy settings mobile).step challenge
        ((OtpCall.sendOtp now mobile channel delivery).request settings)) := by
  have cools := related.coolsDown now
  by_cases ready : sendable settings mobile channel delivery = true ∧ db.coolsDown now mobile = false
  · obtain ⟨requestId, deliveryChannel, ran⟩ := sendOtp_sends ready.1 ready.2
    have accepts : (otpPolicy settings mobile).accepts challenge
        ((OtpCall.sendOtp now mobile channel delivery).request settings) = true := by
      rw [ready.2] at cools
      simpa [OtpCall.request, OneTimeCode.Policy.accepts, ready.1] using cools
    have stepped := OneTimeCode.send_accepted accepts
    rw [accepts]
    unfold OtpCall.accepted OtpCall.step OtpCall.program
    simp only [run_bind, ran, andThen_ok, run_pure, storeOtp_self]
    refine ⟨rfl, ?_⟩
    change Represents (otpPolicy settings mobile) _ ((otpPolicy settings mobile).step challenge ⟨now, _⟩)
    rw [stepped]
    exact ⟨rfl, rfl, rfl, rfl, fun _ => rfl⟩
  · obtain ⟨error, ran⟩ := sendOtp_raises ready
    have refuses : (otpPolicy settings mobile).accepts challenge
        ((OtpCall.sendOtp now mobile channel delivery).request settings) = false := by
      cases isReady : sendable settings mobile channel delivery with
      | false => simp [OtpCall.request, OneTimeCode.Policy.accepts, isReady]
      | true =>
          have cooling : db.coolsDown now mobile = true := by simpa [isReady] using ready
          rw [cooling] at cools
          simpa [OtpCall.request, OneTimeCode.Policy.accepts, isReady] using cools
    have stepped := OneTimeCode.send_refused refuses
    rw [refuses]
    unfold OtpCall.accepted OtpCall.step OtpCall.program
    simp only [run_bind, ran, andThen_error]
    refine ⟨rfl, ?_⟩
    change Represents (otpPolicy settings mobile) _ ((otpPolicy settings mobile).step challenge ⟨now, _⟩)
    rw [stepped]
    exact related

theorem step_verify {now : Instant} {otp : String}
    (related : Represents (otpPolicy settings mobile) (db.otps mobile) challenge) :
    (OtpCall.verifyOtp now mobile otp).accepted settings db =
      (otpPolicy settings mobile).accepts challenge ((OtpCall.verifyOtp now mobile otp).request settings) ∧
    Represents (otpPolicy settings mobile) (((OtpCall.verifyOtp now mobile otp).step settings db).otps mobile)
      ((otpPolicy settings mobile).step challenge ((OtpCall.verifyOtp now mobile otp).request settings)) := by
  unfold OtpCall.accepted OtpCall.step OtpCall.program
  simp only [OtpCall.request]
  cases found : db.otps mobile with
  | none => cases challenge with
    | none =>
        rw [verifyOtp_closed (by rw [found]; rfl), found]
        exact ⟨rfl, trivial⟩
    | some last => simp [found, Represents] at related
  | some row => cases challenge with
    | none => simp [found, Represents] at related
    | some last =>
        rw [found] at related
        have stands : StandsFor (otpPolicy settings mobile) row last := related
        have sameOpen := stands.isOpen now
        cases isOpen : row.isOpen now with
        | false =>
            obtain ⟨refuses, stepped⟩ := OneTimeCode.guess_closed otp (sameOpen.symm.trans isOpen)
            rw [verifyOtp_closed (by simp [found, isOpen]), refuses, stepped, found]
            exact ⟨rfl, stands⟩
        | true =>
            obtain ⟨accepts, stepped⟩ := OneTimeCode.guess_open otp (sameOpen.symm.trans isOpen)
            have unused : last.consumed = false := by
              have open_ := sameOpen.symm.trans isOpen
              simp only [OneTimeCode.Policy.isOpen, Bool.and_eq_true, Bool.not_eq_true'] at open_
              exact open_.1.2
            have digest : (otpPolicy settings mobile).digest otp = otpHash settings mobile otp := rfl
            rw [verifyOtp_open found isOpen, storeOtp_self, accepts, stepped, digest, stands.codeHash unused]
            by_cases right : last.digest = otpHash settings mobile otp
            · rw [if_pos right, right, beq_self_eq_true, LoginOtpChallenge.guessed, if_pos rfl]
              refine ⟨rfl, stands.sentAt, stands.expiresAt, ?_, rfl, fun still => ?_⟩
              · exact congrArg (· + 1) stands.attempts
              · cases still
            · have wrong : (last.digest == otpHash settings mobile otp) = false := by simp [right]
              rw [if_neg right, wrong, LoginOtpChallenge.guessed, if_neg Bool.false_ne_true]
              refine ⟨rfl, stands.sentAt, stands.expiresAt, ?_, ?_, fun _ => stands.codeHash unused⟩
              · exact congrArg (· + 1) stands.attempts
              · exact stands.consumed.trans unused

theorem step_own (call : OtpCall) (own : call.mobile = mobile)
    (related : Represents (otpPolicy settings mobile) (db.otps mobile) challenge) :
    call.accepted settings db = (otpPolicy settings mobile).accepts challenge (call.request settings) ∧
    Represents (otpPolicy settings mobile) ((call.step settings db).otps mobile)
      ((otpPolicy settings mobile).step challenge (call.request settings)) := by
  cases call with
  | sendOtp now other channel delivery =>
      subst own
      exact step_send related
  | verifyOtp now other otp =>
      subst own
      exact step_verify related

theorem step_other (call : OtpCall) (apart : call.mobile ≠ mobile) :
    (call.step settings db).otps mobile = db.otps mobile := by
  unfold OtpCall.step OtpCall.program
  cases call with
  | sendOtp now other channel delivery =>
      rw [run_bind]
      by_cases ready : sendable settings other channel delivery = true ∧ db.coolsDown now other = false
      · obtain ⟨requestId, deliveryChannel, ran⟩ := sendOtp_sends ready.1 ready.2
        rw [ran]
        exact storeOtp_other _ _ (Ne.symm apart)
      · obtain ⟨error, ran⟩ := sendOtp_raises ready
        rw [ran]
        rfl
  | verifyOtp now other otp =>
      cases found : (db.otps other).filter (·.isOpen now) with
      | none => rw [verifyOtp_closed found]
      | some row =>
          obtain ⟨present, isOpen⟩ := Option.filter_eq_some_iff.mp found
          rw [verifyOtp_open present isOpen]
          exact storeOtp_other _ _ (Ne.symm apart)

end

/-- Through any calls, the row of a mobile follows its challenge. -/
theorem represents_run {settings : Settings} {start : AuthDb} (mobile : String) (empty : start.otps mobile = none)
    (calls : List OtpCall) :
    Represents (otpPolicy settings mobile) ((runAll (OtpCall.step settings) start calls).otps mobile)
      (runAll (otpPolicy settings mobile).step none (calls.filterMap (OtpCall.requestFor settings mobile))) := by
  induction calls using List.reverseRecOn with
  | nil => simp [empty, Represents]
  | append_singleton calls call ih =>
      rw [runAll_append, runAll_cons, runAll_nil, List.filterMap_append, runAll_append]
      by_cases own : call.mobile = mobile
      · simp only [OtpCall.requestFor, own, List.filterMap_cons, List.filterMap_nil, if_true, runAll_cons, runAll_nil]
        exact (step_own call own ih).2
      · simp only [OtpCall.requestFor, own, List.filterMap_cons, List.filterMap_nil, if_false, runAll_nil]
        rw [step_other call own]
        exact ih

/-! What holds of the calls of any history. -/

def OtpCall.acceptedAfter (settings : Settings) (start : AuthDb) (earlier : List OtpCall) (call : OtpCall) : Bool :=
  call.accepted settings (runAll (OtpCall.step settings) start earlier)

/-- The code is that of the last accepted send, which is alive, after fewer than five verifies
for the mobile and none that was accepted. -/
def OnLastSend (settings : Settings) (start : AuthDb) (before : List OtpCall) (now : Instant) (mobile otp : String) :
    Prop :=
  ∃ earlier sent channel delivery since, before = earlier ++ .sendOtp sent mobile channel delivery :: since ∧
    (OtpCall.sendOtp sent mobile channel delivery).acceptedAfter settings start earlier = true ∧
    delivery.codeText = otp ∧ now < sent + settings.msg91OtpExpiryMinutes * minute ∧
    (since.countP fun call => call.isVerify && call.mobile == mobile) < 5 ∧
    ∀ first call last, since = first ++ call :: last → call.mobile = mobile →
      call.acceptedAfter settings start (earlier ++ .sendOtp sent mobile channel delivery :: first) = false

def requestsFor (settings : Settings) (mobile : String) (calls : List OtpCall) : List (OneTimeCode.Call String) :=
  calls.filterMap (OtpCall.requestFor settings mobile)

theorem requestFor_own {settings : Settings} (call : OtpCall) :
    call.requestFor settings call.mobile = some (call.request settings) := if_pos rfl

section

variable {settings : Settings} {start : AuthDb} {mobile : String} (empty : start.otps mobile = none)

include empty

theorem acceptedAfter_eq (earlier : List OtpCall) (call : OtpCall) (own : call.mobile = mobile) :
    call.acceptedAfter settings start earlier =
      (otpPolicy settings mobile).accepts
        (runAll (otpPolicy settings mobile).step none (requestsFor settings mobile earlier)) (call.request settings) :=
  (step_own call own (represents_run mobile empty earlier)).1

theorem rejected_since {earlier since : List OtpCall}
    (rejected : Guarded (otpPolicy settings mobile).step
      (fun state request => (otpPolicy settings mobile).accepts state request = false)
      (runAll (otpPolicy settings mobile).step none (requestsFor settings mobile earlier))
      (requestsFor settings mobile since))
    {first last : List OtpCall} {call : OtpCall} (split : since = first ++ call :: last) (own : call.mobile = mobile) :
    call.acceptedAfter settings start (earlier ++ first) = false := by
  rw [acceptedAfter_eq empty _ call own]
  unfold requestsFor at *
  rw [List.filterMap_append, runAll_append]
  rw [split, List.filterMap_append, List.filterMap_cons] at rejected
  subst own
  rw [requestFor_own] at rejected
  exact (Guarded.append.mp rejected).2.1

theorem sendOtp_spaced {before middle : List OtpCall} {first second : Instant} {firstChannel secondChannel : String}
    {firstDelivery secondDelivery : Delivery}
    (firstSent : (OtpCall.sendOtp first mobile firstChannel firstDelivery).acceptedAfter settings start before = true)
    (secondSent : (OtpCall.sendOtp second mobile secondChannel secondDelivery).acceptedAfter settings start
      (before ++ .sendOtp first mobile firstChannel firstDelivery :: middle) = true) :
    first + 60 * Auth.second ≤ second := by
  rw [acceptedAfter_eq empty _ _ rfl] at firstSent secondSent
  have sameRequest : OtpCall.requestFor settings mobile (.sendOtp first mobile firstChannel firstDelivery) =
      some (OtpCall.request settings (.sendOtp first mobile firstChannel firstDelivery)) := requestFor_own _
  rw [requestsFor, List.filterMap_append, List.filterMap_cons, sameRequest] at secondSent
  exact OneTimeCode.sends_apart firstSent secondSent

omit empty in
theorem guesses_requestsFor (calls : List OtpCall) :
    OneTimeCode.guesses (requestsFor settings mobile calls) =
      calls.countP fun call => call.isVerify && call.mobile == mobile := by
  unfold OneTimeCode.guesses requestsFor
  rw [List.countP_filterMap]
  congr 1
  funext call
  by_cases own : call.mobile = mobile
  · cases call <;> simp_all [OtpCall.requestFor, OtpCall.request, OtpCall.isVerify, OneTimeCode.Request.isGuess]
  · simp [OtpCall.requestFor, own]

theorem verifyOtp_lastSend {before : List OtpCall} {now : Instant} {otp : String}
    (injective : Function.Injective settings.secretHmac) (monotone : ∀ call ∈ before, call.now ≤ now)
    (accepted : (OtpCall.verifyOtp now mobile otp).acceptedAfter settings start before = true) :
    OnLastSend settings start before now mobile otp := by
  rw [acceptedAfter_eq empty _ _ rfl] at accepted
  have requestsMonotone : ∀ request ∈ requestsFor settings mobile before, request.now ≤ now := by
    intro request member
    obtain ⟨call, inCalls, asks⟩ := List.mem_filterMap.mp member
    have sameNow : request.now = call.now := by
      unfold OtpCall.requestFor at asks
      split at asks
      · simp only [Option.some.injEq] at asks
        rw [← asks]
        cases call <;> rfl
      · cases asks
    exact sameNow ▸ monotone call inCalls
  obtain ⟨earlierRequests, sent, sinceRequests, split, sendAccepted, alive, left, rejected⟩ :=
    OneTimeCode.accepted_guess (otpPolicy_injective injective mobile) requestsMonotone accepted
  obtain ⟨before', rest, rfl, rfl, atRest⟩ := List.filterMap_eq_append_iff.mp split
  obtain ⟨skipped, call, since, rfl, notFor, asks, rfl⟩ := List.filterMap_eq_cons_iff.mp atRest
  have skips : requestsFor settings mobile (before' ++ skipped) = requestsFor settings mobile before' := by
    unfold requestsFor
    rw [List.filterMap_append, List.filterMap_eq_nil_iff.mpr notFor, List.append_nil]
  cases call with
  | verifyOtp _ _ _ => simp [OtpCall.requestFor, OtpCall.request] at asks
  | sendOtp instant other channel delivery =>
      by_cases own : other = mobile
      · subst own
        have requested : OtpCall.requestFor settings other (.sendOtp instant other channel delivery) = some _ :=
          requestFor_own _
        rw [requested] at asks
        simp only [OtpCall.request, Option.some.injEq, OneTimeCode.Call.mk.injEq, OneTimeCode.Request.send.injEq] at asks
        obtain ⟨rfl, code, ready⟩ := asks
        have isRequest : OtpCall.request settings (.sendOtp instant other channel delivery) =
            ⟨instant, .send otp true⟩ := by
          simp only [OtpCall.request, code, ready]
        refine ⟨before' ++ skipped, instant, channel, delivery, since, by simp, ?_, code, alive, ?_, ?_⟩
        · rw [acceptedAfter_eq empty _ _ rfl, skips, isRequest]
          exact sendAccepted
        · have counted : OneTimeCode.guesses (requestsFor settings other since) = _ := guesses_requestsFor since
          exact counted ▸ left
        · intro first call last splitSince own
          have atSend : requestsFor settings other
              ((before' ++ skipped) ++ [.sendOtp instant other channel delivery]) =
              requestsFor settings other before' ++ [⟨instant, .send otp true⟩] := by
            rw [requestsFor, List.filterMap_append, ← requestsFor, skips, ← isRequest]
            simp [OtpCall.requestFor, OtpCall.mobile]
          have turnedAway := rejected_since empty (atSend.symm ▸ rejected) splitSince own
          rw [List.append_assoc, List.singleton_append] at turnedAway
          exact turnedAway
      · simp [OtpCall.requestFor, OtpCall.mobile, own] at asks

end

theorem sendOtp_rejected {settings : Settings} {db : AuthDb} {now : Instant} {mobile channel : String}
    {delivery : Delivery} (rejected : (OtpCall.sendOtp now mobile channel delivery).accepted settings db = false) :
    (OtpCall.sendOtp now mobile channel delivery).step settings db = db := by
  unfold OtpCall.accepted OtpCall.step OtpCall.program at *
  rw [run_bind] at *
  by_cases ready : sendable settings mobile channel delivery = true ∧ db.coolsDown now mobile = false
  · obtain ⟨requestId, deliveryChannel, ran⟩ := sendOtp_sends ready.1 ready.2
    rw [ran] at rejected
    cases rejected
  · obtain ⟨error, ran⟩ := sendOtp_raises ready
    rw [ran]
    rfl

/-- For any mobile and any calls with a monotone clock: sends are a minute apart; a verify needs
the code of the last send, alive, after fewer than five verifies and no accepted one, so two
accepted verifies have a send between them; and a send that raises changes nothing. -/
theorem otpProtocol_safe (settings : Settings) (injective : Function.Injective settings.secretHmac) (start : AuthDb)
    (empty : ∀ mobile, start.otps mobile = none) (calls : List OtpCall)
    (monotone : calls.Pairwise fun earlier later => earlier.now ≤ later.now) (mobile : String) :
    (∀ before first firstChannel firstDelivery middle second secondChannel secondDelivery after,
      calls = before ++ .sendOtp first mobile firstChannel firstDelivery ::
        (middle ++ .sendOtp second mobile secondChannel secondDelivery :: after) →
      (OtpCall.sendOtp first mobile firstChannel firstDelivery).acceptedAfter settings start before = true →
      (OtpCall.sendOtp second mobile secondChannel secondDelivery).acceptedAfter settings start
        (before ++ .sendOtp first mobile firstChannel firstDelivery :: middle) = true →
      first + 60 * Auth.second ≤ second) ∧
    (∀ before now otp after, calls = before ++ .verifyOtp now mobile otp :: after →
      (OtpCall.verifyOtp now mobile otp).acceptedAfter settings start before = true →
      OnLastSend settings start before now mobile otp) ∧
    (∀ before first firstOtp middle second secondOtp after,
      calls = before ++ .verifyOtp first mobile firstOtp :: (middle ++ .verifyOtp second mobile secondOtp :: after) →
      (OtpCall.verifyOtp first mobile firstOtp).acceptedAfter settings start before = true →
      (OtpCall.verifyOtp second mobile secondOtp).acceptedAfter settings start
        (before ++ .verifyOtp first mobile firstOtp :: middle) = true →
      ∃ earlier sent channel delivery later, middle = earlier ++ .sendOtp sent mobile channel delivery :: later ∧
        (OtpCall.sendOtp sent mobile channel delivery).acceptedAfter settings start
          (before ++ .verifyOtp first mobile firstOtp :: earlier) = true) ∧
    (∀ before now channel delivery after, calls = before ++ .sendOtp now mobile channel delivery :: after →
      (OtpCall.sendOtp now mobile channel delivery).acceptedAfter settings start before = false →
      ∀ other, (runAll (OtpCall.step settings) start (before ++ [.sendOtp now mobile channel delivery])).otps other =
        (runAll (OtpCall.step settings) start before).otps other) := by
  have lastSend : ∀ before now otp after, calls = before ++ .verifyOtp now mobile otp :: after →
      (OtpCall.verifyOtp now mobile otp).acceptedAfter settings start before = true →
      OnLastSend settings start before now mobile otp := by
    intro before now otp after split accepted
    rw [split] at monotone
    exact verifyOtp_lastSend (empty mobile) injective (fun call member =>
      (List.pairwise_append.mp monotone).2.2 call member (.verifyOtp now mobile otp) List.mem_cons_self) accepted
  refine ⟨?_, lastSend, ?_, ?_⟩
  · intro before first firstChannel firstDelivery middle second secondChannel secondDelivery after _ firstSent secondSent
    exact sendOtp_spaced (empty mobile) firstSent secondSent
  · intro before first firstOtp middle second secondOtp after split firstAccepted secondAccepted
    obtain ⟨earlier, sent, channel, delivery, since, position, sendAccepted, _, _, _, rejected⟩ :=
      lastSend (before ++ .verifyOtp first mobile firstOtp :: middle) second secondOtp after (by simp [split])
        secondAccepted
    rcases List.append_eq_append_iff.mp position with ⟨gap, isEarlier, isRest⟩ | ⟨gap, isBefore, isSince⟩
    · cases gap with
      | nil => simp at isRest
      | cons head later =>
          simp only [List.cons_append, List.cons.injEq] at isRest
          obtain ⟨rfl, rfl⟩ := isRest
          exact ⟨later, sent, channel, delivery, since, rfl, isEarlier ▸ sendAccepted⟩
    · -- The first verify would come since the send of the second one, and be accepted.
      cases gap with
      | nil => simp at isSince
      | cons head first' =>
          simp only [List.cons_append, List.cons.injEq] at isSince
          obtain ⟨rfl, isSince⟩ := isSince
          have turnedAway := rejected first' _ middle isSince rfl
          rw [← isBefore, firstAccepted] at turnedAway
          cases turnedAway
  · intro before now channel delivery after _ rejected other
    rw [runAll_append, runAll_cons, runAll_nil, sendOtp_rejected rejected]

def loggedInByCode : List OtpCall := [
  .sendOtp 0 "919876543210" "SMS" sampleDelivery,
  .verifyOtp minute "919876543210" "000000",
  .verifyOtp (2 * minute) "919876543210" "123456"]

theorem otpProtocol_safe_loggedInByCode :
    OnLastSend sampleSettings sampleDb (loggedInByCode.take 2) (2 * minute) "919876543210" "123456" :=
  (otpProtocol_safe sampleSettings (fun _ _ same => same) sampleDb (fun _ => rfl) loggedInByCode (by decide)
    "919876543210").2.1 (loggedInByCode.take 2) _ _ [] rfl (by decide)

end PsCore.Auth
