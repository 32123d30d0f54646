import PsCore.AuthCore
import PsCore.Library.TransitionRun

/-!
The login system: the requests that anybody can send, one after another, between refreshes of
issued tokens and what the staff does to the accounts.
-/

namespace PsCore.Auth

open Fallible RowTable Transaction Transaction.Program TransitionRun

inductive AuthRequest
  | sendLoginOtp (phoneNumber channel : String) (delivery : Delivery)
  | authenticateWithOtp (phoneNumber otp : String)
  | authenticateWithFirebase (verified : Except AuthError String)
  | authenticateCustomerAccess (name phoneNumber unusable : String)
  | registerWithPassword (phoneNumber password salt : String) (fields : ProfileFields)
  | authenticateWithPassword (phoneNumber password channel : String) (delivery : Delivery)
  | completeAdminMfa (challengeId : ChallengeId) (otp : String)
  | devPhoneLogin (phoneNumber : String)

def answering (login : AuthProgram LoginResult) : AuthProgram Reply := do
  let result ← login
  pure (.loggedIn result)

theorem answering_run (login : AuthProgram LoginResult) (db : AuthDb) :
    (answering login).run db = {
      answer := (login.run db).answer.map .loggedIn
      db := (login.run db).db
      events := (login.run db).events } := by
  unfold answering
  rw [run_bind]
  obtain ⟨answer, last, events⟩ := login.run db
  cases answer with
  | error error => rfl
  | ok result => rw [andThen_ok, run_pure, List.append_nil, Except.map]

def handle (settings : Settings) (now : Instant) : AuthRequest → AuthProgram Reply
  | .sendLoginOtp phoneNumber channel delivery => do
      let requestId ← sendLoginOtp settings now phoneNumber channel delivery false
      pure (.otpSent requestId)
  | .authenticateWithOtp phoneNumber otp => answering (authenticateWithOtp settings now phoneNumber otp)
  | .authenticateWithFirebase verified => answering (authenticateWithFirebase settings verified)
  | .authenticateCustomerAccess name phoneNumber unusable =>
      answering (authenticateCustomerAccess settings name phoneNumber unusable)
  | .registerWithPassword phoneNumber password salt fields =>
      answering (registerWithPassword settings phoneNumber password salt fields)
  | .authenticateWithPassword phoneNumber password channel delivery =>
      authenticateWithPassword settings now phoneNumber password channel delivery
  | .completeAdminMfa challengeId otp => answering (completeAdminMfa settings now challengeId otp)
  | .devPhoneLogin phoneNumber => answering (devPhoneLogin settings phoneNumber)

abbrev TokenId := Nat

/-- A pair of access and refresh token; `parent` is the token that it refreshes. -/
structure Token where
  claims : TokenClaims
  parent : Option TokenId
  deriving DecidableEq, Repr

structure AuthState where
  db : AuthDb
  tokens : List Token

/-- A refresh here is one that the token library has accepted. -/
inductive AuthInput
  | request (now : Instant) (request : AuthRequest)
  | refresh (token : TokenId)
  | editUser (userId : UserId) (user : User)
  | addUser (user : User)

def issued : Except AuthError Reply → List Token
  | .ok (.loggedIn result) => [{ claims := result.claims, parent := none }]
  | _ => []

def refreshed (token : TokenId) (tokens : List Token) : List Token :=
  (tokens[token]?.map fun old => { claims := old.claims, parent := some token }).toList

def AuthDb.withUsers (users : Option UserTable) (db : AuthDb) : AuthDb :=
  { db with users := users.getD db.users }

namespace AuthState

def outcome (settings : Settings) (state : AuthState) (now : Instant) (request : AuthRequest) :
    Transaction.Outcome AuthDb AuthEvent AuthError Reply :=
  (handle settings now request).run state.db

def step (settings : Settings) (state : AuthState) : AuthInput → AuthState
  | .request now request =>
      let outcome := state.outcome settings now request
      { db := outcome.db, tokens := state.tokens ++ issued outcome.answer }
  | .refresh token => { state with tokens := state.tokens ++ refreshed token state.tokens }
  | .editUser userId user => { state with db := state.db.withUsers (state.db.users.replace? userId user) }
  | .addUser user => { state with db := state.db.withUsers (state.db.users.insert? user) }

def events (settings : Settings) (state : AuthState) : AuthInput → List AuthEvent
  | .request now request => (state.outcome settings now request).events
  | .refresh _ | .editUser _ _ | .addUser _ => []

def history (settings : Settings) (state : AuthState) : List AuthInput → List AuthEvent
  | [] => []
  | input :: rest => state.events settings input ++ (state.step settings input).history settings rest

end AuthState

/-! Settings, a delivered code and an administrator for runs on given inputs. The digest of a
text is the text. -/

def sampleSettings : Settings where
  secretHmac := id
  checkPassword := fun password stored => password == stored
  makePassword := fun _ password => password
  validatePassword := fun _ _ => []
  passwordMark := id
  msg91AuthKey := "key"
  msg91TemplateId := "template"
  msg91WhatsappIntegratedNumber := "number"
  msg91WhatsappTemplateName := "name"
  msg91WhatsappTemplateNamespace := "namespace"
  msg91OtpExpiryMinutes := 5
  adminMfaTtlMinutes := 5
  adminMfaEnabled := true
  debug := false
  devPhoneLoginEnabled := false
  devPhoneLoginAllowedNumbers := []

def sampleDelivery : Delivery where
  code := 123456
  answer := some (200, .object [("type", .text "success")])

def sampleAdmin : User where
  phoneNumber := "+919876543210"
  email := none
  firstName := "Asha"
  lastName := "Rao"
  role := .admin
  isVerified := true
  isActive := true
  password := "secret password"
  customerProfile := none

def sampleDb : AuthDb where
  users := UniqueTable.empty
  otps := fun _ => none
  mfaChallenges := []

def sampleState : AuthState where
  db := { sampleDb with users := { rows := [sampleAdmin], distinct := List.pairwise_singleton _ _ } }
  tokens := []

def startsMfa : AuthInput :=
  .request 0 (.authenticateWithPassword "+919876543210" "secret password" "SMS" sampleDelivery)

end PsCore.Auth
