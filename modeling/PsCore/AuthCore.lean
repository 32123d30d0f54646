import PsCore.JsonCore
import PsCore.TextCore
import PsCore.Library.Fallible
import PsCore.Library.RowTable
import PsCore.Library.Transaction

/-!
Logging in: one-time codes, passwords and the administrators' second factor. Every entry point
is a program over the accounts database; most of them are one transaction, and a transaction
inside another is taken back with it.
-/

namespace PsCore.Auth

open Fallible RowTable Transaction Transaction.Program

inductive AuthError
  | validation (message : String)
  | fieldValidation (field message : String)
  | passwordRejected (messages : List String)
  | throttled (detail : String)
  | apiException (detail : String)
  | authenticationFailed (detail : String)
  | permissionDenied (detail : String)
  | notFound (detail : String)
  | doesNotExist (model : String)
  | integrity (table : String)
  | dataError (table : String)
  deriving DecidableEq, Repr

inductive UserRole
  | customer
  | technician
  | admin
  | superAdmin
  deriving DecidableEq, Repr

def UserRole.isAdmin : UserRole → Bool
  | .admin | .superAdmin => true
  | .customer | .technician => false

/-- A user with the display name of the customer profile, where there is one. -/
structure User where
  phoneNumber : String
  email : Option String
  firstName : String
  lastName : String
  role : UserRole
  isVerified : Bool
  isActive : Bool
  password : String
  customerProfile : Option String
  deriving DecidableEq, Repr

def User.fits (user : User) : Bool :=
  user.phoneNumber.length ≤ 16 && user.email.all (·.length ≤ 254) && user.firstName.length ≤ 150 &&
  user.lastName.length ≤ 150 && user.password.length ≤ 128

/-- `is_password_usable`: an unusable password starts with an exclamation mark. -/
def User.hasUsablePassword (user : User) : Bool :=
  user.password.toList.head? != some '!'

def User.withProfile (user : User) : User :=
  if user.role = .customer then { user with customerProfile := some (user.customerProfile.getD "") } else user

abbrev UserTable := RowTable.UniqueTable User fun first second => first.phoneNumber = second.phoneNumber

inductive OtpDeliveryChannel
  | sms
  | whatsapp
  deriving DecidableEq, Repr

def OtpDeliveryChannel.ofText? : String → Option OtpDeliveryChannel
  | "SMS" => some .sms
  | "WHATSAPP" => some .whatsapp
  | _ => none

structure LoginOtpChallenge where
  channel : OtpDeliveryChannel
  codeHash : String
  expiresAt : Option Instant
  sentAt : Option Instant
  attempts : Nat
  consumedAt : Option Instant
  deriving DecidableEq, Repr

/-- The row that `get_or_create` makes. -/
def LoginOtpChallenge.new : LoginOtpChallenge where
  channel := .sms
  codeHash := ""
  expiresAt := none
  sentAt := none
  attempts := 0
  consumedAt := none

abbrev ChallengeId := Nat

structure AdminMfaChallenge where
  user : UserId
  channel : String
  expiresAt : Instant
  consumedAt : Option Instant
  deriving DecidableEq, Repr

/-- The mobile is the key of a one-time code. -/
structure AuthDb where
  users : UserTable
  otps : String → Option LoginOtpChallenge
  mfaChallenges : List AdminMfaChallenge

/-- `secretHmac` is the keyed digest of the login codes; the password functions are those of the
configured hasher and validators. -/
structure Settings where
  secretHmac : String → String
  checkPassword : String → String → Bool
  makePassword : String → String → String
  validatePassword : String → User → List String
  passwordMark : String → String
  msg91AuthKey : String
  msg91TemplateId : String
  msg91WhatsappIntegratedNumber : String
  msg91WhatsappTemplateName : String
  msg91WhatsappTemplateNamespace : String
  msg91OtpExpiryMinutes : Nat
  adminMfaTtlMinutes : Nat
  adminMfaEnabled : Bool
  debug : Bool
  devPhoneLoginEnabled : Bool
  devPhoneLoginAllowedNumbers : List String

inductive AuthEvent
  | compared (mobile : String)
  | sent (mobile : String)
  deriving DecidableEq, Repr

abbrev AuthProgram (α : Type) := Program AuthDb AuthEvent AuthError α

def isE164 (text : String) : Bool :=
  match text.toList with
  | '+' :: first :: rest =>
      '1' ≤ first && first ≤ '9' && 7 ≤ rest.length && rest.length ≤ 14 &&
      rest.all fun character => (digitValue character).isSome
  | _ => false

def normalizePhoneNumber (phoneNumber : String) : Except AuthError String :=
  let value := String.ofList (phoneNumber.toList.filter fun character => !isSpace character)
  if isE164 value then .ok value else .error (.validation "Phone number must be a verified E.164 value.")

def mobileOf (phoneNumber : String) : String :=
  String.ofList (phoneNumber.toList.filter (· ≠ '+'))

/-- The characters that are digits and not decimal ones, in ranges. -/
def specialDigits : List (Nat × Nat) :=
  [(0xB2, 0xB3), (0xB9, 0xB9), (0x1369, 0x1371), (0x19DA, 0x19DA), (0x2070, 0x2070), (0x2074, 0x2079),
    (0x2080, 0x2089), (0x2460, 0x2468), (0x2474, 0x247C), (0x2488, 0x2490), (0x24EA, 0x24EA), (0x24F5, 0x24FD),
    (0x24FF, 0x24FF), (0x2776, 0x277E), (0x2780, 0x2788), (0x278A, 0x2792), (0x10A40, 0x10A43), (0x10E60, 0x10E68),
    (0x11052, 0x1105A), (0x1F100, 0x1F10A)]

def isDigit (character : Char) : Bool :=
  (digitValue character).isSome ||
  specialDigits.any fun (first, last) => first ≤ character.toNat && character.toNat ≤ last

def AuthDb.userOfPhone (db : AuthDb) (phoneNumber : String) : Option (UserId × User) :=
  firstRow (·.phoneNumber == phoneNumber) db.users.rows

/-! Sending and verifying one-time codes. -/

def isIndianMobile (mobile : String) : Bool :=
  match mobile.toList with
  | '9' :: '1' :: first :: rest =>
      '6' ≤ first && first ≤ '9' && rest.length == 9 && rest.all fun digit => '0' ≤ digit && digit ≤ '9'
  | _ => false

def ensureConfigured (settings : Settings) (channel : OtpDeliveryChannel) : Except AuthError Unit := do
  Fallible.require (settings.msg91AuthKey ≠ "")
    (.apiException "OTP delivery is not configured. Please contact support.")
  match channel with
  | .sms =>
      Fallible.require (settings.msg91TemplateId ≠ "")
        (.apiException "SMS OTP delivery is not configured. Please contact support.")
  | .whatsapp =>
      Fallible.require (settings.msg91WhatsappIntegratedNumber ≠ "" ∧
          settings.msg91WhatsappTemplateName ≠ "" ∧ settings.msg91WhatsappTemplateNamespace ≠ "")
        (.apiException "WhatsApp OTP delivery is not configured. Please choose SMS or contact support.")

/-- What a send draws and what the gateway answers: nothing usable, or a status code and a payload. -/
structure Delivery where
  code : Fin 1000000
  answer : Option (Nat × Json)

def Delivery.codeText (delivery : Delivery) : String :=
  padded 6 delivery.code.val

/-- `str(payload.get(key, "")).lower()`; the words looked for hold ASCII letters only. -/
def lowerField (entries : List (String × Json)) (key : String) : List Char :=
  ((entries.lookup key).getD (.text "")).str.toList.map Char.toLower

def truthyField (entries : List (String × Json)) (key : String) : Option Json :=
  (entries.lookup key).filter Json.truthy

def isWithin (part : List Char) : List Char → Bool
  | [] => part.isEmpty
  | character :: rest => part.isPrefixOf (character :: rest) || isWithin part rest

def isSuccess (entries : List (String × Json)) : Bool :=
  ["success", "sent", "accepted"].any (fun word => lowerField entries "status" == word.toList) ||
  lowerField entries "type" == "success".toList ||
  isWithin "success".toList (lowerField entries "message") ||
  (truthyField entries "request_id").isSome || (truthyField entries "message_id").isSome

def deliver (delivery : Delivery) : Except AuthError (List (String × Json)) :=
  match delivery.answer with
  | some (statusCode, .object entries) =>
      if statusCode < 400 ∧ isSuccess entries = true then .ok entries
      else .error (.apiException "OTP could not be sent. Please try again shortly.")
  | _ => .error (.apiException "OTP could not be sent. Please try again shortly.")

def otpHash (settings : Settings) (mobile otp : String) : String :=
  settings.secretHmac (mobile ++ ":" ++ otp)

def second : Nat := 1000000

def LoginOtpChallenge.coolsDown (now : Instant) (challenge : LoginOtpChallenge) : Bool :=
  challenge.sentAt.any fun sentAt => now < sentAt + 60 * second

def LoginOtpChallenge.resent (settings : Settings) (now : Instant) (mobile code : String)
    (channel : OtpDeliveryChannel) : LoginOtpChallenge where
  channel := channel
  codeHash := otpHash settings mobile code
  expiresAt := some (now + settings.msg91OtpExpiryMinutes * minute)
  sentAt := some now
  attempts := 0
  consumedAt := none

def AuthDb.storeOtp (mobile : String) (challenge : LoginOtpChallenge) (db : AuthDb) : AuthDb :=
  { db with otps := fun other => if other = mobile then some challenge else db.otps other }

/-- The transaction of a send. The code is delivered before the row is saved. -/
def sendChallenge (settings : Settings) (now : Instant) (mobile : String) (channel : OtpDeliveryChannel)
    (delivery : Delivery) : AuthProgram (List (String × Json)) :=
  atomic do
    let challenge ← read fun db => (db.otps mobile).getD .new
    change (AuthDb.storeOtp mobile challenge)
    require (challenge.coolsDown now = false) (.throttled "Please wait before requesting another OTP.")
    let payload ← lift (deliver delivery)
    change (AuthDb.storeOtp mobile (.resent settings now mobile delivery.codeText channel))
    happen (.sent mobile)
    pure payload

def sendOtp (settings : Settings) (now : Instant) (mobile channel : String) (delivery : Delivery) :
    AuthProgram String := do
  require (isIndianMobile mobile = true) (.validation "Please enter a valid Indian mobile number.")
  let deliveryChannel ← lift (orRaise (OtpDeliveryChannel.ofText? channel)
    (.validation "Choose SMS or WhatsApp for OTP delivery."))
  lift (ensureConfigured settings deliveryChannel)
  let payload ← sendChallenge settings now mobile deliveryChannel delivery
  pure (((truthyField payload "request_id").or (truthyField payload "message_id")).elim "" Json.str)

def LoginOtpChallenge.isOpen (now : Instant) (challenge : LoginOtpChallenge) : Bool :=
  challenge.expiresAt.any (now < ·) && challenge.consumedAt.isNone && challenge.attempts < 5

def LoginOtpChallenge.guessed (now : Instant) (valid : Bool) (challenge : LoginOtpChallenge) : LoginOtpChallenge :=
  if valid then { challenge with attempts := challenge.attempts + 1, consumedAt := some now, codeHash := "" }
  else { challenge with attempts := challenge.attempts + 1 }

/-- The transaction of a guess: whether the code was the stored one. -/
def guessChallenge (settings : Settings) (now : Instant) (mobile otp : String) : AuthProgram Bool :=
  atomic do
    let found ← read fun db => db.otps mobile
    match found.filter (·.isOpen now) with
    | none => pure false
    | some challenge => do
        happen (.compared mobile)
        let valid := challenge.codeHash == otpHash settings mobile otp
        change (AuthDb.storeOtp mobile (challenge.guessed now valid))
        pure valid

def verifyOtp (settings : Settings) (now : Instant) (mobile otp : String) : AuthProgram Unit := do
  let valid ← guessChallenge settings now mobile otp
  require (valid = true) (.validation "Invalid or expired OTP. Request a new code if needed.")

def adminLoginMessage : String := "Administrator accounts must use password and MFA login."

def sendLoginOtp (settings : Settings) (now : Instant) (phoneNumber channel : String) (delivery : Delivery)
    (allowAdmin : Bool) : AuthProgram String := do
  let phoneNumber ← lift (normalizePhoneNumber phoneNumber)
  let found ← read fun db => db.userOfPhone phoneNumber
  require ((found.any (·.2.role.isAdmin) && !allowAdmin) = false) (.validation adminLoginMessage)
  sendOtp settings now (mobileOf phoneNumber) channel delivery

structure TokenClaims where
  user : UserId
  passwordMark : String
  mfa : Bool
  deriving DecidableEq, Repr

structure LoginResult where
  user : UserId
  created : Bool
  claims : TokenClaims
  deriving DecidableEq, Repr

def loginResult (settings : Settings) (userId : UserId) (user : User) (created mfaVerified : Bool) : LoginResult where
  user := userId
  created := created
  claims := { user := userId, passwordMark := settings.passwordMark user.password, mfa := mfaVerified }

def saveUser (known : Option UserId) (user : User) : AuthProgram UserId := do
  require (user.fits = true) (.dataError "User")
  let users ← read AuthDb.users
  let stored ← lift (orRaise (match known with
    | some userId => users.replace? userId user
    | none => users.insert? user) (.integrity "User"))
  change fun db => { db with users := stored }
  pure (known.getD users.rows.length)

def newCustomer (phoneNumber password : String) (isVerified : Bool) : User where
  phoneNumber := phoneNumber
  email := none
  firstName := ""
  lastName := ""
  role := .customer
  isVerified := isVerified
  isActive := true
  password := password
  customerProfile := none

def authenticateVerifiedPhone (settings : Settings) (phoneNumber : String) : AuthProgram LoginResult :=
  atomic do
    let phoneNumber ← lift (normalizePhoneNumber phoneNumber)
    let found ← read fun db => db.userOfPhone phoneNumber
    let user := found.elim (newCustomer phoneNumber "" true) Prod.snd
    require (user.isActive = true) (.validation "This account is disabled.")
    require (user.role.isAdmin = false) (.validation adminLoginMessage)
    let userId ← saveUser (found.map Prod.fst) { user with isVerified := true }.withProfile
    pure (loginResult settings userId user found.isNone false)

def authenticateWithOtp (settings : Settings) (now : Instant) (phoneNumber otp : String) :
    AuthProgram LoginResult := do
  let phoneNumber ← lift (normalizePhoneNumber phoneNumber)
  let found ← read fun db => db.userOfPhone phoneNumber
  require (found.any (·.2.role.isAdmin) = false) (.validation adminLoginMessage)
  verifyOtp settings now (mobileOf phoneNumber) otp
  authenticateVerifiedPhone settings phoneNumber

/-- `verified` is the phone number that the provider has read off the token. -/
def authenticateWithFirebase (settings : Settings) (verified : Except AuthError String) : AuthProgram LoginResult :=
  atomic do
    let phoneNumber ← lift verified
    let phoneNumber ← lift (normalizePhoneNumber phoneNumber)
    authenticateVerifiedPhone settings phoneNumber

def words (text : List Char) : List (List Char) :=
  text.foldr (fun character parts =>
    if isSpace character then [] :: parts
    else match parts with
      | [] => [[character]]
      | word :: rest => (character :: word) :: rest) [[]] |>.filter (· ≠ [])

example : words " Asha  Rao ".toList = ["Asha".toList, "Rao".toList] := by decide

def joinWords (parts : List (List Char)) : String :=
  joinParts " " (parts.map String.ofList)

/-- `unusable` is what follows the exclamation mark of a new unusable password. -/
def authenticateCustomerAccess (settings : Settings) (name phoneNumber unusable : String) :
    AuthProgram LoginResult :=
  atomic do
    let digits := phoneNumber.toList.filter isDigit
    let phoneNumber ← lift (normalizePhoneNumber
      (if digits.length = 10 then "+91" ++ String.ofList digits else phoneNumber))
    let parts := words name.toList
    let normalizedName := joinWords parts
    require (2 ≤ normalizedName.length) (.fieldValidation "name" "Enter your name.")
    let found ← read fun db => db.userOfPhone phoneNumber
    let user := found.elim (newCustomer phoneNumber ("!" ++ unusable) false) Prod.snd
    require (user.role = .customer) (.validation "Staff accounts must use their secure login portal.")
    require (user.isActive = true) (.validation "This account is disabled.")
    let userId ← saveUser (found.map Prod.fst) { user with
      firstName := joinWords (parts.take 1)
      lastName := joinWords (parts.drop 1)
      customerProfile := some normalizedName }
    require (normalizedName.length ≤ 255) (.dataError "CustomerProfile")
    pure (loginResult settings userId user found.isNone false)

/-- The profile fields that a request has sent; an empty email is stored as none. -/
structure ProfileFields where
  firstName : Option String
  lastName : Option String
  email : Option (Option String)
  deriving DecidableEq, Repr

def ProfileFields.apply (fields : ProfileFields) (user : User) : User :=
  { user with
    firstName := fields.firstName.getD user.firstName
    lastName := fields.lastName.getD user.lastName
    email := match fields.email with
      | some email => email.filter (· ≠ "")
      | none => user.email }

def User.signedUp (settings : Settings) (password salt : String) (fields : ProfileFields) (user : User) : User :=
  (fields.apply { user with
    isVerified := true
    isActive := true
    password := settings.makePassword salt password }).withProfile

def registerWithPassword (settings : Settings) (phoneNumber password salt : String) (fields : ProfileFields) :
    AuthProgram LoginResult :=
  atomic do
    let phoneNumber ← lift (normalizePhoneNumber phoneNumber)
    let found ← read fun db => db.userOfPhone phoneNumber
    require (found.all (·.2.role = .customer) = true)
      (.validation "This phone number cannot create a customer account.")
    require (found.any (·.2.hasUsablePassword) = false)
      (.validation "An account already exists for this phone number. Please login.")
    let user := found.elim (newCustomer phoneNumber "" false) Prod.snd
    require (settings.validatePassword password user = []) (.passwordRejected (settings.validatePassword password user))
    let saved := user.signedUp settings password salt fields
    let userId ← saveUser (found.map Prod.fst) saved
    pure (loginResult settings userId saved found.isNone false)

inductive Reply
  | otpSent (requestId : String)
  | loggedIn (result : LoginResult)
  | mfaRequired (challengeId : ChallengeId) (channel : String) (expiresIn : Nat)
  deriving DecidableEq, Repr

def AdminMfaChallenge.consumedBy (now : Instant) (userId : UserId) (challenge : AdminMfaChallenge) :
    AdminMfaChallenge :=
  if challenge.user = userId ∧ challenge.consumedAt = none then { challenge with consumedAt := some now }
  else challenge

def AuthDb.startMfa (settings : Settings) (now : Instant) (userId : UserId) (channel : String) (db : AuthDb) : AuthDb :=
  { db with mfaChallenges := db.mfaChallenges.map (AdminMfaChallenge.consumedBy now userId) ++ [{
      user := userId
      channel := channel
      expiresAt := now + settings.adminMfaTtlMinutes * minute
      consumedAt := none
    }] }

def authenticateWithPassword (settings : Settings) (now : Instant) (phoneNumber password channel : String)
    (delivery : Delivery) : AuthProgram Reply :=
  atomic do
    let phoneNumber ← lift (normalizePhoneNumber phoneNumber)
    let found ← read fun db => db.userOfPhone phoneNumber
    let (userId, user) ← lift (orRaise found (.validation "Invalid phone number or password."))
    require (user.isActive = true) (.validation "This account is disabled.")
    require ((user.hasUsablePassword && settings.checkPassword password user.password) = true)
      (.validation "Invalid phone number or password.")
    if user.role.isAdmin && settings.adminMfaEnabled then do
      let _ ← sendLoginOtp settings now user.phoneNumber channel delivery true
      let challengeId ← read fun db => db.mfaChallenges.length
      change (AuthDb.startMfa settings now userId channel)
      pure (.mfaRequired challengeId channel (settings.adminMfaTtlMinutes * 60))
    else do
      let _ ← saveUser (some userId) user.withProfile
      pure (.loggedIn (loginResult settings userId user false user.role.isAdmin))

def AdminMfaChallenge.isOpen (now : Instant) (challenge : AdminMfaChallenge) : Bool :=
  challenge.consumedAt.isNone && now < challenge.expiresAt

def completeAdminMfa (settings : Settings) (now : Instant) (challengeId : ChallengeId) (otp : String) :
    AuthProgram LoginResult :=
  atomic do
    let found ← read fun db => db.mfaChallenges[challengeId]?
    let challenge ← lift (orRaise (found.filter (·.isOpen now))
      (.validation "Invalid or expired MFA challenge. Start admin login again."))
    let owner ← read fun db => db.users.rows[challenge.user]?
    let user ← lift (orRaise owner (.doesNotExist "User"))
    require ((user.isActive && user.role.isAdmin) = true) (.validation "This administrator account is not active.")
    verifyOtp settings now (mobileOf user.phoneNumber) otp
    change fun db => { db with
      mfaChallenges := db.mfaChallenges.set challengeId { challenge with consumedAt := some now } }
    pure (loginResult settings challenge.user user false true)

def authenticateDevPhone (settings : Settings) (phoneNumber : String) : AuthProgram LoginResult :=
  atomic do
    let phoneNumber ← lift (normalizePhoneNumber phoneNumber)
    let found ← read fun db => db.userOfPhone phoneNumber
    match found.filter (·.2.role.isAdmin) with
    | some (userId, user) => do
        require (user.isActive = true) (.validation "This account is disabled.")
        pure (loginResult settings userId user false settings.debug)
    | none => authenticateVerifiedPhone settings phoneNumber

def devPhoneLogin (settings : Settings) (phoneNumber : String) : AuthProgram LoginResult := do
  require (settings.debug = true ∧ settings.devPhoneLoginEnabled = true)
    (.notFound "Development phone login is disabled.")
  require (settings.devPhoneLoginAllowedNumbers.contains phoneNumber = true)
    (.permissionDenied "This phone number is not allowed for development login.")
  authenticateDevPhone settings phoneNumber

/-- `MfaEnforcedJWTAuthentication.get_user`. Before the second factor, the user that the token
names must be there, active, and still have the password of the token. -/
def getUser (settings : Settings) (db : AuthDb) (claims : TokenClaims) : Except AuthError User := do
  let user ← orRaise db.users.rows[claims.user]? (.authenticationFailed "User not found")
  Fallible.require (user.isActive = true) (.authenticationFailed "User is inactive")
  Fallible.require (claims.passwordMark = settings.passwordMark user.password)
    (.authenticationFailed "The user's password has been changed.")
  Fallible.require ((settings.adminMfaEnabled && user.role.isAdmin && !claims.mfa) = false)
    (.authenticationFailed "Administrator MFA is required.")
  pure user

end PsCore.Auth
