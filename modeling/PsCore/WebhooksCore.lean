import PsCore.SystemCore
import PsCore.Library.Lease

/-!
Deliveries of the gateway's webhooks. A delivery claims the record of its body, dispatches the
event and writes down what became of it in three transactions; those of other deliveries, and
everything else on the platform, may come in between.
-/

namespace PsCore

open Fallible RowTable

inductive WebhookProcessingStatus
  | processing
  | processed
  | failed
  deriving DecidableEq, Repr

structure PaymentWebhookEvent where
  payloadHash : String
  event : String
  status : WebhookProcessingStatus
  attempts : Nat
  lastError : String
  processedAt : Option Instant
  updatedAt : Instant
  deriving DecidableEq, Repr

/-- The digests are bytes; `jsonLoads` fails on what is no UTF-8 or no JSON. -/
structure WebhookSettings extends Settings where
  webhookSecretHmac : List (Fin 256) → List (Fin 256)
  sha256 : List (Fin 256) → List (Fin 256)
  jsonLoads : List (Fin 256) → Option Json

def maxWebhookBodyBytes : Nat := 256 * 1024

def WebhookSettings.payloadHash (settings : WebhookSettings) (rawBody : List (Fin 256)) : String :=
  hexdigest (settings.sha256 rawBody)

def verifyWebhookSignature (settings : WebhookSettings) (rawBody : List (Fin 256)) (signature : String) :
    Except ServiceError Bool :=
  if isAscii signature then .ok (hexdigest (settings.webhookSecretHmac rawBody) == signature)
  else .error .typeError

structure WebhookRequest where
  payloadHash : String
  eventName : String
  payload : Json

def readWebhook (settings : WebhookSettings) (rawBody : List (Fin 256)) (signature : String) :
    Except ServiceError WebhookRequest := do
  require (signature ≠ "") (.validation "Webhook signature is required.")
  require (rawBody.length ≤ maxWebhookBodyBytes) (.validation "Webhook payload is too large.")
  let genuine ← verifyWebhookSignature settings rawBody signature
  require (genuine = true) (.validation "Invalid webhook signature.")
  let payload ← orRaise (settings.jsonLoads rawBody) (.validation "Webhook payload is not valid JSON.")
  let eventName ← payload.getOr "event" (.text "")
  pure {
    payloadHash := settings.payloadHash rawBody
    eventName := eventName.str
    payload := payload
  }

def PaymentWebhookEvent.processingIsFresh (now : Instant) (record : PaymentWebhookEvent) : Bool :=
  record.status == .processing && decide (0 < record.attempts) && decide (now ≤ record.updatedAt + 5 * minute)

inductive WebhookClaim
  | duplicate (processed : Bool)
  | dispatch (recordId : Nat)

def PaymentWebhookEvent.claimed (now : Instant) (record : PaymentWebhookEvent) : PaymentWebhookEvent :=
  { record with
    attempts := record.attempts + 1
    status := .processing
    lastError := ""
    updatedAt := now }

def newWebhookEvent (now : Instant) (payloadHash eventName : String) : PaymentWebhookEvent where
  payloadHash := payloadHash
  event := eventName
  status := .processing
  attempts := 0
  lastError := ""
  processedAt := none
  updatedAt := now

/-- The first transaction of a delivery. The event's column holds 64 characters. -/
def claimWebhookEvent (now : Instant) (payloadHash eventName : String) (events : List PaymentWebhookEvent) :
    Except ServiceError (WebhookClaim × List PaymentWebhookEvent) :=
  match firstRow (·.payloadHash == payloadHash) events with
  | some (recordId, record) =>
      if record.status = .processed then .ok (.duplicate true, events)
      else if record.processingIsFresh now then .ok (.duplicate false, events)
      else .ok (.dispatch recordId, events.set recordId (record.claimed now))
  | none => do
      require (eventName.length ≤ 64) (.integrity "PaymentWebhookEvent")
      -- no attempt was counted yet, so a new record is never in progress
      pure (.dispatch events.length, events ++ [(newWebhookEvent now payloadHash eventName).claimed now])

def ServiceError.typeName : ServiceError → String
  | .validation _ | .fieldValidation _ => "ValidationError"
  | .doesNotExist _ => "DoesNotExist"
  | .multipleObjects _ => "MultipleObjectsReturned"
  | .integrity _ => "IntegrityError"
  | .slotNotAvailable _ => "SlotNotAvailable"
  | .attributeError => "AttributeError"
  | .typeError => "TypeError"
  | .valueError => "ValueError"
  | .gateway _ => "PaymentGatewayUnavailableError"

/-- The last write of a delivery; `update` leaves `updated_at` alone. -/
def PaymentWebhookEvent.concluded (now : Instant) (outcome : Except ServiceError Bool)
    (record : PaymentWebhookEvent) : PaymentWebhookEvent :=
  match outcome with
  | .ok _ => { record with status := .processed, processedAt := some now, lastError := "" }
  | .error error => { record with status := .failed, lastError := error.typeName }

inductive WebhookProgress
  | dispatching
  | dispatched (outcome : Except ServiceError Bool)
  | concluded (outcome : Except ServiceError Bool)

structure WebhookHandler where
  payloadHash : String
  recordId : Nat
  eventName : String
  payload : Json
  claimedAt : Instant
  progress : WebhookProgress

structure WebhookResult where
  processed : Bool
  duplicate : Bool
  event : String
  deriving DecidableEq, Repr

/-- What `razorpay_webhook` answered to a delivery of the body: an error response, or success. -/
structure WebhookReply where
  payloadHash : String
  result : Except ServiceError WebhookResult

structure WebhookSystem where
  state : System
  clock : Instant
  events : List PaymentWebhookEvent
  handlers : List WebhookHandler
  replies : List WebhookReply

/-- Deliveries and their progress, and whatever else happens; handlers are named by position. -/
inductive WebhookStep
  | operation (op : Op)
  | wait (duration : Nat)
  | deliver (rawBody : List (Fin 256)) (signature : String)
  | dispatch (handler : Nat)
  | conclude (handler : Nat)

namespace WebhookSystem

variable (settings : WebhookSettings)

def reply (system : WebhookSystem) (payloadHash : String) (result : Except ServiceError WebhookResult) :
    WebhookSystem :=
  { system with replies := system.replies ++ [{ payloadHash := payloadHash, result := result }] }

def claim (system : WebhookSystem) (request : WebhookRequest) : WebhookSystem :=
  match claimWebhookEvent system.clock request.payloadHash request.eventName system.events with
  | .error error => system.reply request.payloadHash (.error error)
  | .ok (.duplicate processed, events) =>
      { system with events := events }.reply request.payloadHash
        (.ok { processed := processed, duplicate := true, event := request.eventName })
  | .ok (.dispatch recordId, events) => { system with
      events := events
      handlers := system.handlers ++ [{
        payloadHash := request.payloadHash
        recordId := recordId
        eventName := request.eventName
        payload := request.payload
        claimedAt := system.clock
        progress := .dispatching
      }] }

def deliver (system : WebhookSystem) (rawBody : List (Fin 256)) (signature : String) : WebhookSystem :=
  match readWebhook settings rawBody signature with
  | .error error => system.reply (settings.payloadHash rawBody) (.error error)
  | .ok request => system.claim request

def dispatch (system : WebhookSystem) (position : Nat) : WebhookSystem :=
  match system.handlers[position]? with
  | some handler => match handler.progress with
      | .dispatching =>
          let dispatched := dispatchWebhook settings.toSettings system.clock handler.eventName handler.payload
            system.state.db
          { system with
            state := { system.state with db := dispatched.2 }
            handlers := system.handlers.set position { handler with progress := .dispatched dispatched.1 } }
      | _ => system
  | none => system

def conclude (system : WebhookSystem) (position : Nat) : WebhookSystem :=
  match system.handlers[position]? with
  | some handler => match handler.progress with
      | .dispatched outcome =>
          let events := match system.events[handler.recordId]? with
            | some record => system.events.set handler.recordId (record.concluded system.clock outcome)
            | none => system.events
          { system with
            events := events
            handlers := system.handlers.set position { handler with progress := .concluded outcome } }.reply
              handler.payloadHash
              (outcome.map fun processed => { processed := processed, duplicate := false, event := handler.eventName })
      | _ => system
  | none => system

def step (system : WebhookSystem) : WebhookStep → WebhookSystem
  | .operation op => { system with state := System.step settings.toSettings system.state op }
  | .wait duration => { system with clock := system.clock + duration }
  | .deliver rawBody signature => system.deliver settings rawBody signature
  | .dispatch handler => system.dispatch settings handler
  | .conclude handler => system.conclude handler

structure Initial (system : WebhookSystem) : Prop where
  events : system.events = []
  handlers : system.handlers = []
  replies : system.replies = []

end WebhookSystem

/-! A small deployment for runs on concrete input: the digests of a body are the body. -/

def bodyBytes (text : String) : List (Fin 256) :=
  text.toList.map fun character => ⟨character.toNat % 256, Nat.mod_lt _ (by decide)⟩

def incompleteCapture : Json :=
  .object [("event", .text "payment.captured"), ("payload", .object [("payment", .object [("entity",
    .object [("id", .text "pay_incomplete")])])])]

def unknownEvent : Json := .object [("event", .text "order.paid")]

def sampleWebhookSettings : WebhookSettings where
  toSettings := sampleSettings
  webhookSecretHmac := id
  sha256 := id
  jsonLoads := fun rawBody =>
    if rawBody = bodyBytes "capture" then some incompleteCapture
    else if rawBody = bodyBytes "order" then some unknownEvent
    else none

def sampleWebhookSystem : WebhookSystem where
  state := sampleSystem
  clock := sampleNow
  events := []
  handlers := []
  replies := []

theorem sampleWebhookSystem_initial : sampleWebhookSystem.Initial := by
  constructor <;> rfl

def sampleDelivery (text : String) : WebhookStep :=
  .deliver (bodyBytes text) (hexdigest (bodyBytes text))

end PsCore
