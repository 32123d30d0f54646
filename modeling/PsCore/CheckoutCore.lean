import PsCore.SystemCore
import PsCore.Fingerprints

/-!
The cart, and the two endpoints that book under an Idempotency-Key. A request does all its work
on stored rows in one transaction under the lock on its customer's row, so it is one step.
-/

namespace PsCore

open Fallible RowTable

structure CartItem where
  customer : UserId
  service : ServiceId
  quantity : Nat
  booking : Option BookingId
  deriving DecidableEq, Repr

def CartItem.isOf (customer : UserId) (service : ServiceId) (row : CartItem) : Bool :=
  row.customer == customer && row.service == service

def CartItem.clashes (first second : CartItem) : Bool :=
  first.isOf second.customer second.service || (first.booking.isSome && first.booking == second.booking)

abbrev CartTable := UniqueTable CartItem fun first second => first.clashes second = true

structure CheckoutRequest where
  customer : UserId
  idempotencyKey : String
  requestFingerprint : String
  bookingIds : List BookingId
  completedAt : Option Instant
  deriving DecidableEq, Repr

def CheckoutRequest.isOf (customer : UserId) (key : String) (record : CheckoutRequest) : Bool :=
  record.customer == customer && record.idempotencyKey == key

def CheckoutRequest.clashes (first second : CheckoutRequest) : Bool :=
  first.isOf second.customer second.idempotencyKey

abbrev CheckoutTable := UniqueTable CheckoutRequest fun first second => first.clashes second = true

structure Shop where
  platform : System
  cart : CartTable
  checkouts : CheckoutTable

def Shop.db (shop : Shop) : Db := shop.platform.db

def Shop.withDb (shop : Shop) (db : Db) : Shop :=
  { shop with platform := { shop.platform with db := db } }

abbrev FieldErrors := List (String × String)

/-- The digest, and what the framework's fields make of a value; a UUID is read as the row that it names. -/
structure CheckoutSettings extends Settings where
  sha256 : List (Fin 256) → List (Fin 256)
  uuidField : Body → Except (List String) Nat
  charField : Option Nat → Body → Except (List String) String
  integerField : Int → Int → Body → Except (List String) Int

def typeName : Body → String
  | .null => "NoneType"
  | .boolean _ => "bool"
  | .number (.integer _) => "int"
  | .number (.real _ _) => "float"
  | .text _ => "str"
  | .list _ => "list"
  | .dict _ => "dict"

section

variable {α : Type}

def givenField (name : String) (read : Body → Except (List String) α) : Body → Except FieldErrors α
  | .null => .error [(name, "This field may not be null.")]
  | value => (read value).mapError fun messages => messages.map fun message => (name, message)

def requiredField (entries : List (String × Body)) (name : String) (read : Body → Except (List String) α) :
    Except FieldErrors α :=
  match entries.lookup name with
  | none => .error [(name, "This field is required.")]
  | some value => givenField name read value

def optionalField (entries : List (String × Body)) (name : String) (fallback : α)
    (read : Body → Except (List String) α) : Except FieldErrors α :=
  match entries.lookup name with
  | none => .ok fallback
  | some value => givenField name read value

def fieldErrors : Except FieldErrors α → FieldErrors
  | .ok _ => []
  | .error errors => errors

def isValid (read : Body → Except FieldErrors α) (payload : Payload) : Except ServiceError α :=
  match payload.body with
  | .null => .error (.fieldValidation [("non_field_errors", "No data provided")])
  | body => (read body).mapError .fieldValidation

end

/-- `BookingCreateSerializer`. The texts are checked, but no modelled column holds them. -/
def bookingCreateSerializer (settings : CheckoutSettings) : Body → Except FieldErrors BookingRequest
  | .dict entries =>
      let serviceId := requiredField entries "service_id" settings.uuidField
      let addressId := requiredField entries "address_id" settings.uuidField
      let slotId := requiredField entries "slot_id" settings.uuidField
      let problemDescription := optionalField entries "problem_description" "" (settings.charField none)
      let customerNotes := optionalField entries "customer_notes" "" (settings.charField none)
      let contactPhone := optionalField entries "contact_phone" "" (settings.charField (some 20))
      let quantity := optionalField entries "quantity" 1 (settings.integerField 1 20)
      match serviceId, addressId, slotId, problemDescription, customerNotes, contactPhone, quantity with
      | .ok serviceId, .ok addressId, .ok slotId, .ok _, .ok _, .ok _, .ok quantity =>
          .ok { serviceId := serviceId, addressId := addressId, slotId := slotId, quantity := quantity.toNat }
      | _, _, _, _, _, _, _ =>
          .error (fieldErrors serviceId ++ fieldErrors addressId ++ fieldErrors slotId ++
            fieldErrors problemDescription ++ fieldErrors customerNotes ++ fieldErrors contactPhone ++
            fieldErrors quantity)
  | body => .error [("non_field_errors",
      "Invalid data. Expected a dictionary, but got " ++ typeName body ++ ".")]

def cartSelection (settings : CheckoutSettings) (position : Nat) (item : Body) : Except FieldErrors BookingRequest :=
  let place := "items." ++ toString position
  match item with
  | .null => .error [(place, "This field may not be null.")]
  | item => (bookingCreateSerializer settings item).mapError fun errors =>
      errors.map fun error => (place ++ "." ++ error.1, error.2)

def cartSelections (settings : CheckoutSettings) : Nat → List Body → Except FieldErrors (List BookingRequest)
  | _, [] => .ok []
  | position, item :: rest =>
      match cartSelection settings position item, cartSelections settings (position + 1) rest with
      | .ok selection, .ok selections => .ok (selection :: selections)
      | first, others => .error (fieldErrors first ++ fieldErrors others)

def validateItems (selections : List BookingRequest) : Except FieldErrors (List BookingRequest) := do
  let ids := selections.map BookingRequest.serviceId
  require (ids.length ≤ 100 ∧ ids.Nodup) [("items", "Choose up to 100 different services.")]
  pure selections

def cartCheckoutSerializer (settings : CheckoutSettings) : Body → Except FieldErrors (List BookingRequest)
  | .dict entries => match entries.lookup "items" with
      | none => .error [("items", "This field is required.")]
      | some .null => .error [("items", "This field may not be null.")]
      | some (.list []) => .error [("items.non_field_errors", "This list may not be empty.")]
      | some (.list items) => do
          let selections ← cartSelections settings 0 items
          validateItems selections
      | some body => .error [("items.non_field_errors",
          "Expected a list of items but got type \"" ++ typeName body ++ "\".")]
  | body => .error [("non_field_errors",
      "Invalid data. Expected a dictionary, but got " ++ typeName body ++ ".")]

def strip (text : String) : String :=
  String.ofList ((text.toList.dropWhile isSpace).reverse.dropWhile isSpace).reverse

def matchesKeyPattern (key : String) : Bool :=
  match key.toList with
  | [] => false
  | first :: rest => first.isAlphanum && decide (7 ≤ rest.length ∧ rest.length ≤ 127) &&
      rest.all fun character => character.isAlphanum || ['.', '_', ':', '-'].contains character

def idempotencyKeyFromRequest (header fallback : String) : Except ServiceError String := do
  let key := orText (strip header) fallback
  require (matchesKeyPattern key = true) (.fieldValidation [("idempotency_key",
    "Idempotency-Key must contain 8 to 128 letters, numbers, dots, colons, underscores, or hyphens.")])
  pure key

def lockCustomer (customer : UserId) (db : Db) : Except ServiceError User :=
  orRaise db.directory.users[customer]? (.doesNotExist "User")

def newCheckoutRequest (customer : UserId) (key fingerprint : String) : CheckoutRequest where
  customer := customer
  idempotencyKey := key
  requestFingerprint := fingerprint
  bookingIds := []
  completedAt := none

structure BegunCheckout where
  recordId : Nat
  record : CheckoutRequest
  bookings : List BookingId
  checkouts : CheckoutTable

def getOrCreateCheckoutRequest (customer : UserId) (key fingerprint : String) (checkouts : CheckoutTable) :
    Except ServiceError (Nat × CheckoutRequest × CheckoutTable) :=
  match firstRow (CheckoutRequest.isOf customer key) checkouts.rows with
  | some (recordId, record) => .ok (recordId, record, checkouts)
  | none => do
      let record := newCheckoutRequest customer key fingerprint
      let created ← orRaise (checkouts.insert? record) (.integrity "CheckoutRequest")
      pure (checkouts.rows.length, record, created)

def beginCheckoutRequest (customer : UserId) (key fingerprint : String) (bookings : List Booking)
    (checkouts : CheckoutTable) : Except ServiceError BegunCheckout := do
  let (recordId, record, checkouts) ← getOrCreateCheckoutRequest customer key fingerprint checkouts
  require (record.requestFingerprint = fingerprint) (.fieldValidation [("idempotency_key",
    "This Idempotency-Key was already used for a different checkout request.")])
  if record.completedAt = none then
    pure { recordId := recordId, record := record, bookings := [], checkouts := checkouts }
  else do
    let restored := record.bookingIds.filter fun bookingId =>
      bookings[bookingId]?.any fun booking => booking.customer == customer
    require (restored.length = record.bookingIds.length)
      (.validation "A previous checkout result could not be restored. Please contact support.")
    pure { recordId := recordId, record := record, bookings := restored, checkouts := checkouts }

def completeCheckoutRequest (now : Instant) (begun : BegunCheckout) (bookings : List BookingId) :
    Except ServiceError CheckoutTable :=
  orRaise (begun.checkouts.replace? begun.recordId
    { begun.record with bookingIds := bookings, completedAt := some now }) (.integrity "CheckoutRequest")

structure CartLine where
  service : ServiceId
  price : Money
  advance : Money
  available : Bool
  basePrice : Money
  trainingFee : Money
  quantity : Nat
  booking : Option BookingId
  deriving DecidableEq, Repr

structure CartResponse where
  items : List CartLine
  count : Nat
  total : Money
  advanceTotal : Money
  deriving DecidableEq, Repr

/-- The rows that `cart_response` deletes: their advance is paid. -/
def CartItem.isPaid (bookings : List Booking) (row : CartItem) : Bool :=
  row.booking.any fun bookingId => bookings[bookingId]?.any fun booking =>
    (booking.paymentStatus == .partiallyPaid || booking.paymentStatus == .paid) &&
    decide (booking.advanceRequired ≤ booking.advancePaid)

def unbookedLine (service : Service) (row : CartItem) : Except ServiceError CartLine := do
  let trainingFee := if service.trainingFeePerUnit then service.trainingFee * row.quantity else service.trainingFee
  let price := service.effectivePrice * row.quantity + trainingFee
  let advance ← match service.advancePaymentType with
    | .percentage => do
        let value ← orRaise service.advancePaymentValue .typeError
        pure (roundHalfEven (price * value) 10000)
    | .fixed => pure (min service.advanceAmount price)
  pure {
    service := row.service
    price := price
    advance := advance
    available := service.isActive && service.categoryIsActive
    basePrice := service.basePrice * row.quantity
    trainingFee := trainingFee
    quantity := row.quantity
    booking := none
  }

def bookedLine (service : Service) (bookingId : BookingId) (booking : Booking) (row : CartItem) : CartLine where
  service := row.service
  price := booking.totalAmount
  advance := booking.advanceRequired
  available := service.isActive && service.categoryIsActive
  basePrice := service.basePrice * booking.quantity
  trainingFee := booking.trainingFee
  quantity := booking.quantity
  booking := some bookingId

def cartLine (db : Db) (row : CartItem) : Except ServiceError CartLine := do
  let service ← orRaise db.directory.services[row.service]? (.doesNotExist "Service")
  match row.booking with
  | some bookingId => do
      let booking ← orRaise db.bookings[bookingId]? (.doesNotExist "Booking")
      pure (bookedLine service bookingId booking row)
  | none => unbookedLine service row

def cartResponse (customer : UserId) (shop : Shop) : Except ServiceError (CartResponse × Shop) := do
  let cart := shop.cart.remove fun row => row.customer == customer && row.isPaid shop.db.bookings
  let items ← (cart.rows.filter (·.customer == customer)).mapM (cartLine shop.db)
  pure ({
    items := items
    count := items.length
    total := (items.map CartLine.price).sum
    advanceTotal := (items.map CartLine.advance).sum
  }, { shop with cart := cart })

structure CheckoutAnswer where
  bookings : List BookingId
  cart : Option CartResponse
  deriving DecidableEq, Repr

def bookingViewSetCreate (settings : CheckoutSettings) (now : Instant) (customer : UserId) (header : String)
    (payload : Payload) (shop : Shop) : Except ServiceError (CheckoutAnswer × Shop) := do
  let request ← isValid (bookingCreateSerializer settings) payload
  let fingerprint := requestFingerprint settings.sha256 payload
  let key ← idempotencyKeyFromRequest header ("booking-" ++ fingerprint)
  let _ ← lockCustomer customer shop.db
  let begun ← beginCheckoutRequest customer key fingerprint shop.db.bookings shop.checkouts
  match begun.bookings with
  | previous :: _ => pure ({ bookings := [previous], cart := none }, { shop with checkouts := begun.checkouts })
  | [] => do
      let (bookingId, next) ← createBooking now customer request shop.db
      let checkouts ← completeCheckoutRequest now begun [bookingId]
      pure ({ bookings := [bookingId], cart := none }, { shop.withDb next with checkouts := checkouts })

/-- One selection of the cart. No service is selected twice, so its row is as it was loaded. -/
def checkoutSelection (now : Instant) (customer : UserId) (selection : BookingRequest) (shop : Shop) :
    Except ServiceError (BookingId × Shop) := do
  let (key, row) ← orRaise (firstRow (CartItem.isOf customer selection.serviceId) shop.cart.rows)
    (.validation "A selected service is no longer in your cart. Refresh and try again.")
  match row.booking with
  | some bookingId => do
      let booking ← orRaise shop.db.bookings[bookingId]? (.doesNotExist "Booking")
      require (booking.bookingStatus = .pendingPayment ∨ booking.bookingStatus = .paymentFailed)
        (.validation "A cart booking has already changed. Refresh your cart before continuing.")
      pure (bookingId, shop)
  | none => do
      let (bookingId, next) ← createBooking now customer { selection with quantity := row.quantity } shop.db
      let cart ← orRaise (shop.cart.replace? key { row with booking := some bookingId }) (.integrity "CartItem")
      pure (bookingId, { shop.withDb next with cart := cart })

def checkoutSelections (now : Instant) (customer : UserId) :
    List BookingRequest → Shop → Except ServiceError (List BookingId × Shop)
  | [], shop => .ok ([], shop)
  | selection :: rest, shop => do
      let (bookingId, next) ← checkoutSelection now customer selection shop
      let (others, last) ← checkoutSelections now customer rest next
      pure (bookingId :: others, last)

def cartCheckoutViewPost (settings : CheckoutSettings) (now : Instant) (customer : UserId) (header : String)
    (payload : Payload) (shop : Shop) : Except ServiceError (CheckoutAnswer × Shop) := do
  let selections ← isValid (cartCheckoutSerializer settings) payload
  let _ ← lockCustomer customer shop.db
  let fingerprint := requestFingerprint settings.sha256 payload
  let key ← idempotencyKeyFromRequest header ("cart-" ++ fingerprint)
  let begun ← beginCheckoutRequest customer key fingerprint shop.db.bookings shop.checkouts
  match begun.bookings with
  | _ :: _ => do
      let (cart, next) ← cartResponse customer { shop with checkouts := begun.checkouts }
      pure ({ bookings := begun.bookings, cart := some cart }, next)
  | [] => do
      let (bookings, made) ← checkoutSelections now customer selections shop
      let checkouts ← completeCheckoutRequest now begun bookings
      let (cart, next) ← cartResponse customer { made with checkouts := checkouts }
      pure ({ bookings := bookings, cart := some cart }, next)

structure CartAdd where
  serviceIds : List ServiceId
  merge : Bool
  bookingIds : List (ServiceId × BookingId)
  quantities : List (ServiceId × Nat)
  deriving DecidableEq, Repr

def getOrCreateCartItem (customer : UserId) (service : ServiceId) (cart : CartTable) :
    Except ServiceError (Nat × CartItem × CartTable) :=
  match firstRow (CartItem.isOf customer service) cart.rows with
  | some (key, row) => .ok (key, row, cart)
  | none => do
      let row := { customer := customer, service := service, quantity := 1, booking := none }
      let created ← orRaise (cart.insert? row) (.integrity "CartItem")
      pure (cart.rows.length, row, created)

def CartItem.requantified (request : CartAdd) (row : CartItem) : CartItem :=
  match request.quantities.lookup row.service with
  | some quantity => if quantity ≠ 0 ∧ row.booking = none then { row with quantity := quantity } else row
  | none => row

def CartItem.linked (customer : UserId) (request : CartAdd) (bookings : List Booking) (row : CartItem) :
    Except ServiceError CartItem :=
  match request.bookingIds.lookup row.service with
  | none => .ok row
  | some bookingId =>
      if row.booking ≠ none then .ok row
      else do
        let booking ← orRaise bookings[bookingId]? (.validation "A saved booking could not be verified.")
        require (booking.customer = customer ∧ booking.service = row.service)
          (.validation "A saved booking could not be verified.")
        pure { row with booking := some bookingId }

def addCartService (now : Instant) (customer : UserId) (user : User) (request : CartAdd) (shop : Shop)
    (service : ServiceId) : Except ServiceError Shop := do
  let (key, row, cart) ← getOrCreateCartItem customer service shop.cart
  let (_, leads) ← markCartAdded now shop.db.leads customer user service
  let linked ← (row.requantified request).linked customer request shop.db.bookings
  let cart ← orRaise (cart.replace? key linked) (.integrity "CartItem")
  pure { shop.withDb { shop.db with leads := leads } with cart := cart }

structure CartAnswer where
  cart : CartResponse
  unavailableServiceIds : List ServiceId
  deriving DecidableEq, Repr

/-- With the serializer's data; services are taken in the order of their table. -/
def cartViewPost (now : Instant) (customer : UserId) (request : CartAdd) (shop : Shop) :
    Except ServiceError (CartAnswer × Shop) := do
  let user ← lockCustomer customer shop.db
  let ids := request.serviceIds.dedup
  let services := (List.range shop.db.directory.services.length).filter fun service =>
    ids.contains service && shop.db.directory.services[service]?.any fun found =>
      found.isActive && found.categoryIsActive
  require (services.length = ids.length ∨ request.merge = true)
    (.validation "One or more services are unavailable. Remove them and try again.")
  let existing := (shop.cart.rows.filter (·.customer == customer)).map CartItem.service
  require ((existing ++ services).dedup.length ≤ 100)
    (.validation "Your cart can contain up to 100 services.")
  let filled ← services.foldlM (addCartService now customer user request) shop
  let (cart, next) ← cartResponse customer filled
  pure ({ cart := cart, unavailableServiceIds := ids.filter fun service => !services.contains service }, next)

def cartViewGet (customer : UserId) (shop : Shop) : Except ServiceError (CartResponse × Shop) := do
  let _ ← lockCustomer customer shop.db
  cartResponse customer shop

def cartItemViewDelete (customer : UserId) (service : ServiceId) (shop : Shop) :
    Except ServiceError (CartResponse × Shop) := do
  let _ ← lockCustomer customer shop.db
  cartResponse customer { shop with cart := shop.cart.remove (CartItem.isOf customer service) }

def cartItemViewPatch (customer : UserId) (service : ServiceId) (quantity : Nat) (shop : Shop) :
    Except ServiceError (CartResponse × Shop) := do
  let _ ← lockCustomer customer shop.db
  let (key, row) ← orRaise (firstRow (CartItem.isOf customer service) shop.cart.rows)
    (.validation "Cart item was not found.")
  require (row.booking = none) (.validation "Quantity cannot change after a booking has been created.")
  let cart ← orRaise (shop.cart.replace? key { row with quantity := quantity }) (.integrity "CartItem")
  cartResponse customer { shop with cart := cart }

/-! The shop as one machine: any operation of the platform may come between two requests. -/

inductive Endpoint
  | bookings
  | cartCheckout
  deriving DecidableEq, Repr

structure CheckoutPost where
  endpoint : Endpoint
  now : Instant
  customer : UserId
  header : String
  payload : Payload

inductive ShopStep
  | operation (op : Op)
  | post (request : CheckoutPost)
  | viewCart (customer : UserId)
  | addToCart (now : Instant) (customer : UserId) (request : CartAdd)
  | removeFromCart (customer : UserId) (service : ServiceId)
  | setQuantity (customer : UserId) (service : ServiceId) (quantity : Nat)

namespace Shop

def commit {α : Type} (shop : Shop) (transaction : Except ServiceError (α × Shop)) : Except ServiceError α × Shop :=
  match transaction with
  | .ok (answer, next) => (.ok answer, next)
  | .error error => (.error error, shop)

variable (settings : CheckoutSettings)

def handle (shop : Shop) (request : CheckoutPost) : Except ServiceError (CheckoutAnswer × Shop) :=
  match request.endpoint with
  | .bookings => bookingViewSetCreate settings request.now request.customer request.header request.payload shop
  | .cartCheckout => cartCheckoutViewPost settings request.now request.customer request.header request.payload shop

def post (shop : Shop) (request : CheckoutPost) : Except ServiceError CheckoutAnswer × Shop :=
  shop.commit (shop.handle settings request)

def step (shop : Shop) : ShopStep → Shop
  | .operation op => { shop with platform := System.step settings.toSettings shop.platform op }
  | .post request => (shop.post settings request).2
  | .viewCart customer => (shop.commit (cartViewGet customer shop)).2
  | .addToCart now customer request => (shop.commit (cartViewPost now customer request shop)).2
  | .removeFromCart customer service => (shop.commit (cartItemViewDelete customer service shop)).2
  | .setQuantity customer service quantity => (shop.commit (cartItemViewPatch customer service quantity shop)).2

structure Initial (shop : Shop) : Prop where
  platform : shop.platform.Initial
  cart : shop.cart.rows = []
  checkouts : shop.checkouts.rows = []

end Shop

/-! A small shop for runs on concrete input. The digest of a message is the message, and an integer is the
UUID of the row with that number. -/

def sampleCheckoutSettings : CheckoutSettings where
  toSettings := sampleSettings
  sha256 := id
  uuidField := fun
    | .number (.integer value) => .ok value.toNat
    | _ => .error ["Must be a valid UUID."]
  charField := fun _ => fun
    | .text value => .ok value
    | _ => .error ["Not a valid string."]
  integerField := fun _ _ => fun
    | .number (.integer value) => .ok value
    | _ => .error ["A valid integer is required."]

def unpricedService : Service where
  basePrice := 100000
  sellingPrice := none
  advancePaymentType := .percentage
  advancePaymentValue := none
  advanceAmount := 0
  trainingFee := 0
  trainingFeePerUnit := false
  isActive := true
  categoryIsActive := true
  clean := by decide

def sampleShop : Shop where
  platform := { sampleSystem with db := { sampleSystem.db with
    directory := { sampleDirectory with services := [sampleService, sampleService] }
    slots := [{ sampleSlot with capacity := 2, capacityPositive := by decide }] } }
  cart := .empty
  checkouts := .empty

theorem sampleShop_initial : sampleShop.Initial := by
  refine ⟨?_, rfl, rfl⟩
  constructor <;> rfl

def sampleSelection (service : ServiceId) : List (String × Body) :=
  [("address_id", .number (.integer 0)), ("service_id", .number (.integer service)),
    ("slot_id", .number (.integer 0))]

def samplePayload : Payload where
  body := .dict [("items", .list [.dict (sampleSelection 0)])]
  sorted := by decide

def mixedPayload : Payload where
  body := .dict [("address_id", .number (.integer 0)),
    ("items", .list [.dict (sampleSelection 0), .dict (sampleSelection 1)]),
    ("service_id", .number (.integer 0)), ("slot_id", .number (.integer 0))]
  sorted := by decide

def samplePost (endpoint : Endpoint) (payload : Payload) : CheckoutPost where
  endpoint := endpoint
  now := sampleNow
  customer := 0
  header := "checkout-request-0001"
  payload := payload

def sampleCartAdd : ShopStep :=
  .addToCart sampleNow 0 { serviceIds := [0, 1], merge := false, bookingIds := [], quantities := [] }

end PsCore
