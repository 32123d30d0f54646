import PsCore.CheckoutOnce

/-!
Checkouts without a key of their own. What stands in for the key is made of the body alone, so a later
request with the same body is answered from the same record, whatever has become of its bookings.
-/

namespace PsCore

open Fallible RowTable TransitionRun

def CheckoutPost.keyless (request : CheckoutPost) : Bool :=
  strip request.header == ""

def ShopStep.keyless : ShopStep → Bool
  | .post request => request.keyless
  | _ => true

def deadStatuses : List BookingStatus := [.cancelled, .refunded]

def Db.isDead (db : Db) (bookingId : BookingId) : Bool :=
  db.bookings[bookingId]?.any fun booking => deadStatuses.contains booking.bookingStatus

def CheckoutPost.receipt (settings : CheckoutSettings) (shop : Shop) (request : CheckoutPost) :
    Option (String × List BookingId) :=
  match request.key settings with
  | .error _ => none
  | .ok key => shop.receipts (request.customer, key)

/-- The request is answered from its record, and a booking that its endpoint shows of it is dead. -/
def CheckoutPost.answersDead (settings : CheckoutSettings) (shop : Shop) (request : CheckoutPost) : Bool :=
  request.wellFormed settings && request.restorable shop && (request.receipt settings shop).any fun receipt =>
    receipt.1 == request.fingerprint settings && (request.endpoint.view receipt.2).any shop.db.isDead

def ShopStep.answersDead (settings : CheckoutSettings) (shop : Shop) : ShopStep → Bool
  | .post request => request.answersDead settings shop
  | _ => false

/-- Of what was booked under the request's key, if anything was, a booking is dead. -/
def CheckoutPost.isFree (settings : CheckoutSettings) (shop : Shop) (request : CheckoutPost) : Bool :=
  (request.receipt settings shop).all fun receipt => (request.endpoint.view receipt.2).any shop.db.isDead

/-- The shop without its records of checkouts. -/
def Shop.forgetful (shop : Shop) : Shop :=
  { shop with checkouts := .empty }

/-- No answer shows a dead booking, and what is dead does not keep its customer from booking it again. -/
structure NoDeadAnswers (settings : CheckoutSettings) (start : Shop) (steps : List ShopStep) : Prop where
  live : ∀ earlier request later answer next, steps = earlier ++ .post request :: later →
    (runAll (Shop.step settings) start earlier).post settings request = (.ok answer, next) →
    ∀ bookingId ∈ answer.bookings, next.db.isDead bookingId = false
  rebooked : ∀ earlier request later answer next, steps = earlier ++ .post request :: later →
    request.isFree settings (runAll (Shop.step settings) start earlier) = true →
    (runAll (Shop.step settings) start earlier).forgetful.handle settings request = .ok (answer, next) →
    ∃ checkouts, (runAll (Shop.step settings) start earlier).post settings request =
      (.ok answer, { next with checkouts := checkouts })
  created : ∀ earlier request later selection bookingId next, steps = earlier ++ .post request :: later →
    request.endpoint = .bookings → request.isFree settings (runAll (Shop.step settings) start earlier) = true →
    isValid (bookingCreateSerializer settings) request.payload = .ok selection →
    createBooking request.now request.customer selection (runAll (Shop.step settings) start earlier).db =
      .ok (bookingId, next) →
    ∃ checkouts, (runAll (Shop.step settings) start earlier).post settings request =
      (.ok { bookings := [bookingId], cart := none },
        { (runAll (Shop.step settings) start earlier).withDb next with checkouts := checkouts })

/-! The key of a request without one. -/

section

variable {settings : CheckoutSettings} {request other : CheckoutPost}

theorem keyless_key {key : String} (keyless : request.keyless = true) (isKey : request.key settings = .ok key) :
    key = request.endpoint.fallback ++ request.fingerprint settings := by
  have blank : strip request.header = "" := beq_iff_eq.mp keyless
  simp only [CheckoutPost.key, idempotencyKeyFromRequest, blank, orText, if_true, accepted_bind, accepted_require,
    accepted_pure] at isKey
  obtain ⟨_, _, isFallback⟩ := isKey
  exact isFallback.symm

theorem fallback_injective {first second : Endpoint} {left right : String}
    (same : first.fallback ++ left = second.fallback ++ right) : first = second ∧ left = right := by
  have characters := congrArg String.toList same
  rw [String.toList_append, String.toList_append] at characters
  have booking : "booking-".toList = ['b', 'o', 'o', 'k', 'i', 'n', 'g', '-'] := by decide
  have cart : "cart-".toList = ['c', 'a', 'r', 't', '-'] := by decide
  cases first with
  | bookings => cases second with
    | bookings => simpa [Endpoint.fallback, String.toList_inj] using characters
    | cartCheckout => simp [Endpoint.fallback, booking, cart] at characters
  | cartCheckout => cases second with
    | bookings => simp [Endpoint.fallback, booking, cart] at characters
    | cartCheckout => simpa [Endpoint.fallback, String.toList_inj] using characters

theorem hexdigest_length (digest : List (Fin 256)) : (hexdigest digest).toList.length = 2 * digest.length := by
  simp only [hexdigest, String.toList_ofList]
  induction digest with
  | nil => rfl
  | cons byte rest ih =>
      rw [List.flatMap_cons, List.length_append, ih]
      simp only [List.length_cons, List.length_nil]
      omega

def isKeyCharacter (character : Char) : Bool :=
  character.isAlphanum || ['.', '_', ':', '-'].contains character

theorem hexdigest_isKeyCharacter (digest : List (Fin 256)) : (hexdigest digest).toList.all isKeyCharacter = true := by
  have digits : ∀ digit < 16, isKeyCharacter (Nat.digitChar digit) = true := by decide
  simp only [hexdigest, String.toList_ofList, List.all_flatMap, List.all_cons, List.all_nil, Bool.and_true,
    List.all_eq_true, Bool.and_eq_true]
  intro byte _
  exact ⟨digits _ (by omega), digits _ (by omega)⟩

theorem matchesKeyPattern_hexdigest {beginning : String} {first : Char} {rest : List Char} {digest : List (Fin 256)}
    (start : beginning.toList = first :: rest) (begins : first.isAlphanum = true) (short : rest.length ≤ 63)
    (letters : rest.all isKeyCharacter = true) (size : digest.length = 32) :
    matchesKeyPattern (beginning ++ hexdigest digest) = true := by
  have text := hexdigest_length digest
  have characters : (rest ++ (hexdigest digest).toList).all isKeyCharacter = true := by
    rw [List.all_append, letters, hexdigest_isKeyCharacter]
    rfl
  unfold matchesKeyPattern
  rw [String.toList_append, start, List.cons_append]
  simp only [List.length_append, Bool.and_eq_true, decide_eq_true_eq]
  exact ⟨⟨begins, by omega, by omega⟩, characters⟩

theorem fallback_matches (endpoint : Endpoint) {digest : List (Fin 256)} (size : digest.length = 32) :
    matchesKeyPattern (endpoint.fallback ++ hexdigest digest) = true := by
  cases endpoint with
  | bookings =>
      have start : "booking-".toList = 'b' :: ['o', 'o', 'k', 'i', 'n', 'g', '-'] := by decide
      exact matchesKeyPattern_hexdigest start (by decide) (by decide) (by decide) size
  | cartCheckout =>
      have start : "cart-".toList = 'c' :: ['a', 'r', 't', '-'] := by decide
      exact matchesKeyPattern_hexdigest start (by decide) (by decide) (by decide) size

theorem key_keyless (digest : ∀ message, (settings.sha256 message).length = 32) (keyless : request.keyless = true) :
    request.key settings = .ok (request.endpoint.fallback ++ request.fingerprint settings) := by
  have blank : strip request.header = "" := beq_iff_eq.mp keyless
  have wellFormed : matchesKeyPattern (request.endpoint.fallback ++ request.fingerprint settings) = true :=
    fallback_matches request.endpoint (digest _)
  simp only [CheckoutPost.key, idempotencyKeyFromRequest, blank, orText, if_true]
  rw [require_of _ wellFormed, ok_bind]
  rfl

end

def Db.IsLive (db : Db) (bookingId : BookingId) : Prop :=
  ∃ booking, db.bookings[bookingId]? = some booking ∧
    (booking.bookingStatus = .pendingPayment ∨ booking.bookingStatus = .paymentFailed)

theorem Db.IsLive.notDead {db : Db} {bookingId : BookingId} (live : db.IsLive bookingId) :
    db.isDead bookingId = false := by
  obtain ⟨booking, found, status⟩ := live
  rcases status with status | status <;> simp [Db.isDead, found, deadStatuses, status]

theorem bookingAmounts_hasAdvance {service : ServiceFields} {quantity : Nat} {amounts : BookingAmounts}
    (accepted : bookingAmounts service quantity = .ok amounts) : service.hasAdvance = true := by
  unfold bookingAmounts at accepted
  unfold ServiceFields.hasAdvance
  cases isType : service.advancePaymentType with
  | fixed => rfl
  | percentage =>
      simp only [isType, accepted_bind, accepted_orRaise] at accepted
      obtain ⟨value, isValue, _⟩ := accepted
      simp [isValue]

theorem createBooking_makes {now : Instant} {customer : UserId} {request : BookingRequest} {db next : Db}
    {bookingId : BookingId} (accepted : createBooking now customer request db = .ok (bookingId, next)) :
    next.directory = db.directory ∧ next.IsLive bookingId ∧
      (∀ other, db.IsLive other → next.IsLive other) ∧
      ∃ service, db.directory.services[request.serviceId]? = some service ∧ service.hasAdvance = true := by
  obtain ⟨service, _, _, _, _, _, _, _, found, _, _, priced, rfl, rfl, rfl⟩ := createBooking_made accepted
  refine ⟨rfl, ⟨_, List.getElem?_concat_length, .inl rfl⟩, ?_, service, found, bookingAmounts_hasAdvance priced⟩
  rintro other ⟨booking, present, status⟩
  refine ⟨booking, ?_, status⟩
  rw [List.getElem?_append_left (List.getElem?_eq_some_iff.mp present).1, present]

theorem createBooking_customer {now : Instant} {customer : UserId} {request : BookingRequest} {db next : Db}
    {bookingId : BookingId} (accepted : createBooking now customer request db = .ok (bookingId, next)) :
    ∃ user, lockCustomer customer db = .ok user := by
  obtain ⟨_, _, _, user, _, _, _, _, _, _, found, _⟩ := createBooking_made accepted
  exact ⟨user, accepted_orRaise.mpr found⟩

section

variable {now : Instant} {customer : UserId} {shop next : Shop}

theorem cartPriced_iff : shop.cartPriced customer = true ↔
    ∀ row ∈ shop.cart.rows, row.customer = customer → row.isPriced shop.db = true := by
  simp [Shop.cartPriced, List.all_eq_true, or_iff_not_imp_left]

theorem checkoutSelection_makes {selection : BookingRequest} {bookingId : BookingId}
    (accepted : checkoutSelection now customer selection shop = .ok (bookingId, next)) :
    next.db.IsLive bookingId ∧ (∀ other, shop.db.IsLive other → next.db.IsLive other) ∧
      (next.cartPriced customer = true → shop.cartPriced customer = true) := by
  obtain ⟨key, row, first, either⟩ := checkoutSelection_accepted accepted
  obtain ⟨foundRow, isOwn⟩ := firstRow_some first
  simp only [CartItem.isOf, Bool.and_eq_true, beq_iff_eq] at isOwn
  rcases either with ⟨booking, _, found, status, rfl⟩ | ⟨made, cart, _, created, stored, rfl⟩
  · exact ⟨⟨booking, found, status⟩, fun _ live => live, id⟩
  · obtain ⟨directory, isNew, stays, service, found, hasAdvance⟩ := createBooking_makes created
    refine ⟨isNew, stays, fun priced => cartPriced_iff.mpr fun other member own => ?_⟩
    obtain ⟨position, present⟩ := List.getElem?_of_mem member
    by_cases atKey : position = key
    · -- the row that was booked: its service has been priced
      rw [atKey, foundRow, Option.some.injEq] at present
      rw [← present, CartItem.isPriced, isOwn.2, found]
      simp [hasAdvance]
    · have stillThere : other ∈ cart.rows := by
        rw [UniqueTable.replace?_some stored]
        refine List.mem_of_getElem? (i := position) ?_
        rw [List.getElem?_set_ne (Ne.symm atKey), present]
      have pricedNext := cartPriced_iff.mp priced other stillThere own
      have same : made.directory = shop.db.directory := directory
      unfold CartItem.isPriced at pricedNext ⊢
      rw [← same]
      exact pricedNext

theorem checkoutSelections_makes {selections : List BookingRequest} {bookings : List BookingId}
    (accepted : checkoutSelections now customer selections shop = .ok (bookings, next)) :
    (∀ bookingId ∈ bookings, next.db.IsLive bookingId) ∧ (∀ other, shop.db.IsLive other → next.db.IsLive other) ∧
      (next.cartPriced customer = true → shop.cartPriced customer = true) := by
  induction selections generalizing shop bookings with
  | nil =>
      simp only [checkoutSelections, Except.ok.injEq, Prod.mk.injEq] at accepted
      obtain ⟨rfl, rfl⟩ := accepted
      exact ⟨List.forall_mem_nil _, fun _ live => live, id⟩
  | cons selection rest ih =>
      simp only [checkoutSelections, accepted_bind, accepted_pure, Prod.mk.injEq] at accepted
      obtain ⟨⟨bookingId, middle⟩, first, ⟨others, last⟩, remaining, rfl, rfl⟩ := accepted
      obtain ⟨isLive, stays, priced⟩ := checkoutSelection_makes first
      obtain ⟨areLive, stayOn, pricedOn⟩ := ih remaining
      refine ⟨?_, fun other live => stayOn other (stays other live), fun atEnd => priced (pricedOn atEnd)⟩
      rw [List.forall_mem_cons]
      exact ⟨stayOn bookingId isLive, areLive⟩

/-! The records apart, a checkout is what it is. -/

theorem checkoutSelection_elsewhere {selection : BookingRequest} {bookingId : BookingId} (checkouts : CheckoutTable)
    (accepted : checkoutSelection now customer selection shop = .ok (bookingId, next)) :
    checkoutSelection now customer selection { shop with checkouts := checkouts } =
      .ok (bookingId, { next with checkouts := checkouts }) := by
  simp only [checkoutSelection, accepted_bind, accepted_orRaise] at accepted ⊢
  obtain ⟨⟨key, row⟩, first, accepted⟩ := accepted
  refine ⟨⟨key, row⟩, first, ?_⟩
  cases linked : row.booking with
  | some linkedId =>
      simp only [linked, accepted_bind, accepted_orRaise, accepted_require, accepted_pure, Prod.mk.injEq] at accepted ⊢
      obtain ⟨booking, found, done, status, rfl, rfl⟩ := accepted
      exact ⟨booking, found, done, status, rfl, rfl⟩
  | none =>
      simp only [linked, accepted_bind, accepted_orRaise, accepted_pure, Prod.mk.injEq] at accepted ⊢
      obtain ⟨made, created, cart, stored, rfl, rfl⟩ := accepted
      exact ⟨made, created, cart, stored, rfl, rfl⟩

theorem checkoutSelections_elsewhere {selections : List BookingRequest} {bookings : List BookingId}
    (checkouts : CheckoutTable)
    (accepted : checkoutSelections now customer selections shop = .ok (bookings, next)) :
    checkoutSelections now customer selections { shop with checkouts := checkouts } =
      .ok (bookings, { next with checkouts := checkouts }) := by
  induction selections generalizing shop bookings with
  | nil =>
      simp only [checkoutSelections, Except.ok.injEq, Prod.mk.injEq] at accepted
      obtain ⟨rfl, rfl⟩ := accepted
      rfl
  | cons selection rest ih =>
      simp only [checkoutSelections, accepted_bind, accepted_pure, Prod.mk.injEq] at accepted ⊢
      obtain ⟨⟨bookingId, middle⟩, first, ⟨others, last⟩, remaining, rfl, rfl⟩ := accepted
      exact ⟨_, checkoutSelection_elsewhere checkouts first, _, ih remaining, rfl, rfl⟩

theorem cartResponse_elsewhere {answer : CartResponse} (checkouts : CheckoutTable)
    (accepted : cartResponse customer shop = .ok (answer, next)) :
    cartResponse customer { shop with checkouts := checkouts } =
      .ok (answer, { next with checkouts := checkouts }) := by
  simp only [cartResponse, accepted_bind, accepted_pure, Prod.mk.injEq] at accepted ⊢
  obtain ⟨items, lines, rfl, rfl⟩ := accepted
  exact ⟨items, lines, rfl, rfl⟩

end

theorem CheckoutRequest.clashes_symm {first second : CheckoutRequest} (clashes : first.clashes second = true) :
    second.clashes first = true := by
  simp only [CheckoutRequest.clashes, CheckoutRequest.isOf, Bool.and_eq_true, beq_iff_eq] at clashes ⊢
  exact ⟨clashes.1.symm, clashes.2.symm⟩

theorem completeCheckoutRequest_unused {customer : UserId} {key fingerprint : String}
    {checkouts created : CheckoutTable}
    (unused : firstRow (CheckoutRequest.isOf customer key) checkouts.rows = none)
    (rows : created.rows = checkouts.rows ++ [newCheckoutRequest customer key fingerprint]) (now : Instant)
    (made : List BookingId) :
    ∃ after, completeCheckoutRequest now {
      recordId := checkouts.rows.length
      record := newCheckoutRequest customer key fingerprint
      bookings := []
      checkouts := created } made = .ok after := by
  have stores :
      (created.replace? checkouts.rows.length (completedRequest now customer key fingerprint made)).isSome := by
    refine (UniqueTable.replace?_isSome_iff fun _ _ => CheckoutRequest.clashes_symm).mpr ?_
    intro position other present differs clashes
    have below : position < checkouts.rows.length := by
      have inBounds := (List.getElem?_eq_some_iff.mp present).1
      rw [rows, List.length_append, List.length_singleton] at inBounds
      omega
    rw [rows, List.getElem?_append_left below] at present
    exact firstRow_none.mp unused other (List.mem_of_getElem? present) |>.symm.trans clashes |> Bool.false_ne_true
  obtain ⟨after, stored⟩ := Option.isSome_iff_exists.mp stores
  exact ⟨after, accepted_orRaise.mpr stored⟩

section

variable {settings : CheckoutSettings} {shop next : Shop} {now : Instant} {customer : UserId} {header : String}
  {payload : Payload} {answer : CheckoutAnswer} {key : String}

theorem bookingViewSetCreate_first (unused : firstRow (CheckoutRequest.isOf customer key) shop.checkouts.rows = none)
    (isKey : idempotencyKeyFromRequest header ("booking-" ++ requestFingerprint settings.sha256 payload) = .ok key)
    (accepted : bookingViewSetCreate settings now customer header payload shop = .ok (answer, next)) :
    ∃ selection user bookingId made checkouts,
      isValid (bookingCreateSerializer settings) payload = .ok selection ∧ lockCustomer customer shop.db = .ok user ∧
      createBooking now customer selection shop.db = .ok (bookingId, made) ∧
      answer = { bookings := [bookingId], cart := none } ∧ next = { shop.withDb made with checkouts := checkouts } := by
  obtain ⟨created, _, begins⟩ :=
    beginCheckoutRequest_unused shop.db.bookings (requestFingerprint settings.sha256 payload) unused
  simp only [bookingViewSetCreate, isKey, begins, accepted_bind, Except.ok.injEq, exists_eq_left', accepted_pure,
    Prod.mk.injEq] at accepted
  obtain ⟨selection, valid, user, locked, ⟨bookingId, made⟩, booked, checkouts, _, rfl, rfl⟩ := accepted
  exact ⟨selection, user, bookingId, made, checkouts, valid, locked, booked, rfl, rfl⟩

theorem bookingViewSetCreate_runs {selection : BookingRequest} {user : User} {bookingId : BookingId} {made : Db}
    (unused : firstRow (CheckoutRequest.isOf customer key) shop.checkouts.rows = none)
    (isKey : idempotencyKeyFromRequest header ("booking-" ++ requestFingerprint settings.sha256 payload) = .ok key)
    (valid : isValid (bookingCreateSerializer settings) payload = .ok selection)
    (locked : lockCustomer customer shop.db = .ok user)
    (booked : createBooking now customer selection shop.db = .ok (bookingId, made)) :
    ∃ checkouts, bookingViewSetCreate settings now customer header payload shop =
      .ok ({ bookings := [bookingId], cart := none }, { shop.withDb made with checkouts := checkouts }) := by
  obtain ⟨created, rows, begins⟩ :=
    beginCheckoutRequest_unused shop.db.bookings (requestFingerprint settings.sha256 payload) unused
  obtain ⟨checkouts, completed⟩ := completeCheckoutRequest_unused unused rows now [bookingId]
  refine ⟨checkouts, ?_⟩
  simp only [bookingViewSetCreate, valid, isKey, locked, begins, booked, completed, ok_bind]
  rfl

theorem cartCheckoutViewPost_first (unused : firstRow (CheckoutRequest.isOf customer key) shop.checkouts.rows = none)
    (isKey : idempotencyKeyFromRequest header ("cart-" ++ requestFingerprint settings.sha256 payload) = .ok key)
    (accepted : cartCheckoutViewPost settings now customer header payload shop = .ok (answer, next)) :
    ∃ selections user bookings made checkouts cart,
      isValid (cartCheckoutSerializer settings) payload = .ok selections ∧ lockCustomer customer shop.db = .ok user ∧
      checkoutSelections now customer selections shop = .ok (bookings, made) ∧
      cartResponse customer { made with checkouts := checkouts } = .ok (cart, next) ∧
      answer = { bookings := bookings, cart := some cart } := by
  obtain ⟨created, _, begins⟩ :=
    beginCheckoutRequest_unused shop.db.bookings (requestFingerprint settings.sha256 payload) unused
  simp only [cartCheckoutViewPost, isKey, begins, accepted_bind, Except.ok.injEq, exists_eq_left', accepted_pure,
    Prod.mk.injEq] at accepted
  obtain ⟨selections, valid, user, locked, ⟨bookings, made⟩, selected, checkouts, _, ⟨cart, last⟩, answered, rfl,
    rfl⟩ := accepted
  exact ⟨selections, user, bookings, made, checkouts, cart, valid, locked, selected, answered, rfl⟩

theorem cartCheckoutViewPost_runs {selections : List BookingRequest} {user : User} {bookings : List BookingId}
    {made last : Shop} {cart : CartResponse}
    (unused : firstRow (CheckoutRequest.isOf customer key) shop.checkouts.rows = none)
    (isKey : idempotencyKeyFromRequest header ("cart-" ++ requestFingerprint settings.sha256 payload) = .ok key)
    (valid : isValid (cartCheckoutSerializer settings) payload = .ok selections)
    (locked : lockCustomer customer shop.db = .ok user)
    (selected : checkoutSelections now customer selections shop = .ok (bookings, made))
    (answered : cartResponse customer made = .ok (cart, last)) :
    ∃ checkouts, cartCheckoutViewPost settings now customer header payload shop =
      .ok ({ bookings := bookings, cart := some cart }, { last with checkouts := checkouts }) := by
  obtain ⟨created, rows, begins⟩ :=
    beginCheckoutRequest_unused shop.db.bookings (requestFingerprint settings.sha256 payload) unused
  obtain ⟨checkouts, completed⟩ := completeCheckoutRequest_unused unused rows now bookings
  have answeredHere := cartResponse_elsewhere checkouts answered
  refine ⟨checkouts, ?_⟩
  simp only [cartCheckoutViewPost, valid, isKey, locked, begins, selected, completed, answeredHere, ok_bind]
  rfl

end

section

variable {settings : CheckoutSettings} {shop next : Shop} {request : CheckoutPost} {answer : CheckoutAnswer}
  {key : String}

theorem Shop.forgetful_unused (shop : Shop) (customer : UserId) (key : String) :
    firstRow (CheckoutRequest.isOf customer key) shop.forgetful.checkouts.rows = none := rfl

theorem handle_unused (isKey : request.key settings = .ok key) (unused : shop.receipts (request.customer, key) = none)
    (fresh : shop.forgetful.handle settings request = .ok (answer, next)) :
    ∃ checkouts, shop.handle settings request = .ok (answer, { next with checkouts := checkouts }) := by
  have absent := receipts_eq_none.mp unused
  have noRecord := shop.forgetful_unused request.customer key
  obtain ⟨endpoint, now, customer, header, payload⟩ := request
  cases endpoint with
  | bookings =>
      obtain ⟨selection, user, bookingId, made, _, valid, locked, booked, rfl, rfl⟩ :=
        bookingViewSetCreate_first noRecord isKey fresh
      exact bookingViewSetCreate_runs absent isKey valid locked booked
  | cartCheckout =>
      obtain ⟨selections, user, bookings, made, _, cart, valid, locked, selected, answered, rfl⟩ :=
        cartCheckoutViewPost_first noRecord isKey fresh
      have selectedHere := checkoutSelections_elsewhere shop.checkouts selected
      have answeredHere := cartResponse_elsewhere shop.checkouts answered
      obtain ⟨after, runs⟩ := cartCheckoutViewPost_runs absent isKey valid locked selectedHere answeredHere
      exact ⟨after, runs⟩

theorem handle_key (sound : shop.Sound) (accepted : shop.handle settings request = .ok (answer, next)) :
    ∃ key, request.key settings = .ok key := by
  obtain ⟨key, _, isKey, _⟩ := handle_checkedOut sound accepted
  exact ⟨key, isKey⟩

theorem Shop.Sound.forgetful (sound : shop.Sound) : shop.forgetful.Sound :=
  ⟨sound.cart, List.forall_mem_nil _⟩

theorem handle_post (accepted : shop.handle settings request = .ok (answer, next)) :
    shop.post settings request = (.ok answer, next) := by
  rw [Shop.post, accepted]
  rfl

theorem post_handle (posted : shop.post settings request = (.ok answer, next)) :
    shop.handle settings request = .ok (answer, next) := by
  have accepted : (shop.post settings request).1 = .ok answer := by rw [posted]
  have handled := post_accepted accepted
  rw [posted] at handled
  exact handled

theorem handle_live (isKey : request.key settings = .ok key) (unused : shop.receipts (request.customer, key) = none)
    (accepted : shop.handle settings request = .ok (answer, next)) :
    ∀ bookingId ∈ answer.bookings, next.db.IsLive bookingId := by
  have absent := receipts_eq_none.mp unused
  obtain ⟨endpoint, now, customer, header, payload⟩ := request
  cases endpoint with
  | bookings =>
      obtain ⟨_, _, bookingId, made, _, _, _, booked, rfl, rfl⟩ := bookingViewSetCreate_first absent isKey accepted
      rw [List.forall_mem_singleton]
      exact (createBooking_makes booked).2.1
  | cartCheckout =>
      obtain ⟨_, _, bookings, made, _, _, _, _, selected, answered, rfl⟩ :=
        cartCheckoutViewPost_first absent isKey accepted
      rw [cartResponse_accepted answered]
      exact (checkoutSelections_makes selected).1

theorem forgetful_restorable (sound : shop.Sound) (isKey : request.key settings = .ok key)
    (accepted : shop.forgetful.handle settings request = .ok (answer, next)) : request.restorable shop = true := by
  have noRecord := shop.forgetful_unused request.customer key
  obtain ⟨endpoint, now, customer, header, payload⟩ := request
  cases endpoint with
  | bookings => rfl
  | cartCheckout =>
      obtain ⟨_, _, bookings, made, checkouts, _, _, _, selected, answered, _⟩ :=
        cartCheckoutViewPost_first noRecord isKey accepted
      have advances := (checkoutSelections_advances settings.toSettings selected).1
      have grounded : ({ made with checkouts := checkouts } : Shop).CartGrounded := advances.cart sound.forgetful.cart
      have priced := cartResponse_isOk grounded customer
      rw [answered] at priced
      exact (checkoutSelections_makes selected).2.2 priced.symm

theorem receipt_some {receipt : String × List BookingId} (found : request.receipt settings shop = some receipt) :
    ∃ key, request.key settings = .ok key ∧ shop.receipts (request.customer, key) = some receipt := by
  unfold CheckoutPost.receipt at found
  cases isKey : request.key settings with
  | error error =>
      rw [isKey] at found
      cases found
  | ok key =>
      rw [isKey] at found
      exact ⟨key, rfl, found⟩

theorem receipt_eq (isKey : request.key settings = .ok key) :
    request.receipt settings shop = shop.receipts (request.customer, key) := by
  unfold CheckoutPost.receipt
  rw [isKey]

theorem answersDead_iff : request.answersDead settings shop = true ↔
    request.wellFormed settings = true ∧ request.restorable shop = true ∧
      ∃ bookingIds, request.receipt settings shop = some (request.fingerprint settings, bookingIds) ∧
        (request.endpoint.view bookingIds).any shop.db.isDead = true := by
  simp only [CheckoutPost.answersDead, Bool.and_eq_true, Option.any_eq_true, beq_iff_eq, and_assoc]
  constructor
  · rintro ⟨wellFormed, restorable, ⟨fingerprint, bookingIds⟩, found, rfl, dead⟩
    exact ⟨wellFormed, restorable, bookingIds, found, dead⟩
  · rintro ⟨wellFormed, restorable, bookingIds, found, dead⟩
    exact ⟨wellFormed, restorable, _, found, rfl, dead⟩

theorem post_live (sound : shop.Sound) (avoids : request.answersDead settings shop = false)
    (posted : shop.post settings request = (.ok answer, next)) :
    ∀ bookingId ∈ answer.bookings, next.db.isDead bookingId = false := by
  have accepted := post_handle posted
  have wellFormed : request.wellFormed settings = true := post_wellFormed (by rw [posted])
  obtain ⟨key, bookingIds, isKey, answers, checkedOut⟩ := handle_checkedOut sound accepted
  cases checkedOut with
  | restored known advances untouched =>
      have restorable := handle_retried sound isKey wellFormed known
      rw [accepted] at restorable
      rw [← receipt_eq isKey] at known
      have same : next.db = shop.db := congrArg System.db untouched
      intro bookingId member
      refine Bool.eq_false_iff.mpr fun dead => Bool.eq_false_iff.mp avoids (answersDead_iff.mpr ?_)
      rw [answers] at member
      rw [same] at dead
      exact ⟨wellFormed, restorable.symm, bookingIds, known, List.any_eq_true.mpr ⟨bookingId, member, dead⟩⟩
  | made now unused platform cart rows nonempty whole customer booked =>
      exact fun bookingId member => (handle_live isKey unused accepted bookingId member).notDead

theorem post_dead (sound : shop.Sound) (shows_ : request.answersDead settings shop = true) :
    ∃ answer next, shop.post settings request = (.ok answer, next) ∧
      ∃ bookingId ∈ answer.bookings, next.db.isDead bookingId = true := by
  obtain ⟨wellFormed, restorable, bookingIds, found, dead⟩ := answersDead_iff.mp shows_
  obtain ⟨key, isKey, known⟩ := receipt_some found
  have handled := handle_retried sound isKey wellFormed known
  rw [restorable] at handled
  obtain ⟨⟨answer, next⟩, accepted⟩ := isOk_iff.mp handled
  have posted := handle_post accepted
  obtain ⟨_, answers, untouched, _⟩ := post_known sound isKey known (by rw [posted])
  rw [posted] at untouched
  have same : next.db = shop.db := congrArg System.db untouched
  obtain ⟨bookingId, member, isDead⟩ := List.any_eq_true.mp dead
  refine ⟨answer, next, posted, bookingId, ?_, ?_⟩
  · rw [answers]
    exact member
  · rw [same]
    exact isDead

end

section

variable {settings : CheckoutSettings} {start shop : Shop} {steps : List ShopStep} {request : CheckoutPost}

theorem keyless_receipt (initial : start.Initial)
    (kept : Guarded (Shop.step settings) (fun shop step => step.keepsRows shop = true) start steps)
    (keyless : ∀ step ∈ steps, step.keyless = true) {earlier later : List ShopStep}
    (split : steps = earlier ++ .post request :: later) {receipt : String × List BookingId}
    (found : request.receipt settings (runAll (Shop.step settings) start earlier) = some receipt) :
    receipt.1 = request.fingerprint settings := by
  obtain ⟨key, isKey, known⟩ := receipt_some found
  have unused : start.receipts (request.customer, key) = none := by
    rw [Shop.receipts, initial.checkouts]
    rfl
  obtain ⟨before, maker, after, _, splitEarlier, _, isMaker, _, sameFingerprint, _⟩ :=
    run_made initial.sound (kept.upTo split) unused known
  have ownKeyless : request.keyless = true := keyless (.post request) (by rw [split]; simp)
  have makerKeyless : maker.keyless = true := keyless (.post maker) (by rw [split, splitEarlier]; simp)
  have same := (keyless_key makerKeyless isMaker).symm.trans (keyless_key ownKeyless isKey)
  rw [← sameFingerprint]
  exact (fallback_injective same).2

end

/-- In a run of requests without keys no answer shows a dead booking, exactly when no request finds one in its
record that it can be answered from. -/
theorem noDeadAnswers_run (settings : CheckoutSettings) (digest : ∀ message, (settings.sha256 message).length = 32)
    {start : Shop} (initial : start.Initial) {steps : List ShopStep} (keyless : ∀ step ∈ steps, step.keyless = true)
    (kept : Guarded (Shop.step settings) (fun shop step => step.keepsRows shop = true) start steps) :
    Guarded (Shop.step settings) (fun shop step => step.answersDead settings shop = false) start steps ↔
      NoDeadAnswers settings start steps := by
  constructor
  · intro avoids
    have avoidsAt (earlier later : List ShopStep) (request : CheckoutPost)
        (split : steps = earlier ++ .post request :: later) :
        request.answersDead settings (runAll (Shop.step settings) start earlier) = false :=
      Guarded.iff_at.mp avoids earlier (.post request) later split
    have rebooked (earlier later : List ShopStep) (request : CheckoutPost) (answer : CheckoutAnswer) (next : Shop)
        (split : steps = earlier ++ .post request :: later)
        (free : request.isFree settings (runAll (Shop.step settings) start earlier) = true)
        (fresh : (runAll (Shop.step settings) start earlier).forgetful.handle settings request = .ok (answer, next)) :
        ∃ checkouts, (runAll (Shop.step settings) start earlier).post settings request =
          (.ok answer, { next with checkouts := checkouts }) := by
      have sound := run_sound initial.sound (kept.upTo split)
      obtain ⟨key, isKey⟩ := handle_key sound.forgetful fresh
      cases known : (runAll (Shop.step settings) start earlier).receipts (request.customer, key) with
      | none =>
          obtain ⟨checkouts, handled⟩ := handle_unused isKey known fresh
          exact ⟨checkouts, handle_post handled⟩
      | some receipt =>
          -- then the record's dead booking would be shown
          obtain ⟨fingerprint, bookingIds⟩ := receipt
          rw [← receipt_eq isKey] at known
          have own : fingerprint = request.fingerprint settings := keyless_receipt initial kept keyless split known
          subst own
          rw [CheckoutPost.isFree, known] at free
          have wellFormed : request.wellFormed settings = true := post_wellFormed (by rw [handle_post fresh])
          have dead := answersDead_iff.mpr ⟨wellFormed, forgetful_restorable sound isKey fresh, bookingIds, known, free⟩
          rw [avoidsAt earlier later request split] at dead
          cases dead
    refine ⟨?_, fun earlier request later answer next split => rebooked earlier later request answer next split, ?_⟩
    · intro earlier request later answer next split posted
      exact post_live (run_sound initial.sound (kept.upTo split)) (avoidsAt earlier later request split) posted
    · intro earlier request later selection bookingId next split endpoint free valid booked
      have ownKeyless : request.keyless = true := keyless (.post request) (by rw [split]; simp)
      have isKey := key_keyless digest ownKeyless
      obtain ⟨user, found⟩ := createBooking_customer booked
      obtain ⟨place, now, customer, header, payload⟩ := request
      cases endpoint
      obtain ⟨_, fresh⟩ := bookingViewSetCreate_runs
        ((runAll (Shop.step settings) start earlier).forgetful_unused customer _) isKey valid found booked
      obtain ⟨checkouts, posted⟩ := rebooked earlier later _ _ _ split free fresh
      exact ⟨checkouts, posted⟩
  · intro promises
    refine Guarded.iff_at.mpr fun earlier step later split => ?_
    cases step with
    | post request =>
        refine Bool.eq_false_iff.mpr fun shows_ => ?_
        obtain ⟨answer, next, posted, bookingId, member, dead⟩ :=
          post_dead (run_sound initial.sound (kept.upTo split)) shows_
        have live := promises.live earlier request later answer next split posted bookingId member
        rw [dead] at live
        cases live
    | _ => rfl

def keylessPayload : Payload where
  body := .dict (sampleSelection 0)
  sorted := by decide

def changedPayload : Payload where
  body := .dict [("address_id", .number (.integer 0)), ("quantity", .number (.integer 2)),
    ("service_id", .number (.integer 0)), ("slot_id", .number (.integer 0))]
  sorted := by decide

def keylessDigest (message : List (Fin 256)) : List (Fin 256) :=
  let bytes := if message = keylessPayload.encoded then
    [246, 79, 209, 114, 115, 191, 77, 60, 92, 127, 83, 131, 183, 207, 243, 154, 135, 175, 32, 232, 160, 173, 138, 30, 200,
      48, 145, 72, 222, 232, 128, 74]
  else
    [98, 97, 132, 139, 49, 180, 26, 206, 168, 41, 139, 234, 54, 208, 173, 156, 202, 33, 1, 82, 188, 194, 224, 204, 85, 61,
      114, 11, 34, 185, 220, 226]
  bytes.filterMap fun byte => if small : byte < 256 then some ⟨byte, small⟩ else none

theorem keylessDigest_length (message : List (Fin 256)) : (keylessDigest message).length = 32 := by
  simp only [keylessDigest]
  split <;> rfl

def keylessSettings : CheckoutSettings :=
  { sampleCheckoutSettings with sha256 := keylessDigest }

def keylessPost (payload : Payload) : CheckoutPost :=
  { samplePost .bookings payload with header := "" }

/-- The customer books, posts the same body again, cancels, and books anew with another quantity. -/
def changedRebooking : List ShopStep := [
  .post (keylessPost keylessPayload),
  .post (keylessPost keylessPayload),
  .operation (.cancelBooking sampleNow 0 (some 0) "" .customer),
  .post (keylessPost changedPayload)]

theorem noDeadAnswers_run_changedRebooking : NoDeadAnswers keylessSettings sampleShop changedRebooking :=
  (noDeadAnswers_run keylessSettings keylessDigest_length sampleShop_initial (by decide +kernel)
    (by decide +kernel)).mp (by decide +kernel)

def sameRebooking : List ShopStep := [
  .post (keylessPost keylessPayload),
  .operation (.cancelBooking sampleNow 0 (some 0) "" .customer),
  .post (keylessPost keylessPayload)]

theorem cancelled_booking_answered : ¬ NoDeadAnswers keylessSettings sampleShop sameRebooking := by
  intro promises
  have shown : ∀ answer next,
      (runAll (Shop.step keylessSettings) sampleShop (sameRebooking.take 2)).post keylessSettings
        (keylessPost keylessPayload) = (.ok answer, next) →
      ∀ bookingId ∈ answer.bookings, next.db.isDead bookingId = false :=
    fun answer next => promises.live _ _ [] answer next rfl
  have posted : ((runAll (Shop.step keylessSettings) sampleShop (sameRebooking.take 2)).post keylessSettings
      (keylessPost keylessPayload)).1.toOption.map CheckoutAnswer.bookings = some [0] := by decide +kernel
  have dead : ((runAll (Shop.step keylessSettings) sampleShop (sameRebooking.take 2)).post keylessSettings
      (keylessPost keylessPayload)).2.db.isDead 0 = true := by decide +kernel
  cases outcome : (runAll (Shop.step keylessSettings) sampleShop (sameRebooking.take 2)).post keylessSettings
      (keylessPost keylessPayload) with
  | mk result next =>
      rw [outcome] at posted dead
      cases result with
      | error error => cases posted
      | ok answer =>
          have member : 0 ∈ answer.bookings := by rw [Option.some.inj posted]; simp
          rw [shown answer next outcome 0 member] at dead
          cases dead

end PsCore
