import PsCore.CartRows
import PsCore.Reviews
import PsCore.Library.OwnRows

/-!
What the authenticated customer may send, and what it leaves of the other customers. An endpoint that
names a row looks it up among the rows of its sender; whose a booking is never changes, so looking it
up before the lock is the same as under it.
-/

namespace PsCore

open Fallible RowTable TransitionRun OwnRows

structure Storefront where
  shop : Shop
  reviews : ReviewTable

inductive CustomerRequest
  | book (endpoint : Endpoint) (now : Instant) (header : String) (payload : Payload)
  | viewCart
  | addToCart (now : Instant) (data : CartAddData)
  | removeFromCart (service : ServiceId)
  | setQuantity (service : ServiceId) (quantity : Int)
  | cancel (now : Instant) (bookingId : BookingId) (notes : String)
  | reschedule (now : Instant) (bookingId : BookingId) (slotId : SlotId) (notes : String)
  | orderAdvance (bookingId : BookingId) (header : String) (providerOrder : Except ServiceError String)
  | verifyPayment (now : Instant) (orderId paymentId signature : String)
  | review (bookingId : BookingId) (data : ReviewData)

structure SentRequest where
  sender : UserId
  request : CustomerRequest

/-- `get_object` of a queryset that is filtered by the sender. -/
def getCustomerBooking (db : Db) (customer : UserId) (bookingId : BookingId) : Except ServiceError Booking :=
  orRaise (db.bookings[bookingId]?.filter fun booking => booking.customer == customer) (.doesNotExist "Booking")

def cancelView (settings : Settings) (now : Instant) (customer : UserId) (bookingId : BookingId) (notes : String)
    (db : Db) : Except ServiceError (Unit × Db) := do
  let _ ← getCustomerBooking db customer bookingId
  cancelBooking settings now bookingId (some customer) notes .customer db

def rescheduleView (settings : Settings) (now : Instant) (customer : UserId) (bookingId : BookingId)
    (slotId : SlotId) (notes : String) (db : Db) : Except ServiceError (Unit × Db) := do
  let _ ← getCustomerBooking db customer bookingId
  rescheduleBooking settings now bookingId slotId customer notes db

def bookingAdvancePaymentOrderView (settings : Settings) (customer : UserId) (bookingId : BookingId)
    (header : String) (providerOrder : Except ServiceError String) (db : Db) :
    Except ServiceError ((PaymentId × OrderResponse) × Db) := do
  let _ ← getCustomerBooking db customer bookingId
  let key ← idempotencyKeyFromRequest header ("payment-" ++ toString bookingId)
  createAdvancePaymentOrder settings bookingId customer key providerOrder db

namespace Storefront

def db (front : Storefront) : Db := front.shop.db

def commit {α : Type} (front : Storefront) (transaction : Except ServiceError (α × Db)) : Storefront :=
  { front with shop := front.shop.withDb (PsCore.commit front.db transaction).2 }

def served (front : Storefront) (settings : CheckoutSettings) (step : CartStep) : Storefront :=
  { front with shop := front.shop.cartStep settings step }

def stored (front : Storefront) (written : Except ServiceError ReviewTable) : Storefront :=
  match written with
  | .ok reviews => { front with reviews := reviews }
  | .error _ => front

def handle (settings : CheckoutSettings) (front : Storefront) (customer : UserId) : CustomerRequest → Storefront
  | .book endpoint now header payload =>
      front.served settings (.checkout ⟨endpoint, now, customer, header, payload⟩)
  | .viewCart => front.served settings (.get customer)
  | .addToCart now data => front.served settings (.post now customer data)
  | .removeFromCart service => front.served settings (.delete customer service)
  | .setQuantity service quantity => front.served settings (.patch customer service quantity)
  | .cancel now bookingId notes =>
      front.commit (cancelView settings.toSettings now customer bookingId notes front.db)
  | .reschedule now bookingId slotId notes =>
      front.commit (rescheduleView settings.toSettings now customer bookingId slotId notes front.db)
  | .orderAdvance bookingId header providerOrder =>
      front.commit (bookingAdvancePaymentOrderView settings.toSettings customer bookingId header providerOrder front.db)
  | .verifyPayment now orderId paymentId signature =>
      let outcome := verifyRazorpayPayment settings.toSettings now orderId paymentId signature (some customer) front.db
      { front with shop := front.shop.withDb outcome.2 }
  | .review bookingId data => front.stored (postReview bookingId customer data front.db front.reviews)

def step (settings : CheckoutSettings) (front : Storefront) (sent : SentRequest) : Storefront :=
  front.handle settings sent.sender sent.request

end Storefront

/-! Whose a row is. -/

def Booking.isOf (owner : UserId) (booking : Booking) : Bool := booking.customer == owner

def Db.isOf (db : Db) (owner : UserId) (bookingId : BookingId) : Bool :=
  (ownRow (Booking.isOf owner) db.bookings bookingId).isSome

structure Db.Untouched (owner : UserId) (before after : Db) : Prop where
  bookings : LeftAlone (Booking.isOf owner) before.bookings after.bookings
  payments : LeftAlone (fun payment : Payment => before.isOf owner payment.booking) before.payments.rows
    after.payments.rows
  statusHistory : LeftAlone (fun entry : BookingStatusHistory => before.isOf owner entry.booking) before.statusHistory
    after.statusHistory
  assignments : after.assignments = before.assignments
  directory : after.directory = before.directory

structure Shop.Untouched (owner : UserId) (before after : Shop) : Prop where
  db : before.db.Untouched owner after.db
  cart : after.cart.rows.filter (·.customer == owner) = before.cart.rows.filter (·.customer == owner)
  checkouts : LeftAlone (fun record : CheckoutRequest => record.customer == owner) before.checkouts.rows
    after.checkouts.rows

structure Storefront.Untouched (owner : UserId) (before after : Storefront) : Prop where
  shop : before.shop.Untouched owner after.shop
  reviews : LeftAlone (fun review : Review => review.customer == owner) before.reviews.rows after.reviews.rows

section

variable {owner : UserId}

theorem Db.Untouched.isOf {before after : Db} (untouched : before.Untouched owner after) (bookingId : BookingId) :
    after.isOf owner bookingId = before.isOf owner bookingId := by
  unfold Db.isOf
  rw [untouched.bookings bookingId]

theorem Db.Untouched.refl (owner : UserId) (db : Db) : db.Untouched owner db :=
  ⟨.refl _ _, .refl _ _, .refl _ _, rfl, rfl⟩

theorem Db.Untouched.trans {first second third : Db} (one : first.Untouched owner second)
    (two : second.Untouched owner third) : first.Untouched owner third where
  bookings := one.bookings.trans two.bookings
  payments := by
    refine one.payments.trans ?_
    have later := two.payments
    simp only [one.isOf] at later
    exact later
  statusHistory := by
    refine one.statusHistory.trans ?_
    have later := two.statusHistory
    simp only [one.isOf] at later
    exact later
  assignments := two.assignments.trans one.assignments
  directory := two.directory.trans one.directory

theorem Shop.Untouched.refl (owner : UserId) (shop : Shop) : shop.Untouched owner shop :=
  ⟨.refl _ _, rfl, .refl _ _⟩

theorem Shop.Untouched.trans {first second third : Shop} (one : first.Untouched owner second)
    (two : second.Untouched owner third) : first.Untouched owner third :=
  ⟨one.db.trans two.db, two.cart.trans one.cart, one.checkouts.trans two.checkouts⟩

theorem Storefront.Untouched.refl (owner : UserId) (front : Storefront) : front.Untouched owner front :=
  ⟨.refl _ _, .refl _ _⟩

theorem Storefront.Untouched.trans {first second third : Storefront} (one : first.Untouched owner second)
    (two : second.Untouched owner third) : first.Untouched owner third :=
  ⟨one.shop.trans two.shop, one.reviews.trans two.reviews⟩

end

section

variable {settings : Settings} {now : Instant} {customer owner : UserId} {bookingId : BookingId} {db next : Db}

theorem isOf_other {booking : Booking} (other : customer ≠ owner) (found : db.bookings[bookingId]? = some booking)
    (own : booking.customer = customer) : db.isOf owner bookingId = false := by
  have apart : booking.customer ≠ owner := by
    rw [own]
    exact other
  simp [Db.isOf, ownRow, found, Booking.isOf, apart]

theorem createBooking_untouched {request : BookingRequest} (other : customer ≠ owner)
    (accepted : createBooking now customer request db = .ok (bookingId, next)) : db.Untouched owner next := by
  obtain ⟨_, _, _, _, _, _, _, booking, _, _, _, _, isNew, _, rfl⟩ := createBooking_made accepted
  have isOthers : booking.isOf owner = false := by
    rw [isNew]
    simpa [Booking.isOf, newBooking] using other
  have unknown : db.isOf owner db.bookings.length = false := by
    simp [Db.isOf, ownRow]
  exact ⟨.append (by simpa using isOthers), .refl _ _, .append (by simpa using unknown), rfl, rfl⟩

theorem JobWritten.untouched {before after : Booking} (other : customer ≠ owner)
    (written : JobWritten db next db.assignments bookingId before after) (own : before.customer = customer)
    (same : after.customer = before.customer) : db.Untouched owner next := by
  have isOthers : db.isOf owner bookingId = false := isOf_other other written.found own
  obtain ⟨changedBy, notes, history⟩ := written.noted
  refine ⟨?_, .of_eq (by rw [written.payments]), ?_, written.assignments, written.directory⟩
  · rw [written.bookings]
    refine .set written.found ?_ ?_
    · simpa [Booking.isOf, own] using other
    · simpa [Booking.isOf, same, own] using other
  · rw [history]
    exact .append (by simpa using isOthers)

theorem cancelView_untouched {notes : String} (other : customer ≠ owner)
    (accepted : cancelView settings now customer bookingId notes db = .ok ((), next)) : db.Untouched owner next := by
  simp only [cancelView, getCustomerBooking, accepted_bind, accepted_orRaise, Option.filter_eq_some_iff,
    beq_iff_eq] at accepted
  obtain ⟨own, ⟨found, isOwn⟩, cancelled⟩ := accepted
  obtain ⟨booking, _, _, written⟩ := cancelBooking_job cancelled
  have isBooking : own = booking := Option.some.inj (found.symm.trans written.found)
  subst isBooking
  exact written.untouched other isOwn rfl

theorem rescheduleView_untouched {slotId : SlotId} {notes : String} (other : customer ≠ owner)
    (accepted : rescheduleView settings now customer bookingId slotId notes db = .ok ((), next)) :
    db.Untouched owner next := by
  simp only [rescheduleView, accepted_bind] at accepted
  obtain ⟨_, _, rescheduled⟩ := accepted
  obtain ⟨booking, _, _, own, _, _, written⟩ := rescheduleBooking_job rescheduled
  exact written.untouched other own rfl

theorem advanceOrderView_untouched {header : String} {providerOrder : Except ServiceError String}
    {answer : PaymentId × OrderResponse} (other : customer ≠ owner)
    (accepted : bookingAdvancePaymentOrderView settings customer bookingId header providerOrder db =
      .ok (answer, next)) : db.Untouched owner next := by
  simp only [bookingAdvancePaymentOrderView, getCustomerBooking, accepted_bind, accepted_orRaise,
    Option.filter_eq_some_iff, beq_iff_eq] at accepted
  obtain ⟨own, ⟨found, isOwn⟩, key, _, ordered⟩ := accepted
  rcases createAdvancePaymentOrder_cases ordered with
    ⟨_, _, _, _, _, rfl⟩ | ⟨booking, orderId, payments, _, _, inserted, _, rfl⟩
  · exact .refl _ _
  · have isOthers := isOf_other other found isOwn
    refine ⟨.refl _ _, ?_, .refl _ _, rfl, rfl⟩
    rw [(UniqueTable.insert?_some inserted).1]
    exact .append (by simpa [newAdvancePayment] using isOthers)

theorem confirmed_untouched (now : Instant) {locked : LockedPayment} {payments : PaymentTable} {paid : Payment}
    (other : locked.booking.customer ≠ owner) (found : db.payments.rows[locked.paymentId]? = some locked.payment)
    (foundBooking : db.bookings[locked.payment.booking]? = some locked.booking)
    (rows : payments.rows = db.payments.rows.set locked.paymentId paid) (same : paid.booking = locked.payment.booking)
    (changedBy : Option UserId) :
    db.Untouched owner (confirmBookingAfterPayment now locked changedBy { db with payments := payments }) ∧
      db.Untouched owner (markPaymentFailed locked { db with payments := payments }) := by
  have isOthers := isOf_other other foundBooking rfl
  have paymentsAlone : LeftAlone (fun payment : Payment => db.isOf owner payment.booking) db.payments.rows
      payments.rows := by
    rw [rows]
    exact .set found isOthers (by rw [same]; exact isOthers)
  have bookingAlone {after : Booking} (sameCustomer : after.customer = locked.booking.customer) :
      LeftAlone (Booking.isOf owner) db.bookings (db.bookings.set locked.payment.booking after) :=
    .set foundBooking (by simpa [Booking.isOf] using other) (by simpa [Booking.isOf, sameCustomer] using other)
  constructor
  · unfold confirmBookingAfterPayment
    split
    · exact ⟨bookingAlone rfl, paymentsAlone, .refl _ _, rfl, rfl⟩
    · exact ⟨bookingAlone rfl, paymentsAlone, .append (by simpa using isOthers), rfl, rfl⟩
  · have sameCustomer : locked.booking.markedFailed.customer = locked.booking.customer := by
      unfold Booking.markedFailed
      split <;> rfl
    unfold markPaymentFailed
    split <;> exact ⟨bookingAlone sameCustomer, paymentsAlone, .refl _ _, rfl, rfl⟩

theorem verifyRazorpayPayment_untouched {orderId paymentId signature : String} (other : customer ≠ owner) :
    db.Untouched owner (verifyRazorpayPayment settings now orderId paymentId signature (some customer) db).2 := by
  unfold verifyRazorpayPayment
  cases decided : verificationChange settings now orderId paymentId signature (some customer) db with
  | error error => exact .refl _ _
  | ok change =>
      simp only [verificationChange, accepted_bind, accepted_require, Option.all_some, decide_eq_true_eq] at decided
      obtain ⟨locked, lockedRow, _, own, _, _, decided⟩ := decided
      obtain ⟨found, _, foundBooking⟩ := lockOrderPayment_accepted lockedRow
      have apart : locked.booking.customer ≠ owner := by
        rw [← own]
        exact other
      split at decided
      · simp only [accepted_pure] at decided
        subst decided
        exact .refl _ _
      · simp only [accepted_bind] at decided
        obtain ⟨genuine, _, stored⟩ := decided
        split at stored
        · simp only [accepted_bind, accepted_pure] at stored
          obtain ⟨payments, saved, rfl⟩ := stored
          exact (confirmed_untouched now apart found foundBooking (storePayment_accepted saved) rfl _).1
        · simp only [accepted_bind, accepted_pure] at stored
          obtain ⟨payments, saved, rfl⟩ := stored
          exact (confirmed_untouched now apart found foundBooking (storePayment_accepted saved) rfl none).2

end

section

variable {now : Instant} {customer owner : UserId} {shop next : Shop}

theorem Shop.Untouched.ofDb {made : Db} (untouched : shop.db.Untouched owner made) :
    shop.Untouched owner (shop.withDb made) :=
  ⟨untouched, rfl, .refl _ _⟩

theorem Shop.Untouched.ofCart {cart : CartTable}
    (same : cart.rows.filter (·.customer == owner) = shop.cart.rows.filter (·.customer == owner)) :
    shop.Untouched owner { shop with cart := cart } :=
  ⟨.refl _ _, same, .refl _ _⟩

theorem Shop.Untouched.ofCheckouts {checkouts : CheckoutTable}
    (alone : LeftAlone (fun record : CheckoutRequest => record.customer == owner) shop.checkouts.rows
      checkouts.rows) : shop.Untouched owner { shop with checkouts := checkouts } :=
  ⟨.refl _ _, rfl, alone⟩

theorem removed_untouched {accept : CartItem → Bool} (other : customer ≠ owner)
    (own : ∀ row, accept row = true → row.customer = customer) :
    shop.Untouched owner { shop with cart := shop.cart.remove accept } := by
  refine .ofCart ?_
  simp only [UniqueTable.remove, List.filter_filter]
  refine List.filter_congr fun row member => ?_
  cases accepted : accept row with
  | false => simp
  | true => simp [own row accepted, other]

theorem cartResponse_untouched {answer : CartResponse} (other : customer ≠ owner)
    (accepted : cartResponse customer shop = .ok (answer, next)) : shop.Untouched owner next := by
  rw [cartResponse_accepted accepted]
  refine removed_untouched other fun row isOwn => ?_
  simp only [Bool.and_eq_true, beq_iff_eq] at isOwn
  exact isOwn.1

theorem replaced_untouched {cart after : CartTable} {key : Nat} {old row : CartItem} (other : customer ≠ owner)
    (stored : cart.replace? key row = some after) (found : cart.rows[key]? = some old) (own : old.customer = customer)
    (stays : row.customer = customer) :
    after.rows.filter (·.customer == owner) = cart.rows.filter (·.customer == owner) := by
  rw [UniqueTable.replace?_some stored]
  exact filter_set_rejected found (by simpa [own] using other) (by simpa [stays] using other)

theorem checkoutSelection_untouched {selection : BookingRequest} {bookingId : BookingId} (other : customer ≠ owner)
    (accepted : checkoutSelection now customer selection shop = .ok (bookingId, next)) :
    shop.Untouched owner next := by
  obtain ⟨key, row, first, either⟩ := checkoutSelection_accepted accepted
  obtain ⟨foundRow, isOwn⟩ := firstRow_some first
  simp only [CartItem.isOf, Bool.and_eq_true, beq_iff_eq] at isOwn
  rcases either with ⟨_, _, _, _, rfl⟩ | ⟨made, cart, _, created, stored, rfl⟩
  · exact .refl _ _
  · refine .trans (.ofDb (createBooking_untouched other created)) (.ofCart ?_)
    exact replaced_untouched other stored foundRow isOwn.1 isOwn.1

theorem checkoutSelections_untouched {selections : List BookingRequest} {bookings : List BookingId}
    (other : customer ≠ owner)
    (accepted : checkoutSelections now customer selections shop = .ok (bookings, next)) :
    shop.Untouched owner next := by
  induction selections generalizing shop bookings with
  | nil =>
      simp only [checkoutSelections, Except.ok.injEq, Prod.mk.injEq] at accepted
      obtain ⟨rfl, rfl⟩ := accepted
      exact .refl _ _
  | cons selection rest ih =>
      simp only [checkoutSelections, accepted_bind, accepted_pure, Prod.mk.injEq] at accepted
      obtain ⟨⟨bookingId, middle⟩, first, ⟨others, last⟩, remaining, rfl, rfl⟩ := accepted
      exact (checkoutSelection_untouched other first).trans (ih remaining)

theorem beginCheckoutRequest_own {key fingerprint : String} {bookings : List Booking} {checkouts : CheckoutTable}
    {begun : BegunCheckout} (other : customer ≠ owner)
    (accepted : beginCheckoutRequest customer key fingerprint bookings checkouts = .ok begun) :
    begun.checkouts.rows[begun.recordId]? = some begun.record ∧ begun.record.customer = customer ∧
      LeftAlone (fun record : CheckoutRequest => record.customer == owner) checkouts.rows begun.checkouts.rows := by
  simp only [beginCheckoutRequest, accepted_bind, accepted_require] at accepted
  obtain ⟨⟨recordId, record, created⟩, got, _, _, accepted⟩ := accepted
  have facts : created.rows[recordId]? = some record ∧ record.customer = customer ∧
      LeftAlone (fun record : CheckoutRequest => record.customer == owner) checkouts.rows created.rows := by
    unfold getOrCreateCheckoutRequest at got
    split at got
    · rename_i found
      simp only [Except.ok.injEq, Prod.mk.injEq] at got
      obtain ⟨rfl, rfl, rfl⟩ := got
      obtain ⟨foundRow, isOwn⟩ := firstRow_some found
      simp only [CheckoutRequest.isOf, Bool.and_eq_true, beq_iff_eq] at isOwn
      exact ⟨foundRow, isOwn.1, .refl _ _⟩
    · simp only [accepted_bind, accepted_orRaise, accepted_pure, Prod.mk.injEq] at got
      obtain ⟨after, inserted, rfl, rfl, rfl⟩ := got
      rw [(UniqueTable.insert?_some inserted).1]
      exact ⟨List.getElem?_concat_length, rfl, .append (by simpa [newCheckoutRequest] using other)⟩
  split at accepted
  · simp only [accepted_pure] at accepted
    subst accepted
    exact facts
  · simp only [accepted_bind, accepted_pure] at accepted
    obtain ⟨_, _, rfl⟩ := accepted
    exact facts

theorem completeCheckoutRequest_untouched {begun : BegunCheckout} {bookings : List BookingId}
    {checkouts : CheckoutTable} (other : customer ≠ owner)
    (found : begun.checkouts.rows[begun.recordId]? = some begun.record) (own : begun.record.customer = customer)
    (accepted : completeCheckoutRequest now begun bookings = .ok checkouts) :
    LeftAlone (fun record : CheckoutRequest => record.customer == owner) begun.checkouts.rows checkouts.rows := by
  simp only [completeCheckoutRequest, accepted_orRaise] at accepted
  rw [UniqueTable.replace?_some accepted]
  exact .set found (by simpa [own] using other) (by simpa [own] using other)

theorem bookingViewSetCreate_untouched {settings : CheckoutSettings} {header : String} {payload : Payload}
    {answer : CheckoutAnswer} (other : customer ≠ owner)
    (accepted : bookingViewSetCreate settings now customer header payload shop = .ok (answer, next)) :
    shop.Untouched owner next := by
  simp only [bookingViewSetCreate, accepted_bind] at accepted
  obtain ⟨request, _, key, _, user, _, begun, begins, accepted⟩ := accepted
  obtain ⟨found, own, alone⟩ := beginCheckoutRequest_own other begins
  split at accepted
  · simp only [accepted_pure, Prod.mk.injEq] at accepted
    obtain ⟨_, rfl⟩ := accepted
    exact .ofCheckouts alone
  · simp only [accepted_bind, accepted_pure, Prod.mk.injEq] at accepted
    obtain ⟨⟨bookingId, made⟩, created, checkouts, completed, _, rfl⟩ := accepted
    exact .trans (.ofDb (createBooking_untouched other created))
      (.ofCheckouts (alone.trans (completeCheckoutRequest_untouched other found own completed)))

theorem cartCheckoutViewPost_untouched {settings : CheckoutSettings} {header : String} {payload : Payload}
    {answer : CheckoutAnswer} (other : customer ≠ owner)
    (accepted : cartCheckoutViewPost settings now customer header payload shop = .ok (answer, next)) :
    shop.Untouched owner next := by
  simp only [cartCheckoutViewPost, accepted_bind] at accepted
  obtain ⟨selections, _, user, _, key, _, begun, begins, accepted⟩ := accepted
  obtain ⟨found, own, alone⟩ := beginCheckoutRequest_own other begins
  split at accepted
  · simp only [accepted_bind, accepted_pure, Prod.mk.injEq] at accepted
    obtain ⟨⟨cart, last⟩, answered, _, rfl⟩ := accepted
    exact .trans (.ofCheckouts alone) (cartResponse_untouched other answered)
  · simp only [accepted_bind, accepted_pure, Prod.mk.injEq] at accepted
    obtain ⟨⟨bookings, made⟩, selected, checkouts, completed, ⟨cart, last⟩, answered, _, rfl⟩ := accepted
    have selectedAlone := checkoutSelections_untouched other selected
    have recorded := alone.trans (completeCheckoutRequest_untouched other found own completed)
    have written : shop.Untouched owner { made with checkouts := checkouts } :=
      ⟨selectedAlone.db, selectedAlone.cart, recorded⟩
    exact written.trans (cartResponse_untouched other answered)

theorem getOrCreateCartItem_own {service : ServiceId} {cart after : CartTable} {key : Nat} {row : CartItem}
    (other : customer ≠ owner) (accepted : getOrCreateCartItem customer service cart = .ok (key, row, after)) :
    after.rows[key]? = some row ∧ row.customer = customer ∧
      after.rows.filter (·.customer == owner) = cart.rows.filter (·.customer == owner) := by
  unfold getOrCreateCartItem at accepted
  split at accepted
  · rename_i found
    simp only [Except.ok.injEq, Prod.mk.injEq] at accepted
    obtain ⟨rfl, rfl, rfl⟩ := accepted
    obtain ⟨foundRow, isOwn⟩ := firstRow_some found
    simp only [CartItem.isOf, Bool.and_eq_true, beq_iff_eq] at isOwn
    exact ⟨foundRow, isOwn.1, rfl⟩
  · simp only [accepted_bind, accepted_orRaise, accepted_pure, Prod.mk.injEq] at accepted
    obtain ⟨created, inserted, rfl, rfl, rfl⟩ := accepted
    rw [(UniqueTable.insert?_some inserted).1]
    exact ⟨List.getElem?_concat_length, rfl, by simp [List.filter_append, other]⟩

theorem addCartService_untouched {user : User} {request : CartAdd} {service : ServiceId} (other : customer ≠ owner)
    (accepted : addCartService now customer user request shop service = .ok next) : shop.Untouched owner next := by
  simp only [addCartService, accepted_bind, accepted_orRaise, accepted_pure] at accepted
  obtain ⟨⟨key, row, cart⟩, got, ⟨leadId, leads⟩, _, linked, isLinked, after, stored, rfl⟩ := accepted
  obtain ⟨found, own, same⟩ := getOrCreateCartItem_own other got
  have quantifiedOwn := (requantified_same request row).1.trans own
  have linkedOwn : linked.customer = customer := by
    rcases linked_cases isLinked with rfl | ⟨bookingId, booking, rfl, _⟩
    · exact quantifiedOwn
    · exact quantifiedOwn
  have leadsOnly : shop.db.Untouched owner { shop.db with leads := leads } :=
    ⟨.refl _ _, .refl _ _, .refl _ _, rfl, rfl⟩
  exact .trans (.ofDb leadsOnly) (.ofCart ((replaced_untouched other stored found own linkedOwn).trans same))

theorem addCartServices_untouched {user : User} {request : CartAdd} {services : List ServiceId}
    (other : customer ≠ owner)
    (accepted : services.foldlM (addCartService now customer user request) shop = .ok next) :
    shop.Untouched owner next := by
  induction services generalizing shop with
  | nil =>
      simp only [List.foldlM_nil, accepted_pure] at accepted
      rw [accepted]
      exact .refl _ _
  | cons service rest ih =>
      simp only [List.foldlM_cons, accepted_bind] at accepted
      obtain ⟨middle, first, remaining⟩ := accepted
      exact (addCartService_untouched other first).trans (ih remaining)

theorem cartViewPost_untouched {request : CartAdd} {answer : CartAnswer} (other : customer ≠ owner)
    (accepted : cartViewPost now customer request shop = .ok (answer, next)) : shop.Untouched owner next := by
  simp only [cartViewPost, accepted_bind, accepted_require, accepted_pure, Prod.mk.injEq] at accepted
  obtain ⟨user, _, _, _, _, _, filled, isFilled, ⟨cart, last⟩, answered, _, rfl⟩ := accepted
  exact (addCartServices_untouched other isFilled).trans (cartResponse_untouched other answered)

theorem cartItemViewPatch_untouched {service : ServiceId} {quantity : Nat} {answer : CartResponse}
    (other : customer ≠ owner) (accepted : cartItemViewPatch customer service quantity shop = .ok (answer, next)) :
    shop.Untouched owner next := by
  simp only [cartItemViewPatch, accepted_bind, accepted_orRaise, accepted_require] at accepted
  obtain ⟨_, _, ⟨key, row⟩, first, _, _, cart, stored, answered⟩ := accepted
  obtain ⟨foundRow, isOwn⟩ := firstRow_some first
  simp only [CartItem.isOf, Bool.and_eq_true, beq_iff_eq] at isOwn
  exact .trans (.ofCart (replaced_untouched other stored foundRow isOwn.1 isOwn.1))
    (cartResponse_untouched other answered)

end

/-! One request, and a run of them. -/

section

variable {settings : CheckoutSettings} {owner : UserId} {front : Storefront}

theorem serve_untouched {shop next : Shop} {step : CartStep} {answer : Option CartResponse} {customer : UserId}
    (other : customer ≠ owner)
    (sends : (∃ endpoint now header payload, step = .checkout ⟨endpoint, now, customer, header, payload⟩) ∨
      step = .get customer ∨ (∃ now data, step = .post now customer data) ∨
      (∃ service, step = .delete customer service) ∨ ∃ service quantity, step = .patch customer service quantity)
    (accepted : shop.serve settings step = .ok (answer, next)) : shop.Untouched owner next := by
  rcases sends with ⟨endpoint, now, header, payload, rfl⟩ | rfl | ⟨now, data, rfl⟩ | ⟨service, rfl⟩ |
    ⟨service, quantity, rfl⟩
  · simp only [Shop.serve, accepted_bind, accepted_pure, Prod.mk.injEq] at accepted
    obtain ⟨⟨given, last⟩, handled, _, rfl⟩ := accepted
    cases endpoint with
    | bookings => exact bookingViewSetCreate_untouched other handled
    | cartCheckout => exact cartCheckoutViewPost_untouched other handled
  · simp only [Shop.serve, cartViewGet, accepted_bind, accepted_pure, Prod.mk.injEq] at accepted
    obtain ⟨⟨cart, last⟩, ⟨_, _, answered⟩, _, rfl⟩ := accepted
    exact cartResponse_untouched other answered
  · simp only [Shop.serve, accepted_bind, accepted_pure, Prod.mk.injEq] at accepted
    obtain ⟨request, _, ⟨cart, last⟩, added, _, rfl⟩ := accepted
    exact cartViewPost_untouched other added
  · simp only [Shop.serve, cartItemViewDelete, accepted_bind, accepted_pure, Prod.mk.injEq] at accepted
    obtain ⟨⟨cart, last⟩, ⟨_, _, answered⟩, _, rfl⟩ := accepted
    refine .trans (removed_untouched other fun row isOwn => ?_) (cartResponse_untouched other answered)
    simp only [CartItem.isOf, Bool.and_eq_true, beq_iff_eq] at isOwn
    exact isOwn.1
  · simp only [Shop.serve, accepted_bind, accepted_pure, Prod.mk.injEq] at accepted
    obtain ⟨checked, _, ⟨cart, last⟩, answered, _, rfl⟩ := accepted
    exact cartItemViewPatch_untouched other answered

theorem served_untouched {step : CartStep}
    (accepted : ∀ answer next, front.shop.serve settings step = .ok (answer, next) → front.shop.Untouched owner next) :
    front.Untouched owner (front.served settings step) := by
  refine ⟨?_, .refl _ _⟩
  unfold Storefront.served Shop.cartStep Shop.respond
  cases outcome : front.shop.serve settings step with
  | error error => exact .refl _ _
  | ok result => exact accepted result.1 result.2 outcome

theorem commit_untouched {α : Type} {transaction : Except ServiceError (α × Db)}
    (accepted : ∀ answer next, transaction = .ok (answer, next) → front.db.Untouched owner next) :
    front.Untouched owner (front.commit transaction) := by
  refine ⟨?_, .refl _ _⟩
  unfold Storefront.commit
  cases transaction with
  | error error => exact .refl _ _
  | ok result => exact .ofDb (accepted result.1 result.2 rfl)

theorem review_untouched {customer : UserId} {bookingId : BookingId} {data : ReviewData} (other : customer ≠ owner) :
    front.Untouched owner (front.stored (postReview bookingId customer data front.db front.reviews)) := by
  unfold Storefront.stored
  cases posted : postReview bookingId customer data front.db front.reviews with
  | error error => exact .refl _ _
  | ok reviews =>
      obtain ⟨review, booking, rows, _, own, _⟩ := postReview_accepted posted
      refine ⟨.refl _ _, ?_⟩
      rw [rows]
      exact .append (by simpa [own] using other)

theorem step_untouched {sent : SentRequest} (other : sent.sender ≠ owner) :
    front.Untouched owner (front.step settings sent) := by
  obtain ⟨sender, request⟩ := sent
  cases request with
  | book endpoint now header payload =>
      exact served_untouched fun _ _ => serve_untouched other (.inl ⟨endpoint, now, header, payload, rfl⟩)
  | viewCart => exact served_untouched fun _ _ => serve_untouched other (.inr (.inl rfl))
  | addToCart now data => exact served_untouched fun _ _ => serve_untouched other (.inr (.inr (.inl ⟨now, data, rfl⟩)))
  | removeFromCart service =>
      exact served_untouched fun _ _ => serve_untouched other (.inr (.inr (.inr (.inl ⟨service, rfl⟩))))
  | setQuantity service quantity =>
      exact served_untouched fun _ _ => serve_untouched other (.inr (.inr (.inr (.inr ⟨service, quantity, rfl⟩))))
  | cancel now bookingId notes => exact commit_untouched fun _ _ => cancelView_untouched other
  | reschedule now bookingId slotId notes => exact commit_untouched fun _ _ => rescheduleView_untouched other
  | orderAdvance bookingId header providerOrder =>
      exact commit_untouched fun _ _ => advanceOrderView_untouched other
  | verifyPayment now orderId paymentId signature =>
      exact ⟨.ofDb (verifyRazorpayPayment_untouched other), .refl _ _⟩
  | review bookingId data => exact review_untouched other

def bookingViewSetList (db : Db) (customer : UserId) : List Booking :=
  (db.bookings.filter (Booking.isOf customer)).reverse

theorem Db.Untouched.listed {before after : Db} (untouched : before.Untouched owner after) :
    bookingViewSetList after owner = bookingViewSetList before owner := by
  rw [bookingViewSetList, untouched.bookings.filter, bookingViewSetList]

/-- Whatever the others send, in whatever order, the owner's rows stay as they are, and so does the list
that the owner is shown. -/
theorem untouched_run (settings : CheckoutSettings) (owner : UserId) (front : Storefront)
    {requests : List SentRequest} (others : ∀ sent ∈ requests, sent.sender ≠ owner) :
    front.Untouched owner (runAll (Storefront.step settings) front requests) ∧
      bookingViewSetList (runAll (Storefront.step settings) front requests).db owner =
        bookingViewSetList front.db owner := by
  have guarded : Guarded (Storefront.step settings) (fun _ sent => sent.sender ≠ owner) front requests :=
    .of_forall others
  have preserved : ∀ (reached : Storefront) (sent : SentRequest), front.Untouched owner reached →
      sent.sender ≠ owner → front.Untouched owner (reached.step settings sent) :=
    fun reached sent untouched other => untouched.trans (step_untouched other)
  have untouched := guarded.invariant preserved (.refl _ _)
  exact ⟨untouched, untouched.shop.db.listed⟩

end

def sampleFront : Storefront where
  shop := { sampleShop with platform := runAll (System.step sampleSettings) sampleShop.platform paidHistory }
  reviews := .empty

def intrusions : List SentRequest :=
  [.cancel sampleNow 0 "", .reschedule sampleNow 0 0 "", .orderAdvance 0 "payment-key-2" (.ok "order_2"),
    .verifyPayment sampleNow "order_1" "pay_2" "forged", .review 0 { rating := 1, comment := "Never came." },
    .addToCart sampleNow { serviceIds := [0], merge := false, bookingIds := [(0, 0)], quantities := [] },
    .book .cartCheckout sampleNow "checkout-request-0001" samplePayload].map (SentRequest.mk 1)

theorem untouched_run_intrusions :
    sampleFront.Untouched 0 (runAll (Storefront.step sampleCheckoutSettings) sampleFront intrusions) ∧
      bookingViewSetList (runAll (Storefront.step sampleCheckoutSettings) sampleFront intrusions).db 0 =
        bookingViewSetList sampleFront.db 0 :=
  untouched_run sampleCheckoutSettings 0 sampleFront (by simp [intrusions])

end PsCore
