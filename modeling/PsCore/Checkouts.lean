import PsCore.Carts
import PsCore.Library.Receipts

/-!
The records of checkouts as a book of receipts: a request under a new key writes its bookings down,
one under a known key is answered from the record or rejected.
-/

namespace PsCore

open Fallible RowTable TransitionRun

def Endpoint.fallback : Endpoint → String
  | .bookings => "booking-"
  | .cartCheckout => "cart-"

def Endpoint.view : Endpoint → List BookingId → List BookingId
  | .bookings, bookingIds => bookingIds.take 1
  | .cartCheckout, bookingIds => bookingIds

namespace CheckoutPost

variable (settings : CheckoutSettings)

def fingerprint (request : CheckoutPost) : String :=
  requestFingerprint settings.sha256 request.payload

def key (request : CheckoutPost) : Except ServiceError String :=
  idempotencyKeyFromRequest request.header (request.endpoint.fallback ++ request.fingerprint settings)

def wellFormed (request : CheckoutPost) : Bool :=
  match request.endpoint with
  | .bookings => (isValid (bookingCreateSerializer settings) request.payload).isOk
  | .cartCheckout => (isValid (cartCheckoutSerializer settings) request.payload).isOk

end CheckoutPost

def Shop.receipts (shop : Shop) : Receipts.Book (UserId × String) String (List BookingId) := fun owner =>
  (firstRow (CheckoutRequest.isOf owner.1 owner.2) shop.checkouts.rows).map fun found =>
    (found.2.requestFingerprint, found.2.bookingIds)

/-- A record that is complete: its bookings are there and its customer's. -/
structure CheckoutRequest.Grounded (db : Db) (record : CheckoutRequest) : Prop where
  completed : record.completedAt ≠ none
  nonempty : record.bookingIds ≠ []
  bookings : ∀ bookingId ∈ record.bookingIds, BookedBy db record.customer bookingId
  customer : record.customer < db.directory.users.length

theorem CheckoutRequest.Grounded.kept {db next : Db} {record : CheckoutRequest} (grounded : record.Grounded db)
    (kept : RowsKept db next) : record.Grounded next :=
  ⟨grounded.completed, grounded.nonempty, fun bookingId member => kept.bookedBy (grounded.bookings bookingId member),
    Nat.lt_of_lt_of_le grounded.customer kept.users⟩

structure Shop.Sound (shop : Shop) : Prop where
  cart : shop.CartGrounded
  checkouts : ∀ record ∈ shop.checkouts.rows, record.Grounded shop.db

theorem Shop.Advances.sound {settings : Settings} {shop next : Shop} (advances : shop.Advances settings next)
    (sound : shop.Sound) : next.Sound := by
  refine ⟨advances.cart sound.cart, fun record member => ?_⟩
  rw [advances.checkouts] at member
  exact (sound.checkouts record member).kept advances.platform.rowsKept

theorem Shop.Initial.sound {shop : Shop} (initial : shop.Initial) : shop.Sound := by
  constructor
  · rw [Shop.CartGrounded, initial.cart]
    exact List.forall_mem_nil _
  · rw [initial.checkouts]
    exact List.forall_mem_nil _

section

variable {customer : UserId} {key : String} {checkouts : CheckoutTable}

theorem beginCheckoutRequest_unused (bookings : List Booking) (fingerprint : String)
    (unused : firstRow (CheckoutRequest.isOf customer key) checkouts.rows = none) :
    ∃ created : CheckoutTable, created.rows = checkouts.rows ++ [newCheckoutRequest customer key fingerprint] ∧
      beginCheckoutRequest customer key fingerprint bookings checkouts = .ok {
        recordId := checkouts.rows.length
        record := newCheckoutRequest customer key fingerprint
        bookings := []
        checkouts := created } := by
  have fresh : ∀ other ∈ checkouts.rows, ¬ other.clashes (newCheckoutRequest customer key fingerprint) = true := by
    intro other member clashes
    have apart := firstRow_none.mp unused other member
    rw [CheckoutRequest.clashes] at clashes
    exact Bool.false_ne_true (apart.symm.trans clashes)
  obtain ⟨created, inserted⟩ := UniqueTable.insert?_fresh fresh
  refine ⟨created, (UniqueTable.insert?_some inserted).1, ?_⟩
  have own : (newCheckoutRequest customer key fingerprint).requestFingerprint = fingerprint := rfl
  simp only [beginCheckoutRequest, getOrCreateCheckoutRequest, unused, inserted, orRaise, ok_bind, pure, Except.pure]
  rw [require_of _ own, ok_bind]
  rfl

theorem beginCheckoutRequest_known {db : Db} {record : CheckoutRequest} {recordId : Nat} (fingerprint : String)
    (found : firstRow (CheckoutRequest.isOf customer key) checkouts.rows = some (recordId, record))
    (grounded : record.Grounded db) :
    beginCheckoutRequest customer key fingerprint db.bookings checkouts =
      if record.requestFingerprint = fingerprint then
        .ok { recordId := recordId, record := record, bookings := record.bookingIds, checkouts := checkouts }
      else .error (.fieldValidation [("idempotency_key",
        "This Idempotency-Key was already used for a different checkout request.")]) := by
  have own : record.customer = customer := by
    have isOwn := (firstRow_some found).2
    simp only [CheckoutRequest.isOf, Bool.and_eq_true, beq_iff_eq] at isOwn
    exact isOwn.1
  have restored : (record.bookingIds.filter fun bookingId =>
      db.bookings[bookingId]?.any fun booking => booking.customer == customer) = record.bookingIds := by
    rw [List.filter_eq_self]
    intro bookingId member
    obtain ⟨booking, present, itsCustomer⟩ := grounded.bookings bookingId member
    simp [present, itsCustomer, own]
  simp only [beginCheckoutRequest, getOrCreateCheckoutRequest, found, ok_bind]
  by_cases same : record.requestFingerprint = fingerprint
  · rw [if_pos same, require_of _ same, ok_bind, if_neg grounded.completed, restored, require_of _ rfl]
    rfl
  · rw [if_neg same, require_of_not _ same]
    rfl

def completedRequest (now : Instant) (customer : UserId) (key fingerprint : String) (bookings : List BookingId) :
    CheckoutRequest :=
  { newCheckoutRequest customer key fingerprint with bookingIds := bookings, completedAt := some now }

theorem completeCheckoutRequest_accepted {now : Instant} {fingerprint : String} {created after : CheckoutTable}
    {made : List BookingId} (rows : created.rows = checkouts.rows ++ [newCheckoutRequest customer key fingerprint])
    (accepted : completeCheckoutRequest now {
      recordId := checkouts.rows.length
      record := newCheckoutRequest customer key fingerprint
      bookings := []
      checkouts := created } made = .ok after) :
    after.rows = checkouts.rows ++ [completedRequest now customer key fingerprint made] := by
  rw [completeCheckoutRequest, accepted_orRaise] at accepted
  rw [UniqueTable.replace?_some accepted, rows, List.set_append_right _ _ (Nat.le_refl _), Nat.sub_self]
  rfl

end

/-! Receipts. -/

theorem receipts_eq_none {shop : Shop} {customer : UserId} {key : String} :
    shop.receipts (customer, key) = none ↔
      firstRow (CheckoutRequest.isOf customer key) shop.checkouts.rows = none := by
  simp [Shop.receipts]

theorem receipts_eq_some {shop : Shop} {customer : UserId} {key fingerprint : String} {bookingIds : List BookingId}
    (known : shop.receipts (customer, key) = some (fingerprint, bookingIds)) :
    ∃ recordId record, firstRow (CheckoutRequest.isOf customer key) shop.checkouts.rows = some (recordId, record) ∧
      record.requestFingerprint = fingerprint ∧ record.bookingIds = bookingIds := by
  simp only [Shop.receipts, Option.map_eq_some_iff, Prod.mk.injEq] at known
  obtain ⟨⟨recordId, record⟩, found, sameFingerprint, sameBookings⟩ := known
  exact ⟨recordId, record, found, sameFingerprint, sameBookings⟩

theorem receipts_completed {shop next : Shop} {now : Instant} {customer : UserId} {key fingerprint : String}
    {bookingIds : List BookingId} (unused : shop.receipts (customer, key) = none)
    (rows : next.checkouts.rows =
      shop.checkouts.rows ++ [completedRequest now customer key fingerprint bookingIds]) :
    next.receipts = Function.update shop.receipts (customer, key) (some (fingerprint, bookingIds)) := by
  funext owner
  by_cases own : owner = (customer, key)
  · subst own
    have isOwn : CheckoutRequest.isOf customer key (completedRequest now customer key fingerprint bookingIds) = true := by
      simp [CheckoutRequest.isOf, completedRequest, newCheckoutRequest]
    simp only [Shop.receipts, rows, firstRow_append, receipts_eq_none.mp unused, isOwn, Function.update_self]
    rfl
  · have foreign : CheckoutRequest.isOf owner.1 owner.2
        (completedRequest now customer key fingerprint bookingIds) = false := by
      refine Bool.eq_false_iff.mpr fun isOwn => own ?_
      simp only [CheckoutRequest.isOf, completedRequest, newCheckoutRequest, Bool.and_eq_true, beq_iff_eq] at isOwn
      rw [isOwn.1, isOwn.2]
    simp [Shop.receipts, rows, firstRow_append, foreign, Function.update_of_ne own]

inductive CheckedOut (settings : CheckoutSettings) (shop : Shop) (request : CheckoutPost) (key : String)
    (bookingIds : List BookingId) (next : Shop) : Prop
  | restored (known : shop.receipts (request.customer, key) = some (request.fingerprint settings, bookingIds))
      (advances : shop.Advances settings.toSettings next) (untouched : next.platform = shop.platform)
  | made (now : Instant) (unused : shop.receipts (request.customer, key) = none)
      (platform : Reaches settings.toSettings shop.platform next.platform)
      (cart : shop.CartGrounded → next.CartGrounded)
      (rows : next.checkouts.rows = shop.checkouts.rows ++
        [completedRequest now request.customer key (request.fingerprint settings) bookingIds])
      (nonempty : bookingIds ≠ []) (whole : request.endpoint.view bookingIds = bookingIds)
      (customer : request.customer < shop.db.directory.users.length)
      (booked : shop.CartGrounded → ∀ bookingId ∈ bookingIds, BookedBy next.db request.customer bookingId)

section

variable {settings : CheckoutSettings} {shop next : Shop} {request : CheckoutPost} {answer : CheckoutAnswer}

theorem CheckedOut.sound {key : String} {bookingIds : List BookingId}
    (checkedOut : CheckedOut settings shop request key bookingIds next) (sound : shop.Sound) : next.Sound := by
  cases checkedOut with
  | restored known advances untouched => exact advances.sound sound
  | made now unused platform cart rows nonempty whole customer booked =>
      refine ⟨cart sound.cart, fun record member => ?_⟩
      rw [rows, List.mem_append, List.mem_singleton] at member
      rcases member with earlier | isNew
      · exact (sound.checkouts record earlier).kept platform.rowsKept
      · rw [isNew]
        exact ⟨Option.some_ne_none _, nonempty, booked sound.cart,
          Nat.lt_of_lt_of_le customer platform.rowsKept.users⟩

theorem CheckedOut.step {key : String} {bookingIds : List BookingId}
    (checkedOut : CheckedOut settings shop request key bookingIds next) :
    Receipts.Step shop.receipts (request.customer, key) (request.fingerprint settings) (some bookingIds)
      next.receipts := by
  cases checkedOut with
  | restored known advances untouched =>
      have same : next.receipts = shop.receipts := by
        unfold Shop.receipts
        rw [advances.checkouts]
      rw [same]
      exact .remembered bookingIds known
  | made now unused platform cart rows nonempty whole customer booked =>
      rw [receipts_completed unused rows]
      exact .made bookingIds unused

theorem lockCustomer_accepted {customer : UserId} {db : Db} {user : User}
    (accepted : lockCustomer customer db = .ok user) : customer < db.directory.users.length := by
  rw [lockCustomer, accepted_orRaise] at accepted
  exact (List.getElem?_eq_some_iff.mp accepted).1

theorem begun_cases {customer : UserId} {key fingerprint : String} {begun : BegunCheckout} (sound : shop.Sound)
    (accepted : beginCheckoutRequest customer key fingerprint shop.db.bookings shop.checkouts = .ok begun) :
    (shop.receipts (customer, key) = some (fingerprint, begun.bookings) ∧ begun.bookings ≠ [] ∧
      begun.checkouts = shop.checkouts) ∨
    (shop.receipts (customer, key) = none ∧ begun.bookings = [] ∧
      ∀ now made after, completeCheckoutRequest now begun made = .ok after →
        after.rows = shop.checkouts.rows ++ [completedRequest now customer key fingerprint made]) := by
  cases found : firstRow (CheckoutRequest.isOf customer key) shop.checkouts.rows with
  | none =>
      obtain ⟨created, rows, begins⟩ := beginCheckoutRequest_unused shop.db.bookings fingerprint found
      rw [begins, Except.ok.injEq] at accepted
      subst accepted
      exact .inr ⟨receipts_eq_none.mpr found, rfl, fun now made after => completeCheckoutRequest_accepted rows⟩
  | some entry =>
      obtain ⟨recordId, record⟩ := entry
      have grounded := sound.checkouts record (List.mem_of_getElem? (firstRow_some found).1)
      rw [beginCheckoutRequest_known fingerprint found grounded] at accepted
      split at accepted
      · rename_i same
        rw [Except.ok.injEq] at accepted
        subst accepted
        refine .inl ⟨?_, grounded.nonempty, rfl⟩
        simp [Shop.receipts, found, same]
      · cases accepted

theorem validateItems_accepted {selections validated : List BookingRequest}
    (accepted : validateItems selections = .ok validated) : validated = selections := by
  simp only [validateItems, accepted_bind, accepted_require, accepted_pure] at accepted
  obtain ⟨_, _, same⟩ := accepted
  exact same.symm

theorem cartSelections_accepted {items : List Body} {position : Nat} {selections : List BookingRequest}
    (accepted : cartSelections settings position items = .ok selections) : selections.length = items.length := by
  induction items generalizing position selections with
  | nil =>
      rw [cartSelections, Except.ok.injEq] at accepted
      rw [← accepted]
      rfl
  | cons item rest ih =>
      rw [cartSelections] at accepted
      split at accepted
      · rename_i selection others isSelection areOthers
        rw [Except.ok.injEq] at accepted
        rw [← accepted, List.length_cons, List.length_cons, ih areOthers]
      · cases accepted

theorem cartCheckoutSerializer_nonempty {body : Body} {selections : List BookingRequest}
    (accepted : cartCheckoutSerializer settings body = .ok selections) : selections ≠ [] := by
  unfold cartCheckoutSerializer at accepted
  split at accepted
  · split at accepted
    · cases accepted
    · cases accepted
    · cases accepted
    · rename_i items notEmpty _
      rw [accepted_bind] at accepted
      obtain ⟨selected, areSelected, validated⟩ := accepted
      rw [validateItems_accepted validated]
      intro empty
      have lengths := cartSelections_accepted areSelected
      rw [empty, List.length_nil] at lengths
      exact notEmpty (List.eq_nil_of_length_eq_zero lengths.symm)
    · cases accepted
  · cases accepted

theorem isValid_accepted {α : Type} {read : Body → Except FieldErrors α} {payload : Payload} {value : α}
    (accepted : isValid read payload = .ok value) : ∃ body, read body = .ok value := by
  unfold isValid at accepted
  split at accepted
  · cases accepted
  · exact ⟨_, accepted_mapError.mp accepted⟩

theorem bookingViewSetCreate_checkedOut {now : Instant} {customer : UserId} {header : String} {payload : Payload}
    (sound : shop.Sound)
    (accepted : bookingViewSetCreate settings now customer header payload shop = .ok (answer, next)) :
    ∃ key bookingIds, CheckoutPost.key settings ⟨.bookings, now, customer, header, payload⟩ = .ok key ∧
      answer.bookings = Endpoint.bookings.view bookingIds ∧
      CheckedOut settings shop ⟨.bookings, now, customer, header, payload⟩ key bookingIds next := by
  simp only [bookingViewSetCreate, accepted_bind] at accepted
  obtain ⟨request, valid, key, isKey, user, locked, begun, begins, accepted⟩ := accepted
  refine ⟨key, ?_⟩
  rcases begun_cases sound begins with ⟨known, nonempty, untouched⟩ | ⟨unused, none, completes⟩
  · obtain ⟨previous, later, listed⟩ := List.exists_cons_of_ne_nil nonempty
    simp only [listed, accepted_pure, Prod.mk.injEq] at accepted
    obtain ⟨rfl, rfl⟩ := accepted
    refine ⟨begun.bookings, isKey, by rw [listed]; rfl, .restored known ?_ rfl⟩
    exact ⟨.refl .., untouched, id⟩
  · simp only [none, accepted_bind, accepted_pure, Prod.mk.injEq] at accepted
    obtain ⟨⟨bookingId, made⟩, created, checkouts, completed, rfl, rfl⟩ := accepted
    have reaches := createBooking_reaches settings.toSettings created
    refine ⟨[bookingId], isKey, rfl, .made now unused reaches (fun grounded row member => ?_)
      (completes now _ _ completed) (List.cons_ne_nil bookingId []) rfl (lockCustomer_accepted locked)
      fun _ made member => ?_⟩
    · exact (grounded row member).kept reaches.rowsKept
    · rw [List.mem_singleton.mp member]
      exact createBooking_bookedBy created

theorem cartCheckoutViewPost_checkedOut {now : Instant} {customer : UserId} {header : String} {payload : Payload}
    (sound : shop.Sound)
    (accepted : cartCheckoutViewPost settings now customer header payload shop = .ok (answer, next)) :
    ∃ key bookingIds, CheckoutPost.key settings ⟨.cartCheckout, now, customer, header, payload⟩ = .ok key ∧
      answer.bookings = Endpoint.cartCheckout.view bookingIds ∧
      CheckedOut settings shop ⟨.cartCheckout, now, customer, header, payload⟩ key bookingIds next := by
  simp only [cartCheckoutViewPost, accepted_bind] at accepted
  obtain ⟨selections, valid, user, locked, key, isKey, begun, begins, accepted⟩ := accepted
  refine ⟨key, ?_⟩
  rcases begun_cases sound begins with ⟨known, nonempty, untouched⟩ | ⟨unused, none, completes⟩
  · obtain ⟨previous, later, listed⟩ := List.exists_cons_of_ne_nil nonempty
    simp only [listed, accepted_bind, accepted_pure, Prod.mk.injEq] at accepted
    obtain ⟨⟨cart, last⟩, answered, rfl, rfl⟩ := accepted
    have advances := cartResponse_advances settings.toSettings answered
    refine ⟨begun.bookings, isKey, by rw [listed]; rfl, .restored known ?_ (by rw [cartResponse_accepted answered])⟩
    exact ⟨advances.platform, advances.checkouts.trans untouched, advances.cart⟩
  · simp only [none, accepted_bind, accepted_pure, Prod.mk.injEq] at accepted
    obtain ⟨⟨bookings, made⟩, selected, checkouts, completed, ⟨cart, last⟩, answered, rfl, rfl⟩ := accepted
    obtain ⟨advances, lengths, booked⟩ := checkoutSelections_advances settings.toSettings selected
    have finished := cartResponse_advances settings.toSettings answered
    have rows := completes now _ _ completed
    refine ⟨bookings, isKey, rfl, .made now unused (advances.platform.trans finished.platform)
      (fun grounded => finished.cart (advances.cart grounded)) ?_ ?_ rfl (lockCustomer_accepted locked) ?_⟩
    · rw [finished.checkouts]
      exact rows
    · obtain ⟨body, serialized⟩ := isValid_accepted valid
      intro empty
      rw [empty, List.length_nil] at lengths
      exact cartCheckoutSerializer_nonempty serialized (List.eq_nil_of_length_eq_zero lengths.symm)
    · exact fun grounded bookingId member => finished.platform.rowsKept.bookedBy (booked grounded bookingId member)

theorem handle_checkedOut (sound : shop.Sound) (accepted : shop.handle settings request = .ok (answer, next)) :
    ∃ key bookingIds, request.key settings = .ok key ∧ answer.bookings = request.endpoint.view bookingIds ∧
      CheckedOut settings shop request key bookingIds next := by
  obtain ⟨endpoint, now, customer, header, payload⟩ := request
  cases endpoint with
  | bookings => exact bookingViewSetCreate_checkedOut sound accepted
  | cartCheckout => exact cartCheckoutViewPost_checkedOut sound accepted

/-- The pricing of the customer's cart, where the endpoint shows it, goes through. -/
def CheckoutPost.restorable (shop : Shop) (request : CheckoutPost) : Bool :=
  request.endpoint == .bookings || shop.cartPriced request.customer

theorem known_begins {key fingerprint : String} {bookingIds : List BookingId} (sound : shop.Sound)
    (known : shop.receipts (request.customer, key) = some (fingerprint, bookingIds)) :
    ∃ begun : BegunCheckout, begun.bookings = bookingIds ∧ bookingIds ≠ [] ∧ begun.checkouts = shop.checkouts ∧
      beginCheckoutRequest request.customer key fingerprint shop.db.bookings shop.checkouts = .ok begun := by
  obtain ⟨recordId, record, found, rfl, rfl⟩ := receipts_eq_some known
  have grounded := sound.checkouts record (List.mem_of_getElem? (firstRow_some found).1)
  have begins := beginCheckoutRequest_known record.requestFingerprint found grounded
  rw [if_pos rfl] at begins
  exact ⟨_, rfl, grounded.nonempty, rfl, begins⟩

theorem known_customer {key fingerprint : String} {bookingIds : List BookingId} (sound : shop.Sound)
    (known : shop.receipts (request.customer, key) = some (fingerprint, bookingIds)) :
    ∃ user, lockCustomer request.customer shop.db = .ok user := by
  obtain ⟨recordId, record, found, rfl, rfl⟩ := receipts_eq_some known
  obtain ⟨foundRow, isOwn⟩ := firstRow_some found
  simp only [CheckoutRequest.isOf, Bool.and_eq_true, beq_iff_eq] at isOwn
  have inBounds := (sound.checkouts record (List.mem_of_getElem? foundRow)).customer
  rw [isOwn.1] at inBounds
  exact ⟨_, accepted_orRaise.mpr (List.getElem?_eq_getElem inBounds)⟩

theorem handle_retried {key : String} {bookingIds : List BookingId} (sound : shop.Sound)
    (isKey : request.key settings = .ok key) (wellFormed : request.wellFormed settings = true)
    (known : shop.receipts (request.customer, key) = some (request.fingerprint settings, bookingIds)) :
    (shop.handle settings request).isOk = request.restorable shop := by
  obtain ⟨user, locked⟩ := known_customer sound known
  obtain ⟨begun, restored, nonempty, untouched, begins⟩ := known_begins sound known
  obtain ⟨previous, later, rfl⟩ := List.exists_cons_of_ne_nil nonempty
  have same : ({ shop with checkouts := begun.checkouts } : Shop) = shop := by rw [untouched]
  obtain ⟨endpoint, now, customer, header, payload⟩ := request
  simp only [CheckoutPost.key, CheckoutPost.fingerprint] at isKey begins
  cases endpoint with
  | bookings =>
      obtain ⟨selection, valid⟩ := isOk_iff.mp wellFormed
      simp only [Endpoint.fallback] at isKey
      simp only [Shop.handle, bookingViewSetCreate, valid, isKey, locked, begins, restored, ok_bind]
      rfl
  | cartCheckout =>
      obtain ⟨selections, valid⟩ := isOk_iff.mp wellFormed
      simp only [Endpoint.fallback] at isKey
      simp only [Shop.handle, cartCheckoutViewPost, valid, isKey, locked, begins, restored, ok_bind, same,
        isOk_bind_pure]
      exact cartResponse_isOk sound.cart customer

end

end PsCore
