import PsCore.Capacity
import PsCore.KeylessCheckouts

/-!
The checkout of a cart in one batch. It books what one call after another would have booked, or nothing at all,
and of its checks only the one for seats looks at how many selections there are.
-/

namespace PsCore

open Fallible RowTable TransitionRun

def Shop.cartRow (shop : Shop) (customer : UserId) (selection : BookingRequest) : Option CartItem :=
  (firstRow (CartItem.isOf customer selection.serviceId) shop.cart.rows).map (·.2)

def Shop.Links (shop : Shop) (customer : UserId) (selection : BookingRequest) (bookingId : BookingId) : Prop :=
  ∃ row, shop.cartRow customer selection = some row ∧ row.booking = some bookingId

def Shop.unlinked (shop : Shop) (customer : UserId) (selections : List BookingRequest) : List BookingRequest :=
  selections.filterMap fun selection => (shop.cartRow customer selection).bind fun row =>
    if row.booking = none then some { selection with quantity := row.quantity } else none

def Db.HasSeats (db : Db) (requests : List BookingRequest) : Prop :=
  ∀ slotId slot, db.slots[slotId]? = some slot →
    requests.countP (·.slotId = slotId) ≤ getAvailableCapacity db.bookings slotId slot

def TimeSlot.withSeats (extra : Nat) (slot : TimeSlot) : TimeSlot :=
  { slot with
    capacity := slot.capacity + extra
    capacityPositive := Nat.add_pos_left slot.capacityPositive extra }

def Db.withSeats (extra : Nat) (db : Db) : Db :=
  { db with slots := db.slots.map (TimeSlot.withSeats extra) }

def Shop.withSeats (extra : Nat) (shop : Shop) : Shop :=
  shop.withDb (shop.db.withSeats extra)

/-- Every check but the one for seats passes: there is a number of seats with which the request goes through. -/
def CheckoutPost.PassesOtherChecks (settings : CheckoutSettings) (shop : Shop) (request : CheckoutPost) : Prop :=
  ∃ extra, ((shop.withSeats extra).post settings request).1.isOk = true

def CheckoutPost.isOpen (settings : CheckoutSettings) (shop : Shop) (request : CheckoutPost) : Bool :=
  match request.key settings with
  | .error _ => true
  | .ok key => (firstRow (CheckoutRequest.isOf request.customer key) shop.checkouts.rows).all fun found =>
      found.2.completedAt == none

/-- What was placed is there for every selection of an accepted request. -/
structure AllOrNothing (settings : CheckoutSettings) (shop : Shop) (request : CheckoutPost)
    (placed : Shop → BookingRequest → BookingId → Prop) : Prop where
  booked : ∀ answer next, shop.post settings request = (.ok answer, next) →
    ∃ selections made, isValid (cartCheckoutSerializer settings) request.payload = .ok selections ∧
      createBookings request.now request.customer (shop.unlinked request.customer selections) shop.db =
        .ok (made, next.db) ∧
      List.Forall₂ (placed next) selections answer.bookings ∧
      List.Forall₂ (placed next) (shop.unlinked request.customer selections) made ∧
      ∀ selection ∈ selections, ∀ bookingId, shop.Links request.customer selection bookingId →
        placed next selection bookingId
  rejected : ∀ error next, shop.post settings request = (.error error, next) → next = shop
  seated : ∀ selections, isValid (cartCheckoutSerializer settings) request.payload = .ok selections →
    request.PassesOtherChecks settings shop →
    ((shop.post settings request).1.isOk = true ↔
      shop.db.HasSeats (shop.unlinked request.customer selections))

def Db.advancePaid (db : Db) (bookingId : BookingId) : Bool :=
  db.bookings[bookingId]?.any fun booking =>
    (booking.paymentStatus == .partiallyPaid || booking.paymentStatus == .paid) &&
    decide (booking.advanceRequired ≤ booking.advancePaid)

/-- The row is linked to the booking, or gone if its advance was paid before the request. -/
def Shop.LinksOrClears (shop : Shop) (customer : UserId) (next : Shop) (selection : BookingRequest)
    (bookingId : BookingId) : Prop :=
  if shop.db.advancePaid bookingId then next.cartRow customer selection = none
  else next.Links customer selection bookingId

section

variable {now : Instant} {customer : UserId} {request : BookingRequest} {db next : Db} {bookingId : BookingId}
  {slotId : SlotId}

theorem createBooking_inSlot (accepted : createBooking now customer request db = .ok (bookingId, next)) :
    ∃ booking slot, booking.timeSlot = request.slotId ∧ FreshBooking booking ∧
      db.slots[request.slotId]? = some slot ∧ 0 < getAvailableCapacity db.bookings request.slotId slot ∧
      next.bookings = db.bookings ++ [booking] ∧ next.slots = db.slots := by
  obtain ⟨_, address, slot, _, amounts, number, _, booking, _, locked, _, _, isNew, rfl, rfl⟩ :=
    createBooking_made accepted
  obtain ⟨found, free⟩ := lockAndValidateSlot_accepted locked
  have fresh := newBooking_fresh number customer request.serviceId request.addressId address request.slotId slot
    request.quantity amounts
  subst isNew
  exact ⟨_, slot, rfl, fresh, found, free, rfl, rfl⟩

theorem createBooking_seats {rest : List BookingRequest}
    (accepted : createBooking now customer request db = .ok (bookingId, next)) :
    next.HasSeats rest ↔ db.HasSeats (request :: rest) := by
  obtain ⟨booking, slot, inSlot, fresh, found, free, bookings, slots⟩ := createBooking_inSlot accepted
  unfold Db.HasSeats
  rw [slots]
  refine forall_congr' fun slotId => forall_congr' fun other => imp_congr_right fun present => ?_
  have counted : countReservedBookings next.bookings slotId =
      countReservedBookings db.bookings slotId + if request.slotId = slotId then 1 else 0 := by
    have reserves : booking.reserves slotId = true ↔ request.slotId = slotId := by
      rw [reserves_iff, inSlot, fresh.bookingStatus]
      exact and_iff_left rfl
    rw [bookings, countReservedBookings, countWhere_append]
    simp only [reserves]
    rfl
  simp only [getAvailableCapacity, counted, List.countP_cons, decide_eq_true_eq] at free ⊢
  by_cases own : request.slotId = slotId
  · -- this slot has a seat for the new booking
    rw [own, present, Option.some.injEq] at found
    rw [← found, own] at free
    rw [if_pos own]
    omega
  · rw [if_neg own]
    omega

theorem createBookings_seats {requests : List BookingRequest} {made : List BookingId}
    (accepted : createBookings now customer requests db = .ok (made, next)) : db.HasSeats requests :=
  createBookings_induction (motive := fun requests db _ => db.HasSeats requests) (fun _ _ _ _ => Nat.zero_le _)
    (fun _ _ _ _ _ _ created seats => (createBooking_seats created).mp seats) accepted

theorem createBooking_advancePaid (accepted : createBooking now customer request db = .ok (bookingId, next))
    (other : BookingId) : next.advancePaid other = db.advancePaid other := by
  obtain ⟨booking, _, _, fresh, _, _, bookings, _⟩ := createBooking_inSlot accepted
  unfold Db.advancePaid
  rw [bookings]
  cases present : (db.bookings ++ [booking])[other]? with
  | none =>
      have beyond := List.getElem?_eq_none_iff.mp present
      rw [List.length_append] at beyond
      rw [List.getElem?_eq_none (by omega)]
  | some found =>
      rcases append_cases present with earlier | ⟨isLast, rfl⟩
      · rw [earlier]
      · rw [List.getElem?_eq_none (Nat.le_of_eq isLast.symm)]
        simp [fresh.paymentStatus]

/-! More seats change nothing where there is one. -/

theorem isSlotBookable_withSeats (now : Instant) (extra : Nat) {slot : TimeSlot}
    (free : 0 < getAvailableCapacity db.bookings slotId slot) :
    isSlotBookable now (db.withSeats extra) slotId (slot.withSeats extra) = isSlotBookable now db slotId slot := by
  have positive := slot.capacityPositive
  have stillFree : 0 < getAvailableCapacity db.bookings slotId (slot.withSeats extra) := by
    simp only [getAvailableCapacity, TimeSlot.withSeats] at free ⊢
    omega
  have stillPositive := (slot.withSeats extra).capacityPositive
  simp only [isSlotBookable, gt_iff_lt, positive, stillPositive, decide_true, Bool.and_true]
  have moreFree : 0 < getAvailableCapacity (db.withSeats extra).bookings slotId (slot.withSeats extra) := stillFree
  rw [decide_eq_true free, decide_eq_true moreFree]
  rfl

theorem lockSlotForReservation_withSeats (extra : Nat)
    (free : ∀ slot, db.slots[slotId]? = some slot → 0 < getAvailableCapacity db.bookings slotId slot) :
    lockSlotForReservation now (db.withSeats extra) slotId =
      (lockSlotForReservation now db slotId).map (TimeSlot.withSeats extra) := by
  have found : (db.withSeats extra).slots[slotId]? = db.slots[slotId]?.map (TimeSlot.withSeats extra) :=
    List.getElem?_map
  unfold lockSlotForReservation
  rw [found]
  cases present : db.slots[slotId]? with
  | none => rfl
  | some slot =>
      have same := isSlotBookable_withSeats now extra (free slot present)
      simp only [Option.map_some, orRaise, ok_bind, same]
      by_cases bookable : isSlotBookable now db slotId slot = true
      · rw [require_of _ bookable]
        rfl
      · rw [require_of_not _ bookable]
        rfl

theorem lockAndValidateSlot_withSeats (extra : Nat) (address : Address) (service : ServiceId)
    (free : ∀ slot, db.slots[slotId]? = some slot → 0 < getAvailableCapacity db.bookings slotId slot) :
    lockAndValidateSlot now (db.withSeats extra) slotId address service =
      (lockAndValidateSlot now db slotId address service).map (TimeSlot.withSeats extra) := by
  unfold lockAndValidateSlot
  rw [lockSlotForReservation_withSeats extra free]
  refine bind_lockstep fun area _ => bind_lockstep fun supports _ => ?_
  rw [map_mapError]
  exact map_lockstep fun slot _ => bind_lockstep fun inArea _ => rfl

theorem createBooking_withSeats (now : Instant) (customer : UserId) (extra : Nat) (free : db.HasSeats [request]) :
    createBooking now customer request (db.withSeats extra) =
      (createBooking now customer request db).map fun made => (made.1, made.2.withSeats extra) := by
  have hasSeat : ∀ slot, db.slots[request.slotId]? = some slot →
      0 < getAvailableCapacity db.bookings request.slotId slot := by
    intro slot present
    have one := free request.slotId slot present
    simpa [Nat.succ_le_iff] using one
  refine bind_lockstep fun service _ => bind_lockstep fun address _ => ?_
  rw [lockAndValidateSlot_withSeats extra address request.serviceId hasSeat]
  refine map_lockstep fun slot _ => bind_lockstep fun user _ => bind_lockstep fun amounts _ => ?_
  exact bind_lockstep fun numbered _ => bind_lockstep fun unused _ => rfl

end

theorem cartRow_eq_some {shop : Shop} {customer : UserId} {selection : BookingRequest} {row : CartItem} :
    shop.cartRow customer selection = some row ↔
      ∃ key, firstRow (CartItem.isOf customer selection.serviceId) shop.cart.rows = some (key, row) := by
  constructor
  · intro found
    obtain ⟨⟨key, _⟩, first, rfl⟩ := Option.map_eq_some_iff.mp found
    exact ⟨key, first⟩
  · rintro ⟨key, first⟩
    rw [Shop.cartRow, first]
    rfl

section

variable {now : Instant} {customer : UserId} {selection : BookingRequest} {selections rest : List BookingRequest}
  {shop next : Shop} {row : CartItem} {bookingId : BookingId}

theorem unlinked_linked (found : shop.cartRow customer selection = some row) (linked : row.booking = some bookingId) :
    shop.unlinked customer (selection :: rest) = shop.unlinked customer rest := by
  simp [Shop.unlinked, found, linked]

theorem unlinked_unlinked (found : shop.cartRow customer selection = some row) (unlinked : row.booking = none) :
    shop.unlinked customer (selection :: rest) =
      { selection with quantity := row.quantity } :: shop.unlinked customer rest := by
  simp [Shop.unlinked, found, unlinked]

theorem unlinked_congr
    (same : ∀ selection ∈ selections, next.cartRow customer selection = shop.cartRow customer selection) :
    next.unlinked customer selections = shop.unlinked customer selections :=
  List.filterMap_congr fun selection member => by rw [same selection member]

theorem checkoutSelection_cases (accepted : checkoutSelection now customer selection shop = .ok (bookingId, next)) :
    (∀ other : BookingRequest, other.serviceId ≠ selection.serviceId →
      next.cartRow customer other = shop.cartRow customer other) ∧
    ∃ row, shop.cartRow customer selection = some row ∧
      ((row.booking = some bookingId ∧ next = shop) ∨
        (row.booking = none ∧ next.Links customer selection bookingId ∧
          createBooking now customer { selection with quantity := row.quantity } shop.db =
            .ok (bookingId, next.db))) := by
  obtain ⟨key, row, first, either⟩ := checkoutSelection_accepted accepted
  obtain ⟨foundRow, isOwn⟩ := firstRow_some first
  have isRow : shop.cartRow customer selection = some row := cartRow_eq_some.mpr ⟨key, first⟩
  rcases either with ⟨_, linked, _, _, rfl⟩ | ⟨made, cart, unlinked, created, stored, rfl⟩
  · exact ⟨fun _ _ => rfl, row, isRow, .inl ⟨linked, rfl⟩⟩
  · have rows := UniqueTable.replace?_some stored
    refine ⟨fun other differs => ?_, row, isRow,
      .inr ⟨unlinked, ⟨{ row with booking := some bookingId }, ?_, rfl⟩, created⟩⟩
    · have foreign : CartItem.isOf customer other.serviceId row = false := by
        simp only [CartItem.isOf, Bool.and_eq_true, beq_iff_eq] at isOwn
        simp [CartItem.isOf, isOwn.2, differs.symm]
      have same : firstRow (CartItem.isOf customer other.serviceId) cart.rows =
          firstRow (CartItem.isOf customer other.serviceId) shop.cart.rows := by
        rw [rows]
        exact firstRow_set_rejected foundRow foreign foreign
      exact congrArg (Option.map (·.2)) same
    · have written := firstRow_set_first { row with booking := some bookingId } first isOwn
      rw [← rows] at written
      exact cartRow_eq_some.mpr ⟨key, written⟩

/-- The whole batch, to the database and to the cart. -/
structure Batched (now : Instant) (customer : UserId) (selections : List BookingRequest) (shop : Shop)
    (bookings : List BookingId) (next : Shop) : Prop where
  kept : ∀ other bookingId, shop.Links customer other bookingId → next.Links customer other bookingId
  linked : List.Forall₂ (next.Links customer) selections bookings
  booked : ∃ made, createBookings now customer (shop.unlinked customer selections) shop.db = .ok (made, next.db) ∧
    List.Forall₂ (next.Links customer) (shop.unlinked customer selections) made

theorem Shop.Links.of_same {other : BookingRequest} (links : shop.Links customer other bookingId)
    (same : next.cartRow customer other = shop.cartRow customer other) : next.Links customer other bookingId := by
  obtain ⟨row, found, linked⟩ := links
  exact ⟨row, same.trans found, linked⟩

theorem checkoutSelections_batched {bookings : List BookingId}
    (distinct : (selections.map BookingRequest.serviceId).Nodup)
    (accepted : checkoutSelections now customer selections shop = .ok (bookings, next)) :
    Batched now customer selections shop bookings next := by
  induction selections generalizing shop bookings with
  | nil =>
      simp only [checkoutSelections, Except.ok.injEq, Prod.mk.injEq] at accepted
      obtain ⟨rfl, rfl⟩ := accepted
      exact ⟨fun _ _ links => links, .nil, [], rfl, .nil⟩
  | cons selection rest ih =>
      simp only [checkoutSelections, accepted_bind, accepted_pure, Prod.mk.injEq] at accepted
      obtain ⟨⟨bookingId, middle⟩, first, ⟨others, last⟩, remaining, rfl, rfl⟩ := accepted
      rw [List.map_cons, List.nodup_cons] at distinct
      have batch := ih distinct.2 remaining
      obtain ⟨elsewhere, row, found, either⟩ := checkoutSelection_cases first
      have sameRest : middle.unlinked customer rest = shop.unlinked customer rest :=
        unlinked_congr fun other member => elsewhere other fun same =>
          distinct.1 (same ▸ List.mem_map_of_mem member)
      have links : middle.Links customer selection bookingId := by
        rcases either with ⟨linked, rfl⟩ | ⟨_, linked, _⟩
        · exact ⟨row, found, linked⟩
        · exact linked
      have keeps (other : BookingRequest) (otherId : BookingId) (before : shop.Links customer other otherId) :
          middle.Links customer other otherId := by
        by_cases own : other.serviceId = selection.serviceId
        · rcases either with ⟨_, rfl⟩ | ⟨unlinked, _, _⟩
          · exact before
          · -- its row had no booking
            obtain ⟨otherRow, present, isLinked⟩ := before
            rw [Shop.cartRow, own] at present
            rw [Shop.cartRow, present, Option.some.injEq] at found
            rw [found, unlinked] at isLinked
            cases isLinked
        · exact before.of_same (elsewhere other own)
      refine ⟨fun other otherId before => batch.kept _ _ (keeps other otherId before),
        .cons (batch.kept _ _ links) batch.linked, ?_⟩
      obtain ⟨made, created, placed⟩ := batch.booked
      rw [sameRest] at created placed
      rcases either with ⟨linked, rfl⟩ | ⟨unlinked, _, createdFirst⟩
      · rw [unlinked_linked found linked]
        exact ⟨made, created, placed⟩
      · rw [unlinked_unlinked found unlinked]
        refine ⟨bookingId :: made, ?_, .cons (batch.kept _ _ links) placed⟩
        simp only [createBookings, createdFirst, created, ok_bind]
        rfl

end

/-! The cart that is shown afterwards. -/

section

variable {customer : UserId} {selection : BookingRequest} {shop next : Shop} {answer : CartResponse}
  {bookingId : BookingId}

theorem CartItem.clashes_symm {first second : CartItem} (clashes : first.clashes second = true) :
    second.clashes first = true := by
  simp only [CartItem.clashes, CartItem.isOf, Bool.or_eq_true, Bool.and_eq_true, beq_iff_eq] at clashes ⊢
  rcases clashes with ⟨sameCustomer, sameService⟩ | ⟨booked, same⟩
  · exact .inl ⟨sameCustomer.symm, sameService.symm⟩
  · exact .inr ⟨same ▸ booked, same.symm⟩

theorem isPaid_linked {db : Db} {row : CartItem} (linked : row.booking = some bookingId) :
    row.isPaid db.bookings = db.advancePaid bookingId := by
  simp [CartItem.isPaid, Db.advancePaid, linked]

theorem cartResponse_links (links : shop.Links customer selection bookingId)
    (accepted : cartResponse customer shop = .ok (answer, next)) :
    if shop.db.advancePaid bookingId then next.cartRow customer selection = none
    else next.Links customer selection bookingId := by
  obtain ⟨row, found, linked⟩ := links
  obtain ⟨key, first⟩ := cartRow_eq_some.mp found
  obtain ⟨present, isOwn⟩ := firstRow_some first
  have ofCustomer : row.customer = customer := by
    simp only [CartItem.isOf, Bool.and_eq_true, beq_iff_eq] at isOwn
    exact isOwn.1
  rw [cartResponse_accepted accepted]
  split
  · rename_i paid
    refine Option.map_eq_none_iff.mpr (firstRow_none.mpr fun other member => Bool.eq_false_iff.mpr fun alsoOwn => ?_)
    -- no other row is this service's, and this one is not kept
    obtain ⟨isOther, kept⟩ := List.mem_filter.mp member
    obtain ⟨position, presentOther⟩ := List.getElem?_of_mem isOther
    have clashes : row.clashes other = true := by
      simp only [CartItem.isOf, Bool.and_eq_true, beq_iff_eq] at isOwn alsoOwn
      simp [CartItem.clashes, CartItem.isOf, isOwn, alsoOwn]
    have same : key = position := Decidable.by_contra fun differs =>
      shop.cart.apart (fun _ _ => CartItem.clashes_symm) present presentOther differs clashes
    rw [same, presentOther, Option.some.injEq] at present
    rw [present] at kept
    simp [ofCustomer, isPaid_linked linked, paid] at kept
  · rename_i unpaid
    have kept : (!(row.customer == customer && row.isPaid shop.db.bookings)) = true := by
      rw [isPaid_linked linked, Bool.eq_false_iff.mpr unpaid, Bool.and_false]
      rfl
    obtain ⟨position, stays⟩ := firstRow_filter
      (fun row => !(row.customer == customer && row.isPaid shop.db.bookings)) first kept
    exact ⟨row, cartRow_eq_some.mpr ⟨position, stays⟩, linked⟩

end

section

variable {now : Instant} {customer : UserId} {selection : BookingRequest} {selections : List BookingRequest}
  {settings : CheckoutSettings} {payload : Payload} {shop : Shop} {request : CheckoutPost}

theorem createBookings_advancePaid {requests : List BookingRequest} {made : List BookingId} {db next : Db}
    (accepted : createBookings now customer requests db = .ok (made, next)) (other : BookingId) :
    next.advancePaid other = db.advancePaid other :=
  createBookings_induction (motive := fun _ db next => next.advancePaid other = db.advancePaid other) (fun _ => rfl)
    (fun _ _ _ _ _ _ created same => same.trans (createBooking_advancePaid created other)) accepted

theorem cartCheckoutSerializer_distinct
    (valid : isValid (cartCheckoutSerializer settings) payload = .ok selections) :
    (selections.map BookingRequest.serviceId).Nodup := by
  obtain ⟨body, serialized⟩ := isValid_accepted valid
  unfold cartCheckoutSerializer at serialized
  split at serialized
  · split at serialized
    · cases serialized
    · cases serialized
    · cases serialized
    · simp only [validateItems, accepted_bind, accepted_require, accepted_pure] at serialized
      obtain ⟨_, _, _, ⟨_, distinct⟩, rfl⟩ := serialized
      exact distinct
    · cases serialized
  · cases serialized

theorem beginCheckoutRequest_open {key fingerprint : String} {bookings : List Booking} {checkouts : CheckoutTable}
    {begun : BegunCheckout}
    (isOpen : ∀ recordId record,
      firstRow (CheckoutRequest.isOf customer key) checkouts.rows = some (recordId, record) → record.completedAt = none)
    (begins : beginCheckoutRequest customer key fingerprint bookings checkouts = .ok begun) : begun.bookings = [] := by
  simp only [beginCheckoutRequest, accepted_bind, accepted_require] at begins
  obtain ⟨⟨recordId, record, created⟩, got, _, _, begins⟩ := begins
  have incomplete : record.completedAt = none := by
    unfold getOrCreateCheckoutRequest at got
    split at got
    · rename_i found
      cases got
      exact isOpen _ _ found
    · simp only [accepted_bind, accepted_orRaise, accepted_pure, Prod.mk.injEq] at got
      obtain ⟨_, _, _, rfl, _⟩ := got
      rfl
  rw [if_pos incomplete, accepted_pure] at begins
  rw [← begins]

theorem isOpen_record {key : String} {recordId : Nat} {record : CheckoutRequest}
    (isOpen : request.isOpen settings shop = true) (isKey : request.key settings = .ok key)
    (found : firstRow (CheckoutRequest.isOf request.customer key) shop.checkouts.rows = some (recordId, record)) :
    record.completedAt = none := by
  unfold CheckoutPost.isOpen at isOpen
  rw [isKey] at isOpen
  simpa [found] using isOpen

theorem post_open {answer : CheckoutAnswer} {next : Shop} (cart : request.endpoint = .cartCheckout)
    (isOpen : request.isOpen settings shop = true) (posted : shop.post settings request = (.ok answer, next)) :
    ∃ selections made checkouts response,
      isValid (cartCheckoutSerializer settings) request.payload = .ok selections ∧
      checkoutSelections request.now request.customer selections shop = .ok (answer.bookings, made) ∧
      cartResponse request.customer { made with checkouts := checkouts } = .ok (response, next) := by
  have accepted := post_handle posted
  obtain ⟨endpoint, now, customer, header, payload⟩ := request
  cases cart
  simp only [Shop.handle, cartCheckoutViewPost, accepted_bind] at accepted
  obtain ⟨selections, valid, user, _, key, isKey, begun, begins, accepted⟩ := accepted
  have new : begun.bookings = [] := by
    refine beginCheckoutRequest_open (fun recordId record found => ?_) begins
    exact isOpen_record isOpen isKey found
  rw [new] at accepted
  simp only [accepted_bind, accepted_pure, Prod.mk.injEq] at accepted
  obtain ⟨⟨bookings, made⟩, selected, checkouts, _, ⟨response, last⟩, answered, rfl, rfl⟩ := accepted
  exact ⟨selections, made, checkouts, response, valid, selected, answered⟩

end

section

variable {now : Instant} {customer : UserId} {selection : BookingRequest} {selections : List BookingRequest}
  {settings : CheckoutSettings} {header : String} {payload : Payload} {shop next : Shop} {request : CheckoutPost}
  {bookingId : BookingId}

theorem Db.HasSeats.first {db : Db} {request : BookingRequest} {rest : List BookingRequest}
    (seats : db.HasSeats (request :: rest)) : db.HasSeats [request] :=
  fun slotId slot present => Nat.le_trans
    ((List.cons_sublist_cons.mpr rest.nil_sublist).countP_le) (seats slotId slot present)

theorem checkoutSelection_seats {rest : List BookingRequest}
    (distinct : ∀ other ∈ rest, other.serviceId ≠ selection.serviceId)
    (seats : shop.db.HasSeats (shop.unlinked customer (selection :: rest)))
    (accepted : checkoutSelection now customer selection shop = .ok (bookingId, next)) :
    next.db.HasSeats (next.unlinked customer rest) := by
  obtain ⟨elsewhere, row, found, either⟩ := checkoutSelection_cases accepted
  rw [unlinked_congr fun other member => elsewhere other (distinct other member)]
  rcases either with ⟨linked, rfl⟩ | ⟨unlinked, _, created⟩
  · rw [unlinked_linked found linked] at seats
    exact seats
  · rw [unlinked_unlinked found unlinked] at seats
    exact (createBooking_seats created).mpr seats

theorem checkoutSelection_withSeats (extra : Nat) {rest : List BookingRequest}
    (seats : shop.db.HasSeats (shop.unlinked customer (selection :: rest))) :
    checkoutSelection now customer selection (shop.withSeats extra) =
      (checkoutSelection now customer selection shop).map fun made => (made.1, made.2.withSeats extra) := by
  refine bind_lockstep fun found first => ?_
  obtain ⟨key, row⟩ := found
  have isRow : shop.cartRow customer selection = some row := cartRow_eq_some.mpr ⟨key, accepted_orRaise.mp first⟩
  cases linked : row.booking with
  | some linkedId =>
      simp only [linked]
      exact bind_lockstep fun booking _ => bind_lockstep fun awaits _ => rfl
  | none =>
      rw [unlinked_unlinked isRow linked] at seats
      have created := createBooking_withSeats now customer extra seats.first
      simp only [linked]
      rw [show (shop.withSeats extra).db = shop.db.withSeats extra from rfl, created]
      exact map_lockstep fun made _ => bind_lockstep fun cart _ => rfl

theorem checkoutSelections_withSeats (extra : Nat) (distinct : (selections.map BookingRequest.serviceId).Nodup)
    (seats : shop.db.HasSeats (shop.unlinked customer selections)) :
    checkoutSelections now customer selections (shop.withSeats extra) =
      (checkoutSelections now customer selections shop).map fun made => (made.1, made.2.withSeats extra) := by
  induction selections generalizing shop with
  | nil => rfl
  | cons selection rest ih =>
      rw [List.map_cons, List.nodup_cons] at distinct
      have others : ∀ other ∈ rest, other.serviceId ≠ selection.serviceId :=
        fun other member same => distinct.1 (same ▸ List.mem_map_of_mem member)
      unfold checkoutSelections
      rw [checkoutSelection_withSeats extra seats]
      refine map_lockstep fun made first => ?_
      dsimp only
      rw [ih distinct.2 (checkoutSelection_seats others seats first)]
      exact map_lockstep fun later _ => rfl

theorem cartResponse_withSeats (extra : Nat) (customer : UserId) (shop : Shop) :
    cartResponse customer (shop.withSeats extra) =
      (cartResponse customer shop).map fun answered => (answered.1, answered.2.withSeats extra) :=
  bind_lockstep fun _ _ => rfl

theorem cartCheckoutViewPost_withSeats (now : Instant) (header : String) (extra : Nat)
    (seats : ∀ selections, isValid (cartCheckoutSerializer settings) payload = .ok selections →
      shop.db.HasSeats (shop.unlinked customer selections)) :
    cartCheckoutViewPost settings now customer header payload (shop.withSeats extra) =
      (cartCheckoutViewPost settings now customer header payload shop).map
        fun answered => (answered.1, answered.2.withSeats extra) := by
  refine bind_lockstep fun selections valid => bind_lockstep fun user _ => bind_lockstep fun key _ =>
    bind_lockstep fun begun _ => ?_
  cases begun.bookings with
  | cons previous later =>
      dsimp only
      rw [show ({ shop.withSeats extra with checkouts := begun.checkouts } : Shop) =
        ({ shop with checkouts := begun.checkouts } : Shop).withSeats extra from rfl, cartResponse_withSeats]
      exact map_lockstep fun answered _ => rfl
  | nil =>
      dsimp only
      rw [checkoutSelections_withSeats extra (cartCheckoutSerializer_distinct valid) (seats selections valid)]
      refine map_lockstep fun made _ => bind_lockstep fun checkouts _ => ?_
      rw [show ({ made.2.withSeats extra with checkouts := checkouts } : Shop) =
        ({ made.2 with checkouts := checkouts } : Shop).withSeats extra from rfl, cartResponse_withSeats]
      exact map_lockstep fun answered _ => rfl

end

/-- Under an open key the checkout of a cart books the unlinked selections one after another, or changes nothing;
of seats it needs one for every unlinked selection in its slot. -/
theorem allOrNothing_checkout (settings : CheckoutSettings) (shop : Shop) {request : CheckoutPost}
    (cart : request.endpoint = .cartCheckout) (isOpen : request.isOpen settings shop = true) :
    AllOrNothing settings shop request (shop.LinksOrClears request.customer) where
  booked := by
    intro answer next posted
    obtain ⟨selections, made, checkouts, response, valid, selected, answered⟩ := post_open cart isOpen posted
    have batch := checkoutSelections_batched (cartCheckoutSerializer_distinct valid) selected
    obtain ⟨bookings, created, placed⟩ := batch.booked
    have sameDb : next.db = made.db := by
      rw [cartResponse_accepted answered]
      rfl
    have places (selection : BookingRequest) (bookingId : BookingId)
        (links : made.Links request.customer selection bookingId) :
        shop.LinksOrClears request.customer next selection bookingId := by
      have linksHere : ({ made with checkouts := checkouts } : Shop).Links request.customer selection bookingId := links
      have shown := cartResponse_links linksHere answered
      have paidBefore : ({ made with checkouts := checkouts } : Shop).db.advancePaid bookingId =
          shop.db.advancePaid bookingId := createBookings_advancePaid created bookingId
      rw [paidBefore] at shown
      exact shown
    rw [← sameDb] at created
    exact ⟨selections, bookings, valid, created, batch.linked.imp places, placed.imp places,
      fun selection _ bookingId before => places selection bookingId (batch.kept selection bookingId before)⟩
  rejected := by
    intro error next posted
    have raised : (shop.post settings request).1 = .error error := by rw [posted]
    have unchanged := post_rejected raised
    rw [posted] at unchanged
    exact unchanged
  seated := by
    intro selections valid others
    obtain ⟨extra, accepted⟩ := others
    constructor
    · intro succeeds
      obtain ⟨answer, isAnswer⟩ := isOk_iff.mp succeeds
      obtain ⟨asked, made, _, _, isAsked, selected, _⟩ := post_open cart isOpen (Prod.ext isAnswer rfl)
      rw [valid, Except.ok.injEq] at isAsked
      subst isAsked
      obtain ⟨_, created, _⟩ := (checkoutSelections_batched (cartCheckoutSerializer_distinct valid) selected).booked
      exact createBookings_seats created
    · intro seats
      have fits : ∀ asked, isValid (cartCheckoutSerializer settings) request.payload = .ok asked →
          shop.db.HasSeats (shop.unlinked request.customer asked) := by
        intro asked isAsked
        rw [valid, Except.ok.injEq] at isAsked
        exact isAsked ▸ seats
      have lockstep := cartCheckoutViewPost_withSeats request.now request.header extra fits
      rw [post_isOk, Shop.handle, cart] at accepted ⊢
      dsimp only at accepted ⊢
      rw [lockstep, isOk_map] at accepted
      exact accepted

def filledShop : Shop := runAll (Shop.step sampleCheckoutSettings) sampleShop [sampleCartAdd]

theorem allOrNothing_checkout_two :
    AllOrNothing sampleCheckoutSettings filledShop (samplePost .cartCheckout mixedPayload)
      (filledShop.LinksOrClears 0) :=
  allOrNothing_checkout sampleCheckoutSettings filledShop rfl (by decide +kernel)

def bookedFromCart : List ShopStep := [
  .addToCart sampleNow 0 { serviceIds := [0], merge := false, bookingIds := [], quantities := [] },
  .post (samplePost .cartCheckout samplePayload)]

def advancePaidShop : Shop :=
  let linked := runAll (Shop.step sampleCheckoutSettings) sampleShop bookedFromCart
  linked.withDb { linked.db with bookings := linked.db.bookings.map fun booking =>
    { booking with paymentStatus := .partiallyPaid, advancePaid := booking.advanceRequired } }

def laterPost : CheckoutPost :=
  { samplePost .cartCheckout samplePayload with header := "checkout-request-0002" }

theorem paid_row_cleared :
    ¬ ∀ (settings : CheckoutSettings) (shop : Shop) (request : CheckoutPost), request.endpoint = .cartCheckout →
      request.isOpen settings shop = true →
      AllOrNothing settings shop request fun next => next.Links request.customer := by
  intro always
  have promises := always sampleCheckoutSettings advancePaidShop laterPost rfl (by decide +kernel)
  have posted : (advancePaidShop.post sampleCheckoutSettings laterPost).1.toOption.map CheckoutAnswer.bookings =
      some [0] := by decide +kernel
  have cleared : (advancePaidShop.post sampleCheckoutSettings laterPost).2.cart.rows = [] := by decide +kernel
  cases outcome : advancePaidShop.post sampleCheckoutSettings laterPost with
  | mk result next =>
      rw [outcome] at posted cleared
      cases result with
      | error error => cases posted
      | ok answer =>
          obtain ⟨selections, _, _, _, placed, _⟩ := promises.booked answer next outcome
          rw [Option.some.inj posted] at placed
          cases placed with
          | cons links _ =>
              obtain ⟨row, found, _⟩ := links
              rw [Shop.cartRow, cleared] at found
              cases found

end PsCore
