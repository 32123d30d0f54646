import PsCore.Batches

/-!
The price of a cart before and after its checkout. The cart computes it from the effective price, a booking from
the subtotal and the discount, each with its own copies of the fee and of the rounding.
-/

namespace PsCore

open Fallible RowTable

def Db.charge (db : Db) (asked : ServiceId × Nat) : Option (Money × Money) :=
  db.directory.services[asked.1]?.bind fun service =>
    (bookingAmounts service.toServiceFields asked.2).toOption.map fun amounts =>
      (amounts.totalAmount, amounts.advanceRequired)

def CartItem.asked (row : CartItem) : ServiceId × Nat := (row.service, row.quantity)

def BookingRequest.asked (request : BookingRequest) : ServiceId × Nat := (request.serviceId, request.quantity)

def CartLine.charged (line : CartLine) : Money × Money := (line.price, line.advance)

def Booking.charged (booking : Booking) : Money × Money := (booking.totalAmount, booking.advanceRequired)

def Shop.IsUnbooked (shop : Shop) (customer : UserId) : Prop :=
  ∀ row ∈ shop.cart.rows, row.customer = customer → row.booking = none

def CheckoutPost.SelectsAll (settings : CheckoutSettings) (shop : Shop) (request : CheckoutPost) : Prop :=
  ∀ selections, isValid (cartCheckoutSerializer settings) request.payload = .ok selections →
    ∀ row ∈ shop.cart.rows, row.customer = request.customer →
      ∃ selection ∈ selections, selection.serviceId = row.service

/-- What the cart shows is what is charged, row by row and in total. -/
structure ChargesAsShown (settings : CheckoutSettings) (shop : Shop) : Prop where
  priced : ∀ service row, (unbookedLine service row).toOption.map CartLine.charged =
    (bookingAmounts service.toServiceFields row.quantity).toOption.map fun amounts =>
      (amounts.totalAmount, amounts.advanceRequired)
  row : ∀ row : CartItem, row.booking = none →
    ∀ now customer request bookingId next, request.asked = row.asked →
    createBooking now customer request shop.db = .ok (bookingId, next) →
    ∃ line booking, cartLine shop.db row = .ok line ∧ next.bookings[bookingId]? = some booking ∧
      line.price = booking.totalAmount ∧ line.advance = booking.advanceRequired
  cart : ∀ request, request.endpoint = .cartCheckout → request.isOpen settings shop = true →
    shop.IsUnbooked request.customer → request.SelectsAll settings shop →
    ∀ shown after answer next, cartResponse request.customer shop = .ok (shown, after) →
      shop.post settings request = (.ok answer, next) →
      ∃ made, next.db.bookings = shop.db.bookings ++ made ∧
        shown.total = (made.map Booking.totalAmount).sum ∧
        shown.advanceTotal = (made.map Booking.advanceRequired).sum

theorem unbookedLine_charged (service : Service) (row : CartItem) :
    (unbookedLine service row).toOption.map CartLine.charged =
      (bookingAmounts service.toServiceFields row.quantity).toOption.map fun amounts =>
        (amounts.totalAmount, amounts.advanceRequired) := by
  -- the discount is taken off again what it was added up from
  have total (subtotal effective fee : Int) : subtotal - (subtotal - effective) + fee + 0 = effective + fee := by
    omega
  unfold unbookedLine bookingAmounts
  cases service.advancePaymentType with
  | fixed =>
      simp only [total]
      rfl
  | percentage =>
      cases service.advancePaymentValue with
      | none => rfl
      | some value =>
          simp only [total]
          rfl

theorem cartLine_charged {row : CartItem} (db : Db) (unlinked : row.booking = none) :
    (cartLine db row).toOption.map CartLine.charged = db.charge row.asked := by
  unfold cartLine Db.charge CartItem.asked
  cases db.directory.services[row.service]? with
  | none => rfl
  | some service =>
      rw [unlinked]
      exact unbookedLine_charged service row

theorem createBooking_charged {now : Instant} {customer : UserId} {request : BookingRequest} {db next : Db}
    {bookingId : BookingId} (accepted : createBooking now customer request db = .ok (bookingId, next)) :
    ∃ booking, bookingId = db.bookings.length ∧ next.bookings = db.bookings ++ [booking] ∧
      next.directory = db.directory ∧ db.charge request.asked = some booking.charged := by
  obtain ⟨service, _, _, _, amounts, _, _, booking, found, _, _, priced, isNew, isLast, rfl⟩ :=
    createBooking_made accepted
  refine ⟨booking, isLast, rfl, rfl, ?_⟩
  simp only [Db.charge, BookingRequest.asked, found, Option.bind_some, priced]
  rw [isNew]
  rfl

/-! The whole cart. -/

theorem createBookings_charged {now : Instant} {customer : UserId} {requests : List BookingRequest} {db next : Db}
    {bookingIds : List BookingId} (accepted : createBookings now customer requests db = .ok (bookingIds, next)) :
    ∃ made, next.bookings = db.bookings ++ made ∧ next.directory = db.directory ∧
      requests.map (fun request => db.charge request.asked) = made.map fun booking => some booking.charged := by
  refine createBookings_induction (motive := fun requests db next => ∃ made, next.bookings = db.bookings ++ made ∧
    next.directory = db.directory ∧
    requests.map (fun request => db.charge request.asked) = made.map fun booking => some booking.charged)
    (fun db => ⟨[], (List.append_nil _).symm, rfl, rfl⟩) ?_ accepted
  rintro request rest db bookingId middle last created ⟨others, bookings, directory, charged⟩
  obtain ⟨booking, _, first, sameDirectory, isCharged⟩ := createBooking_charged created
  have sameCharge : middle.charge = db.charge := by
    funext asked
    rw [Db.charge, sameDirectory]
    rfl
  refine ⟨booking :: others, ?_, directory.trans sameDirectory, ?_⟩
  · rw [bookings, first, List.append_assoc]
    rfl
  · rw [sameCharge] at charged
    rw [List.map_cons, List.map_cons, isCharged, charged]

section

variable {customer : UserId} {shop : Shop}

theorem cartRow_of_member {row : CartItem} {selection : BookingRequest} (member : row ∈ shop.cart.rows)
    (own : row.customer = customer) (selects : selection.serviceId = row.service) :
    shop.cartRow customer selection = some row := by
  have isRow : CartItem.isOf customer selection.serviceId row = true := by
    simp [CartItem.isOf, own, selects]
  cases found : firstRow (CartItem.isOf customer selection.serviceId) shop.cart.rows with
  | none => exact absurd isRow (by simp [firstRow_none.mp found row member])
  | some first =>
      obtain ⟨position, other⟩ := first
      obtain ⟨present, isOther⟩ := firstRow_some found
      have inCart : other ∈ shop.cart.rows.filter (·.customer == customer) := by
        simp only [CartItem.isOf, Bool.and_eq_true, beq_iff_eq] at isOther
        simp [List.mem_of_getElem? present, isOther.1]
      have same : other = row := by
        refine List.inj_on_of_nodup_map (cartServices_nodup shop customer) inCart ?_ ?_
        · simp [member, own]
        · simp only [CartItem.isOf, Bool.and_eq_true, beq_iff_eq] at isOther
          rw [isOther.2, selects]
      exact cartRow_eq_some.mpr ⟨position, same ▸ found⟩

theorem cartRow_member {row : CartItem} {selection : BookingRequest}
    (found : shop.cartRow customer selection = some row) :
    row ∈ shop.cart.rows ∧ row.customer = customer ∧ row.service = selection.serviceId := by
  obtain ⟨key, first⟩ := cartRow_eq_some.mp found
  obtain ⟨present, isOwn⟩ := firstRow_some first
  simp only [CartItem.isOf, Bool.and_eq_true, beq_iff_eq] at isOwn
  exact ⟨List.mem_of_getElem? present, isOwn⟩

theorem mem_unlinked {selections : List BookingRequest} {request : BookingRequest} :
    request ∈ shop.unlinked customer selections ↔
      ∃ selection ∈ selections, ∃ row, shop.cartRow customer selection = some row ∧ row.booking = none ∧
        { selection with quantity := row.quantity } = request := by
  simp [Shop.unlinked, List.mem_filterMap, Option.bind_eq_some_iff]

theorem unlinkedServices_nodup {selections : List BookingRequest}
    (distinct : (selections.map BookingRequest.serviceId).Nodup) :
    ((shop.unlinked customer selections).map BookingRequest.serviceId).Nodup := by
  have service {selection request : BookingRequest}
      (kept : ((shop.cartRow customer selection).bind fun row =>
        if row.booking = none then some { selection with quantity := row.quantity } else none) = some request) :
      request.serviceId = selection.serviceId := by
    obtain ⟨row, _, kept⟩ := Option.bind_eq_some_iff.mp kept
    split at kept
    · rw [← Option.some.inj kept]
    · cases kept
  refine List.pairwise_map.mpr (List.pairwise_filterMap.mpr ((List.pairwise_map.mp distinct).imp ?_))
  intro first second differ request isFirst other isSecond
  rw [service isFirst, service isSecond]
  exact differ

theorem unlinked_perm {selections : List BookingRequest} (unbooked : shop.IsUnbooked customer)
    (distinct : (selections.map BookingRequest.serviceId).Nodup)
    (whole : ∀ row ∈ shop.cart.rows, row.customer = customer →
      ∃ selection ∈ selections, selection.serviceId = row.service) :
    ((shop.unlinked customer selections).map BookingRequest.asked).Perm
      ((shop.cart.rows.filter (·.customer == customer)).map CartItem.asked) := by
  refine (List.perm_ext_iff_of_nodup (List.Nodup.of_map Prod.fst ?_) (List.Nodup.of_map Prod.fst ?_)).mpr ?_
  · rw [List.map_map]
    exact unlinkedServices_nodup distinct
  · rw [List.map_map]
    exact cartServices_nodup shop customer
  · intro asked
    simp only [List.mem_map, mem_unlinked, List.mem_filter, beq_iff_eq]
    constructor
    · rintro ⟨_, ⟨selection, selected, row, found, _, rfl⟩, rfl⟩
      obtain ⟨member, own, service⟩ := cartRow_member found
      refine ⟨row, ⟨member, own⟩, ?_⟩
      rw [CartItem.asked, service]
      rfl
    · rintro ⟨row, ⟨member, own⟩, rfl⟩
      obtain ⟨selection, selected, service⟩ := whole row member own
      have found := cartRow_of_member member own service
      refine ⟨_, ⟨selection, selected, row, found, unbooked row member own, rfl⟩, ?_⟩
      rw [CartItem.asked, ← service]
      rfl

theorem cartResponse_shown {shown : CartResponse} {after : Shop} (unbooked : shop.IsUnbooked customer)
    (accepted : cartResponse customer shop = .ok (shown, after)) :
    ((shop.cart.rows.filter (·.customer == customer)).map fun row => shop.db.charge row.asked) =
        shown.items.map (fun line => some line.charged) ∧
      shown.total = (shown.items.map CartLine.price).sum ∧
      shown.advanceTotal = (shown.items.map CartLine.advance).sum := by
  simp only [cartResponse, accepted_bind, accepted_pure, Prod.mk.injEq] at accepted
  obtain ⟨items, lines, rfl, _⟩ := accepted
  refine ⟨?_, rfl, rfl⟩
  have keepsAll : (shop.cart.rows.filter fun row => !(row.customer == customer && row.isPaid shop.db.bookings)).filter
      (·.customer == customer) = shop.cart.rows.filter (·.customer == customer) := by
    rw [List.filter_filter]
    refine List.filter_congr fun row member => ?_
    by_cases own : row.customer = customer
    · simp [own, CartItem.isPaid, unbooked row member own]
    · simp [own]
  rw [UniqueTable.remove, keepsAll] at lines
  refine accepted_mapM_map (fun row member line isLine => ?_) lines
  simp only [List.mem_filter, beq_iff_eq] at member
  have charged := cartLine_charged shop.db (unbooked row member.1 member.2)
  rw [isLine] at charged
  exact charged.symm

end

theorem chargesAsShown (settings : CheckoutSettings) (shop : Shop) : ChargesAsShown settings shop where
  priced := unbookedLine_charged
  row := by
    intro row unlinked now customer request bookingId next sameAsked created
    obtain ⟨booking, isLast, bookings, _, charged⟩ := createBooking_charged created
    rw [sameAsked, ← cartLine_charged shop.db unlinked] at charged
    cases shown : cartLine shop.db row with
    | error error =>
        rw [shown] at charged
        cases charged
    | ok line =>
        rw [shown] at charged
        have same := Prod.mk.inj (Option.some.inj charged)
        refine ⟨line, booking, rfl, ?_, same⟩
        rw [bookings, isLast]
        exact List.getElem?_concat_length
  cart := by
    intro request cart isOpen unbooked selectsAll shown after answer next displayed posted
    obtain ⟨selections, made, checkouts, response, valid, selected, answered⟩ := post_open cart isOpen posted
    have distinct := cartCheckoutSerializer_distinct valid
    obtain ⟨bookingIds, created, _⟩ := (checkoutSelections_batched distinct selected).booked
    obtain ⟨bookings, appended, _, charged⟩ := createBookings_charged created
    obtain ⟨lines, total, advanceTotal⟩ := cartResponse_shown unbooked displayed
    have sameDb : next.db = made.db := by
      rw [cartResponse_accepted answered]
      rfl
    have same := (unlinked_perm unbooked distinct (selectsAll selections valid)).map shop.db.charge
    simp only [List.map_map, Function.comp_def] at same
    rw [charged, lines] at same
    have pairs : (bookings.map Booking.charged).Perm (shown.items.map CartLine.charged) := by
      apply (List.map_perm_map_iff (Option.some_injective _)).mp
      rw [List.map_map, List.map_map]
      exact same
    refine ⟨bookings, by rw [sameDb, appended], ?_, ?_⟩
    · have prices := (pairs.map Prod.fst).sum_eq
      rw [List.map_map, List.map_map] at prices
      rw [total]
      exact prices.symm
    · have advances := (pairs.map Prod.snd).sum_eq
      rw [List.map_map, List.map_map] at advances
      rw [advanceTotal]
      exact advances.symm

example : (cartResponse 0 filledShop).toOption.map (·.1.total) = some 200000 ∧
    (filledShop.post sampleCheckoutSettings (samplePost .cartCheckout mixedPayload)).2.db.bookings.map
      Booking.totalAmount = [100000, 100000] := by
  decide +kernel

end PsCore
