import PsCore.Carts

/-!
The rows of the carts: how many a customer has, what they hold, and which of them an answer shows. The
requests come with the data that the serializers check.
-/

namespace PsCore

open Fallible RowTable TransitionRun

/-- The data of a request to add; the keys of both tables are read as the services that they name. -/
structure CartAddData where
  serviceIds : List ServiceId
  merge : Bool
  bookingIds : List (ServiceId × BookingId)
  quantities : List (ServiceId × Int)
  deriving DecidableEq, Repr

def quantityErrors (field : String) (quantity : Int) : FieldErrors :=
  if quantity < 1 then [(field, "Ensure this value is greater than or equal to 1.")]
  else if 20 < quantity then [(field, "Ensure this value is less than or equal to 20.")]
  else []

def serviceIdsErrors (serviceIds : List ServiceId) : FieldErrors :=
  if serviceIds.length < 1 then [("service_ids", "Ensure this field has at least 1 elements.")]
  else if 100 < serviceIds.length then [("service_ids", "Ensure this field has no more than 100 elements.")]
  else []

def cartAddSerializer (data : CartAddData) : Except ServiceError CartAdd := do
  let errors := serviceIdsErrors data.serviceIds ++
    data.quantities.flatMap fun entry => quantityErrors ("quantities." ++ toString entry.1) entry.2
  require (errors = []) (.fieldValidation errors)
  pure {
    serviceIds := data.serviceIds
    merge := data.merge
    bookingIds := data.bookingIds
    quantities := data.quantities.map fun entry => (entry.1, entry.2.toNat)
  }

def cartQuantitySerializer (quantity : Int) : Except ServiceError Nat := do
  let errors := quantityErrors "quantity" quantity
  require (errors = []) (.fieldValidation errors)
  pure quantity.toNat

/-! The requests to a shop, and what each of them answers. -/

inductive CartStep
  | operation (op : Op)
  | checkout (request : CheckoutPost)
  | get (customer : UserId)
  | post (now : Instant) (customer : UserId) (data : CartAddData)
  | delete (customer : UserId) (service : ServiceId)
  | patch (customer : UserId) (service : ServiceId) (quantity : Int)

namespace Shop

variable (settings : CheckoutSettings)

def serve (shop : Shop) : CartStep → Except ServiceError (Option CartResponse × Shop)
  | .operation op => .ok (none, { shop with platform := System.step settings.toSettings shop.platform op })
  | .checkout request => do
      let (answer, next) ← shop.handle settings request
      pure (answer.cart, next)
  | .get customer => do
      let (cart, next) ← cartViewGet customer shop
      pure (some cart, next)
  | .post now customer data => do
      let request ← cartAddSerializer data
      let (answer, next) ← cartViewPost now customer request shop
      pure (some answer.cart, next)
  | .delete customer service => do
      let (cart, next) ← cartItemViewDelete customer service shop
      pure (some cart, next)
  | .patch customer service quantity => do
      let quantity ← cartQuantitySerializer quantity
      let (cart, next) ← cartItemViewPatch customer service quantity shop
      pure (some cart, next)

def respond (shop : Shop) (step : CartStep) : Except ServiceError (Option CartResponse) × Shop :=
  shop.commit (shop.serve settings step)

def cartStep (shop : Shop) (step : CartStep) : Shop := (shop.respond settings step).2

end Shop

def BookedFor (db : Db) (customer : UserId) (service : ServiceId) (bookingId : BookingId) : Prop :=
  ∃ booking, db.bookings[bookingId]? = some booking ∧ booking.customer = customer ∧ booking.service = service

structure CartItem.Sound (db : Db) (row : CartItem) : Prop where
  quantity : 1 ≤ row.quantity ∧ row.quantity ≤ 20
  booking : ∀ bookingId, row.booking = some bookingId → BookedFor db row.customer row.service bookingId

def Shop.cartServices (shop : Shop) (customer : UserId) : List ServiceId :=
  (shop.cart.rows.filter (·.customer == customer)).map CartItem.service

structure Shop.CartSound (shop : Shop) : Prop where
  atMost : ∀ customer, (shop.cartServices customer).length ≤ 100
  distinct : ∀ customer, (shop.cartServices customer).Nodup
  rows : ∀ row ∈ shop.cart.rows, row.Sound shop.db
  linkedOnce : ∀ (first second : Nat) (left right : CartItem) bookingId, shop.cart.rows[first]? = some left →
    shop.cart.rows[second]? = some right → left.booking = some bookingId → right.booking = some bookingId →
    first = second

def Booking.isCovered (booking : Booking) : Prop :=
  (booking.paymentStatus = .partiallyPaid ∨ booking.paymentStatus = .paid) ∧
    booking.advanceRequired ≤ booking.advancePaid

def CartResponse.ShowsUncovered (db : Db) (response : CartResponse) : Prop :=
  ∀ line ∈ response.items, ∀ bookingId, line.booking = some bookingId →
    ∃ booking, db.bookings[bookingId]? = some booking ∧ ¬ booking.isCovered

/-! What a request does to the rows. -/

section

variable {shop middle next : Shop} {customer owner : UserId} {service : ServiceId} {services : List ServiceId}

theorem Shop.mem_cartServices :
    service ∈ shop.cartServices customer ↔ ∃ row ∈ shop.cart.rows, row.customer = customer ∧ row.service = service := by
  simp [Shop.cartServices, and_assoc]

theorem BookedFor.kept {db after : Db} {bookingId : BookingId} (booked : BookedFor db customer service bookingId)
    (kept : KeptBy Booking.SameParties db.bookings after.bookings) : BookedFor after customer service bookingId := by
  obtain ⟨booking, found, isCustomer, isService⟩ := booked
  obtain ⟨later, foundLater, sameCustomer, sameService⟩ := kept bookingId booking found
  exact ⟨later, foundLater, sameCustomer.trans isCustomer, sameService.trans isService⟩

theorem CartItem.Sound.kept {db after : Db} {row : CartItem} (sound : row.Sound db)
    (kept : KeptBy Booking.SameParties db.bookings after.bookings) : row.Sound after :=
  ⟨sound.quantity, fun bookingId linked => (sound.booking bookingId linked).kept kept⟩

/-- The rows stay sound, and one customer's rows grow by some services at most. -/
structure CartMove (customer : UserId) (services : List ServiceId) (shop next : Shop) : Prop where
  rows : (∀ row ∈ shop.cart.rows, row.Sound shop.db) → ∀ row ∈ next.cart.rows, row.Sound next.db
  services : ∀ owner service, service ∈ next.cartServices owner →
    service ∈ shop.cartServices owner ∨ owner = customer ∧ service ∈ services

namespace CartMove

theorem refl (customer : UserId) (services : List ServiceId) (shop : Shop) : CartMove customer services shop shop :=
  ⟨id, fun _ _ member => .inl member⟩

theorem trans (first : CartMove customer services shop middle) (second : CartMove customer services middle next) :
    CartMove customer services shop next := by
  refine ⟨fun sound => second.rows (first.rows sound), fun owner service member => ?_⟩
  rcases second.services owner service member with earlier | isAdded
  · exact first.services owner service earlier
  · exact .inr isAdded

theorem ofBookings (cart : next.cart = shop.cart)
    (kept : KeptBy Booking.SameParties shop.db.bookings next.db.bookings) : CartMove customer services shop next := by
  refine ⟨fun sound row member => ?_, fun owner service member => .inl ?_⟩
  · rw [cart] at member
    exact (sound row member).kept kept
  · rw [Shop.mem_cartServices, cart] at member
    exact Shop.mem_cartServices.mpr member

theorem removed (accept : CartItem → Bool) :
    CartMove customer services shop { shop with cart := shop.cart.remove accept } := by
  refine ⟨fun sound row member => sound row (List.mem_of_mem_filter member), fun owner service member => .inl ?_⟩
  obtain ⟨row, present, isOf⟩ := Shop.mem_cartServices.mp member
  exact Shop.mem_cartServices.mpr ⟨row, List.mem_of_mem_filter present, isOf⟩

theorem inserted {row : CartItem} {cart : CartTable} (stored : shop.cart.insert? row = some cart)
    (sound : row.Sound shop.db) (own : row.customer = customer) (asked : row.service ∈ services) :
    CartMove customer services shop { shop with cart := cart } := by
  have rows := (UniqueTable.insert?_some stored).1
  refine ⟨fun earlier other member => ?_, fun owner service member => ?_⟩
  · rw [rows, List.mem_append, List.mem_singleton] at member
    rcases member with old | isRow
    · exact earlier other old
    · rw [isRow]
      exact sound
  · obtain ⟨other, present, isOwner, isService⟩ := Shop.mem_cartServices.mp member
    rw [rows, List.mem_append, List.mem_singleton] at present
    rcases present with old | isRow
    · exact .inl (Shop.mem_cartServices.mpr ⟨other, old, isOwner, isService⟩)
    · subst isRow
      exact .inr ⟨isOwner.symm.trans own, isService ▸ asked⟩

theorem replaced {key : Nat} {old row : CartItem} {cart : CartTable} (stored : shop.cart.replace? key row = some cart)
    (found : shop.cart.rows[key]? = some old) (sameCustomer : row.customer = old.customer)
    (sameService : row.service = old.service) (sound : old.Sound shop.db → row.Sound shop.db) :
    CartMove customer services shop { shop with cart := cart } := by
  have rows := UniqueTable.replace?_some stored
  have isOld := List.mem_of_getElem? found
  refine ⟨fun earlier other member => ?_, fun owner service member => .inl ?_⟩
  · rw [rows] at member
    rcases List.mem_or_eq_of_mem_set member with present | isRow
    · exact earlier other present
    · rw [isRow]
      exact sound (earlier old isOld)
  · obtain ⟨other, present, isOwner, isService⟩ := Shop.mem_cartServices.mp member
    rw [rows] at present
    rcases List.mem_or_eq_of_mem_set present with earlier | isRow
    · exact Shop.mem_cartServices.mpr ⟨other, earlier, isOwner, isService⟩
    · subst isRow
      exact Shop.mem_cartServices.mpr
        ⟨old, isOld, sameCustomer.symm.trans isOwner, sameService.symm.trans isService⟩

end CartMove

theorem cartServices_length_le (subset : ∀ service ∈ shop.cartServices customer, service ∈ services) :
    (shop.cartServices customer).length ≤ services.length :=
  (List.Nodup.subperm (cartServices_nodup shop customer) subset).length_le

theorem createBooking_bookedFor {now : Instant} {request : BookingRequest} {db made : Db} {bookingId : BookingId}
    (accepted : createBooking now customer request db = .ok (bookingId, made)) :
    BookedFor made customer request.serviceId bookingId := by
  obtain ⟨_, _, _, _, _, _, _, booking, _, _, _, _, rfl, rfl, rfl⟩ := createBooking_made accepted
  exact ⟨_, List.getElem?_concat_length, rfl, rfl⟩

theorem createBooking_move {now : Instant} {request : BookingRequest} {made : Db} {bookingId : BookingId}
    (accepted : createBooking now owner request shop.db = .ok (bookingId, made)) :
    CartMove customer services shop (shop.withDb made) := by
  obtain ⟨_, _, _, _, _, _, _, booking, _, _, _, _, _, _, rfl⟩ := createBooking_made accepted
  exact .ofBookings rfl (.append (fun _ => ⟨rfl, rfl⟩) _ _)

theorem checkoutSelection_move {now : Instant} {selection : BookingRequest} {bookingId : BookingId}
    (accepted : checkoutSelection now customer selection shop = .ok (bookingId, next)) :
    CartMove customer services shop next := by
  obtain ⟨key, row, first, either⟩ := checkoutSelection_accepted accepted
  obtain ⟨found, isOf⟩ := firstRow_some first
  simp only [CartItem.isOf, Bool.and_eq_true, beq_iff_eq] at isOf
  rcases either with ⟨_, _, _, _, rfl⟩ | ⟨made, cart, _, created, stored, rfl⟩
  · exact .refl ..
  · have linked : CartMove customer services (shop.withDb made) { shop.withDb made with cart := cart } := by
      refine .replaced stored found rfl rfl fun sound => ⟨sound.quantity, fun linkedId isLinked => ?_⟩
      rw [Option.some.injEq] at isLinked
      subst isLinked
      have booked := createBooking_bookedFor created
      rw [isOf.1, isOf.2]
      exact booked
    exact (createBooking_move created).trans linked

theorem checkoutSelections_move {now : Instant} {selections : List BookingRequest} {bookings : List BookingId}
    (accepted : checkoutSelections now customer selections shop = .ok (bookings, next)) :
    CartMove customer services shop next := by
  induction selections generalizing shop bookings with
  | nil =>
      simp only [checkoutSelections, Except.ok.injEq, Prod.mk.injEq] at accepted
      rw [accepted.2]
      exact .refl ..
  | cons selection rest ih =>
      simp only [checkoutSelections, accepted_bind, accepted_pure, Prod.mk.injEq] at accepted
      obtain ⟨⟨bookingId, middle⟩, first, ⟨others, last⟩, remaining, _, rfl⟩ := accepted
      exact (checkoutSelection_move first).trans (ih remaining)

theorem getOrCreateCartItem_move {cart : CartTable} {key : Nat} {row : CartItem} (asked : service ∈ services)
    (accepted : getOrCreateCartItem customer service shop.cart = .ok (key, row, cart)) :
    CartMove customer services shop { shop with cart := cart } ∧ cart.rows[key]? = some row ∧
      row.customer = customer ∧ row.service = service := by
  unfold getOrCreateCartItem at accepted
  split at accepted
  · rename_i first
    simp only [Except.ok.injEq, Prod.mk.injEq] at accepted
    obtain ⟨rfl, rfl, rfl⟩ := accepted
    obtain ⟨found, isOf⟩ := firstRow_some first
    simp only [CartItem.isOf, Bool.and_eq_true, beq_iff_eq] at isOf
    exact ⟨.refl .., found, isOf⟩
  · simp only [accepted_bind, accepted_orRaise, accepted_pure, Prod.mk.injEq] at accepted
    obtain ⟨created, stored, rfl, rfl, rfl⟩ := accepted
    refine ⟨.inserted stored ⟨⟨Nat.le_refl 1, (by decide : 1 ≤ 20)⟩, fun bookingId linked => ?_⟩ rfl asked, ?_, rfl, rfl⟩
    · cases linked
    · rw [(UniqueTable.insert?_some stored).1]
      exact List.getElem?_concat_length

def CartAdd.InRange (request : CartAdd) : Prop :=
  ∀ entry ∈ request.quantities, 1 ≤ entry.2 ∧ entry.2 ≤ 20

theorem requantified_sound {request : CartAdd} (inRange : request.InRange) {db : Db} {row : CartItem}
    (sound : row.Sound db) : (row.requantified request).Sound db := by
  unfold CartItem.requantified
  split
  · rename_i quantity asked
    split
    · obtain ⟨_, _, entries, _⟩ := List.lookup_eq_some_iff.mp asked
      exact ⟨inRange (row.service, quantity) (by simp [entries]), sound.booking⟩
    · exact sound
  · exact sound

theorem addCartService_move {now : Instant} {user : User} {request : CartAdd} (inRange : request.InRange)
    (asked : service ∈ services)
    (accepted : addCartService now customer user request shop service = .ok next) :
    CartMove customer services shop next := by
  simp only [addCartService, accepted_bind, accepted_orRaise, accepted_pure] at accepted
  obtain ⟨⟨key, row, cart⟩, got, ⟨_, leads⟩, _, linked, isLinked, after, stored, rfl⟩ := accepted
  obtain ⟨added, found, own, isService⟩ := getOrCreateCartItem_move asked got
  have noted : CartMove customer services { shop with cart := cart }
      { shop.withDb { shop.db with leads := leads } with cart := cart } :=
    .ofBookings rfl (.refl (fun _ => ⟨rfl, rfl⟩) _)
  obtain ⟨sameCustomer, sameService, _⟩ := requantified_same request row
  refine (added.trans noted).trans ?_
  rcases linked_cases isLinked with rfl | ⟨bookingId, booking, rfl, present, isCustomer, isOfService⟩
  · exact .replaced stored found sameCustomer sameService fun sound => requantified_sound inRange sound
  · refine .replaced stored found sameCustomer sameService fun sound =>
      ⟨(requantified_sound inRange sound).quantity, fun linkedId isLinked => ?_⟩
    rw [Option.some.injEq] at isLinked
    subst isLinked
    exact ⟨booking, present, isCustomer.trans (sameCustomer.trans own).symm, isOfService⟩

theorem addCartServices_move {now : Instant} {user : User} {request : CartAdd} (inRange : request.InRange)
    {taken : List ServiceId} (asked : ∀ service ∈ taken, service ∈ services)
    (accepted : taken.foldlM (addCartService now customer user request) shop = .ok next) :
    CartMove customer services shop next := by
  induction taken generalizing shop with
  | nil =>
      simp only [List.foldlM_nil, accepted_pure] at accepted
      rw [accepted]
      exact .refl ..
  | cons service rest ih =>
      simp only [List.foldlM_cons, accepted_bind] at accepted
      obtain ⟨middle, first, remaining⟩ := accepted
      rw [List.forall_mem_cons] at asked
      exact (addCartService_move inRange asked.1 first).trans (ih asked.2 remaining)

/-- What an answer shows besides what the request does. -/
structure CartServed (customer : UserId) (services : List ServiceId) (shop : Shop) (answer : Option CartResponse)
    (next : Shop) : Prop extends CartMove customer services shop next where
  shows : (∀ row ∈ shop.cart.rows, row.Sound shop.db) →
    ∀ response, answer = some response → response.ShowsUncovered next.db

theorem CartMove.served (move : CartMove customer services shop next) :
    CartServed customer services shop none next :=
  ⟨move, nofun⟩

theorem CartServed.after {answer : Option CartResponse} (served : CartServed customer services middle answer next)
    (move : CartMove customer services shop middle) : CartServed customer services shop answer next :=
  ⟨move.trans served.toCartMove, fun sound => served.shows (move.rows sound)⟩

theorem cartLine_booking {db : Db} {row : CartItem} {line : CartLine} (accepted : cartLine db row = .ok line) :
    row.booking = line.booking := by
  simp only [cartLine, accepted_bind] at accepted
  obtain ⟨service, _, accepted⟩ := accepted
  cases linked : row.booking with
  | some bookingId =>
      simp only [linked, accepted_bind, accepted_pure] at accepted
      obtain ⟨booking, _, rfl⟩ := accepted
      rfl
  | none =>
      simp only [linked, unbookedLine] at accepted
      split at accepted
      · simp only [accepted_bind, accepted_pure] at accepted
        obtain ⟨_, _, _, _, rfl⟩ := accepted
        rfl
      · simp only [accepted_bind, accepted_pure] at accepted
        obtain ⟨_, _, rfl⟩ := accepted
        rfl

theorem isPaid_of_covered {row : CartItem} {bookings : List Booking} {bookingId : BookingId} {booking : Booking}
    (linked : row.booking = some bookingId) (found : bookings[bookingId]? = some booking)
    (covered : booking.isCovered) : row.isPaid bookings = true := by
  obtain ⟨status, advance⟩ := covered
  simp [CartItem.isPaid, linked, found, status, advance]

theorem cartResponse_served {response : CartResponse} (accepted : cartResponse customer shop = .ok (response, next)) :
    CartServed customer services shop (some response) next := by
  simp only [cartResponse, accepted_bind, accepted_pure, Prod.mk.injEq] at accepted
  obtain ⟨items, listed, rfl, rfl⟩ := accepted
  refine ⟨.removed _, fun sound shown isShown line member bookingId linked => ?_⟩
  cases isShown
  have bookings := accepted_mapM_map (fun row _ line isLine => cartLine_booking isLine) listed
  have isLinked : some bookingId ∈ items.map CartLine.booking := linked ▸ List.mem_map_of_mem member
  rw [← bookings] at isLinked
  obtain ⟨row, isRow, rowLinked⟩ := List.mem_map.mp isLinked
  obtain ⟨remains, own⟩ := List.mem_filter.mp isRow
  obtain ⟨present, unpaid⟩ := List.mem_filter.mp remains
  obtain ⟨booking, found, _⟩ := (sound row present).booking bookingId rowLinked
  refine ⟨booking, found, fun covered => ?_⟩
  simp [own, isPaid_of_covered rowLinked found covered] at unpaid

section

variable {settings : CheckoutSettings} {answer : CheckoutAnswer} {response : CartResponse} {header : String}
  {payload : Payload} {now : Instant}

theorem bookingViewSetCreate_served
    (accepted : bookingViewSetCreate settings now customer header payload shop = .ok (answer, next)) :
    CartServed customer services shop answer.cart next := by
  simp only [bookingViewSetCreate, accepted_bind] at accepted
  obtain ⟨request, _, key, _, user, _, begun, _, accepted⟩ := accepted
  cases restored : begun.bookings with
  | cons previous later =>
      simp only [restored, accepted_pure, Prod.mk.injEq] at accepted
      obtain ⟨rfl, rfl⟩ := accepted
      have kept : CartMove customer services shop { shop with checkouts := begun.checkouts } :=
        .ofBookings rfl (.refl (fun _ => ⟨rfl, rfl⟩) _)
      exact kept.served
  | nil =>
      simp only [restored, accepted_bind, accepted_pure, Prod.mk.injEq] at accepted
      obtain ⟨⟨bookingId, made⟩, created, checkouts, _, rfl, rfl⟩ := accepted
      have booked : CartMove customer services shop (shop.withDb made) := createBooking_move created
      exact CartMove.served ⟨booked.rows, booked.services⟩

theorem cartCheckoutViewPost_served
    (accepted : cartCheckoutViewPost settings now customer header payload shop = .ok (answer, next)) :
    CartServed customer services shop answer.cart next := by
  simp only [cartCheckoutViewPost, accepted_bind] at accepted
  obtain ⟨selections, _, user, _, key, _, begun, _, accepted⟩ := accepted
  cases restored : begun.bookings with
  | cons previous later =>
      simp only [restored, accepted_bind, accepted_pure, Prod.mk.injEq] at accepted
      obtain ⟨⟨cart, last⟩, shown, rfl, rfl⟩ := accepted
      exact (cartResponse_served shown).after (.ofBookings rfl (.refl (fun _ => ⟨rfl, rfl⟩) _))
  | nil =>
      simp only [restored, accepted_bind, accepted_pure, Prod.mk.injEq] at accepted
      obtain ⟨⟨bookings, made⟩, selected, checkouts, _, ⟨cart, last⟩, shown, rfl, rfl⟩ := accepted
      have move : CartMove customer services shop made := checkoutSelections_move selected
      exact (cartResponse_served shown).after ⟨move.rows, move.services⟩

theorem cartViewPost_served {request : CartAdd} (inRange : request.InRange) {added : CartAnswer}
    (accepted : cartViewPost now customer request shop = .ok (added, next)) :
    ∃ services, (shop.cartServices customer ++ services).dedup.length ≤ 100 ∧
      CartServed customer services shop (some added.cart) next := by
  simp only [cartViewPost, accepted_bind, accepted_require, accepted_pure, Prod.mk.injEq] at accepted
  obtain ⟨user, _, _, _, _, atMost, filled, isFilled, ⟨cart, last⟩, shown, rfl, rfl⟩ := accepted
  exact ⟨_, atMost, (cartResponse_served shown).after (addCartServices_move inRange (fun _ => id) isFilled)⟩

theorem cartItemViewPatch_served {quantity : Nat} (inRange : 1 ≤ quantity ∧ quantity ≤ 20)
    (accepted : cartItemViewPatch customer service quantity shop = .ok (response, next)) :
    CartServed customer services shop (some response) next := by
  simp only [cartItemViewPatch, accepted_bind, accepted_orRaise, accepted_require] at accepted
  obtain ⟨_, _, ⟨key, row⟩, first, _, _, cart, stored, shown⟩ := accepted
  exact (cartResponse_served shown).after
    (.replaced stored (firstRow_some first).1 rfl rfl fun sound => ⟨inRange, sound.booking⟩)

end

theorem quantityErrors_none {field : String} {quantity : Int} :
    quantityErrors field quantity = [] ↔ 1 ≤ quantity.toNat ∧ quantity.toNat ≤ 20 := by
  unfold quantityErrors
  split
  · simp
    omega
  · split
    · simp
      omega
    · simp
      omega

theorem cartAddSerializer_inRange {data : CartAddData} {request : CartAdd}
    (accepted : cartAddSerializer data = .ok request) : request.InRange := by
  simp only [cartAddSerializer, accepted_bind, accepted_require, accepted_pure, List.append_eq_nil_iff,
    List.flatMap_eq_nil_iff] at accepted
  obtain ⟨_, ⟨_, noErrors⟩, rfl⟩ := accepted
  intro entry member
  obtain ⟨given, isGiven, rfl⟩ := List.mem_map.mp member
  exact quantityErrors_none.mp (noErrors given isGiven)

/-- What the requests keep; the tables see to the rest. -/
structure CartKept (shop : Shop) : Prop where
  atMost : ∀ customer, (shop.cartServices customer).length ≤ 100
  rows : ∀ row ∈ shop.cart.rows, row.Sound shop.db

theorem CartKept.initial (initial : shop.Initial) : CartKept shop := by
  have none := initial.cart
  refine ⟨fun customer => ?_, fun row member => ?_⟩
  · rw [Shop.cartServices, none]
    exact Nat.zero_le 100
  · rw [none] at member
    cases member

theorem CartKept.sound (kept : CartKept shop) : shop.CartSound := by
  refine ⟨kept.atMost, cartServices_nodup shop, kept.rows, ?_⟩
  intro first second left right bookingId isFirst isSecond linkedFirst linkedSecond
  refine Decidable.byContradiction fun differ => ?_
  have symmetric (one other : CartItem) (clash : one.clashes other = true) : other.clashes one = true := by
    simp only [CartItem.clashes, CartItem.isOf, Bool.or_eq_true, Bool.and_eq_true, beq_iff_eq] at clash ⊢
    rcases clash with ⟨sameCustomer, sameService⟩ | ⟨linked, same⟩
    · exact .inl ⟨sameCustomer.symm, sameService.symm⟩
    · exact .inr ⟨same ▸ linked, same.symm⟩
  refine UniqueTable.apart symmetric shop.cart isFirst isSecond differ ?_
  simp [CartItem.clashes, linkedFirst, linkedSecond]

theorem CartKept.unadded (kept : CartKept shop) (customer : UserId) :
    (shop.cartServices customer ++ []).dedup.length ≤ 100 := by
  rw [List.append_nil]
  exact (List.dedup_sublist _).length_le.trans (kept.atMost customer)

theorem CartKept.move (kept : CartKept shop) (move : CartMove customer services shop next)
    (atMost : (shop.cartServices customer ++ services).dedup.length ≤ 100) : CartKept next := by
  refine ⟨fun owner => ?_, move.rows kept.rows⟩
  by_cases own : owner = customer
  · subst own
    refine (cartServices_length_le fun service member => ?_).trans atMost
    rw [List.mem_dedup, List.mem_append]
    rcases move.services owner service member with earlier | ⟨_, added⟩
    · exact .inl earlier
    · exact .inr added
  · refine (cartServices_length_le fun service member => ?_).trans (kept.atMost owner)
    rcases move.services owner service member with earlier | ⟨isCustomer, _⟩
    · exact earlier
    · exact absurd isCustomer own

variable {settings : CheckoutSettings} {step : CartStep}

theorem serve_served {answer : Option CartResponse} (kept : CartKept shop)
    (accepted : shop.serve settings step = .ok (answer, next)) :
    ∃ customer services, (shop.cartServices customer ++ services).dedup.length ≤ 100 ∧
      CartServed customer services shop answer next := by
  cases step with
  | operation op =>
      simp only [Shop.serve, Except.ok.injEq, Prod.mk.injEq] at accepted
      obtain ⟨rfl, rfl⟩ := accepted
      have bookings := (step_leaves settings.toSettings shop.platform op).partiesKept
      have move : CartMove 0 [] shop { shop with platform := System.step settings.toSettings shop.platform op } :=
        .ofBookings rfl bookings
      exact ⟨0, [], kept.unadded 0, move.served⟩
  | checkout request =>
      simp only [Shop.serve, accepted_bind, accepted_pure, Prod.mk.injEq] at accepted
      obtain ⟨⟨answer, last⟩, handled, rfl, rfl⟩ := accepted
      refine ⟨request.customer, [], kept.unadded _, ?_⟩
      unfold Shop.handle at handled
      split at handled
      · exact bookingViewSetCreate_served handled
      · exact cartCheckoutViewPost_served handled
  | get customer =>
      simp only [Shop.serve, cartViewGet, accepted_bind, accepted_pure, Prod.mk.injEq] at accepted
      obtain ⟨⟨cart, last⟩, ⟨_, _, shown⟩, rfl, rfl⟩ := accepted
      exact ⟨customer, [], kept.unadded customer, cartResponse_served shown⟩
  | post now customer data =>
      simp only [Shop.serve, accepted_bind, accepted_pure, Prod.mk.injEq] at accepted
      obtain ⟨request, valid, ⟨added, last⟩, accepted, rfl, rfl⟩ := accepted
      obtain ⟨services, atMost, served⟩ := cartViewPost_served (cartAddSerializer_inRange valid) accepted
      exact ⟨customer, services, atMost, served⟩
  | delete customer service =>
      simp only [Shop.serve, cartItemViewDelete, accepted_bind, accepted_pure, Prod.mk.injEq] at accepted
      obtain ⟨⟨cart, last⟩, ⟨_, _, shown⟩, rfl, rfl⟩ := accepted
      exact ⟨customer, [], kept.unadded customer, (cartResponse_served shown).after (.removed _)⟩
  | patch customer service quantity =>
      simp only [Shop.serve, cartQuantitySerializer, accepted_bind, accepted_require, accepted_pure,
        Prod.mk.injEq] at accepted
      obtain ⟨_, ⟨_, valid, rfl⟩, ⟨cart, last⟩, patched, rfl, rfl⟩ := accepted
      exact ⟨customer, [], kept.unadded customer, cartItemViewPatch_served (quantityErrors_none.mp valid) patched⟩

theorem cartStep_kept (kept : CartKept shop) : CartKept (shop.cartStep settings step) := by
  unfold Shop.cartStep Shop.respond Shop.commit
  split
  · rename_i answer next accepted
    obtain ⟨customer, services, atMost, served⟩ := serve_served kept accepted
    exact kept.move served.toCartMove atMost
  · exact kept

theorem respond_shows (kept : CartKept shop) {response : CartResponse}
    (answered : (shop.respond settings step).1 = .ok (some response)) :
    response.ShowsUncovered (shop.respond settings step).2.db := by
  unfold Shop.respond Shop.commit at answered ⊢
  split at answered
  · rename_i answer next accepted
    obtain ⟨customer, services, _, served⟩ := serve_served kept accepted
    exact served.shows kept.rows response (Except.ok.inj answered)
  · cases answered

theorem cartKept_run (initial : shop.Initial) (steps : List CartStep) :
    CartKept (runAll (Shop.cartStep settings) shop steps) := by
  have guarded : Guarded (Shop.cartStep settings) (fun _ _ => True) shop steps :=
    .always (fun _ _ => trivial) shop steps
  exact guarded.invariant (fun _ _ kept _ => cartStep_kept kept) (.initial initial)

/-- In every reachable state the carts are sound, and no answer shows a row whose booking is covered. -/
theorem cartSound_run (initial : shop.Initial) (steps : List CartStep) :
    (runAll (Shop.cartStep settings) shop steps).CartSound ∧
      ∀ step response, ((runAll (Shop.cartStep settings) shop steps).respond settings step).1 = .ok (some response) →
        response.ShowsUncovered ((runAll (Shop.cartStep settings) shop steps).respond settings step).2.db :=
  ⟨(cartKept_run initial steps).sound, fun _ _ answered => respond_shows (cartKept_run initial steps) answered⟩

def sampleCartData : CartAddData where
  serviceIds := [0, 1]
  merge := false
  bookingIds := []
  quantities := [(1, 20)]

theorem cartSound_run_sample :
    ((runAll (Shop.cartStep sampleCheckoutSettings) sampleShop [.post sampleNow 0 sampleCartData,
      .patch 0 0 21, .checkout (samplePost .cartCheckout samplePayload)]).cart.rows.map fun row =>
        (row.service, row.quantity, row.booking)) = [(0, 1, some 0), (1, 20, none)] ∧
    (runAll (Shop.cartStep sampleCheckoutSettings) sampleShop [.post sampleNow 0 sampleCartData,
      .patch 0 0 21, .checkout (samplePost .cartCheckout samplePayload)]).CartSound :=
  ⟨by decide +kernel, (cartSound_run sampleShop_initial _).1⟩

end

end PsCore
