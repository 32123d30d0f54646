import PsCore.CheckoutCore
import PsCore.Records

/-!
What requests leave of the platform and of the carts. To the platform they do what its operations
do, and the rows that a cart refers to stay.
-/

namespace PsCore

open Fallible RowTable TransitionRun

/-- No user and no service is deleted. -/
def Op.keepsRows (state : System) : Op → Bool
  | .editDirectory directory => state.db.directory.users.length ≤ directory.users.length &&
      state.db.directory.services.length ≤ directory.services.length
  | _ => true

structure RowsKept (db next : Db) : Prop where
  users : db.directory.users.length ≤ next.directory.users.length
  services : db.directory.services.length ≤ next.directory.services.length
  bookings : KeptBy (fun before after : Booking => after.customer = before.customer) db.bookings next.bookings

theorem RowsKept.refl (db : Db) : RowsKept db db :=
  ⟨Nat.le_refl _, Nat.le_refl _, fun _ booking found => ⟨booking, found, rfl⟩⟩

theorem RowsKept.trans {first middle last : Db} (earlier : RowsKept first middle) (later : RowsKept middle last) :
    RowsKept first last := by
  refine ⟨Nat.le_trans earlier.users later.users, Nat.le_trans earlier.services later.services, ?_⟩
  intro bookingId booking found
  obtain ⟨between, foundBetween, sameCustomer⟩ := earlier.bookings bookingId booking found
  obtain ⟨after, foundAfter, sameAgain⟩ := later.bookings bookingId between foundBetween
  exact ⟨after, foundAfter, sameAgain.trans sameCustomer⟩

/-- No write changes whose a booking is, or of which service. -/
def Booking.SameParties (before after : Booking) : Prop :=
  after.customer = before.customer ∧ after.service = before.service

theorem JobStep.sameParties {before after : Booking} (step : JobStep before after) : before.SameParties after := by
  cases step <;> exact ⟨rfl, rfl⟩

theorem Effect.Rewrites.sameParties {effect : Effect} {bookingId : BookingId} {before after : Booking}
    (rewrites : effect.Rewrites bookingId before after) : before.SameParties after := by
  cases rewrites with
  | failure locked payments =>
      unfold Booking.markedFailed
      split <;> exact ⟨rfl, rfl⟩
  | refund settlement =>
      unfold Booking.afterRefund
      split
      · exact ⟨rfl, rfl⟩
      · split
        · exact ⟨rfl, rfl⟩
        · split <;> exact ⟨rfl, rfl⟩
  | _ => exact ⟨rfl, rfl⟩

section

variable {settings : Settings} {state : System} {op : Op} {next : Db}

theorem BookingWritten.sameParties {bookingId : BookingId} {before after : Booking}
    (written : BookingWritten settings state op bookingId before after) : before.SameParties after := by
  cases written with
  | jobStep step => exact step.sameParties
  | moved now slotId changedBy notes slot isOp from_ foundSlot => exact ⟨rfl, rfl⟩
  | assigned technician slot from_ foundSlot free => exact ⟨rfl, rfl⟩
  | removed now changedBy notes isOp => exact ⟨rfl, rfl⟩
  | effective effect isEffect rewrites => exact rewrites.sameParties

theorem Leaves.partiesKept (leaves : Leaves settings state op next) :
    KeptBy Booking.SameParties state.db.bookings next.bookings :=
  leaves.bookings_kept (fun _ => ⟨rfl, rfl⟩) fun _ _ _ written => written.sameParties

theorem Leaves.rowsKept (leaves : Leaves settings state op next) (keeps : op.keepsRows state = true) :
    RowsKept state.db next := by
  have bookings : KeptBy (fun before after : Booking => after.customer = before.customer) state.db.bookings
      next.bookings := by
    intro bookingId booking found
    obtain ⟨after, foundAfter, same⟩ := leaves.partiesKept bookingId booking found
    exact ⟨after, foundAfter, same.1⟩
  rcases leaves.directory_cases with extended | ⟨directory, rfl, written⟩
  · exact ⟨extended.users, Nat.le_of_eq (by rw [extended.services]), bookings⟩
  · subst written
    simp only [Op.keepsRows, Bool.and_eq_true, decide_eq_true_eq] at keeps
    exact ⟨keeps.1, keeps.2, bookings⟩

end

def BookedBy (db : Db) (customer : UserId) (bookingId : BookingId) : Prop :=
  ∃ booking, db.bookings[bookingId]? = some booking ∧ booking.customer = customer

theorem RowsKept.bookedBy {db next : Db} (kept : RowsKept db next) {customer : UserId} {bookingId : BookingId}
    (booked : BookedBy db customer bookingId) : BookedBy next customer bookingId := by
  obtain ⟨booking, found, own⟩ := booked
  obtain ⟨after, foundAfter, sameCustomer⟩ := kept.bookings bookingId booking found
  exact ⟨after, foundAfter, sameCustomer.trans own⟩

def Op.isRoutine : Op → Bool
  | .createBooking _ _ _ => true
  | .upsertLead _ _ => true
  | _ => false

def Reaches (settings : Settings) (platform next : System) : Prop :=
  ∃ ops : List Op, (∀ op ∈ ops, op.isRoutine = true) ∧ next = runAll (System.step settings) platform ops

namespace Reaches

variable {settings : Settings} {platform middle next : System}

theorem refl (settings : Settings) (platform : System) : Reaches settings platform platform :=
  ⟨[], List.forall_mem_nil _, rfl⟩

theorem trans (first : Reaches settings platform middle) (second : Reaches settings middle next) :
    Reaches settings platform next := by
  obtain ⟨earlier, routineEarlier, rfl⟩ := first
  obtain ⟨later, routineLater, rfl⟩ := second
  refine ⟨earlier ++ later, fun op member => ?_, (runAll_append ..).symm⟩
  rcases List.mem_append.mp member with isEarlier | isLater
  · exact routineEarlier op isEarlier
  · exact routineLater op isLater

theorem single {op : Op} (routine : op.isRoutine = true) :
    Reaches settings platform (System.step settings platform op) :=
  ⟨[op], by simpa using routine, rfl⟩

theorem rowsKept (reaches : Reaches settings platform next) : RowsKept platform.db next.db := by
  obtain ⟨ops, routine, rfl⟩ := reaches
  have guarded : Guarded (System.step settings) (fun _ op => op.isRoutine = true) platform ops :=
    .of_forall routine
  have preserved : ∀ (state : System) (op : Op), RowsKept platform.db state.db → op.isRoutine = true →
      RowsKept platform.db (System.step settings state op).db := by
    intro state op kept isRoutine
    have keeps : op.keepsRows state = true := by
      cases op <;> first | rfl | cases isRoutine
    exact kept.trans ((step_leaves settings state op).rowsKept keeps)
  exact guarded.invariant preserved (.refl _)

end Reaches

theorem createBooking_reaches (settings : Settings) {now : Instant} {customer : UserId} {request : BookingRequest}
    {shop : Shop} {bookingId : BookingId} {next : Db}
    (accepted : createBooking now customer request shop.db = .ok (bookingId, next)) :
    Reaches settings shop.platform (shop.withDb next).platform := by
  have stepped : System.step settings shop.platform (.createBooking now customer request) =
      (shop.withDb next).platform := by
    simp only [Shop.db] at accepted
    simp only [System.step, System.commit, accepted, commit, Shop.withDb]
  rw [← stepped]
  exact .single rfl

theorem upsertLead_reaches (settings : Settings) {now : Instant} {event : LeadEvent} {shop : Shop}
    {leadId : LeadId} {leads : List Lead} (accepted : upsertLead now shop.db.leads event = .ok (leadId, leads)) :
    Reaches settings shop.platform (shop.withDb { shop.db with leads := leads }).platform := by
  have stepped : System.step settings shop.platform (.upsertLead now event) =
      (shop.withDb { shop.db with leads := leads }).platform := by
    simp only [Shop.db] at accepted
    simp only [System.step, System.write, accepted, Shop.withDb, Shop.db]
  rw [← stepped]
  exact .single rfl

theorem createBooking_bookedBy {now : Instant} {customer : UserId} {request : BookingRequest} {db next : Db}
    {bookingId : BookingId} (accepted : createBooking now customer request db = .ok (bookingId, next)) :
    BookedBy next customer bookingId := by
  obtain ⟨_, _, _, _, _, _, _, booking, _, _, _, _, rfl, rfl, rfl⟩ := createBooking_made accepted
  exact ⟨_, List.getElem?_concat_length, rfl⟩

/-! Carts. -/

theorem cartServices_nodup (shop : Shop) (customer : UserId) :
    ((shop.cart.rows.filter (·.customer == customer)).map CartItem.service).Nodup := by
  refine List.pairwise_map.mpr ((shop.cart.distinct.filter _).imp_of_mem ?_)
  intro first second isFirst isSecond apart sameService
  have ofFirst := (List.mem_filter.mp isFirst).2
  have ofSecond := (List.mem_filter.mp isSecond).2
  apply apart
  simp only [beq_iff_eq] at ofFirst ofSecond
  simp [CartItem.clashes, CartItem.isOf, ofFirst, ofSecond, sameService]

/-- The row's service is there, and its booking is there and its customer's. -/
def CartItem.Grounded (db : Db) (row : CartItem) : Prop :=
  row.service < db.directory.services.length ∧
    ∀ bookingId, row.booking = some bookingId → BookedBy db row.customer bookingId

theorem CartItem.Grounded.kept {db next : Db} {row : CartItem} (grounded : row.Grounded db)
    (kept : RowsKept db next) : row.Grounded next :=
  ⟨Nat.lt_of_lt_of_le grounded.1 kept.services, fun bookingId booked => kept.bookedBy (grounded.2 bookingId booked)⟩

def Shop.CartGrounded (shop : Shop) : Prop :=
  ∀ row ∈ shop.cart.rows, row.Grounded shop.db

structure Shop.Advances (settings : Settings) (shop next : Shop) : Prop where
  platform : Reaches settings shop.platform next.platform
  checkouts : next.checkouts = shop.checkouts
  cart : shop.CartGrounded → next.CartGrounded

namespace Shop.Advances

variable {settings : Settings} {shop middle next : Shop}

theorem refl (settings : Settings) (shop : Shop) : Advances settings shop shop :=
  ⟨.refl .., rfl, id⟩

theorem trans (first : Advances settings shop middle) (second : Advances settings middle next) :
    Advances settings shop next :=
  ⟨first.platform.trans second.platform, second.checkouts.trans first.checkouts,
    fun grounded => second.cart (first.cart grounded)⟩

theorem ofCart {cart : CartTable} (rows : shop.CartGrounded → ∀ row ∈ cart.rows, row.Grounded shop.db) :
    Advances settings shop { shop with cart := cart } :=
  ⟨.refl .., rfl, rows⟩

end Shop.Advances

theorem remove_advances (settings : Settings) (shop : Shop) (accept : CartItem → Bool) :
    Shop.Advances settings shop { shop with cart := shop.cart.remove accept } :=
  .ofCart fun grounded row member => grounded row (List.mem_of_mem_filter member)

theorem cartResponse_accepted {customer : UserId} {shop next : Shop} {answer : CartResponse}
    (accepted : cartResponse customer shop = .ok (answer, next)) :
    next = { shop with
      cart := shop.cart.remove fun row => row.customer == customer && row.isPaid shop.db.bookings } := by
  simp only [cartResponse, accepted_bind, accepted_pure, Prod.mk.injEq] at accepted
  obtain ⟨items, _, _, rfl⟩ := accepted
  rfl

theorem cartResponse_advances (settings : Settings) {customer : UserId} {shop next : Shop} {answer : CartResponse}
    (accepted : cartResponse customer shop = .ok (answer, next)) : Shop.Advances settings shop next := by
  rw [cartResponse_accepted accepted]
  exact remove_advances ..

theorem replaced_grounded {db : Db} {cart after : CartTable} {key : Nat} {row : CartItem}
    (stored : cart.replace? key row = some after) (grounded : ∀ other ∈ cart.rows, other.Grounded db)
    (written : row.Grounded db) : ∀ other ∈ after.rows, other.Grounded db := by
  intro other member
  rw [UniqueTable.replace?_some stored] at member
  rcases List.mem_or_eq_of_mem_set member with earlier | isRow
  · exact grounded other earlier
  · rw [isRow]
    exact written

theorem checkoutSelection_accepted {now : Instant} {customer : UserId} {selection : BookingRequest} {shop next : Shop}
    {bookingId : BookingId} (accepted : checkoutSelection now customer selection shop = .ok (bookingId, next)) :
    ∃ key row, firstRow (CartItem.isOf customer selection.serviceId) shop.cart.rows = some (key, row) ∧
      ((∃ booking, row.booking = some bookingId ∧ shop.db.bookings[bookingId]? = some booking ∧
          (booking.bookingStatus = .pendingPayment ∨ booking.bookingStatus = .paymentFailed) ∧ next = shop) ∨
        ∃ made cart, row.booking = none ∧
          createBooking now customer { selection with quantity := row.quantity } shop.db = .ok (bookingId, made) ∧
          shop.cart.replace? key { row with booking := some bookingId } = some cart ∧
          next = { shop.withDb made with cart := cart }) := by
  simp only [checkoutSelection, accepted_bind, accepted_orRaise] at accepted
  obtain ⟨⟨key, row⟩, first, accepted⟩ := accepted
  refine ⟨key, row, first, ?_⟩
  cases linked : row.booking with
  | some linkedId =>
      simp only [linked, accepted_bind, accepted_orRaise, accepted_require, accepted_pure, Prod.mk.injEq] at accepted
      obtain ⟨booking, found, _, status, rfl, rfl⟩ := accepted
      exact .inl ⟨booking, rfl, found, status, rfl⟩
  | none =>
      simp only [linked, accepted_bind, accepted_orRaise, accepted_pure, Prod.mk.injEq] at accepted
      obtain ⟨⟨madeId, made⟩, created, cart, stored, rfl, rfl⟩ := accepted
      exact .inr ⟨made, cart, rfl, created, stored, rfl⟩

theorem checkoutSelection_advances (settings : Settings) {now : Instant} {customer : UserId}
    {selection : BookingRequest} {shop next : Shop} {bookingId : BookingId}
    (accepted : checkoutSelection now customer selection shop = .ok (bookingId, next)) :
    Shop.Advances settings shop next ∧ (shop.CartGrounded → BookedBy next.db customer bookingId) := by
  obtain ⟨key, row, first, either⟩ := checkoutSelection_accepted accepted
  obtain ⟨foundRow, isOwn⟩ := firstRow_some first
  simp only [CartItem.isOf, Bool.and_eq_true, beq_iff_eq] at isOwn
  have member := List.mem_of_getElem? foundRow
  rcases either with ⟨_, linked, _, _, rfl⟩ | ⟨made, cart, _, created, stored, rfl⟩
  · refine ⟨.refl .., fun grounded => ?_⟩
    rw [← isOwn.1]
    exact (grounded row member).2 bookingId linked
  · have reaches := createBooking_reaches settings created
    have booked := createBooking_bookedBy created
    refine ⟨⟨reaches, rfl, fun grounded => ?_⟩, fun _ => booked⟩
    have kept : RowsKept shop.db made := reaches.rowsKept
    refine replaced_grounded stored (fun other isOther => (grounded other isOther).kept kept)
      ⟨((grounded row member).kept kept).1, fun linkedId isLinked => ?_⟩
    rw [Option.some.injEq] at isLinked
    rw [← isLinked]
    show BookedBy made row.customer bookingId
    rw [isOwn.1]
    exact booked

theorem checkoutSelections_advances (settings : Settings) {now : Instant} {customer : UserId}
    {selections : List BookingRequest} {shop next : Shop} {bookings : List BookingId}
    (accepted : checkoutSelections now customer selections shop = .ok (bookings, next)) :
    Shop.Advances settings shop next ∧ bookings.length = selections.length ∧
      (shop.CartGrounded → ∀ bookingId ∈ bookings, BookedBy next.db customer bookingId) := by
  induction selections generalizing shop bookings with
  | nil =>
      simp only [checkoutSelections, Except.ok.injEq, Prod.mk.injEq] at accepted
      obtain ⟨rfl, rfl⟩ := accepted
      exact ⟨.refl .., rfl, fun _ => List.forall_mem_nil _⟩
  | cons selection rest ih =>
      simp only [checkoutSelections, accepted_bind, accepted_pure, Prod.mk.injEq] at accepted
      obtain ⟨⟨bookingId, middle⟩, first, ⟨others, last⟩, remaining, rfl, rfl⟩ := accepted
      obtain ⟨advances, booked⟩ := checkoutSelection_advances settings first
      obtain ⟨advancesOn, lengths, bookedOn⟩ := ih remaining
      refine ⟨advances.trans advancesOn, by rw [List.length_cons, List.length_cons, lengths], fun grounded => ?_⟩
      rw [List.forall_mem_cons]
      exact ⟨advancesOn.platform.rowsKept.bookedBy (booked grounded), bookedOn (advances.cart grounded)⟩

theorem getOrCreateCartItem_accepted {db : Db} {customer : UserId} {service : ServiceId} {cart after : CartTable}
    {key : Nat} {row : CartItem} (accepted : getOrCreateCartItem customer service cart = .ok (key, row, after))
    (grounded : ∀ other ∈ cart.rows, other.Grounded db) (inBounds : service < db.directory.services.length) :
    row.customer = customer ∧ row.Grounded db ∧ ∀ other ∈ after.rows, other.Grounded db := by
  unfold getOrCreateCartItem at accepted
  split at accepted
  · rename_i found
    simp only [Except.ok.injEq, Prod.mk.injEq] at accepted
    obtain ⟨rfl, rfl, rfl⟩ := accepted
    obtain ⟨foundRow, isOwn⟩ := firstRow_some found
    simp only [CartItem.isOf, Bool.and_eq_true, beq_iff_eq] at isOwn
    exact ⟨isOwn.1, grounded _ (List.mem_of_getElem? foundRow), grounded⟩
  · simp only [accepted_bind, accepted_orRaise, accepted_pure, Prod.mk.injEq] at accepted
    obtain ⟨created, inserted, _, rfl, rfl⟩ := accepted
    have fresh : CartItem.Grounded db { customer := customer, service := service, quantity := 1, booking := none } :=
      ⟨inBounds, fun bookingId isSome => (by cases isSome)⟩
    refine ⟨rfl, fresh, fun other member => ?_⟩
    rw [(UniqueTable.insert?_some inserted).1, List.mem_append, List.mem_singleton] at member
    rcases member with earlier | isNew
    · exact grounded other earlier
    · rw [isNew]
      exact fresh

theorem requantified_same (request : CartAdd) (row : CartItem) :
    (row.requantified request).customer = row.customer ∧ (row.requantified request).service = row.service ∧
      (row.requantified request).booking = row.booking := by
  unfold CartItem.requantified
  split
  · split <;> exact ⟨rfl, rfl, rfl⟩
  · exact ⟨rfl, rfl, rfl⟩

theorem linked_cases {customer : UserId} {request : CartAdd} {bookings : List Booking} {row linked : CartItem}
    (accepted : row.linked customer request bookings = .ok linked) :
    linked = row ∨ ∃ bookingId booking, linked = { row with booking := some bookingId } ∧
      bookings[bookingId]? = some booking ∧ booking.customer = customer ∧ booking.service = row.service := by
  unfold CartItem.linked at accepted
  split at accepted
  · exact .inl (Except.ok.inj accepted).symm
  · rename_i bookingId _
    split at accepted
    · exact .inl (Except.ok.inj accepted).symm
    · simp only [accepted_bind, accepted_orRaise, accepted_require, accepted_pure] at accepted
      obtain ⟨booking, found, _, isOf, rfl⟩ := accepted
      exact .inr ⟨bookingId, booking, rfl, found, isOf⟩

theorem requantified_grounded {db : Db} (request : CartAdd) {row : CartItem} (grounded : row.Grounded db) :
    (row.requantified request).Grounded db := by
  obtain ⟨sameCustomer, sameService, sameBooking⟩ := requantified_same request row
  unfold CartItem.Grounded
  rw [sameCustomer, sameService, sameBooking]
  exact grounded

theorem linked_grounded {db : Db} {customer : UserId} {request : CartAdd} {row linked : CartItem}
    (accepted : row.linked customer request db.bookings = .ok linked) (own : row.customer = customer)
    (grounded : row.Grounded db) : linked.Grounded db := by
  rcases linked_cases accepted with rfl | ⟨bookingId, booking, rfl, found, isCustomer, _⟩
  · exact grounded
  · refine ⟨grounded.1, fun linkedId isLinked => ?_⟩
    rw [Option.some.injEq] at isLinked
    rw [← isLinked]
    exact ⟨booking, found, isCustomer.trans own.symm⟩

theorem addCartService_advances (settings : Settings) {now : Instant} {customer : UserId} {user : User}
    {request : CartAdd} {shop next : Shop} {service : ServiceId}
    (inBounds : service < shop.db.directory.services.length)
    (accepted : addCartService now customer user request shop service = .ok next) :
    Shop.Advances settings shop next := by
  simp only [addCartService, accepted_bind, accepted_orRaise, accepted_pure] at accepted
  obtain ⟨⟨key, row, cart⟩, got, ⟨leadId, leads⟩, marked, linked, isLinked, after, stored, rfl⟩ := accepted
  have reaches : Reaches settings shop.platform (shop.withDb { shop.db with leads := leads }).platform :=
    upsertLead_reaches settings marked
  refine ⟨reaches, rfl, fun grounded => ?_⟩
  obtain ⟨own, rowGrounded, cartGrounded⟩ := getOrCreateCartItem_accepted got grounded inBounds
  have quantifiedOwn := (requantified_same request row).1.trans own
  exact replaced_grounded stored cartGrounded
    (linked_grounded isLinked quantifiedOwn (requantified_grounded request rowGrounded))

theorem addCartServices_advances (settings : Settings) {now : Instant} {customer : UserId} {user : User}
    {request : CartAdd} {services : List ServiceId} {shop next : Shop}
    (inBounds : ∀ service ∈ services, service < shop.db.directory.services.length)
    (accepted : services.foldlM (addCartService now customer user request) shop = .ok next) :
    Shop.Advances settings shop next := by
  induction services generalizing shop with
  | nil =>
      simp only [List.foldlM_nil, accepted_pure] at accepted
      rw [accepted]
      exact .refl ..
  | cons service rest ih =>
      simp only [List.foldlM_cons, accepted_bind] at accepted
      obtain ⟨middle, first, remaining⟩ := accepted
      rw [List.forall_mem_cons] at inBounds
      have advances := addCartService_advances settings inBounds.1 first
      have kept := advances.platform.rowsKept
      exact advances.trans (ih (fun other member => Nat.lt_of_lt_of_le (inBounds.2 other member) kept.services) remaining)

theorem cartViewPost_advances (settings : Settings) {now : Instant} {customer : UserId} {request : CartAdd}
    {shop next : Shop} {answer : CartAnswer} (accepted : cartViewPost now customer request shop = .ok (answer, next)) :
    Shop.Advances settings shop next := by
  simp only [cartViewPost, accepted_bind, accepted_require, accepted_pure, Prod.mk.injEq] at accepted
  obtain ⟨user, _, _, _, _, _, filled, isFilled, ⟨cart, last⟩, answered, _, rfl⟩ := accepted
  have inBounds (service : ServiceId) (member : service ∈ (List.range shop.db.directory.services.length).filter
      fun service => request.serviceIds.dedup.contains service && shop.db.directory.services[service]?.any fun found =>
        found.isActive && found.categoryIsActive) : service < shop.db.directory.services.length :=
    List.mem_range.mp (List.mem_of_mem_filter member)
  exact (addCartServices_advances settings inBounds isFilled).trans (cartResponse_advances settings answered)

theorem cartItemViewPatch_advances (settings : Settings) {customer : UserId} {service : ServiceId} {quantity : Nat}
    {shop next : Shop} {answer : CartResponse}
    (accepted : cartItemViewPatch customer service quantity shop = .ok (answer, next)) :
    Shop.Advances settings shop next := by
  simp only [cartItemViewPatch, accepted_bind, accepted_orRaise, accepted_require] at accepted
  obtain ⟨_, _, ⟨key, row⟩, first, _, _, cart, stored, answered⟩ := accepted
  have member := List.mem_of_getElem? (firstRow_some first).1
  have written : Shop.Advances settings shop { shop with cart := cart } :=
    .ofCart fun grounded => replaced_grounded stored grounded (grounded row member)
  exact written.trans (cartResponse_advances settings answered)

/-- A service whose advance is a percentage has the percentage. -/
def ServiceFields.hasAdvance (service : ServiceFields) : Bool :=
  service.advancePaymentType == .fixed || service.advancePaymentValue.isSome

def CartItem.isPriced (db : Db) (row : CartItem) : Bool :=
  row.booking.isSome || db.directory.services[row.service]?.all fun service => service.hasAdvance

def Shop.cartPriced (shop : Shop) (customer : UserId) : Bool :=
  (shop.cart.rows.filter (·.customer == customer)).all (CartItem.isPriced shop.db)

theorem unbookedLine_isOk (service : Service) (row : CartItem) :
    (unbookedLine service row).isOk = service.hasAdvance := by
  unfold unbookedLine ServiceFields.hasAdvance
  cases service.advancePaymentType with
  | fixed => rfl
  | percentage => cases service.advancePaymentValue <;> rfl

theorem cartLine_isOk {db : Db} {row : CartItem} (grounded : row.Grounded db) :
    (cartLine db row).isOk = row.isPriced db := by
  obtain ⟨inBounds, booked⟩ := grounded
  have found := List.getElem?_eq_getElem inBounds
  cases linked : row.booking with
  | some bookingId =>
      obtain ⟨booking, present, _⟩ := booked bookingId linked
      simp [cartLine, CartItem.isPriced, found, linked, present, orRaise, ok_bind, pure, Except.pure]
  | none =>
      simp [cartLine, CartItem.isPriced, found, linked, orRaise, ok_bind, unbookedLine_isOk]

theorem cartResponse_isOk {shop : Shop} (grounded : shop.CartGrounded) (customer : UserId) :
    (cartResponse customer shop).isOk = shop.cartPriced customer := by
  have priced (row : CartItem) (member : row ∈ shop.cart.rows) := cartLine_isOk (grounded row member)
  simp only [cartResponse, isOk_bind_pure, mapM_isOk]
  rw [Bool.eq_iff_iff, Shop.cartPriced, List.all_eq_true, List.all_eq_true]
  simp only [List.mem_filter, UniqueTable.remove, and_imp]
  constructor
  · intro remaining row member own
    by_cases paid : row.isPaid shop.db.bookings = true
    · -- a paid row is booked
      unfold CartItem.isPaid at paid
      unfold CartItem.isPriced
      cases linked : row.booking with
      | none => simp [linked] at paid
      | some bookingId => rfl
    · rw [← priced row member]
      exact remaining row member (by simp [paid]) own
  · intro all row member _ own
    rw [priced row member]
    exact all row member own

end PsCore
