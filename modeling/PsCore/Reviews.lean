import PsCore.Carts
import PsCore.Lifecycle

/-!
Reviews. A customer reviews a completed booking of his own, once; administrators moderate what was
written. Any operation of the platform may come in between, a refund or a change of the technician
after completion included.
-/

namespace PsCore

open Fallible RowTable TransitionRun

/-- The validators of the column, which both serializers take over. -/
structure Rating where
  value : Nat
  atLeastOne : 1 ≤ value
  atMostFive : value ≤ 5
  deriving DecidableEq, Repr

def readRating (value : Int) : Except (List String) Rating :=
  if least : 1 ≤ value then
    if most : value ≤ 5 then .ok { value := value.toNat, atLeastOne := by omega, atMostFive := by omega }
    else .error ["Ensure this value is less than or equal to 5."]
  else .error ["Ensure this value is greater than or equal to 1."]

def readComment (text : String) : Except (List String) String :=
  if strip text = "" then .error ["This field may not be blank."]
  else if Char.ofNat 0 ∈ (strip text).toList then .error ["Null characters are not allowed."]
  else .ok (strip text)

structure Review where
  booking : BookingId
  customer : UserId
  technician : Option UserId
  rating : Rating
  comment : String
  isVisible : Bool
  deriving DecidableEq, Repr

/-- The booking is a one-to-one field. -/
def Review.clashes (first second : Review) : Bool :=
  first.booking == second.booking

abbrev ReviewTable := UniqueTable Review fun first second => first.clashes second = true

structure ReviewData where
  rating : Int
  comment : String
  deriving DecidableEq, Repr

def atField {α : Type} (name : String) (read : Except (List String) α) : Except FieldErrors α :=
  read.mapError fun messages => messages.map fun message => (name, message)

def reviewCreateSerializer (data : ReviewData) : Except FieldErrors (Rating × String) :=
  match atField "rating" (readRating data.rating), atField "comment" (readComment data.comment) with
  | .ok rating, .ok comment => .ok (rating, comment)
  | rating, comment => .error (fieldErrors rating ++ fieldErrors comment)

def createReview (bookingId : BookingId) (customer : UserId) (rating : Rating) (comment : String) (db : Db)
    (reviews : ReviewTable) : Except ServiceError ReviewTable := do
  let booking ← orRaise (db.bookings[bookingId]?.filter fun booking => booking.customer == customer)
    (.validation "Booking was not found.")
  require (booking.bookingStatus = .completed) (.validation "Only completed bookings can be reviewed.")
  require (reviews.rows.all (·.booking != bookingId) = true) (.validation "Booking has already been reviewed.")
  orRaise (reviews.insert? {
    booking := bookingId
    customer := customer
    technician := booking.assignedTechnician
    rating := rating
    comment := comment
    isVisible := true
  }) (.integrity "Review")

def postReview (bookingId : BookingId) (customer : UserId) (data : ReviewData) (db : Db) (reviews : ReviewTable) :
    Except ServiceError ReviewTable := do
  let (rating, comment) ← (reviewCreateSerializer data).mapError .fieldValidation
  createReview bookingId customer rating comment db reviews

def serviceReviews (db : Db) (reviews : ReviewTable) (service : ServiceId) : List Review :=
  (reviews.rows.filter fun review =>
    review.isVisible && db.bookings[review.booking]?.any fun booking => booking.service == service).reverse

/-- The filter on visibility; any other text than these two is ignored. -/
def inAdminQueryset (visibility : Option String) (review : Review) : Bool :=
  match visibility with
  | some "true" => review.isVisible
  | some "false" => !review.isVisible
  | _ => true

structure ReviewPatch where
  rating : Option Int
  comment : Option String
  isVisible : Option Bool
  deriving DecidableEq, Repr

def patched {α β : Type} (name : String) (given : Option α) (current : β) (read : α → Except (List String) β) :
    Except FieldErrors β :=
  match given with
  | none => .ok current
  | some value => atField name (read value)

def adminReviewSerializer (patch : ReviewPatch) (review : Review) : Except FieldErrors Review :=
  match patched "rating" patch.rating review.rating readRating,
      patched "comment" patch.comment review.comment readComment with
  | .ok rating, .ok comment => .ok { review with
      rating := rating, comment := comment, isVisible := patch.isVisible.getD review.isVisible }
  | rating, comment => .error (fieldErrors rating ++ fieldErrors comment)

def partialUpdateReview (visibility : Option String) (reviewId : Nat) (patch : ReviewPatch) (reviews : ReviewTable) :
    Except ServiceError ReviewTable := do
  let review ← orRaise (reviews.rows[reviewId]?.filter (inAdminQueryset visibility)) (.doesNotExist "Review")
  let updated ← (adminReviewSerializer patch review).mapError .fieldValidation
  orRaise (reviews.replace? reviewId updated) (.integrity "Review")

structure ReviewSite where
  platform : System
  reviews : ReviewTable

inductive ReviewStep
  | operation (op : Op)
  | post (customer : UserId) (bookingId : BookingId) (data : ReviewData)
  | moderate (visibility : Option String) (reviewId : Nat) (patch : ReviewPatch)

namespace ReviewSite

def stored (site : ReviewSite) (written : Except ServiceError ReviewTable) : ReviewSite :=
  match written with
  | .ok reviews => { site with reviews := reviews }
  | .error _ => site

def step (settings : Settings) (site : ReviewSite) : ReviewStep → ReviewSite
  | .operation op => { site with platform := System.step settings site.platform op }
  | .post customer bookingId data => site.stored (postReview bookingId customer data site.platform.db site.reviews)
  | .moderate visibility reviewId patch => site.stored (partialUpdateReview visibility reviewId patch site.reviews)

structure Initial (site : ReviewSite) : Prop where
  platform : site.platform.Initial
  reviews : site.reviews.rows = []

def shown (site : ReviewSite) (service : ServiceId) : List Review :=
  serviceReviews site.platform.db site.reviews service

end ReviewSite

structure Review.Tells (review : Review) (db : Db) (booking : Booking) : Prop where
  found : db.bookings[review.booking]? = some booking
  customer : booking.customer = review.customer
  completed : booking.bookingStatus = .completed
  technician : review.technician = booking.assignedTechnician

/-- Every review was written by its customer after the completion, no booking has two, what is shown
of a service was ordered and completed there, and whoever may review is let. -/
structure GenuineReviews (settings : Settings) (start : ReviewSite) (steps : List ReviewStep) : Prop where
  written : ∀ (reviewId : Nat) (review : Review),
      (runAll (ReviewSite.step settings) start steps).reviews.rows[reviewId]? = some review →
    ∃ earlier data later booking, steps = earlier ++ .post review.customer review.booking data :: later ∧
      review.Tells (runAll (ReviewSite.step settings) start earlier).platform.db booking
  once : ∀ (first second : Nat) (left right : Review),
    (runAll (ReviewSite.step settings) start steps).reviews.rows[first]? = some left →
    (runAll (ReviewSite.step settings) start steps).reviews.rows[second]? = some right →
    left.booking = right.booking → first = second
  shown : ∀ (service : ServiceId) (review : Review), review ∈ (runAll (ReviewSite.step settings) start steps).shown service ↔
    review ∈ (runAll (ReviewSite.step settings) start steps).reviews.rows ∧ review.isVisible = true ∧
      ∃ booking, (runAll (ReviewSite.step settings) start steps).platform.db.bookings[review.booking]? = some booking ∧
        booking.service = service ∧ booking.customer = review.customer ∧ booking.completedAt.isSome = true
  accepted : ∀ (customer : UserId) (bookingId : BookingId) (data : ReviewData),
    (∃ next, postReview bookingId customer data (runAll (ReviewSite.step settings) start steps).platform.db
        (runAll (ReviewSite.step settings) start steps).reviews = .ok next) ↔
      (1 ≤ data.rating ∧ data.rating ≤ 5 ∧ strip data.comment ≠ "" ∧ Char.ofNat 0 ∉ (strip data.comment).toList) ∧
      (∃ booking, (runAll (ReviewSite.step settings) start steps).platform.db.bookings[bookingId]? = some booking ∧
        booking.customer = customer ∧ booking.bookingStatus = .completed) ∧
      ∀ review ∈ (runAll (ReviewSite.step settings) start steps).reviews.rows, review.booking ≠ bookingId

structure Booking.SameOrder (before after : Booking) : Prop where
  parties : before.SameParties after
  completed : before.completedAt.isSome = true → after.completedAt.isSome = true

theorem Booking.SameOrder.refl (booking : Booking) : booking.SameOrder booking :=
  ⟨⟨rfl, rfl⟩, id⟩

theorem Booking.SameOrder.trans {first second third : Booking} (one : first.SameOrder second)
    (two : second.SameOrder third) : first.SameOrder third :=
  ⟨⟨two.parties.1.trans one.parties.1, two.parties.2.trans one.parties.2⟩,
    fun completed => two.completed (one.completed completed)⟩

theorem JobStep.staysCompleted {before after : Booking} (step : JobStep before after)
    (completed : before.completedAt.isSome = true) : after.completedAt.isSome = true := by
  cases step with
  | complete now from_ staffed => rfl
  | _ => exact completed

theorem Effect.Rewrites.completedAt {effect : Effect} {bookingId : BookingId} {before after : Booking}
    (rewrites : effect.Rewrites bookingId before after) : after.completedAt = before.completedAt := by
  cases rewrites with
  | failure locked payments =>
      unfold Booking.markedFailed
      split <;> rfl
  | refund settlement =>
      unfold Booking.afterRefund
      split
      · rfl
      · split
        · rfl
        · split <;> rfl
  | _ => rfl

theorem BookingWritten.sameOrder {settings : Settings} {state : System} {op : Op} {bookingId : BookingId}
    {before after : Booking} (written : BookingWritten settings state op bookingId before after) :
    before.SameOrder after := by
  refine ⟨written.sameParties, fun completed => ?_⟩
  cases written with
  | jobStep step => exact step.staysCompleted completed
  | effective effect isEffect rewrites =>
      rw [rewrites.completedAt]
      exact completed
  | _ => exact completed

theorem step_sameOrder (settings : Settings) (state : System) (op : Op) :
    KeptBy Booking.SameOrder state.db.bookings (System.step settings state op).db.bookings :=
  (step_leaves settings state op).bookings_kept .refl fun _ _ _ => BookingWritten.sameOrder

section

variable {settings : Settings} {site : ReviewSite} {db : Db} {reviews next : ReviewTable}

theorem createReview_accepted {bookingId : BookingId} {customer : UserId} {rating : Rating} {comment : String}
    (accepted : createReview bookingId customer rating comment db reviews = .ok next) :
    ∃ review booking, next.rows = reviews.rows ++ [review] ∧ review.booking = bookingId ∧ review.customer = customer ∧
      review.Tells db booking := by
  simp only [createReview, accepted_bind, accepted_orRaise, accepted_require, Option.filter_eq_some_iff,
    beq_iff_eq] at accepted
  obtain ⟨booking, ⟨found, isCustomer⟩, _, completed, _, _, inserted⟩ := accepted
  exact ⟨_, booking, (UniqueTable.insert?_some inserted).1, rfl, rfl, found, isCustomer, completed, rfl⟩

theorem postReview_accepted {bookingId : BookingId} {customer : UserId} {data : ReviewData}
    (accepted : postReview bookingId customer data db reviews = .ok next) :
    ∃ review booking, next.rows = reviews.rows ++ [review] ∧ review.booking = bookingId ∧ review.customer = customer ∧
      review.Tells db booking := by
  simp only [postReview, accepted_bind] at accepted
  obtain ⟨_, _, created⟩ := accepted
  exact createReview_accepted created

theorem readRating_iff {value : Int} : (∃ rating, readRating value = .ok rating) ↔ 1 ≤ value ∧ value ≤ 5 := by
  unfold readRating
  by_cases least : 1 ≤ value
  · by_cases most : value ≤ 5
    · simp [least, most]
    · simp [least, most]
  · simp [least]

theorem readComment_iff {text : String} : (∃ comment, readComment text = .ok comment) ↔
    strip text ≠ "" ∧ Char.ofNat 0 ∉ (strip text).toList := by
  unfold readComment
  by_cases blank : strip text = ""
  · simp [blank]
  · by_cases null : Char.ofNat 0 ∈ (strip text).toList
    · simp [blank, null]
    · simp [blank, null]

theorem reviewCreateSerializer_iff {data : ReviewData} : (∃ read, reviewCreateSerializer data = .ok read) ↔
    1 ≤ data.rating ∧ data.rating ≤ 5 ∧ strip data.comment ≠ "" ∧ Char.ofNat 0 ∉ (strip data.comment).toList := by
  rw [← and_assoc, ← readRating_iff, ← readComment_iff]
  unfold reviewCreateSerializer atField
  cases readRating data.rating with
  | error messages => simp [Except.mapError]
  | ok rating =>
      cases readComment data.comment with
      | error messages => simp [Except.mapError]
      | ok comment => simp [Except.mapError]

theorem createReview_iff (bookingId : BookingId) (customer : UserId) (rating : Rating) (comment : String) (db : Db)
    (reviews : ReviewTable) : (∃ next, createReview bookingId customer rating comment db reviews = .ok next) ↔
      (∃ booking, db.bookings[bookingId]? = some booking ∧ booking.customer = customer ∧
        booking.bookingStatus = .completed) ∧ ∀ review ∈ reviews.rows, review.booking ≠ bookingId := by
  simp only [createReview, accepted_bind, accepted_orRaise, accepted_require, Option.filter_eq_some_iff, beq_iff_eq,
    List.all_eq_true, bne_iff_ne]
  constructor
  · rintro ⟨next, booking, ⟨found, isCustomer⟩, _, completed, _, unreviewed, _⟩
    exact ⟨⟨booking, found, isCustomer, completed⟩, unreviewed⟩
  · rintro ⟨⟨booking, found, isCustomer, completed⟩, unreviewed⟩
    -- the constraint cannot fail: the row of the booking was looked for under its lock
    have inserted : ∃ next, reviews.insert? {
        booking := bookingId
        customer := customer
        technician := booking.assignedTechnician
        rating := rating
        comment := comment
        isVisible := true } = some next :=
      UniqueTable.insert?_fresh fun other member => by simpa [Review.clashes] using unreviewed other member
    obtain ⟨next, inserted⟩ := inserted
    exact ⟨next, booking, ⟨found, isCustomer⟩, (), completed, (), unreviewed, inserted⟩

theorem postReview_iff {bookingId : BookingId} {customer : UserId} {data : ReviewData} :
    (∃ next, postReview bookingId customer data db reviews = .ok next) ↔
      (1 ≤ data.rating ∧ data.rating ≤ 5 ∧ strip data.comment ≠ "" ∧ Char.ofNat 0 ∉ (strip data.comment).toList) ∧
      (∃ booking, db.bookings[bookingId]? = some booking ∧ booking.customer = customer ∧
        booking.bookingStatus = .completed) ∧ ∀ review ∈ reviews.rows, review.booking ≠ bookingId := by
  rw [← reviewCreateSerializer_iff]
  unfold postReview
  cases read : reviewCreateSerializer data with
  | error errors => simp [Except.mapError]
  | ok fields =>
      have created := createReview_iff bookingId customer fields.1 fields.2 db reviews
      simpa [Except.mapError] using created

theorem adminReviewSerializer_accepted {patch : ReviewPatch} {review updated : Review}
    (accepted : adminReviewSerializer patch review = .ok updated) :
    updated.booking = review.booking ∧ updated.customer = review.customer ∧
      updated.technician = review.technician := by
  unfold adminReviewSerializer at accepted
  split at accepted
  · cases accepted
    exact ⟨rfl, rfl, rfl⟩
  · cases accepted

theorem partialUpdateReview_accepted {visibility : Option String} {reviewId : Nat} {patch : ReviewPatch}
    (accepted : partialUpdateReview visibility reviewId patch reviews = .ok next) :
    ∃ review updated, reviews.rows[reviewId]? = some review ∧ next.rows = reviews.rows.set reviewId updated ∧
      updated.booking = review.booking ∧ updated.customer = review.customer ∧
      updated.technician = review.technician := by
  simp only [partialUpdateReview, accepted_bind, accepted_orRaise, Option.filter_eq_some_iff] at accepted
  obtain ⟨review, ⟨found, _⟩, updated, serialized, replaced⟩ := accepted
  have read : adminReviewSerializer patch review = .ok updated := by
    cases outcome : adminReviewSerializer patch review with
    | ok value =>
        simpa [outcome, Except.mapError] using serialized
    | error errors => simp [outcome, Except.mapError] at serialized
  exact ⟨review, updated, found, UniqueTable.replace?_some replaced, adminReviewSerializer_accepted read⟩

theorem step_written (step : ReviewStep) {reviewId : Nat} {review : Review}
    (found : (site.step settings step).reviews.rows[reviewId]? = some review) :
    (∃ earlier : Review, site.reviews.rows[reviewId]? = some earlier ∧ earlier.booking = review.booking ∧
        earlier.customer = review.customer ∧ earlier.technician = review.technician) ∨
      ∃ data booking, step = .post review.customer review.booking data ∧ review.Tells site.platform.db booking := by
  cases step with
  | operation op => exact .inl ⟨review, found, rfl, rfl, rfl⟩
  | post customer bookingId data =>
      simp only [ReviewSite.step, ReviewSite.stored] at found
      cases posted : postReview bookingId customer data site.platform.db site.reviews with
      | error error =>
          rw [posted] at found
          exact .inl ⟨review, found, rfl, rfl, rfl⟩
      | ok next =>
          obtain ⟨new, booking, rows, isBooking, isCustomer, tells⟩ := postReview_accepted posted
          rw [posted] at found
          simp only [rows, List.getElem?_append] at found
          split at found
          · exact .inl ⟨review, found, rfl, rfl, rfl⟩
          · have isNew : new = review := by
              rw [List.getElem?_singleton] at found
              split at found
              · exact Option.some.inj found
              · cases found
            subst isNew
            exact .inr ⟨data, booking, by rw [isBooking, isCustomer], tells⟩
  | moderate visibility target patch =>
      simp only [ReviewSite.step, ReviewSite.stored] at found
      cases moderated : partialUpdateReview visibility target patch site.reviews with
      | error error =>
          rw [moderated] at found
          exact .inl ⟨review, found, rfl, rfl, rfl⟩
      | ok next =>
          obtain ⟨old, updated, foundOld, rows, sameBooking, sameCustomer, sameTechnician⟩ :=
            partialUpdateReview_accepted moderated
          rw [moderated] at found
          simp only [rows] at found
          by_cases isTarget : target = reviewId
          · subst isTarget
            rw [List.getElem?_set_self (List.getElem?_eq_some_iff.mp foundOld).1] at found
            cases found
            exact .inl ⟨old, foundOld, sameBooking.symm, sameCustomer.symm, sameTechnician.symm⟩
          · rw [List.getElem?_set_ne isTarget] at found
            exact .inl ⟨review, found, rfl, rfl, rfl⟩

end

/-! Whole runs. -/

section

variable {settings : Settings} {start : ReviewSite} {steps : List ReviewStep}

def ReviewSite.Holds (site : ReviewSite) (reviewId : Nat) (review : Review) : Prop :=
  ∃ stored : Review, site.reviews.rows[reviewId]? = some stored ∧ stored.booking = review.booking ∧
    stored.customer = review.customer ∧ stored.technician = review.technician

theorem run_written (initial : start.Initial) {reviewId : Nat} {review : Review}
    (found : (runAll (ReviewSite.step settings) start steps).reviews.rows[reviewId]? = some review) :
    ∃ earlier data later booking, steps = earlier ++ .post review.customer review.booking data :: later ∧
      review.Tells (runAll (ReviewSite.step settings) start earlier).platform.db booking := by
  have absent : ¬ start.Holds reviewId review := by
    rintro ⟨stored, present, _⟩
    rw [initial.reviews] at present
    cases present
  obtain ⟨earlier, step, later, split, notYet, stored, present, isBooking, isCustomer, isTechnician⟩ :=
    runAll_becomes (fun site : ReviewSite => site.Holds reviewId review) absent ⟨review, found, rfl, rfl, rfl⟩
  rcases step_written step present with ⟨old, before, sameBooking, sameCustomer, sameTechnician⟩ |
    ⟨data, booking, isPost, tells⟩
  · exact absurd ⟨old, before, sameBooking.trans isBooking, sameCustomer.trans isCustomer,
      sameTechnician.trans isTechnician⟩ notYet
  · rw [isBooking, isCustomer] at isPost
    refine ⟨earlier, data, later, booking, by rw [split, isPost], ?_⟩
    exact ⟨by rw [← isBooking]; exact tells.found, tells.customer.trans isCustomer, tells.completed,
      isTechnician.symm.trans tells.technician⟩

theorem run_sameOrder (settings : Settings) (start : ReviewSite) (steps : List ReviewStep) :
    KeptBy Booking.SameOrder start.platform.db.bookings
      (runAll (ReviewSite.step settings) start steps).platform.db.bookings := by
  induction steps generalizing start with
  | nil => exact .refl Booking.SameOrder.refl _
  | cons step rest ih =>
      refine .trans (fun _ _ _ one two => one.trans two) ?_ (ih (start.step settings step))
      cases step with
      | operation op => exact step_sameOrder settings start.platform op
      | post customer bookingId data =>
          simp only [ReviewSite.step, ReviewSite.stored]
          split <;> exact .refl Booking.SameOrder.refl _
      | moderate visibility reviewId patch =>
          simp only [ReviewSite.step, ReviewSite.stored]
          split <;> exact .refl Booking.SameOrder.refl _

def ReviewStep.op? : ReviewStep → Option Op
  | .operation op => some op
  | _ => none

theorem run_platform (start : ReviewSite) (steps : List ReviewStep) :
    (runAll (ReviewSite.step settings) start steps).platform =
      runAll (System.step settings) start.platform (steps.filterMap ReviewStep.op?) := by
  induction steps generalizing start with
  | nil => rfl
  | cons step rest ih =>
      rw [runAll_cons, ih]
      cases step with
      | operation op => rfl
      | post customer bookingId data =>
          simp only [ReviewSite.step, ReviewSite.stored, ReviewStep.op?]
          split <;> rfl
      | moderate visibility reviewId patch =>
          simp only [ReviewSite.step, ReviewSite.stored, ReviewStep.op?]
          split <;> rfl

theorem run_stamped (initial : start.Initial) (steps : List ReviewStep) :
    EveryBooking Stamped (runAll (ReviewSite.step settings) start steps).platform.db := by
  rw [run_platform]
  exact bookings_invariant stamped_kept stamped_made (fun _ _ _ _ _ _ => stamped_rewritten) initial.platform
    (guarded_true settings _ _)

theorem genuineReviews_run (settings : Settings) {start : ReviewSite} (initial : start.Initial)
    (steps : List ReviewStep) : GenuineReviews settings start steps where
  written := fun _ _ found => run_written initial found
  once := fun first second left right atFirst atSecond same => by
    apply Classical.byContradiction
    intro differ
    have symmetric : ∀ first second : Review, first.clashes second = true → second.clashes first = true := by
      intro first second clashes
      simp only [Review.clashes, beq_iff_eq] at clashes ⊢
      exact clashes.symm
    have apart := UniqueTable.apart symmetric _ atFirst atSecond differ
    exact apart (by simpa [Review.clashes] using same)
  shown := fun service review => by
    simp only [ReviewSite.shown, serviceReviews, List.mem_reverse, List.mem_filter, Bool.and_eq_true,
      Option.any_eq_true, beq_iff_eq]
    constructor
    · rintro ⟨member, visible, booking, found, isService⟩
      refine ⟨member, visible, booking, found, isService, ?_⟩
      obtain ⟨reviewId, stored⟩ := List.getElem?_of_mem member
      obtain ⟨earlier, data, later, ordered, split, tells⟩ := run_written initial stored
      have kept := run_sameOrder settings (runAll (ReviewSite.step settings) start earlier)
        (.post review.customer review.booking data :: later)
      rw [← runAll_append, ← split] at kept
      obtain ⟨after, foundAfter, same⟩ := kept _ _ tells.found
      rw [found, Option.some.injEq] at foundAfter
      subst foundAfter
      have stamped := run_stamped initial earlier ordered (List.mem_of_getElem? tells.found)
      exact ⟨same.parties.1.trans tells.customer, same.completed (stamped.completed (.inl tells.completed))⟩
    · rintro ⟨member, visible, booking, found, isService, _⟩
      exact ⟨member, visible, booking, found, isService⟩
  accepted := fun _ _ _ => postReview_iff

end

def sampleReviewSite : ReviewSite where
  platform := sampleSystem
  reviews := .empty

theorem sampleReviewSite_initial : sampleReviewSite.Initial :=
  ⟨sampleSystem_initial, rfl⟩

def completedHistory : List Op := paidHistory ++ [
  .assignTechnician sampleNow 0 0 none "" "",
  .startBooking 0 none "",
  .recordBalanceCollection sampleNow 0 80000 "cash" none "",
  .completeBooking sampleNow 0 none ""]

def reviewedHistory : List ReviewStep := completedHistory.map .operation ++ [
  .post 0 0 { rating := 5, comment := " Came on time. " },
  .post 0 0 { rating := 1, comment := "Second thoughts." },
  .moderate none 0 { rating := none, comment := some "Came on time", isVisible := none },
  .operation (.createRefund sampleNow 0 20000 "refund-key-1" (.ok { id := "rfnd_1", status := .text "processed" }))]

theorem genuineReviews_run_reviewedHistory :
    GenuineReviews sampleSettings sampleReviewSite reviewedHistory :=
  genuineReviews_run sampleSettings sampleReviewSite_initial reviewedHistory

end PsCore
