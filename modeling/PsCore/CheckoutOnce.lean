import PsCore.Checkouts

/-!
Exactly-once checkout over whole runs. A key is taken by its first success and by nothing else; what
comes later under it is answered from the record, if its cart can be priced and its endpoint shows all
the bookings of the record.
-/

namespace PsCore

open Fallible RowTable TransitionRun

/-- The foreign keys of carts and checkouts protect their users and services. -/
def ShopStep.keepsRows (shop : Shop) : ShopStep → Bool
  | .operation op => op.keepsRows shop.platform
  | _ => true

/-- Where the request finds its own fingerprint under its key, the endpoint shows all the bookings of the
record and the pricing of the cart goes through. -/
def CheckoutPost.answerable (settings : CheckoutSettings) (shop : Shop) (request : CheckoutPost) : Bool :=
  match request.key settings with
  | .error _ => true
  | .ok key => match shop.receipts (request.customer, key) with
      | none => true
      | some (fingerprint, bookingIds) => fingerprint != request.fingerprint settings || !request.wellFormed settings ||
          (request.restorable shop && request.endpoint.view bookingIds == bookingIds)

def ShopStep.answerable (settings : CheckoutSettings) (shop : Shop) : ShopStep → Bool
  | .post request => request.answerable settings shop
  | _ => true

section

variable {settings : CheckoutSettings} {shop : Shop} {request : CheckoutPost} {answer : CheckoutAnswer}
  {key fingerprint : String} {bookingIds : List BookingId}

theorem post_rejected {error : ServiceError} (rejected : (shop.post settings request).1 = .error error) :
    (shop.post settings request).2 = shop := by
  unfold Shop.post at rejected ⊢
  cases outcome : shop.handle settings request with
  | error reason => rfl
  | ok result =>
      rw [outcome] at rejected
      cases rejected

theorem post_accepted (accepted : (shop.post settings request).1 = .ok answer) :
    shop.handle settings request = .ok (answer, (shop.post settings request).2) := by
  unfold Shop.post at accepted ⊢
  cases outcome : shop.handle settings request with
  | error reason =>
      rw [outcome] at accepted
      cases accepted
  | ok result =>
      rw [outcome] at accepted
      rw [← Except.ok.inj accepted]
      rfl

theorem post_isOk : (shop.post settings request).1.isOk = (shop.handle settings request).isOk := by
  unfold Shop.post
  cases shop.handle settings request <;> rfl

theorem post_checkedOut (sound : shop.Sound) (isKey : request.key settings = .ok key)
    (accepted : (shop.post settings request).1 = .ok answer) :
    ∃ bookingIds, answer.bookings = request.endpoint.view bookingIds ∧
      CheckedOut settings shop request key bookingIds (shop.post settings request).2 := by
  obtain ⟨own, bookingIds, isOwn, answers, checkedOut⟩ := handle_checkedOut sound (post_accepted accepted)
  rw [isKey, Except.ok.injEq] at isOwn
  rw [isOwn]
  exact ⟨bookingIds, answers, checkedOut⟩

theorem post_wellFormed (accepted : (shop.post settings request).1 = .ok answer) :
    request.wellFormed settings = true := by
  have handled := post_accepted accepted
  unfold CheckoutPost.wellFormed
  cases isEndpoint : request.endpoint with
  | bookings =>
      simp only [Shop.handle, isEndpoint, bookingViewSetCreate, accepted_bind] at handled
      obtain ⟨selection, valid, _⟩ := handled
      simp [valid]
  | cartCheckout =>
      simp only [Shop.handle, isEndpoint, cartCheckoutViewPost, accepted_bind] at handled
      obtain ⟨selections, valid, _⟩ := handled
      simp [valid]

theorem post_known (sound : shop.Sound) (isKey : request.key settings = .ok key)
    (known : shop.receipts (request.customer, key) = some (fingerprint, bookingIds))
    (accepted : (shop.post settings request).1 = .ok answer) :
    fingerprint = request.fingerprint settings ∧ answer.bookings = request.endpoint.view bookingIds ∧
      (shop.post settings request).2.platform = shop.platform ∧
      (shop.post settings request).2.checkouts = shop.checkouts := by
  obtain ⟨own, answers, checkedOut⟩ := post_checkedOut sound isKey accepted
  cases checkedOut with
  | restored same advances untouched =>
      rw [known, Option.some.injEq, Prod.mk.injEq] at same
      rw [same.2]
      exact ⟨same.1, answers, untouched, advances.checkouts⟩
  | made now unused platform cart rows nonempty whole customer booked =>
      rw [known] at unused
      cases unused

theorem post_unchanged (sound : shop.Sound) (isKey : request.key settings = .ok key)
    (known : shop.receipts (request.customer, key) = some (fingerprint, bookingIds)) :
    (shop.post settings request).2.platform = shop.platform ∧
      (shop.post settings request).2.checkouts = shop.checkouts := by
  cases outcome : (shop.post settings request).1 with
  | error error => rw [post_rejected outcome]; exact ⟨rfl, rfl⟩
  | ok answer => exact (post_known sound isKey known outcome).2.2

theorem answerable_known (answerable : request.answerable settings shop = true)
    (isKey : request.key settings = .ok key) (wellFormed : request.wellFormed settings = true)
    (known : shop.receipts (request.customer, key) = some (request.fingerprint settings, bookingIds)) :
    request.restorable shop = true ∧ request.endpoint.view bookingIds = bookingIds := by
  unfold CheckoutPost.answerable at answerable
  rw [isKey] at answerable
  simp only [known, wellFormed, bne_self_eq_false, Bool.not_true, Bool.false_or, Bool.and_eq_true,
    beq_iff_eq] at answerable
  exact answerable

theorem post_receipt (sound : shop.Sound) (isKey : request.key settings = .ok key)
    (accepted : (shop.post settings request).1 = .ok answer) :
    ∃ bookingIds, answer.bookings = request.endpoint.view bookingIds ∧
      (shop.post settings request).2.receipts (request.customer, key) =
        some (request.fingerprint settings, bookingIds) ∧
      (request.answerable settings shop = true ∨ shop.receipts (request.customer, key) = none →
        answer.bookings = bookingIds) := by
  obtain ⟨bookingIds, answers, checkedOut⟩ := post_checkedOut sound isKey accepted
  refine ⟨bookingIds, answers, checkedOut.step.answered, fun either => ?_⟩
  cases checkedOut with
  | restored known advances untouched =>
      rcases either with answerable | unused
      · rw [answers, (answerable_known answerable isKey (post_wellFormed accepted) known).2]
      · rw [known] at unused
        cases unused
  | made now unused platform cart rows nonempty whole customer booked => rw [answers, whole]

end

section

variable {settings : CheckoutSettings} {shop : Shop} {step : ShopStep}

theorem step_checkouts (settings : CheckoutSettings) (shop : Shop) (step : ShopStep)
    (noPost : ∀ request, step ≠ .post request) (keeps : step.keepsRows shop = true) (sound : shop.Sound) :
    (shop.step settings step).Sound ∧ (shop.step settings step).checkouts = shop.checkouts := by
  have committed {α : Type} (transaction : Except ServiceError (α × Shop))
      (advances : ∀ answer next, transaction = .ok (answer, next) → shop.Advances settings.toSettings next) :
      (shop.commit transaction).2.Sound ∧ (shop.commit transaction).2.checkouts = shop.checkouts := by
    cases outcome : transaction with
    | error error => exact ⟨sound, rfl⟩
    | ok result => exact ⟨(advances _ _ outcome).sound sound, (advances _ _ outcome).checkouts⟩
  cases step with
  | post request => exact absurd rfl (noPost request)
  | operation op =>
      have kept := (step_leaves settings.toSettings shop.platform op).rowsKept keeps
      refine ⟨⟨fun row member => ?_, fun record member => ?_⟩, rfl⟩
      · exact (sound.cart row member).kept kept
      · exact (sound.checkouts record member).kept kept
  | viewCart customer =>
      refine committed _ fun answer next accepted => ?_
      simp only [cartViewGet, accepted_bind] at accepted
      obtain ⟨_, _, answered⟩ := accepted
      exact cartResponse_advances _ answered
  | addToCart now customer request => exact committed _ fun _ _ accepted => cartViewPost_advances _ accepted
  | removeFromCart customer service =>
      refine committed _ fun answer next accepted => ?_
      simp only [cartItemViewDelete, accepted_bind] at accepted
      obtain ⟨_, _, answered⟩ := accepted
      exact (remove_advances _ shop _).trans (cartResponse_advances _ answered)
  | setQuantity customer service quantity =>
      exact committed _ fun _ _ accepted => cartItemViewPatch_advances _ accepted

theorem receipts_of_checkouts {shop next : Shop} (same : next.checkouts = shop.checkouts) :
    next.receipts = shop.receipts := by
  unfold Shop.receipts
  rw [same]

theorem step_cases (settings : CheckoutSettings) (sound : shop.Sound) (keeps : step.keepsRows shop = true) :
    ((shop.step settings step).Sound ∧ (shop.step settings step).receipts = shop.receipts) ∨
      ∃ request answer key bookingIds, step = .post request ∧ (shop.post settings request).1 = .ok answer ∧
        request.key settings = .ok key ∧ CheckedOut settings shop request key bookingIds (shop.step settings step) := by
  by_cases isPost : ∃ request, step = .post request
  · obtain ⟨request, rfl⟩ := isPost
    cases outcome : (shop.post settings request).1 with
    | error error =>
        have same : shop.step settings (.post request) = shop := post_rejected outcome
        rw [same]
        exact .inl ⟨sound, rfl⟩
    | ok answer =>
        obtain ⟨key, bookingIds, isKey, _, checkedOut⟩ := handle_checkedOut sound (post_accepted outcome)
        exact .inr ⟨request, answer, key, bookingIds, rfl, outcome, isKey, checkedOut⟩
  · obtain ⟨stillSound, same⟩ :=
      step_checkouts settings shop step (fun request isStep => isPost ⟨request, isStep⟩) keeps sound
    exact .inl ⟨stillSound, receipts_of_checkouts same⟩

theorem step_sound (settings : CheckoutSettings) (sound : shop.Sound) (keeps : step.keepsRows shop = true) :
    (shop.step settings step).Sound := by
  rcases step_cases settings sound keeps with ⟨stillSound, _⟩ | ⟨_, _, _, _, _, _, _, checkedOut⟩
  · exact stillSound
  · exact checkedOut.sound sound

theorem step_kept (sound : shop.Sound) (keeps : step.keepsRows shop = true) {owner : UserId × String}
    {receipt : String × List BookingId} (known : shop.receipts owner = some receipt) :
    (shop.step settings step).receipts owner = some receipt := by
  rcases step_cases settings sound keeps with ⟨_, same⟩ | ⟨_, _, _, _, _, _, _, checkedOut⟩
  · rw [same, known]
  · exact checkedOut.step.kept known

theorem step_made (sound : shop.Sound) (keeps : step.keepsRows shop = true) {owner : UserId × String}
    {receipt : String × List BookingId} (unused : shop.receipts owner = none)
    (known : (shop.step settings step).receipts owner = some receipt) :
    ∃ request answer, step = .post request ∧ request.customer = owner.1 ∧ request.key settings = .ok owner.2 ∧
      (shop.post settings request).1 = .ok answer ∧ request.fingerprint settings = receipt.1 ∧
      answer.bookings = receipt.2 := by
  rcases step_cases settings sound keeps with
    ⟨_, same⟩ | ⟨request, answer, key, bookingIds, rfl, accepted, isKey, checkedOut⟩
  · rw [same, unused] at known
    cases known
  · by_cases own : owner = (request.customer, key)
    · subst own
      obtain ⟨made, _, isReceipt, whole⟩ := post_receipt sound isKey accepted
      have same : some (request.fingerprint settings, made) = some receipt := isReceipt.symm.trans known
      rw [Option.some.injEq] at same
      subst same
      exact ⟨request, answer, rfl, rfl, isKey, accepted, rfl, whole (.inr unused)⟩
    · rw [checkedOut.step.unused unused fun same => absurd same own] at known
      cases known

end

section

variable {settings : CheckoutSettings} {start : Shop} {steps : List ShopStep}

theorem run_sound (sound : start.Sound)
    (kept : Guarded (Shop.step settings) (fun shop step => step.keepsRows shop = true) start steps) :
    (runAll (Shop.step settings) start steps).Sound :=
  kept.invariant (fun _ _ holds keeps => step_sound settings holds keeps) sound

theorem run_kept (sound : start.Sound)
    (kept : Guarded (Shop.step settings) (fun shop step => step.keepsRows shop = true) start steps)
    {owner : UserId × String} {receipt : String × List BookingId} (known : start.receipts owner = some receipt) :
    (runAll (Shop.step settings) start steps).receipts owner = some receipt := by
  have preserved : ∀ (shop : Shop) (step : ShopStep), shop.Sound ∧ shop.receipts owner = some receipt →
      step.keepsRows shop = true →
        (shop.step settings step).Sound ∧ (shop.step settings step).receipts owner = some receipt :=
    fun shop step ⟨holds, stillKnown⟩ keeps => ⟨step_sound settings holds keeps, step_kept holds keeps stillKnown⟩
  exact (kept.invariant preserved ⟨sound, known⟩).2

/-- Every receipt goes back to the first success under its key. -/
theorem run_made (sound : start.Sound)
    (kept : Guarded (Shop.step settings) (fun shop step => step.keepsRows shop = true) start steps)
    {owner : UserId × String} {receipt : String × List BookingId} (unused : start.receipts owner = none)
    (known : (runAll (Shop.step settings) start steps).receipts owner = some receipt) :
    ∃ earlier request later answer, steps = earlier ++ .post request :: later ∧ request.customer = owner.1 ∧
      request.key settings = .ok owner.2 ∧
      ((runAll (Shop.step settings) start earlier).post settings request).1 = .ok answer ∧
      request.fingerprint settings = receipt.1 ∧ answer.bookings = receipt.2 := by
  induction steps generalizing start with
  | nil =>
      rw [runAll_nil, unused] at known
      cases known
  | cons step rest ih =>
      obtain ⟨keeps, keptRest⟩ := kept
      have soundNext := step_sound settings sound keeps
      cases after : (start.step settings step).receipts owner with
      | none =>
          obtain ⟨earlier, request, later, answer, split, facts⟩ := ih soundNext keptRest after known
          exact ⟨step :: earlier, request, later, answer, by rw [split]; rfl, facts⟩
      | some given =>
          have same := run_kept soundNext keptRest after
          rw [runAll_cons, same, Option.some.injEq] at known
          subst known
          obtain ⟨request, answer, rfl, facts⟩ := step_made sound keeps unused after
          exact ⟨[], request, rest, answer, rfl, facts⟩

end

/-! Exactly once. -/

def CheckoutPost.SharesKey (settings : CheckoutSettings) (first second : CheckoutPost) : Prop :=
  first.customer = second.customer ∧ ∃ key, first.key settings = .ok key ∧ second.key settings = .ok key

def Shop.creates (settings : CheckoutSettings) (shop : Shop) (request : CheckoutPost) : Prop :=
  shop.db.bookings.length < (shop.post settings request).2.db.bookings.length

def PostedTwice (settings : CheckoutSettings) (start : Shop) (steps : List ShopStep) (first second : CheckoutPost)
    (shop later : Shop) : Prop :=
  ∃ earlier between rest, steps = earlier ++ .post first :: (between ++ .post second :: rest) ∧
    shop = runAll (Shop.step settings) start earlier ∧
    later = runAll (Shop.step settings) start (earlier ++ .post first :: between)

def Unanswered (settings : CheckoutSettings) (start : Shop) (steps : List ShopStep) (customer : UserId)
    (key : String) : Prop :=
  ∀ earlier request later answer, steps = earlier ++ .post request :: later → request.customer = customer →
    request.key settings = .ok key → ((runAll (Shop.step settings) start earlier).post settings request).1 ≠ .ok answer

structure CheckedOutOnce (settings : CheckoutSettings) (start : Shop) (steps : List ShopStep) : Prop where
  atMostOnce : ∀ first second shop later, PostedTwice settings start steps first second shop later →
    first.SharesKey settings second → shop.creates settings first → ¬ later.creates settings second
  retried : ∀ first second shop later answer, PostedTwice settings start steps first second shop later →
    first.SharesKey settings second → first.payload = second.payload →
    first.endpoint = second.endpoint ∨ second.wellFormed settings = true →
    (shop.post settings first).1 = .ok answer → ¬ later.creates settings second ∧
      ∃ again, (later.post settings second).1 = .ok again ∧ again.bookings = answer.bookings
  reused : ∀ first second shop later answer, PostedTwice settings start steps first second shop later →
    first.SharesKey settings second → first.payload ≠ second.payload →
    (shop.post settings first).1 = .ok answer → ∃ error, later.post settings second = (.error error, later)
  failed : ∀ earlier request later error, steps = earlier ++ .post request :: later →
    ((runAll (Shop.step settings) start earlier).post settings request).1 = .error error →
    runAll (Shop.step settings) start (earlier ++ [.post request]) = runAll (Shop.step settings) start earlier
  unused : ∀ earlier later customer key, steps = earlier ++ later → Unanswered settings start earlier customer key →
    ∀ fingerprint, ∃ begun : BegunCheckout, begun.bookings = [] ∧
      beginCheckoutRequest customer key fingerprint (runAll (Shop.step settings) start earlier).db.bookings
        (runAll (Shop.step settings) start earlier).checkouts = .ok begun

def ShopStep.payload? : ShopStep → Option Payload
  | .post request => some request.payload
  | _ => none

section

variable {settings : CheckoutSettings} {start : Shop} {steps : List ShopStep} {first second : CheckoutPost}
  {shop later : Shop}

theorem PostedTwice.finds (sound : start.Sound)
    (kept : Guarded (Shop.step settings) (fun shop step => step.keepsRows shop = true) start steps)
    (posted : PostedTwice settings start steps first second shop later) :
    shop.Sound ∧ later.Sound ∧ ∀ owner receipt, (shop.post settings first).2.receipts owner = some receipt →
      later.receipts owner = some receipt := by
  obtain ⟨earlier, between, rest, rfl, rfl, rfl⟩ := posted
  obtain ⟨keptEarlier, keepsFirst, keptRest⟩ := Guarded.append.mp kept
  have keptBetween := (Guarded.append.mp keptRest).1
  have soundFirst := run_sound sound keptEarlier
  have soundNext := step_sound settings soundFirst keepsFirst
  rw [runAll_append, runAll_cons]
  exact ⟨soundFirst, run_sound soundNext keptBetween, fun owner receipt known => run_kept soundNext keptBetween known⟩

theorem PostedTwice.places (posted : PostedTwice settings start steps first second shop later) :
    (∃ earlier rest, steps = earlier ++ .post first :: rest ∧ shop = runAll (Shop.step settings) start earlier) ∧
      ∃ earlier rest, steps = earlier ++ .post second :: rest ∧ later = runAll (Shop.step settings) start earlier := by
  obtain ⟨earlier, between, rest, split, isShop, isLater⟩ := posted
  refine ⟨⟨earlier, _, split, isShop⟩, earlier ++ .post first :: between, rest, ?_, isLater⟩
  rw [split, List.append_assoc, List.cons_append]

theorem not_creates {key fingerprint : String} {bookingIds : List BookingId} (sound : shop.Sound)
    (isKey : first.key settings = .ok key)
    (known : shop.receipts (first.customer, key) = some (fingerprint, bookingIds)) : ¬ shop.creates settings first := by
  unfold Shop.creates Shop.db
  rw [(post_unchanged sound isKey known).1]
  exact Nat.lt_irrefl _

theorem creates_accepted (creates : shop.creates settings first) :
    ∃ answer, (shop.post settings first).1 = .ok answer := by
  cases outcome : (shop.post settings first).1 with
  | ok answer => exact ⟨answer, rfl⟩
  | error error =>
      rw [Shop.creates, post_rejected outcome] at creates
      exact absurd creates (Nat.lt_irrefl _)

theorem PostedTwice.known {key : String} {answer : CheckoutAnswer} (sound : start.Sound)
    (kept : Guarded (Shop.step settings) (fun shop step => step.keepsRows shop = true) start steps)
    (posted : PostedTwice settings start steps first second shop later) (own : first.customer = second.customer)
    (isKey : first.key settings = .ok key) (accepted : (shop.post settings first).1 = .ok answer) :
    ∃ bookingIds, later.receipts (second.customer, key) = some (first.fingerprint settings, bookingIds) ∧
      (first.answerable settings shop = true → answer.bookings = bookingIds) := by
  obtain ⟨soundShop, _, remembered⟩ := posted.finds sound kept
  obtain ⟨bookingIds, _, receipt, whole⟩ := post_receipt soundShop isKey accepted
  rw [own] at receipt
  exact ⟨bookingIds, remembered _ _ receipt, fun answerable => whole (.inl answerable)⟩

theorem posted_payload {request : CheckoutPost} {earlier rest : List ShopStep}
    (split : steps = earlier ++ .post request :: rest) : request.payload ∈ steps.filterMap ShopStep.payload? :=
  List.mem_filterMap.mpr ⟨.post request, by rw [split]; simp, rfl⟩

theorem wellFormed_again {answer : CheckoutAnswer} (accepted : (shop.post settings first).1 = .ok answer)
    (samePayload : first.payload = second.payload)
    (either : first.endpoint = second.endpoint ∨ second.wellFormed settings = true) :
    second.wellFormed settings = true := by
  rcases either with sameEndpoint | wellFormed
  · have wellFormed := post_wellFormed accepted
    unfold CheckoutPost.wellFormed at wellFormed ⊢
    rw [← sameEndpoint, ← samePayload]
    exact wellFormed
  · exact wellFormed

theorem answerable_of {request : CheckoutPost}
    (answers : ∀ key bookingIds, request.key settings = .ok key → request.wellFormed settings = true →
      shop.receipts (request.customer, key) = some (request.fingerprint settings, bookingIds) →
      request.restorable shop = true ∧ request.endpoint.view bookingIds = bookingIds) :
    request.answerable settings shop = true := by
  unfold CheckoutPost.answerable
  cases isKey : request.key settings with
  | error error => rfl
  | ok key =>
      simp only
      cases known : shop.receipts (request.customer, key) with
      | none => rfl
      | some receipt =>
          obtain ⟨fingerprint, bookingIds⟩ := receipt
          by_cases same : fingerprint = request.fingerprint settings
          · subst same
            cases wellFormed : request.wellFormed settings with
            | false => simp
            | true =>
                obtain ⟨restorable, whole⟩ := answers key bookingIds isKey wellFormed known
                simp [restorable, whole]
          · simp [same]

theorem answerable_iff {step : ShopStep} :
    step.answerable settings shop = true ↔
      ∀ request, step = .post request → request.answerable settings shop = true := by
  cases step <;> simp [ShopStep.answerable]

end

/-! The five promises, for a run from a sound shop. -/

section

variable {settings : CheckoutSettings} {start : Shop} {steps : List ShopStep} (sound : start.Sound)
  (kept : Guarded (Shop.step settings) (fun shop step => step.keepsRows shop = true) start steps)
  {first second : CheckoutPost} {shop later : Shop}

include sound kept

theorem books_once (posted : PostedTwice settings start steps first second shop later)
    (shares : first.SharesKey settings second) (creates : shop.creates settings first) :
    ¬ later.creates settings second := by
  obtain ⟨own, key, isFirst, isSecond⟩ := shares
  obtain ⟨answer, accepted⟩ := creates_accepted creates
  obtain ⟨bookingIds, known, _⟩ := posted.known sound kept own isFirst accepted
  exact not_creates (posted.finds sound kept).2.1 isSecond known

theorem retry_answered {answer : CheckoutAnswer}
    (answerable : Guarded (Shop.step settings) (fun shop step => step.answerable settings shop = true) start steps)
    (posted : PostedTwice settings start steps first second shop later) (shares : first.SharesKey settings second)
    (samePayload : first.payload = second.payload)
    (either : first.endpoint = second.endpoint ∨ second.wellFormed settings = true)
    (accepted : (shop.post settings first).1 = .ok answer) :
    ¬ later.creates settings second ∧
      ∃ again, (later.post settings second).1 = .ok again ∧ again.bookings = answer.bookings := by
  obtain ⟨own, key, isFirst, isSecond⟩ := shares
  have soundLater := (posted.finds sound kept).2.1
  obtain ⟨bookingIds, known, whole⟩ := posted.known sound kept own isFirst accepted
  obtain ⟨⟨before, rest, split, rfl⟩, between, _, splitLater, rfl⟩ := posted.places
  have firstAnswers := answerable_iff.mp (Guarded.iff_at.mp answerable before _ rest split) first rfl
  have secondAnswers := answerable_iff.mp (Guarded.iff_at.mp answerable between _ _ splitLater) second rfl
  have same : first.fingerprint settings = second.fingerprint settings := by
    rw [CheckoutPost.fingerprint, samePayload, CheckoutPost.fingerprint]
  rw [same] at known
  have wellFormed := wellFormed_again accepted samePayload either
  obtain ⟨restorable, shown⟩ := answerable_known secondAnswers isSecond wellFormed known
  have handled := handle_retried soundLater isSecond wellFormed known
  rw [restorable, ← post_isOk] at handled
  obtain ⟨again, acceptedAgain⟩ := isOk_iff.mp handled
  refine ⟨not_creates soundLater isSecond known, again, acceptedAgain, ?_⟩
  rw [(post_known soundLater isSecond known acceptedAgain).2.1, shown, whole firstAnswers]

theorem reuse_rejected {answer : CheckoutAnswer}
    (apart : NoCollision settings.sha256 (steps.filterMap ShopStep.payload?))
    (posted : PostedTwice settings start steps first second shop later) (shares : first.SharesKey settings second)
    (differ : first.payload ≠ second.payload) (accepted : (shop.post settings first).1 = .ok answer) :
    ∃ error, later.post settings second = (.error error, later) := by
  obtain ⟨own, key, isFirst, isSecond⟩ := shares
  obtain ⟨bookingIds, known, _⟩ := posted.known sound kept own isFirst accepted
  obtain ⟨⟨_, _, split, _⟩, _, _, splitLater, _⟩ := posted.places
  cases outcome : (later.post settings second).1 with
  | error error => exact ⟨error, Prod.ext outcome (post_rejected outcome)⟩
  | ok again =>
      have same := (post_known (posted.finds sound kept).2.1 isSecond known outcome).1
      exact absurd (apart.fingerprint (posted_payload split) (posted_payload splitLater) same) differ

theorem unanswered_unused (fresh : ∀ owner, start.receipts owner = none) {earlier rest : List ShopStep}
    {customer : UserId} {key : String} (split : steps = earlier ++ rest)
    (unanswered : Unanswered settings start earlier customer key) (fingerprint : String) :
    ∃ begun : BegunCheckout, begun.bookings = [] ∧
      beginCheckoutRequest customer key fingerprint (runAll (Shop.step settings) start earlier).db.bookings
        (runAll (Shop.step settings) start earlier).checkouts = .ok begun := by
  cases known : (runAll (Shop.step settings) start earlier).receipts (customer, key) with
  | none =>
      obtain ⟨created, _, begins⟩ := beginCheckoutRequest_unused _ fingerprint (receipts_eq_none.mp known)
      exact ⟨_, rfl, begins⟩
  | some receipt =>
      obtain ⟨before, request, after, answer, splitEarlier, own, isKey, accepted, _⟩ :=
        run_made sound (kept.upTo split) (fresh _) known
      exact absurd accepted (unanswered before request after answer splitEarlier own isKey)

theorem retried_answerable (fresh : ∀ owner, start.receipts owner = none)
    (apart : NoCollision settings.sha256 (steps.filterMap ShopStep.payload?))
    (once : CheckedOutOnce settings start steps) {earlier rest : List ShopStep}
    (split : steps = earlier ++ .post second :: rest) (isShop : shop = runAll (Shop.step settings) start earlier) :
    second.answerable settings shop = true := by
  refine answerable_of fun key bookingIds isKey wellFormed known => ?_
  have foundBy := known
  rw [isShop] at foundBy
  obtain ⟨before, maker, after, answer, splitEarlier, own, isMaker, accepted, sameFingerprint, whole⟩ :=
    run_made sound (kept.upTo split) (fresh _) foundBy
  have posted : PostedTwice settings start steps maker second (runAll (Shop.step settings) start before) shop := by
    refine ⟨before, after, rest, ?_, rfl, ?_⟩
    · rw [split, splitEarlier, List.append_assoc, List.cons_append]
    · rw [isShop, splitEarlier]
  obtain ⟨⟨_, _, splitMaker, _⟩, _⟩ := posted.places
  have samePayload := apart.fingerprint (posted_payload splitMaker) (posted_payload split) sameFingerprint
  obtain ⟨_, again, acceptedAgain, sameBookings⟩ := once.retried maker second _ _ answer posted
    ⟨own, key, isMaker, isKey⟩ samePayload (.inr wellFormed) accepted
  have soundLater := (posted.finds sound kept).2.1
  have handled := handle_retried soundLater isKey wellFormed known
  rw [← post_isOk, acceptedAgain] at handled
  refine ⟨handled.symm, ?_⟩
  rw [← (post_known soundLater isKey known acceptedAgain).2.1, sameBookings, whole]

end

/-- Along a run checkout is exactly-once, exactly when every request that finds its own fingerprint under its key is
answerable. -/
theorem checkedOutOnce_run (settings : CheckoutSettings) {start : Shop} (initial : start.Initial)
    {steps : List ShopStep}
    (kept : Guarded (Shop.step settings) (fun shop step => step.keepsRows shop = true) start steps)
    (apart : NoCollision settings.sha256 (steps.filterMap ShopStep.payload?)) :
    Guarded (Shop.step settings) (fun shop step => step.answerable settings shop = true) start steps ↔
      CheckedOutOnce settings start steps := by
  have sound := initial.sound
  have fresh (owner : UserId × String) : start.receipts owner = none := by
    unfold Shop.receipts
    rw [initial.checkouts]
    rfl
  constructor
  · intro answerable
    exact {
      atMostOnce := fun _ _ _ _ posted shares creates => books_once sound kept posted shares creates
      retried := fun _ _ _ _ _ posted shares samePayload either accepted =>
        retry_answered sound kept answerable posted shares samePayload either accepted
      reused := fun _ _ _ _ _ posted shares differ accepted =>
        reuse_rejected sound kept apart posted shares differ accepted
      failed := fun earlier request later error _ rejected => by
        rw [runAll_append]
        exact post_rejected rejected
      unused := fun _ _ _ _ split unanswered fingerprint =>
        unanswered_unused sound kept fresh split unanswered fingerprint
    }
  · intro once
    refine Guarded.iff_at.mpr fun earlier step rest split => answerable_iff.mpr ?_
    rintro second rfl
    exact retried_answerable sound kept fresh apart once split rfl

theorem CheckedOutOnce.shownAgain {settings : CheckoutSettings} {start : Shop} {steps : List ShopStep}
    (once : CheckedOutOnce settings start steps) (bookingIds : List BookingId) {first second : CheckoutPost}
    {shop later : Shop} (posted : PostedTwice settings start steps first second shop later)
    (shares : first.SharesKey settings second) (samePayload : first.payload = second.payload)
    (either : first.endpoint = second.endpoint ∨ second.wellFormed settings = true)
    (shown : (shop.post settings first).1.toOption.map CheckoutAnswer.bookings = some bookingIds) :
    (later.post settings second).1.toOption.map CheckoutAnswer.bookings = some bookingIds := by
  cases accepted : (shop.post settings first).1 with
  | error error =>
      rw [accepted] at shown
      cases shown
  | ok answer =>
      obtain ⟨_, again, acceptedAgain, same⟩ := once.retried _ _ _ _ answer posted shares samePayload either accepted
      rw [accepted] at shown
      rw [acceptedAgain, ← shown]
      exact congrArg some same

def retriedCheckout : List ShopStep := [
  sampleCartAdd,
  .post (samplePost .cartCheckout samplePayload),
  .viewCart 0,
  .post (samplePost .cartCheckout samplePayload)]

theorem checkedOutOnce_run_retriedCheckout : CheckedOutOnce sampleCheckoutSettings sampleShop retriedCheckout :=
  (checkedOutOnce_run sampleCheckoutSettings sampleShop_initial (by decide +kernel) (fun _ _ _ _ same => same)).mp
    (by decide +kernel)

/-- Two bookings are checked out, and POST /bookings/ gets the same body under the same key. -/
def crossedRetry : List ShopStep := [
  sampleCartAdd,
  .post (samplePost .cartCheckout mixedPayload),
  .post (samplePost .bookings mixedPayload)]

def unpricedRetry : List ShopStep := [
  sampleCartAdd,
  .post (samplePost .cartCheckout samplePayload),
  .operation (.editDirectory { sampleDirectory with services := [sampleService, unpricedService] }),
  .post (samplePost .cartCheckout samplePayload)]

theorem checkout_retries_fail :
    ¬ CheckedOutOnce sampleCheckoutSettings sampleShop crossedRetry ∧
      ¬ CheckedOutOnce sampleCheckoutSettings sampleShop unpricedRetry := by
  constructor
  · intro once
    have posted : PostedTwice sampleCheckoutSettings sampleShop crossedRetry (samplePost .cartCheckout mixedPayload)
        (samplePost .bookings mixedPayload) _ _ := ⟨[sampleCartAdd], [], [], rfl, rfl, rfl⟩
    have again := once.shownAgain [0, 1] posted ⟨rfl, "checkout-request-0001", by rfl, by rfl⟩ rfl
      (.inr (by decide +kernel)) (by decide +kernel)
    exact absurd again (by decide +kernel)
  · intro once
    have posted : PostedTwice sampleCheckoutSettings sampleShop unpricedRetry (samplePost .cartCheckout samplePayload)
        (samplePost .cartCheckout samplePayload) _ _ := ⟨[sampleCartAdd], [_], [], rfl, rfl, rfl⟩
    have again := once.shownAgain [0] posted ⟨rfl, "checkout-request-0001", by rfl, by rfl⟩ rfl
      (.inl rfl) (by decide +kernel)
    exact absurd again (by decide +kernel)

end PsCore
