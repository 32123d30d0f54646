import PsCore.Amounts

/-!
The edits of a service. A payload may leave any field out; validation, the synchronised advance and the cleaning
each work out the price and the advance that result from what it has and what is stored.
-/

namespace PsCore

open Fallible

/-- What a payload holds: a field that is `none` is left out, and the nullable ones may hold a null. -/
structure ServicePayload where
  basePrice : Option Money
  sellingPrice : Option (Option Money)
  advancePaymentType : Option AdvancePaymentType
  advancePaymentValue : Option (Option Int)
  trainingFee : Option Money
  trainingFeePerUnit : Option Bool
  isActive : Option Bool
  /-- Whether the category that the payload names is active. -/
  categoryIsActive : Option Bool
  deriving DecidableEq, Repr

/-- A new service before its attributes are set: the defaults of the model. -/
def blankService : ServiceFields where
  basePrice := 0
  sellingPrice := none
  advancePaymentType := .fixed
  advancePaymentValue := none
  advanceAmount := 0
  trainingFee := 0
  trainingFeePerUnit := false
  isActive := true
  categoryIsActive := true

def requiredErrors (stored : Option ServiceFields) (attrs : ServicePayload) : List (String × String) :=
  if stored.isNone then
    (if attrs.categoryIsActive.isNone then [("category", "This field is required.")] else []) ++
    (if attrs.basePrice.isNone then [("base_price", "This field is required.")] else [])
  else []

def validateService (stored : Option ServiceFields) (attrs : ServicePayload) :
    Except ServiceError ServicePayload := do
  let basePrice := attrs.basePrice.orElse fun _ => stored.map (·.basePrice)
  let sellingPrice := attrs.sellingPrice.getD (stored.bind (·.sellingPrice))
  let advanceType := attrs.advancePaymentType.getD ((stored.map (·.advancePaymentType)).getD .fixed)
  let advanceValue := (attrs.advancePaymentValue.getD (stored.bind (·.advancePaymentValue))).getD
    ((stored.map (·.advanceAmount)).getD 0)
  let effectivePrice := sellingPrice.orElse fun _ => basePrice
  require (¬ basePrice.any (· < 0) = true) (.fieldValidation [("base_price", "Base price cannot be negative.")])
  require (¬ sellingPrice.any (· < 0) = true)
    (.fieldValidation [("selling_price", "Selling price cannot be negative.")])
  require (¬ advanceValue < 0)
    (.fieldValidation [("advance_payment_value", "Advance payment value cannot be negative.")])
  let trainingFee := attrs.trainingFee.getD ((stored.map (·.trainingFee)).getD 0)
  require (¬ trainingFee < 0) (.fieldValidation [("training_fee", "Training fee cannot be negative.")])
  require (¬(advanceType = .percentage ∧ advanceValue > 10000))
    (.fieldValidation [("advance_payment_value", "Advance percentage cannot exceed 100.")])
  require (¬(advanceType = .fixed ∧ effectivePrice.any (advanceValue > ·) = true))
    (.fieldValidation [("advance_payment_value", "Advance amount cannot exceed service price.")])
  pure attrs

structure SyncedService where
  payload : ServicePayload
  advancePaymentValue : Int
  advanceAmount : Money
  deriving DecidableEq, Repr

def withSyncedAdvance (stored : Option ServiceFields) (validated : ServicePayload) :
    Except ServiceError SyncedService := do
  let basePrice := validated.basePrice.orElse fun _ => stored.map (·.basePrice)
  let sellingPrice := validated.sellingPrice.getD (stored.bind (·.sellingPrice))
  let advanceType := validated.advancePaymentType.getD ((stored.map (·.advancePaymentType)).getD .fixed)
  let fallbackAdvance := (stored.map (·.advanceAmount)).getD 0
  let advanceValue := (validated.advancePaymentValue.getD (stored.bind (·.advancePaymentValue))).getD fallbackAdvance
  let effectivePrice := sellingPrice.orElse fun _ => basePrice
  let advanceAmount ← match advanceType with
    | .percentage => do
        let price ← orRaise effectivePrice .typeError
        pure (roundHalfEven (price * advanceValue) 10000)
    | .fixed => pure advanceValue
  pure { payload := validated, advancePaymentValue := advanceValue, advanceAmount := advanceAmount }

def ServicePayload.assignedTo (attrs : ServicePayload) (service : ServiceFields) : ServiceFields where
  basePrice := attrs.basePrice.getD service.basePrice
  sellingPrice := attrs.sellingPrice.getD service.sellingPrice
  advancePaymentType := attrs.advancePaymentType.getD service.advancePaymentType
  advancePaymentValue := attrs.advancePaymentValue.getD service.advancePaymentValue
  advanceAmount := service.advanceAmount
  trainingFee := attrs.trainingFee.getD service.trainingFee
  trainingFeePerUnit := attrs.trainingFeePerUnit.getD service.trainingFeePerUnit
  isActive := attrs.isActive.getD service.isActive
  categoryIsActive := attrs.categoryIsActive.getD service.categoryIsActive

def SyncedService.assignedTo (data : SyncedService) (service : ServiceFields) : ServiceFields :=
  { data.payload.assignedTo service with
    advancePaymentValue := some data.advancePaymentValue
    advanceAmount := data.advanceAmount }

/-- The service that an accepted payload makes, before it is saved. -/
def editedService (stored : Option ServiceFields) (attrs : ServicePayload) : Except ServiceError ServiceFields := do
  require (requiredErrors stored attrs = []) (.fieldValidation (requiredErrors stored attrs))
  let validated ← validateService stored attrs
  let data ← withSyncedAdvance stored validated
  pure (data.assignedTo (stored.getD blankService))

/-- `create` and `update`; a save runs the cleaning. -/
def saveService (stored : Option ServiceFields) (attrs : ServicePayload) : Except ServiceError Service := do
  let service ← editedService stored attrs
  if clean : service.cleanErrors = [] then pure { service with clean := clean }
  else .error (.fieldValidation service.cleanErrors)

def ServicePayload.resent (attrs : ServicePayload) (service : ServiceFields) : ServiceFields :=
  match saveService (some service) attrs with
  | .ok saved => saved.toServiceFields
  | .error _ => service

def ServicePayload.merged (attrs : ServicePayload) (stored : Option ServiceFields) : ServiceFields :=
  attrs.assignedTo (stored.getD blankService)

/-- The value of the advance: without one, the amount is read as the value. -/
def ServiceFields.advanceGiven (service : ServiceFields) : Int :=
  service.advancePaymentValue.getD service.advanceAmount

def ServiceFields.advanceFor (service : ServiceFields) (value : Int) : Money :=
  match service.advancePaymentType with
  | .percentage => roundHalfEven (service.effectivePrice * value) 10000
  | .fixed => value

def ServiceFields.synced (service : ServiceFields) : ServiceFields :=
  { service with
    advancePaymentValue := some service.advanceGiven
    advanceAmount := service.advanceFor service.advanceGiven }

def ServiceFields.cleared (service : ServiceFields) : ServiceFields := { service with advancePaymentValue := none }

structure ServiceFields.PassesValidation (service : ServiceFields) : Prop where
  basePrice : 0 ≤ service.basePrice
  sellingPrice : ∀ price, service.sellingPrice = some price → 0 ≤ price
  advanceNonneg : 0 ≤ service.advanceGiven
  trainingFee : 0 ≤ service.trainingFee
  percentage : service.advancePaymentType = .percentage → service.advanceGiven ≤ 10000
  fixed : service.advancePaymentType = .fixed → service.advanceGiven ≤ service.effectivePrice

section

variable {stored : Option ServiceFields} {attrs : ServicePayload}

theorem merged_basePrice (required : requiredErrors stored attrs = []) :
    (attrs.basePrice.orElse fun _ => stored.map (·.basePrice)) = some (attrs.merged stored).basePrice := by
  unfold ServicePayload.merged ServicePayload.assignedTo
  cases isPrice : attrs.basePrice with
  | some price => rfl
  | none =>
      cases stored with
      | some service => rfl
      | none => simp [requiredErrors, isPrice] at required

theorem merged_sellingPrice :
    attrs.sellingPrice.getD (stored.bind (·.sellingPrice)) = (attrs.merged stored).sellingPrice := by
  cases stored <;> rfl

theorem merged_advancePaymentType :
    attrs.advancePaymentType.getD ((stored.map (·.advancePaymentType)).getD .fixed) =
      (attrs.merged stored).advancePaymentType := by
  cases stored <;> rfl

theorem merged_advanceGiven :
    (attrs.advancePaymentValue.getD (stored.bind (·.advancePaymentValue))).getD
      ((stored.map (·.advanceAmount)).getD 0) = (attrs.merged stored).advanceGiven := by
  cases stored <;> rfl

theorem merged_trainingFee :
    attrs.trainingFee.getD ((stored.map (·.trainingFee)).getD 0) = (attrs.merged stored).trainingFee := by
  cases stored <;> rfl

theorem merged_effectivePrice (service : ServiceFields) :
    (service.sellingPrice.orElse fun _ => some service.basePrice) = some service.effectivePrice := by
  unfold ServiceFields.effectivePrice
  cases service.sellingPrice <;> rfl

theorem validateService_iff {validated : ServicePayload} (required : requiredErrors stored attrs = []) :
    validateService stored attrs = .ok validated ↔ attrs = validated ∧ (attrs.merged stored).PassesValidation := by
  simp only [validateService, merged_basePrice required, merged_sellingPrice, merged_advancePaymentType,
    merged_advanceGiven, merged_trainingFee, merged_effectivePrice, accepted_bind, accepted_require, accepted_pure]
  constructor
  · rintro ⟨_, basePrice, _, sellingPrice, _, advanceNonneg, _, trainingFee, _, percentage, _, fixed, rfl⟩
    refine ⟨rfl, ?_, ?_, ?_, ?_, ?_, ?_⟩
    · simpa using basePrice
    · intro price isPrice
      rw [isPrice] at sellingPrice
      simpa using sellingPrice
    · exact Int.not_lt.mp advanceNonneg
    · exact Int.not_lt.mp trainingFee
    · exact fun isPercentage => Int.not_lt.mp fun above => percentage ⟨isPercentage, above⟩
    · exact fun isFixed => Int.not_lt.mp fun above => fixed ⟨isFixed, by simpa using above⟩
  · rintro ⟨rfl, passes⟩
    refine ⟨(), ?_, (), ?_, (), ?_, (), ?_, (), ?_, (), ?_, rfl⟩
    · simpa using passes.basePrice
    · cases isPrice : (attrs.merged stored).sellingPrice with
      | none => simp
      | some price => simpa using passes.sellingPrice price isPrice
    · exact Int.not_lt.mpr passes.advanceNonneg
    · exact Int.not_lt.mpr passes.trainingFee
    · exact fun above => Int.not_lt.mpr (passes.percentage above.1) above.2
    · intro above
      have atMost := passes.fixed above.1
      simp only [Option.any_some, decide_eq_true_eq] at above
      exact Int.not_lt.mpr atMost above.2

theorem withSyncedAdvance_eq (required : requiredErrors stored attrs = []) :
    withSyncedAdvance stored attrs = .ok {
      payload := attrs
      advancePaymentValue := (attrs.merged stored).advanceGiven
      advanceAmount := (attrs.merged stored).advanceFor (attrs.merged stored).advanceGiven } := by
  simp only [withSyncedAdvance, merged_basePrice required, merged_sellingPrice, merged_advancePaymentType,
    merged_advanceGiven, merged_effectivePrice, orRaise, ok_bind]
  unfold ServiceFields.advanceFor
  cases (attrs.merged stored).advancePaymentType <;> rfl

theorem editedService_iff {service : ServiceFields} :
    editedService stored attrs = .ok service ↔
      requiredErrors stored attrs = [] ∧ (attrs.merged stored).PassesValidation ∧
        (attrs.merged stored).synced = service := by
  unfold editedService
  simp only [accepted_bind, accepted_require, accepted_pure]
  constructor
  · rintro ⟨_, required, validated, valid, data, isData, rfl⟩
    obtain ⟨rfl, passes⟩ := (validateService_iff required).mp valid
    rw [withSyncedAdvance_eq required, Except.ok.injEq] at isData
    subst isData
    exact ⟨required, passes, rfl⟩
  · rintro ⟨required, passes, rfl⟩
    have valid := (validateService_iff required).mpr ⟨rfl, passes⟩
    exact ⟨(), required, attrs, valid, _, withSyncedAdvance_eq required, rfl⟩

end

theorem ServiceFields.PassesValidation.effectivePrice {service : ServiceFields} (passes : service.PassesValidation) :
    0 ≤ service.effectivePrice := by
  unfold ServiceFields.effectivePrice
  cases isPrice : service.sellingPrice with
  | none => exact passes.basePrice
  | some price => exact passes.sellingPrice price isPrice

theorem advanceFor_bounds {service : ServiceFields} (passes : service.PassesValidation) :
    0 ≤ service.advanceFor service.advanceGiven ∧
      service.advanceFor service.advanceGiven ≤ service.effectivePrice := by
  have price := passes.effectivePrice
  unfold ServiceFields.advanceFor
  cases isType : service.advancePaymentType with
  | fixed => exact ⟨passes.advanceNonneg, passes.fixed isType⟩
  | percentage =>
      have atMost := Int.mul_le_mul_of_nonneg_left (passes.percentage isType) price
      exact ⟨roundHalfEven_nonneg _ (Int.mul_nonneg price passes.advanceNonneg),
        roundHalfEven_le (by decide) atMost⟩

theorem synced_clean {service : ServiceFields} (passes : service.PassesValidation) :
    service.synced.cleanErrors = [] := by
  obtain ⟨nonneg, atMost⟩ := advanceFor_bounds passes
  have sellingPrice : ¬ service.sellingPrice.any (· < 0) = true := by
    cases isPrice : service.sellingPrice with
    | none => simp
    | some price => simpa using passes.sellingPrice price isPrice
  have basePrice := Int.not_lt.mpr passes.basePrice
  have given := Int.not_lt.mpr passes.advanceNonneg
  have trainingFee := Int.not_lt.mpr passes.trainingFee
  have percentage : ¬(service.advancePaymentType = .percentage ∧ service.advanceGiven > 10000) :=
    fun above => Int.not_lt.mpr (passes.percentage above.1) above.2
  simp only [ServiceFields.cleanErrors_nil, ServiceFields.negativeErrors, List.append_eq_nil_iff]
  exact ⟨⟨⟨⟨⟨if_neg basePrice, if_neg sellingPrice⟩, if_neg (Int.not_lt.mpr nonneg)⟩,
    if_neg fun below => given (by simpa [ServiceFields.synced] using below)⟩, if_neg trainingFee⟩,
    fun above => percentage ⟨above.1, by simpa [ServiceFields.synced] using above.2⟩, Int.not_lt.mpr atMost⟩

/-! The same payload once more. -/

/-- A null that makes the stored amount a percentage, of which the amount that comes of it is another one: away from
a price of 100.00 by more than rounding takes back, and still accepted as a percentage the next time. -/
def ServicePayload.RereadsAmount (attrs : ServicePayload) (stored : Option ServiceFields) : Prop :=
  let service := attrs.merged stored
  let gap := (service.effectivePrice - 10000) * service.advanceAmount
  attrs.advancePaymentValue = some none ∧ service.advancePaymentType = .percentage ∧
    (5000 < gap.natAbs ∨ (gap.natAbs = 5000 ∧ service.advanceAmount % 2 = 1)) ∧
    service.effectivePrice * service.advanceAmount ≤ 100005000

/-- The service is clean, its advance is that of its value, and the same payload changes nothing more. -/
structure SoundEdit (attrs : ServicePayload) (service : ServiceFields) : Prop where
  clean : service.cleanErrors = []
  advance : ∃ value, service.advancePaymentValue = some value ∧
    (service.advancePaymentType = .fixed → service.advanceAmount = value) ∧
    (service.advancePaymentType = .percentage →
      service.advanceAmount = roundHalfEven (service.effectivePrice * value) 10000)
  again : attrs.resent service = service

theorem roundHalfEven_percent_fixed_iff (price amount : Int) :
    roundHalfEven (price * amount) 10000 = amount ↔
      ¬(5000 < ((price - 10000) * amount).natAbs ∨
        (((price - 10000) * amount).natAbs = 5000 ∧ amount % 2 = 1)) := by
  have gap : (price - 10000) * amount = price * amount - 10000 * amount := Int.sub_mul ..
  rw [gap]
  generalize price * amount = numerator
  simp only [roundHalfEven]
  split
  · omega
  · split
    · omega
    · split <;> omega

theorem roundHalfEven_percent_le_iff (numerator : Int) :
    roundHalfEven numerator 10000 ≤ 10000 ↔ numerator ≤ 100005000 := by
  simp only [roundHalfEven]
  split
  · omega
  · split
    · omega
    · split <;> omega

section

variable {stored : Option ServiceFields} {attrs : ServicePayload}

theorem getD_twice {α : Type} (value : Option α) (other : α) : value.getD (value.getD other) = value.getD other := by
  cases value <;> rfl

theorem synced_synced (service : ServiceFields) : service.synced.synced = service.synced := rfl

theorem merged_again (attrs : ServicePayload) (stored : Option ServiceFields) :
    attrs.merged (some (attrs.merged stored).synced) =
      { (attrs.merged stored).synced with
        advancePaymentValue := attrs.advancePaymentValue.getD (some (attrs.merged stored).advanceGiven) } := by
  simp only [ServicePayload.merged, ServicePayload.assignedTo, ServiceFields.synced, Option.getD_some, getD_twice]

theorem ServiceFields.PassesValidation.synced {service : ServiceFields} (passes : service.PassesValidation) :
    service.synced.PassesValidation :=
  ⟨passes.basePrice, passes.sellingPrice, passes.advanceNonneg, passes.trainingFee, passes.percentage, passes.fixed⟩

theorem saveService_of_passes {service : ServiceFields} (passes : (attrs.merged (some service)).PassesValidation) :
    attrs.resent service = (attrs.merged (some service)).synced := by
  have edited : editedService (some service) attrs = .ok (attrs.merged (some service)).synced :=
    editedService_iff.mpr ⟨rfl, passes, rfl⟩
  unfold ServicePayload.resent saveService
  rw [edited, ok_bind, dif_pos (synced_clean passes)]
  rfl

theorem resent_of_not_passes {service : ServiceFields} (fails : ¬ (attrs.merged (some service)).PassesValidation) :
    attrs.resent service = service := by
  unfold ServicePayload.resent
  split
  · rename_i saved accepted
    simp only [saveService, accepted_bind] at accepted
    obtain ⟨edited, isEdited, _⟩ := accepted
    exact absurd (editedService_iff.mp isEdited).2.1 fails
  · rfl

theorem resent_given (passes : (attrs.merged stored).PassesValidation)
    (given : attrs.advancePaymentValue ≠ some none) :
    attrs.resent (attrs.merged stored).synced = (attrs.merged stored).synced := by
  have same : attrs.merged (some (attrs.merged stored).synced) = (attrs.merged stored).synced := by
    rw [merged_again]
    cases isValue : attrs.advancePaymentValue with
    | none => rfl
    | some entered =>
        cases entered with
        | none => exact absurd isValue given
        | some value =>
            have isGiven : (attrs.merged stored).advanceGiven = value := by
              simp [ServicePayload.merged, ServicePayload.assignedTo, ServiceFields.advanceGiven, isValue]
            simp only [Option.getD_some, ServiceFields.synced, isGiven]
  rw [saveService_of_passes (by rw [same]; exact passes.synced), same, synced_synced]

theorem cleared_passes_iff {service : ServiceFields} (passes : service.PassesValidation) :
    service.synced.cleared.PassesValidation ↔
      (service.advancePaymentType = .percentage → service.advanceFor service.advanceGiven ≤ 10000) := by
  obtain ⟨nonneg, atMost⟩ := advanceFor_bounds passes
  constructor
  · exact fun again => again.percentage
  · exact fun percentage =>
      ⟨passes.basePrice, passes.sellingPrice, nonneg, passes.trainingFee, percentage, fun _ => atMost⟩

theorem cleared_synced_iff (service : ServiceFields) :
    service.synced.cleared.synced = service.synced ↔
      service.advanceFor service.advanceGiven = service.advanceGiven := by
  constructor
  · intro same
    exact Option.some.inj (congrArg ServiceFields.advancePaymentValue same)
  · intro same
    have amount : service.synced.cleared.advanceFor service.synced.cleared.advanceGiven =
        service.advanceFor service.advanceGiven := congrArg service.advanceFor same
    have value : service.synced.cleared.advanceGiven = service.advanceGiven := same
    rw [ServiceFields.synced, amount, value]
    rfl

theorem resent_null (passes : (attrs.merged stored).PassesValidation) (null : attrs.advancePaymentValue = some none) :
    attrs.resent (attrs.merged stored).synced = (attrs.merged stored).synced ↔ ¬ attrs.RereadsAmount stored := by
  have given : (attrs.merged stored).advanceGiven = (attrs.merged stored).advanceAmount := by
    simp [ServicePayload.merged, ServicePayload.assignedTo, ServiceFields.advanceGiven, null]
  have again : attrs.merged (some (attrs.merged stored).synced) = (attrs.merged stored).synced.cleared := by
    rw [merged_again, null]
    rfl
  have passesAgain := cleared_passes_iff passes
  have same := cleared_synced_iff (attrs.merged stored)
  unfold ServicePayload.RereadsAmount
  rw [given] at passesAgain same
  rw [← again] at passesAgain
  generalize attrs.merged stored = service at *
  cases isType : service.advancePaymentType with
  | fixed =>
      have kept : service.advanceFor service.advanceAmount = service.advanceAmount := by
        unfold ServiceFields.advanceFor
        rw [isType]
      simp only [isType, reduceCtorEq, false_implies, iff_true] at passesAgain
      rw [saveService_of_passes passesAgain, again, same.mpr kept]
      simp [isType]
  | percentage =>
      have rounded : service.advanceFor service.advanceAmount =
          roundHalfEven (service.effectivePrice * service.advanceAmount) 10000 := by
        unfold ServiceFields.advanceFor
        rw [isType]
      rw [rounded, roundHalfEven_percent_fixed_iff] at same
      simp only [isType, rounded, roundHalfEven_percent_le_iff, true_implies] at passesAgain
      by_cases fits : service.effectivePrice * service.advanceAmount ≤ 100005000
      · rw [saveService_of_passes (passesAgain.mpr fits), again, same]
        simp only [null, isType, fits, and_true, true_and]
      · rw [resent_of_not_passes (mt passesAgain.mp fits)]
        simp [fits]

end

/-- An accepted payload makes a clean service with the advance of its value, and sending it again changes nothing
unless a null makes the amount a percentage of another amount. -/
theorem soundEdit_iff {stored : Option ServiceFields} {attrs : ServicePayload} {service : ServiceFields}
    (accepted : editedService stored attrs = .ok service) :
    SoundEdit attrs service ↔ ¬ attrs.RereadsAmount stored := by
  obtain ⟨_, passes, rfl⟩ := editedService_iff.mp accepted
  have again : attrs.resent (attrs.merged stored).synced = (attrs.merged stored).synced ↔
      ¬ attrs.RereadsAmount stored := by
    by_cases null : attrs.advancePaymentValue = some none
    · exact resent_null passes null
    · exact iff_of_true (resent_given passes null) fun rereads => null rereads.1
  constructor
  · exact fun sound => again.mp sound.again
  · intro keeps
    refine ⟨synced_clean passes, ⟨(attrs.merged stored).advanceGiven, rfl, ?_, ?_⟩, again.mpr keeps⟩
    · intro isFixed
      have isType : (attrs.merged stored).advancePaymentType = .fixed := isFixed
      simp only [ServiceFields.synced, ServiceFields.advanceFor, isType]
    · intro isPercentage
      have isType : (attrs.merged stored).advancePaymentType = .percentage := isPercentage
      simp only [ServiceFields.synced, ServiceFields.advanceFor, isType]
      rfl

def cheapService : Service where
  basePrice := 30000
  sellingPrice := none
  advancePaymentType := .fixed
  advancePaymentValue := some 2000
  advanceAmount := 2000
  trainingFee := 0
  trainingFeePerUnit := false
  isActive := true
  categoryIsActive := true
  clean := by decide

def percentagePayload : ServicePayload where
  basePrice := none
  sellingPrice := none
  advancePaymentType := some .percentage
  advancePaymentValue := some none
  trainingFee := none
  trainingFeePerUnit := none
  isActive := none
  categoryIsActive := none

def enteredPayload : ServicePayload := { percentagePayload with advancePaymentValue := some (some 1000) }

theorem soundEdit_iff_entered :
    SoundEdit enteredPayload { cheapService.toServiceFields with
      advancePaymentType := .percentage
      advancePaymentValue := some 1000
      advanceAmount := 3000 } := by
  have accepted : editedService (some cheapService.toServiceFields) enteredPayload =
      .ok { cheapService.toServiceFields with
        advancePaymentType := .percentage
        advancePaymentValue := some 1000
        advanceAmount := 3000 } := rfl
  exact (soundEdit_iff accepted).mpr fun rereads => nomatch rereads.1

theorem reread_advance_changes :
    ¬ ∀ (stored : Option Service) (attrs : ServicePayload) (service : ServiceFields),
      editedService (stored.map (·.toServiceFields)) attrs = .ok service → SoundEdit attrs service := by
  intro always
  have again := (always (some cheapService) percentagePayload _ rfl).again
  -- 20.00 was read as 20 per cent, which are 60.00, and these as 60 per cent
  exact absurd again (by decide)

end PsCore
