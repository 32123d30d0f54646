import PsCore.CheckoutCore
import PsCore.Library.KeyOrder

/-!
What a request's fingerprint tells apart. Two bodies have one text, and so one fingerprint, just
when they differ in the order of keys alone, and a key that was used for one of them is taken
again for the other just then.
-/

namespace PsCore

open Fallible RowTable KeyOrder

/-- A decoded body: the keys of a dict are distinct, in whatever order they came. -/
structure JsonRequest where
  body : Body
  distinct : distinctKeys body = true

namespace Body

theorem entriesSorted_iff (entries : List (String × Body)) :
    entriesSorted entries = true ↔ ∀ entry ∈ entries, keysSorted entry.2 = true := by
  induction entries with
  | nil => simp [entriesSorted]
  | cons entry rest ih => simp [entriesSorted, ih]

mutual

theorem sortKeys_sorted {body : Body} (distinct : distinctKeys body = true) : keysSorted (sortKeys body) = true := by
  cases body with
  | list items => exact sortItems_sorted distinct
  | dict entries =>
      simp only [distinctKeys, Bool.and_eq_true, decide_eq_true_eq] at distinct
      simp only [sortKeys, keysSorted, Bool.and_eq_true, decide_eq_true_eq]
      constructor
      · exact insertionSort_increases (by rw [keys_sortEntries]; exact distinct.1)
      · rw [entriesSorted_iff]
        intro entry member
        rw [List.mem_insertionSort] at member
        exact (entriesSorted_iff _).mp (sortEntries_sorted distinct.2) entry member
  | _ => rfl

theorem sortItems_sorted {items : List Body} (distinct : itemsDistinct items = true) :
    itemsSorted (sortItems items) = true := by
  cases items with
  | nil => rfl
  | cons item rest =>
      rw [itemsDistinct, Bool.and_eq_true] at distinct
      rw [sortItems, itemsSorted, sortKeys_sorted distinct.1, sortItems_sorted distinct.2]
      rfl

theorem sortEntries_sorted {entries : List (String × Body)} (distinct : entriesDistinct entries = true) :
    entriesSorted (sortEntries entries) = true := by
  match entries with
  | [] => rfl
  | (key, value) :: rest =>
      rw [entriesDistinct, Bool.and_eq_true] at distinct
      rw [sortEntries, entriesSorted, sortKeys_sorted distinct.1, sortEntries_sorted distinct.2]
      rfl

end

end Body

namespace JsonRequest

def payload (request : JsonRequest) : Payload where
  body := sortKeys request.body
  sorted := Body.sortKeys_sorted request.distinct

def fingerprint (sha256 : List (Fin 256) → List (Fin 256)) (request : JsonRequest) : String :=
  requestFingerprint sha256 request.payload

def SameAs (first second : JsonRequest) : Prop :=
  Same first.body second.body

theorem payload_eq_iff {first second : JsonRequest} : first.payload = second.payload ↔ first.SameAs second := by
  constructor
  · intro same
    exact same_of_sortKeys_eq (congrArg Payload.body same)
  · intro same
    have sorted : first.payload.body = second.payload.body := (sortKeys_eq_iff first.distinct second.distinct).mpr same
    cases firstPayload : first.payload
    cases secondPayload : second.payload
    rw [firstPayload, secondPayload] at sorted
    subst sorted
    rfl

theorem encoded_eq_iff {first second : JsonRequest} :
    first.payload.encoded = second.payload.encoded ↔ first.SameAs second := by
  rw [← payload_eq_iff]
  exact ⟨Payload.encoded_injective, congrArg Payload.encoded⟩

theorem fingerprint_eq_iff {sha256 : List (Fin 256) → List (Fin 256)} {first second : JsonRequest}
    (apart : NoCollision sha256 [first.payload, second.payload]) :
    first.fingerprint sha256 = second.fingerprint sha256 ↔ first.SameAs second := by
  rw [← payload_eq_iff]
  constructor
  · intro same
    exact apart.fingerprint (by simp) (by simp) same
  · intro same
    rw [fingerprint, fingerprint, same]

end JsonRequest

def differentCheckout : ServiceError := .fieldValidation [("idempotency_key",
  "This Idempotency-Key was already used for a different checkout request.")]

theorem beginCheckoutRequest_used {customer : UserId} {key fingerprint : String} {bookings : List Booking}
    {checkouts : CheckoutTable} {recordId : Nat} {record : CheckoutRequest}
    (used : firstRow (CheckoutRequest.isOf customer key) checkouts.rows = some (recordId, record)) :
    beginCheckoutRequest customer key fingerprint bookings checkouts = .error differentCheckout ↔
      record.requestFingerprint ≠ fingerprint := by
  have got : getOrCreateCheckoutRequest customer key fingerprint checkouts = .ok (recordId, record, checkouts) := by
    rw [getOrCreateCheckoutRequest, used]
  simp only [beginCheckoutRequest, got, bind, Except.bind, require]
  by_cases same : record.requestFingerprint = fingerprint
  · rw [if_pos same]
    refine iff_of_false ?_ fun differ => differ same
    simp only
    split
    · rintro ⟨⟩
    · split
      · rename_i refused
        split at refused
        · cases refused
        · cases refused
          rintro ⟨⟩
      · rintro ⟨⟩
  · rw [if_neg same]
    exact iff_of_true rfl same

/-- The text of a request and its fingerprint are canonical, and a key is taken again for the same request alone. -/
theorem requestText_canonical {sha256 : List (Fin 256) → List (Fin 256)} {first second : JsonRequest}
    (apart : NoCollision sha256 [first.payload, second.payload]) :
    (first.payload.encoded = second.payload.encoded ↔ first.SameAs second) ∧
    (first.fingerprint sha256 = second.fingerprint sha256 ↔ first.SameAs second) ∧
    ∀ customer key bookings (checkouts : CheckoutTable) recordId record,
      firstRow (CheckoutRequest.isOf customer key) checkouts.rows = some (recordId, record) →
      record.requestFingerprint = first.fingerprint sha256 →
      (beginCheckoutRequest customer key (second.fingerprint sha256) bookings checkouts = .error differentCheckout ↔
        ¬ first.SameAs second) := by
  refine ⟨JsonRequest.encoded_eq_iff, JsonRequest.fingerprint_eq_iff apart, ?_⟩
  intro customer key bookings checkouts recordId record used recorded
  rw [beginCheckoutRequest_used used, recorded, Ne, JsonRequest.fingerprint_eq_iff apart]

def sampleJsonRequest : JsonRequest where
  body := .dict [("b", .text "é"), ("a", .list [.null, .number (.integer 1)])]
  distinct := by decide

def rearrangedJsonRequest : JsonRequest where
  body := .dict [("a", .list [.null, .number (.integer 1)]), ("b", .text "é")]
  distinct := by decide

def otherJsonRequest : JsonRequest where
  body := .dict [("a", .list [.number (.integer 1), .null]), ("b", .text "é")]
  distinct := by decide

def requestDigest (message : List (Fin 256)) : List (Fin 256) :=
  let bytes := if message = sampleJsonRequest.payload.encoded then
    [135, 118, 90, 244, 40, 185, 159, 253, 212, 46, 116, 187, 233, 241, 215, 135, 172, 229, 118, 64, 179, 203, 247, 163,
      234, 95, 109, 15, 244, 126, 99, 230]
  else
    [253, 175, 241, 251, 234, 139, 78, 181, 30, 72, 18, 139, 29, 181, 11, 170, 95, 63, 246, 40, 90, 77, 102, 248, 141,
      133, 115, 186, 188, 64, 15, 212]
  bytes.filterMap fun byte => if small : byte < 256 then some ⟨byte, small⟩ else none

theorem requestText_canonical_sample :
    sampleJsonRequest.fingerprint requestDigest = rearrangedJsonRequest.fingerprint requestDigest ∧
      sampleJsonRequest.fingerprint requestDigest ≠ otherJsonRequest.fingerprint requestDigest := by
  have rearranged : sampleJsonRequest.SameAs rearrangedJsonRequest := JsonRequest.encoded_eq_iff.mp (by decide +kernel)
  have different : ¬ sampleJsonRequest.SameAs otherJsonRequest := by
    rw [← JsonRequest.encoded_eq_iff]
    decide +kernel
  constructor
  · refine (requestText_canonical ?_).2.1.mpr rearranged
    unfold NoCollision
    decide +kernel
  · refine fun same => different ((requestText_canonical ?_).2.1.mp same)
    unfold NoCollision
    decide +kernel

end PsCore
