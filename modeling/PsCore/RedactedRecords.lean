import PsCore.Library.LowerCase
import PsCore.Library.Redaction

/-!
What of a gateway's payload and of an audit event's metadata is stored. The two functions have
each their own list of sensitive keys, and are both redaction under it.
-/

namespace PsCore

open LowerCase Redaction

section

variable {Number : Type} (endsWord : List Char → List Char → Bool)

def sensitivePayloadKeys : List String :=
  ["secret", "key_secret", "token", "authorization", "contact", "email"]

mutual

def redactPayload : JsonValue Number → JsonValue Number
  | .dict entries => .dict (redactPayloadEntries entries)
  | .list items => .list (redactPayloadItems items)
  | payload => payload

def redactPayloadItems : List (JsonValue Number) → List (JsonValue Number)
  | [] => []
  | value :: rest => redactPayload value :: redactPayloadItems rest

def redactPayloadEntries : List (String × JsonValue Number) → List (String × JsonValue Number)
  | [] => []
  | (key, value) :: rest =>
      (key, if sensitivePayloadKeys.contains (lower endsWord key) then .text "***" else redactPayload value) ::
        redactPayloadEntries rest

end

def sensitiveKeys : List String :=
  ["authorization", "password", "refresh", "token", "id_token", "signature", "razorpay_signature", "secret",
    "key_secret"]

mutual

/-- What is neither a container nor a scalar would become its text; no JSON value is. -/
def redactMapping : JsonValue Number → JsonValue Number
  | .dict entries => .dict (redactMappingEntries entries)
  | .list items => .list (redactMappingItems items)
  | .null => .null
  | .boolean value => .boolean value
  | .number value => .number value
  | .text value => .text value

def redactMappingItems : List (JsonValue Number) → List (JsonValue Number)
  | [] => []
  | item :: rest => redactMapping item :: redactMappingItems rest

def redactMappingEntries : List (String × JsonValue Number) → List (String × JsonValue Number)
  | [] => []
  | (key, item) :: rest =>
      (key, if sensitiveKeys.contains (lower endsWord key) then .text "***" else redactMapping item) ::
        redactMappingEntries rest

end

example : redactMapping (fun _ rest => rest.isEmpty)
    (.dict [("user", .dict [("Password", .number 1)]), ("to\u212Aen", .list [.null]), ("email", .text "a@b.c")]) =
    .dict [("user", .dict [("Password", .text "***")]), ("to\u212Aen", .text "***"), ("email", .text "a@b.c")] := by
  rfl

end

/-! Both are redaction. -/

def sensitiveIn (endsWord : List Char → List Char → Bool) (keys : List String) (key : String) : Bool :=
  keys.contains (lower endsWord key)

section

variable {Number : Type} (endsWord : List Char → List Char → Bool)

mutual

theorem redactPayload_eq (payload : JsonValue Number) :
    redactPayload endsWord payload = redact (sensitiveIn endsWord sensitivePayloadKeys) "***" payload := by
  cases payload with
  | list items => rw [redactPayload, redact, redactPayloadItems_eq]
  | dict entries => rw [redactPayload, redact, redactPayloadEntries_eq]
  | _ => rfl

theorem redactPayloadItems_eq (items : List (JsonValue Number)) :
    redactPayloadItems endsWord items = redactItems (sensitiveIn endsWord sensitivePayloadKeys) "***" items := by
  cases items with
  | nil => rfl
  | cons value rest => rw [redactPayloadItems, redactItems, redactPayload_eq, redactPayloadItems_eq]

theorem redactPayloadEntries_eq (entries : List (String × JsonValue Number)) :
    redactPayloadEntries endsWord entries =
      redactEntries (sensitiveIn endsWord sensitivePayloadKeys) "***" entries := by
  match entries with
  | [] => rfl
  | (key, value) :: rest =>
      rw [redactPayloadEntries, redactEntries, redactPayload_eq, redactPayloadEntries_eq]
      rfl

end

mutual

theorem redactMapping_eq (metadata : JsonValue Number) :
    redactMapping endsWord metadata = redact (sensitiveIn endsWord sensitiveKeys) "***" metadata := by
  cases metadata with
  | list items => rw [redactMapping, redact, redactMappingItems_eq]
  | dict entries => rw [redactMapping, redact, redactMappingEntries_eq]
  | _ => rfl

theorem redactMappingItems_eq (items : List (JsonValue Number)) :
    redactMappingItems endsWord items = redactItems (sensitiveIn endsWord sensitiveKeys) "***" items := by
  cases items with
  | nil => rfl
  | cons item rest => rw [redactMappingItems, redactItems, redactMapping_eq, redactMappingItems_eq]

theorem redactMappingEntries_eq (entries : List (String × JsonValue Number)) :
    redactMappingEntries endsWord entries = redactEntries (sensitiveIn endsWord sensitiveKeys) "***" entries := by
  match entries with
  | [] => rfl
  | (key, item) :: rest =>
      rw [redactMappingEntries, redactEntries, redactMapping_eq, redactMappingEntries_eq]
      rfl

end

end

/-- Redaction hides everything under the sensitive keys, nothing else, and once. -/
structure Redacts {Number : Type} (sensitive : String → Bool) (redacted : JsonValue Number → JsonValue Number) :
    Prop where
  precise : ∀ value, Agree sensitive value (redacted value)
  complete : ∀ value entry, HasEntry entry (redacted value) → sensitive entry.1 = true → entry.2 = .text "***"
  determined : ∀ value result, result = redacted value ↔ Agree sensitive value result ∧ Marked sensitive "***" result
  idempotent : ∀ value, redacted (redacted value) = redacted value
  blind : ∀ value other, redacted value = redacted other ↔ Agree sensitive value other

theorem redacts_of_eq {Number : Type} {sensitive : String → Bool} {redacted : JsonValue Number → JsonValue Number}
    (isRedact : ∀ value, redacted value = redact sensitive "***" value) : Redacts sensitive redacted := by
  have same : redacted = redact sensitive "***" := funext isRedact
  subst same
  exact ⟨agree_redact, marked_redact, fun _ _ => eq_redact_iff, redact_redact, fun _ _ => redact_eq_iff⟩

/-- Whatever ends a word, the stored payloads and the stored metadata are redacted. -/
theorem stored_redacted (Number : Type) (endsWord : List Char → List Char → Bool) :
    Redacts (sensitiveIn endsWord sensitivePayloadKeys) (redactPayload endsWord : JsonValue Number → JsonValue Number) ∧
      Redacts (sensitiveIn endsWord sensitiveKeys) (redactMapping endsWord : JsonValue Number → JsonValue Number) :=
  ⟨redacts_of_eq (redactPayload_eq endsWord), redacts_of_eq (redactMapping_eq endsWord)⟩

end PsCore
