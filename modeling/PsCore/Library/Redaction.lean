import PsCore.Library.JsonText

/-!
Redaction of JSON values: what stands under a sensitive key is replaced by a mark, at every
depth. The result is the one marked value that agrees with the given one elsewhere, so that
two values are redacted to the same one just when they agree outside the sensitive keys.
-/

namespace Redaction

section

variable {Number : Type} (sensitive : String → Bool) (mark : String)

mutual

def redact : JsonValue Number → JsonValue Number
  | .list items => .list (redactItems items)
  | .dict entries => .dict (redactEntries entries)
  | value => value

def redactItems : List (JsonValue Number) → List (JsonValue Number)
  | [] => []
  | item :: rest => redact item :: redactItems rest

def redactEntries : List (String × JsonValue Number) → List (String × JsonValue Number)
  | [] => []
  | (key, value) :: rest => (key, if sensitive key then .text mark else redact value) :: redactEntries rest

end

mutual

/-- The same value but for what stands under sensitive keys. -/
inductive Agree : JsonValue Number → JsonValue Number → Prop
  | null : Agree .null .null
  | boolean (value : Bool) : Agree (.boolean value) (.boolean value)
  | number (value : Number) : Agree (.number value) (.number value)
  | text (value : String) : Agree (.text value) (.text value)
  | list {items others : List (JsonValue Number)} : AgreeItems items others → Agree (.list items) (.list others)
  | dict {entries others : List (String × JsonValue Number)} :
      AgreeEntries entries others → Agree (.dict entries) (.dict others)

inductive AgreeItems : List (JsonValue Number) → List (JsonValue Number) → Prop
  | nil : AgreeItems [] []
  | cons {item other : JsonValue Number} {items others : List (JsonValue Number)} :
      Agree item other → AgreeItems items others → AgreeItems (item :: items) (other :: others)

inductive AgreeEntries : List (String × JsonValue Number) → List (String × JsonValue Number) → Prop
  | nil : AgreeEntries [] []
  | hidden {key : String} {value other : JsonValue Number} {entries others : List (String × JsonValue Number)} :
      sensitive key = true → AgreeEntries entries others →
      AgreeEntries ((key, value) :: entries) ((key, other) :: others)
  | shown {key : String} {value other : JsonValue Number} {entries others : List (String × JsonValue Number)} :
      Agree value other → AgreeEntries entries others →
      AgreeEntries ((key, value) :: entries) ((key, other) :: others)

end

inductive HasEntry (entry : String × JsonValue Number) : JsonValue Number → Prop
  | here {entries : List (String × JsonValue Number)} : entry ∈ entries → HasEntry entry (.dict entries)
  | item {items : List (JsonValue Number)} {item : JsonValue Number} :
      item ∈ items → HasEntry entry item → HasEntry entry (.list items)
  | value {entries : List (String × JsonValue Number)} {key : String} {value : JsonValue Number} :
      (key, value) ∈ entries → HasEntry entry value → HasEntry entry (.dict entries)

def Marked (value : JsonValue Number) : Prop :=
  ∀ entry, HasEntry entry value → sensitive entry.1 = true → entry.2 = .text mark

end

section

variable {Number : Type} {sensitive : String → Bool} {mark : String}

theorem marked_text (value : String) : Marked sensitive mark (.text value : JsonValue Number) := by
  rintro entry ⟨⟩

theorem Marked.item {items : List (JsonValue Number)} (marked : Marked sensitive mark (.list items))
    {item : JsonValue Number} (member : item ∈ items) : Marked sensitive mark item :=
  fun entry has => marked entry (.item member has)

theorem Marked.value {entries : List (String × JsonValue Number)} (marked : Marked sensitive mark (.dict entries))
    {key : String} {value : JsonValue Number} (member : (key, value) ∈ entries) : Marked sensitive mark value :=
  fun entry has => marked entry (.value member has)

mutual

theorem marked_redact (value : JsonValue Number) : Marked sensitive mark (redact sensitive mark value) := by
  cases value with
  | list items =>
      rintro entry (_ | ⟨member, has⟩)
      exact marked_redactItems items _ member entry has
  | dict entries =>
      rintro entry (member | _ | ⟨member, has⟩) isSensitive
      · exact (marked_redactEntries entries entry member).1 isSensitive
      · exact (marked_redactEntries entries _ member).2 entry has isSensitive
  | _ =>
      rintro entry ⟨⟩

theorem marked_redactItems (items : List (JsonValue Number)) :
    ∀ item ∈ redactItems sensitive mark items, Marked sensitive mark item := by
  cases items with
  | nil =>
      rintro item ⟨⟩
  | cons first rest =>
      intro item member
      rw [redactItems, List.mem_cons] at member
      rcases member with rfl | later
      · exact marked_redact first
      · exact marked_redactItems rest item later

theorem marked_redactEntries (entries : List (String × JsonValue Number)) :
    ∀ entry ∈ redactEntries sensitive mark entries,
      (sensitive entry.1 = true → entry.2 = .text mark) ∧ Marked sensitive mark entry.2 := by
  match entries with
  | [] =>
      rintro entry ⟨⟩
  | (key, value) :: rest =>
      intro entry member
      rw [redactEntries, List.mem_cons] at member
      rcases member with rfl | later
      · by_cases isSensitive : sensitive key = true
        · rw [if_pos isSensitive]
          exact ⟨fun _ => rfl, marked_text mark⟩
        · rw [if_neg isSensitive]
          exact ⟨fun sensitive => absurd sensitive isSensitive, marked_redact value⟩
      · exact marked_redactEntries rest entry later

end

mutual

theorem redact_of_marked {value : JsonValue Number} (marked : Marked sensitive mark value) :
    redact sensitive mark value = value := by
  cases value with
  | list items => rw [redact, redactItems_of_marked fun item member => marked.item member]
  | dict entries =>
      rw [redact, redactEntries_of_marked fun entry member => ⟨marked entry (.here member), marked.value member⟩]
  | _ => rfl

theorem redactItems_of_marked {items : List (JsonValue Number)}
    (marked : ∀ item ∈ items, Marked sensitive mark item) : redactItems sensitive mark items = items := by
  cases items with
  | nil => rfl
  | cons first rest =>
      rw [List.forall_mem_cons] at marked
      rw [redactItems, redact_of_marked marked.1, redactItems_of_marked marked.2]

theorem redactEntries_of_marked {entries : List (String × JsonValue Number)}
    (marked : ∀ entry ∈ entries, (sensitive entry.1 = true → entry.2 = .text mark) ∧ Marked sensitive mark entry.2) :
    redactEntries sensitive mark entries = entries := by
  match entries with
  | [] => rfl
  | (key, value) :: rest =>
      rw [List.forall_mem_cons] at marked
      rw [redactEntries, redactEntries_of_marked marked.2]
      by_cases isSensitive : sensitive key = true
      · have isMark : value = .text mark := marked.1.1 isSensitive
        rw [if_pos isSensitive, isMark]
      · rw [if_neg isSensitive, redact_of_marked marked.1.2]

end

theorem redact_redact (value : JsonValue Number) :
    redact sensitive mark (redact sensitive mark value) = redact sensitive mark value :=
  redact_of_marked (marked_redact value)

/-! What agrees. -/

mutual

theorem agree_redact (value : JsonValue Number) : Agree sensitive value (redact sensitive mark value) := by
  cases value with
  | null => exact .null
  | boolean value => exact .boolean value
  | number value => exact .number value
  | text value => exact .text value
  | list items => exact .list (agree_redactItems items)
  | dict entries => exact .dict (agree_redactEntries entries)

theorem agree_redactItems (items : List (JsonValue Number)) :
    AgreeItems sensitive items (redactItems sensitive mark items) := by
  cases items with
  | nil => exact .nil
  | cons first rest => exact .cons (agree_redact first) (agree_redactItems rest)

theorem agree_redactEntries (entries : List (String × JsonValue Number)) :
    AgreeEntries sensitive entries (redactEntries sensitive mark entries) := by
  match entries with
  | [] => exact .nil
  | (key, value) :: rest =>
      rw [redactEntries]
      by_cases isSensitive : sensitive key = true
      · exact .hidden isSensitive (agree_redactEntries rest)
      · rw [if_neg isSensitive]
        exact .shown (agree_redact value) (agree_redactEntries rest)

end

mutual

theorem Agree.redact_eq {value other : JsonValue Number} (agree : Agree sensitive value other) :
    redact sensitive mark value = redact sensitive mark other := by
  cases agree with
  | list items => rw [redact, redact, items.redact_eq]
  | dict entries => rw [redact, redact, entries.redact_eq]
  | _ => rfl

theorem AgreeItems.redact_eq {items others : List (JsonValue Number)} (agree : AgreeItems sensitive items others) :
    redactItems sensitive mark items = redactItems sensitive mark others := by
  cases agree with
  | nil => rfl
  | cons first rest => rw [redactItems, redactItems, first.redact_eq, rest.redact_eq]

theorem AgreeEntries.redact_eq {entries others : List (String × JsonValue Number)}
    (agree : AgreeEntries sensitive entries others) :
    redactEntries sensitive mark entries = redactEntries sensitive mark others := by
  cases agree with
  | nil => rfl
  | hidden isSensitive rest =>
      rw [redactEntries, redactEntries, if_pos isSensitive, if_pos isSensitive, rest.redact_eq]
  | shown value rest => rw [redactEntries, redactEntries, value.redact_eq, rest.redact_eq]

end

mutual

theorem agree_of_redact_eq {value other : JsonValue Number}
    (same : redact sensitive mark value = redact sensitive mark other) : Agree sensitive value other := by
  cases value with
  | null => cases other <;> simp only [redact, reduceCtorEq] at same; exact .null
  | boolean value =>
      cases other <;> simp only [redact, reduceCtorEq, JsonValue.boolean.injEq] at same
      subst same
      exact .boolean value
  | number value =>
      cases other <;> simp only [redact, reduceCtorEq, JsonValue.number.injEq] at same
      subst same
      exact .number value
  | text value =>
      cases other <;> simp only [redact, reduceCtorEq, JsonValue.text.injEq] at same
      subst same
      exact .text value
  | list items =>
      cases other <;> simp only [redact, reduceCtorEq, JsonValue.list.injEq] at same
      exact .list (agreeItems_of_redact_eq same)
  | dict entries =>
      cases other <;> simp only [redact, reduceCtorEq, JsonValue.dict.injEq] at same
      exact .dict (agreeEntries_of_redact_eq same)

theorem agreeItems_of_redact_eq {items others : List (JsonValue Number)}
    (same : redactItems sensitive mark items = redactItems sensitive mark others) :
    AgreeItems sensitive items others := by
  match items, others with
  | [], [] => exact .nil
  | [], _ :: _ => simp [redactItems] at same
  | _ :: _, [] => simp [redactItems] at same
  | first :: rest, other :: later =>
      rw [redactItems, redactItems, List.cons.injEq] at same
      exact .cons (agree_of_redact_eq same.1) (agreeItems_of_redact_eq same.2)

theorem agreeEntries_of_redact_eq {entries others : List (String × JsonValue Number)}
    (same : redactEntries sensitive mark entries = redactEntries sensitive mark others) :
    AgreeEntries sensitive entries others := by
  match entries, others with
  | [], [] => exact .nil
  | [], (_, _) :: _ => simp [redactEntries] at same
  | (_, _) :: _, [] => simp [redactEntries] at same
  | (key, value) :: rest, (otherKey, other) :: later =>
      simp only [redactEntries, List.cons.injEq, Prod.mk.injEq] at same
      obtain ⟨⟨sameKey, sameValue⟩, sameRest⟩ := same
      subst sameKey
      by_cases isSensitive : sensitive key = true
      · exact .hidden isSensitive (agreeEntries_of_redact_eq sameRest)
      · rw [if_neg isSensitive, if_neg isSensitive] at sameValue
        exact .shown (agree_of_redact_eq sameValue) (agreeEntries_of_redact_eq sameRest)

end

/-- Noninterference, and its converse: nothing else is lost. -/
theorem redact_eq_iff {value other : JsonValue Number} :
    redact sensitive mark value = redact sensitive mark other ↔ Agree sensitive value other :=
  ⟨agree_of_redact_eq, Agree.redact_eq⟩

/-- The redacted value is the marked one among those that agree with the given. -/
theorem eq_redact_iff {value result : JsonValue Number} :
    result = redact sensitive mark value ↔ Agree sensitive value result ∧ Marked sensitive mark result := by
  constructor
  · rintro rfl
    exact ⟨agree_redact value, marked_redact value⟩
  · rintro ⟨agree, marked⟩
    rw [agree.redact_eq, redact_of_marked marked]

end

end Redaction
