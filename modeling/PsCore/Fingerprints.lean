import Mathlib
import PsCore.TextCore
import PsCore.Library.JsonText

/-!
Request bodies and their fingerprints: `json.dumps` with sorted keys, in UTF-8, under SHA-256.
Where two digests differ whenever their messages do, a fingerprint tells bodies apart.
-/

namespace PsCore

def isRealCharacter (character : Char) : Bool :=
  character.isDigit || ['-', '+', '.', 'e', 'I', 'n', 'f', 'i', 't', 'y'].contains character

/-- What `repr` makes of a float: it begins like a number or like Infinity, and is no integer's text. -/
def isRealText (text : String) : Bool :=
  text.toList.all isRealCharacter && text.toList.any (['.', 'e', 'I'].contains ·) &&
  text.toList.head?.any fun first => first.isDigit || first == '-' || first == 'I'

inductive JsonNumber
  | integer (value : Int)
  | real (text : String) (shaped : isRealText text = true)
  deriving DecidableEq, Repr

abbrev Body := JsonValue JsonNumber

namespace Body

mutual

def keysSorted : Body → Bool
  | .list items => itemsSorted items
  | .dict entries => decide ((entries.map (·.1.toList)).Pairwise (· < ·)) && entriesSorted entries
  | _ => true

def itemsSorted : List Body → Bool
  | [] => true
  | item :: rest => keysSorted item && itemsSorted rest

def entriesSorted : List (String × Body) → Bool
  | [] => true
  | (_, value) :: rest => keysSorted value && entriesSorted rest

end

end Body

/-- A decoded body. A dict has no order: its entries are kept in the one that `sort_keys` writes. -/
structure Payload where
  body : Body
  sorted : body.keysSorted = true

def JsonNumber.digits : JsonNumber → List Char
  | .integer value => (toString value).toList
  | .real text _ => text.toList

def utf8 (text : List Char) : List (Fin 256) :=
  (text.flatMap String.utf8EncodeChar).map UInt8.toFin

theorem integer_characters (value : Int) :
    ∀ character ∈ (toString value).toList, character.isDigit = true ∨ character = '-' := by
  intro character member
  cases value with
  | ofNat magnitude =>
      have member : character ∈ (Nat.repr magnitude).toList := member
      rw [Nat.repr, String.toList_ofList] at member
      exact .inl (Nat.isDigit_of_mem_toDigits (by decide) (by decide) member)
  | negSucc magnitude =>
      have member : character ∈ ("-" ++ Nat.repr (magnitude + 1)).toList := member
      rw [String.toList_append, List.mem_append] at member
      rcases member with sign | digit
      · exact .inr (List.mem_singleton.mp sign)
      · rw [Nat.repr, String.toList_ofList] at digit
        exact .inl (Nat.isDigit_of_mem_toDigits (by decide) (by decide) digit)

theorem integer_nonempty (value : Int) : (toString value).toList ≠ [] := by
  cases value with
  | ofNat magnitude =>
      intro empty
      have empty : (Nat.repr magnitude).toList = [] := empty
      rw [Nat.repr, String.toList_ofList] at empty
      exact Nat.toDigits_ne_nil empty
  | negSucc magnitude =>
      intro empty
      have empty : ("-" ++ Nat.repr (magnitude + 1)).toList = [] := empty
      rw [String.toList_append] at empty
      cases empty

theorem numeric_not_mem {character : Char} {others : List Char}
    (numeric : character.isDigit = true ∨ character = '-')
    (apart : (others.all fun other => !other.isDigit && other != '-') = true) : character ∉ others := by
  intro member
  have other := List.all_eq_true.mp apart character member
  rcases numeric with isDigit | isSign
  · simp [isDigit] at other
  · simp [isSign] at other

theorem isRealText_cases {text : String} (shaped : isRealText text = true) :
    (∀ character ∈ text.toList, isRealCharacter character = true) ∧
      (∃ character ∈ text.toList, character ∈ ['.', 'e', 'I']) ∧
      ∃ first rest, text.toList = first :: rest ∧ (first.isDigit = true ∨ first = '-' ∨ first = 'I') := by
  simp only [isRealText, Bool.and_eq_true, List.all_eq_true, List.any_eq_true, List.contains_iff_mem] at shaped
  obtain ⟨⟨characters, mark⟩, head⟩ := shaped
  refine ⟨characters, mark, ?_⟩
  cases listed : text.toList with
  | nil => simp [listed] at head
  | cons first rest =>
      refine ⟨first, rest, rfl, ?_⟩
      simpa [listed, or_assoc] using head

theorem integer_ne_real {value : Int} {text : String} (shaped : isRealText text = true) :
    (toString value).toList ≠ text.toList := by
  intro same
  obtain ⟨_, ⟨mark, member, isMark⟩, _⟩ := isRealText_cases shaped
  rw [← same] at member
  exact numeric_not_mem (integer_characters value mark member) (by decide) isMark

def numberFormat : JsonText.NumberFormat JsonNumber where
  digits := JsonNumber.digits
  injective := by
    intro first second same
    cases first with
    | integer value =>
        cases second with
        | integer other => rw [Int.repr_injective (String.toList_injective same)]
        | real text shaped => exact (integer_ne_real shaped same).elim
    | real text shaped =>
        cases second with
        | integer other => exact (integer_ne_real shaped same.symm).elim
        | real other otherShaped =>
            have sameText : text = other := String.toList_injective same
            subst sameText
            rfl
  unpunctuated := by
    intro number character member
    cases number with
    | integer value => exact numeric_not_mem (integer_characters value character member) (by decide)
    | real text shaped =>
        have real := (isRealText_cases shaped).1 character member
        intro punctuation
        simp only [List.mem_cons, List.not_mem_nil, or_false] at punctuation
        rcases punctuation with rfl | rfl | rfl <;> exact absurd real (by decide)
  opening := by
    intro number
    cases number with
    | integer value =>
        cases listed : (toString value).toList with
        | nil => exact absurd listed (integer_nonempty value)
        | cons first rest =>
            have numeric := integer_characters value first (by rw [listed]; exact List.mem_cons_self)
            exact ⟨first, rest, listed, numeric_not_mem numeric (by decide)⟩
    | real text shaped =>
        obtain ⟨_, _, first, rest, listed, begins⟩ := isRealText_cases shaped
        refine ⟨first, rest, listed, ?_⟩
        rcases begins with isDigit | isSign | isInfinity
        · exact numeric_not_mem (.inl isDigit) (by decide)
        · exact numeric_not_mem (.inr isSign) (by decide)
        · rw [isInfinity]
          decide

/-! Fingerprints. -/

def Payload.encoded (payload : Payload) : List (Fin 256) :=
  utf8 (JsonText.dumps numberFormat payload.body)

def requestFingerprint (sha256 : List (Fin 256) → List (Fin 256)) (payload : Payload) : String :=
  hexdigest (sha256 payload.encoded)

theorem utf8_injective {first second : List Char} (same : utf8 first = utf8 second) : first = second := by
  have bytes : first.flatMap String.utf8EncodeChar = second.flatMap String.utf8EncodeChar :=
    List.map_injective_iff.mpr (fun left right => UInt8.toFin_inj.mp) same
  have text : String.ofList first = String.ofList second := by
    rw [← String.toByteArray_inj, String.toByteArray_ofList, String.toByteArray_ofList, List.utf8Encode, bytes,
      List.utf8Encode]
  rw [← String.toList_ofList (l := first), text, String.toList_ofList]

theorem Payload.encoded_injective {first second : Payload} (same : first.encoded = second.encoded) :
    first = second := by
  have body := JsonText.dumps_injective (utf8_injective same)
  cases first
  cases second
  subst body
  rfl

theorem hexDigits_injective {first second : Nat} (boundedFirst : first < 16) (boundedSecond : second < 16)
    (same : Nat.digitChar first = Nat.digitChar second) : first = second := by
  rw [← JsonText.hexValue_hexDigit first boundedFirst, JsonText.hexDigit, same]
  exact JsonText.hexValue_hexDigit second boundedSecond

theorem hexdigest_injective {first second : List (Fin 256)} (same : hexdigest first = hexdigest second) :
    first = second := by
  have characters := congrArg String.toList same
  simp only [hexdigest, String.toList_ofList] at characters
  clear same
  induction first generalizing second with
  | nil =>
      cases second with
      | nil => rfl
      | cons byte later => simp at characters
  | cons byte earlier ih =>
      cases second with
      | nil => simp at characters
      | cons other later =>
          simp only [List.flatMap_cons, List.cons_append, List.nil_append, List.cons.injEq] at characters
          obtain ⟨high, low, rest⟩ := characters
          have sameHigh := hexDigits_injective (by omega) (by omega) high
          have sameLow := hexDigits_injective (by omega) (by omega) low
          have sameByte : byte = other := Fin.ext (by omega)
          rw [sameByte, ih rest]

/-- No two of the bodies have one digest. -/
def NoCollision (sha256 : List (Fin 256) → List (Fin 256)) (payloads : List Payload) : Prop :=
  ∀ first ∈ payloads, ∀ second ∈ payloads, sha256 first.encoded = sha256 second.encoded →
    first.encoded = second.encoded

theorem NoCollision.fingerprint {sha256 : List (Fin 256) → List (Fin 256)} {payloads : List Payload}
    (apart : NoCollision sha256 payloads) {first second : Payload} (hasFirst : first ∈ payloads)
    (hasSecond : second ∈ payloads) (same : requestFingerprint sha256 first = requestFingerprint sha256 second) :
    first = second :=
  Payload.encoded_injective (apart first hasFirst second hasSecond (hexdigest_injective same))

end PsCore
