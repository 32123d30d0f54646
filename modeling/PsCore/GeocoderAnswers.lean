import PsCore.AuthCore
import PsCore.CheckoutCore
import PsCore.Library.Outcomes

/-!
What becomes of a map provider's answer. The answer may be any JSON; what is read off it raises
where a type is not the expected one, and every such error is turned into the provider's own,
after which the other provider is asked.
-/

namespace PsCore.Geocoding

open Outcomes PsCore.Auth

structure LocationProviderError where
  message : String
  reason : String
  statusCode : Option String
  requestId : String
  deriving DecidableEq, Repr

def unavailable (statusCode : Option String) (requestId : String) : LocationProviderError where
  message := "Address lookup is temporarily unavailable."
  reason := "unavailable"
  statusCode := statusCode
  requestId := requestId

def misconfigured (statusCode : Option String) (requestId : String) : LocationProviderError where
  message := "Address lookup is not configured."
  reason := "misconfigured"
  statusCode := statusCode
  requestId := requestId

def malformedError (requestId : String) (statusCode : Nat) : LocationProviderError :=
  unavailable (some (toString statusCode)) requestId

inductive GeocodeError
  | locationProvider (error : LocationProviderError)
  | attributeError
  | typeError
  | valueError
  | keyError
  deriving DecidableEq, Repr

/-- `casefold` and `isPrintable` are those of the language, `isPrintable` beyond ASCII; `servesArea` is whether an
active service area matches the city or the postal code. -/
structure GeocoderSettings where
  apiKey : String
  casefold : String → String
  isPrintable : Char → Bool
  servesArea : String → String → Bool

abbrev Entries := List (String × Body)

abbrev Parsed (α : Type) := Except GeocodeError α

/-! What the language does with any value. -/

def truthy : Body → Bool
  | .null => false
  | .boolean value => value
  | .number (.integer value) => value != 0
  | .number (.real text _) => text != "0.0" && text != "-0.0"
  | .text value => value != ""
  | .list items => !items.isEmpty
  | .dict entries => !entries.isEmpty

def orElse (first second : Body) : Body :=
  if truthy first then first else second

def getOr (value : Body) (key : String) (fallback : Body) : Parsed Body :=
  match value with
  | .dict entries => .ok ((entries.lookup key).getD fallback)
  | _ => .error .attributeError

def get (value : Body) (key : String) : Parsed Body :=
  getOr value key .null

/-- `value.get(first) or value.get(second) or … or ""`. -/
def firstTruthy (value : Body) : List String → Parsed Body
  | [] => .ok (.text "")
  | key :: rest => do
      let given ← get value key
      if truthy given then pure given else firstTruthy value rest

def contains (text : String) : Body → Parsed Bool
  | .list items => .ok (items.any fun item => match item with
      | .text other => other == text
      | _ => false)
  | .text other => .ok (isWithin text.toList other.toList)
  | .dict entries => .ok ((entries.lookup text).isSome)
  | _ => .error .typeError

def anyContained (value : Body) : List String → Parsed Bool
  | [] => .ok false
  | text :: rest => do
      let found ← contains text value
      if found then pure true else anyContained value rest

section

variable (settings : GeocoderSettings)

def hexadecimal (width code : Nat) : List Char :=
  let digits := Nat.toDigits 16 code
  List.replicate (width - digits.length) '0' ++ digits

def escapedCharacter (quote character : Char) : List Char :=
  if character = '\\' then ['\\', '\\']
  else if character = quote then ['\\', quote]
  else if character = '\n' then ['\\', 'n']
  else if character = '\r' then ['\\', 'r']
  else if character = '\t' then ['\\', 't']
  else if character.toNat < 0x20 ∨ character.toNat = 0x7F then '\\' :: 'x' :: hexadecimal 2 character.toNat
  else if character.toNat < 0x80 ∨ settings.isPrintable character = true then [character]
  else if character.toNat < 0x100 then '\\' :: 'x' :: hexadecimal 2 character.toNat
  else if character.toNat < 0x10000 then '\\' :: 'u' :: hexadecimal 4 character.toNat
  else '\\' :: 'U' :: hexadecimal 8 character.toNat

/-- `repr` of a string: single quotes, unless it has some and no double ones. -/
def quoted (value : String) : String :=
  let characters := value.toList
  let quote := if '\'' ∈ characters ∧ '"' ∉ characters then '"' else '\''
  String.ofList (quote :: characters.flatMap (escapedCharacter settings quote) ++ [quote])

def numberText : JsonNumber → String
  | .integer value => toString value
  | .real text _ => if text = "Infinity" then "inf" else if text = "-Infinity" then "-inf" else text

mutual

def repr : Body → String
  | .null => "None"
  | .boolean value => if value then "True" else "False"
  | .number value => numberText value
  | .text value => quoted settings value
  | .list items => "[" ++ ", ".intercalate (reprItems items) ++ "]"
  | .dict entries => "\x7b" ++ ", ".intercalate (reprEntries entries) ++ "\x7d"

def reprItems : List Body → List String
  | [] => []
  | item :: rest => repr item :: reprItems rest

def reprEntries : Entries → List String
  | [] => []
  | (key, value) :: rest => (quoted settings key ++ ": " ++ repr value) :: reprEntries rest

end

def str : Body → String
  | .text value => value
  | value => repr settings value

def component (components : List Body) (types : List String) : Parsed String :=
  match components with
  | [] => .ok ""
  | .dict entries :: rest => do
      let itemTypes ← get (.dict entries) "types"
      let matching ← anyContained (orElse itemTypes (.list [])) types
      if matching then do
        let name ← firstTruthy (.dict entries) ["long_name", "short_name"]
        pure (str settings name)
      else component rest types
  | _ :: rest => component rest types

def isDecimal (character : Char) : Bool :=
  (digitValue character).isSome

/-- `PINCODE_PATTERN.search`, from a position on; `inDigits` is whether a digit stands before it. -/
def searchPincode (inDigits : Bool) : List Char → Option (List Char)
  | [] => none
  | first :: rest =>
      if !inDigits && '1' ≤ first && first ≤ '9' && (rest.take 5).length == 5 && (rest.take 5).all isDecimal &&
          !(rest.drop 5).head?.any isDecimal then
        some (first :: rest.take 5)
      else searchPincode (isDecimal first) rest

def pincodeFromText (text : String) : String :=
  ((searchPincode false text.toList).map String.ofList).getD ""

def cityFromText (text : String) : String :=
  (["Chennai", "Coimbatore"].find? fun city =>
    isWithin (settings.casefold city).toList (settings.casefold text).toList).getD ""

def supportedCities : List String := ["chennai", "coimbatore"]

def serviceability (city pincode : String) : Entries := [
  ("supported_city", .boolean (supportedCities.contains (strip (settings.casefold city)))),
  ("serviceable", .boolean ((pincode != "" || city != "") && settings.servesArea city pincode))]

def asList : Body → List Body
  | .list items => items
  | _ => []

def asDict : Body → Entries
  | .dict entries => entries
  | _ => []

/-- `geometry.get("location") or geometry`, of a dict. -/
def locationOf (geometry : Body) : Parsed Body :=
  match geometry with
  | .dict entries => do
      let location ← get (.dict entries) "location"
      pure (orElse location (.dict entries))
  | _ => pure (.dict [])

/-- `component(…) or str(place.get("name") or "")`. -/
def streetOf (place : Body) (components : List Body) : Parsed String := do
  let street ← component settings components ["street_address", "route"]
  if street = "" then do
    let name ← firstTruthy place ["name"]
    pure (str settings name)
  else pure street

def normalisePlace (fallbackLatitude fallbackLongitude place : Body) : Parsed Entries := do
  let found ← get place "address_components"
  let components := asList (orElse found (.list []))
  let geometry ← get place "geometry"
  let location ← locationOf (orElse geometry (.dict []))
  let position := asDict location
  let named ← firstTruthy place ["formatted_address", "description"]
  let formattedAddress := str settings named
  let houseNumber ← component settings components ["street_number", "premise", "subpremise"]
  let street ← streetOf settings place components
  let locality ← component settings components ["sublocality_level_1", "sublocality", "neighborhood"]
  let componentCity ← component settings components
    ["locality", "administrative_area_level_2", "administrative_area_level_3"]
  let city := orText (cityFromText settings formattedAddress) componentCity
  let postalCode ← component settings components ["postal_code"]
  let pincode := orText postalCode (pincodeFromText formattedAddress)
  let area ← component settings components ["administrative_area_level_1"]
  let state := orText area (if supportedCities.contains (settings.casefold city) then "Tamil Nadu" else "")
  let country ← component settings components ["country"]
  pure ([
    ("formatted_address", .text formattedAddress),
    ("house_number", .text houseNumber),
    ("street", .text street),
    ("locality", .text locality),
    ("city", .text city),
    ("state", .text state),
    ("pincode", .text pincode),
    ("country", .text (orText country "India")),
    ("latitude", (position.lookup "lat").getD fallbackLatitude),
    ("longitude", (position.lookup "lng").getD fallbackLongitude)] ++ serviceability settings city pincode)

def subscript (entries : Entries) (key : String) : Parsed Body :=
  match entries.lookup key with
  | some value => .ok value
  | none => .error .keyError

/-- `place.get("description") or normalized["formatted_address"] or structured.get("main_text") or ""`. -/
def descriptionOf (place : Body) (normalized structured : Entries) : Parsed Body := do
  let given ← get place "description"
  if truthy given then pure given
  else do
    let formatted ← subscript normalized "formatted_address"
    if truthy formatted then pure formatted else firstTruthy (.dict structured) ["main_text"]

/-- `str(first or second or text)`, the values read off an object. -/
def textOr (value : Body) (text : String) : String :=
  str settings (orElse value (.text text))

def normaliseSuggestion (place : Body) : Parsed Entries := do
  let found ← get place "structured_formatting"
  let structured := asDict (orElse found (.dict []))
  let normalized ← normalisePlace settings .null .null place
  let described ← descriptionOf place normalized structured
  let description := str settings described
  let id ← firstTruthy place ["place_id", "reference"]
  let mainText ← get (.dict structured) "main_text"
  let name ← get place "name"
  let secondaryText ← firstTruthy (.dict structured) ["secondary_text"]
  pure ([
    ("id", .text (textOr settings id description)),
    ("description", .text description),
    ("main_text", .text (textOr settings (orElse mainText name) description)),
    ("secondary_text", .text (str settings secondaryText))] ++ normalized)

end

/-! The provider. -/

/-- What a request to the provider ends in; `payload` is none where the body is no JSON. -/
inductive ProviderReply
  | timeout
  | failed
  | answered (statusCode : Nat) (payload : Option Body)

inductive Received
  | payload (entries : Entries)
  | retried (error : LocationProviderError)
  | refused (error : LocationProviderError)

def ProviderReply.receive (requestId : String) : ProviderReply → Received
  | .timeout => .retried (unavailable (some "timeout") requestId)
  | .failed => .refused (unavailable (some "network_error") requestId)
  | .answered statusCode payload =>
      let status := some (toString statusCode)
      if statusCode = 401 ∨ statusCode = 403 then .refused (misconfigured status requestId)
      else if 500 ≤ statusCode then .retried (unavailable status requestId)
      else if 400 ≤ statusCode then .refused (unavailable status requestId)
      else match payload with
        | some (.dict entries) => .payload entries
        | _ => .refused (malformedError requestId statusCode)

/-- `_get`: a timeout and a failure of the provider are tried once more. -/
def request (settings : GeocoderSettings) (requestId : String) (first second : ProviderReply) : Parsed Entries :=
  if settings.apiKey = "" then .error (.locationProvider (misconfigured none requestId))
  else match first.receive requestId with
    | .payload entries => .ok entries
    | .refused error => .error (.locationProvider error)
    | .retried _ => match second.receive requestId with
      | .payload entries => .ok entries
      | .refused error | .retried error => .error (.locationProvider error)

/-- `except (AttributeError, TypeError, ValueError)`. -/
def malformedAs (requestId : String) : GeocodeError → Option GeocodeError
  | .attributeError | .typeError | .valueError => some (.locationProvider (malformedError requestId 200))
  | .locationProvider _ | .keyError => none

structure ProviderCall where
  requestId : String
  safeRequestId : String
  first : ProviderReply
  second : ProviderReply

/-- `payload.get(first) or payload.get(second) or []`, after the check that one of the keys is there. -/
def listed (requestId : String) (payload : Entries) (first second : String) : Parsed (List Body) := do
  Fallible.require ((payload.lookup first).isSome ∨ (payload.lookup second).isSome)
    (.locationProvider (malformedError requestId 200))
  match orElse ((payload.lookup first).getD .null) (orElse ((payload.lookup second).getD .null) (.list [])) with
  | .list items => pure items
  | _ => .error (.locationProvider (malformedError requestId 200))

def getReverseGeocode (settings : GeocoderSettings) (latitude longitude : JsonNumber) (call : ProviderCall) :
    Parsed Entries := do
  let payload ← request settings call.safeRequestId call.first call.second
  let results ← listed call.requestId payload "results" "geocodingResults"
  match results with
  | [] => .error (.locationProvider (unavailable none call.requestId))
  | place :: _ =>
      excepting (malformedAs call.requestId) (normalisePlace settings (.number latitude) (.number longitude) place)

def isDict : Body → Bool
  | .dict _ => true
  | _ => false

def getAutocomplete (settings : GeocoderSettings) (call : ProviderCall) : Parsed (List Entries) := do
  let payload ← request settings call.safeRequestId call.first call.second
  let predictions ← listed call.requestId payload "predictions" "results"
  excepting (malformedAs call.requestId) (((predictions.take 8).filter isDict).mapM (normaliseSuggestion settings))

/-- `_call_with_optional_fallback`: what the provider answers, and what the other one would. -/
def callWithOptionalFallback {α : Type} (answer : Parsed α) (fallback : Option (Parsed α)) : Parsed α :=
  match answer, fallback with
  | .error (.locationProvider _), some other => other
  | _, _ => answer

def placeTexts : List String :=
  ["formatted_address", "house_number", "street", "locality", "city", "state", "pincode", "country"]

def placeFlags : List String := ["supported_city", "serviceable"]

def placeFields : List String := placeTexts ++ ["latitude", "longitude"] ++ placeFlags

def suggestionTexts : List String := ["id", "description", "main_text", "secondary_text"]

structure Shaped (fields texts : List String) (entries : Entries) : Prop where
  fields : entries.map Prod.fst = fields
  texts : ∀ field ∈ texts, ∃ value, entries.lookup field = some (.text value)
  flags : ∀ field ∈ placeFlags, ∃ value, entries.lookup field = some (.boolean value)

def IsPlace : Entries → Prop := Shaped placeFields placeTexts

def IsSuggestion : Entries → Prop := Shaped (suggestionTexts ++ placeFields) (suggestionTexts ++ placeTexts)

section

variable {settings : GeocoderSettings}

theorem placeTexts_apart : ∀ field ∈ placeTexts, field ∉ suggestionTexts := by decide

theorem placeFlags_apart : ∀ field ∈ placeFlags, field ∉ suggestionTexts := by decide

theorem IsPlace.suggestion {place leading : Entries} (isPlace : IsPlace place)
    (fields : leading.map Prod.fst = suggestionTexts)
    (texts : ∀ field ∈ suggestionTexts, ∃ value, leading.lookup field = some (.text value)) :
    IsSuggestion (leading ++ place) := by
  have absent : ∀ field ∉ suggestionTexts, leading.lookup field = none := by
    intro field other
    rw [List.lookup_eq_none_iff]
    intro entry member
    rw [bne_iff_ne]
    rintro rfl
    exact other (fields ▸ List.mem_map_of_mem member)
  refine ⟨by rw [List.map_append, fields, isPlace.fields], fun field member => ?_, fun field member => ?_⟩
  · rcases List.mem_append.mp member with own | placeText
    · obtain ⟨value, found⟩ := texts field own
      exact ⟨value, by rw [List.lookup_append, found]; rfl⟩
    · obtain ⟨value, found⟩ := isPlace.texts field placeText
      exact ⟨value, by rw [List.lookup_append, absent field (placeTexts_apart field placeText), found]; rfl⟩
  · obtain ⟨value, found⟩ := isPlace.flags field member
    exact ⟨value, by rw [List.lookup_append, absent field (placeFlags_apart field member), found]; rfl⟩

end

def sampleGeocoder : GeocoderSettings where
  apiKey := "key"
  casefold := fun text => String.ofList (text.toList.map Char.toLower)
  isPrintable := fun _ => true
  servesArea := fun _ pincode => pincode == "600001"

def sampleCall (types : Body) : ProviderCall where
  requestId := ""
  safeRequestId := "request"
  first := .timeout
  second := .answered 200 (some (.dict [("results", .list [.dict [
    ("formatted_address", .text "MG Road, Chennai 600001"),
    ("address_components", .list [.null, .dict [("types", types), ("short_name", .number (.integer 12))]])]])]))

example : (getReverseGeocode sampleGeocoder (.integer 13) (.integer 80) (sampleCall (.list [.text "premise"]))).map
      (fun place => ["house_number", "city", "state", "pincode", "serviceable"].map (place.lookup ·)) =
    .ok [some (.text "12"), some (.text "Chennai"), some (.text "Tamil Nadu"), some (.text "600001"),
      some (.boolean true)] := by
  rfl

/-- A number has no members, so the provider's own error is raised for it. -/
example : getReverseGeocode sampleGeocoder (.integer 13) (.integer 80) (sampleCall (.number (.integer 5))) =
    .error (.locationProvider (malformedError "" 200)) := by
  rfl

end PsCore.Geocoding
