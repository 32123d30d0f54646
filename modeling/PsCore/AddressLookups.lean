import PsCore.FinancialYears
import PsCore.GeocoderAnswers
import PsCore.Library.CachedQueries

/-!
Address lookups over time. An answer is kept for a while, and with it what the service areas were when it was given;
what is not kept is asked of the providers, and the calls to the first of them are counted by the month.
-/

namespace PsCore.Geocoding

open CachedQueries Calendar Outcomes PsCore.Auth TransitionRun

structure LookupSettings where
  apiKey : String
  casefold : String → String
  isPrintable : Char → Bool
  sameCity : String → String → Bool
  fourDecimals : JsonNumber → String
  sha256 : List (Fin 256) → List (Fin 256)
  hasFallback : Bool
  reverseCacheSeconds : Nat
  autocompleteCacheSeconds : Nat

/-- `other` is what the fallback provider answers where it is asked. -/
inductive Lookup
  | reverseGeocode (latitude longitude : JsonNumber) (call : ProviderCall) (other : Parsed Entries)
  | autocomplete (query : String) (latitude longitude : Option JsonNumber) (city : String) (call : ProviderCall)
      (other : Parsed (List Entries))

inductive CacheKey
  | reverse (latitude longitude : String)
  | autocomplete (digest : String)
  deriving DecidableEq, Repr

abbrev Month := Nat × Nat

inductive LogLevel
  | info
  | warning
  deriving DecidableEq, Repr

/-- "Ola Maps monthly call count is %s for %s." -/
structure CallCount where
  level : LogLevel
  count : Nat
  month : Month
  deriving DecidableEq, Repr

structure LookupWorld where
  areas : List ServiceArea
  providerCalls : Month → Option (Entry Nat)
  logged : List CallCount
  sent : List Instant

inductive LookupEvent
  | saveAreas (areas : List ServiceArea)
  | evictCalls (month : Month)

def monthOf (now : Instant) : Month :=
  ((civil (utcDate now)).1, (civil (utcDate now)).2.1)

abbrev CallCounts := Month → Option (Entry Nat)

def callTimeout : Nat := 40 * day

def callsRead (now : Instant) (calls : CallCounts) (month : Month) : Option (Entry Nat) :=
  match calls month with
  | some entry => if now < entry.expiresAt then some entry else none
  | none => none

def callsSet (now : Instant) (calls : CallCounts) (month : Month) (count : Nat) : CallCounts :=
  Function.update calls month (some ⟨count, now + callTimeout⟩)

def callsAdd (now : Instant) (calls : CallCounts) (month : Month) : CallCounts :=
  match callsRead now calls month with
  | some _ => calls
  | none => callsSet now calls month 0

/-- None where the key is not there. -/
def callsIncr (now : Instant) (calls : CallCounts) (month : Month) : Option (Nat × CallCounts) :=
  match callsRead now calls month with
  | some entry => some (entry.value + 1, Function.update calls month (some ⟨entry.value + 1, entry.expiresAt⟩))
  | none => none

def callThresholds : List Nat := [1, 50000, 80000, 90000, 100000]

def callLevel (count : Nat) : LogLevel :=
  if 80000 ≤ count then .warning else .info

def callsLogged (count : Nat) (month : Month) : List CallCount :=
  if count ∈ callThresholds then [⟨callLevel count, count, month⟩] else []

def trackProviderCall (now : Instant) (world : LookupWorld) : LookupWorld :=
  let month := monthOf now
  let added := callsAdd now world.providerCalls month
  let (count, calls) := (callsIncr now added month).getD (1, callsSet now added month 1)
  { world with providerCalls := calls, logged := world.logged ++ callsLogged count month }

namespace LookupSettings

variable (settings : LookupSettings)

def servesArea (areas : List ServiceArea) (city pincode : String) : Bool :=
  areas.any fun area => area.isActive &&
    ((pincode != "" && area.postalCode == pincode) || (city != "" && settings.sameCity area.city city))

def geocoder (areas : List ServiceArea) : GeocoderSettings where
  apiKey := settings.apiKey
  casefold := settings.casefold
  isPrintable := settings.isPrintable
  servesArea := settings.servesArea areas

def bias (latitude longitude : Option JsonNumber) (city : String) : String :=
  match latitude, longitude with
  | some latitude, some longitude => settings.fourDecimals latitude ++ ":" ++ settings.fourDecimals longitude
  | _, _ => strip (settings.casefold city)

def digest (query bias : String) : String :=
  let normalizedQuery := joinWords (words (settings.casefold query).toList)
  String.ofList ((hexdigest (settings.sha256 (utf8 (normalizedQuery ++ "|" ++ bias).toList))).toList.take 24)

def cacheKey : Lookup → CacheKey
  | .reverseGeocode latitude longitude _ _ =>
      .reverse (settings.fourDecimals latitude) (settings.fourDecimals longitude)
  | .autocomplete query latitude longitude city _ _ =>
      .autocomplete (settings.digest query (settings.bias latitude longitude city))

def cacheTime : Lookup → Nat
  | .reverseGeocode _ _ _ _ => settings.reverseCacheSeconds * second
  | .autocomplete _ _ _ _ _ _ => settings.autocompleteCacheSeconds * second

def fallback {α : Type} (other : Parsed α) : Option (Parsed α) :=
  if settings.hasFallback then some other else none

def provided (areas : List ServiceArea) : Lookup → Parsed Body
  | .reverseGeocode latitude longitude call other =>
      (callWithOptionalFallback (getReverseGeocode (settings.geocoder areas) latitude longitude call)
        (settings.fallback other)).map JsonValue.dict
  | .autocomplete _ _ _ _ call other =>
      (callWithOptionalFallback (getAutocomplete (settings.geocoder areas) call) (settings.fallback other)).map
        fun suggestions => JsonValue.list (suggestions.map JsonValue.dict)

def calling (now : Instant) (world : LookupWorld) : LookupWorld :=
  if settings.apiKey = "" then world
  else { trackProviderCall now world with sent := world.sent ++ [now] }

/-- `reverse_geocode` and `autocomplete`. -/
def source : Source LookupWorld LookupEvent Lookup CacheKey Body GeocodeError where
  change world
    | .saveAreas areas => { world with areas := areas }
    | .evictCalls month => { world with providerCalls := Function.update world.providerCalls month none }
  keyOf := settings.cacheKey
  lifetime := settings.cacheTime
  ask world now lookup := (settings.provided world.areas lookup, settings.calling now world)

end LookupSettings

/-! The flags of a place, and how old they may be. -/

def Flagged (settings : GeocoderSettings) (place : Entries) : Prop :=
  ∃ city pincode, place.lookup "city" = some (.text city) ∧ place.lookup "pincode" = some (.text pincode) ∧
    place.lookup "supported_city" = some (.boolean (supportedCities.contains (strip (settings.casefold city)))) ∧
    place.lookup "serviceable" =
      some (.boolean ((pincode != "" || city != "") && settings.servesArea city pincode))

def placesOf : Body → List Entries
  | .dict place => [place]
  | .list suggestions => suggestions.map asDict
  | _ => []

section

variable {α : Type} {settings : GeocoderSettings}

theorem ends_always (program : Parsed α) : Ends Always Always program := by
  cases program with
  | ok value => trivial
  | error error => trivial

theorem ends_excepting {post : α → Prop} {program : Parsed α} (ends : Ends Always post program)
    (handler : GeocodeError → Option GeocodeError) : Ends Always post (excepting handler program) := by
  cases program with
  | ok value => exact ends
  | error error => trivial

theorem normalisePlace_flagged (fallbackLatitude fallbackLongitude place : Body) :
    Ends Always (Flagged settings) (normalisePlace settings fallbackLatitude fallbackLongitude place) := by
  refine .bind (ends_always _) fun found _ => ?_
  refine .bind (ends_always _) fun geometry _ => ?_
  refine .bind (ends_always _) fun location _ => ?_
  refine .bind (ends_always _) fun named _ => ?_
  refine .bind (ends_always _) fun houseNumber _ => ?_
  refine .bind (ends_always _) fun street _ => ?_
  refine .bind (ends_always _) fun locality _ => ?_
  refine .bind (ends_always _) fun componentCity _ => ?_
  refine .bind (ends_always _) fun postalCode _ => ?_
  refine .bind (ends_always _) fun area _ => ?_
  refine .bind (ends_always _) fun country _ => ?_
  exact .pure ⟨_, _, rfl, rfl, rfl, rfl⟩

theorem normaliseSuggestion_flagged (place : Body) :
    Ends Always (Flagged settings) (normaliseSuggestion settings place) := by
  refine .bind (ends_always _) fun found _ => ?_
  refine .bind (normalisePlace_flagged _ _ _) fun normalized flagged => ?_
  refine .bind (ends_always _) fun described _ => ?_
  refine .bind (ends_always _) fun id _ => ?_
  refine .bind (ends_always _) fun mainText _ => ?_
  refine .bind (ends_always _) fun name _ => ?_
  refine .bind (ends_always _) fun secondaryText _ => ?_
  -- none of the four leading fields is one that is looked up
  obtain ⟨city, pincode, isCity, isPincode, supported, serviceable⟩ := flagged
  exact .pure ⟨city, pincode, isCity, isPincode, supported, serviceable⟩

theorem getReverseGeocode_flagged (settings : GeocoderSettings) (latitude longitude : JsonNumber) (call : ProviderCall) :
    Ends Always (Flagged settings) (getReverseGeocode settings latitude longitude call) := by
  refine .bind (ends_always _) fun payload _ => ?_
  refine .bind (ends_always _) fun results _ => ?_
  cases results with
  | nil => exact .error trivial
  | cons place rest => exact ends_excepting (normalisePlace_flagged _ _ _) _

theorem getAutocomplete_flagged (settings : GeocoderSettings) (call : ProviderCall) :
    Ends Always (fun suggestions => ∀ suggestion ∈ suggestions, Flagged settings suggestion)
      (getAutocomplete settings call) := by
  refine .bind (ends_always _) fun payload _ => ?_
  refine .bind (ends_always _) fun predictions _ => ?_
  refine ends_excepting ?_ _
  exact (Ends.mapM normaliseSuggestion_flagged _).mono (fun _ any => any) fun suggestions flagged => flagged.2

theorem callWithOptionalFallback_none (answer : Parsed α) : callWithOptionalFallback answer none = answer := by
  unfold callWithOptionalFallback
  split
  · rename_i none
    cases none
  · rfl

end

theorem provided_flagged {settings : LookupSettings} {areas : List ServiceArea} {lookup : Lookup} {body : Body}
    (noFallback : settings.hasFallback = false) (answered : settings.provided areas lookup = .ok body) :
    ∀ place ∈ placesOf body, Flagged (settings.geocoder areas) place := by
  have absent {α : Type} (other : Parsed α) : settings.fallback other = none := by
    simp [LookupSettings.fallback, noFallback]
  cases lookup with
  | reverseGeocode latitude longitude call other =>
      have flagged := getReverseGeocode_flagged (settings.geocoder areas) latitude longitude call
      simp only [LookupSettings.provided, absent, callWithOptionalFallback_none] at answered
      cases result : getReverseGeocode (settings.geocoder areas) latitude longitude call with
      | error error =>
          rw [result] at answered
          cases answered
      | ok place =>
          rw [result] at answered flagged
          cases answered
          intro other member
          rw [List.mem_singleton.mp member]
          exact flagged
  | autocomplete query latitude longitude city call other =>
      have flagged := getAutocomplete_flagged (settings.geocoder areas) call
      simp only [LookupSettings.provided, absent, callWithOptionalFallback_none] at answered
      cases result : getAutocomplete (settings.geocoder areas) call with
      | error error =>
          rw [result] at answered
          cases answered
      | ok suggestions =>
          rw [result] at answered flagged
          cases answered
          intro place member
          simp only [placesOf, List.map_map, List.mem_map, Function.comp_apply] at member
          obtain ⟨suggestion, isSuggestion, rfl⟩ := member
          exact flagged suggestion isSuggestion

abbrev LookupState := Cached LookupWorld CacheKey Body

abbrev LookupInput := Input LookupEvent Lookup CacheKey

section

variable {settings : LookupSettings} {state start : LookupState} {lookup : Lookup} {body : Body}
  {inputs : List LookupInput}

theorem calling_areas (now : Instant) (world : LookupWorld) : (settings.calling now world).areas = world.areas := by
  unfold LookupSettings.calling
  split <;> rfl

theorem lookUp_areas (lookup : Lookup) : (settings.source.lookUp state lookup).2.world.areas = state.world.areas := by
  cases found : state.read (settings.source.keyOf lookup) with
  | some body => rw [lookUp_found found]
  | none =>
      rw [(lookUp_missed found).2]
      exact calling_areas _ _

theorem runAll_areas (unedited : ∀ areas, .change (.saveAreas areas) ∉ inputs) :
    (runAll settings.source.step start inputs).world.areas = start.world.areas := by
  induction inputs generalizing start with
  | nil => rfl
  | cons input rest ih =>
      rw [runAll_cons, ih fun areas member => unedited areas (List.mem_cons_of_mem _ member)]
      cases input with
      | change event =>
          cases event with
          | saveAreas areas => exact absurd List.mem_cons_self (unedited areas)
          | evictCalls month => rfl
      | pass time => rfl
      | evict key => rfl
      | look lookup => exact lookUp_areas lookup

theorem cacheTime_of_key {first second : Lookup} (same : settings.cacheKey first = settings.cacheKey second) :
    settings.cacheTime first = settings.cacheTime second := by
  cases first with
  | reverseGeocode latitude longitude call other =>
      cases second with
      | reverseGeocode otherLatitude otherLongitude otherCall another => rfl
      | autocomplete query otherLatitude otherLongitude city otherCall another => cases same
  | autocomplete query latitude longitude city call other =>
      cases second with
      | reverseGeocode otherLatitude otherLongitude otherCall another => cases same
      | autocomplete otherQuery otherLatitude otherLongitude otherCity otherCall another => rfl

structure LookedUp (settings : LookupSettings) (start : LookupState) (inputs : List LookupInput) (lookup : Lookup)
    (ended : Parsed Body × LookupState) : Prop where
  recent : ∀ body, ended.1 = .ok body → settings.provided ended.2.world.areas lookup = .ok body ∨
    ∃ earlier asked later,
      AskedIn settings.source start inputs (settings.cacheKey lookup) body earlier asked later ∧
        elapsed later < settings.cacheTime lookup
  spared : ∀ body earlier asked later,
    AskedIn settings.source start inputs (settings.cacheKey lookup) body earlier asked later →
      elapsed later < settings.cacheTime lookup → ended = (.ok body, runAll settings.source.step start inputs)
  refused : ∀ error, ended.1 = .error error → settings.provided ended.2.world.areas lookup = .error error ∧
    ended.2.entries = (runAll settings.source.step start inputs).entries
  flagged : settings.hasFallback = false → ∀ body, ended.1 = .ok body → ∀ earlier later, inputs = earlier ++ later →
    settings.cacheTime lookup ≤ elapsed later → (∀ areas, .change (.saveAreas areas) ∉ later) →
      ∀ place ∈ placesOf body, Flagged (settings.geocoder ended.2.world.areas) place

theorem lookUp_recent (empty : ∀ key, start.entries key = none)
    (answered : (settings.source.lookUp (runAll settings.source.step start inputs) lookup).1 = .ok body) :
    settings.provided (runAll settings.source.step start inputs).world.areas lookup = .ok body ∨
      ∃ earlier asked later,
        AskedIn settings.source start inputs (settings.cacheKey lookup) body earlier asked later ∧
          elapsed later < settings.cacheTime lookup := by
  cases found : (runAll settings.source.step start inputs).read (settings.source.keyOf lookup) with
  | none =>
      rw [(lookUp_missed found).1] at answered
      exact .inl answered
  | some stored =>
      rw [lookUp_found found] at answered
      cases answered
      obtain ⟨earlier, asked, later, given, early⟩ := askedIn_of_read empty found
      rw [show settings.source.lifetime asked = _ from cacheTime_of_key given.sameKey] at early
      exact .inr ⟨earlier, asked, later, given, early⟩

theorem settled_areas {earlier later first rest : List LookupInput} (split : inputs = earlier ++ later)
    (other : inputs = first ++ rest) (recent : elapsed rest < settings.cacheTime lookup)
    (long : settings.cacheTime lookup ≤ elapsed later) (unedited : ∀ areas, .change (.saveAreas areas) ∉ later) :
    (runAll settings.source.step start inputs).world.areas =
      (runAll settings.source.step start first).world.areas := by
  have within : ∀ areas, .change (.saveAreas areas) ∉ rest := by
    intro areas member
    rcases List.append_eq_append_iff.mp (split.symm.trans other) with ⟨middle, -, isLater⟩ | ⟨middle, -, isRest⟩
    · rw [isLater] at unedited
      exact unedited areas (List.mem_append_right _ member)
    · rw [isRest, elapsed_append] at recent
      omega
  rw [other, runAll_append, runAll_areas within]

/-- Answers are less than a lifetime old, and until then the providers are not asked again. -/
theorem lookUp_run (empty : ∀ key, start.entries key = none) (inputs : List LookupInput) (lookup : Lookup) :
    LookedUp settings start inputs lookup
      (settings.source.lookUp (runAll settings.source.step start inputs) lookup) where
  recent body answered := by
    rw [lookUp_areas]
    exact lookUp_recent empty answered
  spared body earlier asked later given early := by
    refine lookUp_found (read_of_askedIn given ?_)
    exact Nat.lt_of_lt_of_eq early (cacheTime_of_key given.sameKey).symm
  refused error raised := by
    rw [lookUp_areas]
    cases found : (runAll settings.source.step start inputs).read (settings.source.keyOf lookup) with
    | some body =>
        rw [lookUp_found found] at raised
        cases raised
    | none =>
        rw [(lookUp_missed found).1] at raised
        refine ⟨raised, (lookUp_entries settings.source _ lookup).2.resolve_right ?_⟩
        rintro ⟨body, answers, -⟩
        rw [answers.2] at raised
        cases raised
  flagged noFallback body answered earlier later split long unedited := by
    rw [lookUp_areas]
    rcases lookUp_recent empty answered with provided | ⟨first, asked, rest, given, early⟩
    · exact provided_flagged noFallback provided
    · rw [settled_areas split given.split early long unedited]
      exact provided_flagged noFallback given.answers.2

end

def sampleLookups : LookupSettings where
  apiKey := "key"
  casefold := sampleGeocoder.casefold
  isPrintable := sampleGeocoder.isPrintable
  sameCity := fun first other => sampleGeocoder.casefold first == sampleGeocoder.casefold other
  fourDecimals
    | .integer value => toString value ++ ".0000"
    | .real text _ => text
  sha256 := id
  hasFallback := false
  reverseCacheSeconds := 86400
  autocompleteCacheSeconds := 300

def sampleLookup (latitude : Int) : Lookup :=
  .reverseGeocode (.integer latitude) (.integer 80) (sampleCall (.list [.text "premise"]))
    (.error (.locationProvider (unavailable none "")))

def sampleLookupStart : LookupState where
  world := {
    areas := [{
      city := "Chennai"
      state := "Tamil Nadu"
      country := "India"
      postalCode := "600001"
      services := []
      servicesConfigured := false
      isActive := true
    }]
    providerCalls := fun _ => none
    logged := []
    sent := []
  }
  now := sampleNow
  entries := fun _ => none

def areasWithdrawn : List LookupInput :=
  [.look (sampleLookup 13), .pass (3600 * second), .change (.saveAreas []), .look (sampleLookup 14)]

/-- An hour later the place is still called serviceable. -/
theorem lookUp_run_areasWithdrawn :
    LookedUp sampleLookups sampleLookupStart areasWithdrawn (sampleLookup 13)
        (sampleLookups.source.lookUp (runAll sampleLookups.source.step sampleLookupStart areasWithdrawn)
          (sampleLookup 13)) ∧
      ((sampleLookups.source.lookUp (runAll sampleLookups.source.step sampleLookupStart areasWithdrawn)
        (sampleLookup 13)).1.toOption.map fun body =>
          (placesOf body).map fun place => truthy ((place.lookup "serviceable").getD .null)) = some [true] :=
  ⟨lookUp_run (fun _ => rfl) _ _, by decide +kernel⟩

theorem monthAndDay_close {first second : Nat} (inYear : first ≤ 365) (inOther : second ≤ 365)
    (same : (monthAndDay first).1 = (monthAndDay second).1) : second ≤ first + 30 := by
  unfold monthAndDay at same
  simp only [] at same
  have shifted : (5 * first + 2) / 153 = (5 * second + 2) / 153 := by
    split at same <;> split at same <;> omega
  omega

theorem sameMonth_close {first second : Nat} (sameYear : (civil first).1 = (civil second).1)
    (sameMonth : (civil first).2.1 = (civil second).2.1) : second ≤ first + 30 := by
  have inYear := numberInYear_le (first + 719468)
  have inOther := numberInYear_le (second + 719468)
  have winter := (monthAndDay_month inYear).1
  have otherWinter := (monthAndDay_month inOther).1
  rw [civil_eq, civil_eq] at sameYear sameMonth
  simp only [] at sameYear sameMonth
  have close := monthAndDay_close inYear inOther sameMonth
  have year : yearOf (first + 719468) = yearOf (second + 719468) := by
    rw [sameMonth] at sameYear
    split at sameYear <;> omega
  have starts := (inYear_yearOf (first + 719468)).1
  have otherStarts := (inYear_yearOf (second + 719468)).1
  rw [year] at starts
  unfold numberInYear at close
  rw [year] at close
  omega

theorem monthOf_close {first second : Nat} (same : monthOf first = monthOf second) :
    second < first + callTimeout := by
  obtain ⟨sameYear, sameMonth⟩ := Prod.mk.inj same
  have close := sameMonth_close sameYear sameMonth
  unfold utcDate utcOffset day hour minute at close
  unfold callTimeout day hour minute
  omega

/-! The count of a month. -/

def LookupWorld.sentIn (world : LookupWorld) (month : Month) : List Instant :=
  world.sent.filter fun sentAt => monthOf sentAt == month

def LookupWorld.loggedIn (world : LookupWorld) (month : Month) : List CallCount :=
  world.logged.filter fun line => line.month == month

def reached (count : Nat) (month : Month) : List CallCount :=
  (callThresholds.filter (· ≤ count)).map fun threshold => ⟨callLevel threshold, threshold, month⟩

theorem filter_le_succ {thresholds : List Nat} (ordered : thresholds.Pairwise (· < ·)) (count : Nat) :
    thresholds.filter (· ≤ count + 1) =
      thresholds.filter (· ≤ count) ++ if count + 1 ∈ thresholds then [count + 1] else [] := by
  induction thresholds with
  | nil => rfl
  | cons threshold rest ih =>
      obtain ⟨above, ordered⟩ := List.pairwise_cons.mp ordered
      have beyond : count < threshold →
          rest.filter (· ≤ count + 1) = [] ∧ rest.filter (· ≤ count) = [] ∧ count + 1 ∉ rest := by
        intro less
        refine ⟨List.filter_eq_nil_iff.mpr fun other member => ?_, List.filter_eq_nil_iff.mpr fun other member => ?_,
          fun member => ?_⟩
        · have greater := above other member
          simp only [decide_eq_true_eq]
          omega
        · have greater := above other member
          simp only [decide_eq_true_eq]
          omega
        · have greater := above _ member
          omega
      rcases Nat.lt_trichotomy threshold (count + 1) with less | equal | greater
      · have apart : count + 1 ≠ threshold := by omega
        rw [List.filter_cons_of_pos (by simp only [decide_eq_true_eq]; omega),
          List.filter_cons_of_pos (by simp only [decide_eq_true_eq]; omega), ih ordered]
        simp [apart]
      · obtain ⟨none, noneBefore, -⟩ := beyond (by omega)
        rw [List.filter_cons_of_pos (by simp only [decide_eq_true_eq]; omega),
          List.filter_cons_of_neg (by simp only [decide_eq_true_eq]; omega), none, noneBefore]
        simp [equal]
      · obtain ⟨none, noneBefore, absent⟩ := beyond (by omega)
        have apart : count + 1 ≠ threshold := by omega
        rw [List.filter_cons_of_neg (by simp only [decide_eq_true_eq]; omega),
          List.filter_cons_of_neg (by simp only [decide_eq_true_eq]; omega), none, noneBefore]
        simp [apart, absent]

theorem reached_succ (count : Nat) (month : Month) :
    reached (count + 1) month = reached count month ++ callsLogged (count + 1) month := by
  unfold reached callsLogged
  rw [filter_le_succ (by decide) count, List.map_append]
  split <;> rfl

theorem callsLogged_filter (count : Nat) (current month : Month) :
    (callsLogged count current).filter (fun line => line.month == month) =
      if current = month then callsLogged count current else [] := by
  unfold callsLogged
  by_cases threshold : count ∈ callThresholds
  · simp [threshold, List.filter_singleton]
  · simp [threshold]

section

variable {now : Instant} {calls : CallCounts} {month : Month}

theorem callsRead_set (count : Nat) :
    callsRead now (callsSet now calls month count) month = some ⟨count, now + callTimeout⟩ := by
  unfold callsRead callsSet
  rw [Function.update_self]
  exact if_pos (monthOf_close rfl)

theorem callsIncr_read {entry : Entry Nat} (found : callsRead now calls month = some entry) :
    callsIncr now calls month =
      some (entry.value + 1, Function.update calls month (some ⟨entry.value + 1, entry.expiresAt⟩)) := by
  unfold callsIncr
  rw [found]

end

theorem trackProviderCall_counts (now : Instant) (world : LookupWorld) :
    ∃ counted, counted = (callsRead now world.providerCalls (monthOf now)).getD ⟨0, now + callTimeout⟩ ∧
      trackProviderCall now world = { world with
        providerCalls := Function.update world.providerCalls (monthOf now)
          (some ⟨counted.value + 1, counted.expiresAt⟩)
        logged := world.logged ++ callsLogged (counted.value + 1) (monthOf now) } := by
  cases found : callsRead now world.providerCalls (monthOf now) with
  | some entry =>
      have added : callsAdd now world.providerCalls (monthOf now) = world.providerCalls := by
        unfold callsAdd
        rw [found]
      refine ⟨entry, rfl, ?_⟩
      unfold trackProviderCall
      simp only [added, callsIncr_read found, Option.getD_some]
  | none =>
      have added : callsAdd now world.providerCalls (monthOf now) =
          callsSet now world.providerCalls (monthOf now) 0 := by
        unfold callsAdd
        rw [found]
      have forgotten : Function.update (callsSet now world.providerCalls (monthOf now) 0) (monthOf now)
          (some ⟨1, now + callTimeout⟩) =
            Function.update world.providerCalls (monthOf now) (some ⟨1, now + callTimeout⟩) :=
        Function.update_idem ..
      refine ⟨⟨0, now + callTimeout⟩, rfl, ?_⟩
      unfold trackProviderCall
      simp only [added, callsIncr_read (callsRead_set 0), Option.getD_some, Nat.zero_add, forgotten]

/-- The count of a month is the number of its calls so far, and expires well after its first one. -/
structure CallsCounted (month : Month) (state : LookupState) : Prop where
  past : ∀ sentAt ∈ state.world.sent, sentAt ≤ state.now
  count : state.world.providerCalls month = match state.world.sentIn month with
    | [] => none
    | first :: rest => some ⟨rest.length + 1, first + callTimeout⟩
  logged : state.world.loggedIn month = reached (state.world.sentIn month).length month

section

variable {settings : LookupSettings} {month : Month} {state : LookupState}

theorem mem_sentIn {world : LookupWorld} {sentAt : Instant} (member : sentAt ∈ world.sentIn month) :
    monthOf sentAt = month := by
  unfold LookupWorld.sentIn at member
  exact eq_of_beq (List.mem_filter.mp member).2

theorem calling_cases (settings : LookupSettings) (now : Instant) (world : LookupWorld) :
    settings.calling now world = world ∨
      ∃ counted, counted = (callsRead now world.providerCalls (monthOf now)).getD ⟨0, now + callTimeout⟩ ∧
        settings.calling now world = { world with
          providerCalls := Function.update world.providerCalls (monthOf now)
            (some ⟨counted.value + 1, counted.expiresAt⟩)
          logged := world.logged ++ callsLogged (counted.value + 1) (monthOf now)
          sent := world.sent ++ [now] } := by
  unfold LookupSettings.calling
  split
  · exact .inl rfl
  · obtain ⟨counted, isCounted, tracked⟩ := trackProviderCall_counts now world
    rw [tracked]
    exact .inr ⟨counted, isCounted, rfl⟩

theorem CallsCounted.read (holds : CallsCounted month state) (current : monthOf state.now = month) :
    callsRead state.now state.world.providerCalls month = match state.world.sentIn month with
      | [] => none
      | first :: rest => some ⟨rest.length + 1, first + callTimeout⟩ := by
  have stored := holds.count
  unfold callsRead
  rw [stored]
  cases sent : state.world.sentIn month with
  | nil => rfl
  | cons first rest =>
      have inMonth : monthOf first = month := mem_sentIn (sent ▸ List.mem_cons_self)
      exact if_pos (monthOf_close (inMonth.trans current.symm))

theorem CallsCounted.counted (holds : CallsCounted month state) (current : monthOf state.now = month) :
    (callsRead state.now state.world.providerCalls month).getD ⟨0, state.now + callTimeout⟩ =
      ⟨(state.world.sentIn month).length, (state.world.sentIn month).head?.getD state.now + callTimeout⟩ := by
  rw [holds.read current]
  cases state.world.sentIn month with
  | nil => rfl
  | cons first rest => rfl

theorem CallsCounted.calling (holds : CallsCounted month state) :
    CallsCounted month { state with world := settings.calling state.now state.world } := by
  rcases calling_cases settings state.now state.world with same | ⟨counted, isCounted, called⟩
  · rw [same]
    exact holds
  rw [called]
  have past : ∀ sentAt ∈ state.world.sent ++ [state.now], sentAt ≤ state.now := by
    intro sentAt member
    rcases List.mem_append.mp member with earlier | isNow
    · exact holds.past sentAt earlier
    · exact Nat.le_of_eq (List.mem_singleton.mp isNow)
  by_cases current : monthOf state.now = month
  · rw [current, holds.counted current] at isCounted
    subst isCounted
    have sent : (state.world.sent ++ [state.now]).filter (fun sentAt => monthOf sentAt == month) =
        state.world.sentIn month ++ [state.now] := by
      simp [LookupWorld.sentIn, current]
    have logged := holds.logged
    unfold LookupWorld.loggedIn at logged
    refine ⟨past, ?_, ?_⟩
    · simp only [current, Function.update_self, LookupWorld.sentIn, sent]
      cases state.world.sent.filter (fun sentAt => monthOf sentAt == month) with
      | nil => rfl
      | cons first rest => simp
    · simp only [LookupWorld.loggedIn, LookupWorld.sentIn, sent, List.filter_append, callsLogged_filter, current,
        if_true, List.length_append, List.length_singleton, reached_succ, logged]
  · have sent : (state.world.sent ++ [state.now]).filter (fun sentAt => monthOf sentAt == month) =
        state.world.sentIn month := by
      simp [LookupWorld.sentIn, current]
    have logged := holds.logged
    unfold LookupWorld.loggedIn at logged
    refine ⟨past, ?_, ?_⟩
    · simp only [Function.update_of_ne (Ne.symm current), LookupWorld.sentIn, sent]
      exact holds.count
    · simp only [LookupWorld.loggedIn, LookupWorld.sentIn, sent, List.filter_append, callsLogged_filter,
        if_neg current, List.append_nil, logged]

theorem CallsCounted.lookUp (holds : CallsCounted month state) (lookup : Lookup) :
    CallsCounted month (settings.source.lookUp state lookup).2 := by
  cases found : state.read (settings.source.keyOf lookup) with
  | some body =>
      rw [lookUp_found found]
      exact holds
  | none =>
      have called : CallsCounted month { state with world := settings.calling state.now state.world } := holds.calling
      obtain ⟨past, count, logged⟩ := called
      have world : (settings.source.lookUp state lookup).2.world = settings.calling state.now state.world :=
        (lookUp_missed found).2
      have now := (lookUp_entries settings.source state lookup).1
      constructor
      · rw [world, now]
        exact past
      · rw [world]
        exact count
      · rw [world]
        exact logged

theorem CallsCounted.step {input : LookupInput} (holds : CallsCounted month state)
    (kept : input ≠ .change (.evictCalls month)) : CallsCounted month (settings.source.step state input) := by
  cases input with
  | look lookup => exact holds.lookUp lookup
  | evict key => exact ⟨holds.past, holds.count, holds.logged⟩
  | pass time => exact ⟨fun sentAt member => Nat.le_add_right_of_le (holds.past sentAt member), holds.count, holds.logged⟩
  | change event =>
      cases event with
      | saveAreas areas => exact ⟨holds.past, holds.count, holds.logged⟩
      | evictCalls other =>
          have apart : month ≠ other := by
            rintro rfl
            exact kept rfl
          exact ⟨holds.past, (Function.update_of_ne apart _ _).trans holds.count, holds.logged⟩

end

end PsCore.Geocoding
