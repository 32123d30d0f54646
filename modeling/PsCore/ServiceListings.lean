import PsCore.CheckoutCore

/-!
The public catalogue, by city and by postal code. An area without a configured choice of services
supports every service; the city's list goes by the services that are linked to its areas.
-/

namespace PsCore

/-- A row of the catalogue; the rows come in the order of the listing. -/
structure CatalogueRow where
  service : Service
  name : String
  isFeatured : Bool
  categorySlug : String

structure CatalogueQuery where
  category : Option String
  featured : Option String
  search : Option String
  postalCode : Option String
  city : Option String

/-- How the database compares texts without regard to case. -/
structure TextLookups where
  iexact : String → String → Bool
  icontains : String → String → Bool

def CatalogueRow.isPublic (row : CatalogueRow) : Bool :=
  row.service.isActive && row.service.categoryIsActive

namespace CatalogueQuery

variable (lookups : TextLookups) (areas : List ServiceArea) (query : CatalogueQuery)

def inCategory (row : CatalogueRow) : Bool :=
  query.category.all fun category => category == "" || row.categorySlug == category

def isFeatured (row : CatalogueRow) : Bool :=
  query.featured.all fun featured =>
    row.isFeatured == ["1", "true", "yes"].contains (String.ofList (featured.toList.map Char.toLower))

def isSearched (row : CatalogueRow) : Bool :=
  query.search.all fun search => search == "" || lookups.icontains row.name (strip search)

def servedAtPostalCode (serviceId : ServiceId) : Bool :=
  query.postalCode.all fun postalCode => postalCode == "" ||
    match getActiveServiceArea areas postalCode with
    | some (_, serviceArea) => !serviceArea.servicesConfigured || serviceArea.services.contains serviceId
    | none => false

def servedInCity (serviceId : ServiceId) : Bool :=
  let city := strip (query.city.getD "")
  city == "" || query.postalCode.any (· ≠ "") || areas.any fun area =>
    lookups.iexact area.city city && area.isActive && area.services.contains serviceId

def getQueryset (rows : List CatalogueRow) : List ServiceId :=
  (List.range rows.length).filter fun serviceId => rows[serviceId]?.any fun row =>
    row.isPublic && query.inCategory row && query.isFeatured row && query.isSearched lookups row &&
    query.servedAtPostalCode areas serviceId && query.servedInCity lookups areas serviceId

def forCity (city : String) : CatalogueQuery := { query with postalCode := none, city := some city }

def forPostalCode (postalCode : String) : CatalogueQuery :=
  { query with postalCode := some postalCode, city := none }

def anywhere : CatalogueQuery := { query with postalCode := none, city := none }

end CatalogueQuery

def ServiceArea.isActiveIn (lookups : TextLookups) (city : String) (area : ServiceArea) : Bool :=
  lookups.iexact area.city (strip city) && area.isActive

def suppliesCode (areas : List ServiceArea) (postalCode : String) (serviceId : ServiceId) : Bool :=
  postalCode == "" || (getActiveServiceArea areas postalCode).any fun found => found.2.supportsService serviceId

structure CataloguesAgree (lookups : TextLookups) (areas : List ServiceArea) (rows : List CatalogueRow)
    (query : CatalogueQuery) (city : String) : Prop where
  supported : ∀ serviceId, serviceId ∈ (query.forCity city).getQueryset lookups areas rows ↔
    serviceId ∈ query.anywhere.getQueryset lookups areas rows ∧
      ∃ area ∈ areas, area.isActiveIn lookups city = true ∧ area.supportsService serviceId = true
  union : ∀ serviceId, serviceId ∈ (query.forCity city).getQueryset lookups areas rows ↔
    ∃ area ∈ areas, area.isActiveIn lookups city = true ∧
      serviceId ∈ (query.forPostalCode area.postalCode).getQueryset lookups areas rows

/-- Where an area of the city supports everything, every listed service is linked to an area of the city. -/
def LinkedWhereUnconfigured (lookups : TextLookups) (areas : List ServiceArea) (listed : List ServiceId)
    (city : String) : Prop :=
  (∃ area ∈ areas, area.isActiveIn lookups city = true ∧ area.servicesConfigured = false) →
    ∀ serviceId ∈ listed, ∃ area ∈ areas, area.isActiveIn lookups city = true ∧ serviceId ∈ area.services

/-- The areas that are found under the codes of the city support what the city's own areas support. -/
def FoundUnderCodes (lookups : TextLookups) (areas : List ServiceArea) (listed : List ServiceId)
    (city : String) : Prop :=
  ∀ serviceId ∈ listed,
    ((∃ area ∈ areas, area.isActiveIn lookups city = true ∧ area.supportsService serviceId = true) ↔
      ∃ area ∈ areas, area.isActiveIn lookups city = true ∧ suppliesCode areas area.postalCode serviceId = true)

section

variable {lookups : TextLookups} {areas : List ServiceArea} {rows : List CatalogueRow} {query : CatalogueQuery}
  {city : String} {serviceId : ServiceId}

/-- What the other filters leave; they do not read the place. -/
def CatalogueQuery.Selects (query : CatalogueQuery) (lookups : TextLookups) (rows : List CatalogueRow)
    (serviceId : ServiceId) : Prop :=
  ∃ row, rows[serviceId]? = some row ∧ row.isPublic = true ∧ query.inCategory row = true ∧
    query.isFeatured row = true ∧ query.isSearched lookups row = true

theorem mem_getQueryset : serviceId ∈ query.getQueryset lookups areas rows ↔
    query.Selects lookups rows serviceId ∧ query.servedAtPostalCode areas serviceId = true ∧
      query.servedInCity lookups areas serviceId = true := by
  rw [CatalogueQuery.getQueryset, List.mem_filter, List.mem_range, Option.any_eq_true]
  simp only [Bool.and_eq_true]
  constructor
  · rintro ⟨_, row, found, ⟨⟨⟨⟨isPublic, category⟩, featured⟩, searched⟩, atCode⟩, inCity⟩
    exact ⟨⟨row, found, isPublic, category, featured, searched⟩, atCode, inCity⟩
  · rintro ⟨⟨row, found, isPublic, category, featured, searched⟩, atCode, inCity⟩
    exact ⟨(List.getElem?_eq_some_iff.mp found).1, row, found,
      ⟨⟨⟨⟨isPublic, category⟩, featured⟩, searched⟩, atCode⟩, inCity⟩

theorem mem_anywhere : serviceId ∈ query.anywhere.getQueryset lookups areas rows ↔
    query.Selects lookups rows serviceId := by
  have inCity : query.anywhere.servedInCity lookups areas serviceId = true := rfl
  rw [mem_getQueryset, inCity]
  constructor
  · rintro ⟨selected, _⟩
    exact selected
  · intro selected
    exact ⟨selected, rfl, rfl⟩

theorem mem_forCity (named : strip city ≠ "") : serviceId ∈ (query.forCity city).getQueryset lookups areas rows ↔
    serviceId ∈ query.anywhere.getQueryset lookups areas rows ∧
      ∃ area ∈ areas, area.isActiveIn lookups city = true ∧ serviceId ∈ area.services := by
  have inCity : (query.forCity city).servedInCity lookups areas serviceId = true ↔
      ∃ area ∈ areas, area.isActiveIn lookups city = true ∧ serviceId ∈ area.services := by
    simp [CatalogueQuery.servedInCity, CatalogueQuery.forCity, ServiceArea.isActiveIn, named]
  rw [mem_getQueryset, mem_anywhere, inCity]
  constructor
  · rintro ⟨selected, _, linked⟩
    exact ⟨selected, linked⟩
  · rintro ⟨selected, linked⟩
    exact ⟨selected, rfl, linked⟩

theorem mem_forPostalCode {postalCode : String} :
    serviceId ∈ (query.forPostalCode postalCode).getQueryset lookups areas rows ↔
      serviceId ∈ query.anywhere.getQueryset lookups areas rows ∧
        suppliesCode areas postalCode serviceId = true := by
  have inCity : (query.forPostalCode postalCode).servedInCity lookups areas serviceId = true := rfl
  have atCode : (query.forPostalCode postalCode).servedAtPostalCode areas serviceId =
      suppliesCode areas postalCode serviceId := by
    simp only [CatalogueQuery.servedAtPostalCode, CatalogueQuery.forPostalCode, Option.all_some, suppliesCode]
    cases getActiveServiceArea areas postalCode <;> rfl
  rw [mem_getQueryset, mem_anywhere, inCity, atCode]
  constructor
  · rintro ⟨selected, supplied, _⟩
    exact ⟨selected, supplied⟩
  · rintro ⟨selected, supplied⟩
    exact ⟨selected, supplied, rfl⟩

theorem supported_iff (named : strip city ≠ "") :
    (∀ serviceId, serviceId ∈ (query.forCity city).getQueryset lookups areas rows ↔
      serviceId ∈ query.anywhere.getQueryset lookups areas rows ∧
        ∃ area ∈ areas, area.isActiveIn lookups city = true ∧ area.supportsService serviceId = true) ↔
      LinkedWhereUnconfigured lookups areas (query.anywhere.getQueryset lookups areas rows) city := by
  constructor
  · rintro same ⟨area, member, inCity, unconfigured⟩ serviceId listed
    have supports : area.supportsService serviceId = true := by
      rw [ServiceArea.supportsService, unconfigured]
      rfl
    exact ((mem_forCity named).mp ((same serviceId).mpr ⟨listed, area, member, inCity, supports⟩)).2
  · intro linked serviceId
    rw [mem_forCity named]
    constructor
    · rintro ⟨listed, area, member, inCity, isLinked⟩
      refine ⟨listed, area, member, inCity, ?_⟩
      rw [ServiceArea.supportsService, List.contains_iff_mem.mpr isLinked, Bool.or_true]
    · rintro ⟨listed, area, member, inCity, supports⟩
      refine ⟨listed, ?_⟩
      rw [ServiceArea.supportsService, Bool.or_eq_true, Bool.not_eq_true'] at supports
      rcases supports with unconfigured | isLinked
      · exact linked ⟨area, member, inCity, unconfigured⟩ serviceId listed
      · exact ⟨area, member, inCity, List.contains_iff_mem.mp isLinked⟩

theorem union_iff
    (supported : ∀ serviceId, serviceId ∈ (query.forCity city).getQueryset lookups areas rows ↔
      serviceId ∈ query.anywhere.getQueryset lookups areas rows ∧
        ∃ area ∈ areas, area.isActiveIn lookups city = true ∧ area.supportsService serviceId = true) :
    (∀ serviceId, serviceId ∈ (query.forCity city).getQueryset lookups areas rows ↔
      ∃ area ∈ areas, area.isActiveIn lookups city = true ∧
        serviceId ∈ (query.forPostalCode area.postalCode).getQueryset lookups areas rows) ↔
      FoundUnderCodes lookups areas (query.anywhere.getQueryset lookups areas rows) city := by
  simp only [mem_forPostalCode]
  constructor
  · intro same serviceId listed
    constructor
    · intro supports
      obtain ⟨area, member, inCity, _, supplied⟩ := (same serviceId).mp ((supported serviceId).mpr ⟨listed, supports⟩)
      exact ⟨area, member, inCity, supplied⟩
    · rintro ⟨area, member, inCity, supplied⟩
      exact ((supported serviceId).mp ((same serviceId).mpr ⟨area, member, inCity, listed, supplied⟩)).2
  · intro found serviceId
    rw [supported serviceId]
    constructor
    · rintro ⟨listed, supports⟩
      obtain ⟨area, member, inCity, supplied⟩ := (found serviceId listed).mp supports
      exact ⟨area, member, inCity, listed, supplied⟩
    · rintro ⟨area, member, inCity, listed, supplied⟩
      exact ⟨listed, (found serviceId listed).mpr ⟨area, member, inCity, supplied⟩⟩

/-- The two catalogues agree where no area of the city supports a service that is linked to none of
them, and the codes of the city find areas that support the same. -/
theorem cataloguesAgree_iff (named : strip city ≠ "") :
    CataloguesAgree lookups areas rows query city ↔
      LinkedWhereUnconfigured lookups areas (query.anywhere.getQueryset lookups areas rows) city ∧
        FoundUnderCodes lookups areas (query.anywhere.getQueryset lookups areas rows) city := by
  rw [← supported_iff named]
  constructor
  · rintro ⟨supported, union⟩
    exact ⟨supported, (union_iff supported).mp union⟩
  · rintro ⟨supported, found⟩
    exact ⟨supported, (union_iff supported).mpr found⟩

/-- Where every active area of the city is the one that its code finds, the second condition holds. -/
theorem foundUnderCodes_of_own {listed : List ServiceId}
    (own : ∀ area ∈ areas, area.isActiveIn lookups city = true → area.postalCode ≠ "" ∧
      ∃ key, getActiveServiceArea areas area.postalCode = some (key, area)) :
    FoundUnderCodes lookups areas listed city := by
  intro serviceId _
  have supplies : ∀ area ∈ areas, area.isActiveIn lookups city = true →
      suppliesCode areas area.postalCode serviceId = area.supportsService serviceId := by
    intro area member inCity
    obtain ⟨written, key, found⟩ := own area member inCity
    simp [suppliesCode, written, found]
  refine exists_congr fun area => and_congr_right fun member => and_congr_right fun inCity => ?_
  rw [supplies area member inCity]

end

def cityArea (configured : Bool) : ServiceArea where
  city := "Bengaluru"
  state := "Karnataka"
  country := "India"
  postalCode := "560001"
  services := [0]
  servicesConfigured := configured
  isActive := true

def catalogueRows : List CatalogueRow := [
  { service := sampleService, name := "AC Service", isFeatured := false, categorySlug := "ac" },
  { service := sampleService, name := "AC Repair", isFeatured := false, categorySlug := "ac" }]

def plainLookups : TextLookups where
  iexact := fun text other => text == other
  icontains := fun _ _ => true

def wholeCatalogue : CatalogueQuery where
  category := none
  featured := none
  search := none
  postalCode := none
  city := none

theorem cataloguesAgree_iff_configured :
    CataloguesAgree plainLookups [cityArea true] catalogueRows wholeCatalogue "Bengaluru" := by
  refine (cataloguesAgree_iff (by decide)).mpr ⟨?_, foundUnderCodes_of_own fun area member _ => ?_⟩
  · rintro ⟨area, member, _, unconfigured⟩
    rw [List.mem_singleton.mp member] at unconfigured
    cases unconfigured
  · rw [List.mem_singleton.mp member]
    exact ⟨by decide, 0, by decide⟩

/-- The service that was added later is offered at the area's postal code and not in its city. -/
theorem later_service_missing_in_city :
    ¬ ∀ (lookups : TextLookups) (areas : List ServiceArea) (rows : List CatalogueRow) (query : CatalogueQuery)
      (city : String), strip city ≠ "" → CataloguesAgree lookups areas rows query city := by
  intro always
  have agree := always plainLookups [cityArea false] catalogueRows wholeCatalogue "Bengaluru" (by decide)
  have atCode : 1 ∈ (wholeCatalogue.forPostalCode "560001").getQueryset plainLookups [cityArea false]
      catalogueRows := by decide
  have inCity : 1 ∉ (wholeCatalogue.forCity "Bengaluru").getQueryset plainLookups [cityArea false]
      catalogueRows := by decide
  exact inCity ((agree.union 1).mpr ⟨cityArea false, List.mem_singleton_self _, by decide, atCode⟩)

end PsCore
