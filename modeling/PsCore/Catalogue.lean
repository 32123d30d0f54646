import PsCore.CheckoutCore
import PsCore.FieldChecks
import PsCore.Library.ForeignKeys
import PsCore.Library.TransitionRun
import PsCore.ServiceEdits

/-!
The catalogue as administrators edit it: categories, services and packages are entered, changed and destroyed,
while bookings, carts, leads, questions, service areas and technicians refer to what is there.
-/

namespace PsCore

open Fallible ForeignKeys TransitionRun

abbrev CategoryId := Nat
abbrev PackageId := Nat

structure Category where
  name : String
  slug : String
  displayOrder : Nat
  isActive : Bool
  deriving DecidableEq, Repr

/-- The flag of the category in the service's own columns is not read; it is taken from the category. -/
structure ServiceRow where
  category : CategoryId
  name : String
  slug : String
  displayOrder : Nat
  service : Service

structure PackageFields where
  name : String
  slug : String
  bundlePrice : Money
  validFrom : Option Date
  validUntil : Option Date
  maximumUsageLimit : Nat
  isActive : Bool
  deriving DecidableEq, Repr

def endsBeforeStart (validFrom validUntil : Option Date) : Bool :=
  validFrom.any fun first => validUntil.any fun last => last < first

def PackageFields.cleanErrors (package : PackageFields) : List (String × String) :=
  (if package.bundlePrice < 0 then [("bundle_price", "Bundle price cannot be negative.")] else []) ++
  (if package.maximumUsageLimit < 1 then
    [("maximum_usage_limit", "Maximum usage limit must be at least 1.")] else []) ++
  (if endsBeforeStart package.validFrom package.validUntil then
    [("valid_until", "Validity end date must be on or after the start date.")] else [])

/-- A stored package: every save runs the cleaning. -/
structure Package extends PackageFields where
  clean : toPackageFields.cleanErrors = []

structure PackageItem where
  package : PackageId
  service : ServiceId
  quantity : Nat
  displayOrder : Nat
  positive : 1 ≤ quantity

structure FaqContext where
  category : Option CategoryId
  service : Option ServiceId
  deriving DecidableEq, Repr

/-- Of the other tables only what refers to the catalogue. -/
structure Catalogue where
  categories : KeyTable CategoryId Category
  services : KeyTable ServiceId ServiceRow
  packages : KeyTable PackageId Package
  items : List PackageItem
  images : List ServiceId
  bookings : List ServiceId
  cartItems : List (UserId × ServiceId)
  leads : List (Option ServiceId)
  faqs : List FaqContext
  areaServices : List (ServiceAreaId × ServiceId)
  technicianServices : List (TechnicianId × ServiceId)

def Catalogue.empty : Catalogue where
  categories := .empty
  services := .empty
  packages := .empty
  items := []
  images := []
  bookings := []
  cartItems := []
  leads := []
  faqs := []
  areaServices := []
  technicianServices := []

/-! What the serializers check. -/

def missingField (field : String) (present : Bool) : List (String × String) :=
  if present then [] else [(field, "This field is required.")]

def slugTaken {Row : Type} (slugOf : Row → String) (table : KeyTable Nat Row) (self : Option Nat) (slug : String) :
    Bool :=
  table.rows.any fun one => some one.1 != self && slugOf one.2 == slug

def rejectFields (errors : List (String × String)) : Except ServiceError Unit :=
  require (errors = []) (.fieldValidation errors)

/-- A row that is still referred to where that is protected. -/
def protectedRow (model : String) : ServiceError :=
  .integrity model

structure CategoryPayload where
  name : Option String
  slug : Option String
  displayOrder : Option Int
  isActive : Option Bool

def CategoryPayload.assignedTo (attrs : CategoryPayload) (category : Category) : Category where
  name := (attrs.name.map strip).getD category.name
  slug := (attrs.slug.map strip).getD category.slug
  displayOrder := (attrs.displayOrder.map Int.toNat).getD category.displayOrder
  isActive := attrs.isActive.getD category.isActive

def blankCategory : Category where
  name := ""
  slug := ""
  displayOrder := 0
  isActive := true

namespace Catalogue

def categoryErrors (catalogue : Catalogue) (self : Option CategoryId) (attrs : CategoryPayload) :
    List (String × String) :=
  attrs.name.elim [] (fun name => serializerCharErrors "name" 150 (strip name)) ++
  attrs.slug.elim [] (fun slug => slugErrors "service category" 180
    (slugTaken Category.slug catalogue.categories self (strip slug)) (strip slug)) ++
  attrs.displayOrder.elim [] (positiveIntegerErrors "display_order")

def createCategory (id : CategoryId) (attrs : CategoryPayload) (catalogue : Catalogue) :
    Except ServiceError Catalogue := do
  rejectFields (missingField "name" attrs.name.isSome ++ missingField "slug" attrs.slug.isSome ++
    catalogue.categoryErrors none attrs)
  let categories ← orRaise (catalogue.categories.insert? id (attrs.assignedTo blankCategory))
    (.integrity "ServiceCategory")
  pure { catalogue with categories := categories }

def updateCategory (id : CategoryId) (attrs : CategoryPayload) (catalogue : Catalogue) :
    Except ServiceError Catalogue := do
  let stored ← orRaise (catalogue.categories.find id) (.doesNotExist "ServiceCategory")
  rejectFields (catalogue.categoryErrors (some id) attrs)
  pure { catalogue with categories := catalogue.categories.set id (attrs.assignedTo stored) }

def clearCategory (id : CategoryId) (faq : FaqContext) : FaqContext :=
  { faq with category := faq.category.filter (· ≠ id) }

def destroyCategory (id : CategoryId) (catalogue : Catalogue) : Except ServiceError Catalogue := do
  let stored ← orRaise (catalogue.categories.find id) (.doesNotExist "ServiceCategory")
  if catalogue.services.values.any (·.category = id) then
    pure { catalogue with categories := catalogue.categories.set id { stored with isActive := false } }
  else pure { catalogue with
    categories := catalogue.categories.delete id
    faqs := catalogue.faqs.map (clearCategory id) }

end Catalogue

structure CatalogueServicePayload where
  category : Option CategoryId
  name : Option String
  slug : Option String
  displayOrder : Option Int
  prices : ServicePayload

namespace Catalogue

def isListedCategory (catalogue : Catalogue) (id : CategoryId) : Bool :=
  (catalogue.categories.find id).any (·.isActive)

def seen (catalogue : Catalogue) (row : ServiceRow) : ServiceFields :=
  { row.service.toServiceFields with categoryIsActive := catalogue.isListedCategory row.category }

def pricesOf (catalogue : Catalogue) (attrs : CatalogueServicePayload) : ServicePayload :=
  { attrs.prices with categoryIsActive := attrs.category.map catalogue.isListedCategory }

def serviceErrors (catalogue : Catalogue) (self : Option ServiceId) (attrs : CatalogueServicePayload) :
    List (String × String) :=
  attrs.category.elim [] (fun category => if catalogue.categories.has category then []
    else [("category", "Invalid pk \"" ++ toString category ++ "\" - object does not exist.")]) ++
  attrs.name.elim [] (fun name => serializerCharErrors "name" 180 (strip name)) ++
  attrs.slug.elim [] (fun slug => slugErrors "service" 220
    (slugTaken ServiceRow.slug catalogue.services self (strip slug)) (strip slug)) ++
  attrs.displayOrder.elim [] (positiveIntegerErrors "display_order")

def createService (id : ServiceId) (attrs : CatalogueServicePayload) (catalogue : Catalogue) :
    Except ServiceError Catalogue := do
  rejectFields (missingField "name" attrs.name.isSome ++ missingField "slug" attrs.slug.isSome ++
    requiredErrors none (catalogue.pricesOf attrs) ++ catalogue.serviceErrors none attrs)
  let category ← orRaise attrs.category (.fieldValidation [("category", "This field is required.")])
  let service ← saveService none (catalogue.pricesOf attrs)
  let services ← orRaise (catalogue.services.insert? id {
    category := category
    name := (attrs.name.map strip).getD ""
    slug := (attrs.slug.map strip).getD ""
    displayOrder := (attrs.displayOrder.map Int.toNat).getD 0
    service := service
  }) (.integrity "Service")
  pure { catalogue with services := services }

def updateService (id : ServiceId) (attrs : CatalogueServicePayload) (catalogue : Catalogue) :
    Except ServiceError Catalogue := do
  let stored ← orRaise (catalogue.services.find id) (.doesNotExist "Service")
  rejectFields (catalogue.serviceErrors (some id) attrs)
  let service ← saveService (some (catalogue.seen stored)) (catalogue.pricesOf attrs)
  pure { catalogue with services := catalogue.services.set id {
    category := attrs.category.getD stored.category
    name := (attrs.name.map strip).getD stored.name
    slug := (attrs.slug.map strip).getD stored.slug
    displayOrder := (attrs.displayOrder.map Int.toNat).getD stored.displayOrder
    service := service
  } }

end Catalogue

def Service.deactivated (service : Service) : Service where
  toServiceFields := { service.toServiceFields with isActive := false }
  clean := service.clean

def ServiceRow.deactivated (row : ServiceRow) : ServiceRow :=
  { row with service := row.service.deactivated }

namespace Catalogue

def clearService (id : ServiceId) (faq : FaqContext) : FaqContext :=
  { faq with service := faq.service.filter (· ≠ id) }

/-- `service.delete()`: items and carts protect it, images and choices go with it, leads and questions stay. -/
def deleteService (id : ServiceId) (catalogue : Catalogue) : Except ServiceError Catalogue := do
  require (¬ (catalogue.bookings.contains id || catalogue.items.any (·.service = id) ||
    catalogue.cartItems.any (·.2 = id)) = true) (protectedRow "Service")
  pure { catalogue with
    services := catalogue.services.delete id
    images := catalogue.images.filter (· ≠ id)
    leads := catalogue.leads.map (·.filter (· ≠ id))
    faqs := catalogue.faqs.map (clearService id)
    areaServices := catalogue.areaServices.filter (·.2 ≠ id)
    technicianServices := catalogue.technicianServices.filter (·.2 ≠ id) }

/-- A service with bookings is switched off only. -/
def destroyService (id : ServiceId) (catalogue : Catalogue) : Except ServiceError Catalogue := do
  let stored ← orRaise (catalogue.services.find id) (.doesNotExist "Service")
  if catalogue.bookings.contains id then
    pure { catalogue with services := catalogue.services.set id stored.deactivated }
  else catalogue.deleteService id

def addImage (service : ServiceId) (catalogue : Catalogue) : Except ServiceError Catalogue := do
  let _ ← orRaise (catalogue.services.find service) (.doesNotExist "Service")
  pure { catalogue with images := catalogue.images ++ [service] }

def removeImage (position : Nat) (catalogue : Catalogue) : Catalogue :=
  { catalogue with images := catalogue.images.eraseIdx position }

end Catalogue

structure ItemPayload where
  service : ServiceId
  quantity : Option Int
  displayOrder : Option Int

structure PackagePayload where
  name : Option String
  slug : Option String
  bundlePrice : Option GivenDecimal
  validFrom : Option (Option Date)
  validUntil : Option (Option Date)
  maximumUsageLimit : Option Int
  isActive : Option Bool
  items : Option (List ItemPayload)

def ItemPayload.count (item : ItemPayload) : Nat :=
  (item.quantity.getD 1).toNat

def blankPackage : PackageFields where
  name := ""
  slug := ""
  bundlePrice := 0
  validFrom := none
  validUntil := none
  maximumUsageLimit := 1
  isActive := true

def PackagePayload.assignedTo (attrs : PackagePayload) (package : PackageFields) : PackageFields where
  name := (attrs.name.map strip).getD package.name
  slug := (attrs.slug.map strip).getD package.slug
  bundlePrice := (attrs.bundlePrice.map GivenDecimal.money).getD package.bundlePrice
  validFrom := attrs.validFrom.getD package.validFrom
  validUntil := attrs.validUntil.getD package.validUntil
  maximumUsageLimit := (attrs.maximumUsageLimit.map Int.toNat).getD package.maximumUsageLimit
  isActive := attrs.isActive.getD package.isActive

/-- `AdminPackageSerializer.validate`, of a new package or of one that is there. -/
def validatePackage (stored : Option PackageFields) (attrs : PackagePayload) : Except ServiceError Unit := do
  let validFrom := attrs.validFrom.getD (stored.bind (·.validFrom))
  let validUntil := attrs.validUntil.getD (stored.bind (·.validUntil))
  require (endsBeforeStart validFrom validUntil = false)
    (.fieldValidation [("valid_until", "Validity end date must be on or after the start date.")])
  require (¬((stored = none ∨ attrs.items ≠ none) ∧ attrs.items.all List.isEmpty = true))
    (.fieldValidation [("items", "At least one service is required.")])
  require ((attrs.items.getD []).map (·.service)).Nodup
    (.fieldValidation [("items", "Each service may appear only once per package.")])

def cleanedPackage (fields : PackageFields) : Except ServiceError Package :=
  if clean : fields.cleanErrors = [] then .ok { fields with clean := clean }
  else .error (.fieldValidation fields.cleanErrors)

/-- `PackageItem.objects.create`, with its cleaning and its unique constraint. -/
def addItem (package : PackageId) (items : List PackageItem) (attrs : ItemPayload) :
    Except ServiceError (List PackageItem) :=
  if positive : 1 ≤ attrs.count then
    if items.any (fun item => item.package == package && item.service == attrs.service) then
      .error (.fieldValidation [("__all__", "Package item with this Package and Service already exists.")])
    else .ok (items ++ [{
      package := package
      service := attrs.service
      quantity := attrs.count
      displayOrder := (attrs.displayOrder.getD 0).toNat
      positive := positive
    }])
  else .error (.fieldValidation [("quantity", "Quantity must be at least 1.")])

def replaceItems (package : PackageId) : List ItemPayload → List PackageItem →
    Except ServiceError (List PackageItem)
  | [], items => .ok items
  | first :: rest, items => do
      let added ← addItem package items first
      replaceItems package rest added

/-- Where a payload lists items, they come in place of the package's own. -/
def updatedItems (package : PackageId) (attrs : Option (List ItemPayload)) (items : List PackageItem) :
    Except ServiceError (List PackageItem) :=
  match attrs with
  | none => .ok items
  | some listed => replaceItems package listed (items.filter (·.package ≠ package))

namespace Catalogue

def itemErrors (catalogue : Catalogue) (position : Nat) (item : ItemPayload) : List (String × String) :=
  let path (field : String) := "items." ++ toString position ++ "." ++ field
  (if catalogue.services.has item.service then []
    else [(path "service", "Invalid pk \"" ++ toString item.service ++ "\" - object does not exist.")]) ++
  item.quantity.elim [] (fun quantity => validated (positiveIntegerErrors (path "quantity") quantity) (quantity < 1)
    (path "quantity", "Quantity must be at least 1.")) ++
  item.displayOrder.elim [] (positiveIntegerErrors (path "display_order"))

def packageErrors (catalogue : Catalogue) (self : Option PackageId) (attrs : PackagePayload) :
    List (String × String) :=
  attrs.name.elim [] (fun name => serializerCharErrors "name" 180 (strip name)) ++
  attrs.slug.elim [] (fun slug => slugErrors "package" 220
    (slugTaken (·.slug) catalogue.packages self (strip slug)) (strip slug)) ++
  attrs.bundlePrice.elim [] (fun price => validated (decimalFieldErrors "bundle_price" 10 2 price) price.isNegative
    ("bundle_price", "Bundle price cannot be negative.")) ++
  attrs.maximumUsageLimit.elim [] (fun limit => validated (positiveIntegerErrors "maximum_usage_limit" limit) (limit < 1)
    ("maximum_usage_limit", "Maximum usage limit must be at least 1.")) ++
  ((attrs.items.getD []).mapIdx catalogue.itemErrors).flatten

def createPackage (id : PackageId) (attrs : PackagePayload) (catalogue : Catalogue) :
    Except ServiceError Catalogue := do
  rejectFields (missingField "name" attrs.name.isSome ++ missingField "slug" attrs.slug.isSome ++
    missingField "bundle_price" attrs.bundlePrice.isSome ++ missingField "items" attrs.items.isSome ++
    catalogue.packageErrors none attrs)
  validatePackage none attrs
  let package ← cleanedPackage (attrs.assignedTo blankPackage)
  let packages ← orRaise (catalogue.packages.insert? id package) (.integrity "Package")
  let items ← replaceItems id (attrs.items.getD []) catalogue.items
  pure { catalogue with packages := packages, items := items }

def updatePackage (id : PackageId) (attrs : PackagePayload) (catalogue : Catalogue) :
    Except ServiceError Catalogue := do
  let stored ← orRaise (catalogue.packages.find id) (.doesNotExist "Package")
  rejectFields (catalogue.packageErrors (some id) attrs)
  validatePackage (some stored.toPackageFields) attrs
  let package ← cleanedPackage (attrs.assignedTo stored.toPackageFields)
  let items ← updatedItems id attrs.items catalogue.items
  pure { catalogue with packages := catalogue.packages.set id package, items := items }

def destroyPackage (id : PackageId) (catalogue : Catalogue) : Except ServiceError Catalogue := do
  let _ ← orRaise (catalogue.packages.find id) (.doesNotExist "Package")
  pure { catalogue with
    packages := catalogue.packages.delete id
    items := catalogue.items.filter (·.package ≠ id) }

def isAvailable (catalogue : Catalogue) (id : ServiceId) : Bool :=
  (catalogue.services.find id).any fun row => row.service.isActive && catalogue.isListedCategory row.category

def book (id : ServiceId) (catalogue : Catalogue) : Except ServiceError Catalogue := do
  require (catalogue.isAvailable id = true) (.validation "Service is not available.")
  pure { catalogue with bookings := catalogue.bookings ++ [id] }

def addToCart (customer : UserId) (id : ServiceId) (catalogue : Catalogue) : Except ServiceError Catalogue := do
  require (catalogue.isAvailable id = true)
    (.validation "One or more services are unavailable. Remove them and try again.")
  pure { catalogue with cartItems :=
    if catalogue.cartItems.contains (customer, id) then catalogue.cartItems
    else catalogue.cartItems ++ [(customer, id)] }

def removeFromCart (customer : UserId) (id : ServiceId) (catalogue : Catalogue) : Catalogue :=
  { catalogue with cartItems := catalogue.cartItems.filter (· ≠ (customer, id)) }

def enterLead (service : Option ServiceId) (catalogue : Catalogue) : Except ServiceError Catalogue := do
  require (service.all catalogue.services.has = true) (.integrity "Lead")
  pure { catalogue with leads := catalogue.leads ++ [service] }

def writeFaq (faq : FaqContext) (catalogue : Catalogue) : Except ServiceError Catalogue := do
  require (faq.category.all catalogue.categories.has = true ∧ faq.service.all catalogue.services.has = true)
    (.integrity "FAQ")
  pure { catalogue with faqs := catalogue.faqs ++ [faq] }

/-- Without a choice a new area gets every active service. -/
def chooseAreaServices (area : ServiceAreaId) (choice : Option (List ServiceId)) (catalogue : Catalogue) :
    Except ServiceError Catalogue := do
  let chosen := choice.getD ((catalogue.services.rows.filter (·.2.service.isActive)).map Prod.fst)
  require (chosen.all catalogue.services.has = true) (.integrity "ServiceArea")
  pure { catalogue with areaServices :=
    catalogue.areaServices.filter (·.1 ≠ area) ++ chosen.eraseDups.map (area, ·) }

def chooseTechnicianServices (technician : TechnicianId) (chosen : List ServiceId) (catalogue : Catalogue) :
    Except ServiceError Catalogue := do
  require (chosen.all catalogue.services.has = true) (.integrity "TechnicianProfile")
  pure { catalogue with technicianServices :=
    catalogue.technicianServices.filter (·.1 ≠ technician) ++ chosen.eraseDups.map (technician, ·) }

end Catalogue

inductive CatalogueOp
  | createCategory (id : CategoryId) (attrs : CategoryPayload)
  | updateCategory (id : CategoryId) (attrs : CategoryPayload)
  | destroyCategory (id : CategoryId)
  | createService (id : ServiceId) (attrs : CatalogueServicePayload)
  | updateService (id : ServiceId) (attrs : CatalogueServicePayload)
  | destroyService (id : ServiceId)
  | addImage (service : ServiceId)
  | removeImage (position : Nat)
  | createPackage (id : PackageId) (attrs : PackagePayload)
  | updatePackage (id : PackageId) (attrs : PackagePayload)
  | destroyPackage (id : PackageId)
  | book (id : ServiceId)
  | addToCart (customer : UserId) (id : ServiceId)
  | removeFromCart (customer : UserId) (id : ServiceId)
  | enterLead (service : Option ServiceId)
  | writeFaq (faq : FaqContext)
  | chooseAreaServices (area : ServiceAreaId) (choice : Option (List ServiceId))
  | chooseTechnicianServices (technician : TechnicianId) (chosen : List ServiceId)

namespace Catalogue

def apply (catalogue : Catalogue) : CatalogueOp → Except ServiceError Catalogue
  | .createCategory id attrs => catalogue.createCategory id attrs
  | .updateCategory id attrs => catalogue.updateCategory id attrs
  | .destroyCategory id => catalogue.destroyCategory id
  | .createService id attrs => catalogue.createService id attrs
  | .updateService id attrs => catalogue.updateService id attrs
  | .destroyService id => catalogue.destroyService id
  | .addImage service => catalogue.addImage service
  | .removeImage position => .ok (catalogue.removeImage position)
  | .createPackage id attrs => catalogue.createPackage id attrs
  | .updatePackage id attrs => catalogue.updatePackage id attrs
  | .destroyPackage id => catalogue.destroyPackage id
  | .book id => catalogue.book id
  | .addToCart customer id => catalogue.addToCart customer id
  | .removeFromCart customer id => .ok (catalogue.removeFromCart customer id)
  | .enterLead service => catalogue.enterLead service
  | .writeFaq faq => catalogue.writeFaq faq
  | .chooseAreaServices area choice => catalogue.chooseAreaServices area choice
  | .chooseTechnicianServices technician chosen => catalogue.chooseTechnicianServices technician chosen

def step (catalogue : Catalogue) (op : CatalogueOp) : Catalogue :=
  match catalogue.apply op with
  | .ok next => next
  | .error _ => catalogue

end Catalogue

/-! What every operation keeps. -/

structure Catalogue.Sound (catalogue : Catalogue) : Prop where
  serviceCategories : Refers catalogue.services.values (fun row => [row.category]) catalogue.categories
  itemPackages : Refers catalogue.items (fun item => [item.package]) catalogue.packages
  itemServices : Refers catalogue.items (fun item => [item.service]) catalogue.services
  imageServices : Refers catalogue.images (fun service => [service]) catalogue.services
  bookingServices : Refers catalogue.bookings (fun service => [service]) catalogue.services
  cartServices : Refers catalogue.cartItems (fun item => [item.2]) catalogue.services
  leadServices : Refers catalogue.leads Option.toList catalogue.services
  faqCategories : Refers catalogue.faqs (fun faq => faq.category.toList) catalogue.categories
  faqServices : Refers catalogue.faqs (fun faq => faq.service.toList) catalogue.services
  areaServices : Refers catalogue.areaServices (fun link => [link.2]) catalogue.services
  technicianServices : Refers catalogue.technicianServices (fun link => [link.2]) catalogue.services
  categorySlugs : UniqueValues catalogue.categories Category.slug
  serviceSlugs : UniqueValues catalogue.services ServiceRow.slug
  packageSlugs : UniqueValues catalogue.packages (fun package => package.slug)
  stocked : ∀ id, catalogue.packages.has id = true → ∃ item ∈ catalogue.items, item.package = id
  itemsApart : catalogue.items.Pairwise fun first second => first.package = second.package →
    first.service ≠ second.service

theorem Catalogue.Sound.empty : Catalogue.empty.Sound where
  serviceCategories := .nil
  itemPackages := .nil
  itemServices := .nil
  imageServices := .nil
  bookingServices := .nil
  cartServices := .nil
  leadServices := .nil
  faqCategories := .nil
  faqServices := .nil
  areaServices := .nil
  technicianServices := .nil
  categorySlugs := .empty
  serviceSlugs := .empty
  packageSlugs := .empty
  stocked := fun id present => by cases present
  itemsApart := .nil

section

variable {Row : Type} {slugOf : Row → String} {table : KeyTable Nat Row} {self : Option Nat} {slug : String}

theorem slugTaken_false (free : slugTaken slugOf table self slug = false) {other : Nat} {row : Row}
    (differs : some other ≠ self) (found : table.find other = some row) : slugOf row ≠ slug := by
  intro same
  have taken : slugTaken slugOf table self slug = true := by
    refine List.any_eq_true.mpr ⟨(other, row), KeyTable.find_iff.mp found, ?_⟩
    simp [differs, same]
  rw [free] at taken
  cases taken

theorem slugErrors_free {model : String} {maxLength : Nat} {taken : Bool}
    (fine : slugErrors model maxLength taken slug = []) : taken = false := by
  simp only [slugErrors, List.append_eq_nil_iff, ite_eq_right_iff, List.cons_ne_nil, imp_false, not_and] at fine
  obtain ⟨⟨free, filled⟩, _⟩ := fine
  refine Bool.eq_false_iff.mpr (free ?_)
  rintro rfl
  simp [serializerCharErrors] at filled

theorem assigned_free {model : String} {maxLength : Nat} {given : Option String} {stored : String}
    (fine : given.elim [] (fun text =>
      slugErrors model maxLength (slugTaken slugOf table self (strip text)) (strip text)) = [])
    (unique : given = none → ∀ other row, some other ≠ self → table.find other = some row → slugOf row ≠ stored)
    {other : Nat} {row : Row} (differs : some other ≠ self) (found : table.find other = some row) :
    slugOf row ≠ (given.map strip).getD stored := by
  cases given with
  | none => exact unique rfl other row differs found
  | some text => exact slugTaken_false (slugErrors_free fine) differs found

end

theorem rejectFields_iff {errors : List (String × String)} {done : Unit} :
    rejectFields errors = .ok done ↔ errors = [] := by
  simp only [rejectFields, accepted_require]

namespace Catalogue

section

variable {catalogue next : Catalogue}

theorem categoryErrors_slug {self : Option CategoryId} {attrs : CategoryPayload}
    (fine : catalogue.categoryErrors self attrs = []) :
    attrs.slug.elim [] (fun slug => slugErrors "service category" 180
      (slugTaken Category.slug catalogue.categories self (strip slug)) (strip slug)) = [] := by
  simp only [categoryErrors, List.append_eq_nil_iff] at fine
  exact fine.1.2

theorem createCategory_sound {id : CategoryId} {attrs : CategoryPayload} (sound : catalogue.Sound)
    (accepted : catalogue.createCategory id attrs = .ok next) : next.Sound := by
  simp only [createCategory, accepted_bind, accepted_orRaise, accepted_pure, rejectFields_iff,
    List.append_eq_nil_iff] at accepted
  obtain ⟨_, ⟨⟨_, given⟩, checked⟩, categories, inserted, rfl⟩ := accepted
  refine { sound with
    serviceCategories := sound.serviceCategories.inserted inserted
    faqCategories := sound.faqCategories.inserted inserted
    categorySlugs := sound.categorySlugs.inserted inserted fun other old found => ?_ }
  refine assigned_free (categoryErrors_slug checked) (fun absent => ?_) (by simp) found
  rw [absent] at given
  cases given

theorem updateCategory_sound {id : CategoryId} {attrs : CategoryPayload} (sound : catalogue.Sound)
    (accepted : catalogue.updateCategory id attrs = .ok next) : next.Sound := by
  simp only [updateCategory, accepted_bind, accepted_orRaise, accepted_pure, rejectFields_iff] at accepted
  obtain ⟨stored, found, _, checked, rfl⟩ := accepted
  refine { sound with
    serviceCategories := sound.serviceCategories.set id _
    faqCategories := sound.faqCategories.set id _
    categorySlugs := sound.categorySlugs.set found fun other one differs isOther => ?_ }
  refine assigned_free (categoryErrors_slug checked) (fun _ key row apart isRow same => ?_) (by simpa using differs)
    isOther
  exact apart (congrArg some (sound.categorySlugs key id row stored isRow found same))

theorem destroyCategory_sound {id : CategoryId} (sound : catalogue.Sound)
    (accepted : catalogue.destroyCategory id = .ok next) : next.Sound := by
  simp only [destroyCategory, accepted_bind, accepted_orRaise] at accepted
  obtain ⟨stored, found, accepted⟩ := accepted
  split at accepted
  · cases accepted
    exact { sound with
      serviceCategories := sound.serviceCategories.set id _
      faqCategories := sound.faqCategories.set id _
      categorySlugs := sound.categorySlugs.set found fun other one differs isOther same =>
        differs (sound.categorySlugs other id one stored isOther found same) }
  · rename_i unused
    cases accepted
    refine { sound with
      serviceCategories := sound.serviceCategories.unreferenced fun row member isTarget => unused ?_
      faqCategories := sound.faqCategories.setNull id fun faq target isTarget => ?_
      faqServices := ?_
      categorySlugs := sound.categorySlugs.delete id }
    · exact List.any_eq_true.mpr ⟨row, member, by simpa using (List.mem_singleton.mp isTarget).symm⟩
    · simpa [clearCategory, Option.filter_eq_some_iff] using isTarget
    · intro faq member
      obtain ⟨old, isOld, rfl⟩ := List.mem_map.mp member
      exact sound.faqServices old isOld

theorem Sound.withServices (sound : catalogue.Sound) {services : KeyTable ServiceId ServiceRow}
    (kept : ∀ key, catalogue.services.has key = true → services.has key = true)
    (categories : Refers services.values (fun row => [row.category]) catalogue.categories)
    (slugs : UniqueValues services ServiceRow.slug) : Sound { catalogue with services := services } :=
  { sound with
    serviceCategories := categories
    itemServices := sound.itemServices.grows kept
    imageServices := sound.imageServices.grows kept
    bookingServices := sound.bookingServices.grows kept
    cartServices := sound.cartServices.grows kept
    leadServices := sound.leadServices.grows kept
    faqServices := sound.faqServices.grows kept
    areaServices := sound.areaServices.grows kept
    technicianServices := sound.technicianServices.grows kept
    serviceSlugs := slugs }

theorem serviceErrors_category {self : Option ServiceId} {attrs : CatalogueServicePayload} {category : CategoryId}
    (fine : catalogue.serviceErrors self attrs = []) (given : attrs.category = some category) :
    catalogue.categories.has category = true := by
  simp only [serviceErrors, List.append_eq_nil_iff, given, Option.elim_some] at fine
  obtain ⟨⟨⟨isCategory, _⟩, _⟩, _⟩ := fine
  split at isCategory
  · rename_i present
    exact present
  · cases isCategory

theorem serviceErrors_slug {self : Option ServiceId} {attrs : CatalogueServicePayload}
    (fine : catalogue.serviceErrors self attrs = []) :
    attrs.slug.elim [] (fun slug => slugErrors "service" 220
      (slugTaken ServiceRow.slug catalogue.services self (strip slug)) (strip slug)) = [] := by
  simp only [serviceErrors, List.append_eq_nil_iff] at fine
  exact fine.1.2

theorem createService_sound {id : ServiceId} {attrs : CatalogueServicePayload} (sound : catalogue.Sound)
    (accepted : catalogue.createService id attrs = .ok next) : next.Sound := by
  simp only [createService, accepted_bind, accepted_orRaise, accepted_pure, rejectFields_iff,
    List.append_eq_nil_iff] at accepted
  obtain ⟨_, ⟨⟨⟨_, given⟩, _⟩, checked⟩, category, hasCategory, service, _, services, inserted, rfl⟩ := accepted
  refine sound.withServices (fun key present => KeyTable.has_insert inserted present) ?_
    (sound.serviceSlugs.inserted inserted fun other old found => ?_)
  · intro row member target isTarget
    obtain ⟨key, found⟩ := KeyTable.mem_values.mp member
    rw [(KeyTable.find_insert inserted).2] at found
    split at found
    · cases found
      rw [List.mem_singleton.mp isTarget]
      exact serviceErrors_category checked hasCategory
    · exact sound.serviceCategories row (KeyTable.mem_values.mpr ⟨key, found⟩) target isTarget
  · refine assigned_free (serviceErrors_slug checked) (fun absent => ?_) (by simp) found
    rw [absent] at given
    cases given

theorem updateService_sound {id : ServiceId} {attrs : CatalogueServicePayload} (sound : catalogue.Sound)
    (accepted : catalogue.updateService id attrs = .ok next) : next.Sound := by
  simp only [updateService, accepted_bind, accepted_orRaise, accepted_pure, rejectFields_iff] at accepted
  obtain ⟨stored, found, _, checked, service, _, rfl⟩ := accepted
  refine sound.withServices (fun key present => KeyTable.has_set _ present) ?_
    (sound.serviceSlugs.set found fun other one differs isOther => ?_)
  · intro row member target isTarget
    obtain ⟨key, isRow⟩ := KeyTable.mem_values.mp member
    rw [KeyTable.find_set found] at isRow
    split at isRow
    · cases isRow
      rw [List.mem_singleton.mp isTarget]
      cases given : attrs.category with
      | none => exact sound.serviceCategories stored (KeyTable.mem_values.mpr ⟨id, found⟩) _ List.mem_cons_self
      | some category => exact serviceErrors_category checked given
    · exact sound.serviceCategories row (KeyTable.mem_values.mpr ⟨key, isRow⟩) target isTarget
  · refine assigned_free (serviceErrors_slug checked) (fun _ key row apart isRow same => ?_) (by simpa using differs)
      isOther
    exact apart (congrArg some (sound.serviceSlugs key id row stored isRow found same))

theorem filtered_apart {Child : Type} {target : Child → Nat} {children : List Child} {id : Nat} {child : Child}
    (member : child ∈ children.filter (target · ≠ id)) : child ∈ children ∧ id ∉ [target child] := by
  obtain ⟨isChild, differs⟩ := List.mem_filter.mp member
  refine ⟨isChild, fun isTarget => ?_⟩
  exact (of_decide_eq_true differs) (List.mem_singleton.mp isTarget).symm

theorem deactivated_sound {id : ServiceId} {stored : ServiceRow} (sound : catalogue.Sound)
    (found : catalogue.services.find id = some stored) :
    Sound { catalogue with services := catalogue.services.set id stored.deactivated } := by
  refine sound.withServices (fun key present => KeyTable.has_set _ present) ?_
    (sound.serviceSlugs.set found fun other one differs isOther same =>
      differs (sound.serviceSlugs other id one stored isOther found same))
  intro row member target isTarget
  obtain ⟨key, isRow⟩ := KeyTable.mem_values.mp member
  rw [KeyTable.find_set found] at isRow
  split at isRow
  · cases isRow
    exact sound.serviceCategories stored (KeyTable.mem_values.mpr ⟨id, found⟩) target isTarget
  · exact sound.serviceCategories row (KeyTable.mem_values.mpr ⟨key, isRow⟩) target isTarget

theorem deleteService_sound {id : ServiceId} (sound : catalogue.Sound)
    (accepted : catalogue.deleteService id = .ok next) : next.Sound := by
  simp only [deleteService, accepted_bind, accepted_require, accepted_pure, Bool.or_eq_true, not_or,
    List.contains_iff_mem, List.any_eq_true, decide_eq_true_eq, not_exists, not_and] at accepted
  obtain ⟨_, ⟨⟨unbooked, unpacked⟩, uncarted⟩, rfl⟩ := accepted
  have fewer : ∀ row ∈ (catalogue.services.delete id).values, row ∈ catalogue.services.values := by
    intro row member
    obtain ⟨key, found⟩ := KeyTable.mem_values.mp member
    rw [KeyTable.find_delete] at found
    split at found
    · cases found
    · exact KeyTable.mem_values.mpr ⟨key, found⟩
  refine { sound with
    serviceCategories := sound.serviceCategories.subset fewer
    itemServices := sound.itemServices.unreferenced fun item member isTarget =>
      unpacked item member (List.mem_singleton.mp isTarget).symm
    imageServices := sound.imageServices.cascade fun image member => filtered_apart member
    bookingServices := sound.bookingServices.unreferenced fun service member isTarget =>
      unbooked ((List.mem_singleton.mp isTarget) ▸ member)
    cartServices := sound.cartServices.unreferenced fun item member isTarget =>
      uncarted item member (List.mem_singleton.mp isTarget).symm
    leadServices := sound.leadServices.setNull id fun lead target isTarget => ?_
    faqCategories := ?_
    faqServices := sound.faqServices.setNull id fun faq target isTarget => ?_
    areaServices := sound.areaServices.cascade fun link member => filtered_apart member
    technicianServices := sound.technicianServices.cascade fun link member => filtered_apart member
    serviceSlugs := sound.serviceSlugs.delete id }
  · simpa [Option.filter_eq_some_iff] using isTarget
  · intro faq member
    obtain ⟨old, isOld, rfl⟩ := List.mem_map.mp member
    exact sound.faqCategories old isOld
  · simpa [clearService, Option.filter_eq_some_iff] using isTarget

theorem destroyService_sound {id : ServiceId} (sound : catalogue.Sound)
    (accepted : catalogue.destroyService id = .ok next) : next.Sound := by
  simp only [destroyService, accepted_bind, accepted_orRaise] at accepted
  obtain ⟨stored, found, accepted⟩ := accepted
  split at accepted
  · cases accepted
    exact deactivated_sound sound found
  · exact deleteService_sound sound accepted

/-- What is added to the items is what the payload lists, and stands beside nothing of its kind. -/
structure Restocked (package : PackageId) (attrs : List ItemPayload) (items next : List PackageItem) : Prop where
  added : ∃ added, next = items ++ added ∧ added.map (·.service) = attrs.map (·.service) ∧
    ∀ item ∈ added, item.package = package
  apart : (items.Pairwise fun first second => first.package = second.package → first.service ≠ second.service) →
    next.Pairwise fun first second => first.package = second.package → first.service ≠ second.service

theorem addItem_restocks {package : PackageId} {items added : List PackageItem} {attrs : ItemPayload}
    (accepted : addItem package items attrs = .ok added) : Restocked package [attrs] items added := by
  unfold addItem at accepted
  split at accepted
  · rename_i positive
    split at accepted
    · cases accepted
    · rename_i alone
      cases accepted
      refine ⟨⟨_, rfl, rfl, fun item member => ?_⟩, fun apart => ?_⟩
      · rw [List.mem_singleton.mp member]
      · refine List.pairwise_append.mpr ⟨apart, List.pairwise_singleton _ _, fun old isOld new isNew => ?_⟩
        rw [List.mem_singleton.mp isNew]
        intro samePackage sameService
        exact alone (List.any_eq_true.mpr ⟨old, isOld, by simp [samePackage, sameService]⟩)
  · cases accepted

theorem replaceItems_restocks {package : PackageId} {attrs : List ItemPayload} {items next : List PackageItem}
    (accepted : replaceItems package attrs items = .ok next) : Restocked package attrs items next := by
  induction attrs generalizing items with
  | nil =>
      cases accepted
      exact ⟨⟨[], (List.append_nil _).symm, rfl, fun _ member => by cases member⟩, id⟩
  | cons first rest ih =>
      simp only [replaceItems, accepted_bind] at accepted
      obtain ⟨middle, added, replaced⟩ := accepted
      obtain ⟨⟨one, rfl, oneService, onePackage⟩, oneApart⟩ := addItem_restocks added
      obtain ⟨⟨others, rfl, services, packages⟩, apart⟩ := ih replaced
      refine ⟨⟨one ++ others, List.append_assoc .., ?_, fun item member => ?_⟩,
        fun before => apart (oneApart before)⟩
      · rw [List.map_append, oneService, services]
        rfl
      · exact (List.mem_append.mp member).elim (onePackage item) (packages item)

theorem itemErrors_present {attrs : List ItemPayload} (fine : (attrs.mapIdx catalogue.itemErrors).flatten = []) :
    ∀ service ∈ attrs.map (·.service), catalogue.services.has service = true := by
  intro service member
  obtain ⟨item, isItem, rfl⟩ := List.mem_map.mp member
  obtain ⟨position, found⟩ := List.mem_iff_getElem?.mp isItem
  have none : catalogue.itemErrors position item = [] := by
    refine List.flatten_eq_nil_iff.mp fine _ (List.mem_iff_getElem?.mpr ⟨position, ?_⟩)
    rw [List.getElem?_mapIdx, found, Option.map_some]
  simp only [itemErrors, List.append_eq_nil_iff] at none
  by_contra absent
  simp [absent] at none

theorem packageErrors_slug {self : Option PackageId} {attrs : PackagePayload}
    (fine : catalogue.packageErrors self attrs = []) :
    attrs.slug.elim [] (fun slug => slugErrors "package" 220
      (slugTaken (·.slug) catalogue.packages self (strip slug)) (strip slug)) = [] := by
  simp only [packageErrors, List.append_eq_nil_iff] at fine
  exact fine.1.1.1.2

theorem packageErrors_items {self : Option PackageId} {attrs : PackagePayload}
    (fine : catalogue.packageErrors self attrs = []) :
    ((attrs.items.getD []).mapIdx catalogue.itemErrors).flatten = [] := by
  simp only [packageErrors, List.append_eq_nil_iff] at fine
  exact fine.2

theorem cleanedPackage_fields {fields : PackageFields} {package : Package}
    (cleaned : cleanedPackage fields = .ok package) : package.toPackageFields = fields := by
  unfold cleanedPackage at cleaned
  split at cleaned
  · cases cleaned
    rfl
  · cases cleaned

theorem validatePackage_stocks {stored : Option PackageFields} {attrs : PackagePayload} {done : Unit}
    (accepted : validatePackage stored attrs = .ok done) (concerned : stored = none ∨ attrs.items ≠ none) :
    ∃ items, attrs.items = some items ∧ items ≠ [] := by
  simp only [validatePackage, accepted_bind, accepted_require, not_and] at accepted
  obtain ⟨_, _, _, stocked, _⟩ := accepted
  have notAll := stocked concerned
  cases given : attrs.items with
  | none => simp [given] at notAll
  | some items => exact ⟨items, rfl, by simpa [given] using notAll⟩

theorem Restocked.sound {package : PackageId} {attrs : List ItemPayload} {items next : List PackageItem}
    {packages : KeyTable PackageId Package} {services : KeyTable ServiceId ServiceRow}
    (restocked : Restocked package attrs items next) (isPackage : packages.has package = true)
    (present : ∀ service ∈ attrs.map (·.service), services.has service = true)
    (ofPackages : Refers items (fun item => [item.package]) packages)
    (ofServices : Refers items (fun item => [item.service]) services) :
    Refers next (fun item => [item.package]) packages ∧ Refers next (fun item => [item.service]) services := by
  obtain ⟨⟨added, rfl, names, owner⟩, _⟩ := restocked
  refine ⟨ofPackages.append fun item member target isTarget => ?_,
    ofServices.append fun item member target isTarget => ?_⟩
  · rw [List.mem_singleton.mp isTarget, owner item member]
    exact isPackage
  · rw [List.mem_singleton.mp isTarget]
    exact present item.service (names ▸ List.mem_map_of_mem member)

theorem Restocked.nonempty {package : PackageId} {attrs : List ItemPayload} {items next : List PackageItem}
    (restocked : Restocked package attrs items next) (listed : attrs ≠ []) :
    ∃ item ∈ next, item.package = package := by
  obtain ⟨⟨added, rfl, names, owner⟩, _⟩ := restocked
  cases added with
  | nil => exact absurd (List.map_eq_nil_iff.mp names.symm) listed
  | cons first rest => exact ⟨first, by simp, owner first List.mem_cons_self⟩

theorem createPackage_sound {id : PackageId} {attrs : PackagePayload} (sound : catalogue.Sound)
    (accepted : catalogue.createPackage id attrs = .ok next) : next.Sound := by
  simp only [createPackage, accepted_bind, accepted_orRaise, accepted_pure, rejectFields_iff,
    List.append_eq_nil_iff] at accepted
  obtain ⟨_, ⟨⟨⟨⟨_, given⟩, _⟩, _⟩, checked⟩, _, validated, package, cleaned, packages, inserted, items, replaced,
    rfl⟩ := accepted
  have present := packageErrors_items checked
  obtain ⟨listed, isListed, nonempty⟩ := validatePackage_stocks validated (.inl rfl)
  rw [isListed, Option.getD_some] at replaced present
  have restocked := replaceItems_restocks replaced
  have isPackage : packages.has id = true := by
    rw [KeyTable.has, (KeyTable.find_insert inserted).2, if_pos rfl]
    rfl
  obtain ⟨ofPackages, ofServices⟩ := restocked.sound isPackage (itemErrors_present present)
    (sound.itemPackages.inserted inserted) sound.itemServices
  refine { sound with
    itemPackages := ofPackages
    itemServices := ofServices
    packageSlugs := sound.packageSlugs.inserted inserted fun other old found => ?_
    stocked := fun key has => ?_
    itemsApart := restocked.apart sound.itemsApart }
  · have stored : package.slug = (attrs.slug.map strip).getD "" := by
      rw [cleanedPackage_fields cleaned]
      rfl
    rw [stored]
    refine assigned_free (packageErrors_slug checked) (fun absent => ?_) (by simp) found
    rw [absent] at given
    cases given
  · by_cases same : key = id
    · rw [same]
      exact restocked.nonempty nonempty
    · rw [KeyTable.has, (KeyTable.find_insert inserted).2, if_neg same] at has
      obtain ⟨item, member, isOf⟩ := sound.stocked key has
      obtain ⟨added, rfl, _⟩ := restocked.added
      exact ⟨item, List.mem_append_left added member, isOf⟩

theorem updatePackage_sound {id : PackageId} {attrs : PackagePayload} (sound : catalogue.Sound)
    (accepted : catalogue.updatePackage id attrs = .ok next) : next.Sound := by
  simp only [updatePackage, accepted_bind, accepted_orRaise, accepted_pure, rejectFields_iff] at accepted
  obtain ⟨stored, found, _, checked, _, validated, package, cleaned, items, replaced, rfl⟩ := accepted
  have present := packageErrors_items checked
  have slugs : UniqueValues (catalogue.packages.set id package) (fun package => package.slug) := by
    refine sound.packageSlugs.set found fun other one differs isOther => ?_
    have isStored : package.slug = (attrs.slug.map strip).getD stored.slug := by
      rw [cleanedPackage_fields cleaned]
      rfl
    rw [isStored]
    refine assigned_free (packageErrors_slug checked) (fun _ key row apart isRow same => ?_) (by simpa using differs)
      isOther
    exact apart (congrArg some (sound.packageSlugs key id row stored isRow found same))
  have hasKept : ∀ key, (catalogue.packages.set id package).has key = true →
      catalogue.packages.has key = true := by
    intro key has
    rw [KeyTable.has, KeyTable.find_set found] at has
    split at has
    · rename_i same
      rw [same, KeyTable.has, found]
      rfl
    · exact has
  cases given : attrs.items with
  | none =>
      rw [given] at replaced
      cases replaced
      exact { sound with
        itemPackages := sound.itemPackages.set id package
        packageSlugs := slugs
        stocked := fun key has => sound.stocked key (hasKept key has) }
  | some listed =>
      rw [given] at replaced present
      obtain ⟨_, isListed, nonempty⟩ := validatePackage_stocks validated (.inr (given ▸ Option.some_ne_none listed))
      rw [given, Option.some.injEq] at isListed
      subst isListed
      have restocked := replaceItems_restocks replaced
      have fewer : ∀ item ∈ catalogue.items.filter (·.package ≠ id), item ∈ catalogue.items :=
        fun item member => (List.mem_filter.mp member).1
      have isPackage : (catalogue.packages.set id package).has id = true := by
        rw [KeyTable.has, KeyTable.find_set found, if_pos rfl]
        rfl
      obtain ⟨ofPackages, ofServices⟩ := restocked.sound isPackage (itemErrors_present present)
        ((sound.itemPackages.subset fewer).set id package) (sound.itemServices.subset fewer)
      refine { sound with
        itemPackages := ofPackages
        itemServices := ofServices
        packageSlugs := slugs
        stocked := fun key has => ?_
        itemsApart := restocked.apart (sound.itemsApart.filter _) }
      by_cases same : key = id
      · rw [same]
        exact restocked.nonempty nonempty
      · obtain ⟨item, member, isOf⟩ := sound.stocked key (hasKept key has)
        obtain ⟨added, rfl, _⟩ := restocked.added
        have spared : item ∈ catalogue.items.filter (·.package ≠ id) :=
          List.mem_filter.mpr ⟨member, by simpa [isOf] using same⟩
        exact ⟨item, List.mem_append_left added spared, isOf⟩

theorem destroyPackage_sound {id : PackageId} (sound : catalogue.Sound)
    (accepted : catalogue.destroyPackage id = .ok next) : next.Sound := by
  simp only [destroyPackage, accepted_bind, accepted_orRaise, accepted_pure] at accepted
  obtain ⟨stored, found, rfl⟩ := accepted
  have fewer : ∀ item ∈ catalogue.items.filter (·.package ≠ id), item ∈ catalogue.items :=
    fun item member => (List.mem_filter.mp member).1
  refine { sound with
    itemPackages := sound.itemPackages.cascade fun item member => filtered_apart member
    itemServices := sound.itemServices.subset fewer
    packageSlugs := sound.packageSlugs.delete id
    stocked := fun key has => ?_
    itemsApart := sound.itemsApart.filter _ }
  · rw [KeyTable.has, KeyTable.find_delete] at has
    split at has
    · cases has
    · rename_i differs
      obtain ⟨item, member, isOf⟩ := sound.stocked key has
      exact ⟨item, List.mem_filter.mpr ⟨member, by simpa [isOf] using differs⟩, isOf⟩

theorem available_has {id : ServiceId} (available : catalogue.isAvailable id = true) :
    catalogue.services.has id = true := by
  obtain ⟨row, found, _⟩ := (Option.any_eq_true _ _).mp available
  exact KeyTable.has_iff.mpr ⟨row, found⟩

theorem links_present {owner : Nat} {chosen : List ServiceId} {links : List (Nat × ServiceId)}
    (refers : Refers links (fun link => [link.2]) catalogue.services)
    (present : chosen.all catalogue.services.has = true) :
    Refers (links.filter (·.1 ≠ owner) ++ chosen.eraseDups.map (owner, ·)) (fun link => [link.2])
      catalogue.services := by
  refine (refers.subset fun link member => (List.mem_filter.mp member).1).append fun link member target isTarget => ?_
  obtain ⟨service, isChosen, rfl⟩ := List.mem_map.mp member
  rw [List.mem_singleton.mp isTarget]
  exact List.all_eq_true.mp present service (List.mem_eraseDups.mp isChosen)

theorem addImage_sound {service : ServiceId} (sound : catalogue.Sound)
    (accepted : catalogue.addImage service = .ok next) : next.Sound := by
  simp only [addImage, accepted_bind, accepted_orRaise, accepted_pure] at accepted
  obtain ⟨row, found, rfl⟩ := accepted
  refine { sound with imageServices := sound.imageServices.append (.one fun target isTarget => ?_) }
  rw [List.mem_singleton.mp isTarget]
  exact KeyTable.has_iff.mpr ⟨row, found⟩

theorem removeImage_sound (sound : catalogue.Sound) (position : Nat) : (catalogue.removeImage position).Sound :=
  { sound with imageServices := sound.imageServices.subset fun _ member => List.mem_of_mem_eraseIdx member }

theorem book_sound {id : ServiceId} (sound : catalogue.Sound) (accepted : catalogue.book id = .ok next) :
    next.Sound := by
  simp only [book, accepted_bind, accepted_require, accepted_pure] at accepted
  obtain ⟨_, available, rfl⟩ := accepted
  refine { sound with bookingServices := sound.bookingServices.append (.one fun target isTarget => ?_) }
  rw [List.mem_singleton.mp isTarget]
  exact available_has available

theorem addToCart_sound {customer : UserId} {id : ServiceId} (sound : catalogue.Sound)
    (accepted : catalogue.addToCart customer id = .ok next) : next.Sound := by
  simp only [addToCart, accepted_bind, accepted_require, accepted_pure] at accepted
  obtain ⟨_, available, rfl⟩ := accepted
  refine { sound with cartServices := ?_ }
  dsimp only
  split
  · exact sound.cartServices
  · refine sound.cartServices.append (.one fun target isTarget => ?_)
    rw [List.mem_singleton.mp isTarget]
    exact available_has available

theorem removeFromCart_sound (sound : catalogue.Sound) (customer : UserId) (id : ServiceId) :
    (catalogue.removeFromCart customer id).Sound :=
  { sound with cartServices := sound.cartServices.subset fun _ member => (List.mem_filter.mp member).1 }

theorem enterLead_sound {service : Option ServiceId} (sound : catalogue.Sound)
    (accepted : catalogue.enterLead service = .ok next) : next.Sound := by
  simp only [enterLead, accepted_bind, accepted_require, accepted_pure] at accepted
  obtain ⟨_, present, rfl⟩ := accepted
  refine { sound with leadServices := sound.leadServices.append (.one fun target isTarget => ?_) }
  rw [Option.mem_toList.mp isTarget] at present
  exact present

theorem writeFaq_sound {faq : FaqContext} (sound : catalogue.Sound) (accepted : catalogue.writeFaq faq = .ok next) :
    next.Sound := by
  simp only [writeFaq, accepted_bind, accepted_require, accepted_pure] at accepted
  obtain ⟨_, ⟨category, service⟩, rfl⟩ := accepted
  refine { sound with
    faqCategories := sound.faqCategories.append (.one fun target isTarget => ?_)
    faqServices := sound.faqServices.append (.one fun target isTarget => ?_) }
  · rw [Option.mem_toList.mp isTarget] at category
    exact category
  · rw [Option.mem_toList.mp isTarget] at service
    exact service

theorem chooseAreaServices_sound {area : ServiceAreaId} {choice : Option (List ServiceId)} (sound : catalogue.Sound)
    (accepted : catalogue.chooseAreaServices area choice = .ok next) : next.Sound := by
  simp only [chooseAreaServices, accepted_bind, accepted_require, accepted_pure] at accepted
  obtain ⟨_, present, rfl⟩ := accepted
  exact { sound with areaServices := links_present sound.areaServices present }

theorem chooseTechnicianServices_sound {technician : TechnicianId} {chosen : List ServiceId}
    (sound : catalogue.Sound) (accepted : catalogue.chooseTechnicianServices technician chosen = .ok next) :
    next.Sound := by
  simp only [chooseTechnicianServices, accepted_bind, accepted_require, accepted_pure] at accepted
  obtain ⟨_, present, rfl⟩ := accepted
  exact { sound with technicianServices := links_present sound.technicianServices present }

theorem Sound.apply {op : CatalogueOp} (sound : catalogue.Sound) (accepted : catalogue.apply op = .ok next) :
    next.Sound := by
  cases op with
  | createCategory id attrs => exact createCategory_sound sound accepted
  | updateCategory id attrs => exact updateCategory_sound sound accepted
  | destroyCategory id => exact destroyCategory_sound sound accepted
  | createService id attrs => exact createService_sound sound accepted
  | updateService id attrs => exact updateService_sound sound accepted
  | destroyService id => exact destroyService_sound sound accepted
  | createPackage id attrs => exact createPackage_sound sound accepted
  | updatePackage id attrs => exact updatePackage_sound sound accepted
  | destroyPackage id => exact destroyPackage_sound sound accepted
  | addImage service => exact addImage_sound sound accepted
  | removeImage position =>
      cases accepted
      exact removeImage_sound sound position
  | book id => exact book_sound sound accepted
  | addToCart customer id => exact addToCart_sound sound accepted
  | removeFromCart customer id =>
      cases accepted
      exact removeFromCart_sound sound customer id
  | enterLead service => exact enterLead_sound sound accepted
  | writeFaq faq => exact writeFaq_sound sound accepted
  | chooseAreaServices area choice => exact chooseAreaServices_sound sound accepted
  | chooseTechnicianServices technician chosen => exact chooseTechnicianServices_sound sound accepted

theorem Sound.step (sound : catalogue.Sound) (op : CatalogueOp) : (catalogue.step op).Sound := by
  unfold Catalogue.step
  split
  · rename_i next accepted
    exact sound.apply accepted
  · exact sound

theorem sound_runAll (sound : catalogue.Sound) (ops : List CatalogueOp) : (runAll Catalogue.step catalogue ops).Sound :=
  (Guarded.always (fun _ _ => trivial) catalogue ops).invariant
    (fun (catalogue : Catalogue) op (sound : catalogue.Sound) _ => sound.step op) sound

end

end Catalogue

/-- Whatever is entered, changed and destroyed, no reference dangles, no slug is used twice and no package is empty. -/
theorem catalogueSound_run (ops : List CatalogueOp) : (runAll Catalogue.step .empty ops).Sound :=
  Catalogue.sound_runAll .empty ops

/-! What goes, and how. -/

structure Catalogue.Unused (catalogue : Catalogue) (id : ServiceId) : Prop where
  unbooked : id ∉ catalogue.bookings
  unpacked : ∀ item ∈ catalogue.items, item.service ≠ id
  uncarted : ∀ item ∈ catalogue.cartItems, item.2 ≠ id

def CatalogueOp.isAside : CatalogueOp → Bool
  | .addImage _ | .removeImage _ | .addToCart .. | .removeFromCart .. | .enterLead _ | .writeFaq _
  | .chooseAreaServices .. | .chooseTechnicianServices .. => true
  | _ => false

namespace Catalogue

section

variable {catalogue next : Catalogue} {op : CatalogueOp}

structure RowsKept (catalogue next : Catalogue) : Prop where
  categories : ∀ id, catalogue.categories.has id = true → next.categories.has id = true
  services : ∀ id, catalogue.services.has id = true → next.services.has id = true
  packages : ∀ id, catalogue.packages.has id = true → next.packages.has id = true
  bookings : ∀ id ∈ catalogue.bookings, id ∈ next.bookings

/-- An accepted operation keeps every row, or destroys the one that it names. -/
inductive Applied (catalogue : Catalogue) : CatalogueOp → Catalogue → Prop
  | kept {op : CatalogueOp} {next : Catalogue} (rows : RowsKept catalogue next) : Applied catalogue op next
  | category (id : CategoryId) (faqs : List FaqContext)
      (unused : ∀ row ∈ catalogue.services.values, row.category ≠ id) : Applied catalogue (.destroyCategory id)
        { catalogue with categories := catalogue.categories.delete id, faqs := faqs }
  | service {next : Catalogue} (id : ServiceId) (unused : catalogue.Unused id)
      (deleted : catalogue.deleteService id = .ok next) : Applied catalogue (.destroyService id) next
  | package (id : PackageId) (items : List PackageItem) : Applied catalogue (.destroyPackage id)
      { catalogue with packages := catalogue.packages.delete id, items := items }

theorem RowsKept.refl (catalogue : Catalogue) : RowsKept catalogue catalogue :=
  ⟨fun _ => id, fun _ => id, fun _ => id, fun _ => id⟩

theorem RowsKept.withServices {services : KeyTable ServiceId ServiceRow}
    (kept : ∀ id, catalogue.services.has id = true → services.has id = true) :
    RowsKept catalogue { catalogue with services := services } :=
  { RowsKept.refl catalogue with services := kept }

theorem deleteService_accepted {id : ServiceId} (accepted : catalogue.deleteService id = .ok next) :
    catalogue.Unused id ∧ next.services = catalogue.services.delete id ∧ next.categories = catalogue.categories ∧
      next.packages = catalogue.packages ∧ next.bookings = catalogue.bookings := by
  simp only [deleteService, accepted_bind, accepted_require, accepted_pure, Bool.or_eq_true, not_or,
    List.contains_iff_mem, List.any_eq_true, decide_eq_true_eq, not_exists, not_and] at accepted
  obtain ⟨_, ⟨⟨unbooked, unpacked⟩, uncarted⟩, rfl⟩ := accepted
  exact ⟨⟨unbooked, unpacked, uncarted⟩, rfl, rfl, rfl, rfl⟩

theorem createCategory_applied {id : CategoryId} {attrs : CategoryPayload}
    (accepted : catalogue.createCategory id attrs = .ok next) : RowsKept catalogue next := by
  simp only [createCategory, accepted_bind, accepted_orRaise, accepted_pure] at accepted
  obtain ⟨_, _, categories, inserted, rfl⟩ := accepted
  exact { RowsKept.refl catalogue with categories := fun _ => KeyTable.has_insert inserted }

theorem updateCategory_applied {id : CategoryId} {attrs : CategoryPayload}
    (accepted : catalogue.updateCategory id attrs = .ok next) : RowsKept catalogue next := by
  simp only [updateCategory, accepted_bind, accepted_orRaise, accepted_pure] at accepted
  obtain ⟨_, _, _, _, rfl⟩ := accepted
  exact { RowsKept.refl catalogue with categories := fun _ => KeyTable.has_set _ }

theorem destroyCategory_applied {id : CategoryId} (accepted : catalogue.destroyCategory id = .ok next) :
    Applied catalogue (.destroyCategory id) next := by
  simp only [destroyCategory, accepted_bind, accepted_orRaise] at accepted
  obtain ⟨stored, _, destroyed⟩ := accepted
  split at destroyed
  · cases destroyed
    exact .kept { RowsKept.refl catalogue with categories := fun _ => KeyTable.has_set _ }
  · rename_i unused
    cases destroyed
    exact .category id _ fun row member isOf => unused (List.any_eq_true.mpr ⟨row, member, by simpa using isOf⟩)

theorem createService_applied {id : ServiceId} {attrs : CatalogueServicePayload}
    (accepted : catalogue.createService id attrs = .ok next) : RowsKept catalogue next := by
  simp only [createService, accepted_bind, accepted_orRaise, accepted_pure] at accepted
  obtain ⟨_, _, _, _, _, _, services, inserted, rfl⟩ := accepted
  exact .withServices fun _ => KeyTable.has_insert inserted

theorem updateService_applied {id : ServiceId} {attrs : CatalogueServicePayload}
    (accepted : catalogue.updateService id attrs = .ok next) : RowsKept catalogue next := by
  simp only [updateService, accepted_bind, accepted_orRaise, accepted_pure] at accepted
  obtain ⟨_, _, _, _, _, _, rfl⟩ := accepted
  exact .withServices fun _ => KeyTable.has_set _

theorem destroyService_applied {id : ServiceId} (accepted : catalogue.destroyService id = .ok next) :
    Applied catalogue (.destroyService id) next := by
  simp only [destroyService, accepted_bind, accepted_orRaise] at accepted
  obtain ⟨stored, _, destroyed⟩ := accepted
  split at destroyed
  · cases destroyed
    exact .kept (.withServices fun _ => KeyTable.has_set _)
  · exact .service id (deleteService_accepted destroyed).1 destroyed

theorem createPackage_applied {id : PackageId} {attrs : PackagePayload}
    (accepted : catalogue.createPackage id attrs = .ok next) : RowsKept catalogue next := by
  simp only [createPackage, accepted_bind, accepted_orRaise, accepted_pure] at accepted
  obtain ⟨_, _, _, _, _, _, packages, inserted, _, _, rfl⟩ := accepted
  exact { RowsKept.refl catalogue with packages := fun _ => KeyTable.has_insert inserted }

theorem updatePackage_applied {id : PackageId} {attrs : PackagePayload}
    (accepted : catalogue.updatePackage id attrs = .ok next) : RowsKept catalogue next := by
  simp only [updatePackage, accepted_bind, accepted_orRaise, accepted_pure] at accepted
  obtain ⟨_, _, _, _, _, _, _, _, _, _, rfl⟩ := accepted
  exact { RowsKept.refl catalogue with packages := fun _ => KeyTable.has_set _ }

theorem destroyPackage_applied {id : PackageId} (accepted : catalogue.destroyPackage id = .ok next) :
    Applied catalogue (.destroyPackage id) next := by
  simp only [destroyPackage, accepted_bind, accepted_orRaise, accepted_pure] at accepted
  obtain ⟨_, _, rfl⟩ := accepted
  exact .package id _

theorem book_applied {id : ServiceId} (accepted : catalogue.book id = .ok next) : RowsKept catalogue next := by
  simp only [book, accepted_bind, accepted_pure] at accepted
  obtain ⟨_, _, rfl⟩ := accepted
  exact { RowsKept.refl catalogue with bookings := fun _ => List.mem_append_left [id] }

theorem RowsKept.of_same (categories : next.categories = catalogue.categories)
    (services : next.services = catalogue.services) (packages : next.packages = catalogue.packages)
    (bookings : next.bookings = catalogue.bookings) : RowsKept catalogue next := by
  refine ⟨?_, ?_, ?_, ?_⟩
  · rw [categories]
    exact fun _ => id
  · rw [services]
    exact fun _ => id
  · rw [packages]
    exact fun _ => id
  · rw [bookings]
    exact fun _ => id

/-- The other tables are written without a look at the three, and at the bookings. -/
theorem aside_applied (aside : op.isAside = true) (accepted : catalogue.apply op = .ok next) :
    RowsKept catalogue next := by
  cases op with
  | removeImage position =>
      cases accepted
      exact .of_same rfl rfl rfl rfl
  | removeFromCart customer id =>
      cases accepted
      exact .of_same rfl rfl rfl rfl
  | addImage | addToCart | enterLead | writeFaq | chooseAreaServices | chooseTechnicianServices =>
      simp only [Catalogue.apply, addImage, addToCart, enterLead, writeFaq, chooseAreaServices,
        chooseTechnicianServices, accepted_bind, accepted_pure] at accepted
      obtain ⟨_, _, rfl⟩ := accepted
      exact .of_same rfl rfl rfl rfl
  | _ => cases aside

theorem applied (accepted : catalogue.apply op = .ok next) : Applied catalogue op next := by
  cases op with
  | createCategory id attrs => exact .kept (createCategory_applied accepted)
  | updateCategory id attrs => exact .kept (updateCategory_applied accepted)
  | destroyCategory id => exact destroyCategory_applied accepted
  | createService id attrs => exact .kept (createService_applied accepted)
  | updateService id attrs => exact .kept (updateService_applied accepted)
  | destroyService id => exact destroyService_applied accepted
  | createPackage id attrs => exact .kept (createPackage_applied accepted)
  | updatePackage id attrs => exact .kept (updatePackage_applied accepted)
  | destroyPackage id => exact destroyPackage_applied accepted
  | book id => exact .kept (book_applied accepted)
  | addImage | removeImage | addToCart | removeFromCart | enterLead | writeFaq | chooseAreaServices
  | chooseTechnicianServices => exact .kept (aside_applied rfl accepted)

theorem delete_other {Row : Type} {table : KeyTable Nat Row} {key id : Nat} (present : table.has id = true)
    (gone : ¬ (table.delete key).has id = true) : key = id := by
  by_contra differs
  rw [KeyTable.has, KeyTable.find_delete, if_neg fun same => differs same.symm] at gone
  exact gone present

theorem step_applied (catalogue : Catalogue) (op : CatalogueOp) : Applied catalogue op (catalogue.step op) := by
  unfold step
  split
  · rename_i next accepted
    exact applied accepted
  · exact .kept (RowsKept.refl catalogue)

theorem service_lost {id : ServiceId} (present : catalogue.services.has id = true)
    (gone : (catalogue.step op).services.has id = false) : op = .destroyService id ∧ catalogue.Unused id := by
  have effect := step_applied catalogue op
  rw [← Bool.not_eq_true] at gone
  generalize catalogue.step op = next at effect gone
  cases effect with
  | kept rows => exact absurd (rows.services id present) gone
  | category other faqs unused => exact absurd present gone
  | service other unused deleted =>
      rw [(deleteService_accepted deleted).2.1] at gone
      cases delete_other present gone
      exact ⟨rfl, unused⟩
  | package other items => exact absurd present gone

theorem category_lost {id : CategoryId} (present : catalogue.categories.has id = true)
    (gone : (catalogue.step op).categories.has id = false) :
    op = .destroyCategory id ∧ ∀ row ∈ catalogue.services.values, row.category ≠ id := by
  have effect := step_applied catalogue op
  rw [← Bool.not_eq_true] at gone
  generalize catalogue.step op = next at effect gone
  cases effect with
  | kept rows => exact absurd (rows.categories id present) gone
  | category other faqs unused =>
      cases delete_other present gone
      exact ⟨rfl, unused⟩
  | service other unused deleted =>
      rw [(deleteService_accepted deleted).2.2.1] at gone
      exact absurd present gone
  | package other items => exact absurd present gone

theorem package_lost {id : PackageId} (present : catalogue.packages.has id = true)
    (gone : (catalogue.step op).packages.has id = false) : op = .destroyPackage id := by
  have effect := step_applied catalogue op
  rw [← Bool.not_eq_true] at gone
  generalize catalogue.step op = next at effect gone
  cases effect with
  | kept rows => exact absurd (rows.packages id present) gone
  | category other faqs unused => exact absurd present gone
  | service other unused deleted =>
      rw [(deleteService_accepted deleted).2.2.2.1] at gone
      exact absurd present gone
  | package other items =>
      cases delete_other present gone
      rfl

theorem booking_step {id : ServiceId} (booked : id ∈ catalogue.bookings) : id ∈ (catalogue.step op).bookings := by
  have effect := step_applied catalogue op
  generalize catalogue.step op = next at effect ⊢
  cases effect with
  | kept rows => exact rows.bookings id booked
  | category other faqs unused => exact booked
  | service other unused deleted =>
      rw [(deleteService_accepted deleted).2.2.2.2]
      exact booked
  | package other items => exact booked

end

/-- How the rows of a catalogue go along a run, and that a booked service does not. -/
structure Losses (start : Catalogue) (ops : List CatalogueOp) : Prop where
  services : ∀ id, start.services.has id = true → (runAll step start ops).services.has id = false →
    ∃ earlier later, ops = earlier ++ .destroyService id :: later ∧ (runAll step start earlier).Unused id
  categories : ∀ id, start.categories.has id = true → (runAll step start ops).categories.has id = false →
    ∃ earlier later, ops = earlier ++ .destroyCategory id :: later ∧
      ∀ row ∈ (runAll step start earlier).services.values, row.category ≠ id
  packages : ∀ id, start.packages.has id = true → (runAll step start ops).packages.has id = false →
    ∃ earlier later, ops = earlier ++ .destroyPackage id :: later
  booked : ∀ id ∈ start.bookings, start.services.has id = true →
    ∃ row, (runAll step start ops).services.find id = some row ∧
      (runAll step start ops).destroyService id = .ok { runAll step start ops with
        services := (runAll step start ops).services.set id row.deactivated }

end Catalogue

open Catalogue in
/-- Only its own destruction takes a row from the catalogue, and only while nothing needs it; a service with a
booking is switched off instead, however often it is destroyed. -/
theorem catalogueLosses_run (start : Catalogue) (ops : List CatalogueOp) : start.Losses ops := by
  have services : ∀ id, start.services.has id = true → (runAll step start ops).services.has id = false →
      ∃ earlier later, ops = earlier ++ .destroyService id :: later ∧ (runAll step start earlier).Unused id := by
    intro id present gone
    obtain ⟨earlier, op, later, split, still, lost⟩ :=
      runAll_becomes (fun (catalogue : Catalogue) => catalogue.services.has id = false) (by simp [present]) gone
    obtain ⟨rfl, unused⟩ := service_lost (by simpa using still) lost
    exact ⟨earlier, later, split, unused⟩
  refine ⟨services, fun id present gone => ?categories, fun id present gone => ?packages, fun id booked present => ?_⟩
  case categories =>
    obtain ⟨earlier, op, later, split, still, lost⟩ :=
      runAll_becomes (fun (catalogue : Catalogue) => catalogue.categories.has id = false) (by simp [present]) gone
    obtain ⟨rfl, unused⟩ := category_lost (by simpa using still) lost
    exact ⟨earlier, later, split, unused⟩
  case packages =>
    obtain ⟨earlier, op, later, split, still, lost⟩ :=
      runAll_becomes (fun (catalogue : Catalogue) => catalogue.packages.has id = false) (by simp [present]) gone
    obtain rfl := package_lost (by simpa using still) lost
    exact ⟨earlier, later, split⟩
  have stays : ∀ some, id ∈ (runAll step start some).bookings := fun some =>
    (Guarded.always (fun _ _ => trivial) start some).invariant
      (fun (catalogue : Catalogue) _ (booked : id ∈ catalogue.bookings) _ => booking_step booked) booked
  have there : (runAll step start ops).services.has id = true := by
    by_contra gone
    obtain ⟨earlier, later, _, unused⟩ := services id present (by simpa using gone)
    exact unused.unbooked (stays earlier)
  obtain ⟨row, found⟩ := KeyTable.has_iff.mp there
  refine ⟨row, found, ?_⟩
  simp only [destroyService, found, orRaise, List.contains_iff_mem.mpr (stays ops), if_true]
  rfl

end PsCore
