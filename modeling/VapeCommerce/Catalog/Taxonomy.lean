import VapeCommerce.Catalog.Tables

set_option autoImplicit false

-- The brand and category endpoints.
namespace VapeCommerce.Catalog.Taxonomy

open VapeCommerce.Lib VapeCommerce.Lib.Outcome VapeCommerce.Schema
open VapeCommerce.DeliveryConfig

structure CreateBrand where
  name : Text
  slug : Text
  descriptionFr : Option Text
  descriptionAr : Option Text

structure UpdateBrand where
  expectedUpdatedAt : Int
  name : Option Text
  slug : Option Text
  descriptionFr : Rates.Field Text
  descriptionAr : Rates.Field Text
  publicationStatus : Option MutablePublicationStatus

structure CreateCategory where
  parentId : Option Id
  nameFr : Text
  nameAr : Text
  slug : Text
  descriptionFr : Option Text
  descriptionAr : Option Text
  sortOrder : Option Int

structure UpdateCategory where
  expectedUpdatedAt : Int
  parentId : Rates.Field Id
  nameFr : Option Text
  nameAr : Option Text
  slug : Option Text
  descriptionFr : Rates.Field Text
  descriptionAr : Rates.Field Text
  sortOrder : Option Int
  publicationStatus : Option MutablePublicationStatus

def brandNotFound : Failure := notFound "BRAND_NOT_FOUND"

def brandVersionConflict : Failure := conflict "BRAND_VERSION_CONFLICT"

def archivedBrand : Failure := conflict "BRAND_ARCHIVED"

def brandSlugConflict : Failure := conflict "BRAND_SLUG_CONFLICT"

def categoryNotFound : Failure := notFound "CATEGORY_NOT_FOUND"

def categoryVersionConflict : Failure := conflict "CATEGORY_VERSION_CONFLICT"

def archivedCategory : Failure := conflict "CATEGORY_ARCHIVED"

def categorySlugConflict : Failure := conflict "CATEGORY_SLUG_CONFLICT"

def categoryParentNotFound : Failure := conflict "CATEGORY_PARENT_NOT_FOUND"

def statusBecomesNonPublic (current target : PublicationStatus) : Bool :=
  current == .published && target != .published

-- `publicationData`: the columns an update writes with a new status.
def suspendedSince (target : MutablePublicationStatus) (now : Int) : Option Int :=
  if target = .suspended then some now else none

def requireBrand (state : CatalogState) (id : Id) : Except Failure Brand :=
  orThrow ((state.brands.find? id).filter fun brand => brand.deletedAt.isNone) brandNotFound

def assertNoPublishedProducts (state : CatalogState) (id : Id) : Except Failure Unit :=
  throwIf (state.products.count (fun product =>
      product.brandId == some id && product.publicationStatus == .published &&
        product.deletedAt.isNone) > 0)
    (conflict "BRAND_HAS_PUBLISHED_PRODUCTS")

def updatedBrand (input : UpdateBrand) (now : Int) (row : Brand) : Brand :=
  { row with
    name := (input.name.map trim).getD row.name
    slug := input.slug.getD row.slug
    descriptionFr := trimmedOver input.descriptionFr row.descriptionFr
    descriptionAr := trimmedOver input.descriptionAr row.descriptionAr
    publicationStatus := (input.publicationStatus.map (·.status)).getD row.publicationStatus
    suspendedAt := match input.publicationStatus with
      | some target => suspendedSince target now
      | none => row.suspendedAt
    archivedAt := if input.publicationStatus.isSome then none else row.archivedAt
    updatedAt := now }

def shelvedBrand (archive : Bool) (now : Int) (row : Brand) : Brand :=
  { row with
    publicationStatus := if archive then .archived else .draft
    archivedAt := if archive then some now else none
    suspendedAt := none
    updatedAt := now }

theorem updatedBrand_key (input : UpdateBrand) (now : Int) (row : Brand) :
    (updatedBrand input now row).id = row.id := rfl

theorem shelvedBrand_key (archive : Bool) (now : Int) (row : Brand) :
    (shelvedBrand archive now row).id = row.id := rfl

def createBrand (state : CatalogState) (id : Id) (input : CreateBrand) (now : Int) :
    Except Failure CatalogState := do
  throwIf (state.brands.rows.any fun brand => brand.slug == input.slug) brandSlugConflict
  let brands <- Database.create state.brands {
    id
    name := trim input.name
    slug := input.slug
    descriptionFr := trimmedOrNull input.descriptionFr
    descriptionAr := trimmedOrNull input.descriptionAr
    publicationStatus := .draft
    suspendedAt := none
    archivedAt := none
    deletedAt := none
    updatedAt := now }
  return { state with brands }

def updateBrand (state : CatalogState) (id : Id) (input : UpdateBrand) (now : Int) :
    Except Failure CatalogState := do
  throwIf (input.name = none /\ input.slug = none /\ Not (Field.isGiven input.descriptionFr) /\
      Not (Field.isGiven input.descriptionAr) /\ input.publicationStatus = none)
    (badRequest "NO_BRAND_CHANGES")
  let current <- requireBrand state id
  throwIf (current.updatedAt ≠ input.expectedUpdatedAt) brandVersionConflict
  throwIf (current.publicationStatus = .archived) archivedBrand
  let targetStatus := (input.publicationStatus.map (·.status)).getD current.publicationStatus
  requireWhen (statusBecomesNonPublic current.publicationStatus targetStatus)
    (assertNoPublishedProducts state id)
  throwIf (state.brands.rows.any fun brand => brand.id != id && some brand.slug == input.slug)
    brandSlugConflict
  let brands <- Database.updateOne state.brands
    (fun row => row.id == id && row.updatedAt == input.expectedUpdatedAt && row.deletedAt.isNone &&
      row.publicationStatus != .archived)
    (updatedBrand input now) (updatedBrand_key input now) brandVersionConflict
  return { state with brands }

def changeBrandArchiveState (state : CatalogState) (id : Id) (expectedUpdatedAt : Int)
    (archive : Bool) (now : Int) : Except Failure CatalogState := do
  let current <- requireBrand state id
  throwIf (current.updatedAt ≠ expectedUpdatedAt) brandVersionConflict
  throwIf (archive /\ current.publicationStatus = .archived) archivedBrand
  requireWhen archive (assertNoPublishedProducts state id)
  throwIf (Not archive /\ current.publicationStatus ≠ .archived) (conflict "BRAND_NOT_ARCHIVED")
  let brands <- Database.updateOne state.brands
    (fun row => row.id == id && row.updatedAt == expectedUpdatedAt && row.deletedAt.isNone)
    (shelvedBrand archive now) (shelvedBrand_key archive now) brandVersionConflict
  return { state with brands }

def requireCategory (state : CatalogState) (id : Id) : Except Failure Category :=
  orThrow ((state.categories.find? id).filter fun category => category.deletedAt.isNone) categoryNotFound

def assertNoPublishedDependents (state : CatalogState) (id : Id) : Except Failure Unit := do
  throwIf (state.products.count (fun product =>
      product.categoryId == id && product.publicationStatus == .published &&
        product.deletedAt.isNone) > 0)
    (conflict "CATEGORY_HAS_PUBLISHED_PRODUCTS")
  throwIf (state.categories.count (fun category =>
      category.parentId == some id && category.publicationStatus == .published &&
        category.deletedAt.isNone) > 0)
    (conflict "CATEGORY_HAS_PUBLISHED_CHILDREN")

-- Walks up from the requested parent; `depth` is what is left of the hundred levels.
def assertNoParentCycle (state : CatalogState) (categoryId : Id) :
    Nat -> List Id -> Option Id -> Except Failure Unit
  | _, _, none => .ok ()
  | 0, _, some _ => .error (conflict "CATEGORY_TREE_TOO_DEEP")
  | depth + 1, visited, some cursor => do
    throwIf (cursor = categoryId \/ cursor ∈ visited) (conflict "CATEGORY_PARENT_CYCLE")
    let parent <- orThrow
      ((state.categories.find? cursor).filter fun category => category.deletedAt.isNone)
      categoryParentNotFound
    assertNoParentCycle state categoryId depth (cursor :: visited) parent.parentId

def requireEligibleParent (state : CatalogState) (requirePublished : Bool) (parentId : Id) :
    Except Failure Unit := do
  let parent <- orThrow
    ((state.categories.find? parentId).filter fun category => category.deletedAt.isNone)
    categoryParentNotFound
  throwIf (parent.publicationStatus = .archived) categoryParentNotFound
  throwIf (requirePublished /\ parent.publicationStatus ≠ .published)
    (conflict "CATEGORY_PARENT_NOT_PUBLISHED")

def updatedCategory (input : UpdateCategory) (now : Int) (row : Category) : Category :=
  { row with
    parentId := input.parentId.mergedOver row.parentId
    nameFr := (input.nameFr.map trim).getD row.nameFr
    nameAr := (input.nameAr.map trim).getD row.nameAr
    slug := input.slug.getD row.slug
    descriptionFr := trimmedOver input.descriptionFr row.descriptionFr
    descriptionAr := trimmedOver input.descriptionAr row.descriptionAr
    sortOrder := input.sortOrder.getD row.sortOrder
    publicationStatus := (input.publicationStatus.map (·.status)).getD row.publicationStatus
    suspendedAt := match input.publicationStatus with
      | some target => suspendedSince target now
      | none => row.suspendedAt
    archivedAt := if input.publicationStatus.isSome then none else row.archivedAt
    updatedAt := now }

def shelvedCategory (archive : Bool) (now : Int) (row : Category) : Category :=
  { row with
    publicationStatus := if archive then .archived else .draft
    archivedAt := if archive then some now else none
    suspendedAt := none
    updatedAt := now }

theorem updatedCategory_key (input : UpdateCategory) (now : Int) (row : Category) :
    (updatedCategory input now row).id = row.id := rfl

theorem shelvedCategory_key (archive : Bool) (now : Int) (row : Category) :
    (shelvedCategory archive now row).id = row.id := rfl

def createCategory (state : CatalogState) (id : Id) (input : CreateCategory) (now : Int) :
    Except Failure CatalogState := do
  input.parentId.toList.forM (requireEligibleParent state false)
  throwIf (state.categories.rows.any fun category => category.slug == input.slug) categorySlugConflict
  let categories <- Database.create state.categories {
    id
    parentId := input.parentId
    nameFr := trim input.nameFr
    nameAr := trim input.nameAr
    slug := input.slug
    descriptionFr := trimmedOrNull input.descriptionFr
    descriptionAr := trimmedOrNull input.descriptionAr
    sortOrder := input.sortOrder.getD 0
    publicationStatus := .draft
    suspendedAt := none
    archivedAt := none
    deletedAt := none
    updatedAt := now }
  return { state with categories }

def updateCategory (state : CatalogState) (id : Id) (input : UpdateCategory) (now : Int) :
    Except Failure CatalogState := do
  throwIf (Not (Field.isGiven input.parentId) /\ input.nameFr = none /\ input.nameAr = none /\
      input.slug = none /\ Not (Field.isGiven input.descriptionFr) /\
      Not (Field.isGiven input.descriptionAr) /\ input.sortOrder = none /\
      input.publicationStatus = none)
    (badRequest "NO_CATEGORY_CHANGES")
  let current <- requireCategory state id
  throwIf (current.updatedAt ≠ input.expectedUpdatedAt) categoryVersionConflict
  throwIf (current.publicationStatus = .archived) archivedCategory
  let targetStatus := (input.publicationStatus.map (·.status)).getD current.publicationStatus
  let parentId := input.parentId.mergedOver current.parentId
  throwIf (parentId = some id) (conflict "CATEGORY_PARENT_SELF")
  requireWhen (Field.isGiven input.parentId) (assertNoParentCycle state id 100 [] parentId)
  parentId.toList.forM (requireEligibleParent state (targetStatus == .published))
  requireWhen (statusBecomesNonPublic current.publicationStatus targetStatus)
    (assertNoPublishedDependents state id)
  throwIf (state.categories.rows.any fun category =>
    category.id != id && some category.slug == input.slug) categorySlugConflict
  let categories <- Database.updateOne state.categories
    (fun row => row.id == id && row.updatedAt == input.expectedUpdatedAt && row.deletedAt.isNone &&
      row.publicationStatus != .archived)
    (updatedCategory input now) (updatedCategory_key input now) categoryVersionConflict
  return { state with categories }

def changeCategoryArchiveState (state : CatalogState) (id : Id) (expectedUpdatedAt : Int)
    (archive : Bool) (now : Int) : Except Failure CatalogState := do
  let current <- requireCategory state id
  throwIf (current.updatedAt ≠ expectedUpdatedAt) categoryVersionConflict
  throwIf (archive /\ current.publicationStatus = .archived) archivedCategory
  requireWhen archive (assertNoPublishedDependents state id)
  throwIf (Not archive /\ current.publicationStatus ≠ .archived) (conflict "CATEGORY_NOT_ARCHIVED")
  let categories <- Database.updateOne state.categories
    (fun row => row.id == id && row.updatedAt == expectedUpdatedAt && row.deletedAt.isNone)
    (shelvedCategory archive now) (shelvedCategory_key archive now) categoryVersionConflict
  return { state with categories }

section Inversion

variable {state next : CatalogState} {id : Id} {now expectedUpdatedAt : Int} {archive : Bool}

theorem requireBrand_ok {brand : Brand} (found : requireBrand state id = .ok brand) :
    brand ∈ state.brands.rows /\ brand.id = id /\ brand.deletedAt = none := by
  simp only [requireBrand, orThrow_ok, Option.filter_eq_some_iff, Option.isNone_iff_eq_none] at found
  exact ⟨Table.find?_mem found.1, Table.find?_key found.1, found.2⟩

theorem requireCategory_ok {category : Category} (found : requireCategory state id = .ok category) :
    category ∈ state.categories.rows /\ category.id = id /\ category.deletedAt = none := by
  simp only [requireCategory, orThrow_ok, Option.filter_eq_some_iff, Option.isNone_iff_eq_none] at found
  exact ⟨Table.find?_mem found.1, Table.find?_key found.1, found.2⟩

theorem createBrand_ok {input : CreateBrand} (ran : createBrand state id input now = .ok next) :
    exists made brands, made.publicationStatus = .draft /\ made.deletedAt = none /\
      state.brands.insert? made = some brands /\ next = { state with brands } := by
  simp only [createBrand, bind_ok, throwIf_ok, Database.create_ok, pure_ok] at ran
  obtain ⟨_, -, brands, inserted, rfl⟩ := ran
  exact ⟨_, brands, rfl, rfl, inserted, rfl⟩

theorem updateBrand_ok {input : UpdateBrand} (ran : updateBrand state id input now = .ok next) :
    exists current brands, requireBrand state id = .ok current /\
      Table.RewroteOne state.brands brands (updatedBrand input now) current /\
      next = { state with brands } /\
      (statusBecomesNonPublic current.publicationStatus
          ((input.publicationStatus.map (·.status)).getD current.publicationStatus) = true ->
        assertNoPublishedProducts state id = .ok ()) := by
  simp only [updateBrand, bind_ok, throwIf_ok, requireWhen_ok, Database.updateOne_ok, pure_ok] at ran
  obtain ⟨_, -, current, read, _, -, _, -, _, guarded, _, -, brands, ⟨one, rfl⟩, rfl⟩ := ran
  obtain ⟨member, rfl, -⟩ := requireBrand_ok read
  refine ⟨current, _, read, Table.rewroteOne one member fun row hit => ?_, rfl, guarded⟩
  simp only [Bool.and_eq_true, beq_iff_eq] at hit
  exact hit.1.1.1

theorem changeBrandArchiveState_ok
    (ran : changeBrandArchiveState state id expectedUpdatedAt archive now = .ok next) :
    exists current brands, requireBrand state id = .ok current /\
      Table.RewroteOne state.brands brands (shelvedBrand archive now) current /\
      next = { state with brands } /\
      (archive = true -> assertNoPublishedProducts state id = .ok ()) /\
      (archive = false -> current.publicationStatus = .archived) := by
  simp only [changeBrandArchiveState, bind_ok, throwIf_ok, requireWhen_ok, Database.updateOne_ok,
    pure_ok] at ran
  obtain ⟨current, read, _, -, _, -, _, guarded, _, restores, brands, ⟨one, rfl⟩, rfl⟩ := ran
  obtain ⟨member, rfl, -⟩ := requireBrand_ok read
  refine ⟨current, _, read, Table.rewroteOne one member fun row hit => ?_, rfl, guarded, fun restoring => ?_⟩
  next =>
    simp only [Bool.and_eq_true, beq_iff_eq] at hit
    exact hit.1.1
  next => simpa [restoring] using restores

theorem requireEligibleParent_ok {requirePublished : Bool} {parentId : Id}
    (ran : requireEligibleParent state requirePublished parentId = .ok ()) :
    exists parent, requireCategory state parentId = .ok parent /\ parent.publicationStatus ≠ .archived /\
      (requirePublished = true -> parent.publicationStatus = .published) := by
  simp only [requireEligibleParent, bind_ok, orThrow_ok, throwIf_ok, not_and, not_not] at ran
  obtain ⟨parent, found, _, listed, required⟩ := ran
  refine ⟨parent, ?_, listed, required⟩
  rw [requireCategory, orThrow_ok]
  exact found

theorem createCategory_ok {input : CreateCategory}
    (ran : createCategory state id input now = .ok next) :
    exists made categories, made.id = id /\ made.parentId = input.parentId /\
      made.publicationStatus = .draft /\ made.deletedAt = none /\
      (forall parentId, input.parentId = some parentId ->
        requireEligibleParent state false parentId = .ok ()) /\
      state.categories.insert? made = some categories /\ next = { state with categories } := by
  simp only [createCategory, bind_ok, throwIf_ok, forM_ok, Option.mem_toList, Database.create_ok,
    pure_ok] at ran
  obtain ⟨_, eligible, _, -, categories, inserted, rfl⟩ := ran
  exact ⟨_, categories, rfl, rfl, rfl, rfl, fun parentId given => eligible parentId given, inserted, rfl⟩

theorem updateCategory_ok {input : UpdateCategory}
    (ran : updateCategory state id input now = .ok next) :
    exists current categories, requireCategory state id = .ok current /\
      Table.RewroteOne state.categories categories (updatedCategory input now) current /\
      next = { state with categories } /\
      input.parentId.mergedOver current.parentId ≠ some id /\
      (Field.isGiven input.parentId = true ->
        assertNoParentCycle state id 100 [] (input.parentId.mergedOver current.parentId) = .ok ()) /\
      (forall parentId, input.parentId.mergedOver current.parentId = some parentId ->
        requireEligibleParent state
          ((input.publicationStatus.map (·.status)).getD current.publicationStatus == .published)
          parentId = .ok ()) /\
      (statusBecomesNonPublic current.publicationStatus
          ((input.publicationStatus.map (·.status)).getD current.publicationStatus) = true ->
        assertNoPublishedDependents state id = .ok ()) := by
  simp only [updateCategory, bind_ok, throwIf_ok, requireWhen_ok, forM_ok, Option.mem_toList,
    Database.updateOne_ok, pure_ok] at ran
  obtain ⟨_, -, current, read, _, -, _, -, _, apart, _, walked, _, eligible, _, guarded, _, -, categories,
    ⟨one, rfl⟩, rfl⟩ := ran
  obtain ⟨member, rfl, -⟩ := requireCategory_ok read
  refine ⟨current, _, read, Table.rewroteOne one member fun row hit => ?_, rfl, apart, walked,
    fun parentId given => eligible parentId given, guarded⟩
  simp only [Bool.and_eq_true, beq_iff_eq] at hit
  exact hit.1.1.1

theorem changeCategoryArchiveState_ok
    (ran : changeCategoryArchiveState state id expectedUpdatedAt archive now = .ok next) :
    exists current categories, requireCategory state id = .ok current /\
      Table.RewroteOne state.categories categories (shelvedCategory archive now) current /\
      next = { state with categories } /\
      (archive = true -> assertNoPublishedDependents state id = .ok ()) /\
      (archive = false -> current.publicationStatus = .archived) := by
  simp only [changeCategoryArchiveState, bind_ok, throwIf_ok, requireWhen_ok, Database.updateOne_ok,
    pure_ok] at ran
  obtain ⟨current, read, _, -, _, -, _, guarded, _, restores, categories, ⟨one, rfl⟩, rfl⟩ := ran
  obtain ⟨member, rfl, -⟩ := requireCategory_ok read
  refine ⟨current, _, read, Table.rewroteOne one member fun row hit => ?_, rfl, guarded, fun restoring => ?_⟩
  next =>
    simp only [Bool.and_eq_true, beq_iff_eq] at hit
    exact hit.1.1
  next => simpa [restoring] using restores

-- Below a category that loses its publication no product and no category is published.
theorem assertNoPublishedDependents_ok (ran : assertNoPublishedDependents state id = .ok ()) :
    (forall product, product ∈ state.products.rows -> product.categoryId = id ->
      product.deletedAt = none -> product.publicationStatus ≠ .published) /\
    forall category, category ∈ state.categories.rows -> category.parentId = some id ->
      category.deletedAt = none -> category.publicationStatus ≠ .published := by
  simp only [assertNoPublishedDependents, bind_ok, throwIf_ok] at ran
  simp only [Table.count, Table.filter, not_lt, Nat.le_zero, List.length_eq_zero_iff, List.filter_eq_nil_iff, Bool.and_eq_true, beq_iff_eq,
    Option.isNone_iff_eq_none, not_and] at ran
  obtain ⟨_, products, categories⟩ := ran
  exact ⟨fun product there filed live published => products product there ⟨filed, published⟩ live,
    fun category there filed live published => categories category there ⟨filed, published⟩ live⟩

end Inversion

end VapeCommerce.Catalog.Taxonomy
