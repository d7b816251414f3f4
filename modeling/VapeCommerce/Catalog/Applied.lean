import VapeCommerce.Catalog.Operations
import VapeCommerce.Lib.Growth

set_option autoImplicit false

-- What an import leaves of the rows it finds, step by step and over the whole batch.
namespace VapeCommerce.Catalog.Applied

open VapeCommerce.Lib VapeCommerce.Lib.Outcome VapeCommerce.Schema VapeCommerce.Catalog.Import

section Groups

def productKeys (groups : List ProductGroup) : List Text :=
  groups.map fun group => group.first.input.productKey

theorem addToGroups_keys (row : ValidRow) (groups : List ProductGroup) :
    productKeys (addToGroups row groups) =
      if row.input.productKey ∈ productKeys groups then productKeys groups
      else productKeys groups ++ [row.input.productKey] := by
  induction groups with
  | nil => rfl
  | cons group rest ih =>
    unfold addToGroups
    split
    next same => simp [productKeys, same]
    next apart =>
      have other : Not (row.input.productKey = group.first.input.productKey) := fun same => apart same.symm
      have unfolded : forall groups, productKeys (group :: groups) =
          group.first.input.productKey :: productKeys groups := fun _ => rfl
      rw [unfolded, unfolded, ih]
      simp only [List.mem_cons, other, false_or]
      split <;> rfl

theorem groupRows_keys (rows : List ValidRow) : (productKeys (groupRows rows)).Nodup := by
  have grouped : forall (groups : List ProductGroup), (productKeys groups).Nodup ->
      (productKeys (rows.foldl (fun groups row => addToGroups row groups) groups)).Nodup := by
    induction rows with
    | nil => exact fun _ distinct => distinct
    | cons row rest ih =>
      intro groups distinct
      apply ih
      rw [addToGroups_keys]
      split
      next => exact distinct
      next fresh => exact List.nodup_append.2 ⟨distinct, by simp, by grind⟩
  exact grouped [] (by simp [productKeys])

end Groups

section Frames

-- What no import ever writes of a product it finds.
structure SameProduct (old new : Product) : Prop where
  id : new.id = old.id
  slug : new.slug = old.slug
  deletedAt : new.deletedAt = old.deletedAt
  archivedAt : new.archivedAt = old.archivedAt
  status : new.publicationStatus = old.publicationStatus
  base : new.basePriceMillimes = old.basePriceMillimes
  promotion : new.promotionalPriceMillimes = old.promotionalPriceMillimes

theorem SameProduct.refl (product : Product) : SameProduct product product :=
  ⟨rfl, rfl, rfl, rfl, rfl, rfl, rfl⟩

theorem SameProduct.trans (old row new : Product) (first : SameProduct old row)
    (second : SameProduct row new) : SameProduct old new where
  id := second.id.trans first.id
  slug := second.slug.trans first.slug
  deletedAt := second.deletedAt.trans first.deletedAt
  archivedAt := second.archivedAt.trans first.archivedAt
  status := second.status.trans first.status
  base := second.base.trans first.base
  promotion := second.promotion.trans first.promotion

structure FreshProduct (product : Product) : Prop where
  draft : product.publicationStatus = .draft
  deletedAt : product.deletedAt = none
  archivedAt : product.archivedAt = none
  promotion : product.promotionalPriceMillimes = none

theorem FreshProduct.renewed (old new : Product) (same : SameProduct old new)
    (fresh : FreshProduct old) : FreshProduct new where
  draft := same.status.trans fresh.draft
  deletedAt := same.deletedAt.trans fresh.deletedAt
  archivedAt := same.archivedAt.trans fresh.archivedAt
  promotion := same.promotion.trans fresh.promotion

-- An import may take a variant out of publication, never put one into it.
structure SameVariant (old new : ProductVariant) : Prop where
  id : new.id = old.id
  productId : new.productId = old.productId
  sku : new.sku = old.sku
  deletedAt : new.deletedAt = old.deletedAt
  archivedAt : new.archivedAt = old.archivedAt
  promotion : new.promotionalPriceMillimes = old.promotionalPriceMillimes
  status : new.publicationStatus = .published -> old.publicationStatus = .published

theorem SameVariant.refl (variant : ProductVariant) : SameVariant variant variant :=
  ⟨rfl, rfl, rfl, rfl, rfl, rfl, fun published => published⟩

theorem SameVariant.trans (old row new : ProductVariant) (first : SameVariant old row)
    (second : SameVariant row new) : SameVariant old new where
  id := second.id.trans first.id
  productId := second.productId.trans first.productId
  sku := second.sku.trans first.sku
  deletedAt := second.deletedAt.trans first.deletedAt
  archivedAt := second.archivedAt.trans first.archivedAt
  promotion := second.promotion.trans first.promotion
  status := fun published => first.status (second.status published)

structure FreshVariant (variant : ProductVariant) : Prop where
  unpublished : variant.publicationStatus ≠ .published
  deletedAt : variant.deletedAt = none
  promotion : variant.promotionalPriceMillimes = none

theorem FreshVariant.renewed (old new : ProductVariant) (same : SameVariant old new)
    (fresh : FreshVariant old) : FreshVariant new where
  unpublished := fun published => fresh.unpublished (same.status published)
  deletedAt := same.deletedAt.trans fresh.deletedAt
  promotion := same.promotion.trans fresh.promotion

def SameBrand (old new : Brand) : Prop := new = old

theorem SameBrand.refl (brand : Brand) : SameBrand brand brand := rfl

def FreshBrand (brand : Brand) : Prop :=
  brand.publicationStatus = .draft /\ brand.deletedAt = none

def SameCategory (old new : Category) : Prop := new = old

theorem SameCategory.refl (category : Category) : SameCategory category category := rfl

def FreshCategory (category : Category) : Prop :=
  category.publicationStatus = .draft /\ category.deletedAt = none /\ category.parentId = none

/-- How far an import in progress has moved from where it started. -/
structure Progress (start state : CatalogState) : Prop where
  brands : Grown SameBrand FreshBrand start.brands.rows state.brands.rows
  categories : Grown SameCategory FreshCategory start.categories.rows state.categories.rows
  products : Grown SameProduct FreshProduct start.products.rows state.products.rows
  variants : Grown SameVariant FreshVariant start.variants.rows state.variants.rows
  imports : state.imports = start.imports

theorem Progress.refl (state : CatalogState) : Progress state state where
  brands := Grown.refl SameBrand.refl _
  categories := Grown.refl SameCategory.refl _
  products := Grown.refl SameProduct.refl _
  variants := Grown.refl SameVariant.refl _
  imports := rfl

theorem Progress.trans {start middle state : CatalogState} (first : Progress start middle)
    (second : Progress middle state) : Progress start state where
  brands := first.brands.trans (fun _ _ _ left right => right.trans left)
    (fun _ _ same fresh => same ▸ fresh) second.brands
  categories := first.categories.trans (fun _ _ _ left right => right.trans left)
    (fun _ _ same fresh => same ▸ fresh) second.categories
  products := first.products.trans SameProduct.trans FreshProduct.renewed second.products
  variants := first.variants.trans SameVariant.trans FreshVariant.renewed second.variants
  imports := second.imports.trans first.imports

theorem Progress.productIds {before state : CatalogState} (progress : Progress before state) {id : Id}
    (member : id ∈ before.products.rows.map Product.id) : id ∈ state.products.rows.map Product.id := by
  obtain ⟨product, present, rfl⟩ := List.mem_map.1 member
  obtain ⟨later, there, same⟩ := progress.products.later present
  exact List.mem_map.2 ⟨later, there, same.id⟩

theorem Progress.variantIds {before state : CatalogState} (progress : Progress before state) {id : Id}
    (member : id ∈ before.variants.rows.map ProductVariant.id) :
    id ∈ state.variants.rows.map ProductVariant.id := by
  obtain ⟨variant, present, rfl⟩ := List.mem_map.1 member
  obtain ⟨later, there, same⟩ := progress.variants.later present
  exact List.mem_map.2 ⟨later, there, same.id⟩

end Frames

section Links

variable {records : Table CatalogSourceRecord.key}

theorem upsertSource_other {record : CatalogSourceRecord}
    {wanted : CatalogImportSource × CatalogSourceEntityType × Text} (apart : wanted ≠ record.key) :
    (upsertSource records record).find? wanted = records.find? wanted := by
  unfold upsertSource
  cases inserted : records.insert? record with
  | some next =>
    have different : Not (record.key = wanted) := fun same => apart same.symm
    simp [Table.find?_insert? inserted wanted, different]
  | none => simp [Table.find?_modify, apart]

theorem linkProduct_other {source : CatalogImportSource} {row : CatalogImportRowInput} {productId : Id}
    {now : Int} {wanted : CatalogImportSource × CatalogSourceEntityType × Text}
    (apart : wanted ≠ (source, .product, row.productKey)) :
    (linkProduct records source row productId now).find? wanted = records.find? wanted := by
  unfold linkProduct
  cases row.officialProductUrl with
  | none => rfl
  | some sourceUrl => exact upsertSource_other apart

theorem linkVariant_other {source : CatalogImportSource} {row : CatalogImportRowInput} {variantId : Id}
    {now : Int} {wanted : CatalogImportSource × CatalogSourceEntityType × Text}
    (apart : wanted ≠ (source, .variant, stableIdentity row)) :
    (linkVariant records source row variantId now).find? wanted = records.find? wanted := by
  unfold linkVariant
  cases row.officialProductUrl with
  | none => rfl
  | some sourceUrl => exact upsertSource_other apart

end Links

section Steps

variable {unicode : Unicode} {ids : ImportIds} {options : CatalogImportOptions} {now : Int}
variable {state : CatalogState} {row : CatalogImportRowInput}

theorem resolveBrand_cases {source : CatalogImportSource} {brands : Table Brand.id} {brandId : Id}
    (ran : resolveBrand unicode ids source now state row = .ok (brands, brandId)) :
    (exists brand, brandOf unicode state row = some brand /\ brands = state.brands /\
      brandId = brand.id) \/
    (brandOf unicode state row = none /\ exists slug, catalogueSlug unicode row.brand = some slug /\
      state.brands.insert? (wotofoBrand brandId row.brand slug now) = some brands) := by
  simp only [resolveBrand, bind_ok, orThrow_ok] at ran
  obtain ⟨slug, slugged, ran⟩ := ran
  cases known : brandOf unicode state row with
  | some brand =>
    simp only [known, pure_ok, Prod.mk.injEq] at ran
    exact .inl ⟨brand, rfl, ran.1.symm, ran.2.symm⟩
  | none =>
    simp only [known, bind_ok, throwIf_ok, orThrow_ok, pure_ok, Prod.mk.injEq] at ran
    obtain ⟨_, -, _, -, made, inserted, rfl, rfl⟩ := ran
    exact .inr ⟨rfl, slug, slugged, inserted⟩

theorem resolveCategory_cases {source : CatalogImportSource} {categories : Table Category.id}
    {categoryId : Id}
    (ran : resolveCategory ids source now state row = .ok (categories, categoryId)) :
    (exists category, categoryOf state row = some category /\ categories = state.categories /\
      categoryId = category.id) \/
    (categoryOf state row = none /\ exists labels,
      state.categories.insert? (wotofoCategory categoryId row.categorySlug labels now) =
        some categories) := by
  unfold resolveCategory at ran
  cases known : categoryOf state row with
  | some category =>
    simp only [known, pure_ok, Prod.mk.injEq] at ran
    exact .inl ⟨category, rfl, ran.1.symm, ran.2.symm⟩
  | none =>
    simp only [known, bind_ok, throwIf_ok, orThrow_ok, pure_ok, Prod.mk.injEq] at ran
    obtain ⟨_, -, labels, -, _, -, made, inserted, rfl, rfl⟩ := ran
    exact .inr ⟨rfl, labels, inserted⟩

theorem writeProduct_cases {source : CatalogImportSource} {brandId categoryId : Id}
    {products : Table Product.id} {product : Product}
    (ran : writeProduct state ids source row brandId categoryId = .ok (products, product)) :
    (exists current, findProduct state source row = some current /\ current.slug = row.slug /\
      products = state.products.modify current.id (rewrittenProduct brandId categoryId row)
        (rewrittenProduct_key brandId categoryId row) /\
      product = rewrittenProduct brandId categoryId row current) \/
    (findProduct state source row = none /\ (exists id, product = insertedProduct id brandId categoryId row) /\
      (forall other, other ∈ state.products.rows -> other.slug ≠ row.slug) /\
      state.products.insert? product = some products) := by
  unfold writeProduct at ran
  cases known : findProduct state source row with
  | some current =>
    simp only [known, bind_ok, throwIf_ok, pure_ok, Prod.mk.injEq] at ran
    obtain ⟨_, named, rfl, rfl⟩ := ran
    exact .inl ⟨current, rfl, Decidable.not_not.1 named, rfl, rfl⟩
  | none =>
    simp only [known, bind_ok, throwIf_ok, orThrow_ok, pure_ok, Prod.mk.injEq] at ran
    obtain ⟨_, free, made, inserted, rfl, rfl⟩ := ran
    exact .inr ⟨rfl, ⟨_, rfl⟩, by simpa using free, inserted⟩

theorem writeVariant_cases {productId : Id} {flavorId : Option Id} {row : ValidRow}
    {variants : Table ProductVariant.id} {variant : ProductVariant} {created : Bool}
    (ran : writeVariant state ids options productId flavorId row = .ok (variants, variant, created)) :
    Not (options.overrideStatus = true /\ row.input.publicationStatus = some .published) /\
    ((findVariant state options.source row.input = none /\ created = true /\
      (exists id, variant = insertedVariant id productId flavorId options row) /\
      state.variants.insert? variant = some variants) \/
    (exists before, findVariant state options.source row.input = some before /\ created = false /\
      before.productId = productId /\
      variants = state.variants.modify before.id (rewrittenVariant flavorId options row.input)
        (rewrittenVariant_key flavorId options row.input) /\
      variant = rewrittenVariant flavorId options row.input before)) := by
  unfold writeVariant at ran
  cases known : findVariant state options.source row.input with
  | some before =>
    simp only [known, bind_ok, throwIf_ok, pure_ok, Prod.mk.injEq] at ran
    obtain ⟨_, owned, _, refused, rfl, rfl, rfl⟩ := ran
    exact ⟨refused, .inr ⟨before, rfl, rfl, Decidable.not_not.1 owned, rfl, rfl⟩⟩
  | none =>
    simp only [known, bind_ok, throwIf_ok, orThrow_ok, pure_ok, Prod.mk.injEq] at ran
    obtain ⟨_, refused, _, -, made, inserted, rfl, rfl, rfl⟩ := ran
    exact ⟨refused, .inl ⟨rfl, rfl, ⟨_, rfl⟩, inserted⟩⟩

-- Everything one row of a group does.
theorem applyRow_cases {product : Product} {applying next : Applying} {row : ValidRow}
    (ran : applyRow unicode ids options now product applying row = .ok next) :
    exists flavors flavorId variants variant created,
      writeVariant applying.catalog ids options product.id flavorId row = .ok (variants, variant, created) /\
      next = {
        catalog := { applying.catalog with
          flavors
          variants
          sourceRecords :=
            linkVariant applying.catalog.sourceRecords options.source row.input variant.id now }
        rows := applying.rows ++ [appliedRow product variant created row] } := by
  simp only [applyRow, bind_ok, pure_ok, Prod.exists] at ran
  obtain ⟨flavors, flavorId, -, variants, variant, created, written, rfl⟩ := ran
  exact ⟨flavors, flavorId, variants, variant, created, written, rfl⟩

theorem openGroup_cases {first : CatalogImportRowInput} {catalog : CatalogState} {product : Product}
    (ran : openGroup unicode ids options now state first = .ok (catalog, product)) :
    exists brands brandId categories categoryId products,
      resolveBrand unicode ids options.source now state first = .ok (brands, brandId) /\
      resolveCategory ids options.source now state first = .ok (categories, categoryId) /\
      writeProduct state ids options.source first brandId categoryId = .ok (products, product) /\
      catalog = { state with
        brands
        categories
        products
        sourceRecords := linkProduct state.sourceRecords options.source first product.id now } := by
  simp only [openGroup, bind_ok, pure_ok, Prod.exists, Prod.mk.injEq] at ran
  obtain ⟨brands, brandId, branded, categories, categoryId, filed, products, made, written, rfl, rfl⟩ := ran
  exact ⟨brands, brandId, categories, categoryId, products, branded, filed, written, rfl⟩

/-- What holds before the groups and is kept by opening a group and by each of its rows holds after
them; `inner` speaks of the product in work, its rows left and the groups left. -/
theorem groups_keep (outer : Applying -> List ProductGroup -> Prop)
    (inner : Applying -> Product -> List ValidRow -> List ProductGroup -> Prop)
    (opens : forall applying group rest catalog product, outer applying (group :: rest) ->
      openGroup unicode ids options now applying.catalog group.first.input = .ok (catalog, product) ->
      inner { applying with catalog } product group.rows rest)
    (each : forall applying product row rest groups next, inner applying product (row :: rest) groups ->
      applyRow unicode ids options now product applying row = .ok next -> inner next product rest groups)
    (closes : forall applying product groups, inner applying product [] groups -> outer applying groups)
    {groups : List ProductGroup} {start finish : Applying} (initial : outer start groups)
    (ran : groups.foldlM (applyProductGroup unicode ids options now) start = .ok finish) :
    outer finish [] := by
  refine foldlM_remaining outer ?_ initial ran
  intro applying group rest next holds done
  simp only [applyProductGroup, bind_ok, Prod.exists] at done
  obtain ⟨catalog, product, opened, looped⟩ := done
  have entered := opens applying group rest catalog product holds opened
  have left := foldlM_remaining (fun state rows => inner state product rows rest)
    (fun state row rows later => each state product row rows rest later) entered looped
  exact closes next product rest left

end Steps

section Progressing

variable {unicode : Unicode} {ids : ImportIds} {options : CatalogImportOptions} {now : Int}
variable {state : CatalogState}

theorem rewrittenProduct_same (brandId categoryId : Id) (row : CatalogImportRowInput) (product : Product) :
    SameProduct product (rewrittenProduct brandId categoryId row product) :=
  ⟨rfl, rfl, rfl, rfl, rfl, rfl, rfl⟩

theorem insertedProduct_fresh (id brandId categoryId : Id) (row : CatalogImportRowInput) :
    FreshProduct (insertedProduct id brandId categoryId row) :=
  ⟨rfl, rfl, rfl, rfl⟩

theorem rewrittenVariant_same {flavorId : Option Id} {row : CatalogImportRowInput}
    (refused : Not (options.overrideStatus = true /\ row.publicationStatus = some .published))
    (variant : ProductVariant) : SameVariant variant (rewrittenVariant flavorId options row variant) := by
  refine ⟨rfl, rfl, rfl, rfl, rfl, rfl, fun published => ?_⟩
  simp only [rewrittenVariant] at published
  split at published
  next overriding =>
    cases given : row.publicationStatus with
    | none => simpa [given] using published
    | some status =>
      rw [given] at published
      exact absurd ⟨overriding, given.trans (congrArg some published)⟩ refused
  next => exact published

theorem insertedVariant_fresh {id productId : Id} {flavorId : Option Id} {row : ValidRow}
    (refused : Not (options.overrideStatus = true /\ row.input.publicationStatus = some .published)) :
    FreshVariant (insertedVariant id productId flavorId options row) := by
  refine ⟨fun published => ?_, rfl, rfl⟩
  simp only [insertedVariant] at published
  split at published
  next overriding =>
    cases given : row.input.publicationStatus with
    | none => simp [given] at published
    | some status =>
      rw [given] at published
      exact refused ⟨overriding, given.trans (congrArg some published)⟩
  next => cases published

theorem applyRow_progress {product : Product} {applying next : Applying} {row : ValidRow}
    (ran : applyRow unicode ids options now product applying row = .ok next) :
    Progress applying.catalog next.catalog := by
  obtain ⟨flavors, flavorId, variants, variant, created, written, rfl⟩ := applyRow_cases ran
  refine { Progress.refl applying.catalog with variants := ?_ }
  obtain ⟨refused, ⟨-, -, ⟨id, rfl⟩, inserted⟩ | ⟨before, -, -, -, rfl, -⟩⟩ := writeVariant_cases written
  next =>
    rw [(Table.insert?_rows inserted).1]
    exact Grown.append SameVariant.refl _ (insertedVariant_fresh refused)
  next => exact Grown.rewrite SameVariant.refl (fun row _ => rewrittenVariant_same refused row) _

theorem openGroup_progress {first : CatalogImportRowInput} {catalog : CatalogState} {product : Product}
    (ran : openGroup unicode ids options now state first = .ok (catalog, product)) :
    Progress state catalog := by
  obtain ⟨brands, brandId, categories, categoryId, products, branded, filed, written, rfl⟩ :=
    openGroup_cases ran
  refine { Progress.refl state with brands := ?_, categories := ?_, products := ?_ }
  next =>
    obtain ⟨brand, -, rfl, -⟩ | ⟨-, slug, -, inserted⟩ := resolveBrand_cases branded
    next => exact Grown.refl SameBrand.refl _
    next =>
      rw [(Table.insert?_rows inserted).1]
      exact Grown.append SameBrand.refl _ ⟨rfl, rfl⟩
  next =>
    obtain ⟨category, -, rfl, -⟩ | ⟨-, labels, inserted⟩ := resolveCategory_cases filed
    next => exact Grown.refl SameCategory.refl _
    next =>
      rw [(Table.insert?_rows inserted).1]
      exact Grown.append SameCategory.refl _ ⟨rfl, rfl, rfl⟩
  next =>
    obtain ⟨current, -, -, rfl, -⟩ | ⟨-, ⟨id, rfl⟩, -, inserted⟩ := writeProduct_cases written
    next => exact Grown.rewrite SameProduct.refl (fun row _ => rewrittenProduct_same _ _ _ row) _
    next =>
      rw [(Table.insert?_rows inserted).1]
      exact Grown.append SameProduct.refl _ (insertedProduct_fresh _ _ _ _)

theorem groups_progress {groups : List ProductGroup} {start finish : Applying}
    (ran : groups.foldlM (applyProductGroup unicode ids options now) start = .ok finish) :
    Progress start.catalog finish.catalog :=
  groups_keep (fun applying _ => Progress start.catalog applying.catalog)
    (fun applying _ _ _ => Progress start.catalog applying.catalog)
    (fun _ _ _ _ _ so_far opened => so_far.trans (openGroup_progress opened))
    (fun _ _ _ _ _ _ so_far applied => so_far.trans (applyRow_progress applied))
    (fun _ _ _ so_far => so_far) (Progress.refl _) ran

end Progressing

section Lookups

variable {start state : CatalogState} {source : CatalogImportSource} {row : CatalogImportRowInput}

-- How `findProduct` chooses, once the source record is known.
def productChoice (link : Option Id) (slug : Text) (product : Product) : Bool :=
  match link with
  | some id => product.id == id && product.deletedAt.isNone
  | none => product.slug == slug && product.deletedAt.isNone

theorem productChoice_same (link : Option Id) (slug : Text) (old new : Product)
    (same : SameProduct old new) : productChoice link slug new = productChoice link slug old := by
  cases link <;> simp only [productChoice, same.id, same.slug, same.deletedAt]

theorem findProduct_choice (state : CatalogState) (source : CatalogImportSource)
    (row : CatalogImportRowInput) : findProduct state source row =
      state.products.rows.find? (productChoice (linkedProduct state source row.productKey) row.slug) := by
  unfold findProduct productChoice
  cases linkedProduct state source row.productKey <;> rfl

-- How `findVariant` chooses, once the source record is known.
def variantChoice (link : Option Id) (sku : Text) (variant : ProductVariant) : Bool :=
  match link with
  | some id => variant.id == id && variant.deletedAt.isNone
  | none => variant.sku == sku && variant.deletedAt.isNone

theorem variantChoice_same (link : Option Id) (sku : Text) (old new : ProductVariant)
    (same : SameVariant old new) : variantChoice link sku new = variantChoice link sku old := by
  cases link <;> simp only [variantChoice, same.id, same.sku, same.deletedAt]

theorem findVariant_choice (state : CatalogState) (source : CatalogImportSource)
    (row : CatalogImportRowInput) : findVariant state source row =
      state.variants.rows.find? (variantChoice (linkedVariant state source (stableIdentity row)) row.sku) := by
  unfold findVariant variantChoice
  cases linkedVariant state source (stableIdentity row) <;> rfl

theorem findProduct_mem {product : Product} (found : findProduct state source row = some product) :
    product ∈ state.products.rows := by
  rw [findProduct_choice] at found
  exact List.mem_of_find?_eq_some found

theorem findVariant_mem {variant : ProductVariant} (found : findVariant state source row = some variant) :
    variant ∈ state.variants.rows := by
  rw [findVariant_choice] at found
  exact List.mem_of_find?_eq_some found

variable (progress : Progress start state)

include progress

-- A row whose source record no one has touched finds the product it would have found at the start.
theorem findProduct_later
    (linked : linkedProduct state source row.productKey = linkedProduct start source row.productKey)
    {product : Product} (found : findProduct start source row = some product) :
    exists now, findProduct state source row = some now /\ SameProduct product now := by
  rw [findProduct_choice] at found ⊢
  rw [linked]
  exact progress.products.find? (productChoice_same _ _) found

theorem findProduct_origin
    (linked : linkedProduct state source row.productKey = linkedProduct start source row.productKey)
    {product : Product} (found : findProduct state source row = some product) :
    (exists old, findProduct start source row = some old /\ SameProduct old product) \/
      (findProduct start source row = none /\ FreshProduct product) := by
  rw [findProduct_choice, linked] at found
  rw [findProduct_choice]
  exact progress.products.find?_origin (productChoice_same _ _) found

-- A product that a row finds only now is none of those at the start.
theorem findProduct_new
    (linked : linkedProduct state source row.productKey = linkedProduct start source row.productKey)
    (missed : findProduct start source row = none) {product old : Product}
    (found : findProduct state source row = some product) (member : old ∈ start.products.rows) :
    old.id ≠ product.id := by
  intro same
  have kept := progress.products.at_key (fun _ _ same => same.id) member (findProduct_mem found) same.symm
  rw [findProduct_choice, linked] at found
  rw [findProduct_choice] at missed
  have chosen := List.find?_some found
  rw [productChoice_same _ _ _ _ kept] at chosen
  exact absurd chosen (List.find?_eq_none.1 missed old member)

theorem findVariant_later
    (linked : linkedVariant state source (stableIdentity row) =
      linkedVariant start source (stableIdentity row))
    {variant : ProductVariant} (found : findVariant start source row = some variant) :
    exists now, findVariant state source row = some now /\ SameVariant variant now := by
  rw [findVariant_choice] at found ⊢
  rw [linked]
  exact progress.variants.find? (variantChoice_same _ _) found

theorem findVariant_origin
    (linked : linkedVariant state source (stableIdentity row) =
      linkedVariant start source (stableIdentity row))
    {variant : ProductVariant} (found : findVariant state source row = some variant) :
    (exists old, findVariant start source row = some old /\ SameVariant old variant) \/
      (findVariant start source row = none /\ FreshVariant variant) := by
  rw [findVariant_choice, linked] at found
  rw [findVariant_choice]
  exact progress.variants.find?_origin (variantChoice_same _ _) found

end Lookups

section Batches

variable {unicode : Unicode} {ids : ImportIds} {now : Int} {state : CatalogState}

def appliedBatch (stored : CatalogImportBatch) (id : Id) (rows : List CatalogImportRow) :
    CatalogImportBatch :=
  { stored.toCatalogImportOptions with
    id
    dryRun := false
    payloadHash := stored.payloadHash
    status := .appliedWithWarnings
    payload := stored.payload
    previewBatchId := some stored.id
    appliedCount := rows.length
    rolledBackAt := none
    rows }

/-- An application that succeeds answers with the batch already under its key, or runs all groups. -/
theorem apply_cases {previewBatchId : Id} {result : AppliedImport}
    (ran : Import.apply unicode state previewBatchId ids now = .ok result) :
    exists stored, state.imports.find? previewBatchId = some stored /\ stored.dryRun = true /\
      ((exists existing, batchUnder state stored.importKey false = some existing /\
        result = { catalog := state, batchId := existing.id }) \/
      (batchUnder state stored.importKey false = none /\ exists finished imports,
        (groupRows (validRows stored.payload)).foldlM
          (applyProductGroup unicode ids stored.toCatalogImportOptions now)
          { catalog := state, rows := [] } = .ok finished /\
        finished.catalog.imports.insert? (appliedBatch stored ids.batch finished.rows) = some imports /\
        result = { catalog := { finished.catalog with imports }, batchId := ids.batch })) := by
  simp only [Import.apply, bind_ok, orThrow_ok, throwIf_ok, Option.filter_eq_some_iff] at ran
  obtain ⟨stored, ⟨found, dry⟩, _, -, _, -, _, -, ran⟩ := ran
  refine ⟨stored, found, dry, ?_⟩
  cases known : batchUnder state stored.importKey false with
  | some existing =>
    simp only [known, bind_ok, throwIf_ok, pure_ok] at ran
    obtain ⟨_, -, rfl⟩ := ran
    exact .inl ⟨existing, rfl, rfl⟩
  | none =>
    simp only [known, bind_ok, throwIf_ok, orThrow_ok, pure_ok] at ran
    obtain ⟨_, -, finished, looped, imports, inserted, rfl⟩ := ran
    exact .inr ⟨rfl, finished, imports, looped, inserted, rfl⟩

theorem preview_frame {id : Id} {parsed : List ParsedCatalogImportRow} {options : CatalogImportOptions}
    {next : CatalogState} (ran : preview state id parsed options = .ok next) :
    exists imports, next = { state with imports } := by
  simp only [preview, bind_ok, throwIf_ok] at ran
  obtain ⟨_, -, ran⟩ := ran
  split at ran
  next =>
    simp only [bind_ok, throwIf_ok, pure_ok] at ran
    obtain ⟨_, -, rfl⟩ := ran
    exact ⟨state.imports, rfl⟩
  next =>
    simp only [bind_ok, Database.create_ok, pure_ok] at ran
    obtain ⟨imports, -, rfl⟩ := ran
    exact ⟨imports, rfl⟩

-- What an application leaves of the rows it finds, its own batch apart.
theorem apply_progress {previewBatchId : Id} {result : AppliedImport}
    (ran : Import.apply unicode state previewBatchId ids now = .ok result) :
    Progress state { result.catalog with imports := state.imports } := by
  obtain ⟨stored, -, -, ⟨existing, -, rfl⟩ | ⟨-, finished, imports, looped, -, rfl⟩⟩ := apply_cases ran
  next => exact Progress.refl state
  next =>
    have progress := groups_progress looped
    exact { progress with imports := rfl }

end Batches

end VapeCommerce.Catalog.Applied
