import VapeCommerce.Catalog.Undo

set_option autoImplicit false

-- What an applied import leaves in the catalogue, against the rows it was given.
namespace VapeCommerce.Catalog.Fidelity

open VapeCommerce.Lib VapeCommerce.Lib.Outcome VapeCommerce.Schema VapeCommerce.Catalog.Import
open VapeCommerce.Catalog.Applied

section Payload

def identity (row : ValidRow) : Text := stableIdentity row.input

def nothingSeen : Seen := { identities := [], skus := [], products := [] }

def ValidPayload (payload : List ParsedCatalogImportRow) : Prop :=
  exists parsed, payload = validatePayload nothingSeen parsed

def Consistent (inputs : List CatalogImportRowInput) : Prop :=
  forall left, left ∈ inputs -> forall right, right ∈ inputs -> left.productKey = right.productKey ->
    productFields left = productFields right

theorem Consistent.cons {seen : List CatalogImportRowInput} {input : CatalogImportRowInput}
    (consistent : Consistent seen)
    (agrees : forall other, other ∈ seen -> other.productKey = input.productKey ->
      productFields other = productFields input) : Consistent (input :: seen) := by
  intro left first right second same
  rcases List.mem_cons.1 first with rfl | known
  next =>
    rcases List.mem_cons.1 second with rfl | there
    next => rfl
    next => exact (agrees right there same.symm).symm
  next =>
    rcases List.mem_cons.1 second with rfl | there
    next => exact agrees left known same
    next => exact consistent left known right there same

end Payload

section Statement

-- What a row is about before the import: a row of the catalogue, or one to be made under this name.
inductive Target where
  | known (id : Id)
  | new (name : Text)
deriving DecidableEq

def productTarget (state : CatalogState) (source : CatalogImportSource) (row : CatalogImportRowInput) :
    Target :=
  match findProduct state source row with
  | some product => .known product.id
  | none => .new row.slug

def variantTarget (state : CatalogState) (source : CatalogImportSource) (row : CatalogImportRowInput) :
    Target :=
  match findVariant state source row with
  | some variant => .known variant.id
  | none => .new row.sku

/-- Rows that the catalogue keeps apart: one product per product key, one variant per row, and a variant
found through its source record has the SKU the row gives. -/
structure Separate (before : CatalogState) (source : CatalogImportSource) (rows : List ValidRow) : Prop where
  products : forall left, left ∈ rows -> forall right, right ∈ rows ->
    productTarget before source left.input = productTarget before source right.input ->
      left.input.productKey = right.input.productKey
  variants : forall left, left ∈ rows -> forall right, right ∈ rows ->
    variantTarget before source left.input = variantTarget before source right.input -> left = right
  skus : forall row, row ∈ rows -> forall variant,
    findVariant before source row.input = some variant -> variant.sku = row.input.sku

-- The metadata a product has from a row.
structure Carries (unicode : Unicode) (state : CatalogState) (product : Product)
    (row : CatalogImportRowInput) : Prop where
  slug : product.slug = row.slug
  description : product.description = row.description
  brand : exists brand, brand ∈ state.brands.rows /\ product.brandId = some brand.id /\
    catalogueSlug unicode row.brand = some brand.slug
  category : exists category, category ∈ state.categories.rows /\ product.categoryId = category.id /\
    category.slug = row.categorySlug

-- The row of the batch that tells what became of an input row.
structure AppliedAs (row : ValidRow) (applied : CatalogImportRow) : Prop where
  number : applied.rowNumber = row.rowNumber
  identity : applied.stableIdentity = identity row

-- The product and the variant of an applied row, as the catalogue has them.
structure Written (unicode : Unicode) (state : CatalogState) (row : ValidRow) (applied : CatalogImportRow)
    (product : Product) (variant : ProductVariant) : Prop where
  productThere : product ∈ state.products.rows
  variantThere : variant ∈ state.variants.rows
  productId : applied.productId = some product.id
  variantId : applied.variantId = some variant.id
  owner : variant.productId = product.id
  nameFr : variant.nameFr = row.input.variantNameFr
  nameAr : variant.nameAr = row.input.variantNameAr
  carries : Carries unicode state product row.input

/-- The applied rows tell the products and variants of their input rows apart as their keys do, and these
are as the rows describe them. -/
structure Faithful (unicode : Unicode) (state : CatalogState) (rows : List ValidRow)
    (applied : List CatalogImportRow) : Prop where
  complete : forall row, row ∈ rows -> exists one, one ∈ applied /\ AppliedAs row one
  accounted : forall one, one ∈ applied -> exists row, row ∈ rows /\ AppliedAs row one
  products : forall left, left ∈ rows -> forall right, right ∈ rows ->
    forall one, one ∈ applied -> AppliedAs left one -> forall other, other ∈ applied ->
      AppliedAs right other ->
        (one.productId = other.productId <-> left.input.productKey = right.input.productKey)
  variants : (applied.map CatalogImportRow.variantId).Nodup
  written : forall row, row ∈ rows -> forall one, one ∈ applied -> AppliedAs row one ->
    exists product variant, Written unicode state row one product variant /\
      variant.sku = row.input.sku

-- The source records lead to variants there are, as the foreign key of their table has it.
def LinksResolve (state : CatalogState) : Prop :=
  forall record, record ∈ state.sourceRecords.rows -> forall id, record.variantId = some id ->
    id ∈ state.variants.rows.map ProductVariant.id

end Statement

section Targets

variable {before state next : CatalogState} {source : CatalogImportSource}
variable {row other : CatalogImportRowInput} {id : Id}

-- The product with this id is what the row was about at the start, or a new one under the row's slug.
def ProductOf (before : CatalogState) (source : CatalogImportSource) (state : CatalogState)
    (row : CatalogImportRowInput) (id : Id) : Prop :=
  (exists old, findProduct before source row = some old /\ id = old.id) \/
    (findProduct before source row = none /\ Not (id ∈ before.products.rows.map Product.id) /\
      exists product, product ∈ state.products.rows /\ product.id = id /\ product.slug = row.slug)

def VariantOf (before : CatalogState) (source : CatalogImportSource) (state : CatalogState)
    (row : CatalogImportRowInput) (id : Id) : Prop :=
  (exists old, findVariant before source row = some old /\ id = old.id) \/
    (findVariant before source row = none /\ Not (id ∈ before.variants.rows.map ProductVariant.id) /\
      exists variant, variant ∈ state.variants.rows /\ variant.id = id /\ variant.sku = row.sku)

theorem ProductOf.later (progress : Progress state next) (about : ProductOf before source state row id) :
    ProductOf before source next row id := by
  refine about.imp_right fun ⟨missed, fresh, product, there, same, slug⟩ => ?_
  obtain ⟨now, present, kept⟩ := progress.products.later there
  exact ⟨missed, fresh, now, present, kept.id.trans same, kept.slug.trans slug⟩

theorem VariantOf.later (progress : Progress state next) (about : VariantOf before source state row id) :
    VariantOf before source next row id := by
  refine about.imp_right fun ⟨missed, fresh, variant, there, same, sku⟩ => ?_
  obtain ⟨now, present, kept⟩ := progress.variants.later there
  exact ⟨missed, fresh, now, present, kept.id.trans same, kept.sku.trans sku⟩

theorem ProductOf.target (about : ProductOf before source state row id)
    (also : ProductOf before source state other id) :
    productTarget before source row = productTarget before source other := by
  unfold productTarget
  rcases about with ⟨old, found, rfl⟩ | ⟨missed, fresh, product, there, rfl, slug⟩
  next =>
    rcases also with ⟨second, known, same⟩ | ⟨-, unknown, -⟩
    next => rw [found, known]; exact congrArg Target.known same
    next => exact absurd (List.mem_map_of_mem (findProduct_mem found)) unknown
  next =>
    rcases also with ⟨second, known, same⟩ | ⟨lost, -, again, present, same, name⟩
    next => exact absurd (same ▸ List.mem_map_of_mem (findProduct_mem known)) fresh
    next =>
      obtain rfl := state.products.same_of_key there present same.symm
      rw [missed, lost]
      exact congrArg Target.new (slug.symm.trans name)

theorem VariantOf.target (about : VariantOf before source state row id)
    (also : VariantOf before source state other id) :
    variantTarget before source row = variantTarget before source other := by
  unfold variantTarget
  rcases about with ⟨old, found, rfl⟩ | ⟨missed, fresh, variant, there, rfl, sku⟩
  next =>
    rcases also with ⟨second, known, same⟩ | ⟨-, unknown, -⟩
    next => rw [found, known]; exact congrArg Target.known same
    next => exact absurd (List.mem_map_of_mem (findVariant_mem found)) unknown
  next =>
    rcases also with ⟨second, known, same⟩ | ⟨lost, -, again, present, same, name⟩
    next => exact absurd (same ▸ List.mem_map_of_mem (findVariant_mem known)) fresh
    next =>
      obtain rfl := state.variants.same_of_key there present same.symm
      rw [missed, lost]
      exact congrArg Target.new (sku.symm.trans name)

-- New products have slugs of their own, so that one target leads to one product.
theorem ProductOf.same {left right : Id}
    (slugs : forall one, one ∈ state.products.rows -> forall two, two ∈ state.products.rows ->
      Not (one.id ∈ before.products.rows.map Product.id) -> one.slug = two.slug -> one = two)
    (about : ProductOf before source state row left) (also : ProductOf before source state other right)
    (target : productTarget before source row = productTarget before source other) : left = right := by
  unfold productTarget at target
  rcases about with ⟨old, found, rfl⟩ | ⟨missed, fresh, product, there, rfl, slug⟩
  next =>
    rw [found] at target
    rcases also with ⟨second, known, rfl⟩ | ⟨lost, -, -⟩
    next => rw [known] at target; exact Target.known.inj target
    next => rw [lost] at target; cases target
  next =>
    rw [missed] at target
    rcases also with ⟨second, known, rfl⟩ | ⟨lost, -, again, present, rfl, name⟩
    next => rw [known] at target; cases target
    next =>
      rw [lost] at target
      rw [slugs product there again present fresh
        ((slug.trans (Target.new.inj target)).trans name.symm)]

end Targets

section Recording

variable {unicode : Unicode} {ids : ImportIds} {options : CatalogImportOptions} {now : Int}
variable {before : CatalogState} {source : CatalogImportSource} {all : List ValidRow}

/-- What an import in progress has recorded: `done` pairs the rows behind it with what it noted of them,
`left` are the rows to come. -/
structure Recorded (unicode : Unicode) (before : CatalogState) (source : CatalogImportSource)
    (all : List ValidRow) (applying : Applying) (left : List ValidRow)
    (done : List (ValidRow × CatalogImportRow)) : Prop where
  progress : Progress before applying.catalog
  order : done.map Prod.fst ++ left = all
  rows : applying.rows = done.map Prod.snd
  linked : forall row, row ∈ left -> linkedVariant applying.catalog source (identity row) =
    linkedVariant before source (identity row)
  slugs : forall one, one ∈ applying.catalog.products.rows ->
    forall two, two ∈ applying.catalog.products.rows ->
      Not (one.id ∈ before.products.rows.map Product.id) -> one.slug = two.slug -> one = two
  made : forall variant, variant ∈ applying.catalog.variants.rows ->
    variant.id ∈ before.variants.rows.map ProductVariant.id \/
      exists pair, pair ∈ done /\ variant.sku = pair.1.input.sku
  applied : forall pair, pair ∈ done -> AppliedAs pair.1 pair.2
  product : forall pair, pair ∈ done -> exists id, pair.2.productId = some id /\
    ProductOf before source applying.catalog pair.1.input id
  variant : forall pair, pair ∈ done -> exists id, pair.2.variantId = some id /\
    VariantOf before source applying.catalog pair.1.input id
  written : Separate before source all -> forall pair, pair ∈ done -> exists product variant,
    Written unicode applying.catalog pair.1 pair.2 product variant

-- The groups to come: their keys are nobody else's and their source records are as they were.
structure Waiting (before : CatalogState) (source : CatalogImportSource) (applying : Applying)
    (groups : List ProductGroup) (seen : List ValidRow) : Prop where
  distinct : (productKeys groups).Nodup
  linked : forall group, group ∈ groups ->
    linkedProduct applying.catalog source group.first.input.productKey =
      linkedProduct before source group.first.input.productKey
  alike : forall group, group ∈ groups -> forall row, row ∈ group.rows ->
    row.input.productKey = group.first.input.productKey
  apart : forall row, row ∈ seen -> Not (row.input.productKey ∈ productKeys groups)

-- The product in work is that of each of its rows.
structure Working (unicode : Unicode) (before : CatalogState) (source : CatalogImportSource)
    (state : CatalogState) (product : Product) (rows : List ValidRow) : Prop where
  there : product ∈ state.products.rows
  about : forall row, row ∈ rows -> ProductOf before source state row.input product.id
  carries : forall row, row ∈ rows -> Carries unicode state product row.input

theorem ProductOf.alike {state : CatalogState} {row other : CatalogImportRowInput} {id : Id}
    (key : row.productKey = other.productKey) (slug : row.slug = other.slug)
    (about : ProductOf before source state row id) : ProductOf before source state other id := by
  unfold ProductOf at about ⊢
  have found : findProduct before source row = findProduct before source other := by
    rw [findProduct_choice, findProduct_choice, key, slug]
  rwa [← found, ← slug]

theorem Carries.alike {state : CatalogState} {product : Product} {row other : CatalogImportRowInput}
    (same : productFields row = productFields other) (carries : Carries unicode state product row) :
    Carries unicode state product other := by
  simp only [productFields, ProductFields.mk.injEq] at same
  obtain ⟨brand, category, description, slug, -, -⟩ := same
  exact ⟨slug ▸ carries.slug, description ▸ carries.description, brand ▸ carries.brand,
    category ▸ carries.category⟩

theorem Carries.later {state next : CatalogState} {product : Product} {row : CatalogImportRowInput}
    (progress : Progress state next) (carries : Carries unicode state product row) :
    Carries unicode next product row := by
  obtain ⟨brand, branded, brandId, slug⟩ := carries.brand
  obtain ⟨category, filed, categoryId, name⟩ := carries.category
  obtain ⟨_, brandLater, rfl⟩ := progress.brands.later branded
  obtain ⟨_, categoryLater, rfl⟩ := progress.categories.later filed
  exact ⟨carries.slug, carries.description, ⟨_, brandLater, brandId, slug⟩,
    ⟨_, categoryLater, categoryId, name⟩⟩

-- The product a group opens, by the rules of its row.
theorem opened_product {state : CatalogState} {first : CatalogImportRowInput} {catalog : CatalogState}
    {product : Product} (progress : Progress before state)
    (linked : linkedProduct state options.source first.productKey =
      linkedProduct before options.source first.productKey)
    (ran : openGroup unicode ids options now state first = .ok (catalog, product)) :
    product ∈ catalog.products.rows /\ ProductOf before options.source catalog first product.id /\
      Carries unicode catalog product first := by
  obtain ⟨brands, brandId, categories, categoryId, products, branded, filed, written, rfl⟩ :=
    openGroup_cases ran
  have brand : exists brand, brand ∈ brands.rows /\ brandId = brand.id /\
      catalogueSlug unicode first.brand = some brand.slug := by
    obtain ⟨brand, found, rfl, rfl⟩ | ⟨-, slug, slugged, inserted⟩ := resolveBrand_cases branded
    next =>
      simp only [brandOf, Option.bind_eq_some_iff] at found
      obtain ⟨slug, slugged, found⟩ := found
      have matched := List.find?_some found
      simp only [Bool.and_eq_true, beq_iff_eq] at matched
      exact ⟨brand, List.mem_of_find?_eq_some found, rfl, matched.1 ▸ slugged⟩
    next => exact ⟨_, Table.find?_mem (Table.find?_inserted inserted), rfl, slugged⟩
  have category : exists category, category ∈ categories.rows /\ categoryId = category.id /\
      category.slug = first.categorySlug := by
    obtain ⟨category, found, rfl, rfl⟩ | ⟨-, labels, inserted⟩ := resolveCategory_cases filed
    next =>
      have matched := List.find?_some found
      simp only [Bool.and_eq_true, beq_iff_eq] at matched
      exact ⟨category, List.mem_of_find?_eq_some found, rfl, matched.1⟩
    next => exact ⟨_, Table.find?_mem (Table.find?_inserted inserted), rfl, rfl⟩
  obtain ⟨brandRow, brandThere, brandSame, brandSlug⟩ := brand
  obtain ⟨categoryRow, categoryThere, categorySame, categorySlug⟩ := category
  obtain ⟨current, found, slug, rfl, rfl⟩ | ⟨missed, ⟨id, rfl⟩, free, inserted⟩ := writeProduct_cases written
  next =>
    have there : rewrittenProduct brandId categoryId first current ∈
        (state.products.modify current.id (rewrittenProduct brandId categoryId first)
          (rewrittenProduct_key brandId categoryId first)).rows :=
      List.mem_map.2 ⟨current, findProduct_mem found, Table.rewrite_chosen (by simp)⟩
    refine ⟨there, ?_, slug, rfl, ⟨brandRow, brandThere, congrArg some brandSame, brandSlug⟩,
      categoryRow, categoryThere, categorySame, categorySlug⟩
    rcases findProduct_origin progress linked found with ⟨old, known, same⟩ | ⟨lost, -⟩
    next => exact .inl ⟨old, known, same.id⟩
    next =>
      refine .inr ⟨lost, fun member => ?_, _, there, rfl, slug⟩
      obtain ⟨old, present, same⟩ := List.mem_map.1 member
      exact findProduct_new progress linked lost found present same
  next =>
    have there : insertedProduct id brandId categoryId first ∈ products.rows := by
      rw [(Table.insert?_rows inserted).1]
      exact List.mem_append_right _ (List.mem_singleton_self _)
    refine ⟨there, .inr ⟨?_, fun member => ?_, _, there, rfl, rfl⟩, rfl, rfl,
      ⟨brandRow, brandThere, congrArg some brandSame, brandSlug⟩, categoryRow, categoryThere, categorySame,
      categorySlug⟩
    next =>
      cases known : findProduct before options.source first with
      | none => rfl
      | some old =>
        obtain ⟨now, seen, -⟩ := findProduct_later progress linked known
        rw [missed] at seen
        cases seen
    next => exact Undo.insert?_id inserted (progress.productIds member)

-- Opening a group leaves every other product as it is.
theorem opened_others {state : CatalogState} {first : CatalogImportRowInput} {catalog : CatalogState}
    {product : Product} (ran : openGroup unicode ids options now state first = .ok (catalog, product)) :
    (forall other, other ∈ state.products.rows -> other.id ≠ product.id -> other ∈ catalog.products.rows) /\
      catalog.variants = state.variants := by
  obtain ⟨brands, brandId, categories, categoryId, products, -, -, written, rfl⟩ := openGroup_cases ran
  refine ⟨fun other there apart => ?_, rfl⟩
  obtain ⟨current, -, -, rfl, rfl⟩ | ⟨-, -, -, inserted⟩ := writeProduct_cases written
  next =>
    have different : other.id ≠ current.id := apart
    exact List.mem_map.2 ⟨other, there, Table.rewrite_other (by simpa using different)⟩
  next =>
    rw [(Table.insert?_rows inserted).1]
    exact List.mem_append_left _ there

theorem opened_slugs {state : CatalogState} {first : CatalogImportRowInput} {catalog : CatalogState}
    {product : Product}
    (slugs : forall one, one ∈ state.products.rows -> forall two, two ∈ state.products.rows ->
      Not (one.id ∈ before.products.rows.map Product.id) -> one.slug = two.slug -> one = two)
    (ran : openGroup unicode ids options now state first = .ok (catalog, product)) :
    forall one, one ∈ catalog.products.rows -> forall two, two ∈ catalog.products.rows ->
      Not (one.id ∈ before.products.rows.map Product.id) -> one.slug = two.slug -> one = two := by
  obtain ⟨brands, brandId, categories, categoryId, products, -, -, written, rfl⟩ := openGroup_cases ran
  intro one first_there two second_there fresh same
  obtain ⟨current, -, -, rfl, rfl⟩ | ⟨-, ⟨id, rfl⟩, free, inserted⟩ := writeProduct_cases written
  next =>
    obtain ⟨left, present, rfl⟩ := List.mem_map.1 first_there
    obtain ⟨right, also, rfl⟩ := List.mem_map.1 second_there
    have slug := fun row => @Table.rewrite_field _ _ Product.slug
      (fun row => decide (row.id = current.id)) (rewrittenProduct brandId categoryId first) (fun _ => rfl) row
    have key := fun row => @Table.rewrite_field _ _ Product.id
      (fun row => decide (row.id = current.id)) (rewrittenProduct brandId categoryId first) (fun _ => rfl) row
    rw [key] at fresh
    rw [slug, slug] at same
    rw [slugs left present right also fresh same]
  next =>
    rw [(Table.insert?_rows inserted).1, List.mem_append, List.mem_singleton] at first_there second_there
    rcases first_there with left | rfl
    next =>
      rcases second_there with right | rfl
      next => exact slugs one left two right fresh same
      next => exact absurd same (free one left)
    next =>
      rcases second_there with right | rfl
      next => exact absurd same.symm (free two right)
      next => rfl

theorem Recorded.opens {applying : Applying} {group : ProductGroup} {rest : List ProductGroup}
    {catalog : CatalogState} {product : Product} {left : List ValidRow}
    {done : List (ValidRow × CatalogImportRow)}
    (consistent : Consistent (all.map ValidRow.input)) (within : forall row, row ∈ group.rows -> row ∈ all)
    (recorded : Recorded unicode before options.source all applying left done)
    (waiting : Waiting before options.source applying (group :: rest) (done.map Prod.fst))
    (ran : openGroup unicode ids options now applying.catalog group.first.input = .ok (catalog, product)) :
    Recorded unicode before options.source all { applying with catalog } left done /\
      Working unicode before options.source catalog product group.rows := by
  have moved := openGroup_progress ran
  have progress := recorded.progress.trans moved
  obtain ⟨there, about, carries⟩ := opened_product recorded.progress (waiting.linked group (by simp)) ran
  obtain ⟨others, variants⟩ := opened_others ran
  have fields : forall row, row ∈ group.rows ->
      productFields group.first.input = productFields row.input := fun row member =>
    consistent _ (List.mem_map_of_mem (within group.first (by simp [ProductGroup.rows]))) _
      (List.mem_map_of_mem (within row member)) (waiting.alike group (by simp) row member).symm
  have slugOf : forall row, row ∈ group.rows -> group.first.input.slug = row.input.slug :=
    fun row member => congrArg ProductFields.slug (fields row member)
  have products : forall pair, pair ∈ done -> exists id, pair.2.productId = some id /\
      ProductOf before options.source catalog pair.1.input id := fun pair member => by
    obtain ⟨id, noted, known⟩ := recorded.product pair member
    exact ⟨id, noted, known.later moved⟩
  refine ⟨{
    progress
    order := recorded.order
    rows := recorded.rows
    linked := fun row member => ?_
    slugs := opened_slugs recorded.slugs ran
    made := variants ▸ recorded.made
    applied := recorded.applied
    product := products
    variant := fun pair member => ?_
    written := fun separate pair member => ?_ }, {
    there
    about := fun row member =>
      ProductOf.alike (waiting.alike group (by simp) row member).symm (slugOf row member) about
    carries := fun row member => Carries.alike (fields row member) carries }⟩
  next =>
    rw [← recorded.linked row member]
    obtain ⟨brands, brandId, categories, categoryId, made, -, -, -, rfl⟩ := openGroup_cases ran
    unfold linkedVariant
    rw [linkProduct_other (by simp)]
  next =>
    obtain ⟨id, noted, known⟩ := recorded.variant pair member
    exact ⟨id, noted, known.later moved⟩
  next =>
    obtain ⟨owner, variant, facts⟩ := recorded.written separate pair member
    obtain ⟨id, noted, known⟩ := products pair member
    obtain rfl := Option.some.inj (facts.productId.symm.trans noted)
    refine ⟨owner, variant, { facts with
      productThere := others owner facts.productThere fun same => ?_
      variantThere := variants ▸ facts.variantThere
      carries := facts.carries.later moved }⟩
    have first : group.first ∈ all := within group.first (by simp [ProductGroup.rows])
    have behind : pair.1 ∈ all := by
      rw [← recorded.order]
      exact List.mem_append_left _ (List.mem_map_of_mem member)
    have keys := separate.products pair.1 behind group.first first (known.target (same ▸ about))
    refine waiting.apart pair.1 (List.mem_map_of_mem member) ?_
    rw [keys]
    exact List.mem_cons_self

-- The variant a row writes, by the rules of the row.
theorem written_variant {applying next : Applying} {product : Product} {row : ValidRow}
    {left : List ValidRow} {done : List (ValidRow × CatalogImportRow)} (links : LinksResolve before)
    (skus : (all.map fun row => row.input.sku).Nodup)
    (recorded : Recorded unicode before options.source all applying (row :: left) done)
    (ran : applyRow unicode ids options now product applying row = .ok next) :
    exists variant applied, variant ∈ next.catalog.variants.rows /\
      next.rows = applying.rows ++ [applied] /\ AppliedAs row applied /\
      applied.productId = some product.id /\ applied.variantId = some variant.id /\
      VariantOf before options.source next.catalog row.input variant.id /\
      variant.productId = product.id /\ variant.nameFr = row.input.variantNameFr /\
      variant.nameAr = row.input.variantNameAr /\
      (forall other, other ∈ applying.catalog.variants.rows -> other.id ≠ variant.id ->
        other ∈ next.catalog.variants.rows) /\
      (forall other, other ∈ next.catalog.variants.rows ->
        (exists old, old ∈ applying.catalog.variants.rows /\ other.id = old.id /\ other.sku = old.sku) \/
          other.sku = row.input.sku) := by
  obtain ⟨flavors, flavorId, variants, variant, created, written, rfl⟩ := applyRow_cases ran
  have linked := recorded.linked row (by simp)
  refine ⟨variant, appliedRow product variant created row, ?_⟩
  -- A variant that only the import has made has the SKU of a row behind this one.
  have unseen : forall found, findVariant applying.catalog options.source row.input = some found ->
      findVariant before options.source row.input = none ->
        found.id ∈ before.variants.rows.map ProductVariant.id -> False := by
    intro found seen missed member
    obtain ⟨old, present, same⟩ := List.mem_map.1 member
    have kept := recorded.progress.variants.at_key (fun _ _ same => same.id) present (findVariant_mem seen)
      same.symm
    rw [findVariant_choice] at missed seen
    rw [show linkedVariant applying.catalog options.source (stableIdentity row.input) =
      linkedVariant before options.source (stableIdentity row.input) from linked] at seen
    have chosen := List.find?_some seen
    rw [variantChoice_same _ _ _ _ kept] at chosen
    exact absurd chosen (List.find?_eq_none.1 missed old present)
  have settled : forall found, findVariant applying.catalog options.source row.input = some found ->
      exists old, findVariant before options.source row.input = some old /\ SameVariant old found := by
    intro found seen
    rcases findVariant_origin recorded.progress linked seen with known | ⟨missed, -⟩
    next => exact known
    next =>
      exfalso
      rcases recorded.made found (findVariant_mem seen) with member | ⟨pair, behind, sku⟩
      next => exact unseen found seen missed member
      next =>
        rw [findVariant_choice, show linkedVariant applying.catalog options.source (stableIdentity row.input)
          = linkedVariant before options.source (stableIdentity row.input) from linked] at seen
        have chosen := List.find?_some seen
        unfold variantChoice at chosen
        cases link : linkedVariant before options.source (stableIdentity row.input) with
        | some id =>
          rw [link] at chosen
          simp only [Bool.and_eq_true, beq_iff_eq] at chosen
          obtain ⟨record, stored, target⟩ := Option.bind_eq_some_iff.1 link
          have member := links record (Table.find?_mem stored) id target
          refine unseen found ?_ missed (chosen.1 ▸ member)
          rw [findVariant_choice, show linkedVariant applying.catalog options.source
            (stableIdentity row.input) = _ from linked]
          exact seen
        | none =>
          rw [link] at chosen
          simp only [Bool.and_eq_true, beq_iff_eq] at chosen
          have distinct := skus
          rw [← recorded.order, List.map_append, List.nodup_append] at distinct
          refine distinct.2.2 pair.1.input.sku ?_ row.input.sku (by simp) (sku.symm.trans chosen.1)
          exact List.mem_map.2 ⟨pair.1, List.mem_map_of_mem behind, rfl⟩
  obtain ⟨-, ⟨missed, -, ⟨id, rfl⟩, inserted⟩ | ⟨found, seen, -, owned, rfl, rfl⟩⟩ := writeVariant_cases written
  next =>
    have there := Table.find?_mem (Table.find?_inserted inserted)
    refine ⟨there, rfl, ⟨rfl, rfl⟩, rfl, rfl, .inr ⟨?_, fun member => ?_, _, there, rfl, rfl⟩, rfl, rfl, rfl,
      fun other present _ => ?_, fun other present => ?_⟩
    next =>
      cases known : findVariant before options.source row.input with
      | none => rfl
      | some old =>
        obtain ⟨now, found, -⟩ := findVariant_later recorded.progress linked known
        rw [missed] at found
        cases found
    next => exact Undo.insert?_id inserted (recorded.progress.variantIds member)
    next =>
      rw [(Table.insert?_rows inserted).1]
      exact List.mem_append_left _ present
    next =>
      rw [(Table.insert?_rows inserted).1, List.mem_append, List.mem_singleton] at present
      rcases present with known | rfl
      next => exact .inl ⟨other, known, rfl, rfl⟩
      next => exact .inr rfl
  next =>
    obtain ⟨old, known, same⟩ := settled found seen
    refine ⟨List.mem_map.2 ⟨found, findVariant_mem seen, Table.rewrite_chosen (by simp)⟩, rfl, ⟨rfl, rfl⟩, rfl,
      rfl, .inl ⟨old, known, same.id⟩, owned, rfl, rfl, fun other present apart => ?_,
      fun other present => ?_⟩
    next =>
      have different : other.id ≠ found.id := apart
      exact List.mem_map.2 ⟨other, present, Table.rewrite_other (by simpa using different)⟩
    next =>
      obtain ⟨was, there, ⟨-, rfl⟩ | ⟨-, rfl⟩⟩ := Table.rewrite_mem present
      next => exact .inl ⟨was, there, rfl, rfl⟩
      next => exact .inl ⟨other, there, rfl, rfl⟩

theorem applyRow_frame {applying next : Applying} {product : Product} {row : ValidRow}
    (ran : applyRow unicode ids options now product applying row = .ok next) :
    next.catalog.products = applying.catalog.products /\
      (forall key, linkedProduct next.catalog options.source key =
        linkedProduct applying.catalog options.source key) /\
      forall other, other ≠ identity row ->
        linkedVariant next.catalog options.source other =
          linkedVariant applying.catalog options.source other := by
  obtain ⟨flavors, flavorId, variants, variant, created, written, rfl⟩ := applyRow_cases ran
  refine ⟨rfl, fun key => ?_, fun other apart => ?_⟩
  next =>
    unfold linkedProduct
    rw [linkVariant_other (by simp)]
  next =>
    have different : other ≠ stableIdentity row.input := apart
    unfold linkedVariant
    rw [linkVariant_other (by simp [different])]

theorem Recorded.each {applying next : Applying} {product : Product} {row : ValidRow}
    {left rows : List ValidRow} {done : List (ValidRow × CatalogImportRow)} (links : LinksResolve before)
    (identities : (all.map identity).Nodup) (skus : (all.map fun row => row.input.sku).Nodup)
    (recorded : Recorded unicode before options.source all applying (row :: left) done)
    (working : Working unicode before options.source applying.catalog product (row :: rows))
    (ran : applyRow unicode ids options now product applying row = .ok next) :
    exists applied, Recorded unicode before options.source all next left (done ++ [(row, applied)]) /\
      Working unicode before options.source next.catalog product rows := by
  have moved := applyRow_progress ran
  obtain ⟨variant, applied, there, noted, as, productId, variantId, about, owner, nameFr, nameAr, others,
    origin⟩ := written_variant links skus recorded ran
  obtain ⟨products, -, linked⟩ := applyRow_frame ran
  have here : Written unicode next.catalog row applied product variant := {
    productThere := products ▸ working.there
    variantThere := there
    productId, variantId, owner, nameFr, nameAr
    carries := (working.carries row (by simp)).later moved }
  have order : (done ++ [(row, applied)]).map Prod.fst ++ left = all := by
    rw [← recorded.order]
    simp
  have apart : forall other, other ∈ done.map Prod.fst \/ other ∈ left -> identity other ≠ identity row := by
    have distinct := identities
    rw [← recorded.order, List.map_append, List.map_cons, List.nodup_append] at distinct
    obtain ⟨-, later, earlier⟩ := distinct
    rw [List.nodup_cons] at later
    rintro other (behind | ahead) same
    next => exact earlier _ (List.mem_map_of_mem behind) (identity row) (by simp) same
    next => exact later.1 (same ▸ List.mem_map_of_mem ahead)
  refine ⟨applied, {
    progress := recorded.progress.trans moved
    order
    rows := by rw [noted, recorded.rows]; simp
    linked := fun other member => ?_
    slugs := products ▸ recorded.slugs
    made := fun other member => ?_
    applied := fun pair member => ?_
    product := fun pair member => ?_
    variant := fun pair member => ?_
    written := fun separate pair member => ?_ }, {
    there := products ▸ working.there
    about := fun other member => (working.about other (by simp [member])).later moved
    carries := fun other member => (working.carries other (by simp [member])).later moved }⟩
  next => rw [linked _ (apart other (.inr member)), recorded.linked other (by simp [member])]
  next =>
    rcases origin other member with ⟨old, present, same, sku⟩ | sku
    next =>
      rcases recorded.made old present with known | ⟨pair, behind, named⟩
      next => exact .inl (same ▸ known)
      next => exact .inr ⟨pair, by simp [behind], sku.trans named⟩
    next => exact .inr ⟨(row, applied), by simp, sku⟩
  next =>
    rcases List.mem_append.1 member with behind | last
    next => exact recorded.applied pair behind
    next => rw [List.mem_singleton.1 last]; exact as
  next =>
    rcases List.mem_append.1 member with behind | last
    next =>
      obtain ⟨id, noted, known⟩ := recorded.product pair behind
      exact ⟨id, noted, known.later moved⟩
    next =>
      rw [List.mem_singleton.1 last]
      exact ⟨product.id, productId, (working.about row (by simp)).later moved⟩
  next =>
    rcases List.mem_append.1 member with behind | last
    next =>
      obtain ⟨id, noted, known⟩ := recorded.variant pair behind
      exact ⟨id, noted, known.later moved⟩
    next =>
      rw [List.mem_singleton.1 last]
      exact ⟨variant.id, variantId, about⟩
  next =>
    rcases List.mem_append.1 member with behind | last
    next =>
      obtain ⟨owner, second, facts⟩ := recorded.written separate pair behind
      refine ⟨owner, second, { facts with
        productThere := products ▸ facts.productThere
        variantThere := others second facts.variantThere fun same => ?_
        carries := facts.carries.later moved }⟩
      obtain ⟨id, noted, known⟩ := recorded.variant pair behind
      obtain rfl := Option.some.inj (facts.variantId.symm.trans noted)
      have target := (known.later moved).target (same ▸ about)
      have left : pair.1 ∈ all := by
        rw [← order]
        exact List.mem_append_left _ (List.mem_map_of_mem member)
      have right : row ∈ all := by
        rw [← recorded.order]
        simp
      have equal := separate.variants pair.1 left row right target
      exact apart pair.1 (.inl (List.mem_map_of_mem behind)) (congrArg identity equal)
    next =>
      rw [List.mem_singleton.1 last]
      exact ⟨product, variant, here⟩

end Recording

section Exactness

variable {unicode : Unicode} {ids : ImportIds} {options : CatalogImportOptions} {now : Int}
variable {before : CatalogState} {all : List ValidRow}

variable {source : CatalogImportSource} {finished : Applying} {done : List (ValidRow × CatalogImportRow)}

-- The pair of a row and an applied row of the same identity.
theorem Recorded.paired (recorded : Recorded unicode before source all finished [] done)
    (identities : (all.map identity).Nodup) {row : ValidRow} (member : row ∈ all)
    {applied : CatalogImportRow} (there : applied ∈ finished.rows) (as : AppliedAs row applied) :
    (row, applied) ∈ done := by
  rw [recorded.rows] at there
  obtain ⟨pair, present, rfl⟩ := List.mem_map.1 there
  have known : pair.1 ∈ all := by
    rw [← recorded.order]
    exact List.mem_append_left _ (List.mem_map_of_mem present)
  have same : identity pair.1 = identity row :=
    (recorded.applied pair present).identity.symm.trans as.identity
  obtain rfl := List.inj_on_of_nodup_map identities known member same
  exact present

theorem Recorded.pair_of (recorded : Recorded unicode before source all finished [] done) {row : ValidRow}
    (member : row ∈ all) : exists applied, (row, applied) ∈ done := by
  rw [← recorded.order, List.append_nil] at member
  obtain ⟨pair, present, rfl⟩ := List.mem_map.1 member
  exact ⟨pair.2, present⟩

theorem Recorded.faithful (recorded : Recorded unicode before source all finished [] done)
    (identities : (all.map identity).Nodup) (consistent : Consistent (all.map ValidRow.input))
    (separate : Separate before source all) :
    Faithful unicode finished.catalog all finished.rows := by
  have order : done.map Prod.fst = all := by simpa using recorded.order
  have known : forall pair, pair ∈ done -> pair.1 ∈ all := fun pair there =>
    order ▸ List.mem_map_of_mem there
  refine {
    complete := fun row member => ?_
    accounted := fun one there => ?_
    products := fun left first right second one there asLeft other present asRight => ?_
    variants := ?_
    written := fun row member one there as => ?_ }
  next =>
    obtain ⟨applied, present⟩ := recorded.pair_of member
    exact ⟨applied, recorded.rows ▸ List.mem_map_of_mem present, recorded.applied _ present⟩
  next =>
    rw [recorded.rows] at there
    obtain ⟨pair, present, rfl⟩ := List.mem_map.1 there
    exact ⟨pair.1, known pair present, recorded.applied pair present⟩
  next =>
    obtain ⟨id, noted, about⟩ := recorded.product _ (recorded.paired identities first there asLeft)
    obtain ⟨other_id, also, second_about⟩ :=
      recorded.product _ (recorded.paired identities second present asRight)
    constructor
    next =>
      intro same
      obtain rfl := Option.some.inj ((noted.symm.trans same).trans also)
      exact separate.products left first right second (about.target second_about)
    next =>
      intro same
      have fields := consistent _ (List.mem_map_of_mem first) _ (List.mem_map_of_mem second) same
      have about_same := ProductOf.alike same (congrArg ProductFields.slug fields) about
      rw [noted, also, about_same.same recorded.slugs second_about rfl]
  next =>
    rw [recorded.rows, List.map_map]
    have distinct : done.Nodup := by
      refine List.Nodup.of_map Prod.fst ?_
      rw [order]
      exact identities.of_map
    refine List.Nodup.map_on (fun one there two present same => ?_) distinct
    obtain ⟨id, noted, about⟩ := recorded.variant one there
    obtain ⟨other_id, also, second_about⟩ := recorded.variant two present
    obtain rfl := Option.some.inj ((noted.symm.trans same).trans also)
    have target := about.target second_about
    have rows := separate.variants one.1 (known one there) two.1 (known two present) target
    have firsts : (done.map Prod.fst).Nodup := by
      rw [order]
      exact identities.of_map
    exact List.inj_on_of_nodup_map firsts there present rows
  next =>
    have paired := recorded.paired identities member there as
    obtain ⟨product, variant, facts⟩ := recorded.written separate _ paired
    refine ⟨product, variant, facts, ?_⟩
    obtain ⟨id, noted, about⟩ := recorded.variant _ paired
    obtain rfl := Option.some.inj (facts.variantId.symm.trans noted)
    rcases about with ⟨old, found, same⟩ | ⟨-, -, second, present, same, sku⟩
    next =>
      obtain ⟨later, now, kept⟩ := recorded.progress.variants.later (findVariant_mem found)
      rw [finished.catalog.variants.same_of_key facts.variantThere now (same.trans kept.id.symm), kept.sku]
      exact separate.skus row member old found
    next => rw [finished.catalog.variants.same_of_key facts.variantThere present same.symm, sku]

theorem Recorded.separate (recorded : Recorded unicode before source all finished [] done)
    (skus : (all.map fun row => row.input.sku).Nodup)
    (faithful : Faithful unicode finished.catalog all finished.rows) : Separate before source all where
  products left first right second target := by
    obtain ⟨one, there⟩ := recorded.pair_of first
    obtain ⟨other, present⟩ := recorded.pair_of second
    obtain ⟨id, noted, about⟩ := recorded.product _ there
    obtain ⟨other_id, also, second_about⟩ := recorded.product _ present
    have same := about.same recorded.slugs second_about target
    refine (faithful.products left first right second one ?_ (recorded.applied _ there) other ?_
      (recorded.applied _ present)).1 (noted.trans ((congrArg some same).trans also.symm))
    next => exact recorded.rows ▸ List.mem_map_of_mem there
    next => exact recorded.rows ▸ List.mem_map_of_mem present
  variants left first right second target := by
    obtain ⟨one, there⟩ := recorded.pair_of first
    obtain ⟨other, present⟩ := recorded.pair_of second
    obtain ⟨id, noted, about⟩ := recorded.variant _ there
    obtain ⟨other_id, also, second_about⟩ := recorded.variant _ present
    unfold variantTarget at target
    rcases about with ⟨old, found, rfl⟩ | ⟨missed, -, -⟩
    next =>
      rw [found] at target
      rcases second_about with ⟨again, known, rfl⟩ | ⟨lost, -, -⟩
      next =>
        rw [known] at target
        have distinct := faithful.variants
        rw [recorded.rows, List.map_map] at distinct
        have same := List.inj_on_of_nodup_map distinct there present
          (noted.trans ((congrArg some (Target.known.inj target)).trans also.symm))
        exact congrArg Prod.fst same
      next => rw [lost] at target; cases target
    next =>
      rw [missed] at target
      rcases second_about with ⟨again, known, rfl⟩ | ⟨lost, -, -⟩
      next => rw [known] at target; cases target
      next =>
        rw [lost] at target
        exact List.inj_on_of_nodup_map skus first second (Target.new.inj target)
  skus row member variant found := by
    obtain ⟨one, there⟩ := recorded.pair_of member
    obtain ⟨id, noted, ⟨old, known, rfl⟩ | ⟨missed, -, -⟩⟩ := recorded.variant _ there
    next =>
      rw [found] at known
      obtain rfl := Option.some.inj known
      obtain ⟨product, final, facts, sku⟩ := faithful.written row member one
        (recorded.rows ▸ List.mem_map_of_mem there) (recorded.applied _ there)
      obtain ⟨later, now, kept⟩ := recorded.progress.variants.later (findVariant_mem found)
      have same : final.id = variant.id := Option.some.inj (facts.variantId.symm.trans noted)
      rw [finished.catalog.variants.same_of_key facts.variantThere now (same.trans kept.id.symm),
        kept.sku] at sku
      exact sku
    next => rw [found] at missed; cases missed

end Exactness

section Examples

open VapeCommerce.Catalog.Undo (ascii podShop podRow podUpload podIds parsedRow previewed)

end Examples

end VapeCommerce.Catalog.Fidelity
