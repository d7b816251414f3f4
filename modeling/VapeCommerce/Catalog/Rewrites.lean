import VapeCommerce.Catalog.Fidelity

set_option autoImplicit false

-- What becomes of the catalogue's own variants and products, row by row of an application.
namespace VapeCommerce.Catalog.Rewrites

open VapeCommerce.Lib VapeCommerce.Lib.Outcome VapeCommerce.Schema VapeCommerce.Catalog.Import
open VapeCommerce.Catalog.Applied VapeCommerce.Catalog.Fidelity

-- The row is about this variant of the catalogue.
def about (before : CatalogState) (source : CatalogImportSource) (id : Id) (row : ValidRow) : Bool :=
  (findVariant before source row.input).any fun variant => variant.id == id

theorem about_iff {before : CatalogState} {source : CatalogImportSource} {id : Id} {row : ValidRow} :
    about before source id row = true <->
      exists variant, findVariant before source row.input = some variant /\ variant.id = id := by
  simp [about, Option.any_eq_true]

section Given

variable {A : Type}

-- The last value that rows give a variant in one of their columns.
def lastGiven (before : CatalogState) (source : CatalogImportSource)
    (field : CatalogImportRowInput -> Option A) (rows : List ValidRow) (id : Id) : Option A :=
  ((rows.filter (about before source id)).filterMap fun row => field row.input).getLast?

end Given

section Variants

variable {unicode : Unicode} {ids : ImportIds} {options : CatalogImportOptions} {now : Int}
variable {before : CatalogState} {all : List ValidRow}

/-- What is said of a variant and its state now follows the rows: a row about the variant rewrites it,
the others leave it. -/
structure Follows (before : CatalogState) (options : CatalogImportOptions)
    (keep : List ValidRow -> ProductVariant -> ProductVariant -> Prop) : Prop where
  start : forall old, keep [] old old
  hit : forall done row old now flavorId, keep done old now ->
    about before options.source old.id row = true ->
    Not (options.overrideStatus = true /\ row.input.publicationStatus = some .published) ->
      keep (done ++ [row]) old (rewrittenVariant flavorId options row.input now)
  miss : forall done row old now, keep done old now -> about before options.source old.id row = false ->
    keep (done ++ [row]) old now

structure Followed (before : CatalogState) (options : CatalogImportOptions)
    (keep : List ValidRow -> ProductVariant -> ProductVariant -> Prop) (all : List ValidRow)
    (applying : Applying) (left done : List ValidRow) : Prop where
  progress : Progress before applying.catalog
  order : done ++ left = all
  linked : forall row, row ∈ left -> linkedVariant applying.catalog options.source (identity row) =
    linkedVariant before options.source (identity row)
  kept : forall variant, variant ∈ applying.catalog.variants.rows ->
    forall old, old ∈ before.variants.rows -> old.id = variant.id -> keep done old variant

-- A variant of the catalogue that a row finds now is the one it would have found at the start.
theorem findVariant_known {state : CatalogState} {source : CatalogImportSource}
    {row : CatalogImportRowInput} (progress : Progress before state)
    (linked : linkedVariant state source (stableIdentity row) =
      linkedVariant before source (stableIdentity row))
    {variant old : ProductVariant} (found : findVariant state source row = some variant)
    (member : old ∈ before.variants.rows) (same : old.id = variant.id) :
    findVariant before source row = some old := by
  rcases findVariant_origin progress linked found with ⟨known, seen, kept⟩ | ⟨missed, -⟩
  next => rw [seen, before.variants.same_of_key member (findVariant_mem seen) (same.trans kept.id)]
  next =>
    have kept := progress.variants.at_key (fun _ _ same => same.id) member (findVariant_mem found) same.symm
    rw [findVariant_choice, linked] at found
    rw [findVariant_choice] at missed
    have chosen := List.find?_some found
    rw [variantChoice_same _ _ _ _ kept] at chosen
    exact absurd chosen (List.find?_eq_none.1 missed old member)

variable {keep : List ValidRow -> ProductVariant -> ProductVariant -> Prop}

theorem written_kept {applying : Applying} {row : ValidRow} {left done : List ValidRow}
    {productId : Id} {flavorId : Option Id} {variants : Table ProductVariant.id} {made : ProductVariant}
    {created : Bool} (follows : Follows before options keep)
    (sofar : Followed before options keep all applying (row :: left) done)
    (written : writeVariant applying.catalog ids options productId flavorId row =
      .ok (variants, made, created)) :
    forall variant, variant ∈ variants.rows -> forall old, old ∈ before.variants.rows ->
      old.id = variant.id -> keep (done ++ [row]) old variant := by
  have linked := sofar.linked row (by simp)
  intro variant there old member same
  obtain ⟨refused, ⟨missed, -, ⟨id, rfl⟩, inserted⟩ | ⟨found, seen, -, -, rfl, -⟩⟩ :=
    writeVariant_cases written
  next =>
    have other : about before options.source old.id row = false := by
      refine Bool.eq_false_iff.2 fun named => ?_
      obtain ⟨known, first, -⟩ := about_iff.1 named
      obtain ⟨later, second, -⟩ := findVariant_later sofar.progress linked first
      rw [missed] at second
      cases second
    rw [(Table.insert?_rows inserted).1, List.mem_append, List.mem_singleton] at there
    rcases there with present | rfl
    next => exact follows.miss done row old variant (sofar.kept variant present old member same) other
    next =>
      have known := sofar.progress.variantIds (List.mem_map_of_mem member)
      exact absurd (same ▸ known) (Undo.insert?_id inserted)
  next =>
    obtain ⟨was, present, rfl⟩ := List.mem_map.1 there
    rw [Table.rewrite_field (rewrittenVariant_key flavorId options row.input)] at same
    have kept := sofar.kept was present old member same
    by_cases here : was.id = found.id
    next =>
      obtain rfl := applying.catalog.variants.same_of_key present (findVariant_mem seen) here
      have named : about before options.source old.id row = true :=
        about_iff.2 ⟨old, findVariant_known sofar.progress linked seen member same, rfl⟩
      rw [Table.rewrite_chosen (by simp)]
      exact follows.hit done row old was flavorId kept named refused
    next =>
      have other : about before options.source old.id row = false := by
        refine Bool.eq_false_iff.2 fun named => here ?_
        obtain ⟨known, first, sameId⟩ := about_iff.1 named
        obtain ⟨later, second, alike⟩ := findVariant_later sofar.progress linked first
        rw [seen] at second
        obtain rfl := Option.some.inj second
        exact same.symm.trans (sameId.symm.trans alike.id.symm)
      rw [Table.rewrite_other (by simpa using here)]
      exact follows.miss done row old was kept other

theorem Followed.each {applying next : Applying} {product : Product} {row : ValidRow}
    {left done : List ValidRow} (follows : Follows before options keep)
    (identities : (all.map identity).Nodup)
    (sofar : Followed before options keep all applying (row :: left) done)
    (ran : applyRow unicode ids options now product applying row = .ok next) :
    Followed before options keep all next left (done ++ [row]) := by
  have progress := sofar.progress.trans (applyRow_progress ran)
  obtain ⟨flavors, flavorId, variants, made, created, written, rfl⟩ := applyRow_cases ran
  refine {
    progress
    order := by simpa using sofar.order
    linked := fun other member => ?_
    kept := written_kept follows sofar written }
  rw [← sofar.order, List.map_append, List.map_cons, List.nodup_append, List.nodup_cons] at identities
  have apart : identity other ≠ identity row := fun same =>
    identities.2.1.1 (same ▸ List.mem_map_of_mem member)
  rw [← sofar.linked other (by simp [member])]
  unfold linkedVariant
  rw [linkVariant_other fun same => apart (congrArg (fun key => key.2.2) same)]

theorem Followed.opens {applying : Applying} {first : CatalogImportRowInput} {catalog : CatalogState}
    {product : Product} {left done : List ValidRow}
    (sofar : Followed before options keep all applying left done)
    (ran : openGroup unicode ids options now applying.catalog first = .ok (catalog, product)) :
    Followed before options keep all { applying with catalog } left done := by
  have progress := sofar.progress.trans (openGroup_progress ran)
  obtain ⟨brands, brandId, categories, categoryId, products, -, -, -, rfl⟩ := openGroup_cases ran
  refine {
    progress
    order := sofar.order
    linked := fun row member => ?_
    kept := sofar.kept }
  rw [← sofar.linked row member]
  unfold linkedVariant
  rw [linkProduct_other (by simp)]

end Variants

section Products

variable {unicode : Unicode} {ids : ImportIds} {options : CatalogImportOptions} {now : Int}
variable {before : CatalogState} {all : List ProductGroup}

-- The group is about this product of the catalogue, and files it anew.
def files (before : CatalogState) (source : CatalogImportSource) (id : Id) (group : ProductGroup) : Bool :=
  (findProduct before source group.first.input).any fun product => product.id == id

def filing (before : CatalogState) (source : CatalogImportSource) (groups : List ProductGroup) (id : Id) :
    Option ProductGroup :=
  (groups.filter (files before source id)).getLast?

theorem filing_append (before : CatalogState) (source : CatalogImportSource) (groups : List ProductGroup)
    (id : Id) (group : ProductGroup) : filing before source (groups ++ [group]) id =
      if files before source id group then some group else filing before source groups id := by
  cases named : files before source id group <;> simp [filing, List.filter_append, named]

-- A row's category stood in the catalogue, or the import has made it.
def CategoryFrom (before state : CatalogState) (row : CatalogImportRowInput) (id : Id) : Prop :=
  (exists category, categoryOf before row = some category /\ category.id = id) \/
    (categoryOf before row = none /\ exists category, category ∈ state.categories.rows /\
      category.id = id /\ FreshCategory category)

def BrandFrom (unicode : Unicode) (before state : CatalogState) (row : CatalogImportRowInput) (id : Id) :
    Prop :=
  (exists brand, brandOf unicode before row = some brand /\ brand.id = id) \/
    (brandOf unicode before row = none /\ exists brand, brand ∈ state.brands.rows /\
      brand.id = id /\ FreshBrand brand)

theorem CategoryFrom.later {state next : CatalogState} {row : CatalogImportRowInput} {id : Id}
    (progress : Progress state next) (origin : CategoryFrom before state row id) :
    CategoryFrom before next row id := by
  rcases origin with known | ⟨missed, category, there, named, fresh⟩
  next => exact .inl known
  next =>
    obtain ⟨kept, present, rfl⟩ := progress.categories.later there
    exact .inr ⟨missed, kept, present, named, fresh⟩

theorem BrandFrom.later {state next : CatalogState} {row : CatalogImportRowInput} {id : Id}
    (progress : Progress state next) (origin : BrandFrom unicode before state row id) :
    BrandFrom unicode before next row id := by
  rcases origin with known | ⟨missed, brand, there, named, fresh⟩
  next => exact .inl known
  next =>
    obtain ⟨kept, present, rfl⟩ := progress.brands.later there
    exact .inr ⟨missed, kept, present, named, fresh⟩

theorem categoryOf_origin {state : CatalogState} {row : CatalogImportRowInput} {category : Category}
    (progress : Progress before state) (found : categoryOf state row = some category) :
    CategoryFrom before state row category.id := by
  rcases progress.categories.find?_origin (fun _ _ same => congrArg _ same) found with
    ⟨old, seen, rfl⟩ | ⟨missed, fresh⟩
  next => exact .inl ⟨category, seen, rfl⟩
  next => exact .inr ⟨missed, category, List.mem_of_find?_eq_some found, rfl, fresh⟩

theorem brandOf_origin {state : CatalogState} {row : CatalogImportRowInput} {brand : Brand}
    (progress : Progress before state) (found : brandOf unicode state row = some brand) :
    BrandFrom unicode before state row brand.id := by
  simp only [brandOf, Option.bind_eq_some_iff] at found
  obtain ⟨slug, slugged, found⟩ := found
  rcases progress.brands.find?_origin (fun _ _ same => congrArg _ same) found with
    ⟨old, seen, rfl⟩ | ⟨missed, fresh⟩
  next => exact .inl ⟨brand, by simpa [brandOf, slugged] using seen, rfl⟩
  next =>
    exact .inr ⟨by simpa [brandOf, slugged] using missed, brand, List.mem_of_find?_eq_some found, rfl, fresh⟩

-- What a row does not find now it would not have found at the start.
theorem categoryOf_missed {state : CatalogState} {row : CatalogImportRowInput}
    (progress : Progress before state) (missed : categoryOf state row = none) :
    categoryOf before row = none := by
  cases known : categoryOf before row with
  | none => rfl
  | some category =>
    obtain ⟨later, seen, -⟩ :=
      progress.categories.find? (fun _ _ same => congrArg _ same) known
    exact absurd (missed.symm.trans seen) (by simp)

theorem brandOf_missed {state : CatalogState} {row : CatalogImportRowInput}
    (progress : Progress before state) (missed : brandOf unicode state row = none) :
    brandOf unicode before row = none := by
  cases known : brandOf unicode before row with
  | none => rfl
  | some brand =>
    simp only [brandOf, Option.bind_eq_some_iff] at known
    obtain ⟨slug, slugged, found⟩ := known
    obtain ⟨later, seen, -⟩ := progress.brands.find? (fun _ _ same => congrArg _ same) found
    simp only [brandOf, slugged, Option.bind_some] at missed
    exact absurd (missed.symm.trans seen) (by simp)

-- Where a product of the catalogue is filed once some groups are behind: as the last group about it says.
structure Filed (unicode : Unicode) (before : CatalogState) (source : CatalogImportSource)
    (state : CatalogState) (done : List ProductGroup) (old product : Product) : Prop where
  unfiled : filing before source done old.id = none ->
    product.categoryId = old.categoryId /\ product.brandId = old.brandId
  category : forall group, filing before source done old.id = some group ->
    CategoryFrom before state group.first.input product.categoryId
  brand : forall group, filing before source done old.id = some group -> exists brandId,
    product.brandId = some brandId /\ BrandFrom unicode before state group.first.input brandId

theorem Filed.later {source : CatalogImportSource} {state next : CatalogState}
    {done : List ProductGroup} {old product : Product} (progress : Progress state next)
    (filed : Filed unicode before source state done old product) :
    Filed unicode before source next done old product where
  unfiled := filed.unfiled
  category group last := (filed.category group last).later progress
  brand group last := by
    obtain ⟨brandId, named, origin⟩ := filed.brand group last
    exact ⟨brandId, named, origin.later progress⟩

-- A group about other products.
theorem Filed.miss {source : CatalogImportSource} {state : CatalogState} {done : List ProductGroup}
    {old product : Product} {group : ProductGroup} (other : files before source old.id group = false)
    (filed : Filed unicode before source state done old product) :
    Filed unicode before source state (done ++ [group]) old product := by
  have same : filing before source (done ++ [group]) old.id = filing before source done old.id := by
    rw [filing_append, other]
    rfl
  exact {
    unfiled := fun last => filed.unfiled (same ▸ last)
    category := fun last named => filed.category last (same ▸ named)
    brand := fun last named => filed.brand last (same ▸ named) }

theorem Filed.hit {source : CatalogImportSource} {state : CatalogState} {done : List ProductGroup}
    {old product : Product} {group : ProductGroup} {brandId : Id}
    (about : files before source old.id group = true)
    (category : CategoryFrom before state group.first.input product.categoryId)
    (branded : product.brandId = some brandId)
    (brand : BrandFrom unicode before state group.first.input brandId) :
    Filed unicode before source state (done ++ [group]) old product := by
  have last : filing before source (done ++ [group]) old.id = some group := by
    rw [filing_append, about]
    rfl
  refine ⟨fun none => ?_, fun other named => ?_, fun other named => ?_⟩
  next =>
    rw [last] at none
    cases none
  next =>
    obtain rfl := Option.some.inj (last.symm.trans named)
    exact category
  next =>
    obtain rfl := Option.some.inj (last.symm.trans named)
    exact ⟨brandId, branded, brand⟩

structure Filing (unicode : Unicode) (before : CatalogState) (source : CatalogImportSource)
    (all : List ProductGroup) (applying : Applying) (left done : List ProductGroup) : Prop where
  progress : Progress before applying.catalog
  order : done ++ left = all
  linked : forall group, group ∈ left ->
    linkedProduct applying.catalog source group.first.input.productKey =
      linkedProduct before source group.first.input.productKey
  kept : forall product, product ∈ applying.catalog.products.rows ->
    forall old, old ∈ before.products.rows -> old.id = product.id ->
      Filed unicode before source applying.catalog done old product

-- A product of the catalogue that a row finds now is the one it would have found at the start.
theorem findProduct_known {state : CatalogState} {source : CatalogImportSource}
    {row : CatalogImportRowInput} (progress : Progress before state)
    (linked : linkedProduct state source row.productKey = linkedProduct before source row.productKey)
    {product old : Product} (found : findProduct state source row = some product)
    (member : old ∈ before.products.rows) (same : old.id = product.id) :
    findProduct before source row = some old := by
  rcases findProduct_origin progress linked found with ⟨known, seen, kept⟩ | ⟨missed, -⟩
  next => rw [seen, before.products.same_of_key member (findProduct_mem seen) (same.trans kept.id)]
  next => exact absurd same (findProduct_new progress linked missed found member)

theorem files_iff {source : CatalogImportSource} {id : Id} {group : ProductGroup} :
    files before source id group = true <->
      exists product, findProduct before source group.first.input = some product /\ product.id = id := by
  simp [files, Option.any_eq_true]

theorem resolved_category {source : CatalogImportSource} {state : CatalogState}
    {row : CatalogImportRowInput} {categories : Table Category.id} {categoryId : Id}
    (progress : Progress before state)
    (ran : resolveCategory ids source now state row = .ok (categories, categoryId)) :
    CategoryFrom before { state with categories } row categoryId := by
  rcases resolveCategory_cases ran with ⟨category, found, rfl, rfl⟩ | ⟨missed, labels, inserted⟩
  next => exact categoryOf_origin progress found
  next =>
    refine .inr ⟨categoryOf_missed progress missed,
      wotofoCategory categoryId row.categorySlug labels now, ?_, rfl, rfl, rfl, rfl⟩
    rw [(Table.insert?_rows inserted).1]
    exact List.mem_append_right _ (by simp)

theorem resolved_brand {source : CatalogImportSource} {state : CatalogState}
    {row : CatalogImportRowInput} {brands : Table Brand.id} {brandId : Id}
    (progress : Progress before state)
    (ran : resolveBrand unicode ids source now state row = .ok (brands, brandId)) :
    BrandFrom unicode before { state with brands } row brandId := by
  rcases resolveBrand_cases ran with ⟨brand, found, rfl, rfl⟩ | ⟨missed, slug, -, inserted⟩
  next => exact brandOf_origin progress found
  next =>
    refine .inr ⟨brandOf_missed progress missed, wotofoBrand brandId row.brand slug now, ?_, rfl, rfl, rfl⟩
    rw [(Table.insert?_rows inserted).1]
    exact List.mem_append_right _ (by simp)

theorem Filing.opens {applying : Applying} {group : ProductGroup}
    {left done : List ProductGroup} {catalog : CatalogState} {product : Product}
    (keys : (productKeys all).Nodup)
    (sofar : Filing unicode before options.source all applying (group :: left) done)
    (ran : openGroup unicode ids options now applying.catalog group.first.input = .ok (catalog, product)) :
    Filing unicode before options.source all { applying with catalog } left (done ++ [group]) := by
  have moved := openGroup_progress ran
  obtain ⟨brands, brandId, categories, categoryId, products, branded, filed, written, rfl⟩ :=
    openGroup_cases ran
  have linked := sofar.linked group (by simp)
  have category := resolved_category sofar.progress filed
  have brand := resolved_brand sofar.progress branded
  refine {
    progress := sofar.progress.trans moved
    order := by simpa using sofar.order
    linked := fun other member => ?_
    kept := fun later there old member same => ?_ }
  next =>
    rw [← sofar.order, productKeys, List.map_append, List.map_cons, List.nodup_append,
      List.nodup_cons] at keys
    have apart : other.first.input.productKey ≠ group.first.input.productKey := fun same =>
      keys.2.1.1 (same ▸ List.mem_map_of_mem member)
    rw [← sofar.linked other (by simp [member])]
    unfold linkedProduct
    rw [linkProduct_other fun same => apart (congrArg (fun key => key.2.2) same)]
  next =>
    obtain ⟨current, found, -, rfl, -⟩ | ⟨missed, ⟨id, rfl⟩, -, inserted⟩ := writeProduct_cases written
    next =>
      obtain ⟨was, present, rfl⟩ := List.mem_map.1 there
      rw [Table.rewrite_field (rewrittenProduct_key brandId categoryId group.first.input)] at same
      have kept := (sofar.kept was present old member same).later moved
      by_cases here : was.id = current.id
      next =>
        obtain rfl := applying.catalog.products.same_of_key present (findProduct_mem found) here
        have about : files before options.source old.id group = true :=
          files_iff.2 ⟨old, findProduct_known sofar.progress linked found member same, rfl⟩
        rw [Table.rewrite_chosen (by simp)]
        exact Filed.hit about category rfl brand
      next =>
        have other : files before options.source old.id group = false := by
          refine Bool.eq_false_iff.2 fun named => here ?_
          obtain ⟨known, first, sameId⟩ := files_iff.1 named
          obtain ⟨later, second, alike⟩ := findProduct_later sofar.progress linked first
          rw [found] at second
          obtain rfl := Option.some.inj second
          exact same.symm.trans (sameId.symm.trans alike.id.symm)
        rw [Table.rewrite_other (by simpa using here)]
        exact kept.miss other
    next =>
      have other : files before options.source old.id group = false := by
        refine Bool.eq_false_iff.2 fun named => ?_
        obtain ⟨known, first, -⟩ := files_iff.1 named
        obtain ⟨later, second, -⟩ := findProduct_later sofar.progress linked first
        rw [missed] at second
        cases second
      rw [(Table.insert?_rows inserted).1, List.mem_append, List.mem_singleton] at there
      rcases there with present | rfl
      next => exact ((sofar.kept later present old member same).later moved).miss other
      next =>
        have known := sofar.progress.productIds (List.mem_map_of_mem member)
        exact absurd (same ▸ known) (Undo.insert?_id inserted)

theorem Filing.each {applying next : Applying} {product : Product}
    {row : ValidRow} {left done : List ProductGroup}
    (sofar : Filing unicode before options.source all applying left done)
    (ran : applyRow unicode ids options now product applying row = .ok next) :
    Filing unicode before options.source all next left done := by
  have moved := applyRow_progress ran
  obtain ⟨flavors, flavorId, variants, made, created, -, rfl⟩ := applyRow_cases ran
  refine {
    progress := sofar.progress.trans moved
    order := sofar.order
    linked := fun group member => ?_
    kept := fun later there old member same => (sofar.kept later there old member same).later moved }
  rw [← sofar.linked group member]
  unfold linkedProduct
  rw [linkVariant_other (by simp)]

end Products

end VapeCommerce.Catalog.Rewrites
