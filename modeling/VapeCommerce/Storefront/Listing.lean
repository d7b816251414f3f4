import VapeCommerce.Lib.Paging
import VapeCommerce.Lib.Ranking
import VapeCommerce.Storefront.PriceFilter
import VapeCommerce.Money

set_option autoImplicit false

-- The pages of the catalogue under a sort.
namespace VapeCommerce.Storefront.Listing

open VapeCommerce.Lib VapeCommerce.Lib.Outcome VapeCommerce.Schema VapeCommerce.Storefront.Products
open VapeCommerce.Storefront.PriceFilter
open VapeCommerce.Catalog (ProductType databaseIntMax)
open VapeCommerce.Money (isSafeInteger)

inductive CatalogSort where
  | newest
  | priceAsc
  | priceDesc
  | nameAsc
deriving DecidableEq, Repr

structure CatalogProductsQuery where
  page : Option Int
  pageSize : Option Int
  limit : Option Int
  q : Option Text
  search : Option Text
  category : Option Text
  brand : Option Text
  productType : Option ProductType
  flavor : Option Text
  puffCount : Option Int
  nicotineStrengthMg : Option Int
  minPriceMillimes : Option Int
  maxPriceMillimes : Option Int
  featured : Option Bool
  sort : Option CatalogSort

structure NormalizedCatalogFilter extends CatalogFilter where
  page : Nat
  pageSize : Nat
  skip : Nat
  sort : CatalogSort

def publicCatalogPageSize : Nat := 20

def publicCatalogMaxPageSize : Nat := 50

def positiveIntegerOr (value : Option Int) (fallback : Nat) : Nat :=
  match value with
  | some number => if isSafeInteger number /\ number > 0 then number.toNat else fallback
  | none => fallback

-- `replace(/\s+/g, ' ')`
def collapseSpaces : Text -> Text
  | [] => []
  | char :: rest =>
    if isSpace char then
      match collapseSpaces rest with
      | ' ' :: tail => ' ' :: tail
      | collapsed => ' ' :: collapsed
    else char :: collapseSpaces rest

-- `if (value)` keeps no empty text.
def given (text : Option Text) : Option Text :=
  text.filter fun text => !text.isEmpty

def normalizeCatalogFilter (input : CatalogProductsQuery) : NormalizedCatalogFilter :=
  let page := positiveIntegerOr input.page 1
  let pageSize := min (positiveIntegerOr input.pageSize publicCatalogPageSize) publicCatalogMaxPageSize
  { page
    pageSize
    skip := (page - 1) * pageSize
    sort := input.sort.getD .newest
    search := given (input.search.map fun search => collapseSpaces (trim search))
    category := given input.category
    brand := given input.brand
    productType := input.productType
    flavor := given (input.flavor.map trim)
    puffCount := input.puffCount
    nicotineStrengthMg := input.nicotineStrengthMg
    minPriceMillimes := input.minPriceMillimes
    maxPriceMillimes := input.maxPriceMillimes
    featured := input.featured }

-- MySQL puts NULL before every value.
def nullFirst : Option Int -> Option Int -> Bool
  | none, some _ => true
  | some left, some right => left < right
  | _, none => false

variable (collation : Collation)

def catalogProductOrderBy (sort : CatalogSort) (left right : Product) : Prop :=
  match sort with
  | .priceAsc => nullFirst left.basePriceMillimes right.basePriceMillimes = true \/
      (left.basePriceMillimes = right.basePriceMillimes /\ left.id <= right.id)
  | .priceDesc => nullFirst right.basePriceMillimes left.basePriceMillimes = true \/
      (left.basePriceMillimes = right.basePriceMillimes /\ left.id <= right.id)
  | .nameAsc => collation.less left.nameFr right.nameFr = true \/
      (collation.equal left.nameFr right.nameFr = true /\ left.id <= right.id)
  | .newest => nullFirst right.publishedAt left.publishedAt = true \/
      (left.publishedAt = right.publishedAt /\ left.id <= right.id)

instance (sort : CatalogSort) : DecidableRel (catalogProductOrderBy collation sort) := fun _ _ =>
  match sort with
  | .priceAsc | .priceDesc | .nameAsc | .newest => inferInstanceAs (Decidable (_ \/ _))

structure ProductSummary where
  id : Id
  priceMillimes : Int
  promotionalPriceMillimes : Option Int
deriving DecidableEq, Repr

def serializeSummary (product : Product) : ProductSummary :=
  let price := displayPrice product
  { id := product.id, priceMillimes := price.list, promotionalPriceMillimes := price.promotional }

-- What a customer pays by the summary.
def ProductSummary.effective (summary : ProductSummary) : Int :=
  summary.promotionalPriceMillimes.getD summary.priceMillimes

structure ProductsPage where
  items : List ProductSummary
  page : Nat
  pageSize : Nat
  total : Nat
  totalPages : Nat

def filtersOf (query : CatalogProductsQuery) : NormalizedCatalogFilter :=
  let requestedSearch := given (query.q <|> query.search)
  normalizeCatalogFilter { query with
    pageSize := query.limit <|> query.pageSize
    search := requestedSearch <|> query.search }

def matching (catalogue : Catalogue) (query : CatalogProductsQuery) (now : Int) : List Product :=
  catalogue.products.filter (buildPublicProductWhere collation (filtersOf query).toCatalogFilter now)

def sorted (catalogue : Catalogue) (query : CatalogProductsQuery) (now : Int) : List Product :=
  (matching collation catalogue query now).insertionSort
    (catalogProductOrderBy collation (filtersOf query).sort)

def inverted (query : CatalogProductsQuery) : Prop :=
  query.minPriceMillimes.any (fun minimum => query.maxPriceMillimes.any fun maximum => minimum > maximum)

instance (query : CatalogProductsQuery) : Decidable (inverted query) :=
  inferInstanceAs (Decidable (_ = true))

def products (catalogue : Catalogue) (query : CatalogProductsQuery) (now : Int) :
    Except Failure ProductsPage := do
  throwIf (inverted query) (badRequest "INVALID_PRICE_RANGE")
  let filters := filtersOf query
  let records := ((sorted collation catalogue query now).drop filters.skip).take filters.pageSize
  let total := (matching collation catalogue query now).length
  return {
    items := records.map serializeSummary
    page := filters.page
    pageSize := filters.pageSize
    total
    totalPages := Paging.pageCount total filters.pageSize }

def onPage (query : CatalogProductsQuery) (number : Nat) : CatalogProductsQuery :=
  { query with page := some number }

def allPages (catalogue : Catalogue) (query : CatalogProductsQuery) (now : Int) :
    Except Failure (List ProductsPage) := do
  let first <- products collation catalogue (onPage query 1) now
  (List.range first.totalPages).mapM fun index =>
    products collation catalogue (onPage query (index + 1)) now

section Statement

-- The claim's order, for the two sorts by price.
def monotone (sort : CatalogSort) (left right : ProductSummary) : Prop :=
  match sort with
  | .priceAsc => left.effective <= right.effective
  | .priceDesc => right.effective <= left.effective
  | _ => True

instance (sort : CatalogSort) : DecidableRel (monotone sort) := fun left right =>
  match sort with
  | .priceAsc => inferInstanceAs (Decidable (left.effective <= right.effective))
  | .priceDesc => inferInstanceAs (Decidable (right.effective <= left.effective))
  | .nameAsc | .newest => inferInstanceAs (Decidable True)

structure SortedListing (catalogue : Catalogue) (query : CatalogProductsQuery) (now : Int)
    (pages : List ProductsPage) : Prop where
  complete : (pages.flatMap (·.items)).Perm
    ((matching collation catalogue query now).map serializeSummary)
  once : ((pages.flatMap (·.items)).map (·.id)).Nodup
  ordered : (pages.flatMap (·.items)).Pairwise (monotone (filtersOf query).sort)

-- An offer of the first is no higher than any offer of the second.
def NoDearer (left right : Product) : Prop :=
  forall price, price ∈ offers right -> exists lower, lower ∈ offers left /\ lower <= price

instance (left right : Product) : Decidable (NoDearer left right) :=
  inferInstanceAs (Decidable
    (forall price, price ∈ offers right -> exists lower, lower ∈ offers left /\ lower <= price))

def InPriceOrder (sort : CatalogSort) (left right : Product) : Prop :=
  match sort with
  | .priceAsc => NoDearer left right
  | .priceDesc => NoDearer right left
  | _ => True

instance (sort : CatalogSort) (left right : Product) : Decidable (InPriceOrder sort left right) :=
  match sort with
  | .priceAsc => inferInstanceAs (Decidable (NoDearer left right))
  | .priceDesc => inferInstanceAs (Decidable (NoDearer right left))
  | .nameAsc | .newest => inferInstanceAs (Decidable True)

-- The stored base price puts no product before a cheaper one, or before a dearer one when descending.
def Aligned (sort : CatalogSort) (listed : List Product) : Prop :=
  forall left, left ∈ listed -> forall right, right ∈ listed ->
    catalogProductOrderBy collation sort left right -> InPriceOrder sort left right

instance (sort : CatalogSort) (listed : List Product) : Decidable (Aligned collation sort listed) :=
  inferInstanceAs (Decidable (forall left, left ∈ listed -> forall right, right ∈ listed -> _))

end Statement

section Pages

variable {catalogue : Catalogue} {query : CatalogProductsQuery} {now : Int}

theorem pageSize_positive (query : CatalogProductsQuery) : 0 < (filtersOf query).pageSize := by
  have positive : forall value, 0 < positiveIntegerOr value publicCatalogPageSize := by
    intro value
    unfold positiveIntegerOr
    split
    next =>
      split
      next valid => omega
      next => decide
    next => decide
  have bound : 0 < publicCatalogMaxPageSize := by decide
  exact Nat.lt_min.2 ⟨positive _, bound⟩

theorem onPage_page {number : Nat} (safe : isSafeInteger number) (positive : 0 < number) :
    (filtersOf (onPage query number)).page = number := by
  simp only [filtersOf, normalizeCatalogFilter, onPage, positiveIntegerOr]
  rw [if_pos ⟨safe, by omega⟩]
  rfl

def pageAt (catalogue : Catalogue) (query : CatalogProductsQuery) (now : Int) (index : Nat) :
    ProductsPage where
  items := (Paging.page (sorted collation catalogue query now) (filtersOf query).pageSize index).map
    serializeSummary
  page := index + 1
  pageSize := (filtersOf query).pageSize
  total := (matching collation catalogue query now).length
  totalPages := Paging.pageCount (matching collation catalogue query now).length
    (filtersOf query).pageSize

variable {collation}

theorem products_onPage (valid : Not (inverted query)) {index : Nat}
    (safe : isSafeInteger (index + 1 : Nat)) :
    products collation catalogue (onPage query (index + 1)) now =
      .ok (pageAt collation catalogue query now index) := by
  have number := @onPage_page query _ safe (Nat.succ_pos index)
  have skip : (filtersOf (onPage query (index + 1))).skip = index * (filtersOf query).pageSize := by
    have counted : (filtersOf (onPage query (index + 1))).skip =
        ((filtersOf (onPage query (index + 1))).page - 1) * (filtersOf query).pageSize := by
      simp only [filtersOf, normalizeCatalogFilter, onPage]
    rw [counted, number, Nat.add_sub_cancel]
  have valid' : Not (inverted (onPage query (index + 1))) := valid
  rw [products, ok_of_bind (throwIf_passes valid' _)]
  simp only [number, skip]
  rfl

theorem allPages_ok (valid : Not (inverted query)) :
    exists pages, allPages collation catalogue query now = .ok pages /\
      pages.flatMap (·.items) = (sorted collation catalogue query now).map serializeSummary := by
  have positive := pageSize_positive query
  have length : (sorted collation catalogue query now).length =
      (matching collation catalogue query now).length :=
    List.length_insertionSort _ _
  have few : (matching collation catalogue query now).length <= catalogue.products.length :=
    List.length_filter_le _ _
  have countable := catalogue.countable
  have first := @products_onPage collation catalogue query now valid 0 (by decide)
  have each : forall index, index ∈ List.range (Paging.pageCount
      (matching collation catalogue query now).length (filtersOf query).pageSize) ->
        products collation catalogue (onPage query (index + 1)) now =
          .ok (pageAt collation catalogue query now index) := by
    intro index here
    refine products_onPage valid ?_
    have below := List.mem_range.1 here
    have small := Paging.pageCount_le (matching collation catalogue query now).length positive
    simp only [isSafeInteger] at countable ⊢
    omega
  refine ⟨_, (ok_of_bind first _).trans (mapM_ok_map each), ?_⟩
  rw [List.flatMap_map]
  simp only [pageAt]
  rw [<- length, <- List.map_flatMap, Paging.pages_whole _ positive]

end Pages

section Order

variable {collation} {catalogue : Catalogue} {query : CatalogProductsQuery} {now : Int}

theorem nullFirst_trans {left middle right : Option Int} (first : nullFirst left middle = true)
    (second : nullFirst middle right = true) : nullFirst left right = true := by
  cases left <;> cases middle <;> cases right <;>
    simp only [nullFirst, decide_eq_true_eq, Bool.false_eq_true] at *
  omega

theorem nullFirst_total (left right : Option Int) :
    nullFirst left right = true \/ left = right \/ nullFirst right left = true := by
  cases left <;> cases right <;> simp [nullFirst]
  omega

theorem nullFirst_irrefl (value : Option Int) : nullFirst value value = false := by
  cases value <;> simp [nullFirst]

def ByPrice (sort : CatalogSort) : Prop :=
  sort = .priceAsc \/ sort = .priceDesc

theorem order_trans {sort : CatalogSort} (priced : ByPrice sort) :
    IsTrans Product (catalogProductOrderBy collation sort) where
  trans := by
    intro left middle right first second
    rcases priced with rfl | rfl
    next =>
      rcases first with first | ⟨same, id⟩ <;> rcases second with second | ⟨same', id'⟩
      next => exact .inl (nullFirst_trans first second)
      next => exact .inl (same' ▸ first)
      next => exact .inl (same ▸ second)
      next => exact .inr ⟨same.trans same', Nat.le_trans id id'⟩
    next =>
      rcases first with first | ⟨same, id⟩ <;> rcases second with second | ⟨same', id'⟩
      next => exact .inl (nullFirst_trans second first)
      next => exact .inl (same' ▸ first)
      next => exact .inl (same ▸ second)
      next => exact .inr ⟨same.trans same', Nat.le_trans id id'⟩

theorem order_total {sort : CatalogSort} (priced : ByPrice sort) :
    Std.Total (catalogProductOrderBy collation sort) where
  total := by
    intro left right
    rcases priced with rfl | rfl
    next =>
      rcases nullFirst_total left.basePriceMillimes right.basePriceMillimes with below | same | above
      next => exact .inl (.inl below)
      next =>
        exact (Nat.le_total left.id right.id).imp (fun id => .inr ⟨same, id⟩)
          fun id => .inr ⟨same.symm, id⟩
      next => exact .inr (.inl above)
    next =>
      rcases nullFirst_total left.basePriceMillimes right.basePriceMillimes with below | same | above
      next => exact .inr (.inl below)
      next =>
        exact (Nat.le_total left.id right.id).imp (fun id => .inr ⟨same, id⟩)
          fun id => .inr ⟨same.symm, id⟩
      next => exact .inl (.inl above)

-- Two products before one another are of the same id.
theorem order_antisymm {sort : CatalogSort} (priced : ByPrice sort) {left right : Product}
    (first : catalogProductOrderBy collation sort left right)
    (second : catalogProductOrderBy collation sort right left) : left.id = right.id := by
  have apart : forall one other : Option Int, nullFirst one other = true ->
      Not (nullFirst other one = true) /\ one ≠ other := by
    intro one other below
    refine ⟨fun above => ?_, fun same => ?_⟩
    next => exact absurd (nullFirst_trans below above) (by simp [nullFirst_irrefl])
    next => exact absurd (same ▸ below) (by simp [nullFirst_irrefl])
  rcases priced with rfl | rfl
  next =>
    rcases first with below | ⟨same, id⟩ <;> rcases second with above | ⟨same', id'⟩
    next => exact absurd above (apart _ _ below).1
    next => exact absurd same'.symm (apart _ _ below).2
    next => exact absurd same.symm (apart _ _ above).2
    next => exact Nat.le_antisymm id id'
  next =>
    rcases first with below | ⟨same, id⟩ <;> rcases second with above | ⟨same', id'⟩
    next => exact absurd above (apart _ _ below).1
    next => exact absurd same' (apart _ _ below).2
    next => exact absurd same (apart _ _ above).2
    next => exact Nat.le_antisymm id id'

theorem effective_shown (product : Product) :
    (serializeSummary product).effective = (displayPrice product).effective := by
  by_cases some : candidates product = []
  next => simp [serializeSummary, ProductSummary.effective, displayPrice, some]
  next =>
    obtain ⟨here, _⟩ := displayPrice_least some
    have effective : forall list promotional, (candidate list promotional).effective =
        (candidate list promotional).promotional.getD (candidate list promotional).list := fun _ _ => rfl
    rcases mem_candidates.1 here with based | ⟨variant, offered, priced⟩
    next =>
      simp only [baseCandidate?] at based
      split at based
      next =>
        split at based
        next =>
          rw [ProductSummary.effective, serializeSummary, <- Option.some.inj based]
          exact (effective _ _).symm
        next => cases based
      next => cases based
    next =>
      rw [sellable_candidate offered] at priced
      rw [ProductSummary.effective, serializeSummary, <- Option.some.inj priced]
      exact (effective _ _).symm

theorem noDearer_iff {left right : Product} (some : candidates left ≠ [])
    (some' : candidates right ≠ []) :
    NoDearer left right <-> (serializeSummary left).effective <= (serializeSummary right).effective := by
  rw [effective_shown, effective_shown]
  obtain ⟨here, least⟩ := displayed_least some
  obtain ⟨here', least'⟩ := displayed_least some'
  constructor
  next =>
    intro lower
    obtain ⟨price, offered, below⟩ := lower _ here'
    exact Int.le_trans (least price offered) below
  next =>
    intro below price offered
    exact ⟨_, here, Int.le_trans below (least' price offered)⟩

theorem monotone_iff {sort : CatalogSort} (priced : ByPrice sort) {left right : Product}
    (some : candidates left ≠ []) (some' : candidates right ≠ []) :
    monotone sort (serializeSummary left) (serializeSummary right) <-> InPriceOrder sort left right := by
  rcases priced with rfl | rfl
  next => exact (noDearer_iff some some').symm
  next => exact (noDearer_iff some' some).symm

theorem matching_some {product : Product} (here : product ∈ matching collation catalogue query now) :
    candidates product ≠ [] :=
  offers_listed (List.mem_filter.1 here).2

theorem matching_ids : ((matching collation catalogue query now).map (·.id)).Nodup :=
  catalogue.ids.sublist (List.filter_sublist.map _)

theorem ordered_iff (priced : ByPrice (filtersOf query).sort) :
    ((sorted collation catalogue query now).map serializeSummary).Pairwise
        (monotone (filtersOf query).sort) <->
      Aligned collation (filtersOf query).sort (matching collation catalogue query now) := by
  have trans := @order_trans collation _ priced
  have total := @order_total collation _ priced
  have placed : (sorted collation catalogue query now).Pairwise
      (catalogProductOrderBy collation (filtersOf query).sort) := List.pairwise_insertionSort _ _
  have same : forall product, product ∈ sorted collation catalogue query now <->
      product ∈ matching collation catalogue query now := fun _ => List.mem_insertionSort _
  rw [List.pairwise_map]
  constructor
  next =>
    intro ordered left here right there before
    refine (monotone_iff priced (matching_some here) (matching_some there)).1 ?_
    by_cases one : left = right
    next =>
      subst one
      rcases priced with sort | sort <;> simp [sort, monotone]
    next =>
      have both := List.pairwise_and_iff.2 ⟨placed, ordered⟩
      rcases Ranking.pairwise_either both ((same _).2 here) ((same _).2 there) one with pair | pair
      next => exact pair.2
      next =>
        have id := order_antisymm priced before pair.1
        exact absurd (List.inj_on_of_nodup_map matching_ids here there id) one
  next =>
    intro aligned
    refine placed.imp_of_mem fun here there before => ?_
    have here := (same _).1 here
    have there := (same _).1 there
    refine (monotone_iff priced (matching_some here) (matching_some there)).2 ?_
    exact aligned _ here _ there before

end Order

/-- The pages hold every matching product once; their prices are in order exactly where the stored base
price puts no product before a cheaper one (a dearer one, when descending). -/
theorem price_sorted_listing_iff {collation : Collation} {catalogue : Catalogue}
    {query : CatalogProductsQuery} {now : Int} (valid : Not (inverted query))
    (priced : ByPrice (filtersOf query).sort) :
    exists pages, allPages collation catalogue query now = .ok pages /\
      (SortedListing collation catalogue query now pages <->
        Aligned collation (filtersOf query).sort (matching collation catalogue query now)) := by
  obtain ⟨pages, listed, whole⟩ := @allPages_ok collation catalogue query now valid
  have placed := List.perm_insertionSort (catalogProductOrderBy collation (filtersOf query).sort)
    (matching collation catalogue query now)
  refine ⟨pages, listed, fun law => ordered_iff priced |>.1 (whole ▸ law.ordered), fun aligned => ?_⟩
  refine ⟨whole ▸ placed.map serializeSummary, ?_, whole ▸ (ordered_iff priced).2 aligned⟩
  rw [whole, List.map_map]
  exact ((placed.map (·.id)).nodup_iff).2 matching_ids

-- A pod shown at a thousand millimes, whatever its base price, and one shown at nine hundred.
def twoPods (base : Option Int) (bound : forall price, base = some price -> price <= databaseIntMax) :
    Catalogue where
  products := [pod base, { pod (some 900) with id := 2 }]
  ids := by simp [pod]
  stored := by
    intro product here
    rcases List.mem_cons.1 here with rfl | later
    next => exact ⟨bound, by simp [pod, databaseIntMax]⟩
    next =>
      obtain rfl := List.mem_singleton.1 later
      exact ⟨by simp [pod, databaseIntMax], by decide⟩
  countable := by simp [isSafeInteger]

def byPrice (sort : CatalogSort) : CatalogProductsQuery where
  page := none
  pageSize := none
  limit := none
  q := none
  search := none
  category := none
  brand := none
  productType := none
  flavor := none
  puffCount := none
  nicotineStrengthMg := none
  minPriceMillimes := none
  maxPriceMillimes := none
  featured := none
  sort := some sort

theorem aligned_pods_sorted : exists pages,
    allPages plainCollation (twoPods (some 2000) (by simp [databaseIntMax])) (byPrice .priceAsc) 0 =
        .ok pages /\
      SortedListing plainCollation (twoPods (some 2000) (by simp [databaseIntMax])) (byPrice .priceAsc)
        0 pages := by
  obtain ⟨pages, listed, law⟩ := @price_sorted_listing_iff plainCollation
    (twoPods (some 2000) (by simp [databaseIntMax])) (byPrice .priceAsc) 0 (by decide) (.inl rfl)
  exact ⟨pages, listed, law.2 (by decide)⟩

-- The pod without a base price comes first, at a thousand millimes.
theorem unpriced_pod_first : exists pages,
    allPages plainCollation (twoPods none (by simp)) (byPrice .priceAsc) 0 = .ok pages /\
      Not (SortedListing plainCollation (twoPods none (by simp)) (byPrice .priceAsc) 0 pages) := by
  refine ⟨_, rfl, fun law => ?_⟩
  have ordered := law.ordered
  revert ordered
  decide

end VapeCommerce.Storefront.Listing
