import VapeCommerce.Storefront.PriceFilter

set_option autoImplicit false

-- The facet price range and the wishlist against the price that the catalogue shows.
namespace VapeCommerce.Storefront.Facets

open VapeCommerce.Lib VapeCommerce.Lib.ThreeValued VapeCommerce.Storefront.Products
open VapeCommerce.Storefront.PriceFilter
open VapeCommerce.Config (Listing Restriction)
open VapeCommerce.Catalog (databaseIntMax)
open VapeCommerce.Checkout.Catalogue (activeRestriction publicListing publicSellableVariantWhere)
open VapeCommerce.Money (isSafeInteger)

section Query

def restrictedNow (now : Int) (restriction : Restriction) : Truth :=
  every [
    .ofBool restriction.active,
    .ofBool (restriction.startsAt <= now),
    any [isNull restriction.endsAt, related (fun left right => left > right) restriction.endsAt (some now)]]

def listingConditions (now : Int) (listing : Listing) : Truth :=
  every [
    .ofBool listing.published,
    isNull listing.archivedAt,
    isNull listing.suspendedAt,
    isNull listing.deletedAt,
    noRow listing.restrictions (restrictedNow now)]

-- The columns of a brand that is not joined are NULL.
def brandConditions (now : Int) (brand : Option Listing) : Truth :=
  match brand with
  | some listing => listingConditions now listing
  | none => .unknown

def selected (now : Int) (product : Product) : Bool :=
  (every [
    listingConditions now product.listing,
    related (fun left right => left <= right) product.publishedAt (some now),
    listingConditions now product.category,
    any [isNull product.brand, brandConditions now product.brand]]).kept

-- The CASE expressions, of a product and of a joined variant.
def caseEffective (list promotional : Option Int) : Int :=
  if (any [isNull list, related (fun left right => left < right) list (some 0)]).kept then databaseIntMax
  else if (every [
      notNull promotional,
      related (fun left right => left >= right) promotional (some 0),
      related (fun left right => left <= right) promotional list]).kept then
    promotional.getD databaseIntMax
  else list.getD databaseIntMax

def publishedVariants (product : Product) : List Variant :=
  product.variants.filter publicVariantFilter

-- LEFT JOIN: a product without a published variant has one row, its variant columns NULL.
def joinedVariants (product : Product) : List (Option Variant) :=
  match publishedVariants product with
  | [] => [none]
  | variants => variants.map some

def effectivePriceMillimes (product : Product) : Int :=
  min (caseEffective product.basePriceMillimes product.promotionalPriceMillimes)
    (((joinedVariants product).map fun variant =>
      caseEffective (variant.map (·.priceMillimes)) (variant.bind (·.promotionalPriceMillimes))).min?.getD
        databaseIntMax)

def publicPrices (catalogue : Catalogue) (now : Int) : List Int :=
  ((catalogue.products.filter (selected now)).map effectivePriceMillimes).filter
    fun price => price ≠ databaseIntMax

def safeDatabaseInteger (value : Option Int) : Option Int :=
  value.filter fun number => isSafeInteger number /\ number >= 0

structure PriceRange where
  minimumMillimes : Option Int
  maximumMillimes : Option Int
deriving DecidableEq, Repr

def publicPriceRange (catalogue : Catalogue) (now : Int) : PriceRange where
  minimumMillimes := safeDatabaseInteger (publicPrices catalogue now).min?
  maximumMillimes := safeDatabaseInteger (publicPrices catalogue now).max?

end Query

section Wishlist

-- wishlist.service.ts has a `displayPrice` of its own.
def wishlistCandidate? (list : Int) (promotionalPriceMillimes : Option Int) : Option Price :=
  if list < 0 then none
  else
    let promotional := promotionalPriceMillimes.filter fun price => 0 <= price && price <= list
    some { list, promotional, effective := promotional.getD list }

def wishlistBase? (product : Product) : Option Price :=
  product.basePriceMillimes.bind fun base => wishlistCandidate? base product.promotionalPriceMillimes

def wishlistVariant? (variant : Variant) : Option Price :=
  wishlistCandidate? variant.priceMillimes variant.promotionalPriceMillimes

def wishlistPrices (product : Product) : List Price :=
  (wishlistBase? product).toList ++ (publishedVariants product).filterMap wishlistVariant?

def wishlistPrice (product : Product) : Price :=
  ((wishlistPrices product).insertionSort Price.before).headD { list := 0, promotional := none, effective := 0 }

end Wishlist

section Statement

variable (collation : Collation) (catalogue : Catalogue) (now : Int)

def listed : List Product :=
  catalogue.products.filter (buildPublicProductWhere collation .empty now)

structure OnePrice : Prop where
  range : publicPriceRange catalogue now = {
    minimumMillimes := ((listed collation catalogue now).map fun product => (displayPrice product).effective).min?
    maximumMillimes := ((listed collation catalogue now).map fun product => (displayPrice product).effective).max? }
  wishlist : forall product, product ∈ listed collation catalogue now ->
    wishlistPrice product = displayPrice product

-- No published price and no promotional price beside one is zero.
structure Paid (product : Product) : Prop where
  base : product.basePriceMillimes ≠ some 0
  promotion : forall base, product.basePriceMillimes = some base -> 0 < base ->
    product.promotionalPriceMillimes ≠ some 0
  variants : forall variant, variant ∈ publishedVariants product ->
    variant.priceMillimes ≠ 0 /\ (0 < variant.priceMillimes -> variant.promotionalPriceMillimes ≠ some 0)

-- A published price, and whether the catalogue offers it or leaves its variant out.
structure Row where
  price : Price
  offered : Bool

def variantRow? (variant : Variant) : Option Row :=
  (wishlistVariant? variant).map fun price =>
    { price, offered := publicSellableVariantWhere variant.toProductVariant }

def rows (product : Product) : List Row :=
  (wishlistBase? product).toList.map (fun price => { price, offered := true }) ++
    (publishedVariants product).filterMap variantRow?

def cheapest (product : Product) (row : Row) : Bool :=
  (rows product).all fun other => row.price.before other.price

-- Where a variant that is not offered stands first among the cheapest, an offer is as cheap, and the
-- first such offer carries no promotion.
structure OneReading (product : Product) : Prop where
  paid : Paid product
  led : forall first, (rows product).find? (cheapest product) = some first -> first.offered = false ->
    exists offer, (rows product).find? (fun row => row.offered && cheapest product row) = some offer /\
      offer.price.promotional = none

-- The lowest published price, zero included.
def Costs (product : Product) (amount : Int) : Prop :=
  (exists price, price ∈ wishlistPrices product /\ price.effective = amount) /\
    forall price, price ∈ wishlistPrices product -> amount <= price.effective

structure OnePriceHolds : Prop where
  reading : forall product, product ∈ listed collation catalogue now -> OneReading product
  counted : forall product, product ∈ listed collation catalogue now ->
    exists price, price ∈ offers product /\ price < databaseIntMax
  between : forall product, product ∈ catalogue.products -> selected now product = true ->
    buildPublicProductWhere collation .empty now product = false ->
      forall amount, Costs product amount -> amount < databaseIntMax ->
        (exists low, low ∈ listed collation catalogue now /\ exists price, price ∈ offers low /\ price <= amount) /\
          exists high, high ∈ listed collation catalogue now /\ forall price, price ∈ offers high -> amount <= price

end Statement

section Reading

variable {product : Product}

theorem wishlist_first : wishlistPrice product =
    ((wishlistPrices product).find? (Extremes.least Price.before (wishlistPrices product))).getD
      { list := 0, promotional := none, effective := 0 } := by
  rw [wishlistPrice, List.headD_eq_head?_getD, Extremes.first_sorted]

theorem display_first : displayPrice product =
    ((candidates product).find? (Extremes.least Price.before (candidates product))).getD
      { list := 0, promotional := none, effective := 0 } := by
  rw [displayPrice, List.headD_eq_head?_getD, Extremes.first_sorted]

theorem rows_prices (product : Product) : (rows product).map (·.price) = wishlistPrices product := by
  rw [rows, wishlistPrices, List.map_append, List.map_map, List.map_filterMap]
  have base : ((fun row : Row => row.price) ∘ fun price => { price, offered := true }) = id := rfl
  rw [base, List.map_id]
  refine congrArg (_ ++ ·) (List.filterMap_congr fun variant _ => ?_)
  simp only [variantRow?, Option.map_map]
  exact Option.map_id'

theorem sellable_published {variant : Variant}
    (shown : publicSellableVariantWhere variant.toProductVariant = true) : publicVariantFilter variant = true :=
  ((published_variant variant).2 (.inl shown)).1

-- The wishlist reads a variant that is on sale as the catalogue does.
theorem sellable_row {variant : Variant}
    (shown : publicSellableVariantWhere variant.toProductVariant = true) :
    wishlistVariant? variant = variant.candidate? := by
  simp only [publicSellableVariantWhere, Bool.and_eq_true, decide_eq_true_eq] at shown
  rw [wishlistVariant?, wishlistCandidate?, Variant.candidate?, if_neg (by omega), if_neg (by omega), candidate]
  have promotion := shown.2
  cases promotional : variant.promotionalPriceMillimes with
  | none => rfl
  | some price =>
    simp only [promotional, Option.all_some, decide_eq_true_eq] at promotion
    simp [Option.filter, promotion, Int.le_of_lt promotion]

theorem offered_variants (variants : List Variant) :
    (((variants.filter publicVariantFilter).filterMap variantRow?).filter (·.offered)).map (·.price) =
      (variants.filter fun variant => publicSellableVariantWhere variant.toProductVariant).filterMap
        Variant.candidate? := by
  induction variants with
  | nil => rfl
  | cons variant variants ih =>
    by_cases shown : publicSellableVariantWhere variant.toProductVariant = true
    next =>
      have kept := @List.filter_cons_of_pos _
        (fun variant : Variant => publicSellableVariantWhere variant.toProductVariant) variant variants shown
      rw [List.filter_cons_of_pos (sellable_published shown), kept]
      cases read : variant.candidate? with
      | none =>
        have row : variantRow? variant = none := by rw [variantRow?, sellable_row shown, read]; rfl
        rw [List.filterMap_cons_none row, List.filterMap_cons_none read]
        exact ih
      | some price =>
        have row : variantRow? variant = some { price, offered := true } := by
          rw [variantRow?, sellable_row shown, read, shown]
          rfl
        rw [List.filterMap_cons_some row, List.filterMap_cons_some read, List.filter_cons_of_pos rfl, List.map_cons]
        exact congrArg (price :: ·) ih
    next =>
      have dropped := @List.filter_cons_of_neg _
        (fun variant : Variant => publicSellableVariantWhere variant.toProductVariant) variant variants shown
      rw [dropped]
      by_cases published : publicVariantFilter variant = true
      next =>
        rw [List.filter_cons_of_pos published]
        cases read : wishlistVariant? variant with
        | none =>
          have row : variantRow? variant = none := by rw [variantRow?, read]; rfl
          rw [List.filterMap_cons_none row]
          exact ih
        | some price =>
          have row : variantRow? variant = some { price, offered := false } := by
            rw [variantRow?, read, Bool.eq_false_iff.2 shown]
            rfl
          rw [List.filterMap_cons_some row, List.filter_cons_of_neg (by simp)]
          exact ih
      next =>
        rw [List.filter_cons_of_neg published]
        exact ih

theorem offered_base (paid : Paid product) : wishlistBase? product = baseCandidate? product := by
  cases base : product.basePriceMillimes with
  | none => simp [wishlistBase?, baseCandidate?, base]
  | some list =>
    have other : list ≠ 0 := fun zero => paid.base (base.trans (congrArg some zero))
    simp only [wishlistBase?, baseCandidate?, base, Option.bind_some, wishlistCandidate?]
    by_cases positive : 0 < list
    next =>
      rw [if_neg (by omega), if_pos positive, candidate]
      have promotion := paid.promotion list base positive
      cases promotional : product.promotionalPriceMillimes with
      | none => rfl
      | some price =>
        have other' : price ≠ 0 := fun zero => promotion (promotional.trans (congrArg some zero))
        have same : decide (0 <= price) = decide (0 < price) := by
          rw [decide_eq_decide]
          omega
        simp [Option.filter, same]
    next => rw [if_pos (by omega), if_neg positive]

-- Without zero prices the catalogue's offers are those of the rows.
theorem offered_rows (paid : Paid product) :
    candidates product = ((rows product).filter (·.offered)).map (·.price) := by
  rw [rows, List.filter_append, List.map_append, candidates, sellable, publishedVariants, offered_variants,
    offered_base paid]
  refine congrArg (· ++ _) ?_
  cases baseCandidate? product <;> rfl

theorem cheapest_iff {row : Row} : cheapest product row = true <->
    forall other, other ∈ rows product -> row.price.before other.price := by
  simp [cheapest]

theorem wishlist_row : wishlistPrice product =
    (((rows product).find? (cheapest product)).map (·.price)).getD
      { list := 0, promotional := none, effective := 0 } := by
  rw [wishlist_first, <- rows_prices, List.find?_map]
  have same : Extremes.least Price.before ((rows product).map (·.price)) ∘ Row.price = cheapest product := by
    funext row
    simp [Extremes.least, cheapest, List.all_map, Function.comp_def]
  exact congrArg (fun test => (((rows product).find? test).map Row.price).getD _) same

-- Where some offer is among the cheapest rows, the first such offer is what the catalogue shows.
theorem display_row (paid : Paid product) {offer : Row}
    (found : (rows product).find? (fun row => row.offered && cheapest product row) = some offer) :
    displayPrice product = offer.price := by
  have offered := List.find?_some found
  simp only [Bool.and_eq_true] at offered
  have here := List.mem_of_find?_eq_some found
  have lowest := cheapest_iff.1 offered.2
  rw [display_first, offered_rows paid, List.find?_map, List.find?_filter]
  have same : (rows product).find? (fun row => decide (row.offered = true /\
      ((Extremes.least Price.before (((rows product).filter (·.offered)).map (·.price))) ∘ (·.price)) row = true)) =
        (rows product).find? (fun row => row.offered && cheapest product row) := by
    refine List.find?_congr fun row there => ?_
    rw [Bool.eq_iff_iff]
    simp only [decide_eq_true_eq, Bool.and_eq_true, Function.comp_apply, Extremes.least_iff]
    refine and_congr_right fun _ => ⟨fun least => cheapest_iff.2 fun other present => ?_, fun least price present => ?_⟩
    next =>
      have first := least offer.price (List.mem_map_of_mem (List.mem_filter.2 ⟨here, offered.1⟩))
      exact Trans.trans first (lowest other present)
    next =>
      obtain ⟨other, kept, rfl⟩ := List.mem_map.1 present
      exact cheapest_iff.1 least other (List.mem_filter.1 kept).1
  rw [same, found]
  rfl

theorem wishlist_least (some : wishlistPrices product ≠ []) :
    wishlistPrice product ∈ wishlistPrices product /\
      forall price, price ∈ wishlistPrices product -> (wishlistPrice product).before price :=
  Extremes.headD_least Price.before some _

theorem offered_wished {variant : Variant} (here : variant ∈ sellable product) :
    candidate variant.priceMillimes variant.promotionalPriceMillimes ∈ wishlistPrices product := by
  obtain ⟨present, shown⟩ := List.mem_filter.1 here
  have read := (sellable_row shown).trans (sellable_candidate here)
  refine List.mem_append_right _ (List.mem_filterMap.2 ⟨variant, ?_, read⟩)
  exact List.mem_filter.2 ⟨present, sellable_published shown⟩

theorem wished_some {collation : Collation} {filters : CatalogFilter} {now : Int}
    (listed : buildPublicProductWhere collation filters now product = true) : wishlistPrices product ≠ [] := by
  have some := hasSellable collation listed
  simp only [hasSellablePublicVariant, List.any_eq_true] at some
  obtain ⟨variant, here, shown⟩ := some
  exact List.ne_nil_of_mem (offered_wished (List.mem_filter.2 ⟨here, shown⟩))

-- A price of zero, or a promotional price of zero beside a price above it.
theorem free_candidate {list : Int} {promotional : Option Int}
    (free : list = 0 \/ (0 < list /\ promotional = some 0)) :
    exists price, wishlistCandidate? list promotional = some price /\ price.effective = 0 := by
  rcases free with rfl | ⟨positive, rfl⟩
  next =>
    refine ⟨_, if_neg (by decide), ?_⟩
    cases promotional with
    | none => rfl
    | some price =>
      by_cases zero : price = 0
      next => simp [Option.filter, zero]
      next =>
        have never : Not (0 <= price /\ price <= 0) := by omega
        simp [Option.filter, never]
  next =>
    refine ⟨_, if_neg (by omega), ?_⟩
    simp [Option.filter, Int.le_of_lt positive]

theorem paid_of_positive
    (positive : forall price, price ∈ wishlistPrices product -> 0 < price.effective) : Paid product := by
  constructor
  next =>
    intro base
    obtain ⟨price, read, zero⟩ := @free_candidate 0 product.promotionalPriceMillimes (.inl rfl)
    have here : price ∈ wishlistPrices product := by
      simp [wishlistPrices, wishlistBase?, base, read]
    exact absurd (positive price here) (by omega)
  next =>
    intro list base above promotion
    obtain ⟨price, read, zero⟩ := @free_candidate list product.promotionalPriceMillimes (.inr ⟨above, promotion⟩)
    have here : price ∈ wishlistPrices product := by
      simp [wishlistPrices, wishlistBase?, base, read]
    exact absurd (positive price here) (by omega)
  next =>
    intro variant published
    have priced : Not (variant.priceMillimes = 0 \/
        (0 < variant.priceMillimes /\ variant.promotionalPriceMillimes = some 0)) := by
      intro free
      obtain ⟨price, read, zero⟩ := free_candidate free
      have here : price ∈ wishlistPrices product :=
        List.mem_append_right _ (List.mem_filterMap.2 ⟨variant, published, read⟩)
      exact absurd (positive price here) (by omega)
    exact ⟨fun zero => priced (.inl zero), fun above promotion => priced (.inr ⟨above, promotion⟩)⟩

-- A row that the catalogue leaves out carries no promotion in the wishlist either.
theorem left_out_plain (paid : Paid product) {row : Row} (here : row ∈ rows product)
    (out : row.offered = false) : row.price.promotional = none := by
  rcases List.mem_append.1 here with base | variants
  next =>
    obtain ⟨price, _, rfl⟩ := List.mem_map.1 base
    cases out
  next =>
    obtain ⟨variant, published, read⟩ := List.mem_filterMap.1 variants
    obtain ⟨price, wished, rfl⟩ := Option.map_eq_some_iff.1 read
    obtain ⟨priced, promoted⟩ := paid.variants variant published
    have shown := (List.mem_filter.1 published).2
    simp only [wishlistVariant?, wishlistCandidate?] at wished
    split at wished
    next => cases wished
    next nonnegative =>
      obtain rfl := Option.some.inj wished
      have above : 0 < variant.priceMillimes := by omega
      rcases (published_variant variant).1 ⟨shown, above⟩ with sold | hidden
      next =>
        simp only at out
        exact absurd sold (by simp [out])
      next =>
        simp only [hiddenVariant, Bool.and_eq_true] at hidden
        cases promotional : variant.promotionalPriceMillimes with
        | none => rfl
        | some price =>
          have worthless := hidden.2
          simp only [promotional, Option.any_some, decide_eq_true_eq] at worthless
          have other : price ≠ 0 := fun zero => promoted above (promotional.trans (congrArg some zero))
          have never : Not (0 <= price /\ price <= variant.priceMillimes) := by omega
          simp [Option.filter, never]

theorem first_found (some : wishlistPrices product ≠ []) :
    exists first, (rows product).find? (cheapest product) = .some first := by
  obtain ⟨wished, least⟩ := wishlist_least some
  rw [<- rows_prices] at wished
  obtain ⟨row, here, price⟩ := List.mem_map.1 wished
  refine Option.isSome_iff_exists.1 (List.find?_isSome.2 ⟨row, here, cheapest_iff.2 fun other there => ?_⟩)
  rw [price]
  refine least other.price ?_
  rw [<- rows_prices]
  exact List.mem_map_of_mem there

theorem before_antisymm {left right : Price} (first : left.before right) (second : right.before left) :
    left.effective = right.effective /\ left.list = right.list := by
  simp only [Price.before] at first second
  omega

theorem reading_iff {collation : Collation} {filters : CatalogFilter} {now : Int}
    (listed : buildPublicProductWhere collation filters now product = true) :
    wishlistPrice product = displayPrice product <-> OneReading product := by
  obtain ⟨wished, least⟩ := wishlist_least (wished_some listed)
  obtain ⟨offered, _⟩ := displayPrice_least (offers_listed listed)
  have positive := price_positive (List.mem_append_left (hiddenPrices product) (List.mem_map_of_mem offered))
  constructor
  next =>
    intro same
    have paid : Paid product := by
      refine paid_of_positive fun price here => ?_
      have before := least price here
      rw [same] at before
      simp only [Price.before] at before
      omega
    refine ⟨paid, fun first found out => ?_⟩
    have shown : wishlistPrice product = first.price := by
      rw [wishlist_row, found]
      rfl
    rw [offered_rows paid] at offered
    obtain ⟨row, kept, price⟩ := List.mem_map.1 offered
    obtain ⟨there, on⟩ := List.mem_filter.1 kept
    have lowest : cheapest product row = true := by
      refine cheapest_iff.2 fun other present => ?_
      rw [price, <- same, shown]
      exact cheapest_iff.1 (List.find?_some found) other present
    cases search : (rows product).find? fun row => row.offered && cheapest product row with
    | none =>
      have never := List.find?_eq_none.1 search row there
      exact absurd (Bool.and_eq_true_iff.2 ⟨on, lowest⟩) never
    | some offer =>
      refine ⟨offer, rfl, ?_⟩
      rw [<- display_row paid search, <- same, shown]
      exact left_out_plain paid (List.mem_of_find?_eq_some found) out
  next =>
    intro reading
    obtain ⟨first, found⟩ := first_found (wished_some listed)
    have shown : wishlistPrice product = first.price := by
      rw [wishlist_row, found]
      rfl
    cases out : first.offered with
    | true =>
      obtain ⟨lowest, before, after, split, others⟩ := List.find?_eq_some_iff_append.1 found
      have offer : (rows product).find? (fun row => row.offered && cheapest product row) = some first := by
        refine List.find?_eq_some_iff_append.2 ⟨Bool.and_eq_true_iff.2 ⟨out, lowest⟩, before, after, split, ?_⟩
        intro row there
        have dearer := others row there
        simp only [Bool.not_eq_true'] at dearer
        simp [dearer]
      rw [shown, display_row reading.paid offer]
    | false =>
      obtain ⟨offer, offered, plain⟩ := reading.led first found out
      rw [shown, display_row reading.paid offered]
      have cheap := List.find?_some offered
      simp only [Bool.and_eq_true] at cheap
      have here := List.mem_of_find?_eq_some found
      have there := List.mem_of_find?_eq_some offered
      obtain ⟨effective, list⟩ := before_antisymm (cheapest_iff.1 (List.find?_some found) offer there)
        (cheapest_iff.1 cheap.2 first here)
      exact Price.ext list ((left_out_plain reading.paid here out).trans plain.symm) effective

end Reading

section Selection

variable {now : Int} {product : Product}

theorem restrictedNow_kept (restriction : Restriction) :
    (restrictedNow now restriction).kept = activeRestriction now restriction := by
  cases stop : restriction.endsAt with
  | none => simp [restrictedNow, activeRestriction, isNull, stop, kept_and, kept_or]
  | some instant => simp [restrictedNow, activeRestriction, isNull, stop, Bool.and_assoc]

-- The policy as SQL and the policy as a filter.
theorem listingConditions_kept (listing : Listing) :
    (listingConditions now listing).kept = publicListing now listing := by
  simp only [listingConditions, publicListing, isNull, every_cons, every_nil, kept_and, kept_ofBool, kept_noRow,
    restrictedNow_kept, Bool.and_true, Bool.and_assoc]

theorem selected_eq : selected now product =
    (publicListing now product.listing && product.publishedAt.any (fun instant => instant <= now) &&
      publicListing now product.category && product.brand.all (publicListing now)) := by
  have published : (related (fun left right => decide (left <= right)) product.publishedAt (some now)).kept =
      product.publishedAt.any fun instant => instant <= now := by
    cases product.publishedAt with
    | none => rfl
    | some instant => simp
  have branded : (any [isNull product.brand, brandConditions now product.brand]).kept =
      product.brand.all (publicListing now) := by
    cases brand : product.brand with
    | none => rfl
    | some listing =>
      simp only [isNull, brandConditions, any_cons, any_nil, kept_or, kept_ofBool, listingConditions_kept,
        Option.isNone_some, Option.all_some, Bool.false_or, Bool.or_false]
  simp only [selected, every_cons, every_nil, kept_and, kept_ofBool, listingConditions_kept, published, branded,
    Bool.and_true, Bool.and_assoc]

theorem listed_selected {collation : Collation}
    (listed : buildPublicProductWhere collation .empty now product = true) : selected now product = true := by
  simp only [buildPublicProductWhere, Bool.and_eq_true, CatalogFilter.empty, brandWhere] at listed
  rw [selected_eq]
  simp only [Bool.and_eq_true]
  exact ⟨listed.1.1.1.1.1.1.1.1.1.1.1, listed.1.1.1.1.1.1.2⟩

end Selection

section Cost

variable {product : Product}

theorem caseEffective_known (list : Int) (promotional : Option Int) : caseEffective (some list) promotional =
    ((wishlistCandidate? list promotional).map (·.effective)).getD databaseIntMax := by
  by_cases negative : list < 0
  next => simp [caseEffective, wishlistCandidate?, isNull, negative]
  next =>
    cases promotional with
    | none => simp [caseEffective, wishlistCandidate?, isNull, notNull, negative, kept_and]
    | some price =>
      by_cases valid : 0 <= price /\ price <= list
      next => simp [caseEffective, wishlistCandidate?, isNull, notNull, negative, Option.filter, valid]
      next => simp [caseEffective, wishlistCandidate?, isNull, notNull, negative, Option.filter, valid]

theorem caseEffective_null (promotional : Option Int) : caseEffective none promotional = databaseIntMax := by
  simp [caseEffective, isNull, kept_or]

theorem base_case (product : Product) :
    caseEffective product.basePriceMillimes product.promotionalPriceMillimes =
      ((wishlistBase? product).map (·.effective)).getD databaseIntMax := by
  cases base : product.basePriceMillimes with
  | none => simp [wishlistBase?, base, caseEffective_null]
  | some list => simp [wishlistBase?, base, caseEffective_known]

def variantCase (variant : Variant) : Int :=
  ((wishlistVariant? variant).map (·.effective)).getD databaseIntMax

-- The MIN of the group, over the joined variants.
theorem variants_min (product : Product) : exists lowest,
    effectivePriceMillimes product =
      min (((wishlistBase? product).map (·.effective)).getD databaseIntMax) lowest /\
    (forall variant, variant ∈ publishedVariants product -> lowest <= variantCase variant) /\
    (lowest = databaseIntMax \/
      exists variant, variant ∈ publishedVariants product /\ variantCase variant = lowest) := by
  rw [effectivePriceMillimes, base_case, joinedVariants]
  refine ⟨_, rfl, ?_⟩
  split
  next none => simp [none, caseEffective_null]
  next =>
    rw [List.map_map]
    have read : (fun variant : Option Variant => caseEffective (variant.map (·.priceMillimes))
        (variant.bind (·.promotionalPriceMillimes))) ∘ some = variantCase :=
      funext fun variant => caseEffective_known _ _
    rw [read]
    cases found : ((publishedVariants product).map variantCase).min? with
    | none =>
      have empty := List.map_eq_nil_iff.1 (List.min?_eq_none_iff.1 found)
      simp [empty]
    | some lowest =>
      obtain ⟨here, least⟩ := List.min?_eq_some_iff.1 found
      obtain ⟨variant, present, same⟩ := List.mem_map.1 here
      exact ⟨fun other there => least _ (List.mem_map_of_mem there), .inr ⟨variant, present, same⟩⟩

-- The aggregate is a lower bound of the published prices, and one of them or the sentinel.
theorem effective_spec (product : Product) :
    (forall price, price ∈ wishlistPrices product -> effectivePriceMillimes product <= price.effective) /\
      (effectivePriceMillimes product = databaseIntMax \/
        exists price, price ∈ wishlistPrices product /\ price.effective = effectivePriceMillimes product) := by
  obtain ⟨lowest, aggregate, least, reached⟩ := variants_min product
  rw [aggregate]
  constructor
  next =>
    intro price here
    rcases List.mem_append.1 here with base | variants
    next =>
      rw [Option.mem_toList.1 base]
      exact Int.min_le_left _ _
    next =>
      obtain ⟨variant, published, read⟩ := List.mem_filterMap.1 variants
      have below := least variant published
      rw [variantCase, read] at below
      exact Int.le_trans (Int.min_le_right _ _) below
  next =>
    by_cases left : ((wishlistBase? product).map (·.effective)).getD databaseIntMax <= lowest
    next =>
      rw [Int.min_eq_left left]
      cases read : wishlistBase? product with
      | none => exact .inl rfl
      | some price => exact .inr ⟨price, by simp [wishlistPrices, read], rfl⟩
    next =>
      rw [Int.min_eq_right (by omega)]
      rcases reached with sentinel | ⟨variant, published, same⟩
      next => exact .inl sentinel
      next =>
        rw [variantCase] at same
        cases read : wishlistVariant? variant with
        | none =>
          rw [read] at same
          exact .inl same.symm
        | some price =>
          rw [read] at same
          exact .inr ⟨price, List.mem_append_right _ (List.mem_filterMap.2 ⟨variant, published, read⟩), same⟩

theorem wished_bounds (stored : Stored product) {price : Price} (here : price ∈ wishlistPrices product) :
    0 <= price.effective /\ price.effective <= databaseIntMax := by
  have read : forall list promotional, wishlistCandidate? list promotional = some price ->
      0 <= price.effective /\ price.effective <= list := by
    intro list promotional made
    simp only [wishlistCandidate?] at made
    split at made
    next => cases made
    next nonnegative =>
      obtain rfl := Option.some.inj made
      cases kept : promotional.filter fun price => 0 <= price && price <= list with
      | none => exact ⟨by simp only [Option.getD_none]; omega, Int.le_refl _⟩
      | some promotion =>
        have valid := (Option.filter_eq_some_iff.1 kept).2
        simp only [Bool.and_eq_true, decide_eq_true_eq] at valid
        exact valid
  rcases List.mem_append.1 here with base | variants
  next =>
    obtain ⟨list, based, made⟩ := Option.bind_eq_some_iff.1 (Option.mem_toList.1 base)
    obtain ⟨low, high⟩ := read _ _ made
    exact ⟨low, Int.le_trans high (stored.base list based)⟩
  next =>
    obtain ⟨variant, published, made⟩ := List.mem_filterMap.1 variants
    obtain ⟨low, high⟩ := read _ _ made
    exact ⟨low, Int.le_trans high (stored.variant variant (List.mem_filter.1 published).1)⟩

theorem costs_iff {amount : Int} (counted : amount < databaseIntMax) :
    effectivePriceMillimes product = amount <-> Costs product amount := by
  obtain ⟨below, reached⟩ := effective_spec product
  constructor
  next =>
    rintro rfl
    exact ⟨reached.resolve_left (Int.ne_of_lt counted), below⟩
  next =>
    rintro ⟨⟨price, here, rfl⟩, lowest⟩
    have least := below price here
    rcases reached with sentinel | ⟨other, there, same⟩
    next => omega
    next =>
      have above := lowest other there
      omega

end Cost

section Range

variable {collation : Collation} {catalogue : Catalogue} {now : Int}

theorem mem_listed {product : Product} : product ∈ listed collation catalogue now <->
    product ∈ catalogue.products /\ buildPublicProductWhere collation .empty now product = true :=
  List.mem_filter

theorem mem_publicPrices {amount : Int} : amount ∈ publicPrices catalogue now <->
    amount ≠ databaseIntMax /\ exists product, product ∈ catalogue.products /\ selected now product = true /\
      effectivePriceMillimes product = amount := by
  simp only [publicPrices, List.mem_filter, List.mem_map, decide_eq_true_eq, and_assoc]
  rw [and_comm]

theorem publicPrices_bounds {amount : Int} (here : amount ∈ publicPrices catalogue now) :
    0 <= amount /\ amount < databaseIntMax := by
  obtain ⟨counted, product, present, _, rfl⟩ := mem_publicPrices.1 here
  obtain ⟨price, wished, same⟩ := (effective_spec product).2.resolve_left counted
  have bounds := wished_bounds (catalogue.stored product present) wished
  omega

-- Every amount of a 32-bit column passes.
theorem safe_extreme {found : Option Int}
    (inside : forall amount, found = some amount -> amount ∈ publicPrices catalogue now) :
    safeDatabaseInteger found = found := by
  cases found with
  | none => rfl
  | some amount =>
    have bounds := publicPrices_bounds (inside amount rfl)
    simp only [databaseIntMax] at bounds
    refine Option.filter_eq_some_iff.2 ⟨rfl, decide_eq_true ⟨?_, bounds.1⟩⟩
    simp only [isSafeInteger]
    omega

theorem publicPriceRange_eq : publicPriceRange catalogue now = {
    minimumMillimes := (publicPrices catalogue now).min?
    maximumMillimes := (publicPrices catalogue now).max? } := by
  rw [publicPriceRange, safe_extreme fun _ found => (List.min?_eq_some_iff.1 found).1,
    safe_extreme fun _ found => (List.max?_eq_some_iff.1 found).1]

def shownPrices (collation : Collation) (catalogue : Catalogue) (now : Int) : List Int :=
  (listed collation catalogue now).map fun product => (displayPrice product).effective

theorem range_iff : publicPriceRange catalogue now = {
      minimumMillimes := (shownPrices collation catalogue now).min?
      maximumMillimes := (shownPrices collation catalogue now).max? } <->
    (publicPrices catalogue now).min? = (shownPrices collation catalogue now).min? /\
      (publicPrices catalogue now).max? = (shownPrices collation catalogue now).max? := by
  rw [publicPriceRange_eq, PriceRange.mk.injEq]

-- A product that the wishlist shows alike costs in the aggregate what the catalogue shows.
theorem costs_shown {product : Product} (here : product ∈ listed collation catalogue now)
    (same : wishlistPrice product = displayPrice product) : Costs product (displayPrice product).effective := by
  obtain ⟨wished, least⟩ := wishlist_least (wished_some (mem_listed.1 here).2)
  rw [same] at wished least
  refine ⟨⟨_, wished, rfl⟩, fun price there => ?_⟩
  rcases least price there with below | equal
  next => exact Int.le_of_lt below
  next => exact Int.le_of_eq equal.1

theorem counted_iff {product : Product} (here : product ∈ listed collation catalogue now) :
    (exists price, price ∈ offers product /\ price < databaseIntMax) <->
      (displayPrice product).effective < databaseIntMax := by
  obtain ⟨offered, least⟩ := displayed_least (offers_listed (mem_listed.1 here).2)
  constructor
  next =>
    rintro ⟨price, there, below⟩
    exact Int.lt_of_le_of_lt (least price there) below
  next => exact fun below => ⟨_, offered, below⟩

theorem low_iff {amount : Int} :
    (exists low, low ∈ listed collation catalogue now /\ exists price, price ∈ offers low /\ price <= amount) <->
      exists low, low ∈ shownPrices collation catalogue now /\ low <= amount := by
  constructor
  next =>
    rintro ⟨product, here, price, offered, below⟩
    obtain ⟨_, least⟩ := displayed_least (offers_listed (mem_listed.1 here).2)
    exact ⟨_, List.mem_map_of_mem here, Int.le_trans (least price offered) below⟩
  next =>
    rintro ⟨low, there, below⟩
    obtain ⟨product, here, rfl⟩ := List.mem_map.1 there
    obtain ⟨offered, _⟩ := displayed_least (offers_listed (mem_listed.1 here).2)
    exact ⟨product, here, _, offered, below⟩

theorem high_iff {amount : Int} :
    (exists high, high ∈ listed collation catalogue now /\ forall price, price ∈ offers high -> amount <= price) <->
      exists high, high ∈ shownPrices collation catalogue now /\ amount <= high := by
  constructor
  next =>
    rintro ⟨product, here, above⟩
    obtain ⟨offered, _⟩ := displayed_least (offers_listed (mem_listed.1 here).2)
    exact ⟨_, List.mem_map_of_mem here, above _ offered⟩
  next =>
    rintro ⟨high, there, above⟩
    obtain ⟨product, here, rfl⟩ := List.mem_map.1 there
    obtain ⟨_, least⟩ := displayed_least (offers_listed (mem_listed.1 here).2)
    exact ⟨product, here, fun price offered => Int.le_trans above (least price offered)⟩

-- Where each listed product is counted at the price it shows, the shown prices are among the counted ones.
theorem shown_counted
    (same : forall product, product ∈ listed collation catalogue now -> wishlistPrice product = displayPrice product)
    (counted : forall product, product ∈ listed collation catalogue now ->
      (displayPrice product).effective < databaseIntMax) :
    forall amount, amount ∈ shownPrices collation catalogue now -> amount ∈ publicPrices catalogue now := by
  intro amount there
  obtain ⟨product, here, rfl⟩ := List.mem_map.1 there
  have below := counted product here
  have costs := (costs_iff below).2 (costs_shown here (same product here))
  obtain ⟨present, shown⟩ := mem_listed.1 here
  exact mem_publicPrices.2 ⟨Int.ne_of_lt below, product, present, listed_selected shown, costs⟩

/-- The three readings agree exactly where no published price is free or undercuts the offers, no listed
product costs the sentinel, and what is published but not listed costs no less and no more than the rest. -/
theorem one_price_iff (collation : Collation) (catalogue : Catalogue) (now : Int) :
    OnePrice collation catalogue now <-> OnePriceHolds collation catalogue now := by
  constructor
  next =>
    rintro ⟨range, same⟩
    obtain ⟨lowest, highest⟩ := range_iff.1 range
    have counted : forall product, product ∈ listed collation catalogue now ->
        (displayPrice product).effective < databaseIntMax := by
      intro product here
      have there : (displayPrice product).effective ∈ shownPrices collation catalogue now := List.mem_map_of_mem here
      obtain ⟨high, found⟩ := Option.isSome_iff_exists.1 (List.isSome_max?_of_mem there)
      have bounds := publicPrices_bounds (List.max?_eq_some_iff.1 (highest.trans found)).1
      exact Int.lt_of_le_of_lt ((List.max?_eq_some_iff.1 found).2 _ there) bounds.2
    refine ⟨fun product here => (reading_iff (mem_listed.1 here).2).1 (same product here),
      fun product here => (counted_iff here).2 (counted product here), ?_⟩
    intro product present chosen _ amount costs below
    have there : amount ∈ publicPrices catalogue now :=
      mem_publicPrices.2 ⟨Int.ne_of_lt below, product, present, chosen, (costs_iff below).2 costs⟩
    obtain ⟨low, high⟩ := (Extremes.same_extremes (shown_counted same counted)).1 ⟨lowest, highest⟩ amount there
    exact ⟨low_iff.2 low, high_iff.2 high⟩
  next =>
    intro holds
    have same : forall product, product ∈ listed collation catalogue now ->
        wishlistPrice product = displayPrice product :=
      fun product here => (reading_iff (mem_listed.1 here).2).2 (holds.reading product here)
    have counted : forall product, product ∈ listed collation catalogue now ->
        (displayPrice product).effective < databaseIntMax :=
      fun product here => (counted_iff here).1 (holds.counted product here)
    refine ⟨range_iff.2 ((Extremes.same_extremes (shown_counted same counted)).2 fun amount there => ?_), same⟩
    obtain ⟨some, product, present, chosen, rfl⟩ := mem_publicPrices.1 there
    have below := (publicPrices_bounds there).2
    have costs := (costs_iff below).1 rfl
    cases shown : buildPublicProductWhere collation .empty now product with
    | true =>
      have here := mem_listed.2 ⟨present, shown⟩
      have price := (costs_iff (counted product here)).2 (costs_shown here (same product here))
      rw [price]
      exact ⟨⟨_, List.mem_map_of_mem here, Int.le_refl _⟩, ⟨_, List.mem_map_of_mem here, Int.le_refl _⟩⟩
    | false =>
      obtain ⟨low, high⟩ := holds.between product present chosen shown _ costs below
      exact ⟨low_iff.1 low, high_iff.1 high⟩

end Range

-- A pod shown at a thousand millimes, and a published one at five hundred that has no approved image.
def unmoderated : Catalogue where
  products := [pod (some 1200), { pod (some 500) with id := 2, images := [{ deletedAt := none, approved := false }] }]
  ids := by simp [pod]
  stored := by
    intro product here
    rcases List.mem_cons.1 here with rfl | later
    next => exact ⟨by simp [pod, databaseIntMax], by simp [pod, databaseIntMax]⟩
    next =>
      obtain rfl := List.mem_singleton.1 later
      exact ⟨by simp [pod, databaseIntMax], by simp [pod, databaseIntMax]⟩
  countable := by simp [isSafeInteger]

theorem unmoderated_price_counted : Not (OnePrice plainCollation unmoderated 0) :=
  fun law => absurd law.range (by decide)

end VapeCommerce.Storefront.Facets
