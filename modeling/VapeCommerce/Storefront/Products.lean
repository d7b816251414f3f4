import Mathlib.Data.List.Sort
import VapeCommerce.Lib.Extremes
import VapeCommerce.Lib.ThreeValued
import VapeCommerce.Catalog.Tables

set_option autoImplicit false

-- catalog-policy.ts and catalog.service.ts: which products the storefront lists, and the price it shows.
namespace VapeCommerce.Storefront.Products

open VapeCommerce.Lib VapeCommerce.Lib.ThreeValued VapeCommerce.Schema VapeCommerce.Config
open VapeCommerce.Catalog (ProductType databaseIntMax)
open VapeCommerce.Money (isSafeInteger)
open VapeCommerce.Checkout.Catalogue (activeRestriction publicListing publicSellableVariantWhere
  approvedPublicImage)

structure Flavor where
  canonicalName : Text
  slug : Text
  nameFr : Text
  nameAr : Text

-- The columns that only the storefront reads; a nicotine strength is in thousandths of a milligram.
structure Variant extends ProductVariant where
  nameFr : Text
  nameAr : Text
  sku : Text
  nicotineStrengthMg : Option Int
  flavor : Option Flavor

structure Product extends Config.Product where
  nameFr : Text
  nameAr : Text
  slug : Text
  sku : Option Text
  categorySlug : Text
  brandSlug : Option Text
  productType : ProductType
  flavor : Option Text
  puffCount : Option Int
  nicotineStrengthMg : Option Int
  featured : Bool
  basePriceMillimes : Option Int
  promotionalPriceMillimes : Option Int
  variants : List Variant

-- Integer columns hold no more than a signed 32-bit number.
structure Stored (product : Product) : Prop where
  base : forall price, product.basePriceMillimes = some price -> price <= databaseIntMax
  variant : forall variant, variant ∈ product.variants -> variant.priceMillimes <= databaseIntMax

structure Catalogue where
  products : List Product
  ids : (products.map (·.id)).Nodup
  stored : forall product, product ∈ products -> Stored product
  countable : isSafeInteger products.length

section Price

@[ext]
structure Price where
  list : Int
  promotional : Option Int
  effective : Int
deriving DecidableEq, Repr

-- One candidate of `displayPrice`, for a list price that is above zero.
def candidate (list : Int) (promotionalPriceMillimes : Option Int) : Price :=
  let promotional := promotionalPriceMillimes.filter fun price => 0 < price && price <= list
  { list, promotional, effective := promotional.getD list }

def Variant.candidate? (variant : Variant) : Option Price :=
  if variant.priceMillimes <= 0 then none
  else some (candidate variant.priceMillimes variant.promotionalPriceMillimes)

def baseCandidate? (product : Product) : Option Price :=
  match product.basePriceMillimes with
  | some base => if base > 0 then some (candidate base product.promotionalPriceMillimes) else none
  | none => none

def sellable (product : Product) : List Variant :=
  product.variants.filter fun variant => publicSellableVariantWhere variant.toProductVariant

def candidates (product : Product) : List Price :=
  (baseCandidate? product).toList ++ (sellable product).filterMap Variant.candidate?

def Price.before (left right : Price) : Prop :=
  left.effective < right.effective \/ (left.effective = right.effective /\ left.list <= right.list)

instance : DecidableRel Price.before := fun _ _ => inferInstanceAs (Decidable (_ \/ _))

def displayPrice (product : Product) : Price :=
  ((candidates product).insertionSort Price.before).headD { list := 0, promotional := none, effective := 0 }

end Price

section PriceFilter

inductive EffectivePriceComparator where
  | lt
  | lte
deriving DecidableEq, Repr

def EffectivePriceComparator.test : EffectivePriceComparator -> Int -> Int -> Bool
  | .lt, left, right => left < right
  | .lte, left, right => left <= right

-- What the conditions on a product and on a variant share; the list price of a product may be NULL.
def effectivePrice (comparator : EffectivePriceComparator) (amount : Int)
    (list promotional : Option Int) : Truth :=
  any [
    every [
      notNull promotional,
      related (fun left right => left > right) promotional (some 0),
      related (fun left right => left <= right) promotional list,
      related comparator.test promotional (some amount)],
    every [
      every [
        related (fun left right => left > right) list (some 0),
        related comparator.test list (some amount)],
      any [
        isNull promotional,
        related (fun left right => left <= right) promotional (some 0),
        related (fun left right => left > right) promotional list]]]

def productBaseEffectivePrice (comparator : EffectivePriceComparator) (amount : Int)
    (product : Product) : Truth :=
  effectivePrice comparator amount product.basePriceMillimes product.promotionalPriceMillimes

def publicVariantFilter (variant : Variant) : Bool :=
  variant.published && variant.archivedAt.isNone && variant.deletedAt.isNone

def publicVariantEffectivePrice (comparator : EffectivePriceComparator) (amount : Int)
    (variant : Variant) : Truth :=
  every [
    .ofBool (publicVariantFilter variant),
    effectivePrice comparator amount (some variant.priceMillimes) variant.promotionalPriceMillimes]

def effectivePriceBelowOrEqual (amount : Int) (product : Product) : Truth :=
  any [
    productBaseEffectivePrice .lte amount product,
    existsRow product.variants (publicVariantEffectivePrice .lte amount)]

structure PriceBounds where
  minPriceMillimes : Option Int
  maxPriceMillimes : Option Int
deriving DecidableEq, Repr

def minimumClauses (minPriceMillimes : Option Int) (product : Product) : List Truth :=
  match minPriceMillimes with
  | some minimum =>
    if minimum > 0 then
      [(productBaseEffectivePrice .lt minimum product).not,
        noRow product.variants (publicVariantEffectivePrice .lt minimum)]
    else []
  | none => []

def maximumClauses (maxPriceMillimes : Option Int) (product : Product) : List Truth :=
  match maxPriceMillimes with
  | some maximum => [effectivePriceBelowOrEqual maximum product]
  | none => []

def buildEffectiveProductPriceWhere (bounds : PriceBounds) (product : Product) : Truth :=
  every (minimumClauses bounds.minPriceMillimes product ++ maximumClauses bounds.maxPriceMillimes product)

end PriceFilter

section Listing

-- How the database compares texts is a matter of its collation.
structure Collation where
  equal : Text -> Text -> Bool
  contains : Text -> Text -> Bool
  less : Text -> Text -> Bool

structure CatalogFilter extends PriceBounds where
  search : Option Text
  category : Option Text
  brand : Option Text
  productType : Option ProductType
  flavor : Option Text
  puffCount : Option Int
  nicotineStrengthMg : Option Int
  featured : Option Bool

def CatalogFilter.empty : CatalogFilter where
  minPriceMillimes := none
  maxPriceMillimes := none
  search := none
  category := none
  brand := none
  productType := none
  flavor := none
  puffCount := none
  nicotineStrengthMg := none
  featured := none

variable (collation : Collation)

def variantSearch (search : Text) (variant : Variant) : Bool :=
  publicVariantFilter variant &&
    (collation.contains variant.nameFr search || collation.contains variant.nameAr search ||
      collation.contains variant.sku search ||
      variant.flavor.any fun flavor =>
        collation.contains flavor.canonicalName search || collation.contains flavor.nameFr search ||
          collation.contains flavor.nameAr search || collation.contains flavor.slug search)

def searched (search : Text) (product : Product) : Bool :=
  collation.contains product.nameFr search || collation.contains product.nameAr search ||
    collation.contains product.slug search ||
    product.sku.any (fun sku => collation.contains sku search) ||
    product.variants.any (variantSearch collation search)

def flavored (flavor : Text) (product : Product) : Bool :=
  product.flavor.any (fun own => collation.equal own flavor) ||
    product.variants.any fun variant =>
      publicVariantFilter variant && variant.flavor.any fun own =>
        collation.equal own.slug flavor || collation.equal own.canonicalName flavor ||
          collation.equal own.nameFr flavor || collation.equal own.nameAr flavor

def strong (nicotineStrengthMg : Int) (product : Product) : Bool :=
  product.nicotineStrengthMg == some nicotineStrengthMg ||
    product.variants.any fun variant =>
      publicVariantFilter variant && variant.nicotineStrengthMg == some nicotineStrengthMg

def hasSellablePublicVariant (product : Product) : Bool :=
  product.variants.any fun variant => publicSellableVariantWhere variant.toProductVariant

def hasApprovedPublicImage (product : Product) : Bool :=
  product.images.any approvedPublicImage ||
    product.variants.any fun variant =>
      publicSellableVariantWhere variant.toProductVariant && variant.images.any approvedPublicImage

def brandWhere (brand : Option Text) (now : Int) (product : Product) : Bool :=
  match brand with
  | some slug => product.brand.any (publicListing now) &&
      product.brandSlug.any (fun own => collation.equal own slug)
  | none => product.brand.all (publicListing now)

def buildPublicProductWhere (filters : CatalogFilter) (now : Int) (product : Product) : Bool :=
  publicListing now product.listing && product.publishedAt.any (fun instant => instant <= now) &&
    publicListing now product.category &&
    filters.category.all (collation.equal product.categorySlug) &&
    filters.featured.all (fun featured => product.featured == featured) &&
    hasSellablePublicVariant product && hasApprovedPublicImage product &&
    brandWhere collation filters.brand now product &&
    filters.search.all (fun search => searched collation search product) &&
    filters.productType.all (fun productType => product.productType == productType) &&
    filters.flavor.all (fun flavor => flavored collation flavor product) &&
    filters.puffCount.all (fun puffCount => product.puffCount == some puffCount) &&
    filters.nicotineStrengthMg.all (fun strength => strong strength product) &&
    (buildEffectiveProductPriceWhere filters.toPriceBounds product).kept

-- A listed product is one that checkout sells, given the same variants.
theorem listed_is_sellable {config : Configuration} {now : Int} {product : Product}
    (same : config.variants.filter (fun variant => variant.productId == product.id) =
      product.variants.map (·.toProductVariant)) :
    buildPublicProductWhere collation .empty now product =
      Checkout.Catalogue.buildPublicProductWhere config now product.toProduct := by
  have shared : config.variants.filter (fun variant =>
      variant.productId == product.id && publicSellableVariantWhere variant) =
        (product.variants.map (·.toProductVariant)).filter publicSellableVariantWhere := by
    rw [<- same, List.filter_filter]
    exact List.filter_congr fun variant _ => Bool.and_comm _ _
  have some : (!((product.variants.map (·.toProductVariant)).filter publicSellableVariantWhere).isEmpty) =
      hasSellablePublicVariant product := by
    rw [Bool.eq_iff_iff]
    simp [hasSellablePublicVariant, List.filter_eq_nil_iff]
  have shown : ((product.variants.map (·.toProductVariant)).filter publicSellableVariantWhere).any
      (fun variant => variant.images.any approvedPublicImage) = product.variants.any fun variant =>
        publicSellableVariantWhere variant.toProductVariant && variant.images.any approvedPublicImage := by
    rw [List.any_filter, List.any_map]
    rfl
  have free : (buildEffectiveProductPriceWhere CatalogFilter.empty.toPriceBounds product).kept = true := rfl
  simp only [Checkout.Catalogue.buildPublicProductWhere, shared, some, shown, buildPublicProductWhere, free,
    hasApprovedPublicImage]
  simp only [CatalogFilter.empty, brandWhere, Option.all_none, Bool.and_true]

theorem hasSellable {filters : CatalogFilter} {now : Int} {product : Product}
    (listed : buildPublicProductWhere collation filters now product = true) :
    hasSellablePublicVariant product = true := by
  simp only [buildPublicProductWhere, Bool.and_eq_true] at listed
  exact listed.1.1.1.1.1.1.1.1.2

end Listing

section Display

variable {product : Product}

theorem mem_candidates {price : Price} : price ∈ candidates product <->
    baseCandidate? product = some price \/
      exists variant, variant ∈ sellable product /\ variant.candidate? = some price := by
  simp [candidates, List.mem_append, Option.mem_toList, List.mem_filterMap]

theorem sellable_candidate {variant : Variant} (here : variant ∈ sellable product) :
    variant.candidate? = some (candidate variant.priceMillimes variant.promotionalPriceMillimes) := by
  simp only [sellable, List.mem_filter, publicSellableVariantWhere, Bool.and_eq_true,
    decide_eq_true_eq] at here
  rw [Variant.candidate?, if_neg (by omega)]

theorem candidate_positive {list : Int} (positive : 0 < list) (promotional : Option Int) :
    0 < (candidate list promotional).effective := by
  simp only [candidate]
  cases kept : promotional.filter fun price => 0 < price && price <= list with
  | none => exact positive
  | some price =>
    obtain ⟨_, bounds⟩ := Option.filter_eq_some_iff.1 kept
    simp only [Bool.and_eq_true, decide_eq_true_eq] at bounds
    exact bounds.1

instance : IsTrans Price Price.before where
  trans := by
    intro left middle right first second
    simp only [Price.before] at first second ⊢
    omega

instance : Std.Total Price.before where
  total := by
    intro left right
    simp only [Price.before]
    omega

-- The price shown is a candidate, and no candidate is lower.
theorem displayPrice_least (some : candidates product ≠ []) :
    displayPrice product ∈ candidates product /\
      forall price, price ∈ candidates product -> (displayPrice product).before price :=
  Extremes.headD_least Price.before some _

end Display

end VapeCommerce.Storefront.Products
