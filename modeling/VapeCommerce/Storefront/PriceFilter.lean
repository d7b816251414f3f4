import VapeCommerce.Storefront.Products

set_option autoImplicit false

-- The price filter of the catalogue against the price that the catalogue shows.
namespace VapeCommerce.Storefront.PriceFilter

open VapeCommerce.Lib.ThreeValued VapeCommerce.Schema VapeCommerce.Storefront.Products
open VapeCommerce.Config (Listing)
open VapeCommerce.Checkout.Catalogue (publicSellableVariantWhere)

section Statement

-- The claim's bounds on the price shown.
structure Admits (bounds : PriceBounds) (effective : Int) : Prop where
  minimum : forall minimum, bounds.minPriceMillimes = some minimum -> minimum <= effective
  maximum : forall maximum, bounds.maxPriceMillimes = some maximum -> effective <= maximum

-- The lowest of some prices lies between the bounds.
structure Within (bounds : PriceBounds) (prices : List Int) : Prop where
  minimum : forall minimum, bounds.minPriceMillimes = some minimum ->
    forall price, price ∈ prices -> minimum <= price
  maximum : forall maximum, bounds.maxPriceMillimes = some maximum ->
    exists price, price ∈ prices /\ price <= maximum

def AsksMinimum (bounds : PriceBounds) : Prop :=
  exists minimum, bounds.minPriceMillimes = some minimum /\ 0 < minimum

def offers (product : Product) : List Int :=
  (candidates product).map (·.effective)

-- Published variants that no customer may buy, for a promotional price of nothing or less.
def hiddenVariant (variant : Variant) : Bool :=
  publicVariantFilter variant && variant.priceMillimes > 0 &&
    variant.promotionalPriceMillimes.any (fun price => price <= 0)

def hiddenPrices (product : Product) : List Int :=
  (product.variants.filter hiddenVariant).map (·.priceMillimes)

-- No minimum meets a missing base price, and the hidden variants move no bound.
structure ExactAt (bounds : PriceBounds) (product : Product) : Prop where
  unpriced : product.basePriceMillimes = none -> AsksMinimum bounds -> Not (Within bounds (offers product))
  undercut : (product.basePriceMillimes = none -> Not (AsksMinimum bounds)) ->
    (Within bounds (offers product ++ hiddenPrices product) <-> Within bounds (offers product))

structure ExactEverywhere (product : Product) : Prop where
  priced : product.basePriceMillimes ≠ none
  covered : forall hidden, hidden ∈ hiddenPrices product ->
    exists price, price ∈ offers product /\ price <= hidden

def Exact (bounds : PriceBounds) (product : Product) : Prop :=
  (buildEffectiveProductPriceWhere bounds product).kept = true <->
    Admits bounds (displayPrice product).effective

end Statement

section Evaluation

variable (comparator : EffectivePriceComparator) (amount : Int)

theorem effectivePrice_null (promotional : Option Int) :
    effectivePrice comparator amount none promotional = .unknown := by
  cases promotional with
  | none => rfl
  | some price =>
    simp only [effectivePrice, related_some, related_left_none, related_right_none, isNull, notNull,
      Option.isNone_some, Option.isSome_some, every_cons, every_nil, any_cons, any_nil]
    cases decide (price > 0) <;> cases decide (price <= 0) <;> cases comparator.test price amount <;> rfl

theorem effectivePrice_known (list : Int) (promotional : Option Int) :
    effectivePrice comparator amount (some list) promotional =
      .ofBool (decide (0 < list) && comparator.test (candidate list promotional).effective amount) := by
  cases promotional with
  | none =>
    simp only [effectivePrice, related_some, related_left_none, isNull, notNull, candidate,
      Option.isNone_none, Option.isSome_none, Option.filter_none, Option.getD_none, every_cons, every_nil,
      any_cons, any_nil]
    cases decide (list > 0) <;> cases comparator.test list amount <;> rfl
  | some price =>
    simp only [effectivePrice, related_some, isNull, notNull, Option.isNone_some, Option.isSome_some,
      every_cons, every_nil, any_cons, any_nil, and_ofBool, or_ofBool, candidate, Option.filter]
    by_cases valid : 0 < price /\ price <= list
    next =>
      have listed : 0 < list := by omega
      simp [listed, valid.1, valid.2, Int.not_le.2 valid.1, Int.not_lt.2 valid.2]
    next =>
      have invalid : (price <= 0) \/ (list < price) := by omega
      rcases invalid with worthless | above
      next =>
        simp [worthless, Int.not_lt.2 worthless, Bool.and_comm]
      next =>
        simp [above, Int.not_le.2 above]

end Evaluation

section Kept

variable {product : Product} {comparator : EffectivePriceComparator} {amount : Int}

theorem base_kept : (productBaseEffectivePrice comparator amount product).kept = true <->
    exists price, baseCandidate? product = some price /\ comparator.test price.effective amount = true := by
  cases base : product.basePriceMillimes with
  | none => simp [productBaseEffectivePrice, baseCandidate?, base, effectivePrice_null, Truth.kept]
  | some list =>
    by_cases positive : 0 < list
    next => simp [productBaseEffectivePrice, baseCandidate?, base, effectivePrice_known, positive]
    next => simp [productBaseEffectivePrice, baseCandidate?, base, effectivePrice_known, positive]

-- The negation of an unknown condition is unknown.
theorem base_not_kept : (productBaseEffectivePrice comparator amount product).not.kept = true <->
    product.basePriceMillimes ≠ none /\
      forall price, baseCandidate? product = some price -> comparator.test price.effective amount = false := by
  cases base : product.basePriceMillimes with
  | none => simp [productBaseEffectivePrice, base, effectivePrice_null, kept_not_unknown]
  | some list =>
    by_cases positive : 0 < list
    next => simp [productBaseEffectivePrice, baseCandidate?, base, effectivePrice_known, positive]
    next => simp [productBaseEffectivePrice, baseCandidate?, base, effectivePrice_known, positive]

theorem variant_kept (variant : Variant) :
    (publicVariantEffectivePrice comparator amount variant).kept = true <->
      publicVariantFilter variant = true /\ 0 < variant.priceMillimes /\
        comparator.test (candidate variant.priceMillimes variant.promotionalPriceMillimes).effective
          amount = true := by
  simp [publicVariantEffectivePrice, effectivePrice_known]

-- A published variant with a price is on offer or hidden.
theorem published_variant (variant : Variant) :
    publicVariantFilter variant = true /\ 0 < variant.priceMillimes <->
      publicSellableVariantWhere variant.toProductVariant = true \/ hiddenVariant variant = true := by
  simp only [publicSellableVariantWhere, hiddenVariant, publicVariantFilter, Bool.and_eq_true, decide_eq_true_eq]
  cases variant.promotionalPriceMillimes with
  | none => simp
  | some price =>
    simp only [Option.all_some, Option.any_some, decide_eq_true_eq]
    by_cases worthless : price <= 0
    next => simp [worthless, Int.not_lt.2 worthless]
    next => simp [worthless, Int.not_le.1 worthless]

theorem hidden_effective {variant : Variant} (hidden : hiddenVariant variant = true) :
    (candidate variant.priceMillimes variant.promotionalPriceMillimes).effective = variant.priceMillimes := by
  simp only [hiddenVariant, Bool.and_eq_true] at hidden
  cases promotional : variant.promotionalPriceMillimes with
  | none => rfl
  | some price =>
    have worthless := hidden.2
    simp only [promotional, Option.any_some, decide_eq_true_eq] at worthless
    simp [candidate, Option.filter, Int.not_lt.2 worthless]

theorem variants_kept :
    (product.variants.any fun variant => (publicVariantEffectivePrice comparator amount variant).kept) = true <->
      (exists price, (exists variant, variant ∈ sellable product /\ variant.candidate? = some price) /\
        comparator.test price.effective amount = true) \/
      exists hidden, hidden ∈ hiddenPrices product /\ comparator.test hidden amount = true := by
  simp only [List.any_eq_true, variant_kept, <- and_assoc, published_variant]
  constructor
  next =>
    rintro ⟨variant, ⟨here, shown | hidden⟩, tested⟩
    next =>
      have offered : variant ∈ sellable product := List.mem_filter.2 ⟨here, shown⟩
      exact Or.inl ⟨_, ⟨variant, offered, sellable_candidate offered⟩, tested⟩
    next =>
      rw [hidden_effective hidden] at tested
      exact Or.inr ⟨_, List.mem_map_of_mem (List.mem_filter.2 ⟨here, hidden⟩), tested⟩
  next =>
    rintro (⟨price, ⟨variant, offered, priced⟩, tested⟩ | ⟨price, hidden, tested⟩)
    next =>
      rw [sellable_candidate offered] at priced
      obtain rfl := Option.some.inj priced
      obtain ⟨here, shown⟩ := List.mem_filter.1 offered
      exact ⟨variant, ⟨here, .inl shown⟩, tested⟩
    next =>
      obtain ⟨variant, there, rfl⟩ := List.mem_map.1 hidden
      obtain ⟨here, hidden⟩ := List.mem_filter.1 there
      refine ⟨variant, ⟨here, .inr hidden⟩, ?_⟩
      rw [hidden_effective hidden]
      exact tested

theorem mem_offers {price : Int} : price ∈ offers product <->
    (exists offer, baseCandidate? product = some offer /\ offer.effective = price) \/
      exists offer, (exists variant, variant ∈ sellable product /\ variant.candidate? = some offer) /\
        offer.effective = price := by
  simp only [offers, List.mem_map, mem_candidates, or_and_right, exists_or]

theorem some_price_kept : (productBaseEffectivePrice comparator amount product).kept = true \/
    (product.variants.any fun variant => (publicVariantEffectivePrice comparator amount variant).kept) = true <->
      exists price, price ∈ offers product ++ hiddenPrices product /\ comparator.test price amount = true := by
  rw [base_kept, variants_kept]
  simp only [List.mem_append]
  constructor
  next =>
    rintro (⟨offer, based, tested⟩ | ⟨offer, stocked, tested⟩ | ⟨hidden, here, tested⟩)
    next => exact ⟨offer.effective, .inl (mem_offers.2 (.inl ⟨offer, based, rfl⟩)), tested⟩
    next => exact ⟨offer.effective, .inl (mem_offers.2 (.inr ⟨offer, stocked, rfl⟩)), tested⟩
    next => exact ⟨hidden, .inr here, tested⟩
  next =>
    rintro ⟨price, offered | hidden, tested⟩
    next =>
      rcases mem_offers.1 offered with ⟨offer, based, rfl⟩ | ⟨offer, stocked, rfl⟩
      next => exact .inl ⟨offer, based, tested⟩
      next => exact .inr (.inl ⟨offer, stocked, tested⟩)
    next => exact .inr (.inr ⟨price, hidden, tested⟩)

theorem no_price_kept : (productBaseEffectivePrice comparator amount product).not.kept = true /\
    (noRow product.variants (publicVariantEffectivePrice comparator amount)).kept = true <->
      product.basePriceMillimes ≠ none /\
        forall price, price ∈ offers product ++ hiddenPrices product -> comparator.test price amount = false := by
  rw [kept_noRow, Bool.not_eq_true', <- Bool.not_eq_true, base_not_kept, and_assoc]
  refine and_congr_right fun _ => ?_
  have either := @some_price_kept product comparator amount
  rw [base_kept] at either
  constructor
  next =>
    rintro ⟨based, stocked⟩ price here
    refine Bool.eq_false_iff.2 fun tested => ?_
    rcases either.2 ⟨price, here, tested⟩ with ⟨offer, found, tested⟩ | found
    next => exact absurd tested (by simp [based offer found])
    next => exact stocked found
  next =>
    intro none
    refine ⟨fun offer found => Bool.eq_false_iff.2 fun tested => ?_, fun found => ?_⟩
    next =>
      obtain ⟨price, here, tested⟩ := either.1 (.inl ⟨offer, found, tested⟩)
      exact absurd tested (by simp [none price here])
    next =>
      obtain ⟨price, here, tested⟩ := either.1 (.inr found)
      exact absurd tested (by simp [none price here])

theorem price_positive {price : Int} (here : price ∈ offers product ++ hiddenPrices product) : 0 < price := by
  rcases List.mem_append.1 here with offered | hidden
  next =>
    rcases mem_offers.1 offered with ⟨offer, based, rfl⟩ | ⟨offer, ⟨variant, _, priced⟩, rfl⟩
    next =>
      simp only [baseCandidate?] at based
      split at based
      next =>
        split at based
        next positive =>
          obtain rfl := Option.some.inj based
          exact candidate_positive positive _
        next => cases based
      next => cases based
    next =>
      simp only [Variant.candidate?] at priced
      split at priced
      next => cases priced
      next positive =>
        obtain rfl := Option.some.inj priced
        exact candidate_positive (by omega) _
  next =>
    obtain ⟨variant, there, rfl⟩ := List.mem_map.1 hidden
    have published := (List.mem_filter.1 there).2
    simp only [hiddenVariant, Bool.and_eq_true, decide_eq_true_eq] at published
    exact published.1.2

theorem below_or_equal_kept : (effectivePriceBelowOrEqual amount product).kept = true <->
    exists price, price ∈ offers product ++ hiddenPrices product /\ price <= amount := by
  have either := @some_price_kept product .lte amount
  simp only [EffectivePriceComparator.test, decide_eq_true_eq] at either
  rw [<- either, effectivePriceBelowOrEqual]
  simp only [any_cons, any_nil, kept_or, kept_ofBool, kept_existsRow, Bool.or_false, Bool.or_eq_true]

theorem at_least_kept : (productBaseEffectivePrice .lt amount product).not.kept = true /\
    (noRow product.variants (publicVariantEffectivePrice .lt amount)).kept = true <->
      product.basePriceMillimes ≠ none /\
        forall price, price ∈ offers product ++ hiddenPrices product -> amount <= price := by
  have neither := @no_price_kept product .lt amount
  simpa only [EffectivePriceComparator.test, decide_eq_false_iff_not, Int.not_lt] using neither

theorem minimum_kept (bounds : PriceBounds) (product : Product) :
    (minimumClauses bounds.minPriceMillimes product).all Truth.kept = true <->
      (AsksMinimum bounds -> product.basePriceMillimes ≠ none) /\
        forall minimum, bounds.minPriceMillimes = some minimum ->
          forall price, price ∈ offers product ++ hiddenPrices product -> minimum <= price := by
  cases asked : bounds.minPriceMillimes with
  | none => simp [AsksMinimum, minimumClauses, asked]
  | some minimum =>
    by_cases positive : 0 < minimum
    next =>
      have asks : AsksMinimum bounds := ⟨minimum, asked, positive⟩
      simp only [minimumClauses, gt_iff_lt, if_pos positive, List.all_cons, List.all_nil, Bool.and_true,
        Bool.and_eq_true, at_least_kept, asks, true_implies, Option.some.injEq, forall_eq']
    next =>
      have asks : Not (AsksMinimum bounds) := by simpa [AsksMinimum, asked] using positive
      simp only [minimumClauses, gt_iff_lt, if_neg positive, List.all_nil, asks, false_implies, true_and,
        Option.some.injEq, forall_eq', true_iff]
      intro price here
      have above := price_positive here
      omega

theorem maximum_kept (maxPriceMillimes : Option Int) (product : Product) :
    (maximumClauses maxPriceMillimes product).all Truth.kept = true <->
      forall maximum, maxPriceMillimes = some maximum ->
        exists price, price ∈ offers product ++ hiddenPrices product /\ price <= maximum := by
  cases maxPriceMillimes with
  | none => simp [maximumClauses]
  | some maximum =>
    simp only [maximumClauses, List.all_cons, List.all_nil, Bool.and_true, below_or_equal_kept,
      Option.some.injEq, forall_eq']

/-- The filter keeps a product by the prices of its offers and of its hidden variants. -/
theorem where_kept (bounds : PriceBounds) (product : Product) :
    (buildEffectiveProductPriceWhere bounds product).kept = true <->
      (AsksMinimum bounds -> product.basePriceMillimes ≠ none) /\
        Within bounds (offers product ++ hiddenPrices product) := by
  rw [buildEffectiveProductPriceWhere, kept_every, List.all_append, Bool.and_eq_true, minimum_kept,
    maximum_kept, and_assoc]
  exact and_congr_right fun _ => ⟨fun kept => ⟨kept.1, kept.2⟩, fun within => ⟨within.1, within.2⟩⟩

end Kept

section Exactness

variable {product : Product}

theorem offers_listed {collation : Collation} {filters : CatalogFilter} {now : Int}
    (listed : buildPublicProductWhere collation filters now product = true) : candidates product ≠ [] := by
  have some := hasSellable collation listed
  simp only [hasSellablePublicVariant, List.any_eq_true] at some
  obtain ⟨variant, here, shown⟩ := some
  have offered : variant ∈ sellable product := List.mem_filter.2 ⟨here, shown⟩
  exact List.ne_nil_of_mem (mem_candidates.2 (.inr ⟨variant, offered, sellable_candidate offered⟩))

theorem displayed_least (some : candidates product ≠ []) :
    (displayPrice product).effective ∈ offers product /\
      forall price, price ∈ offers product -> (displayPrice product).effective <= price := by
  obtain ⟨here, least⟩ := displayPrice_least some
  refine ⟨List.mem_map_of_mem here, fun price offered => ?_⟩
  obtain ⟨offer, there, rfl⟩ := List.mem_map.1 offered
  rcases least offer there with below | same
  next => exact Int.le_of_lt below
  next => exact Int.le_of_eq same.1

theorem admits_iff (some : candidates product ≠ []) (bounds : PriceBounds) :
    Admits bounds (displayPrice product).effective <-> Within bounds (offers product) := by
  obtain ⟨offered, least⟩ := displayed_least some
  constructor
  next =>
    intro admits
    refine ⟨fun minimum asked price here => ?_, fun maximum asked => ⟨_, offered, admits.maximum maximum asked⟩⟩
    exact Int.le_trans (admits.minimum minimum asked) (least price here)
  next =>
    intro within
    refine ⟨fun minimum asked => within.minimum minimum asked _ offered, fun maximum asked => ?_⟩
    obtain ⟨price, here, low⟩ := within.maximum maximum asked
    exact Int.le_trans (least price here) low

theorem exact_at_iff (some : candidates product ≠ []) (bounds : PriceBounds) :
    Exact bounds product <-> ExactAt bounds product := by
  rw [Exact, where_kept, admits_iff some]
  constructor
  next =>
    intro exact
    refine ⟨fun unpriced asks within => (exact.2 within).1 asks unpriced, fun priced => ?_⟩
    have based : AsksMinimum bounds -> product.basePriceMillimes ≠ none := fun asks unpriced => priced unpriced asks
    exact ⟨fun within => exact.1 ⟨based, within⟩, fun within => (exact.2 within).2⟩
  next =>
    intro exact
    by_cases based : product.basePriceMillimes = none /\ AsksMinimum bounds
    next =>
      have outside := exact.unpriced based.1 based.2
      exact ⟨fun kept => absurd based.1 (kept.1 based.2), fun within => absurd within outside⟩
    next =>
      have same := exact.undercut fun unpriced asks => based ⟨unpriced, asks⟩
      exact ⟨fun kept => same.1 kept.2,
        fun within => ⟨fun asks unpriced => based ⟨unpriced, asks⟩, same.2 within⟩⟩

theorem exact_everywhere_iff (some : candidates product ≠ []) :
    (forall bounds, Exact bounds product) <-> ExactEverywhere product := by
  obtain ⟨offered, least⟩ := displayed_least some
  constructor
  next =>
    intro exact
    constructor
    next =>
      intro unpriced
      refine ((exact_at_iff some ⟨Option.some 1, none⟩).1 (exact _)).unpriced unpriced ⟨1, rfl, Int.one_pos⟩ ?_
      refine ⟨fun minimum asked price here => ?_, by simp⟩
      obtain rfl := Option.some.inj asked
      exact price_positive (List.mem_append_left _ here)
    next =>
      intro hidden here
      have same := ((exact_at_iff some ⟨none, Option.some hidden⟩).1 (exact _)).undercut (by simp [AsksMinimum])
      exact (same.1 ⟨by simp, fun maximum asked =>
        ⟨hidden, List.mem_append_right _ here, Int.le_of_eq (Option.some.inj asked)⟩⟩).maximum hidden rfl
  next =>
    intro everywhere bounds
    refine (exact_at_iff some bounds).2 ⟨fun unpriced => absurd unpriced everywhere.priced, fun _ => ?_⟩
    constructor
    next =>
      intro within
      refine ⟨fun minimum asked price here => within.minimum minimum asked price (List.mem_append_left _ here), ?_⟩
      intro maximum asked
      obtain ⟨price, here, low⟩ := within.maximum maximum asked
      rcases List.mem_append.1 here with offer | hidden
      next => exact ⟨price, offer, low⟩
      next =>
        obtain ⟨offer, there, under⟩ := everywhere.covered price hidden
        exact ⟨offer, there, Int.le_trans under low⟩
    next =>
      intro within
      constructor
      next =>
        intro minimum asked price here
        rcases List.mem_append.1 here with offer | hidden
        next => exact within.minimum minimum asked price offer
        next =>
          obtain ⟨offer, there, under⟩ := everywhere.covered price hidden
          exact Int.le_trans (within.minimum minimum asked offer there) under
      next =>
        intro maximum asked
        obtain ⟨price, here, low⟩ := within.maximum maximum asked
        exact ⟨price, List.mem_append_left _ here, low⟩

/-- At given bounds the filter fails only where a minimum meets a missing base price or a hidden price
moves a bound; at every bound it is exact just for a base price and hidden prices no lower than the offers. -/
theorem price_filter_exact_iff {collation : Collation} {now : Int}
    (listed : buildPublicProductWhere collation .empty now product = true) :
    (forall bounds, Exact bounds product <-> ExactAt bounds product) /\
      ((forall bounds, Exact bounds product) <-> ExactEverywhere product) :=
  ⟨exact_at_iff (offers_listed listed), exact_everywhere_iff (offers_listed listed)⟩

def plainCollation : Collation where
  equal left right := left == right
  contains text part := text.tails.any fun tail => part.isPrefixOf tail
  less left right := left < right

-- A published pod at a thousand millimes; `base` is the price of the product itself.
def pod (base : Option Int) : Product :=
  let listed : Listing := {
    published := true
    archivedAt := none
    suspendedAt := none
    deletedAt := none
    restrictions := [] }
  { id := 1
    listing := listed
    publishedAt := some 0
    category := listed
    brand := none
    minimumAge := none
    images := [{ deletedAt := none, approved := true }]
    nameFr := []
    nameAr := []
    slug := []
    sku := none
    categorySlug := []
    brandSlug := none
    productType := .pod
    flavor := none
    puffCount := none
    nicotineStrengthMg := none
    featured := false
    basePriceMillimes := base
    promotionalPriceMillimes := none
    variants := [{
      id := 2
      productId := 1
      published := true
      archivedAt := none
      deletedAt := none
      priceMillimes := 1000
      promotionalPriceMillimes := none
      taxRateBps := 0
      weightGrams := 0
      images := []
      nameFr := []
      nameAr := []
      sku := []
      nicotineStrengthMg := none
      flavor := none }] }

theorem pod_filtered_exactly : buildPublicProductWhere plainCollation .empty 0 (pod (some 1200)) = true /\
    Exact ⟨some 500, some 1100⟩ (pod (some 1200)) :=
  ⟨by decide, (@price_filter_exact_iff _ plainCollation 0 (by decide)).2.2
    ⟨by simp [pod], by decide⟩ _⟩

-- Without a base price the pod, shown at a thousand millimes, is lost at a minimum of five hundred.
theorem unpriced_pod_lost : buildPublicProductWhere plainCollation .empty 0 (pod none) = true /\
    Not (Exact ⟨some 500, none⟩ (pod none)) := by
  refine ⟨by decide, fun exact => ?_⟩
  have shown : Admits ⟨some 500, none⟩ (displayPrice (pod none)).effective :=
    ⟨by decide, by simp⟩
  exact absurd (exact.2 shown) (by decide)

end Exactness

end VapeCommerce.Storefront.PriceFilter
