import VapeCommerce.Catalog.Prices

set_option autoImplicit false

-- What a published product rests on: every service looks before it takes something away, an import
-- does not.
namespace VapeCommerce.Catalog.Sellable

open VapeCommerce.Lib VapeCommerce.Lib.Outcome VapeCommerce.Schema VapeCommerce.Catalog.Import
open VapeCommerce.Catalog.Taxonomy VapeCommerce.Catalog.Applied VapeCommerce.Catalog.Fidelity
open VapeCommerce.Catalog.Rewrites VapeCommerce.Catalog.Prices

section Statement

structure OnSale (variant : ProductVariant) : Prop where
  published : variant.publicationStatus = .published
  listed : variant.archivedAt = none
  priced : 0 < variant.priceMillimes.millimes

-- The status a variant of the catalogue has once some rows are behind.
def restated (options : CatalogImportOptions) (before : CatalogState) (done : List ValidRow)
    (old : ProductVariant) : PublicationStatus :=
  if options.overrideStatus then
    (lastGiven before options.source (·.publicationStatus) done old.id).getD old.publicationStatus
  else old.publicationStatus

end Statement

section Invariant

-- The row of a batch names a variant of the product it names.
def LinkedRow (variants : Table ProductVariant.id) (row : CatalogImportRow) : Prop :=
  forall id, row.variantId = some id -> exists variant, variant ∈ variants.rows /\ variant.id = id /\
    row.productId = some variant.productId

structure SoundProduct (product : Product) : Prop where
  live : product.deletedAt = none
  listed : product.publicationStatus = .published -> product.archivedAt = none

structure Kept (state : CatalogState) : Prop where
  stored : Stored state
  products : forall product, product ∈ state.products.rows -> SoundProduct product
  linked : forall batch, batch ∈ state.imports.rows -> forall row, row ∈ batch.rows ->
    LinkedRow state.variants row

variable {unicode : Unicode} {state next : CatalogState}

theorem LinkedRow.later {variants after : Table ProductVariant.id} {row : CatalogImportRow}
    (kept : forall old, old ∈ variants.rows -> exists variant, variant ∈ after.rows /\
      variant.id = old.id /\ variant.productId = old.productId)
    (linked : LinkedRow variants row) : LinkedRow after row := by
  intro id named
  obtain ⟨old, there, rfl, filed⟩ := linked id named
  obtain ⟨variant, present, same, product⟩ := kept old there
  exact ⟨variant, present, same, product ▸ filed⟩

-- A table that got a row has the ones it had.
theorem inserted_mem {R : Type} {key : R -> Id} {table after : Table key} {made row : R}
    (inserted : table.insert? made = some after) (there : row ∈ table.rows) : row ∈ after.rows := by
  rw [(Table.insert?_rows inserted).1]
  exact List.mem_append_left _ there

-- A row that was rewritten is still there under its key, in its new form.
theorem rewrote_later {R : Type} {key : R -> Id} {table after : Table key} {change : R -> R}
    {current : R} (wrote : Table.RewroteOne table after change current)
    (keys : forall row, key (change row) = key row) {row : R} (there : row ∈ table.rows) :
    (key row ≠ key current /\ row ∈ after.rows) \/
      (row = current /\ change current ∈ after.rows /\ key (change current) = key row) := by
  by_cases same : key row = key current
  next =>
    obtain rfl := table.same_of_key there wrote.member same
    exact .inr ⟨rfl, wrote.changed, keys row⟩
  next => exact .inl ⟨same, wrote.others row there same⟩

theorem products_inserted {products : Table Product.id} {made : Product} (kept : Kept state)
    (inserted : state.products.insert? made = some products) (sound : SoundProduct made) :
    Kept { state with products } := by
  refine ⟨kept.stored, fun product there => ?_, kept.linked⟩
  rw [(Table.insert?_rows inserted).1, List.mem_append, List.mem_singleton] at there
  rcases there with present | rfl
  next => exact kept.products product present
  next => exact sound

theorem products_rewritten {products : Table Product.id} {change : Product -> Product}
    {current : Product} (kept : Kept state)
    (wrote : Table.RewroteOne state.products products change current)
    (sound : SoundProduct (change current)) : Kept { state with products } := by
  refine ⟨kept.stored, fun product there => ?_, kept.linked⟩
  rcases wrote.origin product there with rfl | ⟨present, -⟩
  next => exact sound
  next => exact kept.products product present

theorem variants_inserted {variants : Table ProductVariant.id} {made : ProductVariant}
    (kept : Kept state) (inserted : state.variants.insert? made = some variants) :
    Kept { state with variants } where
  stored := kept.stored
  products := kept.products
  linked batch there row listed := (kept.linked batch there row listed).later fun old present =>
    ⟨old, inserted_mem inserted present, rfl, rfl⟩

theorem variants_rewritten {variants : Table ProductVariant.id}
    {change : ProductVariant -> ProductVariant} {current : ProductVariant} (kept : Kept state)
    (wrote : Table.RewroteOne state.variants variants change current)
    (keys : forall row, (change row).id = row.id)
    (products : forall row, (change row).productId = row.productId) :
    Kept { state with variants } := by
  refine ⟨kept.stored, kept.products, fun batch there row listed => ?_⟩
  refine (kept.linked batch there row listed).later fun old present => ?_
  rcases rewrote_later wrote keys present with ⟨-, stays⟩ | ⟨rfl, changed, same⟩
  next => exact ⟨old, stays, rfl, rfl⟩
  next => exact ⟨change old, changed, same, products old⟩

theorem updatedProduct_sound (input : Products.UpdateProduct) (now : Int) {row : Product}
    (sound : SoundProduct row) : SoundProduct (Products.updatedProduct input now row) := by
  unfold Products.updatedProduct Products.withStatus Products.columnsUpdated
  cases input.publicationStatus with
  | none => dsimp only; split <;> exact ⟨sound.live, sound.listed⟩
  | some target => cases target <;> exact ⟨sound.live, fun _ => rfl⟩

theorem shelvedProduct_sound (archive : Bool) (now : Int) {row : Product} (sound : SoundProduct row) :
    SoundProduct (Products.shelvedProduct archive now row) := by
  refine ⟨sound.live, fun published => ?_⟩
  cases archive <;> cases published

-- The rows that an application has recorded so far.
theorem groups_linked {ids : ImportIds} {options : CatalogImportOptions} {now : Int}
    {groups : List ProductGroup} {finished : Applying}
    (ran : groups.foldlM (applyProductGroup unicode ids options now) { catalog := state, rows := [] } =
      .ok finished) : forall row, row ∈ finished.rows -> LinkedRow finished.catalog.variants row := by
  refine groups_keep (fun applying _ => forall row, row ∈ applying.rows ->
      LinkedRow applying.catalog.variants row)
    (fun applying _ _ _ => forall row, row ∈ applying.rows -> LinkedRow applying.catalog.variants row)
    ?_ ?_ (fun _ _ _ sofar => sofar) (fun row there => by cases there) ran
  next =>
    intro applying group rest catalog product sofar opened
    obtain ⟨brands, brandId, categories, categoryId, products, -, -, -, rfl⟩ := openGroup_cases opened
    exact sofar
  next =>
    intro applying product row rest left next sofar applied
    have progress := applyRow_progress applied
    obtain ⟨flavors, flavorId, variants, made, created, written, rfl⟩ := applyRow_cases applied
    intro recorded there
    rcases List.mem_append.1 there with old | new
    next =>
      refine (sofar recorded old).later fun variant present => ?_
      obtain ⟨later, stays, kept⟩ := progress.variants.later present
      exact ⟨later, stays, kept.id, kept.productId⟩
    next =>
      rw [List.mem_singleton] at new
      subst new
      intro id named
      obtain rfl := Option.some.inj named
      refine ⟨made, ?_, rfl, ?_⟩
      all_goals obtain ⟨-, ⟨-, -, ⟨id, rfl⟩, inserted⟩ | ⟨found, seen, -, filed, rfl, rfl⟩⟩ :=
        writeVariant_cases written
      next =>
        rw [(Table.insert?_rows inserted).1]
        exact List.mem_append_right _ (by simp)
      next => exact List.mem_map.2 ⟨found, findVariant_mem seen, Table.rewrite_chosen (by simp)⟩
      next => rfl
      next => exact congrArg some filed.symm

theorem apply_kept {previewBatchId : Id} {ids : ImportIds} {now : Int} {result : AppliedImport}
    (kept : Kept state) (ran : Import.apply unicode state previewBatchId ids now = .ok result) :
    Kept result.catalog := by
  have stored := apply_stored kept.stored ran
  obtain ⟨batch, -, -, ⟨existing, -, rfl⟩ | ⟨-, finished, imports, looped, inserted, rfl⟩⟩ :=
    apply_cases ran
  next => exact kept
  next =>
    have progress := groups_progress looped
    rw [progress.imports] at inserted
    refine ⟨stored, fun product there => ?_, fun other there row listed => ?_⟩
    next =>
      rcases progress.products.origin there with ⟨old, member, same⟩ | fresh
      next =>
        have sound := kept.products old member
        exact ⟨same.deletedAt.trans sound.live,
          fun published => same.archivedAt.trans (sound.listed (same.status.symm.trans published))⟩
      next => exact ⟨fresh.deletedAt, fun _ => fresh.archivedAt⟩
    next =>
      simp only [(Table.insert?_rows inserted).1, List.mem_append, List.mem_singleton] at there
      rcases there with present | rfl
      next =>
        refine (kept.linked other present row listed).later fun old stood => ?_
        obtain ⟨later, stays, same⟩ := progress.variants.later stood
        exact ⟨later, stays, same.id, same.productId⟩
      next => exact groups_linked looped row listed

theorem rollback_kept {batchId : Id} {now : Int} (kept : Kept state)
    (undone : Import.rollback state batchId now = .ok next) : Kept next := by
  have stored := rollback_stored kept.stored undone
  obtain ⟨batch, -, -, ⟨-, rfl⟩ | ⟨-, -, -, variants, wanted, products, withdrawn, -, archived, rfl⟩⟩ :=
    Undo.rollback_cases undone
  next => exact kept
  next =>
    have rewritten := (Undo.withdrawVariants_ok withdrawn).1
    have shelved := (Undo.withdrawProducts_ok archived).1
    have later : forall old, old ∈ state.variants.rows -> exists variant, variant ∈ variants.rows /\
        variant.id = old.id /\ variant.productId = old.productId := by
      intro old present
      have filed : forall row, (withdrawnVariant now row).productId = row.productId := fun _ => rfl
      exact ⟨_, rewritten ▸ List.mem_map_of_mem present,
        Table.rewrite_field (withdrawnVariant_key now) old, Table.rewrite_field filed old⟩
    refine ⟨stored, fun product there => ?_, fun other there row listed => ?_⟩
    next =>
      simp only [shelved] at there
      obtain ⟨was, present, ⟨-, rfl⟩ | ⟨-, rfl⟩⟩ := Table.rewrite_mem there
      next => exact ⟨(kept.products was present).live, fun published => by cases published⟩
      next => exact kept.products product present
    next =>
      obtain ⟨was, present, ⟨-, rfl⟩ | ⟨-, rfl⟩⟩ := Table.rewrite_mem there
      next =>
        obtain ⟨before, recorded, rfl⟩ := List.mem_map.1 listed
        exact (kept.linked was present before recorded).later later
      next => exact (kept.linked other present row listed).later later

theorem preview_kept {id : Id} {parsed : List ParsedCatalogImportRow} {options : CatalogImportOptions}
    (kept : Kept state) (ran : preview state id parsed options = .ok next) : Kept next := by
  have stored := preview_stored kept.stored ran
  simp only [preview, bind_ok, throwIf_ok] at ran
  obtain ⟨_, -, ran⟩ := ran
  split at ran
  next =>
    simp only [bind_ok, throwIf_ok, pure_ok] at ran
    obtain ⟨_, -, rfl⟩ := ran
    exact kept
  next =>
    simp only [bind_ok, Database.create_ok, pure_ok] at ran
    obtain ⟨imports, inserted, rfl⟩ := ran
    refine ⟨stored, kept.products, fun batch there row listed => ?_⟩
    rw [(Table.insert?_rows inserted).1, List.mem_append, List.mem_singleton] at there
    rcases there with present | rfl
    next => exact kept.linked batch present row listed
    next =>
      obtain ⟨parsedRow, -, rfl⟩ := List.mem_map.1 listed
      exact fun id named => (by cases named)

theorem exec_kept (kept : Kept state) (request : CatalogRequest)
    (ran : exec unicode state request = .ok next) : Kept next := by
  cases request with
  | mk now call =>
    cases call with
    | createBrand id input =>
      obtain ⟨_, _, -, -, -, rfl⟩ := createBrand_ok ran
      exact ⟨kept.stored, kept.products, kept.linked⟩
    | updateBrand id input =>
      obtain ⟨_, _, -, -, rfl, -⟩ := updateBrand_ok ran
      exact ⟨kept.stored, kept.products, kept.linked⟩
    | shelveBrand id expected archive =>
      obtain ⟨_, _, -, -, rfl, -⟩ := changeBrandArchiveState_ok ran
      exact ⟨kept.stored, kept.products, kept.linked⟩
    | createCategory id input =>
      obtain ⟨_, _, -, -, -, -, -, -, rfl⟩ := createCategory_ok ran
      exact ⟨kept.stored, kept.products, kept.linked⟩
    | updateCategory id input =>
      obtain ⟨_, _, -, -, rfl, -⟩ := updateCategory_ok ran
      exact ⟨kept.stored, kept.products, kept.linked⟩
    | shelveCategory id expected archive =>
      obtain ⟨_, _, -, -, rfl, -⟩ := changeCategoryArchiveState_ok ran
      exact ⟨kept.stored, kept.products, kept.linked⟩
    | createProduct id input =>
      obtain ⟨_, -, inserted, rfl⟩ := Products.create_ok ran
      exact products_inserted kept inserted ⟨rfl, fun _ => rfl⟩
    | updateProduct id input =>
      obtain ⟨current, _, -, wrote, rfl, -⟩ := Products.update_ok ran
      exact products_rewritten kept wrote
        (updatedProduct_sound input now (kept.products current wrote.member))
    | confirmMediaReview id version reason =>
      obtain ⟨current, _, -, wrote, rfl⟩ := Products.confirmMediaReview_ok ran
      have sound := kept.products current wrote.member
      exact products_rewritten kept wrote ⟨sound.live, sound.listed⟩
    | shelveProduct id version archive =>
      obtain ⟨current, _, -, wrote, rfl⟩ := Products.changeArchiveState_ok ran
      exact products_rewritten kept wrote
        (shelvedProduct_sound archive now (kept.products current wrote.member))
    | createVariant productId id input =>
      obtain ⟨_, -, inserted, rfl⟩ := Variants.create_ok ran
      exact variants_inserted kept inserted
    | updateVariant productId id input =>
      obtain ⟨_, _, -, wrote, rfl, -⟩ := Variants.update_ok ran
      exact variants_rewritten kept wrote (Variants.updatedVariant_key input) fun _ => rfl
    | shelveVariant productId id version archive =>
      obtain ⟨_, _, -, wrote, rfl, -⟩ := Variants.changeArchive_ok ran
      exact variants_rewritten kept wrote (Variants.shelvedVariant_key archive now) fun _ => rfl
    | previewImport id parsed options => exact preview_kept kept ran
    | applyImport previewBatchId ids =>
      obtain ⟨result, applied, rfl⟩ := (map_ok _ _ _).1 ran
      exact apply_kept kept applied
    | rollbackImport batchId => exact rollback_kept kept ran
    | surroundings db images attributeValues =>
      cases ran
      exact ⟨kept.stored, kept.products, kept.linked⟩

end Invariant

section Services

variable {unicode : Unicode} {state next : CatalogState}

theorem onSale_of_sellable {variant : ProductVariant}
    (sellable : publicSellableVariant variant = true) : OnSale variant := by
  simp only [publicSellableVariant, publicVariant, Bool.and_eq_true, beq_iff_eq,
    Option.isNone_iff_eq_none, decide_eq_true_eq] at sellable
  exact ⟨sellable.1.1.1.1, sellable.1.1.1.2, sellable.1.2⟩

-- What the check before a variant is taken off sale has found.
theorem retained {productId id : Id}
    (ran : Variants.ensurePublishedProductRetainsSellableVariant state productId id = .ok ())
    {product : Product} (there : product ∈ state.products.rows) (named : product.id = productId)
    (published : product.publicationStatus = .published) : exists other, other ∈ state.variants.rows /\
      other.id ≠ id /\ other.productId = product.id /\ OnSale other := by
  obtain ⟨found, member, same, keeps⟩ := Variants.retains_ok ran
  obtain rfl := state.products.same_of_key there member (named.trans same.symm)
  obtain ⟨other, present, filed, apart, sells⟩ := keeps published
  exact ⟨other, present, apart, filed.trans named.symm, onSale_of_sellable sells⟩

end Services

section Application

variable {unicode : Unicode} {state : CatalogState}

end Application

section Runs

open VapeCommerce.Lib.Runs

variable {unicode : Unicode} {state next : CatalogState}

variable (unicode)

theorem step_kept (state : CatalogState) (request : CatalogRequest) (kept : Kept state) :
    Kept (step unicode state request) := by
  unfold step
  cases ran : exec unicode state request with
  | ok next => exact exec_kept kept request ran
  | error failure => exact kept

end Runs

section Examples

open VapeCommerce.Lib.Runs
open VapeCommerce.Catalog.Undo (ascii podRow parsedRow podUpload podIds)

-- A brand, a category, a variant and a product are made and published, one by one.
def publishingRequests (db : Database.Db) : List CatalogRequest :=
  [.createBrand 1 { name := "Acme".toList, slug := "acme".toList
                    descriptionFr := none, descriptionAr := none },
    .updateBrand 1 { expectedUpdatedAt := 0, name := none, slug := none
                     descriptionFr := .absent, descriptionAr := .absent
                     publicationStatus := some .published },
    .createCategory 1 { parentId := none, nameFr := "Pods".toList, nameAr := "Pods".toList
                        slug := "pods".toList, descriptionFr := none, descriptionAr := none
                        sortOrder := none },
    .updateCategory 1 { expectedUpdatedAt := 0, parentId := .absent, nameFr := none, nameAr := none
                        slug := none, descriptionFr := .absent, descriptionAr := .absent
                        sortOrder := none, publicationStatus := some .published },
    .createProduct 1 { categoryId := 1, brandId := some 1, nameFr := "Pod".toList
                       nameAr := "Pod".toList, slug := "pod".toList, productType := .pod
                       sku := none, barcode := none, containsNicotine := none, flavor := none
                       puffCount := none, basePriceMillimes := none
                       promotionalPriceMillimes := none },
    .createVariant 1 1 { nameFr := "Noir".toList, nameAr := "Noir".toList, sku := "POD-1".toList
                         barcode := none, color := none, priceMillimes := listPrice
                         promotionalPriceMillimes := none, taxRateBps := none, sortOrder := none
                         attributeValueIds := [] },
    .surroundings db [{ productId := some 1, variantId := none, moderationStatus := .approved
                        deletedAt := none }] [],
    .updateVariant 1 1 { version := 1, nameFr := none, nameAr := none, sku := none
                         barcode := .absent, color := .absent, priceMillimes := none
                         promotionalPriceMillimes := .absent, taxRateBps := none, sortOrder := none
                         otherColumns := false, publicationStatus := some .published
                         attributeValueIds := none },
    .updateProduct 1 { version := 1, categoryId := none, brandId := .absent, nameFr := none
                       nameAr := none, slug := none, productType := none, sku := .absent
                       barcode := .absent, containsNicotine := none, flavor := .absent
                       puffCount := .absent, basePriceMillimes := .absent
                       promotionalPriceMillimes := .absent, otherColumns := false
                       publicationStatus := some .published, mediaReviewConfirmed := false }].map
    fun call => { now := 0, call }

-- An upload that may override statuses gives the only variant back as a draft.
def withdrawingRequests (db : Database.Db) : List CatalogRequest :=
  publishingRequests db ++
    [.previewImport 50 [parsedRow 1 { podRow "pod".toList "POD-1".toList with
                          publicationStatus := some .draft }]
        { podUpload with overrideStatus := true },
      .applyImport 50 podIds].map fun call => { now := 0, call }

def stockedShop : Database.Db := (System.Sample.after System.Sample.stocked).db

def withdrawn : CatalogState :=
  run (step ascii) (opening stockedShop) (withdrawingRequests stockedShop)

end Examples

end VapeCommerce.Catalog.Sellable
