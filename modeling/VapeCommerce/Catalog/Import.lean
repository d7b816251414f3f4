import VapeCommerce.Catalog.Tables

set_option autoImplicit false

-- The catalogue import: previews of uploaded rows, their application and its rollback.
namespace VapeCommerce.Catalog.Import

open VapeCommerce.Lib VapeCommerce.Lib.Outcome VapeCommerce.Schema

section Identity

-- Every run of `breaks` characters becomes one separator.
def squeeze (separator : Char) (breaks : Char -> Bool) : Bool -> Text -> Text
  | _, [] => []
  | inRun, char :: rest =>
    if breaks char then
      if inRun then squeeze separator breaks true rest
      else separator :: squeeze separator breaks true rest
    else char :: squeeze separator breaks false rest

def normalizeCatalogueText (value : Text) : Text :=
  trim (squeeze ' ' isSpace false value)

def isCombiningMark (char : Char) : Bool :=
  768 <= char.toNat && char.toNat <= 879

def isSlugChar (char : Char) : Bool :=
  ('a' <= char && char <= 'z') || ('0' <= char && char <= '9')

def stripDashes (value : Text) : Text :=
  ((value.dropWhile (· == '-')).reverse.dropWhile (· == '-')).reverse

-- `none` is the TypeError of a text without an ASCII letter or digit.
def catalogueSlug (unicode : Unicode) (value : Text) : Option Text :=
  let letters := unicode.lower
    ((unicode.nfkd (normalizeCatalogueText value)).filter fun char => !isCombiningMark char)
  let slug := stripDashes (squeeze '-' (fun char => !isSlugChar char) false letters)
  if slug = [] then none else some slug

def stableIdentity (row : CatalogImportRowInput) : Text :=
  row.productKey ++ ':' :: row.variantKey

end Identity

structure ValidRow where
  rowNumber : Nat
  input : CatalogImportRowInput

-- The ids of the rows an application inserts, by what they are made from.
structure ImportIds where
  batch : Id
  brand : Text -> Id
  category : Text -> Id
  product : Text -> Id
  variant : Nat -> Id
  flavor : Text -> Id

def importNotFound : Failure := notFound "CATALOG_IMPORT_NOT_FOUND"

def importKeyConflict : Failure := conflict "CATALOG_IMPORT_KEY_REUSED"

def applyFailed : Failure := conflict "CATALOG_IMPORT_APPLY_FAILED"

def taxonomyMissing : Failure := badRequest "CATALOG_IMPORT_TAXONOMY_MISSING"

def cannotPublish : Failure := conflict "CATALOG_IMPORT_CANNOT_PUBLISH"

def rollbackConflict : Failure := conflict "CATALOG_IMPORT_ROLLBACK_CONFLICT"

section Preview

-- What rows of one product key have to agree on.
structure ProductFields where
  brand : Text
  categorySlug : Text
  description : ProductDescription
  slug : Text
  officialProductUrl : Option Text
  productImageUrl : Option Text
deriving DecidableEq

def productFields (row : CatalogImportRowInput) : ProductFields where
  brand := row.brand
  categorySlug := row.categorySlug
  description := row.description
  slug := row.slug
  officialProductUrl := row.officialProductUrl
  productImageUrl := row.productImageUrl

structure Seen where
  identities : List Text
  skus : List Text
  products : List CatalogImportRowInput

def duplicateIssues (seen : Seen) (row : CatalogImportRowInput) : List CatalogImportIssue :=
  let existing := seen.products.find? fun other => other.productKey == row.productKey
  (if stableIdentity row ∈ seen.identities then
      [{ code := "DUPLICATE_VARIANT_IDENTITY", field := none }] else []) ++
    (if row.sku ∈ seen.skus then [{ code := "DUPLICATE_SKU", field := some "sku" }] else []) ++
    if existing.any fun other => decide (productFields other ≠ productFields row) then
      [{ code := "INCONSISTENT_PRODUCT_GROUP", field := none }] else []

def validatePayload : Seen -> List ParsedCatalogImportRow -> List ParsedCatalogImportRow
  | _, [] => []
  | seen, row :: rest =>
    match row.input with
    | none => row :: validatePayload seen rest
    | some input =>
      let issues := row.issues ++ duplicateIssues seen input
      if issues = [] then
        row :: validatePayload {
          identities := stableIdentity input :: seen.identities
          skus := input.sku :: seen.skus
          products := input :: seen.products } rest
      else { row with input := none, issues } :: validatePayload seen rest

def isKeyChar (char : Char) : Bool :=
  ('a' <= char && char <= 'z') || ('A' <= char && char <= 'Z') || ('0' <= char && char <= '9')

def isImportKey (key : Text) : Bool :=
  3 <= key.length && key.length <= 100 && key.head?.any isKeyChar &&
    key.all fun char => isKeyChar char || char ∈ ['.', '_', ':', '-']

def previewRow (row : ParsedCatalogImportRow) : CatalogImportRow where
  rowNumber := row.rowNumber
  stableIdentity := (row.input.map stableIdentity).getD ("invalid-row:".toList ++ (toString row.rowNumber).toList)
  status := if row.input.isSome then .valid else .invalid
  action := if row.input.isSome then "CREATE_OR_UPDATE" else "REJECT"
  productId := none
  variantId := none
  productPostVersion := none
  postVersion := none

-- The batch under an import key, of previews or of applications.
def batchUnder (state : CatalogState) (importKey : Text) (dryRun : Bool) : Option CatalogImportBatch :=
  state.imports.rows.find? fun batch => batch.importKey == importKey && batch.dryRun == dryRun

def preview (state : CatalogState) (id : Id) (parsed : List ParsedCatalogImportRow)
    (options : CatalogImportOptions) : Except Failure CatalogState := do
  throwIf (Not (isImportKey options.importKey)) (badRequest "CATALOG_IMPORT_KEY_INVALID")
  let rows := validatePayload { identities := [], skus := [], products := [] } parsed
  let invalidCount := rows.countP fun row => row.input.isNone
  let applicable := rows.length - invalidCount > 0 && (invalidCount == 0 || options.partialMode)
  match batchUnder state options.importKey true with
  | some existing =>
    throwIf (existing.payloadHash ≠ (rows, options)) importKeyConflict
    return state
  | none =>
    let imports <- Database.create state.imports {
      options with
      id
      dryRun := true
      payloadHash := (rows, options)
      status := if applicable then .previewValid else .previewInvalid
      payload := rows
      previewBatchId := none
      appliedCount := 0
      rolledBackAt := none
      rows := rows.map previewRow }
    return { state with imports }

end Preview

section Taxonomy

def wotofoCategoryLabels : List (Text × Text × Text) :=
  [("accessories", "Accessoires", "إكسسوارات"),
   ("coils", "Résistances", "ملفات التسخين"),
   ("devices", "Appareils", "أجهزة"),
   ("disposables", "Puffs jetables", "أجهزة فيب للاستخدام مرة واحدة"),
   ("e-liquids", "E-liquides", "سوائل إلكترونية"),
   ("other-products", "Autres produits", "منتجات أخرى"),
   ("pods", "Kits pods rechargeables", "أطقم بود قابلة لإعادة التعبئة"),
   ("prefilled-pod-kits", "Kits pods préremplis", "أطقم بود معبأة مسبقاً"),
   ("prefilled-replacement-pods", "Cartouches préremplies", "خراطيش معبأة مسبقاً")].map
    fun labels => (labels.1.toList, labels.2.1.toList, labels.2.2.toList)

def brandOf (unicode : Unicode) (state : CatalogState) (row : CatalogImportRowInput) : Option Brand :=
  (catalogueSlug unicode row.brand).bind fun slug =>
    state.brands.rows.find? fun brand => brand.slug == slug && brand.deletedAt.isNone

def categoryOf (state : CatalogState) (row : CatalogImportRowInput) : Option Category :=
  state.categories.rows.find? fun category =>
    category.slug == row.categorySlug && category.deletedAt.isNone

def wotofoBrand (id : Id) (name slug : Text) (now : Int) : Brand where
  id := id
  name := name
  slug := slug
  descriptionFr := none
  descriptionAr := none
  publicationStatus := .draft
  suspendedAt := none
  archivedAt := none
  deletedAt := none
  updatedAt := now

def wotofoCategory (id : Id) (slug : Text) (labels : Text × Text) (now : Int) : Category where
  id := id
  parentId := none
  nameFr := labels.1
  nameAr := labels.2
  slug := slug
  descriptionFr := none
  descriptionAr := none
  sortOrder := 0
  publicationStatus := .draft
  suspendedAt := none
  archivedAt := none
  deletedAt := none
  updatedAt := now

-- An official import makes the brands and categories it misses; an upload has to find them.
def resolveBrand (unicode : Unicode) (ids : ImportIds) (source : CatalogImportSource) (now : Int)
    (state : CatalogState) (row : CatalogImportRowInput) : Except Failure (Table Brand.id × Id) := do
  let slug <- orThrow (catalogueSlug unicode row.brand) applyFailed
  match brandOf unicode state row with
  | some brand => return (state.brands, brand.id)
  | none =>
    throwIf (source ≠ .wotofoOfficial) taxonomyMissing
    throwIf (state.brands.rows.any fun brand => brand.slug == slug) applyFailed
    let brands <- orThrow (state.brands.insert? (wotofoBrand (ids.brand slug) row.brand slug now)) applyFailed
    return (brands, ids.brand slug)

def resolveCategory (ids : ImportIds) (source : CatalogImportSource) (now : Int) (state : CatalogState)
    (row : CatalogImportRowInput) : Except Failure (Table Category.id × Id) :=
  match categoryOf state row with
  | some category => return (state.categories, category.id)
  | none => do
    throwIf (source ≠ .wotofoOfficial) taxonomyMissing
    let labels <- orThrow (wotofoCategoryLabels.lookup row.categorySlug)
      (badRequest "CATALOG_IMPORT_CATEGORY_UNREVIEWED")
    throwIf (state.categories.rows.any fun category => category.slug == row.categorySlug) applyFailed
    let categories <- orThrow
      (state.categories.insert? (wotofoCategory (ids.category row.categorySlug) row.categorySlug labels now))
      applyFailed
    return (categories, ids.category row.categorySlug)

-- `resolveFlavor`
def resolveFlavor (unicode : Unicode) (ids : ImportIds) (flavors : Table Flavor.canonicalName)
    (row : CatalogImportRowInput) : Except Failure (Table Flavor.canonicalName × Option Id) :=
  match row.flavor with
  | none => return (flavors, none)
  | some (canonicalName, nameFr, nameAr, category) => do
    let slug <- orThrow (catalogueSlug unicode canonicalName) applyFailed
    throwIf (flavors.rows.any fun flavor => flavor.slug == slug && flavor.canonicalName != canonicalName)
      (conflict "CATALOG_IMPORT_FLAVOR_SLUG_CONFLICT")
    match flavors.find? canonicalName with
    | some flavor =>
      return (flavors.modify canonicalName (fun row => { row with nameFr, nameAr, category })
        (fun _ => rfl), some flavor.id)
    | none =>
      let made <- orThrow
        (flavors.insert? { id := ids.flavor canonicalName, canonicalName, slug, nameFr, nameAr, category })
        applyFailed
      return (made, some (ids.flavor canonicalName))

end Taxonomy

section Sources

def linkedProduct (state : CatalogState) (source : CatalogImportSource) (productKey : Text) : Option Id :=
  (state.sourceRecords.find? (source, .product, productKey)).bind (·.productId)

def linkedVariant (state : CatalogState) (source : CatalogImportSource) (identity : Text) : Option Id :=
  (state.sourceRecords.find? (source, .variant, identity)).bind (·.variantId)

-- The product a group of rows is about, if the catalogue has it.
def findProduct (state : CatalogState) (source : CatalogImportSource) (row : CatalogImportRowInput) :
    Option Product :=
  match linkedProduct state source row.productKey with
  | some id => state.products.rows.find? fun product => product.id == id && product.deletedAt.isNone
  | none => state.products.rows.find? fun product => product.slug == row.slug && product.deletedAt.isNone

def findVariant (state : CatalogState) (source : CatalogImportSource) (row : CatalogImportRowInput) :
    Option ProductVariant :=
  match linkedVariant state source (stableIdentity row) with
  | some id => state.variants.rows.find? fun variant => variant.id == id && variant.deletedAt.isNone
  | none => state.variants.rows.find? fun variant => variant.sku == row.sku && variant.deletedAt.isNone

def relinked (record row : CatalogSourceRecord) : CatalogSourceRecord :=
  { row with
    sourceUrl := record.sourceUrl
    verifiedAt := record.verifiedAt
    productId := record.productId
    variantId := record.variantId }

theorem relinked_key (record row : CatalogSourceRecord) : (relinked record row).key = row.key := rfl

def upsertSource (records : Table CatalogSourceRecord.key) (record : CatalogSourceRecord) :
    Table CatalogSourceRecord.key :=
  match records.insert? record with
  | some next => next
  | none => records.modify record.key (relinked record) (relinked_key record)

def verifiedAt (source : CatalogImportSource) (now : Int) : Option Int :=
  if source = .wotofoOfficial then some now else none

-- Only rows with an official address leave a source record.
def linkProduct (records : Table CatalogSourceRecord.key) (source : CatalogImportSource)
    (row : CatalogImportRowInput) (productId : Id) (now : Int) : Table CatalogSourceRecord.key :=
  match row.officialProductUrl with
  | none => records
  | some sourceUrl => upsertSource records {
      source
      entityType := .product
      externalKey := row.productKey
      sourceUrl
      verifiedAt := verifiedAt source now
      productId := some productId
      variantId := none }

def linkVariant (records : Table CatalogSourceRecord.key) (source : CatalogImportSource)
    (row : CatalogImportRowInput) (variantId : Id) (now : Int) : Table CatalogSourceRecord.key :=
  match row.officialProductUrl with
  | none => records
  | some sourceUrl => upsertSource records {
      source
      entityType := .variant
      externalKey := stableIdentity row
      sourceUrl
      verifiedAt := verifiedAt source now
      productId := none
      variantId := some variantId }

end Sources

section Application

structure ProductGroup where
  first : ValidRow
  others : List ValidRow

def ProductGroup.rows (group : ProductGroup) : List ValidRow :=
  group.first :: group.others

-- The entries of a map from product keys to rows, in the order its keys were first set.
def addToGroups (row : ValidRow) : List ProductGroup -> List ProductGroup
  | [] => [{ first := row, others := [] }]
  | group :: rest =>
    if group.first.input.productKey = row.input.productKey then
      { group with others := group.others ++ [row] } :: rest
    else group :: addToGroups row rest

def groupRows (rows : List ValidRow) : List ProductGroup :=
  rows.foldl (fun groups row => addToGroups row groups) []

def insertedProduct (id brandId categoryId : Id) (row : CatalogImportRowInput) : Product where
  id := id
  brandId := some brandId
  categoryId := categoryId
  description := row.description
  slug := row.slug
  sku := none
  barcode := none
  flavor := none
  basePriceMillimes := none
  promotionalPriceMillimes := none
  publicationStatus := .draft
  requiresPricing := true
  requiresStock := true
  needsMediaReview := true
  publishedAt := none
  suspendedAt := none
  archivedAt := none
  deletedAt := none
  version := 1

def rewrittenProduct (brandId categoryId : Id) (row : CatalogImportRowInput) (product : Product) : Product :=
  { product with
    brandId := some brandId
    categoryId
    description := row.description
    flavor := none
    version := product.version + 1 }

theorem rewrittenProduct_key (brandId categoryId : Id) (row : CatalogImportRowInput) (product : Product) :
    (rewrittenProduct brandId categoryId row product).id = product.id := rfl

-- The product of a group, made or rewritten, in the table it is now in.
def writeProduct (state : CatalogState) (ids : ImportIds) (source : CatalogImportSource)
    (row : CatalogImportRowInput) (brandId categoryId : Id) :
    Except Failure (Table Product.id × Product) :=
  match findProduct state source row with
  | some current => do
    throwIf (current.slug ≠ row.slug) (conflict "CATALOG_IMPORT_PRODUCT_IDENTITY_CONFLICT")
    return (state.products.modify current.id (rewrittenProduct brandId categoryId row)
      (rewrittenProduct_key brandId categoryId row), rewrittenProduct brandId categoryId row current)
  | none => do
    throwIf (state.products.rows.any fun product => product.slug == row.slug) applyFailed
    let made := insertedProduct (ids.product row.productKey) brandId categoryId row
    let products <- orThrow (state.products.insert? made) applyFailed
    return (products, made)

def insertedVariant (id productId : Id) (flavorId : Option Id) (options : CatalogImportOptions)
    (row : ValidRow) : ProductVariant where
  id := id
  productId := productId
  flavorId := flavorId
  nameFr := row.input.variantNameFr
  nameAr := row.input.variantNameAr
  sku := row.input.sku
  barcode := none
  color := row.input.color
  nicotineStrengthMg := row.input.description.nicotineStrengthMg
  priceMillimes := if options.overridePrice then row.input.priceMillimes.getD .zero else .zero
  promotionalPriceMillimes := none
  taxRateBps := .zero
  publicationStatus := if options.overrideStatus then row.input.publicationStatus.getD .draft else .draft
  sortOrder := row.rowNumber
  attributeValueIds := []
  archivedAt := none
  deletedAt := none
  version := 1

def rewrittenVariant (flavorId : Option Id) (options : CatalogImportOptions) (row : CatalogImportRowInput)
    (variant : ProductVariant) : ProductVariant :=
  { variant with
    flavorId
    nameFr := row.variantNameFr
    nameAr := row.variantNameAr
    color := row.color
    nicotineStrengthMg := row.description.nicotineStrengthMg
    priceMillimes :=
      if options.overridePrice then row.priceMillimes.getD variant.priceMillimes else variant.priceMillimes
    publicationStatus :=
      if options.overrideStatus then row.publicationStatus.getD variant.publicationStatus
      else variant.publicationStatus
    version := variant.version + 1 }

theorem rewrittenVariant_key (flavorId : Option Id) (options : CatalogImportOptions)
    (row : CatalogImportRowInput) (variant : ProductVariant) :
    (rewrittenVariant flavorId options row variant).id = variant.id := rfl

-- The variant of a row, made or rewritten, in the table it is now in, and whether it was made.
def writeVariant (state : CatalogState) (ids : ImportIds) (options : CatalogImportOptions)
    (productId : Id) (flavorId : Option Id) (row : ValidRow) :
    Except Failure (Table ProductVariant.id × ProductVariant × Bool) :=
  match findVariant state options.source row.input with
  | none => do
    throwIf (options.overrideStatus /\ row.input.publicationStatus = some .published) cannotPublish
    throwIf (state.variants.rows.any fun variant => variant.sku == row.input.sku) applyFailed
    let made := insertedVariant (ids.variant row.rowNumber) productId flavorId options row
    let variants <- orThrow (state.variants.insert? made) applyFailed
    return (variants, made, true)
  | some before => do
    throwIf (before.productId ≠ productId) (conflict "CATALOG_IMPORT_SKU_CONFLICT")
    throwIf (options.overrideStatus /\ row.input.publicationStatus = some .published) cannotPublish
    return (state.variants.modify before.id (rewrittenVariant flavorId options row.input)
      (rewrittenVariant_key flavorId options row.input),
      rewrittenVariant flavorId options row.input before, false)

structure Applying where
  catalog : CatalogState
  rows : List CatalogImportRow

def appliedRow (product : Product) (variant : ProductVariant) (created : Bool) (row : ValidRow) :
    CatalogImportRow where
  rowNumber := row.rowNumber
  stableIdentity := stableIdentity row.input
  status := if created then .created else .updated
  action := if created then "CREATE" else "UPDATE"
  productId := some product.id
  variantId := some variant.id
  productPostVersion := some product.version
  postVersion := some variant.version

variable (unicode : Unicode) (ids : ImportIds) (options : CatalogImportOptions) (now : Int)

def applyRow (product : Product) (applying : Applying) (row : ValidRow) : Except Failure Applying := do
  let state := applying.catalog
  let (flavors, flavorId) <- resolveFlavor unicode ids state.flavors row.input
  let (variants, variant, created) <- writeVariant state ids options product.id flavorId row
  let sourceRecords := linkVariant state.sourceRecords options.source row.input variant.id now
  return {
    catalog := { state with flavors, variants, sourceRecords }
    rows := applying.rows ++ [appliedRow product variant created row] }

-- What a group does before its rows: its taxonomy, its product and the product's source record.
def openGroup (state : CatalogState) (first : CatalogImportRowInput) :
    Except Failure (CatalogState × Product) := do
  let (brands, brandId) <- resolveBrand unicode ids options.source now state first
  let (categories, categoryId) <- resolveCategory ids options.source now state first
  let (products, product) <- writeProduct state ids options.source first brandId categoryId
  let sourceRecords := linkProduct state.sourceRecords options.source first product.id now
  return ({ state with brands, categories, products, sourceRecords }, product)

def applyProductGroup (applying : Applying) (group : ProductGroup) : Except Failure Applying := do
  let (catalog, product) <- openGroup unicode ids options now applying.catalog group.first.input
  group.rows.foldlM (applyRow unicode ids options now product) { applying with catalog }

end Application

def validRows (payload : List ParsedCatalogImportRow) : List ValidRow :=
  payload.filterMap fun row => row.input.map fun input => { rowNumber := row.rowNumber, input }

structure AppliedImport where
  catalog : CatalogState
  batchId : Id

def apply (unicode : Unicode) (state : CatalogState) (previewBatchId : Id) (ids : ImportIds) (now : Int) :
    Except Failure AppliedImport := do
  let stored <- orThrow ((state.imports.find? previewBatchId).filter (·.dryRun)) importNotFound
  throwIf (stored.status ≠ .previewValid) (conflict "CATALOG_IMPORT_PREVIEW_NOT_APPLICABLE")
  throwIf (stored.payload = []) (conflict "CATALOG_IMPORT_PREVIEW_PAYLOAD_INVALID")
  throwIf (stored.payloadHash ≠ (stored.payload, stored.toCatalogImportOptions))
    (conflict "CATALOG_IMPORT_PREVIEW_FINGERPRINT_MISMATCH")
  match batchUnder state stored.importKey false with
  | some existing =>
    throwIf (existing.payloadHash ≠ stored.payloadHash) importKeyConflict
    return { catalog := state, batchId := existing.id }
  | none =>
    let rows := validRows stored.payload
    throwIf (rows = []) (conflict "CATALOG_IMPORT_NO_VALID_ROWS")
    let finished <- (groupRows rows).foldlM
      (applyProductGroup unicode ids stored.toCatalogImportOptions now) { catalog := state, rows := [] }
    let imports <- orThrow (finished.catalog.imports.insert? {
      stored.toCatalogImportOptions with
      id := ids.batch
      dryRun := false
      payloadHash := stored.payloadHash
      status := .appliedWithWarnings
      payload := stored.payload
      previewBatchId := some stored.id
      appliedCount := finished.rows.length
      rolledBackAt := none
      rows := finished.rows }) applyFailed
    return { catalog := { finished.catalog with imports }, batchId := ids.batch }

section Rollback

def createOnly (row : CatalogImportRow) : Bool :=
  row.status == .created && row.productId.isSome && row.variantId.isSome &&
    row.productPostVersion.isSome && row.postVersion.isSome

def assertCreateOnlyRollback (rows : List CatalogImportRow) : Except Failure Unit :=
  throwIf (rows = [] \/ Not (rows.all createOnly))
    (conflict "CATALOG_IMPORT_ROLLBACK_REQUIRES_MANUAL_REVIEW")

def withdrawnVariant (now : Int) (row : ProductVariant) : ProductVariant :=
  { row with publicationStatus := .draft, archivedAt := some now, version := row.version + 1 }

theorem withdrawnVariant_key (now : Int) (row : ProductVariant) : (withdrawnVariant now row).id = row.id :=
  rfl

def withdrawnProduct (now : Int) (row : Product) : Product :=
  { row with
    publicationStatus := .archived
    publishedAt := none
    suspendedAt := none
    archivedAt := some now
    version := row.version + 1 }

theorem withdrawnProduct_key (now : Int) (row : Product) : (withdrawnProduct now row).id = row.id := rfl

def withdrawVariant (now : Int) (variants : Table ProductVariant.id) (row : CatalogImportRow) :
    Except Failure (Table ProductVariant.id) :=
  Database.updateOne variants
    (fun variant => some variant.id == row.variantId && some variant.version == row.postVersion &&
      variant.deletedAt.isNone && variant.archivedAt.isNone)
    (withdrawnVariant now) (withdrawnVariant_key now) rollbackConflict

-- One version per product, or the rows disagree about it.
def addProduct (products : List (Option Id × Option Int)) (row : CatalogImportRow) :
    Except Failure (List (Option Id × Option Int)) :=
  match products.lookup row.productId with
  | some version => do
    throwIf (version ≠ row.productPostVersion) rollbackConflict
    return products
  | none => return products ++ [(row.productId, row.productPostVersion)]

def rollbackProducts (rows : List CatalogImportRow) : Except Failure (List (Option Id × Option Int)) :=
  rows.foldlM addProduct []

def withdrawProduct (now : Int) (products : Table Product.id) (wanted : Option Id × Option Int) :
    Except Failure (Table Product.id) :=
  Database.updateOne products
    (fun product => some product.id == wanted.1 && some product.version == wanted.2 &&
      product.deletedAt.isNone && product.archivedAt.isNone)
    (withdrawnProduct now) (withdrawnProduct_key now) rollbackConflict

def rolledBackRow (row : CatalogImportRow) : CatalogImportRow :=
  { row with status := .rolledBack, action := "ARCHIVE_CREATED" }

def rolledBackBatch (now : Int) (batch : CatalogImportBatch) : CatalogImportBatch :=
  { batch with status := .rolledBack, rolledBackAt := some now, rows := batch.rows.map rolledBackRow }

theorem rolledBackBatch_key (now : Int) (batch : CatalogImportBatch) :
    (rolledBackBatch now batch).id = batch.id := rfl

def rollback (state : CatalogState) (batchId : Id) (now : Int) : Except Failure CatalogState := do
  let batch <- orThrow ((state.imports.find? batchId).filter fun batch => !batch.dryRun) importNotFound
  if batch.status = .rolledBack then return state
  throwIf (batch.status ≠ .applied /\ batch.status ≠ .appliedWithWarnings)
    (conflict "CATALOG_IMPORT_NOT_ROLLBACKABLE")
  assertCreateOnlyRollback batch.rows
  throwIf batch.rolledBackAt.isSome rollbackConflict
  let variants <- batch.rows.foldlM (withdrawVariant now) state.variants
  let wanted <- rollbackProducts batch.rows
  let products <- wanted.foldlM (withdrawProduct now) state.products
  return {
    state with
    variants
    products
    imports := state.imports.modify batchId (rolledBackBatch now) (rolledBackBatch_key now) }

end Rollback

end VapeCommerce.Catalog.Import
