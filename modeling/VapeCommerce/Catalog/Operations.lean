import VapeCommerce.Catalog.Taxonomy
import VapeCommerce.Catalog.Products
import VapeCommerce.Catalog.Variants
import VapeCommerce.Catalog.Import
import VapeCommerce.Lib.Runs

set_option autoImplicit false

-- The catalogue services as one system: every request is one atomic step.
namespace VapeCommerce.Catalog

open VapeCommerce.Lib VapeCommerce.Lib.Outcome VapeCommerce.Schema

inductive CatalogCall where
  | createBrand (id : Id) (input : Taxonomy.CreateBrand)
  | updateBrand (id : Id) (input : Taxonomy.UpdateBrand)
  | shelveBrand (id : Id) (expectedUpdatedAt : Int) (archive : Bool)
  | createCategory (id : Id) (input : Taxonomy.CreateCategory)
  | updateCategory (id : Id) (input : Taxonomy.UpdateCategory)
  | shelveCategory (id : Id) (expectedUpdatedAt : Int) (archive : Bool)
  | createProduct (id : Id) (input : Products.CreateProduct)
  | updateProduct (id : Id) (input : Products.UpdateProduct)
  | confirmMediaReview (id : Id) (version : Int) (reason : Text)
  | shelveProduct (id : Id) (version : Int) (archive : Bool)
  | createVariant (productId id : Id) (input : Variants.CreateProductVariant)
  | updateVariant (productId id : Id) (input : Variants.UpdateProductVariant)
  | shelveVariant (productId id : Id) (version : Int) (archive : Bool)
  | previewImport (id : Id) (parsed : List ParsedCatalogImportRow) (options : CatalogImportOptions)
  | applyImport (previewBatchId : Id) (ids : Import.ImportIds)
  | rollbackImport (batchId : Id)
  | surroundings (db : Database.Db) (images : List ProductImage)
      (attributeValues : List ProductAttributeValue)

-- `surroundings` is what the services of stock, media and settings have done meanwhile.
structure CatalogRequest where
  now : Int
  call : CatalogCall

variable (unicode : Unicode)

def exec (state : CatalogState) (request : CatalogRequest) : Except Failure CatalogState :=
  let now := request.now
  match request.call with
  | .createBrand id input => Taxonomy.createBrand state id input now
  | .updateBrand id input => Taxonomy.updateBrand state id input now
  | .shelveBrand id expectedUpdatedAt archive =>
    Taxonomy.changeBrandArchiveState state id expectedUpdatedAt archive now
  | .createCategory id input => Taxonomy.createCategory state id input now
  | .updateCategory id input => Taxonomy.updateCategory state id input now
  | .shelveCategory id expectedUpdatedAt archive =>
    Taxonomy.changeCategoryArchiveState state id expectedUpdatedAt archive now
  | .createProduct id input => Products.create state id input
  | .updateProduct id input => Products.update unicode state id input now
  | .confirmMediaReview id version reason => Products.confirmMediaReview state id version reason
  | .shelveProduct id version archive => Products.changeArchiveState state id version archive now
  | .createVariant productId id input => Variants.create state productId id input
  | .updateVariant productId id input => Variants.update state productId id input now
  | .shelveVariant productId id version archive =>
    Variants.changeArchive state productId id version archive now
  | .previewImport id parsed options => Import.preview state id parsed options
  | .applyImport previewBatchId ids =>
    (·.catalog) <$> Import.apply unicode state previewBatchId ids now
  | .rollbackImport batchId => Import.rollback state batchId now
  | .surroundings db images attributeValues => .ok { state with db, images, attributeValues }

def step (state : CatalogState) (request : CatalogRequest) : CatalogState :=
  (succeeded (exec unicode state request)).getD state

def opening (db : Database.Db) : CatalogState where
  db := db
  images := []
  attributeValues := []
  brands := Table.empty
  categories := Table.empty
  products := Table.empty
  variants := Table.empty
  flavors := Table.empty
  sourceRecords := Table.empty
  imports := Table.empty

end VapeCommerce.Catalog
