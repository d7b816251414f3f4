import VapeCommerce.Catalog.Rewrites
import VapeCommerce.Catalog.Operations
import VapeCommerce.Checkout.LinePricing

set_option autoImplicit false

-- Promotional prices against regular ones: each service checks the pair, an import only rewrites one.
namespace VapeCommerce.Catalog.Prices

open VapeCommerce.Lib VapeCommerce.Lib.Outcome VapeCommerce.Schema VapeCommerce.Catalog.Import
open VapeCommerce.Catalog.Taxonomy VapeCommerce.Catalog.Applied VapeCommerce.Catalog.Fidelity
open VapeCommerce.Catalog.Rewrites

section Given

-- The last price that rows give a variant.
def givenPrice (before : CatalogState) (source : CatalogImportSource) (rows : List ValidRow) (id : Id) :
    Option Amount :=
  ((rows.filter (about before source id)).filterMap (·.input.priceMillimes)).getLast?

-- The price a variant of the catalogue has once some rows are behind.
def repriced (options : CatalogImportOptions) (before : CatalogState) (done : List ValidRow)
    (old : ProductVariant) : Amount :=
  if options.overridePrice then
    (givenPrice before options.source done old.id).getD old.priceMillimes
  else old.priceMillimes

end Given

section Order

-- Every stored payload is what the validation of an upload has left of it.
def Stored (state : CatalogState) : Prop :=
  forall batch, batch ∈ state.imports.rows -> ValidPayload batch.payload

variable {unicode : Unicode} {state next : CatalogState}

theorem preview_stored {id : Id} {parsed : List ParsedCatalogImportRow} {options : CatalogImportOptions}
    (stored : Stored state) (ran : preview state id parsed options = .ok next) : Stored next := by
  simp only [preview, bind_ok, throwIf_ok] at ran
  obtain ⟨_, -, ran⟩ := ran
  split at ran
  next =>
    simp only [bind_ok, throwIf_ok, pure_ok] at ran
    obtain ⟨_, -, rfl⟩ := ran
    exact stored
  next =>
    simp only [bind_ok, Database.create_ok, pure_ok] at ran
    obtain ⟨imports, inserted, rfl⟩ := ran
    intro batch there
    rw [(Table.insert?_rows inserted).1, List.mem_append, List.mem_singleton] at there
    rcases there with present | rfl
    next => exact stored batch present
    next => exact ⟨parsed, rfl⟩

theorem apply_stored {previewBatchId : Id} {ids : ImportIds} {now : Int} {result : AppliedImport}
    (stored : Stored state) (ran : Import.apply unicode state previewBatchId ids now = .ok result) :
    Stored result.catalog := by
  obtain ⟨batch, found, -, ⟨existing, -, rfl⟩ | ⟨-, finished, imports, looped, inserted, rfl⟩⟩ :=
    apply_cases ran
  next => exact stored
  next =>
    rw [(groups_progress looped).imports] at inserted
    intro other there
    simp only [(Table.insert?_rows inserted).1, List.mem_append, List.mem_singleton] at there
    rcases there with present | rfl
    next => exact stored other present
    next => exact stored batch (Table.find?_mem found)

theorem rollback_stored {batchId : Id} {now : Int} (stored : Stored state)
    (undone : Import.rollback state batchId now = .ok next) : Stored next := by
  obtain ⟨batch, -, -, ⟨-, rfl⟩ | ⟨-, -, -, variants, wanted, products, -, -, -, rfl⟩⟩ :=
    Undo.rollback_cases undone
  next => exact stored
  next =>
    intro other there
    obtain ⟨was, present, ⟨-, rfl⟩ | ⟨-, rfl⟩⟩ := Table.rewrite_mem there
    next => exact stored was present
    next => exact stored other present

end Order

section Runs

open VapeCommerce.Lib.Runs VapeCommerce.Checkout.Pricing VapeCommerce.Checkout.LinePricing
open VapeCommerce.Database

variable (unicode : Unicode)

def Accepted (state : CatalogState) (request : CatalogRequest) : Prop :=
  exists next, exec unicode state request = .ok next

end Runs

section Examples

open VapeCommerce.Lib.Runs
open VapeCommerce.Catalog.Undo (ascii podRow parsedRow podUpload podIds)

def listPrice : Amount := { millimes := 20000, bounds := Checkout.LinePricing.podPrice.bounds }

end Examples

end VapeCommerce.Catalog.Prices
