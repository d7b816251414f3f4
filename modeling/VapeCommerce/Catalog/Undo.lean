import VapeCommerce.Catalog.Applied
import VapeCommerce.Checkout.LinePricing
import VapeCommerce.System

set_option autoImplicit false

-- An import and its rollback, compared with the catalogue the import started from.
namespace VapeCommerce.Catalog.Undo

open VapeCommerce.Lib VapeCommerce.Lib.Outcome VapeCommerce.Schema VapeCommerce.Catalog.Import
open VapeCommerce.Catalog.Applied

section Rollback

variable {now : Int}

theorem withdrawVariant_round :
    Table.UpdateRound id (fun row : CatalogImportRow => row.variantId.getD 0) (fun _ => true)
      (fun row (variant : ProductVariant) => some variant.id == row.variantId &&
        some variant.version == row.postVersion && variant.deletedAt.isNone && variant.archivedAt.isNone)
      (withdrawnVariant now) (withdrawVariant now) where
  picked := by
    intro variants row next ran _
    obtain ⟨one, rfl⟩ := (Database.updateOne_ok _ _ _ _ _ _).1 ran
    exact ⟨one, rfl⟩
  passed _ _ _ _ pass := nomatch pass
  only := by
    intro row variant hit
    simp only [Bool.and_eq_true, beq_iff_eq] at hit
    simp [← hit.1.1.1]
  keeps := withdrawnVariant_key now

theorem withdrawProduct_round :
    Table.UpdateRound id (fun wanted : Option Id × Option Int => wanted.1.getD 0) (fun _ => true)
      (fun wanted (product : Product) => some product.id == wanted.1 &&
        some product.version == wanted.2 && product.deletedAt.isNone && product.archivedAt.isNone)
      (withdrawnProduct now) (withdrawProduct now) where
  picked := by
    intro products wanted next ran _
    obtain ⟨one, rfl⟩ := (Database.updateOne_ok _ _ _ _ _ _).1 ran
    exact ⟨one, rfl⟩
  passed _ _ _ _ pass := nomatch pass
  only := by
    intro wanted product hit
    simp only [Bool.and_eq_true, beq_iff_eq] at hit
    simp [← hit.1.1.1]
  keeps := withdrawnProduct_key now

theorem withdrawVariants_ok {rows : List CatalogImportRow} {variants after : Table ProductVariant.id}
    (ran : rows.foldlM (withdrawVariant now) variants = .ok after) :
    after.rows = variants.rows.map (Table.rewrite
        (fun variant => decide (variant.id ∈ rows.map fun row => row.variantId.getD 0))
        (withdrawnVariant now)) /\
      forall row, row ∈ rows -> exists variant, variant ∈ variants.rows /\
        some variant.id = row.variantId /\ variant.archivedAt = none := by
  have once := (Table.update_loop_distinct withdrawVariant_round
    (fun variant : ProductVariant => variant.archivedAt.isNone)
    (by grind) (fun _ => rfl) rows ran).1
  obtain ⟨rewritten, held⟩ := Table.update_loop withdrawVariant_round rows once ran
  rw [List.filter_true] at rewritten
  refine ⟨rewritten, fun row member => ?_⟩
  obtain ⟨variant, present, hit⟩ := held row member rfl
  simp only [Bool.and_eq_true, beq_iff_eq, Option.isNone_iff_eq_none] at hit
  exact ⟨variant, present, hit.1.1.1, hit.2⟩

theorem withdrawProducts_ok {wanted : List (Option Id × Option Int)} {products after : Table Product.id}
    (ran : wanted.foldlM (withdrawProduct now) products = .ok after) :
    after.rows = products.rows.map (Table.rewrite
        (fun product => decide (product.id ∈ wanted.map fun one => one.1.getD 0))
        (withdrawnProduct now)) /\
      forall one, one ∈ wanted -> exists product, product ∈ products.rows /\
        some product.id = one.1 /\ product.archivedAt = none := by
  have once := (Table.update_loop_distinct withdrawProduct_round
    (fun product : Product => product.archivedAt.isNone)
    (by grind) (fun _ => rfl) wanted ran).1
  obtain ⟨rewritten, held⟩ := Table.update_loop withdrawProduct_round wanted once ran
  rw [List.filter_true] at rewritten
  refine ⟨rewritten, fun one member => ?_⟩
  obtain ⟨product, present, hit⟩ := held one member rfl
  simp only [Bool.and_eq_true, beq_iff_eq, Option.isNone_iff_eq_none] at hit
  exact ⟨product, present, hit.1.1.1, hit.2⟩

theorem lookup_keys {A B : Type} [BEq A] [LawfulBEq A] (pairs : List (A × B)) (wanted : A) :
    pairs.lookup wanted = none <-> Not (wanted ∈ pairs.map (·.1)) := by
  induction pairs with
  | nil => simp
  | cons pair rest ih =>
    obtain ⟨key, value⟩ := pair
    by_cases same : wanted = key
    next => simp [same]
    next =>
      have different : (wanted == key) = false := by simpa using same
      simp [List.lookup_cons, different, ih, same]

-- The products a rollback goes through are those its rows name.
theorem rollbackProducts_ids {rows : List CatalogImportRow} {wanted : List (Option Id × Option Int)}
    (ran : rollbackProducts rows = .ok wanted) (id : Option Id) :
    id ∈ wanted.map (·.1) <-> id ∈ rows.map (·.productId) := by
  have settled := foldlM_remaining (fun products rest =>
    (id ∈ products.map (fun one : Option Id × Option Int => one.1) \/
      id ∈ rest.map CatalogImportRow.productId) <-> id ∈ rows.map (·.productId)) ?_ (by simp) ran
  next => simpa using settled
  intro products row rest next so_far added
  unfold addProduct at added
  cases known : products.lookup row.productId with
  | some version =>
    simp only [known, bind_ok, throwIf_ok, pure_ok] at added
    obtain ⟨_, -, rfl⟩ := added
    have present : row.productId ∈ products.map (·.1) := by
      by_contra absent
      rw [(lookup_keys products row.productId).2 absent] at known
      cases known
    rw [← so_far, List.map_cons, List.mem_cons]
    grind
  | none =>
    simp only [known, pure_ok] at added
    subst added
    rw [← so_far, List.map_append, List.mem_append, List.map_cons, List.map_nil, List.mem_singleton,
      List.map_cons, List.mem_cons, or_assoc]

variable {state after : CatalogState} {batchId : Id}

/-- A rollback that succeeds had nothing left to do, or undoes a batch whose every row made something. -/
theorem rollback_cases (undone : Import.rollback state batchId now = .ok after) :
    exists batch, state.imports.find? batchId = some batch /\ batch.dryRun = false /\
      ((batch.status = .rolledBack /\ after = state) \/
      (batch.status ≠ .rolledBack /\ batch.rows ≠ [] /\
        (forall row, row ∈ batch.rows -> createOnly row = true) /\
        exists variants wanted products,
          batch.rows.foldlM (withdrawVariant now) state.variants = .ok variants /\
          rollbackProducts batch.rows = .ok wanted /\
          wanted.foldlM (withdrawProduct now) state.products = .ok products /\
          after = { state with
            variants
            products
            imports := state.imports.modify batchId (rolledBackBatch now) (rolledBackBatch_key now) })) := by
  simp only [Import.rollback, bind_ok, orThrow_ok, Option.filter_eq_some_iff] at undone
  obtain ⟨batch, ⟨found, applied⟩, undone⟩ := undone
  refine ⟨batch, found, by simpa using applied, ?_⟩
  split at undone
  next done =>
    simp only [pure_ok] at undone
    exact .inl ⟨done, undone.symm⟩
  next pending =>
    simp only [bind_ok, throwIf_ok, assertCreateOnlyRollback, pure_ok] at undone
    obtain ⟨_, -, _, checked, _, -, variants, withdrawn, wanted, collected, products, archived, rfl⟩ :=
      undone
    rw [not_or] at checked
    exact .inr ⟨pending, checked.1, by simpa using checked.2, variants, wanted, products, withdrawn,
      collected, archived, rfl⟩

end Rollback

section Application

variable {unicode : Unicode} {ids : ImportIds} {options : CatalogImportOptions} {now : Int}

-- A product that rows of the batch carry, or that is in work.
def Covered (rows : List CatalogImportRow) (working : Option Id) (id : Id) : Prop :=
  working = some id \/ exists row, row ∈ rows /\ row.productId = some id

theorem Covered.later {rows : List CatalogImportRow} {working : Option Id} {id : Id} (other : Option Id)
    {row : CatalogImportRow} (carried : row.productId = working) (covered : Covered rows working id) :
    Covered (rows ++ [row]) other id := by
  rcases covered with here | ⟨known, member, same⟩
  next => exact .inr ⟨row, by simp, carried.trans here⟩
  next => exact .inr ⟨known, by simp [member], same⟩

/-- How the rows written so far tell what the import has added to the catalogue it started from:
`left` are the groups to come and `working` is the product whose rows are being written. -/
structure Traced (before : CatalogState) (source : CatalogImportSource) (groups : List ProductGroup)
    (applying : Applying) (working : Option Id) (left : List ProductGroup) : Prop where
  progress : Progress before applying.catalog
  within : forall group, group ∈ left -> group ∈ groups
  distinct : (productKeys left).Nodup
  linked : forall group, group ∈ left ->
    linkedProduct applying.catalog source group.first.input.productKey =
      linkedProduct before source group.first.input.productKey
  known : forall group, group ∈ groups -> forall product,
    findProduct before source group.first.input = some product ->
      group ∈ left \/ Covered applying.rows working product.id
  made : forall product, product ∈ applying.catalog.products.rows ->
    product.id ∈ before.products.rows.map Product.id \/ Covered applying.rows working product.id
  fresh : (forall group, group ∈ groups -> findProduct before source group.first.input = none) ->
    forall id, Covered applying.rows working id -> Not (id ∈ before.products.rows.map Product.id)
  variants : forall variant, variant ∈ applying.catalog.variants.rows ->
    variant.id ∈ before.variants.rows.map ProductVariant.id \/
      exists row, row ∈ applying.rows /\ row.variantId = some variant.id
  created : forall row, row ∈ applying.rows -> row.status = .created -> forall id,
    row.variantId = some id -> Not (id ∈ before.variants.rows.map ProductVariant.id)
  untouched : (forall row, row ∈ applying.rows -> row.status = .created) ->
    forall variant, variant ∈ before.variants.rows -> variant ∈ applying.catalog.variants.rows

theorem insert?_id {R : Type} {key : R -> Id} {table next : Table key} {row : R}
    (inserted : table.insert? row = some next) : Not (key row ∈ table.rows.map key) := by
  intro member
  obtain ⟨other, present, same⟩ := List.mem_map.1 member
  exact (Table.insert?_rows inserted).2 other present same

-- The product a group works on: what it is, by what the group finds at its turn.
theorem writeProduct_id {state : CatalogState} {source : CatalogImportSource}
    {row : CatalogImportRowInput} {brandId categoryId : Id} {products : Table Product.id}
    {product : Product}
    (ran : writeProduct state ids source row brandId categoryId = .ok (products, product)) :
    (forall found, findProduct state source row = some found -> product.id = found.id) /\
      (findProduct state source row = none -> Not (product.id ∈ state.products.rows.map Product.id)) /\
      forall other, other ∈ products.rows ->
        other.id ∈ state.products.rows.map Product.id \/ other.id = product.id := by
  obtain ⟨current, found, -, rfl, rfl⟩ | ⟨missed, -, -, inserted⟩ := writeProduct_cases ran
  next =>
    refine ⟨fun other seen => ?_, fun missed => ?_, fun other member => .inl ?_⟩
    next =>
      obtain rfl := Option.some.inj (found.symm.trans seen)
      rfl
    next => rw [found] at missed; cases missed
    next =>
      have keys := Table.map_field_rewrite state.products.rows Product.id
        (fun row => decide (row.id = current.id)) _ (rewrittenProduct_key brandId categoryId row)
      rw [← keys]
      exact List.mem_map_of_mem member
  next =>
    refine ⟨fun other same => ?_, fun _ => insert?_id inserted, fun other member => ?_⟩
    next => rw [missed] at same; cases same
    next =>
      rw [(Table.insert?_rows inserted).1, List.mem_append, List.mem_singleton] at member
      rcases member with known | rfl
      next => exact .inl (List.mem_map_of_mem known)
      next => exact .inr rfl

theorem Traced.opens {before : CatalogState} {groups left : List ProductGroup} {applying : Applying}
    {group : ProductGroup} {catalog : CatalogState} {product : Product}
    (traced : Traced before options.source groups applying none (group :: left))
    (opened : openGroup unicode ids options now applying.catalog group.first.input =
      .ok (catalog, product)) :
    Traced before options.source groups { applying with catalog } (some product.id) left := by
  have moved := openGroup_progress opened
  obtain ⟨brands, brandId, categories, categoryId, products, -, -, written, rfl⟩ := openGroup_cases opened
  obtain ⟨identified, inserted, added⟩ := writeProduct_id written
  have keys := traced.distinct
  have unfolded : productKeys (group :: left) = group.first.input.productKey :: productKeys left := rfl
  rw [unfolded, List.nodup_cons] at keys
  have here := traced.linked group (by simp)
  exact {
    progress := traced.progress.trans moved
    within := fun other member => traced.within other (by simp [member])
    distinct := keys.2
    linked := by
      intro other member
      have apart : other.first.input.productKey ≠ group.first.input.productKey := fun same =>
        keys.1 (same ▸ List.mem_map_of_mem member)
      rw [← traced.linked other (by simp [member])]
      unfold linkedProduct
      rw [linkProduct_other (by simp [apart])]
    known := by
      intro other member found seen
      rcases traced.known other member found seen with waiting | covered
      next =>
        rcases List.mem_cons.1 waiting with rfl | later
        next =>
          obtain ⟨current, now, same⟩ := findProduct_later traced.progress here seen
          exact .inr (.inl (congrArg some ((identified current now).trans same.id)))
        next => exact .inl later
      next =>
        rcases covered with working | row
        next => cases working
        next => exact .inr (.inr row)
    made := by
      intro other member
      rcases added other member with known | same
      next =>
        obtain ⟨row, present, same⟩ := List.mem_map.1 known
        rcases traced.made row present with old | working | row
        next => exact .inl (same ▸ old)
        next => cases working
        next => exact .inr (.inr (same ▸ row))
      next => exact .inr (.inl (congrArg some same.symm))
    fresh := by
      intro unknown id covered member
      rcases covered with working | row
      next =>
        obtain rfl := Option.some.inj working
        cases found : findProduct applying.catalog options.source group.first.input with
        | none => exact inserted found (traced.progress.productIds member)
        | some current =>
          obtain ⟨old, present, same⟩ := List.mem_map.1 member
          have missed := unknown group (traced.within group (by simp))
          exact findProduct_new traced.progress here missed found present
            (same.trans (identified current found))
      next => exact traced.fresh unknown id (.inr row) member
    variants := traced.variants
    created := traced.created
    untouched := traced.untouched }

theorem Traced.each {before : CatalogState} {groups left : List ProductGroup} {applying next : Applying}
    {product : Product} {row : ValidRow} (other : Option Id)
    (unseen : other = some product.id \/ other = none)
    (traced : Traced before options.source groups applying (some product.id) left)
    (ran : applyRow unicode ids options now product applying row = .ok next) :
    Traced before options.source groups next other left := by
  have moved := applyRow_progress ran
  obtain ⟨flavors, flavorId, variants, variant, created, written, rfl⟩ := applyRow_cases ran
  have shrinks : forall id, Covered (applying.rows ++ [appliedRow product variant created row]) other id ->
      Covered applying.rows (some product.id) id := by
    rintro id (working | ⟨known, member, same⟩)
    next =>
      rcases unseen with rfl | rfl
      next => exact .inl working
      next => cases working
    next =>
      rcases List.mem_append.1 member with old | new
      next => exact .inr ⟨known, old, same⟩
      next =>
        obtain rfl := List.mem_singleton.1 new
        exact .inl same
  exact {
    progress := traced.progress.trans moved
    within := traced.within
    distinct := traced.distinct
    linked := by
      intro group member
      rw [← traced.linked group member]
      unfold linkedProduct
      rw [linkVariant_other (by simp)]
    known := fun group member found seen =>
      (traced.known group member found seen).imp_right (Covered.later other rfl)
    made := fun one member => (traced.made one member).imp_right (Covered.later other rfl)
    fresh := fun unknown id covered => traced.fresh unknown id (shrinks id covered)
    variants := by
      intro one member
      have old : forall known, known ∈ applying.catalog.variants.rows ->
          known.id ∈ before.variants.rows.map ProductVariant.id \/ exists written,
            written ∈ applying.rows ++ [appliedRow product variant created row] /\
              written.variantId = some known.id := fun known present =>
        (traced.variants known present).imp_right fun ⟨written, there, same⟩ =>
          ⟨written, by simp [there], same⟩
      obtain ⟨-, ⟨-, -, -, inserted⟩ | ⟨found, -, -, -, rfl, -⟩⟩ := writeVariant_cases written
      next =>
        rw [(Table.insert?_rows inserted).1, List.mem_append, List.mem_singleton] at member
        rcases member with known | rfl
        next => exact old one known
        next => exact .inr ⟨_, List.mem_append_right _ (List.mem_singleton_self _), rfl⟩
      next =>
        obtain ⟨known, present, ⟨-, rfl⟩ | ⟨-, rfl⟩⟩ := Table.rewrite_mem member
        next => exact old known present
        next => exact old one present
    created := by
      intro one member new id same known
      rcases List.mem_append.1 member with old | last
      next => exact traced.created one old new id same known
      next =>
        obtain rfl := List.mem_singleton.1 last
        obtain rfl := Option.some.inj same
        obtain ⟨-, ⟨-, -, -, inserted⟩ | ⟨found, -, rfl, -, -, -⟩⟩ := writeVariant_cases written
        next => exact insert?_id inserted (traced.progress.variantIds known)
        next => cases new
    untouched := by
      intro all variant member
      have present := traced.untouched (fun row there => all row (by simp [there])) variant member
      have new := all _ (List.mem_append_right _ (List.mem_singleton_self _))
      obtain ⟨-, ⟨-, -, -, inserted⟩ | ⟨found, -, rfl, -, -, -⟩⟩ := writeVariant_cases written
      next =>
        rw [(Table.insert?_rows inserted).1]
        exact List.mem_append_left _ present
      next => cases new }

theorem groups_traced {before : CatalogState} {groups : List ProductGroup} {finished : Applying}
    (distinct : (productKeys groups).Nodup)
    (ran : groups.foldlM (applyProductGroup unicode ids options now)
      { catalog := before, rows := [] } = .ok finished) :
    Traced before options.source groups finished none [] := by
  refine groups_keep
    (fun applying left => Traced before options.source groups applying none left)
    (fun applying product rows left =>
      Traced before options.source groups applying (if rows = [] then none else some product.id) left)
    ?_ ?_ ?_ ?_ ran
  next =>
    intro applying group rest catalog product traced opened
    simpa [ProductGroup.rows] using traced.opens opened
  next =>
    intro applying product row rest left next traced ran
    exact Traced.each _ (by split <;> simp) (by simpa using traced) ran
  next => exact fun applying product left traced => by simpa using traced
  next => exact {
    progress := Progress.refl before
    within := fun _ member => member
    distinct
    linked := fun _ _ => rfl
    known := fun _ member _ _ => .inl member
    made := fun product member => .inl (List.mem_map_of_mem member)
    fresh := by rintro - id (working | ⟨row, member, -⟩) <;> simp_all
    variants := fun variant member => .inl (List.mem_map_of_mem member)
    created := by simp
    untouched := fun _ _ member => member }

end Application

section Statement

-- Open in `applied`, shelved in `after`.
def ArchivedBetween {R : Type} (key : R -> Id) (archivedAt : R -> Option Int) (applied after : List R)
    (id : Id) : Prop :=
  (exists row, row ∈ applied /\ key row = id /\ archivedAt row = none) /\
    exists row, row ∈ after /\ key row = id /\ archivedAt row ≠ none

/-- The rows of `before` have in `after` the publication and archival state they had, and what has
been archived since `applied` is what `applied` has more than `before`. -/
structure TouchesOnlyCreated (before applied after : CatalogState) : Prop where
  products : forall product, product ∈ before.products.rows -> exists later,
    later ∈ after.products.rows /\ later.id = product.id /\
      later.publicationStatus = product.publicationStatus /\ later.archivedAt = product.archivedAt
  variants : forall variant, variant ∈ before.variants.rows -> exists later,
    later ∈ after.variants.rows /\ later.id = variant.id /\
      later.publicationStatus = variant.publicationStatus /\ later.archivedAt = variant.archivedAt
  archivedProducts : forall id,
    ArchivedBetween Product.id (·.archivedAt) applied.products.rows after.products.rows id <->
      id ∈ applied.products.rows.map Product.id /\ Not (id ∈ before.products.rows.map Product.id)
  archivedVariants : forall id,
    ArchivedBetween ProductVariant.id (·.archivedAt) applied.variants.rows after.variants.rows id <->
      id ∈ applied.variants.rows.map ProductVariant.id /\
        Not (id ∈ before.variants.rows.map ProductVariant.id)

-- No group of the preview is about a product that the catalogue already has; of an import applied
-- before, the batch has already been rolled back.
def CreatesOnly (before : CatalogState) (preview : CatalogImportBatch) : Prop :=
  match batchUnder before preview.importKey false with
  | some existing => existing.status = .rolledBack
  | none => forall group, group ∈ groupRows (validRows preview.payload) ->
      findProduct before preview.source group.first.input = none

-- Rows that an update by their keys archives, all of them open before.
theorem archived_between {R : Type} {key : R -> Id} {archivedAt : R -> Option Int}
    {applied : Table key} {after : List R} {targets : List Id} {change : R -> R}
    (keys : forall row, key (change row) = key row) (archives : forall row, archivedAt (change row) ≠ none)
    (rewritten : after =
      applied.rows.map (Table.rewrite (fun row => decide (key row ∈ targets)) change))
    (opened : forall id, id ∈ targets -> exists row, row ∈ applied.rows /\ key row = id /\
      archivedAt row = none) (id : Id) :
    ArchivedBetween key archivedAt applied.rows after id <-> id ∈ targets := by
  subst rewritten
  constructor
  next =>
    rintro ⟨⟨row, member, rfl, stillOpen⟩, later, there, same, archived⟩
    obtain ⟨was, present, ⟨chosen, rfl⟩ | ⟨missed, rfl⟩⟩ := Table.rewrite_mem there
    next =>
      rw [keys] at same
      simpa [same] using chosen
    next =>
      rw [applied.same_of_key present member same] at archived
      exact absurd stillOpen archived
  next =>
    intro target
    obtain ⟨row, member, rfl, stillOpen⟩ := opened id target
    refine ⟨⟨row, member, rfl, stillOpen⟩, change row, ?_, keys row, archives row⟩
    exact List.mem_map.2 ⟨row, member, Table.rewrite_chosen (by simpa using target)⟩

theorem targets_mem {A : Type} {targets : List A} {field : A -> Option Id} {R : Type} {key : R -> Id}
    {rows : List R} {archivedAt : R -> Option Int}
    (held : forall one, one ∈ targets -> exists row, row ∈ rows /\ some (key row) = field one /\
      archivedAt row = none) (id : Id) :
    (id ∈ targets.map (fun one => (field one).getD 0) <-> exists one, one ∈ targets /\ field one = some id) /\
      (id ∈ targets.map (fun one => (field one).getD 0) -> exists row, row ∈ rows /\ key row = id /\
        archivedAt row = none) := by
  have named : id ∈ targets.map (fun one => (field one).getD 0) <->
      exists one, one ∈ targets /\ field one = some id := by
    constructor
    next =>
      intro member
      obtain ⟨one, there, rfl⟩ := List.mem_map.1 member
      obtain ⟨row, -, same, -⟩ := held one there
      exact ⟨one, there, by simp [← same]⟩
    next =>
      rintro ⟨one, there, same⟩
      exact List.mem_map.2 ⟨one, there, by simp [same]⟩
  refine ⟨named, fun member => ?_⟩
  obtain ⟨one, there, same⟩ := named.1 member
  obtain ⟨row, present, found, stillOpen⟩ := held one there
  exact ⟨row, present, Option.some.inj (found.trans same), stillOpen⟩

variable {state after : CatalogState} {batchId : Id} {now : Int}

/-- What a rollback that does anything archives: exactly the products and variants its rows name, each of
them open until then. -/
structure Archives (state after : CatalogState) (rows : List CatalogImportRow) : Prop where
  named : rows ≠ []
  created : forall row, row ∈ rows -> createOnly row = true
  products : exists targets : List Id,
    (forall id, id ∈ targets <-> exists row, row ∈ rows /\ row.productId = some id) /\
    (forall id, id ∈ targets -> exists product, product ∈ state.products.rows /\ product.id = id /\
      product.archivedAt = none) /\
    exists now, after.products.rows = state.products.rows.map
      (Table.rewrite (fun product => decide (product.id ∈ targets)) (withdrawnProduct now))
  variants : exists targets : List Id,
    (forall id, id ∈ targets <-> exists row, row ∈ rows /\ row.variantId = some id) /\
    (forall id, id ∈ targets -> exists variant, variant ∈ state.variants.rows /\ variant.id = id /\
      variant.archivedAt = none) /\
    exists now, after.variants.rows = state.variants.rows.map
      (Table.rewrite (fun variant => decide (variant.id ∈ targets)) (withdrawnVariant now))

theorem rollback_archives (undone : Import.rollback state batchId now = .ok after) :
    exists batch, state.imports.find? batchId = some batch /\
      ((batch.status = .rolledBack /\ after = state) \/
      (batch.status ≠ .rolledBack /\ Archives state after batch.rows)) := by
  obtain ⟨batch, found, -, done | ⟨pending, named, created, variants, wanted, products, withdrawn,
    collected, archived, rfl⟩⟩ := rollback_cases undone
  next => exact ⟨batch, found, .inl done⟩
  next =>
    refine ⟨batch, found, .inr ⟨pending, named, created, ?_, ?_⟩⟩
    next =>
      obtain ⟨rewritten, held⟩ := withdrawProducts_ok archived
      refine ⟨_, fun id => ?_, fun id => (targets_mem held id).2, now, rewritten⟩
      have collectedIds := rollbackProducts_ids collected (some id)
      rw [List.mem_map, List.mem_map] at collectedIds
      exact (targets_mem held id).1.trans collectedIds
    next =>
      obtain ⟨rewritten, held⟩ := withdrawVariants_ok withdrawn
      exact ⟨_, fun id => (targets_mem held id).1, fun id => (targets_mem held id).2, now, rewritten⟩

end Statement

section Exactness

variable {unicode : Unicode} {ids : ImportIds} {now later : Int}
variable {before applied after : CatalogState} {preview : CatalogImportBatch} {result : AppliedImport}

-- A rollback that names something the catalogue had before does not touch only what was created.
theorem archives_known {rows : List CatalogImportRow} (archives : Archives applied after rows)
    (touches : TouchesOnlyCreated before applied after) {row : CatalogImportRow} (member : row ∈ rows)
    {id : Id} (carried : row.productId = some id) : Not (id ∈ before.products.rows.map Product.id) := by
  obtain ⟨targets, named, opened, now, rewritten⟩ := archives.products
  have archived := (archived_between (withdrawnProduct_key now)
    (fun row => Option.some_ne_none now) rewritten opened id).2 ((named id).2 ⟨row, member, carried⟩)
  exact ((touches.archivedProducts id).1 archived).2

theorem traced_touches {options : CatalogImportOptions} {groups : List ProductGroup} {finished : Applying}
    (traced : Traced before options.source groups finished none [])
    (fresh : forall group, group ∈ groups -> findProduct before options.source group.first.input = none)
    (stateOf : applied.products = finished.catalog.products /\ applied.variants = finished.catalog.variants)
    (archives : Archives applied after finished.rows) : TouchesOnlyCreated before applied after := by
  obtain ⟨products, variants⟩ := stateOf
  obtain ⟨productTargets, productNamed, productOpened, now, productsAfter⟩ := archives.products
  obtain ⟨variantTargets, variantNamed, variantOpened, later, variantsAfter⟩ := archives.variants
  have created : forall row, row ∈ finished.rows -> row.status = .created := fun row member => by
    have made := archives.created row member
    simp only [createOnly, Bool.and_eq_true, beq_iff_eq] at made
    exact made.1.1.1.1
  have newProducts : forall id, id ∈ productTargets -> Not (id ∈ before.products.rows.map Product.id) :=
    fun id target => traced.fresh fresh id (.inr ((productNamed id).1 target))
  have newVariants : forall id, id ∈ variantTargets ->
      Not (id ∈ before.variants.rows.map ProductVariant.id) := by
    intro id target
    obtain ⟨row, member, carried⟩ := (variantNamed id).1 target
    exact traced.created row member (created row member) id carried
  refine ⟨fun product member => ?_, fun variant member => ?_, fun id => ?_, fun id => ?_⟩
  next =>
    obtain ⟨row, present, same⟩ := traced.progress.products.later member
    have spared : Not (row.id ∈ productTargets) := fun target =>
      newProducts row.id target (List.mem_map.2 ⟨product, member, same.id.symm⟩)
    refine ⟨row, ?_, same.id, same.status, same.archivedAt⟩
    rw [productsAfter, products]
    exact List.mem_map.2 ⟨row, present, Table.rewrite_other (by simpa using spared)⟩
  next =>
    have present := traced.untouched created variant member
    have spared : Not (variant.id ∈ variantTargets) := fun target =>
      newVariants variant.id target (List.mem_map_of_mem member)
    refine ⟨variant, ?_, rfl, rfl, rfl⟩
    rw [variantsAfter, variants]
    exact List.mem_map.2 ⟨variant, present, Table.rewrite_other (by simpa using spared)⟩
  next =>
    rw [archived_between (withdrawnProduct_key now) (fun row => Option.some_ne_none now) productsAfter
      productOpened]
    constructor
    next =>
      intro target
      obtain ⟨product, member, rfl, -⟩ := productOpened id target
      exact ⟨List.mem_map_of_mem member, newProducts _ target⟩
    next =>
      rintro ⟨member, unknown⟩
      obtain ⟨product, present, rfl⟩ := List.mem_map.1 member
      rcases traced.made product (products ▸ present) with known | working | carried
      next => exact absurd known unknown
      next => cases working
      next => exact (productNamed _).2 carried
  next =>
    rw [archived_between (withdrawnVariant_key later) (fun row => Option.some_ne_none later) variantsAfter
      variantOpened]
    constructor
    next =>
      intro target
      obtain ⟨variant, member, rfl, -⟩ := variantOpened id target
      exact ⟨List.mem_map_of_mem member, newVariants _ target⟩
    next =>
      rintro ⟨member, unknown⟩
      obtain ⟨variant, present, rfl⟩ := List.mem_map.1 member
      rcases traced.variants variant (variants ▸ present) with known | carried
      next => exact absurd known unknown
      next => exact (variantNamed _).2 carried

/-- Undoing an import at once touches only what the import created exactly when it created the product
of every group of its rows. -/
theorem rollback_touches_only_created {previewBatchId : Id}
    (stored : before.imports.find? previewBatchId = some preview)
    (ran : Import.apply unicode before previewBatchId ids now = .ok result)
    (undone : Import.rollback result.catalog result.batchId later = .ok after) :
    TouchesOnlyCreated before result.catalog after <-> CreatesOnly before preview := by
  obtain ⟨found, same, -, ⟨existing, known, rfl⟩ | ⟨unknown, finished, imports, looped, inserted, rfl⟩⟩ :=
    apply_cases ran
  all_goals obtain rfl := Option.some.inj (same.symm.trans stored)
  next =>
    unfold CreatesOnly
    rw [known]
    obtain ⟨batch, at_id, ⟨done, still⟩ | ⟨pending, archives⟩⟩ := rollback_archives undone
    all_goals
      obtain rfl := Option.some.inj ((Table.find?_of_mem (List.mem_of_find?_eq_some known)).symm.trans at_id)
    next =>
      subst still
      refine iff_of_true ⟨fun product member => ⟨product, member, rfl, rfl, rfl⟩,
        fun variant member => ⟨variant, member, rfl, rfl, rfl⟩, fun id => ?_, fun id => ?_⟩ done
      next =>
        refine iff_of_false ?_ (fun new => new.2 new.1)
        rintro ⟨⟨row, member, rfl, stillOpen⟩, other, there, key, archived⟩
        rw [after.products.same_of_key there member key] at archived
        exact archived stillOpen
      next =>
        refine iff_of_false ?_ (fun new => new.2 new.1)
        rintro ⟨⟨row, member, rfl, stillOpen⟩, other, there, key, archived⟩
        rw [after.variants.same_of_key there member key] at archived
        exact archived stillOpen
    next =>
      refine iff_of_false (fun touches => ?_) pending
      obtain ⟨row, member⟩ := List.exists_mem_of_ne_nil _ archives.named
      have created := archives.created row member
      simp only [createOnly, Bool.and_eq_true, Option.isSome_iff_exists] at created
      obtain ⟨id, carried⟩ := created.1.1.1.2
      obtain ⟨targets, named, opened, -⟩ := archives.products
      obtain ⟨product, present, rfl, -⟩ := opened id ((named id).2 ⟨row, member, carried⟩)
      exact archives_known archives touches member carried (List.mem_map_of_mem present)
  next =>
    unfold CreatesOnly
    rw [unknown]
    have traced := groups_traced (groupRows_keys _) looped
    obtain ⟨batch, at_id, archived⟩ := rollback_archives undone
    have made : imports.find? ids.batch = some (appliedBatch found ids.batch finished.rows) :=
      Table.find?_inserted inserted
    obtain rfl := Option.some.inj (made.symm.trans at_id)
    obtain ⟨done, -⟩ | ⟨-, archives⟩ := archived
    next => cases done
    next =>
      constructor
      next =>
        intro touches group member
        cases seen : findProduct before found.source group.first.input with
        | none => rfl
        | some product =>
          rcases traced.known group member product seen with waiting | working | ⟨row, written, carried⟩
          next => cases waiting
          next => cases working
          next =>
            exact absurd (List.mem_map_of_mem (findProduct_mem seen))
              (archives_known archives touches written carried)
      next => exact fun fresh => traced_touches traced fresh ⟨rfl, rfl⟩ archives

end Exactness

section Examples

def ascii : Unicode := { nfkd := id, lower := id }

def podDescription : ProductDescription where
  nameFr := "Pod".toList
  nameAr := "Pod".toList
  productType := .pod
  family := none
  model := none
  containsNicotine := false
  nicotineStrengthMg := none
  puffCount := none
  liquidCapacityMl := none

-- A shop that sells one published product, with one variant.
def podShop : CatalogState :=
  { opening (Database.Db.empty System.Sample.shop none) with
    brands := {
      rows := [{ id := 1, name := "Acme".toList, slug := "acme".toList, descriptionFr := none
                 descriptionAr := none, publicationStatus := .published, suspendedAt := none
                 archivedAt := none, deletedAt := none, updatedAt := 0 }]
      distinct := by decide }
    categories := {
      rows := [{ id := 1, parentId := none, nameFr := "Pods".toList, nameAr := "Pods".toList
                 slug := "pods".toList, descriptionFr := none, descriptionAr := none, sortOrder := 0
                 publicationStatus := .published, suspendedAt := none, archivedAt := none
                 deletedAt := none, updatedAt := 0 }]
      distinct := by decide }
    products := {
      rows := [{ id := 1, brandId := some 1, categoryId := 1, description := podDescription
                 slug := "pod".toList, sku := none, barcode := none, flavor := none
                 basePriceMillimes := none, promotionalPriceMillimes := none
                 publicationStatus := .published, requiresPricing := false, requiresStock := false
                 needsMediaReview := false, publishedAt := some 0, suspendedAt := none
                 archivedAt := none, deletedAt := none, version := 3 }]
      distinct := by decide }
    variants := {
      rows := [{ id := 1, productId := 1, flavorId := none, nameFr := "Noir".toList
                 nameAr := "Noir".toList, sku := "POD-1".toList, barcode := none, color := none
                 nicotineStrengthMg := none
                 priceMillimes := Checkout.LinePricing.podPrice
                 promotionalPriceMillimes := some Checkout.LinePricing.podPromotion
                 taxRateBps := .zero, publicationStatus := .published, sortOrder := 0
                 attributeValueIds := [], archivedAt := none, deletedAt := none, version := 2 }]
      distinct := by decide } }

def podRow (slug sku : Text) : CatalogImportRowInput where
  productKey := slug
  brand := "acme".toList
  categorySlug := "pods".toList
  description := podDescription
  slug := slug
  variantKey := sku
  variantNameFr := "Bleu".toList
  variantNameAr := "Bleu".toList
  flavor := none
  color := none
  sku := sku
  priceMillimes := none
  publicationStatus := none
  officialProductUrl := none
  productImageUrl := none
  variantImageUrl := none

def parsedRow (rowNumber : Nat) (input : CatalogImportRowInput) : ParsedCatalogImportRow where
  rowNumber := rowNumber
  input := some input
  issues := []

def podUpload : CatalogImportOptions where
  importKey := "upload-1".toList
  format := .csv
  source := .adminUpload
  partialMode := false
  overridePrice := false
  overrideStatus := false
  overrideImages := false

def podIds : ImportIds where
  batch := 51
  brand := fun _ => 60
  category := fun _ => 61
  product := fun _ => 62
  variant := fun number => 70 + number
  flavor := fun _ => 63

def previewed (rows : List ParsedCatalogImportRow) : CatalogState :=
  (succeeded (Import.preview podShop 50 rows podUpload)).getD podShop

structure RoundTrip where
  preview : CatalogImportBatch
  result : AppliedImport
  after : CatalogState

def roundTrip (before : CatalogState) : Option RoundTrip := do
  let preview <- before.imports.find? 50
  let result <- succeeded (Import.apply ascii before 50 podIds 10)
  let after <- succeeded (Import.rollback result.catalog result.batchId 20)
  return { preview, result, after }

theorem roundTrip_runs {before : CatalogState} {trip : RoundTrip} (went : roundTrip before = some trip) :
    before.imports.find? 50 = some trip.preview /\
      Import.apply ascii before 50 podIds 10 = .ok trip.result /\
      Import.rollback trip.result.catalog trip.result.batchId 20 = .ok trip.after := by
  simp only [roundTrip, Option.bind_eq_bind, Option.bind_eq_some_iff] at went
  obtain ⟨preview, stored, result, ran, after, undone, made⟩ := went
  obtain rfl := Option.some.inj made
  have succeeds : forall {A : Type} {outcome : Except Failure A} {value : A},
      succeeded outcome = some value -> outcome = .ok value := by
    intro A outcome value done
    cases outcome with
    | ok found => exact congrArg Except.ok (Option.some.inj done)
    | error error => cases done
  exact ⟨stored, succeeds ran, succeeds undone⟩

theorem new_product_rolled_back :
    exists before preview result after,
      before.imports.find? 50 = some preview /\
      Import.apply ascii before 50 podIds 10 = .ok result /\
      Import.rollback result.catalog result.batchId 20 = .ok after /\
      TouchesOnlyCreated before result.catalog after := by
  obtain ⟨trip, went, checked⟩ := (Option.any_eq_true _ _).1
    (by decide +kernel : (roundTrip (previewed [parsedRow 1 (podRow "new".toList "NEW-1".toList)])).any
      fun trip =>
        (batchUnder (previewed [parsedRow 1 (podRow "new".toList "NEW-1".toList)])
          trip.preview.importKey false).isNone &&
        (groupRows (validRows trip.preview.payload)).all fun group =>
          (findProduct (previewed [parsedRow 1 (podRow "new".toList "NEW-1".toList)])
            trip.preview.source group.first.input).isNone)
  obtain ⟨stored, ran, undone⟩ := roundTrip_runs went
  rw [Bool.and_eq_true, List.all_eq_true] at checked
  refine ⟨_, trip.preview, trip.result, trip.after, stored, ran, undone,
    (rollback_touches_only_created stored ran undone).2 ?_⟩
  unfold CreatesOnly
  rw [Option.isNone_iff_eq_none.1 checked.1]
  exact fun group member => Option.isNone_iff_eq_none.1 (checked.2 group member)

-- A new variant of a published product: its rollback archives the product.
theorem rollback_archives_known_product :
    Not (forall (unicode : Unicode) (before : CatalogState) (previewBatchId : Id) (ids : ImportIds)
      (now later : Int) (preview : CatalogImportBatch) (result : AppliedImport) (after : CatalogState),
      before.imports.find? previewBatchId = some preview -> preview.status = .previewValid ->
      Import.apply unicode before previewBatchId ids now = .ok result ->
      Import.rollback result.catalog result.batchId later = .ok after ->
      TouchesOnlyCreated before result.catalog after) := by
  intro always
  obtain ⟨trip, went, checked⟩ := (Option.any_eq_true _ _).1
    (by decide +kernel : (roundTrip (previewed [parsedRow 1 (podRow "pod".toList "POD-2".toList)])).any
      fun trip => trip.preview.status == .previewValid &&
        trip.after.products.rows.all fun product => product.archivedAt.isSome)
  obtain ⟨stored, ran, undone⟩ := roundTrip_runs went
  rw [Bool.and_eq_true, beq_iff_eq, List.all_eq_true] at checked
  have touches := always _ _ _ _ _ _ _ _ _ stored checked.1 ran undone
  obtain ⟨product, present, listed⟩ := List.any_eq_true.1
    (by decide +kernel : (previewed [parsedRow 1 (podRow "pod".toList "POD-2".toList)]).products.rows.any
      fun product => product.archivedAt.isNone)
  obtain ⟨later, there, -, -, same⟩ := touches.products product present
  have archived := checked.2 later there
  rw [same, Option.isNone_iff_eq_none.1 listed] at archived
  cases archived

end Examples

end VapeCommerce.Catalog.Undo
