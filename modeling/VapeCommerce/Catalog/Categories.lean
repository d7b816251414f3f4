import VapeCommerce.Catalog.Undo
import VapeCommerce.Lib.Forest

set_option autoImplicit false

-- The category tree over every run of the catalogue services.
namespace VapeCommerce.Catalog.Categories

open VapeCommerce.Lib VapeCommerce.Lib.Outcome VapeCommerce.Lib.Forest VapeCommerce.Schema
open VapeCommerce.Catalog.Taxonomy VapeCommerce.Catalog.Applied
open Relation

def ParentOf (categories : Table Category.id) (child parent : Id) : Prop :=
  exists category, category ∈ categories.rows /\ category.id = child /\ category.deletedAt = none /\
    category.parentId = some parent

-- What a published category asks of the category above it.
def PublishedParent (categories : Table Category.id) (category : Category) : Prop :=
  forall parentId, category.parentId = some parentId -> exists parent, parent ∈ categories.rows /\
    parent.id = parentId /\ parent.publicationStatus = .published /\ parent.archivedAt = none /\
      parent.deletedAt = none

structure CategoriesSound (categories : Table Category.id) : Prop where
  forest : Acyclic (ParentOf categories)
  live : forall category, category ∈ categories.rows -> category.deletedAt = none
  known : forall category, category ∈ categories.rows -> forall parentId,
    category.parentId = some parentId -> parentId ∈ categories.rows.map Category.id
  listed : forall category, category ∈ categories.rows -> category.publicationStatus = .published ->
    category.archivedAt = none
  published : forall category, category ∈ categories.rows -> category.publicationStatus = .published ->
    PublishedParent categories category

section Steps

variable {state next : CatalogState} {id : Id} {now : Int}

-- The walk up from a parent that the check accepts never meets the category itself.
theorem walk_avoids {depth : Nat} {visited : List Id} {cursor place : Id}
    (walked : assertNoParentCycle state id depth visited (some cursor) = .ok ())
    (path : ReflTransGen (ParentOf state.categories) cursor place) : place ≠ id := by
  induction depth generalizing visited cursor with
  | zero => cases walked
  | succ depth ih =>
    simp only [assertNoParentCycle, bind_ok, throwIf_ok, orThrow_ok, not_or,
      Option.filter_eq_some_iff] at walked
    obtain ⟨_, ⟨apart, -⟩, parent, ⟨found, -⟩, further⟩ := walked
    rcases path.cases_head with rfl | ⟨above, ⟨category, there, same, -, edge⟩, rest⟩
    next => exact apart
    next =>
      have only := state.categories.same_of_key there (Table.find?_mem found)
        (same.trans (Table.find?_key found).symm)
      rw [← only, edge] at further
      exact ih further rest

-- New rows without children: a category that enters under a known parent, or under none.
theorem append_sound {categories after : Table Category.id} (sound : CategoriesSound categories)
    {made : Category} (inserted : categories.insert? made = some after)
    (draft : made.publicationStatus = .draft) (live : made.deletedAt = none)
    (under : forall parentId, made.parentId = some parentId ->
      parentId ∈ categories.rows.map Category.id) : CategoriesSound after := by
  obtain ⟨rows, fresh⟩ := Table.insert?_rows inserted
  have old : forall category, category ∈ categories.rows -> category ∈ after.rows := fun category there =>
    rows ▸ List.mem_append_left _ there
  have origin : forall category, category ∈ after.rows -> category ∈ categories.rows \/ category = made :=
    fun category there => by simpa [rows] using there
  have ids : forall known, known ∈ categories.rows.map Category.id -> known ∈ after.rows.map Category.id :=
    fun known there => by simp [rows, List.mem_map.1 there]
  have unknown : Not (made.id ∈ categories.rows.map Category.id) := fun there => by
    obtain ⟨category, present, same⟩ := List.mem_map.1 there
    exact fresh category present same
  refine {
    forest := ?_
    live := fun category there => (origin category there).elim (sound.live category) (· ▸ live)
    known := fun category there parentId given => ids parentId
      ((origin category there).elim (fun known => sound.known category known parentId given)
        fun same => under parentId (same ▸ given))
    listed := fun category there published => ?_
    published := fun category there published => ?_ }
  next =>
    have known : forall start finish, ParentOf categories start finish ->
        finish ∈ categories.rows.map Category.id := by
      rintro start finish ⟨category, there, -, -, given⟩
      exact sound.known category there finish given
    cases given : made.parentId with
    | none =>
      refine sound.forest.mono ?_
      rintro start finish ⟨category, there, same, alive, edge⟩
      rcases origin category there with present | rfl
      next => exact ⟨category, present, same, alive, edge⟩
      next => rw [given] at edge; cases edge
    | some parentId =>
      refine acyclic_moved made.id parentId sound.forest ?_ ?_
      next =>
        rintro start finish ⟨category, there, same, alive, edge⟩
        rcases origin category there with present | rfl
        next => exact .inl ⟨category, present, same, alive, edge⟩
        next => exact .inr ⟨same.symm, Option.some.inj (edge.symm.trans given)⟩
      next =>
        intro path
        rcases path.cases_tail with rfl | ⟨middle, -, edge⟩
        next => exact unknown (under _ given)
        next => exact unknown (known _ _ edge)
  next =>
    rcases origin category there with present | rfl
    next => exact sound.listed category present published
    next => rw [draft] at published; cases published
  next =>
    rcases origin category there with present | rfl
    next =>
      intro parentId given
      obtain ⟨parent, member, facts⟩ := sound.published category present published parentId given
      exact ⟨parent, old parent member, facts⟩
    next => rw [draft] at published; cases published

-- One category rewritten: `rewritten` is its new row, and nothing below it may lose a published parent.
theorem rewrite_sound {categories after : Table Category.id} (sound : CategoriesSound categories)
    {change : Category -> Category} {current : Category}
    (wrote : Table.RewroteOne categories after change current) (same : (change current).id = current.id)
    (live : (change current).deletedAt = current.deletedAt)
    (edge : (change current).parentId = current.parentId \/ forall parentId,
      (change current).parentId = some parentId ->
        Not (ReflTransGen (ParentOf categories) parentId current.id))
    (under : forall parentId, (change current).parentId = some parentId ->
      parentId ∈ categories.rows.map Category.id)
    (listed : (change current).publicationStatus = .published -> (change current).archivedAt = none)
    (above : (change current).publicationStatus = .published ->
      forall parentId, (change current).parentId = some parentId -> parentId ≠ current.id /\
        exists parent, parent ∈ categories.rows /\ parent.id = parentId /\
          parent.publicationStatus = .published)
    (below : current.publicationStatus = .published -> (change current).publicationStatus ≠ .published ->
      forall category, category ∈ categories.rows -> category.parentId = some current.id ->
        category.publicationStatus ≠ .published) : CategoriesSound after := by
  have ids : forall known, known ∈ categories.rows.map Category.id -> known ∈ after.rows.map Category.id := by
    intro known there
    obtain ⟨category, present, rfl⟩ := List.mem_map.1 there
    by_cases here : category.id = current.id
    next => exact List.mem_map.2 ⟨_, wrote.changed, same.trans here.symm⟩
    next => exact List.mem_map_of_mem (wrote.others category present here)
  -- A published row above some category, still published in the new table.
  have parent_stays : forall parent, parent ∈ categories.rows -> parent.publicationStatus = .published ->
      (parent.id ≠ current.id \/ (change current).publicationStatus = .published) ->
      exists later, later ∈ after.rows /\ later.id = parent.id /\ later.publicationStatus = .published /\
        later.archivedAt = none /\ later.deletedAt = none := by
    intro parent there published stays
    by_cases here : parent.id = current.id
    next =>
      have still := stays.resolve_left fun apart => apart here
      exact ⟨_, wrote.changed, same.trans here.symm, still, listed still,
        live.trans (sound.live current wrote.member)⟩
    next =>
      exact ⟨parent, wrote.others parent there here, rfl, published, sound.listed parent there published,
        sound.live parent there⟩
  refine {
    forest := ?_
    live := fun category there => ?_
    known := fun category there parentId given => ids parentId ?_
    listed := fun category there published => ?_
    published := fun category there published parentId given => ?_ }
  next =>
    rcases edge with kept | avoids
    next =>
      refine sound.forest.mono ?_
      rintro start finish ⟨category, there, named, alive, given⟩
      rcases wrote.origin category there with rfl | ⟨present, -⟩
      next => exact ⟨current, wrote.member, same.symm.trans named, live ▸ alive, kept ▸ given⟩
      next => exact ⟨category, present, named, alive, given⟩
    next =>
      cases moved : (change current).parentId with
      | none =>
        refine sound.forest.mono ?_
        rintro start finish ⟨category, there, named, alive, given⟩
        rcases wrote.origin category there with rfl | ⟨present, -⟩
        next => rw [moved] at given; cases given
        next => exact ⟨category, present, named, alive, given⟩
      | some parentId =>
        refine acyclic_moved current.id parentId sound.forest ?_ (avoids parentId moved)
        rintro start finish ⟨category, there, named, alive, given⟩
        rcases wrote.origin category there with rfl | ⟨present, -⟩
        next => exact .inr ⟨named.symm.trans same, Option.some.inj (given.symm.trans moved)⟩
        next => exact .inl ⟨category, present, named, alive, given⟩
  next =>
    rcases wrote.origin category there with rfl | ⟨present, -⟩
    next => exact live.trans (sound.live current wrote.member)
    next => exact sound.live category present
  next =>
    rcases wrote.origin category there with rfl | ⟨present, -⟩
    next => exact under parentId given
    next => exact sound.known category present parentId given
  next =>
    rcases wrote.origin category there with rfl | ⟨present, -⟩
    next => exact listed published
    next => exact sound.listed category present published
  next =>
    rcases wrote.origin category there with rfl | ⟨present, -⟩
    next =>
      obtain ⟨apart, parent, member, rfl, shown⟩ := above published parentId given
      exact parent_stays parent member shown (.inl apart)
    next =>
      obtain ⟨parent, member, rfl, shown, -, -⟩ := sound.published category present published parentId given
      refine parent_stays parent member shown ?_
      by_contra lost
      rw [not_or, not_not] at lost
      have only := categories.same_of_key member wrote.member lost.1
      exact below (only ▸ shown) lost.2 category present (lost.1 ▸ given) published

theorem create_sound {input : CreateCategory} (sound : CategoriesSound state.categories)
    (ran : createCategory state id input now = .ok next) : CategoriesSound next.categories := by
  obtain ⟨made, categories, -, parent, draft, live, eligible, inserted, rfl⟩ := createCategory_ok ran
  refine append_sound sound inserted draft live fun parentId given => ?_
  obtain ⟨found, read, -⟩ := requireEligibleParent_ok (eligible parentId (parent ▸ given))
  obtain ⟨member, rfl, -⟩ := requireCategory_ok read
  exact List.mem_map_of_mem member

theorem update_sound {input : UpdateCategory} (sound : CategoriesSound state.categories)
    (ran : updateCategory state id input now = .ok next) : CategoriesSound next.categories := by
  obtain ⟨current, categories, read, wrote, rfl, apart, walked, eligible, guarded⟩ := updateCategory_ok ran
  obtain ⟨member, rfl, -⟩ := requireCategory_ok read
  have parent : (updatedCategory input now current).parentId =
      input.parentId.mergedOver current.parentId := rfl
  have status : (updatedCategory input now current).publicationStatus =
      (input.publicationStatus.map (·.status)).getD current.publicationStatus := rfl
  refine rewrite_sound sound wrote rfl rfl ?_ ?_ ?_ ?_ ?_
  next =>
    cases given : Field.isGiven input.parentId with
    | false =>
      have absent : input.parentId = .absent := by
        cases field : input.parentId <;> simp_all [Field.isGiven]
      exact .inl (by rw [parent, absent]; rfl)
    | true =>
      refine .inr fun parentId moved path => ?_
      have passed := walked given
      rw [← parent, moved] at passed
      exact walk_avoids passed path rfl
  next =>
    intro parentId given
    obtain ⟨found, above, -⟩ := requireEligibleParent_ok (eligible parentId given)
    obtain ⟨there, rfl, -⟩ := requireCategory_ok above
    exact List.mem_map_of_mem there
  next =>
    intro published
    rw [status] at published
    unfold updatedCategory
    dsimp only
    split
    next => rfl
    next silent =>
      have none := Option.not_isSome_iff_eq_none.1 silent
      rw [none] at published
      exact sound.listed current member published
  next =>
    intro published parentId given
    refine ⟨fun same => apart (by rw [← parent, given, same]), ?_⟩
    obtain ⟨found, above, -, shown⟩ := requireEligibleParent_ok (eligible parentId given)
    obtain ⟨there, rfl, -⟩ := requireCategory_ok above
    exact ⟨found, there, rfl, shown (by rw [← status, published]; rfl)⟩
  next =>
    intro published lost category there given
    refine (assertNoPublishedDependents_ok (guarded ?_)).2 category there given (sound.live category there)
    rw [status] at lost
    rw [statusBecomesNonPublic, Bool.and_eq_true, beq_iff_eq, bne_iff_ne]
    exact ⟨published, lost⟩

theorem shelve_sound {expectedUpdatedAt : Int} {archive : Bool} (sound : CategoriesSound state.categories)
    (ran : changeCategoryArchiveState state id expectedUpdatedAt archive now = .ok next) :
    CategoriesSound next.categories := by
  obtain ⟨current, categories, read, wrote, rfl, guarded, restores⟩ := changeCategoryArchiveState_ok ran
  obtain ⟨member, rfl, -⟩ := requireCategory_ok read
  have hidden : (shelvedCategory archive now current).publicationStatus ≠ .published := by
    cases archive <;> simp [shelvedCategory]
  refine rewrite_sound sound wrote rfl rfl (.inl rfl) (sound.known current member)
    (fun published => absurd published hidden) (fun published => absurd published hidden) ?_
  intro published _ category there given
  cases archive with
  | true =>
    exact (assertNoPublishedDependents_ok (guarded rfl)).2 category there given (sound.live category there)
  | false => rw [restores rfl] at published; cases published

-- What an import does to the categories: rows without a parent, behind those that are there.
theorem grown_sound {categories after : Table Category.id} (sound : CategoriesSound categories)
    (grown : Grown SameCategory FreshCategory categories.rows after.rows) : CategoriesSound after := by
  have old : forall category, category ∈ categories.rows -> category ∈ after.rows := fun category there => by
    obtain ⟨later, present, rfl⟩ := grown.later there
    exact present
  have origin : forall category, category ∈ after.rows ->
      category ∈ categories.rows \/ FreshCategory category := fun category there => by
    rcases grown.origin there with ⟨was, present, rfl⟩ | fresh
    next => exact .inl present
    next => exact .inr fresh
  refine {
    forest := sound.forest.mono ?_
    live := fun category there => (origin category there).elim (sound.live category) fun fresh => fresh.2.1
    known := fun category there parentId given => ?_
    listed := fun category there published => ?_
    published := fun category there published parentId given => ?_ }
  next =>
    rintro start finish ⟨category, there, same, alive, edge⟩
    rcases origin category there with present | fresh
    next => exact ⟨category, present, same, alive, edge⟩
    next => rw [fresh.2.2] at edge; cases edge
  next =>
    rcases origin category there with present | fresh
    next =>
      obtain ⟨parent, member, rfl⟩ := List.mem_map.1 (sound.known category present parentId given)
      exact List.mem_map_of_mem (old parent member)
    next => rw [fresh.2.2] at given; cases given
  next =>
    rcases origin category there with present | fresh
    next => exact sound.listed category present published
    next => rw [fresh.1] at published; cases published
  next =>
    rcases origin category there with present | fresh
    next =>
      obtain ⟨parent, member, facts⟩ := sound.published category present published parentId given
      exact ⟨parent, old parent member, facts⟩
    next => rw [fresh.1] at published; cases published

end Steps

section Runs

variable (unicode : Unicode)

theorem exec_sound {state next : CatalogState} (sound : CategoriesSound state.categories)
    (request : CatalogRequest) (ran : exec unicode state request = .ok next) :
    CategoriesSound next.categories := by
  cases request with
  | mk now call =>
    cases call with
    | createBrand id input => obtain ⟨_, _, -, -, -, rfl⟩ := createBrand_ok ran; exact sound
    | updateBrand id input => obtain ⟨_, _, -, -, rfl, -⟩ := updateBrand_ok ran; exact sound
    | shelveBrand id expected archive =>
      obtain ⟨_, _, -, -, rfl, -⟩ := changeBrandArchiveState_ok ran
      exact sound
    | createCategory id input => exact create_sound sound ran
    | updateCategory id input => exact update_sound sound ran
    | shelveCategory id expected archive => exact shelve_sound sound ran
    | createProduct id input => obtain ⟨_, -, -, rfl⟩ := Products.create_ok ran; exact sound
    | updateProduct id input => obtain ⟨_, _, -, -, rfl, -⟩ := Products.update_ok ran; exact sound
    | confirmMediaReview id version reason =>
      obtain ⟨_, _, -, -, rfl⟩ := Products.confirmMediaReview_ok ran
      exact sound
    | shelveProduct id version archive =>
      obtain ⟨_, _, -, -, rfl⟩ := Products.changeArchiveState_ok ran
      exact sound
    | createVariant productId id input => obtain ⟨_, -, -, rfl⟩ := Variants.create_ok ran; exact sound
    | updateVariant productId id input =>
      obtain ⟨_, _, -, -, rfl, -⟩ := Variants.update_ok ran
      exact sound
    | shelveVariant productId id version archive =>
      obtain ⟨_, _, -, -, rfl, -⟩ := Variants.changeArchive_ok ran
      exact sound
    | previewImport id parsed options =>
      obtain ⟨imports, rfl⟩ := Applied.preview_frame ran
      exact sound
    | applyImport previewBatchId ids =>
      obtain ⟨result, applied, rfl⟩ := (map_ok _ _ _).1 ran
      exact grown_sound sound (Applied.apply_progress applied).categories
    | rollbackImport batchId =>
      obtain ⟨_, -, -, ⟨-, rfl⟩ | ⟨-, -, -, _, _, _, -, -, -, rfl⟩⟩ := Undo.rollback_cases ran
      next => exact sound
      next => exact sound
    | surroundings db images attributeValues => cases ran; exact sound

theorem step_sound (state : CatalogState) (request : CatalogRequest)
    (sound : CategoriesSound state.categories) : CategoriesSound (step unicode state request).categories := by
  unfold step
  cases ran : exec unicode state request with
  | ok next => exact exec_sound unicode sound request ran
  | error failure => exact sound

end Runs

end VapeCommerce.Catalog.Categories
