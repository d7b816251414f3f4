import VapeCommerce.Media.Refinement
import VapeCommerce.Lib.Runs

set_option autoImplicit false

-- What holds of an owner's gallery in every state the image calls can reach.
namespace VapeCommerce.Media.Upkeep

open VapeCommerce.Lib VapeCommerce.Lib.Outcome VapeCommerce.Lib.Runs VapeCommerce.Schema
open VapeCommerce.Media VapeCommerce.Media.Gallery VapeCommerce.Media.Refinement

structure WellKept (gallery : List ProductImage) : Prop where
  limited : gallery.length <= 20
  ordered : (gallery.map (·.sortOrder)).Nodup
  distinct : (gallery.map (·.checksumSha256)).Nodup
  single : (gallery.filter (·.isPrimary)).length <= 1
  approved : forall image, image ∈ gallery -> image.isPrimary = true -> image.moderationStatus = .approved
  presented : (exists image, image ∈ gallery /\ image.moderationStatus = .approved) ->
    (gallery.filter (·.isPrimary)).length = 1

def opening (products : Table Catalog.Product.id) (variants : Table Catalog.ProductVariant.id)
    (catalogImportRows : Table CatalogImportRow.id)
    (catalogSourceRecords : Table CatalogSourceRecord.id) : MediaState where
  products := products
  variants := variants
  productImages := Table.empty
  catalogImportRows := catalogImportRows
  catalogSourceRecords := catalogSourceRecords

-- An upload to the owner asks for its image to be primary, or is the first, or finds an approved one.
def Shown (owner : ImageOwner) (media : MediaState) : MediaCall -> Prop
  | .upload productId _ input _ => addressed productId input.variantId = owner ->
    input.isPrimary = some true \/ galleryOf media.productImages owner = [] \/
      HasApproved (galleryOf media.productImages owner)
  | _ => True

def Accepted (media : MediaState) (request : MediaRequest) : Prop :=
  exists next, exec media request = .ok next

def AllSound (media : MediaState) : Prop :=
  forall owner, Sound (galleryOf media.productImages owner)

structure Adds (media next : MediaState) (owner : ImageOwner) (image : ProductImage) : Prop where
  elsewhere : Elsewhere owner media.productImages next.productImages
  added : Added (galleryOf media.productImages owner) image (galleryOf next.productImages owner)

theorem primaries_le {gallery : List ProductImage} (identified : (gallery.map (·.id)).Nodup) :
    (gallery.filter (·.isPrimary)).length <= 1 <-> forall left, left ∈ gallery -> forall right,
      right ∈ gallery -> left.isPrimary = true -> right.isPrimary = true -> left = right := by
  have distinct : (gallery.filter (·.isPrimary)).Nodup := (List.Nodup.of_map _ identified).filter _
  constructor
  next =>
    intro few left inLeft right inRight primary other
    have first := List.mem_filter.2 ⟨inLeft, primary⟩
    have second := List.mem_filter.2 ⟨inRight, other⟩
    obtain ⟨only, shown⟩ := List.length_eq_one_iff.1
      (Nat.le_antisymm few (List.length_pos_of_mem first))
    rw [shown, List.mem_singleton] at first second
    rw [first, second]
  next =>
    intro alone
    cases shown : gallery.filter (·.isPrimary) with
    | nil => simp
    | cons first rest =>
      cases rest with
      | nil => simp
      | cons second more =>
        rw [shown] at distinct
        have here : forall image, image ∈ first :: second :: more -> image ∈ gallery /\ image.isPrimary = true :=
          fun image member => List.mem_filter.1 (shown ▸ member)
        have same := alone first (here first (by simp)).1 second (here second (by simp)).1
          (here first (by simp)).2 (here second (by simp)).2
        simp [same] at distinct

theorem wellKept_iff {gallery : List ProductImage} (identified : (gallery.map (·.id)).Nodup) :
    WellKept gallery <-> Sound gallery /\ Presented gallery := by
  constructor
  next =>
    intro kept
    refine ⟨⟨kept.limited, kept.ordered, kept.distinct, (primaries_le identified).1 kept.single,
      kept.approved⟩, fun approved => ?_⟩
    obtain ⟨image, only⟩ := List.length_eq_one_iff.1 (kept.presented approved)
    have member : image ∈ gallery.filter (·.isPrimary) := by simp [only]
    exact ⟨image, (List.mem_filter.1 member).1, (List.mem_filter.1 member).2⟩
  next =>
    rintro ⟨sound, presented⟩
    have single := (primaries_le identified).2 sound.single
    refine ⟨sound.limited, sound.ordered, sound.distinct, single, sound.approved, fun approved => ?_⟩
    obtain ⟨image, member, primary⟩ := presented approved
    exact Nat.le_antisymm single (List.length_pos_of_mem (List.mem_filter.2 ⟨member, primary⟩))

theorem Adds.sound {media next : MediaState} {owner : ImageOwner} {image : ProductImage}
    (adds : Adds media next owner image) (sound : AllSound media) : AllSound next := by
  intro other
  by_cases same : other = owner
  next => exact same ▸ adds.added.sound (sound owner)
  next => exact adds.elsewhere other same ▸ sound other

theorem Edits.sound {media next : MediaState} (edits : Edits media next) (sound : AllSound media) :
    AllSound next := by
  obtain ⟨owner, elsewhere, edit⟩ := edits
  intro other
  by_cases same : other = owner
  next => exact same ▸ edit.sound (galleryOf_identified _ _) (sound owner)
  next => exact elsewhere other same ▸ sound other

theorem Edits.presented {media next : MediaState} (edits : Edits media next) (sound : AllSound media)
    {owner : ImageOwner} (presented : Presented (galleryOf media.productImages owner)) :
    Presented (galleryOf next.productImages owner) := by
  obtain ⟨edited, elsewhere, edit⟩ := edits
  by_cases same : owner = edited
  next =>
    subst same
    exact edit.presented (galleryOf_identified _ _) (sound owner) presented
  next => exact elsewhere owner same ▸ presented

theorem exec_sound {media next : MediaState} {request : MediaRequest} (sound : AllSound media)
    (ran : exec media request = .ok next) : AllSound next := by
  obtain ⟨now, call⟩ := request
  cases call with
  | upload productId id input file =>
    obtain ⟨elsewhere, image, added, -⟩ := upload_adds ran
    exact Adds.sound ⟨elsewhere, added⟩ sound
  | uploadImported productId id sourceRecordId input file provenance =>
    obtain ⟨elsewhere, image, added, -⟩ := uploadImported_adds ran
    exact Adds.sound ⟨elsewhere, added⟩ sound
  | updateMetadata productId imageId input => exact Edits.sound (updateMetadata_edits ran) sound
  | review productId imageId input => exact Edits.sound (review_edits ran) sound
  | setPrimary productId imageId expectedOwnerVersion => exact Edits.sound (setPrimary_edits ran) sound
  | reorder productId input => exact Edits.sound (reorder_edits ran) sound
  | replace productId imageId id input file => exact Edits.sound (replace_edits ran) sound
  | remove productId imageId expectedOwnerVersion => exact Edits.sound (remove_edits ran) sound
  | surroundings products variants catalogImportRows catalogSourceRecords =>
    cases ran
    exact sound

theorem exec_presented {media next : MediaState} {request : MediaRequest} (sound : AllSound media)
    {owner : ImageOwner} (presented : Presented (galleryOf media.productImages owner))
    (ran : exec media request = .ok next) :
    Presented (galleryOf next.productImages owner) <-> Shown owner media request.call := by
  obtain ⟨now, call⟩ := request
  have kept : Edits media next -> (Presented (galleryOf next.productImages owner) <-> True) :=
    fun edits => iff_true_intro (Edits.presented edits sound presented)
  cases call with
  | upload productId id input file =>
    obtain ⟨elsewhere, image, added, approved, primary⟩ := upload_adds ran
    by_cases same : addressed productId input.variantId = owner
    next =>
      subst same
      rw [added.presented (sound _) presented, primary]
      simp [Shown, approved, or_assoc]
    next =>
      rw [elsewhere owner (Ne.symm same)]
      exact iff_of_true presented fun here => absurd here same
  | uploadImported productId id sourceRecordId input file provenance =>
    obtain ⟨elsewhere, image, added, primary⟩ := uploadImported_adds ran
    refine iff_true_intro ?_
    by_cases same : addressed productId input.variantId = owner
    next =>
      subst same
      exact (added.presented (sound _) presented).2 fun status => .inl (primary status)
    next => exact elsewhere owner (Ne.symm same) ▸ presented
  | updateMetadata productId imageId input => exact kept (updateMetadata_edits ran)
  | review productId imageId input => exact kept (review_edits ran)
  | setPrimary productId imageId expectedOwnerVersion => exact kept (setPrimary_edits ran)
  | reorder productId input => exact kept (reorder_edits ran)
  | replace productId imageId id input file => exact kept (replace_edits ran)
  | remove productId imageId expectedOwnerVersion => exact kept (remove_edits ran)
  | surroundings products variants catalogImportRows catalogSourceRecords =>
    cases ran
    exact iff_true_intro presented

theorem step_sound (media : MediaState) (request : MediaRequest) (sound : AllSound media) :
    AllSound (step media request) := by
  unfold step
  split
  next next ran => exact exec_sound sound ran
  next => exact sound

theorem step_presented (owner : ImageOwner) (media : MediaState) (request : MediaRequest)
    (sound : AllSound media) (presented : Presented (galleryOf media.productImages owner)) :
    Presented (galleryOf (step media request).productImages owner) <->
      (Accepted media request -> Shown owner media request.call) := by
  unfold step
  split
  next next ran =>
    rw [exec_presented sound presented ran]
    exact ⟨fun shown _ => shown, fun shown => shown ⟨next, ran⟩⟩
  next failure ran =>
    refine iff_of_true presented ?_
    rintro ⟨next, accepted⟩
    rw [ran] at accepted
    cases accepted

section Opening

variable (products : Table Catalog.Product.id) (variants : Table Catalog.ProductVariant.id)
  (catalogImportRows : Table CatalogImportRow.id) (catalogSourceRecords : Table CatalogSourceRecord.id)

theorem opening_gallery (owner : ImageOwner) :
    galleryOf (opening products variants catalogImportRows catalogSourceRecords).productImages owner = [] :=
  rfl

theorem opening_sound :
    AllSound (opening products variants catalogImportRows catalogSourceRecords) := by
  intro owner
  rw [opening_gallery]
  exact ⟨by simp, by simp, by simp, by simp, by simp⟩

/--
A gallery stays as it should be throughout a run exactly when no accepted upload adds its image,
which is approved at once, behind images of which none is: every other call keeps all of it.
-/
theorem gallery_well_kept_iff (owner : ImageOwner) (requests : List MediaRequest) :
    (forall media, Visits step (opening products variants catalogImportRows catalogSourceRecords) requests
        media -> WellKept (galleryOf media.productImages owner)) <->
      forall media request,
        Takes step (opening products variants catalogImportRows catalogSourceRecords) requests media
          request ->
        Accepted media request -> Shown owner media request.call := by
  have sound := opening_sound products variants catalogImportRows catalogSourceRecords
  have presented : Presented (galleryOf
      (opening products variants catalogImportRows catalogSourceRecords).productImages owner) := by
    rw [opening_gallery]
    rintro ⟨image, member, -⟩
    cases member
  have shown := always_iff_steps step_sound (step_presented owner) sound presented requests
  refine Iff.trans ⟨fun kept media visited => ?_, fun shows media visited => ?_⟩ shown
  next => exact ((wellKept_iff (galleryOf_identified _ _)).1 (kept media visited)).2
  next =>
    exact (wellKept_iff (galleryOf_identified _ _)).2
      ⟨visits_keeps step_sound sound visited owner, shows media visited⟩

end Opening

namespace Sample

def pod : Catalog.Product where
  id := 1
  brandId := none
  categoryId := 1
  description := {
    nameFr := "Pod".toList
    nameAr := "Pod".toList
    productType := .pod
    family := none
    model := none
    containsNicotine := false
    nicotineStrengthMg := none
    puffCount := none
    liquidCapacityMl := none }
  slug := "pod".toList
  sku := none
  barcode := none
  flavor := none
  basePriceMillimes := none
  promotionalPriceMillimes := none
  publicationStatus := .draft
  requiresPricing := false
  requiresStock := false
  needsMediaReview := false
  publishedAt := none
  suspendedAt := none
  archivedAt := none
  deletedAt := none
  version := 1

def checkpoint : CatalogImportRow where
  id := 1
  productPostVersion := none
  postVersion := none

def input (expectedOwnerVersion : Int) : UploadProductImageDto where
  expectedOwnerVersion := expectedOwnerVersion
  variantId := none
  altTextFr := "Pod".toList
  altTextAr := "Pod".toList
  isPrimary := none

def file (checksumSha256 : String) : UploadedProductImage where
  checksumSha256 := .ok checksumSha256.toList
  stored := true

def provenance : ImportedProductImageProvenance where
  source := .adminUpload
  externalKey := "pod".toList
  sourceUrl := "pod".toList
  expectedProductVersion := 1
  productCheckpointRowIds := [1]
  variantCheckpointRowId := none

def start : MediaState :=
  opening { rows := [pod], distinct := by decide } Table.empty
    { rows := [checkpoint], distinct := by decide } Table.empty

-- An image the operator imported waits for review when another is uploaded.
def requests : List MediaRequest :=
  [{ now := 0, call := .uploadImported 1 1 1 (input 1) (file "a") provenance },
    { now := 1, call := .upload 1 2 (input 2) (file "b") }]

end Sample

theorem approved_image_without_primary : Not (forall products variants catalogImportRows
    catalogSourceRecords owner requests media,
    Visits step (opening products variants catalogImportRows catalogSourceRecords) requests media ->
      WellKept (galleryOf media.productImages owner)) := by
  intro always
  have kept := always _ _ _ _ { kind := .product, id := 1 } Sample.requests _
    (visits_end Sample.start Sample.requests)
  have approved : (galleryOf (run step Sample.start Sample.requests).productImages
      { kind := .product, id := 1 }).any (fun image => image.moderationStatus == .approved) = true := by
    decide +kernel
  have plain : ((galleryOf (run step Sample.start Sample.requests).productImages
      { kind := .product, id := 1 }).filter (·.isPrimary)).length = 0 := by
    decide +kernel
  obtain ⟨image, member, status⟩ := List.any_eq_true.1 approved
  have one := kept.presented ⟨image, member, eq_of_beq status⟩
  rw [plain] at one
  cases one

end VapeCommerce.Media.Upkeep
