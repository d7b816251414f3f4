import VapeCommerce.Media.Gallery

set_option autoImplicit false

-- Every call of product-media.service.ts edits the gallery of one owner and leaves the others alone.
namespace VapeCommerce.Media.Refinement

open VapeCommerce.Lib VapeCommerce.Lib.Outcome VapeCommerce.Schema VapeCommerce.Database
open VapeCommerce.Media VapeCommerce.Media.Gallery

def galleryOf (images : Table ProductImage.id) (owner : ImageOwner) : List ProductImage :=
  images.filter (liveOf owner)

def Elsewhere (owner : ImageOwner) (images next : Table ProductImage.id) : Prop :=
  forall other, other ≠ owner -> galleryOf next other = galleryOf images other

theorem Elsewhere.trans {owner : ImageOwner} {images middle next : Table ProductImage.id}
    (first : Elsewhere owner images middle) (second : Elsewhere owner middle next) :
    Elsewhere owner images next :=
  fun other apart => (second other apart).trans (first other apart)

theorem mem_galleryOf {images : Table ProductImage.id} {owner : ImageOwner} {image : ProductImage} :
    image ∈ galleryOf images owner <-> image ∈ images.rows /\ liveOf owner image = true :=
  List.mem_filter

theorem galleryOf_identified (images : Table ProductImage.id) (owner : ImageOwner) :
    ((galleryOf images owner).map (·.id)).Nodup :=
  images.distinct.sublist (List.filter_sublist.map _)

theorem owned_apart {owner other : ImageOwner} {image : ProductImage}
    (owned : ownerImageWhere owner image = true) (also : ownerImageWhere other image = true) :
    other = owner := by
  obtain ⟨kind, id⟩ := owner
  obtain ⟨otherKind, otherId⟩ := other
  cases kind <;> cases otherKind <;>
    simp only [ownerImageWhere, Bool.and_eq_true, beq_iff_eq, Option.isNone_iff_eq_none] at owned also
  next =>
    obtain rfl := Option.some.inj (owned.1.symm.trans also.1)
    rfl
  next => cases owned.2.symm.trans also.2
  next => cases owned.2.symm.trans also.2
  next =>
    obtain rfl := Option.some.inj (owned.2.symm.trans also.2)
    rfl

theorem liveOf_owned {owner : ImageOwner} {image : ProductImage} (live : liveOf owner image = true) :
    ownerImageWhere owner image = true :=
  (Bool.and_eq_true_iff.1 live).1

-- A change that leaves the columns of the owner as they are.
def KeepsOwner (change : ProductImage -> ProductImage) : Prop :=
  forall owner image, ownerImageWhere owner (change image) = ownerImageWhere owner image

theorem update_elsewhere (images : Table ProductImage.id) {owner : ImageOwner}
    {chosen : ProductImage -> Bool} {change : ProductImage -> ProductImage}
    (keeps : forall image, (change image).id = image.id)
    (within : forall image, chosen image = true -> liveOf owner image = true)
    (kept : KeepsOwner change) : Elsewhere owner images (images.update chosen change keeps) := by
  intro other apart
  have unchosen : forall image, liveOf other image = true -> chosen image = false := fun image live =>
    Bool.eq_false_iff.2 fun is => apart (owned_apart (liveOf_owned (within image is)) (liveOf_owned live))
  have alike : liveOf other ∘ Table.rewrite chosen change = liveOf other := by
    funext image
    cases is : chosen image with
    | false => rw [Function.comp_apply, Table.rewrite_other is]
    | true =>
      have foreign : ownerImageWhere other image = false :=
        Bool.eq_false_iff.2 fun owned => apart (owned_apart (liveOf_owned (within image is)) owned)
      rw [Function.comp_apply, Table.rewrite_chosen is, liveOf, liveOf, kept, foreign]
      rfl
  simp only [galleryOf, Table.filter, Table.update_rows, List.filter_map, alike]
  rw [List.map_congr_left fun image member =>
    Table.rewrite_other (unchosen image (List.mem_filter.1 member).2), List.map_id']

-- Updates that neither retire nor revive an image.
theorem update_in_place (images : Table ProductImage.id) (owner : ImageOwner)
    {chosen : ProductImage -> Bool} {change : ProductImage -> ProductImage}
    (keeps : forall image, (change image).id = image.id)
    (inPlace : forall image, liveOf owner (change image) = liveOf owner image) :
    galleryOf (images.update chosen change keeps) owner =
      (galleryOf images owner).map (Table.rewrite chosen change) := by
  have alike : liveOf owner ∘ Table.rewrite chosen change = liveOf owner :=
    funext fun image => Table.rewrite_field inPlace image
  simp only [galleryOf, Table.filter, Table.update_rows, List.filter_map, alike]

theorem clear_same {image : ProductImage} (plain : image.isPrimary = false) : clear image = image := by
  rw [clear, ← plain]

theorem clearPrimary_gallery (images : Table ProductImage.id) (owner : MediaOwner) :
    galleryOf (clearPrimary images owner) owner.toImageOwner =
      (galleryOf images owner.toImageOwner).map clear := by
  have cleared := @update_in_place images owner.toImageOwner
    (fun image => liveOf owner.toImageOwner image && image.isPrimary) clear (fun _ => rfl) fun _ => rfl
  refine cleared.trans (List.map_congr_left fun image member => ?_)
  have live := (mem_galleryOf.1 member).2
  cases primary : image.isPrimary with
  | true => exact Table.rewrite_chosen (by simp [live, primary])
  | false => rw [Table.rewrite_other (by simp [primary]), clear_same primary]

theorem clearPrimary_elsewhere (images : Table ProductImage.id) (owner : MediaOwner) :
    Elsewhere owner.toImageOwner images (clearPrimary images owner) :=
  update_elsewhere images _ (fun _ chosen => (Bool.and_eq_true_iff.1 chosen).1) fun _ _ => rfl

theorem insert_gallery {images next : Table ProductImage.id} {image : ProductImage}
    (inserted : images.insert? image = some next) (owner : ImageOwner) :
    galleryOf next owner = galleryOf images owner ++ if liveOf owner image then [image] else [] := by
  obtain ⟨rows, -⟩ := Table.insert?_rows inserted
  simp only [galleryOf, Table.filter, rows, List.filter_append, List.filter_singleton]
  cases liveOf owner image <;> rfl

theorem newImage_live (owner : MediaOwner) (id : Id) (checksumSha256 altTextFr altTextAr : Text)
    (sortOrder : Int) (isPrimary : Bool) (status : Catalog.ImageModerationStatus) :
    liveOf owner.toImageOwner
      (newImage owner id checksumSha256 altTextFr altTextAr sortOrder isPrimary status) = true := by
  cases kind : owner.kind <;> simp [liveOf, ownerImageWhere, newImage, kind]

theorem insert_elsewhere {images next : Table ProductImage.id} {image : ProductImage}
    (inserted : images.insert? image = some next) {owner : ImageOwner} (live : liveOf owner image = true) :
    Elsewhere owner images next := by
  intro other apart
  have foreign : liveOf other image = false :=
    Bool.eq_false_iff.2 fun also => apart (owned_apart (liveOf_owned live) (liveOf_owned also))
  rw [insert_gallery inserted, foreign]
  simp

theorem updateImage_ok {images next : Table ProductImage.id} {owner : MediaOwner} {imageId : Id}
    {change : ProductImage -> ProductImage} {keeps : forall image, (change image).id = image.id}
    (ran : updateImage images owner imageId change keeps = .ok next) (kept : KeepsOwner change) :
    Elsewhere owner.toImageOwner images next /\ next = images.update
      (fun image => decide (image.id = imageId) && liveOf owner.toImageOwner image) change keeps := by
  obtain ⟨-, rfl⟩ := (updateOne_ok _ _ _ _ _ _).1 ran
  exact ⟨update_elsewhere images keeps (fun _ chosen => (Bool.and_eq_true_iff.1 chosen).2) kept, rfl⟩

-- `updateImage` inside a gallery, for a change that keeps the image live.
theorem updateImage_gallery {images next : Table ProductImage.id} {owner : MediaOwner} {imageId : Id}
    {change : ProductImage -> ProductImage} {keeps : forall image, (change image).id = image.id}
    (ran : updateImage images owner imageId change keeps = .ok next) (kept : KeepsOwner change)
    (stays : forall image, (change image).deletedAt = image.deletedAt) :
    galleryOf next owner.toImageOwner = (galleryOf images owner.toImageOwner).map fun image =>
      if image.id = imageId then change image else image := by
  obtain ⟨-, rfl⟩ := updateImage_ok ran kept
  rw [update_in_place _ _ keeps fun image => by rw [liveOf, liveOf, kept, stays]]
  refine List.map_congr_left fun image member => ?_
  simp [Table.rewrite, (mem_galleryOf.1 member).2]

def retire (now : Int) (image : ProductImage) : ProductImage :=
  { image with deletedAt := some now, isPrimary := false }

theorem retire_id (now : Int) (image : ProductImage) : (retire now image).id = image.id := rfl

theorem retire_live (owner : ImageOwner) (imageId : Id) (now : Int) (image : ProductImage) :
    liveOf owner (Table.rewrite (fun image => decide (image.id = imageId) && liveOf owner image)
      (retire now) image) = (liveOf owner image && decide (image.id ≠ imageId)) := by
  by_cases here : image.id = imageId
  next =>
    cases live : liveOf owner image with
    | true =>
      rw [Table.rewrite_chosen (by simp [here, live])]
      simp [liveOf, retire, here]
    | false => rw [Table.rewrite_other (by simp [live]), live, Bool.false_and]
  next => rw [Table.rewrite_other (by simp [here]), decide_eq_true here, Bool.and_true]

theorem retire_gallery {images next : Table ProductImage.id} {owner : MediaOwner} {imageId : Id} {now : Int}
    (ran : updateImage images owner imageId (retire now) (retire_id now) = .ok next) :
    galleryOf next owner.toImageOwner = without imageId (galleryOf images owner.toImageOwner) := by
  obtain ⟨-, rfl⟩ := updateImage_ok ran fun _ _ => rfl
  have live := funext (retire_live owner.toImageOwner imageId now)
  rw [galleryOf, Table.filter, Table.update_rows, List.filter_map, Function.comp_def, live, without,
    galleryOf, Table.filter, List.filter_filter]
  have unchanged : forall image, image ∈ images.rows.filter
      (fun image => liveOf owner.toImageOwner image && decide (image.id ≠ imageId)) ->
      Table.rewrite (fun image => decide (image.id = imageId) && liveOf owner.toImageOwner image)
        (retire now) image = image := by
    intro image member
    have apart := (Bool.and_eq_true_iff.1 (List.mem_filter.1 member).2).2
    exact Table.rewrite_other (by simpa using fun same => absurd same (of_decide_eq_true apart))
  rw [List.map_congr_left unchanged, List.map_id']
  simp only [Bool.and_comm]

theorem nextSortOrder_above {images : Table ProductImage.id} {owner : MediaOwner} {image : ProductImage}
    (member : image ∈ galleryOf images owner.toImageOwner) :
    image.sortOrder < nextSortOrder images owner := by
  have there : image.sortOrder ∈ (galleryOf images owner.toImageOwner).map (·.sortOrder) :=
    List.mem_map_of_mem member
  unfold nextSortOrder
  cases most : ((images.filter (liveOf owner.toImageOwner)).map (·.sortOrder)).max? with
  | none =>
    rw [galleryOf, List.max?_eq_none_iff.1 most] at there
    simp at there
  | some top =>
    have bound := (List.max?_eq_some_iff.1 most).2 _ there
    simp only [Option.getD_some]
    omega

theorem findExactImage_ok {media : MediaState} {imageId : Id} {owner : MediaOwner} {image : ProductImage}
    (found : findExactImage media imageId owner = .ok image) :
    media.productImages.find? imageId = some image /\
      image ∈ galleryOf media.productImages owner.toImageOwner := by
  rw [findExactImage, orThrow_ok, Option.filter_eq_some_iff] at found
  exact ⟨found.1, mem_galleryOf.2 ⟨Table.find?_mem found.1, found.2⟩⟩

theorem bumpOwner_images {media next : MediaState} {owner : MediaOwner} {expectedVersion : Int}
    {mark : Bool} (ran : bumpOwner media owner expectedVersion mark = .ok next) :
    next.productImages = media.productImages := by
  unfold bumpOwner at ran
  split at ran
  all_goals
    simp only [bind_ok, pure_ok] at ran
    obtain ⟨_, -, rfl⟩ := ran
    rfl

theorem flagProduct_images {media next : MediaState} {productId : Id} {version : Int}
    (ran : flagProduct media productId version = .ok next) : next.productImages = media.productImages := by
  simp only [flagProduct, bind_ok, pure_ok] at ran
  obtain ⟨_, -, rfl⟩ := ran
  rfl

theorem recordCheckpoints_images {media next : MediaState} {provenance : ImportedProductImageProvenance}
    {productVersion ownerVersion : Int}
    (ran : recordCheckpoints media provenance productVersion ownerVersion = .ok next) :
    next.productImages = media.productImages := by
  simp only [recordCheckpoints, bind_ok] at ran
  obtain ⟨_, -, ran⟩ := ran
  split at ran
  next =>
    obtain rfl := (pure_ok _ _).1 ran
    rfl
  next =>
    simp only [bind_ok, pure_ok] at ran
    obtain ⟨_, -, rfl⟩ := ran
    rfl

theorem recordSource_images {media next : MediaState} {id imageId : Id}
    {provenance : ImportedProductImageProvenance} {checksumSha256 : Text} {now : Int}
    (ran : recordSource media id provenance checksumSha256 imageId now = .ok next) :
    next.productImages = media.productImages := by
  simp only [recordSource, bind_ok, pure_ok] at ran
  obtain ⟨_, -, _, -, _, -, rfl⟩ := ran
  rfl

-- The owner an upload or a new order names.
def addressed (productId : Id) (variantId : Option Id) : ImageOwner :=
  match variantId with
  | none => { kind := .product, id := productId }
  | some variantId => { kind := .variant, id := variantId }

theorem findProduct_id {media : MediaState} {productId : Id} {product : Catalog.Product}
    (found : findProduct media productId = .ok product) : product.id = productId := by
  rw [findProduct, orThrow_ok, Option.filter_eq_some_iff] at found
  exact Table.find?_key found.1

theorem resolveOwner_ok {media : MediaState} {productId : Id} {variantId : Option Id} {owner : MediaOwner}
    (resolved : resolveOwner media productId variantId = .ok owner) :
    owner.toImageOwner = addressed productId variantId /\ owner.productId = productId := by
  cases variantId with
  | none =>
    simp only [resolveOwner, bind_ok, pure_ok] at resolved
    obtain ⟨product, found, rfl⟩ := resolved
    obtain rfl := findProduct_id found
    exact ⟨rfl, rfl⟩
  | some variantId =>
    simp only [resolveOwner, bind_ok, pure_ok, orThrow_ok, Option.filter_eq_some_iff, Bool.and_eq_true,
      beq_iff_eq] at resolved
    obtain ⟨variant, ⟨found, same, -⟩, _, -, rfl⟩ := resolved
    obtain rfl := Table.find?_key found
    exact ⟨rfl, same⟩

theorem lockOwner_ok {media : MediaState} {productId : Id} {variantId : Option Id}
    {owner current : MediaOwner} {expectedVersion : Int}
    (resolved : resolveOwner media productId variantId = .ok owner)
    (locked : lockOwner media owner expectedVersion = .ok current) :
    current.toImageOwner = addressed productId variantId := by
  obtain ⟨named, product⟩ := resolveOwner_ok resolved
  simp only [lockOwner, bind_ok, pure_ok] at locked
  obtain ⟨_, again, _, -, rfl⟩ := locked
  rw [(resolveOwner_ok again).1, product]
  cases variantId with
  | none => rw [show owner.kind = .product from congrArg ImageOwner.kind named]
  | some variantId =>
    rw [show owner.kind = .variant from congrArg ImageOwner.kind named,
      show owner.id = variantId from congrArg ImageOwner.id named]

theorem assertNoDuplicate_ok {media : MediaState} {owner : MediaOwner} {checksumSha256 : Text}
    {excluded : Option Id} (passed : assertNoDuplicate media owner checksumSha256 excluded = .ok ()) :
    forall image, image ∈ galleryOf media.productImages owner.toImageOwner -> excluded ≠ some image.id ->
      image.checksumSha256 ≠ checksumSha256 := by
  intro image member other same
  obtain ⟨there, live⟩ := mem_galleryOf.1 member
  rw [assertNoDuplicate, throwIf_ok] at passed
  refine passed (List.any_eq_true.2 ⟨image, there, ?_⟩)
  simp [live, same, other]

theorem addImage_ok {media next : MediaState} {owner : MediaOwner} {id : Id} {checksumSha256 : Text}
    {input : UploadProductImageDto} {primary : Nat -> Bool} {status : Catalog.ImageModerationStatus}
    (ran : addImage media owner id checksumSha256 input primary status = .ok next)
    (approves : forall count, primary count = true -> status = .approved) :
    Elsewhere owner.toImageOwner media.productImages next.productImages /\ exists image,
      Added (galleryOf media.productImages owner.toImageOwner) image
        (galleryOf next.productImages owner.toImageOwner) /\
      image.moderationStatus = status /\
      image.isPrimary = primary (galleryOf media.productImages owner.toImageOwner).length := by
  simp only [addImage, bind_ok, throwIf_ok, create_ok, pure_ok] at ran
  obtain ⟨_, single, _, room, images, inserted, rfl⟩ := ran
  have live := newImage_live owner id checksumSha256 input.altTextFr input.altTextAr
    (nextSortOrder media.productImages owner)
    (primary (media.productImages.count (liveOf owner.toImageOwner))) status
  have added := insert_gallery inserted owner.toImageOwner
  have placed := insert_elsewhere inserted live
  rw [live] at added
  refine ⟨?_, newImage owner id checksumSha256 input.altTextFr input.altTextAr
    (nextSortOrder media.productImages owner)
    (primary (media.productImages.count (liveOf owner.toImageOwner))) status, ?_, rfl, rfl⟩
  next =>
    refine Elsewhere.trans ?_ placed
    split
    next => exact clearPrimary_elsewhere _ _
    next => exact fun _ _ => rfl
  next =>
    refine ⟨Nat.lt_of_not_le room, fun other there => nextSortOrder_above there, fun other there =>
      assertNoDuplicate_ok single other there (by simp), approves _, ?_⟩
    refine added.trans (congrArg (fun gallery => gallery ++ _) ?_)
    change _ = clearedIf (primary (media.productImages.count (liveOf owner.toImageOwner))) _
    cases primary (media.productImages.count (liveOf owner.toImageOwner)) with
    | false => rfl
    | true => exact clearPrimary_gallery _ _

theorem upload_adds {media next : MediaState} {productId id : Id} {input : UploadProductImageDto}
    {file : UploadedProductImage} (ran : upload media productId id input file = .ok next) :
    Elsewhere (addressed productId input.variantId) media.productImages next.productImages /\
      exists image, Added (galleryOf media.productImages (addressed productId input.variantId)) image
          (galleryOf next.productImages (addressed productId input.variantId)) /\
        image.moderationStatus = .approved /\ (image.isPrimary = true <-> input.isPrimary = some true \/
          galleryOf media.productImages (addressed productId input.variantId) = []) := by
  simp only [upload, bind_ok] at ran
  obtain ⟨checksum, -, preflight, resolved, _, -, _, -, owner, locked, middle, added, bumped⟩ := ran
  obtain ⟨elsewhere, image, placed, approved, primary⟩ := addImage_ok added fun _ _ => rfl
  rw [← lockOwner_ok resolved locked, bumpOwner_images bumped]
  refine ⟨elsewhere, image, placed, approved, ?_⟩
  rw [primary]
  simp

theorem uploadImported_adds {media next : MediaState} {productId id sourceRecordId : Id}
    {input : UploadProductImageDto} {file : UploadedProductImage}
    {provenance : ImportedProductImageProvenance} {now : Int}
    (ran : uploadImported media productId id sourceRecordId input file provenance now = .ok next) :
    Elsewhere (addressed productId input.variantId) media.productImages next.productImages /\
      exists image, Added (galleryOf media.productImages (addressed productId input.variantId)) image
          (galleryOf next.productImages (addressed productId input.variantId)) /\
        (image.moderationStatus = .approved -> image.isPrimary = true) := by
  simp only [uploadImported, bind_ok] at ran
  obtain ⟨checksum, -, preflight, resolved, _, -, _, -, _, -, _, -, _, -, owner, locked, first, added,
    second, bumped, third, flagged, fourth, checkpointed, recorded⟩ := ran
  have flags : third.productImages = second.productImages := by
    split at flagged
    next => exact flagProduct_images flagged
    next =>
      cases flagged
      rfl
  obtain ⟨elsewhere, image, placed, status, primary⟩ := addImage_ok added (by
    intro _ official
    simp [of_decide_eq_true official])
  rw [← lockOwner_ok resolved locked, recordSource_images recorded, recordCheckpoints_images checkpointed,
    flags, bumpOwner_images bumped]
  refine ⟨elsewhere, image, placed, fun approved => ?_⟩
  rw [primary]
  by_contra plain
  rw [status, if_neg (by simpa using plain)] at approved
  cases approved

def Edits (media next : MediaState) : Prop :=
  exists owner, Elsewhere owner media.productImages next.productImages /\
    Edit (galleryOf media.productImages owner) (galleryOf next.productImages owner)

theorem findScopedImage_ok {media : MediaState} {productId imageId : Id}
    {found : ProductImage × MediaOwner} (ran : findScopedImage media productId imageId = .ok found) :
    media.productImages.find? imageId = some found.1 := by
  simp only [findScopedImage, bind_ok, orThrow_ok, Option.filter_eq_some_iff, pure_ok] at ran
  obtain ⟨image, ⟨there, -⟩, owner, -, rfl⟩ := ran
  exact there

theorem updateMetadata_edits {media next : MediaState} {productId imageId : Id}
    {input : UpdateProductImageMetadataDto} (ran : updateMetadata media productId imageId input = .ok next) :
    Edits media next := by
  simp only [updateMetadata, bind_ok] at ran
  obtain ⟨_, -, found, -, owner, -, current, -, images, updated, bumped⟩ := ran
  refine ⟨owner.toImageOwner, ?_⟩
  rw [bumpOwner_images bumped]
  refine ⟨(updateImage_ok updated fun _ _ => rfl).1, ?_⟩
  rw [updateImage_gallery updated (fun _ _ => rfl) fun _ => rfl]
  refine .described _ fun image _ => ?_
  split <;> exact ⟨rfl, rfl, rfl, rfl, rfl⟩

theorem setPrimary_edits {media next : MediaState} {productId imageId : Id} {expectedOwnerVersion : Int}
    (ran : setPrimary media productId imageId expectedOwnerVersion = .ok next) : Edits media next := by
  simp only [setPrimary, bind_ok, throwIf_ok, not_not] at ran
  obtain ⟨found, -, owner, -, current, known, _, approved, images, updated, bumped⟩ := ran
  refine ⟨owner.toImageOwner, ?_⟩
  rw [bumpOwner_images bumped]
  refine ⟨(clearPrimary_elsewhere _ _).trans (updateImage_ok updated fun _ _ => rfl).1, ?_⟩
  rw [updateImage_gallery updated (fun _ _ => rfl) fun _ => rfl, clearPrimary_gallery]
  exact .chosen current (findExactImage_ok known).2 approved

-- The image under review, as it stands once the others have given way.
theorem reviewed_pending {gallery : List ProductImage} (identified : (gallery.map (·.id)).Nodup)
    {current image : ProductImage} {first : Bool} (member : current ∈ gallery)
    (pending : current.moderationStatus = .pending) (there : image ∈ clearedIf first gallery)
    (here : image.id = current.id) : image.moderationStatus = .pending := by
  obtain ⟨was, present, rfl⟩ := mem_clearedIf there
  cases first with
  | false =>
    obtain rfl := same_of_id identified present member here
    exact pending
  | true =>
    obtain rfl := same_of_id identified present member here
    exact pending

theorem firstShown_iff {images : Table ProductImage.id} {owner : ImageOwner} {current : ProductImage}
    {approve : Bool} :
    (approve && !(approve && images.rows.any fun image => liveOf owner image &&
      image.moderationStatus == .approved && image.isPrimary && image.id != current.id)) = true <->
      approve = true /\ forall other, other ∈ galleryOf images owner -> other.id ≠ current.id ->
        other.isPrimary = true -> other.moderationStatus ≠ .approved := by
  cases approve with
  | false => simp
  | true =>
    simp only [Bool.true_and, Bool.not_eq_true', List.any_eq_false, Bool.and_eq_true, beq_iff_eq,
      bne_iff_ne, true_and]
    constructor
    next =>
      intro none other member apart primary approved
      obtain ⟨there, live⟩ := mem_galleryOf.1 member
      exact none other there ⟨⟨⟨live, approved⟩, primary⟩, apart⟩
    next =>
      rintro none other there ⟨⟨⟨live, approved⟩, primary⟩, apart⟩
      exact none other (mem_galleryOf.2 ⟨there, live⟩) apart primary approved

theorem updatePending_ok {images next : Table ProductImage.id} {owner : ImageOwner} {id : Id}
    {status : Catalog.ImageModerationStatus} {primary : Bool}
    (ran : updateOne images
      (fun image => decide (image.id = id) && liveOf owner image && image.moderationStatus == .pending)
      (fun image => { image with moderationStatus := status, isPrimary := primary }) (fun _ => rfl)
      imageNotFound = .ok next)
    (pending : forall image, image ∈ galleryOf images owner -> image.id = id ->
      image.moderationStatus = .pending) :
    Elsewhere owner images next /\
      galleryOf next owner = (galleryOf images owner).map (judge id status primary) := by
  obtain ⟨-, rfl⟩ := (updateOne_ok _ _ _ _ _ _).1 ran
  constructor
  next =>
    refine update_elsewhere _ _ ?_ fun _ _ => rfl
    exact fun image chosen => (Bool.and_eq_true_iff.1 (Bool.and_eq_true_iff.1 chosen).1).2
  next =>
    refine (update_in_place _ _ _ ?inPlace).trans (List.map_congr_left fun image there => ?_)
    case inPlace => exact fun _ => rfl
    by_cases here : image.id = id
    next =>
      have live := (mem_galleryOf.1 there).2
      rw [judge_here here, Table.rewrite_chosen (by simp [here, live, pending image there here])]
    next => rw [judge_other here, Table.rewrite_other (by simp [here])]

theorem review_edits {media next : MediaState} {productId imageId : Id} {input : ReviewProductImageDto}
    (ran : review media productId imageId input = .ok next) : Edits media next := by
  simp only [review, bind_ok, throwIf_ok, not_not] at ran
  obtain ⟨found, -, _, -, product, -, owner, -, current, known, _, pending, images, updated, middle, bumped,
    flagged⟩ := ran
  have flags : next.productImages = middle.productImages := by
    split at flagged
    next => rw [(pure_ok _ _).1 flagged]
    next => exact flagProduct_images flagged
  have member := (findExactImage_ok known).2
  have identified := galleryOf_identified media.productImages owner.toImageOwner
  have decided := @firstShown_iff media.productImages owner.toImageOwner current
    (decide (input.decision = .approve))
  generalize (decide (input.decision = .approve) &&
    !(decide (input.decision = .approve) && media.productImages.rows.any fun image =>
      liveOf owner.toImageOwner image && image.moderationStatus == .approved && image.isPrimary &&
        image.id != current.id)) = first at updated decided
  generalize cleared : (if first = true then clearPrimary media.productImages owner
    else media.productImages) = given at updated
  have clears : Elsewhere owner.toImageOwner media.productImages given /\
      galleryOf given owner.toImageOwner =
        clearedIf first (galleryOf media.productImages owner.toImageOwner) := by
    subst cleared
    cases first with
    | false => exact ⟨fun _ _ => rfl, rfl⟩
    | true => exact ⟨clearPrimary_elsewhere _ _, clearPrimary_gallery _ _⟩
  obtain ⟨elsewhere, ruled⟩ := updatePending_ok updated fun image there here =>
    reviewed_pending identified member pending (clears.2 ▸ there) here
  refine ⟨owner.toImageOwner, ?_⟩
  rw [flags, bumpOwner_images bumped]
  refine ⟨clears.1.trans elsewhere, ?_⟩
  rw [ruled, clears.2]
  exact .reviewed current _ first member pending decided

-- What the loop of a reorder makes of an image, for the ids from one index on.
def renumberFrom (start : Nat) (ids : List Id) (image : ProductImage) : ProductImage :=
  if image.id ∈ ids then { image with sortOrder := ((start + ids.idxOf image.id : Nat) : Int) } else image

theorem renumberFrom_cons {start : Nat} {id : Id} {rest : List Id} (fresh : Not (id ∈ rest))
    (image : ProductImage) :
    renumberFrom (start + 1) rest
        (if image.id = id then { image with sortOrder := (start : Int) } else image) =
      renumberFrom start (id :: rest) image := by
  by_cases here : image.id = id
  next => simp [renumberFrom, here, fresh]
  next =>
    by_cases later : image.id ∈ rest
    next =>
      have index : (id :: rest).idxOf image.id = rest.idxOf image.id + 1 :=
        List.idxOf_cons_ne _ fun same => here same.symm
      have shifted : start + 1 + rest.idxOf image.id = start + (rest.idxOf image.id + 1) := by omega
      simp only [renumberFrom, here, if_false, later, if_true, List.mem_cons, or_true, index, shifted]
    next => simp [renumberFrom, here, later]

theorem reorder_loop {owner : MediaOwner} {ids : List Id} {start : Nat}
    {images finish : Table ProductImage.id} (unique : ids.Nodup)
    (ran : (ids.zipIdx start).foldlM (fun images (imageId, sortOrder) =>
      updateImage images owner imageId (fun image => { image with sortOrder := (sortOrder : Int) })
        (fun _ => rfl)) images = .ok finish) :
    Elsewhere owner.toImageOwner images finish /\ galleryOf finish owner.toImageOwner =
      (galleryOf images owner.toImageOwner).map (renumberFrom start ids) := by
  induction ids generalizing start images with
  | nil =>
    simp only [List.zipIdx_nil, List.foldlM_nil, pure_ok] at ran
    subst ran
    have none : renumberFrom start [] = id := funext fun image => by simp [renumberFrom]
    exact ⟨fun _ _ => rfl, by rw [none, List.map_id]⟩
  | cons first rest ih =>
    simp only [List.zipIdx_cons, List.foldlM_cons, bind_ok] at ran
    obtain ⟨middle, updated, later⟩ := ran
    obtain ⟨fresh, distinct⟩ := List.nodup_cons.1 unique
    obtain ⟨elsewhere, renumbered⟩ := ih distinct later
    refine ⟨(updateImage_ok updated fun _ _ => rfl).1.trans elsewhere, ?_⟩
    rw [renumbered, updateImage_gallery updated (fun _ _ => rfl) fun _ => rfl, List.map_map]
    exact List.map_congr_left fun image _ => renumberFrom_cons fresh image

-- Distinct ids, as many as a short gallery has images and each of one of them, are the ids of all.
theorem covered {gallery : List ProductImage} {ids : List Id} (unique : ids.Nodup)
    (sized : ids.length <= maxImagesPerOwner)
    (same : ((gallery.insertionSort imageBefore).take (maxImagesPerOwner + 1)).length = ids.length)
    (each : forall id, id ∈ ids ->
      id ∈ ((gallery.insertionSort imageBefore).take (maxImagesPerOwner + 1)).map (·.id)) :
    forall image, image ∈ gallery -> image.id ∈ ids := by
  have permuted := List.perm_insertionSort imageBefore gallery
  have length : gallery.length = ids.length := by
    rw [List.length_take, permuted.length_eq] at same
    omega
  have within : ids ⊆ gallery.map (·.id) := fun id member =>
    (permuted.map _).subset (List.map_subset _ (List.take_subset _ _) (each id member))
  have all := (List.subperm_of_subset unique within).perm_of_length_le (by rw [List.length_map, length])
  exact fun image member => all.symm.subset (List.mem_map_of_mem member)

theorem reorder_edits {media next : MediaState} {productId : Id} {input : ReorderProductImagesDto}
    (ran : reorder media productId input = .ok next) : Edits media next := by
  simp only [reorder, bind_ok, throwIf_ok, not_or, not_not, not_exists, not_and] at ran
  obtain ⟨initial, -, owner, -, _, ⟨same, each⟩, images, looped, bumped⟩ := ran
  have covers := covered input.unique input.sized.2 same each
  obtain ⟨elsewhere, renumbered⟩ := reorder_loop input.unique looped
  refine ⟨owner.toImageOwner, ?_⟩
  rw [bumpOwner_images bumped]
  refine ⟨elsewhere, ?_⟩
  rw [renumbered, List.map_congr_left fun image member => (by
    simp [renumberFrom, renumber, covers image member] :
      renumberFrom 0 input.imageIds image = renumber input.imageIds image)]
  exact .renumbered input.imageIds covers

theorem replace_edits {media next : MediaState} {productId imageId id : Id}
    {input : ReplaceProductImageDto} {file : UploadedProductImage} {now : Int}
    (ran : replace media productId imageId id input file now = .ok next) : Edits media next := by
  simp only [replace, bind_ok, throwIf_ok, not_not, create_ok] at ran
  obtain ⟨checksum, -, found, preflight, _, -, _, approved, _, -, owner, -, current, known, _, -, _, single,
    created, inserted, images, retired, bumped⟩ := ran
  obtain ⟨here, member⟩ := findExactImage_ok known
  have was : current.moderationStatus = .approved := by
    rw [findScopedImage_ok preflight, Option.some.injEq] at here
    exact here ▸ approved
  have live := newImage_live owner id checksum (input.altTextFr.getD current.altTextFr)
    (input.altTextAr.getD current.altTextAr) current.sortOrder current.isPrimary .approved
  have added := insert_gallery inserted owner.toImageOwner
  rw [live] at added
  have fresh : current.id ≠ id := by
    obtain ⟨-, apart⟩ := Table.insert?_rows inserted
    exact apart current (mem_galleryOf.1 member).1
  refine ⟨owner.toImageOwner, ?_⟩
  rw [bumpOwner_images bumped]
  refine ⟨(insert_elsewhere inserted live).trans (updateImage_ok retired fun _ _ => rfl).1, ?_⟩
  have ended := retire_gallery retired
  have stays : without current.id (galleryOf created owner.toImageOwner) =
      without current.id (galleryOf media.productImages owner.toImageOwner) ++
        [newImage owner id checksum (input.altTextFr.getD current.altTextFr)
          (input.altTextAr.getD current.altTextAr) current.sortOrder current.isPrimary .approved] := by
    rw [added, if_pos rfl, without, List.filter_append]
    simp [without, newImage, Ne.symm fresh]
  have distinct : forall other, other ∈ galleryOf media.productImages owner.toImageOwner ->
      other.id ≠ current.id -> other.checksumSha256 ≠ checksum := by
    intro other there apart
    exact assertNoDuplicate_ok single other there fun same => apart (Option.some.inj same).symm
  rw [ended, stays]
  exact .replaced current _ member was distinct rfl rfl rfl

theorem successor_some {images : Table ProductImage.id} {owner : MediaOwner} {successor : ProductImage}
    (found : successor? images owner = some successor) :
    successor ∈ galleryOf images owner.toImageOwner /\ successor.moderationStatus = .approved := by
  have member := (List.mem_insertionSort _).1 (List.mem_of_mem_head? (by simpa [successor?] using found))
  obtain ⟨there, chosen⟩ := List.mem_filter.1 member
  rw [Bool.and_eq_true, beq_iff_eq] at chosen
  exact ⟨mem_galleryOf.2 ⟨there, chosen.1⟩, chosen.2⟩

theorem successor_none {images : Table ProductImage.id} {owner : MediaOwner}
    (none : successor? images owner = none) : Not (HasApproved (galleryOf images owner.toImageOwner)) := by
  rintro ⟨image, member, approved⟩
  obtain ⟨there, live⟩ := mem_galleryOf.1 member
  rw [successor?, List.head?_eq_none_iff] at none
  have sorted : image ∈ (images.filter fun image => liveOf owner.toImageOwner image &&
      image.moderationStatus == .approved).insertionSort imageBefore :=
    (List.mem_insertionSort _).2 (List.mem_filter.2 ⟨there, by simp [live, approved]⟩)
  rw [none] at sorted
  cases sorted

theorem promoted {images next : Table ProductImage.id} {owner : MediaOwner} {id : Id}
    (is : next = images.update
      (fun image => decide (image.id = id) && liveOf owner.toImageOwner image)
      (fun image => { image with isPrimary := true }) (fun _ => rfl)) :
    Elsewhere owner.toImageOwner images next /\
      galleryOf next owner.toImageOwner = (galleryOf images owner.toImageOwner).map (promote id) := by
  subst is
  constructor
  next =>
    refine update_elsewhere _ _ ?_ fun _ _ => rfl
    exact fun _ chosen => (Bool.and_eq_true_iff.1 chosen).2
  next =>
    refine (update_in_place _ _ _ ?inPlace).trans (List.map_congr_left fun image there => ?_)
    case inPlace => exact fun _ => rfl
    simp [Table.rewrite, promote, (mem_galleryOf.1 there).2]

theorem remove_edits {media next : MediaState} {productId imageId : Id} {expectedOwnerVersion now : Int}
    (ran : remove media productId imageId expectedOwnerVersion now = .ok next) : Edits media next := by
  simp only [remove, bind_ok] at ran
  obtain ⟨found, -, owner, -, current, known, retired, updated, bumped⟩ := ran
  have member := (findExactImage_ok known).2
  have elsewhere := (updateImage_ok updated fun _ _ => rfl).1
  have ended := retire_gallery updated
  refine ⟨owner.toImageOwner, ?_⟩
  rw [bumpOwner_images bumped]
  cases replaced : (if current.isPrimary = true then successor? retired owner else none) with
  | none =>
    refine ⟨elsewhere, ?_⟩
    simp only
    rw [ended]
    refine .removed current member fun primary => ?_
    rw [if_pos primary] at replaced
    exact ended ▸ successor_none replaced
  | some successor =>
    have primary : current.isPrimary = true := by
      by_contra plain
      rw [if_neg plain] at replaced
      cases replaced
    rw [if_pos primary] at replaced
    obtain ⟨follows, approved⟩ := successor_some replaced
    obtain ⟨others, here⟩ := @promoted retired _ owner successor.id rfl
    refine ⟨elsewhere.trans others, ?_⟩
    simp only
    rw [here, ended]
    exact .succeeded current successor member primary (ended ▸ follows) approved

end VapeCommerce.Media.Refinement
