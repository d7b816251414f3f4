import VapeCommerce.Media.Images

set_option autoImplicit false

-- The live images of one owner as a list, and what one call may do to it.
namespace VapeCommerce.Media.Gallery

open VapeCommerce.Schema VapeCommerce.Media

structure Sound (gallery : List ProductImage) : Prop where
  limited : gallery.length <= maxImagesPerOwner
  ordered : (gallery.map (·.sortOrder)).Nodup
  distinct : (gallery.map (·.checksumSha256)).Nodup
  single : forall left, left ∈ gallery -> forall right, right ∈ gallery -> left.isPrimary = true ->
    right.isPrimary = true -> left = right
  approved : forall image, image ∈ gallery -> image.isPrimary = true -> image.moderationStatus = .approved

def HasApproved (gallery : List ProductImage) : Prop :=
  exists image, image ∈ gallery /\ image.moderationStatus = .approved

def HasPrimary (gallery : List ProductImage) : Prop :=
  exists image, image ∈ gallery /\ image.isPrimary = true

def Presented (gallery : List ProductImage) : Prop :=
  HasApproved gallery -> HasPrimary gallery

def clear (image : ProductImage) : ProductImage :=
  { image with isPrimary := false }

def promote (id : Id) (image : ProductImage) : ProductImage :=
  if image.id = id then { image with isPrimary := true } else image

def judge (id : Id) (status : Catalog.ImageModerationStatus) (primary : Bool) (image : ProductImage) :
    ProductImage :=
  if image.id = id then { image with moderationStatus := status, isPrimary := primary } else image

def renumber (ids : List Id) (image : ProductImage) : ProductImage :=
  { image with sortOrder := (ids.idxOf image.id : Nat) }

def clearedIf (clearing : Bool) (gallery : List ProductImage) : List ProductImage :=
  if clearing then gallery.map clear else gallery

def without (id : Id) (gallery : List ProductImage) : List ProductImage :=
  gallery.filter fun image => decide (image.id ≠ id)

-- A new image comes last; a new primary image takes over from the one before.
structure Added (gallery : List ProductImage) (image : ProductImage) (next : List ProductImage) : Prop where
  room : gallery.length < maxImagesPerOwner
  last : forall other, other ∈ gallery -> other.sortOrder < image.sortOrder
  fresh : forall other, other ∈ gallery -> other.checksumSha256 ≠ image.checksumSha256
  approved : image.isPrimary = true -> image.moderationStatus = .approved
  result : next = clearedIf image.isPrimary gallery ++ [image]

-- Everything of an image but its texts.
structure Described (was now : ProductImage) : Prop where
  id : now.id = was.id
  sortOrder : now.sortOrder = was.sortOrder
  checksumSha256 : now.checksumSha256 = was.checksumSha256
  isPrimary : now.isPrimary = was.isPrimary
  moderationStatus : now.moderationStatus = was.moderationStatus

inductive Edit (gallery : List ProductImage) : List ProductImage -> Prop where
  | described (describe : ProductImage -> ProductImage)
      (same : forall image, image ∈ gallery -> Described image (describe image)) :
      Edit gallery (gallery.map describe)
  | reviewed (current : ProductImage) (approve first : Bool) (member : current ∈ gallery)
      (pending : current.moderationStatus = .pending)
      (decided : first = true <-> approve = true /\ forall other, other ∈ gallery ->
        other.id ≠ current.id -> other.isPrimary = true -> other.moderationStatus ≠ .approved) :
      Edit gallery ((clearedIf first gallery).map
        (judge current.id (if approve then .approved else .rejected) first))
  | chosen (current : ProductImage) (member : current ∈ gallery)
      (approved : current.moderationStatus = .approved) :
      Edit gallery ((gallery.map clear).map (promote current.id))
  | renumbered (ids : List Id) (covers : forall image, image ∈ gallery -> image.id ∈ ids) :
      Edit gallery (gallery.map (renumber ids))
  | replaced (current image : ProductImage) (member : current ∈ gallery)
      (was : current.moderationStatus = .approved)
      (fresh : forall other, other ∈ gallery -> other.id ≠ current.id ->
        other.checksumSha256 ≠ image.checksumSha256)
      (sortOrder : image.sortOrder = current.sortOrder) (primary : image.isPrimary = current.isPrimary)
      (approved : image.moderationStatus = .approved) :
      Edit gallery (without current.id gallery ++ [image])
  | removed (current : ProductImage) (member : current ∈ gallery)
      (last : current.isPrimary = true -> Not (HasApproved (without current.id gallery))) :
      Edit gallery (without current.id gallery)
  | succeeded (current successor : ProductImage) (member : current ∈ gallery)
      (primary : current.isPrimary = true) (follows : successor ∈ without current.id gallery)
      (approved : successor.moderationStatus = .approved) :
      Edit gallery ((without current.id gallery).map (promote successor.id))

@[simp]
theorem clear_isPrimary (image : ProductImage) : (clear image).isPrimary = false := rfl

@[simp]
theorem clear_moderationStatus (image : ProductImage) :
    (clear image).moderationStatus = image.moderationStatus := rfl

@[simp]
theorem clear_id (image : ProductImage) : (clear image).id = image.id := rfl

@[simp]
theorem clear_sortOrder (image : ProductImage) : (clear image).sortOrder = image.sortOrder := rfl

@[simp]
theorem clear_checksum (image : ProductImage) :
    (clear image).checksumSha256 = image.checksumSha256 := rfl

theorem promote_here {id : Id} {image : ProductImage} (here : image.id = id) :
    promote id image = { image with isPrimary := true } := if_pos here

theorem promote_other {id : Id} {image : ProductImage} (other : image.id ≠ id) :
    promote id image = image := if_neg other

@[simp]
theorem promote_sortOrder (id : Id) (image : ProductImage) :
    (promote id image).sortOrder = image.sortOrder := by
  unfold promote
  split <;> rfl

@[simp]
theorem promote_checksum (id : Id) (image : ProductImage) :
    (promote id image).checksumSha256 = image.checksumSha256 := by
  unfold promote
  split <;> rfl

@[simp]
theorem promote_moderationStatus (id : Id) (image : ProductImage) :
    (promote id image).moderationStatus = image.moderationStatus := by
  unfold promote
  split <;> rfl

theorem promote_isPrimary {id : Id} {image : ProductImage} :
    (promote id image).isPrimary = true <-> image.id = id \/ image.isPrimary = true := by
  by_cases here : image.id = id
  next => simp [promote_here here, here]
  next => simp [promote_other here, here]

theorem judge_here {id : Id} {status : Catalog.ImageModerationStatus} {primary : Bool}
    {image : ProductImage} (here : image.id = id) :
    judge id status primary image = { image with moderationStatus := status, isPrimary := primary } :=
  if_pos here

theorem judge_other {id : Id} {status : Catalog.ImageModerationStatus} {primary : Bool}
    {image : ProductImage} (other : image.id ≠ id) : judge id status primary image = image := if_neg other

@[simp]
theorem judge_sortOrder (id : Id) (status : Catalog.ImageModerationStatus) (primary : Bool)
    (image : ProductImage) : (judge id status primary image).sortOrder = image.sortOrder := by
  unfold judge
  split <;> rfl

@[simp]
theorem judge_checksum (id : Id) (status : Catalog.ImageModerationStatus) (primary : Bool)
    (image : ProductImage) : (judge id status primary image).checksumSha256 = image.checksumSha256 := by
  unfold judge
  split <;> rfl

theorem mem_without {id : Id} {gallery : List ProductImage} {image : ProductImage} :
    image ∈ without id gallery <-> image ∈ gallery /\ image.id ≠ id := by
  simp [without]

theorem Sound.map {gallery : List ProductImage} (sound : Sound gallery)
    {change : ProductImage -> ProductImage}
    (ordered : (gallery.map fun image => (change image).sortOrder).Nodup)
    (checksum : forall image, image ∈ gallery -> (change image).checksumSha256 = image.checksumSha256)
    (single : forall left, left ∈ gallery -> forall right, right ∈ gallery ->
      (change left).isPrimary = true -> (change right).isPrimary = true -> left = right)
    (approved : forall image, image ∈ gallery -> (change image).isPrimary = true ->
      (change image).moderationStatus = .approved) : Sound (gallery.map change) where
  limited := by
    rw [List.length_map]
    exact sound.limited
  ordered := by
    rw [List.map_map]
    exact ordered
  distinct := by
    have same : (gallery.map change).map (·.checksumSha256) = gallery.map (·.checksumSha256) := by
      rw [List.map_map]
      exact List.map_congr_left checksum
    rw [same]
    exact sound.distinct
  single left inLeft right inRight primary other := by
    obtain ⟨first, firstIn, rfl⟩ := List.mem_map.1 inLeft
    obtain ⟨second, secondIn, rfl⟩ := List.mem_map.1 inRight
    rw [single first firstIn second secondIn primary other]
  approved image member primary := by
    obtain ⟨was, present, rfl⟩ := List.mem_map.1 member
    exact approved was present primary

theorem Sound.without {gallery : List ProductImage} (sound : Sound gallery) (id : Id) :
    Sound (without id gallery) where
  limited := Nat.le_trans (List.length_filter_le _ _) sound.limited
  ordered := sound.ordered.sublist (List.filter_sublist.map _)
  distinct := sound.distinct.sublist (List.filter_sublist.map _)
  single left inLeft right inRight :=
    sound.single left (mem_without.1 inLeft).1 right (mem_without.1 inRight).1
  approved image member := sound.approved image (mem_without.1 member).1

-- The least that lets a new image in.
theorem Sound.append {gallery : List ProductImage} (sound : Sound gallery) {image : ProductImage}
    (room : gallery.length < maxImagesPerOwner)
    (order : forall other, other ∈ gallery -> other.sortOrder ≠ image.sortOrder)
    (fresh : forall other, other ∈ gallery -> other.checksumSha256 ≠ image.checksumSha256)
    (alone : image.isPrimary = true -> Not (HasPrimary gallery))
    (approved : image.isPrimary = true -> image.moderationStatus = .approved) :
    Sound (gallery ++ [image]) where
  limited := by
    rw [List.length_append, List.length_singleton]
    exact room
  ordered := by
    rw [List.map_append, List.map_singleton, List.nodup_append]
    exact ⟨sound.ordered, List.nodup_singleton _, by simpa using order⟩
  distinct := by
    rw [List.map_append, List.map_singleton, List.nodup_append]
    exact ⟨sound.distinct, List.nodup_singleton _, by simpa using fresh⟩
  single left inLeft right inRight primary other := by
    rcases List.mem_append.1 inLeft with leftIn | leftNew
    next =>
      rcases List.mem_append.1 inRight with rightIn | rightNew
      next => exact sound.single left leftIn right rightIn primary other
      next =>
        obtain rfl := List.mem_singleton.1 rightNew
        exact absurd ⟨left, leftIn, primary⟩ (alone other)
    next =>
      obtain rfl := List.mem_singleton.1 leftNew
      rcases List.mem_append.1 inRight with rightIn | rightNew
      next => exact absurd ⟨right, rightIn, other⟩ (alone primary)
      next => exact (List.mem_singleton.1 rightNew).symm
  approved other member primary := by
    rcases List.mem_append.1 member with present | new
    next => exact sound.approved other present primary
    next =>
      obtain rfl := List.mem_singleton.1 new
      exact approved primary

theorem Sound.cleared {gallery : List ProductImage} (sound : Sound gallery) :
    Sound (gallery.map clear) :=
  sound.map (by simpa using sound.ordered) (fun image _ => clear_checksum image) (by simp) (by simp)

theorem cleared_plain (gallery : List ProductImage) : Not (HasPrimary (gallery.map clear)) := by
  rintro ⟨image, member, primary⟩
  obtain ⟨was, -, rfl⟩ := List.mem_map.1 member
  simp at primary

theorem Added.sound {gallery next : List ProductImage} {image : ProductImage}
    (added : Added gallery image next) (sound : Sound gallery) : Sound next := by
  rw [added.result]
  cases primary : image.isPrimary with
  | false =>
    refine sound.append added.room (fun other there => ne_of_lt (added.last other there)) added.fresh ?_
      added.approved
    simp [primary]
  | true =>
    refine sound.cleared.append ?_ ?_ ?_ (fun _ => cleared_plain gallery) added.approved
    next =>
      rw [List.length_map]
      exact added.room
    next =>
      intro other there
      obtain ⟨was, present, rfl⟩ := List.mem_map.1 there
      exact ne_of_lt (added.last was present)
    next =>
      intro other there
      obtain ⟨was, present, rfl⟩ := List.mem_map.1 there
      exact added.fresh was present

-- A new approved image leaves the gallery without a primary one exactly when no image before it
-- was approved and it is not primary itself.
theorem Added.presented {gallery next : List ProductImage} {image : ProductImage}
    (added : Added gallery image next) (sound : Sound gallery) (presented : Presented gallery) :
    Presented next <-> (image.moderationStatus = .approved -> image.isPrimary = true \/ HasApproved gallery) := by
  rw [added.result]
  cases primary : image.isPrimary with
  | true =>
    have shown : HasPrimary (clearedIf true gallery ++ [image]) := ⟨image, by simp, primary⟩
    exact ⟨fun _ _ => .inl rfl, fun _ _ => shown⟩
  | false =>
    have clearing : clearedIf false gallery = gallery := rfl
    rw [clearing]
    constructor
    next =>
      intro shows status
      obtain ⟨other, member, isPrimary⟩ := shows ⟨image, by simp, status⟩
      rcases List.mem_append.1 member with present | new
      next => exact .inr ⟨other, present, sound.approved other present isPrimary⟩
      next =>
        obtain rfl := List.mem_singleton.1 new
        rw [primary] at isPrimary
        cases isPrimary
    next =>
      rintro fine ⟨other, member, status⟩
      have approved : HasApproved gallery := by
        rcases List.mem_append.1 member with present | new
        next => exact ⟨other, present, status⟩
        next =>
          obtain rfl := List.mem_singleton.1 new
          exact (fine status).resolve_left (by simp)
      obtain ⟨shown, present, isPrimary⟩ := presented approved
      exact ⟨shown, List.mem_append_left _ present, isPrimary⟩

theorem Sound.clearedIf {gallery : List ProductImage} (sound : Sound gallery) (clearing : Bool) :
    Sound (clearedIf clearing gallery) := by
  cases clearing with
  | false => exact sound
  | true => exact sound.cleared

theorem mem_clearedIf {clearing : Bool} {gallery : List ProductImage} {image : ProductImage}
    (member : image ∈ clearedIf clearing gallery) :
    exists was, was ∈ gallery /\ image = if clearing then clear was else was := by
  cases clearing with
  | false => exact ⟨image, member, rfl⟩
  | true =>
    obtain ⟨was, present, rfl⟩ := List.mem_map.1 member
    exact ⟨was, present, rfl⟩

theorem clearedIf_ids (clearing : Bool) (gallery : List ProductImage) :
    (clearedIf clearing gallery).map (·.id) = gallery.map (·.id) := by
  cases clearing with
  | false => rfl
  | true => simp [clearedIf, Function.comp_def]

theorem same_of_id {gallery : List ProductImage} (identified : (gallery.map (·.id)).Nodup)
    {left right : ProductImage} (first : left ∈ gallery) (second : right ∈ gallery)
    (same : left.id = right.id) : left = right :=
  List.inj_on_of_nodup_map identified first second same

theorem reviewed_sound {gallery : List ProductImage} (sound : Sound gallery)
    (identified : (gallery.map (·.id)).Nodup) (id : Id) {approve first : Bool}
    (approves : first = true -> approve = true) :
    Sound ((clearedIf first gallery).map (judge id (if approve then .approved else .rejected) first)) := by
  have identified : ((clearedIf first gallery).map (·.id)).Nodup := by
    rw [clearedIf_ids]
    exact identified
  -- A primary image after the decision is the reviewed one, or there was no hand-over.
  have shown : forall image, image ∈ clearedIf first gallery -> image.id ≠ id ->
      image.isPrimary = true -> first = false := by
    intro image member _ primary
    obtain ⟨was, -, rfl⟩ := mem_clearedIf member
    cases first with
    | false => rfl
    | true => cases primary
  refine (sound.clearedIf first).map ?_ (fun image _ => judge_checksum _ _ _ image) ?_ ?_
  next => simpa using (sound.clearedIf first).ordered
  next =>
    intro left inLeft right inRight primary other
    by_cases leftHere : left.id = id
    next =>
      by_cases rightHere : right.id = id
      next => exact same_of_id identified inLeft inRight (leftHere.trans rightHere.symm)
      next =>
        rw [judge_other rightHere] at other
        rw [judge_here leftHere] at primary
        rw [shown right inRight rightHere other] at primary
        cases primary
    next =>
      rw [judge_other leftHere] at primary
      by_cases rightHere : right.id = id
      next =>
        rw [judge_here rightHere] at other
        rw [shown left inLeft leftHere primary] at other
        cases other
      next =>
        rw [judge_other rightHere] at other
        exact (sound.clearedIf first).single left inLeft right inRight primary other
  next =>
    intro image member primary
    by_cases here : image.id = id
    next =>
      rw [judge_here here] at primary ⊢
      simp only [approves primary, if_true]
    next =>
      rw [judge_other here] at primary ⊢
      exact (sound.clearedIf first).approved image member primary

-- Promoting an approved image of a gallery that shows none.
theorem Sound.promote {gallery : List ProductImage} (sound : Sound gallery)
    (identified : (gallery.map (·.id)).Nodup) (plain : Not (HasPrimary gallery)) {image : ProductImage}
    (member : image ∈ gallery) (approved : image.moderationStatus = .approved) :
    Sound (gallery.map (promote image.id)) := by
  have only : forall other, other ∈ gallery -> (Gallery.promote image.id other).isPrimary = true ->
      other = image := by
    intro other there primary
    rcases promote_isPrimary.1 primary with same | before
    next => exact same_of_id identified there member same
    next => exact absurd ⟨other, there, before⟩ plain
  refine sound.map (by simpa using sound.ordered) (fun other _ => promote_checksum _ other) ?_ ?_
  next =>
    intro left inLeft right inRight primary other
    rw [only left inLeft primary, only right inRight other]
  next =>
    intro other there primary
    rw [promote_moderationStatus, only other there primary]
    exact approved

theorem renumbered_sound {gallery : List ProductImage} (sound : Sound gallery)
    (identified : (gallery.map (·.id)).Nodup) {ids : List Id}
    (covers : forall image, image ∈ gallery -> image.id ∈ ids) : Sound (gallery.map (renumber ids)) := by
  refine sound.map ?_ (fun _ _ => rfl) (fun left inLeft right inRight => sound.single left inLeft right inRight)
    sound.approved
  refine List.Nodup.map_on ?_ (List.Nodup.of_map _ identified)
  intro left inLeft right inRight same
  have index : ids.idxOf left.id = ids.idxOf right.id := Int.ofNat.inj same
  exact same_of_id identified inLeft inRight ((List.idxOf_inj (covers left inLeft)).1 index)

theorem Edit.sound {gallery next : List ProductImage} (edit : Edit gallery next)
    (identified : (gallery.map (·.id)).Nodup) (sound : Sound gallery) : Sound next := by
  have without_identified : forall id, ((without id gallery).map (·.id)).Nodup := fun id =>
    identified.sublist (List.filter_sublist.map _)
  cases edit with
  | described describe same =>
    refine sound.map ?_ (fun image member => (same image member).checksumSha256) ?_ ?_
    next =>
      rw [List.map_congr_left fun image member => (same image member).sortOrder]
      exact sound.ordered
    next =>
      intro left inLeft right inRight primary other
      rw [(same left inLeft).isPrimary] at primary
      rw [(same right inRight).isPrimary] at other
      exact sound.single left inLeft right inRight primary other
    next =>
      intro image member primary
      rw [(same image member).isPrimary] at primary
      rw [(same image member).moderationStatus]
      exact sound.approved image member primary
  | reviewed current approve first member pending decided =>
    exact reviewed_sound sound identified current.id fun is => (decided.1 is).1
  | chosen current member approved =>
    have there : clear current ∈ gallery.map clear := List.mem_map_of_mem member
    have ids : ((gallery.map clear).map (·.id)).Nodup := by simpa [Function.comp_def] using identified
    have kept := sound.cleared.promote ids (cleared_plain gallery) there approved
    exact kept
  | renumbered ids covers => exact renumbered_sound sound identified covers
  | replaced current image member was fresh sortOrder primary approved =>
    have apart : forall other, other ∈ without current.id gallery -> other ∈ gallery /\ other ≠ current := by
      intro other there
      obtain ⟨present, different⟩ := mem_without.1 there
      exact ⟨present, fun same => different (congrArg _ same)⟩
    refine (sound.without current.id).append ?_ ?_ ?_ ?_ fun _ => approved
    next =>
      have fewer : (without current.id gallery).length < gallery.length :=
        List.length_filter_lt_length_iff_exists.2 ⟨current, member, by simp⟩
      exact Nat.lt_of_lt_of_le fewer sound.limited
    next =>
      intro other there same
      obtain ⟨present, different⟩ := apart other there
      exact different (List.inj_on_of_nodup_map sound.ordered present member (same.trans sortOrder))
    next => exact fun other there => fresh other (mem_without.1 there).1 (mem_without.1 there).2
    next =>
      rintro shown ⟨other, there, also⟩
      obtain ⟨present, different⟩ := apart other there
      exact different (sound.single other present current member also (primary ▸ shown))
  | removed current member last => exact sound.without current.id
  | succeeded current successor member primary follows approved =>
    refine (sound.without current.id).promote (without_identified current.id) ?_ follows approved
    rintro ⟨other, there, also⟩
    obtain ⟨present, different⟩ := mem_without.1 there
    exact different (congrArg _ (sound.single other present current member also primary))

theorem Edit.presented {gallery next : List ProductImage} (edit : Edit gallery next)
    (identified : (gallery.map (·.id)).Nodup) (sound : Sound gallery) (presented : Presented gallery) :
    Presented next := by
  cases edit with
  | described describe same =>
    rintro ⟨image, member, status⟩
    obtain ⟨was, there, rfl⟩ := List.mem_map.1 member
    rw [(same was there).moderationStatus] at status
    obtain ⟨shown, present, primary⟩ := presented ⟨was, there, status⟩
    exact ⟨describe shown, List.mem_map_of_mem present, (same shown present).isPrimary.trans primary⟩
  | reviewed current approve first member pending decided =>
    cases first with
    | true =>
      have there : clear current ∈ clearedIf true gallery := List.mem_map_of_mem member
      exact fun _ => ⟨_, List.mem_map_of_mem there, by rw [judge_here (clear_id current)]⟩
    | false =>
      -- Whatever primary image there was stays: it is approved, and the reviewed one was not.
      have stays : HasPrimary gallery -> HasPrimary (gallery.map
          (judge current.id (if approve then .approved else .rejected) false)) := by
        rintro ⟨shown, present, primary⟩
        have other : shown.id ≠ current.id := by
          intro same
          have status := sound.approved shown present primary
          rw [same_of_id identified present member same, pending] at status
          cases status
        exact ⟨_, List.mem_map_of_mem present, by rw [judge_other other, primary]⟩
      rintro ⟨image, there, status⟩
      refine stays ?_
      obtain ⟨was, known, rfl⟩ := List.mem_map.1 there
      by_cases here : was.id = current.id
      next =>
        rw [judge_here here] at status
        cases approve with
        | false => cases status
        | true =>
          by_contra plain
          have decision := decided.2 ⟨rfl, fun other present _ primary =>
            absurd ⟨other, present, primary⟩ plain⟩
          cases decision
      next =>
        rw [judge_other here] at status
        exact presented ⟨was, known, status⟩
  | chosen current member approved =>
    have there : clear current ∈ gallery.map clear := List.mem_map_of_mem member
    exact fun _ => ⟨_, List.mem_map_of_mem there, promote_isPrimary.2 (.inl rfl)⟩
  | renumbered ids covers =>
    rintro ⟨image, member, status⟩
    obtain ⟨was, there, rfl⟩ := List.mem_map.1 member
    obtain ⟨shown, present, primary⟩ := presented ⟨was, there, status⟩
    exact ⟨renumber ids shown, List.mem_map_of_mem present, primary⟩
  | replaced current image member was fresh sortOrder primary approved =>
    intro _
    obtain ⟨shown, present, isPrimary⟩ := presented ⟨current, member, was⟩
    by_cases same : shown.id = current.id
    next =>
      obtain rfl := same_of_id identified present member same
      exact ⟨image, by simp, primary.trans isPrimary⟩
    next => exact ⟨shown, List.mem_append_left _ (mem_without.2 ⟨present, same⟩), isPrimary⟩
  | removed current member last =>
    intro remains
    obtain ⟨other, there, status⟩ := id remains
    obtain ⟨shown, present, isPrimary⟩ := presented ⟨other, (mem_without.1 there).1, status⟩
    refine ⟨shown, mem_without.2 ⟨present, fun same => ?_⟩, isPrimary⟩
    obtain rfl := same_of_id identified present member same
    exact last isPrimary remains
  | succeeded current successor member primary follows approved =>
    exact fun _ => ⟨_, List.mem_map_of_mem follows, promote_isPrimary.2 (.inl rfl)⟩

end VapeCommerce.Media.Gallery
