import VapeCommerce.Access.Customers
import VapeCommerce.Checkout.Catalogue
import VapeCommerce.Lib.Locking
import VapeCommerce.System

set_option autoImplicit false

-- wishlist.service.ts: the limit of the default wishlist and its one variant of each product, however the
-- calls of a customer overlap.
namespace VapeCommerce.Access.Wishlists

open VapeCommerce.Lib VapeCommerce.Lib.Outcome VapeCommerce.Schema VapeCommerce.Config
open VapeCommerce.Database VapeCommerce.Access.Customers VapeCommerce.Lib.Locking
open VapeCommerce.Checkout.Catalogue (buildPublicProductWhere)

section Service

def defaultWishlistName : Text := "default".toList

def maxWishlistItems : Nat := 100

structure Wishlist where
  id : Id
  customerId : Id
  name : Text
deriving DecidableEq, Repr

structure WishlistItem where
  wishlistId : Id
  variantId : Id
  addedAt : Int
deriving DecidableEq, Repr

def WishlistItem.key (item : WishlistItem) : Id × Id :=
  (item.wishlistId, item.variantId)

structure WishlistRows where
  lists : Table Wishlist.id
  items : Table WishlistItem.key

-- The rows a call reads and no call writes.
structure Registry where
  customers : Table CustomerAccount.id
  config : Configuration

-- `id` names the wishlist that a call may have to make.
inductive Call where
  | add (variantId id : Id) (now addedAt : Int)
  | remove (variantId : Id)

variable (registry : Registry)

def requireCustomer (userId : Id) : Except Failure Id := do
  let customer <- orThrow
    (registry.customers.rows.find? fun account =>
      account.user.id == userId && account.suspendedAt.isNone && account.anonymizedAt.isNone &&
        account.user.audience == .customer && account.user.status == .active &&
        account.user.deletedAt.isNone)
    (forbidden "CUSTOMER_ACCOUNT_UNAVAILABLE")
  return customer.id

def publicVariantWhere (now : Int) (variant : ProductVariant) : Bool :=
  variant.published && variant.archivedAt.isNone && variant.deletedAt.isNone &&
    variant.priceMillimes >= 0 &&
    (registry.config.products.find? fun product => product.id == variant.productId).any
      (buildPublicProductWhere registry.config now)

def itemNotFound : Failure := notFound "WISHLIST_ITEM_NOT_FOUND"

-- A delete that finds no row.
def recordNotFound : Failure := { kind := .internal, code := "P2025" }

def defaultWishlist? (wishlists : WishlistRows) (customerId : Id) : Option Wishlist :=
  wishlists.lists.rows.find? fun wishlist =>
    wishlist.customerId == customerId && wishlist.name == defaultWishlistName

def inWishlist (wishlistId : Id) (item : WishlistItem) : Bool :=
  item.wishlistId == wishlistId

def ofProduct (productId : Id) (item : WishlistItem) : Bool :=
  registry.config.variants.any fun variant =>
    variant.id == item.variantId && variant.productId == productId

-- `upsert` reads the snapshot and inserts into the latest rows, which hold one wishlist of a name.
def upsertWishlist (snapshot latest : WishlistRows) (customerId id : Id) :
    Except Failure (Id × Table Wishlist.id) := do
  match defaultWishlist? snapshot customerId with
  | some wishlist => return (wishlist.id, latest.lists)
  | none =>
    throwIf ((defaultWishlist? latest customerId).isSome = true) uniqueViolation
    let lists <- Database.create latest.lists { id, customerId, name := defaultWishlistName }
    return (id, lists)

def deleteMany {K R : Type} {key : R -> K} (table : Table key) (chosen : R -> Bool) : Table key where
  rows := table.rows.filter fun row => !chosen row
  distinct := table.distinct.sublist (List.filter_sublist.map key)

def withAddedAt (addedAt : Int) (item : WishlistItem) : WishlistItem :=
  { item with addedAt }

@[simp]
theorem withAddedAt_key (addedAt : Int) (item : WishlistItem) : (withAddedAt addedAt item).key = item.key := rfl

-- A row that only the snapshot still has is updated nowhere.
def upsertItem (snapshot latest : Table WishlistItem.key) (item : WishlistItem) :
    Except Failure (Table WishlistItem.key) :=
  match snapshot.find? item.key with
  | some _ =>
    return latest.update (fun row => row.key == item.key) (withAddedAt item.addedAt) (withAddedAt_key _)
  | none => Database.create latest item

-- The second `requireCustomer`, under the lock, answers what the first one did.
def add (userId : Id) (snapshot latest : WishlistRows) (variantId id : Id) (now addedAt : Int) :
    Except Failure WishlistRows := do
  let customerId <- requireCustomer registry userId
  let variant <- orThrow
    (registry.config.variants.find? fun variant =>
      variant.id == variantId && publicVariantWhere registry now variant)
    (conflict "WISHLIST_PRODUCT_UNAVAILABLE")
  let (wishlistId, lists) <- upsertWishlist snapshot latest customerId id
  let existingProduct := snapshot.items.rows.find? fun item =>
    inWishlist wishlistId item && ofProduct registry variant.productId item
  throwIf (existingProduct.isNone = true /\ snapshot.items.count (inWishlist wishlistId) >= maxWishlistItems)
    (conflict "WISHLIST_LIMIT_REACHED")
  let kept := deleteMany latest.items fun item =>
    inWishlist wishlistId item && item.variantId != variant.id && ofProduct registry variant.productId item
  let items <- upsertItem snapshot.items kept { wishlistId, variantId := variant.id, addedAt }
  return { lists, items }

def remove (userId : Id) (snapshot latest : WishlistRows) (variantId : Id) : Except Failure WishlistRows := do
  let customerId <- requireCustomer registry userId
  let item <- orThrow
    (snapshot.items.rows.find? fun item =>
      item.variantId == variantId && snapshot.lists.rows.any fun wishlist =>
        wishlist.id == item.wishlistId && wishlist.customerId == customerId &&
          wishlist.name == defaultWishlistName)
    itemNotFound
  throwIf ((latest.items.find? item.key).isNone = true) recordNotFound
  return { latest with items := deleteMany latest.items fun row => row.key == item.key }

def Call.run (userId : Id) (snapshot latest : WishlistRows) : Call -> Except Failure WishlistRows
  | .add variantId id now addedAt => Wishlists.add registry userId snapshot latest variantId id now addedAt
  | .remove variantId => Wishlists.remove registry userId snapshot latest variantId

-- `requireCustomer` reads before `FOR UPDATE` locks.
def system (userId : Id) : System WishlistRows Call Empty where
  plan _ := [.look, .lock, .work]
  work call snapshot latest := succeeded (call.run registry userId snapshot latest)
  outside op := nomatch op

end Service

section Bound

-- No wishlist holds two variants of a product.
def OneEach (registry : Registry) (items : Table WishlistItem.key) : Prop :=
  forall left right productId, left ∈ items.rows -> right ∈ items.rows ->
    left.wishlistId = right.wishlistId -> ofProduct registry productId left = true ->
    ofProduct registry productId right = true -> left.variantId = right.variantId

structure Bounded (registry : Registry) (items : Table WishlistItem.key) : Prop where
  limited : forall wishlistId, items.count (inWishlist wishlistId) <= maxWishlistItems
  single : OneEach registry items

-- The wishlist an addition works on: the one its snapshot shows, or the one it makes.
def workedOn (snapshot : WishlistRows) (customerId id : Id) : Id :=
  ((defaultWishlist? snapshot customerId).map Wishlist.id).getD id

def holds (registry : Registry) (items : Table WishlistItem.key) (wishlistId productId : Id) : Bool :=
  items.rows.any fun item => inWishlist wishlistId item && ofProduct registry productId item

-- What the addition reads of a full wishlist without its product.
structure Full (registry : Registry) (items : Table WishlistItem.key) (wishlistId productId : Id) : Prop where
  without : holds registry items wishlistId productId = false
  full : maxWishlistItems <= items.count (inWishlist wishlistId)

-- Where the latest rows leave an addition no room, its snapshot shows so.
def RoomStands (registry : Registry) (customerId : Id) (snapshot latest : WishlistRows) : Call -> Prop
  | .add variantId id now _ =>
    forall variant, registry.config.variants.find? (fun variant =>
        variant.id == variantId && publicVariantWhere registry now variant) = some variant ->
      Full registry latest.items (workedOn snapshot customerId id) variant.productId ->
      Full registry snapshot.items (workedOn snapshot customerId id) variant.productId
  | .remove _ => True

variable {registry : Registry} {K R : Type} {key : R -> K}

theorem deleteMany_count (table : Table key) (chosen wanted : R -> Bool) :
    table.count wanted =
      (deleteMany table chosen).count wanted + table.count (fun row => wanted row && chosen row) := by
  simp only [Table.count, Table.filter, deleteMany, <- List.countP_eq_length_filter, List.countP_filter]
  rw [List.countP_eq_countP_filter_add table.rows wanted chosen, List.countP_filter, List.countP_filter]
  omega

theorem deleteMany_le (table : Table key) (chosen wanted : R -> Bool) :
    (deleteMany table chosen).count wanted <= table.count wanted :=
  Nat.le.intro (deleteMany_count table chosen wanted).symm

theorem deleteMany_mem {table : Table key} {chosen : R -> Bool} {row : R}
    (member : row ∈ (deleteMany table chosen).rows) : row ∈ table.rows /\ chosen row = false := by
  simpa [deleteMany] using member

theorem OneEach.fewer {items : Table WishlistItem.key} (single : OneEach registry items)
    (chosen : WishlistItem -> Bool) : OneEach registry (deleteMany items chosen) :=
  fun left right productId leftMember rightMember =>
    single left right productId (deleteMany_mem leftMember).1 (deleteMany_mem rightMember).1

theorem OneEach.dated {items : Table WishlistItem.key} (single : OneEach registry items)
    (chosen : WishlistItem -> Bool) (addedAt : Int) :
    OneEach registry (items.update chosen (withAddedAt addedAt) (withAddedAt_key _)) := by
  intro left right productId leftMember rightMember same leftOf rightOf
  obtain ⟨was, leftThere, leftIs⟩ := Table.rewrite_mem leftMember
  obtain ⟨other, rightThere, rightIs⟩ := Table.rewrite_mem rightMember
  have leftSame : left.wishlistId = was.wishlistId /\ left.variantId = was.variantId := by
    rcases leftIs with ⟨-, rfl⟩ | ⟨-, rfl⟩ <;> exact ⟨rfl, rfl⟩
  have rightSame : right.wishlistId = other.wishlistId /\ right.variantId = other.variantId := by
    rcases rightIs with ⟨-, rfl⟩ | ⟨-, rfl⟩ <;> exact ⟨rfl, rfl⟩
  rw [leftSame.2, rightSame.2]
  refine single was other productId leftThere rightThere ?_ ?_ ?_
  next => rw [<- leftSame.1, <- rightSame.1, same]
  next => simpa [ofProduct, leftSame.2] using leftOf
  next => simpa [ofProduct, rightSame.2] using rightOf

-- An addition that is not refused: what it took from the snapshot and what it leaves.
structure Adds (registry : Registry) (customerId : Id) (snapshot latest next : WishlistRows)
    (wishlistId : Id) (variant : ProductVariant) (addedAt : Int) : Prop where
  known : variant ∈ registry.config.variants
  room : Not (Full registry snapshot.items wishlistId variant.productId)
  written : upsertItem snapshot.items
    (deleteMany latest.items fun item =>
      inWishlist wishlistId item && item.variantId != variant.id && ofProduct registry variant.productId item)
    { wishlistId, variantId := variant.id, addedAt } = .ok next.items

theorem upsertWishlist_is {snapshot latest : WishlistRows} {customerId id wishlistId : Id}
    {lists : Table Wishlist.id}
    (ran : upsertWishlist snapshot latest customerId id = .ok (wishlistId, lists)) :
    wishlistId = workedOn snapshot customerId id := by
  unfold upsertWishlist at ran
  cases found : defaultWishlist? snapshot customerId with
  | some wishlist =>
    simp only [found, pure_ok, Prod.mk.injEq] at ran
    simp [workedOn, found, ran.1]
  | none =>
    simp only [found, bind_ok, throwIf_ok, create_ok, pure_ok, Prod.mk.injEq] at ran
    obtain ⟨-, -, _, -, same, -⟩ := ran
    simp [workedOn, found, same]

theorem add_adds {userId customerId : Id} {snapshot latest next : WishlistRows} {variantId id : Id}
    {now addedAt : Int} (owner : requireCustomer registry userId = .ok customerId)
    (ran : Wishlists.add registry userId snapshot latest variantId id now addedAt = .ok next) :
    exists variant, registry.config.variants.find? (fun variant =>
        variant.id == variantId && publicVariantWhere registry now variant) = some variant /\
      Adds registry customerId snapshot latest next (workedOn snapshot customerId id) variant addedAt := by
  simp only [Wishlists.add, ok_of_bind owner, bind_ok, orThrow_ok, throwIf_ok, pure_ok, Prod.exists] at ran
  obtain ⟨variant, found, wishlistId, lists, upserted, ⟨⟩, room, items, written, rfl⟩ := ran
  obtain rfl := upsertWishlist_is upserted
  refine ⟨variant, found, List.mem_of_find?_eq_some found, fun full => room ⟨?_, full.full⟩, written⟩
  rw [Option.isNone_iff_eq_none, List.find?_eq_none]
  exact List.any_eq_false.1 full.without

theorem ofProduct_same {variant : ProductVariant} (known : variant ∈ registry.config.variants)
    {productId : Id} {item : WishlistItem} (same : item.variantId = variant.id)
    (is : ofProduct registry productId item = true) : productId = variant.productId := by
  obtain ⟨other, member, found⟩ := List.any_eq_true.1 is
  simp only [Bool.and_eq_true, beq_iff_eq] at found
  have one := List.inj_on_of_nodup_map registry.config.variantIds member known (found.1.trans same)
  exact found.2.symm.trans (congrArg ProductVariant.productId one)

variable {customerId wishlistId : Id} {snapshot latest next : WishlistRows} {variant : ProductVariant}
  {addedAt : Int}

-- What the addition deletes: other variants of the product.
def replaced (registry : Registry) (wishlistId : Id) (variant : ProductVariant) (item : WishlistItem) : Bool :=
  inWishlist wishlistId item && item.variantId != variant.id && ofProduct registry variant.productId item

-- A full wishlist that loses no row and does not have the variant has none of the product.
theorem full_of_kept (fresh : forall other, other ∈ (deleteMany latest.items (replaced registry wishlistId variant)).rows ->
      other.key ≠ (wishlistId, variant.id))
    (none_lost : latest.items.count
      (fun row => inWishlist wishlistId row && replaced registry wishlistId variant row) = 0)
    (full : maxWishlistItems <= latest.items.count (inWishlist wishlistId)) :
    Full registry latest.items wishlistId variant.productId where
  full := full
  without := by
    refine List.any_eq_false.2 fun item member here => ?_
    simp only [Bool.and_eq_true] at here
    cases chosen : replaced registry wishlistId variant item with
    | true =>
      have lost : 0 < latest.items.count
          (fun row => inWishlist wishlistId row && replaced registry wishlistId variant row) :=
        Table.count_pos.2 ⟨item, member, by simp [here.1, chosen]⟩
      omega
    | false =>
      have same : item.variantId = variant.id := by
        simpa [replaced, here.1, here.2] using chosen
      have kept : item ∈ (deleteMany latest.items (replaced registry wishlistId variant)).rows :=
        List.mem_filter.2 ⟨member, by simp [chosen]⟩
      have inside : item.wishlistId = wishlistId := eq_of_beq here.1
      exact fresh item kept (by rw [WishlistItem.key, inside, same])

theorem room_left (adds : Adds registry customerId snapshot latest next wishlistId variant addedAt)
    (limited : latest.items.count (inWishlist wishlistId) <= maxWishlistItems)
    (stands : Full registry latest.items wishlistId variant.productId ->
      Full registry snapshot.items wishlistId variant.productId)
    (fresh : forall other, other ∈ (deleteMany latest.items (replaced registry wishlistId variant)).rows ->
      other.key ≠ (wishlistId, variant.id)) :
    (deleteMany latest.items (replaced registry wishlistId variant)).count (inWishlist wishlistId) <
      maxWishlistItems := by
  refine Nat.lt_of_not_le fun full => adds.room (stands ?_)
  have count := deleteMany_count latest.items (replaced registry wishlistId variant) (inWishlist wishlistId)
  exact full_of_kept fresh (by omega) (by omega)

theorem inserted_single {items inserted : Table WishlistItem.key} (single : OneEach registry items)
    (known : variant ∈ registry.config.variants)
    (only : forall item, item ∈ items.rows -> replaced registry wishlistId variant item = false)
    (insertion : items.insert? { wishlistId, variantId := variant.id, addedAt } = some inserted) :
    OneEach registry inserted := by
  have rows := (Table.insert?_rows insertion).1
  have beside : forall item productId, item ∈ items.rows -> item.wishlistId = wishlistId ->
      ofProduct registry productId item = true ->
      ofProduct registry productId { wishlistId, variantId := variant.id, addedAt } = true ->
      item.variantId = variant.id := by
    intro item productId member inside itemOf newOf
    obtain rfl := ofProduct_same known rfl newOf
    simpa [replaced, inWishlist, inside, itemOf] using only item member
  intro left right productId leftMember rightMember same leftOf rightOf
  rw [rows, List.mem_append, List.mem_singleton] at leftMember rightMember
  rcases leftMember with leftOld | rfl
  next =>
    rcases rightMember with rightOld | rfl
    next => exact single left right productId leftOld rightOld same leftOf rightOf
    next => exact beside left productId leftOld same leftOf rightOf
  next =>
    rcases rightMember with rightOld | rfl
    next => exact (beside right productId rightOld same.symm rightOf leftOf).symm
    next => rfl

theorem inserted_count {items inserted : Table WishlistItem.key} {variantId : Id}
    (insertion : items.insert? { wishlistId, variantId, addedAt } = some inserted) (list : Id) :
    inserted.count (inWishlist list) =
      items.count (inWishlist list) + if wishlistId = list then 1 else 0 := by
  simp only [Table.count, Table.filter, (Table.insert?_rows insertion).1, List.filter_append, List.length_append]
  by_cases same : wishlistId = list <;> simp [inWishlist, same]

-- What an addition leaves, from any snapshot.
theorem add_single (adds : Adds registry customerId snapshot latest next wishlistId variant addedAt)
    (single : OneEach registry latest.items) : OneEach registry next.items := by
  have kept := single.fewer (replaced registry wishlistId variant)
  have written : upsertItem snapshot.items (deleteMany latest.items (replaced registry wishlistId variant))
      { wishlistId, variantId := variant.id, addedAt } = .ok next.items := adds.written
  unfold upsertItem at written
  split at written
  next =>
    rw [<- Except.ok.inj written]
    exact kept.dated _ _
  next =>
    exact inserted_single kept adds.known (fun item member => (deleteMany_mem member).2)
      ((create_ok _ _ _).1 written)

theorem add_limited (adds : Adds registry customerId snapshot latest next wishlistId variant addedAt)
    (limited : forall list, latest.items.count (inWishlist list) <= maxWishlistItems)
    (stands : Full registry latest.items wishlistId variant.productId ->
      Full registry snapshot.items wishlistId variant.productId) (list : Id) :
    next.items.count (inWishlist list) <= maxWishlistItems := by
  have fewer := (deleteMany_le latest.items (replaced registry wishlistId variant) (inWishlist list)).trans
    (limited list)
  have written : upsertItem snapshot.items (deleteMany latest.items (replaced registry wishlistId variant))
      { wishlistId, variantId := variant.id, addedAt } = .ok next.items := adds.written
  unfold upsertItem at written
  split at written
  next =>
    rw [<- Except.ok.inj written, Table.count_update _ (withAddedAt_key addedAt) fun _ _ _ => rfl]
    exact fewer
  next =>
    rw [create_ok] at written
    rw [inserted_count written]
    by_cases same : wishlistId = list
    next =>
      subst same
      have room := room_left adds (limited wishlistId) stands (Table.insert?_rows written).2
      simp only [if_true]
      omega
    next =>
      rw [if_neg same]
      exact fewer

theorem remove_fewer {userId variantId : Id}
    (ran : Wishlists.remove registry userId snapshot latest variantId = .ok next) :
    exists chosen, next.items = deleteMany latest.items chosen := by
  simp only [Wishlists.remove, bind_ok, pure_ok] at ran
  obtain ⟨_, -, item, -, -, -, rfl⟩ := ran
  exact ⟨_, rfl⟩

theorem run_single {userId : Id} (owner : requireCustomer registry userId = .ok customerId) {call : Call}
    (ran : call.run registry userId snapshot latest = .ok next) (single : OneEach registry latest.items) :
    OneEach registry next.items := by
  cases call with
  | add variantId id now addedAt =>
    obtain ⟨variant, -, adds⟩ := add_adds owner ran
    exact add_single adds single
  | remove variantId =>
    obtain ⟨chosen, left⟩ := remove_fewer ran
    exact left ▸ single.fewer chosen

theorem run_limited {userId : Id} (owner : requireCustomer registry userId = .ok customerId) {call : Call}
    (ran : call.run registry userId snapshot latest = .ok next)
    (limited : forall list, latest.items.count (inWishlist list) <= maxWishlistItems)
    (stands : RoomStands registry customerId snapshot latest call) (list : Id) :
    next.items.count (inWishlist list) <= maxWishlistItems := by
  cases call with
  | add variantId id now addedAt =>
    obtain ⟨variant, found, adds⟩ := add_adds owner ran
    exact add_limited adds limited (stands variant found) list
  | remove variantId =>
    obtain ⟨chosen, left⟩ := remove_fewer ran
    exact left ▸ (deleteMany_le latest.items chosen _).trans (limited list)

end Bound

section Runs

variable {registry : Registry} {userId customerId : Id}

-- The call that is about to commit finds the room it chose by.
def Stands (registry : Registry) (customerId : Id) (state : State WishlistRows Call)
    (label : Label Call Empty) : Prop :=
  forall id transaction rest, label = .advance id -> state.active id = some transaction ->
    transaction.rest = .work :: rest ->
    RoomStands registry customerId (transaction.view state.committed) state.committed transaction.call

theorem step_single (owner : requireCustomer registry userId = .ok customerId)
    (state : State WishlistRows Call) (label : Label Call Empty)
    (single : OneEach registry state.committed.items) :
    OneEach registry ((system registry userId).step state label).committed.items := by
  rcases (system registry userId).step_committed state label with same | ⟨op, -⟩ | ⟨transaction, commits⟩
  next => exact same ▸ single
  next => exact nomatch op
  next => exact run_single owner ((succeeded_some _ _).1 commits.works) single

theorem step_limited (owner : requireCustomer registry userId = .ok customerId)
    (state : State WishlistRows Call) (label : Label Call Empty)
    (limited : forall list, state.committed.items.count (inWishlist list) <= maxWishlistItems)
    (stands : Stands registry customerId state label) (list : Id) :
    ((system registry userId).step state label).committed.items.count (inWishlist list) <= maxWishlistItems := by
  rcases (system registry userId).step_committed state label with same | ⟨op, -⟩ | ⟨transaction, commits⟩
  next => exact same ▸ limited list
  next => exact nomatch op
  next =>
    obtain ⟨⟨id, rfl, active⟩, ⟨rest, last⟩, works⟩ := commits
    exact run_limited owner ((succeeded_some _ _).1 works) limited (stands id transaction rest rfl active last) list

/-- However the calls overlap a wishlist never holds two variants of a product, and while every addition
that commits was shown the room the latest rows have it never holds more than a hundred items. -/
theorem wishlists_stay_bounded (registry : Registry) (userId customerId : Id) (start : WishlistRows)
    (owner : requireCustomer registry userId = .ok customerId) (initial : Bounded registry start.items)
    (labels : List (Label Call Empty)) :
    (forall state, Runs.Visits (system registry userId).step (State.opening start) labels state ->
        OneEach registry state.committed.items) /\
      ((forall state label,
          Runs.Takes (system registry userId).step (State.opening start) labels state label ->
          Stands registry customerId state label) ->
        forall state, Runs.Visits (system registry userId).step (State.opening start) labels state ->
          Bounded registry state.committed.items) := by
  have single (state : State WishlistRows Call)
      (visited : Runs.Visits (system registry userId).step (State.opening start) labels state) :
      OneEach registry state.committed.items :=
    @Runs.visits_keeps (State WishlistRows Call) (Label Call Empty) _
      (fun state => OneEach registry state.committed.items) (step_single owner) _ _ _ initial.single visited
  refine ⟨single, fun stands state visited => ⟨?_, single state visited⟩⟩
  exact @Runs.fine_visits_keeps (State WishlistRows Call) (Label Call Empty) _
    (fun state => forall list, state.committed.items.count (inWishlist list) <= maxWishlistItems) _
    (step_limited owner) _ _ _ initial.limited stands visited

end Runs

namespace Sample

def variant (id : Nat) : ProductVariant where
  id := id
  productId := id
  published := true
  archivedAt := none
  deletedAt := none
  priceMillimes := 20000
  promotionalPriceMillimes := none
  taxRateBps := 1900
  weightGrams := 100
  images := []

def listing : Listing where
  published := true
  archivedAt := none
  suspendedAt := none
  deletedAt := none
  restrictions := []

def product (id : Nat) : Product where
  id := id
  listing := listing
  publishedAt := some 0
  category := listing
  brand := none
  minimumAge := none
  images := [{ deletedAt := none, approved := true }]

def config : Configuration :=
  { System.Sample.shop with
    products := (List.range 102).map product
    variants := (List.range 102).map variant
    variantIds := by decide }

def registry : Registry where
  customers := Customers.Sample.accounts.customers
  config := config

-- A wishlist with all but one of its places taken.
def almostFull : WishlistRows where
  lists := { rows := [{ id := 1, customerId := 7, name := defaultWishlistName }], distinct := by decide }
  items := {
    rows := (List.range 99).map fun id => { wishlistId := 1, variantId := id, addedAt := 0 }
    distinct := by decide }

def through (id : Nat) (call : Call) : List (Label Call Empty) :=
  [.start id call, .advance id, .advance id, .advance id]

def inTurn : List (Label Call Empty) :=
  through 1 (.add 99 2 0 0) ++ through 2 (.add 100 2 0 0)

-- The second addition takes its snapshot before the first one commits.
def overlapping : List (Label Call Empty) :=
  [.start 2 (.add 100 2 0 0), .advance 2] ++ through 1 (.add 99 2 0 0) ++ [.advance 2, .advance 2]

-- The call that is about to commit sees the latest rows.
def alone (state : State WishlistRows Call) : Label Call Empty -> Bool
  | .advance id =>
    (state.active id).all fun transaction =>
      transaction.rest.head? != some .work ||
        decide ((transaction.view state.committed).items.rows = state.committed.items.rows)
  | _ => true

theorem alone_stands {state : State WishlistRows Call} {label : Label Call Empty}
    (checked : alone state label = true) : Stands registry 7 state label := by
  rintro id transaction rest rfl active last
  simp only [alone, active, Option.all_some, last, List.head?_cons, bne_self_eq_false, Bool.false_or,
    decide_eq_true_eq] at checked
  cases transaction.call with
  | add variantId fresh now addedAt =>
    intro variant _ full
    rw [Table.ext_rows checked]
    exact full
  | remove variantId => trivial

theorem ofProduct_variant {productId : Id} {item : WishlistItem}
    (is : ofProduct registry productId item = true) : item.variantId = productId := by
  obtain ⟨other, member, found⟩ := List.any_eq_true.1 is
  obtain ⟨id, -, rfl⟩ := List.mem_map.1 member
  simp only [variant, Bool.and_eq_true, beq_iff_eq] at found
  exact found.1.symm.trans found.2

theorem almostFull_bounded : Bounded registry almostFull.items where
  limited wishlistId := by
    have most : (almostFull.items.filter (inWishlist wishlistId)).length <= almostFull.items.rows.length :=
      List.length_filter_le _ _
    have size : almostFull.items.rows.length = 99 := by simp [almostFull]
    have limit : maxWishlistItems = 100 := rfl
    rw [Table.count]
    omega
  single left right productId _ _ _ leftOf rightOf :=
    (ofProduct_variant leftOf).trans (ofProduct_variant rightOf).symm

end Sample

theorem additions_in_turn :
    requireCustomer Sample.registry 7 = .ok 7 /\
      Bounded Sample.registry
        (Runs.run (system Sample.registry 7).step (State.opening Sample.almostFull) Sample.inTurn).committed.items :=
  ⟨rfl, (wishlists_stay_bounded Sample.registry 7 7 Sample.almostFull rfl Sample.almostFull_bounded Sample.inTurn).2
    (fun _ _ taken => Sample.alone_stands (Runs.every_takes
      (show Runs.every _ Sample.alone _ Sample.inTurn = true by decide +kernel) taken)) _
    (Runs.visits_end _ _)⟩

-- With nothing in progress the wishlist holds a hundred and one items.
theorem additions_overlap : Not (forall registry userId customerId start labels state,
    requireCustomer registry userId = .ok customerId -> Bounded registry start.items ->
    Runs.Visits (system registry userId).step (State.opening start) labels state ->
    (forall id, (state.active id).isNone = true) -> Bounded registry state.committed.items) := by
  intro always
  have bounded := always Sample.registry 7 7 Sample.almostFull Sample.overlapping _ rfl
    Sample.almostFull_bounded (Runs.visits_end _ _) ?_
  next =>
    have held : (Runs.run (system Sample.registry 7).step (State.opening Sample.almostFull)
        Sample.overlapping).committed.items.count (inWishlist 1) = 101 := by decide +kernel
    have limit := bounded.limited 1
    rw [held] at limit
    exact absurd limit (by decide)
  next =>
    intro id
    have early : forall id, id < 3 -> ((Runs.run (system Sample.registry 7).step
        (State.opening Sample.almostFull) Sample.overlapping).active id).isNone = true := by decide +kernel
    rcases Nat.lt_or_ge id 3 with small | large
    next => exact early id small
    next =>
      rw [System.run_elsewhere]
      next => rfl
      next =>
        simp [Sample.overlapping, Sample.through, System.elsewhere]
        omega

end VapeCommerce.Access.Wishlists
