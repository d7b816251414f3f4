import VapeCommerce.Access.Wishlists
import VapeCommerce.Storefront.Cart

set_option autoImplicit false

-- cart.service.ts: what the calls of a customer do to the rows of a cart, from the snapshot each of them
-- reads to the latest rows it writes.
namespace VapeCommerce.Storefront.CartEditing

open VapeCommerce.Lib VapeCommerce.Lib.Outcome VapeCommerce.Schema VapeCommerce.Config
open VapeCommerce.Database VapeCommerce.Money VapeCommerce.Storefront.Cart
open VapeCommerce.Checkout.Order (cartBefore)
open VapeCommerce.Access.Wishlists (deleteMany deleteMany_mem)

section Service

def maxCartDistinctItems : Nat := 50

def maxCartItemQuantity : Int := 20

-- Thirty days in milliseconds.
def cartTtl : Int := 30 * 24 * 60 * 60 * 1000

structure ItemRow where
  id : Id
  cartId : Id
  variantId : Id
  quantity : Int
deriving DecidableEq, Repr

-- The rows of `Cart.items` in a table of their own. `serial` is the id the next row gets.
structure Shop where
  db : Db
  rows : Table ItemRow.id
  serial : Id

def linesOf (rows : Table ItemRow.id) (cartId : Id) : List ItemRow :=
  rows.filter fun row => row.cartId == cartId

def ItemRow.line (row : ItemRow) : CartItem where
  variantId := row.variantId
  quantity := row.quantity

def withLines (rows : Table ItemRow.id) (cart : Schema.Cart) : Schema.Cart :=
  { cart with items := (linesOf rows cart.id).map ItemRow.line }

@[simp]
theorem withLines_id (rows : Table ItemRow.id) (cart : Schema.Cart) : (withLines rows cart).id = cart.id := rfl

-- The database as the other services see it, every cart with its rows.
def Shop.shown (shop : Shop) : Db :=
  { shop.db with carts := shop.db.carts.update (fun _ => true) (withLines shop.rows) (withLines_id _) }

-- The clock as one call reads it: at its start, for a new cart, after the lock, and of its writes.
structure Moments where
  locked : Int
  created : Int
  now : Int
  written : Int

inductive Call where
  | get
  | add (variantId : Id) (quantity : Int)
  | update (itemId : Id) (quantity : Int)
  | remove (itemId : Id)

variable (moments : Moments)

def expire (cart : Schema.Cart) : Schema.Cart :=
  { cart with status := .expired, version := cart.version + 1, updatedAt := moments.written }

def outdate (cart : Schema.Cart) : Schema.Cart :=
  { cart with version := cart.version + 1, updatedAt := moments.written }

def touch (cart : Schema.Cart) : Schema.Cart :=
  { cart with
    version := cart.version + 1
    expiresAt := some (moments.now + cartTtl)
    updatedAt := moments.written }

def newCart (id customerId : Id) : Schema.Cart where
  id := id
  customerId := customerId
  status := .active
  version := 1
  updatedAt := moments.written
  expiresAt := some (moments.created + cartTtl)
  items := []

def Shop.rewriteCarts (shop : Shop) (chosen : Schema.Cart -> Bool) (change : Schema.Cart -> Schema.Cart)
    (keeps : forall cart, (change cart).id = cart.id) : Shop :=
  { shop with db := { shop.db with carts := shop.db.carts.update chosen change keeps } }

def Shop.touchCart (shop : Shop) (cartId : Id) : Shop :=
  shop.rewriteCarts (fun cart => cart.id == cartId) (touch moments) (Table.kept Schema.Cart.id)

def Shop.deleteItems (shop : Shop) (chosen : ItemRow -> Bool) : Shop :=
  { shop with rows := deleteMany shop.rows chosen }

def publicVariant? (db : Db) (now : Int) (variantId : Id) : Option ProductVariant :=
  db.config.variants.find? fun variant => variant.id == variantId && publicVariantWhere db now variant

def withdrawn (db : Db) (cartId : Id) (row : ItemRow) : Bool :=
  row.cartId == cartId && (publicVariant? db moments.locked row.variantId).isNone

def removeUnavailableItems (latest : Shop) (cartId : Id) : Shop :=
  if (latest.rows.filter (withdrawn moments latest.db cartId)).isEmpty then latest
  else (latest.deleteItems (withdrawn moments latest.db cartId)).rewriteCarts (fun cart => cart.id == cartId)
    (outdate moments) (Table.kept Schema.Cart.id)

-- The cart a call works on, the rows it sees, which are those of its snapshot but for the ones it has
-- deleted itself, and the shop with what it has written so far.
structure Locked where
  cartId : Option Id
  seen : List ItemRow
  shop : Shop

def activeCart? (db : Db) (customerId : Id) : Option Schema.Cart :=
  ((db.carts.filter fun cart => cart.customerId == customerId && cart.status == .active).insertionSort
    cartBefore).head?

def openCart (snapshot shop : Shop) (customerId : Id) (create : Bool) : Except Failure Locked := do
  if create then
    let carts <- Database.create shop.db.carts (newCart moments shop.serial customerId)
    return {
      cartId := some shop.serial
      seen := snapshot.rows.rows
      shop := { shop with db := { shop.db with carts }, serial := shop.serial + 1 } }
  else return { cartId := none, seen := snapshot.rows.rows, shop }

-- The second read of the customer, under the lock, answers what the first one did.
def lockCustomerAndCart (snapshot latest : Shop) (userId : Id) (create : Bool) : Except Failure Locked := do
  let customer <- orThrow
    (snapshot.db.config.customers.find? fun customer =>
      customer.id == userId && customer.suspendedAt.isNone && customer.active)
    (forbidden "CUSTOMER_ACCOUNT_UNAVAILABLE")
  match activeCart? snapshot.db customer.profileId with
  | none => openCart moments snapshot latest customer.profileId create
  | some cart =>
    if cart.expiresAt.any (fun expiry => expiry <= moments.locked) then
      openCart moments snapshot
        (latest.rewriteCarts (fun row => row.id == cart.id && row.status == .active) (expire moments)
          (Table.kept Schema.Cart.id))
        customer.profileId create
    else
      let removed := latest.rows.filter (withdrawn moments latest.db cart.id)
      return {
        cartId := some cart.id
        seen := snapshot.rows.rows.filter fun row => !removed.any fun gone => gone.id == row.id
        shop := removeUnavailableItems moments latest cart.id }

def itemNotFound : Failure := notFound "CART_ITEM_NOT_FOUND"

def productUnavailable : Failure := conflict "PRODUCT_UNAVAILABLE"

def assertQuantity (quantity : Int) : Except Failure Unit :=
  throwIf (Not (isSafeInteger quantity) \/ quantity < 1 \/ quantity > maxCartItemQuantity)
    (conflict "CART_QUANTITY_LIMIT")

def assertAvailable (db : Db) (now : Int) (variant : ProductVariant) (quantity : Int) :
    Except Failure Unit := do
  let available <- availableCartQuantity db now (inventoryItems db now variant.id)
  throwIf (available < quantity) (conflict "OUT_OF_STOCK")

def createItem (shop : Shop) (cartId variantId : Id) (quantity : Int) : Except Failure Shop := do
  throwIf ((shop.rows.rows.any fun row => row.cartId == cartId && row.variantId == variantId) = true)
    uniqueViolation
  let rows <- Database.create shop.rows { id := shop.serial, cartId, variantId, quantity }
  return { shop with rows, serial := shop.serial + 1 }

-- A row that only the snapshot still has is updated nowhere.
def setQuantity (shop : Shop) (itemId : Id) (quantity : Int) : Shop :=
  { shop with
    rows := shop.rows.update (fun row => row.id == itemId) (fun row => { row with quantity })
      (Table.kept ItemRow.id) }

def putItem (locked : Locked) (cartId variantId : Id) (quantity : Int) :
    Option ItemRow -> Except Failure Shop
  | some existing => return setQuantity locked.shop existing.id quantity
  | none => do
    throwIf (locked.seen.countP (fun row => row.cartId == cartId) >= maxCartDistinctItems)
      (conflict "CART_ITEM_LIMIT_REACHED")
    createItem locked.shop cartId variantId quantity

variable (snapshot latest : Shop) (userId : Id)

-- A call that may open a cart always has one.
def add (variantId : Id) (quantity : Int) : Except Failure Shop := do
  let locked <- lockCustomerAndCart moments snapshot latest userId true
  let cartId <- orThrow locked.cartId itemNotFound
  let variant <- orThrow (publicVariant? snapshot.db moments.now variantId) productUnavailable
  let existing := locked.seen.find? fun row => row.cartId == cartId && row.variantId == variantId
  let total := ((existing.map ItemRow.quantity).getD 0) + quantity
  assertQuantity total
  assertAvailable snapshot.db moments.now variant total
  let shop <- putItem locked cartId variantId total existing
  return shop.touchCart moments cartId

def update (itemId : Id) (quantity : Int) : Except Failure Shop := do
  let locked <- lockCustomerAndCart moments snapshot latest userId false
  let cartId <- orThrow locked.cartId itemNotFound
  let item <- orThrow (locked.seen.find? fun row => row.id == itemId && row.cartId == cartId) itemNotFound
  let variant <- orThrow (publicVariant? snapshot.db moments.now item.variantId) productUnavailable
  assertQuantity quantity
  assertAvailable snapshot.db moments.now variant quantity
  return (setQuantity locked.shop item.id quantity).touchCart moments cartId

def remove (itemId : Id) : Except Failure Shop := do
  let locked <- lockCustomerAndCart moments snapshot latest userId false
  let cartId <- orThrow locked.cartId itemNotFound
  throwIf (locked.shop.rows.count (fun row => row.id == itemId && row.cartId == cartId) ≠ 1) itemNotFound
  return (locked.shop.deleteItems fun row => row.id == itemId && row.cartId == cartId).touchCart moments cartId

def Call.run : Call -> Except Failure Shop
  | .get => Locked.shop <$> lockCustomerAndCart moments snapshot latest userId true
  | .add variantId quantity => CartEditing.add moments snapshot latest userId variantId quantity
  | .update itemId quantity => CartEditing.update moments snapshot latest userId itemId quantity
  | .remove itemId => CartEditing.remove moments snapshot latest userId itemId

end Service

section Revisions

-- What a cart has become some commits later: a version stands for one status and one list of rows.
structure Revised (before after : Table ItemRow.id) (cart later : Schema.Cart) : Prop where
  id : later.id = cart.id
  customer : later.customerId = cart.customerId
  version : cart.version <= later.version
  same : later.version = cart.version ->
    later.status = cart.status /\ linesOf after cart.id = linesOf before cart.id
  closed : cart.status ≠ .active -> later.status = cart.status

def Stems (rows : Table ItemRow.id) (row : ItemRow) : Prop :=
  exists was, was ∈ rows.rows /\ was.id = row.id /\ was.cartId = row.cartId /\ was.variantId = row.variantId

-- No id is given twice, and no row changes its cart or its variant.
structure Follows (before after : Shop) : Prop where
  serial : before.serial <= after.serial
  rows : forall row, row ∈ after.rows.rows -> row.id < before.serial -> Stems before.rows row
  carts : forall cart, cart ∈ before.db.carts.rows ->
    exists later, later ∈ after.db.carts.rows /\ Revised before.rows after.rows cart later

theorem stems_self {rows : Table ItemRow.id} {row : ItemRow} (member : row ∈ rows.rows) : Stems rows row :=
  ⟨row, member, rfl, rfl, rfl⟩

theorem Follows.refl (shop : Shop) : Follows shop shop where
  serial := Nat.le_refl _
  rows _ member _ := stems_self member
  carts cart member := ⟨cart, member, rfl, rfl, Nat.le_refl _, fun _ => ⟨rfl, rfl⟩, fun _ => rfl⟩

theorem Revised.trans {first second third : Table ItemRow.id} {cart middle later : Schema.Cart}
    (one : Revised first second cart middle) (two : Revised second third middle later) :
    Revised first third cart later where
  id := two.id.trans one.id
  customer := two.customer.trans one.customer
  version := one.version.trans two.version
  same unchanged := by
    have still : middle.version = cart.version :=
      Nat.le_antisymm (unchanged ▸ two.version) one.version
    obtain ⟨status, lines⟩ := one.same still
    obtain ⟨later, after⟩ := two.same (unchanged.trans still.symm)
    rw [one.id] at after
    exact ⟨later.trans status, after.trans lines⟩
  closed apart := by
    have status := one.closed apart
    exact (two.closed (status ▸ apart)).trans status

theorem Follows.trans {first second third : Shop} (one : Follows first second) (two : Follows second third) :
    Follows first third where
  serial := one.serial.trans two.serial
  rows row member old := by
    obtain ⟨middle, there, id, cart, variant⟩ := two.rows row member (Nat.lt_of_lt_of_le old one.serial)
    obtain ⟨was, here, sameId, sameCart, sameVariant⟩ := one.rows middle there (id ▸ old)
    exact ⟨was, here, sameId.trans id, sameCart.trans cart, sameVariant.trans variant⟩
  carts cart member := by
    obtain ⟨middle, there, revised⟩ := one.carts cart member
    obtain ⟨later, here, again⟩ := two.carts middle there
    exact ⟨later, here, revised.trans again⟩

variable {before after : Shop}

-- Carts whose version rises may change; the others keep their rows.
theorem follows_of_rewrite {chosen : Schema.Cart -> Bool} {change : Schema.Cart -> Schema.Cart}
    {keeps : forall cart, (change cart).id = cart.id}
    (carts : after.db.carts = before.db.carts.update chosen change keeps)
    (serial : before.serial <= after.serial)
    (rows : forall row, row ∈ after.rows.rows -> row.id < before.serial -> Stems before.rows row)
    (raises : forall cart, (change cart).customerId = cart.customerId /\
      (change cart).version = cart.version + 1)
    (closed : forall cart, chosen cart = true -> cart.status ≠ .active -> (change cart).status = cart.status)
    (others : forall cart, chosen cart = false -> linesOf after.rows cart.id = linesOf before.rows cart.id) :
    Follows before after where
  serial := serial
  rows := rows
  carts cart member := by
    refine ⟨Table.rewrite chosen change cart, ?_, ?_⟩
    next =>
      rw [carts, Table.update_rows]
      exact List.mem_map_of_mem member
    next =>
      cases hit : chosen cart with
      | true =>
        rw [Table.rewrite_chosen hit]
        have raised := (raises cart).2
        exact ⟨keeps cart, (raises cart).1, by omega, fun same => by omega, closed cart hit⟩
      | false =>
        rw [Table.rewrite_other hit]
        exact ⟨rfl, rfl, Nat.le_refl _, fun _ => ⟨rfl, others cart hit⟩, fun _ => rfl⟩

theorem follows_of_insert {cart : Schema.Cart} (carts : before.db.carts.insert? cart = some after.db.carts)
    (serial : before.serial <= after.serial) (rows : after.rows = before.rows) : Follows before after where
  serial := serial
  rows _ member _ := stems_self (rows ▸ member)
  carts old member := by
    refine ⟨old, ?_, rfl, rfl, Nat.le_refl _, fun _ => ⟨rfl, by rw [rows]⟩, fun _ => rfl⟩
    rw [(Table.insert?_rows carts).1]
    exact List.mem_append_left _ member

def Sized (quantity : Int) : Prop :=
  1 <= quantity /\ quantity <= maxCartItemQuantity

-- Every row has a cart and a quantity the service allows, and no cart has a variant twice.
structure Sound (shop : Shop) : Prop where
  opened : forall cart, cart ∈ shop.db.carts.rows -> cart.id < shop.serial
  numbered : forall row, row ∈ shop.rows.rows -> row.id < shop.serial
  placed : forall row, row ∈ shop.rows.rows ->
    exists cart, cart ∈ shop.db.carts.rows /\ cart.id = row.cartId
  single : forall left right, left ∈ shop.rows.rows -> right ∈ shop.rows.rows ->
    left.cartId = right.cartId -> left.variantId = right.variantId -> left = right
  sized : forall row, row ∈ shop.rows.rows -> Sized row.quantity

-- Only the carts of the database and their rows are written.
structure Edits (before after : Shop) : Prop where
  follows : Follows before after
  sound : Sound after
  rest : after.db = { before.db with carts := after.db.carts }

theorem Edits.trans {first second third : Shop} (one : Edits first second) (two : Edits second third) :
    Edits first third where
  follows := one.follows.trans two.follows
  sound := two.sound
  rest := by rw [two.rest, one.rest]

theorem Sound.rewriteCarts {shop : Shop} (sound : Sound shop) (chosen : Schema.Cart -> Bool)
    (change : Schema.Cart -> Schema.Cart) (keeps : forall cart, (change cart).id = cart.id) :
    Sound (shop.rewriteCarts chosen change keeps) where
  opened cart member := by
    obtain ⟨was, there, rfl⟩ := List.mem_map.1 member
    rw [Table.rewrite_field keeps]
    exact sound.opened was there
  numbered := sound.numbered
  placed row member := by
    obtain ⟨cart, there, id⟩ := sound.placed row member
    exact ⟨Table.rewrite chosen change cart, List.mem_map_of_mem there,
      (Table.rewrite_field keeps cart).trans id⟩
  single := sound.single
  sized := sound.sized

-- Rows that are left, or written anew, of a sound shop.
theorem Sound.stems {shop : Shop} (sound : Sound shop) {rows : Table ItemRow.id}
    (stems : forall row, row ∈ rows.rows -> Stems shop.rows row)
    (sized : forall row, row ∈ rows.rows -> Sized row.quantity) : Sound { shop with rows } where
  opened := sound.opened
  numbered row member := by
    obtain ⟨was, there, id, -⟩ := stems row member
    exact id ▸ sound.numbered was there
  placed row member := by
    obtain ⟨was, there, -, cart, -⟩ := stems row member
    exact cart ▸ sound.placed was there
  single left right here there sameCart sameVariant := by
    obtain ⟨one, first, id, cart, variant⟩ := stems left here
    obtain ⟨two, second, otherId, otherCart, otherVariant⟩ := stems right there
    obtain rfl := sound.single one two first second (cart.trans (sameCart.trans otherCart.symm))
      (variant.trans (sameVariant.trans otherVariant.symm))
    exact rows.same_of_key here there (id.symm.trans otherId)
  sized := sized

end Revisions

section Writes

variable {moments : Moments} {middle next : Shop} {cartId : Id}

theorem filter_rewritten {rows : List ItemRow} {chosen wanted : ItemRow -> Bool} {change : ItemRow -> ItemRow}
    (apart : forall row, row ∈ rows -> chosen row = true -> wanted row = false /\ wanted (change row) = false) :
    (rows.map (Table.rewrite chosen change)).filter wanted = rows.filter wanted := by
  induction rows with
  | nil => rfl
  | cons row rest ih =>
    have later := ih fun other member => apart other (List.mem_cons_of_mem _ member)
    cases hit : chosen row with
    | true =>
      obtain ⟨was, becomes⟩ := apart row List.mem_cons_self hit
      rw [List.map_cons, Table.rewrite_chosen hit, List.filter_cons_of_neg (by simp [becomes]),
        List.filter_cons_of_neg (by simp [was]), later]
    | false => rw [List.map_cons, Table.rewrite_other hit, List.filter_cons, List.filter_cons, later]

-- A write to the rows of one cart, with the cart touched.
theorem touchCart_edits (db : next.db = middle.db) (serial : middle.serial <= next.serial)
    (rows : forall row, row ∈ next.rows.rows -> row.id < middle.serial -> Stems middle.rows row)
    (others : forall other, other ≠ cartId -> linesOf next.rows other = linesOf middle.rows other)
    (sound : Sound next) : Edits middle (next.touchCart moments cartId) where
  follows := by
    refine @follows_of_rewrite middle (next.touchCart moments cartId) (fun cart => cart.id == cartId)
      (touch moments) (Table.kept Schema.Cart.id) ?_ serial rows (fun _ => ⟨rfl, rfl⟩) (fun _ _ _ => rfl) ?_
    next => simp only [Shop.touchCart, Shop.rewriteCarts, db]
    next => exact fun cart other => others cart.id (by simpa using other)
  sound := sound.rewriteCarts _ _ _
  rest := by simp only [Shop.touchCart, Shop.rewriteCarts, db]

theorem deleteItems_sound (sound : Sound middle) (chosen : ItemRow -> Bool) :
    Sound (middle.deleteItems chosen) :=
  sound.stems (fun _ member => stems_self (deleteMany_mem member).1)
    fun row member => sound.sized row (deleteMany_mem member).1

theorem deleteItems_edits (sound : Sound middle) {chosen : ItemRow -> Bool}
    (own : forall row, chosen row = true -> row.cartId = cartId) :
    Edits middle ((middle.deleteItems chosen).touchCart moments cartId) := by
  refine touchCart_edits rfl (Nat.le_refl _) (fun _ member _ => stems_self (deleteMany_mem member).1)
    (fun other apart => ?_) (deleteItems_sound sound chosen)
  simp only [linesOf, Table.filter, Shop.deleteItems, Access.Wishlists.deleteMany, List.filter_filter]
  refine List.filter_congr fun row _ => ?_
  cases hit : chosen row with
  | true => simp [own row hit, apart.symm]
  | false => simp

theorem setQuantity_mem {itemId : Id} {quantity : Int} {row : ItemRow}
    (member : row ∈ (setQuantity middle itemId quantity).rows.rows) :
    Stems middle.rows row /\ (row ∈ middle.rows.rows \/ row.quantity = quantity) := by
  obtain ⟨was, there, ⟨-, rfl⟩ | ⟨-, rfl⟩⟩ := Table.rewrite_mem member
  next => exact ⟨⟨was, there, rfl, rfl, rfl⟩, .inr rfl⟩
  next => exact ⟨stems_self there, .inl there⟩

theorem setQuantity_edits (sound : Sound middle) {itemId : Id} {quantity : Int} (sized : Sized quantity)
    (own : forall row, row ∈ middle.rows.rows -> row.id = itemId -> row.cartId = cartId) :
    Edits middle ((setQuantity middle itemId quantity).touchCart moments cartId) := by
  have stems := fun row member => (@setQuantity_mem middle itemId quantity row member).1
  refine touchCart_edits rfl (Nat.le_refl _) (fun row member _ => stems row member) (fun other apart => ?_)
    (sound.stems stems fun row member => ?_)
  next =>
    refine filter_rewritten fun row member hit => ?_
    have cart := own row member (by simpa using hit)
    simp [cart, apart.symm]
  next =>
    rcases (setQuantity_mem member).2 with there | rfl
    next => exact sound.sized row there
    next => exact sized

theorem createItem_ok {variantId : Id} {quantity : Int}
    (ran : createItem middle cartId variantId quantity = .ok next) :
    (forall row, row ∈ middle.rows.rows -> row.cartId = cartId -> row.variantId ≠ variantId) /\
      next.rows.rows = middle.rows.rows ++ [{ id := middle.serial, cartId, variantId, quantity }] /\
      next.db = middle.db /\ next.serial = middle.serial + 1 := by
  simp only [createItem, bind_ok, throwIf_ok, create_ok, pure_ok] at ran
  obtain ⟨⟨⟩, absent, rows, inserted, rfl⟩ := ran
  refine ⟨fun row member cart variant => absent ?_, (Table.insert?_rows inserted).1, rfl, rfl⟩
  exact List.any_eq_true.2 ⟨row, member, by simp [cart, variant]⟩

theorem createItem_sound (sound : Sound middle) {variantId : Id} {quantity : Int}
    (sized : Sized quantity)
    (exists_cart : exists cart, cart ∈ middle.db.carts.rows /\ cart.id = cartId)
    (ran : createItem middle cartId variantId quantity = .ok next) : Sound next := by
  obtain ⟨absent, rows, db, serial⟩ := createItem_ok ran
  have cases_on_row : forall row, row ∈ next.rows.rows ->
      row ∈ middle.rows.rows \/ row = { id := middle.serial, cartId, variantId, quantity } := by
    intro row member
    simpa [rows] using member
  refine {
    opened := fun cart member => ?_, numbered := fun row member => ?_, placed := fun row member => ?_
    single := ?_, sized := ?_ }
  next =>
    rw [serial]
    exact Nat.lt_succ_of_lt (sound.opened cart (db ▸ member))
  next =>
    rw [serial]
    rcases cases_on_row row member with old | rfl
    next => exact Nat.lt_succ_of_lt (sound.numbered row old)
    next => exact Nat.lt_succ_self _
  next =>
    rw [db]
    rcases cases_on_row row member with old | rfl
    next => exact sound.placed row old
    next => exact exists_cart
  next =>
    intro left right here there sameCart sameVariant
    rcases cases_on_row left here with old | rfl <;> rcases cases_on_row right there with other | rfl
    next => exact sound.single left right old other sameCart sameVariant
    next => exact absurd sameVariant (absent left old sameCart)
    next => exact absurd sameVariant.symm (absent right other sameCart.symm)
    next => rfl
  next =>
    intro row member
    rcases cases_on_row row member with old | rfl
    next => exact sound.sized row old
    next => exact sized

theorem createItem_edits (sound : Sound middle) {variantId : Id} {quantity : Int}
    (sized : Sized quantity)
    (exists_cart : exists cart, cart ∈ middle.db.carts.rows /\ cart.id = cartId)
    (ran : createItem middle cartId variantId quantity = .ok next) :
    Edits middle (next.touchCart moments cartId) := by
  obtain ⟨-, rows, db, serial⟩ := createItem_ok ran
  refine touchCart_edits db (serial ▸ Nat.le_succ _) (fun row member old => ?_) (fun other apart => ?_)
    (createItem_sound sound sized exists_cart ran)
  next =>
    rw [rows, List.mem_append, List.mem_singleton] at member
    rcases member with here | rfl
    next => exact stems_self here
    next => exact absurd old (Nat.lt_irrefl _)
  next => simp [linesOf, Table.filter, rows, apart.symm]

end Writes

section Calls

variable {moments : Moments} {snapshot latest next : Shop} {userId : Id}

-- What a call finds and has written once it holds its cart.
structure Holds (snapshot latest : Shop) (locked : Locked) : Prop where
  edits : Edits latest locked.shop
  seen : forall row, row ∈ locked.seen -> row ∈ snapshot.rows.rows
  cart : forall cartId, locked.cartId = some cartId ->
    exists cart, cart ∈ locked.shop.db.carts.rows /\ cart.id = cartId

theorem Edits.refl {shop : Shop} (sound : Sound shop) : Edits shop shop :=
  ⟨.refl shop, sound, rfl⟩

theorem expire_edits (sound : Sound latest) (cartId : Id) :
    Edits latest (latest.rewriteCarts (fun row => row.id == cartId && row.status == .active)
      (expire moments) (Table.kept Schema.Cart.id)) where
  follows := by
    refine @follows_of_rewrite _ _ _ (expire moments) (Table.kept Schema.Cart.id) rfl (Nat.le_refl _)
      (fun _ member _ => stems_self member) (fun _ => ⟨rfl, rfl⟩) (fun cart chosen other => ?_)
      fun _ _ => rfl
    simp only [Bool.and_eq_true, beq_iff_eq] at chosen
    exact absurd chosen.2 other
  sound := sound.rewriteCarts _ _ _
  rest := rfl

theorem removeUnavailableItems_edits (sound : Sound latest) (cartId : Id) :
    Edits latest (removeUnavailableItems moments latest cartId) := by
  unfold removeUnavailableItems
  split
  next => exact .refl sound
  next =>
    refine ⟨?_, (deleteItems_sound sound _).rewriteCarts _ _ _, rfl⟩
    refine @follows_of_rewrite _ _ _ (outdate moments) (Table.kept Schema.Cart.id) rfl (Nat.le_refl _)
      (fun _ member _ => stems_self (deleteMany_mem member).1) (fun _ => ⟨rfl, rfl⟩) (fun _ _ _ => rfl)
      fun cart other => ?_
    simp only [linesOf, Table.filter, Shop.rewriteCarts, Shop.deleteItems, Access.Wishlists.deleteMany,
      List.filter_filter]
    refine List.filter_congr fun row _ => ?_
    by_cases here : row.cartId = cart.id
    next => simp [withdrawn, here, other]
    next => simp [here]

theorem openCart_holds (sound : Sound latest) {customerId : Id} {create : Bool} {locked : Locked}
    (ran : openCart moments snapshot latest customerId create = .ok locked) :
    Holds snapshot latest locked := by
  unfold openCart at ran
  split at ran
  next =>
    simp only [bind_ok, create_ok, pure_ok] at ran
    obtain ⟨carts, inserted, rfl⟩ := ran
    refine ⟨⟨?_, ?_, rfl⟩, fun _ member => member, fun cartId same => ?_⟩
    next => exact follows_of_insert inserted (Nat.le_succ _) rfl
    next =>
      refine ⟨fun cart member => ?_, fun row member => Nat.lt_succ_of_lt (sound.numbered row member),
        fun row member => ?_, sound.single, sound.sized⟩
      next =>
        simp only [(Table.insert?_rows inserted).1, List.mem_append, List.mem_singleton] at member
        rcases member with old | rfl
        next => exact Nat.lt_succ_of_lt (sound.opened cart old)
        next => exact Nat.lt_succ_self _
      obtain ⟨cart, there, id⟩ := sound.placed row member
      exact ⟨cart, by simp [(Table.insert?_rows inserted).1, there], id⟩
    next =>
      obtain rfl := Option.some.inj same
      exact ⟨newCart moments latest.serial customerId, by simp [(Table.insert?_rows inserted).1], rfl⟩
  next =>
    obtain rfl := (pure_ok _ _).1 ran
    exact ⟨.refl sound, fun _ member => member, fun _ same => absurd same.symm (Option.some_ne_none _)⟩

theorem activeCart?_mem {db : Db} {customerId : Id} {cart : Schema.Cart}
    (found : activeCart? db customerId = some cart) :
    cart ∈ db.carts.rows /\ cart.customerId = customerId /\ cart.status = .active := by
  have member := (List.mem_insertionSort _).1 (List.mem_of_head? found)
  simpa [Table.filter] using member

theorem lockCustomerAndCart_holds (behind : Follows snapshot latest) (sound : Sound latest) {create : Bool}
    {locked : Locked} (ran : lockCustomerAndCart moments snapshot latest userId create = .ok locked) :
    Holds snapshot latest locked := by
  simp only [lockCustomerAndCart, bind_ok] at ran
  obtain ⟨customer, -, ran⟩ := ran
  split at ran
  next => exact openCart_holds sound ran
  next cart found =>
    split at ran
    next =>
      have expired := @expire_edits moments latest sound cart.id
      have opened := openCart_holds expired.sound ran
      exact ⟨expired.trans opened.edits, opened.seen, opened.cart⟩
    next =>
      obtain rfl := (pure_ok _ _).1 ran
      have purged := @removeUnavailableItems_edits moments latest sound cart.id
      refine ⟨purged, fun row member => (List.mem_filter.1 member).1, fun cartId same => ?_⟩
      obtain rfl := Option.some.inj same
      obtain ⟨later, there, revised⟩ := (behind.trans purged.follows).carts cart (activeCart?_mem found).1
      exact ⟨later, there, revised.id⟩

theorem assertQuantity_ok {quantity : Int} {result : Unit} (ran : assertQuantity quantity = .ok result) :
    Sized quantity := by
  simp only [assertQuantity, throwIf_ok, not_or, Int.not_lt, gt_iff_lt] at ran
  exact ran.2

-- A row that a call has seen in its cart is a row of that cart still, if it is one at all.
theorem Holds.own {locked : Locked} (held : Holds snapshot latest locked) (behind : Follows snapshot latest)
    (known : Sound snapshot) {row : ItemRow} (seen : row ∈ locked.seen) :
    forall other, other ∈ locked.shop.rows.rows -> other.id = row.id -> other.cartId = row.cartId := by
  intro other member same
  have here := held.seen row seen
  obtain ⟨was, there, id, cart, -⟩ := (behind.trans held.edits.follows).rows other member
    (same ▸ known.numbered row here)
  rw [<- cart, Table.same_of_key snapshot.rows there here (id.trans same)]

/-- Every call that is not refused edits carts of the latest state, whatever was committed since its
snapshot. -/
theorem run_edits (behind : Follows snapshot latest) (known : Sound snapshot) (sound : Sound latest)
    {call : Call} (ran : call.run moments snapshot latest userId = .ok next) : Edits latest next := by
  cases call with
  | get =>
    obtain ⟨locked, locks, rfl⟩ := (map_ok _ _ _).1 ran
    exact (lockCustomerAndCart_holds behind sound locks).edits
  | add variantId quantity =>
    simp only [Call.run, CartEditing.add, bind_ok, orThrow_ok, pure_ok] at ran
    obtain ⟨locked, ran, cartId, named, variant, -, ⟨⟩, allowed, ⟨⟩, -, shop, put, rfl⟩ := ran
    have held := lockCustomerAndCart_holds behind sound ran
    have sized := assertQuantity_ok allowed
    refine held.edits.trans ?_
    cases found : locked.seen.find? fun row => row.cartId == cartId && row.variantId == variantId with
    | none =>
      simp only [found, putItem, bind_ok, throwIf_ok] at put sized
      obtain ⟨⟨⟩, -, created⟩ := put
      exact createItem_edits held.edits.sound sized (held.cart cartId named) created
    | some existing =>
      simp only [found, putItem, pure_ok] at put sized
      subst put
      have mine : existing.cartId = cartId := by
        have hit := List.find?_some found
        simp only [Bool.and_eq_true, beq_iff_eq] at hit
        exact hit.1
      exact setQuantity_edits held.edits.sound sized fun row member same =>
        (held.own behind known (List.mem_of_find?_eq_some found) row member same).trans mine
  | update itemId quantity =>
    simp only [Call.run, CartEditing.update, bind_ok, orThrow_ok, pure_ok] at ran
    obtain ⟨locked, ran, cartId, named, item, found, variant, -, ⟨⟩, allowed, ⟨⟩, -, rfl⟩ := ran
    have held := lockCustomerAndCart_holds behind sound ran
    have mine : item.cartId = cartId := by
      have hit := List.find?_some found
      simp only [Bool.and_eq_true, beq_iff_eq] at hit
      exact hit.2
    exact held.edits.trans (setQuantity_edits held.edits.sound (assertQuantity_ok allowed)
      fun row member same => (held.own behind known (List.mem_of_find?_eq_some found) row member same).trans mine)
  | remove itemId =>
    simp only [Call.run, CartEditing.remove, bind_ok, orThrow_ok, throwIf_ok, pure_ok] at ran
    obtain ⟨locked, ran, cartId, named, ⟨⟩, -, rfl⟩ := ran
    have held := lockCustomerAndCart_holds behind sound ran
    refine held.edits.trans (deleteItems_edits held.edits.sound fun row chosen => ?_)
    simp only [Bool.and_eq_true, beq_iff_eq] at chosen
    exact chosen.2

end Calls

end VapeCommerce.Storefront.CartEditing
