import VapeCommerce.Checkout.Issued
import VapeCommerce.Checkout.Placement
import VapeCommerce.Lib.Locking
import VapeCommerce.Storefront.CartEditing

set_option autoImplicit false

-- From the cart to the order: the cart calls of all customers, each with a snapshot of its own, between the
-- operations of the other services.
namespace VapeCommerce.Checkout.CartOrders

open VapeCommerce.Lib VapeCommerce.Lib.Outcome VapeCommerce.Schema VapeCommerce.Database
open VapeCommerce.Lib.Locking VapeCommerce.System VapeCommerce.Checkout.Lines
open VapeCommerce.Checkout.Order VapeCommerce.Checkout.Placement VapeCommerce.Checkout.Issued
open VapeCommerce.Storefront.CartEditing

section Machine

structure Visit where
  userId : Id
  moments : Moments
  call : Call

-- An operation of another service, which leaves the editing of carts to the calls.
structure Elsewhere where
  now : Int
  op : Op
  kept : replacesCarts op = false

def elsewhere (other : Elsewhere) (shop : Shop) : Shop :=
  match exec shop.shown other.now other.op with
  | .ok db => { shop with db }
  | .error _ => shop

-- The lock on the customer makes what a call does after its first read one step. The order it puts the
-- calls of one customer in is not used: every order is a run here.
def system : Locking.System Shop Visit Elsewhere where
  plan _ := [.look, .work]
  work visit snapshot latest := succeeded (visit.call.run visit.moments snapshot latest visit.userId)
  outside := elsewhere

def opening (config : Config.Configuration) (orderSequence : Option Int) : Locking.State Shop Visit :=
  .opening { db := Db.empty config orderSequence, rows := Table.empty, serial := 1 }

def reached (config : Config.Configuration) (orderSequence : Option Int)
    (labels : List (Locking.Label Visit Elsewhere)) : Shop :=
  (Runs.run system.step (opening config orderSequence) labels).committed

end Machine

section Orders

-- The variants and quantities of an order, and of the rows of a cart.
def ordered (items : List OrderItem) : List (Id × Int) :=
  items.map fun item => (item.variantId, item.quantity)

def held (rows : Table ItemRow.id) (cartId : Id) : List (Id × Int) :=
  (linesOf rows cartId).map fun row => (row.variantId, row.quantity)

variable {db next : Db} {call : CheckoutCall} {now : Int}

theorem lockCheckoutCart_ok {candidates locked : Db} {customerId : Id} {requested : List CheckoutItem}
    {cart : Schema.Cart} (ran : lockCheckoutCart candidates locked customerId requested now = .ok cart) :
    cart ∈ locked.carts.rows /\ cart.customerId = customerId /\ cart.status = .active /\
      (requested.map fun item => (item.variantId, item.quantity)).Perm
        (cart.items.map fun item => (item.variantId, item.quantity)) := by
  simp only [lockCheckoutCart, bind_ok, orThrow_ok, throwIf_ok, not_not, pure_ok] at ran
  obtain ⟨candidate, -, found, chosen, ⟨⟩, -, ⟨⟩, same, rfl⟩ := ran
  obtain ⟨there, mine⟩ := Option.filter_eq_some_iff.1 chosen
  simp only [Bool.and_eq_true, beq_iff_eq] at mine
  refine ⟨Table.find?_mem there, mine.1, mine.2, ?_⟩
  have left := (List.perm_insertionSort (fun left right : CheckoutItem => left.variantId <= right.variantId)
    requested).map fun item => (item.variantId, item.quantity)
  have right := (List.perm_insertionSort (fun left right : CartItem => left.variantId <= right.variantId)
    found.items).map fun item => (item.variantId, item.quantity)
  exact left.symm.trans ((List.Perm.of_eq same).trans right)

-- What a placement has of its cart.
structure FromCart (db : Db) (placement : Placement) : Prop where
  there : placement.cart ∈ db.carts.rows
  active : placement.cart.status = .active
  cart : placement.order.cartId = placement.cart.id
  customer : placement.order.customerId = placement.cart.customerId
  lines : (ordered placement.order.items).Perm
    (placement.cart.items.map fun item => (item.variantId, item.quantity))

theorem orderItems_ordered {ids : FreshIds} {lines : List PricedLine} {items : List OrderItem}
    (ran : lines.mapM (orderItem ids) = .ok items) :
    ordered items = lines.map fun line => (line.variant.id, line.requested.quantity) := by
  refine mapM_field _ _ (fun line item made => ?_) ran
  simp only [orderItem, bind_ok, pure_ok] at made
  obtain ⟨_, -, _, -, rfl⟩ := made
  rfl

theorem priceOrder_ordered {views : Views} {input : CheckoutOrder} {minimumAge : Int} {order : PricedOrder}
    {ids : FreshIds} {items : List OrderItem} (priced : priceOrder views input minimumAge now = .ok order)
    (ran : order.priced.lines.mapM (orderItem ids) = .ok items) :
    ordered items = input.items.map fun item => (item.variantId, item.quantity) := by
  simp only [priceOrder, bind_ok, pure_ok] at priced
  obtain ⟨_, -, lines, ran_lines, _, -, _, -, _, -, _, -, _, -, _, -, rfl⟩ := priced
  have asked := priceLines_requested ran_lines
  rw [noLines, List.map_nil, List.nil_append] at asked
  have found : lines.lines.map (fun line => (line.variant.id, line.requested.quantity)) =
      (lines.lines.map (·.requested)).map fun item => (item.variantId, item.quantity) := by
    rw [List.map_map]
    refine List.map_congr_left fun line member => ?_
    simp [((priceLines_exact ran_lines).lines line member).2.2]
  rw [orderItems_ordered ran, found, asked]

theorem preparePlacement_cart {claim : OrderIdempotencyKey CheckoutOrder} {placement : Placement}
    (ran : preparePlacement (fun _ => db) call claim now = .ok placement) : FromCart db placement := by
  simp only [preparePlacement, bind_ok, pure_ok] at ran
  obtain ⟨policy, -, ⟨⟩, -, customer, -, cart, locks, order, priced, ⟨⟩, -, ⟨⟩, -, orderNumber, -,
    items, itemized, movements, -, rfl⟩ := ran
  obtain ⟨there, mine, active, lines⟩ := lockCheckoutCart_ok locks
  exact {
    there
    active
    cart := rfl
    customer := mine.symm
    lines := priceOrder_ordered priced itemized ▸ lines }

theorem create_placed {orderId : Id} (ran : Order.create db call now = .ok (next, orderId)) :
    next = db \/ exists placement, FromCart db placement /\ place db placement = .ok next := by
  simp only [Order.create, bind_ok, pure_ok, Prod.mk.injEq] at ran
  obtain ⟨keyHash, -, result, ran, after, finished, rfl, rfl⟩ := ran
  simp only [createInTransaction, bind_ok] at ran
  obtain ⟨claim, -, ran⟩ := ran
  split at ran
  next =>
    simp only [replay, bind_ok, pure_ok] at ran
    obtain ⟨order, -, rfl⟩ := ran
    exact .inl (Except.ok.inj finished).symm
  next =>
    simp only [bind_ok, pure_ok] at ran
    obtain ⟨placement, prepared, rfl⟩ := ran
    exact .inr ⟨placement, preparePlacement_cart prepared, finished⟩

end Orders

section Steps

variable {before after : Shop}

-- A cart that held just what an order has, when it was still active.
structure Backs (shop : Shop) (order : Content) (cart : Schema.Cart) : Prop where
  there : cart ∈ shop.db.carts.rows
  active : cart.status = .active
  id : cart.id = order.cartId
  customer : cart.customerId = order.customerId
  lines : (ordered order.items).Perm (held shop.rows cart.id)

-- How one step changes carts and orders: no order comes, or one that an active cart backs, which it
-- converts.
inductive Sells (before after : Shop) : Prop
  | same (orders : contents after.db.orders = contents before.db.orders)
  | placed (order : Content) (cart : Schema.Cart)
      (orders : contents after.db.orders = contents before.db.orders ++ [order])
      (backs : Backs before order cart)
      (converted : exists later, later ∈ after.db.carts.rows /\ later.id = cart.id /\
        later.status = .converted)

structure Advances (before after : Shop) : Prop where
  follows : Follows before after
  sound : Sound after
  sells : Sells before after

theorem Advances.refl (sound : Sound before) : Advances before before :=
  ⟨.refl before, sound, .same rfl⟩

theorem Advances.of_edits (edits : Edits before after) : Advances before after :=
  ⟨edits.follows, edits.sound, .same (by rw [edits.rest])⟩

theorem update_none (carts : Table Schema.Cart.id) :
    carts = carts.update (fun _ => false) convertCart convertCart_id := by
  have same : Table.rewrite (fun _ => false) convertCart = id := funext fun _ => Table.rewrite_other rfl
  exact Table.ext_rows (by rw [Table.update_rows, same, List.map_id])

theorem shown_mem {cart : Schema.Cart} (member : cart ∈ before.shown.carts.rows) :
    exists was, was ∈ before.db.carts.rows /\ cart = withLines before.rows was := by
  obtain ⟨was, there, ⟨-, rfl⟩ | ⟨apart, -⟩⟩ := Table.rewrite_mem member
  next => exact ⟨was, there, rfl⟩
  next => exact nomatch apart

-- What another service leaves: the carts as they are shown, some of the active ones converted.
structure Converts (before : Shop) (db : Db) (chosen : Schema.Cart -> Bool) : Prop where
  carts : db.carts = before.shown.carts.update chosen convertCart convertCart_id
  active : forall cart, chosen cart = true -> cart.status = .active
  sells : Sells before { before with db }

theorem Converts.advances (sound : Sound before) {db : Db} {chosen : Schema.Cart -> Bool}
    (converts : Converts before db chosen) : Advances before { before with db } where
  follows := by
    have shown : Follows before { before with db := before.shown } := by
      refine ⟨Nat.le_refl _, fun _ member _ => stems_self member, fun cart member => ?_⟩
      exact ⟨withLines before.rows cart, List.mem_map_of_mem member, rfl, rfl, Nat.le_refl _,
        fun _ => ⟨rfl, rfl⟩, fun _ => rfl⟩
    refine shown.trans (follows_of_rewrite converts.carts (Nat.le_refl _)
      (fun _ member _ => stems_self member) (fun _ => ⟨rfl, rfl⟩)
      (fun cart hit other => absurd (converts.active cart hit) other) fun _ _ => rfl)
  sound := by
    have shown := sound.rewriteCarts (fun _ => true) (withLines before.rows) (withLines_id _)
    have converted := shown.rewriteCarts chosen convertCart convertCart_id
    have carts : db.carts.rows = (before.shown.carts.update chosen convertCart convertCart_id).rows := by
      rw [converts.carts]
    exact { converted with
      opened := fun cart member => converted.opened cart (carts ▸ member)
      placed := fun row member => carts ▸ converted.placed row member }
  sells := converts.sells

theorem placed_converts {placement : Placement} {db : Db} (fromCart : FromCart before.shown placement)
    (ran : place before.shown placement = .ok db) : exists chosen, Converts before db chosen := by
  have placed := place_placed ran
  obtain ⟨was, there, is⟩ := shown_mem fromCart.there
  have id : placement.cart.id = was.id := by
    rw [is]
    rfl
  have customer : placement.cart.customerId = was.customerId := by
    rw [is]
    rfl
  refine ⟨_, placed.carts, fun cart hit => ?_,
    .placed (content placement.order) was ?_ ⟨there, ?_, ?_, ?_, ?_⟩ ?_⟩
  next =>
    simp only [Bool.and_eq_true, beq_iff_eq] at hit
    exact hit.1.2
  next => simp [contents, (Table.insert?_rows placed.orders).1, Shop.shown]
  next => exact (congrArg Schema.Cart.status is).symm.trans fromCart.active
  next => exact (fromCart.cart.trans id).symm
  next => exact (fromCart.customer.trans customer).symm
  next =>
    have lines := fromCart.lines
    rw [is] at lines
    simpa [withLines, ItemRow.line, held, content, Function.comp_def] using lines
  next =>
    refine ⟨convertCart placement.cart, ?_, id, rfl⟩
    rw [placed.carts, Table.update_rows]
    refine List.mem_map.2 ⟨placement.cart, fromCart.there, Table.rewrite_chosen ?_⟩
    simp [fromCart.active]

theorem exec_converts {db : Db} {now : Int} {op : Op} (kept : replacesCarts op = false)
    (ran : exec before.shown now op = .ok db) : exists chosen, Converts before db chosen := by
  cases created : createsOrder op with
  | false =>
    have spared := exec_spared created kept ran
    refine ⟨fun _ => false, ?_, fun _ hit => (nomatch hit), .same spared.orders⟩
    rw [<- spared.carts]
    exact update_none _
  | true =>
    cases op with
    | createOrder call =>
      obtain ⟨⟨next, orderId⟩, creates, rfl⟩ := (map_ok _ _ _).1 ran
      rcases create_placed creates with rfl | ⟨placement, fromCart, placing⟩
      next => exact ⟨fun _ => false, update_none _, fun _ hit => (nomatch hit), .same rfl⟩
      next => exact placed_converts fromCart placing
    | _ => simp [createsOrder] at created

theorem elsewhere_cases (other : Elsewhere) (before : Shop) :
    elsewhere other before = before \/
      exists db chosen, elsewhere other before = { before with db } /\ Converts before db chosen := by
  unfold elsewhere
  split
  next db ran =>
    obtain ⟨chosen, converts⟩ := exec_converts other.kept ran
    exact .inr ⟨db, chosen, rfl, converts⟩
  next => exact .inl rfl

end Steps

section Reached

variable {before after : Shop} {state : Locking.State Shop Visit}

-- Every order has a cart of its own, converted for good.
structure Settled (shop : Shop) : Prop where
  once : ((contents shop.db.orders).map Content.cartId).Nodup
  converted : forall order, order ∈ contents shop.db.orders ->
    exists cart, cart ∈ shop.db.carts.rows /\ cart.id = order.cartId /\ cart.status = .converted

theorem Settled.stays (settled : Settled before) (follows : Follows before after) {order : Content}
    (member : order ∈ contents before.db.orders) :
    exists cart, cart ∈ after.db.carts.rows /\ cart.id = order.cartId /\ cart.status = .converted := by
  obtain ⟨cart, there, id, status⟩ := settled.converted order member
  obtain ⟨later, here, revised⟩ := follows.carts cart there
  have closed := revised.closed (status ▸ by decide)
  exact ⟨later, here, revised.id.trans id, closed.trans status⟩

theorem Settled.advance (settled : Settled before) (advances : Advances before after) : Settled after := by
  cases advances.sells with
  | same orders =>
    refine ⟨orders ▸ settled.once, fun order member => ?_⟩
    exact settled.stays advances.follows (orders ▸ member)
  | placed order cart orders backs converted =>
    have unsold : forall other, other ∈ contents before.db.orders -> other.cartId ≠ cart.id := by
      intro other member same
      obtain ⟨sold, here, sameId, status⟩ := settled.converted other member
      have one := before.db.carts.same_of_key here backs.there (sameId.trans same)
      rw [one, backs.active] at status
      exact nomatch status
    constructor
    next =>
      rw [orders, List.map_append, List.nodup_append]
      refine ⟨settled.once, by simp, fun first left second right same => ?_⟩
      obtain ⟨other, member, rfl⟩ := List.mem_map.1 left
      obtain rfl : second = order.cartId := by simpa using right
      exact unsold other member (same.trans backs.id.symm)
    next =>
      intro other member
      rw [orders, List.mem_append, List.mem_singleton] at member
      rcases member with old | rfl
      next => exact settled.stays advances.follows old
      next =>
        obtain ⟨later, here, sameId, status⟩ := converted
        exact ⟨later, here, sameId.trans backs.id, status⟩

structure Kept (state : Locking.State Shop Visit) : Prop where
  sound : Sound state.committed
  settled : Settled state.committed
  seen : System.Seen Sound state
  behind : System.Behind Follows state

theorem step_advances (kept : Kept state) (label : Locking.Label Visit Elsewhere) :
    Advances state.committed (system.step state label).committed := by
  rcases system.step_committed state label with same | ⟨other, -, next⟩ | ⟨transaction, commits⟩
  next =>
    rw [same]
    exact .refl kept.sound
  next =>
    rcases elsewhere_cases other state.committed with same | ⟨db, chosen, is, converts⟩
    next =>
      rw [next.trans same]
      exact .refl kept.sound
    next =>
      rw [next.trans is]
      exact converts.advances kept.sound
  next =>
    obtain ⟨id, -, active⟩ := commits.advances
    have behind := System.behind_view kept.behind Follows.refl active
    have known := System.seen_view kept.seen kept.sound active
    exact .of_edits (run_edits behind known kept.sound ((succeeded_some _ _).1 commits.works))

theorem step_kept (state : Locking.State Shop Visit) (label : Locking.Label Visit Elsewhere)
    (kept : Kept state) : Kept (system.step state label) :=
  have advances := step_advances kept label
  { sound := advances.sound
    settled := kept.settled.advance advances
    seen := system.step_seen state label kept.sound kept.seen
    behind := system.step_behind state label (fun _ _ _ => Follows.trans) advances.follows kept.behind }

theorem opening_kept (config : Config.Configuration) (orderSequence : Option Int) :
    Kept (opening config orderSequence) where
  sound := {
    opened := fun _ member => absurd member List.not_mem_nil
    numbered := fun _ member => absurd member List.not_mem_nil
    placed := fun _ member => absurd member List.not_mem_nil
    single := fun _ _ member => absurd member List.not_mem_nil
    sized := fun _ member => absurd member List.not_mem_nil }
  settled := ⟨List.nodup_nil, fun _ member => absurd member List.not_mem_nil⟩
  seen _ _ _ here := by simp [opening, Locking.State.opening] at here
  behind _ _ _ here := by simp [opening, Locking.State.opening] at here

variable (config : Config.Configuration) (orderSequence : Option Int)

theorem run_kept (labels : List (Locking.Label Visit Elsewhere)) :
    Kept (Runs.run system.step (opening config orderSequence) labels) :=
  Runs.run_keeps step_kept (opening_kept config orderSequence) labels

theorem run_follows (kept : Kept state) (labels : List (Locking.Label Visit Elsewhere)) :
    Follows state.committed (Runs.run system.step state labels).committed := by
  induction labels generalizing state with
  | nil => exact .refl _
  | cons label rest ih => exact (step_advances kept label).follows.trans (ih (step_kept state label kept))

theorem run_backed (labels : List (Locking.Label Visit Elsewhere)) {order : Content}
    (member : order ∈ contents (reached config orderSequence labels).db.orders) :
    exists earlier rest, labels = earlier ++ rest /\
      exists cart, Backs (reached config orderSequence earlier) order cart := by
  induction labels using List.reverseRecOn with
  | nil => exact nomatch member
  | append_singleton before label ih =>
    have moved := step_advances (run_kept config orderSequence before) label
    simp only [reached, Runs.run_append, Runs.run_cons, Runs.run_nil] at member
    have old : order ∈ contents (reached config orderSequence before).db.orders ->
        exists earlier rest, before ++ [label] = earlier ++ rest /\
          exists cart, Backs (reached config orderSequence earlier) order cart := by
      intro here
      obtain ⟨earlier, rest, split, backed⟩ := ih here
      exact ⟨earlier, rest ++ [label], by rw [split, List.append_assoc], backed⟩
    cases moved.sells with
    | same orders => exact old (orders ▸ member)
    | placed placed cart orders backs converted =>
      rw [orders, List.mem_append, List.mem_singleton] at member
      rcases member with here | rfl
      next => exact old here
      next => exact ⟨before, [label], rfl, cart, backs⟩

/-- However carts are edited and checked out at once, an order has a cart of its own, which stays
    converted, and its lines are what that cart of the same customer held at some time it was active. -/
theorem carts_ordered_once (labels : List (Locking.Label Visit Elsewhere)) :
    let shop := reached config orderSequence labels
    (shop.db.orders.rows.map (·.cartId)).Nodup /\
      forall order, order ∈ shop.db.orders.rows ->
        (exists cart, cart ∈ shop.db.carts.rows /\ cart.id = order.cartId /\ cart.status = .converted) /\
          exists earlier rest, labels = earlier ++ rest /\
            exists cart, cart ∈ (reached config orderSequence earlier).db.carts.rows /\
              cart.status = .active /\ cart.id = order.cartId /\ cart.customerId = order.customerId /\
              (ordered order.items).Perm (held (reached config orderSequence earlier).rows cart.id) := by
  intro shop
  have settled : Settled shop := (run_kept config orderSequence labels).settled
  have once := settled.once
  rw [contents, List.map_map] at once
  refine ⟨once, fun order member => ?_⟩
  have listed : content order ∈ contents shop.db.orders := List.mem_map_of_mem member
  obtain ⟨earlier, rest, split, cart, backs⟩ := run_backed config orderSequence labels listed
  exact ⟨settled.converted _ listed, earlier, rest, split, cart, backs.there, backs.active, backs.id,
    backs.customer, backs.lines⟩

/-- In every state each row of a cart is the only one of its variant and of an allowed quantity, and from
    one state to any later one the version of a cart never falls, and while it is the same so are the
    status and the rows. -/
theorem cart_versions_identify_rows (before after : List (Locking.Label Visit Elsewhere)) :
    let earlier := reached config orderSequence before
    let later := reached config orderSequence (before ++ after)
    (forall row, row ∈ later.rows.rows -> 1 <= row.quantity /\ row.quantity <= maxCartItemQuantity /\
        (exists cart, cart ∈ later.db.carts.rows /\ cart.id = row.cartId) /\
        forall other, other ∈ later.rows.rows -> other.cartId = row.cartId ->
          other.variantId = row.variantId -> other = row) /\
      forall was now, was ∈ earlier.db.carts.rows -> now ∈ later.db.carts.rows -> now.id = was.id ->
        now.customerId = was.customerId /\ was.version <= now.version /\
          (now.version = was.version ->
            now.status = was.status /\ linesOf later.rows was.id = linesOf earlier.rows was.id) /\
          (was.status ≠ .active -> now.status = was.status) := by
  intro earlier later
  have sound : Sound later := (run_kept config orderSequence (before ++ after)).sound
  have follows : Follows earlier later := by
    have onward := run_follows (run_kept config orderSequence before) after
    rwa [<- Runs.run_append] at onward
  refine ⟨fun row member => ?_, fun was now member there same => ?_⟩
  next =>
    obtain ⟨least, most⟩ := sound.sized row member
    exact ⟨least, most, sound.placed row member, fun other here => sound.single other row here member⟩
  next =>
    obtain ⟨found, here, revised⟩ := follows.carts was member
    obtain rfl := later.db.carts.same_of_key here there (revised.id.trans same.symm)
    exact ⟨revised.customer, revised.version, revised.same, revised.closed⟩

end Reached

-- Two pods put in a new cart and ordered, and a pod for the next one.
def bought : List (Locking.Label Visit Elsewhere) :=
  let visit (call : Call) : Visit :=
    { userId := 7, moments := { locked := 2, created := 2, now := 2, written := 2 }, call }
  [.outside { now := 1, op := .receiveBatch Sample.receipt ['k'] 9, kept := rfl },
    .start 1 (visit (.add 1 2)), .advance 1, .advance 1,
    .outside { now := 3, op := .createOrder Sample.call, kept := rfl },
    .start 2 (visit (.add 1 1)), .advance 2, .advance 2]

example : (reached Sample.shop (some 0) bought).db.orders.rows.map (fun order => ordered order.items) =
    [[(1, 2)]] := by
  decide +kernel

end VapeCommerce.Checkout.CartOrders
