import VapeCommerce.Cash.Admin
import VapeCommerce.Delivery.Operations

set_option autoImplicit false

-- One order with everything that belongs to it, and the links that make it one thing.
namespace VapeCommerce.Orders.Case

open VapeCommerce.Lib VapeCommerce.Schema VapeCommerce.Database VapeCommerce.Cash.Calculations
open VapeCommerce.Delivery.Admin (attemptsOf)

structure OrderCase where
  order : Order
  delivery : Delivery
  collection : CashCollection
  discrepancy : Option CashDiscrepancy
  history : List OrderStatusHistory
  attempts : List DeliveryAttempt
  ageEvents : List AgeVerificationEvent

def historyOf (db : Db) (orderId : Id) : List OrderStatusHistory :=
  db.history.filter fun entry => entry.orderId == orderId

def ageEventsOf (db : Db) (deliveryId : Id) : List AgeVerificationEvent :=
  db.ageEvents.filter fun event => event.deliveryId == some deliveryId

structure IsCase (db : Db) (orderId : Id) (case : OrderCase) : Prop where
  order : db.orders.find? orderId = some case.order
  delivery : db.deliveries.lookup Delivery.orderId orderId = some case.delivery
  collection : db.collections.lookup CashCollection.orderId orderId = some case.collection
  discrepancy : discrepancyOf db case.collection.id = case.discrepancy
  history : historyOf db orderId = case.history
  attempts : attemptsOf db case.delivery.id = case.attempts
  ageEvents : ageEventsOf db case.delivery.id = case.ageEvents

def orderIds (db : Db) : List Id :=
  db.orders.rows.map Order.id

def deliveryLinks (db : Db) : List (Id × Id) :=
  db.deliveries.rows.map fun delivery => (delivery.orderId, delivery.id)

def collectionLinks (db : Db) : List (Id × Option Id × Id) :=
  db.collections.rows.map fun collection => (collection.orderId, collection.deliveryId, collection.id)

-- Every order has one delivery and one cash collection for it; the rest points at these rows.
structure Linked (db : Db) : Prop where
  deliveries : (deliveryLinks db).map (·.1) = orderIds db
  collections : (collectionLinks db).map (fun link => (link.1, link.2.1)) =
    (deliveryLinks db).map fun link => (link.1, some link.2)
  history : forall entry, entry ∈ db.history -> entry.orderId ∈ orderIds db
  attempts : forall attempt, attempt ∈ db.attempts ->
    attempt.deliveryId ∈ (deliveryLinks db).map (·.2)
  ageEvents : forall event, event ∈ db.ageEvents -> forall deliveryId,
    event.deliveryId = some deliveryId -> deliveryId ∈ (deliveryLinks db).map (·.2)
  discrepancies : forall row, row ∈ db.discrepancies.rows -> forall collectionId,
    row.cashCollectionId = some collectionId -> collectionId ∈ (collectionLinks db).map (·.2.2)
  opened : forall row other, row ∈ db.discrepancies.rows -> other ∈ db.discrepancies.rows ->
    row.cashCollectionId.isSome = true -> row.cashCollectionId = other.cashCollectionId -> row = other

theorem Linked.deliveries_unique {db : Db} (linked : Linked db) :
    db.deliveries.Unique Delivery.orderId := by
  have same : db.deliveries.rows.map Delivery.orderId = db.orders.rows.map Order.id := by
    simpa [deliveryLinks, orderIds, Function.comp_def] using linked.deliveries
  unfold Table.Unique
  rw [same]
  exact db.orders.distinct

theorem Linked.collections_orders {db : Db} (linked : Linked db) :
    db.collections.rows.map CashCollection.orderId = db.deliveries.rows.map Delivery.orderId := by
  have firsts := congrArg (List.map Prod.fst) linked.collections
  simpa [deliveryLinks, collectionLinks, Function.comp_def] using firsts

theorem Linked.collections_deliveries {db : Db} (linked : Linked db) :
    db.collections.rows.map CashCollection.deliveryId = db.deliveries.rows.map (some ·.id) := by
  have seconds := congrArg (List.map Prod.snd) linked.collections
  simpa [deliveryLinks, collectionLinks, Function.comp_def] using seconds

theorem Linked.collections_unique {db : Db} (linked : Linked db) :
    db.collections.Unique CashCollection.orderId := by
  unfold Table.Unique
  rw [linked.collections_orders]
  exact linked.deliveries_unique

theorem Linked.collections_unique_delivery {db : Db} (linked : Linked db) :
    db.collections.Unique CashCollection.deliveryId := by
  unfold Table.Unique
  rw [linked.collections_deliveries]
  have ids := db.deliveries.distinct.map (Option.some_injective Id)
  rwa [List.map_map] at ids

theorem Linked.case_exists {db : Db} (linked : Linked db) {order : Order}
    (member : order ∈ db.orders.rows) : exists case, IsCase db order.id case /\ case.order = order := by
  have ordered : order.id ∈ orderIds db := List.mem_map_of_mem member
  have delivered := ordered
  rw [<- linked.deliveries, deliveryLinks, List.map_map, List.mem_map] at delivered
  obtain ⟨delivery, present, here⟩ := delivered
  have counted : delivery.orderId ∈ db.collections.rows.map CashCollection.orderId := by
    rw [linked.collections_orders]
    exact List.mem_map_of_mem present
  obtain ⟨collection, there, same⟩ := List.mem_map.1 counted
  simp only [Function.comp_apply] at here
  refine ⟨{
    order, delivery, collection
    discrepancy := discrepancyOf db collection.id
    history := historyOf db order.id
    attempts := attemptsOf db delivery.id
    ageEvents := ageEventsOf db delivery.id }, ?_, rfl⟩
  exact {
    order := Table.find?_of_mem member
    delivery := (Table.lookup_iff linked.deliveries_unique _ _).2 ⟨present, here⟩
    collection := (Table.lookup_iff linked.collections_unique _ _).2 ⟨there, same.trans here⟩
    discrepancy := rfl
    history := rfl
    attempts := rfl
    ageEvents := rfl }

variable {db : Db} {orderId : Id} {case : OrderCase}

theorem IsCase.order_id (is : IsCase db orderId case) : case.order.id = orderId :=
  Table.find?_key is.order

theorem IsCase.order_mem (is : IsCase db orderId case) : case.order ∈ db.orders.rows :=
  Table.find?_mem is.order

theorem IsCase.delivery_order (is : IsCase db orderId case) : case.delivery.orderId = orderId :=
  (Table.lookup_some is.delivery).2

theorem IsCase.delivery_mem (is : IsCase db orderId case) : case.delivery ∈ db.deliveries.rows :=
  (Table.lookup_some is.delivery).1

theorem IsCase.collection_order (is : IsCase db orderId case) : case.collection.orderId = orderId :=
  (Table.lookup_some is.collection).2

theorem IsCase.collection_mem (is : IsCase db orderId case) :
    case.collection ∈ db.collections.rows :=
  (Table.lookup_some is.collection).1

-- The collection of an order is the collection of its delivery.
theorem IsCase.collection_delivery (is : IsCase db orderId case) (linked : Linked db) :
    case.collection.deliveryId = some case.delivery.id := by
  have link : (case.collection.orderId, case.collection.deliveryId) ∈
      (deliveryLinks db).map fun link => (link.1, some link.2) := by
    rw [<- linked.collections, collectionLinks, List.map_map]
    exact List.mem_map.2 ⟨case.collection, is.collection_mem, rfl⟩
  simp only [deliveryLinks, List.map_map, List.mem_map, Function.comp_apply, Prod.mk.injEq] at link
  obtain ⟨delivery, present, here, there⟩ := link
  have same : db.deliveries.lookup Delivery.orderId orderId = some delivery :=
    (Table.lookup_iff linked.deliveries_unique _ _).2 ⟨present, here.trans is.collection_order⟩
  obtain rfl := Option.some.inj (is.delivery.symm.trans same)
  exact there.symm

theorem IsCase.unique {other : OrderCase} (is : IsCase db orderId case) (also : IsCase db orderId other) :
    case = other := by
  obtain ⟨order, delivery, collection, discrepancy, history, attempts, ageEvents⟩ := is
  obtain ⟨order', delivery', collection', discrepancy', history', attempts', ageEvents'⟩ := also
  cases case
  cases other
  simp only at *
  obtain rfl := Option.some.inj (order.symm.trans order')
  obtain rfl := Option.some.inj (delivery.symm.trans delivery')
  obtain rfl := Option.some.inj (collection.symm.trans collection')
  subst discrepancy discrepancy' history history' attempts attempts' ageEvents ageEvents'
  rfl

theorem Linked.case_of_delivery {delivery : Delivery} (linked : Linked db)
    (member : delivery ∈ db.deliveries.rows) :
    exists case, IsCase db delivery.orderId case /\ case.delivery = delivery := by
  have ordered : delivery.orderId ∈ orderIds db := by
    rw [<- linked.deliveries, deliveryLinks, List.map_map]
    exact List.mem_map.2 ⟨delivery, member, rfl⟩
  obtain ⟨order, present, same⟩ := List.mem_map.1 ordered
  obtain ⟨case, is, -⟩ := linked.case_exists present
  rw [same] at is
  have found := (Table.lookup_iff linked.deliveries_unique _ _).2 ⟨member, rfl⟩
  exact ⟨case, is, Option.some.inj (is.delivery.symm.trans found)⟩

theorem Linked.case_of_collection {collection : CashCollection} (linked : Linked db)
    (member : collection ∈ db.collections.rows) :
    exists case, IsCase db collection.orderId case /\ case.collection = collection := by
  have delivered : collection.orderId ∈ db.deliveries.rows.map Delivery.orderId := by
    rw [<- linked.collections_orders]
    exact List.mem_map_of_mem member
  obtain ⟨delivery, present, same⟩ := List.mem_map.1 delivered
  obtain ⟨case, is, -⟩ := linked.case_of_delivery present
  rw [same] at is
  have found := (Table.lookup_iff linked.collections_unique _ _).2 ⟨member, rfl⟩
  exact ⟨case, is, Option.some.inj (is.collection.symm.trans found)⟩

-- `next` has the case `after` where `db` has `case`, and nothing else of any other case differs.
structure Writes (db next : Db) (case after : OrderCase) : Prop where
  order : forall id, next.orders.find? id =
    if id = case.order.id then some after.order else db.orders.find? id
  delivery : forall id, next.deliveries.lookup Delivery.orderId id =
    if id = case.order.id then some after.delivery else db.deliveries.lookup Delivery.orderId id
  collection : forall id, next.collections.lookup CashCollection.orderId id =
    if id = case.order.id then some after.collection
    else db.collections.lookup CashCollection.orderId id
  discrepancy : forall id, discrepancyOf next id =
    if id = case.collection.id then after.discrepancy else discrepancyOf db id
  history : forall id, historyOf next id =
    if id = case.order.id then after.history else historyOf db id
  attempts : forall id, attemptsOf next id =
    if id = case.delivery.id then after.attempts else attemptsOf db id
  ageEvents : forall id, ageEventsOf next id =
    if id = case.delivery.id then after.ageEvents else ageEventsOf db id
  sameDelivery : after.delivery.id = case.delivery.id
  sameCollection : after.collection.id = case.collection.id
  orderIds : orderIds next = orderIds db
  deliveryLinks : deliveryLinks next = deliveryLinks db
  collectionLinks : collectionLinks next = collectionLinks db
  opened : forall row other, row ∈ next.discrepancies.rows -> other ∈ next.discrepancies.rows ->
    row.cashCollectionId.isSome = true -> row.cashCollectionId = other.cashCollectionId -> row = other

theorem unchanged_at {A : Type} {read : Id -> A} {key : Id} {value : A} (here : read key = value)
    (id : Id) : read id = if id = key then value else read id := by
  split
  next same => rw [same, here]
  next => rfl

theorem appended_at {A : Type} {rows : List A} (matching : Id -> A -> Bool) {key : Id}
    {value : List A} {row : A} (here : rows.filter (matching key) ++ [row] = value)
    (at_key : forall id, matching id row = true <-> id = key) (id : Id) :
    (rows ++ [row]).filter (matching id) = if id = key then value else rows.filter (matching id) := by
  rw [List.filter_append]
  split
  next same =>
    subst same
    simpa [(at_key id).2 rfl] using here
  next apart =>
    have miss : matching id row = false := Bool.eq_false_iff.2 fun hit => apart ((at_key id).1 hit)
    simp [miss]

theorem Writes.here {next : Db} {after : OrderCase} (is : IsCase db orderId case)
    (writes : Writes db next case after) : IsCase next orderId after where
  order := by rw [writes.order, if_pos is.order_id.symm]
  delivery := by rw [writes.delivery, if_pos is.order_id.symm]
  collection := by rw [writes.collection, if_pos is.order_id.symm]
  discrepancy := by rw [writes.discrepancy, if_pos writes.sameCollection]
  history := by rw [writes.history, if_pos is.order_id.symm]
  attempts := by rw [writes.attempts, if_pos writes.sameDelivery]
  ageEvents := by rw [writes.ageEvents, if_pos writes.sameDelivery]

theorem Writes.elsewhere {next : Db} {after other : OrderCase} {otherId : Id}
    (is : IsCase db orderId case) (writes : Writes db next case after) (apart : otherId ≠ orderId)
    (also : IsCase db otherId other) : IsCase next otherId other := by
  have delivery : other.delivery.id ≠ case.delivery.id := by
    intro same
    have row := db.deliveries.same_of_key also.delivery_mem is.delivery_mem same
    exact apart (also.delivery_order.symm.trans (row ▸ is.delivery_order))
  have collection : other.collection.id ≠ case.collection.id := by
    intro same
    have row := db.collections.same_of_key also.collection_mem is.collection_mem same
    exact apart (also.collection_order.symm.trans (row ▸ is.collection_order))
  have order : otherId ≠ case.order.id := is.order_id ▸ apart
  exact {
    order := by rw [writes.order, if_neg order, also.order]
    delivery := by rw [writes.delivery, if_neg order, also.delivery]
    collection := by rw [writes.collection, if_neg order, also.collection]
    discrepancy := by rw [writes.discrepancy, if_neg collection, also.discrepancy]
    history := by rw [writes.history, if_neg order, also.history]
    attempts := by rw [writes.attempts, if_neg delivery, also.attempts]
    ageEvents := by rw [writes.ageEvents, if_neg delivery, also.ageEvents] }

theorem Writes.trans {middle next : Db} {between after : OrderCase}
    (first : Writes db middle case between) (same : between.order.id = case.order.id)
    (second : Writes middle next between after) : Writes db next case after where
  order id := by rw [second.order, first.order, same]; split <;> rfl
  delivery id := by rw [second.delivery, first.delivery, same]; split <;> rfl
  collection id := by rw [second.collection, first.collection, same]; split <;> rfl
  discrepancy id := by rw [second.discrepancy, first.discrepancy, first.sameCollection]; split <;> rfl
  history id := by rw [second.history, first.history, same]; split <;> rfl
  attempts id := by rw [second.attempts, first.attempts, first.sameDelivery]; split <;> rfl
  ageEvents id := by rw [second.ageEvents, first.ageEvents, first.sameDelivery]; split <;> rfl
  sameDelivery := second.sameDelivery.trans first.sameDelivery
  sameCollection := second.sameCollection.trans first.sameCollection
  orderIds := second.orderIds.trans first.orderIds
  deliveryLinks := second.deliveryLinks.trans first.deliveryLinks
  collectionLinks := second.collectionLinks.trans first.collectionLinks
  opened := second.opened

theorem Writes.linked {next : Db} {after : OrderCase} (is : IsCase db orderId case)
    (writes : Writes db next case after) (linked : Linked db) : Linked next where
  deliveries := by rw [writes.deliveryLinks, writes.orderIds, linked.deliveries]
  collections := by rw [writes.collectionLinks, writes.deliveryLinks, linked.collections]
  history entry member := by
    have there : entry ∈ historyOf next entry.orderId := List.mem_filter.2 ⟨member, by simp⟩
    rw [writes.history] at there
    rw [writes.orderIds]
    split at there
    next same => rw [same]; exact List.mem_map_of_mem is.order_mem
    next => exact linked.history entry (List.mem_filter.1 there).1
  attempts attempt member := by
    have there : attempt ∈ attemptsOf next attempt.deliveryId :=
      List.mem_filter.2 ⟨member, by simp⟩
    rw [writes.attempts] at there
    rw [writes.deliveryLinks]
    split at there
    next same =>
      rw [same, Case.deliveryLinks, List.map_map]
      exact List.mem_map.2 ⟨case.delivery, is.delivery_mem, rfl⟩
    next => exact linked.attempts attempt (List.mem_filter.1 there).1
  ageEvents event member deliveryId delivered := by
    have there : event ∈ ageEventsOf next deliveryId := List.mem_filter.2 ⟨member, by simp [delivered]⟩
    rw [writes.ageEvents] at there
    rw [writes.deliveryLinks]
    split at there
    next same =>
      rw [same, Case.deliveryLinks, List.map_map]
      exact List.mem_map.2 ⟨case.delivery, is.delivery_mem, rfl⟩
    next => exact linked.ageEvents event (List.mem_filter.1 there).1 deliveryId delivered
  discrepancies row member collectionId linkedTo := by
    have found := writes.discrepancy collectionId
    rw [writes.collectionLinks]
    split at found
    next same =>
      rw [same, Case.collectionLinks, List.map_map]
      exact List.mem_map.2 ⟨case.collection, is.collection_mem, rfl⟩
    next =>
      cases before : discrepancyOf db collectionId with
      | none =>
        rw [before] at found
        exact absurd linkedTo ((Table.lookup_none _ _ _).1 found row member)
      | some old =>
        obtain ⟨present, same⟩ := Table.lookup_some before
        exact linked.discrepancies old present collectionId same
  opened := writes.opened

-- The rows of a case through an update that chooses one row of its table.
theorem IsCase.order_updated (is : IsCase db orderId case) {chosen : Order -> Bool}
    {change : Order -> Order} (keeps : forall row, (change row).id = row.id)
    (hit : chosen case.order = true)
    (only : forall other, chosen other = true -> other.id = case.order.id) (id : Id) :
    (db.orders.update chosen change keeps).find? id =
      if id = case.order.id then some (change case.order) else db.orders.find? id :=
  Table.find?_update_at is.order_mem hit only id

theorem IsCase.delivery_updated (is : IsCase db orderId case) (linked : Linked db)
    {chosen : Delivery -> Bool} {change : Delivery -> Delivery}
    (keeps : forall row, (change row).id = row.id)
    (same : forall row, (change row).orderId = row.orderId) (hit : chosen case.delivery = true)
    (only : forall other, chosen other = true -> other.id = case.delivery.id) (id : Id) :
    (db.deliveries.update chosen change keeps).lookup Delivery.orderId id =
      if id = case.order.id then some (change case.delivery)
      else db.deliveries.lookup Delivery.orderId id := by
  rw [is.order_id, <- is.delivery_order]
  exact Table.lookup_update_at linked.deliveries_unique is.delivery_mem same hit only id

theorem IsCase.collection_updated (is : IsCase db orderId case) (linked : Linked db)
    {chosen : CashCollection -> Bool} {change : CashCollection -> CashCollection}
    (keeps : forall row, (change row).id = row.id)
    (same : forall row, (change row).orderId = row.orderId) (hit : chosen case.collection = true)
    (only : forall other, chosen other = true -> other.id = case.collection.id) (id : Id) :
    (db.collections.update chosen change keeps).lookup CashCollection.orderId id =
      if id = case.order.id then some (change case.collection)
      else db.collections.lookup CashCollection.orderId id := by
  rw [is.order_id, <- is.collection_order]
  exact Table.lookup_update_at linked.collections_unique is.collection_mem same hit only id

theorem orderIds_updated (chosen : Order -> Bool) (change : Order -> Order)
    (keeps : forall row, (change row).id = row.id) :
    (db.orders.update chosen change keeps).rows.map Order.id = orderIds db := by
  simp only [Table.update_rows, orderIds]
  exact Table.map_field_rewrite _ _ _ _ keeps

theorem deliveryLinks_updated (chosen : Delivery -> Bool) (change : Delivery -> Delivery)
    (keeps : forall row, (change row).id = row.id)
    (same : forall row, (change row).orderId = row.orderId) :
    (db.deliveries.update chosen change keeps).rows.map (fun row => (row.orderId, row.id)) =
      deliveryLinks db := by
  simp only [Table.update_rows, deliveryLinks]
  exact Table.map_field_rewrite _ (fun row : Delivery => (row.orderId, row.id)) _ _
    fun row => by rw [keeps, same]

theorem collectionLinks_updated (chosen : CashCollection -> Bool)
    (change : CashCollection -> CashCollection) (keeps : forall row, (change row).id = row.id)
    (same : forall row, (change row).orderId = row.orderId)
    (delivered : forall row, (change row).deliveryId = row.deliveryId) :
    (db.collections.update chosen change keeps).rows.map
      (fun row => (row.orderId, row.deliveryId, row.id)) = collectionLinks db := by
  simp only [Table.update_rows, collectionLinks]
  exact Table.map_field_rewrite _ (fun row : CashCollection => (row.orderId, row.deliveryId, row.id)) _ _
    fun row => by rw [keeps, same, delivered]

-- What an operation leaves out of its writes stays as it was.
theorem IsCase.unwritten (is : IsCase db orderId case) (linked : Linked db) : Writes db db case case where
  order := unchanged_at (is.order_id ▸ is.order)
  delivery := unchanged_at (is.order_id ▸ is.delivery)
  collection := unchanged_at (is.order_id ▸ is.collection)
  discrepancy := unchanged_at is.discrepancy
  history := unchanged_at (is.order_id ▸ is.history)
  attempts := unchanged_at is.attempts
  ageEvents := unchanged_at is.ageEvents
  sameDelivery := rfl
  sameCollection := rfl
  orderIds := rfl
  deliveryLinks := rfl
  collectionLinks := rfl
  opened := linked.opened

end VapeCommerce.Orders.Case
