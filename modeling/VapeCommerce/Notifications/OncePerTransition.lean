import VapeCommerce.Notifications.Dispatch
import VapeCommerce.Notifications.Keys
import VapeCommerce.Notifications.Movements

set_option autoImplicit false

-- In every run each order hears once of each of its transitions, and no key is used twice.
namespace VapeCommerce.Notifications.OncePerTransition

open VapeCommerce.Lib VapeCommerce.Lib.Outcome VapeCommerce.Schema VapeCommerce.Config
open VapeCommerce.Database VapeCommerce.Orders.StateMachine VapeCommerce.Checkout.Order
open VapeCommerce.Checkout.Placement VapeCommerce.Checkout.Policy VapeCommerce.Delivery.Operations
open VapeCommerce.Cash.Operations VapeCommerce.Orders.Runs VapeCommerce.Worker.Outbox
open VapeCommerce.Notifications.OrderNotifications VapeCommerce.Notifications.Movements
open VapeCommerce.Notifications.Keys VapeCommerce.Notifications.Dispatch

-- The event an operation has for an order it leaves in this status.
def outcomeEvent (label : Label) (target : OrderStatus) : Option NotificationEvent :=
  match label.timed.op with
  | .createOrder _ =>
    if customerOrderCreatedNotificationEnabled label then some .orderReceived else none
  | .confirm _ _ _ => some .orderConfirmed
  | .terminate _ _ _ _ => some .orderCancelled
  | .cancelOrder _ _ _ => some .orderCancelled
  | .prepare _ _ _ => some .orderPreparing
  | .transition _ _ _ => notificationEventForDeliveryStatus target
  | .recordAttempt _ _ _ => notificationEventForDeliveryStatus target
  | .complete _ _ _ _ => notificationEventForDeliveryStatus target
  | .completeReturn _ _ _ _ => notificationEventForDeliveryStatus target
  | .transitionManifest _ _ _ _ => notificationEventForDeliveryStatus target
  | .importStatusCsv _ _ _ _ => notificationEventForDeliveryStatus target
  | _ => none

-- What the customer of an order is to hear of an operation that made it or moved it.
def noticeOf (db next : Db) (label : Label) (orderId : Id) : Option NotificationEvent :=
  match next.orders.find? orderId with
  | none => none
  | some row =>
    if (db.orders.find? orderId).map (·.status) = some row.status then none
    else outcomeEvent label row.status

-- The inputs for the orders an operation moves, one by one.
structure Notices (state : State) (label : Label)
    (notices : OrderStatus × Order -> List OrderNotificationInput) (move : OrderStatus × Order) :
    Prop where
  shape : (notices move).map (fun notice => (notice.order.id, notice.event)) =
    ((outcomeEvent label move.1).map fun event => (move.2.id, event)).toList
  unspent : forall notice, notice ∈ notices move -> exists discriminator : Discriminator,
    notice.discriminator = discriminator.text /\ Not (Spent move.2 discriminator) /\
      forall row : Order, row.status = move.1 -> row.version = move.2.version + 1 ->
        Spent row discriminator
  contact : forall notice, notice ∈ notices move ->
    notice.order.contact = state.contacts notice.order.id

-- The inputs of a successful operation, against the rows before and after it.
structure Announced (toLocaleLowerCase : Text -> Text) (state : State) (label : Label) (now : Int)
    (next : Db) : Prop where
  distinct : ((announcements state label now).map (·.order.id)).Nodup
  exact : forall orderId, ((announcements state label now).filter fun notice =>
      notice.order.id == orderId).map (·.event) = (noticeOf state.db next label orderId).toList
  fresh : forall notice, notice ∈ announcements state label now ->
    exists discriminator : Discriminator, notice.discriminator = discriminator.text /\
      (forall was, was ∈ state.db.orders.rows -> was.id = notice.order.id ->
        Not (Spent was discriminator)) /\
      exists row, row ∈ next.orders.rows /\ row.id = notice.order.id /\ Spent row discriminator
  contacts : forall notice, notice ∈ announcements state label now ->
    (contactsAfter state label now notice.order.id).email toLocaleLowerCase ≠ [] ->
      notice.order.contact.email toLocaleLowerCase =
        (contactsAfter state label now notice.order.id).email toLocaleLowerCase

section Moves

variable {state : State} {label : Label} {notices : OrderStatus × Order -> List OrderNotificationInput}
  {moves : List (OrderStatus × Order)}

theorem Notices.order {move : OrderStatus × Order} (noticed : Notices state label notices move)
    {notice : OrderNotificationInput} (member : notice ∈ notices move) :
    notice.order.id = move.2.id := by
  have there : (notice.order.id, notice.event) ∈
      ((outcomeEvent label move.1).map fun event => (move.2.id, event)).toList :=
    noticed.shape ▸ List.mem_map_of_mem member
  rw [Option.mem_toList, Option.map_eq_some_iff] at there
  obtain ⟨event, -, same⟩ := there
  exact (Prod.mk.inj same).1.symm

theorem notices_orders (each : forall move, move ∈ moves -> Notices state label notices move) :
    ((moves.flatMap notices).map (·.order.id)).Sublist (moves.map fun move => move.2.id) := by
  induction moves with
  | nil => exact List.Sublist.refl _
  | cons move rest ih =>
    have ids := congrArg (List.map Prod.fst) (each move List.mem_cons_self).shape
    have here : ((notices move).map (·.order.id)).Sublist [move.2.id] := by
      rw [List.map_map] at ids
      rw [show (notices move).map (·.order.id) = _ from ids]
      cases outcomeEvent label move.1 <;> simp
    have later := ih fun other member => each other (List.mem_cons_of_mem _ member)
    rw [List.flatMap_cons, List.map_append, List.map_cons]
    exact here.append later

theorem notices_at (each : forall move, move ∈ moves -> Notices state label notices move)
    (distinct : (moves.map fun move => move.2.id).Nodup) (orderId : Id) :
    ((moves.flatMap notices).filter fun notice => notice.order.id == orderId).map (·.event) =
      ((moves.find? fun move => move.2.id == orderId).bind fun move =>
        outcomeEvent label move.1).toList := by
  induction moves with
  | nil => rfl
  | cons move rest ih =>
    have noticed := each move List.mem_cons_self
    have later := ih (fun other member => each other (List.mem_cons_of_mem _ member))
      (List.nodup_cons.1 distinct).2
    rw [List.flatMap_cons, List.filter_append, List.map_append, List.find?_cons]
    by_cases here : move.2.id = orderId
    next =>
      have kept : ((notices move).filter fun notice => notice.order.id == orderId) = notices move :=
        List.filter_eq_self.2 fun notice member => by simp [noticed.order member, here]
      have events := congrArg (List.map Prod.snd) noticed.shape
      have absent : (rest.find? fun other => other.2.id == orderId) = none := by
        refine List.find?_eq_none.2 fun other member same => ?_
        refine (List.nodup_cons.1 distinct).1 (List.mem_map.2 ⟨other, member, ?_⟩)
        exact (beq_iff_eq.1 same).trans here.symm
      rw [later, absent, kept]
      rw [List.map_map] at events
      rw [show (notices move).map (·.event) = _ from events]
      simp only [here, beq_self_eq_true, Option.bind_some, Option.bind_none]
      cases outcomeEvent label move.1 <;> simp
    next =>
      have none : ((notices move).filter fun notice => notice.order.id == orderId) = [] :=
        List.filter_eq_nil_iff.2 fun notice member => by simp [noticed.order member, here]
      have miss : (move.2.id == orderId) = false := by simp [here]
      rw [none, List.map_nil, List.nil_append, later, miss]

-- The orders an operation moved are the ones that hear of it.
theorem noticeOf_moved {db next : Db} (moved : MovedBy db next moves) (orderId : Id) :
    noticeOf db next label orderId =
      (moves.find? fun move => move.2.id == orderId).bind fun move => outcomeEvent label move.1 := by
  unfold noticeOf
  cases found : moves.find? fun move => move.2.id == orderId with
  | none =>
    have apart : Not (orderId ∈ moves.map fun move => move.2.id) := fun present => by
      obtain ⟨move, member, same⟩ := List.mem_map.1 present
      exact absurd (List.find?_eq_none.1 found move member) (by simp [same])
    rw [moved.others orderId apart]
    cases db.orders.find? orderId <;> simp
  | some move =>
    have member := List.mem_of_find?_eq_some found
    have here : move.2.id = orderId := by simpa using List.find?_some found
    obtain ⟨row, there, status, -⟩ := moved.moved move member
    have known := moved.known move member
    rw [here] at there known
    have away : some move.2.status ≠ some move.1 := fun same =>
      moved.away move member (Option.some.inj same)
    simp only [there, known, Option.map_some, status, if_neg away, Option.bind_some]

theorem announced_of_moves (toLocaleLowerCase : Text -> Text) {now : Int} {next : Db}
    (moved : MovedBy state.db next moves)
    (listed : announcements state label now = moves.flatMap notices)
    (each : forall move, move ∈ moves -> Notices state label notices move)
    (kept : contactsAfter state label now = state.contacts) :
    Announced toLocaleLowerCase state label now next where
  distinct := by
    rw [listed]
    exact moved.distinct.sublist (notices_orders each)
  exact orderId := by
    rw [listed, notices_at each moved.distinct, noticeOf_moved moved]
  fresh notice member := by
    rw [listed] at member
    obtain ⟨move, there, here⟩ := List.mem_flatMap.1 member
    obtain ⟨discriminator, text, unspent, spent⟩ := (each move there).unspent notice here
    have order := (each move there).order here
    refine ⟨discriminator, text, fun was present same => ?_, ?_⟩
    next =>
      have found := Table.find?_of_mem present
      rw [show was.id = move.2.id from same.trans order, moved.known move there] at found
      obtain rfl := Option.some.inj found
      exact unspent
    next =>
      obtain ⟨row, found, status, version⟩ := moved.moved move there
      exact ⟨row, Table.find?_mem found, (Table.find?_key found).trans order.symm,
        spent row status version⟩
  contacts notice member _ := by
    rw [listed] at member
    obtain ⟨move, there, here⟩ := List.mem_flatMap.1 member
    rw [kept, (each move there).contact notice here]

theorem createNotification_notices (now : Int) {event : NotificationEvent} {target : OrderStatus}
    {order : Order} (told : outcomeEvent label target = some event)
    (unspent : Not (Spent order (.event event)))
    (spent : forall row : Order, row.status = target -> Spent row (.event event)) :
    Notices state label (fun move => [createNotification state now event move.2]) (target, order) where
  shape := by rw [told]; rfl
  unspent notice member := by
    rw [List.mem_singleton.1 member]
    exact ⟨.event event, rfl, unspent, fun row status _ => spent row status⟩
  contact notice member := by rw [List.mem_singleton.1 member]; rfl

theorem recordTransition_notices (now : Int) {target : DeliveryStatus} {order : Order}
    (told : outcomeEvent label target = notificationEventForDeliveryStatus target) :
    Notices state label (fun move => recordTransition state now move.1 move.2) (target, order) where
  shape := by
    rw [told]
    unfold recordTransition
    split
    next silent => simp only [silent]; rfl
    next event found => simp only [found]; rfl
  unspent notice member := by
    unfold recordTransition at member
    split at member
    next => simp at member
    next =>
      rw [List.mem_singleton.1 member]
      exact ⟨.transition target (order.version + 1), rfl, Nat.not_succ_le_self _,
        fun row _ version => version.ge⟩
  contact notice member := by
    unfold recordTransition at member
    split at member
    next => simp at member
    next => rw [List.mem_singleton.1 member]; rfl

end Moves

section Operations

variable (toLocaleLowerCase : Text -> Text) {state : State} {label : Label} {now : Int} {next : Db}

theorem announced_silent (silent : announcements state label now = [])
    (untold : forall target, outcomeEvent label target = none) :
    Announced toLocaleLowerCase state label now next where
  distinct := by rw [silent]; exact List.nodup_nil
  exact orderId := by
    rw [silent]
    unfold noticeOf
    split
    next => rfl
    next =>
      split
      next => rfl
      next => rw [untold]; rfl
  fresh notice member := by simp [silent] at member
  contacts notice member := by simp [silent] at member

theorem create_placed {db : Db} {call : CheckoutCall} {orderId : Id}
    (ran : Checkout.Order.create db call now = .ok (next, orderId)) :
    (placement? db call now = none /\ next = db) \/
      exists placement, placement? db call now = some placement /\ Placed db next placement := by
  simp only [Checkout.Order.create, bind_ok, pure_ok, Prod.mk.injEq] at ran
  obtain ⟨keyHash, admitted, result, created, after, finished, rfl, -⟩ := ran
  cases result with
  | replayed orderId =>
    obtain rfl := Except.ok.inj finished
    exact .inl ⟨by rw [placement?, ok_of_bind admitted, created], rfl⟩
  | placed placement =>
    exact .inr ⟨placement, by rw [placement?, ok_of_bind admitted, created], place_placed finished⟩

theorem announced_placed {call : CheckoutCall} {placement : Placement}
    (only : announcements state label now =
      [orderReceived state.db label call now placement.order])
    (contacts : contactsAfter state label now placement.order.id = {
      customerEmailSnapshot := (customerEmail call label).filter fun email => email ≠ []
      customerPhoneSnapshot := call.input.phone })
    (placed : Placed state.db next placement)
    (told : forall target, outcomeEvent label target = some .orderReceived) :
    Announced toLocaleLowerCase state label now next where
  distinct := by simp [only]
  exact orderId := by
    rw [only]
    unfold noticeOf
    rw [Table.find?_insert? placed.orders]
    by_cases here : placement.order.id = orderId
    next =>
      have absent : state.db.orders.find? orderId = none :=
        (Table.find?_none _ _).2 fun row member => here ▸ (Table.insert?_rows placed.orders).2 row member
      simp [here, absent, told, orderReceived]
    next =>
      cases state.db.orders.find? orderId <;> simp [here, orderReceived]
  fresh notice member := by
    rw [only, List.mem_singleton] at member
    subst member
    refine ⟨.event .orderReceived, ?_, fun was there same => ?_, placement.order, ?_, rfl, trivial⟩
    next =>
      simp only [OrderNotificationInput.discriminator, orderReceived, Discriminator.text,
        Option.getD_none]
    next => exact absurd same ((Table.insert?_rows placed.orders).2 was there)
    next => rw [(Table.insert?_rows placed.orders).1]; simp
  contacts notice member addressed := by
    rw [only, List.mem_singleton] at member
    subst member
    simp only [orderReceived, contacts, Contact.email] at addressed ⊢
    cases given : customerEmail call label with
    | none => rfl
    | some email =>
      rw [given] at addressed
      by_cases blank : email = []
      next => simp [blank, Option.filter] at addressed
      next => simp [Option.filter, blank]

-- A replayed call says nothing; a new order is announced if the store asks for it.
theorem announced_created {call : CheckoutCall} {orderId : Id} (op : label.timed.op = .createOrder call)
    (ran : Checkout.Order.create state.db call now = .ok (next, orderId)) :
    Announced toLocaleLowerCase state label now next := by
  have told : forall target, outcomeEvent label target =
      if customerOrderCreatedNotificationEnabled label then some .orderReceived else none := by
    intro target
    simp only [outcomeEvent, op]
  have listed : announcements state label now =
      if customerOrderCreatedNotificationEnabled label then
        (placement? state.db call now).toList.map fun placement =>
          orderReceived state.db label call now placement.order
      else [] := by
    simp only [announcements, op]
  rcases create_placed ran with ⟨none, rfl⟩ | ⟨placement, found, placed⟩
  next =>
    have silent : announcements state label now = [] := by simp [listed, none]
    refine ⟨by simp [silent], fun orderId => ?_, by simp [silent], by simp [silent]⟩
    rw [silent]
    unfold noticeOf
    cases state.db.orders.find? orderId <;> simp
  next =>
    by_cases enabled : customerOrderCreatedNotificationEnabled label = true
    next =>
      have only : announcements state label now =
          [orderReceived state.db label call now placement.order] := by
        simp [listed, enabled, found]
      have contacts : contactsAfter state label now placement.order.id = {
          customerEmailSnapshot := (customerEmail call label).filter fun email => email ≠ []
          customerPhoneSnapshot := call.input.phone } := by
        simp [contactsAfter, op, found]
      exact announced_placed toLocaleLowerCase only contacts placed fun target => by
        rw [told, if_pos enabled]
    next =>
      refine announced_silent toLocaleLowerCase (by simp [listed, enabled]) fun target => ?_
      rw [told, if_neg enabled]

theorem announced_one {notices : OrderStatus × Order -> List OrderNotificationInput}
    {move : OrderStatus × Order} (moved : MovedBy state.db next [move])
    (listed : announcements state label now = notices move)
    (noticed : Notices state label notices move)
    (kept : contactsAfter state label now = state.contacts) :
    Announced toLocaleLowerCase state label now next :=
  announced_of_moves toLocaleLowerCase moved (by simpa using listed)
    (fun other member => List.mem_singleton.1 member ▸ noticed) kept

-- A move among several of a loop that all go to operational statuses.
theorem announced_loop {moves : List (OrderStatus × Order)} (moved : MovedBy state.db next moves)
    (listed : announcements state label now =
      moves.flatMap fun move => recordTransition state now move.1 move.2)
    (told : forall target, outcomeEvent label target = notificationEventForDeliveryStatus target)
    (kept : contactsAfter state label now = state.contacts) :
    Announced toLocaleLowerCase state label now next :=
  announced_of_moves toLocaleLowerCase moved listed
    (fun move _ => recordTransition_notices now (told move.1)) kept

theorem exec_announced (ran : System.exec state.db now label.timed.op = .ok next) :
    Announced toLocaleLowerCase state label now next := by
  obtain ⟨⟨elapsed, op⟩, accountEmail, createdSetting, smsSetting⟩ := label
  cases op with
  | createOrder call =>
    obtain ⟨⟨after, orderId⟩, created, rfl⟩ := (map_ok _ _ _).1 ran
    exact announced_created toLocaleLowerCase rfl created
  | confirm id version actor =>
    obtain ⟨order, locked, pending, moved⟩ := confirm_moves ran
    refine announced_one toLocaleLowerCase moved (by simp only [announcements, locked]; rfl)
      (createNotification_notices now rfl (fun spent => spent pending) fun row status => ?_) rfl
    rw [Spent, status]
    decide
  | terminate disposition id version actor =>
    obtain ⟨order, locked, moved⟩ := terminate_moves ran
    exact announced_one toLocaleLowerCase moved (by simp only [announcements, locked]; rfl)
      (createNotification_notices now rfl (moved.away _ List.mem_cons_self) fun row status => status) rfl
  | prepare id version actor =>
    obtain ⟨order, locked, confirmed, moved⟩ := prepare_moves ran
    refine announced_one toLocaleLowerCase moved (by simp only [announcements, locked]; rfl)
      (createNotification_notices now rfl (fun spent => spent ?_) fun row status => ?_) rfl
    next => rw [confirmed]; decide
    next => rw [Spent, status]; decide
  | cancelOrder userId orderNumber version =>
    obtain ⟨order, locked, moved⟩ := cancel_moves ran
    exact announced_one toLocaleLowerCase moved (by simp only [announcements, locked]; rfl)
      (createNotification_notices now rfl (moved.away _ List.mem_cons_self) fun row status => status) rfl
  | transition id input actor =>
    obtain ⟨order, locked, moved⟩ := transition_moves ran
    exact announced_loop toLocaleLowerCase moved (by simp [announcements, locked]) (fun _ => rfl) rfl
  | recordAttempt id input actor =>
    obtain ⟨order, locked, moved⟩ := recordAttempt_moves ran
    exact announced_loop toLocaleLowerCase moved (by simp [announcements, locked]) (fun _ => rfl) rfl
  | complete id version ageResult actor =>
    obtain ⟨order, locked, moved⟩ := complete_moves ran
    exact announced_loop toLocaleLowerCase moved (by simp [announcements, locked]) (fun _ => rfl) rfl
  | completeReturn id version reason actor =>
    obtain ⟨order, locked, moved⟩ := completeReturn_moves ran
    exact announced_loop toLocaleLowerCase moved (by simp [announcements, locked]) (fun _ => rfl) rfl
  | transitionManifest id expected target actor =>
    exact announced_loop toLocaleLowerCase (transitionManifest_moves ran)
      (by simp only [announcements, List.flatMap_map]) (fun _ => rfl) rfl
  | importStatusCsv key dryRun file actor =>
    obtain ⟨⟨after, record⟩, imported, rfl⟩ := (map_ok _ _ _).1 ran
    exact announced_loop toLocaleLowerCase (importStatusCsv_moves imported) rfl (fun _ => rfl) rfl
  | _ => exact announced_silent toLocaleLowerCase rfl fun _ => rfl

end Operations

section Writing

variable (toLocaleLowerCase : Text -> Text) {state : State} {label : Label} {now : Int} {next : Db}

-- Every key in use belongs to an order that is past the step that uses it.
structure Kept (state : State) : Prop where
  sums : Sums state.db
  paired : Paired state.outgoing
  used : forall row, row ∈ state.outgoing.notifications.rows -> exists order discriminator,
    order ∈ state.db.orders.rows /\ order.id = row.orderId /\ Spent order discriminator /\
      row.idempotencyKey = idempotencyKey row.orderId discriminator.text row.channel

theorem channelInputs_mem {setting : Option JsonValue} {notice : OrderNotificationInput}
    {data : NotificationCreateInput} (member : data ∈ channelInputs toLocaleLowerCase setting notice) :
    data.orderId = notice.order.id /\
      data.idempotencyKey = idempotencyKey notice.order.id notice.discriminator data.channel := by
  unfold channelInputs at member
  rcases List.mem_append.1 member with emailed | texted
  next =>
    split at emailed
    next => rw [List.mem_singleton.1 emailed]; exact ⟨rfl, rfl⟩
    next => simp at emailed
  next =>
    split at texted
    next => rw [List.mem_singleton.1 texted]; exact ⟨rfl, rfl⟩
    next => simp at texted

theorem channelInputs_distinct (setting : Option JsonValue) {notice : OrderNotificationInput}
    {discriminator : Discriminator} (text : notice.discriminator = discriminator.text) :
    ((channelInputs toLocaleLowerCase setting notice).map (·.idempotencyKey)).Nodup := by
  have apart : (createInput notice .email (notice.order.contact.email toLocaleLowerCase)).idempotencyKey ≠
      (createInput notice .sms notice.order.contact.customerPhoneSnapshot).idempotencyKey := by
    intro same
    simp only [createInput, text] at same
    exact absurd (idempotencyKey_injective same).2.2 (by decide)
  unfold channelInputs
  split <;> split <;> simp [apart]

-- The keys that an operation asks for are new, and differ from one another.
theorem announced_keys (kept : Kept state)
    (announced : Announced toLocaleLowerCase state label now next) (setting : Option JsonValue) :
    (keys state.outgoing ++ ((announcements state label now).flatMap
      (channelInputs toLocaleLowerCase setting)).map (·.idempotencyKey)).Nodup := by
  refine List.Nodup.append kept.paired.distinct ?_ fun key old added => ?_
  next =>
    rw [List.map_flatMap, List.nodup_flatMap]
    refine ⟨fun notice member => ?_, ?_⟩
    next =>
      obtain ⟨discriminator, text, -⟩ := announced.fresh notice member
      exact channelInputs_distinct toLocaleLowerCase setting text
    next =>
      have ids : (announcements state label now).Pairwise fun one two => one.order.id ≠ two.order.id :=
        List.pairwise_map.1 announced.distinct
      refine ids.imp_of_mem fun {one two} first second apart key here there => apart ?_
      obtain ⟨data, member, rfl⟩ := List.mem_map.1 here
      obtain ⟨other, also, same⟩ := List.mem_map.1 there
      obtain ⟨discriminator, text, -⟩ := announced.fresh one first
      obtain ⟨further, further_text, -⟩ := announced.fresh two second
      rw [(channelInputs_mem toLocaleLowerCase member).2, (channelInputs_mem toLocaleLowerCase also).2,
        text, further_text] at same
      exact (idempotencyKey_injective same).1.symm
  next =>
    obtain ⟨row, member, rfl⟩ := List.mem_map.1 old
    obtain ⟨data, there, same⟩ := List.mem_map.1 added
    obtain ⟨notice, listed, here⟩ := List.mem_flatMap.1 there
    obtain ⟨order, used, present, owner, spent, spelt⟩ := kept.used row member
    obtain ⟨discriminator, text, unspent, -⟩ := announced.fresh notice listed
    simp only [(channelInputs_mem toLocaleLowerCase here).2, spelt, text] at same
    obtain ⟨orderId, rfl, -⟩ := idempotencyKey_injective same
    exact unspent order present (owner.trans orderId.symm) spent

-- The e-mails among the rows for an order that has an address.
theorem channelInputs_emails (setting : Option JsonValue) {notices : List OrderNotificationInput}
    {orderId : Id} {email : Text} (addressed : email ≠ [])
    (reached : forall notice, notice ∈ notices -> notice.order.id = orderId ->
      notice.order.contact.email toLocaleLowerCase = email) :
    ((notices.flatMap (channelInputs toLocaleLowerCase setting)).filter fun data =>
        data.orderId == orderId && data.channel == .email).map (fun data => (data.event, data.recipient)) =
      ((notices.filter fun notice => notice.order.id == orderId).map (·.event)).map
        fun event => (event, email) := by
  induction notices with
  | nil => rfl
  | cons notice rest ih =>
    have later := ih fun other member => reached other (List.mem_cons_of_mem _ member)
    rw [List.flatMap_cons, List.filter_append, List.map_append, later]
    by_cases here : notice.order.id = orderId
    next =>
      have address := reached notice List.mem_cons_self here
      have first : ((channelInputs toLocaleLowerCase setting notice).filter fun data =>
          data.orderId == orderId && data.channel == .email) = [createInput notice .email email] := by
        unfold channelInputs
        rw [address, if_pos addressed]
        split <;> simp [createInput, here]
      rw [first, List.filter_cons_of_pos (by simpa using here)]
      rfl
    next =>
      have none : ((channelInputs toLocaleLowerCase setting notice).filter fun data =>
          data.orderId == orderId && data.channel == .email) = [] := by
        refine List.filter_eq_nil_iff.2 fun data member => ?_
        simp [(channelInputs_mem toLocaleLowerCase member).1, here]
      rw [none, List.filter_cons_of_neg (by simpa using here)]
      rfl

theorem used_onward (kept : Kept state) (ran : System.exec state.db now label.timed.op = .ok next)
    {row : Notification} (member : row ∈ state.outgoing.notifications.rows) :
    exists order discriminator, order ∈ next.orders.rows /\ order.id = row.orderId /\
      Spent order discriminator /\
        row.idempotencyKey = idempotencyKey row.orderId discriminator.text row.channel := by
  obtain ⟨was, discriminator, present, owner, spent, spelt⟩ := kept.used row member
  obtain ⟨order, there, same, onward⟩ := exec_spent kept.sums ran present
  exact ⟨order, discriminator, there, same.trans owner, onward discriminator spent, spelt⟩

theorem used_created (announced : Announced toLocaleLowerCase state label now next)
    {setting : Option JsonValue} {row : Notification}
    (member : row.toNotificationCreateInput ∈
      (announcements state label now).flatMap (channelInputs toLocaleLowerCase setting)) :
    exists order discriminator, order ∈ next.orders.rows /\ order.id = row.orderId /\
      Spent order discriminator /\
        row.idempotencyKey = idempotencyKey row.orderId discriminator.text row.channel := by
  obtain ⟨notice, listed, here⟩ := List.mem_flatMap.1 member
  obtain ⟨owner, spelt⟩ := channelInputs_mem toLocaleLowerCase here
  obtain ⟨discriminator, text, -, order, there, same, spent⟩ := announced.fresh notice listed
  exact ⟨order, discriminator, there, same.trans owner.symm, spent, by rw [spelt, text, owner]⟩

-- The rows a successful operation adds, and what they say to each order with an address.
structure NotifiesOnce (state : State) (label : Label) (after : State) (created : List Notification)
    (sent : List OutboxEvent) : Prop where
  notifications : after.outgoing.notifications.rows = state.outgoing.notifications.rows ++ created
  events : after.outgoing.events.rows = state.outgoing.events.rows ++ sent
  distinct : (after.outgoing.notifications.rows.map (·.idempotencyKey)).Nodup
  pointing : forall row, row ∈ created -> exists event, event ∈ sent /\
    (after.outgoing.events.filter fun event => decide (event.aggregateId = row.id)) = [event]
  emails : forall orderId, (after.contacts orderId).email toLocaleLowerCase ≠ [] ->
    (created.filter fun row => row.orderId == orderId && row.channel == .email).map
        (fun row => (row.event, row.recipient)) =
      ((noticeOf state.db after.db label orderId).map fun event =>
        (event, (after.contacts orderId).email toLocaleLowerCase)).toList

-- An operation that succeeds on the other rows succeeds, and one that fails leaves no notification.
def Answers (state : State) (label : Label) : Prop :=
  match System.exec state.db (state.now + label.timed.elapsed) label.timed.op with
  | .error _ => (step toLocaleLowerCase state label).outgoing = state.outgoing
  | .ok next => exists created sent, exec toLocaleLowerCase state label =
      .ok (step toLocaleLowerCase state label) /\ (step toLocaleLowerCase state label).db = next /\
      NotifiesOnce toLocaleLowerCase state label (step toLocaleLowerCase state label) created sent

theorem exec_runs (kept : Kept state)
    (ran : System.exec state.db (state.now + label.timed.elapsed) label.timed.op = .ok next) :
    exists after created sent, exec toLocaleLowerCase state label = .ok after /\ after.db = next /\
      Kept after /\ NotifiesOnce toLocaleLowerCase state label after created sent := by
  have announced := exec_announced toLocaleLowerCase ran
  obtain ⟨outgoing, created, sent, writes, paired, adds⟩ := writes_run kept.paired
    (announced_keys toLocaleLowerCase kept announced label.customerOrderSmsSetting)
  have executed : exec toLocaleLowerCase state label = .ok {
      now := state.now + label.timed.elapsed
      db := next
      contacts := contactsAfter state label (state.now + label.timed.elapsed)
      outgoing } := by
    unfold exec
    rw [ok_of_bind ran, announce_writes, ok_of_bind writes]
    rfl
  refine ⟨_, created, sent, executed, rfl, ?_, ?_⟩
  next =>
    refine { sums := (exec_sums kept.sums ran).1, paired, used := fun row member => ?_ }
    rw [adds.notifications] at member
    rcases List.mem_append.1 member with old | added
    next => exact used_onward kept ran old
    next => exact used_created toLocaleLowerCase announced (adds.written ▸ List.mem_map_of_mem added)
  next =>
    refine ⟨adds.notifications, adds.events, paired.distinct, fun row member => ?_,
      fun orderId addressed => ?_⟩
    next =>
      have there : row.id ∈ sent.map (·.aggregateId) := adds.pointing ▸ List.mem_map_of_mem member
      obtain ⟨event, among, points⟩ := List.mem_map.1 there
      have known : row ∈ outgoing.notifications.rows := by
        rw [adds.notifications]
        exact List.mem_append_right _ member
      obtain ⟨only, -, single⟩ := paired.single known
      have found : event ∈ outgoing.events.filter fun event => decide (event.aggregateId = row.id) := by
        refine List.mem_filter.2 ⟨?_, decide_eq_true points⟩
        rw [adds.events]
        exact List.mem_append_right _ among
      rw [single, List.mem_singleton] at found
      exact ⟨event, among, found ▸ single⟩
    next =>
      have reached : forall notice,
          notice ∈ announcements state label (state.now + label.timed.elapsed) ->
          notice.order.id = orderId -> notice.order.contact.email toLocaleLowerCase =
            (contactsAfter state label (state.now + label.timed.elapsed) orderId).email
              toLocaleLowerCase := by
        rintro notice member rfl
        exact announced.contacts notice member addressed
      have rows :=
        channelInputs_emails toLocaleLowerCase label.customerOrderSmsSetting addressed reached
      rw [announced.exact, <- adds.written, List.filter_map, List.map_map] at rows
      rw [Option.toList_map]
      exact rows

end Writing

section Runs

variable (toLocaleLowerCase : Text -> Text)

theorem step_of_exec {state after : State} {label : Label}
    (executed : exec toLocaleLowerCase state label = .ok after) :
    step toLocaleLowerCase state label = after := by
  simp [step, executed, succeeded]

theorem step_of_failure {state : State} {label : Label} {failure : Failure}
    (failed : System.exec state.db (state.now + label.timed.elapsed) label.timed.op = .error failure) :
    step toLocaleLowerCase state label = { state with now := state.now + label.timed.elapsed } := by
  have error : exec toLocaleLowerCase state label = .error failure := by
    simp only [exec, failed]
    rfl
  simp [step, error, succeeded]

theorem step_kept (state : State) (label : Label) (kept : Kept state) :
    Kept (step toLocaleLowerCase state label) := by
  cases ran : System.exec state.db (state.now + label.timed.elapsed) label.timed.op with
  | error failure =>
    rw [step_of_failure toLocaleLowerCase ran]
    exact ⟨kept.sums, kept.paired, kept.used⟩
  | ok next =>
    obtain ⟨after, created, sent, executed, -, later, -⟩ := exec_runs toLocaleLowerCase kept ran
    exact step_of_exec toLocaleLowerCase executed ▸ later

theorem opening_kept (config : Configuration) (orderSequence : Option Int) (start : Int) :
    Kept (opening config orderSequence start) where
  sums := empty_sums config orderSequence
  paired := ⟨List.nodup_nil, rfl⟩
  used row member := by simp [opening] at member

-- The notifications never stop an operation, so the other rows run as they do without them.
theorem step_refines (state : State) (label : Label) (kept : Kept state) :
    (step toLocaleLowerCase state label).clocked = System.step state.clocked label.timed := by
  unfold System.step
  cases ran : System.exec state.db (state.now + label.timed.elapsed) label.timed.op with
  | error failure =>
    rw [step_of_failure toLocaleLowerCase ran]
    simp [State.clocked, ran, succeeded]
  | ok next =>
    obtain ⟨after, created, sent, executed, rows, -⟩ := exec_runs toLocaleLowerCase kept ran
    rw [step_of_exec toLocaleLowerCase executed]
    simp only [exec, ok_of_bind ran, bind_ok, pure_ok] at executed
    obtain ⟨outgoing, -, rfl⟩ := executed
    simp [State.clocked, ran, succeeded]

/-- In every run the other rows and the clock are those of the run without notifications. -/
theorem run_refines (config : Configuration) (orderSequence : Option Int) (start : Int)
    (labels : List Label) :
    (Runs.run (step toLocaleLowerCase) (opening config orderSequence start) labels).clocked =
      Runs.run System.step (System.opening config orderSequence start) (labels.map (·.timed)) := by
  induction labels using List.reverseRecOn with
  | nil => rfl
  | append_singleton labels label ih =>
    have kept := Runs.run_keeps (step_kept toLocaleLowerCase)
      (opening_kept config orderSequence start) labels
    rw [Runs.run_append, List.map_append, Runs.run_append, <- ih]
    exact step_refines toLocaleLowerCase _ label kept

/-- Throughout every run, an operation that succeeds on the orders also writes its notifications: each
order it made or moved, and that has an address, gets one e-mail for the event of its new status, no
other order gets any, every key is new, and one event points at each notification. An operation that
fails writes none. -/
theorem one_notification_per_transition (config : Configuration) (orderSequence : Option Int)
    (start : Int) (labels : List Label) (label : Label) :
    Answers toLocaleLowerCase
      (Runs.run (step toLocaleLowerCase) (opening config orderSequence start) labels) label := by
  have kept := Runs.run_keeps (step_kept toLocaleLowerCase)
    (opening_kept config orderSequence start) labels
  unfold Answers
  cases ran : System.exec _ _ label.timed.op with
  | error failure => rw [step_of_failure toLocaleLowerCase ran]
  | ok next =>
    obtain ⟨after, created, sent, executed, rows, -, once⟩ := exec_runs toLocaleLowerCase kept ran
    rw [step_of_exec toLocaleLowerCase executed]
    exact ⟨created, sent, executed, rows, once⟩

end Runs

-- An order on its way, of a customer whose account has an address.
example :
    ((Runs.run (step id) (opening System.Sample.shop (some 0) 0)
      (System.Sample.dispatched.map fun op => {
        timed := { elapsed := 1, op }
        accountEmail := some ['a']
        customerOrderCreatedSetting := none
        customerOrderSmsSetting := none })).outgoing.notifications.rows.map (·.event)) =
    [.orderReceived, .orderConfirmed, .orderPreparing, .handedToCourier, .outForDelivery] := by
  decide +kernel

end VapeCommerce.Notifications.OncePerTransition
