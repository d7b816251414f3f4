import VapeCommerce.Lib.Locking
import VapeCommerce.Access.Customers
import VapeCommerce.Orders.Origins

set_option autoImplicit false

-- Customer accounts beside the shop: what an anonymized customer's orders can still do.
namespace VapeCommerce.Access.Anonymization

open VapeCommerce.Lib VapeCommerce.Lib.Locking VapeCommerce.Lib.Outcome VapeCommerce.Schema
open VapeCommerce.Config VapeCommerce.Database VapeCommerce.Checkout.Order
open VapeCommerce.Checkout.Placement VapeCommerce.Access.Users VapeCommerce.Access.Customers
open VapeCommerce.Delivery.Admin VapeCommerce.Cash.Operations VapeCommerce.Orders.StateMachine VapeCommerce.Orders.Admin
open VapeCommerce.Orders.Case VapeCommerce.Orders.Progress VapeCommerce.Orders.Transactions
open VapeCommerce.Orders.Runs VapeCommerce.Orders.Origins
open VapeCommerce.System (Clocked Timed Op exec)

structure Premises where
  clock : Clocked
  accounts : Accounts

-- The customer as checkout reads it, with the state its account is in now.
def customerUser (customers : Table CustomerAccount.id) (row : CustomerUser) : Option CustomerUser :=
  ((customers.find? row.profileId).filter fun account =>
    account.user.id == row.id && account.user.audience == .customer).map fun account =>
      { row with
        active := account.user.status == .active
        deletedAt := account.user.deletedAt
        suspendedAt := account.suspendedAt
        anonymizedAt := account.anonymizedAt }

def Premises.db (premises : Premises) : Db :=
  { premises.clock.db with
    config := { premises.clock.db.config with
      customers := premises.clock.db.config.customers.filterMap
        (customerUser premises.accounts.customers) } }

def Premises.operate (premises : Premises) (label : Timed) : Premises :=
  { premises with clock := System.step { premises.clock with db := premises.db } label }

def activeOrderCount (db : Db) (customerId : Id) : Nat :=
  db.orders.rows.countP fun order =>
    order.customerId == customerId && !decide (order.status ∈ finishedOrderStatuses)

variable (rules : TextRules)

-- The account services lock the role's row first; the shop's operations never take that lock.
def system : Locking.System Premises Call Timed where
  plan := fun _ => System.lockFirst
  work := fun call snapshot current =>
    (succeeded (call.run rules (activeOrderCount snapshot.db) snapshot.accounts current.accounts)).map
      fun accounts => { current with accounts }
  outside := fun label premises => premises.operate label

def opening (config : Configuration) (orderSequence : Option Int) (now : Int) (accounts : Accounts) :
    Premises where
  clock := System.opening config orderSequence now
  accounts := accounts

def Finished (premises : Premises) (customerId : Id) : Prop :=
  forall order, order ∈ premises.db.orders.rows -> order.customerId = customerId ->
    order.status ∈ finishedOrderStatuses

-- Every order of an anonymized customer is in a status the anonymization treats as finished.
def NoLiveOrder (premises : Premises) : Prop :=
  forall account, account ∈ premises.accounts.customers.rows -> account.user.status = .anonymized ->
    Finished premises account.id

-- No operation sends an order of an anonymized customer back to its sender, and no anonymization
-- commits while an order of its customer is on the way back.
def Settles (state : State Premises Call) : Locking.Label Call Timed -> Prop
  | .outside label =>
    forall account, account ∈ state.committed.accounts.customers.rows ->
      account.user.status = .anonymized ->
      forall order, order ∈ state.committed.db.orders.rows -> order.customerId = account.id ->
        Not (acts state.committed.db label.op order.id (.transitioned .returnToSender))
  | .advance id =>
    forall transaction, state.active id = some transaction -> transaction.rest = [.work] ->
      forall customerId input actorUserId now,
        transaction.call = .anonymize customerId input actorUserId now ->
        forall order, order ∈ state.committed.db.orders.rows -> order.customerId = customerId ->
          order.status ≠ .returnToSender
  | _ => True

variable {rules}

theorem finished_step {event : Event} {case after : OrderCase} (taken : CaseStep event case after)
    (sound : Sound case) (finished : case.order.status ∈ finishedOrderStatuses) :
    after.order.status ∈ finishedOrderStatuses \/
      (event = .transitioned .returnToSender /\ after.order.status = .returnToSender) := by
  have mirrored := sound.mirrored
  cases taken with
  | intake _ _ _ _ listed _ _ =>
    revert listed finished
    cases case.order.status <;> simp [intakeSteps, finishedOrderStatuses]
  | cancelled _ _ _ early _ _ _ =>
    revert early finished
    cases case.order.status <;> simp [earlyCancellationStatuses, finishedOrderStatuses]
  | transitioned _ target _ _ _ edge _ _ _ =>
    rw [<- mirrored] at edge
    revert edge finished
    cases case.order.status <;>
      simp +contextual [finishedOrderStatuses, canTransitionDelivery, deliveryTransitions, moved, orderMoved]
  | attempted _ _ _ _ _ _ there _ _ => simp [there, finishedOrderStatuses] at finished
  | completed _ _ _ _ _ _ _ there _ _ _ _ _ _ =>
    rw [there] at finished
    unfold completionSource at finished
    split at finished <;> simp [finishedOrderStatuses] at finished
  | returned _ _ _ there _ => simp [there, finishedOrderStatuses] at finished
  | _ => exact .inl finished

theorem returning_step {event : Event} {case after : OrderCase} (taken : CaseStep event case after)
    (sound : Sound case) (returning : case.order.status = .returnToSender) :
    after.order.status = .returnToSender \/ after.order.status ∈ finishedOrderStatuses := by
  have mirrored := sound.mirrored
  cases taken with
  | intake _ _ _ _ listed _ _ => simp [returning, intakeSteps] at listed
  | cancelled _ _ _ early _ _ _ => simp [returning, earlyCancellationStatuses] at early
  | transitioned _ target _ _ _ edge _ _ _ =>
    rw [<- mirrored, returning] at edge
    revert edge
    simp +contextual [finishedOrderStatuses, canTransitionDelivery, deliveryTransitions, moved, orderMoved]
  | attempted _ _ _ _ _ _ there _ _ => simp [there] at returning
  | completed _ _ _ _ _ _ _ there _ _ _ _ _ _ =>
    rw [there] at returning
    unfold completionSource at returning
    split at returning <;> simp at returning
  | returned _ _ _ _ _ => exact .inr (by simp [moved, orderMoved, finishedOrderStatuses])
  | _ => exact .inl returning

-- A finished order, or one that is on its way back.
def Closing (status : OrderStatus) : Prop :=
  status ∈ finishedOrderStatuses \/ status = .returnToSender

theorem closing_path {allowed : Event -> Prop} {case after : OrderCase} (path : Path allowed case after)
    (sound : Sound case) (closing : Closing case.order.status) : Closing after.order.status := by
  have kept : Sound after /\ Closing after.order.status :=
    @Path.keeps _ (fun case => Sound case /\ Closing case.order.status) _ _ path (fun _ _ _ _ taken there => by
      obtain ⟨before, finished | returning⟩ := there
      next => exact ⟨taken.sound before, (finished_step taken before finished).imp_right And.right⟩
      next => exact ⟨taken.sound before, (returning_step taken before returning).symm⟩)
      ⟨sound, closing⟩
  exact kept.2

theorem finished_path {allowed : Event -> Prop} {case after : OrderCase} (path : Path allowed case after)
    (sound : Sound case) (finished : case.order.status ∈ finishedOrderStatuses)
    (kept : Not (allowed (.transitioned .returnToSender))) :
    after.order.status ∈ finishedOrderStatuses := by
  have reached : Sound after /\ after.order.status ∈ finishedOrderStatuses :=
    @Path.keeps _ (fun case => Sound case /\ case.order.status ∈ finishedOrderStatuses) _ _ path
      (fun event _ _ ok taken there => by
      obtain ⟨before, finished⟩ := there
      rcases finished_step taken before finished with later | ⟨rfl, -⟩
      next => exact ⟨taken.sound before, later⟩
      next => exact absurd ok kept)
      ⟨sound, finished⟩
  exact reached.2

theorem prepared_customer {views : Views} {call : CheckoutCall}
    {claim : OrderIdempotencyKey CheckoutOrder} {now : Int} {placement : Placement}
    (ran : preparePlacement views call claim now = .ok placement) :
    exists customer, findCustomer (views .customer).config call.customerUserId now = .ok customer /\
      placement.order.customerId = customer.profileId := by
  simp only [preparePlacement, bind_ok, pure_ok] at ran
  obtain ⟨_, -, _, -, customer, found, _, -, _, -, _, -, _, -, _, -, _, -, _, -, rfl⟩ := ran
  exact ⟨customer, found, rfl⟩

theorem create_customer {db next : Db} {call : CheckoutCall} {now : Int} {orderId : Id}
    (ran : Checkout.Order.create db call now = .ok (next, orderId)) :
    next = db \/ exists placement customer, findCustomer db.config call.customerUserId now = .ok customer /\
      placement.order.customerId = customer.profileId /\ Placed db next placement := by
  simp only [Checkout.Order.create, bind_ok, pure_ok, Prod.mk.injEq] at ran
  obtain ⟨keyHash, -, result, ran, after, finished, rfl, rfl⟩ := ran
  simp only [createInTransaction, bind_ok] at ran
  obtain ⟨claim, -, ran⟩ := ran
  split at ran
  next =>
    simp only [replay, bind_ok, pure_ok] at ran
    obtain ⟨order, -, rfl⟩ := ran
    simp only [finish, Except.ok.injEq] at finished
    exact .inl finished.symm
  next =>
    simp only [bind_ok, pure_ok] at ran
    obtain ⟨placement, prepared, rfl⟩ := ran
    obtain ⟨customer, found, owner⟩ := prepared_customer prepared
    exact .inr ⟨placement, customer, found, owner, place_placed finished⟩

-- Checkout only serves a customer whose account is active.
theorem found_active {premises : Premises} {customerUserId : Id} {now : Int} {customer : CustomerUser}
    (found : findCustomer premises.db.config customerUserId now = .ok customer) :
    exists account, account ∈ premises.accounts.customers.rows /\ account.id = customer.profileId /\
      account.user.status = .active := by
  simp only [findCustomer, bind_ok, orThrow_ok, throwIf_ok, pure_ok] at found
  obtain ⟨row, known, -, -, rfl⟩ := found
  have fine := List.find?_some known
  obtain ⟨config, -, standing⟩ := List.mem_filterMap.1 (List.mem_of_find?_eq_some known)
  simp only [customerUser, Option.map_eq_some_iff, Option.filter_eq_some_iff] at standing
  obtain ⟨account, ⟨there, -⟩, rfl⟩ := standing
  simp only [Bool.and_eq_true, beq_iff_eq] at fine
  exact ⟨account, Table.find?_mem there, Table.find?_key there, fine.1.1.1.2⟩

variable {premises : Premises}

theorem staged_sums (sums : Sums premises.clock.db) : Sums premises.db :=
  (@exec_sums premises.clock.db premises.db 0 (.configure premises.db.config) sums rfl).1

theorem operate_cases (label : Timed) : (premises.operate label).accounts = premises.accounts /\
    ((premises.operate label).clock.db = premises.db \/ exists now,
      exec premises.db now label.op = .ok (premises.operate label).clock.db) := by
  refine ⟨rfl, ?_⟩
  rcases System.step_db { premises.clock with db := premises.db } label with same | ran
  next => exact .inl same
  next => exact .inr ⟨_, ran⟩

theorem operate_sums (label : Timed) (sums : Sums premises.clock.db) :
    Sums (premises.operate label).clock.db := by
  rcases (operate_cases label).2 with same | ⟨now, ran⟩
  next => exact same ▸ staged_sums sums
  next => exact (exec_sums (staged_sums sums) ran).1

-- Where an order comes from: it was there, or its customer's account is active.
theorem operate_origin (label : Timed) (sums : Sums premises.clock.db) {row : Order}
    (member : row ∈ (premises.operate label).db.orders.rows) :
    (exists case after, IsCase premises.db row.id case /\ after.order = row /\
      Path (acts premises.db label.op row.id) case after) \/
    exists account, account ∈ premises.accounts.customers.rows /\ account.id = row.customerId /\
      account.user.status = .active := by
  have staged := staged_sums sums
  have known : forall old, old ∈ premises.db.orders.rows ->
      exists case, IsCase premises.db old.id case /\ case.order = old :=
    fun old there => staged.settled.linked.case_exists there
  rcases (operate_cases label).2 with same | ⟨now, ran⟩
  next =>
    have there : row ∈ premises.db.orders.rows := same ▸ member
    obtain ⟨case, is, here⟩ := known row there
    exact .inl ⟨case, case, is, here, .refl⟩
  next =>
    by_cases placed : exists call, label.op = .createOrder call
    next =>
      obtain ⟨call, op⟩ := placed
      rw [op] at ran
      obtain ⟨⟨after, orderId⟩, created, same⟩ := (map_ok _ _ _).1 ran
      have next : after = (premises.operate label).clock.db := same
      have there : row ∈ after.orders.rows := next ▸ member
      rcases create_customer created with rfl | ⟨placement, customer, found, owner, enters⟩
      next =>
        obtain ⟨case, is, here⟩ := known row there
        exact .inl ⟨case, case, is, here, .refl⟩
      next =>
        rw [(Table.insert?_rows enters.orders).1, List.mem_append, List.mem_singleton] at there
        rcases there with old | rfl
        next =>
          obtain ⟨case, is, here⟩ := known row old
          exact .inl ⟨case, case, is, here, .refl⟩
        next =>
          obtain ⟨account, present, same, active⟩ := found_active found
          exact .inr ⟨account, present, same.trans owner.symm, active⟩
    next =>
      obtain ⟨case, after, is, -, here, path⟩ :=
        exec_origin staged ran (fun call same => placed ⟨call, same⟩) member
      exact .inl ⟨case, after, is, here, path⟩

-- A customer that cannot check out, with nothing but finished orders and orders on their way back.
structure Winding (customerId : Id) (premises : Premises) : Prop where
  sums : Sums premises.clock.db
  inactive : forall account, account ∈ premises.accounts.customers.rows -> account.id = customerId ->
    account.user.status ≠ .active
  orders : forall order, order ∈ premises.db.orders.rows -> order.customerId = customerId ->
    Closing order.status

theorem operate_winding {customerId : Id} (label : Timed) (winding : Winding customerId premises) :
    Winding customerId (premises.operate label) where
  sums := operate_sums label winding.sums
  inactive := winding.inactive
  orders order member owner := by
    rcases operate_origin label winding.sums member with ⟨case, after, is, rfl, path⟩ | ⟨account, there, same, active⟩
    next =>
      have sound := (staged_sums winding.sums).settled.sound _ case is
      have was := winding.orders case.order is.order_mem ((Path.written path).customer.symm.trans owner)
      exact closing_path path sound was
    next => exact absurd active (winding.inactive account there (same.trans owner))

theorem operate_finished {customerId : Id} (label : Timed) (sums : Sums premises.clock.db)
    (inactive : forall account, account ∈ premises.accounts.customers.rows -> account.id = customerId ->
      account.user.status ≠ .active)
    (finished : Finished premises customerId)
    (kept : forall order, order ∈ premises.db.orders.rows -> order.customerId = customerId ->
      Not (acts premises.db label.op order.id (.transitioned .returnToSender))) :
    Finished (premises.operate label) customerId := by
  intro order member owner
  rcases operate_origin label sums member with ⟨case, after, is, rfl, path⟩ | ⟨account, there, same, active⟩
  next =>
    have sound := (staged_sums sums).settled.sound _ case is
    have customer := (Path.written path).customer.symm.trans owner
    have was := finished case.order is.order_mem customer
    have spared := kept case.order is.order_mem customer
    rw [is.order_id] at spared
    exact finished_path path sound was spared
  next => exact absurd active (inactive account there (same.trans owner))

theorem work_ok {call : Call} {snapshot current next : Premises}
    (works : (system rules).work call snapshot current = some next) :
    exists accounts, call.run rules (activeOrderCount snapshot.db) snapshot.accounts current.accounts =
      .ok accounts /\ next = { current with accounts } := by
  cases ran : call.run rules (activeOrderCount snapshot.db) snapshot.accounts current.accounts with
  | error failure => simp [system, ran, succeeded] at works
  | ok accounts => exact ⟨accounts, rfl, by simpa [system, ran, succeeded] using works.symm⟩

theorem counted_finished {db : Db} {customerId : Id} (none : activeOrderCount db customerId = 0)
    {order : Order} (member : order ∈ db.orders.rows) (owner : order.customerId = customerId) :
    order.status ∈ finishedOrderStatuses := by
  have miss := List.countP_eq_zero.1 none order member
  simpa [owner] using miss

-- What holds throughout a run.
structure Orderly (rules : TextRules) (state : State Premises Call) : Prop where
  guarded : (system rules).AllGuarded state
  sums : Sums state.committed.clock.db
  seen : System.Seen (fun premises => Sums premises.clock.db) state
  settled : NoLiveOrder state.committed

-- Since an anonymization has counted, its customer's orders can only have gone back to their sender.
theorem anonymize_winding {snapshot current : Premises} {next : Accounts} {id actorUserId : Id}
    {input : AnonymizeCustomerAccount} {now : Int} (sums : Sums snapshot.clock.db)
    (since : (system rules).Since snapshot current)
    (ran : Customers.anonymize rules (activeOrderCount snapshot.db) snapshot.accounts current.accounts id
      input actorUserId now = .ok next) :
    Winding id current := by
  obtain ⟨target, changes, status, -, counted, -⟩ := anonymize_ok ran
  have same : target.id = id := Table.find?_key changes.found
  refine System.since_keeps (Winding id) (fun label _ winding => operate_winding label winding) since ?_
  exact {
    sums := sums
    inactive := fun account there here active => by
      obtain rfl := snapshot.accounts.customers.same_of_key there (Table.find?_mem changes.found)
        (here.trans same.symm)
      simp [active] at status
    orders := fun order member owner =>
      .inl (counted_finished counted member (owner.trans same.symm)) }

theorem commits_settled {state : State Premises Call} {label : Locking.Label Call Timed}
    {transaction : Transaction Premises Call} {next : Premises} (orderly : Orderly rules state)
    (settles : Settles state label) (commits : (system rules).Commits state label transaction next) :
    next.clock = state.committed.clock /\ NoLiveOrder next := by
  obtain ⟨⟨slot, rfl, active⟩, ⟨rest, last⟩, works⟩ := commits
  have guarded := orderly.guarded slot transaction active
  have working : transaction.rest = [.work] := by
    rcases guarded.rest with waiting | locked | looked
    next => simp [waiting, System.lockFirst] at last
    next => simp [locked] at last
    next => exact looked
  have sums := System.seen_view orderly.seen orderly.sums active
  have since : (system rules).Since (transaction.view state.committed) state.committed := by
    obtain ⟨snapshot, known⟩ := Option.isSome_iff_exists.1 (guarded.looked working)
    simpa [Transaction.view, known] using guarded.since snapshot known
  obtain ⟨accounts, ran, rfl⟩ := work_ok works
  refine ⟨rfl, fun account member anonymized => ?_⟩
  cases called : transaction.call with
  | lifecycle action id input actorUserId now =>
    rw [called] at ran
    obtain ⟨target, changes, -, -⟩ := lifecycle_ok ran
    rw [changes.rows] at member
    obtain ⟨was, there, ⟨-, rfl⟩ | ⟨-, rfl⟩⟩ := Table.rewrite_mem member
    next => cases action <;> simp [lifecycleAccount] at anonymized
    next => exact orderly.settled account there anonymized
  | anonymize id input actorUserId now =>
    rw [called] at ran
    have winding := anonymize_winding sums since ran
    obtain ⟨target, changes, -⟩ := anonymize_ok ran
    rw [changes.rows] at member
    obtain ⟨was, there, ⟨hit, rfl⟩ | ⟨-, rfl⟩⟩ := Table.rewrite_mem member
    next =>
      simp only [Bool.and_eq_true, beq_iff_eq] at hit
      have here : was.id = id := hit.1.1.trans (Table.find?_key changes.found)
      intro order listed owner
      have customer : order.customerId = id := owner.trans here
      rcases winding.orders order listed customer with finished | returning
      next => exact finished
      next =>
        exact absurd returning (settles transaction active working id input actorUserId now called order listed
          customer)
    next => exact orderly.settled account there anonymized

theorem step_orderly (state : State Premises Call) (label : Locking.Label Call Timed)
    (orderly : Orderly rules state) (settles : Settles state label) :
    Orderly rules ((system rules).step state label) := by
  have guarded := System.step_guarded (fun _ => rfl) state label orderly.guarded
  have seen := System.step_seen (system rules) state label orderly.sums orderly.seen
  rcases (system rules).step_committed state label with same | ⟨op, rfl, same⟩ | ⟨transaction, commits⟩
  next => exact ⟨guarded, same ▸ orderly.sums, seen, same ▸ orderly.settled⟩
  next =>
    refine ⟨guarded, ?_, seen, ?_⟩
    next =>
      rw [same]
      exact operate_sums op orderly.sums
    next =>
      rw [same]
      intro account member anonymized
      have inactive : forall other, other ∈ state.committed.accounts.customers.rows ->
          other.id = account.id -> other.user.status ≠ .active := by
        intro other there here
        obtain rfl := state.committed.accounts.customers.same_of_key there member here
        simp [anonymized]
      exact operate_finished op orderly.sums inactive (orderly.settled account member anonymized)
        (settles account member anonymized)
  next =>
    obtain ⟨clock, settled⟩ := commits_settled orderly settles commits
    exact ⟨guarded, clock ▸ orderly.sums, seen, settled⟩

namespace Example

def op (op : Op) : Locking.Label Call Timed :=
  .outside { elapsed := 1, op }

def through (id : Nat) (call : Call) : List (Locking.Label Call Timed) :=
  [.start id call, .advance id, .advance id, .advance id]

def start : State Premises Call :=
  State.opening (opening System.Sample.shop (some 0) 0 Customers.Sample.accounts)

-- The order is delivered, then the account is suspended and anonymized.
def fulfilled : List (Locking.Label Call Timed) :=
  System.Sample.fulfilled.map op ++ through 1 (Customers.Sample.suspends 1) ++
    through 2 (Customers.Sample.anonymizes 2)

-- No account is anonymized while the shop operates, and nothing is on its way back.
def quiet (state : State Premises Call) : Locking.Label Call Timed -> Bool
  | .outside _ => state.committed.accounts.customers.rows.all (·.user.status != .anonymized)
  | _ => state.committed.db.orders.rows.all (·.status != .returnToSender)

end Example

end VapeCommerce.Access.Anonymization
