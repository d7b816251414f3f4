import VapeCommerce.Cash.Outside

set_option autoImplicit false

-- Only checkout makes an order; every other operation moves the ones that are there.
namespace VapeCommerce.Orders.Origins

open VapeCommerce.Lib VapeCommerce.Lib.Outcome VapeCommerce.Schema VapeCommerce.Database
open VapeCommerce.Cash.Admin VapeCommerce.Cash.Steps VapeCommerce.Cash.Settlement
open VapeCommerce.Cash.Operations VapeCommerce.Cash.Remittances VapeCommerce.Cash.Outside
open VapeCommerce.Orders.Case VapeCommerce.Orders.Progress VapeCommerce.Orders.Transactions
open VapeCommerce.Orders.Runs VapeCommerce.System

variable {db next : Db} {view : View}

theorem settled_orderIds (db : Db) (collectionIds paidIds : List Id) (paymentStatus : PaymentStatus) :
    orderIds (settledRows db collectionIds paidIds paymentStatus) = orderIds db :=
  orderIds_updated _ _ (paid_id _)

theorem verifies_orderIds {source : CashRemittanceStatus} {id : Id} {operation : RemittanceOperation}
    (verifies : Verifies view source id operation next) : orderIds next = orderIds view.current := by
  obtain ⟨events, rows⟩ := verifies.rows
  rw [rows]
  exact settled_orderIds view.current (writtenIds view operation) (clearedIds view operation) .cashRemitted

theorem disputes_orderIds {id : Id} {operation : RemittanceOperation}
    (disputes : Disputes view id operation next) : orderIds next = orderIds view.current := by
  obtain ⟨events, rows⟩ := disputes.rows
  rw [rows]
  exact orderIds_updated _ _ (paid_id _)

theorem resolves_orderIds {id actorUserId orderId : Id} {resolution : Resolution} {case : OrderCase}
    {row : CashDiscrepancy}
    (resolves : ResolvesCollection view next id resolution actorUserId orderId case row) :
    orderIds next = orderIds view.current :=
  resolves.writes.orderIds

theorem settles_orderIds {id actorUserId remittanceId : Id} {input : ResolveCashDiscrepancy}
    {row : CashDiscrepancy}
    (settles : SettlesRemittance view id input actorUserId remittanceId row next) :
    orderIds next = orderIds view.current := by
  have outcome := settles.outcome
  split at outcome
  next =>
    obtain ⟨operation, verifies⟩ := outcome
    exact verifies_orderIds verifies
  next =>
    obtain ⟨events, rows⟩ := outcome
    rw [rows]
    rfl

theorem cash_orderIds (old : Sums view.snapshot) (sums : Sums view.current)
    (behind : Behind view.snapshot view.current) {op : CashOp} (ran : op.exec view = .ok next) :
    orderIds next = orderIds view.current := by
  cases op with
  | recordCollection =>
    obtain ⟨key, orderId, -, ⟨was, -, rfl⟩ | ⟨case, difference, counting⟩⟩ :=
      recordCollection_cases old.settled sums.settled behind.ahead ran
    next => rfl
    next => exact counting.writes.orderIds
  | createRemittance =>
    obtain ⟨row, remittances, -, -, -, -, rfl⟩ := (createRemittance_ok old behind ran).rows
    rfl
  | submitRemittance =>
    obtain ⟨-, rows⟩ := submitRemittance_ok ran
    rw [rows]
    rfl
  | reconcileRemittance =>
    obtain ⟨operation, verifies | disputes⟩ := reconcileRemittance_ok old sums ran
    next => exact verifies_orderIds verifies
    next => exact disputes_orderIds disputes
  | resolveDiscrepancy =>
    rcases resolveDiscrepancy_cases ran with ⟨_, collection⟩ | ⟨_, remittance⟩
    next =>
      obtain ⟨orderId, case, row, resolves⟩ :=
        resolveCollectionDiscrepancy_ok old.settled sums.settled behind.ahead collection
      exact resolves_orderIds resolves
    next =>
      obtain ⟨row, settles⟩ := resolveRemittanceDiscrepancy_ok old sums behind remittance
      exact settles_orderIds settles

theorem exec_known {now : Int} {op : Op} (sums : Sums db) (ran : exec db now op = .ok next)
    (placed : forall call, op ≠ .createOrder call) {row : Order} (member : row ∈ next.orders.rows) :
    exists was, was ∈ db.orders.rows /\ was.id = row.id := by
  by_cases counted : exists cash, op = .cash cash
  next =>
    obtain ⟨cash, rfl⟩ := counted
    have same := cash_orderIds sums sums (Behind.refl db) ran
    have ordered : row.id ∈ orderIds db := same ▸ List.mem_map_of_mem member
    exact List.mem_map.1 ordered
  next =>
    have leaves := exec_leaves ran (fun cash same => counted ⟨cash, same⟩) placed
    obtain ⟨was, there, billed⟩ := leaves.orders row member
    exact ⟨was, there, billed.id.symm⟩

-- An order of the next state is one of this state, some steps on.
theorem exec_origin {now : Int} {op : Op} (sums : Sums db) (ran : exec db now op = .ok next)
    (placed : forall call, op ≠ .createOrder call) {row : Order} (member : row ∈ next.orders.rows) :
    exists case after, IsCase db row.id case /\ IsCase next row.id after /\ after.order = row /\
      Path (acts db op row.id) case after := by
  obtain ⟨was, there, same⟩ := exec_known sums ran placed member
  obtain ⟨case, is, -⟩ := sums.settled.linked.case_exists there
  rw [same] at is
  obtain ⟨after, now, path⟩ := (exec_advance sums ran).known row.id case is
  have found := Table.find?_of_mem member
  exact ⟨case, after, is, now, Option.some.inj (now.order.symm.trans found), path⟩

-- What each step leaves of an order, besides its status and how it is paid.
structure Written (was row : Order) : Prop where
  id : row.id = was.id
  customer : row.customerId = was.customerId
  items : row.items = was.items
  subtotal : row.subtotalMillimes = was.subtotalMillimes
  discount : row.discountTotalMillimes = was.discountTotalMillimes
  delivery : row.deliveryTotalMillimes = was.deliveryTotalMillimes
  tax : row.taxTotalMillimes = was.taxTotalMillimes
  grandTotal : row.grandTotalMillimes = was.grandTotalMillimes

theorem Written.refl (row : Order) : Written row row :=
  ⟨rfl, rfl, rfl, rfl, rfl, rfl, rfl, rfl⟩

theorem Written.trans {first second third : Order} (one : Written first second)
    (two : Written second third) : Written first third where
  id := two.id.trans one.id
  customer := two.customer.trans one.customer
  items := two.items.trans one.items
  subtotal := two.subtotal.trans one.subtotal
  discount := two.discount.trans one.discount
  delivery := two.delivery.trans one.delivery
  tax := two.tax.trans one.tax
  grandTotal := two.grandTotal.trans one.grandTotal

theorem CaseStep.written {event : Event} {case after : OrderCase} (taken : CaseStep event case after) :
    Written case.order after.order := by
  cases taken <;> exact ⟨rfl, rfl, rfl, rfl, rfl, rfl, rfl, rfl⟩

theorem Path.written {allowed : Event -> Prop} {case after : OrderCase} (path : Path allowed case after) :
    Written case.order after.order :=
  path.keeps (fun _ _ _ _ taken written => Written.trans written (CaseStep.written taken))
    (Written.refl case.order)

end VapeCommerce.Orders.Origins
