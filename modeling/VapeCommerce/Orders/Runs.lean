import VapeCommerce.Frames
import VapeCommerce.Orders.Creation
import VapeCommerce.Delivery.Steps
import VapeCommerce.Cash.Operations

set_option autoImplicit false

-- Every operation as steps of the orders it touches, and what holds of every order in every run.
namespace VapeCommerce.Orders.Runs

open VapeCommerce.Lib VapeCommerce.Lib.Outcome VapeCommerce.Schema VapeCommerce.Database
open VapeCommerce.Orders.Case VapeCommerce.Orders.Progress VapeCommerce.Orders.Transactions
open VapeCommerce.Orders.Steps VapeCommerce.Delivery.Steps VapeCommerce.Cash.Steps
open VapeCommerce.Cash.Remittances VapeCommerce.Cash.Operations VapeCommerce.System
open VapeCommerce.Frames (Area areas)

def Delivers (db : Db) (deliveryId orderId : Id) : Prop :=
  exists delivery, delivery ∈ db.deliveries.rows /\ delivery.id = deliveryId /\
    delivery.orderId = orderId

-- The steps an operation can make an order take.
def acts (db : Db) (op : Op) (orderId : Id) (event : Event) : Prop :=
  event = .managed \/ match op with
    | .transition id input _ =>
      event = .transitioned input.target.status /\ Delivers db id orderId
    | .recordAttempt id input _ => event = .attempted input.outcome /\ Delivers db id orderId
    | .complete id _ _ _ => event = .completed /\ Delivers db id orderId
    | .importStatusCsv _ _ file _ => Commanded db file orderId event
    | .transitionManifest _ _ _ _ => event = .transitioned .handedToCourier
    | _ => False

theorem managed_acts {db : Db} {op : Op} {orderId : Id} {event : Event}
    (is : managed orderId event) : acts db op orderId event :=
  .inl is

variable {db next : Db}

theorem sameCases_of_areas {areas : List Area} (linked : Linked db)
    (writes : Frames.Writes areas db next) (cases : Not (Area.cases ∈ areas))
    (remitting : Not (Area.remitting ∈ areas)) : SameCases db next := by
  have same := writes .cases cases
  have cash := writes .remitting remitting
  simp only [Area.Same, Prod.mk.injEq] at same cash
  obtain ⟨orders, deliveries, collections, history, attempts, ageEvents⟩ := same
  obtain ⟨-, -, discrepancies, -⟩ := cash
  refine ⟨orders, deliveries, collections, history, attempts, ageEvents, fun id => ?_, ?_⟩
  next => rw [Cash.Calculations.discrepancyOf, discrepancies]; rfl
  next => rw [discrepancies]; exact linked.opened

theorem delivers_case {orderId : Id} {case : OrderCase} (is : IsCase db orderId case) :
    Delivers db case.delivery.id orderId :=
  ⟨case.delivery, is.delivery_mem, rfl, is.delivery_order⟩

theorem transition_advance {id : Id} {input : Delivery.Admin.TransitionDelivery} {actorUserId : Id}
    (linked : Linked db) (ran : Delivery.Admin.transition db id input actorUserId = .ok next) :
    Advance (acts db (.transition id input actorUserId)) db next := by
  obtain ⟨orderId, case, is, rfl⟩ := delivery_case linked ran
  exact (transition_takes linked is ran).advance linked is (.inr ⟨rfl, delivers_case is⟩)

theorem recordAttempt_advance {id : Id} {input : Delivery.Admin.RecordDeliveryAttempt}
    {actorUserId : Id} {now : Int} (linked : Linked db)
    (ran : Delivery.Admin.recordAttempt db id input actorUserId now = .ok next) :
    Advance (acts db (.recordAttempt id input actorUserId)) db next := by
  obtain ⟨orderId, case, is, rfl⟩ := delivery_case linked ran
  exact (recordAttempt_takes linked is ran).advance linked is (.inr ⟨rfl, delivers_case is⟩)

theorem complete_advance {id : Id} {expectedVersion : Nat}
    {ageResult : Delivery.Admin.CompletionAgeResult} {actorUserId : Id} {now : Int}
    (linked : Linked db)
    (ran : Delivery.Admin.complete db id expectedVersion ageResult actorUserId now = .ok next) :
    Advance (acts db (.complete id expectedVersion ageResult actorUserId)) db next := by
  obtain ⟨orderId, case, is, rfl⟩ := delivery_case linked ran
  exact (complete_takes linked is ran).advance linked is (.inr ⟨rfl, delivers_case is⟩)

theorem completeReturn_advance {allowed : Id -> Event -> Prop} {id : Id} {expectedVersion : Nat}
    {reason : Text} {actorUserId : Id} (linked : Linked db)
    (ran : Delivery.Admin.completeReturn db id expectedVersion reason actorUserId = .ok next)
    (ok : forall orderId, allowed orderId .managed) : Advance allowed db next := by
  obtain ⟨orderId, case, is, rfl⟩ := delivery_case linked ran
  exact (completeReturn_takes linked is ran).advance linked is (ok orderId)

theorem exec_advance {now : Int} {op : Op} (sums : Sums db) (ran : exec db now op = .ok next) :
    Advance (acts db op) db next := by
  have linked := sums.settled.linked
  cases op with
  | createOrder =>
    obtain ⟨⟨after, orderId⟩, created, rfl⟩ := (map_ok _ _ _).1 ran
    exact Creation.create_advance linked created
  | confirm => exact (confirm_advance linked ran).weaken fun _ _ => managed_acts
  | terminate => exact (terminate_advance linked ran).weaken fun _ _ => managed_acts
  | prepare =>
    exact (transitionIntake_advance linked (by decide) ran).weaken fun _ _ => managed_acts
  | readyForPickup =>
    exact (transitionIntake_advance linked (by decide) ran).weaken fun _ _ => managed_acts
  | cancelOrder => exact (cancel_advance linked ran).weaken fun _ _ => managed_acts
  | assign =>
    obtain ⟨orderId, case, is, -, takes⟩ := assignment_takes linked ran
    exact takes.advance linked is (.inl rfl)
  | unassign =>
    obtain ⟨orderId, case, is, -, takes⟩ := unassign_takes linked ran
    exact takes.advance linked is (.inl rfl)
  | transition => exact transition_advance linked ran
  | recordAttempt => exact recordAttempt_advance linked ran
  | complete => exact complete_advance linked ran
  | completeReturn => exact completeReturn_advance linked ran fun _ => .inl rfl
  | transitionManifest => exact (transitionManifest_advance linked ran).weaken fun _ _ is => .inr is
  | importStatusCsv =>
    obtain ⟨⟨after, record⟩, imported, rfl⟩ := (map_ok _ _ _).1 ran
    exact (importStatusCsv_advance linked imported).weaken fun _ _ is => .inr is
  | cash =>
    have commits := cash_commits sums sums (Behind.refl db) ran
    exact commits.advance.weaken fun _ _ => managed_acts
  | _ =>
    exact (sameCases_of_areas linked (Frames.exec_writes ran) (by simp [areas])
      (by simp [areas])).advance linked

-- What every operation keeps of orders and cash, and where the orders end up.
theorem exec_sums {now : Int} {op : Op} (sums : Sums db) (ran : exec db now op = .ok next) :
    Sums next /\ Behind db next := by
  have advance := exec_advance sums ran
  by_cases remitting : Area.remitting ∈ areas op
  next =>
    cases op with
    | cash => exact (cash_commits sums sums (Behind.refl db) ran).sums sums
    | _ => simp [areas] at remitting
  next =>
    have same := Frames.exec_writes ran .remitting remitting
    simp only [Area.Same, Prod.mk.injEq] at same
    obtain ⟨remittances, items, discrepancies, -⟩ := same
    obtain ⟨settled, ahead⟩ := sums.settled.advance advance
    have revised : Revised db.remittances next.remittances := remittances ▸ Revised.refl _
    exact ⟨⟨settled, Funded.advance sums.funded sums.settled advance revised.terms items⟩,
      ⟨ahead, revised.retains items (discrepancies ▸ Kept.refl _)⟩⟩

theorem no_case {config : Config.Configuration} {orderSequence : Option Int} {orderId : Id}
    {case : OrderCase} (is : IsCase (Db.empty config orderSequence) orderId case) : False := by
  have member := is.order_mem
  simp [Db.empty] at member

theorem empty_sums (config : Config.Configuration) (orderSequence : Option Int) :
    Sums (Db.empty config orderSequence) where
  settled := {
    linked := {
      deliveries := by simp [deliveryLinks, orderIds, Db.empty]
      collections := by simp [deliveryLinks, collectionLinks, Db.empty]
      history := by simp [Db.empty]
      attempts := by simp [Db.empty]
      ageEvents := by simp [Db.empty]
      discrepancies := by simp [Db.empty]
      opened := by simp [Db.empty] }
    sound := fun _ _ is => (no_case is).elim }
  funded := {
    amount := by simp [Db.empty]
    remittance := by simp [Db.empty]
    backed := by simp [Db.empty]
    covered := fun _ _ _ is => (no_case is).elim
    declared := by simp [Db.empty]
    single := by simp [Db.empty] }

theorem step_sums (state : Clocked) (label : Timed) (sums : Sums state.db) :
    Sums (step state label).db :=
  step_keeps (fun _ _ _ _ sums => sums) (fun _ _ _ _ sums ran => (exec_sums sums ran).1) state label sums

theorem run_sums (config : Config.Configuration) (orderSequence : Option Int) (start : Int)
    (labels : List Timed) : Sums (Runs.run step (opening config orderSequence start) labels).db :=
  Runs.run_keeps step_sums (empty_sums config orderSequence) labels

-- Every step of a run advances the orders, by what its operation can do.
theorem step_advance (state : Clocked) (label : Timed) (sums : Sums state.db) :
    Advance (fun orderId event => acts state.db label.op orderId event /\
      exec state.db (state.now + label.elapsed) label.op = .ok (step state label).db)
      state.db (step state label).db := by
  cases step_db state label with
  | inl same =>
    rw [same]
    exact Advance.refl sums.settled.linked
  | inr ran => exact (exec_advance sums ran).weaken fun _ _ ok => ⟨ok, ran⟩

end VapeCommerce.Orders.Runs
