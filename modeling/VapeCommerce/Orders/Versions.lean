import VapeCommerce.Orders.Runs

set_option autoImplicit false

-- Optimistic locking: a version stands for one content of its row.
namespace VapeCommerce.Orders.Versions

open VapeCommerce.Lib VapeCommerce.Schema VapeCommerce.Database VapeCommerce.Cash.Steps
open VapeCommerce.Cash.Operations VapeCommerce.Orders.Case VapeCommerce.Orders.Progress
open VapeCommerce.Orders.Runs VapeCommerce.System

theorem run_behind {state : Clocked} (sums : Sums state.db) (labels : List Timed) :
    Sums (Runs.run step state labels).db /\ Behind state.db (Runs.run step state labels).db :=
  run_keeps (fun _ db => Sums db /\ Behind state.db db) (fun _ _ _ _ kept => kept)
    (fun _ _ _ _ kept ran =>
      have after := exec_sums kept.1 ran
      ⟨after.1, kept.2.trans after.2⟩)
    ⟨sums, Behind.refl _⟩ labels

def Newer {R : Type} (version : R -> Nat) (was now : R) : Prop :=
  version was <= version now /\ (version now = version was -> now = was)

theorem newer_or {R : Type} {version : R -> Nat} {was now : R} (moved : now = was \/ version was < version now) :
    Newer version was now := by
  rcases moved with rfl | grown
  next => exact ⟨Nat.le_refl _, fun _ => rfl⟩
  next => exact ⟨Nat.le_of_lt grown, fun same => absurd same (Nat.ne_of_gt grown)⟩

theorem behind_orders {db next : Db} (linked : Linked db) (behind : Behind db next) {was now : Order}
    (member : was ∈ db.orders.rows) (there : now ∈ next.orders.rows) (same : now.id = was.id) :
    Newer Order.version was now := by
  obtain ⟨case, is, rfl⟩ := linked.case_exists member
  obtain ⟨after, here, later⟩ := behind.ahead case.order.id case is
  have found : after.order = now :=
    next.orders.same_of_key here.order_mem there (here.order_id.trans same.symm)
  exact newer_or (found ▸ later.order)

theorem behind_deliveries {db next : Db} (linked : Linked db) (behind : Behind db next) {was now : Schema.Delivery}
    (member : was ∈ db.deliveries.rows) (there : now ∈ next.deliveries.rows) (same : now.id = was.id) :
    Newer Schema.Delivery.version was now := by
  obtain ⟨case, is, rfl⟩ := linked.case_of_delivery member
  obtain ⟨after, here, later⟩ := behind.ahead _ case is
  have found : after.delivery = now :=
    next.deliveries.same_of_key here.delivery_mem there (later.deliveryId.trans same.symm)
  exact newer_or (found ▸ later.delivery)

/-- However a run goes on, the version of an order or a delivery never falls, and while it is the same the
    whole row is. -/
theorem versions_identify_rows (config : Config.Configuration) (orderSequence : Option Int) (start : Int)
    (before after : List Timed) :
    let earlier := (Runs.run step (opening config orderSequence start) before).db
    let later := (Runs.run step (opening config orderSequence start) (before ++ after)).db
    (forall was now, was ∈ earlier.orders.rows -> now ∈ later.orders.rows -> now.id = was.id ->
        was.version <= now.version /\ (now.version = was.version -> now = was)) /\
      forall was now, was ∈ earlier.deliveries.rows -> now ∈ later.deliveries.rows -> now.id = was.id ->
        was.version <= now.version /\ (now.version = was.version -> now = was) := by
  intro earlier later
  have sums : Sums earlier := run_sums config orderSequence start before
  have linked := sums.settled.linked
  have behind : Behind earlier later := by
    have onward := (run_behind sums after).2
    rwa [<- Runs.run_append] at onward
  exact ⟨fun was now member there same => behind_orders linked behind member there same,
    fun was now member there same => behind_deliveries linked behind member there same⟩

end VapeCommerce.Orders.Versions
