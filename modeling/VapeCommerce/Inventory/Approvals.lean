import VapeCommerce.Inventory.Ledger

set_option autoImplicit false

-- Adjustments of stock need a second person.
namespace VapeCommerce.Inventory.Approvals

open VapeCommerce.Lib VapeCommerce.Lib.Outcome VapeCommerce.Schema VapeCommerce.Database
open VapeCommerce.Inventory.Admin VapeCommerce.Inventory.Ledger VapeCommerce.System

-- Somebody other than its requester approved the adjustment.
def Approved (row : InventoryAdjustment) (approver : Id) : Prop :=
  row.status = .applied /\ row.approvedBy = some approver /\ approver ≠ row.requestedBy

-- Every applied adjustment is approved, and every entry of an adjustment is one by its approver.
structure DualControl (db : Db) : Prop where
  applied : forall row, row ∈ db.adjustments.rows -> row.status = .applied ->
    exists approver, Approved row approver
  entered : forall movement, movement ∈ db.movements ->
    movement.referenceType = some .inventoryAdjustment -> exists row approver,
      row ∈ db.adjustments.rows /\ movement.referenceId = some row.id /\
        movement.actorUserId = some approver /\ Approved row approver

def KeepsApplied (old new : Table InventoryAdjustment.id) : Prop :=
  forall row, row.status = .applied -> (row ∈ new.rows <-> row ∈ old.rows)

variable {db next : Db}

theorem dualControl_kept (dual : DualControl db) (kept : KeepsApplied db.adjustments next.adjustments)
    (entries : forall movement, movement ∈ next.movements ->
      movement.referenceType = some .inventoryAdjustment -> movement ∈ db.movements) :
    DualControl next where
  applied row member status := dual.applied row ((kept row status).1 member) status
  entered movement member adjusts := by
    obtain ⟨row, approver, known, rest⟩ := dual.entered movement (entries movement member adjusts) adjusts
    exact ⟨row, approver, (kept row rest.2.2.1).2 known, rest⟩

theorem decide?_keeps {adjustments : Table InventoryAdjustment.id} {id actorUserId : Id}
    {status : InventoryAdjustmentStatus} {pending : InventoryAdjustment}
    (found : adjustments.find? id = some pending) (undecided : pending.status ≠ .applied)
    (open_ended : status ≠ .applied) :
    KeepsApplied adjustments (decide? adjustments id status actorUserId) := by
  intro row applied
  have apart (known : row ∈ adjustments.rows) : row.id ≠ id := fun same => by
    obtain rfl := adjustments.same_of_key known (Table.find?_mem found)
      (same.trans (Table.find?_key found).symm)
    exact undecided applied
  constructor
  next =>
    intro member
    obtain ⟨was, there, ⟨-, rfl⟩ | ⟨-, rfl⟩⟩ := Table.rewrite_mem member
    next => exact absurd applied open_ended
    next => exact there
  next =>
    intro member
    exact List.mem_map.2 ⟨row, member, Table.rewrite_other (by simp [apart member])⟩

-- What a successful decision does: nothing, settle the row without effect, or apply it.
inductive Decides (db : Db) (id actorUserId : Id) (next : Db) : Prop
  | settled (kept : KeepsApplied db.adjustments next.adjustments)
      (items : next.items = db.items) (movements : next.movements = db.movements)
  | applied (pending : InventoryAdjustment) (movement : StockMovement)
      (found : db.adjustments.find? id = some pending) (status : pending.status = .pendingApproval)
      (apart : pending.requestedBy ≠ actorUserId)
      (adjustments : next.adjustments = decide? db.adjustments pending.id .applied actorUserId)
      (movements : next.movements = db.movements ++ [movement])
      (refers : movement.referenceId = some pending.id)
      (actor : movement.actorUserId = some actorUserId)

theorem decideAdjustment_decides {id actorUserId : Id} {decision : AdjustmentDecision}
    {reason : Option Text} {now : Int} {decided : Decided}
    (ran : decideAdjustment db id decision reason actorUserId now = .ok (next, decided)) :
    Decides db id actorUserId next := by
  simp only [decideAdjustment, bind_ok, orThrow_ok, throwIf_ok] at ran
  obtain ⟨⟨⟩, -, pending, found, ⟨⟩, apart, ran⟩ := ran
  split at ran
  next =>
    obtain ⟨rfl, -⟩ := Prod.mk.inj ((pure_ok _ _).1 ran)
    exact .settled (fun _ _ => Iff.rfl) rfl rfl
  next =>
    simp only [bind_ok, throwIf_ok] at ran
    obtain ⟨⟨⟩, status, ran⟩ := ran
    simp only [not_not] at status
    have undecided : pending.status ≠ .applied := by simp [status]
    split at ran
    next =>
      obtain ⟨rfl, -⟩ := Prod.mk.inj ((pure_ok _ _).1 ran)
      exact .settled (decide?_keeps found undecided (by decide)) rfl rfl
    next =>
      split at ran
      next =>
        obtain ⟨rfl, -⟩ := Prod.mk.inj ((pure_ok _ _).1 ran)
        exact .settled (decide?_keeps found undecided (by decide)) rfl rfl
      next =>
        simp only [bind_ok] at ran
        obtain ⟨current, -, ran⟩ := ran
        split at ran
        next =>
          obtain ⟨rfl, -⟩ := Prod.mk.inj ((pure_ok _ _).1 ran)
          exact .settled (decide?_keeps found undecided (by decide)) rfl rfl
        next =>
          simp only [bind_ok, pure_ok, Prod.mk.injEq, applyAdjustment] at ran
          obtain ⟨_, ⟨_, -, _, -, items, -, rfl⟩, rfl, -⟩ := ran
          exact .applied pending _ found status apart rfl rfl rfl rfl

theorem decided_row {adjustments : Table InventoryAdjustment.id} {pending : InventoryAdjustment}
    {id actorUserId : Id} (found : adjustments.find? id = some pending)
    (apart : pending.requestedBy ≠ actorUserId) : exists row,
      row ∈ (decide? adjustments pending.id .applied actorUserId).rows /\ row.id = pending.id /\
        row.requestedBy = pending.requestedBy /\ Approved row actorUserId :=
  ⟨{ pending with status := .applied, approvedBy := some actorUserId },
    List.mem_map.2 ⟨pending, Table.find?_mem found, Table.rewrite_chosen (by simp)⟩, rfl, rfl, rfl, rfl,
    Ne.symm apart⟩

theorem decides_dualControl {id actorUserId : Id} (dual : DualControl db)
    (decides : Decides db id actorUserId next) : DualControl next := by
  cases decides with
  | settled kept _ movements => exact dualControl_kept dual kept fun _ member _ => movements ▸ member
  | applied pending movement found status apart adjustments movements refers actor =>
    have stays : forall row, row ∈ db.adjustments.rows -> row.status = .applied ->
        row ∈ next.adjustments.rows := by
      intro row known applied
      rw [adjustments]
      refine List.mem_map.2 ⟨row, known, Table.rewrite_other (Bool.eq_false_iff.2 fun hit => ?_)⟩
      obtain rfl := db.adjustments.same_of_key known (Table.find?_mem found) (beq_iff_eq.1 hit)
      simp [status] at applied
    obtain ⟨approved, there, id, -, is⟩ := decided_row found apart
    refine ⟨fun row member applied => ?_, fun other member adjusts => ?_⟩
    next =>
      rw [adjustments] at member
      obtain ⟨was, known, ⟨hit, rfl⟩ | ⟨-, rfl⟩⟩ := Table.rewrite_mem member
      next =>
        obtain rfl := db.adjustments.same_of_key known (Table.find?_mem found) (beq_iff_eq.1 hit)
        exact ⟨actorUserId, rfl, rfl, Ne.symm apart⟩
      next => exact dual.applied row known applied
    next =>
      rw [movements, List.mem_append, List.mem_singleton] at member
      rcases member with known | rfl
      next =>
        obtain ⟨row, approver, listed, refers, by_approver, approves⟩ := dual.entered other known adjusts
        exact ⟨row, approver, stays row listed approves.1, refers, by_approver, approves⟩
      next => exact ⟨approved, actorUserId, adjustments ▸ there, id ▸ refers, actor, is⟩

theorem exec_adjustments {now : Int} {op : Op} (ran : exec db now op = .ok next)
    (other : forall id decision reason actorUserId, op ≠ .decideAdjustment id decision reason actorUserId) :
    KeepsApplied db.adjustments next.adjustments := by
  cases op with
  | decideAdjustment id decision reason actorUserId =>
    exact absurd rfl (other id decision reason actorUserId)
  | adjust =>
    simp only [exec, adjust, bind_ok, create_ok, pure_ok] at ran
    obtain ⟨_, -, _, -, _, -, _, -, _, -, adjustments, inserted, rfl⟩ := ran
    intro row applied
    rw [(Table.insert?_rows inserted).1, List.mem_append, List.mem_singleton]
    refine or_iff_left fun new => ?_
    simp [new] at applied
  | _ =>
    rw [(exec_ownTables ran).adjustments rfl]
    exact fun _ _ => Iff.rfl

theorem exec_dualControl {now : Int} {op : Op} (dual : DualControl db)
    (ran : exec db now op = .ok next) : DualControl next := by
  by_cases decides : exists id decision reason actorUserId,
      op = .decideAdjustment id decision reason actorUserId
  next =>
    obtain ⟨id, decision, reason, actorUserId, rfl⟩ := decides
    obtain ⟨⟨after, decided⟩, ends, rfl⟩ := (map_ok _ _ _).1 ran
    exact decides_dualControl dual (decideAdjustment_decides ends)
  next =>
    have other : forall id decision reason actorUserId,
        op ≠ .decideAdjustment id decision reason actorUserId :=
      fun id decision reason actorUserId same => decides ⟨id, decision, reason, actorUserId, same⟩
    refine dualControl_kept dual (exec_adjustments ran other) fun movement member adjusts => ?_
    refine ((exec_extends ran).cases member).resolve_right fun posted => ?_
    cases op with
    | decideAdjustment => exact absurd rfl (other _ _ _ _)
    | _ => simp [Posts, ForOrder, adjusts] at posted

-- A request changes no stock, and a decision only as an approval by a second person.
def StockAdjusted (db next : Db) : Op -> Prop
  | .adjust .. => next.items = db.items
  | .decideAdjustment id _ _ actorUserId => next.items = db.items \/
      exists row, row ∈ next.adjustments.rows /\ row.id = id /\ Approved row actorUserId
  | _ => True

theorem stockAdjusted_same (same : next.items = db.items) (op : Op) : StockAdjusted db next op := by
  cases op with
  | adjust => exact same
  | decideAdjustment => exact .inl same
  | _ => trivial

theorem exec_stockAdjusted {now : Int} {op : Op} (ran : exec db now op = .ok next) :
    StockAdjusted db next op := by
  cases op with
  | adjust =>
    simp only [exec, adjust, bind_ok, pure_ok] at ran
    obtain ⟨_, -, _, -, _, -, _, -, _, -, _, -, rfl⟩ := ran
    rfl
  | decideAdjustment id decision reason actorUserId =>
    obtain ⟨⟨after, decided⟩, ends, rfl⟩ := (map_ok _ _ _).1 ran
    cases decideAdjustment_decides ends with
    | settled _ items _ => exact .inl items
    | applied pending movement found _ apart adjustments _ _ _ =>
      obtain ⟨row, there, same, -, approved⟩ := decided_row found apart
      exact .inr ⟨row, adjustments ▸ there, same.trans (Table.find?_key found), approved⟩
  | _ => trivial

end VapeCommerce.Inventory.Approvals
