import Mathlib.Data.List.Chain
import VapeCommerce.Orders.Runs

set_option autoImplicit false

-- The status history of an order, as a path of order-state-machine.ts.
namespace VapeCommerce.Orders.History

open VapeCommerce.Lib VapeCommerce.Lib.Outcome VapeCommerce.Schema VapeCommerce.Database
open VapeCommerce.Orders.StateMachine VapeCommerce.Orders.Admin VapeCommerce.Orders.Case
open VapeCommerce.Orders.Progress VapeCommerce.Orders.Transactions VapeCommerce.Orders.Runs
open VapeCommerce.Delivery.Admin VapeCommerce.Delivery.Steps VapeCommerce.Cash.Operations VapeCommerce.System

def Follows (earlier later : OrderStatusHistory) : Prop :=
  later.fromStatus = some earlier.toStatus

-- The entries lead, one after the other, from nothing to `status`.
structure Chain (entries : List OrderStatusHistory) (status : OrderStatus) : Prop where
  opened : entries.head?.map (·.fromStatus) = some none
  joined : entries.IsChain Follows
  last : entries.getLast?.map (·.toStatus) = some status

def Permitted (entries : List OrderStatusHistory) : Prop :=
  forall entry, entry ∈ entries -> forall source, entry.fromStatus = some source ->
    canTransitionOrder source entry.toStatus = true

/-- The history of every order is a path of the declared state machine to its status. -/
def Charted (db : Db) : Prop :=
  forall order, order ∈ db.orders.rows ->
    Chain (historyOf db order.id) order.status /\ Permitted (historyOf db order.id)

theorem Chain.extended {entries : List OrderStatusHistory} {status : OrderStatus}
    (chain : Chain entries status) {entry : OrderStatusHistory}
    (follows : entry.fromStatus = some status) : Chain (entries ++ [entry]) entry.toStatus where
  opened := by
    have opened := chain.opened
    cases entries with
    | nil => simp at opened
    | cons first rest => exact opened
  joined := by
    refine chain.joined.append (List.isChain_singleton _) fun earlier final later only => ?_
    have same := chain.last
    rw [Option.mem_def.1 final, Option.map_some] at same
    simp only [List.head?_cons, Option.mem_def, Option.some.injEq] at only
    subst only
    rw [Follows, follows, same]
  last := by simp

theorem Permitted.extended {entries : List OrderStatusHistory} (permitted : Permitted entries)
    {entry : OrderStatusHistory} {source : OrderStatus} (from_source : entry.fromStatus = some source)
    (edge : canTransitionOrder source entry.toStatus = true) : Permitted (entries ++ [entry]) := by
  intro other member start here
  rcases List.mem_append.1 member with known | added
  next => exact permitted other known start here
  next =>
    obtain rfl := List.mem_singleton.1 added
    obtain rfl := Option.some.inj (from_source.symm.trans here)
    exact edge

theorem intake_edge_permitted {source target : OrderStatus} (listed : (source, target) ∈ intakeSteps) :
    canTransitionOrder source target = true := by
  revert listed
  cases source <;> cases target <;> decide

theorem completion_edge_permitted (order : Order) :
    canTransitionOrder (completionSource order) .delivered = true := by
  unfold completionSource
  split <;> decide

theorem operational_not_rescheduled {target : DeliveryStatus}
    (operational : target ∈ operationalDeliveryTargets) : target ≠ .rescheduled := by
  revert operational
  cases target <;> decide

-- A step leaves history and status alone, or adds the entry of its move.
inductive Recounts (event : Event) (case after : OrderCase) : Prop where
  | same (history : after.history = case.history) (status : after.order.status = case.order.status)
  | added (entry : OrderStatusHistory) (history : after.history = case.history ++ [entry])
      (source : entry.fromStatus = some case.order.status)
      (target : entry.toStatus = after.order.status)
      (edge : event ≠ .attempted .rescheduled ->
        canTransitionOrder case.order.status after.order.status = true)

theorem moved_recounts {event : Event} {case after : OrderCase} {target : OrderStatus}
    {reasonCode : Text} {actorUserId : Id}
    (history : after.history = case.history ++ [historyEntry case.order target reasonCode actorUserId])
    (status : after.order.status = target)
    (edge : event ≠ .attempted .rescheduled -> canTransitionOrder case.order.status target = true) :
    Recounts event case after :=
  .added _ history rfl status.symm (status ▸ edge)

theorem CaseStep.recounts {event : Event} {case after : OrderCase} (taken : CaseStep event case after) :
    Recounts event case after := by
  cases taken with
  | intake _ target reasonCode actor listed =>
    exact moved_recounts rfl rfl fun _ => intake_edge_permitted listed
  | cancelled _ reasonCode actor early =>
    exact moved_recounts rfl rfl fun _ => early_cancellation_permitted _ early
  | transitioned _ target next reasonCode actor edge mirrored operational =>
    refine moved_recounts rfl rfl fun _ => (delivery_edge_permitted _ _ (mirrored ▸ edge)).2 ?_
    exact fun out => operational_not_rescheduled operational out.2
  | attempted _ outcome next attempt reasonCode actor mirrored =>
    refine moved_recounts rfl rfl fun other => ?_
    rw [mirrored, attempt_edge_permitted]
    rintro rfl
    exact other rfl
  | completed _ ageResult attempt result accountable reasonCode actor mirrored =>
    refine moved_recounts rfl rfl fun _ => ?_
    rw [mirrored]
    exact completion_edge_permitted case.order
  | returned _ reasonCode actor mirrored =>
    refine moved_recounts rfl rfl fun _ => ?_
    rw [mirrored]
    decide
  | rerouted => exact .same rfl rfl
  | recorded => exact .same rfl rfl
  | corrected => exact .same rfl rfl
  | writtenOff => exact .same rfl rfl
  | remitted => exact .same rfl rfl
  | paid => exact .same rfl rfl

def CaseChained (case : OrderCase) : Prop :=
  Chain case.history case.order.status

def CaseCharted (case : OrderCase) : Prop :=
  CaseChained case /\ Permitted case.history

theorem CaseStep.chained {event : Event} {case after : OrderCase} (taken : CaseStep event case after)
    (chained : CaseChained case) : CaseChained after := by
  unfold CaseChained at chained ⊢
  cases CaseStep.recounts taken with
  | same history status => rwa [history, status]
  | added entry history source target _ =>
    rw [history, <- target]
    exact chained.extended source

theorem CaseStep.charted {event : Event} {case after : OrderCase} (taken : CaseStep event case after)
    (other : event ≠ .attempted .rescheduled) (charted : CaseCharted case) : CaseCharted after := by
  refine ⟨CaseStep.chained taken charted.1, ?_⟩
  cases CaseStep.recounts taken with
  | same history => exact history ▸ charted.2
  | added entry history source target edge =>
    rw [history]
    exact charted.2.extended source (target ▸ edge other)

theorem fresh_charted {case : OrderCase} (fresh : Fresh case) : CaseCharted case := by
  obtain ⟨customerUserId, only⟩ := fresh.history
  unfold CaseCharted CaseChained
  rw [only, fresh.status]
  refine ⟨⟨rfl, List.isChain_singleton _, rfl⟩, fun entry member source from_source => ?_⟩
  obtain rfl := List.mem_singleton.1 member
  simp [Checkout.Order.createdHistory] at from_source

variable {db : Db}

theorem charted_cases (linked : Linked db) :
    Charted db <-> forall orderId case, IsCase db orderId case -> CaseCharted case := by
  constructor
  next =>
    intro charted orderId case is
    have here := charted case.order is.order_mem
    rwa [is.order_id, is.history] at here
  next =>
    intro cases order member
    obtain ⟨case, is, rfl⟩ := linked.case_exists member
    have here := cases _ case is
    unfold CaseCharted CaseChained at here
    rwa [<- is.history] at here

-- The operation records, of a delivery that is out, that it was rescheduled.
def Reschedules (state : Clocked) (label : Timed) : Prop :=
  exists orderId case input actorUserId nextAttemptAt,
    label.op = .recordAttempt case.delivery.id input actorUserId /\ IsCase state.db orderId case /\
      input.outcome = .rescheduled /\
      AttemptAdmitted case input (state.now + label.elapsed) nextAttemptAt

theorem acts_rescheduled {op : Op} {orderId : Id}
    (acted : acts db op orderId (.attempted .rescheduled)) :
    exists id input actorUserId, op = .recordAttempt id input actorUserId /\
      input.outcome = .rescheduled := by
  rcases acted with managed | acted
  next => simp at managed
  next =>
    cases op with
    | recordAttempt id input actor =>
      obtain ⟨same, -⟩ := acted
      exact ⟨id, input, actor, rfl, (Event.attempted.inj same).symm⟩
    | importStatusCsv key dryRun file actor =>
      obtain ⟨command, delivery, -, -, -, -, same⟩ := acted
      simp at same
    | _ => simp at acted

theorem rescheduled_admitted {state : Clocked} {label : Timed} (sums : Sums state.db) {orderId : Id}
    (acted : acts state.db label.op orderId (.attempted .rescheduled))
    (ran : exec state.db (state.now + label.elapsed) label.op = .ok (step state label).db) :
    Reschedules state label := by
  obtain ⟨id, input, actor, same, rescheduled⟩ := acts_rescheduled acted
  rw [same] at ran
  obtain ⟨_, case, is, rfl⟩ := delivery_case sums.settled.linked ran
  obtain ⟨nextAttemptAt, admitted, -⟩ :=
    (recordAttempt_ok sums.settled.linked is input actor _).1 ran
  exact ⟨_, case, input, actor, nextAttemptAt, same, is, rescheduled, admitted⟩

theorem step_charted (state : Clocked) (label : Timed) (sums : Sums state.db)
    (charted : Charted state.db) (other : Not (Reschedules state label)) :
    Charted (step state label).db := by
  have advance := step_advance state label sums
  refine (charted_cases advance.linked).2 fun orderId after is => ?_
  refine advance.keeps (fun _ => fresh_charted) (fun orderId event case after acted taken kept => ?_)
    ((charted_cases sums.settled.linked).1 charted) is
  refine CaseStep.charted taken ?_ kept
  rintro rfl
  exact other (rescheduled_admitted sums acted.1 acted.2)

-- The rescheduling of a delivery that is out is an edge that the order table lacks.
theorem reschedule_uncharted (state : Clocked) (label : Timed) (sums : Sums state.db)
    (reschedules : Reschedules state label) : Not (Charted (step state label).db) := by
  obtain ⟨orderId, case, input, actor, nextAttemptAt, same, is, rescheduled, admitted⟩ := reschedules
  have linked := sums.settled.linked
  have ran := (recordAttempt_ok linked is input actor (state.now + label.elapsed)).2
    ⟨nextAttemptAt, admitted, rfl⟩
  have here : (step state label).db =
      attemptRecorded state.db case input nextAttemptAt actor (state.now + label.elapsed) := by
    simp [step, same, exec, ran, succeeded]
  rw [here]
  obtain ⟨after, taken, writes⟩ := recordAttempt_takes linked is ran
  have there := writes.here is
  intro charted
  obtain ⟨-, permitted⟩ := (charted_cases (writes.linked is linked)).1 charted orderId after there
  cases taken with
  | attempted _ outcome next attempt reasonCode actor mirrored =>
    have edge := permitted (historyEntry case.order (attemptOutcomeStatus input.outcome) reasonCode actor)
      (by simp [moved]) case.order.status rfl
    rw [mirrored, rescheduled] at edge
    exact (attempt_edge_permitted .rescheduled).1 edge rfl

theorem empty_charted (config : Config.Configuration) (orderSequence : Option Int) :
    Charted (Db.empty config orderSequence) := by
  simp [Charted, Db.empty]

theorem step_chained (state : Clocked) (label : Timed)
    (kept : Sums state.db /\ forall orderId case, IsCase state.db orderId case -> CaseChained case) :
    Sums (step state label).db /\
      forall orderId case, IsCase (step state label).db orderId case -> CaseChained case := by
  refine ⟨step_sums state label kept.1, fun orderId after is => ?_⟩
  exact (step_advance state label kept.1).keeps (fun _ fresh => (fresh_charted fresh).1)
    (fun _ _ _ _ _ taken => CaseStep.chained taken) kept.2 is

-- In every run the entries of an order form a chain that ends at its status.
theorem run_chained (config : Config.Configuration) (orderSequence : Option Int) (start : Int)
    (labels : List Timed) :
    forall orderId case,
      IsCase (Runs.run step (opening config orderSequence start) labels).db orderId case ->
        CaseChained case :=
  (Runs.run_keeps step_chained ⟨empty_sums config orderSequence, fun _ _ is => (no_case is).elim⟩
    labels).2

/-- Whatever happens in a run, the entries of every order lead from nothing to its status. -/
theorem histories_unbroken (config : Config.Configuration) (orderSequence : Option Int) (start : Int)
    (labels : List Timed) :
    let reached := (Runs.run step (opening config orderSequence start) labels).db
    forall order, order ∈ reached.orders.rows -> Chain (historyOf reached order.id) order.status := by
  intro reached order member
  have sums : Sums reached := run_sums config orderSequence start labels
  obtain ⟨case, is, rfl⟩ := sums.settled.linked.case_exists member
  rw [is.history]
  exact run_chained config orderSequence start labels _ case is

theorem dispatched_unbroken :
    exists order, order ∈ (Sample.after Sample.dispatched).db.orders.rows /\
      Chain (historyOf (Sample.after Sample.dispatched).db order.id) order.status := by
  have placed : (Sample.after Sample.dispatched).db.orders.rows ≠ [] := by decide +kernel
  obtain ⟨order, member⟩ := List.exists_mem_of_ne_nil _ placed
  exact ⟨order, member, histories_unbroken Sample.shop (some 0) 0 (Sample.timed Sample.dispatched) order member⟩

/-- Every history is a path of the declared state machine throughout a run exactly when no step of
the run reschedules a delivery that is out. -/
theorem history_charted_iff (config : Config.Configuration) (orderSequence : Option Int) (start : Int)
    (labels : List Timed) :
    (forall state, Runs.Visits step (opening config orderSequence start) labels state ->
        Charted state.db) <->
      forall state label, Runs.Takes step (opening config orderSequence start) labels state label ->
        Not (Reschedules state label) := by
  apply @Runs.always_iff_steps Clocked Timed step (fun state => Sums state.db)
    (fun state => Charted state.db) (fun state label => Not (Reschedules state label)) step_sums
  case initial => exact empty_sums config orderSequence
  case starts => exact empty_charted config orderSequence
  case exact =>
    intro state label sums charted
    constructor
    next => exact fun after reschedules => reschedule_uncharted state label sums reschedules after
    next => exact step_charted state label sums charted

-- An attempt on a delivery that is out, recorded as rescheduled.
def rescheduled : List Op :=
  Sample.dispatched ++ [Sample.attempt 8 .rescheduled (some 1000000)]

theorem rescheduled_history_uncharted :
    Not (forall config orderSequence start labels state,
      Runs.Visits step (opening config orderSequence start) labels state -> Charted state.db) := by
  intro claimed
  have charted := claimed Sample.shop (some 0) 0 (Sample.timed rescheduled) _ (Runs.visits_end _ _)
  have history : (Sample.after rescheduled).db.orders.rows.any (fun order =>
      (historyOf (Sample.after rescheduled).db order.id).any fun entry =>
        entry.fromStatus == some .outForDelivery && entry.toStatus == .rescheduled) = true := by
    decide +kernel
  obtain ⟨order, member, found⟩ := List.any_eq_true.1 history
  obtain ⟨entry, listed, edge⟩ := List.any_eq_true.1 found
  simp only [Bool.and_eq_true, beq_iff_eq] at edge
  have permitted := (charted order member).2 entry listed _ edge.1
  rw [edge.2] at permitted
  exact absurd permitted (by decide)

end VapeCommerce.Orders.History
