import VapeCommerce.Orders.Runs

set_option autoImplicit false

-- Collected cash against the outcomes a delivery can have.
namespace VapeCommerce.Delivery.Outcomes

open VapeCommerce.Lib VapeCommerce.Lib.Outcome VapeCommerce.Schema VapeCommerce.Database
open VapeCommerce.Orders.StateMachine VapeCommerce.Orders.Admin VapeCommerce.Orders.Case
open VapeCommerce.Orders.Progress VapeCommerce.Orders.Transactions VapeCommerce.Orders.Runs
open VapeCommerce.Delivery.Admin VapeCommerce.Delivery.Operations VapeCommerce.Delivery.Steps
open VapeCommerce.Cash.Admin VapeCommerce.Cash.Operations VapeCommerce.System

def unsuccessfulStatuses : List OrderStatus :=
  [.refused, .cancelled, .returnToSender, .returned]

def FailedAge (db : Db) (orderId : Id) : Prop :=
  exists delivery attempt, delivery ∈ db.deliveries.rows /\ delivery.orderId = orderId /\
    attempt ∈ db.attempts /\ attempt.deliveryId = delivery.id /\
    attempt.outcome = .failedAgeVerification

-- A failed age check is an attempt's outcome; the order it leaves is `failed`.
def Unsuccessful (db : Db) (order : Order) : Prop :=
  order.status ∈ unsuccessfulStatuses \/ order.status = .failed /\ FailedAge db order.id

/-- No order with an unsuccessful outcome holds collected cash. -/
def CashExcluded (db : Db) : Prop :=
  forall order, order ∈ db.orders.rows -> Unsuccessful db order ->
    forall collection, collection ∈ db.collections.rows -> collection.orderId = order.id ->
      collection.status ≠ .voided -> collection.collectedMillimes <= 0

def HoldsCash (case : OrderCase) : Prop :=
  case.collection.status ≠ .voided /\ 0 < case.collection.collectedMillimes

def CaseUnsuccessful (case : OrderCase) : Prop :=
  case.order.status ∈ unsuccessfulStatuses \/ case.order.status = .failed /\
    exists attempt, attempt ∈ case.attempts /\ attempt.outcome = .failedAgeVerification

def CaseExcluded (case : OrderCase) : Prop :=
  CaseUnsuccessful case -> Not (HoldsCash case)

variable {db next : Db} {orderId : Id} {case after : OrderCase}

theorem unsuccessful_case (linked : Linked db) (is : IsCase db orderId case) :
    Unsuccessful db case.order <-> CaseUnsuccessful case := by
  have age : FailedAge db case.order.id <->
      exists attempt, attempt ∈ case.attempts /\ attempt.outcome = .failedAgeVerification := by
    rw [<- is.attempts, is.order_id]
    constructor
    next =>
      rintro ⟨delivery, attempt, member, owner, recorded, here, outcome⟩
      have found := (Table.lookup_iff linked.deliveries_unique _ _).2 ⟨member, owner⟩
      obtain rfl := Option.some.inj (is.delivery.symm.trans found)
      exact ⟨attempt, List.mem_filter.2 ⟨recorded, by simpa using here⟩, outcome⟩
    next =>
      rintro ⟨attempt, listed, outcome⟩
      obtain ⟨recorded, here⟩ := List.mem_filter.1 listed
      exact ⟨case.delivery, attempt, is.delivery_mem, is.delivery_order, recorded, by simpa using here,
        outcome⟩
  unfold Unsuccessful CaseUnsuccessful
  rw [age]

theorem excluded_cases (linked : Linked db) :
    CashExcluded db <-> forall orderId case, IsCase db orderId case -> CaseExcluded case := by
  constructor
  next =>
    intro excluded orderId case is unsuccessful holds
    have none := excluded case.order is.order_mem ((unsuccessful_case linked is).2 unsuccessful)
      case.collection is.collection_mem (is.collection_order.trans is.order_id.symm) holds.1
    have positive := holds.2
    omega
  next =>
    intro cases order member unsuccessful collection present same live
    obtain ⟨case, is, rfl⟩ := linked.case_exists member
    have found := (Table.lookup_iff linked.collections_unique _ _).2 ⟨present, same⟩
    obtain rfl := Option.some.inj (is.collection.symm.trans found)
    by_contra holds
    exact cases _ case is ((unsuccessful_case linked is).1 unsuccessful) ⟨live, not_le.1 holds⟩

-- The events that end a delivery without success.
def spoils (event : Event) : Prop :=
  event = .attempted .customerRefused \/ event = .attempted .failedAgeVerification \/
    event = .transitioned .returnToSender

theorem intake_successful {source target : OrderStatus} (listed : (source, target) ∈ intakeSteps) :
    Not (target ∈ unsuccessfulStatuses) /\ target ≠ .failed := by
  revert listed
  cases source <;> cases target <;> decide

theorem operational_successful {target : DeliveryStatus}
    (operational : target ∈ operationalDeliveryTargets) (other : target ≠ .returnToSender) :
    Not (target ∈ unsuccessfulStatuses) /\ target ≠ .failed := by
  revert operational other
  cases target <;> decide

theorem collectable_successful (order : Order) :
    Not (collectableStatus order ∈ unsuccessfulStatuses) /\ collectableStatus order ≠ .failed := by
  unfold collectableStatus
  split <;> decide

theorem excluded_of_successful (live : Not (case.order.status ∈ unsuccessfulStatuses))
    (unfailed : case.order.status ≠ .failed) : CaseExcluded case := by
  rintro (listed | ⟨failed, -⟩)
  next => exact absurd listed live
  next => exact absurd failed unfailed

theorem excluded_of_empty (collected : case.collection.status = .voided) : CaseExcluded case :=
  fun _ holds => holds.1 collected

-- The outcomes that only fail a delivery leave no failed age check behind.
theorem attempted_excluded {outcome : FailedAttemptOutcome} {nextAttemptAt : Option Int}
    {attempt : DeliveryAttempt} {reasonCode : Text} {actorUserId : Id} (sound : Sound case)
    (mirrored : case.order.status = .outForDelivery) (recorded : attempt.outcome = outcome.recorded)
    (other : Not (spoils (.attempted outcome))) :
    CaseExcluded { moved (attemptOutcomeStatus outcome)
      { case.delivery with
        nextAttemptAt
        ageVerificationResult := agedResult outcome case.delivery.ageVerificationResult }
      reasonCode actorUserId case with
      attempts := case.attempts ++ [attempt]
      ageEvents := attemptedAge outcome case } := by
  have clean : Not (NegativeEvidence case) := fun evidence => by
    simpa [mirrored, failedStatuses] using sound.aged evidence
  rintro (listed | ⟨-, found, member, failedAge⟩)
  next =>
    cases outcome <;>
      simp [moved, orderMoved, attemptOutcomeStatus, unsuccessfulStatuses, spoils] at listed other
  next =>
    exfalso
    rcases List.mem_append.1 member with known | added
    next => exact clean (.inr (.inl ⟨found, known, failedAge⟩))
    next =>
      obtain rfl := List.mem_singleton.1 added
      rw [recorded] at failedAge
      cases outcome <;> simp [FailedAttemptOutcome.recorded, spoils] at failedAge other

-- Every other event keeps collected cash away from unsuccessful outcomes.
theorem CaseStep.excluded {event : Event} (taken : CaseStep event case after) (sound : Sound case)
    (other : Not (spoils event)) (excluded : CaseExcluded case) : CaseExcluded after := by
  cases taken with
  | intake _ target reasonCode actor listed =>
    exact excluded_of_successful (intake_successful listed).1 (intake_successful listed).2
  | cancelled => exact excluded_of_empty rfl
  | transitioned _ target next reasonCode actor edge mirrored operational =>
    have apart : target ≠ .returnToSender := by
      rintro rfl
      exact other (.inr (.inr rfl))
    exact excluded_of_successful (operational_successful operational apart).1
      (operational_successful operational apart).2
  | attempted _ outcome next attempt reasonCode actor mirrored out recorded =>
    exact attempted_excluded sound mirrored recorded other
  | completed =>
    refine excluded_of_successful ?_ ?_
    next => simp [moved, orderMoved, unsuccessfulStatuses]
    next => simp [moved, orderMoved]
  | returned _ reasonCode actor mirrored =>
    exact fun _ => excluded (.inl (by simp [mirrored, unsuccessfulStatuses]))
  | rerouted => exact excluded
  | recorded _ input keyHash discrepancyId actor difference expected mirrored collectable =>
    have live := collectable_successful case.order
    rw [<- collectable, <- mirrored] at live
    exact excluded_of_successful live.1 live.2
  | corrected _ discrepancy actor found unsettled counted =>
    intro unsuccessful holds
    refine excluded unsuccessful ⟨fun void => ?_, holds.2⟩
    simp [void, remittableCollectionStatuses] at counted
  | writtenOff => exact excluded
  | remitted _ accountable counted =>
    intro unsuccessful holds
    refine excluded unsuccessful ⟨fun void => ?_, holds.2⟩
    simp [void, remittableCollectionStatuses] at counted
  | paid => exact excluded

-- What applying the rows of a file leaves of a case.
structure Landed (commands : List DeliveryStatusCsvCommand) (case after : OrderCase) : Prop where
  collection : after.collection = case.collection
  method : after.order.deliveryMethodType = case.order.deliveryMethodType
  target : forall command, command ∈ commands -> command.deliveryId = case.delivery.id ->
    after.order.status = command.targetStatus
  untouched : (forall command, command ∈ commands -> command.deliveryId ≠ case.delivery.id) ->
    after = case

theorem applyCommands_lands (read : Db) (actorUserId : Id) (commands : List DeliveryStatusCsvCommand)
    (distinct : (commands.map (·.deliveryId)).Nodup) (linked : Linked db)
    (ready : forall command, command ∈ commands -> exists orderId case, IsCase db orderId case /\
      case.delivery.id = command.deliveryId /\
      bulkDelivery? read command.deliveryId = some (bulkOf case)) :
    exists next, commands.foldlM (applyCommand read actorUserId) db = .ok next /\ Linked next /\
      forall orderId case, IsCase db orderId case ->
        exists after, IsCase next orderId after /\ Landed commands case after := by
  induction commands generalizing db with
  | nil =>
    refine ⟨db, rfl, linked, fun orderId case is => ⟨case, is, rfl, rfl, by simp, fun _ => rfl⟩⟩
  | cons command rest ih =>
    rw [List.map_cons, List.nodup_cons] at distinct
    obtain ⟨orderId, case, is, here, found⟩ := ready command (by simp)
    let reasonCode := command.reasonCode.getD "CSV_STATUS_IMPORT".toList
    have applies : applyCommand read actorUserId db command =
        .ok (mirrored db case command.targetStatus (fun row => row) (fun _ => rfl) reasonCode
          actorUserId) := by
      simp only [applyCommand, bind_ok, orThrow_ok]
      exact ⟨_, found, updateMirroredStatus_runs is _ _ _ _ _⟩
    have writes := mirrored_writes linked is command.targetStatus (fun row => row) (fun _ => rfl)
      (fun _ => rfl) reasonCode actorUserId
    have apart : forall other, other ∈ rest -> other.deliveryId ≠ command.deliveryId := fun other member same =>
      distinct.1 (same ▸ List.mem_map_of_mem member)
    obtain ⟨next, ran, after_linked, lands⟩ := ih distinct.2 (writes.linked is linked) (by
      intro other member
      obtain ⟨otherId, beside, also, there, read_there⟩ := ready other (by simp [member])
      refine ⟨otherId, beside, writes.elsewhere is ?_ also, there, read_there⟩
      rintro rfl
      obtain rfl := is.unique also
      exact apart other member (there.symm.trans here))
    refine ⟨next, ?_, after_linked, fun otherId other also => ?_⟩
    next => rw [List.foldlM_cons, applies]; exact ran
    by_cases same : otherId = orderId
    next =>
      subst same
      obtain rfl := is.unique also
      obtain ⟨after, there, landed⟩ := lands otherId _ (writes.here is)
      have stays := landed.untouched fun later member => by
        simpa [moved, deliveryMoved, here] using apart later member
      refine ⟨after, there, by rw [stays]; rfl, by rw [stays]; rfl, fun later member aimed => ?_, fun none => ?_⟩
      next =>
        rcases List.mem_cons.1 member with rfl | further
        next => rw [stays]; rfl
        next => exact absurd (aimed.trans here) (apart later further)
      next => exact absurd here.symm (none command (by simp))
    next =>
      obtain ⟨after, there, landed⟩ := lands otherId other (writes.elsewhere is same also)
      have elsewhere : command.deliveryId ≠ other.delivery.id := by
        intro aimed
        have row := db.deliveries.same_of_key also.delivery_mem is.delivery_mem (aimed.symm.trans here.symm)
        exact same (also.delivery_order.symm.trans (row ▸ is.delivery_order))
      refine ⟨after, there, landed.collection, landed.method, fun later member aimed => ?_, fun none => ?_⟩
      next =>
        rcases List.mem_cons.1 member with rfl | further
        next => exact absurd aimed elsewhere
        next => exact landed.target later further aimed
      next => exact landed.untouched fun later member => none later (by simp [member])

-- A file that is applied: new under its key, no dry run, and with every row accepted.
structure ImportAdmitted (db : Db) (importKey : Text) (file : DeliveryStatusCsv) : Prop where
  fresh : (db.imports.find? fun record => record.importKey == importKey && record.dryRun == false) =
    none
  accepted : forall command, command ∈ file.commands ->
    validateImportCommand command (bulkDelivery? db command.deliveryId) = none

theorem importStatusCsv_lands {importKey : Text} {file : DeliveryStatusCsv} (actorUserId : Id)
    (linked : Linked db) (admitted : ImportAdmitted db importKey file) :
    exists next record, importStatusCsv db importKey false file actorUserId = .ok (next, record) /\
      Linked next /\ forall orderId case, IsCase db orderId case ->
        exists after, IsCase next orderId after /\ Landed file.commands case after := by
  obtain ⟨moved, ran, after_linked, lands⟩ := applyCommands_lands db actorUserId file.commands file.distinct
    linked (by
      intro command member
      obtain ⟨bulk, found, -⟩ := validated_command (admitted.accepted command member)
      obtain ⟨orderId, case, is, here, rfl⟩ := bulkDelivery_some linked found
      exact ⟨orderId, case, is, here, found⟩)
  have applies : ((file.commands.map fun command =>
      validateImportCommand command (bulkDelivery? db command.deliveryId)).all Option.isNone) = true := by
    simp only [List.all_eq_true, List.mem_map, forall_exists_index, and_imp, forall_apply_eq_imp_iff₂]
    exact fun command member => by simp [admitted.accepted command member]
  have same : forall record, SameCases moved { moved with imports := db.imports ++ [record] } :=
    fun record => ⟨rfl, rfl, rfl, rfl, rfl, rfl, fun _ => rfl, after_linked.opened⟩
  unfold importStatusCsv
  rw [admitted.fresh]
  simp only [bind_ok, pure_ok, Prod.mk.injEq, Bool.not_false, Bool.true_and, applies, applyCommands,
    if_true]
  refine ⟨_, _, ⟨moved, ran, rfl, rfl⟩, (same _).linked after_linked, fun orderId case is => ?_⟩
  obtain ⟨after, there, landed⟩ := lands orderId case is
  exact ⟨after, (same _).isCase.2 there, landed⟩

/-- The operation ends a delivery without success while its order holds collected cash. -/
inductive Spoils (db : Db) (now : Int) : Op -> Prop where
  | attempted (orderId : Id) (case : OrderCase) (input : RecordDeliveryAttempt) (actorUserId : Id)
      (nextAttemptAt : Option Int) (is : IsCase db orderId case)
      (outcome : input.outcome = .customerRefused \/ input.outcome = .failedAgeVerification)
      (admitted : AttemptAdmitted case input now nextAttemptAt) (cash : HoldsCash case) :
      Spoils db now (.recordAttempt case.delivery.id input actorUserId)
  | transitioned (orderId : Id) (case : OrderCase) (input : TransitionDelivery) (actorUserId : Id)
      (is : IsCase db orderId case) (target : input.target.status = .returnToSender)
      (admitted : TransitionAdmitted case input) (cash : HoldsCash case) :
      Spoils db now (.transition case.delivery.id input actorUserId)
  | imported (orderId : Id) (case : OrderCase) (importKey : Text) (file : DeliveryStatusCsv)
      (actorUserId : Id) (command : DeliveryStatusCsvCommand) (is : IsCase db orderId case)
      (listed : command ∈ file.commands) (here : command.deliveryId = case.delivery.id)
      (target : command.targetStatus = .returnToSender)
      (admitted : ImportAdmitted db importKey file) (cash : HoldsCash case) :
      Spoils db now (.importStatusCsv importKey false file actorUserId)

theorem refuted (linked : Linked next) (is : IsCase next orderId after)
    (unsuccessful : CaseUnsuccessful after) (holds : HoldsCash after) : Not (CashExcluded next) :=
  fun excluded => (excluded_cases linked).1 excluded orderId after is unsuccessful holds

theorem spoils_included {now : Int} {op : Op} (sums : Sums db) (spoiled : Spoils db now op) :
    exists next, exec db now op = .ok next /\ Not (CashExcluded next) := by
  have linked := sums.settled.linked
  cases spoiled with
  | attempted orderId case input actor nextAttemptAt is outcome admitted cash =>
    have ran := (recordAttempt_ok linked is input actor now).2 ⟨nextAttemptAt, admitted, rfl⟩
    refine ⟨_, ran, ?_⟩
    obtain ⟨after, taken, writes⟩ := recordAttempt_takes linked is ran
    refine refuted (writes.linked is linked) (writes.here is) ?_ ?_
    next =>
      cases taken with
      | attempted _ _ _ attempt _ _ _ _ recorded =>
        rcases outcome with refused | failedAge
        next => exact .inl (by simp [moved, orderMoved, refused, attemptOutcomeStatus, unsuccessfulStatuses])
        next =>
          refine .inr ⟨by simp [moved, orderMoved, failedAge, attemptOutcomeStatus], attempt, by simp, ?_⟩
          rw [recorded, failedAge]
          rfl
    next =>
      cases taken with
      | attempted => exact cash
  | transitioned orderId case input actor is target admitted cash =>
    have ran := (transition_ok linked is input actor).2 ⟨admitted, rfl⟩
    refine ⟨_, ran, ?_⟩
    obtain ⟨after, taken, writes⟩ := transition_takes linked is ran
    refine refuted (writes.linked is linked) (writes.here is) ?_ ?_
    next =>
      cases taken with
      | transitioned => exact .inl (by simp [moved, orderMoved, target, unsuccessfulStatuses])
    next =>
      cases taken with
      | transitioned => exact cash
  | imported orderId case importKey file actor command is listed here target admitted cash =>
    obtain ⟨next, record, ran, after_linked, lands⟩ := importStatusCsv_lands actor linked admitted
    refine ⟨next, by simp only [exec, ran]; rfl, ?_⟩
    obtain ⟨after, there, landed⟩ := lands orderId case is
    refine refuted after_linked there (.inl ?_) ?_
    next => rw [landed.target command listed here, target]; decide
    next => unfold HoldsCash; rw [landed.collection]; exact cash

theorem CaseStep.sameCollection {event : Event} (taken : CaseStep event case after)
    (moves : event ≠ .managed) : after.collection = case.collection := by
  cases taken <;> first | rfl | exact absurd rfl moves

-- An order is never spoiled, or only moves and holds no cash.
def Spares (db : Db) (allowed : Event -> Prop) (orderId : Id) : Prop :=
  (forall event, allowed event -> Not (spoils event)) \/
    (forall event, allowed event -> event ≠ .managed) /\
      forall case, IsCase db orderId case -> Not (HoldsCash case)

theorem path_excluded {allowed : Event -> Prop} (path : Path allowed case after) (sound : Sound case)
    (excluded : CaseExcluded case)
    (spares : (forall event, allowed event -> Not (spoils event)) \/
      (forall event, allowed event -> event ≠ .managed) /\ Not (HoldsCash case)) :
    CaseExcluded after := by
  rcases spares with unspoiled | ⟨moves, empty⟩
  next =>
    have kept : Sound after /\ CaseExcluded after := by
      refine @Path.keeps allowed (fun last => Sound last /\ CaseExcluded last) case after path
        (fun event before last ok taken kept => ?_) ⟨sound, excluded⟩
      exact ⟨taken.sound kept.1, CaseStep.excluded taken kept.1 (unspoiled event ok) kept.2⟩
    exact kept.2
  next =>
    have same : after.collection = case.collection := by
      refine @Path.keeps allowed (fun last => last.collection = case.collection) case after path
        (fun event before last ok taken kept => ?_) rfl
      exact (CaseStep.sameCollection taken (moves event ok)).trans kept
    intro _ holds
    unfold HoldsCash at holds
    rw [same] at holds
    exact empty holds

theorem fresh_empty (fresh : Fresh case) : Not (HoldsCash case) := by
  intro holds
  have positive := holds.2
  simp [fresh.collected] at positive

theorem advance_excluded {allowed : Id -> Event -> Prop} (advance : Advance allowed db next)
    (sums : Sums db) (excluded : CashExcluded db)
    (spares : forall orderId, Spares db (allowed orderId) orderId) : CashExcluded next := by
  refine (excluded_cases advance.linked).2 fun orderId after is => ?_
  obtain ⟨start, source, path⟩ := advance.created orderId after is
  rcases source with before | fresh
  next =>
    refine path_excluded path (sums.settled.sound orderId start before)
      ((excluded_cases sums.settled.linked).1 excluded orderId start before) ?_
    exact (spares orderId).imp_right fun only => ⟨only.1, only.2 start before⟩
  next =>
    refine path_excluded path fresh.sound (fun _ => fresh_empty fresh) ?_
    exact (spares orderId).imp_right fun only => ⟨only.1, fresh_empty fresh⟩

-- One order takes one event, and only cash-free orders take an event that spoils.
theorem takes_excluded {event : Event} (sums : Sums db) (is : IsCase db orderId case)
    (takes : Takes db next event case) (moves : event ≠ .managed)
    (free : spoils event -> Not (HoldsCash case)) (excluded : CashExcluded db) : CashExcluded next := by
  have advance : Advance (fun id taken => id = orderId /\ taken = event) db next :=
    takes.advance sums.settled.linked is ⟨rfl, rfl⟩
  refine advance_excluded advance sums excluded fun otherId => ?_
  by_cases spoiled : spoils event /\ otherId = orderId
  next =>
    obtain ⟨spoiled, rfl⟩ := spoiled
    refine .inr ⟨fun taken ok => ok.2 ▸ moves, fun other also => ?_⟩
    obtain rfl := is.unique also
    exact free spoiled
  next =>
    left
    rintro taken ⟨rfl, rfl⟩ ends
    exact spoiled ⟨ends, rfl⟩

theorem transition_excluded {now : Int} {id : Id} {input : TransitionDelivery} {actorUserId : Id}
    (sums : Sums db) (excluded : CashExcluded db)
    (other : Not (Spoils db now (.transition id input actorUserId)))
    (ran : transition db id input actorUserId = .ok next) : CashExcluded next := by
  have linked := sums.settled.linked
  obtain ⟨orderId, case, is, rfl⟩ := delivery_case linked ran
  obtain ⟨admitted, -⟩ := (transition_ok linked is input actorUserId).1 ran
  refine takes_excluded sums is (transition_takes linked is ran) (by simp) (fun ends cash => ?_) excluded
  have target : input.target.status = .returnToSender := by simpa [spoils] using ends
  exact other (.transitioned orderId case input actorUserId is target admitted cash)

theorem recordAttempt_excluded {now : Int} {id : Id} {input : RecordDeliveryAttempt} {actorUserId : Id}
    (sums : Sums db) (excluded : CashExcluded db)
    (other : Not (Spoils db now (.recordAttempt id input actorUserId)))
    (ran : recordAttempt db id input actorUserId now = .ok next) : CashExcluded next := by
  have linked := sums.settled.linked
  obtain ⟨orderId, case, is, rfl⟩ := delivery_case linked ran
  obtain ⟨nextAttemptAt, admitted, -⟩ := (recordAttempt_ok linked is input actorUserId now).1 ran
  refine takes_excluded sums is (recordAttempt_takes linked is ran) (by simp) (fun ends cash => ?_)
    excluded
  have outcome : input.outcome = .customerRefused \/ input.outcome = .failedAgeVerification := by
    simpa [spoils] using ends
  exact other (.attempted orderId case input actorUserId nextAttemptAt is outcome admitted cash)

-- A file changes orders only when it is applied, and then every row of it has been accepted.
theorem importStatusCsv_cases {importKey : Text} {dryRun : Bool} {file : DeliveryStatusCsv}
    {actorUserId : Id} {record : DeliveryStatusImport} (linked : Linked db)
    (ran : importStatusCsv db importKey dryRun file actorUserId = .ok (next, record)) :
    SameCases db next \/ dryRun = false /\ ImportAdmitted db importKey file := by
  unfold importStatusCsv at ran
  split at ran
  next =>
    simp only [bind_ok, pure_ok, Prod.mk.injEq] at ran
    obtain ⟨⟨⟩, -, rfl, -⟩ := ran
    exact .inl ⟨rfl, rfl, rfl, rfl, rfl, rfl, fun _ => rfl, linked.opened⟩
  next fresh =>
    simp only [bind_ok, pure_ok, Prod.mk.injEq] at ran
    obtain ⟨imported, moves, rfl, -⟩ := ran
    unfold applyCommands at moves
    split at moves
    next applies =>
      right
      simp only [Bool.and_eq_true, Bool.not_eq_true', List.all_eq_true, List.mem_map,
        Option.isNone_iff_eq_none, forall_exists_index, and_imp, forall_apply_eq_imp_iff₂] at applies
      obtain ⟨rfl, accepted⟩ := applies
      exact ⟨rfl, fresh, accepted⟩
    next =>
      obtain rfl := Except.ok.inj moves
      exact .inl ⟨rfl, rfl, rfl, rfl, rfl, rfl, fun _ => rfl, linked.opened⟩

theorem importStatusCsv_excluded {now : Int} {importKey : Text} {dryRun : Bool}
    {file : DeliveryStatusCsv} {actorUserId : Id} {record : DeliveryStatusImport} (sums : Sums db)
    (excluded : CashExcluded db)
    (other : Not (Spoils db now (.importStatusCsv importKey dryRun file actorUserId)))
    (ran : importStatusCsv db importKey dryRun file actorUserId = .ok (next, record)) :
    CashExcluded next := by
  have linked := sums.settled.linked
  rcases importStatusCsv_cases linked ran with same | ⟨rfl, admitted⟩
  next =>
    have advance : Advance (fun _ _ => False) db next := same.advance linked
    exact advance_excluded advance sums excluded fun _ => .inl fun _ never => never.elim
  next =>
    refine advance_excluded (importStatusCsv_advance linked ran) sums excluded fun orderId => ?_
    by_cases returns : exists command delivery, command ∈ file.commands /\
        delivery ∈ db.deliveries.rows /\ delivery.id = command.deliveryId /\
        delivery.orderId = orderId /\ command.targetStatus = .returnToSender
    next =>
      obtain ⟨command, delivery, listed, member, here, owner, target⟩ := returns
      refine .inr ⟨?_, fun case is cash => ?_⟩
      next =>
        rintro event ⟨_, _, -, -, -, -, rfl⟩
        simp
      next =>
        have found := (Table.lookup_iff linked.deliveries_unique _ _).2 ⟨member, owner⟩
        obtain rfl := Option.some.inj (is.delivery.symm.trans found)
        exact other (.imported orderId case importKey file actorUserId command is listed here.symm target
          admitted cash)
    next =>
      left
      rintro event ⟨command, delivery, listed, member, here, owner, rfl⟩ ends
      have target : command.targetStatus = .returnToSender := by simpa [spoils] using ends
      exact returns ⟨command, delivery, listed, member, here, owner, target⟩

theorem exec_excluded {now : Int} {op : Op} (sums : Sums db) (excluded : CashExcluded db)
    (other : Not (Spoils db now op)) (ran : exec db now op = .ok next) : CashExcluded next := by
  cases op with
  | transition => exact transition_excluded sums excluded other ran
  | recordAttempt => exact recordAttempt_excluded sums excluded other ran
  | importStatusCsv =>
    obtain ⟨⟨after, record⟩, imported, rfl⟩ := (map_ok _ _ _).1 ran
    exact importStatusCsv_excluded sums excluded other imported
  | _ =>
    refine advance_excluded (exec_advance sums ran) sums excluded fun orderId =>
      .inl fun event acted ends => ?_
    rcases acted with rfl | acted
    next => simp [spoils] at ends
    next =>
      first
      | exact acted
      | (obtain rfl := acted; simp [spoils] at ends)
      | (obtain ⟨rfl, -⟩ := acted; simp [spoils] at ends)

theorem step_excluded (state : Clocked) (label : Timed) (sums : Sums state.db)
    (excluded : CashExcluded state.db) : CashExcluded (step state label).db <->
      Not (Spoils state.db (state.now + label.elapsed) label.op) := by
  constructor
  next =>
    intro kept spoiled
    obtain ⟨next, ran, refutes⟩ := spoils_included sums spoiled
    have here : (step state label).db = next := by simp [step, ran, succeeded]
    exact refutes (here ▸ kept)
  next =>
    intro other
    cases step_db state label with
    | inl same => exact same ▸ excluded
    | inr ran => exact exec_excluded sums excluded other ran

theorem empty_excluded (config : Config.Configuration) (orderSequence : Option Int) :
    CashExcluded (Db.empty config orderSequence) := by
  simp [CashExcluded, Db.empty]

/-- Collected cash and unsuccessful outcomes exclude each other throughout a run exactly when no
step of it refuses, age-fails or returns a delivery whose order holds collected cash. -/
theorem cash_excluded_iff (config : Config.Configuration) (orderSequence : Option Int) (start : Int)
    (labels : List Timed) :
    (forall state, Runs.Visits step (opening config orderSequence start) labels state ->
        CashExcluded state.db) <->
      forall state label, Runs.Takes step (opening config orderSequence start) labels state label ->
        Not (Spoils state.db (state.now + label.elapsed) label.op) :=
  @Runs.always_iff_steps Clocked Timed step (fun state => Sums state.db)
    (fun state => CashExcluded state.db)
    (fun state label => Not (Spoils state.db (state.now + label.elapsed) label.op)) step_sums
    step_excluded _ (empty_sums config orderSequence) (empty_excluded config orderSequence) labels

-- The courier records the full amount, and then that the customer refused.
def refusedAfterCollection : List Op :=
  Sample.dispatched ++ [Sample.collect 49840 7 8, Sample.attempt 9 .customerRefused none]

theorem refused_order_holds_cash :
    Not (forall config orderSequence start labels state,
      Runs.Visits step (opening config orderSequence start) labels state ->
        CashExcluded state.db) := by
  intro claimed
  have excluded := claimed Sample.shop (some 0) 0 (Sample.timed refusedAfterCollection) _
    (Runs.visits_end _ _)
  have orders : (Sample.after refusedAfterCollection).db.orders.rows.any (fun order =>
      order.status == .refused && (Sample.after refusedAfterCollection).db.collections.rows.any
        fun collection => collection.orderId == order.id && collection.status != .voided &&
          decide (0 < collection.collectedMillimes)) = true := by
    decide +kernel
  obtain ⟨order, member, found⟩ := List.any_eq_true.1 orders
  rw [Bool.and_eq_true, beq_iff_eq, List.any_eq_true] at found
  obtain ⟨refused, collection, listed, held⟩ := found
  simp only [Bool.and_eq_true, beq_iff_eq, bne_iff_ne, decide_eq_true_eq] at held
  have none := excluded order member (.inl (by simp [refused, unsuccessfulStatuses])) collection listed
    held.1.1 held.1.2
  exact absurd held.2 (not_lt.2 none)

end VapeCommerce.Delivery.Outcomes
