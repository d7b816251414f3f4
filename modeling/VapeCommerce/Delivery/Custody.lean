import VapeCommerce.Delivery.Couriers
import VapeCommerce.Delivery.Outstanding

set_option autoImplicit false

-- Couriers are suspended and archived while deliveries and manifests are given to them.
namespace VapeCommerce.Delivery.Custody

open VapeCommerce.Lib VapeCommerce.Lib.Outcome VapeCommerce.Schema VapeCommerce.Config
open VapeCommerce.Database VapeCommerce.Cash.Admin VapeCommerce.Delivery.Admin
open VapeCommerce.Delivery.Operations VapeCommerce.Delivery.Couriers VapeCommerce.Delivery.Outstanding
open VapeCommerce.Delivery.Views
open VapeCommerce.System hiding step opening

inductive Call where
  | createCourier (input : CreateManualCourier)
  | updateCourier (id : Id) (input : UpdateManualCourier)
  | delivery (op : DeliveryOp)

-- The courier row a call reads FOR UPDATE.
def Call.courier : Call -> Option Id
  | .createCourier _ => none
  | .updateCourier id _ => some id
  | .delivery (.assign _ _ input) => some input.courierId
  | .delivery (.createManifest input) => some input.courierId
  | .delivery _ => none

-- An assignment reads the delivery before it locks the courier; the others lock first.
def Call.locksFirst : Call -> Bool
  | .delivery (.assign ..) => false
  | _ => true

def Call.exec (whatsApp : WhatsAppCheck) (snapshot current : Store) (now : Int) :
    Call -> Except Failure Store
  | .createCourier input => do
    let couriers <- createManualCourier whatsApp snapshot current.couriers input now
    return { current with couriers }
  | .updateCourier id input => do
    let couriers <- updateManualCourier whatsApp snapshot current.couriers id input now
    return { current with couriers }
  | .delivery op => do
    let db <- op.exec { snapshot := snapshot.listed, current := current.listed } now
    return { current with db }

-- A transaction in progress: what its plain reads see, and whether it holds its courier row.
structure Transaction where
  call : Call
  snapshot : Option Store
  locked : Bool

def Transaction.holds (transaction : Transaction) (courierId : Id) : Bool :=
  transaction.locked && transaction.call.courier == some courierId

def Transaction.mayRead (transaction : Transaction) : Bool :=
  transaction.snapshot.isNone && (transaction.locked || transaction.call.courier.isNone ||
    !transaction.call.locksFirst)

def Transaction.mayLock (transaction : Transaction) : Bool :=
  !transaction.locked && transaction.snapshot.isNone == transaction.call.locksFirst

def Transaction.mayCommit (transaction : Transaction) : Bool :=
  transaction.locked || transaction.call.courier.isNone

structure Session where
  now : Int
  store : Store
  slots : List (Option Transaction)

def Session.transaction? (session : Session) (index : Nat) : Option Transaction :=
  session.slots[index]?.join

def Session.set (session : Session) (index : Nat) (slot : Option Transaction) : Session :=
  { session with slots := session.slots.set index slot }

def Session.held (session : Session) (courierId : Id) : Bool :=
  session.slots.any fun slot => slot.any fun transaction => transaction.holds courierId

inductive Label where
  | atomic (timed : Timed)
  | begins (call : Call)
  | reads (index : Nat)
  | locks (index : Nat)
  | commits (index elapsed : Nat)
  | aborts (index : Nat)

def Session.run (session : Session) (timed : Timed) : Session :=
  let reached := System.step { now := session.now, db := session.store.listed } timed
  { session with
    now := reached.now
    store := { session.store with db := reached.db } }

def Session.commit (whatsApp : WhatsAppCheck) (session : Session) (index elapsed : Nat) (call : Call)
    (snapshot : Store) : Session where
  now := session.now + elapsed
  store := (succeeded (call.exec whatsApp snapshot session.store (session.now + elapsed))).getD
    session.store
  slots := session.slots.set index none

-- A step that is not open to the transaction, or waits for a lock, changes nothing.
def step (whatsApp : WhatsAppCheck) (session : Session) : Label -> Session
  | .atomic timed => if locksCourier timed.op then session else session.run timed
  | .begins call =>
    { session with slots := session.slots ++ [some { call, snapshot := none, locked := false }] }
  | .reads index =>
    match session.transaction? index with
    | some transaction =>
      if transaction.mayRead then
        session.set index (some { transaction with snapshot := some session.store })
      else session
    | none => session
  | .locks index =>
    match session.transaction? index with
    | some transaction =>
      if transaction.mayLock && !transaction.call.courier.any session.held then
        session.set index (some { transaction with locked := true })
      else session
    | none => session
  | .commits index elapsed =>
    match session.transaction? index with
    | some { call, snapshot := some snapshot, locked } =>
      if Transaction.mayCommit { call, snapshot := some snapshot, locked } then
        session.commit whatsApp index elapsed call snapshot
      else session
    | _ => session
  | .aborts index => session.set index none

def opening (config : Configuration) (orderSequence : Option Int) (now : Int) : Session where
  now := now
  store := { db := Db.empty config orderSequence, couriers := Table.empty }
  slots := []

def isActive (couriers : CourierTable) (courierId : Id) : Bool :=
  couriers.rows.any fun record => record.id == courierId && record.status == .active

/-- A courier that is not active has nothing in hand. -/
def InCustody (store : Store) : Prop :=
  forall record, record ∈ store.couriers.rows -> record.status ≠ .active ->
    (forall delivery, delivery ∈ store.db.deliveries.rows -> delivery.courierId = some record.id ->
      delivery.status ∈ Orders.StateMachine.terminalDeliveryStatuses) /\
      forall manifest, manifest ∈ store.db.manifests.rows -> manifest.courierId = record.id ->
        activeManifest manifest = false

-- An assignment commits for a courier that its snapshot shows active and that no longer is.
def assignsStale (session : Session) : Label -> Bool
  | .commits index _ =>
    match session.transaction? index with
    | some { call := .delivery (.assign _ _ input), snapshot := some snapshot, .. } =>
      isActive snapshot.couriers input.courierId && !isActive session.store.couriers input.courierId
    | _ => false
  | _ => false

-- What a transaction that locked its courier first can rely on until it commits.
structure Guarded (store : Store) (courierId : Id) (snapshot : Store) : Prop where
  work : HasWork store.db courierId -> HasWork snapshot.db courierId
  courier : forall record, snapshot.couriers.find? courierId = some record ->
    store.couriers.find? courierId = some record

structure Sound (session : Session) : Prop where
  exclusive : forall left right one other courierId, session.transaction? left = some one ->
    session.transaction? right = some other -> one.holds courierId = true ->
      other.holds courierId = true -> left = right
  guarded : forall index transaction courierId snapshot,
    session.transaction? index = some transaction -> transaction.holds courierId = true ->
      transaction.call.locksFirst = true -> transaction.snapshot = some snapshot ->
        Guarded session.store courierId snapshot
  custody : InCustody session.store

-- A change of the store that touches no courier but one, and gives work to no other.
structure Follows (courier : Option Id) (store next : Store) : Prop where
  work : forall courierId, HasWork next.db courierId ->
    courier = some courierId \/ HasWork store.db courierId
  couriers : forall courierId record, courier ≠ some courierId ->
    store.couriers.find? courierId = some record -> next.couriers.find? courierId = some record

theorem inCustody_iff (store : Store) : InCustody store <->
    forall record, record ∈ store.couriers.rows -> HasWork store.db record.id ->
      record.status = .active := by
  constructor
  next =>
    intro custody record member works
    by_contra inactive
    obtain ⟨ended, closed⟩ := custody record member inactive
    obtain ⟨delivery, present, given, running⟩ | ⟨manifest, present, given, active⟩ := works
    next => exact running (ended delivery present given)
    next => simp [closed manifest present given] at active
  next =>
    intro works record member inactive
    constructor
    next =>
      intro delivery present given
      by_contra running
      exact inactive (works record member (.inl ⟨delivery, present, given, running⟩))
    next =>
      intro manifest present given
      by_contra active
      exact inactive (works record member (.inr ⟨manifest, present, given, by simpa using active⟩))

theorem isActive_iff (couriers : CourierTable) (courierId : Id) :
    isActive couriers courierId = true <->
      exists record, couriers.find? courierId = some record /\ record.status = .active := by
  simp only [isActive, List.any_eq_true, Bool.and_eq_true, beq_iff_eq, Table.find?_iff]
  constructor
  next =>
    rintro ⟨record, member, named, active⟩
    exact ⟨record, ⟨member, named⟩, active⟩
  next =>
    rintro ⟨record, ⟨member, named⟩, active⟩
    exact ⟨record, member, named, active⟩

theorem listed_active (store : Store) (courierId : Id) :
    (findActiveCourier store.listed.config courierId).isSome = isActive store.couriers courierId := by
  rw [findActiveCourier, Bool.eq_iff_iff, List.find?_isSome, isActive, List.any_eq_true]
  simp [Store.listed, CourierRecord.listed]

section Calls

variable {whatsApp : WhatsAppCheck} {snapshot current next : Store} {now : Int}

theorem createManualCourier_inserts {input : CreateManualCourier} {couriers : CourierTable}
    (ran : createManualCourier whatsApp snapshot current.couriers input now = .ok couriers) :
    current.couriers.insert? (newCourier input now) = some couriers := by
  simp only [createManualCourier, bind_ok, create_ok] at ran
  obtain ⟨_, -, _, -, _, -, inserted⟩ := ran
  exact inserted

theorem find?_inserted {couriers after : CourierTable} {added record : CourierRecord} {id : Id}
    (inserted : couriers.insert? added = some after) (found : couriers.find? id = some record) :
    after.find? id = some record := by
  have apart : added.id ≠ id := fun same =>
    (Table.insert?_rows inserted).2 record (Table.find?_mem found)
      ((Table.find?_key found).trans same.symm)
  rw [Table.find?_insert? inserted, if_neg apart, found]

-- The courier an update read, and what it wrote.
structure CourierChanged (snapshot : Store) (couriers : CourierTable) (id : Id)
    (input : UpdateManualCourier) (now : Int) (after : CourierTable) (courier : CourierRecord) :
    Prop where
  found : snapshot.couriers.find? id = some courier
  free : input.status.any (fun status => status != .active) = true -> courier.status = .active ->
    Not (HasWork snapshot.db id)
  rows : after = couriers.update
    (fun row => row.id == id && row.updatedAt == courier.updatedAt) (courierUpdated input now)
      (courierUpdated_id input now)

theorem count_zero {R K : Type} {key : R -> K} {table : Table key} {chosen : R -> Bool}
    (none : Not (table.count chosen > 0)) {row : R} (member : row ∈ table.rows) :
    chosen row = false := by
  have empty : table.filter chosen = [] := List.length_eq_zero_iff.1 (by
    have counted : table.count chosen = 0 := by omega
    exact counted)
  have missed := List.filter_eq_nil_iff.1 empty row member
  simpa using missed

theorem assertNoCustody_free {db : Db} {courierId : Id} (ran : assertNoCustody db courierId = .ok ()) :
    Not (HasWork db courierId) := by
  simp only [assertNoCustody, throwIf_ok, not_or] at ran
  rintro (⟨delivery, member, given, running⟩ | ⟨manifest, member, given, active⟩)
  next =>
    have missed := count_zero ran.1 member
    simp [given, running] at missed
  next =>
    have missed := count_zero ran.2 member
    simp [given, active] at missed

theorem updateManualCourier_changes {id : Id} {input : UpdateManualCourier} {couriers : CourierTable}
    (ran : updateManualCourier whatsApp snapshot current.couriers id input now = .ok couriers) :
    exists courier, CourierChanged snapshot current.couriers id input now couriers courier := by
  simp only [updateManualCourier, bind_ok, orThrow_ok, requireWhen_ok, updateOne_ok] at ran
  obtain ⟨_, -, courier, found, _, -, _, -, _, -, _, -, ⟨⟩, free, _, -, -, rfl⟩ := ran
  exact ⟨courier, found, fun named active => assertNoCustody_free (free ⟨named, active⟩), rfl⟩

theorem call_follows {call : Call} (ran : call.exec whatsApp snapshot current now = .ok next) :
    Follows call.courier current next := by
  cases call with
  | createCourier input =>
    simp only [Call.exec, bind_ok, pure_ok] at ran
    obtain ⟨couriers, created, rfl⟩ := ran
    exact ⟨fun _ works => .inr works, fun courierId record _ found =>
      find?_inserted (createManualCourier_inserts created) found⟩
  | updateCourier id input =>
    simp only [Call.exec, bind_ok, pure_ok] at ran
    obtain ⟨couriers, updated, rfl⟩ := ran
    obtain ⟨courier, changed⟩ := updateManualCourier_changes updated
    refine ⟨fun _ works => .inr works, fun courierId record apart found => ?_⟩
    have elsewhere : record.id ≠ id := fun same =>
      apart (congrArg some (same.symm.trans (Table.find?_key found)))
    rw [changed.rows, Table.find?_update, found, Option.map_some,
      Table.rewrite_other (by simp [elsewhere])]
  | delivery op =>
    simp only [Call.exec, bind_ok, pure_ok] at ran
    obtain ⟨db, moved, rfl⟩ := ran
    refine ⟨fun courierId works => ?_, fun _ _ _ found => found⟩
    cases op with
    | assign action id input =>
      exact ((assignment_adds moved).work works).imp_left fun named => congrArg some named.symm
    | createManifest input =>
      exact ((createManifest_adds moved).2.work works).imp_left fun named => congrArg some named.symm
    | _ => exact .inr (((DeliveryOp.spares rfl moved).work works).resolve_left id)

-- A commit whose courier, if it gives work to one, is active.
theorem follows_custody {courier : Option Id} (follows : Follows courier current next)
    (same : next.couriers = current.couriers)
    (active : forall courierId, courier = some courierId -> isActive current.couriers courierId = true)
    (custody : InCustody current) : InCustody next := by
  rw [inCustody_iff] at custody ⊢
  rw [same]
  intro record member works
  obtain named | worked := follows.work record.id works
  next =>
    obtain ⟨other, found, standing⟩ := (isActive_iff _ _).1 (active record.id named)
    rw [Table.find?_of_mem member] at found
    exact Option.some.inj found ▸ standing
  next => exact custody record member worked

theorem updateCourier_custody {id : Id} {input : UpdateManualCourier}
    (guarded : Guarded current id snapshot) (custody : InCustody current)
    (ran : (Call.updateCourier id input).exec whatsApp snapshot current now = .ok next) :
    InCustody next := by
  simp only [Call.exec, bind_ok, pure_ok] at ran
  obtain ⟨couriers, updated, rfl⟩ := ran
  obtain ⟨courier, changed⟩ := updateManualCourier_changes updated
  rw [inCustody_iff] at custody ⊢
  intro record member works
  simp only [changed.rows, Table.update_rows] at member
  obtain ⟨old, present, rfl⟩ := List.mem_map.1 member
  rw [Table.rewrite_field (courierUpdated_id input now)] at works
  have standing := custody old present works
  unfold Table.rewrite
  split
  next hit =>
    simp only [Bool.and_eq_true, beq_iff_eq] at hit
    obtain ⟨rfl, -⟩ := hit
    -- The row is still the one that was read under the lock.
    have read := guarded.courier courier changed.found
    rw [Table.find?_of_mem present] at read
    obtain rfl := Option.some.inj read
    cases named : input.status with
    | none => simpa [courierUpdated, named] using standing
    | some status =>
      by_contra inactive
      have leaves : input.status.any (fun status => status != .active) = true := by
        simpa [courierUpdated, named] using inactive
      exact changed.free leaves standing (guarded.work works)
  next => exact standing

theorem createCourier_custody {input : CreateManualCourier} (custody : InCustody current)
    (ran : (Call.createCourier input).exec whatsApp snapshot current now = .ok next) :
    InCustody next := by
  simp only [Call.exec, bind_ok, pure_ok] at ran
  obtain ⟨couriers, created, rfl⟩ := ran
  rw [inCustody_iff] at custody ⊢
  intro record member works
  rw [(Table.insert?_rows (createManualCourier_inserts created)).1] at member
  obtain known | added := List.mem_append.1 member
  next => exact custody record known works
  next => rw [List.mem_singleton.1 added]; rfl

end Calls

section Slots

variable {session : Session} {index other : Nat} {slot : Option Transaction}
  {transaction : Transaction}

theorem transaction?_set (session : Session) (index : Nat) (slot : Option Transaction) (other : Nat) :
    (session.set index slot).transaction? other =
      if other = index /\ index < session.slots.length then slot else session.transaction? other := by
  simp only [Session.transaction?, Session.set, List.getElem?_set]
  split_ifs <;> simp_all

theorem transaction?_bound (found : session.transaction? index = some transaction) :
    index < session.slots.length := by
  by_contra beyond
  simp [Session.transaction?, List.getElem?_eq_none (Nat.le_of_not_lt beyond)] at found

theorem transaction?_put (found : session.transaction? index = some transaction)
    (slot : Option Transaction) (other : Nat) :
    (session.set index slot).transaction? other =
      if other = index then slot else session.transaction? other := by
  have bound := transaction?_bound found
  rw [transaction?_set]
  simp only [bound, and_true]

theorem transaction?_begun (session : Session) (begun : Transaction) (other : Nat) :
    Session.transaction? { session with slots := session.slots ++ [some begun] } other =
      if other = session.slots.length then some begun else session.transaction? other := by
  simp only [Session.transaction?, List.getElem?_append]
  split_ifs with before last last
  next => omega
  next => rfl
  next => simp [last]
  next => rw [List.getElem?_eq_none (by simp; omega), List.getElem?_eq_none (by omega)]

theorem held_of_holds (found : session.transaction? index = some transaction) {courierId : Id}
    (holds : transaction.holds courierId = true) : session.held courierId = true := by
  rw [Session.held, List.any_eq_true]
  refine ⟨some transaction, ?_, holds⟩
  rw [Session.transaction?, Option.join_eq_some_iff] at found
  exact List.mem_of_getElem? found

end Slots

section Steps

variable {session next : Session} {index : Nat} {whatsApp : WhatsAppCheck}

-- One slot is replaced; the others still rely on what they relied on.
theorem Sound.replaced (sound : Sound session) (slot : Option Transaction)
    (lookup : forall other, next.transaction? other =
      if other = index then slot else session.transaction? other)
    (alone : forall transaction courierId, slot = some transaction ->
      transaction.holds courierId = true -> forall other one, other ≠ index ->
        session.transaction? other = some one -> one.holds courierId = false)
    (guarded : forall transaction courierId snapshot, slot = some transaction ->
      transaction.holds courierId = true -> transaction.call.locksFirst = true ->
        transaction.snapshot = some snapshot -> Guarded next.store courierId snapshot)
    (kept : forall other transaction courierId snapshot, other ≠ index ->
      session.transaction? other = some transaction -> transaction.holds courierId = true ->
        Guarded session.store courierId snapshot -> Guarded next.store courierId snapshot)
    (custody : InCustody next.store) : Sound next where
  custody := custody
  exclusive := by
    intro left right one other courierId here there held again
    rw [lookup] at here there
    split_ifs at here there with first second second
    next => rw [first, second]
    next =>
      have free := alone one courierId here held right other second there
      simp [free] at again
    next =>
      have free := alone other courierId there again left one first here
      simp [free] at held
    next => exact sound.exclusive left right one other courierId here there held again
  guarded := by
    intro place transaction courierId snapshot here held first opened
    rw [lookup] at here
    split_ifs at here with same
    next => exact guarded transaction courierId snapshot here held first opened
    next =>
      exact kept place transaction courierId snapshot same here held
        (sound.guarded place transaction courierId snapshot here held first opened)

-- A slot is replaced and nothing is committed.
theorem Sound.waited (sound : Sound session) (slot : Option Transaction)
    (store : next.store = session.store)
    (lookup : forall other, next.transaction? other =
      if other = index then slot else session.transaction? other)
    (alone : forall transaction courierId, slot = some transaction ->
      transaction.holds courierId = true -> forall other one, other ≠ index ->
        session.transaction? other = some one -> one.holds courierId = false)
    (guarded : forall transaction courierId snapshot, slot = some transaction ->
      transaction.holds courierId = true -> transaction.call.locksFirst = true ->
        transaction.snapshot = some snapshot -> Guarded session.store courierId snapshot) :
    Sound next := by
  apply sound.replaced slot lookup alone
  case guarded => exact store ▸ guarded
  case kept => exact fun _ _ _ _ _ _ _ relied => store ▸ relied
  case custody => exact store ▸ sound.custody

theorem Guarded.refl (store : Store) (courierId : Id) : Guarded store courierId store :=
  ⟨fun works => works, fun _ found => found⟩

theorem Guarded.follows {store after snapshot : Store} {courierId : Id} {courier : Option Id}
    (relied : Guarded store courierId snapshot) (follows : Follows courier store after)
    (apart : courier ≠ some courierId) : Guarded after courierId snapshot where
  work := fun works => relied.work ((follows.work courierId works).resolve_left apart)
  courier := fun record found =>
    follows.couriers courierId record apart (relied.courier record found)

theorem begins_sound (sound : Sound session) (call : Call) :
    Sound (step whatsApp session (.begins call)) := by
  refine sound.waited (some { call, snapshot := none, locked := false }) rfl
    (transaction?_begun session _) ?_ ?_
  next =>
    intro transaction courierId same held
    obtain rfl := Option.some.inj same
    simp [Transaction.holds] at held
  next =>
    intro transaction courierId snapshot same held
    obtain rfl := Option.some.inj same
    simp [Transaction.holds] at held

theorem reads_sound (sound : Sound session) (index : Nat) :
    Sound (step whatsApp session (.reads index)) := by
  simp only [step]
  split
  next transaction found =>
    split_ifs
    next =>
      refine @Sound.waited session (session.set index _) index sound _ rfl
        (transaction?_put found _) ?_ ?_
      next =>
        intro after courierId same held other one apart there
        obtain rfl := Option.some.inj same
        by_contra again
        exact apart (sound.exclusive other index one transaction courierId there found
          (by simpa using again) held)
      next =>
        intro after courierId snapshot same held _ opened
        obtain rfl := Option.some.inj same
        obtain rfl := Option.some.inj opened
        exact Guarded.refl _ _
    next => exact sound
  next => exact sound

theorem locks_sound (sound : Sound session) (index : Nat) :
    Sound (step whatsApp session (.locks index)) := by
  simp only [step]
  split
  next transaction found =>
    split_ifs with opens
    next =>
      simp only [Transaction.mayLock, Bool.and_eq_true, Bool.not_eq_true', beq_iff_eq] at opens
      refine @Sound.waited session (session.set index _) index sound _ rfl
        (transaction?_put found _) ?_ ?_
      next =>
        intro after courierId same held other one apart there
        obtain rfl := Option.some.inj same
        simp only [Transaction.holds, Bool.true_and, beq_iff_eq] at held
        have free := opens.2
        rw [held, Option.any_some] at free
        by_contra again
        rw [held_of_holds there (by simpa using again)] at free
        exact absurd free (by simp)
      next =>
        intro after courierId snapshot same held first opened
        obtain rfl := Option.some.inj same
        have closed := opens.1.2
        simp only at first opened
        simp [first, opened] at closed
    next => exact sound
  next => exact sound

theorem aborts_sound (sound : Sound session) (index : Nat) :
    Sound (step whatsApp session (.aborts index)) := by
  by_cases bound : index < session.slots.length
  next =>
    refine @Sound.waited session (session.set index none) index sound none rfl (fun other => ?_)
      (by simp) (by simp)
    rw [transaction?_set]
    simp only [bound, and_true]
  next =>
    have same : session.set index none = session := by
      rw [Session.set, List.set_eq_of_length_le (Nat.le_of_not_lt bound)]
    rwa [step, same]

theorem call_custody {call : Call} {snapshot current next : Store} {now : Int}
    (custody : InCustody current)
    (guarded : forall courierId, call.courier = some courierId -> call.locksFirst = true ->
      Guarded current courierId snapshot)
    (fresh : forall action id input, call = .delivery (.assign action id input) ->
      isActive snapshot.couriers input.courierId = true ->
        isActive current.couriers input.courierId = true)
    (ran : call.exec whatsApp snapshot current now = .ok next) : InCustody next := by
  have follows := call_follows ran
  cases call with
  | createCourier input => exact createCourier_custody custody ran
  | updateCourier id input => exact updateCourier_custody (guarded id rfl rfl) custody ran
  | delivery op =>
    simp only [Call.exec, bind_ok, pure_ok] at ran
    obtain ⟨db, moved, rfl⟩ := ran
    apply follows_custody follows rfl _ custody
    intro courierId locked
    cases op with
    | assign action id input =>
      obtain rfl := Option.some.inj locked
      refine fresh action id input rfl ?_
      rw [<- listed_active]
      exact assignment_active moved
    | createManifest input =>
      obtain rfl := Option.some.inj locked
      have active := (createManifest_adds moved).1
      simp only [listed_active] at active
      obtain ⟨record, found, standing⟩ := (isActive_iff _ _).1 active
      exact (isActive_iff _ _).2
        ⟨record, (guarded input.courierId rfl rfl).courier record found, standing⟩
    | _ => simp [Call.courier] at locked

theorem commits_sound (sound : Sound session) (index elapsed : Nat)
    (fresh : assignsStale session (.commits index elapsed) = false) :
    Sound (step whatsApp session (.commits index elapsed)) := by
  simp only [step]
  split
  next call snapshot locked found =>
    split_ifs with ready
    next =>
      have lookup : forall other,
          (session.commit whatsApp index elapsed call snapshot).transaction? other =
            if other = index then none else session.transaction? other :=
        transaction?_put found none
      have holds : forall courierId, call.courier = some courierId ->
          Transaction.holds { call, snapshot := some snapshot, locked } courierId = true := by
        intro courierId named
        simp only [Transaction.mayCommit, named, Option.isNone_some, Bool.or_false] at ready
        simp [Transaction.holds, named, ready]
      cases ran : call.exec whatsApp snapshot session.store (session.now + elapsed) with
      | error failure =>
        exact @Sound.waited session _ index sound none (by simp [Session.commit, ran, succeeded]) lookup
          (by simp) (by simp)
      | ok next =>
        have reached : (session.commit whatsApp index elapsed call snapshot).store = next := by
          simp [Session.commit, ran, succeeded]
        have follows := call_follows ran
        refine sound.replaced none lookup (by simp) (by simp) ?_ ?_
        next =>
          intro other transaction courierId view apart there held relied
          rw [reached]
          refine relied.follows follows fun named => apart ?_
          exact sound.exclusive other index transaction _ courierId there found held
            (holds courierId named)
        next =>
          rw [reached]
          refine call_custody sound.custody ?_ ?_ ran
          next =>
            intro courierId named first
            exact sound.guarded index _ courierId snapshot found (holds courierId named) first rfl
          next =>
            rintro action id input rfl standing
            simp only [assignsStale, found, standing, Bool.true_and, Bool.not_eq_false'] at fresh
            exact fresh
    next => exact sound
  next => exact sound

theorem atomic_sound (sound : Sound session) (timed : Timed) :
    Sound (step whatsApp session (.atomic timed)) := by
  simp only [step]
  split_ifs with locks
  next => exact sound
  next =>
    have follows : Follows none session.store (session.run timed).store := by
      refine ⟨fun courierId works => .inr ?_, fun _ _ _ found => found⟩
      obtain same | ran := step_db { now := session.now, db := session.store.listed } timed
      next =>
        simp only [Session.run, same] at works
        exact works
      next =>
        exact ((exec_spares (by simpa using locks) ran).work works).resolve_left id
    exact {
      exclusive := sound.exclusive
      guarded := fun index transaction courierId snapshot found held first opened =>
        (sound.guarded index transaction courierId snapshot found held first opened).follows follows
          (by simp)
      custody := follows_custody follows rfl (by simp) sound.custody }

/-- One step of any transaction keeps custody, unless it is a stale assignment. -/
theorem step_sound (session : Session) (label : Label) (sound : Sound session)
    (fresh : assignsStale session label = false) : Sound (step whatsApp session label) := by
  cases label with
  | atomic timed => exact atomic_sound sound timed
  | begins call => exact begins_sound sound call
  | reads index => exact reads_sound sound index
  | locks index => exact locks_sound sound index
  | commits index elapsed => exact commits_sound sound index elapsed fresh
  | aborts index => exact aborts_sound sound index

theorem opening_sound (config : Configuration) (orderSequence : Option Int) (now : Int) :
    Sound (opening config orderSequence now) where
  exclusive := by
    intro left right one other courierId found
    simp [Session.transaction?, opening] at found
  guarded := by
    intro index transaction courierId snapshot found
    simp [Session.transaction?, opening] at found
  custody := by
    intro record member
    simp [opening] at member

end Steps

/-- In every interleaving whose assignments commit for couriers that are still active, a courier that
is not active has nothing in hand, in any state. -/
theorem couriers_in_custody (whatsApp : WhatsAppCheck) (config : Configuration)
    (orderSequence : Option Int) (start : Int) (labels : List Label)
    (fresh : forall session label,
      Runs.Takes (step whatsApp) (opening config orderSequence start) labels session label ->
        assignsStale session label = false) :
    forall session, Runs.Visits (step whatsApp) (opening config orderSequence start) labels session ->
      InCustody session.store :=
  fun _ visited => (Runs.fine_visits_keeps step_sound (opening_sound config orderSequence start)
    fresh visited).custody

namespace Sample

def unchecked : WhatsAppCheck := fun _ _ => .ok ()

def newDriver : CreateManualCourier where
  id := 5
  code := "driver".toList
  availabilityStatus := none
  phoneE164 := none
  whatsappPhoneE164 := none
  defaultFeeMillimes := none
  maximumActiveDeliveries := none
  whatsappTemplate := none
  coverageZones := []

def suspend (expectedUpdatedAt : Int) : UpdateManualCourier where
  expectedUpdatedAt := expectedUpdatedAt
  code := none
  availabilityStatus := none
  phoneE164 := none
  whatsappPhoneE164 := none
  defaultFeeMillimes := none
  maximumActiveDeliveries := none
  whatsappTemplate := none
  coverageZones := none
  status := some .suspended
  describes := false

def assign : Call :=
  .delivery (.assign .assign 1
    { courierId := 5, expectedVersion := 3, trackingNumber := none, acknowledgedWarnings := [] })

-- A courier, and an order prepared for delivery.
def prepared : List Label :=
  [.begins (.createCourier newDriver), .reads 0, .commits 0 1] ++
    (System.Sample.timed (System.Sample.stocked ++ [.createOrder System.Sample.call,
      .confirm 1 1 9, .prepare 1 2 9])).map .atomic

def assigned : List Label :=
  prepared ++ [.begins assign, .reads 1, .locks 1, .commits 1 1]

-- The courier is suspended between the assignment's first read and its lock.
def suspendedMeanwhile : List Label :=
  prepared ++ [.begins assign, .reads 1, .begins (.updateCourier 5 (suspend 1)), .locks 2, .reads 2,
    .commits 2 1, .locks 1, .commits 1 1]

def start : Session := opening System.Sample.shop (some 0) 0

def reached (labels : List Label) : Session := Runs.run (step unchecked) start labels

end Sample

theorem assigned_in_custody : InCustody (Sample.reached Sample.assigned).store := by
  have checked : Runs.every (step Sample.unchecked) (fun session label => !assignsStale session label)
      Sample.start Sample.assigned = true := by
    decide +kernel
  exact couriers_in_custody Sample.unchecked System.Sample.shop (some 0) 0 Sample.assigned
    (fun session label taken => by simpa using Runs.every_takes checked taken) _
    (Runs.visits_end _ _)

-- Every transaction is over, and the suspended courier has the delivery.
theorem suspended_courier_assigned :
    Not (forall whatsApp config orderSequence start labels session,
      Runs.Visits (step whatsApp) (opening config orderSequence start) labels session ->
        (forall slot, slot ∈ session.slots -> slot.isNone = true) -> InCustody session.store) := by
  intro holds
  have idle : ((Sample.reached Sample.suspendedMeanwhile).slots.all Option.isNone) = true := by
    decide +kernel
  have suspended : ((Sample.reached Sample.suspendedMeanwhile).store.couriers.rows.any fun record =>
      record.id == 5 && record.status == .suspended) = true := by
    decide +kernel
  have given : ((Sample.reached Sample.suspendedMeanwhile).store.db.deliveries.rows.any fun delivery =>
      delivery.courierId == some 5 && delivery.status == .preparing) = true := by
    decide +kernel
  have custody := holds Sample.unchecked System.Sample.shop (some 0) 0 Sample.suspendedMeanwhile
    (Sample.reached Sample.suspendedMeanwhile) (Runs.visits_end _ _) (List.all_eq_true.1 idle)
  obtain ⟨record, listed, inactive⟩ := List.any_eq_true.1 suspended
  obtain ⟨delivery, member, carried⟩ := List.any_eq_true.1 given
  simp only [Bool.and_eq_true, beq_iff_eq] at inactive carried
  have terminal := (custody record listed (by rw [inactive.2]; decide)).1 delivery member
    (by rw [carried.1, inactive.1])
  rw [carried.2] at terminal
  exact absurd terminal (by decide)

end VapeCommerce.Delivery.Custody
