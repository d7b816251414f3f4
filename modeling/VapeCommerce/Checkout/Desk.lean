import VapeCommerce.Lib.KeyedRequests
import VapeCommerce.Checkout.Issued

set_option autoImplicit false

-- Order creation as its transaction runs: the idempotency key is claimed under its row lock, each later
-- read sees the latest commit, and everything else that the services do commits in between.
namespace VapeCommerce.Checkout.Desk

open VapeCommerce.Lib VapeCommerce.Lib.Outcome VapeCommerce.Schema VapeCommerce.Database
open VapeCommerce.Checkout.Order VapeCommerce.Checkout.Placement VapeCommerce.Checkout.Issued
open VapeCommerce.System

-- A call that has passed the checks before its transaction, at the instant the transaction reads.
structure Admitted where
  call : CheckoutCall
  keyHash : ScopedKey
  now : Int
  admits : admitCall call = .ok keyHash

structure Elsewhere where
  now : Int
  op : Op
  other : createsOrder op = false

-- What the transaction reads after the claim, in the order of the source.
def readPoints : List ReadPoint :=
  [.policy, .customer, .cartCandidate, .cart, .inventory, .variants, .locality, .rates, .address,
    .consents, .sequence]

def claimKey (admitted : Admitted) (db : Db) : Except Failure (Option Id) := do
  let claim <- claimIdempotency db.idempotencyKeys admitted.call.customerUserId admitted.keyHash
    (checkoutRequestFingerprint admitted.call.input) admitted.call.ids.claimId
  match replayed? claim with
  | some orderId =>
    let result <- replay db orderId
    return some result.orderId
  | none => return none

def placeOrder (admitted : Admitted) (claimed : Db) (views : Views) (db : Db) :
    Except Failure (Db × Id) := do
  let result <- createInTransaction (Function.update views .claim claimed) admitted.call
    admitted.keyHash admitted.now
  let next <- finish db result
  return (next, result.orderId)

def desk : KeyedRequests.Service Db Admitted ReadPoint Elsewhere ScopedKey Id Failure where
  key := (·.keyHash)
  points := readPoints
  claim := claimKey
  work := placeOrder
  outside := fun other db => (succeeded (exec db other.now other.op)).getD db

def fingerprintOf (admitted : Admitted) : CheckoutOrder :=
  checkoutRequestFingerprint admitted.call.input

def differs : Failure := conflict "IDEMPOTENCY_CONFLICT"

def stored (db : Db) (keyHash : ScopedKey) : Option (CheckoutOrder × Id) :=
  (db.idempotencyKeys.find? keyHash).bind fun row => row.orderId.map fun orderId =>
    (row.requestHash, orderId)

-- Every key is of an order that is there; the transaction that inserted it has completed it.
structure Keyed (db : Db) : Prop where
  completed : forall row, row ∈ db.idempotencyKeys.rows -> row.completedAt.isSome = true /\
    exists orderId, row.orderId = some orderId /\ orderId ∈ (issued db.orders).map Prod.fst
  owned : forall row, row ∈ db.idempotencyKeys.rows -> row.audienceScope = row.keyHash.actorUserId

-- The numbers from the first one on, in the order of the commits, and the sequence at the last of them.
structure Numbered (first : Option Int) (db : Db) : Prop where
  numbers : (issued db.orders).map Prod.snd =
    (List.range (issued db.orders).length).map fun position : Nat => first.getD 0 + 1 + (position : Int)
  sequence : db.orderSequence = first.map (· + ((issued db.orders).length : Int))

structure Kept (first : Option Int) (db : Db) : Prop where
  keyed : Keyed db
  numbered : Numbered first db

def made (db : Db) : List Id :=
  (issued db.orders).map Prod.fst

section Claiming

variable {keys : Table (@OrderIdempotencyKey.keyHash CheckoutOrder)} {audienceScope : Id}
  {keyHash : ScopedKey} {requestHash : CheckoutOrder} {claimId : Id}
  {claim : OrderIdempotencyKey CheckoutOrder}

theorem claim_fresh (absent : keys.find? keyHash = none)
    (ran : claimIdempotency keys audienceScope keyHash requestHash claimId = .ok claim) :
    claim = { id := claimId, keyHash, audienceScope, requestHash, orderId := none, completedAt := none } := by
  simp only [claimIdempotency, absent, Option.getD_none, bind_ok, pure_ok] at ran
  obtain ⟨_, -, _, -, _, -, rfl⟩ := ran
  rfl

theorem claim_stored {row : OrderIdempotencyKey CheckoutOrder} (found : keys.find? keyHash = some row)
    (completed : row.completedAt.isSome = true) (owned : row.audienceScope = audienceScope) :
    claimIdempotency keys audienceScope keyHash requestHash claimId =
      if requestHash = row.requestHash then .ok row else .error differs := by
  have done : row.completedAt.isNone = false := by
    cases at_ : row.completedAt with
    | none => simp [at_] at completed
    | some _ => rfl
  split
  next same =>
    simp [claimIdempotency, found, owned, same, done, throwIf, bind, Except.bind, pure, Except.pure]
  next other =>
    have mismatch : row.requestHash ≠ requestHash := fun same => other same.symm
    simp [claimIdempotency, found, owned, mismatch, throwIf, bind, Except.bind, differs]

end Claiming

variable {first : Option Int} {db claimed next : Db} {admitted : Admitted} {views : Views} {orderId : Id}

theorem Admitted.actor (admitted : Admitted) : admitted.keyHash.actorUserId = admitted.call.customerUserId := by
  have admits := admitted.admits
  simp only [admitCall, bind_ok, pure_ok] at admits
  obtain ⟨key, -, _, -, same⟩ := admits
  exact congrArg ScopedKey.actorUserId same.symm

theorem Keyed.found (keyed : Keyed db) {keyHash : ScopedKey} {row : OrderIdempotencyKey CheckoutOrder}
    (found : db.idempotencyKeys.find? keyHash = some row) :
    exists orderId order, row.orderId = some orderId /\ row.completedAt.isSome = true /\
      db.orders.find? orderId = some order /\ order.id = orderId /\
        row.audienceScope = keyHash.actorUserId := by
  have member := Table.find?_mem found
  obtain ⟨completed, orderId, answered, placed⟩ := keyed.completed row member
  rw [issued, List.map_map] at placed
  obtain ⟨order, there, rfl⟩ := List.mem_map.1 placed
  exact ⟨order.id, order, answered, completed, Table.find?_of_mem there, rfl,
    Table.find?_key found ▸ keyed.owned row member⟩

theorem stored_none (keyed : Keyed db) {keyHash : ScopedKey} :
    stored db keyHash = none <-> db.idempotencyKeys.find? keyHash = none := by
  cases found : db.idempotencyKeys.find? keyHash with
  | none => simp [stored, found]
  | some row =>
    obtain ⟨orderId, order, answered, -⟩ := keyed.found found
    simp [stored, found, answered]

theorem stored_some {keyHash : ScopedKey} {asked : CheckoutOrder}
    (here : stored db keyHash = some (asked, orderId)) :
    exists row, db.idempotencyKeys.find? keyHash = some row /\ row.requestHash = asked /\
      row.orderId = some orderId := by
  simp only [stored, Option.bind_eq_some_iff, Option.map_eq_some_iff, Prod.mk.injEq] at here
  obtain ⟨row, found, given, answered, rfl, rfl⟩ := here
  exact ⟨row, found, rfl, answered⟩

theorem claimKey_stored (keyed : Keyed db) {asked : CheckoutOrder}
    (here : stored db admitted.keyHash = some (asked, orderId)) :
    claimKey admitted db =
      if fingerprintOf admitted = asked then .ok (some orderId) else .error differs := by
  obtain ⟨row, found, rfl, answered⟩ := stored_some here
  obtain ⟨_, order, same, completed, placed, is, owner⟩ := keyed.found found
  obtain rfl := Option.some.inj (answered.symm.trans same)
  have claims := @claim_stored _ _ _ (fingerprintOf admitted) admitted.call.ids.claimId row found completed
    (owner.trans admitted.actor)
  unfold fingerprintOf at claims
  rw [claimKey, claims, fingerprintOf]
  split
  next =>
    have replays : replay db orderId = .ok (.replayed order.id) := by
      simp [replay, placed, orThrow, bind, Except.bind, pure, Except.pure]
    simp [bind, Except.bind, pure, Except.pure, replayed?, completed, answered, replays,
      CheckoutResult.orderId, is]
  next => rfl

theorem claimKey_none (keyed : Keyed db) (absent : stored db admitted.keyHash = none)
    {found : Option Id} (ran : claimKey admitted db = .ok found) : found = none := by
  simp only [claimKey, bind_ok] at ran
  obtain ⟨claim, claims, ran⟩ := ran
  obtain rfl := claim_fresh ((stored_none keyed).1 absent) claims
  simp only [replayed?, Option.isSome_none, Bool.false_eq_true, if_false, pure_ok] at ran
  exact ran.symm

theorem stored_unclaimed (keyed : Keyed db) (found : claimKey admitted db = .ok none) :
    stored db admitted.keyHash = none := by
  cases here : stored db admitted.keyHash with
  | none => rfl
  | some pair =>
    rw [claimKey_stored keyed here] at found
    split at found <;> simp at found

def freshClaim (admitted : Admitted) : OrderIdempotencyKey CheckoutOrder where
  id := admitted.call.ids.claimId
  keyHash := admitted.keyHash
  audienceScope := admitted.call.customerUserId
  requestHash := fingerprintOf admitted
  orderId := none
  completedAt := none

def answeredClaim (admitted : Admitted) (orderId : Id) (completedAt : Int) :
    OrderIdempotencyKey CheckoutOrder :=
  { freshClaim admitted with orderId := some orderId, completedAt := some completedAt }

-- What a call that found nothing under its key prepares and places.
structure Opens (admitted : Admitted) (views : Views) (db next : Db) (orderId : Id)
    (placement : Placement) : Prop where
  order : placement.order.id = orderId
  claim : placement.claim = freshClaim admitted
  number : nextOrderNumber (views .sequence).orderSequence = .ok placement.order.orderNumber
  placing : place db placement = .ok next

theorem preparePlacement_number {call : CheckoutCall} {claim : OrderIdempotencyKey CheckoutOrder} {now : Int}
    {placement : Placement} (ran : preparePlacement views call claim now = .ok placement) :
    nextOrderNumber (views .sequence).orderSequence = .ok placement.order.orderNumber := by
  simp only [preparePlacement, bind_ok, pure_ok] at ran
  obtain ⟨policy, -, ⟨⟩, -, customer, -, cart, -, order, -, ⟨⟩, -, ⟨⟩, -, orderNumber, numbered, items, -,
    movements, -, rfl⟩ := ran
  exact numbered

theorem placeOrder_opens (keyed : Keyed claimed) (found : claimKey admitted claimed = .ok none)
    (ran : placeOrder admitted claimed views db = .ok (next, orderId)) :
    exists placement, Opens admitted views db next orderId placement := by
  have absent := (stored_none keyed).1 (stored_unclaimed keyed found)
  simp only [claimKey, bind_ok] at found
  obtain ⟨claim, claims, -⟩ := found
  obtain rfl := claim_fresh absent claims
  simp only [placeOrder, bind_ok, createInTransaction, Function.update_self, claims, pure_ok,
    Prod.mk.injEq] at ran
  obtain ⟨result, ⟨_, same, works⟩, _, finished, rfl, rfl⟩ := ran
  obtain rfl := Except.ok.inj same
  simp only [replayed?, Option.isSome_none, Bool.false_eq_true, if_false, bind_ok, pure_ok] at works
  obtain ⟨placement, prepared, rfl⟩ := works
  have numbered := preparePlacement_number prepared
  rw [Function.update_of_ne (by decide)] at numbered
  exact ⟨placement, rfl, (preparePlacement_ok prepared).1, numbered, finished⟩

theorem place_number {placement : Placement} (ran : place db placement = .ok next) {order : Order}
    (member : order ∈ db.orders.rows) : order.orderNumber ≠ placement.order.orderNumber := by
  simp only [place, bind_ok, throwIf_ok, not_or, Bool.not_eq_true, List.any_eq_false] at ran
  obtain ⟨_, ⟨-, unused⟩, -⟩ := ran
  have free := unused order member
  rw [Bool.or_eq_false_iff, beq_eq_false_iff_ne] at free
  exact free.1

theorem issued_placed {placement : Placement} (placed : Placed db next placement) :
    issued next.orders = issued db.orders ++ [(placement.order.id, placement.order.orderNumber)] := by
  simp [issued, (Table.insert?_rows placed.orders).1]

theorem keys_placed {placement : Placement} (opens : Opens admitted views db next orderId placement)
    (keyed : Keyed db) (absent : stored db admitted.keyHash = none) :
    db.idempotencyKeys.insert? (answeredClaim admitted orderId placement.completedAt) =
      some next.idempotencyKeys := by
  have completes := (place_placed opens.placing).keys
  have free : db.idempotencyKeys.find? (freshClaim admitted).keyHash = none := (stored_none keyed).1 absent
  rw [opens.claim, opens.order] at completes
  simp only [completeClaim, free, create_ok] at completes
  exact completes

theorem stored_placed {placement : Placement} (opens : Opens admitted views db next orderId placement)
    (keyed : Keyed db) (absent : stored db admitted.keyHash = none) :
    stored next = Function.update (stored db) admitted.keyHash (some (fingerprintOf admitted, orderId)) := by
  funext keyHash
  rw [stored, Table.find?_insert? (keys_placed opens keyed absent)]
  by_cases same : keyHash = admitted.keyHash
  next =>
    rw [same, Function.update_self, if_pos (by rfl)]
    rfl
  next =>
    rw [Function.update_of_ne same, if_neg fun here => same here.symm]
    rfl

theorem keyed_placed {placement : Placement} (opens : Opens admitted views db next orderId placement)
    (keyed : Keyed db) (absent : stored db admitted.keyHash = none) : Keyed next := by
  have rows := (Table.insert?_rows (keys_placed opens keyed absent)).1
  have grown := issued_placed (place_placed opens.placing)
  constructor
  next =>
    intro row member
    rw [rows, List.mem_append, List.mem_singleton] at member
    rcases member with earlier | rfl
    next =>
      obtain ⟨completed, orderId, answered, there⟩ := keyed.completed row earlier
      exact ⟨completed, orderId, answered, by simp [grown, there]⟩
    next => exact ⟨rfl, orderId, rfl, by simp [grown, opens.order]⟩
  next =>
    intro row member
    rw [rows, List.mem_append, List.mem_singleton] at member
    rcases member with earlier | rfl
    next => exact keyed.owned row earlier
    next => exact admitted.actor.symm

-- A sequence that was read too early gives a number that an order already has.
theorem number_next {placement : Placement} (opens : Opens admitted views db next orderId placement)
    (numbered : Numbered first db) (earlier : Numbered first (views .sequence))
    (seen : made (views .sequence) <+: made db) :
    exists start, first = some start /\
      placement.order.orderNumber = start + 1 + ((issued db.orders).length : Int) := by
  have number := opens.number
  simp only [nextOrderNumber, earlier.sequence, bind_ok, orThrow_ok, Option.map_eq_some_iff, throwIf_ok,
    pure_ok] at number
  obtain ⟨_, ⟨start, begins, rfl⟩, _, -, gives⟩ := number
  refine ⟨start, begins, ?_⟩
  have short : (issued (views .sequence).orders).length <= (issued db.orders).length := by
    simpa [made] using seen.length_le
  rcases Nat.lt_or_eq_of_le short with stale | current
  next =>
    have used : placement.order.orderNumber ∈ (issued db.orders).map Prod.snd := by
      rw [numbered.numbers, List.mem_map]
      refine ⟨(issued (views .sequence).orders).length, List.mem_range.2 stale, ?_⟩
      rw [begins, Option.getD_some]
      omega
    rw [issued, List.map_map] at used
    obtain ⟨order, member, same⟩ := List.mem_map.1 used
    exact absurd same (place_number opens.placing member)
  next => omega

theorem numbered_placed {placement : Placement} (opens : Opens admitted views db next orderId placement)
    (numbered : Numbered first db) (earlier : Numbered first (views .sequence))
    (seen : made (views .sequence) <+: made db) : Numbered first next := by
  have placed := place_placed opens.placing
  have grown := issued_placed placed
  obtain ⟨start, rfl, number⟩ := number_next opens numbered earlier seen
  constructor
  next =>
    rw [grown, List.map_append, List.length_append, List.length_singleton, List.range_succ, List.map_append,
      numbered.numbers]
    simp [number]
  next =>
    rw [grown, placed.rest]
    simp only [Option.map_some, List.length_append, List.length_singleton, number]
    push_cast
    exact congrArg some (by omega)

theorem desk_lawful (first : Option Int) :
    KeyedRequests.Lawful desk fingerprintOf differs stored made (Kept first) where
  free kept absent found := by simpa using claimKey_none kept.keyed absent found
  same kept here := (claimKey_stored kept.keyed here).trans (if_pos rfl)
  other kept here asks := (claimKey_stored kept.keyed here).trans (if_neg asks)
  work started found seen kept absent works := by
    obtain ⟨placement, opens⟩ := placeOrder_opens started.keyed found works
    have looked := seen .sequence
    have grown := issued_placed (place_placed opens.placing)
    exact ⟨⟨keyed_placed opens kept.keyed absent,
      numbered_placed opens kept.numbered looked.1.numbered looked.2⟩,
      by simp [made, grown, opens.order], stored_placed opens kept.keyed absent⟩
  outside {other state} kept := by
    cases ran : exec state other.now other.op with
    | error failure => simp [desk, ran, succeeded, kept]
    | ok next =>
      have same := exec_issued other.other ran
      have after : desk.outside other state = next := by simp [desk, ran, succeeded]
      rw [after]
      refine ⟨⟨⟨?_, ?_⟩, ?_, ?_⟩, by rw [made, same.orders]; rfl, ?_⟩
      next => simpa only [same.keys, same.orders] using kept.keyed.completed
      next => simpa only [same.keys] using kept.keyed.owned
      next => simpa only [same.orders] using kept.numbered.numbers
      next => simpa only [same.orders, same.sequence] using kept.numbered.sequence
      next =>
        funext keyHash
        rw [stored, same.keys]
        rfl

theorem opening_kept (config : Config.Configuration) (first : Option Int) :
    Kept first (Db.empty config first) where
  keyed := ⟨fun _ member => (nomatch member), fun _ member => (nomatch member)⟩
  numbered := ⟨rfl, by cases first <;> simp [Db.empty, issued, Table.empty]⟩

def reached (config : Config.Configuration) (first : Option Int)
    (labels : List (KeyedRequests.Label Admitted Elsewhere)) :
    KeyedRequests.State Db Admitted ReadPoint ScopedKey Id Failure :=
  Runs.run desk.step (KeyedRequests.State.opening (Db.empty config first)) labels

theorem reached_sound (config : Config.Configuration) (first : Option Int)
    (labels : List (KeyedRequests.Label Admitted Elsewhere)) :
    KeyedRequests.Sound desk fingerprintOf differs stored made (Kept first) []
      (reached config first labels) :=
  KeyedRequests.run_sound (desk_lawful first) (opening_kept config first) labels

theorem Admitted.same_key {early late : Admitted}
    (customer : early.call.customerUserId = late.call.customerUserId)
    (key : early.call.idempotencyKey = late.call.idempotencyKey) : early.keyHash = late.keyHash := by
  have first := early.admits
  have second := late.admits
  simp only [admitCall, bind_ok, pure_ok, orThrow_ok] at first second
  obtain ⟨one, given, _, -, hashed⟩ := first
  obtain ⟨other, again, _, -, rehashed⟩ := second
  rw [key, again] at given
  rw [<- hashed, <- rehashed, customer, Option.some.inj given]

/-- However order creations interleave with each other and with everything else: once a call has been
    answered with an order, every later call of that customer with that key is answered with the same
    order if it asks the same, and refused if it does not; the orders are those that were placed, one
    for each such answer and in that order; and a call that is answered otherwise has written nothing. -/
theorem orders_placed_once (config : Config.Configuration) (first : Option Int)
    (labels : List (KeyedRequests.Label Admitted Elsewhere)) :
    let now := reached config first labels
    now.log.Pairwise (fun early late =>
        early.call.call.customerUserId = late.call.call.customerUserId ->
        early.call.call.idempotencyKey = late.call.call.idempotencyKey ->
        forall orderId, early.answer.given = some orderId ->
          late.answer = if checkoutRequestFingerprint late.call.call.input =
              checkoutRequestFingerprint early.call.call.input
            then .replayed orderId else .failed (conflict "IDEMPOTENCY_CONFLICT")) /\
      now.committed.orders.rows.map (·.id) = now.log.filterMap (·.placed) /\
      forall label, (desk.step now label).committed = now.committed \/
        (exists other, label = .outside other) \/
        exists call orderId,
          (desk.step now label).log = now.log ++ [KeyedRequests.Entry.mk call (.placed orderId)] := by
  intro now
  have sound : KeyedRequests.Sound desk fingerprintOf differs stored made (Kept first) [] now :=
    reached_sound config first labels
  refine ⟨sound.ordered.imp fun once customer key => once (Admitted.same_key customer key), ?_,
    KeyedRequests.step_committed desk now⟩
  have counted := sound.counted
  rwa [made, issued, List.map_map] at counted

/-- Order numbers have no gap and no repetition: the orders are numbered from the start of the sequence in
    the order of their commits, however their transactions interleave. -/
theorem order_numbers_gapless (config : Config.Configuration) (start : Int)
    (labels : List (KeyedRequests.Label Admitted Elsewhere)) :
    let orders := (reached config (some start) labels).committed.orders.rows
    orders.map (·.orderNumber) =
        (List.range orders.length).map (fun position : Nat => start + 1 + (position : Int)) /\
      (reached config (some start) labels).committed.orderSequence = some (start + (orders.length : Int)) := by
  intro orders
  have numbered := (reached_sound config (some start) labels).kept.numbered
  have counted : (issued (reached config (some start) labels).committed.orders).length = orders.length :=
    List.length_map _
  constructor
  next =>
    have numbers := numbered.numbers
    rw [counted, issued, List.map_map] at numbers
    exact numbers
  next =>
    have sequence := numbered.sequence
    rwa [counted] at sequence

theorem replay_finish (db : Db) (orderId : Id) {result : CheckoutResult}
    (ran : replay db orderId = .ok result) : finish db result = .ok db := by
  simp only [replay, bind_ok, pure_ok] at ran
  obtain ⟨order, -, rfl⟩ := ran
  rfl

/-- The transaction on its own, claim, reads and commit, is the call as one step. -/
theorem alone_creates (admitted : Admitted) (db : Db) :
    desk.alone admitted db = Checkout.Order.create db admitted.call admitted.now := by
  have views : Function.update (fun _ : ReadPoint => db) ReadPoint.claim db = fun _ => db :=
    Function.update_eq_self ReadPoint.claim fun _ => db
  rw [Checkout.Order.create, admitted.admits, KeyedRequests.Service.alone]
  simp only [desk, claimKey, placeOrder, views, createInTransaction]
  cases claims : claimIdempotency db.idempotencyKeys admitted.call.customerUserId admitted.keyHash
      (checkoutRequestFingerprint admitted.call.input) admitted.call.ids.claimId with
  | error failure => simp [bind, Except.bind, claims]
  | ok claim =>
    cases found : replayed? claim with
    | none => simp [bind, Except.bind, pure, Except.pure, claims, found]
    | some orderId =>
      cases replays : replay db orderId with
      | error failure => simp [bind, Except.bind, claims, found, replays]
      | ok result =>
        have finished := replay_finish db orderId replays
        simp [bind, Except.bind, pure, Except.pure, claims, found, replays, finished]

-- Two requests for one key at once: the second waits for the first and is told the same.
def twice : List (KeyedRequests.Label Admitted Elsewhere) :=
  let admitted : Admitted := { call := Sample.call, keyHash := _, now := 5, admits := rfl }
  [.outside { now := 1, op := .replaceCarts Sample.carts, other := rfl },
    .outside { now := 2, op := .receiveBatch Sample.receipt ['k'] 9, other := rfl },
    .start 1 admitted, .start 2 admitted, .advance 1, .advance 2] ++
  List.replicate 12 (.advance 1) ++ [.advance 2]

example : (reached Sample.shop (some 0) twice).log.map (·.answer.given) = [some 1, some 1] := by
  decide +kernel

end VapeCommerce.Checkout.Desk
