import Mathlib.Logic.Function.Basic
import Mathlib.Data.List.Infix
import VapeCommerce.Lib.Runs

set_option autoImplicit false

-- Requests under keys at READ COMMITTED. A request locks its key when it claims it and keeps the lock to
-- its end; each of its later reads sees the latest commit, and its writes are committed last.
namespace VapeCommerce.Lib.KeyedRequests

inductive Phase (S P : Type) where
  | waiting
  | reading (claimed : S) (rest : List P) (views : P -> S)

structure Request (S C P : Type) where
  call : C
  phase : Phase S P

inductive Answer (A E : Type) where
  | failed (failure : E)
  | replayed (answer : A)
  | placed (answer : A)

structure Entry (C A E : Type) where
  call : C
  answer : Answer A E

-- `log` has every request that has ended with an answer, in the order in which they ended.
structure State (S C P K A E : Type) where
  committed : S
  holder : K -> Option Nat
  active : Nat -> Option (Request S C P)
  log : List (Entry C A E)

-- `outside` is what commits without a claim.
inductive Label (C O : Type) where
  | start (id : Nat) (call : C)
  | advance (id : Nat)
  | abandon (id : Nat)
  | outside (op : O)

-- What a claim finds under the key of a call, an answer or nothing yet; and what the call commits from
-- the state it claimed in, from what it has read since and on the latest state.
structure Service (S C P O K A E : Type) where
  key : C -> K
  points : List P
  claim : C -> S -> Except E (Option A)
  work : C -> S -> (P -> S) -> S -> Except E (S × A)
  outside : O -> S -> S

variable {S C P O K A E F : Type}

def State.opening (committed : S) : State S C P K A E where
  committed := committed
  holder := fun _ => none
  active := fun _ => none
  log := []

def State.enter (state : State S C P K A E) (id : Nat) (request : Request S C P) : State S C P K A E :=
  { state with active := Function.update state.active id (some request) }

def State.leave (state : State S C P K A E) (id : Nat) : State S C P K A E :=
  { state with
    holder := fun key => if state.holder key = some id then none else state.holder key
    active := Function.update state.active id none }

def State.finish (state : State S C P K A E) (id : Nat) (call : C) (answer : Answer A E) :
    State S C P K A E :=
  { state.leave id with log := state.log ++ [{ call, answer }] }

namespace Service

variable [DecidableEq P] [DecidableEq K] (service : Service S C P O K A E)

def advance (state : State S C P K A E) (id : Nat) (request : Request S C P) : State S C P K A E :=
  match request.phase with
  | .waiting =>
    if state.holder (service.key request.call) = none then
      match service.claim request.call state.committed with
      | .error failure => state.finish id request.call (.failed failure)
      | .ok (some answer) => state.finish id request.call (.replayed answer)
      | .ok none =>
        { state.enter id { request with
            phase := .reading state.committed service.points fun _ => state.committed } with
          holder := Function.update state.holder (service.key request.call) (some id) }
    else state
  | .reading claimed (point :: rest) views =>
    state.enter id { request with
      phase := .reading claimed rest (Function.update views point state.committed) }
  | .reading claimed [] views =>
    match service.work request.call claimed views state.committed with
    | .error failure => state.finish id request.call (.failed failure)
    | .ok (next, answer) => { state.finish id request.call (.placed answer) with committed := next }

def step (state : State S C P K A E) : Label C O -> State S C P K A E
  | .start id call =>
    match state.active id with
    | none => state.enter id { call, phase := .waiting }
    | some _ => state
  | .advance id =>
    match state.active id with
    | none => state
    | some request => service.advance state id request
  | .abandon id =>
    match state.active id with
    | none => state
    | some _ => state.leave id
  | .outside op => { state with committed := service.outside op state.committed }

end Service

-- A request on its own, with nothing committed in between.
def Service.alone (service : Service S C P O K A E) (call : C) (state : S) : Except E (S × A) :=
  match service.claim call state with
  | .error failure => .error failure
  | .ok (some answer) => .ok (state, answer)
  | .ok none => service.work call state (fun _ => state) state

def Answer.given : Answer A E -> Option A
  | .failed _ => none
  | .replayed answer => some answer
  | .placed answer => some answer

def Entry.placed (entry : Entry C A E) : Option A :=
  match entry.answer with
  | .placed answer => some answer
  | _ => none

-- Once a request has been answered, another one under its key is told the same when it asks the same,
-- and is refused with `differs` when it does not.
def Once [DecidableEq F] (key : C -> K) (fingerprint : C -> F) (differs : E) (early late : Entry C A E) : Prop :=
  key early.call = key late.call -> forall answer, early.answer.given = some answer ->
    late.answer =
      if fingerprint late.call = fingerprint early.call then .replayed answer else .failed differs

-- What a service has to do for that: what is stored under a key never changes, a claim answers with it,
-- and only what a call commits adds to it. `made` is what calls have committed so far, in order.
structure Lawful [DecidableEq K] (service : Service S C P O K A E) (fingerprint : C -> F) (differs : E)
    (stored : S -> K -> Option (F × A)) (made : S -> List A) (keep : S -> Prop) : Prop where
  free : forall {call state answer}, keep state -> stored state (service.key call) = none ->
    service.claim call state ≠ .ok (some answer)
  same : forall {call state answer}, keep state ->
    stored state (service.key call) = some (fingerprint call, answer) ->
      service.claim call state = .ok (some answer)
  other : forall {call state found answer}, keep state ->
    stored state (service.key call) = some (found, answer) -> fingerprint call ≠ found ->
      service.claim call state = .error differs
  work : forall {call claimed views state next answer}, keep claimed ->
    service.claim call claimed = .ok none ->
    (forall point, keep (views point) /\ made (views point) <+: made state) -> keep state ->
    stored state (service.key call) = none -> service.work call claimed views state = .ok (next, answer) ->
      keep next /\ made next = made state ++ [answer] /\
        stored next = Function.update (stored state) (service.key call) (some (fingerprint call, answer))
  outside : forall {op state}, keep state -> keep (service.outside op state) /\
    made (service.outside op state) = made state /\ stored (service.outside op state) = stored state

-- A request that reads holds its key, for which nothing is stored.
structure Reads (service : Service S C P O K A E) (stored : S -> K -> Option (F × A)) (made : S -> List A)
    (keep : S -> Prop) (holder : K -> Option Nat) (committed : S) (id : Nat) (call : C) (claimed : S)
    (views : P -> S) : Prop where
  holds : holder (service.key call) = some id
  started : keep claimed
  found : service.claim call claimed = .ok none
  seen : forall point, keep (views point) /\ made (views point) <+: made committed
  absent : stored committed (service.key call) = none

structure Sound [DecidableEq F] (service : Service S C P O K A E) (fingerprint : C -> F) (differs : E)
    (stored : S -> K -> Option (F × A)) (made : S -> List A) (keep : S -> Prop) (first : List A)
    (state : State S C P K A E) : Prop where
  kept : keep state.committed
  reads : forall id call claimed rest views, state.active id = some ⟨call, .reading claimed rest views⟩ ->
    Reads service stored made keep state.holder state.committed id call claimed views
  recorded : forall entry, entry ∈ state.log -> forall answer, entry.answer.given = some answer ->
    stored state.committed (service.key entry.call) = some (fingerprint entry.call, answer)
  counted : made state.committed = first ++ state.log.filterMap Entry.placed
  ordered : state.log.Pairwise (Once service.key fingerprint differs)

variable {service : Service S C P O K A E}
  {fingerprint : C -> F} {differs : E} {stored : S -> K -> Option (F × A)} {made : S -> List A}
  {keep : S -> Prop} {first : List A} {state : State S C P K A E}

theorem enter_elsewhere (state : State S C P K A E) {id other : Nat} (request : Request S C P) (apart : other ≠ id) :
    (state.enter id request).active other = state.active other :=
  Function.update_of_ne apart _ _

theorem leave_elsewhere {id other : Nat} (apart : other ≠ id) :
    (state.leave id).active other = state.active other :=
  Function.update_of_ne apart _ _

theorem leave_holder {id other : Nat} (apart : other ≠ id) {key : K} (holds : state.holder key = some other) :
    (state.leave id).holder key = some other := by
  simp only [State.leave, holds, Option.some.injEq]
  exact if_neg apart

variable [DecidableEq F]

namespace Sound

theorem opening {committed : S} (kept : keep committed) :
    Sound service fingerprint differs stored made keep (made committed)
      (State.opening committed : State S C P K A E) where
  kept
  reads _ _ _ _ _ active := nomatch active
  recorded _ member := nomatch member
  counted := (List.append_nil _).symm
  ordered := .nil

variable (sound : Sound service fingerprint differs stored made keep first state)
include sound

-- With nothing stored under its key, nothing has been answered under it.
theorem unanswered {call : C} (absent : stored state.committed (service.key call) = none)
    {answer : Answer A E} {entry : Entry C A E} (member : entry ∈ state.log) :
    Once service.key fingerprint differs entry { call, answer } := by
  intro same given answered
  have recorded := sound.recorded entry member given answered
  rw [same, absent] at recorded
  nomatch recorded

theorem reads_elsewhere {id other : Nat} {call : C} {claimed : S} {rest : List P} {views : P -> S} (apart : other ≠ id)
    (active : (state.leave id).active other = some ⟨call, .reading claimed rest views⟩) :
    Reads service stored made keep (state.leave id).holder state.committed other call claimed views := by
  rw [leave_elsewhere apart] at active
  have reads := sound.reads other call claimed rest views active
  exact { reads with holds := leave_holder apart reads.holds }

theorem leave (id : Nat) : Sound service fingerprint differs stored made keep first (state.leave id) :=
  { sound with
    reads := fun other call claimed rest views active => by
      by_cases same : other = id
      next => simp [State.leave, same] at active
      next => exact sound.reads_elsewhere same active }

theorem finish (id : Nat) {call : C} {answer : Answer A E} (quiet : Entry.placed { call, answer } = none)
    (given : forall found, answer.given = some found ->
      stored state.committed (service.key call) = some (fingerprint call, found))
    (once : forall entry, entry ∈ state.log -> Once service.key fingerprint differs entry { call, answer }) :
    Sound service fingerprint differs stored made keep first (state.finish id call answer) where
  kept := sound.kept
  reads := (sound.leave id).reads
  recorded entry member found answered := by
    rcases List.mem_append.1 member with earlier | now
    next => exact sound.recorded entry earlier found answered
    next =>
      obtain rfl := List.mem_singleton.1 now
      exact given found answered
  counted := by
    rw [State.finish, List.filterMap_append]
    simp only [List.filterMap_cons, quiet, List.filterMap_nil, List.append_nil]
    exact sound.counted
  ordered := List.pairwise_append.2 ⟨sound.ordered, List.pairwise_singleton _ _, fun entry earlier last now => by
    obtain rfl := List.mem_singleton.1 now
    exact once entry earlier⟩

-- A request that is waiting, or that reads on, leaves the others alone.
theorem enter {id : Nat}
    {request : Request S C P}
    (mine : forall claimed rest views, request.phase = .reading claimed rest views ->
      Reads service stored made keep state.holder state.committed id request.call claimed views) :
    Sound service fingerprint differs stored made keep first (state.enter id request) :=
  { sound with
    reads := fun other call claimed rest views active => by
      by_cases same : other = id
      next =>
        subst same
        simp only [State.enter, Function.update_self, Option.some.injEq] at active
        subst active
        exact mine claimed rest views rfl
      next =>
        rw [enter_elsewhere state request same] at active
        exact sound.reads other call claimed rest views active }

end Sound

variable [DecidableEq K]

theorem Lawful.absent (lawful : Lawful service fingerprint differs stored made keep) {call : C} {now : S}
    (kept : keep now) (found : service.claim call now = .ok none) : stored now (service.key call) = none := by
  cases here : stored now (service.key call) with
  | none => rfl
  | some pair =>
    by_cases asks : fingerprint call = pair.1
    next => simp [lawful.same kept (here.trans (congrArg some (Prod.ext asks.symm rfl)))] at found
    next => simp [lawful.other kept here asks] at found

-- What a claim answers is what is stored.
theorem Lawful.answered (lawful : Lawful service fingerprint differs stored made keep) {call : C} {now : S}
    {answer : A} (kept : keep now) (found : service.claim call now = .ok (some answer)) :
    stored now (service.key call) = some (fingerprint call, answer) := by
  cases here : stored now (service.key call) with
  | none => exact absurd found (lawful.free kept here)
  | some pair =>
    obtain ⟨asked, given⟩ := pair
    by_cases asks : fingerprint call = asked
    next =>
      subst asks
      rw [lawful.same kept here] at found
      simp only [Except.ok.injEq, Option.some.injEq] at found
      rw [found]
    next => simp [lawful.other kept here asks] at found

namespace Sound

variable (lawful : Lawful service fingerprint differs stored made keep)
  (sound : Sound service fingerprint differs stored made keep first state)
include lawful sound

-- What an earlier answer under the same key makes of a claim.
theorem claimed_once {entry : Entry C A E} (member : entry ∈ state.log) {call : C}
    (same : service.key entry.call = service.key call) {answer : A}
    (given : entry.answer.given = some answer) :
    service.claim call state.committed =
      if fingerprint call = fingerprint entry.call then .ok (some answer) else .error differs := by
  have recorded := sound.recorded entry member answer given
  rw [same] at recorded
  split
  next asks => exact lawful.same sound.kept (asks ▸ recorded)
  next asks => exact lawful.other sound.kept recorded asks

-- A claim that finds nothing takes a key that nobody holds.
theorem claim {id : Nat} {call : C} (free : state.holder (service.key call) = none)
    (found : service.claim call state.committed = .ok none) :
    Sound service fingerprint differs stored made keep first
      { state.enter id ⟨call, .reading state.committed service.points fun _ => state.committed⟩ with
        holder := Function.update state.holder (service.key call) (some id) } :=
  { sound with
    reads := fun other asking claimed rest views active => by
      by_cases same : other = id
      next =>
        subst same
        simp only [State.enter, Function.update_self, Option.some.injEq, Request.mk.injEq,
          Phase.reading.injEq] at active
        obtain ⟨rfl, rfl, rfl, rfl⟩ := active
        exact ⟨Function.update_self _ _ _, sound.kept, found, fun _ => ⟨sound.kept, List.prefix_rfl⟩,
          lawful.absent sound.kept found⟩
      next =>
        rw [enter_elsewhere state _ same] at active
        have reads := sound.reads other asking claimed rest views active
        have apart : service.key asking ≠ service.key call := fun one => by
          have holds := reads.holds
          rw [one, free] at holds
          nomatch holds
        exact { reads with holds := (Function.update_of_ne apart _ _).trans reads.holds } }

-- What a call commits under the key that it holds.
theorem commit {id : Nat} {call : C}
    {claimed : S} {rest : List P} {views : P -> S} {next : S} {answer : A}
    (active : state.active id = some ⟨call, .reading claimed rest views⟩)
    (works : service.work call claimed views state.committed = .ok (next, answer)) :
    Sound service fingerprint differs stored made keep first
      { state.finish id call (.placed answer) with committed := next } := by
  have mine := sound.reads id call claimed rest views active
  obtain ⟨kept, adds, writes⟩ :=
    lawful.work mine.started mine.found mine.seen sound.kept mine.absent works
  exact {
    kept
    reads := fun other asking started others seen here => by
      by_cases same : other = id
      next => simp [State.finish, State.leave, same] at here
      next =>
        have reads := sound.reads_elsewhere same here
        have apart : service.key asking ≠ service.key call := fun one => by
          have holds := (sound.reads other asking started others seen
            ((leave_elsewhere same).symm.trans here)).holds
          rw [one, mine.holds] at holds
          exact same (Option.some.inj holds).symm
        exact { reads with
          seen := fun point =>
            ⟨(reads.seen point).1, (reads.seen point).2.trans (adds ▸ List.prefix_append _ _)⟩
          absent := by rw [writes, Function.update_of_ne apart]; exact reads.absent }
    recorded := fun entry member found answered => by
      rw [writes]
      rcases List.mem_append.1 member with earlier | now
      next =>
        have recorded := sound.recorded entry earlier found answered
        have apart : service.key entry.call ≠ service.key call := fun one => by
          rw [one, mine.absent] at recorded
          nomatch recorded
        exact (Function.update_of_ne apart _ _).trans recorded
      next =>
        obtain rfl := List.mem_singleton.1 now
        obtain rfl := Option.some.inj answered
        exact Function.update_self _ _ _
    counted := by
      rw [adds, sound.counted, State.finish, List.filterMap_append]
      simp [Entry.placed]
    ordered := List.pairwise_append.2 ⟨sound.ordered, List.pairwise_singleton _ _,
      fun entry earlier last now => by
        obtain rfl := List.mem_singleton.1 now
        exact sound.unanswered mine.absent earlier⟩ }

theorem outside (op : O) :
    Sound service fingerprint differs stored made keep first
      { state with committed := service.outside op state.committed } := by
  obtain ⟨kept, makes, stores⟩ := @lawful.outside op state.committed sound.kept
  exact {
    kept
    reads := fun id call claimed rest views active => by
      have reads := sound.reads id call claimed rest views active
      exact { reads with
        seen := fun point => ⟨(reads.seen point).1, makes.symm ▸ (reads.seen point).2⟩
        absent := stores ▸ reads.absent }
    recorded := stores.symm ▸ sound.recorded
    counted := makes.trans sound.counted
    ordered := sound.ordered }

variable [DecidableEq P]

theorem advance {id : Nat}
    {request : Request S C P} (active : state.active id = some request) :
    Sound service fingerprint differs stored made keep first (service.advance state id request) := by
  obtain ⟨call, phase⟩ := request
  cases phase with
  | waiting =>
    simp only [Service.advance]
    split
    next free =>
      split
      next failure found =>
        refine sound.finish id rfl (by simp [Answer.given]) fun entry member same answer given => ?_
        rw [sound.claimed_once lawful member same given] at found
        split at found
        next => nomatch found
        next asks => simp [asks, Except.error.inj found]
      next answer found =>
        refine sound.finish id rfl (fun given answered => ?_) fun entry member same given answered => ?_
        next =>
          obtain rfl := Option.some.inj answered
          exact lawful.answered sound.kept found
        next =>
          rw [sound.claimed_once lawful member same answered] at found
          split at found
          next asks =>
            simp only [Except.ok.injEq, Option.some.injEq] at found
            simp [asks, found]
          next => nomatch found
      next found => exact sound.claim lawful free found
    next => exact sound
  | reading claimed rest views =>
    have mine := sound.reads id call claimed rest views active
    cases rest with
    | cons point rest =>
      refine sound.enter fun started others seen phase => ?_
      simp only [Phase.reading.injEq] at phase
      obtain ⟨rfl, rfl, rfl⟩ := phase
      refine { mine with seen := fun other => ?_ }
      by_cases here : other = point
      next =>
        subst here
        rw [Function.update_self]
        exact ⟨sound.kept, List.prefix_rfl⟩
      next =>
        rw [Function.update_of_ne here]
        exact mine.seen other
    | nil =>
      simp only [Service.advance]
      split
      next failure _ =>
        exact sound.finish id rfl (by simp [Answer.given]) fun entry member => sound.unanswered mine.absent member
      next next answer works => exact sound.commit lawful active works

theorem step (label : Label C O) :
    Sound service fingerprint differs stored made keep first (service.step state label) := by
  cases label with
  | start id call =>
    simp only [Service.step]
    split
    next => exact sound.enter fun _ _ _ phase => nomatch phase
    next => exact sound
  | advance id =>
    simp only [Service.step]
    split
    next => exact sound
    next request active => exact sound.advance lawful active
  | abandon id =>
    simp only [Service.step]
    split
    next => exact sound
    next => exact sound.leave id
  | outside op => exact sound.outside lawful op

end Sound

variable [DecidableEq P]

/-- However requests interleave, each is answered once for its key, and what they have made is what was
    placed for them, in the order of their commits. -/
theorem run_sound (lawful : Lawful service fingerprint differs stored made keep) {committed : S}
    (kept : keep committed) (labels : List (Label C O)) :
    Sound service fingerprint differs stored made keep (made committed)
      (Runs.run service.step (State.opening committed) labels) := by
  have states := @Runs.run_keeps (State S C P K A E) (Label C O) service.step
    (Sound service fingerprint differs stored made keep (made committed))
    (fun _ label sound => sound.step lawful label)
  exact states (Sound.opening kept) labels

-- Only an outside commit, and the end of a call that places its answer, change what is committed.
theorem step_committed (service : Service S C P O K A E) (state : State S C P K A E) (label : Label C O) :
    (service.step state label).committed = state.committed \/ (exists op, label = .outside op) \/
      exists call answer, (service.step state label).log = state.log ++ [Entry.mk call (.placed answer)] := by
  cases label with
  | start id call =>
    left
    simp only [Service.step]
    split <;> rfl
  | abandon id =>
    left
    simp only [Service.step]
    split <;> rfl
  | outside op => exact .inr (.inl ⟨op, rfl⟩)
  | advance id =>
    simp only [Service.step]
    split
    next => exact .inl rfl
    next request _ =>
      unfold Service.advance
      split
      next =>
        left
        split
        next => split <;> rfl
        next => rfl
      next => exact .inl rfl
      next =>
        split
        next => exact .inl rfl
        next next answer _ => exact .inr (.inr ⟨request.call, answer, rfl⟩)

end VapeCommerce.Lib.KeyedRequests
