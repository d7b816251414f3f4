import VapeCommerce.Cash.Exactness

set_option autoImplicit false

-- The discrepancies of remittances: one for each disputed remittance, until it is verified.
namespace VapeCommerce.Cash.Disputes

open VapeCommerce.Lib VapeCommerce.Lib.Outcome VapeCommerce.Schema VapeCommerce.Database
open VapeCommerce.Cash.Admin VapeCommerce.Cash.Accountable VapeCommerce.Cash.Steps
open VapeCommerce.Cash.Remittances VapeCommerce.Cash.Settlement VapeCommerce.Cash.Operations
open VapeCommerce.Cash.Outside VapeCommerce.Cash.Sessions VapeCommerce.Cash.Verified
open VapeCommerce.Cash.Exactness VapeCommerce.Orders.Case VapeCommerce.Orders.Progress
open VapeCommerce.System hiding step step_keeps run_keeps opening

def judgedStatuses : List CashRemittanceStatus :=
  [.discrepancy, .verified]

-- A discrepancy of a remittance is its only one, and it is resolved when the remittance is verified.
structure Disputing (db : Db) : Prop where
  scope : forall row, row ∈ db.discrepancies.rows -> forall remittanceId,
    row.remittanceId = some remittanceId -> row.cashCollectionId = none /\
      exists remittance, remittance ∈ db.remittances.rows /\ remittance.id = remittanceId /\
        remittance.status = if row.status = .resolved then .verified else .discrepancy
  single : forall row other, row ∈ db.discrepancies.rows -> other ∈ db.discrepancies.rows ->
    row.remittanceId.isSome = true -> row.remittanceId = other.remittanceId -> row = other

def SameDisputes (old new : Table CashDiscrepancy.id) : Prop :=
  forall row, row.remittanceId.isSome = true -> (row ∈ new.rows <-> row ∈ old.rows)

def KeepsJudged (old new : Table CashRemittance.id) : Prop :=
  forall row, row ∈ old.rows -> row.status ∈ judgedStatuses ->
    exists now, now ∈ new.rows /\ now.id = row.id /\ now.status = row.status

theorem SameDisputes.refl (discrepancies : Table CashDiscrepancy.id) :
    SameDisputes discrepancies discrepancies :=
  fun _ _ => Iff.rfl

theorem KeepsJudged.refl (remittances : Table CashRemittance.id) :
    KeepsJudged remittances remittances :=
  fun row member _ => ⟨row, member, rfl, rfl⟩

theorem judged_status (resolved : Prop) [Decidable resolved] :
    (if resolved then CashRemittanceStatus.verified else .discrepancy) ∈ judgedStatuses := by
  split <;> decide

variable {db next : Db} {view : View}

theorem disputing_kept (disputing : Disputing db) (same : SameDisputes db.discrepancies next.discrepancies)
    (judged : KeepsJudged db.remittances next.remittances) : Disputing next where
  scope row member remittanceId scope := by
    have known := (same row (by simp [scope])).1 member
    obtain ⟨none, remittance, there, id, status⟩ := disputing.scope row known remittanceId scope
    obtain ⟨now, here, sameId, sameStatus⟩ := judged remittance there (status ▸ judged_status _)
    exact ⟨none, now, here, sameId.trans id, sameStatus.trans status⟩
  single row other member also some equal :=
    disputing.single row other ((same row some).1 member) ((same other (equal ▸ some)).1 also) some equal

theorem turned_judged {source target : CashRemittanceStatus} {id : Id}
    {old new : Table CashRemittance.id} (turned : Turned source target id old new)
    (pending : Not (source ∈ judgedStatuses)) : KeepsJudged old new := by
  intro row member judged
  refine (turned_rows turned).2 ⟨row, member, rfl, if_neg fun same => ?_⟩
  obtain ⟨found, there, here, status⟩ := turned.found
  obtain rfl := old.same_of_key member there (same.trans here.symm)
  exact pending (status ▸ judged)

theorem openRecorded_disputes {old new : Table CashDiscrepancy.id} {row : CashDiscrepancy}
    (none : row.remittanceId = none) (ran : openRecorded old row = .ok new) : SameDisputes old new := by
  unfold openRecorded at ran
  split at ran
  next =>
    intro other some
    rw [(Table.insert?_rows (openDiscrepancy_ok.1 ran).2).1, List.mem_append, List.mem_singleton]
    refine or_iff_left fun same => ?_
    simp [same, none] at some
  next => exact Except.ok.inj ran ▸ SameDisputes.refl old

theorem settleDiscrepancy_disputes {old new : Table CashDiscrepancy.id} {row : CashDiscrepancy}
    {resolution : Resolution} {actorUserId : Id}
    (scope : forall other, other ∈ old.rows -> other.id = row.id -> other.remittanceId = none)
    (ran : settleDiscrepancy old row resolution actorUserId = .ok new) : SameDisputes old new := by
  obtain ⟨-, rfl⟩ := (updateOne_ok _ _ _ _ _ _).1 ran
  intro other some
  constructor
  next =>
    intro member
    obtain ⟨was, there, ⟨hit, rfl⟩ | ⟨-, rfl⟩⟩ := Table.rewrite_mem member
    next =>
      simp only [Bool.and_eq_true, beq_iff_eq] at hit
      simp [scope was there hit.1] at some
    next => exact there
  next =>
    intro member
    refine List.mem_map.2 ⟨other, member, Table.rewrite_other (Bool.eq_false_iff.2 fun hit => ?_)⟩
    simp only [Bool.and_eq_true, beq_iff_eq] at hit
    simp [scope other member hit.1] at some

-- A correction writes neither discrepancies nor remittances.
theorem correctWhenResolved_same {operation : CollectionOperation} {delivery : Schema.Delivery}
    {resolution : Resolution} {corrected : Db}
    (ran : correctWhenResolved view operation delivery resolution = .ok corrected) :
    corrected.discrepancies = view.current.discrepancies /\
      corrected.remittances = view.current.remittances := by
  unfold correctWhenResolved at ran
  split at ran
  next =>
    simp only [correctCollection, bind_ok] at ran
    obtain ⟨_, -, _, -, ran⟩ := ran
    split at ran
    next =>
      simp only [bind_ok, pure_ok] at ran
      obtain ⟨_, -, _, -, rfl⟩ := ran
      exact ⟨rfl, rfl⟩
    next =>
      obtain rfl := (pure_ok _ _).1 ran
      exact ⟨rfl, rfl⟩
  next =>
    obtain rfl := Except.ok.inj ran
    exact ⟨rfl, rfl⟩

theorem resolveCollectionDiscrepancy_disputes {cashCollectionId id actorUserId : Id}
    {input : ResolveCashDiscrepancy} (behind : Behind view.snapshot view.current)
    (ran : resolveCollectionDiscrepancy view cashCollectionId id input actorUserId = .ok next) :
    SameDisputes view.current.discrepancies next.discrepancies := by
  simp only [resolveCollectionDiscrepancy, bind_ok, orThrow_ok, throwIf_ok, pure_ok,
    assertDiscrepancyLinkage] at ran
  obtain ⟨_, -, row, read, _, -, ⟨⟩, ⟨⟨⟩, linkage, _, -, -⟩, _, -, _, -, _, -, _, -, _, -, _, -,
    corrected, corrects, discrepancies, settles, rfl⟩ := ran
  simp only [not_or, Option.not_isSome_iff_eq_none] at linkage
  rw [(correctWhenResolved_same corrects).1] at settles
  refine settleDiscrepancy_disputes (fun other member same => ?_) settles
  obtain ⟨now, there, id, -, remittance, -⟩ := behind.retains.discrepancies row (Table.find?_mem read)
  obtain rfl := view.current.discrepancies.same_of_key member there (same.trans id.symm)
  exact remittance.trans linkage.1

theorem creates_judged {input : CreateCashRemittance} (creates : Creates view input next) :
    KeepsJudged view.current.remittances next.remittances := by
  obtain ⟨row, remittances, -, -, -, inserted, rfl⟩ := creates.rows
  exact fun other member _ => ⟨other, by simp [(Table.insert?_rows inserted).1, member], rfl, rfl⟩

-- Disputing a remittance opens its first discrepancy.
theorem disputes_disputing {id : Id} {operation : RemittanceOperation} (disputing : Disputing view.current)
    (disputes : Disputes view id operation next) : Disputing next := by
  obtain ⟨row, scope, none, status, opens⟩ := disputes.opened
  have rows := (Table.insert?_rows (openDiscrepancy_ok.1 opens).2).1
  obtain ⟨remittance, member, here, submitted⟩ := disputes.turned.found
  have fresh : forall other, other ∈ view.current.discrepancies.rows -> other.remittanceId ≠ some id := by
    intro other known same
    obtain ⟨-, found, there, sameId, judged⟩ := disputing.scope other known id same
    obtain rfl := view.current.remittances.same_of_key member there (here.trans sameId.symm)
    rw [submitted] at judged
    split at judged <;> simp at judged
  have kept := turned_judged disputes.turned (by decide)
  refine ⟨fun other listed remittanceId named => ?_, fun left right leftListed rightListed some same => ?_⟩
  next =>
    rw [rows, List.mem_append, List.mem_singleton] at listed
    rcases listed with known | rfl
    next =>
      obtain ⟨free, found, there, sameId, judged⟩ := disputing.scope other known remittanceId named
      obtain ⟨now, at_last, equal, stays⟩ := kept found there (judged ▸ judged_status _)
      exact ⟨free, now, at_last, equal.trans sameId, stays.trans judged⟩
    next =>
      obtain rfl := Option.some.inj (scope.symm.trans named)
      refine ⟨none, ?_⟩
      rw [status]
      exact (turned_rows disputes.turned).2 ⟨remittance, member, here, by simp [here]⟩
  next =>
    rw [rows, List.mem_append, List.mem_singleton] at leftListed rightListed
    rcases leftListed with known | rfl <;> rcases rightListed with also | rfl
    next => exact disputing.single left right known also some same
    next => exact absurd (same.trans scope) (fresh left known)
    next => exact absurd (same.symm.trans scope) (fresh right also)
    next => rfl

section Settling

variable {id actorUserId remittanceId : Id} {input : ResolveCashDiscrepancy} {row : CashDiscrepancy}

-- The discrepancies of remittances after one of them is settled.
theorem settles_rows (behind : Behind view.snapshot view.current)
    (settles : SettlesRemittance view id input actorUserId remittanceId row next) :
    exists now, now ∈ view.current.discrepancies.rows /\ now.id = id /\
      now.remittanceId = some remittanceId /\ now.status ∈ unsettledStatuses /\
      next.discrepancies.rows = view.current.discrepancies.rows.map
        (Table.rewrite (fun other => other.id == id && other.status == row.status)
          (settledBy input.resolution actorUserId)) /\
      now.status = row.status := by
  obtain ⟨one, rows⟩ := (updateOne_ok _ _ _ _ _ _).1 settles.settles
  obtain ⟨now, there, same, -, scope, -⟩ := behind.retains.discrepancies row (Table.find?_mem settles.read)
  have key := Table.find?_key settles.read
  have hit := Table.count_one_hit one there fun other chosen => by
    simp only [Bool.and_eq_true, beq_iff_eq] at chosen
    exact chosen.1.trans same.symm
  simp only [Bool.and_eq_true, beq_iff_eq] at hit
  refine ⟨now, there, same.trans key, scope.trans settles.scope.2, hit.2 ▸ settles.unsettled, ?_, hit.2⟩
  rw [<- rows, <- key]
  rfl

theorem settles_disputing (behind : Behind view.snapshot view.current) (disputing : Disputing view.current)
    (settles : SettlesRemittance view id input actorUserId remittanceId row next) : Disputing next := by
  obtain ⟨now, there, same, named, unsettled, rows, status⟩ := settles_rows behind settles
  have chosen {other : CashDiscrepancy} (known : other ∈ view.current.discrepancies.rows)
      (hit : (other.id == id && other.status == row.status) = true) : other = now := by
    simp only [Bool.and_eq_true, beq_iff_eq] at hit
    exact view.current.discrepancies.same_of_key known there (hit.1.trans same.symm)
  obtain ⟨free, remittance, present, sameId, pending⟩ := disputing.scope now there remittanceId named
  have disputed : remittance.status = .discrepancy := by
    rw [pending, if_neg fun resolved => by simp [resolved, unsettledStatuses] at unsettled]
  -- The remittance is verified just when its discrepancy is resolved; the others stay.
  have judged : (exists found, found ∈ next.remittances.rows /\ found.id = remittanceId /\
        found.status = if input.resolution.status = .resolved then .verified else .discrepancy) /\
      forall found, found ∈ view.current.remittances.rows -> found.id ≠ remittanceId ->
        exists last, last ∈ next.remittances.rows /\ last.id = found.id /\ last.status = found.status := by
    have outcome := settles.outcome
    cases resolution : input.resolution with
    | resolved =>
      rw [resolution] at outcome
      obtain ⟨operation, verifies⟩ := outcome
      refine ⟨(turned_rows verifies.turned).2 ⟨remittance, present, sameId, by simp [sameId, Resolution.status]⟩,
        fun found known apart => ?_⟩
      exact (turned_rows verifies.turned).2 ⟨found, known, rfl, if_neg apart⟩
    | writtenOff =>
      rw [resolution] at outcome
      obtain ⟨events, written⟩ := outcome
      rw [written]
      exact ⟨⟨remittance, present, sameId, by simp [disputed, Resolution.status]⟩,
        fun found known _ => ⟨found, known, rfl, rfl⟩⟩
  refine ⟨fun other listed wanted names => ?_, fun left right leftListed rightListed some equal => ?_⟩
  next =>
    rw [rows] at listed
    obtain ⟨was, known, ⟨hit, rfl⟩ | ⟨miss, rfl⟩⟩ := Table.rewrite_mem listed
    next =>
      obtain rfl := chosen known hit
      obtain rfl := Option.some.inj (named.symm.trans names)
      exact ⟨free, judged.1⟩
    next =>
      obtain ⟨none, found, at_first, equal, standing⟩ := disputing.scope other known wanted names
      have apart : found.id ≠ remittanceId := by
        intro sameRemittance
        have one := disputing.single other now known there (by simp [names])
          (names.trans ((equal.symm.trans sameRemittance) ▸ named.symm))
        simp [one, same, status] at miss
      obtain ⟨last, at_last, sameLast, stays⟩ := judged.2 found at_first apart
      exact ⟨none, last, at_last, sameLast.trans equal, stays.trans standing⟩
  next =>
    rw [rows] at leftListed rightListed
    obtain ⟨first, known, rfl⟩ := List.mem_map.1 leftListed
    obtain ⟨second, also, rfl⟩ := List.mem_map.1 rightListed
    have scopes : forall other : CashDiscrepancy,
        (settledBy input.resolution actorUserId other).remittanceId = other.remittanceId := fun _ => rfl
    rw [Table.rewrite_field scopes] at some
    rw [Table.rewrite_field scopes, Table.rewrite_field scopes] at equal
    rw [disputing.single first second known also some equal]

end Settling

end VapeCommerce.Cash.Disputes
