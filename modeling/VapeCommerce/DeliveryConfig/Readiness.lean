import VapeCommerce.DeliveryConfig.Zones
import VapeCommerce.System

set_option autoImplicit false

-- What the zone and rate endpoints together keep: free delivery and the express zone's coverage.
namespace VapeCommerce.DeliveryConfig.Readiness

open VapeCommerce.Lib VapeCommerce.Lib.Outcome VapeCommerce.Schema VapeCommerce.Config
open VapeCommerce.DeliveryConfig.Rates hiding create update setActive
open VapeCommerce.DeliveryConfig.Zones

-- The zone the rate belongs to is explicitly free.
def FreeZone (zones : List ZoneRecord) (rate : DeliveryRate) : Prop :=
  exists zone, zone ∈ zones /\ rate.deliveryZoneId = some zone.id /\
    zone.freeDeliveryThresholdMillimes = some 0

/-- The conditions of `assertBizerteExpressReady`, each of them over stored rows. -/
structure ExpressReady (state : ZoneState) (zone : ZoneRecord) : Prop where
  minutes : zone.estimatedMinMinutes = some 30 /\ zone.estimatedMaxMinutes = some 50
  days : zone.estimatedMinDays = none /\ zone.estimatedMaxDays = none
  payment : zone.paymentMethod = some .cashOnDelivery
  assignment : zone.assignmentMode = some .manual
  communication : zone.driverCommunication = some .whatsapp
  covers : exists link, link ∈ state.links.rows /\ supportsLocality state zone.id link = true
  inside : forall link, link ∈ state.links.rows -> reachesOutside state zone.id link = false

structure Sound (state : ZoneState) : Prop where
  free : forall rate, rate ∈ state.rates.rows -> rate.active = true -> rate.feeMillimes = 0 ->
    FreeZone state.zones.rows rate.toDeliveryRate
  express : forall zone, zone ∈ state.zones.rows -> zone.active = true ->
    zone.code = bizerteExpressCode -> ExpressReady state zone

theorem assertBizerteExpressReady_ok {state : ZoneState} {zone : ZoneRecord} :
    assertBizerteExpressReady state zone = .ok () <-> ExpressReady state zone := by
  simp only [assertBizerteExpressReady, bind_ok, throwIf_ok, exists_const, not_or, not_not,
    Table.count, Table.filter, List.length_eq_zero_iff, List.filter_eq_nil_iff, gt_iff_lt,
    not_lt, Nat.le_zero]
  constructor
  next =>
    rintro ⟨⟨least, most, noMin, noMax, payment, assignment, communication⟩, covers, inside⟩
    simp only [not_forall, not_not] at covers
    obtain ⟨link, member, supports⟩ := covers
    exact ⟨⟨least, most⟩, ⟨noMin, noMax⟩, payment, assignment, communication,
      ⟨link, member, supports⟩, fun other present => Bool.eq_false_iff.2 (inside other present)⟩
  next =>
    intro ready
    refine ⟨⟨ready.minutes.1, ready.minutes.2, ready.days.1, ready.days.2, ready.payment,
      ready.assignment, ready.communication⟩, ?_, fun link member => ?_⟩
    next =>
      obtain ⟨link, member, supports⟩ := ready.covers
      exact fun absent => absent link member supports
    next => simp [ready.inside link member]

section Frames

variable {state next : ZoneState}

theorem localityActive_same (same : next.geography = state.geography) (localityId : Id) :
    localityActive next.config localityId = localityActive state.config localityId := by
  simp only [localityActive, delegationActive, governorateActive, ZoneState.config, same,
    List.any_map, Function.comp_def]

-- Of the zone itself the conditions read these columns only.
structure SameTerms (zone after : ZoneRecord) : Prop where
  id : after.id = zone.id
  minutes : after.estimatedMinMinutes = zone.estimatedMinMinutes /\
    after.estimatedMaxMinutes = zone.estimatedMaxMinutes
  days : after.estimatedMinDays = zone.estimatedMinDays /\ after.estimatedMaxDays = zone.estimatedMaxDays
  payment : after.paymentMethod = zone.paymentMethod
  assignment : after.assignmentMode = zone.assignmentMode
  communication : after.driverCommunication = zone.driverCommunication

theorem SameTerms.refl (zone : ZoneRecord) : SameTerms zone zone :=
  ⟨rfl, ⟨rfl, rfl⟩, ⟨rfl, rfl⟩, rfl, rfl, rfl⟩

-- A zone stays ready while its terms and its links stay as they are.
theorem ExpressReady.carries {zone after : ZoneRecord} (ready : ExpressReady state zone)
    (terms : SameTerms zone after) (geography : next.geography = state.geography)
    (links : forall link, link.deliveryZoneId = zone.id ->
      (link ∈ next.links.rows <-> link ∈ state.links.rows)) : ExpressReady next after := by
  constructor
  case minutes => rw [terms.minutes.1, terms.minutes.2]; exact ready.minutes
  case days => rw [terms.days.1, terms.days.2]; exact ready.days
  case payment => rw [terms.payment]; exact ready.payment
  case assignment => rw [terms.assignment]; exact ready.assignment
  case communication => rw [terms.communication]; exact ready.communication
  case covers =>
    obtain ⟨link, member, supports⟩ := ready.covers
    have own : link.deliveryZoneId = zone.id := by
      simp only [supportsLocality, Bool.and_eq_true, beq_iff_eq] at supports
      exact supports.1.1
    refine ⟨link, (links link own).2 member, ?_⟩
    rw [supportsLocality, terms.id, localityActive_same geography]
    exact supports
  case inside =>
    intro link member
    rw [reachesOutside, terms.id, geography]
    by_cases own : link.deliveryZoneId = zone.id
    next => exact ready.inside link ((links link own).1 member)
    next => simp [own]

end Frames

section Links

-- An upsert leaves the links of every other zone alone.
theorem upsertLink_other (links : Table DeliveryZoneLocality.key) {link row : DeliveryZoneLocality}
    (apart : row.deliveryZoneId ≠ link.deliveryZoneId) :
    row ∈ (upsertLink links link).rows <-> row ∈ links.rows := by
  unfold upsertLink
  cases inserted : links.insert? link with
  | some next =>
    have rows := (Table.insert?_rows inserted).1
    have different : row ≠ link := fun same => apart (congrArg DeliveryZoneLocality.deliveryZoneId same)
    simp [rows, different]
  | none =>
    have unmoved : forall other : DeliveryZoneLocality, other.deliveryZoneId = row.deliveryZoneId ->
        Table.rewrite (fun some => decide (some.key = link.key)) (relinked link) other = other := by
      intro other own
      apply Table.rewrite_other
      simp only [DeliveryZoneLocality.key, Prod.mk.injEq, decide_eq_false_iff_not, not_and]
      exact fun same => absurd (own ▸ same) apart
    simp only [Table.modify, Table.update_rows, List.mem_map]
    constructor
    next =>
      rintro ⟨other, member, same⟩
      have own : other.deliveryZoneId = row.deliveryZoneId := by
        rw [← same]
        exact (@Table.rewrite_field _ _ DeliveryZoneLocality.deliveryZoneId _ (relinked link)
          (fun _ => rfl) other).symm
      rw [unmoved other own] at same
      exact same ▸ member
    next => exact fun member => ⟨row, member, unmoved row rfl⟩

theorem upsertLinks_other (wanted : List DeliveryZoneLocality) (id : Id)
    (each : forall link, link ∈ wanted -> link.deliveryZoneId = id)
    (links : Table DeliveryZoneLocality.key) {row : DeliveryZoneLocality}
    (apart : row.deliveryZoneId ≠ id) :
    row ∈ (wanted.foldl upsertLink links).rows <-> row ∈ links.rows := by
  induction wanted generalizing links with
  | nil => exact Iff.rfl
  | cons link rest ih =>
    rw [List.foldl_cons, ih (fun other member => each other (by simp [member]))]
    apply upsertLink_other
    exact each link (by simp) ▸ apart

end Links

section ZoneRows

variable {state next : ZoneState}

/-- The row an update of one zone addresses, against every other row. -/
theorem zone_cases {zones : Table ZoneRecord.key} {current : ZoneRecord} {expected : Int}
    {change : ZoneRecord -> ZoneRecord} (found : zones.find? current.id = some current)
    (stamped : current.updatedAt = expected) {zone : ZoneRecord}
    (member : zone ∈ zones.rows.map
      (Table.rewrite (fun row => row.id == current.id && row.updatedAt == expected) change)) :
    zone = change current \/ (zone ∈ zones.rows /\ zone.id ≠ current.id) := by
  obtain ⟨was, there, ⟨hit, rfl⟩ | ⟨miss, rfl⟩⟩ := Table.rewrite_mem member
  next =>
    simp only [Bool.and_eq_true, beq_iff_eq] at hit
    obtain rfl := zones.same_of_key there (Table.find?_mem found) hit.1
    exact .inl rfl
  next =>
    refine .inr ⟨there, fun same => ?_⟩
    obtain rfl := zones.same_of_key there (Table.find?_mem found) same
    simp [stamped] at miss

-- An update that keeps every id and, but for the row it addresses, every threshold.
theorem freeZone_rewritten {zones : Table ZoneRecord.key} {chosen : ZoneRecord -> Bool}
    {change : ZoneRecord -> ZoneRecord} {rate : DeliveryRate}
    (ids : forall row, (change row).id = row.id) (free : FreeZone zones.rows rate)
    (kept : forall row, row ∈ zones.rows -> chosen row = true -> rate.deliveryZoneId = some row.id ->
      row.freeDeliveryThresholdMillimes = some 0 ->
      (change row).freeDeliveryThresholdMillimes = some 0) :
    FreeZone (zones.rows.map (Table.rewrite chosen change)) rate := by
  obtain ⟨zone, member, belongs, threshold⟩ := free
  refine ⟨Table.rewrite chosen change zone, List.mem_map_of_mem member, ?_, ?_⟩
  next => rw [@Table.rewrite_field _ _ (fun row : ZoneRecord => row.id) _ _ ids]; exact belongs
  next =>
    cases hit : chosen zone with
    | false => rw [Table.rewrite_other hit]; exact threshold
    | true => rw [Table.rewrite_chosen hit]; exact kept zone member hit belongs threshold

theorem create_sound {id : Id} {input : CreateDeliveryZone} {now : Int} (old : Sound state)
    (ran : create state id input now = .ok next) : Sound next := by
  simp only [create, bind_ok, throwIf_ok, exists_const, Database.create_ok, pure_ok] at ran
  obtain ⟨_, -, -, zones, inserted, rfl⟩ := ran
  have rows := (Table.insert?_rows inserted).1
  constructor
  case free =>
    intro rate member active fee
    obtain ⟨zone, present, belongs, threshold⟩ := old.free rate member active fee
    exact ⟨zone, by simp [rows, present], belongs, threshold⟩
  case express =>
    intro zone member active coded
    simp only [rows, List.mem_append, List.mem_singleton] at member
    cases member with
    | inl before =>
      exact (old.express zone before active coded).carries (SameTerms.refl zone) rfl (fun _ _ => Iff.rfl)
    | inr added => simp [added, createdZone] at active

theorem update_sound {id : Id} {input : UpdateDeliveryZone} {now : Int} (old : Sound state)
    (ran : update state id input now = .ok next) : Sound next := by
  simp only [update, requireZone, assertTimestamp, assertZoneFeeConfiguration, bind_ok, orThrow_ok,
    throwIf_ok, not_not, exists_const, requireWhen_ok, Database.updateOne_ok, pure_ok] at ran
  obtain ⟨current, found, stamped, _, -, -, zones, ⟨-, rfl⟩, changed, sees, fees, ready, rfl⟩ := ran
  have same : current.id = id := (Table.find?_key found : current.key = id)
  subst same
  have moved : changed = updatedZone input now current := by
    rw [Table.find?_update, found] at sees
    have hit : (current.id == current.id && current.updatedAt == input.expectedUpdatedAt) = true := by
      simp [stamped]
    obtain rfl := Option.some.inj sees
    exact Table.rewrite_chosen hit
  subst moved
  have member := Table.find?_mem found
  constructor
  case free =>
    intro rate present active fee
    refine freeZone_rewritten (fun _ => rfl) (old.free rate present active fee) ?_
    intro row there hit belongs threshold
    simp only [Bool.and_eq_true, beq_iff_eq] at hit
    obtain rfl := state.zones.same_of_key there member hit.1
    -- The rate is one of those that forbid a zone to stop being free.
    by_contra priced
    have counted : rate ∈ state.rates.filter (chargesNothing row.id) :=
      List.mem_filter.2 ⟨present, by simp [chargesNothing, active, belongs, fee]⟩
    exact fees ⟨priced, List.length_pos_of_mem counted⟩
  case express =>
    intro zone present active coded
    cases zone_cases found stamped present with
    | inl here =>
      subst here
      exact assertBizerteExpressReady_ok.1 (ready ⟨active, coded⟩)
    | inr elsewhere =>
      refine (old.express zone elsewhere.1 active coded).carries (SameTerms.refl zone) rfl ?_
      exact fun _ _ => Iff.rfl

theorem setActive_sound {id : Id} {expected now : Int} {active : Bool} (old : Sound state)
    (ran : setActive state id expected active now = .ok next) : Sound next := by
  simp only [setActive, requireZone, assertTimestamp, bind_ok, orThrow_ok, throwIf_ok, not_not,
    exists_const, requireWhen_ok, Database.updateOne_ok, pure_ok] at ran
  obtain ⟨current, found, stamped, checked, zones, ⟨-, rfl⟩, rfl⟩ := ran
  have same : current.id = id := (Table.find?_key found : current.key = id)
  subst same
  constructor
  case free =>
    intro rate present charged fee
    refine freeZone_rewritten (fun _ => rfl) (old.free rate present charged fee) ?_
    exact fun row _ _ _ threshold => threshold
  case express =>
    intro zone present switched coded
    cases zone_cases found stamped present with
    | inl here =>
      subst here
      have activation := checked switched
      simp only [assertActivatable, bind_ok, requireWhen_ok] at activation
      obtain ⟨-, -, -, -, -, checkedReady, -⟩ := activation
      have ready := assertBizerteExpressReady_ok.1 (checkedReady coded)
      exact ready.carries ⟨rfl, ⟨rfl, rfl⟩, ⟨rfl, rfl⟩, rfl, rfl, rfl⟩ rfl (fun _ _ => Iff.rfl)
    | inr elsewhere =>
      refine (old.express zone elsewhere.1 switched coded).carries (SameTerms.refl zone) rfl ?_
      exact fun _ _ => Iff.rfl

theorem linkGeography_sound {id : Id} {input : LinkZoneGeography} {now : Int} (old : Sound state)
    (ran : linkGeography state id input now = .ok next) : Sound next := by
  simp only [linkGeography, requireZone, assertTimestamp, bind_ok, orThrow_ok, throwIf_ok, not_not,
    exists_const, requireWhen_ok, Database.updateOne_ok, pure_ok] at ran
  obtain ⟨current, found, stamped, -, -, -, -, zones, ⟨-, rfl⟩, -, changed, sees, ready, rfl⟩ := ran
  have same : current.id = id := (Table.find?_key found : current.key = id)
  subst same
  have moved : changed = touchedZone now current := by
    rw [Table.find?_update, found] at sees
    have hit : (current.id == current.id && current.updatedAt == input.expectedUpdatedAt) = true := by
      simp [stamped]
    obtain rfl := Option.some.inj sees
    exact Table.rewrite_chosen hit
  subst moved
  constructor
  case free =>
    intro rate present active fee
    refine freeZone_rewritten (fun _ => rfl) (old.free rate present active fee) ?_
    exact fun row _ _ _ threshold => threshold
  case express =>
    intro zone present active coded
    cases zone_cases found stamped present with
    | inl here =>
      subst here
      exact assertBizerteExpressReady_ok.1 (ready ⟨active, coded⟩)
    | inr elsewhere =>
      refine (old.express zone elsewhere.1 active coded).carries (SameTerms.refl zone) rfl ?_
      intro link own
      apply upsertLinks_other _ current.id
      case each =>
        intro wanted picked
        obtain ⟨localityId, -, rfl⟩ := List.mem_map.1 picked
        rfl
      case apart => exact own ▸ elsewhere.2

end ZoneRows

section RateRows

variable {state : ZoneState} {rated : RateState}

-- A rate call concerns the zones only through the rates it leaves active.
theorem priced_sound (old : Sound state)
    (free : forall rate, rate ∈ rated.rates.rows -> rate.active = true -> rate.feeMillimes = 0 ->
      FreeZone state.zones.rows rate.toDeliveryRate) : Sound (state.priced rated) where
  free := free
  express zone present active coded :=
    (old.express zone present active coded).carries (SameTerms.refl zone) rfl (fun _ _ => Iff.rfl)

/-- A rate that passes the validation is free of charge in a free zone only. -/
theorem validateRate_free {rate : DeliveryRate} (valid : validateRate state.config rate = .ok ())
    (fee : rate.feeMillimes = 0) : FreeZone state.zones.rows rate := by
  simp only [validateRate, bind_ok, throwIf_ok, exists_const, not_and, not_not] at valid
  have threshold := valid.2.2.2.2.2.1 fee
  simp only [Option.bind_eq_some_iff] at threshold
  obtain ⟨zone, ⟨wanted, belongs, found⟩, free⟩ := threshold
  obtain ⟨record, member, rfl⟩ := List.mem_map.1 (List.mem_of_find?_eq_some found)
  have same : record.id = wanted := by simpa using List.find?_some found
  exact ⟨record, member, same ▸ belongs, free⟩

theorem createRate_sound {id : Id} {input : RateConfigInput} (old : Sound state)
    (ran : Rates.create state.rateState id input = .ok rated) : Sound (state.priced rated) := by
  simp only [Rates.create, bind_ok, Database.create_ok, pure_ok] at ran
  obtain ⟨-, -, rates, inserted, rfl⟩ := ran
  apply priced_sound old
  intro rate member active fee
  rw [(Table.insert?_rows inserted).1, List.mem_append, List.mem_singleton] at member
  cases member with
  | inl before => exact old.free rate before active fee
  | inr added => simp [added, rateInput] at active

theorem updateRate_sound {id : Id} {input : UpdateDeliveryRate} {now : Int} (old : Sound state)
    (ran : Rates.update state.rateState id input now = .ok rated) : Sound (state.priced rated) := by
  simp only [Rates.update, bind_ok, throwIf_ok, exists_const, requireWhen_ok, Database.updateOne_ok,
    pure_ok] at ran
  obtain ⟨current, -, -, _, valid, -, rates, ⟨-, rfl⟩, -, -, -, -, rfl⟩ := ran
  apply priced_sound old
  intro rate member active fee
  obtain ⟨was, there, ⟨-, rfl⟩ | ⟨-, rfl⟩⟩ := Table.rewrite_mem member
  next =>
    obtain ⟨zone, present, belongs, threshold⟩ := validateRate_free valid fee
    exact ⟨zone, present, belongs, threshold⟩
  next => exact old.free rate there active fee

theorem setRateActive_sound {id : Id} {version now : Int} {active : Bool} (old : Sound state)
    (ran : Rates.setActive state.rateState id version active now = .ok rated) :
    Sound (state.priced rated) := by
  simp only [Rates.setActive, requireRate, bind_ok, orThrow_ok, throwIf_ok, exists_const,
    requireWhen_ok, Database.updateOne_ok, pure_ok] at ran
  obtain ⟨current, found, -, _, valid, -, rates, ⟨-, rfl⟩, -, -, -, -, rfl⟩ := ran
  apply priced_sound old
  intro rate member active fee
  obtain ⟨was, there, ⟨hit, rfl⟩ | ⟨-, rfl⟩⟩ := Table.rewrite_mem member
  next =>
    simp only [Bool.and_eq_true, beq_iff_eq] at hit
    have same : was.key = current.key := hit.1.trans (Table.find?_key found).symm
    obtain rfl := state.rates.same_of_key there (Table.find?_mem found) same
    exact validateRate_free valid fee
  next => exact old.free rate there active fee

end RateRows

section Runs

/-- Every call, whichever side it comes from, keeps both conditions. -/
theorem exec_sound {state next : ZoneState} {request : ConfigRequest} (old : Sound state)
    (ran : exec state request = .ok next) : Sound next := by
  unfold exec at ran
  cases call : request.call with
  | createZone id input => simp only [call] at ran; exact create_sound old ran
  | updateZone id input => simp only [call] at ran; exact update_sound old ran
  | setZoneActive id expected active => simp only [call] at ran; exact setActive_sound old ran
  | linkGeography id input => simp only [call] at ran; exact linkGeography_sound old ran
  | createRate id input =>
    simp only [call, map_ok] at ran
    obtain ⟨rated, made, rfl⟩ := ran
    exact createRate_sound old made
  | updateRate id input =>
    simp only [call, map_ok] at ran
    obtain ⟨rated, made, rfl⟩ := ran
    exact updateRate_sound old made
  | setRateActive id version active =>
    simp only [call, map_ok] at ran
    obtain ⟨rated, made, rfl⟩ := ran
    exact setRateActive_sound old made

theorem step_sound (state : ZoneState) (request : ConfigRequest) (old : Sound state) :
    Sound (step state request) := by
  unfold step
  cases ran : exec state request with
  | error failure => exact old
  | ok next => exact exec_sound old ran

-- Nothing on offer yet, whatever zones, links and rates are kept.
structure Dormant (state : ZoneState) : Prop where
  zones : forall zone, zone ∈ state.zones.rows -> zone.active = false
  rates : forall rate, rate ∈ state.rates.rows -> rate.active = false

theorem Dormant.sound {state : ZoneState} (dormant : Dormant state) : Sound state where
  free rate member active := by simp [dormant.rates rate member] at active
  express zone member active := by simp [dormant.zones zone member] at active

/-- No run of zone and rate calls leaves a free rate in a charging zone, or an active express zone
that its own readiness check would refuse. -/
theorem configuration_stays_sound {start : ZoneState} (dormant : Dormant start)
    (requests : List ConfigRequest) {state : ZoneState}
    (visited : Runs.Visits step start requests state) :
    (forall rate, rate ∈ state.rates.rows -> rate.active = true -> rate.feeMillimes = 0 ->
      exists zone, zone ∈ state.zones.rows /\ rate.deliveryZoneId = some zone.id /\
        zone.freeDeliveryThresholdMillimes = some 0) /\
    forall zone, zone ∈ state.zones.rows -> zone.active = true -> zone.code = bizerteExpressCode ->
      assertBizerteExpressReady state zone = .ok () := by
  have sound : Sound state := Runs.visits_keeps step_sound dormant.sound visited
  constructor
  next => exact sound.free
  next =>
    intro zone member active coded
    exact assertBizerteExpressReady_ok.2 (sound.express zone member active coded)

namespace Sample

def drawn : ZoneState where
  geography := {
    governorates := [{ id := 1, active := true, code := ['2', '3'] }]
    delegations := System.Sample.shop.delegations
    localities := System.Sample.shop.localities }
  other := System.Sample.shop
  zones := Table.empty
  links := Table.empty
  rates := Table.empty

def freeExpress : CreateDeliveryZone where
  code := bizerteExpressCode
  nameFr := ['b']
  nameAr := ['b']
  priority := none
  minOrderMillimes := none
  maxCodMillimes := none
  freeDeliveryThresholdMillimes := some 0
  estimatedMinDays := none
  estimatedMaxDays := none
  estimatedMinMinutes := some 30
  estimatedMaxMinutes := some 50
  paymentMethod := some .cashOnDelivery
  assignmentMode := some .manual
  driverCommunication := some .whatsapp
  phoneConfirmationRequired := none
  manualReviewRequired := none

def noFee : RateConfigInput where
  type := .base
  deliveryZoneId := some 2
  governorateId := none
  delegationId := none
  localityId := none
  priority := none
  feeMillimes := 0
  minWeightGrams := none
  maxWeightGrams := none
  minOrderMillimes := none
  maxOrderMillimes := none
  maxCodMillimes := none
  express := none
  validFrom := none
  validUntil := none

def opened : List ConfigRequest :=
  [{ now := 1, call := .createZone 2 freeExpress },
   { now := 2, call := .linkGeography 2 { expectedUpdatedAt := 1, scope := .locality, geographyId := 1
                                          active := true, priorityOverride := none } },
   { now := 3, call := .createRate 9 noFee },
   { now := 4, call := .setRateActive 9 1 true },
   { now := 5, call := .setZoneActive 2 2 true }]

end Sample

theorem opened_express_ready :
    let reached := Runs.run step Sample.drawn Sample.opened
    reached.zones.rows.any (fun zone => zone.active && zone.code == bizerteExpressCode) = true /\
    reached.rates.rows.any (fun rate => rate.active && rate.feeMillimes == 0) = true /\
    (forall rate, rate ∈ reached.rates.rows -> rate.active = true -> rate.feeMillimes = 0 ->
      exists zone, zone ∈ reached.zones.rows /\ rate.deliveryZoneId = some zone.id /\
        zone.freeDeliveryThresholdMillimes = some 0) /\
    forall zone, zone ∈ reached.zones.rows -> zone.active = true -> zone.code = bizerteExpressCode ->
      assertBizerteExpressReady reached zone = .ok () :=
  ⟨by decide +kernel, by decide +kernel,
    configuration_stays_sound ⟨by simp [Sample.drawn], by simp [Sample.drawn]⟩ Sample.opened (Runs.visits_end _ _)⟩

end Runs

end VapeCommerce.DeliveryConfig.Readiness
