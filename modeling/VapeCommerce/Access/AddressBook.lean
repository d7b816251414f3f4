import VapeCommerce.Access.Addresses
import VapeCommerce.Lib.Growth

set_option autoImplicit false

-- The address book of one customer: its limit and its single default, however the calls overlap.
namespace VapeCommerce.Access.AddressBook

open VapeCommerce.Lib VapeCommerce.Lib.Outcome VapeCommerce.Schema VapeCommerce.Database
open VapeCommerce.Access.Addresses VapeCommerce.Lib.Locking

structure Settled (customerId : Id) (addresses : Table Address.id) : Prop where
  limited : addresses.count (live customerId) <= maxCustomerAddresses
  single : 0 < addresses.count (live customerId) -> addresses.count (liveDefault customerId) = 1

-- A row and what it became: a version names its contents.
structure Revised (old new : Address) : Prop where
  id : new.id = old.id
  version : old.version <= new.version
  same : new.version = old.version -> new = old

theorem Revised.refl (row : Address) : Revised row row :=
  ⟨rfl, le_rfl, fun _ => rfl⟩

theorem Revised.trans {old row new : Address} (first : Revised old row) (second : Revised row new) :
    Revised old new where
  id := second.id.trans first.id
  version := first.version.trans second.version
  same := fun same => by
    have upper := second.version
    have lower := first.version
    have kept := second.same (by omega)
    rw [kept, first.same (by omega)]

def Since (before after : Table Address.id) : Prop :=
  Grown Revised (fun _ => True) before.rows after.rows

theorem Since.refl (addresses : Table Address.id) : Since addresses addresses :=
  Grown.refl Revised.refl _

theorem Since.trans {before middle after : Table Address.id} (first : Since before middle)
    (second : Since middle after) : Since before after :=
  Grown.trans (fun _ _ _ => Revised.trans) (fun _ _ _ _ => trivial) first second

theorem since_update (addresses : Table Address.id) (chosen : Address -> Bool)
    {change : Address -> Address} (keeps : forall row, (change row).id = row.id)
    (bumps : forall row, (change row).version = row.version + 1) :
    Since addresses (addresses.update chosen change keeps) :=
  Grown.rewrite Revised.refl (fun row _ => {
    id := keeps row
    version := by rw [bumps]; omega
    same := fun same => absurd (bumps row) (by omega) }) _

theorem since_clear (addresses : Table Address.id) (customerId : Id) (except : Option Id) :
    Since addresses (clearDefaults addresses customerId except) :=
  since_update _ _ _ fun _ => rfl

theorem since_promote (addresses : Table Address.id) (customerId : Id) (replacement : Option Address) :
    Since addresses (promote addresses customerId replacement) := by
  cases replacement with
  | none => exact .refl _
  | some replacement => exact since_update _ _ (withDefault_id true) fun _ => rfl

theorem since_insert {addresses next : Table Address.id} {row : Address}
    (inserted : addresses.insert? row = some next) : Since addresses next := by
  unfold Since
  rw [(Table.insert?_rows inserted).1]
  exact Grown.append Revised.refl _ trivial

-- The customer has one default, at this id.
structure Sole (customerId : Id) (addresses : Table Address.id) (id : Id) : Prop where
  here : exists row, row ∈ addresses.rows /\ row.id = id /\ liveDefault customerId row = true
  only : forall row, row ∈ addresses.rows -> liveDefault customerId row = true -> row.id = id

variable {customerId : Id} {addresses : Table Address.id}

theorem liveDefault_live {row : Address} (is : liveDefault customerId row = true) :
    live customerId row = true :=
  (Bool.and_eq_true_iff.1 is).1

theorem Sole.count {id : Id} (sole : Sole customerId addresses id) :
    addresses.count (liveDefault customerId) = 1 := by
  obtain ⟨row, member, rfl, is⟩ := sole.here
  have one : addresses.count (fun other => other.id == row.id && liveDefault customerId other) = 1 :=
    addresses.count_eq_one member (by simp [is]) (by simp +contextual)
  rw [<- one]
  refine congrArg List.length (List.filter_congr fun other there => ?_)
  cases default : liveDefault customerId other with
  | false => simp
  | true => simp [sole.only other there default]

theorem settled_sole (settled : Settled customerId addresses) {row : Address}
    (member : row ∈ addresses.rows) (is : live customerId row = true) :
    exists id, Sole customerId addresses id := by
  have one := settled.single (Table.count_pos.2 ⟨row, member, is⟩)
  obtain ⟨default, there, found, only⟩ := Table.count_one one
  exact ⟨default.id, ⟨default, there, rfl, found⟩,
    fun other present also => by rw [only other present also]⟩

theorem settled_default (settled : Settled customerId addresses) {row : Address}
    (member : row ∈ addresses.rows) (is : liveDefault customerId row = true) :
    Sole customerId addresses row.id := by
  obtain ⟨id, sole⟩ := settled_sole settled member (liveDefault_live is)
  exact sole.only row member is ▸ sole

theorem clear_others {except : Option Id} {row : Address}
    (member : row ∈ (clearDefaults addresses customerId except).rows)
    (is : liveDefault customerId row = true) : some row.id = except := by
  obtain ⟨was, -, ⟨-, rfl⟩ | ⟨missed, rfl⟩⟩ := Table.rewrite_mem member
  next => simp [liveDefault, withDefault] at is
  next => simpa [is] using missed

theorem clear_keeps {id : Id} {row : Address} :
    row.id = id -> (row ∈ (clearDefaults addresses customerId (some id)).rows <-> row ∈ addresses.rows) := by
  rintro rfl
  constructor
  next =>
    intro member
    obtain ⟨was, there, ⟨hit, rfl⟩ | ⟨-, rfl⟩⟩ := Table.rewrite_mem member
    next => simp at hit
    next => exact there
  next =>
    intro member
    exact List.mem_map.2 ⟨row, member, Table.rewrite_other (by simp)⟩

theorem live_clear (except : Option Id) :
    (clearDefaults addresses customerId except).count (live customerId) = addresses.count (live customerId) :=
  addresses.count_update _ fun _ _ _ => rfl

theorem live_promote (replacement : Option Address) :
    (promote addresses customerId replacement).count (live customerId) =
      addresses.count (live customerId) := by
  cases replacement with
  | none => rfl
  | some replacement => exact addresses.count_update (withDefault_id true) fun _ _ _ => rfl

-- With no default left, a live replacement becomes the only one.
theorem promote_sole {replacement : Address}
    (none_left : forall row, row ∈ addresses.rows -> liveDefault customerId row = false)
    (stands : 0 < addresses.count (fun row => row.id == replacement.id && live customerId row)) :
    Sole customerId (promote addresses customerId (some replacement)) replacement.id := by
  obtain ⟨row, member, found⟩ := Table.count_pos.1 stands
  constructor
  next =>
    refine ⟨withDefault true row, List.mem_map.2 ⟨row, member, Table.rewrite_chosen found⟩, ?_, ?_⟩
    next => exact eq_of_beq (Bool.and_eq_true_iff.1 found).1
    next =>
      have is := (Bool.and_eq_true_iff.1 found).2
      simpa [liveDefault, live, withDefault] using is
  next =>
    intro other there is
    obtain ⟨was, present, ⟨hit, rfl⟩ | ⟨-, rfl⟩⟩ := Table.rewrite_mem there
    next => exact eq_of_beq (Bool.and_eq_true_iff.1 hit).1
    next => simp [none_left other present] at is

theorem findCurrent_ok {snapshot : Table Address.id} {addressId : Id} {version : Nat} {current : Address} :
    findCurrent snapshot customerId addressId version = .ok current <->
      current ∈ snapshot.rows /\ current.id = addressId /\ live customerId current = true /\
        current.version = version := by
  simp only [findCurrent, bind_ok, orThrow_ok, Option.filter_eq_some_iff, throwIf_ok, not_not, pure_ok,
    Table.find?_iff]
  constructor
  next =>
    rintro ⟨_, ⟨⟨member, here⟩, is⟩, -, version, rfl⟩
    exact ⟨member, here, is, version⟩
  next =>
    rintro ⟨member, here, is, version⟩
    exact ⟨current, ⟨⟨member, here⟩, is⟩, (), version, rfl⟩

theorem replacementFor_some {id : Id} {replacement : Address}
    (found : replacementFor addresses customerId id = some replacement) :
    replacement ∈ addresses.rows /\ live customerId replacement = true /\ replacement.id ≠ id := by
  have member := (List.mem_insertionSort createdBefore).1 (List.mem_of_mem_head? (by simpa [replacementFor] using found))
  simpa [Table.filter] using member

theorem replacementFor_none {id : Id} (missing : replacementFor addresses customerId id = none)
    {row : Address} (member : row ∈ addresses.rows) (is : live customerId row = true) : row.id = id := by
  by_contra apart
  have there : row ∈ (addresses.filter fun row => live customerId row && row.id != id).insertionSort
      createdBefore :=
    (List.mem_insertionSort createdBefore).2 (List.mem_filter.2 ⟨member, by simp [is, apart]⟩)
  rw [List.head?_eq_none_iff.1 missing] at there
  exact absurd there (by simp)

-- The row a call has read at a version is still the latest row where an update at that version hit.
theorem read_stands {snapshot latest : Table Address.id} (since : Since snapshot latest) {current : Address}
    (read : current ∈ snapshot.rows)
    (one : latest.count (atVersion customerId current.id current.version) = 1) : current ∈ latest.rows := by
  obtain ⟨row, member, hit, -⟩ := Table.count_one one
  simp only [atVersion, Bool.and_eq_true, beq_iff_eq] at hit
  have revised := since.at_key (fun _ _ revised => revised.id) read member hit.1.1
  exact revised.same hit.2 ▸ member

variable {registry : Registry} {userId : Id} {snapshot latest next : Table Address.id}

-- What a call chose from its snapshot still holds of the latest rows: there is room, a first address is
-- the first, and the replacement of a default is there.
def ChoicesStand (customerId : Id) (snapshot latest : Table Address.id) : Call -> Prop
  | .create _ input _ =>
    maxCustomerAddresses <= snapshot.count (live customerId) \/
      (latest.count (live customerId) < maxCustomerAddresses /\
        (input.isDefault = some true \/ snapshot.count (live customerId) = 0 \/
          0 < latest.count (live customerId)))
  | .update addressId input =>
    forall current, current ∈ snapshot.rows -> current ∈ latest.rows -> current.id = addressId ->
      current.version = input.expectedVersion -> liveDefault customerId current = true ->
      input.isDefault = some false ->
      forall replacement, replacementFor snapshot customerId addressId = some replacement ->
        0 < latest.count (fun row => row.id == replacement.id && live customerId row)
  | .remove addressId expectedVersion _ =>
    forall current, current ∈ snapshot.rows -> current ∈ latest.rows -> current.id = addressId ->
      current.version = expectedVersion -> liveDefault customerId current = true ->
      match replacementFor snapshot customerId addressId with
      | some replacement => 0 < latest.count (fun row => row.id == replacement.id && live customerId row)
      | none => latest.count (fun row => live customerId row && row.id != addressId) = 0

-- What an accepted creation has counted and what it inserts.
structure Creates (customerId : Id) (snapshot latest next : Table Address.id)
    (input : CreateCustomerAddress) (row : Address) : Prop where
  room : snapshot.count (live customerId) < maxCustomerAddresses
  default : row.isDefault = (input.isDefault == some true || snapshot.count (live customerId) == 0)
  present : live customerId row = true
  inserted : (if row.isDefault then clearDefaults latest customerId none else latest).insert? row = some next

theorem create_creates {id : Id} {input : CreateCustomerAddress} {now : Int}
    (owner : requireCustomer registry userId = .ok customerId)
    (ran : Addresses.create registry userId snapshot latest id input now = .ok next) :
    exists row, Creates customerId snapshot latest next input row := by
  simp only [Addresses.create, ok_of_bind owner, bind_ok, throwIf_ok, Nat.not_le, ge_iff_le, create_ok] at ran
  obtain ⟨⟨⟩, room, ⟨⟩, -, inserted⟩ := ran
  exact ⟨_, room, rfl, by simp [live], inserted⟩

theorem create_settled {input : CreateCustomerAddress} {row : Address}
    (creates : Creates customerId snapshot latest next input row) (settled : Settled customerId latest)
    (limit : latest.count (live customerId) < maxCustomerAddresses)
    (first : row.isDefault = true \/ 0 < latest.count (live customerId)) :
    Settled customerId next := by
  obtain ⟨rows, fresh⟩ := Table.insert?_rows creates.inserted
  have lives : next.count (live customerId) = latest.count (live customerId) + 1 := by
    have cleared : (if row.isDefault then clearDefaults latest customerId none else latest).count
        (live customerId) = latest.count (live customerId) := by
      split
      next => exact live_clear none
      next => rfl
    rw [<- cleared]
    simp [Table.count, Table.filter, rows, List.filter_append, creates.present]
  refine ⟨by omega, fun _ => ?_⟩
  cases default : row.isDefault with
  | true =>
    rw [default, if_pos rfl] at rows
    refine @Sole.count _ _ row.id ⟨⟨row, by simp [rows], rfl, by simp [liveDefault, creates.present, default]⟩,
      fun other member is => ?_⟩
    rw [rows] at member
    rcases List.mem_append.1 member with old | new
    next => exact absurd (clear_others old is) (by simp)
    next => rw [List.mem_singleton.1 new]
  | false =>
    have before := settled.single (first.resolve_left (by simp [default]))
    rw [default] at rows
    simpa [Table.count, Table.filter, rows, List.filter_append, liveDefault, default] using before

-- The one row an update at a version hits is the row it was read as.
theorem atVersion_is {current row : Address} (read : current ∈ latest.rows) (member : row ∈ latest.rows)
    (hit : atVersion customerId current.id current.version row = true) : row = current := by
  simp only [atVersion, Bool.and_eq_true, beq_iff_eq] at hit
  exact latest.same_of_key member read hit.1.1

theorem atVersion_hits {current : Address} (is : live customerId current = true) :
    atVersion customerId current.id current.version current = true := by
  simp [atVersion, is]

-- Giving up the default with the row leaves no default.
theorem undefaulted {current : Address} {change : Address -> Address}
    {keeps : forall row, (change row).id = row.id} (settled : Settled customerId latest)
    (read : current ∈ latest.rows) (is : liveDefault customerId current = true)
    (gives : liveDefault customerId (change current) = false) {row : Address}
    (member : row ∈ (latest.update (atVersion customerId current.id current.version) change keeps).rows) :
    liveDefault customerId row = false := by
  have sole := settled_default settled read is
  obtain ⟨was, there, ⟨hit, rfl⟩ | ⟨missed, rfl⟩⟩ := Table.rewrite_mem member
  next => exact atVersion_is read there hit ▸ gives
  next =>
    refine Bool.eq_false_iff.2 fun default => ?_
    obtain rfl := latest.same_of_key there read (sole.only row there default)
    simp [atVersion_hits (liveDefault_live is)] at missed

structure Updates (customerId : Id) (snapshot latest next : Table Address.id) (addressId : Id)
    (input : UpdateCustomerAddress) (current : Address) (replacement : Option Address) : Prop where
  read : current ∈ snapshot.rows
  here : current.id = addressId
  present : live customerId current = true
  version : current.version = input.expectedVersion
  replaced : replacementDefault snapshot customerId current input = .ok replacement
  one : latest.count (atVersion customerId current.id current.version) = 1
  writes : next = promote
    ((if input.isDefault = some true then clearDefaults latest customerId (some current.id) else latest).update
      (atVersion customerId current.id current.version) (updateData input (input.geography current))
      (updateData_id _ _)) customerId replacement

theorem update_updates {addressId : Id} {input : UpdateCustomerAddress}
    (owner : requireCustomer registry userId = .ok customerId)
    (ran : Addresses.update registry userId snapshot latest addressId input = .ok next) :
    exists current replacement, Updates customerId snapshot latest next addressId input current replacement := by
  simp only [Addresses.update, ok_of_bind owner, bind_ok, findCurrent_ok, updateOne_ok, pure_ok] at ran
  obtain ⟨⟨⟩, -, current, ⟨read, here, is, version⟩, ⟨⟩, -, replacement, replaced, _, ⟨one, rfl⟩, ⟨⟩, -, rfl⟩ :=
    ran
  rw [<- version] at one
  refine ⟨current, replacement, read, here, is, version, replaced, ?_, by rw [version]⟩
  split at one
  next =>
    rwa [clearDefaults, Table.count_update _ _ fun row _ cleared => ?_] at one
    have apart : (row.id == current.id) = false := by simpa using (Bool.and_eq_true_iff.1 cleared).2
    simp [atVersion, apart]
  next => exact one

theorem Updates.since {addressId : Id} {input : UpdateCustomerAddress} {current : Address}
    {replacement : Option Address}
    (updates : Updates customerId snapshot latest next addressId input current replacement) :
    Since latest next := by
  rw [updates.writes]
  refine Since.trans ?_ ((since_update _ _ (updateData_id _ _) fun _ => rfl).trans (since_promote _ _ _))
  split
  next => exact since_clear _ _ _
  next => exact .refl _

-- An edit counts where its row did.
theorem count_edited {wanted : Address -> Bool} {chosen : Address -> Bool} {input : UpdateCustomerAddress}
    {geography : GeographySelection} (same : forall row, wanted (updateData input geography row) = wanted row) :
    (addresses.update chosen (updateData input geography) (updateData_id _ _)).count wanted =
      addresses.count wanted :=
  addresses.count_update _ fun row _ _ => same row

theorem Updates.settled {addressId : Id} {input : UpdateCustomerAddress} {current : Address}
    {replacement : Option Address}
    (updates : Updates customerId snapshot latest next addressId input current replacement)
    (since : Since snapshot latest) (settled : Settled customerId latest)
    (stands : ChoicesStand customerId snapshot latest (.update addressId input)) :
    Settled customerId next := by
  have read := read_stands since updates.read updates.one
  have is := updates.present
  have lives : next.count (live customerId) = latest.count (live customerId) := by
    rw [updates.writes, live_promote, count_edited fun _ => rfl]
    split
    next => exact live_clear _
    next => rfl
  refine ⟨lives ▸ settled.limited, fun _ => ?_⟩
  have replaced := updates.replaced
  by_cases gains : input.isDefault = some true
  next =>
    -- Every other default is cleared, and no replacement is looked for.
    simp only [replacementDefault, gains, Option.some.injEq, Bool.true_eq_false, and_false, if_false,
      Except.ok.injEq] at replaced
    obtain rfl := replaced
    rw [updates.writes, if_pos gains]
    have kept : current ∈ (clearDefaults latest customerId (some current.id)).rows := (clear_keeps rfl).2 read
    refine @Sole.count _ _ current.id ⟨⟨updateData input (input.geography current) current,
      List.mem_map.2 ⟨current, kept, Table.rewrite_chosen (atVersion_hits is)⟩, rfl, ?_⟩, fun row member default => ?_⟩
    next =>
      have still : live customerId (updateData input (input.geography current) current) = true := is
      rw [liveDefault, still]
      simp [updateData, gains]
    next =>
      obtain ⟨was, there, ⟨hit, rfl⟩ | ⟨-, rfl⟩⟩ := Table.rewrite_mem member
      next =>
        simp only [atVersion, Bool.and_eq_true, beq_iff_eq] at hit
        exact hit.1.1
      next => exact Option.some.inj (clear_others there default)
  by_cases gives : current.isDefault = true /\ input.isDefault = some false
  next =>
    have default : liveDefault customerId current = true := by simp [liveDefault, is, gives.1]
    simp only [replacementDefault, gives, and_self, if_true] at replaced
    split at replaced
    next => cases replaced
    next chosen found =>
      obtain rfl := Except.ok.inj replaced
      have there := stands current updates.read read updates.here updates.version default gives.2 chosen
        (updates.here ▸ found)
      rw [updates.writes, if_neg gains]
      refine (promote_sole (fun row member => undefaulted settled read default ?_ member) ?_).count
      next => simp [liveDefault, updateData, gives.2]
      next => rwa [count_edited fun _ => rfl]
  next =>
    -- The flag of the row stays as it was.
    simp only [replacementDefault, if_neg gives, Except.ok.injEq] at replaced
    obtain rfl := replaced
    have before := settled.single (Table.count_pos.2 ⟨current, read, is⟩)
    rw [updates.writes, if_neg gains, <- before]
    refine latest.count_update (updateData_id _ _) fun row member hit => ?_
    obtain rfl := atVersion_is read member hit
    have still : live customerId (updateData input (input.geography row) row) = live customerId row := rfl
    rw [liveDefault, liveDefault, still]
    cases flag : input.isDefault with
    | none => simp [updateData, flag]
    | some isDefault =>
      cases isDefault with
      | true => exact absurd flag gains
      | false =>
        have plain : row.isDefault = false := Bool.eq_false_iff.2 fun default => gives ⟨default, flag⟩
        simp [updateData, flag, plain]

structure Removes (customerId : Id) (snapshot latest next : Table Address.id) (addressId : Id)
    (expectedVersion : Nat) (now : Int) (current : Address) : Prop where
  read : current ∈ snapshot.rows
  here : current.id = addressId
  present : live customerId current = true
  version : current.version = expectedVersion
  one : latest.count (atVersion customerId current.id current.version) = 1
  writes : next = promote
    (latest.update (atVersion customerId current.id current.version) (removed now) (removed_id _)) customerId
    (if current.isDefault then replacementFor snapshot customerId current.id else none)

theorem remove_removes {addressId : Id} {expectedVersion : Nat} {now : Int}
    (owner : requireCustomer registry userId = .ok customerId)
    (ran : Addresses.remove registry userId snapshot latest addressId expectedVersion now = .ok next) :
    exists current, Removes customerId snapshot latest next addressId expectedVersion now current := by
  simp only [Addresses.remove, ok_of_bind owner, bind_ok, findCurrent_ok, updateOne_ok, pure_ok] at ran
  obtain ⟨current, ⟨read, here, is, version⟩, _, ⟨one, rfl⟩, rfl⟩ := ran
  exact ⟨current, read, here, is, version, version ▸ one, by rw [version]⟩

theorem Removes.settled {addressId : Id} {expectedVersion : Nat} {now : Int} {current : Address}
    (removes : Removes customerId snapshot latest next addressId expectedVersion now current)
    (since : Since snapshot latest) (settled : Settled customerId latest)
    (stands : ChoicesStand customerId snapshot latest (.remove addressId expectedVersion now)) :
    Settled customerId next := by
  have read := read_stands since removes.read removes.one
  have is := removes.present
  have lives : next.count (live customerId) <= latest.count (live customerId) := by
    rw [removes.writes, live_promote]
    exact latest.count_update_le _ fun row _ still => by simp [live, removed] at still
  refine ⟨lives.trans settled.limited, fun some_left => ?_⟩
  cases default : current.isDefault with
  | false =>
    have before := settled.single (Table.count_pos.2 ⟨current, read, is⟩)
    rw [removes.writes, default, <- before]
    refine latest.count_update (removed_id now) fun row member hit => ?_
    obtain rfl := atVersion_is read member hit
    simp [liveDefault, removed, default]
  | true =>
    have was : liveDefault customerId current = true := by simp [liveDefault, is, default]
    have choice := stands current removes.read read removes.here removes.version was
    have writes := removes.writes
    rw [default, if_pos rfl, removes.here] at writes
    cases found : replacementFor snapshot customerId addressId with
    | none =>
      simp only [found] at choice
      rw [writes, found] at some_left
      obtain ⟨row, member, still⟩ := Table.count_pos.1 some_left
      obtain ⟨old, there, ⟨hit, rfl⟩ | ⟨missed, rfl⟩⟩ := Table.rewrite_mem member
      next => simp [live, removed] at still
      next =>
        have apart : row.id ≠ addressId := by
          rintro same
          obtain rfl := latest.same_of_key there read (same.trans removes.here.symm)
          simp [<- removes.here, atVersion_hits is] at missed
        have more : 0 < latest.count (fun row => live customerId row && row.id != addressId) :=
          Table.count_pos.2 ⟨row, there, by simp [still, apart]⟩
        omega
    | some replacement =>
      simp only [found] at choice
      rw [writes, found]
      have apart := (replacementFor_some found).2.2
      have gone (row : Address) : liveDefault customerId (removed now row) = false := by
        simp [liveDefault, removed]
      refine (promote_sole (fun row member => ?_) ?_).count
      next =>
        rw [<- removes.here] at member
        exact undefaulted settled read was (gone current) member
      next =>
        rwa [Table.count_update _ _ fun row _ hit => ?_]
        simp only [atVersion, Bool.and_eq_true, beq_iff_eq] at hit
        have other : (row.id == replacement.id) = false :=
          beq_false_of_ne fun same => apart (same.symm.trans hit.1.1)
        simp [removed, other]

theorem Removes.since {addressId : Id} {expectedVersion : Nat} {now : Int} {current : Address}
    (removes : Removes customerId snapshot latest next addressId expectedVersion now current) :
    Since latest next := by
  rw [removes.writes]
  exact (since_update _ _ (removed_id now) fun _ => rfl).trans (since_promote _ _ _)

theorem Creates.since {input : CreateCustomerAddress} {row : Address}
    (creates : Creates customerId snapshot latest next input row) : Since latest next := by
  refine Since.trans ?_ (since_insert creates.inserted)
  split
  next => exact since_clear _ _ _
  next => exact .refl _

-- What one call commits, from any snapshot that was committed before.
theorem run_settled {call : Call} (owner : requireCustomer registry userId = .ok customerId)
    (ran : call.run registry userId snapshot latest = .ok next) (since : Since snapshot latest)
    (settled : Settled customerId latest) (stands : ChoicesStand customerId snapshot latest call) :
    Since latest next /\ Settled customerId next := by
  cases call with
  | create id input now =>
    obtain ⟨row, creates⟩ := create_creates owner ran
    rcases stands with full | ⟨limit, first⟩
    next =>
      have room := creates.room
      omega
    refine ⟨creates.since, create_settled creates settled limit ?_⟩
    rcases first with asked | absent | some_left
    next => exact .inl (by simp [creates.default, asked])
    next => exact .inl (by simp [creates.default, absent])
    next => exact .inr some_left
  | update addressId input =>
    obtain ⟨current, replacement, updates⟩ := update_updates owner ran
    exact ⟨updates.since, updates.settled since settled stands⟩
  | remove addressId expectedVersion now =>
    obtain ⟨current, removes⟩ := remove_removes owner ran
    exact ⟨removes.since, removes.settled since settled stands⟩

-- A snapshot of the latest rows is always good enough.
theorem current_stands (call : Call) : ChoicesStand customerId addresses addresses call := by
  have there {id : Id} {replacement : Address}
      (found : replacementFor addresses customerId id = some replacement) :
      0 < addresses.count (fun row => row.id == replacement.id && live customerId row) := by
    obtain ⟨member, is, -⟩ := replacementFor_some found
    exact Table.count_pos.2 ⟨replacement, member, by simp [is]⟩
  cases call with
  | create id input now =>
    rcases Nat.lt_or_ge (addresses.count (live customerId)) maxCustomerAddresses with room | full
    next => exact .inr ⟨room, .inr (Nat.eq_zero_or_pos _)⟩
    next => exact .inl full
  | update addressId input =>
    intro current _ _ _ _ _ _ replacement found
    exact there found
  | remove addressId expectedVersion now =>
    intro current _ _ _ _ _
    cases found : replacementFor addresses customerId addressId with
    | some replacement => exact there found
    | none =>
      refine Nat.eq_zero_of_not_pos fun some_left => ?_
      obtain ⟨row, member, is⟩ := Table.count_pos.1 some_left
      simp only [Bool.and_eq_true, bne_iff_ne, ne_eq] at is
      exact is.2 (replacementFor_none found member is.1)

-- The call that is about to commit still holds of the latest rows what it chose from its snapshot.
def Stands (customerId : Id) (state : State (Table Address.id) Call) (label : Label Call Empty) : Prop :=
  forall id transaction rest, label = .advance id -> state.active id = some transaction ->
    transaction.rest = .work :: rest ->
    ChoicesStand customerId (transaction.view state.committed) state.committed transaction.call

structure Kept (customerId : Id) (state : State (Table Address.id) Call) : Prop where
  settled : Settled customerId state.committed
  behind : System.Behind Since state

theorem opening_kept (customerId : Id) : Kept customerId (State.opening Table.empty) where
  settled := ⟨by simp [State.opening, Table.count, Table.filter], by simp [State.opening, Table.count, Table.filter]⟩
  behind := fun _ _ _ here => nomatch here

theorem step_kept (owner : requireCustomer registry userId = .ok customerId)
    (state : State (Table Address.id) Call) (label : Label Call Empty) (kept : Kept customerId state)
    (stands : Stands customerId state label) :
    Kept customerId ((system registry userId).step state label) := by
  have moved : Since state.committed ((system registry userId).step state label).committed /\
      Settled customerId ((system registry userId).step state label).committed := by
    rcases (system registry userId).step_committed state label with same | ⟨op, -⟩ | ⟨transaction, commits⟩
    next =>
      rw [same]
      exact ⟨.refl _, kept.settled⟩
    next => exact nomatch op
    next =>
      obtain ⟨⟨id, rfl, active⟩, ⟨rest, last⟩, works⟩ := commits
      exact run_settled owner ((succeeded_some _ _).1 works)
        (System.behind_view kept.behind Since.refl active) kept.settled
        (stands id transaction rest rfl active last)
  exact ⟨moved.2, System.step_behind _ state label (fun _ _ _ => Since.trans) moved.1 kept.behind⟩

/-- While every call that commits chose from a snapshot whose choice still stands, a customer never has
more than twenty live addresses, and exactly one default among them if there are any. -/
theorem address_book_settled (registry : Registry) (userId customerId : Id)
    (owner : requireCustomer registry userId = .ok customerId) (labels : List (Label Call Empty))
    (stands : forall state label,
      Runs.Takes (system registry userId).step (State.opening Table.empty) labels state label ->
      Stands customerId state label) :
    forall state, Runs.Visits (system registry userId).step (State.opening Table.empty) labels state ->
      Settled customerId state.committed :=
  fun _ visited =>
    (Runs.fine_visits_keeps (step_kept owner) (opening_kept customerId) stands visited).settled

namespace Example

def town : Registry where
  customers := Customers.Sample.accounts.customers
  governorates := [{ id := 1, active := true }]
  delegations := [{ id := 1, governorateId := 1, active := true }]
  localities := []
  postalCodes := []

def creation (id : Id) : Call :=
  .create id {
    type := none, label := none, fullName := ['n'], phone := ['p'], governorateId := 1, delegationId := 1,
    localityId := none, postalCode := none, street := ['s'], building := none, floor := none,
    apartment := none, landmark := none, deliveryInstructions := none, isDefault := none } id

def through (id : Nat) (call : Call) : List (Label Call Empty) :=
  [.start id call, .advance id, .advance id, .advance id]

-- Three addresses, of which the default and the next one are removed one after the other.
def inTurn : List (Label Call Empty) :=
  through 1 (creation 1) ++ through 2 (creation 2) ++ through 3 (creation 3) ++
    through 4 (.remove 2 1 5) ++ through 5 (.remove 1 1 6)

-- The removal of the default takes its snapshot before the next address is removed.
def overlapping : List (Label Call Empty) :=
  through 1 (creation 1) ++ through 2 (creation 2) ++ through 3 (creation 3) ++
    [.start 5 (.remove 1 1 6), .advance 5] ++ through 4 (.remove 2 1 5) ++ [.advance 5, .advance 5]

-- The call that is about to commit sees the latest rows.
def alone (state : State (Table Address.id) Call) : Label Call Empty -> Bool
  | .advance id =>
    (state.active id).all fun transaction =>
      transaction.rest.head? != some .work || decide ((transaction.view state.committed).rows = state.committed.rows)
  | _ => true

theorem alone_stands {state : State (Table Address.id) Call} {label : Label Call Empty}
    (checked : alone state label = true) : Stands 7 state label := by
  rintro id transaction rest rfl active last
  simp only [alone, active, Option.all_some, last, List.head?_cons, bne_self_eq_false, Bool.false_or,
    decide_eq_true_eq] at checked
  rw [Table.ext_rows checked]
  exact current_stands _

end Example

theorem removals_in_turn :
    requireCustomer Example.town 7 = .ok 7 /\
      Settled 7 (Runs.run (system Example.town 7).step (State.opening Table.empty) Example.inTurn).committed :=
  ⟨rfl, address_book_settled Example.town 7 7 rfl Example.inTurn
    (fun _ _ taken => Example.alone_stands (Runs.every_takes
      (show Runs.every _ Example.alone _ Example.inTurn = true by decide +kernel) taken)) _
    (Runs.visits_end _ _)⟩

-- With nothing in progress, an address is left and none is the default.
theorem removals_overlap : Not (forall registry userId customerId labels state,
    requireCustomer registry userId = .ok customerId ->
    Runs.Visits (system registry userId).step (State.opening Table.empty) labels state ->
    (forall id, (state.active id).isNone = true) -> Settled customerId state.committed) := by
  intro always
  have settled := always Example.town 7 7 Example.overlapping _ rfl (Runs.visits_end _ _) ?_
  next =>
    have one_left : (Runs.run (system Example.town 7).step (State.opening Table.empty)
        Example.overlapping).committed.count (live 7) = 1 := by decide +kernel
    have no_default : (Runs.run (system Example.town 7).step (State.opening Table.empty)
        Example.overlapping).committed.count (liveDefault 7) = 0 := by decide +kernel
    have single := settled.single (by omega)
    omega
  next =>
    intro id
    have early : forall id, id < 6 -> ((Runs.run (system Example.town 7).step (State.opening Table.empty)
        Example.overlapping).active id).isNone = true := by decide +kernel
    rcases Nat.lt_or_ge id 6 with small | large
    next => exact early id small
    next =>
      rw [System.run_elsewhere]
      next => rfl
      next =>
        simp [Example.overlapping, Example.through, System.elsewhere]
        omega

end VapeCommerce.Access.AddressBook
