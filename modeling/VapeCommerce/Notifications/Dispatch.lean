import VapeCommerce.Notifications.OrderNotifications

set_option autoImplicit false

-- Writing notifications with new keys never fails, and leaves each with one event pointing at it.
namespace VapeCommerce.Notifications.Dispatch

open VapeCommerce.Lib VapeCommerce.Lib.Outcome VapeCommerce.Schema VapeCommerce.Config
open VapeCommerce.Database VapeCommerce.Checkout.Policy VapeCommerce.Worker.Outbox
open VapeCommerce.Notifications.OrderNotifications

theorem freshId_fresh {ids : List Id} {id : Id} (member : id ∈ ids) : id ≠ freshId ids := by
  have below : id <= ids.foldr max 0 := by
    induction ids with
    | nil => simp at member
    | cons head tail ih =>
      rcases List.mem_cons.1 member with rfl | later
      next => exact le_max_left _ _
      next => exact le_trans (ih later) (le_max_right _ _)
  exact Nat.ne_of_lt (Nat.lt_succ_of_le below)

def keys (outgoing : Outgoing) : List Text :=
  outgoing.notifications.rows.map (·.idempotencyKey)

structure Paired (outgoing : Outgoing) : Prop where
  distinct : (keys outgoing).Nodup
  events : outgoing.events.rows.map (fun event => (event.deterministicKey, event.aggregateId)) =
    outgoing.notifications.rows.map fun row => (.notificationDispatch row.id, row.id)

-- What the inputs add to the two tables.
structure Adds (before after : Outgoing) (inputs : List NotificationCreateInput)
    (created : List Notification) (sent : List OutboxEvent) : Prop where
  notifications : after.notifications.rows = before.notifications.rows ++ created
  events : after.events.rows = before.events.rows ++ sent
  written : created.map (·.toNotificationCreateInput) = inputs
  pointing : sent.map (·.aggregateId) = created.map (·.id)

theorem Paired.aggregates {outgoing : Outgoing} (paired : Paired outgoing) :
    outgoing.events.rows.map OutboxEvent.aggregateId =
      outgoing.notifications.rows.map Notification.id := by
  have seconds := congrArg (List.map Prod.snd) paired.events
  simpa only [List.map_map, Function.comp_def] using seconds

theorem Paired.dispatches {outgoing : Outgoing} (paired : Paired outgoing) :
    outgoing.events.rows.map OutboxEvent.deterministicKey =
      outgoing.notifications.rows.map fun row => .notificationDispatch row.id := by
  have firsts := congrArg (List.map Prod.fst) paired.events
  simpa only [List.map_map, Function.comp_def] using firsts

-- Exactly one event points at a notification.
theorem Paired.single {outgoing : Outgoing} (paired : Paired outgoing) {row : Notification}
    (member : row ∈ outgoing.notifications.rows) :
    exists event, event ∈ outgoing.events.rows /\
      (outgoing.events.filter fun event => decide (event.aggregateId = row.id)) = [event] := by
  have unique : outgoing.events.Unique OutboxEvent.aggregateId := by
    unfold Table.Unique
    rw [paired.aggregates]
    exact outgoing.notifications.distinct
  have there : row.id ∈ outgoing.events.rows.map OutboxEvent.aggregateId := by
    rw [paired.aggregates]
    exact List.mem_map_of_mem member
  obtain ⟨event, present, same⟩ := List.mem_map.1 there
  exact ⟨event, present, Table.filter_unique unique ((Table.lookup_iff unique _ _).2 ⟨present, same⟩)⟩

theorem createNotificationWithOutbox_runs {outgoing : Outgoing} (paired : Paired outgoing)
    {data : NotificationCreateInput} (fresh : Not (data.idempotencyKey ∈ keys outgoing)) :
    exists after notification event, createNotificationWithOutbox outgoing data = .ok after /\
      Paired after /\ Adds outgoing after [data] [notification] [event] := by
  let notification : Notification :=
    { data with id := freshId (outgoing.notifications.rows.map Notification.id) }
  let event := notificationDispatch (freshId (outgoing.events.rows.map OutboxEvent.id))
    notification.id data.scheduledAt
  have unknown : forall row, row ∈ outgoing.notifications.rows -> row.id ≠ notification.id :=
    fun row member => freshId_fresh (List.mem_map_of_mem member)
  obtain ⟨notifications, inserted⟩ := Table.insert?_fresh unknown
  obtain ⟨events, added⟩ := Table.insert?_fresh
    (show forall row, row ∈ outgoing.events.rows -> row.id ≠ event.id from
      fun row member => freshId_fresh (List.mem_map_of_mem member))
  have rows := (Table.insert?_rows inserted).1
  have sent := (Table.insert?_rows added).1
  have unsent : Not (event.deterministicKey ∈ outgoing.events.rows.map OutboxEvent.deterministicKey) := by
    rw [paired.dispatches]
    intro present
    obtain ⟨row, member, same⟩ := List.mem_map.1 present
    exact unknown row member (EventKey.notificationDispatch.inj same)
  refine ⟨{ notifications, events }, notification, event, ?_, ?_, ?_⟩
  next =>
    simp only [createNotificationWithOutbox, bind_ok, throwIf_ok, create_ok, pure_ok]
    refine ⟨(), ?_, notifications, inserted, (), ?_, events, added, rfl⟩
    next => simpa [keys] using fresh
    next => simpa using unsent
  next =>
    refine ⟨?_, ?_⟩
    next =>
      simp only [keys, rows, List.map_append, List.map_cons, List.map_nil]
      exact List.Nodup.append paired.distinct (List.nodup_singleton _)
        (List.disjoint_singleton.2 fresh)
    next =>
      simp only [rows, sent, List.map_append, paired.events]
      rfl
  next => exact ⟨rows, sent, rfl, rfl⟩

theorem Adds.trans {first second third : Outgoing} {inputs more : List NotificationCreateInput}
    {created later : List Notification} {sent last : List OutboxEvent}
    (one : Adds first second inputs created sent) (two : Adds second third more later last) :
    Adds first third (inputs ++ more) (created ++ later) (sent ++ last) where
  notifications := by rw [two.notifications, one.notifications, List.append_assoc]
  events := by rw [two.events, one.events, List.append_assoc]
  written := by rw [List.map_append, one.written, two.written]
  pointing := by rw [List.map_append, List.map_append, one.pointing, two.pointing]

theorem writes_run {outgoing : Outgoing} (paired : Paired outgoing)
    {inputs : List NotificationCreateInput}
    (distinct : (keys outgoing ++ inputs.map (·.idempotencyKey)).Nodup) :
    exists after created sent, inputs.foldlM createNotificationWithOutbox outgoing = .ok after /\
      Paired after /\ Adds outgoing after inputs created sent := by
  induction inputs generalizing outgoing with
  | nil => exact ⟨outgoing, [], [], rfl, paired, by simp, by simp, rfl, rfl⟩
  | cons data rest ih =>
    have fresh : Not (data.idempotencyKey ∈ keys outgoing) := fun present =>
      (List.nodup_append.1 distinct).2.2 _ present data.idempotencyKey (by simp) rfl
    obtain ⟨middle, notification, event, ran, between, adds⟩ :=
      createNotificationWithOutbox_runs paired fresh
    have known : keys middle = keys outgoing ++ [data.idempotencyKey] := by
      have key : notification.idempotencyKey = data.idempotencyKey :=
        congrArg (·.idempotencyKey) (List.cons.inj adds.written).1
      simp [keys, adds.notifications, key]
    obtain ⟨after, created, sent, later, final, more⟩ := ih between (by simpa [known] using distinct)
    refine ⟨after, notification :: created, event :: sent, ?_, final, adds.trans more⟩
    rw [List.foldlM_cons, ok_of_bind ran, later]

section Channels

variable (toLocaleLowerCase : Text -> Text) (smsSetting : Option JsonValue)

-- The rows for one input: an e-mail if there is an address, a text message if the store sends them.
def channelInputs (input : OrderNotificationInput) : List NotificationCreateInput :=
  (if input.order.contact.email toLocaleLowerCase ≠ [] then
    [createInput input .email (input.order.contact.email toLocaleLowerCase)] else []) ++
  (if jsonBoolean smsSetting then
    [createInput input .sms input.order.contact.customerPhoneSnapshot] else [])

theorem createOrderNotifications_writes (outgoing : Outgoing) (input : OrderNotificationInput) :
    createOrderNotificationsWithOutbox toLocaleLowerCase smsSetting outgoing input =
      (channelInputs toLocaleLowerCase smsSetting input).foldlM createNotificationWithOutbox outgoing := by
  have skipped : forall next : Outgoing -> Except Failure Outgoing,
      (Except.ok outgoing >>= next) = next outgoing := fun _ => rfl
  unfold createOrderNotificationsWithOutbox channelInputs
  by_cases addressed : input.order.contact.email toLocaleLowerCase ≠ [] <;>
    by_cases texted : jsonBoolean smsSetting = true <;>
      simp [addressed, texted, skipped]

theorem announce_writes (outgoing : Outgoing) (inputs : List OrderNotificationInput) :
    inputs.foldlM (createOrderNotificationsWithOutbox toLocaleLowerCase smsSetting) outgoing =
      (inputs.flatMap (channelInputs toLocaleLowerCase smsSetting)).foldlM
        createNotificationWithOutbox outgoing := by
  induction inputs generalizing outgoing with
  | nil => rfl
  | cons input rest ih =>
    rw [List.foldlM_cons, List.flatMap_cons, List.foldlM_append, createOrderNotifications_writes]
    exact congrArg _ (funext ih)

end Channels

end VapeCommerce.Notifications.Dispatch
