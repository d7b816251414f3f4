import VapeCommerce.Notifications.OrderNotifications
import VapeCommerce.Orders.Runs
import VapeCommerce.Orders.Onward

set_option autoImplicit false

-- The two schemes of idempotency key, which keys an order can have used, and that these only grow.
namespace VapeCommerce.Notifications.Keys

open VapeCommerce.Lib VapeCommerce.Lib.Outcome VapeCommerce.Lib.Numerals VapeCommerce.Schema
open VapeCommerce.Database VapeCommerce.Orders.StateMachine VapeCommerce.Orders.Case
open VapeCommerce.Orders.Progress VapeCommerce.Orders.Transactions VapeCommerce.Orders.Onward
open VapeCommerce.Orders.Runs VapeCommerce.Delivery.Admin VapeCommerce.Delivery.Csv
open VapeCommerce.Cash.Operations VapeCommerce.System
open VapeCommerce.Notifications.OrderNotifications
open VapeCommerce.Worker.Processor (NotificationChannel)

inductive Discriminator where
  | event (event : NotificationEvent)
  | transition (target : DeliveryStatus) (version : Nat)

def Discriminator.text : Discriminator -> Text
  | .event name => lowered (notificationEventName name)
  | .transition target version => deliveryDiscriminator target version

def notificationEvents : List NotificationEvent :=
  [.orderReceived, .orderConfirmed, .orderOnHold, .orderPreparing, .handedToCourier, .outForDelivery,
    .deliveryAttempted, .deliveryRescheduled, .orderDelivered, .deliveryRefused, .deliveryFailed,
    .orderCancelled, .returnUpdate]

theorem decimal_plain (value : Nat) : Not (':' ∈ decimal value) := fun colon =>
  absurd (decimal_isDigit colon) (by decide)

theorem event_plain (event : NotificationEvent) : Not (':' ∈ lowered (notificationEventName event)) := by
  cases event <;> decide

theorem status_plain (status : DeliveryStatus) : Not (':' ∈ lowered (deliveryStatusName status)) := by
  cases status <;> decide

theorem channel_plain (channel : NotificationChannel) : Not (':' ∈ (channelName channel).toList) := by
  cases channel <;> decide

theorem event_text_injective {event other : NotificationEvent}
    (same : lowered (notificationEventName event) = lowered (notificationEventName other)) :
    event = other := by
  have names : (notificationEvents.map fun event => lowered (notificationEventName event)).Nodup := by
    decide +kernel
  exact List.inj_on_of_nodup_map names (by cases event <;> decide) (by cases other <;> decide) same

theorem status_text_injective {status other : DeliveryStatus}
    (same : lowered (deliveryStatusName status) = lowered (deliveryStatusName other)) :
    status = other := by
  have names : (deliveryStatuses.map fun status => lowered (deliveryStatusName status)).Nodup := by
    decide +kernel
  exact List.inj_on_of_nodup_map names (by cases status <;> decide) (by cases other <;> decide) same

theorem channel_text_injective {channel other : NotificationChannel}
    (same : (channelName channel).toList = (channelName other).toList) : channel = other := by
  cases channel <;> cases other <;> first | rfl | exact absurd same (by decide)

theorem transition_colon (target : DeliveryStatus) (version : Nat) :
    ':' ∈ deliveryDiscriminator target version := by
  unfold deliveryDiscriminator
  exact List.mem_append_right _ (List.mem_append_right _ List.mem_cons_self)

-- A text splits at its first mark in one way.
theorem split_unique {A : Type} {mark : A} {first second after rest : List A} (plain : Not (mark ∈ first))
    (other : Not (mark ∈ second)) (same : first ++ mark :: after = second ++ mark :: rest) :
    first = second /\ after = rest := by
  induction first generalizing second with
  | nil =>
    cases second with
    | nil => exact ⟨rfl, (List.cons.inj same).2⟩
    | cons head tail =>
      obtain ⟨rfl, -⟩ := List.cons.inj same
      exact absurd List.mem_cons_self other
  | cons head tail ih =>
    cases second with
    | nil =>
      obtain ⟨rfl, -⟩ := List.cons.inj same
      exact absurd List.mem_cons_self plain
    | cons char chars =>
      obtain ⟨rfl, later⟩ := List.cons.inj same
      obtain ⟨rfl, tails⟩ := ih (List.not_mem_of_not_mem_cons plain) (List.not_mem_of_not_mem_cons other) later
      exact ⟨rfl, tails⟩

theorem transition_text_injective {target other : DeliveryStatus} {version later : Nat}
    (same : deliveryDiscriminator target version = deliveryDiscriminator other later) :
    target = other /\ version = later := by
  unfold deliveryDiscriminator at same
  have rest := (List.append_right_inj "delivery:".toList).1 same
  obtain ⟨names, versions⟩ := split_unique (status_plain target) (status_plain other) rest
  obtain ⟨-, digits⟩ := List.cons.inj versions
  exact ⟨status_text_injective names, decimal_injective digits⟩

-- A name of an event has no colon, a transition has some, so the schemes never meet.
theorem Discriminator.text_injective {first second : Discriminator} (same : first.text = second.text) :
    first = second := by
  cases first with
  | event name =>
    cases second with
    | event other => exact congrArg _ (event_text_injective same)
    | transition target version =>
      have colon : ':' ∈ (Discriminator.transition target version).text := transition_colon target version
      rw [<- same] at colon
      exact absurd colon (event_plain name)
  | transition target version =>
    cases second with
    | event name =>
      have colon : ':' ∈ (Discriminator.transition target version).text := transition_colon target version
      rw [same] at colon
      exact absurd colon (event_plain name)
    | transition other later =>
      obtain ⟨rfl, rfl⟩ := transition_text_injective same
      rfl

theorem idempotencyKey_injective {orderId otherId : Id} {first second : Discriminator}
    {channel other : NotificationChannel}
    (same : idempotencyKey orderId first.text channel = idempotencyKey otherId second.text other) :
    orderId = otherId /\ first = second /\ channel = other := by
  unfold idempotencyKey at same
  rw [List.append_cancel_left_eq] at same
  obtain ⟨ids, rest⟩ := split_unique (decimal_plain orderId) (decimal_plain otherId) same
  have reversed := congrArg List.reverse rest
  simp only [List.reverse_append, List.reverse_cons, List.append_assoc, List.singleton_append] at reversed
  have plain : forall channel, Not (':' ∈ (channelName channel).toList.reverse) := fun channel colon =>
    channel_plain channel (List.mem_reverse.1 colon)
  obtain ⟨channels, texts⟩ := split_unique (plain channel) (plain other) reversed
  exact ⟨decimal_injective ids, Discriminator.text_injective (List.reverse_injective texts),
    channel_text_injective (List.reverse_injective channels)⟩

def intakeStatuses : List OrderStatus :=
  [.pendingConfirmation, .confirmed, .onHold]

-- An order that has used this discriminator is past the step that uses it.
def Spent (order : Order) : Discriminator -> Prop
  | .event .orderReceived => True
  | .event .orderConfirmed => order.status ≠ .pendingConfirmation
  | .event .orderPreparing => Not (order.status ∈ intakeStatuses)
  | .event .orderCancelled => order.status = .cancelled
  | .event _ => False
  | .transition _ version => version <= order.version

-- What no change of status takes back.
structure Past (source target : OrderStatus) : Prop where
  confirmed : source ≠ .pendingConfirmation -> target ≠ .pendingConfirmation
  prepared : Not (source ∈ intakeStatuses) -> Not (target ∈ intakeStatuses)
  cancelled : source = .cancelled -> target = .cancelled

theorem Past.refl (status : OrderStatus) : Past status status :=
  ⟨id, id, id⟩

theorem listed_past {source target : OrderStatus} (listed : (source, target) ∈ intakeSteps) :
    Past source target := by
  simp only [intakeSteps, List.mem_cons, Prod.mk.injEq, List.not_mem_nil, or_false] at listed
  rcases listed with ⟨rfl, rfl⟩ | ⟨rfl, rfl⟩ | ⟨rfl, rfl⟩
  all_goals exact ⟨by decide, by decide, by decide⟩

theorem edge_past {source target : OrderStatus} (edge : canTransitionDelivery source target = true) :
    Past source target := by
  revert edge
  cases source <;> cases target <;> intro edge <;>
    first
    | exact absurd edge (by decide)
    | exact ⟨by decide, by decide, by decide⟩

theorem cancelled_past (source : OrderStatus) : Past source .cancelled :=
  ⟨fun _ => by decide, fun _ => by decide, fun _ => rfl⟩

theorem completion_edge (order : Order) :
    canTransitionDelivery (completionSource order) .delivered = true := by
  unfold completionSource
  split <;> decide

theorem return_edge : canTransitionDelivery .returnToSender .returned = true := by
  decide

theorem CaseStep.past {event : Event} {case after : OrderCase} (taken : CaseStep event case after) :
    Past case.order.status after.order.status := by
  cases taken with
  | intake _ target reasonCode actor listed => exact listed_past listed
  | cancelled => exact cancelled_past case.order.status
  | transitioned _ target next reasonCode actor edge mirrored => exact edge_past (mirrored ▸ edge)
  | attempted _ outcome next attempt reasonCode actor mirrored =>
    exact edge_past (mirrored ▸ Delivery.Steps.attempt_allowed outcome)
  | completed _ ageResult attempt result accountable reasonCode actor mirrored =>
    exact edge_past (mirrored ▸ completion_edge case.order)
  | returned _ reasonCode actor mirrored => exact edge_past (mirrored ▸ return_edge)
  | _ => exact Past.refl _

theorem spent_past {was row : Order} {discriminator : Discriminator} (past : Past was.status row.status)
    (version : was.version <= row.version) (spent : Spent was discriminator) :
    Spent row discriminator := by
  cases discriminator with
  | event name =>
    cases name with
    | orderReceived => trivial
    | orderConfirmed => exact past.confirmed spent
    | orderPreparing => exact past.prepared spent
    | orderCancelled => exact past.cancelled spent
    | _ => exact spent
  | transition target used => exact le_trans spent version

theorem Later.version {case after : OrderCase} (later : Later case after) :
    case.order.version <= after.order.version := by
  rcases later.order with same | grew
  next => rw [same]
  next => exact grew.le

-- No operation makes a discriminator free again.
theorem exec_spent {db next : Db} {now : Int} {op : Op} (sums : Sums db)
    (ran : System.exec db now op = .ok next) {was : Order} (member : was ∈ db.orders.rows) :
    exists row, row ∈ next.orders.rows /\ row.id = was.id /\
      forall discriminator, Spent was discriminator -> Spent row discriminator := by
  obtain ⟨case, is, rfl⟩ := sums.settled.linked.case_exists member
  obtain ⟨after, here, path⟩ := (exec_advance sums ran).known _ case is
  refine ⟨after.order, here.order_mem, here.order_id, fun discriminator spent => ?_⟩
  have past : Past case.order.status after.order.status := by
    refine @Path.keeps _ (fun last => Past case.order.status last.order.status) _ _ path
      (fun event before last _ taken kept => ?_) (Past.refl _)
    have step := CaseStep.past taken
    exact ⟨fun away => step.confirmed (kept.confirmed away),
      fun away => step.prepared (kept.prepared away), fun there => step.cancelled (kept.cancelled there)⟩
  exact spent_past past (Later.version (Path.later path (sums.settled.sound _ case is)).1) spent

end VapeCommerce.Notifications.Keys
