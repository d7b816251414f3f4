import VapeCommerce.Checkout.Policy
import VapeCommerce.Delivery.Csv
import VapeCommerce.Lib.Numerals
import VapeCommerce.System
import VapeCommerce.Worker.Processor

set_option autoImplicit false

-- order-notifications.ts and notification-outbox.ts, and the services that call them
namespace VapeCommerce.Notifications.OrderNotifications

open VapeCommerce.Lib VapeCommerce.Lib.Outcome VapeCommerce.Lib.Numerals VapeCommerce.Schema
open VapeCommerce.Config VapeCommerce.Database VapeCommerce.Orders.StateMachine
open VapeCommerce.Orders.Admin VapeCommerce.Orders.Customer VapeCommerce.Delivery.Admin
open VapeCommerce.Delivery.Operations VapeCommerce.Delivery.Csv VapeCommerce.Checkout.Order
open VapeCommerce.Checkout.Policy VapeCommerce.Worker.Outbox VapeCommerce.System
open VapeCommerce.Worker.Processor (NotificationChannel)

-- The events of orders; accounts and stock have others.
inductive NotificationEvent where
  | orderReceived
  | orderConfirmed
  | orderOnHold
  | orderPreparing
  | handedToCourier
  | outForDelivery
  | deliveryAttempted
  | deliveryRescheduled
  | orderDelivered
  | deliveryRefused
  | deliveryFailed
  | orderCancelled
  | returnUpdate
deriving DecidableEq, Repr

def notificationEventName : NotificationEvent -> String
  | .orderReceived => "ORDER_RECEIVED"
  | .orderConfirmed => "ORDER_CONFIRMED"
  | .orderOnHold => "ORDER_ON_HOLD"
  | .orderPreparing => "ORDER_PREPARING"
  | .handedToCourier => "HANDED_TO_COURIER"
  | .outForDelivery => "OUT_FOR_DELIVERY"
  | .deliveryAttempted => "DELIVERY_ATTEMPTED"
  | .deliveryRescheduled => "DELIVERY_RESCHEDULED"
  | .orderDelivered => "ORDER_DELIVERED"
  | .deliveryRefused => "DELIVERY_REFUSED"
  | .deliveryFailed => "DELIVERY_FAILED"
  | .orderCancelled => "ORDER_CANCELLED"
  | .returnUpdate => "RETURN_UPDATE"

def notificationEventForDeliveryStatus : DeliveryStatus -> Option NotificationEvent
  | .confirmed => some .orderConfirmed
  | .onHold => some .orderOnHold
  | .preparing => some .orderPreparing
  | .handedToCourier => some .handedToCourier
  | .outForDelivery => some .outForDelivery
  | .deliveryAttempted => some .deliveryAttempted
  | .rescheduled => some .deliveryRescheduled
  | .delivered => some .orderDelivered
  | .refused => some .deliveryRefused
  | .failed => some .deliveryFailed
  | .returnToSender => some .returnUpdate
  | .returned => some .returnUpdate
  | _ => none

-- The columns of an order that only its notifications read.
structure Contact where
  customerEmailSnapshot : Option Text
  customerPhoneSnapshot : Text
deriving DecidableEq, Repr

structure OrderNotificationTarget where
  id : Id
  orderNumber : Int
  contact : Contact
  locale : Text
deriving DecidableEq, Repr

-- What a service passes to `createOrderNotificationsWithOutbox`.
structure OrderNotificationInput where
  order : OrderNotificationTarget
  event : NotificationEvent
  scheduledAt : Int
  idempotencyDiscriminator : Option Text
deriving DecidableEq, Repr

-- `payload` holds the order number alone; the recipient stands for its hash and its ciphertext.
structure NotificationCreateInput where
  orderId : Id
  idempotencyKey : Text
  event : NotificationEvent
  channel : NotificationChannel
  recipient : Text
  locale : Text
  orderNumber : Int
  scheduledAt : Int
deriving DecidableEq, Repr

structure Notification extends NotificationCreateInput where
  id : Id
deriving DecidableEq, Repr

-- The two tables with the rows of orders; the keys of all other rows begin with another word.
structure Outgoing where
  notifications : Table Notification.id
  events : Events

-- An identifier that no row has.
def freshId (ids : List Id) : Id :=
  ids.foldr max 0 + 1

def notificationDispatch (id notificationId : Id) (availableAt : Int) : OutboxEvent where
  id := id
  deterministicKey := .notificationDispatch notificationId
  aggregateType := .notification
  aggregateId := notificationId
  eventType := .notificationDispatch
  eventVersion := 1
  payload := .notificationDispatch notificationId
  status := .pending
  availableAt := availableAt
  leaseOwner := none
  leaseExpiresAt := none
  attemptCount := 0
  maxAttempts := 8
  safeErrorCode := none

def createNotificationWithOutbox (outgoing : Outgoing) (data : NotificationCreateInput) :
    Except Failure Outgoing := do
  let notification : Notification :=
    { data with id := freshId (outgoing.notifications.rows.map Notification.id) }
  throwIf (outgoing.notifications.rows.any fun row => row.idempotencyKey == data.idempotencyKey)
    uniqueViolation
  let notifications <- create outgoing.notifications notification
  let event := notificationDispatch (freshId (outgoing.events.rows.map OutboxEvent.id))
    notification.id data.scheduledAt
  throwIf (outgoing.events.rows.any fun row => row.deterministicKey == event.deterministicKey)
    uniqueViolation
  let events <- create outgoing.events event
  return { notifications, events }

def lowered (name : String) : Text :=
  name.toList.map Char.toLower

def channelName : NotificationChannel -> String
  | .email => "email"
  | .sms => "sms"
  | .console => "console"

-- An identifier is spelt without a colon, here in digits.
def idempotencyKey (orderId : Id) (discriminator : Text) (channel : NotificationChannel) : Text :=
  "order:".toList ++ (decimal orderId ++
    ':' :: (discriminator ++ ':' :: (channelName channel).toList))

def OrderNotificationInput.discriminator (input : OrderNotificationInput) : Text :=
  input.idempotencyDiscriminator.getD (lowered (notificationEventName input.event))

def createInput (input : OrderNotificationInput) (channel : NotificationChannel) (recipient : Text) :
    NotificationCreateInput where
  orderId := input.order.id
  idempotencyKey := idempotencyKey input.order.id input.discriminator channel
  event := input.event
  channel := channel
  recipient := recipient
  locale := input.order.locale
  orderNumber := input.order.orderNumber
  scheduledAt := input.scheduledAt

section Services

variable (toLocaleLowerCase : Text -> Text)

-- The address an order's notifications go to; empty if there is none.
def Contact.email (contact : Contact) : Text :=
  (contact.customerEmailSnapshot.map fun snapshot => toLocaleLowerCase (trim snapshot)).getD []

def createOrderNotificationsWithOutbox (smsSetting : Option JsonValue) (outgoing : Outgoing)
    (input : OrderNotificationInput) : Except Failure Outgoing := do
  let email := input.order.contact.email toLocaleLowerCase
  let emailed <- if email ≠ [] then
      createNotificationWithOutbox outgoing (createInput input .email email)
    else .ok outgoing
  if jsonBoolean smsSetting then
    createNotificationWithOutbox emailed
      (createInput input .sms input.order.contact.customerPhoneSnapshot)
  else return emailed

end Services

structure State where
  now : Int
  db : Db
  contacts : Id -> Contact
  outgoing : Outgoing

def State.clocked (state : State) : Clocked where
  now := state.now
  db := state.db

-- One operation, with what its transaction reads that the other rows do not hold.
structure Label where
  timed : Timed
  accountEmail : Option Text
  customerOrderCreatedSetting : Option JsonValue
  customerOrderSmsSetting : Option JsonValue

def customerOrderCreatedNotificationEnabled (label : Label) : Bool :=
  match label.customerOrderCreatedSetting with
  | some value => jsonBoolean (some value)
  | none => true

-- The placement of a call that replays no earlier one.
def placement? (db : Db) (call : CheckoutCall) (now : Int) : Option Placement :=
  match (do
    let keyHash <- admitCall call
    createInTransaction (fun _ => db) call keyHash now) with
  | .ok (.placed placement) => some placement
  | _ => none

def customerEmail (call : CheckoutCall) (label : Label) : Option Text :=
  call.input.email.or label.accountEmail

def orderReceived (db : Db) (label : Label) (call : CheckoutCall) (now : Int) (placed : Order) :
    OrderNotificationInput where
  order := {
    id := placed.id
    orderNumber := placed.orderNumber
    contact := {
      customerEmailSnapshot := customerEmail call label
      customerPhoneSnapshot := call.input.phone }
    locale := ((succeeded (findCustomer db.config call.customerUserId now)).map (·.locale)).getD [] }
  event := .orderReceived
  scheduledAt := now
  idempotencyDiscriminator := none

def localeOf (config : Configuration) (order : Order) : Text :=
  if (config.customers.find? fun user => user.profileId == order.customerId).any
      fun user => user.locale == "ar".toList then "ar-TN".toList
  else "fr-TN".toList

def notificationTarget (state : State) (order : Order) : OrderNotificationTarget where
  id := order.id
  orderNumber := order.orderNumber
  contact := state.contacts order.id
  locale := localeOf state.db.config order

-- With no discriminator the key takes the name of the event.
def createNotification (state : State) (now : Int) (event : NotificationEvent) (order : Order) :
    OrderNotificationInput where
  order := notificationTarget state order
  event := event
  scheduledAt := now
  idempotencyDiscriminator := none

def deliveryDiscriminator (target : DeliveryStatus) (version : Nat) : Text :=
  "delivery:".toList ++ (lowered (deliveryStatusName target) ++ ':' :: 'v' :: decimal version)

-- What `recordTransition` and `applyDeliveryTransition` pass on, of the order as it was read.
def recordTransition (state : State) (now : Int) (target : DeliveryStatus) (order : Order) :
    List OrderNotificationInput :=
  match notificationEventForDeliveryStatus target with
  | none => []
  | some event => [{
      order := notificationTarget state order
      event := event
      scheduledAt := now
      idempotencyDiscriminator := some (deliveryDiscriminator target (order.version + 1)) }]

def lockedOrder (db : Db) (id : Id) : List Order :=
  ((succeeded (lockOrder db id)).map (·.order)).toList

def lockedOwnedOrder (db : Db) (userId : Id) (orderNumber : Int) : List Order :=
  ((succeeded (lockOwnedOrder db userId orderNumber)).map (·.order)).toList

def deliveredOrder (db : Db) (id : Id) : List Order :=
  ((succeeded (lockDelivery db id)).map (·.order)).toList

def handedOver (db : Db) (id : Id) (target : ManifestStatus) : List Order :=
  if target = .handedOver then
    ((db.manifests.find? id).toList.flatMap fun manifest =>
      findBulkDeliveries db manifest.deliveryIds).map (·.order)
  else []

-- The rows of an import that neither repeats an earlier one nor only tries the file.
def appliedCommands (db : Db) (importKey : Text) (dryRun : Bool) (file : DeliveryStatusCsv) :
    List (DeliveryStatus × Order) :=
  if (db.imports.find? fun record => record.importKey == importKey && record.dryRun == dryRun).isNone &&
      !dryRun && (file.commands.all fun command =>
        (validateImportCommand command (bulkDelivery? db command.deliveryId)).isNone) then
    file.commands.filterMap fun command =>
      (bulkDelivery? db command.deliveryId).map fun bulk => (command.targetStatus, bulk.order)
  else []

-- The notifications a successful operation asks for, from the rows its transaction started with.
def announcements (state : State) (label : Label) (now : Int) : List OrderNotificationInput :=
  match label.timed.op with
  | .createOrder call =>
    if customerOrderCreatedNotificationEnabled label then
      (placement? state.db call now).toList.map fun placement =>
        orderReceived state.db label call now placement.order
    else []
  | .confirm id _ _ => (lockedOrder state.db id).map (createNotification state now .orderConfirmed)
  | .terminate _ id _ _ =>
    (lockedOrder state.db id).map (createNotification state now .orderCancelled)
  | .prepare id _ _ => (lockedOrder state.db id).map (createNotification state now .orderPreparing)
  | .cancelOrder userId orderNumber _ =>
    (lockedOwnedOrder state.db userId orderNumber).map (createNotification state now .orderCancelled)
  | .transition id input _ =>
    (deliveredOrder state.db id).flatMap (recordTransition state now input.target.status)
  | .recordAttempt id input _ =>
    (deliveredOrder state.db id).flatMap
      (recordTransition state now (attemptOutcomeStatus input.outcome))
  | .complete id _ _ _ => (deliveredOrder state.db id).flatMap (recordTransition state now .delivered)
  | .completeReturn id _ _ _ =>
    (deliveredOrder state.db id).flatMap (recordTransition state now .returned)
  | .transitionManifest id _ target _ =>
    (handedOver state.db id target).flatMap (recordTransition state now .handedToCourier)
  | .importStatusCsv key dryRun file _ =>
    (appliedCommands state.db key dryRun file).flatMap fun (target, order) =>
      recordTransition state now target order
  | _ => []

-- Checkout stores what its customer can be reached at with the order.
def contactsAfter (state : State) (label : Label) (now : Int) : Id -> Contact :=
  match label.timed.op with
  | .createOrder call =>
    match placement? state.db call now with
    | some placement => fun id =>
      if id = placement.order.id then {
        customerEmailSnapshot := (customerEmail call label).filter fun email => email ≠ []
        customerPhoneSnapshot := call.input.phone }
      else state.contacts id
    | none => state.contacts
  | _ => state.contacts

section Steps

variable (toLocaleLowerCase : Text -> Text)

-- The writes to the two tables follow the others of a transaction, which never read them.
def exec (state : State) (label : Label) : Except Failure State := do
  let now := state.now + label.timed.elapsed
  let db <- System.exec state.db now label.timed.op
  let outgoing <- (announcements state label now).foldlM
    (createOrderNotificationsWithOutbox toLocaleLowerCase label.customerOrderSmsSetting)
    state.outgoing
  return { now, db, contacts := contactsAfter state label now, outgoing }

-- A transaction that fails rolls back.
def step (state : State) (label : Label) : State :=
  (succeeded (exec toLocaleLowerCase state label)).getD
    { state with now := state.now + label.timed.elapsed }

end Steps

def opening (config : Configuration) (orderSequence : Option Int) (now : Int) : State where
  now := now
  db := Db.empty config orderSequence
  contacts := fun _ => { customerEmailSnapshot := none, customerPhoneSnapshot := [] }
  outgoing := { notifications := Table.empty, events := Table.empty }

end VapeCommerce.Notifications.OrderNotifications
