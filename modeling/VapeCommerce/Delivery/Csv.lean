import Mathlib.Data.List.Induction
import VapeCommerce.Delivery.Operations

set_option autoImplicit false

-- delivery-csv.ts: the text of a status import and the commands it holds
namespace VapeCommerce.Delivery.Csv

open VapeCommerce.Lib VapeCommerce.Lib.Outcome VapeCommerce.Schema VapeCommerce.Database
open VapeCommerce.Orders.StateMachine VapeCommerce.Delivery.Operations

attribute [local instance] text_lawful

structure DeliveryCsvError where
  code : String
  row : Option Nat
deriving DecidableEq, Repr

def fileError (code : String) : DeliveryCsvError := { code, row := none }

def rowError (code : String) (row : Nat) : DeliveryCsvError := { code, row := some row }

-- String lengths count UTF-16 units, and the size of a file counts bytes.
def unitLength (text : Text) : Nat :=
  (text.map fun char => if char.toNat < 65536 then 1 else 2).sum

def byteLength (text : Text) : Nat :=
  (text.map Char.utf8Size).sum

def deliveryStatusCsvMaxRows : Nat := 500

def deliveryStatusCsvMaxBytes : Nat := 250000

def deliveryStatusCsvSchema : String := "DELIVERY_STATUS_V1"

def deliveryStatusCsvHeaders : List String :=
  ["schemaVersion", "deliveryId", "expectedVersion", "currentStatus", "targetStatus", "reasonCode",
    "note", "orderNumber", "trackingNumber", "courierCode", "expectedCodMillimes",
    "ageVerificationRequired", "updatedAt"]

structure Scanner where
  rows : List (List Text)
  row : List Text
  cell : Text
  quoted : Bool
  closedQuote : Bool

def Scanner.initial : Scanner where
  rows := []
  row := []
  cell := []
  quoted := false
  closedQuote := false

def finishCell (scanner : Scanner) : Except DeliveryCsvError Scanner := do
  throwIf (unitLength scanner.cell > 2000) (fileError "DELIVERY_CSV_CELL_TOO_LARGE")
  return { scanner with row := scanner.row ++ [scanner.cell], cell := [], closedQuote := false }

-- A row without any text is dropped.
def finishRow (scanner : Scanner) : Except DeliveryCsvError Scanner := do
  let finished <- finishCell scanner
  return { finished with
    rows := if finished.row.any (fun value => value.length > 0) then finished.rows ++ [finished.row]
      else finished.rows
    row := [] }

def quoteInvalid : DeliveryCsvError := fileError "DELIVERY_CSV_QUOTE_INVALID"

def scanRows (scanner : Scanner) : Text -> Except DeliveryCsvError (List (List Text))
  | [] => do
    throwIf scanner.quoted quoteInvalid
    if scanner.cell.length > 0 || scanner.row.length > 0 then
      let finished <- finishRow scanner
      return finished.rows
    else return scanner.rows
  | character :: rest =>
    if scanner.quoted then
      if character = '"' then
        match rest with
        | '"' :: later => scanRows { scanner with cell := scanner.cell ++ ['"'] } later
        | later => scanRows { scanner with quoted := false, closedQuote := true } later
      else scanRows { scanner with cell := scanner.cell ++ [character] } rest
    else if scanner.closedQuote && character != ',' && character != '\r' && character != '\n' then
      .error quoteInvalid
    else if character = '"' then do
      throwIf (scanner.cell.length > 0) quoteInvalid
      scanRows { scanner with quoted := true } rest
    else if character = ',' then do
      let finished <- finishCell scanner
      scanRows finished rest
    else if character = '\n' then do
      let finished <- finishRow scanner
      scanRows finished rest
    else if character = '\r' then do
      let finished <- finishRow scanner
      match rest with
      | '\n' :: later => scanRows finished later
      | later => scanRows finished later
    else scanRows { scanner with cell := scanner.cell ++ [character] } rest

def parseCsvRows (input : Text) : Except DeliveryCsvError (List (List Text)) :=
  scanRows Scanner.initial input

def deliveryStatusName : DeliveryStatus -> String
  | .pendingConfirmation => "PENDING_CONFIRMATION"
  | .confirmed => "CONFIRMED"
  | .onHold => "ON_HOLD"
  | .preparing => "PREPARING"
  | .readyForPickup => "READY_FOR_PICKUP"
  | .assignedToCourier => "ASSIGNED_TO_COURIER"
  | .handedToCourier => "HANDED_TO_COURIER"
  | .inTransit => "IN_TRANSIT"
  | .outForDelivery => "OUT_FOR_DELIVERY"
  | .deliveryAttempted => "DELIVERY_ATTEMPTED"
  | .rescheduled => "RESCHEDULED"
  | .delivered => "DELIVERED"
  | .refused => "REFUSED"
  | .failed => "FAILED"
  | .returnToSender => "RETURN_TO_SENDER"
  | .returned => "RETURNED"
  | .cancelled => "CANCELLED"

def deliveryStatuses : List DeliveryStatus :=
  [.pendingConfirmation, .confirmed, .onHold, .preparing, .readyForPickup, .assignedToCourier,
    .handedToCourier, .inTransit, .outForDelivery, .deliveryAttempted, .rescheduled, .delivered,
    .refused, .failed, .returnToSender, .returned, .cancelled]

def named (statuses : List DeliveryStatus) (value : Text) : Option DeliveryStatus :=
  statuses.find? fun status => (deliveryStatusName status).toList == value

def isDigit (char : Char) : Bool :=
  '0' <= char && char <= '9'

def isUpper (char : Char) : Bool :=
  'A' <= char && char <= 'Z'

def isLower (char : Char) : Bool :=
  'a' <= char && char <= 'z'

def isJoiner (char : Char) : Bool :=
  char == '_' || char == '-'

-- `/^[A-Za-z0-9_-]{1,30}$/`
def isDeliveryId (value : Text) : Bool :=
  1 <= value.length && value.length <= 30 &&
    value.all fun char => isUpper char || isLower char || isDigit char || isJoiner char

-- `/^[1-9]\d{0,9}$/`
def isVersion (value : Text) : Bool :=
  match value with
  | [] => false
  | first :: digits => '1' <= first && first <= '9' && digits.length <= 9 && digits.all isDigit

def versionNumber (value : Text) : Nat :=
  value.foldl (fun number digit => 10 * number + (digit.toNat - '0'.toNat)) 0

-- `/^[A-Z0-9_-]+$/`, at most 80 units long, or nothing
def isReasonCode (value : Text) : Bool :=
  unitLength value <= 80 &&
    value.all fun char => isUpper char || isDigit char || isJoiner char

-- Identifiers are numbers in the model, and different texts stand for different ones.
def identifier (value : Text) : Nat :=
  value.foldl (fun id char => 1114112 * id + (char.toNat + 1)) 0

def parseRow (row : Nat) (deliveryIds : List Text) (values : List Text) :
    Except DeliveryCsvError (Text × DeliveryStatusCsvCommand) :=
  match values with
  | [schemaVersion, deliveryId, expectedVersion, currentStatus, targetStatus, reasonCode, note,
      _, _, _, _, _, _] => do
    throwIf (schemaVersion ≠ deliveryStatusCsvSchema.toList)
      (rowError "DELIVERY_CSV_SCHEMA_UNSUPPORTED" row)
    throwIf (Not (isDeliveryId deliveryId)) (rowError "DELIVERY_CSV_DELIVERY_ID_INVALID" row)
    throwIf (deliveryId ∈ deliveryIds) (rowError "DELIVERY_CSV_DUPLICATE_DELIVERY" row)
    throwIf (Not (isVersion expectedVersion)) (rowError "DELIVERY_CSV_VERSION_INVALID" row)
    let current <- orThrow (named deliveryStatuses currentStatus)
      (rowError "DELIVERY_CSV_CURRENT_STATUS_INVALID" row)
    let target <- orThrow (named operationalDeliveryTargets targetStatus)
      (rowError "DELIVERY_CSV_TARGET_STATUS_INVALID" row)
    throwIf (Not (isReasonCode reasonCode)) (rowError "DELIVERY_CSV_REASON_CODE_INVALID" row)
    throwIf (unitLength note > 1000) (rowError "DELIVERY_CSV_NOTE_TOO_LONG" row)
    return (deliveryId, {
      deliveryId := identifier deliveryId
      expectedVersion := versionNumber expectedVersion
      currentStatus := current
      targetStatus := target
      reasonCode := if reasonCode = [] then none else some reasonCode
      note := trimmedOrNull (some note) })
  | _ => .error (rowError "DELIVERY_CSV_COLUMN_COUNT_INVALID" row)

def parseRows (row : Nat) (deliveryIds : List Text) :
    List (List Text) -> Except DeliveryCsvError (List DeliveryStatusCsvCommand)
  | [] => .ok []
  | values :: rest => do
    let (deliveryId, command) <- parseRow row deliveryIds values
    let commands <- parseRows (row + 1) (deliveryId :: deliveryIds) rest
    return command :: commands

def withoutByteOrderMark : Text -> Text
  | [] => []
  | first :: rest => if first.toNat = 65279 then rest else first :: rest

def parseCommands (input : Text) : Except DeliveryCsvError (List DeliveryStatusCsvCommand) := do
  throwIf (byteLength input > deliveryStatusCsvMaxBytes) (fileError "DELIVERY_CSV_TOO_LARGE")
  throwIf (input.any fun char => char.toNat == 0) (fileError "DELIVERY_CSV_INVALID")
  let rows <- parseCsvRows (withoutByteOrderMark input)
  throwIf (rows.length < 2) (fileError "DELIVERY_CSV_EMPTY")
  throwIf (rows.length - 1 > deliveryStatusCsvMaxRows) (fileError "DELIVERY_CSV_ROW_LIMIT")
  match rows with
  | [] => .error (fileError "DELIVERY_CSV_EMPTY")
  | header :: data => do
    throwIf (header ≠ deliveryStatusCsvHeaders.map String.toList)
      (rowError "DELIVERY_CSV_HEADER_INVALID" 1)
    parseRows 2 [] data

theorem identifier_append (value : Text) (char : Char) :
    identifier (value ++ [char]) = 1114112 * identifier value + (char.toNat + 1) := by
  simp [identifier]

theorem char_bound (char : Char) : char.toNat < 1114112 := by
  have valid := char.valid
  rcases valid with low | high
  next => exact lt_of_lt_of_le low (by decide)
  next => exact high.2

theorem identifier_injective : Function.Injective identifier := by
  intro left
  induction left using List.reverseRecOn with
  | nil =>
    intro right same
    cases right using List.reverseRecOn with
    | nil => rfl
    | append_singleton right char =>
      rw [identifier_append] at same
      simp only [identifier, List.foldl_nil] at same
      omega
  | append_singleton left char ih =>
    intro right same
    cases right using List.reverseRecOn with
    | nil =>
      rw [identifier_append] at same
      simp only [identifier, List.foldl_nil] at same
      omega
    | append_singleton right other =>
      rw [identifier_append, identifier_append] at same
      have here := char_bound char
      have there := char_bound other
      have chars : char.toNat = other.toNat := by omega
      have rest : identifier left = identifier right := by omega
      rw [ih rest, Char.toNat_inj.1 chars]

theorem named_mem {statuses : List DeliveryStatus} {value : Text} {status : DeliveryStatus}
    (found : named statuses value = some status) : status ∈ statuses :=
  List.mem_of_find?_eq_some found

theorem parseRow_ok {row : Nat} {deliveryIds values : List Text} {deliveryId : Text}
    {command : DeliveryStatusCsvCommand} :
    parseRow row deliveryIds values = .ok (deliveryId, command) -> Not (deliveryId ∈ deliveryIds) /\
      command.deliveryId = identifier deliveryId /\
      command.targetStatus ∈ operationalDeliveryTargets := by
  unfold parseRow
  split
  next =>
    simp only [bind_ok, throwIf_ok, orThrow_ok, pure_ok, Prod.mk.injEq]
    rintro ⟨⟨⟩, -, ⟨⟩, -, ⟨⟩, fresh, ⟨⟩, -, current, -, target, found, ⟨⟩, -, ⟨⟩, -, rfl, rfl⟩
    exact ⟨fresh, rfl, named_mem found⟩
  next => simp

-- The rows of a file name deliveries that neither it nor the rows before it name twice.
theorem parseRows_ok {row : Nat} {deliveryIds : List Text} {data : List (List Text)}
    {commands : List DeliveryStatusCsvCommand} (parsed : parseRows row deliveryIds data = .ok commands) :
    commands.length = data.length /\
      (commands.map (·.deliveryId)).Nodup /\
      (forall command, command ∈ commands -> Not (command.deliveryId ∈ deliveryIds.map identifier) /\
        command.targetStatus ∈ operationalDeliveryTargets) := by
  induction data generalizing row deliveryIds commands with
  | nil =>
    obtain rfl := Except.ok.inj parsed
    simp
  | cons values rest ih =>
    simp only [parseRows, bind_ok, pure_ok] at parsed
    obtain ⟨⟨deliveryId, command⟩, first, later, others, rfl⟩ := parsed
    obtain ⟨fresh, named, operational⟩ := parseRow_ok first
    obtain ⟨counted, distinct, apart⟩ := ih others
    refine ⟨by simp [counted], ?_, List.forall_mem_cons.2 ⟨⟨?_, operational⟩, fun other member => ?_⟩⟩
    next =>
      rw [List.map_cons, List.nodup_cons]
      refine ⟨fun repeated => ?_, distinct⟩
      obtain ⟨other, member, same⟩ := List.mem_map.1 repeated
      exact (apart other member).1 (by simp [same, named])
    next =>
      rw [named, List.mem_map_of_injective identifier_injective]
      exact fresh
    next =>
      have after := apart other member
      exact ⟨fun known => after.1 (List.mem_cons_of_mem _ known), after.2⟩

theorem parseCommands_ok {input : Text} {commands : List DeliveryStatusCsvCommand}
    (parsed : parseCommands input = .ok commands) :
    (commands.map (·.deliveryId)).Nodup /\
      (forall command, command ∈ commands -> command.targetStatus ∈ operationalDeliveryTargets) /\
      1 <= commands.length /\ commands.length <= 500 := by
  simp only [parseCommands, bind_ok, throwIf_ok, not_lt] at parsed
  obtain ⟨⟨⟩, -, ⟨⟩, -, rows, -, ⟨⟩, filled, ⟨⟩, bounded, parsed⟩ := parsed
  cases rows with
  | nil => simp at filled
  | cons header data =>
    simp only [bind_ok, throwIf_ok] at parsed
    obtain ⟨⟨⟩, -, parsed⟩ := parsed
    obtain ⟨counted, distinct, each⟩ := parseRows_ok parsed
    simp only [List.length_cons, Nat.add_sub_cancel, deliveryStatusCsvMaxRows] at filled bounded
    exact ⟨distinct, fun command member => (each command member).2, by omega, by omega⟩

def parseDeliveryStatusCsv (input : Text) : Except DeliveryCsvError DeliveryStatusCsv :=
  match parsed : parseCommands input with
  | .error error => .error error
  | .ok commands => .ok {
      content := input
      commands
      distinct := (parseCommands_ok parsed).1
      operational := (parseCommands_ok parsed).2.1
      sized := (parseCommands_ok parsed).2.2 }

end VapeCommerce.Delivery.Csv
