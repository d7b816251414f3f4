import VapeCommerce.Checkout.Fulfillment
import VapeCommerce.Database

set_option autoImplicit false

-- cash-calculations.ts and cash-state-policy.ts, with the discrepancy of a collection.
namespace VapeCommerce.Cash.Calculations

open VapeCommerce.Lib VapeCommerce.Lib.Outcome VapeCommerce.Schema VapeCommerce.Database
open VapeCommerce.Checkout.Fulfillment

def cashDifference (expectedMillimes actualMillimes : Int) : Except Failure Int :=
  orFail (Money.Cash.cashDifference expectedMillimes actualMillimes) rangeFailure

def sumMillimes (values : List Int) : Except Failure Int :=
  orFail (Money.Cash.sumMillimes values) rangeFailure

def cashCollectionTransitions : CashCollectionStatus -> List CashCollectionStatus
  | .expected => [.collected, .partiallyCollected]
  | .collected => [.remitted]
  | .partiallyCollected => [.remitted]
  | .voided => []
  | .remitted => []

def cashRemittanceTransitions : CashRemittanceStatus -> List CashRemittanceStatus
  | .draft => [.submitted]
  | .submitted => [.verified, .discrepancy]
  | .verified => []
  | .discrepancy => [.verified]
  | .rejected => []
  | .cancelled => []

def cashDiscrepancyTransitions : CashDiscrepancyStatus -> List CashDiscrepancyStatus
  | .opened => [.investigating, .resolved, .writtenOff]
  | .investigating => [.resolved, .writtenOff]
  | .resolved => []
  | .writtenOff => []

def canTransitionCollection (source target : CashCollectionStatus) : Bool :=
  decide (target ∈ cashCollectionTransitions source)

def canTransitionRemittance (source target : CashRemittanceStatus) : Bool :=
  decide (target ∈ cashRemittanceTransitions source)

def canTransitionDiscrepancy (source target : CashDiscrepancyStatus) : Bool :=
  decide (target ∈ cashDiscrepancyTransitions source)

-- `cashCollectionId` is unique among discrepancies, so a collection has at most one.
def discrepancyOf (db : Db) (collectionId : Id) : Option CashDiscrepancy :=
  db.discrepancies.lookup CashDiscrepancy.cashCollectionId (some collectionId)

def linked (collection : CashCollection) (discrepancy : CashDiscrepancy) (difference : Int) : Bool :=
  discrepancy.cashCollectionId == some collection.id &&
    discrepancy.expectedMillimes == collection.expectedMillimes &&
    discrepancy.actualMillimes == collection.collectedMillimes &&
    discrepancy.differenceMillimes == difference

end VapeCommerce.Cash.Calculations
