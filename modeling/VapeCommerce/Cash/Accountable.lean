import VapeCommerce.Cash.Admin
import VapeCommerce.Delivery.Admin

set_option autoImplicit false

-- What a collection answers for, once it has an amount to answer for.
namespace VapeCommerce.Cash.Accountable

open VapeCommerce.Lib.Outcome VapeCommerce.Schema VapeCommerce.Checkout.Fulfillment
open VapeCommerce.Cash.Calculations VapeCommerce.Cash.Admin VapeCommerce.Delivery.Admin

def unsettledStatuses : List CashDiscrepancyStatus :=
  [.opened, .investigating]

theorem cashDifference_ok (expected actual difference : Int) :
    cashDifference expected actual = .ok difference <->
      (0 <= expected /\ expected <= Money.maxMillimes) /\
        (0 <= actual /\ actual <= Money.maxMillimes) /\ actual - expected = difference := by
  simp only [cashDifference, orFail_ok, Money.Cash.cashDifference_ok]

-- Without a discrepancy the count was exact.
theorem answered_exact {collection : CashCollection} {accountable : Int}
    (answered : accountableCollectionMillimes none collection = .ok accountable) :
    collection.collectedMillimes = collection.expectedMillimes /\
      accountable = collection.collectedMillimes := by
  simp only [accountableCollectionMillimes, bind_ok, throwIf_ok, not_not, cashDifference_ok,
    pure_ok] at answered
  obtain ⟨_, ⟨-, -, rfl⟩, _, exact_count, rfl⟩ := answered
  exact ⟨by omega, rfl⟩

-- A collection with an accountable amount has no unsettled discrepancy.
theorem answered_settled {discrepancy : CashDiscrepancy} {collection : CashCollection}
    {accountable : Int}
    (answered : accountableCollectionMillimes (some discrepancy) collection = .ok accountable) :
    Not (discrepancy.status ∈ unsettledStatuses) := by
  simp only [accountableCollectionMillimes, bind_ok, throwIf_ok] at answered
  obtain ⟨_, -, _, -, _, settled, -⟩ := answered
  simpa [unsettledStatuses] using settled

theorem accountable_cash_resolved {discrepancy : CashDiscrepancy} {collection : CashCollection}
    {accountable : Int} (counted :
      accountableCashForDeliveryCompletion (some discrepancy) collection = .ok accountable) :
    discrepancy.status = .resolved := by
  simp only [accountableCashForDeliveryCompletion, bind_ok, throwIf_ok] at counted
  obtain ⟨_, -, _, -, _, resolved, -⟩ := counted
  exact not_not.1 resolved

-- Remitting a collection that counts for its delivery changes nothing of what it counts.
theorem accountable_cash_remitted {discrepancy : Option CashDiscrepancy} {collection : CashCollection}
    {accountable : Int} (positive : 0 < accountable)
    (counted : accountableCashForDeliveryCompletion discrepancy collection = .ok accountable) :
    accountableCashForDeliveryCompletion discrepancy (Cash.Admin.remitted collection) =
      .ok accountable := by
  simp only [accountableCashForDeliveryCompletion, bind_ok] at counted ⊢
  obtain ⟨difference, balance, counted⟩ := counted
  refine ⟨difference, balance, ?_⟩
  cases discrepancy with
  | none =>
    simp only [bind_ok, throwIf_ok, pure_ok] at counted ⊢
    obtain ⟨⟨⟩, exact_count, same⟩ := counted
    split at same
    next there =>
      refine ⟨(), ?_, ?_⟩
      next => exact fun differs => exact_count ⟨differs.1, there⟩
      next => simpa [Cash.Admin.remitted, collectedCashStatuses] using same
    next => omega
  | some row =>
    simp only [bind_ok, throwIf_ok, pure_ok] at counted ⊢
    obtain ⟨⟨⟩, same, ⟨⟩, resolved, ⟨⟩, -, value⟩ := counted
    refine ⟨(), by simpa [linked, Cash.Admin.remitted] using same, (), resolved, (), ?_, value⟩
    simp [Cash.Admin.remitted, collectedCashStatuses]

end VapeCommerce.Cash.Accountable
