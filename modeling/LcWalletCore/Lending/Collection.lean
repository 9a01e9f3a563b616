import LcWalletCore.Lending.Outflow
import LcWalletCore.Lib.Matching

/-!
# What a collection pays

A collection lists the coins the wallet is to receive. The verifier looks for an output of the
wallet for each of them, one at a time, so one output can answer for several: the list is paid
in full exactly when, for the assets it names more than once, there are outputs enough
(`collection_paid_iff`).
-/

namespace LcWalletCore.Lending
open Lib Approval

/-- The listed coins, with amounts as integers. -/
def demanded (receives : List (AssetId × UInt64)) : List (AssetId × ℕ) :=
  receives.map fun entry => (entry.1, entry.2.toNat)

/-- The wallet's outputs pay the listed total of every asset, and the listed coins can be matched
to distinct ones of them. -/
structure PaidInFull (outputs : List Pset.Output) (mine : List ℕ)
    (receives : List (AssetId × UInt64)) : Prop where
  totals : ∀ asset, total (demanded receives) asset ≤ mineTotal outputs mine asset
  matched : ∃ f, Matching (statedAt outputs) (demanded receives) mine f

/-- For every coin of an asset listed more than once: of that asset, the wallet has as many outputs
of at least the coin's amount as the list has coins of at least it. -/
def RepeatsCovered (outputs : List Pset.Output) (mine : List ℕ)
    (receives : List (AssetId × UInt64)) : Prop :=
  ∀ coin ∈ demanded receives, 1 < (demanded receives).countP (fun d => d.1 = coin.1) →
    demandsFrom (demanded receives) coin ≤ rowsFrom (statedAt outputs) mine coin

section Paid
variable {outputs : List Pset.Output} {mine : List ℕ} {receives : List (AssetId × UInt64)}

/-- An accepted entry has an output of its own asset and at least its amount. -/
theorem rowsFrom_pos
    (h : ∀ entry ∈ receives, ∃ v ∈ minePaying outputs mine entry.1, entry.2 ≤ v) :
    ∀ coin ∈ demanded receives, 0 < rowsFrom (statedAt outputs) mine coin := by
  intro coin hcoin
  obtain ⟨entry, hentry, rfl⟩ := List.mem_map.mp hcoin
  obtain ⟨v, hpaid, hle⟩ := h entry hentry
  obtain ⟨i, hi, hrow⟩ := mem_minePaying.mp hpaid
  have hmeets : Meets (statedAt outputs) (entry.1, entry.2.toNat) i :=
    ⟨v.toNat, statedAt_of_explicit hrow, UInt64.le_iff_toNat_le.mp hle⟩
  exact List.countP_pos_iff.mpr ⟨i, hi, by simpa using hmeets⟩

/-- Entries that are each answered by some output are paid in full exactly when the repeated
assets are covered. -/
theorem paidInFull_iff (hmine : mine.Nodup)
    (h : ∀ entry ∈ receives, ∃ v ∈ minePaying outputs mine entry.1, entry.2 ≤ v) :
    PaidInFull outputs mine receives ↔ RepeatsCovered outputs mine receives := by
  constructor
  · intro hpaid coin _ _
    obtain ⟨f, hf⟩ := hpaid.matched
    exact count_le_of_matching hmine hf coin
  · intro hcovered
    have hcount : ∀ coin ∈ demanded receives,
        demandsFrom (demanded receives) coin ≤ rowsFrom (statedAt outputs) mine coin := by
      intro coin hcoin
      by_cases hrepeat : 1 < (demanded receives).countP (fun d => d.1 = coin.1)
      · exact hcovered coin hcoin hrepeat
      · -- an asset listed once is answered by the output the verifier found
        have hone : demandsFrom (demanded receives) coin
            ≤ (demanded receives).countP fun d => d.1 = coin.1 := by
          apply List.countP_mono_left
          intro d _ hd
          have hboth : d.1 = coin.1 ∧ coin.2 ≤ d.2 := by simpa using hd
          simpa using hboth.1
        have hsome := rowsFrom_pos h coin hcoin
        omega
    obtain ⟨f, hf⟩ := (exists_matching_iff hmine).mpr hcount
    exact ⟨fun asset => total_le_of_matching hmine hf asset, f, hf⟩

end Paid

/-- An accepted collection pays everything it lists exactly when, for every coin of an asset it
lists more than once, the wallet has as many outputs of at least that amount as the list has
coins of at least it. -/
theorem collection_paid_iff (C : Crypto) (pset : Pset) (assetId : String) (amount : UInt64)
    (policyAsset : AssetId) (mine : List ℕ) (owned : List OwnedInput) (lenderToken : AssetId)
    (fee : UInt64) (receives : List (AssetId × UInt64)) (check : TypedFundCheck)
    (hmine : mine.Nodup)
    (h : verifyTypedFund C (.claim lenderToken fee receives) (.ok pset) assetId amount policyAsset
      mine owned = .ok check) :
    PaidInFull pset.outputs mine receives ↔ RepeatsCovered pset.outputs mine receives := by
  obtain ⟨requested, -, harm⟩ := verifyTypedFund_ok h
  exact paidInFull_iff hmine (verifyClaim_ok harm).2

/-! ## A collection of two coins, and one listed twice -/

/-- The lender token in and back, and two coins its lending paid. -/
def collectTemplate : Pset where
  inputs := [.coin token 1, .coin usdt 1200000000000, .coin lbtc 2000000]
  outputs := [
    .pays token 1 [0x01],
    .pays usdt 1200000000000 [0x01],
    .pays lbtc 2000000 [0x01],
    .pays lbtc 330 []]

/-- A collection that lists each asset once is paid in full. -/
theorem collection_paid_collectTemplate :
    verifyTypedFund .hashOnly (.claim token 330 [(usdt, 1200000000000), (lbtc, 2000000)])
        (.ok collectTemplate) lbtcId 330 lbtc [0, 1, 2] [⟨0, token, 1⟩]
        = .ok { claim := .claim token 330 [(usdt, 1200000000000), (lbtc, 2000000)],
                receives := 1200000000000 } ∧
      PaidInFull collectTemplate.outputs [0, 1, 2] [(usdt, 1200000000000), (lbtc, 2000000)] := by
  have haccepted : verifyTypedFund .hashOnly
      (.claim token 330 [(usdt, 1200000000000), (lbtc, 2000000)])
      (.ok collectTemplate) lbtcId 330 lbtc [0, 1, 2] [⟨0, token, 1⟩]
      = .ok { claim := .claim token 330 [(usdt, 1200000000000), (lbtc, 2000000)],
              receives := 1200000000000 } := by
    decide +kernel
  refine ⟨haccepted, ?_⟩
  apply (collection_paid_iff _ _ _ _ _ _ _ _ _ _ _ (by decide) haccepted).mpr
  intro coin hcoin
  revert coin
  decide +kernel

/-- The same template under a memo that lists the USDt coin twice: accepted, and half of it is
paid. -/
theorem coinListedTwice_paid_once :
    (∃ check, verifyTypedFund .hashOnly
      (.claim token 330 [(usdt, 1200000000000), (usdt, 1200000000000)]) (.ok collectTemplate) lbtcId
      330 lbtc [0, 1, 2] [⟨0, token, 1⟩] = .ok check) ∧
      ¬ PaidInFull collectTemplate.outputs [0, 1, 2]
        [(usdt, 1200000000000), (usdt, 1200000000000)] := by
  refine ⟨⟨{ claim := .claim token 330 [(usdt, 1200000000000), (usdt, 1200000000000)],
             receives := 1200000000000 }, by decide +kernel⟩, ?_⟩
  intro hpaid
  have hle := hpaid.totals usdt
  revert hle
  decide +kernel

end LcWalletCore.Lending
