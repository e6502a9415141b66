import Mathlib
import Multichain.Proofs.AmountValue
import Multichain.Proofs.BuiltTransfer

/-!
What a built transfer pays. The fee is the least whole number of coins that covers the gas at its
price, so that it is never negative; the amount is taken as it is given. Main statements:
`built_transfer_pays` and `coins_nonneg_iff`.
-/

set_option autoImplicit false

namespace Multichain.Cosmos

open Multichain

def NativeTx.coins (tx : NativeTx) : List Coin :=
  (tx.messages.filterMap Message.transfer?).flatMap BankSend.amount ++
    (tx.fee?.map Prod.fst).getD []

namespace TransferBuilder

def gasCost (input : TransferInput) : ℚ :=
  input.gasPrice.value * input.gasLimit.toNat

theorem fee_eq_ok_iff (input : TransferInput) (paid : LedgerAmount) :
    fee input = .ok paid ↔
      0 ≤ input.gasPrice.value ∧
        (input.gasPrice.scaleBy input.gasLimit).toLedgerCeil 0 = .ok paid := by
  rw [fee, HumanAmount.value_nonneg_iff]
  split_ifs with negative <;> simp [negative]

theorem units_fee (input : TransferInput) (paid : LedgerAmount) (priced : fee input = .ok paid) :
    paid.units = ⌈gasCost input⌉ := by
  have converted := ((fee_eq_ok_iff ..).mp priced).2
  rw [HumanAmount.units_toLedgerCeil _ _ _ converted, HumanAmount.value_scaleBy, gasCost]
  simp

theorem fee_nonneg (input : TransferInput) (paid : LedgerAmount) (priced : fee input = .ok paid) :
    0 ≤ paid.units := by
  have price := ((fee_eq_ok_iff ..).mp priced).1
  rw [units_fee input paid priced]
  exact Int.ceil_nonneg (mul_nonneg price (Nat.cast_nonneg _))

/-- Whether a transfer of a chain's own coin can be built depends on its chain id and on its fee
alone. What is then built is the transfer that was asked for, unsigned, with the bytes to be signed
for it, at a fee that covers the gas and is less than one coin above its cost. -/
theorem built_transfer_pays (asset : AssetConfig) (native : NativeAsset)
    (known : asset.nativeAsset = .ok native) (family : native.family = .cosmos)
    (coin : asset.chainCoin ≠ "") (sender recipient : Address) (amount : LedgerAmount)
    (input : TransferInput) :
    let chainId := if input.chainId = "" then asset.chainIdText else input.chainId
    ∃ builder, ofConfig Amino.context asset = .ok builder ∧
      ((∃ transaction,
          builder.newTransfer sender recipient amount (.cosmos input) = .ok transaction) ↔
        asset.isToken = false ∧ chainId ≠ "" ∧ 0 ≤ input.gasPrice.value ∧
          ∃ paid, (input.gasPrice.scaleBy input.gasLimit).toLedgerCeil 0 = .ok paid) ∧
      ∀ transaction,
        builder.newTransfer sender recipient amount (.cosmos input) = .ok transaction →
        transaction.stage = "built" ∧ transaction.hash = ⟨""⟩ ∧
        ∃ tx paid bytes, transaction.native? = some (.std tx) ∧
          tx.messages = [.send ⟨sender, recipient, [⟨asset.chainCoin, amount⟩]⟩] ∧
          tx.fee = [⟨asset.chainCoin, paid⟩] ∧
          (paid.units - 1 < gasCost input ∧ gasCost input ≤ paid.units ∧ 0 ≤ paid.units) ∧
          tx.gas = input.gasLimit ∧ tx.memo = input.memo ∧
          Amino.signBytes ⟨chainId, input.accountNumber, input.sequence⟩ (.std tx) = .ok bytes ∧
          transaction.sighash = .ok (Hash.Sha256.hash bytes) := by
  intro chainId
  let builder : TransferBuilder StdTx := ⟨asset, Amino.context⟩
  have buildable (transaction : Transaction StdTx) :=
    newTransfer_amino_iff asset sender recipient amount input transaction
  refine ⟨builder, (ofConfig_eq_ok_iff ..).mpr ⟨⟨native, known, family⟩, coin, rfl⟩, ?_, ?_⟩
  · constructor
    · intro ⟨transaction, built⟩
      obtain ⟨own, named, paid, priced, -⟩ := (buildable transaction).mp built
      obtain ⟨price, converted⟩ := (fee_eq_ok_iff ..).mp priced
      exact ⟨own, named, price, paid, converted⟩
    · intro ⟨own, named, price, paid, converted⟩
      have priced := (fee_eq_ok_iff ..).mpr ⟨price, converted⟩
      exact ⟨_, (buildable _).mpr ⟨own, named, paid, priced, rfl⟩⟩
  · intro transaction built
    obtain ⟨-, -, paid, priced, rfl⟩ := (buildable transaction).mp built
    let transfer := builder.transfer sender recipient amount
    have units := units_fee input paid priced
    have close : paid.units - 1 < gasCost input := by
      have above := Int.ceil_lt_add_one (gasCost input)
      rw [units]
      linarith
    have covered : gasCost input ≤ paid.units := by
      rw [units]
      exact Int.le_ceil _
    exact ⟨rfl, rfl, builder.aminoDraft input transfer paid, paid,
      builder.signedText input transfer paid, rfl, rfl, rfl,
      ⟨close, covered, fee_nonneg input paid priced⟩, rfl, rfl, signBytes_amino .., rfl⟩

namespace AminoTransfer

-- 200001 units of gas at 0.0251 coins each cost 5020.0251 coins.
def thetaInput : TransferInput :=
  { hubInput "rent" with gasPrice := ⟨251, 4⟩, gasLimit := 200001, chainId := "theta-1" }

theorem theta_transfer_pays :
    ∃ builder transaction tx, ofConfig Amino.context hub = .ok builder ∧
      builder.newTransfer ⟨"cosmos1from"⟩ ⟨"cosmos1to"⟩ ⟨7⟩ (.cosmos thetaInput) =
        .ok transaction ∧
      transaction.hash = ⟨""⟩ ∧ transaction.native? = some (.std tx) ∧ tx.memo = "rent" ∧
      tx.fee = [⟨"uatom", ⟨5021⟩⟩] := by
  have converted :
      (thetaInput.gasPrice.scaleBy thetaInput.gasLimit).toLedgerCeil 0 = .ok ⟨5021⟩ := by
    decide +kernel
  have cost : gasCost thetaInput = 5020.0251 := by
    have scale : (4 : Int64).toInt = 4 := by decide
    have limit : (200001 : UInt64).toNat = 200001 := by decide
    simp only [gasCost, thetaInput, HumanAmount.value, scale, limit]
    norm_num
  have price : 0 ≤ thetaInput.gasPrice.value :=
    (HumanAmount.value_nonneg_iff _).mpr (by decide)
  obtain ⟨builder, known, buildable, pays⟩ := built_transfer_pays hub .atom rfl rfl (by decide)
    ⟨"cosmos1from"⟩ ⟨"cosmos1to"⟩ ⟨7⟩ thetaInput
  obtain ⟨transaction, built⟩ := buildable.mpr ⟨rfl, by decide, price, _, converted⟩
  obtain ⟨-, hash, tx, paid, -, native, -, fee, ⟨close, covered, -⟩, -, memo, -⟩ :=
    pays transaction built
  have units : paid.units = 5021 := by
    rw [cost] at close covered
    have below : (paid.units : ℚ) < 5022 := by linarith
    have above : (5020 : ℚ) < paid.units := by linarith
    norm_cast at below above
    omega
  refine ⟨builder, transaction, tx, known, built, hash, native, memo, ?_⟩
  rw [fee, ← units]
  rfl

theorem coins_nonneg_iff (transfer : AminoTransfer) :
    ∃ tx, transfer.transaction.native? = some tx ∧
      (∀ coins gas, tx.fee? = some (coins, gas) → ∀ coin ∈ coins, 0 ≤ coin.amount.units) ∧
      ((∀ coin ∈ tx.coins, 0 ≤ coin.amount.units) ↔ 0 ≤ transfer.amount.units) := by
  obtain ⟨paid, priced, same⟩ := transfer.transaction_eq
  have fee := fee_nonneg transfer.input paid priced
  have coins : (NativeTx.std (transfer.draft paid)).coins =
      [⟨transfer.builder.asset.chainCoin, transfer.amount⟩,
        ⟨transfer.builder.asset.chainCoin, paid⟩] := rfl
  refine ⟨.std (transfer.draft paid), ?_, ?_, ?_⟩
  · rw [same]
    rfl
  · intro coins gas own coin member
    obtain ⟨rfl, -⟩ := Prod.mk.inj (Option.some.inj own)
    rw [List.mem_singleton.mp member]
    exact fee
  · simp [coins, fee]

theorem hub_coins_nonneg :
    ∃ tx, (hubTransfer "rent").transaction.native? = some tx ∧ tx.coins ≠ [] ∧
      ∀ coin ∈ tx.coins, 0 ≤ coin.amount.units := by
  obtain ⟨tx, native, -, coins⟩ := coins_nonneg_iff (hubTransfer "rent")
  obtain rfl := Option.some.inj native
  exact ⟨_, native, by decide, coins.mpr (by decide)⟩

def hubDebit : AminoTransfer where
  asset := hub
  builder := ⟨hub, Amino.context⟩
  sender := ⟨"cosmos1from"⟩
  recipient := ⟨"cosmos1to"⟩
  amount := ⟨-1⟩
  input := hubInput ""
  transaction := .built (aminoStaged ⟨hub, Amino.context⟩ (hubInput "")
    ⟨⟨"cosmos1from"⟩, ⟨"cosmos1to"⟩, [⟨"uatom", ⟨-1⟩⟩]⟩ ⟨5000⟩)
  known := ofConfig_hub
  built := (newTransfer_amino_iff ..).mpr
    ⟨rfl, by simp [chainId, hub, hubInput], ⟨5000⟩, fee_hub "", rfl⟩

theorem hub_debit_built :
    ¬ ∀ (transfer : AminoTransfer) (tx : NativeTx), transfer.transaction.native? = some tx →
      ∀ coin ∈ tx.coins, 0 ≤ coin.amount.units := by
  intro safe
  have amount := safe hubDebit _ rfl ⟨"uatom", ⟨-1⟩⟩ (by decide)
  exact absurd amount (by decide)

end AminoTransfer

end TransferBuilder

end Multichain.Cosmos
