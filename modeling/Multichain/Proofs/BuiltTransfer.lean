import Mathlib
import Multichain.Cosmos.TransferBuilder
import Multichain.Proofs.Outcome

/-!
What it takes to build a transfer, and what has then been built. Main statements:
`newTransfer_eq_ok_iff` for any signing mode, and `draft_amino` for the JSON mode.
-/

set_option autoImplicit false

namespace Multichain.Cosmos.TransferBuilder

open Multichain Outcome

variable {δ : Type}

def signer (builder : TransferBuilder δ) (input : TransferInput) : SignerData :=
  ⟨builder.chainId input, input.accountNumber, input.sequence⟩

def transfer (builder : TransferBuilder δ) (sender recipient : Address) (amount : LedgerAmount) :
    BankSend :=
  ⟨sender, recipient, [⟨builder.asset.chainCoin, amount⟩]⟩

theorem ofConfig_eq_ok_iff (context : SigningContext δ) (asset : AssetConfig)
    (builder : TransferBuilder δ) :
    ofConfig context asset = .ok builder ↔
      (∃ native, asset.nativeAsset = .ok native ∧ native.family = .cosmos) ∧
        asset.chainCoin ≠ "" ∧ builder = ⟨asset, context⟩ := by
  unfold ofConfig
  simp only [bind_eq_ok_iff, check_eq_ok_iff, pure_eq_ok_iff, ne_eq, not_not]
  constructor
  · rintro ⟨native, known, family, coin, rfl⟩
    exact ⟨⟨native, known, family⟩, coin, rfl⟩
  · rintro ⟨⟨native, known, family⟩, coin, rfl⟩
    exact ⟨native, known, family, coin, rfl⟩

theorem newNativeTransfer_eq_ok_iff (builder : TransferBuilder δ) (sender recipient : Address)
    (amount : LedgerAmount) (input : TransferInput) (transaction : Transaction δ) :
    builder.newNativeTransfer sender recipient amount input = .ok transaction ↔
      builder.chainId input ≠ "" ∧
        ∃ paid draft bytes, fee input = .ok paid ∧
          builder.draft input (builder.transfer sender recipient amount) paid = .ok draft ∧
          builder.context.signBytes (builder.signer input) (builder.context.view draft) =
            .ok bytes ∧
          transaction =
            .built ⟨builder.context, draft, builder.slot input, Hash.Sha256.hash bytes⟩ := by
  unfold newNativeTransfer
  simp only [bind_eq_ok_iff, check_eq_ok_iff, pure_eq_ok_iff]
  constructor
  · rintro ⟨named, paid, priced, draft, drafted, bytes, signed, rfl⟩
    exact ⟨named, paid, draft, bytes, priced, drafted, signed, rfl⟩
  · rintro ⟨named, paid, draft, bytes, priced, drafted, signed, rfl⟩
    exact ⟨named, paid, priced, draft, drafted, bytes, signed, rfl⟩

theorem newTransfer_eq_ok_iff (builder : TransferBuilder δ) (sender recipient : Address)
    (amount : LedgerAmount) (input : ChainInput) (transaction : Transaction δ) :
    builder.newTransfer sender recipient amount input = .ok transaction ↔
      ∃ own, input = .cosmos own ∧ builder.asset.isToken = false ∧
        builder.newNativeTransfer sender recipient amount own = .ok transaction := by
  cases input with
  | foreign => simp [newTransfer]
  | cosmos own =>
    cases token : builder.asset.isToken <;> simp [newTransfer, token]

def aminoDraft (builder : TransferBuilder StdTx) (input : TransferInput) (transfer : BankSend)
    (paid : LedgerAmount) : StdTx where
  messages := [.send transfer]
  fee := [⟨builder.asset.chainCoin, paid⟩]
  gas := input.gasLimit
  memo := input.memo
  signatures := [⟨input.key, .single .aminoJson [], input.sequence⟩]

theorem draft_amino (asset : AssetConfig) (input : TransferInput) (transfer : BankSend)
    (paid : LedgerAmount) :
    draft ⟨asset, Amino.context⟩ input transfer paid =
      .ok (aminoDraft ⟨asset, Amino.context⟩ input transfer paid) := by
  rfl

def signedText (builder : TransferBuilder StdTx) (input : TransferInput) (transfer : BankSend)
    (paid : LedgerAmount) : Bytes :=
  let form : Amino.MessageForm := ⟨Amino.sendKind, (BankSend.codec.write transfer).sorted⟩
  let fee : Amino.FeeForm := ⟨[⟨builder.asset.chainCoin, paid⟩], Amino.word input.gasLimit⟩
  (Amino.signDocument (builder.signer input) [form] fee input.memo).sorted.bytes

theorem signBytes_amino (builder : TransferBuilder StdTx) (input : TransferInput)
    (transfer : BankSend) (paid : LedgerAmount) (signatures : List Signature) :
    Amino.signBytes (builder.signer input)
        (.std { builder.aminoDraft input transfer paid with signatures := signatures }) =
      .ok (builder.signedText input transfer paid) := by
  rfl

def aminoStaged (builder : TransferBuilder StdTx) (input : TransferInput) (transfer : BankSend)
    (paid : LedgerAmount) : Staged StdTx where
  context := Amino.context
  draft := builder.aminoDraft input transfer paid
  signer := ⟨input.key, .aminoJson, [], input.sequence⟩
  sighash := Hash.Sha256.hash (builder.signedText input transfer paid)

theorem newTransfer_amino_iff (asset : AssetConfig) (sender recipient : Address)
    (amount : LedgerAmount) (input : TransferInput) (transaction : Transaction StdTx) :
    let builder : TransferBuilder StdTx := ⟨asset, Amino.context⟩
    builder.newTransfer sender recipient amount (.cosmos input) = .ok transaction ↔
      asset.isToken = false ∧ builder.chainId input ≠ "" ∧ ∃ paid, fee input = .ok paid ∧
        transaction =
          .built (builder.aminoStaged input (builder.transfer sender recipient amount) paid) := by
  intro builder
  rw [newTransfer_eq_ok_iff]
  constructor
  · rintro ⟨_, ⟨⟩, own, built⟩
    obtain ⟨named, paid, draft, bytes, priced, drafted, signed, rfl⟩ :=
      (newNativeTransfer_eq_ok_iff ..).mp built
    rw [draft_amino] at drafted
    obtain rfl := Except.ok.inj drafted
    obtain rfl := Except.ok.inj ((signBytes_amino ..).symm.trans signed)
    exact ⟨own, named, paid, priced, rfl⟩
  · rintro ⟨own, named, paid, priced, rfl⟩
    let transfer := builder.transfer sender recipient amount
    refine ⟨input, rfl, own, (newNativeTransfer_eq_ok_iff ..).mpr ⟨named, paid, ?_⟩⟩
    exact ⟨builder.aminoDraft input transfer paid, builder.signedText input transfer paid, priced,
      draft_amino .., signBytes_amino .., rfl⟩

structure AminoTransfer where
  asset : AssetConfig
  builder : TransferBuilder StdTx
  sender : Address
  recipient : Address
  amount : LedgerAmount
  input : TransferInput
  transaction : Transaction StdTx
  known : ofConfig Amino.context asset = .ok builder
  built : builder.newTransfer sender recipient amount (.cosmos input) = .ok transaction

namespace AminoTransfer

def send (transfer : AminoTransfer) : BankSend :=
  transfer.builder.transfer transfer.sender transfer.recipient transfer.amount

def draft (transfer : AminoTransfer) (paid : LedgerAmount) : StdTx :=
  transfer.builder.aminoDraft transfer.input transfer.send paid

def text (transfer : AminoTransfer) (paid : LedgerAmount) : Bytes :=
  transfer.builder.signedText transfer.input transfer.send paid

def staged (transfer : AminoTransfer) (paid : LedgerAmount) : Staged StdTx :=
  transfer.builder.aminoStaged transfer.input transfer.send paid

theorem transaction_eq (transfer : AminoTransfer) :
    ∃ paid, fee transfer.input = .ok paid ∧ transfer.transaction = .built (transfer.staged paid) := by
  obtain ⟨asset, builder, sender, recipient, amount, input, transaction, known, built⟩ := transfer
  obtain ⟨-, -, rfl⟩ := (ofConfig_eq_ok_iff ..).mp known
  obtain ⟨-, -, paid, priced, rfl⟩ := (newTransfer_amino_iff ..).mp built
  exact ⟨paid, priced, rfl⟩

def Signs (transfer : AminoTransfer) (bytes : Bytes) : Prop :=
  ∃ tx, transfer.transaction.native? = some tx ∧
    Amino.signBytes (transfer.builder.signer transfer.input) tx = .ok bytes ∧
    transfer.transaction.sighash = .ok (Hash.Sha256.hash bytes)

theorem signs (transfer : AminoTransfer) :
    ∃ paid, fee transfer.input = .ok paid ∧ transfer.Signs (transfer.text paid) := by
  obtain ⟨paid, priced, same⟩ := transfer.transaction_eq
  refine ⟨paid, priced, .std (transfer.draft paid), ?_, signBytes_amino .., ?_⟩ <;> rw [same] <;> rfl

def hub : AssetConfig where
  asset := "ATOM"
  chainIdText := "cosmoshub-4"
  chainPrefix := "cosmos"
  chainCoin := "uatom"
  id := ⟨"ATOM"⟩
  native := some .atom
  kind := some .native

def hubInput (memo : String) : TransferInput where
  accountNumber := 1
  sequence := 2
  gasLimit := 200000
  gasPrice := ⟨25, 3⟩
  memo := memo
  key := [2]
  chainId := ""

theorem fee_hub (memo : String) : fee (hubInput memo) = .ok ⟨5000⟩ := by
  have paid : fee (hubInput "") = .ok ⟨5000⟩ := by decide +kernel
  exact paid

theorem ofConfig_hub : ofConfig Amino.context hub = .ok ⟨hub, Amino.context⟩ := by
  rfl

def hubTransfer (memo : String) : AminoTransfer where
  asset := hub
  builder := ⟨hub, Amino.context⟩
  sender := ⟨"cosmos1from"⟩
  recipient := ⟨"cosmos1to"⟩
  amount := ⟨1000000⟩
  input := hubInput memo
  transaction := .built (aminoStaged ⟨hub, Amino.context⟩ (hubInput memo)
    ⟨⟨"cosmos1from"⟩, ⟨"cosmos1to"⟩, [⟨"uatom", ⟨1000000⟩⟩]⟩ ⟨5000⟩)
  known := ofConfig_hub
  built := (newTransfer_amino_iff ..).mpr
    ⟨rfl, by simp [chainId, hub, hubInput], ⟨5000⟩, fee_hub memo, rfl⟩

end AminoTransfer

end Multichain.Cosmos.TransferBuilder
