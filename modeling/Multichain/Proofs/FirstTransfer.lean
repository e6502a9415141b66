import Mathlib
import Multichain.Cosmos.Transaction

/-!
What is told of a transaction with any number of messages. The first transfer among them is told
wholly, and the others not at all; the fee is told whatever the messages. Main statement:
`first_transfer_told`.
-/

set_option autoImplicit false

namespace Multichain.Cosmos

open Multichain

variable {δ : Type}

def Transferless (messages : List Message) : Prop :=
  ∀ transfer, .send transfer ∉ messages

def firstAmount : List Coin → LedgerAmount
  | [] => .zero
  | coin :: _ => coin.amount

def NativeTx.feeCoins : NativeTx → List Coin
  | .std tx => tx.fee
  | .bare _ _ => []

theorem Message.transfer?_eq_some_iff (message : Message) (transfer : BankSend) :
    message.transfer? = some transfer ↔ message = .send transfer := by
  cases message <;> simp [Message.transfer?]

theorem transferless_iff (messages : List Message) :
    Transferless messages ↔ ∀ message ∈ messages, message.transfer? = none := by
  simp only [Transferless, Option.eq_none_iff_forall_ne_some, ne_eq, Message.transfer?_eq_some_iff]
  constructor
  · rintro none message present transfer rfl
    exact none transfer present
  · intro none transfer present
    exact none _ present transfer rfl

namespace NativeTx

theorem transfer?_eq_some_iff (tx : NativeTx) (transfer : BankSend) :
    tx.transfer? = some transfer ↔ ∃ before after,
      tx.messages = before ++ .send transfer :: after ∧ Transferless before := by
  simp only [NativeTx.transfer?, List.findSome?_eq_some_iff, Message.transfer?_eq_some_iff,
    transferless_iff]
  constructor
  · rintro ⟨before, _, after, split, rfl, none⟩
    exact ⟨before, after, split, none⟩
  · rintro ⟨before, after, split, none⟩
    exact ⟨before, _, after, split, rfl, none⟩

theorem transfer?_eq_none_iff (tx : NativeTx) :
    tx.transfer? = none ↔ Transferless tx.messages := by
  rw [NativeTx.transfer?, List.findSome?_eq_none_iff, transferless_iff]

theorem feeAmount_eq (tx : NativeTx) : tx.feeAmount = firstAmount tx.feeCoins := by
  cases tx with
  | std tx => cases fee : tx.fee <;> simp [feeAmount, fee?, feeCoins, firstAmount, fee]
  | bare messages memo => rfl

end NativeTx

namespace Transaction

theorem fee_view (transaction : Transaction δ) (tx : NativeTx) (own : transaction.native? = some tx) :
    transaction.view.fee = firstAmount tx.feeCoins := by
  rw [← NativeTx.feeAmount_eq, view, own]
  cases transaction.transfer? <;> rfl

theorem view_of_transfer (transaction : Transaction δ) (transfer : BankSend)
    (found : transaction.transfer? = some transfer) :
    transaction.view.sender = transfer.sender ∧ transaction.view.recipient = transfer.recipient ∧
      transaction.view.amount = firstAmount transfer.amount := by
  refine ⟨?_, ?_, ?_⟩ <;> simp only [view, found]
  cases transfer.amount <;> rfl

theorem view_of_none (transaction : Transaction δ) (none : transaction.transfer? = none) :
    transaction.view.sender = .empty ∧ transaction.view.recipient = .empty ∧
      transaction.view.amount = .zero := by
  refine ⟨?_, ?_, ?_⟩ <;> simp only [view, none]

theorem first_transfer_told (transaction : Transaction δ) (tx : NativeTx)
    (own : transaction.native? = some tx) :
    let told := transaction.view
    (∀ before transfer after, tx.messages = before ++ .send transfer :: after →
      Transferless before →
        transaction.transfer? = some transfer ∧ told.sender = transfer.sender ∧
          told.recipient = transfer.recipient ∧ told.amount = firstAmount transfer.amount) ∧
    (Transferless tx.messages →
      transaction.transfer? = none ∧ told.sender = .empty ∧ told.recipient = .empty ∧
        told.amount = .zero) ∧
    told.fee = firstAmount tx.feeCoins := by
  intro told
  have searched : transaction.transfer? = tx.transfer? := by rw [transfer?, own, Option.bind_some]
  refine ⟨fun before transfer after split none => ?_, fun none => ?_, fee_view transaction tx own⟩
  · have found : transaction.transfer? = some transfer := by
      rw [searched, NativeTx.transfer?_eq_some_iff]
      exact ⟨before, after, split, none⟩
    exact ⟨found, view_of_transfer transaction transfer found⟩
  · have found : transaction.transfer? = .none := by
      rw [searched, NativeTx.transfer?_eq_none_iff]
      exact none
    exact ⟨found, view_of_none transaction found⟩

def voteAndPay : StdTx where
  messages :=
    [.amino "cosmos-sdk/MsgVote" .null, .send ⟨⟨"ada"⟩, ⟨"ben"⟩, []⟩, .foreign "/ibc.Transfer",
     .send ⟨⟨"eve"⟩, ⟨"dan"⟩, [⟨"uatom", ⟨7⟩⟩]⟩]
  fee := [⟨"uatom", ⟨5⟩⟩, ⟨"uosmo", ⟨9⟩⟩]

theorem voteAndPay_told :
    let paid := (Transaction.decoded (.std voteAndPay) none : Transaction StdTx).view
    let moved := (Transaction.decoded (.bare [.foreign "/ibc.Transfer"] "") none :
      Transaction StdTx).view
    (paid.sender = ⟨"ada"⟩ ∧ paid.recipient = ⟨"ben"⟩ ∧ paid.amount = .zero ∧ paid.fee = ⟨5⟩) ∧
    moved.sender = .empty ∧ moved.recipient = .empty ∧ moved.amount = .zero ∧
      moved.fee = .zero := by
  intro paid moved
  obtain ⟨first, -, fee⟩ :=
    first_transfer_told (.decoded (.std voteAndPay) none : Transaction StdTx) _ rfl
  obtain ⟨-, absent, noFee⟩ := first_transfer_told
    (.decoded (.bare [.foreign "/ibc.Transfer"] "") none : Transaction StdTx) _ rfl
  obtain ⟨-, sender, recipient, amount⟩ := first [.amino "cosmos-sdk/MsgVote" .null] _ _ rfl
    (by simp [Transferless])
  obtain ⟨-, nobody, noRecipient, nothing⟩ := absent (by simp [Transferless, NativeTx.messages])
  exact ⟨⟨sender, recipient, amount, fee⟩, nobody, noRecipient, nothing, noFee⟩

end Transaction

end Multichain.Cosmos
