import Mathlib
import Multichain.Proofs.BuiltTransfer
import Multichain.Proofs.JsonCodec

/-!
What the text to be signed tells of a transaction: everything but its signatures. Main statement:
`signed_text_determines`.
-/

set_option autoImplicit false

namespace Multichain.Cosmos.Amino

open Multichain Json Outcome

theorem sorted_coin (coin : Coin) :
    (Coin.codec.write coin).sorted =
      .object [("amount", .text coin.amount.text), ("denom", .text coin.denom)] := by
  simp [Coin.codec, LedgerAmount.codec, Codec.via, Codec.text, Value.sorted, sortedMembers,
    sortMembers, insertMember, -String.lt_iff_ltb]

theorem sorted_fee (fee : FeeForm) :
    (FeeForm.codec.write fee).sorted =
      .object [("amount", (Coin.codec.list.write fee.amount).sorted), ("gas", .text fee.gas)] := by
  simp [FeeForm.codec, Value.sorted, sortedMembers, sortMembers, insertMember, -String.lt_iff_ltb]

theorem sorted_message (form : MessageForm) :
    (MessageForm.codec.write form).sorted =
      .object [("type", .text form.kind), ("value", form.value.sorted)] := by
  simp [MessageForm.codec, Value.sorted, sortedMembers, sortMembers, insertMember, -String.lt_iff_ltb]

theorem sorted_send (transfer : BankSend) :
    (BankSend.codec.write transfer).sorted =
      .object
        [("amount", (Coin.codec.list.write transfer.amount).sorted),
         ("from_address", .text transfer.sender.text),
         ("to_address", .text transfer.recipient.text)] := by
  simp [BankSend.codec, Address.codec, Codec.via, Codec.text, Value.sorted, sortedMembers,
    sortMembers, insertMember, -String.lt_iff_ltb]

theorem sorted_signDocument (signer : SignerData) (messages : List MessageForm) (fee : FeeForm)
    (memo : String) :
    (signDocument signer messages fee memo).sorted =
      .object
        [("account_number", .text (word signer.accountNumber)), ("chain_id", .text signer.chainId),
         ("fee", (FeeForm.codec.write fee).sorted), ("memo", .text memo),
         ("msgs", (MessageForm.codec.list.write messages).sorted),
         ("sequence", .text (word signer.sequence))] := by
  simp [signDocument, Value.sorted, sortedMembers, sortMembers, insertMember, -String.lt_iff_ltb]

theorem word_injective (first second : UInt64) (same : word first = word second) :
    first = second :=
  UInt64.toNat_inj.mp (Text.natural_injective _ _ same)

theorem list_injective {α : Type} (codec : Codec α) (first second : List α)
    (each : ∀ value ∈ first, ∀ other ∈ second,
      (codec.write value).sorted = (codec.write other).sorted → value = other)
    (same : (codec.list.write first).sorted = (codec.list.write second).sorted) : first = second := by
  simp only [sorted_list, Value.array.injEq] at same
  exact map_injective_of_mem _ first second each same

theorem coin_injective (first second : Coin)
    (same : (Coin.codec.write first).sorted = (Coin.codec.write second).sorted) : first = second := by
  obtain ⟨firstDenom, firstAmount⟩ := first
  obtain ⟨secondDenom, secondAmount⟩ := second
  simp only [sorted_coin, Value.object.injEq, List.cons.injEq, Prod.mk.injEq, Value.text.injEq,
    true_and, and_true] at same
  have units := Text.integer_injective firstAmount.units secondAmount.units same.1
  rw [same.2, show firstAmount = secondAmount from congrArg LedgerAmount.mk units]

theorem fee_injective (first second : FeeForm)
    (same : (FeeForm.codec.write first).sorted = (FeeForm.codec.write second).sorted) :
    first = second := by
  obtain ⟨firstAmount, firstGas⟩ := first
  obtain ⟨secondAmount, secondGas⟩ := second
  simp only [sorted_fee, Value.object.injEq, List.cons.injEq, Prod.mk.injEq, Value.text.injEq,
    true_and, and_true] at same
  have coins := list_injective Coin.codec firstAmount secondAmount
    (fun coin _ other _ => coin_injective coin other) same.1
  rw [coins, same.2]

theorem send_injective (first second : BankSend)
    (same : (BankSend.codec.write first).sorted = (BankSend.codec.write second).sorted) :
    first = second := by
  obtain ⟨⟨firstSender⟩, ⟨firstRecipient⟩, firstAmount⟩ := first
  obtain ⟨⟨secondSender⟩, ⟨secondRecipient⟩, secondAmount⟩ := second
  simp only [sorted_send, Value.object.injEq, List.cons.injEq, Prod.mk.injEq, Value.text.injEq,
    true_and, and_true] at same
  have coins := list_injective Coin.codec firstAmount secondAmount
    (fun coin _ other _ => coin_injective coin other) same.1
  rw [coins, same.2.1, same.2.2]

theorem message_injective (first second : MessageForm) (firstSorted : first.value.sorted = first.value)
    (secondSorted : second.value.sorted = second.value)
    (same : (MessageForm.codec.write first).sorted = (MessageForm.codec.write second).sorted) :
    first = second := by
  obtain ⟨firstKind, firstValue⟩ := first
  obtain ⟨secondKind, secondValue⟩ := second
  simp only [sorted_message, firstSorted, secondSorted, Value.object.injEq, List.cons.injEq,
    Prod.mk.injEq, Value.text.injEq, true_and, and_true] at same
  rw [same.1, same.2]

-- The values of messages stand in order already, so that putting the document in order loses no
-- member of theirs.
theorem signDocument_injective (firstSigner secondSigner : SignerData)
    (firstMessages secondMessages : List MessageForm) (firstFee secondFee : FeeForm)
    (firstMemo secondMemo : String)
    (firstSorted : ∀ form ∈ firstMessages, form.value.sorted = form.value)
    (secondSorted : ∀ form ∈ secondMessages, form.value.sorted = form.value)
    (same : (signDocument firstSigner firstMessages firstFee firstMemo).sorted =
      (signDocument secondSigner secondMessages secondFee secondMemo).sorted) :
    firstSigner = secondSigner ∧ firstMessages = secondMessages ∧ firstFee = secondFee ∧
      firstMemo = secondMemo := by
  obtain ⟨firstChain, firstNumber, firstSequence⟩ := firstSigner
  obtain ⟨secondChain, secondNumber, secondSequence⟩ := secondSigner
  simp only [sorted_signDocument, Value.object.injEq, List.cons.injEq, Prod.mk.injEq,
    Value.text.injEq, true_and, and_true] at same
  obtain ⟨number, chain, fee, memo, messages, sequence⟩ := same
  have forms := list_injective MessageForm.codec firstMessages secondMessages
    (fun form present other found =>
      message_injective form other (firstSorted form present) (secondSorted other found)) messages
  rw [chain, word_injective _ _ number, word_injective _ _ sequence]
  exact ⟨rfl, forms, fee_injective _ _ fee, memo⟩

def FloatFree (message : Message) : Prop :=
  ∀ kind value, message = .amino kind value → value.FloatFree

theorem floatFree_coins (coins : List Coin) : (Coin.codec.list.write coins).FloatFree := by
  simp [Codec.list, Coin.codec, LedgerAmount.codec, Codec.via, Codec.text]

theorem floatFree_send (transfer : BankSend) : (BankSend.codec.write transfer).FloatFree := by
  simp [BankSend.codec, Address.codec, Codec.via, Codec.text, floatFree_coins]

theorem floatFree_signDocument (signer : SignerData) (forms : List MessageForm) (fee : FeeForm)
    (memo : String) (free : ∀ form ∈ forms, form.value.FloatFree) :
    (signDocument signer forms fee memo).FloatFree := by
  have messages : (MessageForm.codec.list.write forms).FloatFree := by
    simpa [Codec.list, MessageForm.codec] using free
  have fees : (FeeForm.codec.write fee).FloatFree := by
    simp [FeeForm.codec, floatFree_coins]
  simp [signDocument, messages, fees]

theorem sorted_ofMessage (message : Message) (form : MessageForm)
    (formed : MessageForm.ofMessage message = .ok form) : form.value.sorted = form.value := by
  cases message with
  | send transfer =>
    obtain rfl := Except.ok.inj formed
    exact sorted_sorted _
  | amino kind value =>
    obtain rfl := Except.ok.inj formed
    exact sorted_sorted value
  | foreign typeUrl => cases formed

theorem floatFree_ofMessage (message : Message) (form : MessageForm) (free : FloatFree message)
    (formed : MessageForm.ofMessage message = .ok form) : form.value.FloatFree := by
  cases message with
  | send transfer =>
    obtain rfl := Except.ok.inj formed
    exact (floatFree_send transfer).sorted
  | amino kind value =>
    obtain rfl := Except.ok.inj formed
    exact (free kind value rfl).sorted
  | foreign typeUrl => cases formed

theorem exists_forms_iff (messages : List Message) :
    (∃ forms, messageForms messages = .ok forms) ↔ ∀ typeUrl, .foreign typeUrl ∉ messages := by
  rw [messageForms, exists_mapM_iff]
  constructor
  · rintro each typeUrl present
    obtain ⟨form, formed⟩ := each _ present
    cases formed
  · intro none message present
    cases message with
    | send | amino => exact ⟨_, rfl⟩
    | foreign typeUrl => exact absurd present (none typeUrl)

theorem signBytes_eq_ok_iff (signer : SignerData) (tx : NativeTx) (bytes : Bytes) :
    signBytes signer tx = .ok bytes ↔
      ∃ forms, messageForms tx.messages = .ok forms ∧
        (signDocument signer forms (FeeForm.ofTx tx) tx.memo).sorted.bytes = bytes := by
  simp only [signBytes, bind_eq_ok_iff, pure_eq_ok_iff]

theorem signBytes_document (signer : SignerData) (tx : StdTx) (bytes : Bytes)
    (free : ∀ message ∈ tx.messages, FloatFree message)
    (signed : signBytes signer (.std tx) = .ok bytes) :
    ∃ forms, tx.messages.map MessageForm.ofMessage = forms.map .ok ∧
      (∀ form ∈ forms, form.value.sorted = form.value) ∧
      (signDocument signer forms ⟨tx.fee, word tx.gas⟩ tx.memo).FloatFree ∧
      (signDocument signer forms ⟨tx.fee, word tx.gas⟩ tx.memo).sorted.bytes = bytes := by
  obtain ⟨forms, formed, text⟩ := (signBytes_eq_ok_iff ..).mp signed
  have source := mem_mapM_iff MessageForm.ofMessage tx.messages forms formed
  refine ⟨forms, (mapM_eq_ok_iff ..).mp formed, ?_, ?_, text⟩
  · intro form found
    obtain ⟨message, -, same⟩ := (source form).mp found
    exact sorted_ofMessage message form same
  · refine floatFree_signDocument _ _ _ _ fun form found => ?_
    obtain ⟨message, present, same⟩ := (source form).mp found
    exact floatFree_ofMessage message form (free message present) same

theorem signBytes_injective (firstSigner secondSigner : SignerData) (first second : StdTx)
    (bytes : Bytes) (firstFree : ∀ message ∈ first.messages, FloatFree message)
    (secondFree : ∀ message ∈ second.messages, FloatFree message)
    (firstSigned : signBytes firstSigner (.std first) = .ok bytes)
    (secondSigned : signBytes secondSigner (.std second) = .ok bytes) :
    firstSigner = secondSigner ∧ first.fee = second.fee ∧ first.gas = second.gas ∧
      first.memo = second.memo ∧
      first.messages.map MessageForm.ofMessage = second.messages.map MessageForm.ofMessage := by
  obtain ⟨firstForms, firstFormed, firstSorted, firstDocument, firstText⟩ :=
    signBytes_document firstSigner first bytes firstFree firstSigned
  obtain ⟨secondForms, secondFormed, secondSorted, secondDocument, secondText⟩ :=
    signBytes_document secondSigner second bytes secondFree secondSigned
  have documents := bytes_injective _ _ firstDocument.sorted secondDocument.sorted
    (firstText.trans secondText.symm)
  obtain ⟨signer, forms, fee, memo⟩ :=
    signDocument_injective _ _ _ _ _ _ _ _ firstSorted secondSorted documents
  obtain ⟨coins, gas⟩ := FeeForm.mk.inj fee
  refine ⟨signer, coins, word_injective _ _ gas, memo, ?_⟩
  rw [firstFormed, secondFormed, forms]

open TransferBuilder

theorem transfer_text_injective (first second : AminoTransfer) (firstPaid secondPaid : LedgerAmount)
    (same : first.text firstPaid = second.text secondPaid) :
    first.send = second.send ∧ firstPaid = secondPaid ∧
      first.input.gasLimit = second.input.gasLimit ∧ first.input.memo = second.input.memo ∧
      first.builder.signer first.input = second.builder.signer second.input := by
  have free (transfer : AminoTransfer) (paid : LedgerAmount) :
      ∀ message ∈ (transfer.draft paid).messages, FloatFree message := by
    intro message found kind value form
    obtain rfl : message = .send transfer.send := List.mem_singleton.mp found
    cases form
  have firstSigned : signBytes (first.builder.signer first.input) (.std (first.draft firstPaid)) =
      .ok (second.text secondPaid) := by
    rw [← same]
    rfl
  obtain ⟨signer, fee, gas, memo, messages⟩ := signBytes_injective _ _ _ _ _ (free first firstPaid)
    (free second secondPaid) firstSigned
    (signBytes_amino second.builder second.input second.send secondPaid _)
  have form : MessageForm.ofMessage (.send first.send) = MessageForm.ofMessage (.send second.send) :=
    (List.cons.inj messages).1
  have send := send_injective _ _ (MessageForm.mk.inj (Except.ok.inj form)).2
  exact ⟨send, (Coin.mk.inj (List.cons.inj fee).1).2, gas, memo, signer⟩

theorem signed_text_determines :
    (∀ (firstSigner secondSigner : SignerData) (first second : StdTx) (bytes : Bytes),
      (∀ message ∈ first.messages, FloatFree message) →
      (∀ message ∈ second.messages, FloatFree message) →
      signBytes firstSigner (.std first) = .ok bytes →
      signBytes secondSigner (.std second) = .ok bytes →
      firstSigner.chainId = secondSigner.chainId ∧
        firstSigner.accountNumber = secondSigner.accountNumber ∧
        firstSigner.sequence = secondSigner.sequence ∧
        first.fee = second.fee ∧ first.gas = second.gas ∧ first.memo = second.memo ∧
        first.messages.length = second.messages.length ∧
        ∃ forms, messageForms first.messages = .ok forms ∧
          messageForms second.messages = .ok forms) ∧
    ∀ first second : AminoTransfer, ∃ firstBytes secondBytes,
      first.Signs firstBytes ∧ second.Signs secondBytes ∧
      (firstBytes = secondBytes →
        first.sender = second.sender ∧ first.recipient = second.recipient ∧
        first.amount = second.amount ∧
        first.builder.asset.chainCoin = second.builder.asset.chainCoin ∧
        fee first.input = fee second.input ∧ first.input.gasLimit = second.input.gasLimit ∧
        first.input.memo = second.input.memo ∧
        first.builder.chainId first.input = second.builder.chainId second.input ∧
        first.input.accountNumber = second.input.accountNumber ∧
        first.input.sequence = second.input.sequence) := by
  constructor
  · intro firstSigner secondSigner first second bytes firstFree secondFree firstSigned secondSigned
    obtain ⟨rfl, fee, gas, memo, messages⟩ := signBytes_injective firstSigner secondSigner first
      second bytes firstFree secondFree firstSigned secondSigned
    obtain ⟨forms, formed, -⟩ := (signBytes_eq_ok_iff ..).mp firstSigned
    refine ⟨rfl, rfl, rfl, fee, gas, memo, ?_, forms, formed, ?_⟩
    · simpa using congrArg List.length messages
    · rw [messageForms, mapM_eq_ok_iff, ← messages]
      exact (mapM_eq_ok_iff ..).mp formed
  · intro first second
    obtain ⟨firstPaid, firstFee, firstSigns⟩ := first.signs
    obtain ⟨secondPaid, secondFee, secondSigns⟩ := second.signs
    refine ⟨_, _, firstSigns, secondSigns, fun same => ?_⟩
    obtain ⟨send, paid, gas, memo, signer⟩ :=
      transfer_text_injective first second firstPaid secondPaid same
    obtain ⟨sender, recipient, coins⟩ := BankSend.mk.inj send
    obtain ⟨denom, amount⟩ := Coin.mk.inj (List.cons.inj coins).1
    obtain ⟨chainId, accountNumber, sequence⟩ := SignerData.mk.inj signer
    refine ⟨sender, recipient, amount, denom, ?_, gas, memo, chainId, accountNumber, sequence⟩
    rw [firstFee, secondFee, paid]

def vote : StdTx where
  messages :=
    [.amino "cosmos-sdk/MsgVote" (.object [("option", .integer 1), ("note", .text "\"")]),
     .send ⟨⟨"cosmos1from"⟩, ⟨"cosmos1to"⟩, [⟨"uatom", ⟨1⟩⟩]⟩]
  gas := 1
  memo := "vote"

theorem vote_and_memo_signed :
    (∃ bytes forms, signBytes ⟨"cosmoshub-4", 1, 2⟩ (.std vote) = .ok bytes ∧
      messageForms vote.messages = .ok forms) ∧
    ∃ firstBytes secondBytes, (AminoTransfer.hubTransfer "").Signs firstBytes ∧
      (AminoTransfer.hubTransfer "1").Signs secondBytes ∧ firstBytes ≠ secondBytes := by
  have free : ∀ message ∈ vote.messages, FloatFree message := by
    intro message found kind value form
    subst form
    obtain ⟨rfl, rfl⟩ : kind = "cosmos-sdk/MsgVote" ∧
        value = .object [("option", .integer 1), ("note", .text "\"")] := by
      simpa [vote] using found
    simpa using Value.FloatFree.integer 1
  constructor
  · obtain ⟨-, -, -, -, -, -, -, forms, formed, -⟩ := signed_text_determines.1
      ⟨"cosmoshub-4", 1, 2⟩ ⟨"cosmoshub-4", 1, 2⟩ vote vote _ free free rfl rfl
    exact ⟨_, forms, rfl, formed⟩
  · obtain ⟨firstBytes, secondBytes, first, second, same⟩ := signed_text_determines.2
      (AminoTransfer.hubTransfer "") (AminoTransfer.hubTransfer "1")
    refine ⟨firstBytes, secondBytes, first, second, fun equal => ?_⟩
    obtain ⟨-, -, -, -, -, -, memo, -⟩ := same equal
    exact absurd memo (by decide)

end Multichain.Cosmos.Amino
