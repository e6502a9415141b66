import Mathlib
import Multichain.Proofs.Lifecycle
import Multichain.Proofs.SignedText

/-!
What is signed is what is sent. Adding signatures leaves the rest of a transfer as it was built, and
the document that is sent says of it what the text that was signed says. Main statement:
`signed_is_sent`.
-/

set_option autoImplicit false

namespace Multichain.Json

def Value.at? : Value → List String → Option Value
  | value, [] => some value
  | .object members, name :: path =>
    (members.find? (·.1 == name)).bind fun member => member.2.at? path
  | _, _ :: _ => none

end Multichain.Json

namespace Multichain.Cosmos.Amino

open Multichain Json Outcome TransferBuilder

theorem sorted_stdForm (form : StdForm) :
    (StdForm.codec.write form).sorted =
      .object
        [("fee", (FeeForm.codec.write form.fee).sorted), ("memo", .text form.memo),
         ("msg", (MessageForm.codec.list.write form.messages).sorted),
         ("signatures", (SignatureForm.codec.list.write form.signatures).sorted)] := by
  simp [StdForm.codec, Value.sorted, sortedMembers, sortMembers, insertMember, -String.lt_iff_ltb]

theorem sorted_txForm (form : TxForm) :
    (TxForm.codec.write form).sorted =
      .object [("type", .text form.kind), ("value", (StdForm.codec.write form.value).sorted)] := by
  simp [TxForm.codec, Value.sorted, sortedMembers, sortMembers, insertMember, -String.lt_iff_ltb]

theorem fits_coins (depth : Nat) (coins : List Coin) :
    (Coin.codec.list.write coins).Fits (depth + 2) := by
  simp [Codec.list, Coin.codec, LedgerAmount.codec, Codec.via, Codec.text]

theorem fits_send (depth : Nat) (transfer : BankSend) :
    (BankSend.codec.write transfer).Fits (depth + 3) := by
  simp [BankSend.codec, Address.codec, Codec.via, Codec.text, fits_coins]

theorem fits_fee (depth : Nat) (fee : FeeForm) : (FeeForm.codec.write fee).Fits (depth + 3) := by
  simp [FeeForm.codec, fits_coins]

theorem fits_messages (depth : Nat) (forms : List MessageForm)
    (each : ∀ form ∈ forms, form.value.Fits depth) :
    (MessageForm.codec.list.write forms).Fits (depth + 2) := by
  simpa [Codec.list, MessageForm.codec] using each

theorem fits_signatures (depth : Nat) (forms : List SignatureForm) :
    (SignatureForm.codec.list.write forms).Fits (depth + 3) := by
  simp [Codec.list, SignatureForm.codec, KeyForm.codec]

theorem fits_signDocument (depth : Nat) (signer : SignerData) (forms : List MessageForm)
    (fee : FeeForm) (memo : String) (each : ∀ form ∈ forms, form.value.Fits (depth + 3)) :
    (signDocument signer forms fee memo).Fits (depth + 6) := by
  have messages := fits_messages (depth + 3) forms each
  simp [signDocument, messages, fits_fee]

theorem fits_txForm (depth : Nat) (form : TxForm)
    (each : ∀ message ∈ form.value.messages, message.value.Fits (depth + 3)) :
    (TxForm.codec.write form).Fits (depth + 7) := by
  have messages := fits_messages (depth + 3) form.value.messages each
  simp [TxForm.codec, StdForm.codec, messages, fits_fee, fits_signatures]

def TxForm.bytes (form : TxForm) : Bytes :=
  (TxForm.codec.write form).sorted.bytes

theorem TxForm.bytes_ne_nil (form : TxForm) : form.bytes ≠ [] := by
  rw [TxForm.bytes, sorted_txForm, Value.bytes, Value.tree, memberTrees, Tree.bytes]
  exact List.cons_ne_nil _ _

theorem ofTx_eq_ok_iff (tx : StdTx) (form : TxForm) :
    TxForm.ofTx tx = .ok form ↔
      ∃ signatures messages, tx.signatures.mapM SignatureForm.ofSignature = .ok signatures ∧
        messageForms tx.messages = .ok messages ∧
        form = ⟨stdKind, ⟨messages, ⟨tx.fee, word tx.gas⟩, signatures, tx.memo⟩⟩ := by
  simp only [TxForm.ofTx, bind_eq_ok_iff, pure_eq_ok_iff]
  constructor
  · rintro ⟨signatures, signed, messages, formed, rfl⟩
    exact ⟨signatures, messages, signed, formed, rfl⟩
  · rintro ⟨signatures, messages, signed, formed, rfl⟩
    exact ⟨signatures, signed, messages, formed, rfl⟩

theorem encode_eq_ok_iff (tx : StdTx) (bytes : Bytes) :
    encode (.std tx) = .ok bytes ↔ ∃ form, TxForm.ofTx tx = .ok form ∧ form.bytes = bytes := by
  simp only [encode, bind_eq_ok_iff, pure_eq_ok_iff, TxForm.bytes]

def sharedPaths : List (List String × List String) :=
  [(["value", "msg"], ["msgs"]), (["value", "fee"], ["fee"]),
   (["value", "fee", "amount"], ["fee", "amount"]), (["value", "fee", "gas"], ["fee", "gas"]),
   (["value", "memo"], ["memo"])]

def Agree (bytes text : Bytes) : Prop :=
  ∃ sent signed, Value.read bytes = some sent ∧ Value.read text = some signed ∧
    ∀ paths ∈ sharedPaths, ∃ part, sent.at? paths.1 = some part ∧ signed.at? paths.2 = some part

-- Both documents are written from the same forms, so reading them back meets the same parts. They
-- are read to a limited depth, which the values of the messages must leave room for.
theorem encode_agrees (signer : SignerData) (tx : StdTx) (text bytes : Bytes)
    (fits : ∀ forms, messageForms tx.messages = .ok forms → ∀ form ∈ forms, form.value.Fits 123)
    (signed : signBytes signer (.std tx) = .ok text) (encoded : encode (.std tx) = .ok bytes) :
    Agree bytes text := by
  obtain ⟨forms, formed, rfl⟩ := (signBytes_eq_ok_iff ..).mp signed
  obtain ⟨form, made, rfl⟩ := (encode_eq_ok_iff ..).mp encoded
  obtain ⟨signatures, others, -, same, rfl⟩ := (ofTx_eq_ok_iff ..).mp made
  obtain rfl : forms = others := Except.ok.inj (formed.symm.trans same)
  have sentFits := fits_txForm 120
    ⟨stdKind, ⟨forms, ⟨tx.fee, word tx.gas⟩, signatures, tx.memo⟩⟩ (fits forms formed)
  have signedFits := fits_signDocument 121 signer forms (FeeForm.ofTx (.std tx)) tx.memo
    fun form found => (fits forms formed form found).succ
  refine ⟨_, _, read_sorted _ sentFits, read_sorted _ signedFits, ?_⟩
  rw [sorted_txForm, sorted_stdForm, sorted_signDocument, sorted_fee, sorted_fee]
  simp [sharedPaths, Value.at?, FeeForm.ofTx, NativeTx.fee?, NativeTx.memo]

end Multichain.Cosmos.Amino

namespace Multichain.Cosmos.TransferBuilder.AminoTransfer

open Multichain Transaction

def Keeps (transfer : AminoTransfer) (paid : LedgerAmount) (transaction : Transaction StdTx) : Prop :=
  ∃ staged signatures, transaction.staged? = some staged ∧ staged.context = Amino.context ∧
    staged.draft = { transfer.draft paid with signatures := signatures } ∧
    staged.sighash = Hash.Sha256.hash (transfer.text paid)

theorem step_keeps (transfer : AminoTransfer) (paid : LedgerAmount) (transaction : Transaction StdTx)
    (call : Call) (keeps : transfer.Keeps paid transaction) :
    transfer.Keeps paid (transaction.step call).1 := by
  obtain ⟨staged, signatures, found, context, draft, sighash⟩ := keeps
  have refused : staged.context.KeepsRefused := by
    rw [context]
    exact Amino.context_keepsRefused
  rcases step_staged transaction staged call found refused with ⟨kept, -⟩ | ⟨signature, signed⟩
  · rw [kept]
    exact ⟨staged, signatures, found, context, draft, sighash⟩
  · rw [signed]
    refine ⟨signedWith staged signature, [(filled staged signature).toSignature], rfl, context, ?_,
      sighash⟩
    have taken : (signedWith staged signature).draft =
        { staged.draft with signatures := [(filled staged signature).toSignature] } := by
      simp only [signedWith, offered, context]
      rfl
    rw [taken, draft]

theorem run_keeps (transfer : AminoTransfer) (paid : LedgerAmount) (transaction : Transaction StdTx)
    (calls : List Call) (keeps : transfer.Keeps paid transaction) :
    transfer.Keeps paid (transaction.run calls).1 := by
  induction calls generalizing transaction with
  | nil => exact keeps
  | cons call rest ih => exact ih _ (step_keeps transfer paid transaction call keeps)

theorem of_staged {δ : Type} (transaction : Transaction δ) (staged : Staged δ)
    (found : transaction.staged? = some staged) :
    transaction.native? = some (staged.context.view staged.draft) ∧
      transaction.serialize = staged.context.encoder (staged.context.view staged.draft) := by
  cases transaction with
  | unbuilt | decoded => cases found
  | built | signed =>
    obtain rfl := Option.some.inj found
    exact ⟨rfl, rfl⟩

theorem fits_draft (transfer : AminoTransfer) (paid : LedgerAmount) (forms : List Amino.MessageForm)
    (formed : Amino.messageForms (transfer.draft paid).messages = .ok forms) :
    ∀ form ∈ forms, form.value.Fits 123 := by
  obtain rfl := Except.ok.inj formed
  intro form found
  rw [List.mem_singleton.mp found]
  exact (Amino.fits_send 120 transfer.send).sorted

theorem signed_is_sent (transfer : AminoTransfer) (calls : List Call) :
    let last := (transfer.transaction.run calls).1
    ∃ tx text, last.native? = some tx ∧
      Amino.signBytes (transfer.builder.signer transfer.input) tx = .ok text ∧
      last.sighash = .ok (Hash.Sha256.hash text) ∧
      ∀ bytes, last.serialize = .ok bytes → Amino.Agree bytes text := by
  intro last
  obtain ⟨paid, -, start⟩ := transfer.transaction_eq
  have first : transfer.Keeps paid transfer.transaction := by
    rw [start]
    exact ⟨transfer.staged paid, _, rfl, rfl, rfl, rfl⟩
  obtain ⟨staged, signatures, found, context, draft, sighash⟩ :=
    run_keeps transfer paid transfer.transaction calls first
  have signed := signBytes_amino transfer.builder transfer.input transfer.send paid signatures
  obtain ⟨native, serialized⟩ := of_staged last staged found
  rw [context, draft] at native serialized
  refine ⟨_, transfer.text paid, native, signed, ?_, ?_⟩
  · simp only [Transaction.sighash, last, found, sighash]
  · intro bytes sent
    rw [serialized] at sent
    let tx : StdTx := { transfer.draft paid with signatures := signatures }
    exact Amino.encode_agrees _ tx _ _ (fits_draft transfer paid) signed sent

theorem hub_signed_is_sent :
    let last := ((hubTransfer "").transaction.run [.addSignature [], .addSignature [7]]).1
    ∃ bytes text, last.serialize = .ok bytes ∧ last.sighash = .ok (Hash.Sha256.hash text) ∧
      Amino.Agree bytes text := by
  obtain ⟨tx, text, -, -, sighash, sent⟩ :=
    signed_is_sent (hubTransfer "") [.addSignature [], .addSignature [7]]
  exact ⟨_, text, rfl, sighash, sent _ rfl⟩

end Multichain.Cosmos.TransferBuilder.AminoTransfer
