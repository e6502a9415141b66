import Mathlib
import Multichain.Proofs.ByteText
import Multichain.Proofs.SentDocument

/-!
Reading back the forms of a document. Main statements: `decode_form`, for forms whose messages leave
room in the document, and `fits_of_decode`, that all others are refused.
-/

set_option autoImplicit false

namespace Multichain.Cosmos.Amino

open Multichain Json Outcome

@[simp]
theorem read_address (limit : Nat) (address : Address) :
    Address.codec.read limit (Value.text address.text).tree = some address := by
  simp [Address.codec, Codec.via]

@[simp]
theorem read_amount (limit : Nat) (amount : LedgerAmount) :
    LedgerAmount.codec.read limit (Value.text amount.text).tree = some amount := by
  simp [LedgerAmount.codec, Codec.via, LedgerAmount.ofText_text, Except.toOption]

theorem restores_coin (coin : Coin) : Coin.codec.Restores 1 coin := by
  rintro (_ | limit) enough
  · omega
  rw [sorted_coin, Coin.codec]
  simp [read_object]

theorem restores_coins (coins : List Coin) : Coin.codec.list.Restores 2 coins :=
  restores_list Coin.codec 1 coins fun coin _ => restores_coin coin

theorem restores_send (transfer : BankSend) : BankSend.codec.Restores 3 transfer := by
  rintro (_ | limit) enough
  · omega
  have coins := restores_coins transfer.amount limit (by omega)
  rw [sorted_send, BankSend.codec]
  simp [read_object, coins]

theorem restores_fee (fee : FeeForm) : FeeForm.codec.Restores 3 fee := by
  rintro (_ | limit) enough
  · omega
  have coins := restores_coins fee.amount limit (by omega)
  rw [sorted_fee, FeeForm.codec]
  simp [read_object, coins]

theorem sorted_key (key : KeyForm) :
    (KeyForm.codec.write key).sorted =
      .object [("type", .text key.kind), ("value", .text key.value)] := by
  simp [KeyForm.codec, Value.sorted, sortedMembers, sortMembers, insertMember, -String.lt_iff_ltb]

theorem sorted_signature (form : SignatureForm) :
    (SignatureForm.codec.write form).sorted =
      .object [("pub_key", (KeyForm.codec.write form.key).sorted),
        ("signature", .text form.signature)] := by
  simp [SignatureForm.codec, Value.sorted, sortedMembers, sortMembers, insertMember,
    -String.lt_iff_ltb]

theorem restores_key (key : KeyForm) : KeyForm.codec.Restores 1 key := by
  rintro (_ | limit) enough
  · omega
  rw [sorted_key, KeyForm.codec]
  simp [read_object]

theorem restores_signature (form : SignatureForm) : SignatureForm.codec.Restores 2 form := by
  rintro (_ | limit) enough
  · omega
  have key := restores_key form.key limit (by omega)
  rw [sorted_signature, SignatureForm.codec]
  simp [read_object, key]

theorem restores_signatures (forms : List SignatureForm) :
    SignatureForm.codec.list.Restores 3 forms :=
  restores_list SignatureForm.codec 2 forms fun form _ => restores_signature form

def MessageForm.read? (limit : Nat) (form : MessageForm) : Option MessageForm :=
  (form.value.sorted.tree.value? limit).map (MessageForm.mk form.kind)

theorem read_message (limit : Nat) (form : MessageForm) :
    MessageForm.codec.read (limit + 1) (MessageForm.codec.write form).sorted.tree =
      form.read? limit := by
  rw [sorted_message, MessageForm.codec]
  cases read : form.value.sorted.tree.value? limit <;>
    simp [read_object, Codec.value, MessageForm.read?, read]

theorem read_messages (limit : Nat) (forms : List MessageForm) :
    MessageForm.codec.list.read (limit + 2) (MessageForm.codec.list.write forms).sorted.tree =
      forms.mapM (MessageForm.read? limit) := by
  rw [read_list]
  simp only [read_message]

theorem read_stdForm (limit : Nat) (form : StdForm) :
    StdForm.codec.read (limit + 4) (StdForm.codec.write form).sorted.tree =
      (form.messages.mapM (MessageForm.read? (limit + 1))).map fun messages =>
        { form with messages := messages } := by
  have messages := read_messages (limit + 1) form.messages
  have fee := restores_fee form.fee (limit + 3) (by omega)
  have signatures := restores_signatures form.signatures (limit + 3) (by omega)
  rw [sorted_stdForm, StdForm.codec]
  cases read : form.messages.mapM (MessageForm.read? (limit + 1)) <;>
    simp [read_object, messages, fee, signatures, read]

theorem read_txForm (limit : Nat) (form : TxForm) :
    TxForm.codec.read (limit + 5) (TxForm.codec.write form).sorted.tree =
      (form.value.messages.mapM (MessageForm.read? (limit + 1))).map fun messages =>
        ⟨form.kind, { form.value with messages := messages }⟩ := by
  have value := read_stdForm limit form.value
  rw [sorted_txForm, TxForm.codec]
  cases read : form.value.messages.mapM (MessageForm.read? (limit + 1)) <;>
    simp [read_object, value, read]

theorem floatFree_txForm (form : TxForm)
    (free : ∀ message ∈ form.value.messages, message.value.FloatFree) :
    (TxForm.codec.write form).FloatFree := by
  have messages : (MessageForm.codec.list.write form.value.messages).FloatFree := by
    simpa [Codec.list, MessageForm.codec] using free
  have fee : (FeeForm.codec.write form.value.fee).FloatFree := (fits_fee 0 form.value.fee).floatFree
  have signatures : (SignatureForm.codec.list.write form.value.signatures).FloatFree :=
    (fits_signatures 0 form.value.signatures).floatFree
  simp [TxForm.codec, StdForm.codec, messages, fee, signatures]

-- The document takes four of the levels that a reader allows.
theorem decode_bytes (form : TxForm)
    (free : ∀ message ∈ form.value.messages, message.value.FloatFree) :
    TxForm.codec.decode form.bytes =
      (form.value.messages.mapM (MessageForm.read? 123)).map fun messages =>
        ⟨form.kind, { form.value with messages := messages }⟩ := by
  have written := written_tree _ (floatFree_txForm form free).sorted
  rw [Codec.decode, TxForm.bytes, Value.bytes, read_bytes _ written, Option.bind_eq_bind,
    Option.bind_some]
  exact read_txForm 122 form

theorem read?_eq_some (limit : Nat) (form : MessageForm) (ordered : form.value.sorted = form.value)
    (fits : form.value.Fits limit) : form.read? limit = some form := by
  rw [MessageForm.read?, ordered, value?_tree limit form.value fits, ordered]
  rfl

theorem decode_form (form : TxForm)
    (ordered : ∀ message ∈ form.value.messages, message.value.sorted = message.value)
    (fits : ∀ message ∈ form.value.messages, message.value.Fits 123) :
    TxForm.codec.decode form.bytes = some form := by
  have messages : form.value.messages.mapM (MessageForm.read? 123) = some form.value.messages := by
    rw [mapM_eq_some_iff]
    exact List.map_congr_left fun message found =>
      read?_eq_some 123 message (ordered message found) (fits message found)
  rw [decode_bytes form fun message found => (fits message found).floatFree, messages]
  rfl

theorem fits_of_decode (form other : TxForm)
    (ordered : ∀ message ∈ form.value.messages, message.value.sorted = message.value)
    (whole : ∀ message ∈ form.value.messages, ∃ depth, message.value.Fits depth)
    (read : TxForm.codec.decode form.bytes = some other) :
    ∀ message ∈ form.value.messages, message.value.Fits 123 := by
  intro message found
  obtain ⟨depth, fits⟩ := whole message found
  have free : ∀ message ∈ form.value.messages, message.value.FloatFree := fun message found =>
    (whole message found).elim fun _ fits => fits.floatFree
  rw [decode_bytes form free, Option.map_eq_some_iff] at read
  obtain ⟨messages, each, -⟩ := read
  have listed : form.value.messages.map (MessageForm.read? 123) = messages.map some :=
    (mapM_eq_some_iff ..).mp each
  have member : message.read? 123 ∈ messages.map some := listed ▸ List.mem_map_of_mem found
  obtain ⟨result, -, same⟩ := List.mem_map.mp member
  obtain ⟨value, inner, -⟩ := Option.map_eq_some_iff.mp same.symm
  rw [ordered message found] at inner
  exact fits_of_value? depth 123 message.value value fits inner

end Multichain.Cosmos.Amino
