import Mathlib
import Multichain.Cosmos.Native
import Multichain.Proofs.StoredForms
import Multichain.Transfer.Info

/-!
Values that are stored and read again, any number of times. Main statement:
`stored_values_persist`.
-/

set_option autoImplicit false

namespace Multichain

namespace Json

variable {α : Type}

def Codec.rewritten (codec : Codec α) : Nat → Bytes → Option Bytes
  | 0, bytes => some bytes
  | rounds + 1, bytes => (codec.decode bytes).bind fun value => codec.rewritten rounds (codec.encode value)

/-- Of a value that is written, `kept` is read. A value that was read is read again, however it was
spelled, and its text stays the same from the first round on. -/
structure Codec.Persists (codec : Codec α) (kept : α → α) : Prop where
  returned : ∀ value, codec.decode (codec.encode value) = some (kept value)
  again : ∀ bytes value, codec.decode bytes = some value →
    codec.decode (codec.encode value) = some value
  settled : ∀ bytes value, codec.decode bytes = some value → ∀ rounds,
    codec.rewritten (rounds + 1) bytes = some (codec.encode value)

theorem rewritten_encode (codec : Codec α) (value : α)
    (same : codec.decode (codec.encode value) = some value) (rounds : Nat) :
    codec.rewritten rounds (codec.encode value) = some (codec.encode value) := by
  induction rounds with
  | zero => rfl
  | succ rounds ih => rw [Codec.rewritten, same, Option.bind_some, ih]

theorem persists_of_kept (codec : Codec α) (kept : α → α)
    (returned : ∀ value, codec.decode (codec.encode value) = some (kept value))
    (whole : ∀ bytes value, codec.decode bytes = some value → kept value = value) :
    codec.Persists kept := by
  have again (bytes : Bytes) (value : α) (read : codec.decode bytes = some value) :
      codec.decode (codec.encode value) = some value := by
    rw [returned, whole bytes value read]
  refine ⟨returned, again, fun bytes value read rounds => ?_⟩
  rw [Codec.rewritten, read, Option.bind_some,
    rewritten_encode codec value (again bytes value read)]

theorem persists_of_stores (codec : Codec α) (depth : Nat) (stores : ∀ value, codec.Stores depth value)
    (room : depth ≤ maxDepth) : codec.Persists id :=
  persists_of_kept codec id (fun value => (stores value).decode_encode room) fun _ _ _ => rfl

theorem stores_words (all : List α) (word : α → String) (value : α)
    (first : all.find? (word · == word value) = some value) : (Codec.words all word).Stores 0 value := by
  constructor
  · exact floatFree_text (word value)
  · intro limit _
    simp [Codec.words, Value.tree, string?_pieces, first]

end Json

open Json

theorem TxHash.stores_codec (hash : TxHash) : TxHash.codec.Stores 0 hash :=
  stores_via _ _ _ 0 hash (stores_text hash.text) rfl

theorem Address.stores_codec (address : Address) : Address.codec.Stores 0 address :=
  stores_via _ _ _ 0 address (stores_text address.text) rfl

theorem ContractAddress.stores_codec (contract : ContractAddress) :
    ContractAddress.codec.Stores 0 contract :=
  stores_via _ _ _ 0 contract (stores_text contract.text) rfl

theorem LedgerAmount.stores_codec (amount : LedgerAmount) : LedgerAmount.codec.Stores 0 amount := by
  apply stores_via
  · exact stores_text amount.text
  · rw [ofText_text, Except.toOption]

theorem AddressKind.stores_codec (kind : AddressKind) : AddressKind.codec.Stores 0 kind :=
  stores_words _ _ kind (by cases kind <;> rfl)

theorem PossibleAddress.stores_codec (possible : PossibleAddress) :
    PossibleAddress.codec.Stores 1 possible := by
  have address := possible.address.stores_codec
  have kind := possible.kind.stores_codec
  refine stores_record _ _ _ 0 possible _ (fun _ _ => rfl) rfl (by simp) ?_ ?_
  · simp [address.floatFree, kind.floatFree]
  · intro limit enough
    simp [address.returns limit enough, kind.returns limit enough]

theorem Confirmation.stores_codec (confirmation : Confirmation) :
    Confirmation.codec.Stores 1 confirmation := by
  refine stores_record _ _ ofFields 0 confirmation _ (fun _ _ => rfl) rfl (by simp [members]) ?_ ?_
  · simp [members, (stores_int64 _).floatFree]
  · intro limit enough
    simp [members, ofFields, (stores_int64 _).returns limit enough]

theorem TransferInfo.stores_codec (info : TransferInfo) : TransferInfo.codec.Stores 1 info := by
  refine stores_record _ _ _ 0 info _ (fun _ _ => rfl) rfl (by simp [Confirmation.members]) ?_ ?_
  · simp [Confirmation.members, (stores_int64 _).floatFree, info.hash.stores_codec.floatFree,
      (Address.stores_codec _).floatFree, info.contract.stores_codec.floatFree,
      (LedgerAmount.stores_codec _).floatFree]
  · intro limit enough
    simp [Confirmation.members, Confirmation.ofFields, (stores_int64 _).returns limit enough,
      (TxHash.stores_codec _).returns limit enough,
      (Address.stores_codec _).returns limit enough,
      (ContractAddress.stores_codec _).returns limit enough,
      (LedgerAmount.stores_codec _).returns limit enough]

namespace Cosmos

theorem Coin.stores_codec (coin : Coin) : Coin.codec.Stores 1 coin := by
  have amount := coin.amount.stores_codec
  refine stores_record _ _ _ 0 coin _ (fun _ _ => rfl) rfl (by simp) ?_ ?_
  · simp [amount.floatFree]
  · intro limit enough
    simp [amount.returns limit enough]

theorem BankSend.stores_codec (transfer : BankSend) : BankSend.codec.Stores 3 transfer := by
  have sender := transfer.sender.stores_codec
  have recipient := transfer.recipient.stores_codec
  have coins := stores_list Coin.codec 1 transfer.amount fun coin _ => coin.stores_codec
  refine stores_record _ _ _ 2 transfer _ (fun _ _ => rfl) rfl (by simp) ?_ ?_
  · simp [sender.floatFree, recipient.floatFree, coins.floatFree]
  · intro limit enough
    simp [sender.returns limit, recipient.returns limit, coins.returns limit enough]

end Cosmos

theorem AssetConfig.persists_codec : AssetConfig.codec.Persists AssetConfig.stripped := by
  refine persists_of_kept _ _ decode_encode_config fun bytes config read => ?_
  rw [codec, decode_via, Option.bind_eq_some_iff] at read
  obtain ⟨settings, -, made⟩ := read
  rw [← Option.some.inj made]
  rfl

theorem stored_values_persist :
    LedgerAmount.codec.Persists id ∧ TxHash.codec.Persists id ∧ Confirmation.codec.Persists id ∧
    TransferInfo.codec.Persists id ∧ Cosmos.Coin.codec.Persists id ∧
    Cosmos.BankSend.codec.Persists id ∧ PossibleAddress.codec.Persists id ∧
    AssetConfig.codec.Persists AssetConfig.stripped := by
  refine ⟨?amount, ?hash, ?confirmation, ?info, ?coin, ?transfer, ?possible,
    AssetConfig.persists_codec⟩
  case amount => exact persists_of_stores _ 0 LedgerAmount.stores_codec (by decide)
  case hash => exact persists_of_stores _ 0 TxHash.stores_codec (by decide)
  case confirmation => exact persists_of_stores _ 1 Confirmation.stores_codec (by decide)
  case info => exact persists_of_stores _ 1 TransferInfo.stores_codec (by decide)
  case coin => exact persists_of_stores _ 1 Cosmos.Coin.stores_codec (by decide)
  case transfer => exact persists_of_stores _ 3 Cosmos.BankSend.stores_codec (by decide)
  case possible => exact persists_of_stores _ 1 PossibleAddress.stores_codec (by decide)

-- The members of a coin in a row, and its amount loosely spelled.
example : Cosmos.Coin.codec.rewritten 2 (Bytes.ofText "[\"uatom\", \" +1_0\"]") =
    some (Bytes.ofText "\x7b\"denom\":\"uatom\",\"amount\":\"10\"\x7d") := by
  decide +kernel

end Multichain
