import Mathlib
import Multichain.Proofs.JsonReading
import Multichain.Proofs.QueriedDocument

/-!
Any bytes at all, queried. What is found is a transaction that a document keeps all of, so that one
that can be written again is found again as it was. Main statement: `query_normalises`.
-/

set_option autoImplicit false

namespace Multichain.Cosmos

open Multichain

def Signature.Filled (signature : Signature) : Prop :=
  ∃ mode bytes, signature.data = .single mode bytes ∧ bytes ≠ []

namespace Amino

open Json Outcome

def DecodedMessage : Message → Prop
  | .send _ => True
  | .amino kind value => kind ≠ sendKind ∧ value.Settled 123
  | .foreign _ => False

def DecodedSignature (signature : Signature) : Prop :=
  ∃ key bytes, signature = ⟨key, .single .aminoJson bytes, 0⟩

/-- A transaction such as a document tells one: no message is foreign, none only has the label of a
transfer, and of a signature nothing is known but the key and the bytes. -/
structure Decoded (tx : StdTx) : Prop where
  messages : ∀ message ∈ tx.messages, DecodedMessage message
  signatures : ∀ signature ∈ tx.signatures, DecodedSignature signature

theorem yields_message (limit : Nat) :
    MessageForm.codec.Yields (limit + 1) fun form => form.value.Settled limit := by
  intro tree form read
  simp only [MessageForm.codec, Option.bind_eq_bind, Option.bind_eq_some_iff, Option.pure_def,
    Option.some_inj] at read
  obtain ⟨fields, opened, kind, -, value, found, rfl⟩ := read
  obtain rfl := depth_of_read _ limit tree fields opened
  exact good_of_required _ _ fields "value" value (yields_value fields.depth) found

theorem yields_stdForm (limit : Nat) :
    StdForm.codec.Yields (limit + 3) fun form =>
      ∀ message ∈ form.messages, message.value.Settled limit := by
  intro tree form read
  simp only [StdForm.codec, Option.bind_eq_bind, Option.bind_eq_some_iff, Option.pure_def,
    Option.some_inj] at read
  obtain ⟨fields, opened, messages, found, fee, -, signatures, -, memo, -, rfl⟩ := read
  have depth := depth_of_read _ (limit + 2) tree fields opened
  have each := yields_list MessageForm.codec (limit + 1) _ (yields_message limit)
  rw [← depth] at each
  exact good_of_required _ _ fields "msg" messages each found

theorem yields_txForm (limit : Nat) :
    TxForm.codec.Yields (limit + 4) fun form =>
      ∀ message ∈ form.value.messages, message.value.Settled limit := by
  intro tree form read
  simp only [TxForm.codec, Option.bind_eq_bind, Option.bind_eq_some_iff, Option.pure_def,
    Option.some_inj] at read
  obtain ⟨fields, opened, kind, -, value, found, rfl⟩ := read
  have depth := depth_of_read _ (limit + 3) tree fields opened
  have inner := yields_stdForm limit
  rw [← depth] at inner
  exact good_of_required _ _ fields "value" value inner found

theorem decodedMessage_of_message (form : MessageForm) (message : Message)
    (settled : form.value.Settled 123) (read : form.message = .ok message) :
    DecodedMessage message := by
  unfold MessageForm.message at read
  split_ifs at read with send
  · cases transfer : BankSend.codec.read maxDepth form.value.tree with
    | none => simp [transfer] at read
    | some found =>
      simp only [transfer, Except.ok.injEq] at read
      obtain rfl := read
      trivial
  · obtain rfl := Except.ok.inj read
    exact ⟨send, settled⟩

theorem decodedSignature_of_toSignature (form : SignatureForm) (signature : Signature)
    (read : form.toSignature = .ok signature) : DecodedSignature signature := by
  simp only [SignatureForm.toSignature, bind_eq_ok_iff, pure_eq_ok_iff] at read
  obtain ⟨key, -, bytes, -, rfl⟩ := read
  exact ⟨key, bytes, rfl⟩

theorem decoded_of_decode (bytes : Bytes) (tx : StdTx) (read : decode bytes = .ok tx) :
    Decoded tx := by
  unfold decode at read
  cases found : TxForm.codec.decode bytes with
  | none => simp [found] at read
  | some form =>
    simp only [found, TxForm.toTx, check_eq_ok_iff, bind_eq_ok_iff, pure_eq_ok_iff] at read
    obtain ⟨-, messages, each, signatures, signed, gas, -, rfl⟩ := read
    obtain ⟨tree, -, inner⟩ := Option.bind_eq_some_iff.mp found
    have settled := yields_txForm 123 tree form inner
    constructor
    · intro message present
      obtain ⟨source, origin, made⟩ := (mem_mapM_iff _ _ _ each message).mp present
      exact decodedMessage_of_message source message (settled source origin) made
    · intro signature present
      obtain ⟨source, -, made⟩ := (mem_mapM_iff _ _ _ signed signature).mp present
      exact decodedSignature_of_toSignature source signature made

theorem queried_of_decoded (tx : StdTx) (decoded : Decoded tx) : tx.queried = tx := by
  have messages : tx.messages.map Message.queried = tx.messages := by
    refine (List.map_congr_left fun message present => ?_).trans (List.map_id _)
    have own := decoded.messages message present
    cases message with
    | send | foreign => rfl
    | amino kind value => simp only [Message.queried, own.2.sorted, id]
  have signatures : tx.signatures.map Signature.queried = tx.signatures := by
    refine (List.map_congr_left fun signature present => ?_).trans (List.map_id _)
    obtain ⟨key, bytes, rfl⟩ := decoded.signatures signature present
    rfl
  rw [StdTx.queried, messages, signatures]

theorem decode_encode (tx : StdTx) (again : Bytes) (decoded : Decoded tx)
    (free : ∀ kind value, .amino kind value ∈ tx.messages → value.FloatFree)
    (encoded : encode (.std tx) = .ok again) : decode again = .ok tx := by
  have fits : ∀ kind value, .amino kind value ∈ tx.messages → value.Fits 123 :=
    fun kind value present => (decoded.messages _ present).2.fits (free kind value present)
  have other : ∀ value, .amino sendKind value ∉ tx.messages :=
    fun value present => (decoded.messages _ present).1 rfl
  obtain ⟨form, formed, read⟩ := decode_encoded tx again fits encoded
  rw [read, toTx_queried tx form other formed, queried_of_decoded tx decoded]

theorem exists_ofSignature_iff (signature : Signature) :
    (∃ form, SignatureForm.ofSignature signature = .ok form) ↔ signature.Filled := by
  obtain ⟨key, data, sequence⟩ := signature
  cases data with
  | single mode bytes => cases bytes <;> simp [SignatureForm.ofSignature, Signature.Filled]
  | multi parts => simp [SignatureForm.ofSignature, Signature.Filled]

theorem exists_encode_iff (tx : StdTx) (forms : List MessageForm)
    (made : messageForms tx.messages = .ok forms) :
    (∃ bytes, encode (.std tx) = .ok bytes) ↔ ∀ signature ∈ tx.signatures, signature.Filled := by
  have signed : (∃ forms, tx.signatures.mapM SignatureForm.ofSignature = .ok forms) ↔
      ∀ signature ∈ tx.signatures, signature.Filled := by
    rw [exists_mapM_iff]
    exact forall₂_congr fun signature _ => exists_ofSignature_iff signature
  rw [← signed]
  constructor
  · rintro ⟨bytes, encoded⟩
    obtain ⟨form, form?, -⟩ := (encode_eq_ok_iff ..).mp encoded
    obtain ⟨signatures, -, own, -⟩ := (ofTx_eq_ok_iff ..).mp form?
    exact ⟨signatures, own⟩
  · rintro ⟨signatures, own⟩
    have form := (ofTx_eq_ok_iff tx _).mpr ⟨signatures, forms, own, made, rfl⟩
    exact ⟨_, (encode_eq_ok_iff ..).mpr ⟨_, form, rfl⟩⟩

theorem Decoded.exists_forms {tx : StdTx} (decoded : Decoded tx) :
    ∃ forms, messageForms tx.messages = .ok forms :=
  (exists_forms_iff tx.messages).mpr fun _ present => decoded.messages _ present

def IsEncoding (fault : Fault) : Prop :=
  fault.kind = .encoding

theorem failsOnly_message (form : MessageForm) : FailsOnly IsEncoding form.message := by
  unfold MessageForm.message
  split_ifs
  · cases BankSend.codec.read maxDepth form.value.tree with
    | none => exact failsOnly_error _ _ rfl
    | some transfer => exact failsOnly_ok _ _
  · exact failsOnly_ok _ _

theorem failsOnly_readBase64 (text : String) : FailsOnly IsEncoding (readBase64 text) := by
  unfold readBase64
  cases Base64.decode text with
  | ok bytes => exact failsOnly_ok _ _
  | error fault => exact failsOnly_error _ _ rfl

theorem failsOnly_toSignature (form : SignatureForm) : FailsOnly IsEncoding form.toSignature :=
  failsOnly_bind _ _ _ (failsOnly_readBase64 _) fun _ =>
    failsOnly_bind _ _ _ (failsOnly_readBase64 _) fun _ => failsOnly_ok _ _

theorem failsOnly_readGas (text : String) : FailsOnly IsEncoding (readGas text) := by
  unfold readGas
  cases Text.readWord text with
  | ok gas => exact failsOnly_ok _ _
  | error fault => exact failsOnly_error _ _ rfl

theorem failsOnly_toTx (form : TxForm) : FailsOnly IsEncoding form.toTx := by
  unfold TxForm.toTx
  split_ifs with other
  · exact failsOnly_error _ _ rfl
  · refine failsOnly_bind _ _ _ (failsOnly_mapM _ _ _ fun form _ => failsOnly_message form) ?_
    intro messages
    refine failsOnly_bind _ _ _ (failsOnly_mapM _ _ _ fun form _ => failsOnly_toSignature form) ?_
    intro signatures
    exact failsOnly_bind _ _ _ (failsOnly_readGas _) fun gas => failsOnly_ok _ _

theorem failsOnly_decode (bytes : Bytes) : FailsOnly IsEncoding (decode bytes) := by
  unfold decode
  cases TxForm.codec.decode bytes with
  | none => exact failsOnly_error _ _ rfl
  | some form => exact failsOnly_toTx form

variable {δ : Type}

theorem query_normalises (bytes : Bytes) :
    (∃ fault, (query bytes : Except Fault (Transaction δ)) = .error fault ∧
      fault.kind = .encoding) ∨
    ∃ (found : Transaction δ) (tx : StdTx), query bytes = .ok found ∧ found.stage = "decoded" ∧
      found.native? = some (.std tx) ∧
      ((∃ again, found.serialize = .ok again) ↔
        ∀ signature ∈ tx.signatures, signature.Filled) ∧
      ((∀ kind value, .amino kind value ∈ tx.messages → value.FloatFree) →
        ∀ again, found.serialize = .ok again → query again = .ok found) := by
  cases read : decode bytes with
  | error fault =>
    refine .inl ⟨fault, ?_, failsOnly_decode bytes fault read⟩
    rw [query, read]
    rfl
  | ok tx =>
    have decoded := decoded_of_decode bytes tx read
    obtain ⟨forms, made⟩ := decoded.exists_forms
    refine .inr ⟨_, tx, (query_eq_ok_iff ..).mpr ⟨tx, read, rfl⟩, rfl, rfl,
      exists_encode_iff tx forms made, fun free again written => ?_⟩
    exact (query_eq_ok_iff ..).mpr ⟨tx, decode_encode tx again decoded free written, rfl⟩

def looseVote : Bytes :=
  Bytes.ofText "[\"cosmos-sdk/StdTx\", [[[\"vote\", \x7b\"b\":1,\"a\":2,\"b\":3\x7d]], [[], \"+5\"]]]"

def keptVote : StdTx where
  messages := [.amino "vote" (.object [("a", .integer 2), ("b", .integer 3)])]
  gas := 5

def settledVote : Bytes :=
  Bytes.ofText ("\x7b\"type\":\"cosmos-sdk/StdTx\",\"value\":\x7b\"fee\":\x7b\"amount\":[],\"gas\":\"5\"\x7d," ++
    "\"memo\":\"\",\"msg\":[\x7b\"type\":\"vote\",\"value\":\x7b\"a\":2,\"b\":3\x7d\x7d],\"signatures\":[]\x7d\x7d")

theorem query_looseVote :
    query looseVote = .ok (.decoded (.std keptVote) (some encode) : Transaction StdTx) := by
  rfl

theorem encode_keptVote : encode (.std keptVote) = .ok settledVote := by
  decide +kernel

theorem looseVote_normalised :
    ∃ found : Transaction StdTx, query looseVote = .ok found ∧ found.serialize = .ok settledVote ∧
      query settledVote = .ok found := by
  rcases query_normalises (δ := StdTx) looseVote with ⟨fault, refused, -⟩ | told
  · rw [query_looseVote] at refused
    cases refused
  · obtain ⟨found, tx, queried, -, own, -, same⟩ := told
    obtain rfl := Except.ok.inj (query_looseVote.symm.trans queried)
    obtain rfl : keptVote = tx := NativeTx.std.inj (Option.some.inj own)
    have free : ∀ kind value, .amino kind value ∈ keptVote.messages → value.FloatFree := by
      intro kind value found
      obtain ⟨-, rfl⟩ : kind = "vote" ∧ value = .object [("a", .integer 2), ("b", .integer 3)] := by
        simpa [keptVote] using found
      simpa using And.intro (Value.FloatFree.integer 2) (Value.FloatFree.integer 3)
    exact ⟨_, queried, encode_keptVote, same free settledVote encode_keptVote⟩

end Amino

end Multichain.Cosmos
