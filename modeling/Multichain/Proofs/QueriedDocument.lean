import Mathlib
import Multichain.Proofs.DocumentForms

/-!
Querying what has been sent. A document is written again as it was read, unless it labels a key in a
way that is not kept. Main statements: `query_sent` and `sent_written_again_iff`, for what the encoder
writes, and `queried_written_again_iff`, for any document with the members of the format and no
others.
-/

set_option autoImplicit false

namespace Multichain.Cosmos

open Multichain

def Message.queried : Message → Message
  | .amino kind value => .amino kind value.sorted
  | message => message

def Signature.queried (signature : Signature) : Signature :=
  match signature.data with
  | .single _ bytes => ⟨signature.key, .single .aminoJson bytes, 0⟩
  | .multi _ => signature

def StdTx.queried (tx : StdTx) : StdTx :=
  { tx with
    messages := tx.messages.map Message.queried
    signatures := tx.signatures.map Signature.queried }

theorem transfer?_queried (tx : StdTx) :
    (NativeTx.std tx.queried).transfer? = (NativeTx.std tx).transfer? := by
  have same : Message.transfer? ∘ Message.queried = Message.transfer? := by
    funext message
    cases message <;> rfl
  simp only [NativeTx.transfer?, NativeTx.messages, StdTx.queried, List.findSome?_map, same]

namespace Amino

open Json Outcome

theorem ofMessage_queried (message : Message) :
    MessageForm.ofMessage message.queried = MessageForm.ofMessage message := by
  cases message with
  | send | foreign => rfl
  | amino kind value => simp only [Message.queried, MessageForm.ofMessage, Json.sorted_sorted]

theorem ofSignature_queried (signature : Signature) :
    SignatureForm.ofSignature signature.queried = SignatureForm.ofSignature signature := by
  obtain ⟨key, data, sequence⟩ := signature
  cases data with
  | single mode bytes => cases bytes <;> rfl
  | multi parts => rfl

theorem ofTx_queried (tx : StdTx) : TxForm.ofTx tx.queried = TxForm.ofTx tx := by
  have messages : MessageForm.ofMessage ∘ Message.queried = MessageForm.ofMessage :=
    funext ofMessage_queried
  have signatures : SignatureForm.ofSignature ∘ Signature.queried = SignatureForm.ofSignature :=
    funext ofSignature_queried
  simp only [TxForm.ofTx, messageForms, StdTx.queried, List.mapM_map, messages, signatures]

theorem message_send (transfer : BankSend) :
    MessageForm.message ⟨sendKind, (BankSend.codec.write transfer).sorted⟩ = .ok (.send transfer) := by
  have read := restores_send transfer maxDepth (by decide)
  simp only [MessageForm.message, if_true, read]

theorem message_ofMessage (message : Message) (form : MessageForm)
    (other : ∀ value, message ≠ .amino sendKind value)
    (formed : MessageForm.ofMessage message = .ok form) : form.message = .ok message.queried := by
  cases message with
  | send transfer =>
    obtain rfl := Except.ok.inj formed
    exact message_send transfer
  | amino kind value =>
    obtain rfl := Except.ok.inj formed
    have apart : kind ≠ sendKind := fun same => other value (same ▸ rfl)
    simp only [MessageForm.message, apart, if_false, Message.queried]
  | foreign typeUrl => cases formed

theorem toSignature_encode (kind : String) (key bytes : Bytes) :
    SignatureForm.toSignature ⟨⟨kind, Base64.encode key⟩, Base64.encode bytes⟩ =
      .ok ⟨key, .single .aminoJson bytes, 0⟩ := by
  simp [SignatureForm.toSignature, readBase64, bind, Except.bind, pure, Except.pure]

theorem toSignature_ofSignature (signature : Signature) (form : SignatureForm)
    (formed : SignatureForm.ofSignature signature = .ok form) :
    form.toSignature = .ok signature.queried := by
  obtain ⟨key, data, sequence⟩ := signature
  cases data with
  | multi parts => cases formed
  | single mode bytes =>
    cases bytes with
    | nil => cases formed
    | cons byte rest =>
      obtain rfl := Except.ok.inj formed
      exact toSignature_encode keyKind key (byte :: rest)

theorem readGas_natural (number : Nat) (gas : UInt64) :
    readGas (Text.natural number) = .ok gas ↔ word gas = Text.natural number := by
  rw [readGas, Text.readWord_natural]
  constructor
  · intro read
    by_cases small : number < 2 ^ 64
    · rw [if_pos small] at read
      obtain rfl := Except.ok.inj read
      rw [word, UInt64.toNat_ofNat_of_lt' small]
    · rw [if_neg small] at read
      cases read
  · intro same
    have number : gas.toNat = number := Text.natural_injective _ _ same
    subst number
    rw [if_pos gas.toNat_lt]
    simp

theorem toTx_ofTx (tx : StdTx) (form : TxForm) (formed : TxForm.ofTx tx = .ok form) :
    form.toTx = (form.value.messages.mapM MessageForm.message).map fun messages =>
      { tx.queried with messages := messages } := by
  obtain ⟨signatures, messages, signed, -, rfl⟩ := (ofTx_eq_ok_iff ..).mp formed
  have read : signatures.mapM SignatureForm.toSignature = .ok (tx.signatures.map Signature.queried) :=
    mapM_mapM _ _ _ _ _ (fun signature _ form => toSignature_ofSignature signature form) signed
  have gas : readGas (word tx.gas) = .ok tx.gas := (readGas_natural ..).mpr rfl
  simp only [TxForm.toTx, ne_eq, not_true_eq_false, if_false, read, gas]
  cases messages.mapM MessageForm.message <;> rfl

theorem toTx_queried (tx : StdTx) (form : TxForm) (other : ∀ value, .amino sendKind value ∉ tx.messages)
    (formed : TxForm.ofTx tx = .ok form) : form.toTx = .ok tx.queried := by
  have read := toTx_ofTx tx form formed
  obtain ⟨signatures, messages, -, made, rfl⟩ := (ofTx_eq_ok_iff ..).mp formed
  have each : messages.mapM MessageForm.message = .ok (tx.messages.map Message.queried) := by
    refine mapM_mapM _ _ _ _ _ (fun message found form => ?_) made
    exact message_ofMessage message form fun value same => other value (same ▸ found)
  rw [read, each]
  rfl

theorem fits_ofMessage (depth : Nat) (message : Message) (form : MessageForm)
    (fits : ∀ kind value, message = .amino kind value → value.Fits (depth + 3))
    (formed : MessageForm.ofMessage message = .ok form) : form.value.Fits (depth + 3) := by
  cases message with
  | send transfer =>
    obtain rfl := Except.ok.inj formed
    exact (fits_send depth transfer).sorted
  | amino kind value =>
    obtain rfl := Except.ok.inj formed
    exact (fits kind value rfl).sorted
  | foreign typeUrl => cases formed

theorem forms_ofTx (tx : StdTx) (form : TxForm)
    (fits : ∀ kind value, .amino kind value ∈ tx.messages → value.Fits 123)
    (formed : TxForm.ofTx tx = .ok form) :
    ∀ message ∈ form.value.messages,
      message.value.sorted = message.value ∧ message.value.Fits 123 := by
  obtain ⟨signatures, messages, -, made, rfl⟩ := (ofTx_eq_ok_iff ..).mp formed
  intro form found
  obtain ⟨message, present, made⟩ := (mem_mapM_iff _ _ messages made form).mp found
  have own : ∀ kind value, message = .amino kind value → value.Fits 123 := fun kind value same =>
    fits kind value (same ▸ present)
  exact ⟨sorted_ofMessage message form made, fits_ofMessage 120 message form own made⟩

theorem decode_ofTx (tx : StdTx) (form : TxForm)
    (fits : ∀ kind value, .amino kind value ∈ tx.messages → value.Fits 123)
    (formed : TxForm.ofTx tx = .ok form) : TxForm.codec.decode form.bytes = some form := by
  have each := forms_ofTx tx form fits formed
  exact decode_form form (fun message found => (each message found).1)
    fun message found => (each message found).2

theorem decode_encoded (tx : StdTx) (bytes : Bytes)
    (fits : ∀ kind value, .amino kind value ∈ tx.messages → value.Fits 123)
    (encoded : encode (.std tx) = .ok bytes) :
    ∃ form, TxForm.ofTx tx = .ok form ∧ decode bytes = form.toTx := by
  obtain ⟨form, formed, rfl⟩ := (encode_eq_ok_iff ..).mp encoded
  refine ⟨form, formed, ?_⟩
  rw [decode, decode_ofTx tx form fits formed]

variable {δ : Type}

theorem query_eq_ok_iff (bytes : Bytes) (transaction : Transaction δ) :
    query bytes = .ok transaction ↔
      ∃ tx, decode bytes = .ok tx ∧ transaction = .decoded (.std tx) (some encode) := by
  rw [query, bind_eq_ok_iff]
  refine exists_congr fun tx => and_congr_right fun _ => ?_
  rw [pure_eq_ok_iff, eq_comm]
  rfl

theorem exists_query_iff (bytes : Bytes) :
    (∃ found : Transaction δ, query bytes = .ok found) ↔ ∃ tx, decode bytes = .ok tx := by
  constructor
  · rintro ⟨found, read⟩
    obtain ⟨tx, decoded, -⟩ := (query_eq_ok_iff ..).mp read
    exact ⟨tx, decoded⟩
  · rintro ⟨tx, decoded⟩
    exact ⟨_, (query_eq_ok_iff ..).mpr ⟨tx, decoded, rfl⟩⟩

theorem query_encoded (tx : StdTx) (bytes : Bytes)
    (fits : ∀ kind value, .amino kind value ∈ tx.messages → value.Fits 123)
    (other : ∀ value, .amino sendKind value ∉ tx.messages)
    (encoded : encode (.std tx) = .ok bytes) :
    query bytes = .ok (.decoded (.std tx.queried) (some encode) : Transaction δ) := by
  obtain ⟨form, formed, read⟩ := decode_encoded tx bytes fits encoded
  exact (query_eq_ok_iff ..).mpr ⟨_, read.trans (toTx_queried tx form other formed), rfl⟩

theorem encode_queried (tx : StdTx) : encode (.std tx.queried) = encode (.std tx) := by
  simp only [encode, ofTx_queried]

theorem view_queried (sent found : Transaction δ) (tx : StdTx) (own : sent.native? = some (.std tx))
    (queried : found.native? = some (.std tx.queried)) :
    found.transfer? = sent.transfer? ∧ found.view = sent.view := by
  have transfer : found.transfer? = sent.transfer? := by
    simp only [Transaction.transfer?, own, queried, Option.bind_some, transfer?_queried]
  refine ⟨transfer, ?_⟩
  simp only [Transaction.view, transfer, own, queried, Option.map_some]
  rfl

theorem exists_message_iff (message : Message) (form : MessageForm)
    (formed : MessageForm.ofMessage message = .ok form) :
    (∃ read, form.message = .ok read) ↔ ∀ value, message = .amino sendKind value →
      ∃ transfer, BankSend.codec.read maxDepth value.sorted.tree = some transfer := by
  by_cases labelled : ∃ value, message = .amino sendKind value
  · obtain ⟨value, rfl⟩ := labelled
    obtain rfl := Except.ok.inj formed
    cases read : BankSend.codec.read maxDepth value.sorted.tree <;>
      simp [MessageForm.message, read]
  · have other : ∀ value, message ≠ .amino sendKind value := fun value same =>
      labelled ⟨value, same⟩
    simp [message_ofMessage message form other formed, other]

theorem forall_forms_iff (messages : List Message) (forms : List MessageForm)
    (holds : MessageForm → Prop) (told : Value → Prop)
    (each : ∀ message form, MessageForm.ofMessage message = .ok form →
      (holds form ↔ ∀ value, message = .amino sendKind value → told value))
    (made : messages.mapM MessageForm.ofMessage = .ok forms) :
    (∀ form ∈ forms, holds form) ↔ ∀ value, .amino sendKind value ∈ messages → told value := by
  have source := mem_mapM_iff MessageForm.ofMessage messages forms made
  constructor
  · intro all value found
    have form := (source ⟨sendKind, value.sorted⟩).mpr ⟨_, found, rfl⟩
    exact (each (.amino sendKind value) _ rfl).mp (all _ form) value rfl
  · intro all form found
    obtain ⟨message, present, made⟩ := (source form).mp found
    exact (each message form made).mpr fun value own => all value (own ▸ present)

/-- What the encoder writes is queried, and written again, as it was sent. Only a message that is no
transfer but has the label of one is read as what its label says. -/
theorem query_sent (tx : StdTx) (bytes : Bytes)
    (fits : ∀ kind value, .amino kind value ∈ tx.messages → value.Fits 123)
    (encoded : encode (.std tx) = .ok bytes) :
    ((∃ found : Transaction δ, query bytes = .ok found) ↔
      ∀ value, .amino sendKind value ∈ tx.messages →
        ∃ transfer, BankSend.codec.read maxDepth value.sorted.tree = some transfer) ∧
    ((∀ value, .amino sendKind value ∉ tx.messages) →
      ∃ found : Transaction δ, query bytes = .ok found ∧ found.stage = "decoded" ∧
        found.serialize = .ok bytes ∧
        ∀ encoder, let sent : Transaction δ := .decoded (.std tx) encoder
          found.transfer? = sent.transfer? ∧ found.view = sent.view) := by
  constructor
  · obtain ⟨form, formed, read⟩ := decode_encoded tx bytes fits encoded
    rw [exists_query_iff, read, toTx_ofTx tx form formed, exists_map_iff, exists_mapM_iff]
    obtain ⟨signatures, messages, -, made, rfl⟩ := (ofTx_eq_ok_iff ..).mp formed
    exact forall_forms_iff _ _ _ _ exists_message_iff made
  · intro other
    refine ⟨_, query_encoded tx bytes fits other encoded, rfl, ?_, fun encoder => ?_⟩
    · exact (encode_queried tx).trans encoded
    · exact view_queried _ _ tx rfl rfl

def signedVote : StdTx :=
  { vote with signatures := [⟨[2], .single .direct [7], 5⟩] }

theorem signedVote_queried :
    ∃ (bytes : Bytes) (found : Transaction StdTx), encode (.std signedVote) = .ok bytes ∧
      query bytes = .ok found ∧ found.serialize = .ok bytes ∧
      found.transfer? = some ⟨⟨"cosmos1from"⟩, ⟨"cosmos1to"⟩, [⟨"uatom", ⟨1⟩⟩]⟩ := by
  have fits : ∀ kind value, .amino kind value ∈ signedVote.messages → value.Fits 123 := by
    intro kind value found
    obtain ⟨rfl, rfl⟩ : kind = "cosmos-sdk/MsgVote" ∧
        value = .object [("option", .integer 1), ("note", .text "\"")] := by
      simpa [signedVote, vote] using found
    simpa using Value.Fits.integer 122 1 (by decide) (by decide)
  have other : ∀ value, .amino sendKind value ∉ signedVote.messages := by
    simp [signedVote, vote, sendKind]
  obtain ⟨found, queried, -, serialized, same⟩ := (query_sent signedVote _ fits rfl).2 other
  exact ⟨_, found, rfl, queried, serialized, (same none).1⟩

def mislabelled : StdTx where
  messages := [.amino sendKind (.object [])]

theorem mislabelled_refused :
    (∀ kind value, .amino kind value ∈ mislabelled.messages → value.Fits 123) ∧
    ∃ bytes, encode (.std mislabelled) = .ok bytes ∧
      query bytes = (.error .invalidJson : Except Fault (Transaction StdTx)) := by
  have fits : ∀ kind value, .amino kind value ∈ mislabelled.messages → value.Fits 123 := by
    intro kind value found
    obtain ⟨-, rfl⟩ : kind = sendKind ∧ value = .object [] := by simpa [mislabelled] using found
    simp
  refine ⟨fits, _, rfl, ?_⟩
  obtain ⟨form, formed, read⟩ := decode_encoded mislabelled _ fits rfl
  obtain rfl := Except.ok.inj formed
  rw [query, read]
  rfl

theorem message_again_iff (message : Message) (form : MessageForm)
    (formed : MessageForm.ofMessage message = .ok form) :
    (∃ again, form.message = .ok again ∧ MessageForm.ofMessage again = .ok form) ↔
      ∀ value, message = .amino sendKind value →
        ∃ transfer, value.sorted = (BankSend.codec.write transfer).sorted := by
  by_cases labelled : ∃ value, message = .amino sendKind value
  · obtain ⟨value, rfl⟩ := labelled
    obtain rfl := Except.ok.inj formed
    constructor
    · rintro ⟨again, read, same⟩ _ ⟨⟩
      simp only [MessageForm.message, if_true] at read
      cases told : BankSend.codec.read maxDepth value.sorted.tree with
      | none => simp [told] at read
      | some transfer =>
        rw [told] at read
        obtain rfl := Except.ok.inj read
        have written := congrArg MessageForm.value (Except.ok.inj same)
        exact ⟨transfer, written.symm⟩
    · intro each
      obtain ⟨transfer, written⟩ := each value rfl
      rw [written]
      exact ⟨_, message_send transfer, rfl⟩
  · have other : ∀ value, message ≠ .amino sendKind value := fun value same =>
      labelled ⟨value, same⟩
    have read := message_ofMessage message form other formed
    have same := (ofMessage_queried message).trans formed
    exact iff_of_true ⟨_, read, same⟩ fun value own => absurd own (other value)

theorem ofTx_again_iff (tx : StdTx) (form : TxForm) (formed : TxForm.ofTx tx = .ok form) :
    (∃ again, form.toTx = .ok again ∧ TxForm.ofTx again = .ok form) ↔
      ∃ messages, form.value.messages.mapM MessageForm.message = .ok messages ∧
        messages.mapM MessageForm.ofMessage = .ok form.value.messages := by
  rw [toTx_ofTx tx form formed]
  obtain ⟨signatures, forms, signed, -, rfl⟩ :=
    (ofTx_eq_ok_iff ..).mp ((ofTx_queried tx).trans formed)
  have kept (messages : List Message) : TxForm.ofTx { tx.queried with messages := messages } =
      .ok ⟨stdKind, ⟨forms, ⟨tx.queried.fee, word tx.queried.gas⟩, signatures, tx.queried.memo⟩⟩ ↔
        messages.mapM MessageForm.ofMessage = .ok forms := by
    simp only [TxForm.ofTx, bind_eq_ok_iff, pure_eq_ok_iff, signed, messageForms]
    simp
  cases forms.mapM MessageForm.message <;> simp [Except.map, kept]

theorem fits_toTx (form : TxForm) (tx : StdTx)
    (fits : ∀ message ∈ form.value.messages, message.value.Fits 123)
    (read : form.toTx = .ok tx) : ∀ kind value, .amino kind value ∈ tx.messages → value.Fits 123 := by
  simp only [TxForm.toTx, check_eq_ok_iff, bind_eq_ok_iff, pure_eq_ok_iff] at read
  obtain ⟨-, messages, each, -, -, -, -, rfl⟩ := read
  intro kind value present
  obtain ⟨form, found, told⟩ := (mem_mapM_iff _ _ messages each _).mp present
  unfold MessageForm.message at told
  split_ifs at told with labelled
  · cases transfer : BankSend.codec.read maxDepth form.value.tree <;> simp [transfer] at told
  · obtain ⟨rfl, rfl⟩ := Message.amino.inj (Except.ok.inj told)
    exact fits form found

theorem sent_written_again_iff (tx : StdTx) (bytes : Bytes)
    (fits : ∀ kind value, .amino kind value ∈ tx.messages → value.Fits 123)
    (encoded : encode (.std tx) = .ok bytes) :
    (∃ found : Transaction δ, query bytes = .ok found ∧ found.serialize = .ok bytes) ↔
      ∀ value, .amino sendKind value ∈ tx.messages →
        ∃ transfer, value.sorted = (BankSend.codec.write transfer).sorted := by
  obtain ⟨form, formed, rfl⟩ := (encode_eq_ok_iff ..).mp encoded
  have forms := forms_ofTx tx form fits formed
  have read : TxForm.codec.decode form.bytes = some form := decode_ofTx tx form fits formed
  have decoded : decode form.bytes = form.toTx := by rw [decode, read]
  calc
    (∃ found : Transaction δ, query form.bytes = .ok found ∧ found.serialize = .ok form.bytes) ↔
        ∃ again, form.toTx = .ok again ∧ TxForm.ofTx again = .ok form := by
      constructor
      · rintro ⟨found, queried, serialized⟩
        obtain ⟨again, told, rfl⟩ := (query_eq_ok_iff ..).mp queried
        obtain ⟨other, made, same⟩ := (encode_eq_ok_iff again _).mp serialized
        rw [decoded] at told
        have fitsAgain := fits_toTx form again (fun message found => (forms message found).2) told
        have back := decode_ofTx again other fitsAgain made
        rw [same, read] at back
        obtain rfl := Option.some.inj back
        exact ⟨again, told, made⟩
      · rintro ⟨again, told, made⟩
        refine ⟨_, (query_eq_ok_iff ..).mpr ⟨again, decoded.trans told, rfl⟩, ?_⟩
        exact (encode_eq_ok_iff ..).mpr ⟨form, made, rfl⟩
    _ ↔ ∀ part ∈ form.value.messages, ∃ again, part.message = .ok again ∧
        MessageForm.ofMessage again = .ok part := by
      rw [ofTx_again_iff tx form formed, mapM_again_iff]
    _ ↔ ∀ value, .amino sendKind value ∈ tx.messages →
        ∃ transfer, value.sorted = (BankSend.codec.write transfer).sorted := by
      obtain ⟨signatures, messages, -, made, rfl⟩ := (ofTx_eq_ok_iff ..).mp formed
      exact forall_forms_iff _ _ _ _ message_again_iff made

/-- A form such as a document has that is written in one way only: numbers of messages are whole and
fit a word, members stand in order, the values of transfers have no member too many, and numerals and
texts of base 64 are the ones that are written. -/
structure TxForm.Canonical (form : TxForm) : Prop where
  ordered : ∀ message ∈ form.value.messages, message.value.sorted = message.value
  whole : ∀ message ∈ form.value.messages, ∃ depth, message.value.Fits depth
  transfers : ∀ message ∈ form.value.messages, message.kind = sendKind →
    ∃ transfer, message.value = (BankSend.codec.write transfer).sorted
  gas : ∃ number, form.value.fee.gas = Text.natural number
  signatures : ∀ signature ∈ form.value.signatures, ∃ key bytes, bytes ≠ [] ∧
    signature.key.value = Base64.encode key ∧ signature.signature = Base64.encode bytes

def SignatureForm.relabelled (form : SignatureForm) : SignatureForm :=
  { form with key := { form.key with kind := keyKind } }

def TxForm.relabelled (form : TxForm) : TxForm :=
  { form with value :=
    { form.value with signatures := form.value.signatures.map SignatureForm.relabelled } }

theorem ofMessage_message (form : MessageForm) (message : Message)
    (ordered : form.value.sorted = form.value)
    (transfers : form.kind = sendKind →
      ∃ transfer, form.value = (BankSend.codec.write transfer).sorted)
    (read : form.message = .ok message) : MessageForm.ofMessage message = .ok form := by
  obtain ⟨kind, value⟩ := form
  by_cases send : kind = sendKind
  · obtain ⟨transfer, rfl⟩ := transfers send
    subst send
    obtain rfl := Except.ok.inj ((message_send transfer).symm.trans read)
    rfl
  · simp only [MessageForm.message, send, if_false] at read
    obtain rfl := Except.ok.inj read
    simp only [MessageForm.ofMessage, ordered]

theorem ofSignature_toSignature (form : SignatureForm) (signature : Signature)
    (canonical : ∃ key bytes, bytes ≠ [] ∧ form.key.value = Base64.encode key ∧
      form.signature = Base64.encode bytes)
    (read : form.toSignature = .ok signature) :
    SignatureForm.ofSignature signature = .ok form.relabelled := by
  obtain ⟨⟨kind, value⟩, text⟩ := form
  obtain ⟨key, bytes, present, rfl, rfl⟩ := canonical
  obtain rfl := Except.ok.inj ((toSignature_encode kind key bytes).symm.trans read)
  cases bytes with
  | nil => exact absurd rfl present
  | cons byte rest => rfl

theorem ofTx_toTx (form : TxForm) (tx : StdTx) (canonical : form.Canonical)
    (read : form.toTx = .ok tx) : TxForm.ofTx tx = .ok form.relabelled := by
  simp only [TxForm.toTx, check_eq_ok_iff, bind_eq_ok_iff, pure_eq_ok_iff, ne_eq, not_not] at read
  obtain ⟨kind, messages, each, signatures, signed, gas, numeral, rfl⟩ := read
  have forms : messages.mapM MessageForm.ofMessage = .ok (form.value.messages.map id) :=
    mapM_mapM _ _ _ _ _ (fun message found result => ofMessage_message message result
      (canonical.ordered message found) (canonical.transfers message found)) each
  have keys : signatures.mapM SignatureForm.ofSignature =
      .ok (form.value.signatures.map SignatureForm.relabelled) :=
    mapM_mapM _ _ _ _ _ (fun signature found result => ofSignature_toSignature signature result
      (canonical.signatures signature found)) signed
  obtain ⟨number, written⟩ := canonical.gas
  have same : word gas = form.value.fee.gas := by
    rw [written] at numeral ⊢
    exact (readGas_natural ..).mp numeral
  rw [List.map_id] at forms
  refine (ofTx_eq_ok_iff ..).mpr ⟨_, _, keys, forms, ?_⟩
  simp only [TxForm.relabelled, same, ← kind]

theorem relabelled_eq_iff (form : TxForm) :
    form.relabelled = form ↔ ∀ signature ∈ form.value.signatures, signature.key.kind = keyKind := by
  have each (signature : SignatureForm) :
      signature.relabelled = signature ↔ signature.key.kind = keyKind := by
    obtain ⟨⟨kind, value⟩, text⟩ := signature
    simp [SignatureForm.relabelled, eq_comm]
  obtain ⟨kind, messages, fee, signatures, memo⟩ := form
  have all := List.map_inj_left (f := SignatureForm.relabelled) (g := id) (l := signatures)
  simpa [TxForm.relabelled, each] using all

-- Both forms can be read, so that they are the same if their bytes are.
theorem query_form (form : TxForm) (canonical : form.Canonical) (found : Transaction δ)
    (queried : query form.bytes = .ok found) :
    found.serialize = .ok form.relabelled.bytes ∧
      (form.relabelled.bytes = form.bytes ↔
        ∀ signature ∈ form.value.signatures, signature.key.kind = keyKind) := by
  obtain ⟨tx, decoded, rfl⟩ := (query_eq_ok_iff ..).mp queried
  cases read : TxForm.codec.decode form.bytes with
  | none => simp [decode, read] at decoded
  | some other =>
    have fits := fits_of_decode form other canonical.ordered canonical.whole read
    have own := decode_form form canonical.ordered fits
    have relabelled := decode_form form.relabelled canonical.ordered fits
    obtain rfl : form = other := Option.some.inj (own.symm.trans read)
    simp only [decode, read] at decoded
    refine ⟨(encode_eq_ok_iff tx _).mpr ⟨_, ofTx_toTx form tx canonical decoded, rfl⟩, ?_⟩
    rw [← relabelled_eq_iff]
    constructor
    · intro same
      rw [same, own, Option.some.injEq] at relabelled
      exact relabelled.symm
    · exact congrArg TxForm.bytes

theorem queried_written_again_iff (form : TxForm) (canonical : form.Canonical)
    (found : Transaction δ) (queried : query form.bytes = .ok found) :
    (found.serialize = .ok form.bytes ↔
      ∀ signature ∈ form.value.signatures, signature.key.kind = keyKind) ∧
    (found.serialize = .ok form.bytes → ∀ confirmation,
      (found.info confirmation).hash = ⟨Hex.encode (Hash.Sha256.hash form.bytes)⟩) := by
  obtain ⟨serialized, same⟩ := query_form form canonical found queried
  refine ⟨?_, fun again confirmation => ?_⟩
  · rw [serialized, Except.ok.injEq, same]
  · exact Transaction.hash_of_serialize found form.bytes form.bytes_ne_nil again

def signedBy (kind : String) : TxForm :=
  ⟨stdKind, ⟨[], ⟨[], Text.natural 0⟩,
    [⟨⟨kind, Base64.encode (List.replicate 32 2)⟩, Base64.encode (List.replicate 64 1)⟩], ""⟩⟩

theorem canonical_signedBy (kind : String) : (signedBy kind).Canonical where
  ordered := by simp [signedBy]
  whole := by simp [signedBy]
  transfers := by simp [signedBy]
  gas := ⟨0, rfl⟩
  signatures := by
    intro signature found
    obtain rfl := List.mem_singleton.mp found
    exact ⟨List.replicate 32 2, List.replicate 64 1, by decide, rfl, rfl⟩

theorem query_signedBy (kind : String) :
    ∃ found : Transaction StdTx, query (signedBy kind).bytes = .ok found := by
  have read := decode_form (signedBy kind) (by simp [signedBy]) (by simp [signedBy])
  have gas : readGas (Text.natural 0) = .ok 0 := (readGas_natural 0 0).mpr rfl
  rw [exists_query_iff, decode, read]
  simp [TxForm.toTx, signedBy, toSignature_encode, gas, bind, Except.bind, pure, Except.pure]

theorem signedBy_keyKind_written_again :
    ∃ found : Transaction StdTx, query (signedBy keyKind).bytes = .ok found ∧
      found.serialize = .ok (signedBy keyKind).bytes ∧
      (found.info ⟨1, 2, 3⟩).hash = ⟨Hex.encode (Hash.Sha256.hash (signedBy keyKind).bytes)⟩ := by
  obtain ⟨found, queried⟩ := query_signedBy keyKind
  obtain ⟨again, hashed⟩ := queried_written_again_iff (signedBy keyKind)
    (canonical_signedBy keyKind) found queried
  have serialized := again.mpr (by simp [signedBy])
  exact ⟨found, queried, serialized, hashed serialized ⟨1, 2, 3⟩⟩

theorem edwards_key_not_written_again :
    (signedBy "tendermint/PubKeyEd25519").Canonical ∧
    ∃ found : Transaction StdTx, query (signedBy "tendermint/PubKeyEd25519").bytes = .ok found ∧
      found.serialize = .ok (signedBy keyKind).bytes ∧
      found.serialize ≠ .ok (signedBy "tendermint/PubKeyEd25519").bytes := by
  have canonical := canonical_signedBy "tendermint/PubKeyEd25519"
  obtain ⟨found, queried⟩ := query_signedBy "tendermint/PubKeyEd25519"
  obtain ⟨serialized, same⟩ := query_form _ canonical found queried
  refine ⟨canonical, found, queried, serialized, fun again => ?_⟩
  rw [serialized, Except.ok.injEq, same] at again
  simp [signedBy, keyKind] at again

end Amino

end Multichain.Cosmos
