import Multichain.Cosmos.Transaction

/-!
The JSON signing mode: the document that is signed, the one in which a transaction is sent and
queried, and drafts that take only what has a form in both.
-/

set_option autoImplicit false

namespace Multichain.Cosmos.Amino

open Multichain Json

structure MessageForm where
  kind : String
  value : Value

def sendKind : String := "cosmos-sdk/MsgSend"

def MessageForm.ofMessage : Message → Except Fault MessageForm
  | .send transfer => .ok ⟨sendKind, (BankSend.codec.write transfer).sorted⟩
  | .amino kind value => .ok ⟨kind, value.sorted⟩
  | .foreign typeUrl => .error (.foreignMessage typeUrl)

def MessageForm.message (form : MessageForm) : Except Fault Message :=
  if form.kind = sendKind then
    match BankSend.codec.read maxDepth form.value.tree with
    | some transfer => .ok (.send transfer)
    | none => .error .invalidJson
  else .ok (.amino form.kind form.value)

def messageForms (messages : List Message) : Except Fault (List MessageForm) :=
  messages.mapM MessageForm.ofMessage

def MessageForm.codec : Codec MessageForm where
  write form := .object [("type", .text form.kind), ("value", form.value)]
  read depth tree := do
    let fields ← Fields.read ["type", "value"] depth tree
    return ⟨← fields.required "type" Codec.text, ← fields.required "value" Codec.value⟩

def word (value : UInt64) : String :=
  Text.natural value.toNat

structure FeeForm where
  amount : List Coin
  gas : String
  deriving DecidableEq

def FeeForm.codec : Codec FeeForm where
  write fee :=
    .object [("amount", Coin.codec.list.write fee.amount), ("gas", .text fee.gas)]
  read depth tree := do
    let fields ← Fields.read ["amount", "gas"] depth tree
    return ⟨← fields.required "amount" Coin.codec.list, ← fields.required "gas" Codec.text⟩

def FeeForm.ofTx (tx : NativeTx) : FeeForm :=
  match tx.fee? with
  | some (fee, gas) => ⟨fee, word gas⟩
  | none => ⟨[], word 0⟩

def signDocument (signer : SignerData) (messages : List MessageForm) (fee : FeeForm)
    (memo : String) : Value :=
  .object
    [("account_number", .text (word signer.accountNumber)), ("chain_id", .text signer.chainId),
     ("fee", FeeForm.codec.write fee), ("memo", .text memo),
     ("msgs", MessageForm.codec.list.write messages), ("sequence", .text (word signer.sequence))]

def signBytes (signer : SignerData) (tx : NativeTx) : Except Fault Bytes := do
  let messages ← messageForms tx.messages
  return (signDocument signer messages (FeeForm.ofTx tx) tx.memo).sorted.bytes

structure KeyForm where
  kind : String
  value : String
  deriving DecidableEq

structure SignatureForm where
  key : KeyForm
  signature : String
  deriving DecidableEq

structure StdForm where
  messages : List MessageForm
  fee : FeeForm
  signatures : List SignatureForm
  memo : String

structure TxForm where
  kind : String
  value : StdForm

def stdKind : String := "cosmos-sdk/StdTx"

def keyKind : String := "tendermint/PubKeySecp256k1"

def KeyForm.codec : Codec KeyForm where
  write key := .object [("type", .text key.kind), ("value", .text key.value)]
  read depth tree := do
    let fields ← Fields.read ["type", "value"] depth tree
    return ⟨← fields.required "type" Codec.text, ← fields.required "value" Codec.text⟩

def SignatureForm.codec : Codec SignatureForm where
  write form :=
    .object [("pub_key", KeyForm.codec.write form.key), ("signature", .text form.signature)]
  read depth tree := do
    let fields ← Fields.read ["pub_key", "signature"] depth tree
    return ⟨← fields.required "pub_key" KeyForm.codec, ← fields.required "signature" Codec.text⟩

def StdForm.codec : Codec StdForm where
  write form :=
    .object
      [("msg", MessageForm.codec.list.write form.messages), ("fee", FeeForm.codec.write form.fee),
       ("signatures", SignatureForm.codec.list.write form.signatures), ("memo", .text form.memo)]
  read depth tree := do
    let fields ← Fields.read ["msg", "fee", "signatures", "memo"] depth tree
    return {
      messages := ← fields.required "msg" MessageForm.codec.list
      fee := ← fields.required "fee" FeeForm.codec
      signatures := ← fields.withDefault "signatures" [] SignatureForm.codec.list
      memo := ← fields.withDefault "memo" "" Codec.text }

def TxForm.codec : Codec TxForm where
  write form := .object [("type", .text form.kind), ("value", StdForm.codec.write form.value)]
  read depth tree := do
    let fields ← Fields.read ["type", "value"] depth tree
    return ⟨← fields.required "type" Codec.text, ← fields.required "value" StdForm.codec⟩

def SignatureForm.ofSignature (signature : Signature) : Except Fault SignatureForm :=
  match signature.data with
  | .single _ [] => .error .unsigned
  | .single _ bytes => .ok ⟨⟨keyKind, Base64.encode signature.key⟩, Base64.encode bytes⟩
  | .multi _ => .error .multisigEncoding

def TxForm.ofTx (tx : StdTx) : Except Fault TxForm := do
  let signatures ← tx.signatures.mapM SignatureForm.ofSignature
  let messages ← messageForms tx.messages
  return ⟨stdKind, ⟨messages, ⟨tx.fee, word tx.gas⟩, signatures, tx.memo⟩⟩

def encode : Encoder
  | .std tx => do return (TxForm.codec.write (← TxForm.ofTx tx)).sorted.bytes
  | .bare _ _ => .error .foreignTransaction

def readBase64 (text : String) : Except Fault Bytes :=
  match Base64.decode text with
  | .ok bytes => .ok bytes
  | .error fault => .error (.invalidBase64 fault)

-- The type of the key is not kept, nor can the document tell the sequence.
def SignatureForm.toSignature (form : SignatureForm) : Except Fault Signature := do
  let key ← readBase64 form.key.value
  let signature ← readBase64 form.signature
  return ⟨key, .single .aminoJson signature, 0⟩

def readGas (text : String) : Except Fault UInt64 :=
  match Text.readWord text with
  | .ok gas => .ok gas
  | .error fault => .error (.invalidGas text fault)

def TxForm.toTx (form : TxForm) : Except Fault StdTx := do
  if form.kind ≠ stdKind then throw (.transactionType form.kind)
  let messages ← form.value.messages.mapM MessageForm.message
  let signatures ← form.value.signatures.mapM SignatureForm.toSignature
  let gas ← readGas form.value.fee.gas
  return ⟨messages, form.value.fee.amount, gas, form.value.memo, signatures⟩

def decode (bytes : Bytes) : Except Fault StdTx :=
  match TxForm.codec.decode bytes with
  | some form => form.toTx
  | none => .error .invalidJson

def setMessages (messages : List Message) (draft : StdTx) : StdTx × Except Fault Unit :=
  match messageForms messages with
  | .ok _ => ({ draft with messages := messages }, .ok ())
  | .error fault => (draft, .error fault)

def setSignatures (signatures : List Signature) (draft : StdTx) : StdTx × Except Fault Unit :=
  if signatures.any fun signature => signature.data.isMulti then (draft, .error .multisigSlot)
  else ({ draft with signatures := signatures }, .ok ())

def context : SigningContext StdTx where
  start := {}
  setMessages := setMessages
  setFee fee draft := { draft with fee := fee }
  setGas gas draft := { draft with gas := gas }
  setMemo memo draft := { draft with memo := memo }
  setSignatures := setSignatures
  view := .std
  encoder := encode
  mode := .aminoJson
  signBytes := signBytes

def query {δ : Type} (bytes : Bytes) : Except Fault (Transaction δ) := do
  return .decoded (.std (← decode bytes)) (some context.encoder)

end Multichain.Cosmos.Amino
