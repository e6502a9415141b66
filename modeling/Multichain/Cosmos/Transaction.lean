import Multichain.Cosmos.Native
import Multichain.Encoding.Digits
import Multichain.Hash.Sha256
import Multichain.Transfer.Info

/-!
The life of a transaction. One that is built here goes from built to signed and never back; one that
was queried can only be looked at.
-/

set_option autoImplicit false

namespace Multichain.Cosmos

open Multichain

structure SignerSlot where
  key : Bytes
  mode : SignMode
  signature : Bytes
  sequence : UInt64
  deriving DecidableEq

def SignerSlot.toSignature (slot : SignerSlot) : Signature :=
  ⟨slot.key, .single slot.mode slot.signature, slot.sequence⟩

structure Staged (δ : Type) where
  context : SigningContext δ
  draft : δ
  signer : SignerSlot
  sighash : Bytes

inductive Transaction (δ : Type) where
  | unbuilt
  | decoded (tx : NativeTx) (encoder : Option Encoder)
  | built (staged : Staged δ)
  | signed (staged : Staged δ)

namespace Transaction

variable {δ : Type}

def stage : Transaction δ → String
  | .unbuilt => "unbuilt"
  | .decoded _ _ => "decoded"
  | .built _ => "built"
  | .signed _ => "signed"

def isSigned : Transaction δ → Bool
  | .signed _ => true
  | _ => false

def staged? : Transaction δ → Option (Staged δ)
  | .built staged | .signed staged => some staged
  | _ => none

def native? : Transaction δ → Option NativeTx
  | .unbuilt => none
  | .decoded tx _ => some tx
  | .built staged | .signed staged => some (staged.context.view staged.draft)

def encoder? : Transaction δ → Option Encoder
  | .unbuilt => none
  | .decoded _ encoder => encoder
  | .built staged | .signed staged => some staged.context.encoder

def sighash (transaction : Transaction δ) : Except Fault Bytes :=
  match transaction.staged? with
  | some staged => .ok staged.sighash
  | none => .error .noSighash

def serialize (transaction : Transaction δ) : Except Fault Bytes :=
  match transaction.encoder?, transaction.native? with
  | some encoder, some tx => encoder tx
  | _, _ => .error .noEncoder

/-- The hash of the serialised bytes; empty as long as there are none. -/
def hash (transaction : Transaction δ) : TxHash :=
  match transaction.serialize with
  | .ok (byte :: bytes) => ⟨Hex.encode (Hash.Sha256.hash (byte :: bytes))⟩
  | _ => ⟨""⟩

-- If the draft refuses the signature, the signer's slot stays as it was.
def Staged.sign (staged : Staged δ) (signature : Bytes) : Staged δ × Except Fault Unit :=
  let signer := { staged.signer with signature := signature }
  match staged.context.setSignatures [signer.toSignature] staged.draft with
  | (draft, .ok ()) => ({ staged with draft := draft, signer := signer }, .ok ())
  | (draft, .error fault) => ({ staged with draft := draft }, .error fault)

def addSignature (transaction : Transaction δ) (signature : Bytes) :
    Transaction δ × Except Fault Unit :=
  match transaction with
  | .unbuilt => (.unbuilt, .error .noSigningContext)
  | .decoded tx encoder => (.decoded tx encoder, .error .noSigningContext)
  | .built staged =>
    if signature = [] then (.built staged, .error .emptySignature)
    else
      match Staged.sign staged signature with
      | (staged, .ok ()) => (.signed staged, .ok ())
      | (staged, .error fault) => (.built staged, .error fault)
  | .signed staged =>
    if signature = [] then (.signed staged, .error .emptySignature)
    else
      let (staged, result) := Staged.sign staged signature
      (.signed staged, result)

def transfer? (transaction : Transaction δ) : Option BankSend :=
  transaction.native?.bind NativeTx.transfer?

def view (transaction : Transaction δ) : TransferView :=
  let fee := (transaction.native?.map NativeTx.feeAmount).getD .zero
  match transaction.transfer? with
  | none => ⟨.empty, .empty, .empty, .zero, fee⟩
  | some transfer =>
    ⟨transfer.sender, transfer.recipient, .empty,
      (transfer.amount.head?.map Coin.amount).getD .zero, fee⟩

def info (transaction : Transaction δ) (confirmation : Confirmation) : TransferInfo :=
  .ofView transaction.hash transaction.view confirmation

def dump (transaction : Transaction δ) : String :=
  let count :=
    match transaction.native? with
    | some tx => "Some(" ++ Text.natural tx.messages.length ++ ")"
    | none => "None"
  "CosmosTx \x7b stage: " ++ Text.quoted transaction.stage ++ ", msgs: " ++ count ++ " \x7d"

end Transaction

end Multichain.Cosmos
