import Mathlib
import Multichain.Proofs.QueriedDocument

/-!
Signed transfers. A signature takes the place of the one before it, so that of a run of calls only
the last signature counts; and what is then sent is queried as what it was. Main statements:
`last_signature_wins`, `signed_transfer_queried`.
-/

set_option autoImplicit false

namespace Multichain.Cosmos

open Multichain

variable {δ : Type}

def SigningContext.Replaces (context : SigningContext δ) : Prop :=
  ∀ (slot : SignerSlot) (draft : δ),
    (context.setSignatures [slot.toSignature] draft).2 = .ok () ∧
      ∀ earlier : SignerSlot,
        context.setSignatures [slot.toSignature]
            (context.setSignatures [earlier.toSignature] draft).1 =
          context.setSignatures [slot.toSignature] draft

theorem Amino.context_replaces : Amino.context.Replaces :=
  fun _ _ => ⟨rfl, fun _ => rfl⟩

namespace Transaction

def Call.signature? : Call → Option Bytes
  | .addSignature (byte :: rest) => some (byte :: rest)
  | _ => none

def lastSignature (calls : List Call) : Option Bytes :=
  (calls.filterMap Call.signature?).getLast?

theorem signature?_ne_nil (call : Call) (signature : Bytes)
    (own : call.signature? = some signature) : signature ≠ [] := by
  cases call with
  | hash | sighash | serialize | view => cases own
  | addSignature offered =>
    cases offered with
    | nil => cases own
    | cons byte rest =>
      obtain rfl := Option.some.inj own
      exact List.cons_ne_nil byte rest

theorem lastSignature_ne_nil (calls : List Call) (signature : Bytes)
    (last : lastSignature calls = some signature) : signature ≠ [] := by
  obtain ⟨call, -, own⟩ := List.mem_filterMap.mp (List.mem_of_getLast? last)
  exact signature?_ne_nil call signature own

theorem lastSignature_cons (call : Call) (rest : List Call) :
    lastSignature (call :: rest) = (lastSignature rest).or call.signature? := by
  cases own : call.signature? with
  | none => simp [lastSignature, own]
  | some signature =>
    rw [lastSignature, List.filterMap_cons, own, List.getLast?_cons, ← lastSignature]
    cases lastSignature rest <;> rfl

theorem takes_of_replaces (staged : Staged δ) (signature : Bytes)
    (replaces : staged.context.Replaces) : Takes staged signature :=
  (replaces (filled staged signature) staged.draft).1

theorem signedWith_signedWith (staged : Staged δ) (earlier signature : Bytes)
    (replaces : staged.context.Replaces) :
    signedWith (signedWith staged earlier) signature = signedWith staged signature := by
  have same : offered (signedWith staged earlier) signature = offered staged signature :=
    (replaces (filled staged signature) staged.draft).2 (filled staged earlier)
  rw [signedWith, same]
  rfl

theorem step_replaces (transaction : Transaction δ) (staged : Staged δ) (call : Call)
    (found : transaction.staged? = some staged) (replaces : staged.context.Replaces) :
    (transaction.step call).1 =
      match call.signature? with
      | none => transaction
      | some signature => .signed (signedWith staged signature) := by
  cases call with
  | hash | sighash | serialize | view => rfl
  | addSignature signature =>
    cases signature with
    | nil => cases transaction <;> rfl
    | cons byte rest =>
      have takes := takes_of_replaces staged (byte :: rest) replaces
      rw [step, addSignature_accepted transaction staged _ found (List.cons_ne_nil _ _) takes]
      rfl

-- Induction on the calls. What the first call signs is replaced by the last signature of the
-- others, if they have one.
theorem run_replaces (transaction : Transaction δ) (staged : Staged δ) (calls : List Call)
    (found : transaction.staged? = some staged) (replaces : staged.context.Replaces) :
    (transaction.run calls).1 =
      match lastSignature calls with
      | none => transaction
      | some signature => .signed (signedWith staged signature) := by
  induction calls generalizing transaction staged with
  | nil => rfl
  | cons call rest ih =>
    have first := step_replaces transaction staged call found replaces
    rw [lastSignature_cons]
    cases own : call.signature? with
    | none =>
      rw [own] at first
      simp only [run, first, Option.or_none]
      exact ih transaction staged found replaces
    | some earlier =>
      rw [own] at first
      have others := ih (.signed (signedWith staged earlier)) (signedWith staged earlier) rfl replaces
      simp only [run, first, others]
      cases lastSignature rest with
      | none => rfl
      | some signature => simp only [Option.some_or, signedWith_signedWith staged earlier _ replaces]

theorem hash_digits (transaction : Transaction δ) (bytes : Bytes) (present : bytes ≠ [])
    (serialized : transaction.serialize = .ok bytes) :
    transaction.hash.text.length = 64 ∧ ∀ digit ∈ transaction.hash.text.toList, digit ∈ Hex.digits := by
  rw [hash_of_serialize transaction bytes present serialized]
  constructor
  · rw [Hex.length_encode, Hash.Sha256.length_hash]
  · exact Hex.mem_digits_of_mem_encode _

theorem hash_not_empty (transaction : Transaction δ) (bytes : Bytes) (present : bytes ≠ [])
    (serialized : transaction.serialize = .ok bytes) : transaction.hash.isEmpty = false := by
  obtain ⟨length, -⟩ := hash_digits transaction bytes present serialized
  rw [TxHash.isEmpty, beq_eq_false_iff_ne]
  intro empty
  simp [empty] at length

end Transaction

namespace Amino

open Json

def SignedOnceBy (bytes key signature : Bytes) : Prop :=
  ∃ document entry keyText text, Value.read bytes = some document ∧
    document.at? ["value", "signatures"] = some (.array [entry]) ∧
    entry.at? ["pub_key", "value"] = some (.text keyText) ∧ Base64.decode keyText = .ok key ∧
    entry.at? ["signature"] = some (.text text) ∧ Base64.decode text = .ok signature

theorem SignedOnceBy.unique {bytes key other first second : Bytes}
    (own : SignedOnceBy bytes key first) (same : SignedOnceBy bytes other second) :
    key = other ∧ first = second := by
  obtain ⟨document, entry, keyText, text, read, place, keyed, keyDecoded, signed, decoded⟩ := own
  obtain ⟨_, _, _, _, sameRead, samePlace, sameKeyed, otherDecoded, sameSigned, secondDecoded⟩ := same
  obtain rfl := Option.some.inj (read.symm.trans sameRead)
  obtain ⟨rfl, -⟩ := List.cons.inj (Value.array.inj (Option.some.inj (place.symm.trans samePlace)))
  obtain rfl := Value.text.inj (Option.some.inj (keyed.symm.trans sameKeyed))
  obtain rfl := Value.text.inj (Option.some.inj (signed.symm.trans sameSigned))
  exact ⟨Except.ok.inj (keyDecoded.symm.trans otherDecoded),
    Except.ok.inj (decoded.symm.trans secondDecoded)⟩

theorem signedOnceBy_form (form : TxForm) (kind : String) (key signature : Bytes)
    (single : form.value.signatures = [⟨⟨kind, Base64.encode key⟩, Base64.encode signature⟩])
    (fits : ∀ message ∈ form.value.messages, message.value.Fits 123) :
    SignedOnceBy form.bytes key signature := by
  let entry : SignatureForm := ⟨⟨kind, Base64.encode key⟩, Base64.encode signature⟩
  refine ⟨(TxForm.codec.write form).sorted, (SignatureForm.codec.write entry).sorted,
    Base64.encode key, Base64.encode signature, read_sorted _ (fits_txForm 120 form fits), ?_, ?_,
    Base64.decode_encode key, ?_, Base64.decode_encode signature⟩
  · have entries := sorted_list SignatureForm.codec [entry]
    rw [sorted_txForm, sorted_stdForm, single]
    simpa [Value.at?, entry] using entries
  · simp [sorted_signature, sorted_key, Value.at?, entry]
  · simp [sorted_signature, Value.at?, entry]

end Amino

namespace TransferBuilder.AminoTransfer

open Amino Transaction

def signedTx (transfer : AminoTransfer) (paid : LedgerAmount) (signature : Bytes) : StdTx :=
  { transfer.draft paid with
    signatures := [⟨transfer.input.key, .single .aminoJson signature, transfer.input.sequence⟩] }

def signedForm (transfer : AminoTransfer) (paid : LedgerAmount) (signature : Bytes) : TxForm :=
  ⟨stdKind,
    ⟨[⟨sendKind, (BankSend.codec.write transfer.send).sorted⟩],
      ⟨(transfer.draft paid).fee, word transfer.input.gasLimit⟩,
      [⟨⟨keyKind, Base64.encode transfer.input.key⟩, Base64.encode signature⟩],
      transfer.input.memo⟩⟩

theorem encode_signedTx (transfer : AminoTransfer) (paid : LedgerAmount) (signature : Bytes)
    (present : signature ≠ []) :
    encode (.std (transfer.signedTx paid signature)) = .ok (transfer.signedForm paid signature).bytes := by
  refine (encode_eq_ok_iff ..).mpr ⟨transfer.signedForm paid signature, ?_, rfl⟩
  cases signature with
  | nil => exact absurd rfl present
  | cons byte rest => rfl

theorem signedForm_signedOnce (transfer : AminoTransfer) (paid : LedgerAmount) (signature : Bytes) :
    SignedOnceBy (transfer.signedForm paid signature).bytes transfer.input.key signature :=
  signedOnceBy_form _ keyKind _ _ rfl (transfer.fits_draft paid _ rfl)

theorem signedForm_bytes_inj (transfer : AminoTransfer) (paid : LedgerAmount) (first second : Bytes) :
    (transfer.signedForm paid first).bytes = (transfer.signedForm paid second).bytes ↔
      first = second := by
  constructor
  · intro same
    have own := transfer.signedForm_signedOnce paid first
    rw [same] at own
    exact (own.unique (transfer.signedForm_signedOnce paid second)).2
  · rintro rfl
    rfl

theorem addSignature_eq (transfer : AminoTransfer) :
    ∃ paid, transfer.transaction = .built (transfer.staged paid) ∧ ∀ signature, signature ≠ [] →
      transfer.transaction.addSignature signature =
        (.signed (signedWith (transfer.staged paid) signature), .ok ()) := by
  obtain ⟨paid, -, start⟩ := transfer.transaction_eq
  refine ⟨paid, start, fun signature present => ?_⟩
  rw [start]
  exact addSignature_accepted _ (transfer.staged paid) signature rfl present rfl

theorem run_unsigned (transfer : AminoTransfer) (calls : List Call)
    (unsigned : lastSignature calls = none) :
    let last := (transfer.transaction.run calls).1
    last = transfer.transaction ∧ last.isSigned = false ∧ last.serialize = .error .unsigned := by
  obtain ⟨paid, start, -⟩ := transfer.addSignature_eq
  have run := run_replaces (.built (transfer.staged paid)) _ calls rfl Amino.context_replaces
  rw [unsigned] at run
  rw [start, run]
  exact ⟨rfl, rfl, rfl⟩

theorem run_signed_once (transfer : AminoTransfer) :
    ∃ paid, ∀ calls signature, lastSignature calls = some signature →
      let last := (transfer.transaction.run calls).1
      last = (transfer.transaction.addSignature signature).1 ∧ last.isSigned = true ∧
        last.serialize = .ok (transfer.signedForm paid signature).bytes := by
  obtain ⟨paid, start, signed⟩ := transfer.addSignature_eq
  refine ⟨paid, fun calls signature own => ?_⟩
  have present := lastSignature_ne_nil calls signature own
  have run := run_replaces (.built (transfer.staged paid)) _ calls rfl Amino.context_replaces
  rw [own] at run
  rw [signed signature present, start, run]
  exact ⟨rfl, rfl, transfer.encode_signedTx paid signature present⟩

theorem last_signature_wins (transfer : AminoTransfer) (calls : List Call) :
    let last := (transfer.transaction.run calls).1
    (∀ signature, lastSignature calls = some signature →
      last = (transfer.transaction.addSignature signature).1 ∧
      ∃ bytes, last.serialize = .ok bytes ∧ SignedOnceBy bytes transfer.input.key signature ∧
        ∀ others other, lastSignature others = some other →
          ((transfer.transaction.run others).1.serialize = .ok bytes ↔ other = signature)) ∧
    (lastSignature calls = none →
      last = transfer.transaction ∧ last.hash.isEmpty = true ∧
      ∃ fault, last.serialize = .error fault ∧ fault.kind = .encoding) ∧
    (last.hash.isEmpty = true ↔ last.isSigned = false) ∧
    (last.isSigned = true → ∃ bytes, last.serialize = .ok bytes ∧
      last.hash = ⟨Hex.encode (Hash.Sha256.hash bytes)⟩ ∧ last.hash.text.length = 64 ∧
      ∀ digit ∈ last.hash.text.toList, digit ∈ Hex.digits) := by
  intro last
  obtain ⟨paid, once⟩ := transfer.run_signed_once
  cases own : lastSignature calls with
  | none =>
    obtain ⟨same, unsigned, refused⟩ := transfer.run_unsigned calls own
    have empty : last.hash.isEmpty = true := by
      rw [Transaction.hash, refused]
      rfl
    refine ⟨?_, fun _ => ⟨same, empty, _, refused, rfl⟩, iff_of_true empty unsigned, ?_⟩
    · intro signature other
      cases other
    · intro signed
      rw [unsigned] at signed
      cases signed
  | some signature =>
    obtain ⟨same, signed, serialized⟩ := once calls signature own
    have present := (transfer.signedForm paid signature).bytes_ne_nil
    have filled := hash_not_empty last _ present serialized
    refine ⟨?_, ?_, iff_of_false (by simp [filled]) (by simp [last, signed]), fun _ => ?_⟩
    · rintro _ ⟨⟩
      refine ⟨same, _, serialized, transfer.signedForm_signedOnce paid signature, ?_⟩
      intro others other offered
      obtain ⟨-, -, sent⟩ := once others other offered
      rw [sent, Except.ok.injEq, signedForm_bytes_inj]
    · intro none
      cases none
    · exact ⟨_, serialized, hash_of_serialize last _ present serialized,
        hash_digits last _ present serialized⟩

theorem hub_last_signature_wins :
    let start := (hubTransfer "").transaction
    let last := (start.run [.addSignature [7], .hash, .addSignature [], .addSignature [8, 9]]).1
    last = (start.addSignature [8, 9]).1 ∧ ∃ bytes, last.serialize = .ok bytes ∧
      SignedOnceBy bytes [2] [8, 9] ∧ last.hash = ⟨Hex.encode (Hash.Sha256.hash bytes)⟩ ∧
      (start.run [.addSignature [7], .addSignature []]).1.serialize ≠ .ok bytes := by
  intro start last
  obtain ⟨wins, -, -, hashed⟩ := last_signature_wins (hubTransfer "")
    [.addSignature [7], .hash, .addSignature [], .addSignature [8, 9]]
  obtain ⟨same, bytes, serialized, once, other⟩ := wins [8, 9] rfl
  obtain ⟨sent, again, hash, -⟩ := hashed rfl
  obtain rfl : sent = bytes := Except.ok.inj (again.symm.trans serialized)
  refine ⟨same, sent, serialized, once, hash, fun equal => ?_⟩
  have impossible := (other [.addSignature [7], .addSignature []] [7] rfl).mp equal
  simp at impossible

theorem query_signed (transfer : AminoTransfer) (paid : LedgerAmount) (signature : Bytes)
    (present : signature ≠ []) :
    query (transfer.signedForm paid signature).bytes =
      .ok (.decoded (.std (transfer.signedTx paid signature).queried) (some encode) :
        Transaction StdTx) := by
  refine query_encoded (transfer.signedTx paid signature) _ ?_ ?_
    (transfer.encode_signedTx paid signature present)
  · intro kind value found
    cases List.mem_singleton.mp found
  · intro value found
    cases List.mem_singleton.mp found

theorem signed_transfer_queried (transfer : AminoTransfer) (signature : Bytes)
    (present : signature ≠ []) :
    let signed := (transfer.transaction.addSignature signature).1
    (transfer.transaction.addSignature signature).2 = .ok () ∧
    ∃ (bytes : Bytes) (found : Transaction StdTx), signed.serialize = .ok bytes ∧
      query bytes = .ok found ∧ found.stage = "decoded" ∧ found.serialize = .ok bytes ∧
      found.hash = signed.hash ∧
      ∀ confirmation, let info := found.info confirmation
        info = signed.info confirmation ∧ info.sender = transfer.sender ∧
          info.recipient = transfer.recipient ∧ info.amount = transfer.amount ∧
          info.contract = .empty := by
  intro signed
  obtain ⟨paid, -, accepted⟩ := transfer.addSignature_eq
  let tx := transfer.signedTx paid signature
  let found : Transaction StdTx := .decoded (.std tx.queried) (some encode)
  have same : signed = .signed (signedWith (transfer.staged paid) signature) :=
    congrArg Prod.fst (accepted signature present)
  have sent : signed.serialize = encode (.std tx) := by
    rw [same]
    rfl
  have own : signed.native? = some (.std tx) := by
    rw [same]
    rfl
  have encoded := transfer.encode_signedTx paid signature present
  have again : found.serialize = signed.serialize := (encode_queried tx).trans sent.symm
  have hash : found.hash = signed.hash := by
    simp only [Transaction.hash, again]
  obtain ⟨-, view⟩ := view_queried signed found tx own rfl
  refine ⟨congrArg Prod.snd (accepted signature present), _, found, sent.trans encoded,
    transfer.query_signed paid signature present, rfl, again.trans (sent.trans encoded), hash,
    fun confirmation => ⟨?_, rfl, rfl, rfl, rfl⟩⟩
  simp only [Transaction.info, hash, view]

theorem hub_transfer_queried :
    ∃ (bytes : Bytes) (found : Transaction StdTx),
      ((hubTransfer "rent").transaction.addSignature [7]).1.serialize = .ok bytes ∧
      query bytes = .ok found ∧ found.serialize = .ok bytes ∧
      (found.info ⟨1, 2, 3⟩).amount = ⟨1000000⟩ := by
  obtain ⟨-, bytes, found, sent, queried, -, again, -, told⟩ :=
    signed_transfer_queried (hubTransfer "rent") [7] (by decide)
  exact ⟨bytes, found, sent, queried, again, (told ⟨1, 2, 3⟩).2.2.2.1⟩

end TransferBuilder.AminoTransfer

end Multichain.Cosmos
