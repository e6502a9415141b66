import Mathlib
import Multichain.Proofs.BuiltTransfer

/-!
Runs of calls on a transaction. One step either leaves the transaction as it is or fills the
signer's slot; a run therefore keeps the bytes to be signed, and is signed from its first accepted
signature on. Main statement: `lifecycle_run`.
-/

set_option autoImplicit false

namespace Multichain.Cosmos

open Multichain

def SigningContext.KeepsRefused {δ : Type} (context : SigningContext δ) : Prop :=
  ∀ (signatures : List Signature) (draft : δ) (fault : Fault),
    (context.setSignatures signatures draft).2 = .error fault →
      (context.setSignatures signatures draft).1 = draft

theorem Amino.context_keepsRefused : Amino.context.KeepsRefused := by
  intro signatures draft fault refused
  change (Amino.setSignatures signatures draft).2 = _ at refused
  change (Amino.setSignatures signatures draft).1 = _
  unfold Amino.setSignatures at refused ⊢
  split_ifs at refused ⊢
  rfl

namespace Transaction

variable {δ : Type}

inductive Call where
  | hash
  | sighash
  | serialize
  | view
  | addSignature (signature : Bytes)

inductive Answer where
  | hash (hash : TxHash)
  | bytes (result : Except Fault Bytes)
  | view (view : TransferView)
  | addSignature (result : Except Fault Unit)

def step (transaction : Transaction δ) : Call → Transaction δ × Answer
  | .hash => (transaction, .hash transaction.hash)
  | .sighash => (transaction, .bytes transaction.sighash)
  | .serialize => (transaction, .bytes transaction.serialize)
  | .view => (transaction, .view transaction.view)
  | .addSignature signature =>
    let (next, result) := transaction.addSignature signature
    (next, .addSignature result)

def run (transaction : Transaction δ) : List Call → Transaction δ × List Answer
  | [] => (transaction, [])
  | call :: rest =>
    let (next, answer) := transaction.step call
    let (last, answers) := run next rest
    (last, answer :: answers)

def filled (staged : Staged δ) (signature : Bytes) : SignerSlot :=
  { staged.signer with signature := signature }

def offered (staged : Staged δ) (signature : Bytes) : δ × Except Fault Unit :=
  staged.context.setSignatures [(filled staged signature).toSignature] staged.draft

def Takes (staged : Staged δ) (signature : Bytes) : Prop :=
  (offered staged signature).2 = .ok ()

def signedWith (staged : Staged δ) (signature : Bytes) : Staged δ :=
  { staged with draft := (offered staged signature).1, signer := filled staged signature }

theorem sign_eq (staged : Staged δ) (signature : Bytes) :
    Staged.sign staged signature =
      match offered staged signature with
      | (draft, .ok ()) => ({ staged with draft := draft, signer := filled staged signature }, .ok ())
      | (draft, .error fault) => ({ staged with draft := draft }, .error fault) :=
  rfl

theorem sign_of_takes (staged : Staged δ) (signature : Bytes) (takes : Takes staged signature) :
    Staged.sign staged signature = (signedWith staged signature, .ok ()) := by
  unfold Takes at takes
  rw [sign_eq, signedWith]
  rcases outcome : offered staged signature with ⟨draft, result⟩
  rw [outcome] at takes
  obtain rfl : result = .ok () := takes
  rfl

theorem sign_of_refuses (staged : Staged δ) (signature : Bytes)
    (keeps : staged.context.KeepsRefused) (refuses : ¬ Takes staged signature) :
    ∃ fault, Staged.sign staged signature = (staged, .error fault) := by
  unfold Takes at refuses
  rw [sign_eq]
  rcases outcome : offered staged signature with ⟨draft, result⟩
  rw [outcome] at refuses
  cases result with
  | ok done => exact absurd rfl refuses
  | error fault =>
    have kept : (offered staged signature).1 = staged.draft :=
      keeps _ _ fault (congrArg Prod.snd outcome)
    rw [outcome] at kept
    subst kept
    exact ⟨fault, rfl⟩

theorem staged?_eq_some_iff (transaction : Transaction δ) (staged : Staged δ) :
    transaction.staged? = some staged ↔
      transaction = .built staged ∨ transaction = .signed staged := by
  cases transaction with
  | unbuilt | decoded tx encoder => simp [staged?]
  | built own | signed own => simp [staged?]

theorem addSignature_accepted (transaction : Transaction δ) (staged : Staged δ) (signature : Bytes)
    (found : transaction.staged? = some staged) (present : signature ≠ [])
    (takes : Takes staged signature) :
    transaction.addSignature signature = (.signed (signedWith staged signature), .ok ()) := by
  have signed := sign_of_takes staged signature takes
  cases (staged?_eq_some_iff ..).mp found with
  | inl built => simp [built, addSignature, present, signed]
  | inr again => simp [again, addSignature, present, signed]

theorem addSignature_refused (transaction : Transaction δ) (staged : Staged δ) (signature : Bytes)
    (found : transaction.staged? = some staged) (keeps : staged.context.KeepsRefused)
    (refuses : ¬ (signature ≠ [] ∧ Takes staged signature)) :
    ∃ fault, transaction.addSignature signature = (transaction, .error fault) := by
  have stages := (staged?_eq_some_iff ..).mp found
  by_cases empty : signature = []
  · refine ⟨.emptySignature, ?_⟩
    cases stages with
    | inl built => simp [built, addSignature, empty]
    | inr signed => simp [signed, addSignature, empty]
  · obtain ⟨fault, kept⟩ := sign_of_refuses staged signature keeps
      fun takes => refuses ⟨empty, takes⟩
    refine ⟨fault, ?_⟩
    cases stages with
    | inl built => simp [built, addSignature, empty, kept]
    | inr signed => simp [signed, addSignature, empty, kept]

theorem addSignature_ok_iff (transaction : Transaction δ) (staged : Staged δ) (signature : Bytes)
    (found : transaction.staged? = some staged) (keeps : staged.context.KeepsRefused) :
    (transaction.addSignature signature).2 = .ok () ↔ signature ≠ [] ∧ Takes staged signature := by
  by_cases accepted : signature ≠ [] ∧ Takes staged signature
  · simp [addSignature_accepted transaction staged signature found accepted.1 accepted.2, accepted]
  · obtain ⟨fault, kept⟩ := addSignature_refused transaction staged signature found keeps accepted
    simp [kept, accepted]

theorem addSignature_keeps (transaction : Transaction δ) (signature : Bytes) (fault : Fault)
    (keeps : ∀ staged, transaction.staged? = some staged → staged.context.KeepsRefused)
    (refused : (transaction.addSignature signature).2 = .error fault) :
    (transaction.addSignature signature).1 = transaction := by
  cases found : transaction.staged? with
  | none => cases transaction <;> simp_all [staged?, addSignature]
  | some staged =>
    have refuses : ¬ (signature ≠ [] ∧ Takes staged signature) := by
      rw [← addSignature_ok_iff transaction staged signature found (keeps staged found), refused]
      simp
    obtain ⟨_, kept⟩ :=
      addSignature_refused transaction staged signature found (keeps staged found) refuses
    rw [kept]

theorem step_unstaged (transaction : Transaction δ) (call : Call)
    (none : transaction.staged? = none) : (transaction.step call).1 = transaction := by
  cases call with
  | addSignature signature => cases transaction <;> simp_all [staged?, step, addSignature]
  | hash | sighash | serialize | view => rfl

theorem run_unstaged (transaction : Transaction δ) (calls : List Call)
    (none : transaction.staged? = none) : (transaction.run calls).1 = transaction := by
  induction calls with
  | nil => rfl
  | cons call rest ih => simp only [run, step_unstaged transaction call none, ih]

theorem step_staged (transaction : Transaction δ) (staged : Staged δ) (call : Call)
    (found : transaction.staged? = some staged) (keeps : staged.context.KeepsRefused) :
    ((transaction.step call).1 = transaction ∧
      (transaction.step call).2 ≠ .addSignature (.ok ())) ∨
    ∃ signature, transaction.step call =
      (.signed (signedWith staged signature), .addSignature (.ok ())) := by
  cases call with
  | hash | sighash | serialize | view => exact .inl ⟨rfl, by simp [step]⟩
  | addSignature signature =>
    by_cases accepted : signature ≠ [] ∧ Takes staged signature
    · refine .inr ⟨signature, ?_⟩
      simp [step, addSignature_accepted transaction staged signature found accepted.1 accepted.2]
    · obtain ⟨fault, kept⟩ := addSignature_refused transaction staged signature found keeps accepted
      exact .inl (by simp [step, kept])

-- Induction on the calls. Context and sighash go along unchanged; once a signature is accepted the
-- transaction is signed, and then the second part holds whatever the other calls are.
theorem run_staged (transaction : Transaction δ) (staged : Staged δ) (calls : List Call)
    (found : transaction.staged? = some staged) (keeps : staged.context.KeepsRefused) :
    (∃ last, (transaction.run calls).1.staged? = some last ∧ last.context = staged.context ∧
      last.sighash = staged.sighash) ∧
    ((transaction.run calls).1.isSigned = true ↔
      transaction.isSigned = true ∨ .addSignature (.ok ()) ∈ (transaction.run calls).2) := by
  induction calls generalizing transaction staged with
  | nil => exact ⟨⟨staged, found, rfl, rfl⟩, by simp [run]⟩
  | cons call rest ih =>
    rcases step_staged transaction staged call found keeps with ⟨kept, other⟩ | ⟨signature, signed⟩
    · have after := ih transaction staged found keeps
      simp only [run, kept, List.mem_cons, other.symm, false_or]
      exact after
    · have after := ih (.signed (signedWith staged signature)) (signedWith staged signature) rfl keeps
      simp only [run, signed, List.mem_cons, true_or, or_true, iff_true]
      exact ⟨after.1, after.2.mpr (.inl rfl)⟩

theorem hash_of_serialize (transaction : Transaction δ) (bytes : Bytes) (present : bytes ≠ [])
    (serialized : transaction.serialize = .ok bytes) :
    transaction.hash = ⟨Hex.encode (Hash.Sha256.hash bytes)⟩ := by
  cases bytes with
  | nil => exact absurd rfl present
  | cons byte rest => simp only [hash, serialized]

/-- What a transaction can be before the first call: none at all, one that was queried, or one that
was built for the context. -/
inductive Fresh (context : SigningContext δ) : Transaction δ → Prop
  | unbuilt : Fresh context .unbuilt
  | decoded (tx : NativeTx) (encoder : Option Encoder) : Fresh context (.decoded tx encoder)
  | built (asset : AssetConfig) (builder : TransferBuilder δ) (sender recipient : Address)
      (amount : LedgerAmount) (input : ChainInput) (transaction : Transaction δ)
      (known : TransferBuilder.ofConfig context asset = .ok builder)
      (result : builder.newTransfer sender recipient amount input = .ok transaction) :
      Fresh context transaction

theorem fresh_cases (context : SigningContext δ) (start : Transaction δ)
    (fresh : Fresh context start) :
    start.staged? = none ∧ (start.stage = "unbuilt" ∨ start.stage = "decoded") ∨
      ∃ staged, start = .built staged ∧ staged.context = context := by
  cases fresh with
  | unbuilt => exact .inl ⟨rfl, .inl rfl⟩
  | decoded tx encoder => exact .inl ⟨rfl, .inr rfl⟩
  | built asset builder sender recipient amount input _ known result =>
    obtain ⟨own, rfl, -, result⟩ := (TransferBuilder.newTransfer_eq_ok_iff ..).mp result
    obtain ⟨-, paid, draft, bytes, -, -, -, rfl⟩ :=
      (TransferBuilder.newNativeTransfer_eq_ok_iff ..).mp result
    obtain ⟨-, -, rfl⟩ := (TransferBuilder.ofConfig_eq_ok_iff ..).mp known
    exact .inr ⟨_, rfl, rfl⟩

theorem run_fresh_keeps (context : SigningContext δ) (start : Transaction δ) (calls : List Call)
    (keeps : context.KeepsRefused) (fresh : Fresh context start) (staged : Staged δ)
    (found : (start.run calls).1.staged? = some staged) : staged.context.KeepsRefused := by
  rcases fresh_cases context start fresh with ⟨none, -⟩ | ⟨first, rfl, rfl⟩
  · rw [run_unstaged start calls none, none] at found
    cases found
  · obtain ⟨⟨last, same, context, -⟩, -⟩ := run_staged (.built first) first calls rfl keeps
    rw [same, Option.some.injEq] at found
    rwa [← found, context]

theorem run_signed (transaction : Transaction δ) (calls : List Call)
    (keeps : ∀ staged, transaction.staged? = some staged → staged.context.KeepsRefused)
    (signed : transaction.isSigned = true) : (transaction.run calls).1.isSigned = true := by
  cases transaction with
  | signed staged => exact (run_staged _ staged calls rfl (keeps staged rfl)).2.mpr (.inl rfl)
  | unbuilt | decoded | built => cases signed

theorem stage_eq_signed_iff (transaction : Transaction δ) :
    transaction.stage = "signed" ↔ transaction.isSigned = true := by
  cases transaction <;> simp [stage, isSigned]

theorem stage_eq_built_iff (transaction : Transaction δ) (staged : Staged δ)
    (found : transaction.staged? = some staged) :
    transaction.stage = "built" ↔ ¬ transaction.isSigned = true := by
  cases transaction <;> simp_all [stage, isSigned, staged?]

def NotInitialized {α : Type} (result : Except Fault α) : Prop :=
  ∃ fault, result = .error fault ∧ fault.isNotInitialized = true

theorem notInitialized_unstaged (transaction : Transaction δ) (none : transaction.staged? = none) :
    NotInitialized transaction.sighash ∧
      ∀ signature, NotInitialized (transaction.addSignature signature).2 := by
  refine ⟨⟨.noSighash, by simp [sighash, none], rfl⟩, fun signature => ?_⟩
  cases transaction with
  | unbuilt | decoded => exact ⟨.noSigningContext, rfl, rfl⟩
  | built | signed => simp [staged?] at none

theorem lifecycle_run :
    Amino.context.KeepsRefused ∧
    ∀ (δ : Type) (context : SigningContext δ), context.KeepsRefused →
    ∀ (start : Transaction δ), Fresh context start → ∀ calls : List Call,
    let last := (start.run calls).1
    let answers := (start.run calls).2
    (start.stage = "unbuilt" ∨ start.stage = "decoded" →
      last = start ∧ NotInitialized last.sighash ∧
        ∀ signature, NotInitialized (last.addSignature signature).2) ∧
    (start.stage = "built" →
      (last.stage = "signed" ↔ .addSignature (.ok ()) ∈ answers) ∧
      (last.stage = "built" ↔ .addSignature (.ok ()) ∉ answers) ∧
      ∃ bytes, start.sighash = .ok bytes ∧ last.sighash = .ok bytes) ∧
    (∀ more, last.stage = "signed" → (last.run more).1.stage = "signed") ∧
    (∀ staged signature, last.staged? = some staged →
      ((last.addSignature signature).2 = .ok () ↔ signature ≠ [] ∧ Takes staged signature)) ∧
    ∀ signature fault, (last.addSignature signature).2 = .error fault →
      (last.addSignature signature).1 = last := by
  refine ⟨Amino.context_keepsRefused, fun δ context keeps start fresh calls => ?_⟩
  have held := run_fresh_keeps context start calls keeps fresh
  refine ⟨?_, ?_, ?_, ?_, ?_⟩
  · intro unbuilt
    rcases fresh_cases context start fresh with ⟨none, -⟩ | ⟨staged, rfl, -⟩
    · rw [run_unstaged start calls none]
      exact ⟨rfl, notInitialized_unstaged start none⟩
    · simp [stage] at unbuilt
  · intro built
    rcases fresh_cases context start fresh with ⟨-, unbuilt⟩ | ⟨staged, rfl, same⟩
    · simp [built] at unbuilt
    · obtain ⟨⟨last, found, -, sighash⟩, signed⟩ :=
        run_staged (.built staged) staged calls rfl (same ▸ keeps)
      rw [stage_eq_signed_iff, stage_eq_built_iff _ last found, signed]
      refine ⟨by simp [isSigned], by simp [isSigned], staged.sighash, rfl, ?_⟩
      simp only [Transaction.sighash, found, sighash]
  · intro more
    rw [stage_eq_signed_iff, stage_eq_signed_iff]
    exact run_signed _ more held
  · intro staged signature found
    exact addSignature_ok_iff _ staged signature found (held staged found)
  · intro signature fault refused
    exact addSignature_keeps _ signature fault held refused

theorem hub_lifecycle :
    let start := (TransferBuilder.AminoTransfer.hubTransfer "").transaction
    let last := (start.run [.serialize, .addSignature [], .addSignature [7]]).1
    Fresh Amino.context start ∧ last.stage = "signed" ∧
      (∃ bytes, start.sighash = .ok bytes ∧ last.sighash = .ok bytes) ∧
      (last.addSignature []).1 = last := by
  let transfer := TransferBuilder.AminoTransfer.hubTransfer ""
  intro start last
  have fresh : Fresh Amino.context start :=
    .built transfer.asset transfer.builder transfer.sender transfer.recipient transfer.amount
      (.cosmos transfer.input) start transfer.known transfer.built
  obtain ⟨-, built, -, -, refused⟩ := lifecycle_run.2 StdTx Amino.context lifecycle_run.1 start fresh
    [.serialize, .addSignature [], .addSignature [7]]
  obtain ⟨signed, -, bytes⟩ := built rfl
  refine ⟨fresh, signed.mpr ?_, bytes, refused [] .emptySignature rfl⟩
  exact .tail _ (.tail _ (.head _))

end Transaction

end Multichain.Cosmos
