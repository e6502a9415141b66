import Mathlib
import Multichain.Proofs.DecodedDocument

/-!
Drafts of the JSON signing mode under any changes. A change is either kept, and fills one field, or
refused, and leaves the draft as it is; after a run of changes each field holds what was last kept
for it. Nothing is kept that has no form, so that every draft can be signed, and can be sent unless
a signature in it is empty. Main statement: `draft_run`.
-/

set_option autoImplicit false

namespace Multichain.Cosmos

open Multichain

inductive Change where
  | messages (messages : List Message)
  | fee (fee : List Coin)
  | gas (gas : UInt64)
  | memo (memo : String)
  | signatures (signatures : List Signature)

namespace SigningContext

variable {δ : Type}

def apply (context : SigningContext δ) (draft : δ) : Change → δ × Except Fault Unit
  | .messages messages => context.setMessages messages draft
  | .fee fee => (context.setFee fee draft, .ok ())
  | .gas gas => (context.setGas gas draft, .ok ())
  | .memo memo => (context.setMemo memo draft, .ok ())
  | .signatures signatures => context.setSignatures signatures draft

def run (context : SigningContext δ) (draft : δ) : List Change → δ × List (Except Fault Unit)
  | [] => (draft, [])
  | change :: rest =>
    let (next, answer) := context.apply draft change
    let (last, answers) := run context next rest
    (last, answer :: answers)

theorem run_cons (context : SigningContext δ) (draft : δ) (change : Change) (rest : List Change) :
    context.run draft (change :: rest) =
      ((context.run (context.apply draft change).1 rest).1,
        (context.apply draft change).2 :: (context.run (context.apply draft change).1 rest).2) :=
  rfl

end SigningContext

namespace Amino

open Outcome

def Allowed : Change → Prop
  | .messages messages => ∀ typeUrl, .foreign typeUrl ∉ messages
  | .signatures signatures => ∀ signature ∈ signatures, signature.data.isMulti = false
  | .fee _ | .gas _ | .memo _ => True

def put : Change → StdTx → StdTx
  | .messages messages, draft => { draft with messages := messages }
  | .fee fee, draft => { draft with fee := fee }
  | .gas gas, draft => { draft with gas := gas }
  | .memo memo, draft => { draft with memo := memo }
  | .signatures signatures, draft => { draft with signatures := signatures }

theorem apply_cases (draft : StdTx) (change : Change) :
    (Allowed change ∧ context.apply draft change = (put change draft, .ok ())) ∨
    (¬ Allowed change ∧ ∃ fault, context.apply draft change = (draft, .error fault)) := by
  cases change with
  | fee | gas | memo => exact .inl ⟨trivial, rfl⟩
  | messages messages =>
    have allowed : Allowed (.messages messages) ↔ ∃ forms, messageForms messages = .ok forms :=
      (exists_forms_iff messages).symm
    rw [allowed]
    change _ ∧ setMessages messages draft = _ ∨ _ ∧ ∃ fault, setMessages messages draft = _
    cases made : messageForms messages with
    | ok forms => exact .inl ⟨⟨forms, rfl⟩, by rw [setMessages, made]; rfl⟩
    | error fault => exact .inr ⟨by simp, fault, by rw [setMessages, made]⟩
  | signatures signatures =>
    change _ ∧ setSignatures signatures draft = _ ∨ _ ∧ ∃ fault, setSignatures signatures draft = _
    unfold setSignatures
    split_ifs with several
    · exact .inr ⟨by simpa [Allowed] using several, _, rfl⟩
    · exact .inl ⟨by simpa [Allowed] using several, rfl⟩

theorem apply_ok_iff (draft : StdTx) (change : Change) :
    (context.apply draft change).2 = .ok () ↔ Allowed change := by
  rcases apply_cases draft change with ⟨allowed, kept⟩ | ⟨forbidden, fault, refused⟩
  · simp [kept, allowed]
  · simp [refused, forbidden]

theorem apply_refused (draft : StdTx) (change : Change) (fault : Fault)
    (refused : (context.apply draft change).2 = .error fault) :
    (context.apply draft change).1 = draft := by
  rcases apply_cases draft change with ⟨-, kept⟩ | ⟨-, other, left⟩
  · rw [kept] at refused
    cases refused
  · rw [left]

structure DraftField (α : Type) where
  read : StdTx → α
  given? : Change → Option α
  read_put : ∀ change draft, read (put change draft) = (given? change).getD (read draft)

namespace DraftField

def messages : DraftField (List Message) where
  read := StdTx.messages
  given? | .messages messages => some messages | _ => none
  read_put change _ := by cases change <;> rfl

def fee : DraftField (List Coin) where
  read := StdTx.fee
  given? | .fee fee => some fee | _ => none
  read_put change _ := by cases change <;> rfl

def gas : DraftField UInt64 where
  read := StdTx.gas
  given? | .gas gas => some gas | _ => none
  read_put change _ := by cases change <;> rfl

def memo : DraftField String where
  read := StdTx.memo
  given? | .memo memo => some memo | _ => none
  read_put change _ := by cases change <;> rfl

def signatures : DraftField (List Signature) where
  read := StdTx.signatures
  given? | .signatures signatures => some signatures | _ => none
  read_put change _ := by cases change <;> rfl

variable {α : Type} (field : DraftField α)

def kept? : Change × Except Fault Unit → Option α
  | (change, .ok ()) => field.given? change
  | (_, .error _) => none

def last (start : α) (calls : List (Change × Except Fault Unit)) : α :=
  (calls.reverse.findSome? field.kept?).getD start

theorem last_cons (start : α) (call : Change × Except Fault Unit)
    (rest : List (Change × Except Fault Unit)) :
    field.last start (call :: rest) = field.last ((field.kept? call).getD start) rest := by
  unfold last
  rw [List.reverse_cons, List.findSome?_append]
  cases rest.reverse.findSome? field.kept? with
  | some later => rfl
  | none => cases kept : field.kept? call <;> simp [kept]

theorem read_apply (draft : StdTx) (change : Change) :
    field.read (context.apply draft change).1 =
      (field.kept? (change, (context.apply draft change).2)).getD (field.read draft) := by
  rcases apply_cases draft change with ⟨-, kept⟩ | ⟨-, fault, refused⟩
  · rw [kept]
    exact field.read_put change draft
  · rw [refused]
    rfl

theorem read_run (draft : StdTx) (changes : List Change) :
    field.read (context.run draft changes).1 =
      field.last (field.read draft) (changes.zip (context.run draft changes).2) := by
  induction changes generalizing draft with
  | nil => rfl
  | cons change rest ih =>
    rw [SigningContext.run_cons, ih, read_apply, List.zip_cons_cons, last_cons]

end DraftField

structure Signable (draft : StdTx) : Prop where
  messages : ∃ forms, messageForms draft.messages = .ok forms
  signatures : ∀ signature ∈ draft.signatures, signature.data.isMulti = false

theorem signable_start : Signable context.start where
  messages := ⟨[], rfl⟩
  signatures _ present := absurd present List.not_mem_nil

theorem signable_put (draft : StdTx) (change : Change) (allowed : Allowed change)
    (signable : Signable draft) : Signable (put change draft) := by
  obtain ⟨messages, signatures⟩ := signable
  cases change with
  | fee | gas | memo => exact ⟨messages, signatures⟩
  | messages given => exact ⟨(exists_forms_iff given).mpr allowed, signatures⟩
  | signatures given => exact ⟨messages, allowed⟩

theorem signable_apply (draft : StdTx) (change : Change) (signable : Signable draft) :
    Signable (context.apply draft change).1 := by
  rcases apply_cases draft change with ⟨allowed, kept⟩ | ⟨-, fault, refused⟩
  · rw [kept]
    exact signable_put draft change allowed signable
  · rw [refused]
    exact signable

theorem signable_run (draft : StdTx) (changes : List Change) (signable : Signable draft) :
    Signable (context.run draft changes).1 := by
  induction changes generalizing draft with
  | nil => exact signable
  | cons change rest ih => exact ih _ (signable_apply draft change signable)

namespace Signable

variable {draft : StdTx} (signable : Signable draft)

include signable

theorem exists_signBytes (signer : SignerData) :
    ∃ bytes, signBytes signer (.std draft) = .ok bytes := by
  obtain ⟨forms, made⟩ := signable.messages
  exact ⟨_, (signBytes_eq_ok_iff ..).mpr ⟨forms, made, rfl⟩⟩

theorem not_filled_iff (signature : Signature) (present : signature ∈ draft.signatures) :
    ¬ signature.Filled ↔ ∃ mode, signature.data = .single mode [] := by
  have single := signable.signatures signature present
  cases data : signature.data with
  | single mode bytes => simp [Signature.Filled, data]
  | multi parts =>
    rw [data] at single
    cases single

theorem encode_fails_iff :
    (∃ fault, encode (.std draft) = .error fault) ↔
      ∃ signature ∈ draft.signatures, ∃ mode, signature.data = .single mode [] := by
  obtain ⟨forms, made⟩ := signable.messages
  rw [exists_error_iff, exists_encode_iff draft forms made]
  simp only [not_forall, exists_prop]
  exact exists_congr fun signature => and_congr_right fun present =>
    signable.not_filled_iff signature present

theorem failsOnly_encode : FailsOnly (· = .unsigned) (encode (.std draft)) := by
  obtain ⟨forms, made⟩ := signable.messages
  have signed : FailsOnly (· = .unsigned) (draft.signatures.mapM SignatureForm.ofSignature) := by
    refine failsOnly_mapM _ _ _ fun signature present => ?_
    have single := signable.signatures signature present
    unfold SignatureForm.ofSignature
    split
    · exact failsOnly_error _ _ rfl
    · exact failsOnly_ok _ _
    · rename_i data
      rw [data] at single
      cases single
  refine failsOnly_bind _ _ _ (failsOnly_bind _ _ _ signed fun signatures => ?_) fun form => ?_
  · rw [made]
    exact failsOnly_ok _ _
  · exact failsOnly_ok _ _

end Signable

theorem draft_run (changes : List Change) :
    let last := (context.run context.start changes).1
    let calls := changes.zip (context.run context.start changes).2
    context.view last = .std
      { messages := DraftField.messages.last [] calls
        fee := DraftField.fee.last [] calls
        gas := DraftField.gas.last 0 calls
        memo := DraftField.memo.last "" calls
        signatures := DraftField.signatures.last [] calls } ∧
    (∀ change, (context.apply last change).2 = .ok () ↔ Allowed change) ∧
    (∀ change fault, (context.apply last change).2 = .error fault →
      (context.apply last change).1 = last) ∧
    (∀ signer, ∃ bytes, context.signBytes signer (context.view last) = .ok bytes) ∧
    ((∃ fault, context.encoder (context.view last) = .error fault) ↔
      ∃ signature ∈ last.signatures, ∃ mode, signature.data = .single mode []) ∧
    ∀ fault, context.encoder (context.view last) = .error fault →
      fault.kind = .encoding ∧ fault.message = "transaction is not signed" := by
  intro last calls
  have signable : Signable last := signable_run context.start changes signable_start
  have held {α : Type} (field : DraftField α) : field.read last = field.last (field.read {}) calls :=
    field.read_run context.start changes
  have messages : last.messages = DraftField.messages.last [] calls := held .messages
  have fee : last.fee = DraftField.fee.last [] calls := held .fee
  have gas : last.gas = DraftField.gas.last 0 calls := held .gas
  have memo : last.memo = DraftField.memo.last "" calls := held .memo
  have signatures : last.signatures = DraftField.signatures.last [] calls := held .signatures
  refine ⟨?_, apply_ok_iff last, apply_refused last, signable.exists_signBytes,
    signable.encode_fails_iff, ?_⟩
  · rw [← messages, ← fee, ← gas, ← memo, ← signatures]
    rfl
  · intro fault failed
    obtain rfl := signable.failsOnly_encode fault failed
    exact ⟨rfl, rfl⟩

def mixedChanges : List Change :=
  [.messages [.amino "vote" (.text "yes")], .messages [.foreign "/ibc.Transfer"], .memo "hello",
    .signatures [⟨[2], .single .aminoJson [], 0⟩], .signatures [⟨[2], .multi [], 0⟩]]

theorem mixedChanges_unsigned :
    (context.run context.start mixedChanges).2 =
      [.ok (), .error (.foreignMessage "/ibc.Transfer"), .ok (), .ok (), .error .multisigSlot] ∧
    (context.run context.start mixedChanges).1.messages = [.amino "vote" (.text "yes")] ∧
    ∃ fault,
      context.encoder (context.view (context.run context.start mixedChanges).1) = .error fault ∧
        fault.message = "transaction is not signed" := by
  obtain ⟨-, -, -, -, failing, unsigned⟩ := draft_run mixedChanges
  obtain ⟨fault, failed⟩ := failing.mpr ⟨_, List.mem_singleton_self _, .aminoJson, rfl⟩
  exact ⟨rfl, rfl, fault, failed, (unsigned fault failed).2⟩

end Amino

end Multichain.Cosmos
