import Mathlib
import Multichain.Proofs.DecodedDocument
import Multichain.Proofs.JsonCanonical
import Multichain.Proofs.JsonDocument
import Multichain.Proofs.JsonMeaning

/-!
Messages told in other words: with other blanks, another order of members, other escapes. They are
signed and sent as the same bytes, and these are the canonical text. Main statement:
`respelled_messages_alike`.
-/

set_option autoImplicit false

namespace Multichain.Cosmos.Amino

open Multichain Json Outcome

def Roomy : Message → Prop
  | .send _ => True
  | .amino _ value => value.Fits maxDepth
  | .foreign _ => False

structure ToldMessage where
  kind : String
  text : Bytes

namespace ToldMessage

def message? (told : ToldMessage) : Option Message :=
  (Value.read told.text).map (Message.amino told.kind)

def Alike (first second : ToldMessage) : Prop :=
  first.kind = second.kind ∧ ∃ one other, Document one first.text ∧ Document other second.text ∧
    one.meaning = other.meaning

theorem message?_eq_some_iff (told : ToldMessage) (value : Value) (message : Message)
    (document : Document value told.text) :
    told.message? = some message ↔
      value.Fits maxDepth ∧ Message.amino told.kind value.sorted = message := by
  simp only [message?, Option.map_eq_some_iff, read_document value _ told.text document, and_assoc,
    exists_and_left, exists_eq_left']

theorem Alike.message_eq {told respelled : ToldMessage} (alike : told.Alike respelled)
    {first second : Message} (firstRead : told.message? = some first)
    (secondRead : respelled.message? = some second) : first = second ∧ Roomy first := by
  obtain ⟨kind, one, other, document, respelling, meaning⟩ := alike
  obtain ⟨fits, rfl⟩ := (message?_eq_some_iff told one first document).mp firstRead
  obtain ⟨-, rfl⟩ := (message?_eq_some_iff respelled other second respelling).mp secondRead
  have ordered : one.sorted = other.sorted := (sorted_eq_iff_meaning one other).mpr meaning
  exact ⟨by rw [kind, ordered], fits.sorted⟩

theorem Alike.messages_eq {told respelled : List ToldMessage}
    (alike : List.Forall₂ ToldMessage.Alike told respelled) {first second : List Message}
    (firstRead : told.mapM message? = some first)
    (secondRead : respelled.mapM message? = some second) :
    first = second ∧ ∀ message ∈ first, Roomy message := by
  rw [mapM_eq_some_iff] at firstRead secondRead
  induction alike generalizing first second with
  | nil =>
    obtain rfl := List.map_eq_nil_iff.mp firstRead.symm
    obtain rfl := List.map_eq_nil_iff.mp secondRead.symm
    exact ⟨rfl, by simp⟩
  | cons head tail ih =>
    obtain ⟨message, messages, rfl, own, others⟩ := List.map_eq_cons_iff.mp firstRead.symm
    obtain ⟨other, more, rfl, again, rest⟩ := List.map_eq_cons_iff.mp secondRead.symm
    obtain ⟨rfl, roomy⟩ := head.message_eq own.symm again.symm
    obtain ⟨rfl, each⟩ := ih others.symm rest.symm
    exact ⟨rfl, List.forall_mem_cons.mpr ⟨roomy, each⟩⟩

end ToldMessage

theorem Roomy.exists_forms {messages : List Message} (roomy : ∀ message ∈ messages, Roomy message) :
    ∃ forms, messageForms messages = .ok forms ∧ ∀ form ∈ forms, form.value.Fits maxDepth := by
  obtain ⟨forms, made⟩ := (exists_forms_iff messages).mpr fun _ found => roomy _ found
  refine ⟨forms, made, fun form found => ?_⟩
  obtain ⟨message, present, formed⟩ := (mem_mapM_iff _ _ _ made form).mp found
  refine fits_ofMessage 124 message form (fun kind value own => ?_) formed
  have room := roomy message present
  rw [own] at room
  exact room

theorem signBytes_canonical (signer : SignerData) (tx : NativeTx)
    (roomy : ∀ message ∈ tx.messages, Roomy message) :
    ∃ bytes document, signBytes signer tx = .ok bytes ∧ Canonical bytes document := by
  obtain ⟨forms, made, fits⟩ := Roomy.exists_forms roomy
  have room := fits_signDocument 124 signer forms (FeeForm.ofTx tx) tx.memo fits
  exact ⟨_, _, (signBytes_eq_ok_iff ..).mpr ⟨forms, made, rfl⟩, canonical_sorted _ _ room⟩

theorem encode_canonical (tx : StdTx) (roomy : ∀ message ∈ tx.messages, Roomy message)
    (signed : ∀ signature ∈ tx.signatures, signature.Filled) :
    ∃ bytes document, encode (.std tx) = .ok bytes ∧ Canonical bytes document := by
  obtain ⟨forms, made, fits⟩ := Roomy.exists_forms roomy
  obtain ⟨bytes, encoded⟩ := (exists_encode_iff tx forms made).mpr signed
  obtain ⟨form, formed, rfl⟩ := (encode_eq_ok_iff ..).mp encoded
  obtain ⟨signatures, messages, -, same, rfl⟩ := (ofTx_eq_ok_iff ..).mp formed
  obtain rfl : forms = messages := Except.ok.inj (made.symm.trans same)
  exact ⟨_, _, encoded, canonical_sorted _ _ (fits_txForm 124 _ fits)⟩

theorem respelled_messages_alike (told respelled : List ToldMessage)
    (alike : List.Forall₂ ToldMessage.Alike told respelled) (first second : List Message)
    (firstRead : told.mapM ToldMessage.message? = some first)
    (secondRead : respelled.mapM ToldMessage.message? = some second) (draft : StdTx) :
    let one : StdTx := { draft with messages := first }
    let other : StdTx := { draft with messages := second }
    (∀ signer, ∃ bytes document, context.signBytes signer (.std one) = .ok bytes ∧
      context.signBytes signer (.std other) = .ok bytes ∧ Canonical bytes document) ∧
    (∀ signer memo, ∃ bytes document, context.signBytes signer (.bare first memo) = .ok bytes ∧
      context.signBytes signer (.bare second memo) = .ok bytes ∧ Canonical bytes document) ∧
    ((∀ signature ∈ draft.signatures, signature.Filled) →
      ∃ bytes document, context.encoder (.std one) = .ok bytes ∧
        context.encoder (.std other) = .ok bytes ∧ Canonical bytes document) := by
  obtain ⟨rfl, roomy⟩ := ToldMessage.Alike.messages_eq alike firstRead secondRead
  refine ⟨fun signer => ?_, fun signer memo => ?_, fun signed => ?_⟩
  · obtain ⟨bytes, document, written, canonical⟩ :=
      signBytes_canonical signer (.std { draft with messages := first }) roomy
    exact ⟨bytes, document, written, written, canonical⟩
  · obtain ⟨bytes, document, written, canonical⟩ :=
      signBytes_canonical signer (.bare first memo) roomy
    exact ⟨bytes, document, written, written, canonical⟩
  · obtain ⟨bytes, document, written, canonical⟩ :=
      encode_canonical { draft with messages := first } roomy signed
    exact ⟨bytes, document, written, written, canonical⟩

def hastyVote : ToldMessage :=
  ⟨"vote", Bytes.ofText "\x7b\"b\":1,\"a\":\"\\u0041\"\x7d"⟩

def neatVote : ToldMessage :=
  ⟨"vote", Bytes.ofText " \x7b \"a\" : \"A\",\n\"b\":1\x7d"⟩

theorem hastyVote_alike : hastyVote.Alike neatVote := by
  have a : SpellsString "a" [34, 97, 34] := spellsString_pieces "a"
  have b : SpellsString "b" [34, 98, 34] := spellsString_pieces "b"
  have one : Spells Blank (.integer 1) [49] :=
    .integer 1 [1] ⟨by decide, by decide, by decide⟩ (by decide) (by decide) (by decide)
  have plain : Spells Blank (.text "A") [34, 65, 34] := .text _ _ (spellsString_pieces "A")
  have escape : SpellsUnit 65 [92, 117, 48, 48, 52, 49] :=
    .digits 48 48 52 49 (.inl (by decide)) (.inl (by decide)) (.inl (by decide)) (.inl (by decide))
  have escaped : Spells Blank (.text "A") [34, 92, 117, 48, 48, 52, 49, 34] :=
    .text _ _ ⟨_, .cons 'A' [] _ [] (.unit _ escape) .nil, rfl⟩
  have blanks : Blank [] ∧ Blank [32] ∧ Blank [10] := by simp [Blank]
  let hasty : List Entry := [⟨[], "b", [34, 98, 34], [], ⟨[], .integer 1, [49], []⟩⟩,
    ⟨[], "a", [34, 97, 34], [], ⟨[], .text "A", [34, 92, 117, 48, 48, 52, 49, 34], []⟩⟩]
  let neat : List Entry := [⟨[32], "a", [34, 97, 34], [32], ⟨[32], .text "A", [34, 65, 34], []⟩⟩,
    ⟨[10], "b", [34, 98, 34], [], ⟨[], .integer 1, [49], []⟩⟩]
  have first : Spells Blank (.object (hasty.map Entry.member)) hastyVote.text :=
    .object hasty[0] hasty.tail (by simp [hasty, blanks]) (by simp [hasty, a, b])
      (by simp [hasty, one, escaped])
  have second : Spells Blank (.object (neat.map Entry.member)) neatVote.text.tail :=
    .object neat[0] neat.tail (by simp [neat, blanks]) (by simp [neat, a, b])
      (by simp [neat, one, plain])
  refine ⟨rfl, _, _, ⟨[], _, [], blanks.1, first, blanks.1, by simp⟩,
    ⟨[32], _, [], blanks.2.1, second, blanks.1, by decide⟩, ?_⟩
  exact (sorted_eq_iff_meaning _ _).mp rfl

def readVote : Message :=
  .amino "vote" (.object [("a", .text "A"), ("b", .integer 1)])

def filledDraft : StdTx :=
  { signatures := [⟨[2], .single .aminoJson [1], 0⟩] }

theorem hastyVote_signed :
    ∃ bytes document, context.encoder (.std { filledDraft with messages := [readVote] }) = .ok bytes ∧
      Canonical bytes document := by
  have filled : ∀ signature ∈ filledDraft.signatures, signature.Filled := by
    simp [filledDraft, Signature.Filled]
  obtain ⟨-, -, sent⟩ := respelled_messages_alike [hastyVote] [neatVote]
    (.cons hastyVote_alike .nil) [readVote] [readVote] rfl rfl filledDraft
  obtain ⟨bytes, document, written, -, canonical⟩ := sent filled
  exact ⟨bytes, document, written, canonical⟩

end Multichain.Cosmos.Amino
