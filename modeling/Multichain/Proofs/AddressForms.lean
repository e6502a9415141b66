import Mathlib
import Multichain.Address.Builder
import Multichain.Proofs.ByteText

/-!
The forms of an address, derived one by one or all at once. All forms are derived for the same keys
as the first one alone, which stands in front, and no form is missing its text or named twice. Main
statement: `deriveAll_agrees`.
-/

set_option autoImplicit false

namespace Multichain

namespace Bech32

theorem encodeGroups_ne_empty (hrp : Hrp) (data : List Nat) : encodeGroups hrp data ≠ "" := by
  rw [encodeGroups, ne_eq, ← String.toList_eq_nil_iff, String.toList_ofList]
  simp

end Bech32

namespace Base58

theorem numberChars_ne_nil (number : Nat) (positive : number ≠ 0) : numberChars number ≠ [] := by
  rw [numberChars, if_neg positive]
  simp

theorem le_toNat_digits (total : Nat) (bytes : Bytes) :
    total ≤ bytes.foldl (fun total byte => total * 256 + byte.toNat) total := by
  induction bytes generalizing total with
  | nil => exact Nat.le_refl total
  | cons byte rest ih =>
    calc
      total ≤ total * 256 + byte.toNat := by omega
      _ ≤ _ := ih _

theorem encode_ne_empty (bytes : Bytes) (present : bytes ≠ []) : encode bytes ≠ "" := by
  rw [encode, ne_eq, ← String.toList_eq_nil_iff, String.toList_ofList, List.append_eq_nil_iff]
  intro ⟨zeros, digits⟩
  cases bytes with
  | nil => exact present rfl
  | cons byte rest =>
    by_cases zero : byte = 0
    · simp [zero] at zeros
    · have positive : byte.toNat ≠ 0 := by
        intro none
        exact zero (UInt8.toNat_inj.mp none)
      have large : byte.toNat ≤ Bytes.toNat (byte :: rest) := by
        simpa [Bytes.toNat] using le_toNat_digits byte.toNat rest
      exact numberChars_ne_nil _ (by omega) digits

end Base58

namespace Evm

theorem applyNibbles_eq_some_iff (chars out : List Char) (nibbles : List Nat) :
    applyNibbles chars nibbles = some out ↔
      chars.length ≤ nibbles.length ∧ List.zipWith applyNibble chars nibbles = out := by
  induction chars generalizing out nibbles with
  | nil => simp [applyNibbles]
  | cons char rest ih =>
    cases nibbles with
    | nil => simp [applyNibbles]
    | cons nibble others =>
      simp only [applyNibbles, Option.map_eq_some_iff, ih, List.length_cons,
        List.zipWith_cons_cons, Nat.add_le_add_iff_right, and_assoc, exists_and_left,
        exists_eq_left']

theorem applyNibbles_eq_none_iff (chars : List Char) (nibbles : List Nat) :
    applyNibbles chars nibbles = none ↔ nibbles.length < chars.length := by
  simp [Option.eq_none_iff_forall_ne_some, applyNibbles_eq_some_iff]

theorem length_nibbles (bytes : Bytes) : (nibbles bytes).length = 2 * bytes.length := by
  induction bytes with
  | nil => rfl
  | cons byte rest ih =>
    rw [nibbles, List.flatMap_cons, List.length_append, ← nibbles, ih, List.length_cons]
    simp only [List.length_cons, List.length_nil]
    omega

theorem checksumChars?_eq_none_iff (bytes : Bytes) :
    checksumChars? bytes = none ↔ 32 < bytes.length := by
  rw [checksumChars?, applyNibbles_eq_none_iff, length_nibbles, Hash.Keccak256.length_hash,
    Hex.length_encodeChars]
  omega

theorem length_accountBytes (point : Secp256k1.Point) : (accountBytes point).length = 20 := by
  simp [accountBytes]

theorem derive_ne_empty (key : Bytes) (address : Address) (derived : derive key = .ok address) :
    address ≠ .empty := by
  rw [derive] at derived
  cases found : Secp256k1.read key with
  | none =>
    rw [found] at derived
    cases derived
  | some point =>
    rw [found] at derived
    cases checked : checksumChars? (accountBytes point) with
    | none =>
      rw [checksumChars?_eq_none_iff, length_accountBytes] at checked
      omega
    | some chars =>
      obtain rfl := Except.ok.inj derived
      simp only [checksumText?, checked, Option.map_some, Option.getD_some, Address.empty, ne_eq,
        Address.mk.injEq, ← String.toList_eq_nil_iff, String.toList_ofList]
      exact List.cons_ne_nil _ _

end Evm

/-- What deriving one form tells of deriving all: both fail for the same cause, with a form that was
tried, or both succeed, with the one form first. -/
inductive Agrees : Except Fault Address → Except PartialDerivation (List PossibleAddress) → Prop
  | derived (first : PossibleAddress) (others : List PossibleAddress)
      (present : ∀ form ∈ first :: others, form.address ≠ .empty)
      (distinct : ((first :: others).map PossibleAddress.kind).Nodup) :
      Agrees (.ok first.address) (.ok (first :: others))
  | refused (cause : Fault) (tried : List PossibleAddress) (nonempty : tried ≠ []) :
      Agrees (.error cause) (.error ⟨tried, cause⟩)

namespace Bitcoin

theorem address_ne_empty (network : Network) (key : Key) (kind : AddressKind) (found : Address)
    (derived : address network key kind = .ok found) : found ≠ .empty := by
  have check (version : UInt8) (hash : Bytes) : base58Check version hash ≠ "" :=
    Base58.encode_ne_empty _ (by simp)
  have groups (data : List Nat) := Bech32.encodeGroups_ne_empty network.hrp data
  cases kind with
  | default | nestedSegwit =>
    rw [address] at derived
    split_ifs at derived
    obtain rfl := Except.ok.inj derived
    simp [Address.empty, check, groups]
  | legacy =>
    obtain rfl := Except.ok.inj derived
    simp [Address.empty, check]

theorem exists_address (network : Network) (key : Key) (kind : AddressKind)
    (member : kind ∈ kinds key) : ∃ found, address network key kind = .ok found := by
  cases compressed : key.compressed <;> cases kind <;> simp_all [kinds, address]

theorem deriveKinds_cases (network : Network) (key : Key) (tried : List PossibleAddress)
    (kinds : List AddressKind) :
    (∃ forms, forms.map PossibleAddress.kind = kinds ∧
      (∀ form ∈ forms, address network key form.kind = .ok form.address) ∧
      deriveKinds network key tried kinds = .ok (tried ++ forms)) ∨
    ∃ forms kind later cause, kinds = forms.map PossibleAddress.kind ++ kind :: later ∧
      (∀ form ∈ forms, address network key form.kind = .ok form.address) ∧
      address network key kind = .error cause ∧
      deriveKinds network key tried kinds = .error ⟨tried ++ forms ++ [⟨.empty, kind⟩], cause⟩ := by
  induction kinds generalizing tried with
  | nil => exact .inl ⟨[], rfl, by simp, by simp [deriveKinds]⟩
  | cons kind rest ih =>
    cases found : address network key kind with
    | error cause =>
      refine .inr ⟨[], kind, rest, cause, rfl, by simp, found, ?_⟩
      simp [deriveKinds, found]
    | ok own =>
      have step : deriveKinds network key tried (kind :: rest) =
          deriveKinds network key (tried ++ [⟨own, kind⟩]) rest := by
        simp [deriveKinds, found]
      rw [step]
      cases ih (tried ++ [⟨own, kind⟩]) with
      | inl all =>
        obtain ⟨forms, listed, each, done⟩ := all
        refine .inl ⟨⟨own, kind⟩ :: forms, by simp [listed], ?_, by simp [done]⟩
        simpa [found] using each
      | inr stopped =>
        obtain ⟨forms, other, later, cause, listed, each, failed, done⟩ := stopped
        refine .inr ⟨⟨own, kind⟩ :: forms, other, later, cause, by simp [listed], ?_, failed,
          by simp [done]⟩
        simpa [found] using each

theorem kinds_eq (key : Key) :
    kinds key = (if key.compressed then .default else .legacy) ::
      if key.compressed then [.nestedSegwit, .legacy] else [] := by
  rw [kinds]
  split_ifs <;> rfl

theorem nodup_kinds (key : Key) : (kinds key).Nodup := by
  rw [kinds]
  split_ifs <;> decide

theorem deriveAll_agrees_derive (network : Network) (bytes : Bytes) :
    Agrees (derive network bytes) (deriveAll network bytes) := by
  cases read : readKey bytes with
  | error cause =>
    have single : derive network bytes = .error cause := by simp [derive, read, bind, Except.bind]
    have all : deriveAll network bytes = .error ⟨[.empty], cause⟩ := by simp [deriveAll, read]
    rw [single, all]
    exact .refused cause _ (List.cons_ne_nil _ _)
  | ok key =>
    have single : derive network bytes =
        address network key (if key.compressed then .default else .legacy) := by
      simp [derive, read, bind, Except.bind]
    have all : deriveAll network bytes = deriveKinds network key [] (kinds key) := by
      simp [deriveAll, read]
    rw [single, all]
    cases deriveKinds_cases network key [] (kinds key) with
    | inl derived =>
      obtain ⟨forms, listed, each, done⟩ := derived
      cases forms with
      | nil => simp [kinds_eq] at listed
      | cons first others =>
        have kind : first.kind = if key.compressed then .default else .legacy := by
          rw [kinds_eq, List.map_cons] at listed
          exact (List.cons.inj listed).1
        rw [done, ← kind, each first (by simp)]
        apply Agrees.derived
        · intro form member
          exact address_ne_empty network key form.kind form.address (each form member)
        · rw [listed]
          exact nodup_kinds key
    | inr stopped =>
      obtain ⟨forms, kind, later, cause, listed, -, failed, -⟩ := stopped
      obtain ⟨found, derived⟩ := exists_address network key kind (by simp [listed])
      rw [failed] at derived
      cases derived

end Bitcoin

namespace AddressBuilder

theorem deriveDefault_agrees (builder : AddressBuilder) (key : Bytes)
    (present : ∀ address, builder.derive key = .ok address → address ≠ .empty) :
    Agrees (builder.derive key) (builder.deriveDefault key) := by
  rw [deriveDefault]
  cases derived : builder.derive key with
  | error cause => exact .refused cause _ (List.cons_ne_nil _ _)
  | ok address =>
    apply Agrees.derived ⟨address, .default⟩ []
    · simpa using present address derived
    · exact List.nodup_singleton _

theorem deriveAll_agrees (builder : AddressBuilder) (key : Bytes) :
    Agrees (builder.derive key) (builder.deriveAll key) := by
  cases builder with
  | bitcoin network => exact Bitcoin.deriveAll_agrees_derive network key
  | evm => exact deriveDefault_agrees .evm key (Evm.derive_ne_empty key)
  | cosmos hrp =>
    apply deriveDefault_agrees
    intro address derived
    rw [derive] at derived
    split_ifs at derived
    obtain rfl := Except.ok.inj derived
    simp [Address.empty, Bech32.encode, Bech32.encodeGroups_ne_empty]
  | solana =>
    apply deriveDefault_agrees
    intro address derived
    rw [derive] at derived
    split_ifs at derived with other
    obtain rfl := Except.ok.inj derived
    have present : key ≠ [] := by
      intro none
      simp [none, solanaKeyLength] at other
    simp [Address.empty, Base58.encode_ne_empty key present]

end AddressBuilder

end Multichain
