import Mathlib
import Multichain.Proofs.AddressForms
import Multichain.Proofs.CurvePoint
import Multichain.Proofs.Outcome

/-!
Which bytes are keys. Where points are read, those bytes are that are a form of a point; a Cosmos
address is derived from any bytes as many as a compressed key has. Main statement:
`derived_compressed_iff`.
-/

set_option autoImplicit false

namespace Multichain

namespace Secp256k1

def Tagged (tags : List UInt8) (key : Bytes) : Prop :=
  ∃ tag ∈ tags, ∃ x, key = tag :: x ∧ x.length = 32 ∧ ∃ y, (Point.mk (Bytes.toNat x) y).onCurve = true

def Compressed : Bytes → Prop :=
  Tagged [2, 3]

def Compact : Bytes → Prop :=
  Tagged [5]

def Uncompressed (key : Bytes) : Prop :=
  ∃ x y, key = 4 :: (x ++ y) ∧ x.length = 32 ∧ y.length = 32 ∧
    (Point.mk (Bytes.toNat x) (Bytes.toNat y)).onCurve = true

theorem length_of_tagged (tags : List UInt8) (key : Bytes) (tagged : Tagged tags key) :
    key.length = 33 := by
  obtain ⟨tag, -, x, rfl, size, -⟩ := tagged
  rw [List.length_cons, size]

theorem length_of_uncompressed (key : Bytes) (uncompressed : Uncompressed key) :
    key.length = 65 := by
  obtain ⟨x, y, rfl, first, second, -⟩ := uncompressed
  rw [List.length_cons, List.length_append, first, second]

theorem tagged_cons_iff (tags : List UInt8) (tag : UInt8) (x : Bytes) (size : x.length = 32) :
    Tagged tags (tag :: x) ↔ tag ∈ tags ∧ ∃ y, (Point.mk (Bytes.toNat x) y).onCurve = true := by
  constructor
  · rintro ⟨_, listed, _, same, -, point⟩
    obtain ⟨rfl, rfl⟩ := List.cons.inj same
    exact ⟨listed, point⟩
  · rintro ⟨listed, point⟩
    exact ⟨tag, listed, x, rfl, size, point⟩

theorem exists_readCompressed_iff (key : Bytes) (size : key.length = 33) :
    (∃ point, readCompressed key = some point) ↔ Compressed key := by
  obtain ⟨tag, x, rfl⟩ := List.exists_cons_of_length_eq_add_one size
  rw [Compressed, tagged_cons_iff _ _ _ (by simpa using size)]
  unfold readCompressed
  split
  case h_1 same | h_2 same =>
    obtain ⟨rfl, rfl⟩ := List.cons.inj same
    simp [Point.exists_lift_iff]
  case h_3 even odd =>
    have other : tag ≠ 2 ∧ tag ≠ 3 := ⟨fun same => even x (same ▸ rfl), fun same => odd x (same ▸ rfl)⟩
    simp [other]

theorem exists_readCompact_iff (key : Bytes) (size : key.length = 33) :
    (∃ point, readCompact key = some point) ↔ Compact key := by
  obtain ⟨tag, x, rfl⟩ := List.exists_cons_of_length_eq_add_one size
  rw [Compact, tagged_cons_iff _ _ _ (by simpa using size)]
  unfold readCompact
  split
  case h_1 same =>
    obtain ⟨rfl, rfl⟩ := List.cons.inj same
    simp [Point.exists_lift_iff]
  case h_2 even =>
    have other : tag ≠ 5 := fun same => even x (same ▸ rfl)
    simp [other]

theorem exists_readUncompressed_iff (key : Bytes) (size : key.length = 65) :
    (∃ point, readUncompressed key = some point) ↔ Uncompressed key := by
  obtain ⟨tag, coordinates, rfl⟩ := List.exists_cons_of_length_eq_add_one size
  have both : coordinates.length = 64 := by simpa using size
  unfold readUncompressed
  split
  case h_1 same =>
    obtain ⟨rfl, rfl⟩ := List.cons.inj same
    constructor
    · rintro ⟨point, found⟩
      have valid := (Option.ite_none_right_eq_some.mp found).1
      exact ⟨coordinates.take 32, coordinates.drop 32, by simp, by simp [both], by simp [both], valid⟩
    · rintro ⟨x, y, parts, first, -, valid⟩
      obtain rfl := (List.cons.inj parts).2
      rw [List.take_left' first, List.drop_left' first]
      exact ⟨_, if_pos valid⟩
  case h_2 other =>
    constructor
    · rintro ⟨_, found⟩
      cases found
    · rintro ⟨x, y, parts, -⟩
      exact absurd parts (other (x ++ y))

theorem exists_read_iff (key : Bytes) :
    (∃ point, read key = some point) ↔ Compressed key ∨ Compact key ∨ Uncompressed key := by
  have short (tags : List UInt8) := length_of_tagged tags key
  have long := length_of_uncompressed key
  unfold read
  split_ifs with tagged both
  · have apart : ¬ Uncompressed key := fun form => by simp [long form] at tagged
    rw [← exists_readCompressed_iff key tagged, ← exists_readCompact_iff key tagged]
    simp only [apart, or_false, ← Option.isSome_iff_exists, Option.isSome_or, Bool.or_eq_true]
  · have apart (tags : List UInt8) : ¬ Tagged tags key := fun form => tagged (short tags form)
    simp only [exists_readUncompressed_iff key both, Compressed, Compact, apart, false_or]
  · have apart (tags : List UInt8) : ¬ Tagged tags key := fun form => tagged (short tags form)
    have other : ¬ Uncompressed key := fun form => both (long form)
    simp [Compressed, Compact, apart, other]

end Secp256k1

open Secp256k1

namespace Bitcoin

theorem exists_readKey_iff (bytes : Bytes) :
    (∃ key, readKey bytes = .ok key) ↔ Compressed bytes ∨ Uncompressed bytes := by
  have short := length_of_tagged [2, 3] bytes
  have long := length_of_uncompressed bytes
  unfold readKey Key.read
  split_ifs with tagged both
  · have apart : ¬ Uncompressed bytes := fun form => by simp [long form] at tagged
    rw [← exists_readCompressed_iff bytes tagged]
    cases readCompressed bytes <;> simp [apart]
  · have apart : ¬ Compressed bytes := fun form => tagged (short form)
    by_cases first : bytes.headD 0 = 4
    · rw [← exists_readUncompressed_iff bytes both]
      cases readUncompressed bytes <;> simp_all
    · have other : ¬ Uncompressed bytes := by
        rintro ⟨x, y, rfl, -⟩
        exact first rfl
      simp_all
  · have apart : ¬ Compressed bytes := fun form => tagged (short form)
    have other : ¬ Uncompressed bytes := fun form => both (long form)
    simp [apart, other]

theorem exists_derive_iff (network : Network) (bytes : Bytes) :
    (∃ found, derive network bytes = .ok found) ↔ Compressed bytes ∨ Uncompressed bytes := by
  rw [← exists_readKey_iff]
  constructor
  · rintro ⟨found, derived⟩
    obtain ⟨key, read, -⟩ := (Outcome.bind_eq_ok_iff ..).mp derived
    exact ⟨key, read⟩
  · rintro ⟨key, read⟩
    obtain ⟨found, derived⟩ := exists_address network key
      (if key.compressed then .default else .legacy) (by simp [kinds_eq])
    exact ⟨found, (Outcome.bind_eq_ok_iff ..).mpr ⟨key, read, derived⟩⟩

end Bitcoin

namespace AddressBuilder

def Derives (builder : AddressBuilder) (key : Bytes) : Prop :=
  ∃ address, builder.derive key = .ok address

theorem derives_evm_iff (key : Bytes) :
    evm.Derives key ↔ Compressed key ∨ Compact key ∨ Uncompressed key := by
  rw [← exists_read_iff]
  unfold Derives derive Evm.derive
  cases Secp256k1.read key <;> simp

theorem derives_cosmos_iff (hrp : Bech32.Hrp) (key : Bytes) :
    (cosmos hrp).Derives key ↔ key.length = 33 := by
  by_cases size : key.length = 33 <;> simp [Derives, derive, cosmosKeyLength, size]

theorem derived_compressed_iff (hrp : Bech32.Hrp) (network : Bitcoin.Network) (key : Bytes) :
    (evm.Derives key ↔ Compressed key ∨ Compact key ∨ Uncompressed key) ∧
    ((bitcoin network).Derives key ↔ Compressed key ∨ Uncompressed key) ∧
    ((cosmos hrp).Derives key ↔ key.length = 33) ∧
    (((cosmos hrp).Derives key → Compressed key) ↔
      ((cosmos hrp).Derives key → (bitcoin network).Derives key)) := by
  have point : (bitcoin network).Derives key ↔ Compressed key ∨ Uncompressed key :=
    Bitcoin.exists_derive_iff network key
  have length := derives_cosmos_iff hrp key
  refine ⟨derives_evm_iff key, point, length, imp_congr_right fun derived => ?_⟩
  have apart : ¬ Uncompressed key := by
    intro form
    have size := length.mp derived
    rw [length_of_uncompressed key form] at size
    cases size
  rw [point, or_iff_left apart]

def offCurveKey : Bytes :=
  2 :: (List.replicate 31 0 ++ [5])

theorem off_curve_key_derived :
    ofCosmos { asset := "ATOM", chainPrefix := "cosmos" } = .ok (cosmos ⟨"cosmos"⟩) ∧
    (cosmos ⟨"cosmos"⟩).Derives offCurveKey ∧ ¬ Compressed offCurveKey := by
  refine ⟨by decide +kernel, (derives_cosmos_iff ..).mpr rfl, ?_⟩
  have refused : readCompressed offCurveKey = none := by decide +kernel
  rw [← exists_readCompressed_iff offCurveKey rfl, refused]
  simp

end AddressBuilder

end Multichain
