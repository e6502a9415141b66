import Mathlib
import Multichain.Text.Casing

/-!
Upper case settles after one pass: a character that upper case has produced is its own upper case.
Main statements: `upper_upper`, and `dot_mem_upper`, by which upper case neither makes nor removes a
dot.
-/

set_option autoImplicit false

namespace Multichain.Text

def mappedRuns : List CaseRun :=
  specialUpper.map (fun (code, _) => ⟨code, code, 1, code⟩) ++ upperRuns

-- The dot is left out, so that a settled code point is no dot either.
def settled (code : Nat) : Bool :=
  decide code.isValidChar && code != 46 &&
    if code < 0x80 then !(97 ≤ code && code ≤ 122) else mappedRuns.all fun run => !run.holds code

namespace CaseRun

def lastImage (run : CaseRun) : Nat :=
  run.image + (run.last - run.first)

-- Two runs lie apart, or meet in steps of two on opposite parities.
def avoids (run other : CaseRun) : Bool :=
  Nat.blt run.lastImage other.first || Nat.blt other.last run.image ||
    ((run.stride == 2 || run.first == run.last) && other.stride == 2 &&
      (run.image + other.first) % 2 == 1)

def lands (run : CaseRun) : Bool :=
  Nat.blt 46 run.image && (Nat.blt run.lastImage 97 || Nat.ble 0x80 run.image) &&
    (Nat.blt run.lastImage 0xD800 || (Nat.ble 0xE000 run.image && Nat.blt run.lastImage 0x110000))

theorem holds_iff (run : CaseRun) (code : Nat) :
    run.holds code = true ↔
      run.first ≤ code ∧ code ≤ run.last ∧ (code - run.first) % run.stride = 0 := by
  simp [holds, and_assoc]

theorem holds_image_of_avoids (run other : CaseRun) (code : Nat) (inside : run.holds code = true)
    (apart : run.avoids other = true) : other.holds (run.image + (code - run.first)) = false := by
  rw [holds_iff] at inside
  obtain ⟨low, high, step⟩ := inside
  rw [Bool.eq_false_iff, ne_eq, holds_iff]
  rintro ⟨otherLow, otherHigh, otherStep⟩
  simp only [avoids, lastImage, Bool.or_eq_true, Bool.and_eq_true, Nat.blt_eq, beq_iff_eq] at apart
  rcases apart with (before | after) | ⟨⟨stride | single, otherStride⟩, parity⟩
  · omega
  · omega
  · rw [stride] at step
    rw [otherStride] at otherStep
    omega
  · rw [otherStride] at otherStep
    omega

end CaseRun

theorem special_settled :
    (specialUpper.all fun (_, codes) => !codes.isEmpty && codes.all settled) = true := by
  decide +kernel

theorem runs_settled :
    (upperRuns.all fun run => run.lands && mappedRuns.all run.avoids) = true := by
  decide +kernel

theorem settled_of_run (run : CaseRun) (code : Nat) (member : run ∈ upperRuns)
    (inside : run.holds code = true) : settled (run.image + (code - run.first)) = true := by
  have checked := List.all_eq_true.mp runs_settled run member
  rw [Bool.and_eq_true, List.all_eq_true] at checked
  obtain ⟨lands, apart⟩ := checked
  have bounds := (CaseRun.holds_iff run code).mp inside
  simp only [CaseRun.lands, CaseRun.lastImage, Bool.and_eq_true, Bool.or_eq_true, Nat.blt_eq,
    Nat.ble_eq] at lands
  have valid : (run.image + (code - run.first)).isValidChar := by
    simp only [Nat.isValidChar]
    omega
  have unmapped : (mappedRuns.all fun other =>
      !other.holds (run.image + (code - run.first))) = true := by
    rw [List.all_eq_true]
    intro other found
    simp [CaseRun.holds_image_of_avoids run other code inside (apart other found)]
  simp only [settled, valid, unmapped, Bool.and_eq_true, decide_true, bne_iff_ne, ne_eq, true_and]
  refine ⟨by omega, ?_⟩
  split
  · simp only [Bool.not_eq_true', Bool.and_eq_false_iff, decide_eq_false_iff_not]
    omega
  · rfl

theorem settled_of_mem_upperCodes (code image : Nat) (changed : upperCodes code ≠ [code])
    (member : image ∈ upperCodes code) : settled image = true := by
  unfold upperCodes at changed member
  cases special : specialUpper.find? (·.1 == code) with
  | some entry =>
    simp only [special] at member
    have checked := List.all_eq_true.mp special_settled entry (List.mem_of_find?_eq_some special)
    rw [Bool.and_eq_true] at checked
    exact List.all_eq_true.mp checked.2 image member
  | none =>
    simp only [special] at changed member
    cases found : upperRuns.find? (·.holds code) with
    | some run =>
      simp only [found, List.mem_singleton] at member
      subst member
      have inside : run.holds code = true := by simpa using List.find?_some found
      exact settled_of_run run code (List.mem_of_find?_eq_some found) inside
    | none => simp [found] at changed

theorem ascii_settled : ∀ code < 0x80, (Char.ofNat code).toUpper ≠ Char.ofNat code →
    settled (Char.ofNat code).toUpper.toNat = true := by
  decide

theorem settled_of_mem_upperChar (char image : Char) (changed : upperChar char ≠ [char])
    (member : image ∈ upperChar char) : settled image.toNat = true := by
  unfold upperChar at changed member
  by_cases ascii : char.toNat < 0x80
  · simp only [ascii, if_true, List.mem_singleton, ne_eq, List.cons.injEq, and_true] at changed member
    have checked := ascii_settled char.toNat ascii
    rw [Char.ofNat_toNat] at checked
    exact member ▸ checked changed
  · simp only [ascii, if_false, List.mem_map] at changed member
    obtain ⟨code, found, rfl⟩ := member
    have moved : upperCodes char.toNat ≠ [char.toNat] := by
      intro same
      simp [same] at changed
    have checked := settled_of_mem_upperCodes char.toNat code moved found
    have valid : code.isValidChar := by
      simp only [settled, Bool.and_eq_true, decide_eq_true_eq] at checked
      exact checked.1.1
    rwa [Char.toNat_ofNat, if_pos valid]

theorem upperCodes_of_unmapped (code : Nat) (unmapped : ∀ run ∈ mappedRuns, run.holds code = false) :
    upperCodes code = [code] := by
  have noSpecial : specialUpper.find? (·.1 == code) = none := by
    rw [List.find?_eq_none]
    intro entry member same
    have apart := unmapped ⟨entry.1, entry.1, 1, entry.1⟩
      (List.mem_append_left _ (List.mem_map_of_mem member))
    simp_all [CaseRun.holds]
  have noRun : upperRuns.find? (·.holds code) = none := by
    rw [List.find?_eq_none]
    intro run member
    simp [unmapped run (List.mem_append_right _ member)]
  simp [upperCodes, noSpecial, noRun]

theorem upperChar_of_settled (char : Char) (rest : settled char.toNat = true) :
    upperChar char = [char] := by
  simp only [settled, Bool.and_eq_true] at rest
  obtain ⟨-, unmapped⟩ := rest
  unfold upperChar
  by_cases ascii : char.toNat < 0x80
  · have notLower : ¬ char.isLower := by
      simp only [ascii, if_true, Bool.not_eq_true', Bool.and_eq_false_iff,
        decide_eq_false_iff_not] at unmapped
      simp only [Char.isLower, UInt32.le_iff_toNat_le, Char.toNat_val, Bool.and_eq_true,
        decide_eq_true_eq, Char.reduceVal, UInt32.reduceToNat, ge_iff_le]
      omega
    simp [ascii, Char.toUpper_eq_of_not_isLower notLower]
  · have apart : ∀ run ∈ mappedRuns, run.holds char.toNat = false := by
      simpa [ascii] using unmapped
    simp [ascii, upperCodes_of_unmapped _ apart]

theorem upperChar_of_mem (char image : Char) (member : image ∈ upperChar char) :
    upperChar image = [image] := by
  by_cases same : upperChar char = [char]
  · rw [same, List.mem_singleton] at member
    rw [member, same]
  · exact upperChar_of_settled image (settled_of_mem_upperChar char image same member)

theorem dot_mem_upperChar (char : Char) : '.' ∈ upperChar char ↔ char = '.' := by
  constructor
  · intro member
    by_cases same : upperChar char = [char]
    · rw [same, List.mem_singleton] at member
      exact member.symm
    · have rest := settled_of_mem_upperChar char '.' same member
      simp [settled] at rest
  · rintro rfl
    decide

theorem upperCodes_ne_nil (code : Nat) : upperCodes code ≠ [] := by
  unfold upperCodes
  cases special : specialUpper.find? (·.1 == code) with
  | some entry =>
    have checked := List.all_eq_true.mp special_settled entry (List.mem_of_find?_eq_some special)
    intro empty
    simp [empty] at checked
  | none => cases upperRuns.find? (·.holds code) <;> simp

theorem upperChar_ne_nil (char : Char) : upperChar char ≠ [] := by
  unfold upperChar
  split <;> simp [upperCodes_ne_nil]

theorem toList_upper (text : String) : (upper text).toList = text.toList.flatMap upperChar := by
  simp [upper]

theorem flatMap_upperChar_of_settled (chars : List Char)
    (rest : ∀ char ∈ chars, upperChar char = [char]) : chars.flatMap upperChar = chars := by
  induction chars with
  | nil => rfl
  | cons char others ih =>
    rw [List.flatMap_cons, rest char (by simp), ih fun other member => rest other (by simp [member])]
    rfl

@[simp]
theorem upper_upper (text : String) : upper (upper text) = upper text := by
  apply String.toList_injective
  rw [toList_upper, flatMap_upperChar_of_settled]
  intro image member
  rw [toList_upper, List.mem_flatMap] at member
  obtain ⟨char, _, found⟩ := member
  exact upperChar_of_mem char image found

@[simp]
theorem dot_mem_upper (text : String) : '.' ∈ (upper text).toList ↔ '.' ∈ text.toList := by
  rw [toList_upper, List.mem_flatMap]
  constructor
  · rintro ⟨char, member, found⟩
    rw [dot_mem_upperChar] at found
    exact found ▸ member
  · intro member
    exact ⟨'.', member, (dot_mem_upperChar '.').mpr rfl⟩

@[simp]
theorem upper_eq_empty (text : String) : upper text = "" ↔ text = "" := by
  constructor
  · intro empty
    rw [← String.toList_eq_nil_iff, toList_upper, List.flatMap_eq_nil_iff] at empty
    rw [← String.toList_eq_nil_iff, List.eq_nil_iff_forall_not_mem]
    exact fun char member => upperChar_ne_nil char (empty char member)
  · rintro rfl
    rfl

theorem eq_empty_congr (text other : String) (same : upper text = upper other) :
    text = "" ↔ other = "" := by
  rw [← upper_eq_empty, same, upper_eq_empty]

theorem upper_append (first second : String) :
    upper (first ++ second) = upper first ++ upper second := by
  simp [upper]

end Multichain.Text
