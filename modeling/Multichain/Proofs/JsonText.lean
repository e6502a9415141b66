import Mathlib
import Multichain.Json.Tree

/-!
Reading back what has been written. Every tree that could have been read is written in a way that
gives the same tree again, whatever follows it. Main statement: `read_bytes`.
-/

set_option autoImplicit false

namespace Multichain.Json

open Multichain

def Literal.Written (literal : Literal) : Prop :=
  literal.whole ≠ [] ∧ (literal.whole.head? = some 0 → literal.whole.length = 1) ∧
    (∀ digit ∈ literal.whole, digit < 10) ∧ (∀ digit ∈ literal.fraction, digit < 10) ∧
    ∀ sign digits, literal.exponent = some (sign, digits) →
      digits ≠ [] ∧ ∀ digit ∈ digits, digit < 10

def Stops (rest : Bytes) : Prop :=
  ∀ byte, rest.head? = some byte → byte = 44 ∨ byte = 93 ∨ byte = 125

theorem stops_nil : Stops [] := by
  simp [Stops]

theorem stops_cons (byte : UInt8) (rest : Bytes) (stop : byte = 44 ∨ byte = 93 ∨ byte = 125) :
    Stops (byte :: rest) := by
  intro first same
  obtain rfl : byte = first := by simpa using same
  exact stop

def NoDigit (rest : Bytes) : Prop :=
  ∀ byte, rest.head? = some byte → isDigit byte = false

def EndsNumber (rest : Bytes) : Prop :=
  ∀ byte, rest.head? = some byte → isDigit byte = false ∧ byte ≠ 46 ∧ byte ≠ 69 ∧ byte ≠ 101

theorem EndsNumber.noDigit {rest : Bytes} (stop : EndsNumber rest) : NoDigit rest :=
  fun byte first => (stop byte first).1

theorem Stops.endsNumber {rest : Bytes} (stop : Stops rest) : EndsNumber rest := by
  intro byte first
  rcases stop byte first with rfl | rfl | rfl <;> decide

theorem isDigit_digitByte : ∀ digit < 10, isDigit (digitByte digit) = true := by
  decide

theorem toNat_digitByte : ∀ digit < 10, (digitByte digit).toNat - 48 = digit := by
  decide

theorem readDigits_map (digits : List Nat) (rest : Bytes) (small : ∀ digit ∈ digits, digit < 10)
    (stop : NoDigit rest) : readDigits (digits.map digitByte ++ rest) = (digits, rest) := by
  have inside : ∀ byte ∈ digits.map digitByte, isDigit byte = true := by
    intro byte member
    obtain ⟨digit, found, rfl⟩ := List.mem_map.mp member
    exact isDigit_digitByte digit (small digit found)
  have outside : rest.takeWhile isDigit = [] ∧ rest.dropWhile isDigit = rest := by
    cases rest with
    | nil => exact ⟨rfl, rfl⟩
    | cons byte others => simp [stop byte rfl]
  have values : (digits.map digitByte).map (fun byte => byte.toNat - 48) = digits := by
    calc
      (digits.map digitByte).map (fun byte => byte.toNat - 48)
          = digits.map fun digit => (digitByte digit).toNat - 48 := List.map_map
      _ = digits.map id := List.map_congr_left fun digit member =>
          toNat_digitByte digit (small digit member)
      _ = digits := List.map_id digits
  rw [readDigits, List.takeWhile_append_of_pos inside, List.dropWhile_append_of_pos inside,
    outside.1, outside.2, List.append_nil, values]

def fractionBytes (fraction : List Nat) : Bytes :=
  if fraction = [] then [] else 46 :: fraction.map digitByte

def exponentBytes : Option (ExponentSign × List Nat) → Bytes
  | none => []
  | some (.plain, digits) => 101 :: digits.map digitByte
  | some (.plus, digits) => 101 :: 43 :: digits.map digitByte
  | some (.minus, digits) => 101 :: 45 :: digits.map digitByte

theorem Literal.bytes_eq (literal : Literal) :
    literal.bytes = (if literal.negative then [45] else []) ++ (literal.whole.map digitByte ++
      (fractionBytes literal.fraction ++ exponentBytes literal.exponent)) := by
  simp only [Literal.bytes, fractionBytes, List.append_assoc]
  rfl

theorem readExponentSign_digits (digits : List Nat) (rest : Bytes) (present : digits ≠ [])
    (small : ∀ digit ∈ digits, digit < 10) :
    readExponentSign (digits.map digitByte ++ rest) = (.plain, digits.map digitByte ++ rest) := by
  have unsigned : ∀ digit < 10, digitByte digit ≠ 43 ∧ digitByte digit ≠ 45 := by decide
  cases digits with
  | nil => exact absurd rfl present
  | cons first others =>
    obtain ⟨plus, minus⟩ := unsigned first (small first (by simp))
    simp only [List.map_cons, List.cons_append]
    unfold readExponentSign
    split <;> simp_all

theorem readExponent_signed (sign : ExponentSign) (digits : List Nat) (text rest : Bytes)
    (signed : readExponentSign text = (sign, digits.map digitByte ++ rest)) (present : digits ≠ [])
    (small : ∀ digit ∈ digits, digit < 10) (stop : NoDigit rest) :
    readExponent (101 :: text) = some (some (sign, digits), rest) := by
  simp only [readExponent, true_or, if_true, signed, readDigits_map digits rest small stop]

theorem readExponent_bytes (exponent : Option (ExponentSign × List Nat)) (rest : Bytes)
    (written : ∀ sign digits, exponent = some (sign, digits) →
      digits ≠ [] ∧ ∀ digit ∈ digits, digit < 10) (stop : EndsNumber rest) :
    readExponent (exponentBytes exponent ++ rest) = some (exponent, rest) := by
  match exponent with
  | none =>
    cases rest with
    | nil => rfl
    | cons byte others =>
      obtain ⟨-, -, upper, lower⟩ := stop byte rfl
      have other : ¬ (byte = 101 ∨ byte = 69) := by simp [lower, upper]
      simp [exponentBytes, readExponent, other]
  | some (sign, digits) =>
    obtain ⟨present, small⟩ := written sign digits rfl
    cases sign with
    | plain =>
      have unsigned := readExponentSign_digits digits rest present small
      exact readExponent_signed .plain digits _ rest unsigned present small stop.noDigit
    | plus => exact readExponent_signed .plus digits _ rest rfl present small stop.noDigit
    | minus => exact readExponent_signed .minus digits _ rest rfl present small stop.noDigit

theorem exponentBytes_head (exponent : Option (ExponentSign × List Nat)) (rest : Bytes)
    (stop : EndsNumber rest) (byte : UInt8)
    (head : (exponentBytes exponent ++ rest).head? = some byte) :
    isDigit byte = false ∧ byte ≠ 46 := by
  match exponent with
  | none => exact ⟨(stop byte head).1, (stop byte head).2.1⟩
  | some (sign, digits) =>
    have mark : byte = 101 := by cases sign <;> simpa [exponentBytes, eq_comm] using head
    subst mark
    decide

theorem readFraction_bytes (fraction : List Nat) (rest : Bytes)
    (small : ∀ digit ∈ fraction, digit < 10)
    (stop : ∀ byte, rest.head? = some byte → isDigit byte = false ∧ byte ≠ 46) :
    readFraction (fractionBytes fraction ++ rest) = some (fraction, rest) := by
  cases fraction with
  | nil =>
    cases rest with
    | nil => rfl
    | cons byte others =>
      have point := (stop byte rfl).2
      simp only [fractionBytes, if_true, List.nil_append]
      unfold readFraction
      split <;> simp_all
  | cons digit others =>
    have read := readDigits_map (digit :: others) rest small fun byte head => (stop byte head).1
    simp only [fractionBytes, List.cons_append, reduceCtorEq, if_false, readFraction, read]

theorem readWhole_map (whole : List Nat) (rest : Bytes) (present : whole ≠ [])
    (single : whole.head? = some 0 → whole.length = 1) (small : ∀ digit ∈ whole, digit < 10)
    (stop : NoDigit rest) : readWhole (whole.map digitByte ++ rest) = some (whole, rest) := by
  rw [readWhole, readDigits_map whole rest small stop]
  match whole with
  | [] => exact absurd rfl present
  | [digit] => cases digit <;> rfl
  | first :: second :: others =>
    have nonzero : first ≠ 0 := by
      intro zero
      simpa using single (by simp [zero])
    split <;> simp_all

theorem readLiteral_bytes (literal : Literal) (rest : Bytes) (written : literal.Written)
    (stop : EndsNumber rest) :
    readLiteral literal.negative (literal.whole.map digitByte ++
      (fractionBytes literal.fraction ++ exponentBytes literal.exponent) ++ rest) =
        some (literal, rest) := by
  obtain ⟨present, single, smallWhole, smallFraction, exponent⟩ := written
  have head := exponentBytes_head literal.exponent rest stop
  have noDigit :
      NoDigit (fractionBytes literal.fraction ++ (exponentBytes literal.exponent ++ rest)) := by
    intro byte first
    by_cases none : literal.fraction = []
    · simp only [fractionBytes, none, if_true, List.nil_append] at first
      exact (head byte first).1
    · simp only [fractionBytes, none, if_false, List.cons_append, List.head?_cons,
        Option.some.injEq] at first
      subst first
      decide
  simp only [readLiteral, List.append_assoc, Option.bind_eq_bind, Option.bind_some,
    readWhole_map literal.whole _ present single smallWhole noDigit,
    readFraction_bytes literal.fraction _ smallFraction head,
    readExponent_bytes literal.exponent rest exponent stop]
  rfl

def Piece.Written : Piece → Prop
  | .byte value => 32 ≤ value ∨ value ∈ [8, 9, 10, 12, 13]
  | .unit _ => True

theorem hexValue?_hexByte : ∀ digit < 16, hexValue? (hexByte digit) = some digit := by
  decide

theorem readUnit_hexBytes (value : UInt16) :
    readUnit (hexByte (value.toNat / 4096)) (hexByte (value.toNat / 256 % 16))
      (hexByte (value.toNat / 16 % 16)) (hexByte (value.toNat % 16)) = some (.unit value) := by
  have bound := value.toNat_lt
  have code : value.toNat / 4096 * 4096 + value.toNat / 256 % 16 * 256 +
      value.toNat / 16 % 16 * 16 + value.toNat % 16 = value.toNat := by omega
  simp only [readUnit, hexValue?_hexByte _ (show value.toNat / 4096 < 16 by omega),
    hexValue?_hexByte _ (Nat.mod_lt _ (show 0 < 16 by omega)), Option.bind_eq_bind,
    Option.bind_some, code, UInt16.ofNat_toNat]
  rfl

theorem readPieces_escape (letter value : UInt8) (more : Bytes)
    (known : escaped? letter = some value) :
    readPieces (92 :: letter :: more) =
      (readPieces more).map fun (pieces, rest) => (.byte value :: pieces, rest) := by
  have short : letter ≠ 117 := by
    rintro rfl
    simp [escaped?] at known
  rw [readPieces, known]
  · cases readPieces more <;> rfl
  · intro _ _ _ _ _ unit
    exact absurd unit short

theorem readPieces_plain (byte : UInt8) (more : Bytes) (printable : 32 ≤ byte) (quote : byte ≠ 34)
    (backslash : byte ≠ 92) :
    readPieces (byte :: more) =
      (readPieces more).map fun (pieces, rest) => (.byte byte :: pieces, rest) := by
  have allowed : ¬ (byte < 32 ∨ byte = 92) := by
    simp [backslash, printable]
  rw [readPieces]
  · rw [if_neg allowed]
    cases readPieces more <;> rfl
  · simpa using quote
  all_goals simp [backslash]

theorem Piece.bytes_plain (value : UInt8) (plain : value ∉ [8, 9, 10, 12, 13, 34, 92]) :
    (Piece.byte value).bytes = [value] := by
  simp only [List.mem_cons, List.not_mem_nil, or_false, not_or] at plain
  unfold Piece.bytes
  split <;> simp_all

theorem readPieces_piece (piece : Piece) (more : Bytes) (written : piece.Written) :
    readPieces (piece.bytes ++ more) =
      (readPieces more).map fun (pieces, rest) => (piece :: pieces, rest) := by
  cases piece with
  | unit value =>
    simp only [Piece.bytes, List.cons_append, List.nil_append, readPieces, readUnit_hexBytes]
    cases readPieces more <;> rfl
  | byte value =>
    by_cases short : value ∈ [8, 9, 10, 12, 13, 34, 92]
    · simp only [List.mem_cons, List.not_mem_nil, or_false] at short
      rcases short with rfl | rfl | rfl | rfl | rfl | rfl | rfl <;>
        exact readPieces_escape _ _ more rfl
    · rw [Piece.bytes_plain value short]
      simp only [List.mem_cons, List.not_mem_nil, or_false, not_or] at short
      obtain ⟨b, t, n, f, r, quote, backslash⟩ := short
      have printable : 32 ≤ value := by
        simpa [Piece.Written, b, t, n, f, r] using written
      exact readPieces_plain value more printable quote backslash

theorem readPieces_bytes (pieces : List Piece) (rest : Bytes)
    (written : ∀ piece ∈ pieces, piece.Written) :
    readPieces (pieces.flatMap Piece.bytes ++ 34 :: rest) = some (pieces, rest) := by
  induction pieces with
  | nil => simp [readPieces]
  | cons piece others ih =>
    have after := ih fun other member => written other (by simp [member])
    rw [List.flatMap_cons, List.append_assoc, readPieces_piece piece _ (written piece (by simp)),
      after, Option.map_some]

mutual

def Tree.Written : Tree → Prop
  | .null | .bool _ => True
  | .number literal => literal.Written
  | .string pieces => ∀ piece ∈ pieces, piece.Written
  | .array items => ItemsWritten items
  | .object members => MembersWritten members

def ItemsWritten : List Tree → Prop
  | [] => True
  | item :: rest => item.Written ∧ ItemsWritten rest

def MembersWritten : List (List Piece × Tree) → Prop
  | [] => True
  | (name, value) :: rest =>
    (∀ piece ∈ name, piece.Written) ∧ value.Written ∧ MembersWritten rest

end

theorem skipSpace_cons (byte : UInt8) (rest : Bytes) (other : isSpace byte = false) :
    skipSpace (byte :: rest) = byte :: rest := by
  simp [skipSpace, other]

theorem Stops.skipSpace {rest : Bytes} (stop : Stops rest) : skipSpace rest = rest := by
  cases rest with
  | nil => rfl
  | cons byte others =>
    apply skipSpace_cons
    rcases stop byte rfl with rfl | rfl | rfl <;> decide

theorem Literal.bytes_head (literal : Literal) (written : literal.Written) :
    ∃ byte rest, literal.bytes = byte :: rest ∧ isSpace byte = false ∧ byte ≠ 93 := by
  have other : ∀ digit < 10, isSpace (digitByte digit) = false ∧ digitByte digit ≠ 93 := by decide
  obtain ⟨present, -, small, -, -⟩ := written
  obtain ⟨negative, whole, fraction, exponent⟩ := literal
  cases negative with
  | true => exact ⟨45, _, rfl, by decide⟩
  | false =>
    cases whole with
    | nil => exact absurd rfl present
    | cons digit others => exact ⟨digitByte digit, _, rfl, other digit (small digit (by simp))⟩

theorem Tree.bytes_head (tree : Tree) (written : tree.Written) :
    ∃ byte rest, tree.bytes = byte :: rest ∧ isSpace byte = false ∧ byte ≠ 93 := by
  cases tree with
  | null => exact ⟨110, _, rfl, by decide⟩
  | bool value => cases value <;> exact ⟨_, _, rfl, by decide⟩
  | number literal => exact literal.bytes_head written
  | string pieces => exact ⟨34, _, rfl, by decide⟩
  | array items => cases items <;> exact ⟨91, _, rfl, by decide⟩
  | object members => cases members <;> exact ⟨123, _, rfl, by decide⟩

theorem readTree_number (fuel : Nat) (literal : Literal) (rest : Bytes) (written : literal.Written)
    (stop : EndsNumber rest) :
    readTree (fuel + 1) (literal.bytes ++ rest) = some (.number literal, rest) := by
  have read := readLiteral_bytes literal rest written stop
  rw [Literal.bytes_eq]
  cases sign : literal.negative with
  | true =>
    rw [sign] at read
    simp only [if_true, List.cons_append, List.nil_append, readTree,
      skipSpace_cons 45 _ (by decide), read, Option.map_some]
  | false =>
    have letters : ∀ digit < 10, digitByte digit ∉ [110, 116, 102, 34, 45, 91, 123] ∧
        isSpace (digitByte digit) = false := by decide
    obtain ⟨present, -, small, -, -⟩ := written
    rw [sign] at read
    cases whole : literal.whole with
    | nil => exact absurd whole present
    | cons digit others =>
      obtain ⟨other, space⟩ := letters digit (small digit (by simp [whole]))
      rw [whole] at read
      simp only [List.map_cons, List.cons_append] at read
      simp only [Bool.false_eq_true, if_false, List.nil_append, List.map_cons, List.cons_append]
      unfold readTree
      rw [skipSpace_cons _ _ space]
      split <;> simp_all

theorem stops_itemBytes (items : List Tree) (rest : Bytes) : Stops (itemBytes items ++ rest) := by
  cases items <;> simp [itemBytes, stops_cons]

theorem stops_memberBytes (members : List (List Piece × Tree)) (rest : Bytes) :
    Stops (memberBytes members ++ rest) := by
  cases members <;> simp [memberBytes, stops_cons]

theorem readName_bytes (name : List Piece) (rest : Bytes) (written : ∀ piece ∈ name, piece.Written) :
    readName (stringBytes name ++ 58 :: rest) = some (name, rest) := by
  have read := readPieces_bytes name (58 :: rest) written
  simp only [readName, stringBytes, List.cons_append, List.append_assoc, List.nil_append,
    skipSpace_cons 34 _ (by decide), read, Option.bind_eq_bind, Option.bind_some,
    skipSpace_cons 58 _ (by decide)]
  rfl

theorem stringBytes_length (pieces : List Piece) : 2 ≤ (stringBytes pieces).length := by
  simp [stringBytes]

theorem Tree.bytes_length (tree : Tree) (written : tree.Written) : 1 ≤ tree.bytes.length := by
  obtain ⟨byte, rest, bytes, -⟩ := tree.bytes_head written
  simp [bytes]

theorem itemBytes_length (items : List Tree) : 1 ≤ (itemBytes items).length := by
  cases items <;> simp [itemBytes]

-- The induction follows the tree. The fuel is bounded by the bytes that are left, since every tree,
-- comma and name takes at least one of them.
mutual

theorem readTree_bytes : ∀ (tree : Tree) (fuel : Nat) (rest : Bytes), tree.Written → Stops rest →
    tree.bytes.length ≤ fuel → readTree (fuel + 1) (tree.bytes ++ rest) = some (tree, rest)
  | .null, fuel, rest, _, _, _ => by
    simp [Tree.bytes, readTree, skipSpace_cons 110 _ (by decide)]
  | .bool true, fuel, rest, _, _, _ => by
    simp [Tree.bytes, readTree, skipSpace_cons 116 _ (by decide)]
  | .bool false, fuel, rest, _, _, _ => by
    simp [Tree.bytes, readTree, skipSpace_cons 102 _ (by decide)]
  | .number literal, fuel, rest, written, stop, _ =>
    readTree_number fuel literal rest written stop.endsNumber
  | .string pieces, fuel, rest, written, _, _ => by
    have read := readPieces_bytes pieces rest written
    simp [Tree.bytes, stringBytes, readTree, skipSpace_cons 34 _ (by decide), read]
  | .array [], fuel, rest, _, _, _ => by
    simp [Tree.bytes, readTree, skipSpace_cons 91 _ (by decide), skipSpace_cons 93 _ (by decide)]
  | .array (first :: others), fuel, rest, written, stop, enough => by
    have read := readItems_bytes first others fuel rest written stop (by
      simpa [Tree.bytes] using enough)
    obtain ⟨byte, after, bytes, space, other⟩ := first.bytes_head written.1
    rw [bytes, List.cons_append] at read
    simp only [Tree.bytes, bytes, List.cons_append, List.append_assoc, readTree,
      skipSpace_cons 91 _ (by decide), skipSpace_cons byte _ space]
    split
    case h_1 same => exact absurd (List.cons.inj same).1 other
    case h_2 => rw [read, Option.map_some]
  | .object [], fuel, rest, _, _, _ => by
    simp [Tree.bytes, readTree, skipSpace_cons 123 _ (by decide), skipSpace_cons 125 _ (by decide)]
  | .object ((name, value) :: others), fuel, rest, written, stop, enough => by
    have read := readMembers_bytes name value others fuel rest written stop (by
      simpa [Tree.bytes] using enough)
    have start : ∃ after, stringBytes name ++ 58 :: (value.bytes ++ (memberBytes others ++ rest)) =
        34 :: after := ⟨_, rfl⟩
    obtain ⟨after, quoted⟩ := start
    rw [quoted] at read
    simp only [Tree.bytes, List.cons_append, List.append_assoc, quoted, readTree,
      skipSpace_cons 123 _ (by decide), skipSpace_cons 34 _ (by decide)]
    split
    case h_1 same => exact absurd (List.cons.inj same).1 (by decide)
    case h_2 => rw [read, Option.map_some]
termination_by _ fuel => fuel + 1

theorem readItems_bytes : ∀ (first : Tree) (others : List Tree) (fuel : Nat) (rest : Bytes),
    ItemsWritten (first :: others) → Stops rest →
    (first.bytes ++ itemBytes others).length < fuel →
    readItems fuel (first.bytes ++ (itemBytes others ++ rest)) = some (first :: others, rest)
  | first, others, fuel, rest, written, stop, enough => by
    have stopped := stops_itemBytes others rest
    have firstLength := first.bytes_length written.1
    have othersLength := itemBytes_length others
    rw [List.length_append] at enough
    obtain ⟨fuel, rfl⟩ : ∃ less, fuel = less + 2 := ⟨fuel - 2, by omega⟩
    have read := readTree_bytes first fuel (itemBytes others ++ rest) written.1 stopped (by omega)
    rw [readItems, read]
    simp only [Option.bind_eq_bind, Option.bind_some, stopped.skipSpace]
    cases others with
    | nil => rfl
    | cons second more =>
      simp only [itemBytes, List.length_cons, List.length_append] at enough
      have after := readItems_bytes second more (fuel + 1) rest written.2 stop (by
        rw [List.length_append]
        omega)
      simp only [itemBytes, List.cons_append, List.append_assoc, after]
      rfl
termination_by _ _ fuel => fuel

theorem readMembers_bytes : ∀ (name : List Piece) (value : Tree)
    (others : List (List Piece × Tree)) (fuel : Nat) (rest : Bytes),
    MembersWritten ((name, value) :: others) → Stops rest →
    (stringBytes name ++ 58 :: (value.bytes ++ memberBytes others)).length < fuel →
    readMembers fuel (stringBytes name ++ 58 :: (value.bytes ++ (memberBytes others ++ rest))) =
      some ((name, value) :: others, rest)
  | name, value, others, fuel, rest, written, stop, enough => by
    have stopped := stops_memberBytes others rest
    have nameLength := stringBytes_length name
    simp only [List.length_append, List.length_cons] at enough
    obtain ⟨fuel, rfl⟩ : ∃ less, fuel = less + 2 := ⟨fuel - 2, by omega⟩
    have read := readTree_bytes value fuel (memberBytes others ++ rest) written.2.1 stopped (by omega)
    rw [readMembers, readName_bytes name _ written.1]
    simp only [read, Option.bind_eq_bind, Option.bind_some, stopped.skipSpace]
    cases others with
    | nil => rfl
    | cons second more =>
      obtain ⟨nextName, nextValue⟩ := second
      simp only [memberBytes, List.length_cons, List.length_append] at enough
      have after := readMembers_bytes nextName nextValue more (fuel + 1) rest written.2.2 stop (by
        simp only [List.length_append, List.length_cons]
        omega)
      simp only [memberBytes, List.cons_append, List.append_assoc, after]
      rfl
termination_by _ _ _ fuel => fuel

end

theorem read_bytes (tree : Tree) (written : tree.Written) : Tree.read tree.bytes = some tree := by
  have read := readTree_bytes tree (2 * tree.bytes.length + 1) [] written stops_nil (by omega)
  rw [List.append_nil] at read
  rw [Tree.read, read]
  rfl

end Multichain.Json
