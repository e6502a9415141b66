import Mathlib
import Multichain.Proofs.JsonGrammar

/-!
Reading what the grammar has. Every document without floating-point numbers is read as the value
that it spells, with the members of objects in order. Main statement: `read_document`.
-/

set_option autoImplicit false

namespace Multichain.Json

open Multichain

theorem skipSpace_append (gap bytes : Bytes) (blank : Blank gap) :
    skipSpace (gap ++ bytes) = skipSpace bytes := by
  refine List.dropWhile_append_of_pos fun byte member => ?_
  rcases blank byte member with rfl | rfl | rfl | rfl <;> decide

theorem skipSpace_skipSpace (bytes : Bytes) : skipSpace (skipSpace bytes) = skipSpace bytes :=
  List.dropWhile_idempotent _ _

theorem readTree_skipSpace (fuel : Nat) (bytes : Bytes) :
    readTree fuel (skipSpace bytes) = readTree fuel bytes := by
  cases fuel with
  | zero => rfl
  | succ fuel => simp only [readTree, skipSpace_skipSpace]

theorem readItems_skipSpace (fuel : Nat) (bytes : Bytes) :
    readItems fuel (skipSpace bytes) = readItems fuel bytes := by
  cases fuel with
  | zero => rfl
  | succ fuel => simp only [readItems, readTree_skipSpace]

theorem readMembers_skipSpace (fuel : Nat) (bytes : Bytes) :
    readMembers fuel (skipSpace bytes) = readMembers fuel bytes := by
  cases fuel with
  | zero => rfl
  | succ fuel => simp only [readMembers, readName, skipSpace_skipSpace]

theorem skipSpace_stop (gap : Bytes) (byte : UInt8) (rest : Bytes) (blank : Blank gap)
    (sign : isSpace byte = false) : skipSpace (gap ++ byte :: rest) = byte :: rest := by
  rw [skipSpace_append gap _ blank, skipSpace_cons byte rest sign]

theorem endsNumber_gap (gap rest : Bytes) (blank : Blank gap) (stop : Stops rest) :
    EndsNumber (gap ++ rest) := by
  cases gap with
  | nil => exact stop.endsNumber
  | cons byte others =>
    intro first same
    obtain rfl : byte = first := by simpa using same
    rcases blank byte (by simp) with rfl | rfl | rfl | rfl <;> decide

/-- The tree is taken for the value, with the members in order, wherever there is room for all that
stands within one another. -/
def Tree.Means (tree : Tree) (value : Value) : Prop :=
  ∀ depth found, tree.value? depth = some found ↔ value.Fits depth ∧ value.sorted = found

theorem itemValues?_eq_some_iff (depth : Nat) (trees : List Tree) (values found : List Value)
    (each : List.Forall₂ Tree.Means trees values) :
    itemValues? depth trees = some found ↔
      (∀ value ∈ values, value.Fits depth) ∧ sortedItems values = found := by
  induction each generalizing found with
  | nil => simp [itemValues?, sortedItems]
  | cons head tail ih =>
    simp only [itemValues?, Option.bind_eq_bind, Option.bind_eq_some_iff, head depth, ih,
      Option.pure_def, Option.some_inj, List.forall_mem_cons, sortedItems, and_assoc,
      exists_and_left, exists_eq_left']

theorem means_of_value? (tree : Tree) (value : Value) (fits : ∀ depth, value.Fits depth)
    (read : ∀ depth, tree.value? depth = some value.sorted) : tree.Means value := by
  intro depth found
  simp [read depth, fits depth]

def MeansMember (tree : List Piece × Tree) (member : String × Value) : Prop :=
  string? tree.1 = some member.1 ∧ tree.2.Means member.2

theorem memberValues?_eq_some_iff (depth : Nat) (trees : List (List Piece × Tree))
    (members found : List (String × Value)) (each : List.Forall₂ MeansMember trees members) :
    memberValues? depth trees = some found ↔
      (∀ member ∈ members, member.2.Fits depth) ∧ sortedMembers members = found := by
  induction each generalizing found with
  | nil => simp [memberValues?, sortedMembers]
  | cons head tail ih =>
    obtain ⟨name, value⟩ := head
    simp only [memberValues?, Option.bind_eq_bind, name, Option.bind_some, Option.bind_eq_some_iff,
      value depth, ih, Option.pure_def, Option.some_inj, List.forall_mem_cons, sortedMembers,
      and_assoc, exists_and_left, exists_eq_left']

theorem means_array (trees : List Tree) (values : List Value)
    (each : List.Forall₂ Tree.Means trees values) : (Tree.array trees).Means (.array values) := by
  intro depth found
  cases depth with
  | zero =>
    simp only [Tree.value?, reduceCtorEq, false_iff]
    rintro ⟨⟨⟩, -⟩
  | succ depth =>
    simp only [Tree.value?, Option.map_eq_some_iff, itemValues?_eq_some_iff depth trees values _ each,
      fits_array, Value.sorted, and_assoc, exists_and_left, exists_eq_left']

theorem means_object (trees : List (List Piece × Tree)) (members : List (String × Value))
    (each : List.Forall₂ MeansMember trees members) :
    (Tree.object trees).Means (.object members) := by
  intro depth found
  cases depth with
  | zero =>
    simp only [Tree.value?, reduceCtorEq, false_iff]
    rintro ⟨⟨⟩, -⟩
  | succ depth =>
    simp only [Tree.value?, Option.map_eq_some_iff,
      memberValues?_eq_some_iff depth trees members _ each, fits_object, Value.sorted, and_assoc,
      exists_and_left, exists_eq_left']

def ReadsAs (text : Bytes) (value : Value) : Prop :=
  ∀ fuel rest, EndsNumber rest → text.length ≤ fuel →
    ∃ tree, readTree (fuel + 1) (text ++ rest) = some (tree, rest) ∧ tree.Means value

def Starts (text : Bytes) : Prop :=
  ∃ byte rest, text = byte :: rest ∧ isSpace byte = false ∧ byte ≠ 93

structure Slot.Readable (slot : Slot) : Prop where
  before : Blank slot.before
  behind : Blank slot.behind
  starts : Starts slot.text
  reads : ReadsAs slot.text slot.value

structure Entry.Readable (entry : Entry) : Prop where
  before : Blank entry.before
  behind : Blank entry.behind
  name : SpellsString entry.name entry.text
  slot : entry.slot.Readable

theorem Slot.Readable.readTree {slot : Slot} (readable : slot.Readable) (fuel : Nat) (rest : Bytes)
    (stop : Stops rest) (enough : slot.bytes.length ≤ fuel) :
    ∃ tree, readTree (fuel + 1) (slot.bytes ++ rest) = some (tree, slot.behind ++ rest) ∧
      tree.Means slot.value := by
  simp only [Slot.bytes, List.length_append] at enough
  obtain ⟨tree, read, meant⟩ := readable.reads fuel (slot.behind ++ rest)
    (endsNumber_gap _ _ readable.behind stop) (by omega)
  refine ⟨tree, ?_, meant⟩
  rw [← readTree_skipSpace, Slot.bytes, List.append_assoc, skipSpace_append _ _ readable.before,
    readTree_skipSpace, List.append_assoc, read]

theorem Entry.Readable.readName {entry : Entry} (readable : entry.Readable) (rest : Bytes) :
    ∃ pieces, readName (entry.bytes ++ rest) = some (pieces, entry.slot.bytes ++ rest) ∧
      string? pieces = some entry.name := by
  obtain ⟨inner, pieces, quoted, read, meant⟩ := readPieces_string entry.name entry.text
    (entry.behind ++ 58 :: (entry.slot.bytes ++ rest)) readable.name
  refine ⟨pieces, ?_, meant⟩
  have text : entry.bytes ++ rest = entry.before ++ 34 :: inner := by
    rw [← quoted]
    simp [Entry.bytes]
  rw [text, Json.readName, skipSpace_stop _ 34 _ readable.before (by decide)]
  simp only [read, Option.bind_eq_bind, Option.bind_some,
    skipSpace_stop _ 58 _ readable.behind (by decide)]
  rfl

theorem exists_listed (close : UInt8) (first : Bytes) (others : List Bytes) :
    ∃ tail, listed close first others = first ++ tail := by
  cases others <;> exact ⟨_, rfl⟩

theorem Slot.Readable.skipSpace_listed {slot : Slot} (readable : slot.Readable) (close : UInt8)
    (others : List Bytes) (rest : Bytes) :
    ∃ byte after, skipSpace (listed close slot.bytes others ++ rest) = byte :: after ∧
      byte ≠ 93 := by
  obtain ⟨tail, list⟩ := exists_listed close slot.bytes others
  obtain ⟨byte, inner, text, sign, other⟩ := readable.starts
  refine ⟨byte, inner ++ (slot.behind ++ (tail ++ rest)), ?_, other⟩
  rw [list, Slot.bytes, text]
  simpa using skipSpace_stop slot.before byte _ readable.before sign

theorem Entry.Readable.skipSpace_listed {entry : Entry} (readable : entry.Readable) (close : UInt8)
    (others : List Bytes) (rest : Bytes) :
    ∃ byte after, skipSpace (listed close entry.bytes others ++ rest) = byte :: after ∧
      byte ≠ 125 := by
  obtain ⟨tail, list⟩ := exists_listed close entry.bytes others
  obtain ⟨inner, -, quoted⟩ := readable.name
  rw [list, Entry.bytes, quoted]
  simp only [List.append_assoc, List.cons_append]
  exact ⟨34, _, skipSpace_stop entry.before 34 _ readable.before (by decide), by decide⟩

theorem readItems_listed (others : List Slot) (first : Slot) (fuel : Nat) (rest : Bytes)
    (readable : ∀ slot ∈ first :: others, slot.Readable)
    (enough : (listed 93 first.bytes (others.map Slot.bytes)).length < fuel) :
    ∃ trees, readItems fuel (listed 93 first.bytes (others.map Slot.bytes) ++ rest) =
        some (trees, rest) ∧
      List.Forall₂ Tree.Means trees ((first :: others).map Slot.value) := by
  have own := readable first (by simp)
  induction others generalizing first fuel with
  | nil =>
    simp only [List.map_nil, listed, List.length_append, List.length_singleton] at enough
    obtain ⟨fuel, rfl⟩ : ∃ less, fuel = less + 2 := ⟨fuel - 2, by omega⟩
    obtain ⟨tree, read, meant⟩ := own.readTree fuel (93 :: rest) (stops_cons _ _ (by simp)) (by omega)
    refine ⟨[tree], ?_, .cons meant .nil⟩
    simp only [List.map_nil, listed, List.append_assoc, List.singleton_append, readItems, read,
      Option.bind_eq_bind, Option.bind_some, skipSpace_stop _ 93 _ own.behind (by decide)]
    rfl
  | cons second others ih =>
    simp only [List.map_cons, listed, List.length_append, List.length_cons] at enough
    obtain ⟨fuel, rfl⟩ : ∃ less, fuel = less + 2 := ⟨fuel - 2, by omega⟩
    obtain ⟨tree, read, meant⟩ := own.readTree fuel
      (44 :: (listed 93 second.bytes (others.map Slot.bytes) ++ rest)) (stops_cons _ _ (by simp))
      (by omega)
    obtain ⟨trees, after, each⟩ := ih second (fuel + 1)
      (fun slot member => readable slot (List.mem_cons_of_mem _ member)) (by omega)
      (readable second (by simp))
    refine ⟨tree :: trees, ?_, .cons meant each⟩
    simp only [List.map_cons, listed, List.append_assoc, List.cons_append]
    rw [readItems, read]
    simp only [Option.bind_eq_bind, Option.bind_some, skipSpace_stop _ 44 _ own.behind (by decide),
      after]
    rfl

theorem readMembers_listed (others : List Entry) (first : Entry) (fuel : Nat) (rest : Bytes)
    (readable : ∀ entry ∈ first :: others, entry.Readable)
    (enough : (listed 125 first.bytes (others.map Entry.bytes)).length < fuel) :
    ∃ trees, readMembers fuel (listed 125 first.bytes (others.map Entry.bytes) ++ rest) =
        some (trees, rest) ∧
      List.Forall₂ MeansMember trees ((first :: others).map Entry.member) := by
  have own := readable first (by simp)
  have shorter : first.slot.bytes.length ≤ first.bytes.length := by
    simp only [Entry.bytes, List.length_append, List.length_cons]
    omega
  induction others generalizing first fuel with
  | nil =>
    simp only [List.map_nil, listed, List.length_append, List.length_singleton] at enough
    obtain ⟨fuel, rfl⟩ : ∃ less, fuel = less + 2 := ⟨fuel - 2, by omega⟩
    obtain ⟨pieces, named, name⟩ := own.readName (125 :: rest)
    obtain ⟨tree, read, meant⟩ := own.slot.readTree fuel (125 :: rest) (stops_cons _ _ (by simp))
      (by omega)
    refine ⟨[(pieces, tree)], ?_, .cons ⟨name, meant⟩ .nil⟩
    simp only [List.map_nil, listed, List.append_assoc, List.singleton_append, readMembers, named,
      read, Option.bind_eq_bind, Option.bind_some, skipSpace_stop _ 125 _ own.slot.behind (by decide)]
    rfl
  | cons second others ih =>
    simp only [List.map_cons, listed, List.length_append, List.length_cons] at enough
    obtain ⟨fuel, rfl⟩ : ∃ less, fuel = less + 2 := ⟨fuel - 2, by omega⟩
    let tail := 44 :: (listed 125 second.bytes (others.map Entry.bytes) ++ rest)
    obtain ⟨pieces, named, name⟩ := own.readName tail
    obtain ⟨tree, read, meant⟩ := own.slot.readTree fuel tail (stops_cons _ _ (by simp)) (by omega)
    obtain ⟨trees, after, each⟩ := ih second (fuel + 1)
      (fun entry member => readable entry (List.mem_cons_of_mem _ member)) (by omega)
      (readable second (by simp)) (by
        simp only [Entry.bytes, List.length_append, List.length_cons]
        omega)
    refine ⟨(pieces, tree) :: trees, ?_, .cons ⟨name, meant⟩ each⟩
    simp only [List.map_cons, listed, List.append_assoc, List.cons_append]
    rw [readMembers, named]
    simp only [read, tail, Option.bind_eq_bind, Option.bind_some,
      skipSpace_stop _ 44 _ own.slot.behind (by decide), after]
    rfl

theorem starts_of_spells (Gap : Bytes → Prop) (value : Value) (text : Bytes)
    (spelled : Spells Gap value text) : Starts text := by
  cases spelled with
  | null => exact ⟨110, _, rfl, by decide⟩
  | bool value => cases value <;> exact ⟨_, _, rfl, by decide⟩
  | integer value digits decimal =>
    have other : ∀ digit < 10, isSpace (digitByte digit) = false ∧ digitByte digit ≠ 93 := by decide
    obtain ⟨present, -, small⟩ := decimal
    by_cases negative : value < 0
    · rw [if_pos negative]
      exact ⟨45, _, rfl, by decide⟩
    · rw [if_neg negative]
      cases digits with
      | nil => exact absurd rfl present
      | cons digit rest => exact ⟨digitByte digit, _, rfl, other digit (small digit (by simp))⟩
  | text value bytes spelled =>
    obtain ⟨inner, -, rfl⟩ := spelled
    exact ⟨34, _, rfl, by decide⟩
  | emptyArray | array => exact ⟨91, _, rfl, by decide⟩
  | emptyObject | object => exact ⟨123, _, rfl, by decide⟩

theorem readsAs_of_readTree (text : Bytes) (tree : Tree) (value : Value)
    (read : ∀ fuel rest, EndsNumber rest → readTree (fuel + 1) (text ++ rest) = some (tree, rest))
    (meant : tree.Means value) : ReadsAs text value :=
  fun fuel rest stop _ => ⟨tree, read fuel rest stop, meant⟩

theorem readsAs_null : ReadsAs (Bytes.ofText "null") .null := by
  have bytes : Bytes.ofText "null" = [110, 117, 108, 108] := by decide
  refine readsAs_of_readTree _ .null _ (fun fuel rest _ => ?_) ?_
  · simp [bytes, readTree, skipSpace_cons 110 _ (by decide)]
  · refine means_of_value? _ _ (fun depth => .null depth) fun depth => ?_
    simp [Tree.value?, Value.sorted]

theorem readsAs_bool (value : Bool) :
    ReadsAs (Bytes.ofText (if value then "true" else "false")) (.bool value) := by
  have yes : Bytes.ofText "true" = [116, 114, 117, 101] := by decide
  have no : Bytes.ofText "false" = [102, 97, 108, 115, 101] := by decide
  refine readsAs_of_readTree _ (.bool value) _ (fun fuel rest _ => ?_) ?_
  · cases value with
    | true => simp [yes, readTree, skipSpace_cons 116 _ (by decide)]
    | false => simp [no, readTree, skipSpace_cons 102 _ (by decide)]
  · refine means_of_value? _ _ (fun depth => .bool depth value) fun depth => ?_
    simp [Tree.value?, Value.sorted]

theorem readsAs_integer (value : Int) (digits : List Nat) (decimal : Decimal digits)
    (magnitude : Text.ofDigits digits = value.natAbs) (low : -2 ^ 63 ≤ value)
    (high : value ≤ maxWord) :
    ReadsAs ((if value < 0 then [45] else []) ++ digits.map digitByte) (.integer value) := by
  obtain ⟨present, single, small⟩ := decimal
  let literal : Literal := ⟨value < 0, digits, [], none⟩
  have written : literal.Written := ⟨present, single, small, by simp [literal], by simp [literal]⟩
  have bytes : literal.bytes = (if value < 0 then [45] else []) ++ digits.map digitByte := by
    simp [literal, Literal.bytes]
  rw [← bytes]
  refine readsAs_of_readTree _ (.number literal) _ (fun fuel rest stop => ?_) ?_
  · exact readTree_number fuel literal rest written stop
  · refine means_of_value? _ _ (fun depth => .integer depth value low high) fun depth => ?_
    simp [Tree.value?, literal, number?_whole value digits magnitude low high, Value.sorted,
      Value.integer]

theorem readsAs_text (value : String) (bytes : Bytes) (spelled : SpellsString value bytes) :
    ReadsAs bytes (.text value) := by
  intro fuel rest _ _
  obtain ⟨inner, pieces, quoted, read, meant⟩ := readPieces_string value bytes rest spelled
  refine ⟨.string pieces, ?_, ?_⟩
  · rw [quoted]
    simp [readTree, skipSpace_cons 34 _ (by decide), read]
  · refine means_of_value? _ _ (fun depth => .text depth value) fun depth => ?_
    simp [Tree.value?, Value.sorted, meant]

theorem readsAs_array (first : Slot) (others : List Slot)
    (readable : ∀ slot ∈ first :: others, slot.Readable) :
    ReadsAs (91 :: listed 93 first.bytes (others.map Slot.bytes))
      (.array ((first :: others).map Slot.value)) := by
  intro fuel rest _ enough
  obtain ⟨trees, read, meant⟩ := readItems_listed others first fuel rest readable enough
  refine ⟨.array trees, ?_, means_array trees _ meant⟩
  obtain ⟨byte, after, start, other⟩ := (readable first (by simp)).skipSpace_listed 93
    (others.map Slot.bytes) rest
  rw [← readItems_skipSpace, start] at read
  rw [List.cons_append, readTree, skipSpace_cons 91 _ (by decide)]
  simp only [start]
  split
  case h_1 same => exact absurd (List.cons.inj same).1 other
  case h_2 => rw [read, Option.map_some]

theorem readsAs_object (first : Entry) (others : List Entry)
    (readable : ∀ entry ∈ first :: others, entry.Readable) :
    ReadsAs (123 :: listed 125 first.bytes (others.map Entry.bytes))
      (.object ((first :: others).map Entry.member)) := by
  intro fuel rest _ enough
  obtain ⟨trees, read, meant⟩ := readMembers_listed others first fuel rest readable enough
  refine ⟨.object trees, ?_, means_object trees _ meant⟩
  obtain ⟨byte, after, start, other⟩ := (readable first (by simp)).skipSpace_listed 125
    (others.map Entry.bytes) rest
  rw [← readMembers_skipSpace, start] at read
  rw [List.cons_append, readTree, skipSpace_cons 123 _ (by decide)]
  simp only [start]
  split
  case h_1 same => exact absurd (List.cons.inj same).1 other
  case h_2 => rw [read, Option.map_some]

-- The induction follows the grammar: what is read of the parts is read of the whole.
theorem readsAs_of_spells (value : Value) (text : Bytes) (spelled : Spells Blank value text) :
    ReadsAs text value := by
  induction spelled with
  | null => exact readsAs_null
  | bool value => exact readsAs_bool value
  | integer value digits decimal magnitude low high =>
    exact readsAs_integer value digits decimal magnitude low high
  | text value bytes spelled => exact readsAs_text value bytes spelled
  | emptyArray gap between =>
    refine readsAs_of_readTree _ (.array []) _ (fun fuel rest _ => ?_) (means_array [] [] .nil)
    simp [readTree, skipSpace_cons 91 _ (by decide), skipSpace_stop gap 93 rest between (by decide)]
  | array first others gaps each ih =>
    refine readsAs_array first others fun slot member => ?_
    obtain ⟨before, behind⟩ := gaps slot member
    exact ⟨before, behind, starts_of_spells _ _ _ (each slot member), ih slot member⟩
  | emptyObject gap between =>
    refine readsAs_of_readTree _ (.object []) _ (fun fuel rest _ => ?_) (means_object [] [] .nil)
    simp [readTree, skipSpace_cons 123 _ (by decide), skipSpace_stop gap 125 rest between (by decide)]
  | object first others gaps names each ih =>
    refine readsAs_object first others fun entry member => ?_
    obtain ⟨before, behind, ahead, after⟩ := gaps entry member
    have starts := starts_of_spells _ _ _ (each entry member)
    exact ⟨before, behind, names entry member, ahead, after, starts, ih entry member⟩

theorem read_document (value found : Value) (text : Bytes) (document : Document value text) :
    Value.read text = some found ↔ value.Fits maxDepth ∧ value.sorted = found := by
  obtain ⟨before, inner, behind, ahead, spelled, after, rfl⟩ := document
  let slot : Slot := ⟨before, value, inner, behind⟩
  have readable : slot.Readable :=
    ⟨ahead, after, starts_of_spells _ _ _ spelled, readsAs_of_spells _ _ spelled⟩
  obtain ⟨tree, read, meant⟩ := readable.readTree (2 * slot.bytes.length + 1) [] stops_nil (by omega)
  have blank : skipSpace (behind ++ []) = [] := skipSpace_append behind [] after
  have whole : Tree.read slot.bytes = some tree := by
    rw [List.append_nil] at read
    rw [Tree.read, read]
    simp only [Option.bind_eq_bind, Option.bind_some, slot, blank, if_true]
    rfl
  change (Tree.read slot.bytes >>= fun tree => tree.value? maxDepth) = some found ↔ _
  rw [whole]
  exact meant maxDepth found

end Multichain.Json
