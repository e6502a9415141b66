import Mathlib
import Multichain.Proofs.JsonValue

/-!
JSON texts as the grammar has them, for values without floating-point numbers: any blanks between
the signs, members in any order and any number of times, characters as such or escaped. A string is
read as the characters that it spells. Main statement: `readPieces_string`.
-/

set_option autoImplicit false

namespace Multichain.Json

open Multichain

def shortEscapes : List (UInt8 × Nat) :=
  [(34, 34), (92, 92), (47, 47), (98, 8), (102, 12), (110, 10), (114, 13), (116, 9)]

def HexDigit (value : Nat) (byte : UInt8) : Prop :=
  value < 10 ∧ byte = UInt8.ofNat (48 + value) ∨
    10 ≤ value ∧ value < 16 ∧ (byte = UInt8.ofNat (55 + value) ∨ byte = UInt8.ofNat (87 + value))

inductive SpellsUnit (code : Nat) : Bytes → Prop
  | digits (a b c d : UInt8) (first : HexDigit (code / 4096) a)
    (second : HexDigit (code / 256 % 16) b) (third : HexDigit (code / 16 % 16) c)
    (fourth : HexDigit (code % 16) d) :
    SpellsUnit code [92, 117, a, b, c, d]

inductive SpellsChar (char : Char) : Bytes → Prop
  | plain (printable : 32 ≤ char.toNat) (quote : char ≠ '"') (backslash : char ≠ '\\') :
    SpellsChar char (String.utf8EncodeChar char)
  | short (letter : UInt8) (known : (letter, char.toNat) ∈ shortEscapes) :
    SpellsChar char [92, letter]
  | unit (bytes : Bytes) (spelled : SpellsUnit char.toNat bytes) : SpellsChar char bytes
  -- a character of the upper planes as two surrogates
  | pair (high low : Bytes) (large : 0x10000 ≤ char.toNat)
    (first : SpellsUnit (0xD800 + (char.toNat - 0x10000) / 0x400) high)
    (second : SpellsUnit (0xDC00 + (char.toNat - 0x10000) % 0x400) low) :
    SpellsChar char (high ++ low)

inductive SpellsChars : List Char → Bytes → Prop
  | nil : SpellsChars [] []
  | cons (char : Char) (chars : List Char) (first rest : Bytes) (head : SpellsChar char first)
    (tail : SpellsChars chars rest) : SpellsChars (char :: chars) (first ++ rest)

def SpellsString (text : String) (bytes : Bytes) : Prop :=
  ∃ inner, SpellsChars text.toList inner ∧ bytes = 34 :: (inner ++ [34])

structure Slot where
  before : Bytes
  value : Value
  text : Bytes
  behind : Bytes

def Slot.bytes (slot : Slot) : Bytes :=
  slot.before ++ (slot.text ++ slot.behind)

structure Entry where
  before : Bytes
  name : String
  text : Bytes
  behind : Bytes
  slot : Slot

def Entry.bytes (entry : Entry) : Bytes :=
  entry.before ++ (entry.text ++ (entry.behind ++ 58 :: entry.slot.bytes))

def Entry.member (entry : Entry) : String × Value :=
  (entry.name, entry.slot.value)

def listed (close : UInt8) (first : Bytes) : List Bytes → Bytes
  | [] => first ++ [close]
  | second :: rest => first ++ 44 :: listed close second rest

def Decimal (digits : List Nat) : Prop :=
  digits ≠ [] ∧ (digits.head? = some 0 → digits.length = 1) ∧ ∀ digit ∈ digits, digit < 10

/-- A value and a text of it, with gaps of the given kind between the signs. The members of an object
are those of the text, in their order there. Numbers are whole and fit a word; any other would be a
floating-point number. -/
inductive Spells (Gap : Bytes → Prop) : Value → Bytes → Prop
  | null : Spells Gap .null (Bytes.ofText "null")
  | bool (value : Bool) : Spells Gap (.bool value) (Bytes.ofText (if value then "true" else "false"))
  | integer (value : Int) (digits : List Nat) (decimal : Decimal digits)
    (magnitude : Text.ofDigits digits = value.natAbs) (low : -2 ^ 63 ≤ value)
    (high : value ≤ maxWord) :
    Spells Gap (.integer value) ((if value < 0 then [45] else []) ++ digits.map digitByte)
  | text (value : String) (bytes : Bytes) (spelled : SpellsString value bytes) :
    Spells Gap (.text value) bytes
  | emptyArray (gap : Bytes) (between : Gap gap) : Spells Gap (.array []) (91 :: (gap ++ [93]))
  | array (first : Slot) (others : List Slot)
    (gaps : ∀ slot ∈ first :: others, Gap slot.before ∧ Gap slot.behind)
    (each : ∀ slot ∈ first :: others, Spells Gap slot.value slot.text) :
    Spells Gap (.array ((first :: others).map Slot.value))
      (91 :: listed 93 first.bytes (others.map Slot.bytes))
  | emptyObject (gap : Bytes) (between : Gap gap) : Spells Gap (.object []) (123 :: (gap ++ [125]))
  | object (first : Entry) (others : List Entry)
    (gaps : ∀ entry ∈ first :: others,
      Gap entry.before ∧ Gap entry.behind ∧ Gap entry.slot.before ∧ Gap entry.slot.behind)
    (names : ∀ entry ∈ first :: others, SpellsString entry.name entry.text)
    (each : ∀ entry ∈ first :: others, Spells Gap entry.slot.value entry.slot.text) :
    Spells Gap (.object ((first :: others).map Entry.member))
      (123 :: listed 125 first.bytes (others.map Entry.bytes))

def Blank (gap : Bytes) : Prop :=
  ∀ byte ∈ gap, byte = 32 ∨ byte = 9 ∨ byte = 10 ∨ byte = 13

def Document (value : Value) (text : Bytes) : Prop :=
  ∃ before inner behind, Blank before ∧ Spells Blank value inner ∧ Blank behind ∧
    text = before ++ (inner ++ behind)

theorem hexValue?_of_hexDigit (value : Nat) (byte : UInt8) (spelled : HexDigit value byte) :
    hexValue? byte = some value := by
  have small : ∀ value < 10, hexValue? (UInt8.ofNat (48 + value)) = some value := by decide
  have letters : ∀ value < 16, 10 ≤ value → hexValue? (UInt8.ofNat (55 + value)) = some value ∧
      hexValue? (UInt8.ofNat (87 + value)) = some value := by decide
  rcases spelled with ⟨bound, rfl⟩ | ⟨low, high, rfl | rfl⟩
  · exact small value bound
  · exact (letters value high low).1
  · exact (letters value high low).2

theorem HexDigit.lt {value : Nat} {byte : UInt8} (spelled : HexDigit value byte) : value < 16 := by
  rcases spelled with ⟨bound, -⟩ | ⟨-, bound, -⟩ <;> omega

theorem SpellsUnit.lt {code : Nat} {bytes : Bytes} (spelled : SpellsUnit code bytes) :
    code < 65536 := by
  obtain ⟨a, b, c, d, first, -, -, -⟩ := spelled
  have bound := first.lt
  omega

theorem readPieces_unit (code : Nat) (bytes more : Bytes) (spelled : SpellsUnit code bytes) :
    readPieces (bytes ++ more) =
      (readPieces more).map fun (pieces, rest) => (.unit (UInt16.ofNat code) :: pieces, rest) := by
  obtain ⟨a, b, c, d, first, second, third, fourth⟩ := spelled
  have whole :
      code / 4096 * 4096 + code / 256 % 16 * 256 + code / 16 % 16 * 16 + code % 16 = code := by
    omega
  have unit : readUnit a b c d = some (.unit (UInt16.ofNat code)) := by
    simp only [readUnit, hexValue?_of_hexDigit _ _ first, hexValue?_of_hexDigit _ _ second,
      hexValue?_of_hexDigit _ _ third, hexValue?_of_hexDigit _ _ fourth, Option.bind_eq_bind,
      Option.bind_some, whole]
    rfl
  simp only [List.cons_append, List.nil_append, readPieces, unit]
  cases readPieces more <;> rfl

theorem toNat_unit (code : Nat) (small : code < 65536) : (UInt16.ofNat code).toNat = code :=
  UInt16.toNat_ofNat_of_lt' small

theorem isHighSurrogate_unit (code : Nat) (small : code < 65536) :
    isHighSurrogate (UInt16.ofNat code) = true ↔ 0xD800 ≤ code ∧ code ≤ 0xDBFF := by
  simp only [isHighSurrogate, Bool.and_eq_true, decide_eq_true_eq, UInt16.le_iff_toNat_le,
    toNat_unit code small]
  rfl

theorem isLowSurrogate_unit (code : Nat) (small : code < 65536) :
    isLowSurrogate (UInt16.ofNat code) = true ↔ 0xDC00 ≤ code ∧ code ≤ 0xDFFF := by
  simp only [isLowSurrogate, Bool.and_eq_true, decide_eq_true_eq, UInt16.le_iff_toNat_le,
    toNat_unit code small]
  rfl

theorem readPieces_plains (bytes more : Bytes)
    (plain : ∀ byte ∈ bytes, 32 ≤ byte ∧ byte ≠ 34 ∧ byte ≠ 92) :
    readPieces (bytes ++ more) =
      (readPieces more).map fun (pieces, rest) => (bytes.map Piece.byte ++ pieces, rest) := by
  induction bytes with
  | nil => simp
  | cons byte others ih =>
    obtain ⟨printable, quote, backslash⟩ := plain byte (by simp)
    rw [List.cons_append, readPieces_plain byte _ printable quote backslash,
      ih fun other member => plain other (by simp [member])]
    cases readPieces more <;> rfl

theorem pieceBytes?_plains (bytes : Bytes) (others : List Piece) :
    pieceBytes? (bytes.map Piece.byte ++ others) = (pieceBytes? others).map (bytes ++ ·) := by
  induction bytes with
  | nil => simp
  | cons byte rest ih =>
    rw [List.map_cons, List.cons_append, pieceBytes?, ih]
    cases pieceBytes? others <;> rfl

theorem plain_utf8EncodeChar (char : Char) (printable : 32 ≤ char.toNat) (quote : char ≠ '"')
    (backslash : char ≠ '\\') :
    ∀ byte ∈ String.utf8EncodeChar char, 32 ≤ byte ∧ byte ≠ 34 ∧ byte ≠ 92 := by
  have noQuote : char.toNat ≠ 34 := fun same => quote (Char.toNat_inj.mp same)
  have noBackslash : char.toNat ≠ 92 := fun same => backslash (Char.toNat_inj.mp same)
  intro byte found
  have code : 32 ≤ byte.toNat ∧ byte.toNat ≠ 34 ∧ byte.toNat ≠ 92 := by
    by_cases small : char.toNat < 128
    · rw [Bytes.utf8EncodeChar_ascii char small, List.mem_singleton] at found
      have whole : byte.toNat = char.toNat := by
        rw [found, UInt8.toNat_ofNat']
        omega
      omega
    · have large := Bytes.le_of_mem_utf8EncodeChar char (by omega) byte found
      omega
  refine ⟨UInt8.le_iff_toNat_le.mpr code.1, ?_, ?_⟩
  · rintro rfl
    exact code.2.1 rfl
  · rintro rfl
    exact code.2.2 rfl

theorem readPieces_char (char : Char) (bytes : Bytes) (spelled : SpellsChar char bytes) :
    ∃ pieces, (∀ more, readPieces (bytes ++ more) =
        (readPieces more).map fun (others, rest) => (pieces ++ others, rest)) ∧
      ∀ others, pieceBytes? (pieces ++ others) =
        (pieceBytes? others).map (String.utf8EncodeChar char ++ ·) := by
  have valid : char.toNat < 0xD800 ∨ 0xDFFF < char.toNat ∧ char.toNat < 0x110000 := char.valid
  cases spelled with
  | plain printable quote backslash =>
    have plain := plain_utf8EncodeChar char printable quote backslash
    exact ⟨_, fun more => readPieces_plains _ more plain, pieceBytes?_plains _⟩
  | short letter known =>
    have table : ∀ pair ∈ shortEscapes, escaped? pair.1 = some (UInt8.ofNat pair.2) ∧
        pair.2 < 128 := by decide
    obtain ⟨escape, small⟩ := table _ known
    refine ⟨[.byte (UInt8.ofNat char.toNat)], fun more => readPieces_escape letter _ more escape, ?_⟩
    intro others
    rw [Bytes.utf8EncodeChar_ascii char small]
    rfl
  | unit _ spelled =>
    have small := spelled.lt
    refine ⟨[.unit (UInt16.ofNat char.toNat)], fun more => readPieces_unit _ _ more spelled, ?_⟩
    intro others
    have high : isHighSurrogate (UInt16.ofNat char.toNat) = false := by
      rw [Bool.eq_false_iff, ne_eq, isHighSurrogate_unit _ small]
      omega
    have low : isLowSurrogate (UInt16.ofNat char.toNat) = false := by
      rw [Bool.eq_false_iff, ne_eq, isLowSurrogate_unit _ small]
      omega
    rw [List.singleton_append, pieceBytes?_unit _ _ high low, toNat_unit _ small, Char.ofNat_toNat]
  | pair high low large first second =>
    have smallHigh := first.lt
    have smallLow := second.lt
    refine ⟨[.unit (UInt16.ofNat (0xD800 + (char.toNat - 0x10000) / 0x400)),
      .unit (UInt16.ofNat (0xDC00 + (char.toNat - 0x10000) % 0x400))], ?_, ?_⟩
    · intro more
      rw [List.append_assoc, readPieces_unit _ _ _ first, readPieces_unit _ _ more second]
      cases readPieces more <;> rfl
    · intro others
      have isHigh := (isHighSurrogate_unit _ smallHigh).mpr (by omega)
      have isLow := (isLowSurrogate_unit _ smallLow).mpr (by omega)
      have code : 0x10000 + (0xD800 + (char.toNat - 0x10000) / 0x400 - 0xD800) * 0x400 +
          (0xDC00 + (char.toNat - 0x10000) % 0x400 - 0xDC00) = char.toNat := by omega
      simp only [List.cons_append, List.nil_append, pieceBytes?, isHigh, isLow, if_true,
        toNat_unit _ smallHigh, toNat_unit _ smallLow, code, Char.ofNat_toNat]

theorem readPieces_chars (chars : List Char) (bytes rest : Bytes)
    (spelled : SpellsChars chars bytes) :
    ∃ pieces, readPieces (bytes ++ 34 :: rest) = some (pieces, rest) ∧
      pieceBytes? pieces = some (chars.flatMap String.utf8EncodeChar) := by
  induction spelled with
  | nil => exact ⟨[], by simp [readPieces], rfl⟩
  | cons char chars first others head tail ih =>
    obtain ⟨own, read, meant⟩ := readPieces_char char first head
    obtain ⟨pieces, after, whole⟩ := ih
    refine ⟨own ++ pieces, ?_, ?_⟩
    · rw [List.append_assoc, read, after]
      rfl
    · rw [meant, whole]
      rfl

theorem readPieces_string (text : String) (bytes rest : Bytes) (spelled : SpellsString text bytes) :
    ∃ inner pieces, bytes ++ rest = 34 :: inner ∧ readPieces inner = some (pieces, rest) ∧
      string? pieces = some text := by
  obtain ⟨inner, chars, rfl⟩ := spelled
  obtain ⟨pieces, read, meant⟩ := readPieces_chars _ inner rest chars
  refine ⟨inner ++ 34 :: rest, pieces, by simp, read, ?_⟩
  rw [string?, meant, ← Bytes.ofText_eq_flatMap]
  exact Bytes.text?_ofText text

end Multichain.Json
