import Multichain.Number.Binary64
import Multichain.Text.Basic
import Multichain.Text.Quoted

/-!
What can be wrong with a document, where, and how that is shown: the line with the place marked
below it, and then what is wrong.
-/

set_option autoImplicit false

namespace Multichain.Toml

open Multichain

structure Span where
  start : Nat
  stop : Nat
  deriving DecidableEq

inductive Expected where
  | char (char : Char)
  | word (word : String)
  | thing (description : String)
  deriving DecidableEq

inductive Reason where
  | duplicateKey (key : String) (path : Option (List String))
  | noTable (path : List String) (kind : String)
  | outOfRange
  | tooDeep
  | numeral (fault : Text.NumeralFault)
  deriving DecidableEq

structure Complaint where
  subject : Option String
  expected : List Expected
  reason : Option Reason
  deriving DecidableEq

inductive Unfit where
  | text (value : String)
  | integer (value : Int)
  | float (value : Floating)
  | bool (value : Bool)
  | sequence
  | map
  deriving DecidableEq

inductive Mismatch where
  | missing (name : String)
  | kind (found : Unfit) (wanted : String)
  | bounds (value : Int) (wanted : String)
  | length (count : Nat) (wanted : String)
  deriving DecidableEq

inductive Problem where
  | grammar (complaint : Complaint)
  | mismatch (mismatch : Mismatch)
  deriving DecidableEq

structure Fault where
  span : Span
  problem : Problem
  deriving DecidableEq

def joinWith (separator : String) (texts : List String) : String :=
  separator.intercalate texts

def ticked (text : String) : String :=
  "\x60" ++ text ++ "\x60"

def Expected.message : Expected → String
  | .char '\n' => "newline"
  | .char '\x60' => "'\x60'"
  | .char single => ticked (String.singleton single)
  | .word text => ticked text
  | .thing description => description

def Reason.message : Reason → String
  | .duplicateKey key none => "duplicate key " ++ ticked key
  | .duplicateKey key (some []) => "duplicate key " ++ ticked key ++ " in document root"
  | .duplicateKey key (some path) =>
    "duplicate key " ++ ticked key ++ " in table " ++ ticked (joinWith "." path)
  | .noTable path kind =>
    "dotted key " ++ ticked (joinWith "." path) ++ " attempted to extend non-table type (" ++
      kind ++ ")"
  | .outOfRange => "value is out of range"
  | .tooDeep => "recursion limit exceeded"
  | .numeral fault => fault.message

def Complaint.message (complaint : Complaint) : String :=
  let subject := complaint.subject.map fun subject => "invalid " ++ subject
  let expected :=
    if complaint.expected = [] then none
    else some ("expected " ++ joinWith ", " (complaint.expected.map Expected.message))
  let reason := complaint.reason.map Reason.message
  joinWith "\n" ([subject, expected, reason].filterMap id)

def Unfit.message : Unfit → String
  | .text value => "string " ++ Text.quoted value
  | .integer value => "integer " ++ ticked (Text.integer value)
  | .float value => "floating point " ++ ticked value.plain
  | .bool value => "boolean " ++ ticked (if value then "true" else "false")
  | .sequence => "sequence"
  | .map => "map"

def Mismatch.message : Mismatch → String
  | .missing name => "missing field " ++ ticked name
  | .kind found wanted => "invalid type: " ++ found.message ++ ", expected " ++ wanted
  | .bounds value wanted =>
    "invalid value: " ++ (Unfit.integer value).message ++ ", expected " ++ wanted
  | .length count wanted =>
    "invalid length " ++ Text.natural count ++ ", expected " ++ wanted

def Problem.message : Problem → String
  | .grammar complaint => complaint.message
  | .mismatch found => found.message

def byteLength (chars : List Char) : Nat :=
  chars.foldl (fun total char => total + char.utf8Size) 0

def lastLine (chars : List Char) : List Char :=
  (chars.reverse.takeWhile (· ≠ '\n')).reverse

/-- Line and column of a place, both counted from zero. The end of a document counts as the place
behind its last character, even if that ends a line. A column counts characters, but bytes where a
character beyond ASCII stands. -/
def position (chars : List Char) (place : Nat) : Nat × Nat :=
  let line (before : List Char) : Nat := before.count '\n'
  match chars.drop place with
  | char :: _ =>
    let before := chars.take place
    let last := lastLine before
    (line before, if char.toNat < 0x80 then last.length else byteLength last)
  | [] =>
    let before := chars.dropLast
    (line before, (lastLine before).length + min 1 chars.length)

def spaces (count : Nat) : String :=
  String.ofList (List.replicate count ' ')

def Fault.report (fault : Fault) (text : String) : String :=
  let chars := text.toList
  let (line, column) := position chars fault.span.start
  let number := Text.natural (line + 1)
  let content := (chars.splitOn '\n').getD line []
  let marked := byteLength ((chars.take fault.span.stop).drop fault.span.start)
  let marks := max 1 (min marked (byteLength content - column))
  let margin := spaces (number.length + 1) ++ "|"
  joinWith "\n"
    ["TOML parse error at line " ++ number ++ ", column " ++ Text.natural (column + 1),
     margin,
     number ++ " | " ++ String.ofList content,
     margin ++ spaces (column + 1) ++ String.ofList (List.replicate marks '^'),
     fault.problem.message,
     ""]

end Multichain.Toml
