import Multichain.Bytes
import Multichain.Pattern.Check

/-!
The texts that choose what is logged: parts with commas between them, each a level, a target, or a
target with a span in brackets and a level behind an equals sign. Braces in the brackets hold a
field, whose value is a number, a word of truth or a pattern.
-/

set_option autoImplicit false

namespace Multichain.LogFilter

open Multichain

inductive Fault where
  | directive
  | level
  | field (fault : Pattern.Fault)
  deriving DecidableEq

def Fault.message : Fault → String
  | .directive => "invalid filter directive"
  | .level =>
    "error parsing level filter: expected one of \"off\", \"error\", \"warn\", \"info\", " ++
      "\"debug\", \"trace\", or a number 0-5"
  | .field .invalid => "invalid field filter: error building NFA"
  | .field .wordEdge =>
    "invalid field filter: unsupported regex feature for DFAs: cannot build DFAs for regexes " ++
      "with Unicode word boundaries; switch to ASCII word boundaries, or heuristically enable " ++
      "Unicode word boundaries or use a different regex engine"

def levels : List String :=
  ["off", "error", "warn", "info", "debug", "trace"]

def toLower (text : List Char) : List Char :=
  text.map Char.toLower

def isLevel (text : String) : Bool :=
  (match Text.readPlain 0 5 text with
    | .ok _ => true
    | .error _ => false) ||
    levels.any fun level => level.toList == toLower text.toList

def isDigit (char : Char) : Bool :=
  (Text.digitValue? char).isSome

def isDecimal (chars : List Char) : Bool :=
  let whole := chars.takeWhile isDigit
  let (places, rest) :=
    match chars.drop whole.length with
    | '.' :: rest => (rest.takeWhile isDigit, rest.dropWhile isDigit)
    | rest => ([], rest)
  let exponent :=
    match rest with
    | [] => true
    | mark :: rest =>
      let digits := (Text.splitSign rest).2
      (mark = 'e' || mark = 'E') && digits ≠ [] && digits.all isDigit
  whole ++ places ≠ [] && exponent

def isNumber (chars : List Char) : Bool :=
  let rest := (Text.splitSign chars).2
  isDecimal rest || ["inf", "infinity", "nan"].any fun word => word.toList == toLower rest

def checkField (field : String) : Except Fault Unit :=
  match field.toList.splitOn '=' with
  | _ :: value :: _ =>
    if isNumber value then .ok ()
    else (Pattern.check (String.ofList value)).mapError .field
  | _ => .ok ()

-- Fields and levels are known by the place at which they start, counted in bytes.
inductive Place where
  | start
  | target
  | span
  | field (first : Nat)
  | fields
  | afterSpan
  | level (first : Nat)
  deriving DecidableEq

def startsTarget (char : Char) : Bool :=
  char ∈ ['-', ':', '_'] || Text.isAlphanumeric char

def cut (part : List Char) (first last : Nat) : String :=
  (Bytes.text? (((Bytes.ofText (String.ofList part)).take last).drop first)).getD ""

def Place.next (part : List Char) (count : Nat) (place : Place) (char : Char) :
    Except Fault Place :=
  match place with
  | .start =>
    if char = '[' then .ok .span
    else if startsTarget char then .ok .target
    else .error .directive
  | .target =>
    if char = '=' then .ok (.level (count + 1))
    else if char = '[' then .ok .span
    else .ok .target
  | .span =>
    if char = ']' then .ok .afterSpan
    else if char = '\x7b' then .ok (.field (count + 1))
    else .ok .span
  | .field first =>
    if char = '\x7d' then
      let field := cut part first count
      if field = "" then .error .directive else (checkField field).map fun _ => .fields
    else .ok (.field first)
  | .fields => if char = ']' then .ok .afterSpan else .error .directive
  | .afterSpan => if char = '=' then .ok (.level (count + 1)) else .error .directive
  | .level first => .ok (.level first)

def walk (part : List Char) (count : Nat) (place : Place) : List Char → Except Fault Place
  | [] => .ok place
  | char :: rest => do
    let place ← place.next part count char
    walk part (count + char.utf8Size) place rest

/-- Blanks at the ends of a part are skipped on the way through it, but fields and levels are cut
from the part as it stands. -/
def checkPart (part : List Char) : Except Fault Unit := do
  match ← walk part 0 .start (Text.trimEnd (Text.trimStart part)) with
  | .level first =>
    let level := cut part first (String.ofList part).utf8ByteSize
    if level ≠ "" ∧ ¬ isLevel level then throw .level
  | .target | .afterSpan => return ()
  | _ => throw .directive

def check (text : String) : Except Fault Unit :=
  ((text.toList.splitOn ',').filter (· ≠ [])).forM checkPart

end Multichain.LogFilter
