import Multichain.Pattern.Syntax
import Multichain.Text.Basic
import Multichain.Text.Quoted

/-!
The reader of regular expressions. Patterns come out of braces, so that none of them holds a closing
brace: counts, names and codes in braces are never complete, and are refused where they begin.
-/

set_option autoImplicit false

namespace Multichain.Pattern

open Multichain

def afterComment : List Char → List Char
  | [] => []
  | '\n' :: rest => rest
  | _ :: rest => afterComment rest

def skip (verbose : Bool) (chars : List Char) : List Char :=
  if verbose then go (chars.length + 1) chars else chars
where
  go : Nat → List Char → List Char
    | 0, chars => chars
    | fuel + 1, chars =>
      match chars.dropWhile Text.isBlank with
      | '#' :: rest => go fuel (afterComment rest)
      | rest => rest

inductive Escape where
  | symbol (symbol : Symbol)
  | look (word : Bool)
  | family (negated : Bool)

def standsForItself (char : Char) : Bool :=
  char.toNat < 0x80 && !char.isAlphanum && char != '<' && char != '>'

def control? : Char → Option Char
  | 'a' => some '\x07'
  | 'f' => some '\x0c'
  | 't' => some '\t'
  | 'n' => some '\n'
  | 'r' => some '\r'
  | 'v' => some '\x0b'
  | _ => none

def readCode (verbose : Bool) : Nat → Nat → List Char → Option (Nat × List Char)
  | 0, code, chars => some (code, chars)
  | count + 1, code, chars =>
    match skip verbose chars with
    | [] => none
    | char :: rest => do
      let digit ← Text.digitIn? 16 char
      readCode verbose count (code * 16 + digit) rest

def readCoded (verbose : Bool) (count : Nat) (chars : List Char) :
    Option (Escape × List Char) := do
  let (code, rest) ← readCode verbose count 0 chars
  if code.isValidChar then return (.symbol ⟨Char.ofNat code, count = 2⟩, rest) else none

-- Classes by property need a table of properties, of which there is none.
def readEscape (verbose : Bool) : List Char → Option (Escape × List Char)
  | [] => none
  | char :: rest =>
    if standsForItself char then some (.symbol ⟨char, false⟩, rest)
    else if char = 'x' then readCoded verbose 2 rest
    else if char = 'u' then readCoded verbose 4 rest
    else if char = 'U' then readCoded verbose 8 rest
    else if char ∈ ['d', 's', 'w'] then some (.family false, rest)
    else if char ∈ ['D', 'S', 'W'] then some (.family true, rest)
    else if char ∈ ['A', 'z'] then some (.look false, rest)
    else if char = 'b' then if rest.head? = some '\x7b' then none else some (.look true, rest)
    else if char ∈ ['B', '<', '>'] then some (.look true, rest)
    else (control? char).map fun char => (.symbol ⟨char, false⟩, rest)

def classNames : List String :=
  ["alnum", "alpha", "ascii", "blank", "cntrl", "digit", "graph", "lower", "print", "punct",
   "space", "upper", "word", "xdigit"]

def readNamed : List Char → Option (Bool × List Char)
  | ':' :: rest =>
    let (negated, rest) :=
      match rest with
      | '^' :: rest => (true, rest)
      | rest => (false, rest)
    let name := rest.takeWhile (· ≠ ':')
    match rest.drop name.length with
    | ':' :: ']' :: rest =>
      if classNames.contains (String.ofList name) then some (negated, rest) else none
    | _ => none
  | _ => none

def readMember (verbose : Bool) : List Char → Option (Escape × List Char)
  | [] => none
  | '\\' :: rest => readEscape verbose rest
  | char :: rest => some (.symbol ⟨char, false⟩, rest)

def peek (verbose : Bool) (chars : List Char) : Option Char :=
  if verbose then
    match chars.dropWhile Text.isBlank with
    | '#' :: rest => (rest.dropWhile Text.isBlank).head?
    | rest => rest.head?
  else chars.head?

def readRange (verbose : Bool) (chars : List Char) : Option (Charset × List Char) := do
  let (first, rest) ← readMember verbose chars
  let rest := skip verbose rest
  let alone (rest : List Char) : Option (Charset × List Char) :=
    match first with
    | .symbol symbol => some (.symbol symbol, rest)
    | .family negated => some (.family negated, rest)
    | .look _ => none
  match rest with
  | [] => none
  | '-' :: after =>
    if peek verbose after ∈ [some ']', some '-'] then alone rest
    else
      let (last, rest) ← readMember verbose (skip verbose after)
      match first, last with
      | .symbol low, .symbol high =>
        if low.char ≤ high.char then return (.range low high, rest) else none
      | _, _ => none
  | _ => alone rest

def joinSets : List Charset → Charset
  | [set] => set
  | sets => .union sets.reverse

def combine (left : Option Charset) (right : Charset) : Charset :=
  match left with
  | none => right
  | some left => .combined left right

def dash : Charset := .symbol ⟨'-', false⟩

def readDashes (verbose : Bool) : Nat → List Char → List Charset × List Char
  | fuel + 1, '-' :: rest =>
    let (dashes, rest) := readDashes verbose fuel (skip verbose rest)
    (dash :: dashes, rest)
  | _, chars => ([], chars)

def readOpening (verbose : Bool) (chars : List Char) : Bool × List Charset × List Char :=
  let (negated, rest) :=
    match skip verbose chars with
    | '^' :: rest => (true, skip verbose rest)
    | rest => (false, rest)
  match readDashes verbose rest.length rest with
  | ([], ']' :: rest) => (negated, [.symbol ⟨']', false⟩], skip verbose rest)
  | (dashes, rest) => (negated, dashes, rest)

-- `left` is what stands before the last operation, `members` what has been read since.
def readMembers (verbose : Bool) : Nat → Option Charset → List Charset → List Char →
    Option (Charset × List Char)
  | 0, _, _, _ => none
  | fuel + 1, left, members, chars =>
    match skip verbose chars with
    | [] => none
    | ']' :: rest => some (combine left (joinSets members), rest)
    | '[' :: rest =>
      match readNamed rest with
      | some (negated, rest) => readMembers verbose fuel left (.named negated :: members) rest
      | none => do
        let (negated, first, rest) := readOpening verbose rest
        let (set, rest) ← readMembers verbose fuel none first rest
        readMembers verbose fuel left (.bracketed negated set :: members) rest
    | '&' :: '&' :: rest | '-' :: '-' :: rest | '~' :: '~' :: rest =>
      readMembers verbose fuel (some (combine left (joinSets members))) [] rest
    | chars => do
      let (member, rest) ← readRange verbose chars
      readMembers verbose fuel left (member :: members) rest

def readSet (verbose : Bool) (chars : List Char) : Option (Expr × List Char) := do
  let (negated, first, rest) := readOpening verbose chars
  let (set, rest) ← readMembers verbose (chars.length + 1) none first rest
  return (.charset negated set, rest)

def flag? : Char → Option Flag
  | 'i' => some .ignoreCase
  | 'm' => some .multiLine
  | 's' => some .dotNewline
  | 'U' => some .swapGreed
  | 'u' => some .unicode
  | 'R' => some .carriageReturn
  | 'x' => some .verbose
  | _ => none

def readFlags (value : Bool) (flags : Flags) : List Char → Option (Flags × List Char)
  | [] => none
  | '-' :: rest =>
    match value, rest with
    | false, _ | _, ':' :: _ | _, ')' :: _ => none
    | true, rest => readFlags false flags rest
  | char :: rest =>
    if char = ':' ∨ char = ')' then some (flags.reverse, char :: rest)
    else do
      let flag ← flag? char
      if flags.any (·.1 = flag) then none
      else readFlags value ((flag, value) :: flags) rest

def isName : List Char → Bool
  | [] => false
  | first :: rest =>
    (first = '_' || Text.isAlphabetic first) &&
      rest.all fun char => char ∈ ['_', '.', '[', ']'] || Text.isAlphanumeric char

structure Progress where
  names : List (List Char)
  verbose : Bool

inductive Opening where
  | setting (flags : Flags)
  | group (flags : Flags)

def readName (progress : Progress) (chars : List Char) :
    Option (Opening × Progress × List Char) :=
  let name := chars.takeWhile (· ≠ '>')
  match chars.drop name.length with
  | _ :: rest =>
    if isName name ∧ name ∉ progress.names then
      some (.group [], { progress with names := name :: progress.names }, rest)
    else none
  | [] => none

def readParenthesis (progress : Progress) (chars : List Char) :
    Option (Opening × Progress × List Char) :=
  match skip progress.verbose chars with
  | '?' :: 'P' :: '<' :: rest | '?' :: '<' :: rest => readName progress rest
  | '?' :: rest => do
    let (flags, rest) ← readFlags true [] rest
    match flags, rest with
    | [], ')' :: _ => none
    | _, ')' :: rest => return (.setting flags, progress, rest)
    | _, rest => return (.group flags, progress, rest.drop 1)
  | rest => some (.group [], progress, rest)

def joinParts : List Expr → Expr
  | [] => .empty
  | [part] => part
  | parts => .sequence parts.reverse

def joinBranches (branches : List Expr) (parts : List Expr) : Expr :=
  match branches with
  | [] => joinParts parts
  | _ => .branches ((joinParts parts :: branches).reverse)

def repeatLast? : List Expr → Option (List Expr)
  | [] | .empty :: _ | .flags _ :: _ => none
  | part :: parts => some (.repeated part :: parts)

def Escape.expr : Escape → Expr
  | .symbol found => .symbol found
  | .look edge => .look edge
  | .family negated => .family negated

def readBranches : Nat → Progress → List Expr → List Expr → List Char →
    Option (Expr × Progress × List Char)
  | 0, _, _, _, _ => none
  | fuel + 1, progress, branches, parts, chars =>
    match skip progress.verbose chars with
    | [] => some (joinBranches branches parts, progress, [])
    | ')' :: rest => some (joinBranches branches parts, progress, ')' :: rest)
    | '|' :: rest => readBranches fuel progress (joinParts parts :: branches) [] rest
    | '(' :: rest => do
      let (opening, inside, rest) ← readParenthesis progress rest
      match opening with
      | .setting flags =>
        let progress := { inside with verbose := flags.setting .verbose inside.verbose }
        readBranches fuel progress branches (.flags flags :: parts) rest
      | .group flags =>
        let inside := { inside with verbose := flags.setting .verbose inside.verbose }
        let (inner, after, rest) ← readBranches fuel inside [] [] rest
        match rest with
        | ')' :: rest =>
          let progress := { after with verbose := progress.verbose }
          readBranches fuel progress branches (.group flags inner :: parts) rest
        | _ => none
    | '[' :: rest => do
      let (set, rest) ← readSet progress.verbose rest
      readBranches fuel progress branches (set :: parts) rest
    | '\x7b' :: _ => none
    | char :: rest =>
      if char ∈ ['?', '*', '+'] then do
        let parts ← repeatLast? parts
        let rest :=
          match rest with
          | '?' :: rest => rest
          | rest => rest
        readBranches fuel progress branches parts rest
      else if char = '.' then readBranches fuel progress branches (.dot :: parts) rest
      else if char = '^' ∨ char = '$' then
        readBranches fuel progress branches (.look false :: parts) rest
      else if char = '\\' then do
        let (escape, rest) ← readEscape progress.verbose rest
        readBranches fuel progress branches (escape.expr :: parts) rest
      else readBranches fuel progress branches (.symbol ⟨char, false⟩ :: parts) rest

def maxDepth : Nat := 250

def read (chars : List Char) : Option Expr := do
  let (expr, _, rest) ← readBranches (chars.length + 1) ⟨[], false⟩ [] [] chars
  if rest = [] ∧ expr.depth ≤ maxDepth then return expr else none

end Multichain.Pattern
