import Multichain.Environment.Basic
import Multichain.Text.Basic
import Multichain.Text.Quoted

/-!
Files of variables: a name, an equals sign and a value a line. Quotes may carry a value over several
lines, and a value may refer to other variables. What is set in the surroundings outweighs the file,
and a faulty line ends it.
-/

set_option autoImplicit false

namespace Multichain.DotEnv

open Multichain

inductive Quoting where
  | complete
  | escape
  | strong
  | strongEscape
  | weak
  | weakEscape
  | comment
  | blank
  deriving DecidableEq

def Quoting.opening : Char → Quoting
  | '\\' => .escape
  | '"' => .weak
  | '\'' => .strong
  | _ => .complete

def Quoting.next (quoting : Quoting) (char : Char) : Quoting :=
  match quoting with
  | .blank => if char = '#' then .comment else .opening char
  | .complete =>
    if Text.isBlank char ∧ char ≠ '\n' ∧ char ≠ '\r' then .blank else .opening char
  | .escape => .complete
  | .weak => if char = '\\' then .weakEscape else if char = '"' then .complete else .weak
  | .weakEscape => .weak
  | .strong => if char = '\\' then .strongEscape else if char = '\'' then .complete else .strong
  | .strongEscape => .strong
  | .comment => .comment

def Quoting.after (quoting : Quoting) : List Char → Quoting × List Char
  | [] => (quoting, [])
  | char :: rest =>
    match quoting.next char with
    | .comment => (.comment, [])
    | next =>
      let (last, kept) := after next rest
      (last, char :: kept)

def splitLines (current : Bytes) : Bytes → List Bytes
  | [] => if current = [] then [] else [current]
  | byte :: rest =>
    if byte = 10 then (current ++ [10]) :: splitLines [] rest
    else splitLines (current ++ [byte]) rest

def dropLineEnd (chars : List Char) : List Char :=
  match chars.reverse with
  | '\n' :: '\r' :: rest => rest.reverse
  | '\n' :: rest => rest.reverse
  | _ => chars

/-- Joins lines until their quotes are closed. A line that is no text, or quotes that stay open, is
`none` and ends the list. -/
def joinLines (quoting : Quoting) (held : List Char) : List Bytes → List (Option (List Char))
  | [] => if quoting = .complete then [] else [none]
  | bytes :: rest =>
    match Bytes.text? bytes with
    | none => [none]
    | some text =>
      let whole := held ++ text.toList
      if (Text.trimStart whole).head? = some '#' then some [] :: joinLines .complete [] rest
      else
        match quoting.after text.toList with
        | (.complete, _) => some (dropLineEnd whole) :: joinLines .complete [] rest
        | (.comment, kept) => some (held ++ kept) :: joinLines .complete [] rest
        | (left, _) => joinLines left whole rest

inductive Mode where
  | plain
  | weak
  | strong
  | escaped (quoted : Bool)
  | ending
  | name (quoted : Bool) (chars : List Char)
  | braced (quoted : Bool) (chars : List Char)

def Mode.base (quoted : Bool) : Mode :=
  if quoted then .weak else .plain

def unescaped? (char : Char) : Option Char :=
  if char = 'n' then some '\n' else if char ∈ ['\\', '\'', '"', '$', ' '] then some char else none

def readValue (lookup : List Char → List Char) : Mode → List Char → Option (List Char)
  | .plain, [] | .ending, [] | .escaped false, [] => some []
  | .name false name, [] => some (lookup name)
  | _, [] => none
  | .plain, char :: rest =>
    if char = '$' then readValue lookup (.name false []) rest
    else if char = '\'' then readValue lookup .strong rest
    else if char = '"' then readValue lookup .weak rest
    else if char = '\\' then readValue lookup (.escaped false) rest
    else if char = ' ' ∨ char = '\t' then readValue lookup .ending rest
    else (readValue lookup .plain rest).map (char :: ·)
  | .weak, char :: rest =>
    if char = '$' then readValue lookup (.name true []) rest
    else if char = '"' then readValue lookup .plain rest
    else if char = '\\' then readValue lookup (.escaped true) rest
    else (readValue lookup .weak rest).map (char :: ·)
  | .strong, char :: rest =>
    if char = '\'' then readValue lookup .plain rest
    else (readValue lookup .strong rest).map (char :: ·)
  | .escaped quoted, char :: rest => do
    let char ← unescaped? char
    return char :: (← readValue lookup (.base quoted) rest)
  | .ending, char :: rest =>
    if char = ' ' ∨ char = '\t' then readValue lookup .ending rest
    else if char = '#' then some []
    else none
  | .name quoted name, char :: rest =>
    if Text.isAlphanumeric char then readValue lookup (.name quoted (name ++ [char])) rest
    else if char = '\x7b' ∧ name = [] then readValue lookup (.braced quoted []) rest
    else if char = '$' then (readValue lookup (.name quoted []) rest).map (lookup name ++ ·)
    else (readValue lookup (.base quoted) rest).map (lookup name ++ char :: ·)
  | .braced quoted name, char :: rest =>
    if char = '\x7d' then (readValue lookup (.base quoted) rest).map (lookup name ++ ·)
    else readValue lookup (.braced quoted (name ++ [char])) rest

structure Progress where
  environment : Environment
  assigned : List (String × String)

def Progress.lookup (progress : Progress) (name : List Char) : List Char :=
  let name := String.ofList name
  match progress.environment.value? name with
  | some value => value.toList
  | none => ((progress.assigned.find? (·.1 == name)).map fun found => found.2.toList).getD []

def isNameStart (char : Char) : Bool :=
  (char.toNat < 0x80 && char.isAlpha) || char == '_'

def isNameChar (char : Char) : Bool :=
  (char.toNat < 0x80 && char.isAlphanum) || char == '_' || char == '.'

def readName : List Char → Option (List Char × List Char)
  | char :: rest =>
    if isNameStart char then
      some (char :: rest.takeWhile isNameChar, Text.trimStart (rest.dropWhile isNameChar))
    else none
  | [] => none

-- The word `export` may stand before a name, or be one.
def readTarget (chars : List Char) : Option (List Char × List Char) := do
  match ← readName chars with
  | (name, '=' :: rest) => return (name, rest)
  | (name, rest) =>
    if name ≠ "export".toList then none
    match ← readName rest with
    | (name, '=' :: rest) => return (name, rest)
    | _ => none

def readAssignment (lookup : List Char → List Char) (line : List Char) :
    Option (Option (String × String)) :=
  match Text.trimStart (Text.trimEnd line) with
  | [] | '#' :: _ => some none
  | chars => do
    let (name, rest) ← readTarget chars
    let value ←
      match Text.trimStart rest with
      | [] | '#' :: _ => some []
      | chars => readValue lookup .plain chars
    return some (String.ofList name, String.ofList value)

def run (progress : Progress) : List (Option (List Char)) → Progress
  | [] | none :: _ => progress
  | some line :: rest =>
    match readAssignment progress.lookup line with
    | none => progress
    | some none => run progress rest
    | some (some (name, value)) =>
      run ⟨progress.environment.provide name value, (name, value) :: progress.assigned⟩ rest

def fileName : String := ".env"

def load (environment : Environment) : Environment :=
  match environment.read fileName with
  | .error _ => environment
  | .ok bytes =>
    let bytes :=
      match bytes with
      | 0xEF :: 0xBB :: 0xBF :: rest => rest
      | bytes => bytes
    (run ⟨environment, []⟩ (joinLines .complete [] (splitLines [] bytes))).environment

end Multichain.DotEnv
