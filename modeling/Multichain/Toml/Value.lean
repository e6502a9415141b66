import Multichain.Toml.Fault

/-!
TOML values, and tables while they are built. The statements of a document open tables and put
values into them; which of them may follow which depends on how a table came about. Values keep the
places they come from.
-/

set_option autoImplicit false

namespace Multichain.Toml

def isAscii (char : Char) : Bool :=
  char.toNat < 0x80

def isBare (char : Char) : Bool :=
  (isAscii char && char.isAlphanum) || char == '-' || char == '_'

structure Key where
  name : String
  span : Span
  deriving DecidableEq

inductive Value where
  | text (value : String)
  | integer (value : Int)
  | float (value : Floating)
  | moment (literal : String)
  | bool (value : Bool)
  | array (items : List (Span × Value))
  | table (members : List (String × Span × Value))
  deriving Inhabited

def Value.kind : Value → String
  | .text _ => "string"
  | .integer _ => "integer"
  | .float _ => "float"
  | .moment _ => "datetime"
  | .bool _ => "boolean"
  | .array _ => "array"
  | .table _ => "inline table"

inductive TableKind where
  | header
  | implied
  | dotted
  deriving DecidableEq

inductive Node where
  | value (span : Span) (value : Value)
  | table (kind : TableKind) (span : Option Span) (members : List (Key × Node))
  | tables (items : List (Span × List (Key × Node)))
  deriving Inhabited

abbrev Members := List (Key × Node)

def Span.around : List Span → Option Span
  | [] => none
  | first :: rest => some ⟨first.start, (rest.getLastD first).stop⟩

def Node.span? : Node → Option Span
  | .value span _ => some span
  | .table _ span _ => span
  | .tables items => Span.around (items.map (·.1))

mutual

def Node.close : Node → Value
  | .value _ value => value
  | .table _ _ members => .table (closeMembers members)
  | .tables items => .array (closeItems items)

-- A table that no header has opened stands where its key does.
def closeMembers : List (Key × Node) → List (String × Span × Value)
  | [] => []
  | (key, node) :: rest =>
    (key.name, node.span?.getD key.span, node.close) :: closeMembers rest

def closeItems : List (Span × List (Key × Node)) → List (Span × Value)
  | [] => []
  | (span, members) :: rest => (span, .table (closeMembers members)) :: closeItems rest

end

namespace Members

def find? (members : Members) (name : String) : Option Node :=
  (List.find? (·.1.name == name) members).map (·.2)

def add (members : Members) (key : Key) (node : Node) : Members :=
  members ++ [(key, node)]

def erase (members : Members) (name : String) : Members :=
  members.filter (·.1.name != name)

def replace (members : Members) (name : String) (node : Node) : Members :=
  members.map fun member => if member.1.name == name then (member.1, node) else member

def written (name : String) : String :=
  if name ≠ "" ∧ name.toList.all isBare then name
  else if ¬ name.toList.any needsEscape then "\"" ++ name ++ "\""
  else if ¬ name.toList.any fun char => char = '\'' ∨ isControl char then "'" ++ name ++ "'"
  else "\"" ++ String.ofList (name.toList.flatMap escaped) ++ "\""
where
  isControl (char : Char) : Bool :=
    char != '\t' && (char.toNat < 0x20 || char.toNat = 0x7F)
  needsEscape (char : Char) : Bool :=
    char == '"' || char == '\\' || char.toNat < 0x20 || char.toNat = 0x7F
  escaped (char : Char) : List Char :=
    if char = '"' ∨ char = '\\' then ['\\', char]
    else if char = '\x08' then ['\\', 'b']
    else if char = '\t' then ['\\', 't']
    else if char = '\n' then ['\\', 'n']
    else if char = '\x0c' then ['\\', 'f']
    else if char = '\r' then ['\\', 'r']
    else if needsEscape char then
      let digits := Text.hexChars char.toNat
      ['\\', 'u'] ++ List.replicate (4 - digits.length) '0' ++ digits.map Char.toUpper
    else [char]

def change (act : Members → Except Reason Members) (passed : List String) :
    List Key → Members → Except Reason Members
  | [], members => act members
  | key :: path, members => do
    let passed := passed ++ [key.name]
    match members.find? key.name with
    | none => return members.add key (.table .implied none (← change act passed path []))
    | some (.table kind span inner) =>
      return members.replace key.name (.table kind span (← change act passed path inner))
    | some (.tables items) =>
      match items.getLast? with
      | none => throw (.noTable passed "array")
      | some (span, last) =>
        let last ← change act passed path last
        return members.replace key.name (.tables (items.dropLast ++ [(span, last)]))
    | some (.value _ value) => throw (.noTable passed value.kind)

/-- A table takes one header, and none if dotted keys have made it. One that the header of a table
within it has made comes last with its own header. -/
def openTable (path : List String) (key : Key) (span : Span) (members : Members) :
    Except Reason Members :=
  match members.find? key.name with
  | none => .ok (members.add key (.table .header (some span) []))
  | some (.table .implied _ inner) =>
    .ok ((members.erase key.name).add key (.table .header (some span) inner))
  | some _ => .error (.duplicateKey (written key.name) (some path))

def openItem (path : List String) (key : Key) (span : Span) (members : Members) :
    Except Reason Members :=
  match members.find? key.name with
  | none => .ok (members.add key (.tables [(span, [])]))
  | some (.tables items) => .ok (members.replace key.name (.tables (items ++ [(span, [])])))
  | some _ => .error (.duplicateKey (written key.name) (some path))

structure Assignment where
  key : Key
  span : Span
  value : Value
  table : Option (List String)

/-- Puts a value under a dotted key. A dotted key may go on from a table that other keys or headers
have made along the way, but it may put a value only into a table that dotted keys have made. -/
def insert (assignment : Assignment) (passed : List String) :
    List Key → Members → Except Reason Members
  | [], members =>
    match members.find? assignment.key.name with
    | none => .ok (members.add assignment.key (.value assignment.span assignment.value))
    | some _ => .error (.duplicateKey assignment.key.name assignment.table)
  | part :: path, members => do
    let passed := passed ++ [part.name]
    let last (inner : Members) : Except Reason Members :=
      if path = [] then .error (.duplicateKey assignment.key.name none)
      else insert assignment passed path inner
    match members.find? part.name with
    | none => return members.add part (.table .dotted none (← insert assignment passed path []))
    | some (.table .dotted span inner) =>
      return members.replace part.name (.table .dotted span (← insert assignment passed path inner))
    | some (.table .implied span inner) =>
      return members.replace part.name (.table .implied span (← last inner))
    | some (.table .header _ _) => throw (.duplicateKey part.name none)
    | some (.tables items) =>
      match items.getLast? with
      | none => throw (.duplicateKey part.name none)
      | some (span, inner) =>
        let inner ← last inner
        return members.replace part.name (.tables (items.dropLast ++ [(span, inner)]))
    | some (.value _ value) =>
      match assignment.table, value with
      | none, .table _ => throw (.duplicateKey part.name none)
      | _, _ => throw (.noTable passed value.kind)

end Members

end Multichain.Toml
