import Multichain.Toml.Number

/-!
TOML documents: values, and the statements that open tables and fill them.
-/

set_option autoImplicit false

namespace Multichain.Toml

open Reader

def tooDeep {α : Type} : Reader α := fun cursor =>
  .error ⟨cursor.place, true, ⟨none, [], some .tooDeep⟩⟩

def word (subject text : String) (value : Value) : Reader Value :=
  expecting [.word text] <| naming subject do
    exactly text.toList
    return value

def array (value : Reader (Span × Value)) : Reader Value := do
  char '['
  let items ← firmly do
    match ← rest with
    | ']' :: _ => return []
    | _ =>
      let item : Reader (Span × Value) := do
        filler (← fuel)
        let item ← value
        filler (← fuel)
        return item
      let items ← separated item (char ',') (← fuel)
      if items ≠ [] then
        let _ ← optional (char ',')
      filler (← fuel)
      return items
  firmly (expecting [.char ']'] (naming "array" (char ']')))
  return .array items

def pair (value : Reader (Span × Value)) (ending : Reader Unit) :
    Reader (List Key × Key × Span × Value) := do
  let (path, key) ← key
  firmly do
    expecting [.char '.', .char '='] (char '=')
    blanks
    let (span, value) ← value
    ending
    return (path, key, span, value)

def tableOf (pairs : List (List Key × Key × Span × Value)) : Except Reason Value := do
  let members ← pairs.foldlM
    (fun members (path, key, span, value) =>
      Members.insert ⟨key, span, value, none⟩ [] path members)
    []
  return .table (closeMembers members)

def inlineTable (value : Reader (Span × Value)) : Reader Value := do
  char '\x7b'
  let pairs : Reader (List (List Key × Key × Span × Value)) := do
    let pairs ← separated (pair value blanks) (char ',') (← fuel)
    blanks
    return pairs
  let table ← firmly (judging tableOf pairs)
  firmly (expecting [.char '\x7d'] (naming "inline table" (char '\x7d')))
  return table

def announced (value : Option (Reader (Span × Value))) : Reader Value := do
  match ← rest with
  | [] => refuse
  | first :: _ =>
    if first = '"' ∨ first = '\'' then return .text (String.ofList (← quotedText))
    else if first = '[' then value.elim tooDeep array
    else if first = '\x7b' then value.elim tooDeep inlineTable
    else if first = '+' ∨ first = '-' ∨ first.isDigit then number
    else if first = '_' then expecting [.thing "leading digit"] integer
    else if first = '.' then expecting [.thing "leading digit"] float
    else if first = 't' then firmly (word "boolean" "true" (.bool true))
    else if first = 'f' then firmly (word "boolean" "false" (.bool false))
    else if first = 'i' then
      word "floating-point number" "inf" (.float (.infinite false))
    else if first = 'n' then word "floating-point number" "nan" (.float .undefined)
    else expecting [.char '"', .char '\''] (naming "string" refuse)

def value : Nat → Reader (Span × Value)
  | 0 => spanned (announced none)
  | depth + 1 => spanned (announced (some (value depth)))

structure Draft where
  path : List Key
  members : Members

namespace Draft

def names (keys : List Key) : List String :=
  keys.map Key.name

def enter (act : List String → Key → Span → Members → Except Reason Members) (draft : Draft)
    (header : Span × List Key × Key) : Except Reason Draft := do
  let (span, path, key) := header
  let members ← Members.change (act (names path) key span) [] path draft.members
  return ⟨path ++ [key], members⟩

def extend (act : Members → Except Reason Members) (name : String) (stop : Nat)
    (members : Members) : Except Reason Members := do
  match members.find? name with
  | some (.table kind span inner) =>
    let span := span.map fun span => ⟨span.start, stop⟩
    return members.replace name (.table kind span (← act inner))
  | some (.tables items) =>
    match items.getLast? with
    | some (span, inner) =>
      let last := (⟨span.start, stop⟩, ← act inner)
      return members.replace name (.tables (items.dropLast ++ [last]))
    | none => return members
  | _ => return members

def put (draft : Draft) (path : List Key) (assignment : Members.Assignment) :
    Except Reason Draft := do
  let insert := Members.insert assignment [] path
  match draft.path.getLast? with
  | none => return { draft with members := ← insert draft.members }
  | some last =>
    let act := extend insert last.name assignment.span.stop
    return { draft with members := ← Members.change act [] draft.path.dropLast draft.members }

end Draft

def header (opening closing : List Char) : Reader (Span × List Key × Key) := do
  let (span, path, key) ← spanned do
    exactly opening
    firmly do
      let header ← key
      expecting [.char '.', .word (String.ofList closing)] (exactly closing)
      return header
  firmly afterStatement
  return (span, path, key)

def tableHeader (draft : Draft) : Reader Draft :=
  naming "table header" do
    match ← rest with
    | '[' :: '[' :: _ =>
      judging (draft.enter Members.openItem) (header ['[', '['] [']', ']'])
    | _ :: _ :: _ => judging (draft.enter Members.openTable) (header ['['] [']'])
    | _ => refuse

def assignment (draft : Draft) : Reader Draft :=
  judging
    (fun (path, key, span, value) =>
      draft.put path ⟨key, span, value, some (Draft.names draft.path)⟩)
    (pair (value maxDepth) afterStatement)

def statement (draft : Draft) : Reader Draft := do
  match ← rest with
  | '#' :: _ =>
    firmly do
      comment
      lineEnding
    return draft
  | '[' :: _ => firmly (tableHeader draft)
  | '\n' :: _ | '\r' :: _ =>
    atStart newline
    return draft
  | _ => firmly (assignment draft)

-- Each statement takes at least one character.
def statements : Nat → Draft → Reader Draft
  | 0, _ => refuse
  | steps + 1, draft => do
    blanks
    match ← rest with
    | [] => return draft
    | _ => statements steps (← statement draft)

def document : Reader Value := do
  let _ ← optional (char '\ufeff')
  return .table (closeMembers (← statements (← fuel) ⟨[], []⟩).members)

def read (text : String) : Except Fault Value :=
  let chars := text.toList
  match document ⟨0, chars⟩ with
  | .ok (value, _) => .ok value
  | .error refusal =>
    let stop := min (refusal.place + 1) chars.length
    .error ⟨⟨refusal.place, stop⟩, .grammar refusal.complaint⟩

end Multichain.Toml
