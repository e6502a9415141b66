import Multichain.Toml.Fault

/-!
Readers of documents. A reader goes on from a place or refuses what stands there. A refusal says
where the reader stopped and what it missed; it is firm if no other reading is to be tried.
-/

set_option autoImplicit false

namespace Multichain.Toml

structure Cursor where
  place : Nat
  rest : List Char

structure Refusal where
  place : Nat
  firm : Bool
  complaint : Complaint

abbrev Reader (α : Type) : Type := StateT Cursor (Except Refusal) α

namespace Reader

variable {α β : Type}

def refuseAt (place : Nat) : Reader α := fun _ =>
  .error ⟨place, false, ⟨none, [], none⟩⟩

def refuse : Reader α := fun cursor => refuseAt cursor.place cursor

def rest : Reader (List Char) := fun cursor => .ok (cursor.rest, cursor)

def place : Reader Nat := fun cursor => .ok (cursor.place, cursor)

def advance : Reader Unit := fun cursor =>
  match cursor.rest with
  | [] => .ok ((), cursor)
  | _ :: rest => .ok ((), ⟨cursor.place + 1, rest⟩)

def satisfying (holds : Char → Bool) : Reader Char := fun cursor =>
  match cursor.rest with
  | char :: rest => if holds char then .ok (char, ⟨cursor.place + 1, rest⟩) else refuse cursor
  | [] => refuse cursor

def exactly (text : List Char) : Reader Unit := fun cursor =>
  if text.isPrefixOf cursor.rest then
    .ok ((), ⟨cursor.place + text.length, cursor.rest.drop text.length⟩)
  else refuse cursor

def char (char : Char) : Reader Unit := exactly [char]

def takeWhile (holds : Char → Bool) : Reader (List Char) := fun cursor =>
  let taken := cursor.rest.takeWhile holds
  .ok (taken, ⟨cursor.place + taken.length, cursor.rest.drop taken.length⟩)

def takeSome (holds : Char → Bool) : Reader (List Char) := fun cursor =>
  match takeWhile holds cursor with
  | .ok ([], _) => refuse cursor
  | result => result

def atEnd : Reader Unit := fun cursor =>
  if cursor.rest = [] then .ok ((), cursor) else refuse cursor

def ahead (reader : Reader α) : Reader α := fun cursor =>
  match reader cursor with
  | .ok (value, _) => .ok (value, cursor)
  | .error refusal => .error refusal

def orElse (first second : Reader α) : Reader α := fun cursor =>
  match first cursor with
  | .error refusal => if refusal.firm then .error refusal else second cursor
  | result => result

def optional (reader : Reader α) : Reader (Option α) :=
  orElse (some <$> reader) (pure none)

def onRefusal (change : Refusal → Refusal) (reader : Reader α) : Reader α := fun cursor =>
  (reader cursor).mapError change

def firmly : Reader α → Reader α :=
  onRefusal fun refusal => { refusal with firm := true }

def naming (subject : String) : Reader α → Reader α :=
  onRefusal fun refusal =>
    { refusal with complaint :=
      { refusal.complaint with subject := refusal.complaint.subject.or (some subject) } }

def expecting (expected : List Expected) : Reader α → Reader α :=
  onRefusal fun refusal =>
    { refusal with complaint :=
      { refusal.complaint with expected := refusal.complaint.expected ++ expected } }

def judging (judge : α → Except Reason β) (reader : Reader α) : Reader β := fun cursor => do
  let (value, after) ← reader cursor
  match judge value with
  | .ok value => .ok (value, after)
  | .error reason => .error ⟨cursor.place, false, ⟨none, [], some reason⟩⟩

def atStart (reader : Reader α) : Reader α := fun cursor =>
  (reader cursor).mapError fun refusal => { refusal with place := cursor.place }

def spanned (reader : Reader α) : Reader (Span × α) := fun cursor => do
  let (value, after) ← reader cursor
  .ok ((⟨cursor.place, after.place⟩, value), after)

def many (reader : Reader α) : Nat → Reader (List α)
  | 0 => pure []
  | fuel + 1 => do
    match ← optional reader with
    | none => return []
    | some value => return value :: (← many reader fuel)

def moreSeparated (item : Reader α) (separator : Reader Unit) (fuel : Nat) : Reader (List α) :=
  many (do separator; item) fuel

def separatedSome (item : Reader α) (separator : Reader Unit) (fuel : Nat) : Reader (List α) := do
  let first ← item
  return first :: (← moreSeparated item separator fuel)

def separated (item : Reader α) (separator : Reader Unit) (fuel : Nat) : Reader (List α) := do
  match ← optional item with
  | none => return []
  | some first => return first :: (← moreSeparated item separator fuel)

end Reader

end Multichain.Toml
