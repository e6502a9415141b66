import Multichain.Toml.Text

/-!
Numbers and moments in TOML documents.
-/

set_option autoImplicit false

namespace Multichain.Toml

open Reader

def digitIn (base : Nat) : Reader Nat := fun cursor =>
  match cursor.rest with
  | char :: rest =>
    match Text.digitIn? base char with
    | some digit => .ok (digit, ⟨cursor.place + 1, rest⟩)
    | none => refuse cursor
  | [] => refuse cursor

def moreDigits (base : Nat) : Reader (List Nat) := do
  let behindUnderscore : Reader Nat := do
    char '_'
    firmly (expecting [.thing "digit"] (digitIn base))
  many (orElse (digitIn base) behindUnderscore) (← fuel)

def digits (base : Nat) : Reader (List Nat) := do
  let first ← digitIn base
  return first :: (← moreDigits base)

def sign : Reader Bool := do
  let sign ← optional (satisfying fun char => char = '+' || char = '-')
  return sign = some '-'

def wholeDigits : Reader (List Nat) := do
  match ← rest with
  | '0' :: _ =>
    advance
    return [0]
  | _ => digits 10

def wholeNumber : Reader (Bool × List Nat) :=
  naming "integer" do
    let negative ← sign
    return (negative, ← wholeDigits)

def integer? (value : Int) : Except Reason Value :=
  if value < -0x8000000000000000 then .error (.numeral .tooSmall)
  else if 0x8000000000000000 ≤ value then .error (.numeral .tooLarge)
  else .ok (.integer value)

-- What has been read stands, even if it is then found to be wrong.
def deciding {α β : Type} (judge : α → Except Reason β) (reader : Reader α) : Reader β :=
  fun cursor =>
    match reader cursor with
    | .error refusal => .error refusal
    | .ok _ => firmly (judging judge reader) cursor

def basedInteger (mark : Char) (base : Nat) (subject : String) : Reader Value :=
  firmly <| judging
    (fun digits => integer? (digits.foldl (fun total digit => total * base + digit) 0 : Nat)) <|
    naming subject do
      exactly ['0', mark]
      digits base

def wholeInteger : Reader Value :=
  deciding (fun (negative, digits) => integer? (Text.signed negative (Text.ofDigits digits)))
    wholeNumber

def integer : Reader Value := do
  match ← rest with
  | '0' :: 'x' :: _ => basedInteger 'x' 16 "hexadecimal integer"
  | '0' :: 'o' :: _ => basedInteger 'o' 8 "octal integer"
  | '0' :: 'b' :: _ => basedInteger 'b' 2 "binary integer"
  | _ => wholeInteger

def fraction : Reader (List Nat) := do
  char '.'
  firmly (expecting [.thing "digit"] (digits 10))

def exponent : Reader Int := do
  let _ ← satisfying fun char => char = 'e' || char = 'E'
  let negative ← sign
  return Text.signed negative (Text.ofDigits (← firmly (digits 10)))

def floatTail : Reader (List Nat × Int) :=
  orElse (do return ([], ← exponent)) do
    let places ← fraction
    return (places, (← optional exponent).getD 0)

def decimal : Reader Floating := do
  let (negative, whole) ← wholeNumber
  let (places, power) ← floatTail
  return .ofDecimal negative (Text.ofDigits (whole ++ places)) (power - places.length)

def finiteDecimal : Reader Floating := fun cursor => do
  let (value, after) ← decimal cursor
  if value = .infinite false then firmly refuse cursor else return (value, after)

def inf : Reader Unit := exactly ['i', 'n', 'f']

def nan : Reader Unit := exactly ['n', 'a', 'n']

def specialFloat : Reader Floating := do
  let negative ← sign
  orElse (do inf; return .infinite negative) (do nan; return .undefined)

def float : Reader Value :=
  naming "floating-point number" do return .float (← orElse finiteDecimal specialFloat)

def places (count low high : Nat) : Reader Nat :=
  judging (fun value => if low ≤ value ∧ value ≤ high then .ok value else .error .outOfRange)
    fun cursor =>
      match (cursor.rest.take count).mapM Text.digitValue? with
      | some digits =>
        if digits.length = count then
          .ok (Text.ofDigits digits, ⟨cursor.place + count, cursor.rest.drop count⟩)
        else refuse cursor
      | none => refuse cursor

def daysOf (year month : Nat) : Nat :=
  if month = 2 then if year % 4 = 0 ∧ (year % 100 ≠ 0 ∨ year % 400 = 0) then 29 else 28
  else if month ∈ [4, 6, 9, 11] then 30
  else 31

def date : Reader Unit := do
  let year ← places 4 0 9999
  char '-'
  firmly do
    let month ← places 2 1 12
    char '-'
    let _ ← judging (fun day => if day ≤ daysOf year month then .ok day else .error .outOfRange)
      (places 2 1 31)

def secondsFraction : Reader Unit := do
  char '.'
  let _ ← takeSome fun char => (Text.digitValue? char).isSome

def clock : Reader Unit := do
  char ':'
  let _ ← places 2 0 59

def time : Reader Unit := do
  let _ ← places 2 0 23
  char ':'
  firmly do
    let _ ← places 2 0 59
    char ':'
    let _ ← places 2 0 60
    let _ ← optional secondsFraction

def offset : Reader Unit :=
  naming "time offset" do
    orElse (do let _ ← satisfying fun char => char = 'Z' || char = 'z') do
      let _ ← satisfying fun char => char = '+' || char = '-'
      firmly do
        let _ ← places 2 0 23
        clock

def timeOfDate : Reader Unit := do
  let _ ← satisfying fun char => char = 'T' || char = 't' || char = ' '
  time
  let _ ← optional offset

def dated : Reader Unit := do
  date
  let _ ← optional timeOfDate

def moment : Reader Value := fun cursor => do
  let (_, after) ← orElse (naming "date-time" dated) (naming "time" time) cursor
  let literal := cursor.rest.take (after.place - cursor.place)
  return (.moment (String.ofList literal), after)

def number : Reader Value :=
  orElse moment (orElse float integer)

end Multichain.Toml
