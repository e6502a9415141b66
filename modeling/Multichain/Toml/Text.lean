import Multichain.Toml.Reader
import Multichain.Toml.Value

/-!
The texts in TOML documents: blanks, comments and line ends between statements, the four kinds of
quoted text, and keys.
-/

set_option autoImplicit false

namespace Multichain.Toml

open Reader

-- As many steps as there are characters left, and one more.
def fuel : Reader Nat := do
  return (← rest).length + 1

def isPlain (char : Char) : Bool :=
  char == '\t' || (0x20 ≤ char.toNat && char.toNat != 0x7F)

def isBlank (char : Char) : Bool :=
  char == ' ' || char == '\t'

def blanks : Reader Unit := do
  let _ ← takeWhile isBlank

-- What stands there instead has been read when it is refused, unless it is no more than the
-- beginning of a character.
def newline : Reader Unit := do
  match ← rest with
  | '\n' :: _ => advance
  | '\r' :: '\n' :: _ =>
    advance
    advance
  | char :: _ =>
    if isAscii char then advance
    refuse
  | [] => refuse

def comment : Reader Unit := do
  char '#'
  let _ ← takeWhile isPlain

def lineEnding : Reader Unit :=
  orElse newline atEnd

def endLine : Reader Unit := do
  blanks
  let _ ← optional comment
  lineEnding

def afterStatement : Reader Unit :=
  expecting [.char '\n', .char '#'] endLine

def blankLines : Reader Unit := do
  let _ ← many (orElse newline (do let _ ← takeSome isBlank)) (← fuel)

def filler : Nat → Reader Unit
  | 0 => refuse
  | steps + 1 => do
    blanks
    match ← rest with
    | '#' :: _ =>
      comment
      newline
      filler steps
    | '\n' :: _ | '\r' :: _ =>
      newline
      filler steps
    | _ => return ()

def escaped? : Char → Option Char
  | 'b' => some '\x08'
  | 't' => some '\t'
  | 'n' => some '\n'
  | 'f' => some '\x0c'
  | 'r' => some '\r'
  | '"' => some '"'
  | '\\' => some '\\'
  | _ => none

def escapeLetters : List Expected :=
  ['b', 'f', 'n', 'r', 't', 'u', 'U', '\\', '"'].map .char

def code (count : Nat) : Reader Nat := fun cursor =>
  match (cursor.rest.take count).mapM (Text.digitIn? 16) with
  | some digits =>
    if digits.length = count then
      let value := digits.foldl (fun total digit => total * 16 + digit) 0
      .ok (value, ⟨cursor.place + count, cursor.rest.drop count⟩)
    else refuse cursor
  | none => refuse cursor

def coded (count : Nat) : Reader Char :=
  judging (fun code => if code.isValidChar then .ok (Char.ofNat code) else .error .outOfRange)
    (code count)

def escape : Reader Char := do
  char '\\'
  match ← rest with
  | [] => refuse
  | 'u' :: _ =>
    advance
    firmly (naming "unicode 4-digit hex code" (coded 4))
  | 'U' :: _ =>
    advance
    firmly (naming "unicode 8-digit hex code" (coded 8))
  | letter :: _ =>
    match escaped? letter with
    | some char =>
      advance
      return char
    | none =>
      if isAscii letter then advance
      firmly (expecting escapeLetters (naming "escape sequence" refuse))

def isUnescaped (char : Char) : Bool :=
  isPlain char && char != '"' && char != '\\'

def basicPiece : Reader (List Char) :=
  orElse (takeSome isUnescaped) (do return [← escape])

def basicText : Reader (List Char) := do
  char '"'
  let pieces ← many basicPiece (← fuel)
  firmly (naming "basic string" (char '"'))
  return pieces.flatten

def literalText : Reader (List Char) :=
  naming "literal string" do
    char '\''
    let text ← takeWhile fun char => isPlain char && char != '\''
    firmly (char '\'')
    return text

def quotesBefore (quote : Char) (follower : Reader Unit) : Reader (List Char) :=
  let quotes (count : Nat) : Reader (List Char) := do
    let text := List.replicate count quote
    exactly text
    ahead follower
    return text
  orElse (quotes 2) (quotes 1)

def notQuote (quote : Char) : Reader Unit := do
  let _ ← satisfying (· ≠ quote)

def threeQuotes (quote : Char) : Reader Unit :=
  exactly [quote, quote, quote]

def fold : Reader Unit := do
  char '\\'
  blanks
  newline
  blankLines

def folds : Reader Unit := do
  fold
  let _ ← many fold (← fuel)

def lineFeed : Reader (List Char) := do
  newline
  return ['\n']

def basicLinePiece : Reader (List Char) :=
  orElse (takeSome isUnescaped)
    (orElse (do folds; return [])
      (orElse (do return [← escape]) lineFeed))

def basicLines : Nat → Reader (List Char)
  | 0 => refuse
  | steps + 1 => do
    match ← optional (quotesBefore '"' (notQuote '"')) with
    | none => return []
    | some quotes =>
      match ← optional basicLinePiece with
      | none => return []
      | some piece =>
        let pieces ← many basicLinePiece (← fuel)
        return quotes ++ piece ++ pieces.flatten ++ (← basicLines steps)

def basicBody : Reader (List Char) := do
  let pieces ← many basicLinePiece (← fuel)
  let more ← basicLines (← fuel)
  let quotes ← optional (quotesBefore '"' (threeQuotes '"'))
  return pieces.flatten ++ more ++ quotes.getD []

def literalLinePiece : Reader (List Char) :=
  orElse (takeSome fun char => isPlain char && char != '\'') lineFeed

def literalBody : Reader (List Char) := do
  let pieces ← many literalLinePiece (← fuel)
  let quoted : Reader (List Char) := do
    let quotes ← quotesBefore '\'' (notQuote '\'')
    let piece ← literalLinePiece
    let pieces ← many literalLinePiece (← fuel)
    return quotes ++ piece ++ pieces.flatten
  let more ← many quoted (← fuel)
  let quotes ← optional (quotesBefore '\'' (threeQuotes '\''))
  return pieces.flatten ++ more.flatten ++ quotes.getD []

def longText (quote : Char) (body : Reader (List Char)) : Reader (List Char) := do
  threeQuotes quote
  let _ ← optional newline
  let text ← firmly body
  firmly (threeQuotes quote)
  return text

def quotedText : Reader (List Char) :=
  orElse (naming "multiline basic string" (longText '"' basicBody))
    (orElse basicText
      (orElse (naming "multiline literal string" (longText '\'' literalBody)) literalText))

def keyPart : Reader Key := do
  blanks
  let (span, name) ← spanned do
    match ← rest with
    | '"' :: _ => basicText
    | '\'' :: _ => literalText
    | _ => takeSome isBare
  blanks
  return ⟨String.ofList name, span⟩

def maxDepth : Nat := 79

def key : Reader (List Key × Key) :=
  judging
    (fun parts =>
      match parts.getLast? with
      | some last =>
        if parts.length ≤ maxDepth then .ok (parts.dropLast, last) else .error .tooDeep
      | none => .error .tooDeep)
    (naming "key" do separatedSome keyPart (char '.') (← fuel))

end Multichain.Toml
