/-!
Regular expressions as they are written: what they are made of, and how deep their parts stand
within one another.
-/

set_option autoImplicit false

namespace Multichain.Pattern

inductive Flag where
  | ignoreCase
  | multiLine
  | dotNewline
  | swapGreed
  | unicode
  | carriageReturn
  | verbose
  deriving DecidableEq

abbrev Flags := List (Flag × Bool)

def Flags.setting (flags : Flags) (flag : Flag) (value : Bool) : Bool :=
  match flags.find? (·.1 = flag) with
  | some (_, value) => value
  | none => value

structure Symbol where
  char : Char
  asByte : Bool
  deriving DecidableEq

inductive Charset where
  | symbol (symbol : Symbol)
  | range (low high : Symbol)
  | named (negated : Bool)
  | family (negated : Bool)
  | bracketed (negated : Bool) (set : Charset)
  | union (sets : List Charset)
  | combined (left right : Charset)

inductive Expr where
  | empty
  | flags (flags : Flags)
  | symbol (symbol : Symbol)
  | dot
  -- A place between characters; `word` tells whether it is at the edge of a word.
  | look (word : Bool)
  | family (negated : Bool)
  | charset (negated : Bool) (set : Charset)
  | repeated (inner : Expr)
  | group (flags : Flags) (inner : Expr)
  | branches (all : List Expr)
  | sequence (parts : List Expr)

mutual

def Charset.depth : Charset → Nat
  | .bracketed _ set => set.depth + 1
  | .union sets => charsetsDepth sets + 1
  | .combined left right => max left.depth right.depth + 1
  | _ => 0

def charsetsDepth : List Charset → Nat
  | [] => 0
  | set :: sets => max set.depth (charsetsDepth sets)

end

mutual

def Expr.depth : Expr → Nat
  | .charset _ set => set.depth + 1
  | .repeated inner | .group _ inner => inner.depth + 1
  | .branches all => exprsDepth all + 1
  | .sequence parts => exprsDepth parts + 1
  | _ => 0

def exprsDepth : List Expr → Nat
  | [] => 0
  | expr :: exprs => max expr.depth (exprsDepth exprs)

end

end Multichain.Pattern
