import Multichain.Pattern.Reader

/-!
Which patterns can be matched without tables of characters. A pattern matches characters or, where
it says so, bytes. Without tables, characters have no case and belong to no family, and words have
no edges; and bytes must not be matched in a way that could split a character.
-/

set_option autoImplicit false

namespace Multichain.Pattern

inductive Fault where
  | invalid
  | wordEdge
  deriving DecidableEq

structure Scope where
  ignoreCase : Bool
  unicode : Bool

namespace Scope

def start : Scope := ⟨false, true⟩

def apply (scope : Scope) (flags : Flags) : Scope where
  ignoreCase := flags.setting .ignoreCase scope.ignoreCase
  unicode := flags.setting .unicode scope.unicode

def needsCase (scope : Scope) : Bool :=
  scope.ignoreCase && scope.unicode

end Scope

def Symbol.isAscii (symbol : Symbol) : Bool :=
  symbol.char.toNat < 0x80

def Symbol.allowed (symbol : Symbol) (scope : Scope) : Bool :=
  !scope.needsCase && (scope.unicode || symbol.isAscii || !symbol.asByte)

mutual

def Charset.allowed (scope : Scope) : Charset → Bool
  | .symbol symbol => !scope.needsCase && (scope.unicode || symbol.isAscii)
  | .range low high =>
    !scope.needsCase && (scope.unicode || low.isAscii && high.isAscii)
  | .named negated => !scope.needsCase && (scope.unicode || !negated)
  | .family negated => !scope.unicode && !negated
  | .bracketed negated set =>
    set.allowed scope && (!negated || scope.unicode && !scope.needsCase)
  | .union sets => charsetsAllowed scope sets
  | .combined left right => left.allowed scope && right.allowed scope

def charsetsAllowed (scope : Scope) : List Charset → Bool
  | [] => true
  | set :: sets => set.allowed scope && charsetsAllowed scope sets

end

structure Found where
  scope : Scope
  wordEdge : Bool

def Found.of (scope : Scope) (allowed : Bool) : Option Found :=
  if allowed then some ⟨scope, false⟩ else none

mutual

def Expr.check (scope : Scope) : Expr → Option Found
  | .empty => Found.of scope true
  | .flags flags => Found.of (scope.apply flags) true
  | .symbol symbol => Found.of scope (symbol.allowed scope)
  | .dot => Found.of scope scope.unicode
  | .look word => some ⟨scope, word && scope.unicode⟩
  | .family negated => Found.of scope (!scope.unicode && !negated)
  | .charset negated set => Found.of scope (set.allowed scope && (!negated || scope.unicode))
  | .repeated inner => inner.check scope
  | .group flags inner => do
    let found ← inner.check (scope.apply flags)
    return { found with scope := scope }
  | .branches all => checkAll scope all
  | .sequence parts => checkAll scope parts

def checkAll (scope : Scope) : List Expr → Option Found
  | [] => Found.of scope true
  | expr :: exprs => do
    let first ← expr.check scope
    let others ← checkAll first.scope exprs
    return ⟨others.scope, first.wordEdge || others.wordEdge⟩

end

def check (text : String) : Except Fault Unit :=
  match (read text.toList).bind (Expr.check Scope.start) with
  | none => .error .invalid
  | some found => if found.wordEdge then .error .wordEdge else .ok ()

end Multichain.Pattern
