import FirstMatch.Text

/-!
# Symbols of a pattern

A backslash and the character after it are one symbol, and every other character is one.
A backslash at the very end has no partner.
-/

namespace FirstMatch.Pattern

inductive Symbol where
  | plain (c : Nat)
  | escaped (c : Nat)
  | dangling
  deriving DecidableEq, Repr

namespace Symbol

def backslash : Nat := '\\'.toNat

def split : List Nat → List Symbol
  | [] => []
  | [c] => [if c == backslash then dangling else plain c]
  | c :: d :: rest =>
    if c == backslash then escaped d :: split rest else plain c :: split (d :: rest)

def spelling : Symbol → Text
  | plain c => #[c]
  | escaped c => #[backslash, c]
  | dangling => #[backslash]

def length (s : Symbol) : Nat :=
  s.spelling.size

def is (s : Symbol) (c : Char) : Bool :=
  s == plain c.toNat

end Symbol

end FirstMatch.Pattern
