import FirstMatch.Text

/-!
# The kinds of tokens in arithmetic expressions
-/

namespace FirstMatch.Arithmetic

inductive Kind where
  | number
  | plus
  | minus
  | times
  | divide
  | space
  deriving DecidableEq, Repr

namespace Kind

def all : List Kind :=
  [number, plus, minus, times, divide, space]

def name : Kind → String
  | number => "NUM"
  | plus => "ADD"
  | minus => "SUB"
  | times => "MUL"
  | divide => "DIV"
  | space => "SPACE"

def ordinal : Kind → Nat
  | number => 1
  | plus => 2
  | minus => 3
  | times => 4
  | divide => 5
  | space => 6

end Kind

end FirstMatch.Arithmetic
