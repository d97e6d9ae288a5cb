import FirstMatch.Arithmetic.Kind
import FirstMatch.Token

/-!
# Operators

The four operators have four different precedences.  Division goes toward zero.
-/

namespace FirstMatch.Arithmetic

inductive Operator where
  | plus
  | minus
  | times
  | divide
  deriving DecidableEq, Repr

namespace Operator

/-- All operators, from the loosest to the tightest. -/
def all : List Operator :=
  [plus, minus, times, divide]

def precedence : Operator → Nat
  | plus => 1
  | minus => 2
  | times => 3
  | divide => 4

def kind : Operator → Kind
  | plus => .plus
  | minus => .minus
  | times => .times
  | divide => .divide

end Operator

def Kind.operator? : Kind → Option Operator
  | plus => some .plus
  | minus => some .minus
  | times => some .times
  | divide => some .divide
  | number | space => none

/-- The quotient without its fraction, `none` for a zero divisor. -/
def quotient? (left right : Int) : Option Int :=
  if right = 0 then none
  else
    let q : Int := (left.natAbs / right.natAbs : Nat)
    some (if decide (left < 0) == decide (right < 0) then q else -q)

def Operator.apply? : Operator → (left right : Int) → Option Int
  | plus, a, b => some (a + b)
  | minus, a, b => some (a - b)
  | times, a, b => some (a * b)
  | divide, a, b => quotient? a b

end FirstMatch.Arithmetic

namespace FirstMatch.Token

def isA (t : Token) (kind : Arithmetic.Kind) : Bool :=
  t.kind == .arithmetic kind

def operator? (t : Token) : Option Arithmetic.Operator :=
  match t.kind with
  | .arithmetic kind => kind.operator?
  | _ => none

/-- The precedence of an operator; zero for any other token. -/
def precedence (t : Token) : Nat :=
  (t.operator?.map Arithmetic.Operator.precedence).getD 0

end FirstMatch.Token
