import FirstMatch.Arithmetic.ReversePolish
import FirstMatch.Text.Numeral

/-!
# Calculation on a stack

A number is put on the stack; an operator takes the two topmost values and puts its result
there.  The value is what ends up on top, zero if there is nothing.
-/

namespace FirstMatch.Arithmetic

inductive Fault where
  | badNumber (value : Text) (fault : Numeral.Fault)
  | missingOperands (value : Text) (index : Int)
  | unknownOperator (kind : Datum)
  | unhashable
  | divisionByZero
  deriving DecidableEq

namespace Fault

def message : Fault → Text
  | badNumber value fault => fault.message value
  | missingOperands value index =>
    text "Operator " ++ value.quoted ++ text " at " ++ decimal index ++
      text " is missing operands"
  | unknownOperator kind => kind.literal
  | unhashable => text "unhashable type: 'list'"
  | divisionByZero => text "integer division or modulo by zero"

end Fault

def quotient (left right : Int) : Except Fault Int :=
  match quotient? left right with
  | some q => .ok q
  | none => .error .divisionByZero

def operate (t : Token) (left right : Int) : Except Fault Int :=
  match t.operator? with
  | some o =>
    match o.apply? left right with
    | some n => .ok n
    | none => .error .divisionByZero
  | none => if t.kind.hashable then .error (.unknownOperator t.kind) else .error .unhashable

def evaluateToken (stack : List Int) (t : Token) : Except Fault (List Int) :=
  if t.isA .number then
    match Numeral.read t.value with
    | .ok n => .ok (n :: stack)
    | .error fault => .error (.badNumber t.value fault)
  else
    match stack with
    | right :: left :: rest => (operate t left right).map (· :: rest)
    | _ => .error (.missingOperands t.value t.index)

def evaluate (stack : List Int) : List Token → Except Fault (List Int)
  | [] => .ok stack
  | t :: rest =>
    match evaluateToken stack t with
    | .ok stack => evaluate stack rest
    | .error e => .error e

def calculate (tokens : List Token) : Except Fault Int :=
  (evaluate [] tokens).map fun stack => stack.head?.getD 0

def calculateExpression (expression : Text) : Except Fault Int :=
  calculate (parse expression)

end FirstMatch.Arithmetic
