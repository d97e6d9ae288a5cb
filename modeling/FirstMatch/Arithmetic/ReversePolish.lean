import FirstMatch.Arithmetic.Operator
import FirstMatch.Lexicon

/-!
# Reverse Polish order

Numbers go straight to the output; an operator waits until one arrives that does not bind
tighter, or until the end.  The waiting operators are kept with the most recent on top.
-/

namespace FirstMatch.Arithmetic

/-- The kinds with their patterns, in order of precedence. -/
def patterns : List (Kind × Text) := [
  (.number, text "[0-9]+"),
  (.plus, text "[+]"),
  (.minus, text "[-]"),
  (.times, text "[*]"),
  (.divide, text "[/]"),
  (.space, text "\\s+")]

def definition? (kind : Kind) (source : Text) : Option Definition :=
  (Pattern.compile source .none).toOption.map fun p => ⟨.arithmetic kind, .pattern p⟩

def definitions : List Definition :=
  patterns.filterMap fun (kind, source) => definition? kind source

/-- Output and waiting operators, both with the most recent first. -/
structure Yard where
  output : List Token
  waiting : List Token
  deriving DecidableEq

namespace Yard

def empty : Yard :=
  ⟨[], []⟩

def emit (y : Yard) (t : Token) : Yard :=
  { y with output := t :: y.output }

def push (y : Yard) (t : Token) : Yard :=
  { y with waiting := t :: y.waiting }

/-- Moves operators from the top of `waiting` to the output, as long as `p` holds
of them. -/
def popWhile (p : Token → Bool) (output : List Token) : (waiting : List Token) → Yard
  | [] => ⟨output, []⟩
  | top :: rest => if p top then popWhile p (top :: output) rest else ⟨output, top :: rest⟩

/-- Takes an operator: it waits on top of looser ones, after all others went. -/
def takeOperator (y : Yard) (t : Token) : Yard :=
  match y.waiting with
  | [] => y.push t
  | top :: _ =>
    if top.precedence < t.precedence then y.push t
    else (popWhile (fun w => t.precedence ≤ w.precedence) y.output y.waiting).push t

def take (y : Yard) (t : Token) : Yard :=
  if t.isA .number then y.emit t else y.takeOperator t

def finish (y : Yard) : List Token :=
  (popWhile (fun _ => true) y.output y.waiting).output.reverse

end Yard

def rearrange (tokens : List Token) : List Token :=
  (tokens.foldl Yard.take Yard.empty).finish

def scan (expression : Text) : List Token :=
  match (Scanner.mk definitions expression).tokens .empty with
  | (.ok tokens, _) => tokens
  | (.error _, _) => []

def parse (expression : Text) : List Token :=
  rearrange ((scan expression).filter fun t => !t.isA .space)

/-- The same for an expression that may be missing, of which at most `limit`
tokens are asked for; nothing is looked at before the first. -/
def parseAtMost (limit : Option Nat) (expression : Option Text) :
    Except ScannerFault (List Token) :=
  if limit = some 0 then .ok []
  else do
    let scanner ← Scanner.build (.ofDefinitions definitions) expression
    let tokens := parse scanner.text
    return (limit.map tokens.take).getD tokens

def notate (tokens : List Token) : Text :=
  Text.join (text " ") (tokens.map (·.value))

end FirstMatch.Arithmetic
