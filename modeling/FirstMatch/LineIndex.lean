import FirstMatch.Text.Lines
import FirstMatch.Token

/-!
# Looking up lines and columns

The indices of all line feeds of a text are found once.  The number of those in front of a
place is found by halving the range where the answer can lie.
-/

namespace FirstMatch

structure LineIndex where
  length : Nat
  /-- The indices of the line feeds, ascending. -/
  breaks : Array Nat
  deriving DecidableEq, Repr

structure Outside where
  index : Int
  length : Nat
  deriving DecidableEq, Repr

def Outside.message (e : Outside) : Text :=
  text "Index " ++ decimal e.index ++ text " is outside of text of length " ++ decimal e.length

namespace LineIndex

/-- The indices from `start` on at which `cs`, which begins there, has a line
feed. -/
def breaksFrom (start : Nat) : List Nat → List Nat
  | [] => []
  | c :: rest =>
    if CodePoint.isBreak c then start :: breaksFrom (start + 1) rest
    else breaksFrom (start + 1) rest

def ofText (t : Text) : LineIndex where
  length := t.size
  breaks := (breaksFrom 0 t.toList).toArray

def lineCount (x : LineIndex) : Nat :=
  x.breaks.size + 1

/-- The first place in `[lo, hi)` whose entry is not below `i`, or `hi`, in at
most `fuel` halvings. -/
def searchBetween (breaks : Array Nat) (i : Nat) : (fuel lo hi : Nat) → Nat
  | 0, lo, _ => lo
  | fuel + 1, lo, hi =>
    if lo < hi then
      let middle := (lo + hi) / 2
      if breaks.getD middle 0 < i then searchBetween breaks i fuel (middle + 1) hi
      else searchBetween breaks i fuel lo middle
    else lo

def breaksBefore (x : LineIndex) (i : Nat) : Nat :=
  searchBetween x.breaks i (x.breaks.size + 1) 0 x.breaks.size

def place (x : LineIndex) (i : Nat) : Location :=
  let line := x.breaksBefore i
  let lineStart := if line = 0 then 0 else x.breaks.getD (line - 1) 0 + 1
  ⟨line + 1, i - lineStart + 1⟩

def location (x : LineIndex) (i : Int) : Except Outside Location :=
  if 0 ≤ i ∧ i ≤ x.length then .ok (x.place i.toNat) else .error ⟨i, x.length⟩

def locationOf (x : LineIndex) (token : Token) : Except Outside Location :=
  x.location token.index

end LineIndex

end FirstMatch
