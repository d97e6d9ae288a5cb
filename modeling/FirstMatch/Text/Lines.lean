import FirstMatch.Text

/-!
# Lines and columns by a linear scan

Only the line feed ends a line, and it belongs to the line that it ends.
-/

namespace FirstMatch

def CodePoint.isBreak (c : Nat) : Bool :=
  c == '\n'.toNat

/-- A place in a text; the first one is on line 1, in column 1. -/
structure Location where
  line : Nat
  column : Nat
  deriving DecidableEq, Repr

namespace Text

/-- The place right behind `before`, where `before` starts a text. -/
def locationAfter (before : List Nat) : Location where
  line := before.countP CodePoint.isBreak + 1
  column := (before.reverse.takeWhile fun c => !CodePoint.isBreak c).length + 1

def locate (t : Text) (i : Nat) : Location :=
  locationAfter (t.toList.take i)

end Text

end FirstMatch
