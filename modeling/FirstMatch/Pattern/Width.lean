/-!
# Widths

The width of a piece of a pattern bounds how many characters it can take.  A look at the
text behind a place needs to know where to start, so its width has to be fixed.
-/

namespace FirstMatch.Pattern

/-- The largest number of a compiled pattern.  As a bound of a repetition it would
stand for no bound at all, so the bounds that are written stay below it. -/
def unbounded : Nat := 4294967295

/-- The width that stands for all greater ones, 2 to the power of 64. -/
def maxWidth : Nat := 18446744073709551616

structure Width where
  least : Nat
  most : Nat
  deriving DecidableEq, Repr

namespace Width

def zero : Width := ⟨0, 0⟩

def one : Width := ⟨1, 1⟩

def add (a b : Width) : Width :=
  ⟨a.least + b.least, a.most + b.most⟩

def sum (ws : List Width) : Width :=
  ws.foldl add zero

def or (a b : Width) : Width :=
  ⟨min a.least b.least, max a.most b.most⟩

def orAll (a : Width) (ws : List Width) : Width :=
  ws.foldl or a

def scale (a : Width) (least : Nat) (most : Option Nat) : Width :=
  ⟨a.least * least, a.most * most.getD maxWidth⟩

def capped (a : Width) : Width :=
  ⟨min a.least maxWidth, min a.most maxWidth⟩

def isFixed (a : Width) : Bool :=
  a.least == a.most

end Width

end FirstMatch.Pattern
