import FirstMatch.Definition
import FirstMatch.Token

/-!
# Comparing many

Which members of a list are equal to each other, and how many are left when equal
ones count once.
-/

namespace FirstMatch

structure Unhashable where
  deriving DecidableEq, Repr

def Unhashable.message (_ : Unhashable) : Text :=
  text "unhashable type: 'list'"

namespace Comparison

variable {α : Type}

/-- All pairs of different places that hold equal members, in lexicographic
order. -/
def equalPairs (same : α → α → Bool) (xs : List α) : List (Nat × Nat) :=
  xs.zipIdx.flatMap fun (a, i) =>
    xs.zipIdx.filterMap fun (b, j) => if i != j && same a b then some (i, j) else none

def countNew (same : α → α → Bool) : (before : List α) → List α → Nat
  | _, [] => 0
  | before, a :: rest =>
    (if before.any (same a) then 0 else 1) + countNew same (a :: before) rest

def distinct (same : α → α → Bool) (hashable : α → Bool) (xs : List α) :
    Except Unhashable Nat :=
  if xs.all hashable then .ok (countNew same [] xs) else .error ⟨⟩

end Comparison

end FirstMatch
