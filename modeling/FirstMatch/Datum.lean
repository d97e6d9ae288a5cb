import FirstMatch.Arithmetic.Kind
import FirstMatch.Text
import FirstMatch.Text.Quoted

/-!
# Data that label tokens

The kind of a token is any value a caller likes.  Truth values are the numbers zero and
one under another spelling, so equality of data compares their canonical forms, and lists
can be compared but cannot be members of a set.
-/

namespace FirstMatch

inductive Datum where
  | none
  | truth (value : Bool)
  | int (value : Int)
  | text (value : Text)
  | arithmetic (kind : Arithmetic.Kind)
  | list (items : List Datum)
  deriving Inhabited

namespace Datum

mutual

/-- The form in which truth values are numbers. -/
def canonical : Datum → Datum
  | truth b => int (if b then 1 else 0)
  | list items => list (canonicalAll items)
  | none => none
  | int n => int n
  | text t => text t
  | arithmetic k => arithmetic k

def canonicalAll : List Datum → List Datum
  | [] => []
  | d :: rest => canonical d :: canonicalAll rest

end

mutual

def decideEq : (a b : Datum) → Decidable (a = b)
  | none, none => isTrue rfl
  | truth a, truth b =>
    if h : a = b then isTrue (h ▸ rfl) else isFalse (by simpa using h)
  | int a, int b =>
    if h : a = b then isTrue (h ▸ rfl) else isFalse (by simpa using h)
  | text a, text b =>
    if h : a = b then isTrue (h ▸ rfl) else isFalse (by simpa using h)
  | arithmetic a, arithmetic b =>
    if h : a = b then isTrue (h ▸ rfl) else isFalse (by simpa using h)
  | list as, list bs =>
    match decideEqAll as bs with
    | isTrue h => isTrue (h ▸ rfl)
    | isFalse h => isFalse (by simpa using h)
  | none, truth _ | none, int _ | none, text _ | none, arithmetic _ | none, list _
  | truth _, none | truth _, int _ | truth _, text _ | truth _, arithmetic _ | truth _, list _
  | int _, none | int _, truth _ | int _, text _ | int _, arithmetic _ | int _, list _
  | text _, none | text _, truth _ | text _, int _ | text _, arithmetic _ | text _, list _
  | arithmetic _, none | arithmetic _, truth _ | arithmetic _, int _ | arithmetic _, text _
  | arithmetic _, list _
  | list _, none | list _, truth _ | list _, int _ | list _, text _ | list _, arithmetic _ =>
    isFalse nofun

def decideEqAll : (as bs : List Datum) → Decidable (as = bs)
  | [], [] => isTrue rfl
  | [], _ :: _ => isFalse nofun
  | _ :: _, [] => isFalse nofun
  | a :: as, b :: bs =>
    match decideEq a b, decideEqAll as bs with
    | isTrue h, isTrue h' => isTrue (h ▸ h' ▸ rfl)
    | isFalse h, _ => isFalse (by simp [h])
    | _, isFalse h => isFalse (by simp [h])

end

instance : DecidableEq Datum := decideEq

def same (a b : Datum) : Bool :=
  decide (a.canonical = b.canonical)

theorem same_refl (a : Datum) : a.same a = true := by
  simp [same]

theorem same_symm {a b : Datum} (h : a.same b = true) : b.same a = true := by
  simp only [same, decide_eq_true_eq] at h ⊢
  exact h.symm

theorem same_trans {a b c : Datum} (hab : a.same b = true) (hbc : b.same c = true) :
    a.same c = true := by
  simp only [same, decide_eq_true_eq] at hab hbc ⊢
  exact hab.trans hbc

def hashable : Datum → Bool
  | list _ => false
  | _ => true

mutual

def literal : Datum → Text
  | none => FirstMatch.text "None"
  | truth true => FirstMatch.text "True"
  | truth false => FirstMatch.text "False"
  | int n => decimal n
  | text t => t.quoted
  | arithmetic k =>
    FirstMatch.text "<RpnTokenType." ++ FirstMatch.text k.name ++ FirstMatch.text ": " ++
      decimal k.ordinal ++ FirstMatch.text ">"
  | list items =>
    FirstMatch.text "[" ++ Text.join (FirstMatch.text ", ") (literalAll items) ++
      FirstMatch.text "]"

def literalAll : List Datum → List Text
  | [] => []
  | d :: rest => literal d :: literalAll rest

end

def display : Datum → Text
  | text t => t
  | arithmetic k => FirstMatch.text "RpnTokenType." ++ FirstMatch.text k.name
  | d => d.literal

end Datum

end FirstMatch
