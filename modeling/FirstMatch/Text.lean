/-!
# Texts as sequences of code points

Every index and every length in this library counts code points.  A text may hold lone
surrogates, which `Char` rules out, so a code point is a plain number.
-/

namespace FirstMatch

abbrev Text := Array Nat

/-- The text a string literal stands for. -/
def text (s : String) : Text :=
  (s.toList.map Char.toNat).toArray

def decimal (n : Int) : Text :=
  text (match n with
    | .ofNat k => Nat.repr k
    | .negSucc k => "-" ++ Nat.repr (k + 1))

namespace CodePoint

def ascii? (c : Nat) : Option Char :=
  if c < 128 then some (Char.ofNat c) else none

def isAsciiDigit (c : Nat) : Bool :=
  0x30 ≤ c && c ≤ 0x39

def isAsciiLetter (c : Nat) : Bool :=
  (0x41 ≤ c && c ≤ 0x5A) || (0x61 ≤ c && c ≤ 0x7A)

def hexValue? (c : Nat) : Option Nat :=
  if 0x30 ≤ c ∧ c ≤ 0x39 then some (c - 0x30)
  else if 0x41 ≤ c ∧ c ≤ 0x46 then some (c - 0x37)
  else if 0x61 ≤ c ∧ c ≤ 0x66 then some (c - 0x57)
  else none

def octalValue? (c : Nat) : Option Nat :=
  if 0x30 ≤ c ∧ c ≤ 0x37 then some (c - 0x30) else none

def isSurrogate (c : Nat) : Bool :=
  0xD800 ≤ c && c ≤ 0xDFFF

/-- Whether `c` lies in one of the half-open intervals `[b₀, b₁)`, `[b₂, b₃)`,
… whose bounds are listed in ascending order. -/
def within : List Nat → Nat → Bool
  | lo :: hi :: rest, c => lo ≤ c && (c < hi || within rest c)
  | _, _ => false

end CodePoint

namespace Text

/-- The code points of `t` from `start` up to, not including, `stop`. -/
def slice (t : Text) (start stop : Nat) : Text :=
  t.extract start stop

/-- The index nearest to `p` that is an index of `t` or its length. -/
def clamp (t : Text) (p : Int) : Nat :=
  min p.toNat t.size

theorem clamp_le (t : Text) (p : Int) : t.clamp p ≤ t.size :=
  Nat.min_le_right _ _

theorem clamp_of_le {t : Text} {n : Nat} (h : n ≤ t.size) :
    t.clamp n = n := by
  simp [clamp, h]

def hasAt (t word : Text) (i : Nat) : Bool :=
  t.slice i (i + word.size) == word

def join (separator : Text) : List Text → Text
  | [] => #[]
  | t :: rest => rest.foldl (fun joined u => joined ++ separator ++ u) t

end Text

/-- The names by which characters are called, in every spelling that is known, with
the code points. -/
abbrev CharacterNames := List (Text × Nat)

end FirstMatch
