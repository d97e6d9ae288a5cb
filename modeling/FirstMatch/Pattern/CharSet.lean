import FirstMatch.Pattern.Flags
import FirstMatch.Text.Blank
import FirstMatch.Text.Case
import FirstMatch.Text.Digit
import FirstMatch.Text.Letter
import FirstMatch.Text.Numeric

/-!
# Sets of characters

A single character of a pattern, a class in brackets, a category and the dot all denote a
set of code points.  When case is ignored, a set accepts a code point if it contains any
variant of it; categories are asked about the code point itself.
-/

namespace FirstMatch.Pattern

inductive Folding where
  | exact
  | ascii
  | unicode
  deriving DecidableEq, Repr

namespace Folding

def variants : Folding → Nat → List Nat
  | exact, c => [c]
  | ascii, c => CodePoint.asciiVariants c
  | unicode, c => CodePoint.variants c

def lower : Folding → Nat → Nat
  | exact, c => c
  | ascii, c => CodePoint.asciiLower c
  | unicode, c => CodePoint.lower c

end Folding

def Style.folding (style : Style) : Folding :=
  if !style.ignoreCase then .exact else if style.ascii then .ascii else .unicode

inductive Category where
  | digit
  | blank
  | word
  deriving DecidableEq, Repr

namespace Category

def contains (ascii : Bool) : Category → Nat → Bool
  | digit, c => if ascii then CodePoint.isAsciiDigit c else CodePoint.isDigit c
  | blank, c => if ascii then CodePoint.isAsciiBlank c else CodePoint.isBlank c
  | word, c =>
    c == '_'.toNat ||
      (if ascii then CodePoint.isAsciiDigit c || CodePoint.isAsciiLetter c
       else CodePoint.isLetter c || CodePoint.isNumeric c)

end Category

inductive Item where
  | point (c : Nat)
  | range (first last : Nat)
  | category (category : Category) (ascii negated : Bool)
  deriving DecidableEq, Repr

namespace Item

def accepts (folding : Folding) : Item → Nat → Bool
  | point p, c => (folding.variants c).contains p
  | range first last, c => (folding.variants c).any fun v => first ≤ v && v ≤ last
  | category k ascii negated, c => k.contains ascii c != negated

end Item

structure CharSet where
  negated : Bool
  items : List Item
  folding : Folding
  deriving DecidableEq, Repr

namespace CharSet

def accepts (set : CharSet) (c : Nat) : Bool :=
  set.items.any (·.accepts set.folding c) != set.negated

def point (style : Style) (c : Nat) : CharSet :=
  ⟨false, [.point c], style.folding⟩

def category (style : Style) (k : Category) (negated : Bool) : CharSet :=
  ⟨false, [.category k style.ascii negated], .exact⟩

/-- Any character, but for the line feed unless the style includes it. -/
def dot (style : Style) : CharSet :=
  ⟨true, if style.dotAll then [] else [.point '\n'.toNat], .exact⟩

end CharSet

end FirstMatch.Pattern
