import FirstMatch.Pattern.Node
import FirstMatch.Pattern.Reader

/-!
# Escapes

Problems are reported at the backslash, so the spelling of an escape as far as it was read
is kept at hand.
-/

namespace FirstMatch.Pattern

def control? (c : Nat) : Option Nat :=
  match CodePoint.ascii? c with
  | some 'a' => some 0x07
  | some 'f' => some 0x0C
  | some 'n' => some 0x0A
  | some 'r' => some 0x0D
  | some 't' => some 0x09
  | some 'v' => some 0x0B
  | _ => none

def category? (c : Nat) : Option (Category × Bool) :=
  match CodePoint.ascii? c with
  | some 'd' => some (.digit, false)
  | some 'D' => some (.digit, true)
  | some 's' => some (.blank, false)
  | some 'S' => some (.blank, true)
  | some 'w' => some (.word, false)
  | some 'W' => some (.word, true)
  | _ => none

def anchor? (style : Style) (c : Nat) : Option Anchor :=
  match CodePoint.ascii? c with
  | some 'A' => some .textStart
  | some 'Z' => some .textEnd
  | some 'b' => some (.wordEdge style.ascii)
  | some 'B' => some (.noWordEdge style.ascii)
  | _ => none

def digitsValue (base : Nat) (digit? : Nat → Option Nat) (digits : List Nat) : Nat :=
  (digits.filterMap digit?).foldl (fun n d => base * n + d) 0

namespace Reading

def lastCodePoint : Nat := 0x10FFFF

def lastCandidate : Nat := 0x7FFFFFFF

def hexEscape (letter : Nat) (count : Nat) : Reading Nat := do
  let digits ← takeWhile (fun c => (CodePoint.hexValue? c).isSome) count
  let spelled : Text := #[Symbol.backslash, letter] ++ digits.toArray
  if digits.length ≠ count then
    fail (.incompleteEscape spelled) spelled.size
  let value := digitsValue 16 CodePoint.hexValue? digits
  if lastCandidate < value then
    throw .numberTooLarge
  if lastCodePoint < value then
    fail (.badEscape spelled) spelled.size
  return value

def namedEscape : Reading Nat := do
  unless ← accept '\x7b' do
    fail .missingBrace 0
  let name ← name '\x7d' .missingCharacterName
  match (← get).characters.lookup name with
  | some c => return c
  | none => fail (.undefinedCharacter name) (name.size + 4)

/-- A code point given by up to three octal digits, the first of which is read. -/
def octalEscape (digits : List Nat) : Reading Nat := do
  let spelled : Text := #[Symbol.backslash] ++ digits.toArray
  let value := digitsValue 8 CodePoint.octalValue? digits
  if 0o377 < value then
    fail (.octalTooLarge spelled) spelled.size
  return value

/-- A character that stands for itself after a backslash: anything but ASCII
letters and digits. -/
def itselfEscape (c : Nat) : Reading Nat := do
  if CodePoint.isAsciiLetter c || CodePoint.isAsciiDigit c then
    fail (.badEscape #[Symbol.backslash, c]) 2
  return c

def codePointEscape (c : Nat) : Reading Nat :=
  match control? c, CodePoint.ascii? c with
  | some control, _ => return control
  | none, some 'x' => hexEscape c 2
  | none, some 'u' => hexEscape c 4
  | none, some 'U' => hexEscape c 8
  | none, some 'N' => namedEscape
  | none, _ => itselfEscape c

end Reading

end FirstMatch.Pattern
