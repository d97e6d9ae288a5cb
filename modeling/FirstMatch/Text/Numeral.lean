import FirstMatch.Text
import FirstMatch.Text.Blank
import FirstMatch.Text.Digit
import FirstMatch.Text.Quoted

/-!
# Reading decimal numerals

A numeral is an optional sign and decimal digits of any script, where a single underscore
may stand between two digits; blanks may surround it.  A run of digits that is too long is
reported before anything that follows it is looked at.
-/

namespace FirstMatch.Numeral

def maxDigits : Nat := 4300

inductive Fault where
  | malformed
  | tooLong (digits : Nat)
  deriving DecidableEq, Repr

/-- What may surround a numeral: ASCII blanks, and all blanks beyond ASCII. -/
def isPadding (c : Nat) : Bool :=
  CodePoint.isAsciiBlank c || (0x7F ≤ c && CodePoint.isBlank c)

def isUnderscore (c : Nat) : Bool :=
  c == '_'.toNat

/-- Whether `run` starts and ends with a digit and has no two underscores side
by side. -/
def wellSpaced : List Nat → Bool
  | [] => false
  | [c] => CodePoint.isDigit c
  | c :: d :: rest =>
    CodePoint.isDigit c && (if isUnderscore d then wellSpaced rest else wellSpaced (d :: rest))

def value (digits : List Nat) : Nat :=
  digits.foldl (fun n d => 10 * n + d) 0

def signed : List Nat → Bool × List Nat
  | c :: rest =>
    if c == '-'.toNat then (true, rest)
    else if c == '+'.toNat then (false, rest)
    else (false, c :: rest)
  | [] => (false, [])

def read (t : Text) : Except Fault Int :=
  let (negative, body) := signed (t.toList.dropWhile isPadding)
  let run := body.takeWhile fun c => CodePoint.isDigit c || isUnderscore c
  let rest := body.dropWhile fun c => CodePoint.isDigit c || isUnderscore c
  let digits := run.filterMap CodePoint.digitValue?
  if !wellSpaced run then .error .malformed
  else if maxDigits < digits.length then .error (.tooLong digits.length)
  else if !rest.all isPadding then .error .malformed
  else .ok (if negative then -(value digits : Int) else value digits)

def shownLength : Nat := 200

def tooLongMessage (digits : Nat) : Text :=
  text "Exceeds the limit (" ++ decimal maxDigits ++
    text " digits) for integer string conversion: value has " ++ decimal digits ++
    text " digits; use sys.set_int_max_str_digits() to increase the limit"

def Fault.message (t : Text) : Fault → Text
  | malformed =>
    text "invalid literal for int() with base 10: " ++ t.quoted.slice 0 shownLength
  | tooLong digits => tooLongMessage digits

end FirstMatch.Numeral
