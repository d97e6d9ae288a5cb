import FirstMatch.Text
import FirstMatch.Text.Printable

/-!
# Quoted texts

The quotes are apostrophes unless the text holds an apostrophe and no double quote.
Inside, whatever is not printable is written by its number in hexadecimal.
-/

namespace FirstMatch

def hexDigits : (width n : Nat) → List Nat
  | 0, _ => []
  | width + 1, n =>
    hexDigits width (n / 16) ++ [if n % 16 < 10 then 0x30 + n % 16 else 0x57 + n % 16]

def CodePoint.escaped (quote c : Nat) : List Nat :=
  if c == quote || c == '\\'.toNat then ['\\'.toNat, c]
  else if c == '\n'.toNat then ['\\'.toNat, 'n'.toNat]
  else if c == '\r'.toNat then ['\\'.toNat, 'r'.toNat]
  else if c == '\t'.toNat then ['\\'.toNat, 't'.toNat]
  else if CodePoint.isPrintable c then [c]
  else if c < 0x100 then ['\\'.toNat, 'x'.toNat] ++ hexDigits 2 c
  else if c < 0x10000 then ['\\'.toNat, 'u'.toNat] ++ hexDigits 4 c
  else ['\\'.toNat, 'U'.toNat] ++ hexDigits 8 c

namespace Text

def quoteFor (t : Text) : Nat :=
  if t.contains '\''.toNat && !t.contains '"'.toNat then '"'.toNat else '\''.toNat

def quoted (t : Text) : Text :=
  let quote := t.quoteFor
  (quote :: t.toList.flatMap (CodePoint.escaped quote) ++ [quote]).toArray

end Text

end FirstMatch
