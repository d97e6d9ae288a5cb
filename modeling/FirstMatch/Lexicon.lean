import FirstMatch.Scanner

/-!
# Lexicons

A lexicon has default flags for definitions that come without their own; changing them
affects only later definitions.
-/

namespace FirstMatch

structure Lexicon where
  flags : Pattern.Flags
  definitions : Array Definition
  deriving DecidableEq

namespace Lexicon

def empty (flags : Pattern.Flags) : Lexicon :=
  ⟨flags, #[]⟩

/-- Adds a definition after all others; if it cannot be made, nothing changes. -/
def add (x : Lexicon) (kind : Datum) (recipe : Recipe) (flags : Option Pattern.Flags)
    (b : Bench) : Except BuildFault Unit × Lexicon × Bench :=
  match Definition.build kind recipe (flags.getD x.flags) b with
  | (.ok d, b) => (.ok (), { x with definitions := x.definitions.push d }, b)
  | (.error e, b) => (.error e, x, b)

def setFlags (x : Lexicon) (flags : Pattern.Flags) : Lexicon :=
  { x with flags }

def scanner (x : Lexicon) (t : Option Text) : Except ScannerFault Scanner :=
  Scanner.build (.ofDefinitions x.definitions.toList) t

end Lexicon

end FirstMatch
