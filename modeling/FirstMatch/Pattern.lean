import FirstMatch.Pattern.Header
import FirstMatch.Pattern.Match

/-!
# Patterns

Compiling goes in two steps.  The header fixes the flags; the tree depends on nothing but
the rest of the pattern and these flags.  A match starts exactly at the place asked for,
but what stands in front of it can be seen.  Trees may nest to any depth, and nothing is
printed or warned of on the way.
-/

namespace FirstMatch

structure Pattern where
  source : Text
  flags : Pattern.Flags
  root : Pattern.Node
  deriving DecidableEq, Repr

namespace Pattern

/-- The largest flags that are accepted, 31 bits all set. -/
def maxFlags : Int := 2147483647

def minFlags : Int := -2147483648

/-- Decides between the alphabets: Unicode unless ASCII is asked for. -/
def settleFlags (flags : Flags) : Except Fault Flags :=
  if flags.has .locale then .error .localeNeedsBytes
  else if flags.has .ascii then
    if flags.has .unicode then .error .asciiAndUnicode else .ok flags
  else .ok (flags.turnOn .unicode)

def startReader (source : Text) (characters : CharacterNames) : Reader where
  rest := Symbol.split source.toList
  position := 0
  characters := characters

def wholeFrame (style : Style) : Frame where
  bracket := .whole
  start := 0
  style := style
  lookBehind := none

def readTree (flags : Flags) : Reading Tree := do
  Reading.tree ((← get).rest.length + 1) (wholeFrame (.ofFlags flags)) []

def badCondition? (r : Reader) : Option (Nat × Nat) :=
  r.conditions.find? fun (group, _) => r.widths.length < group

def Width.problemBehind? (width : Width) : Option Problem :=
  if unbounded < width.least then some .tooFarBehind
  else if width.isFixed then none
  else some .variableLookBehind

def Greed.operator : Greed → String
  | greedy => "MAX_REPEAT"
  | frugal => "MIN_REPEAT"
  | possessive => "POSSESSIVE_REPEAT"

/-- The first problem that shows only when the tree is compiled, from the outside in
and from left to right. -/
def Node.lateProblem? (style : Style) : Node → Option Problem
  | empty | char _ | reference _ _ | anchor _ => none
  | seq a b | alt a b | conditional _ a b => (a.lateProblem? style).or (b.lateProblem? style)
  | capture _ a | ahead _ a | atomic a => a.lateProblem? style
  | behind _ width a => width.problemBehind?.or (a.lateProblem? style)
  | loop greed _ _ a =>
    if style.template then some (.templateRepetition greed.operator) else a.lateProblem? style

def finish (source : Text) (flags : Flags) (tree : Tree) (r : Reader) :
    Except Fault Pattern := do
  let flags ← settleFlags flags
  if let some position := tree.unbalanced then
    throw (.illFormed .unbalancedParenthesis (some position))
  if let some (group, position) := badCondition? r then
    throw (.illFormed (.invalidReference group) (some position))
  if let some problem := tree.root.lateProblem? (.ofFlags flags) then
    throw (.illFormed problem none)
  if flags.value < minFlags ∨ maxFlags < flags.value then
    throw .numberTooLarge
  return ⟨source, flags, tree.root⟩

def compile (source : Text) (flags : Flags) (characters : CharacterNames := []) :
    Except Fault Pattern := do
  let start := startReader source characters
  let ((), start) ← Reading.checkAhead.run start
  let (flags, body) ← (Reading.header (start.rest.length + 1) flags).run start
  let (tree, r) ← (readTree flags).run body
  finish source flags tree r

/-- The part of `t` that the pattern matches from `start` on; a start outside of
the text counts as the nearest end. -/
def matchAt (p : Pattern) (t : Text) (start : Int) : Option Text :=
  (p.root.matchEnd? t (t.clamp start)).map (t.slice (t.clamp start))

def literal (p : Pattern) : Text :=
  text "RegexMatcher(" ++ p.source.quoted ++ text ", flags=" ++ decimal p.flags.value ++ text ")"

end Pattern

end FirstMatch
