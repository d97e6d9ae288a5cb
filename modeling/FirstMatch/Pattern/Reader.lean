import FirstMatch.Pattern.Fault
import FirstMatch.Pattern.Symbol
import FirstMatch.Pattern.Width

/-!
# Reading symbols

The reader looks one symbol ahead, so a backslash without a partner is noticed as soon as
it is the next symbol.
-/

namespace FirstMatch.Pattern

structure Reader where
  rest : List Symbol
  position : Nat
  /-- The widths of the groups from the first one on; a group that is still open
  has none. -/
  widths : List (Option Width) := []
  names : List (Text × Nat) := []
  /-- The groups on which conditions depend by number, each with the position
  where this is first said. -/
  conditions : List (Nat × Nat) := []
  characters : CharacterNames := []

abbrev Reading := StateT Reader (Except Fault)

namespace Reading

variable {α : Type}

def failAt (problem : Problem) (position : Nat) : Reading α :=
  throw (.illFormed problem (some position))

def fail (problem : Problem) (back : Nat) : Reading α := do
  failAt problem ((← get).position - back)

/-- Refuses to go on in front of a backslash without a partner. -/
def checkAhead : Reading Unit := do
  let r ← get
  match r.rest with
  | .dangling :: _ => failAt .danglingBackslash r.position
  | _ => pure ()

def peek : Reading (Option Symbol) := do
  return (← get).rest.head?

def next : Reading (Option Symbol) := do
  let r ← get
  match r.rest with
  | [] => return none
  | s :: rest =>
    set { r with rest, position := r.position + s.length }
    checkAhead
    return some s

def nextIs (c : Char) : Reading Bool := do
  return (← peek).any (·.is c)

def accept (c : Char) : Reading Bool := do
  if ← nextIs c then
    let _ ← next
    return true
  else
    return false

def takeWhile (p : Nat → Bool) : (limit : Nat) → Reading (List Nat)
  | 0 => return []
  | limit + 1 => do
    match ← peek with
    | some (.plain c) =>
      if p c then
        let _ ← next
        return c :: (← takeWhile p limit)
      else
        return []
    | _ => return []

def takeAllWhile (p : Nat → Bool) : Reading (List Nat) := do
  takeWhile p (← get).rest.length

def unterminatedName (terminator : Char) (missing : Problem) (name : Text) : Reading α :=
  if name.isEmpty then fail missing 0 else fail (.unterminatedName terminator) name.size

/-- Takes a name and the terminator after it, in at most `limit` symbols. -/
def nameUntil (terminator : Char) (missing : Problem) :
    (limit : Nat) → (name : Text) → Reading Text
  | 0, name => unterminatedName terminator missing name
  | limit + 1, name => do
    match ← next with
    | none => unterminatedName terminator missing name
    | some s =>
      if s.is terminator then
        if name.isEmpty then fail missing 1 else return name
      else
        nameUntil terminator missing limit (name ++ s.spelling)

def name (terminator : Char) (missing : Problem) : Reading Text := do
  nameUntil terminator missing ((← get).rest.length + 1) #[]

/-- The number of groups so far, counting the whole pattern as group 0. -/
def groupCount : Reading Nat := do
  return (← get).widths.length + 1

def closedWidth? (group : Nat) : Reading (Option Width) := do
  return ((← get).widths[group - 1]?).join

end Reading

end FirstMatch.Pattern
