import FirstMatch.Pattern.Class
import FirstMatch.Pattern.Group

/-!
# Reading the tree of a pattern

The loop takes one symbol, or one construct that starts with it, at a time.  Every round
takes at least one symbol, so as many rounds as there are symbols are enough.
-/

namespace FirstMatch.Pattern

/-- What the loop ends with: the tree, and the position of a closing parenthesis
that nothing opened. -/
structure Tree where
  root : Node
  unbalanced : Option Nat
  deriving DecidableEq, Repr

namespace Reading

def isLayout (c : Nat) : Bool :=
  CodePoint.isAsciiBlank c

def skipLine : (limit : Nat) → Reading Unit
  | 0 => pure ()
  | limit + 1 => do
    match ← next with
    | none => pure ()
    | some s => if s.is '\n' then pure () else skipLine limit

def bound (digits : List Nat) : Reading Nat := do
  if Numeral.maxDigits < digits.length then
    throw (.tooManyDigits digits.length)
  let n := digitsValue 10 (fun d => some (d - '0'.toNat)) digits
  if unbounded ≤ n then
    throw .repetitionTooLarge
  return n

/-- Bounds in braces, the opening one of which is read; `none` if the brace does
not start a quantifier, and then nothing is taken. -/
def bounds : Reading (Option (Nat × Option Nat)) := do
  let before ← get
  if ← nextIs '\x7d' then
    return none
  let lo ← takeAllWhile CodePoint.isAsciiDigit
  let hi ← if ← accept ',' then takeAllWhile CodePoint.isAsciiDigit else pure lo
  unless ← accept '\x7d' do
    set before
    return none
  let least ← if lo.isEmpty then pure 0 else bound lo
  if hi.isEmpty then
    return some (least, none)
  let most ← bound hi
  if most < least then
    failAt .leastAboveMost before.position
  return some (least, some most)

def quantifier? (s : Symbol) : Reading (Option (Nat × Option Nat)) := do
  if s.is '*' then
    return some (0, none)
  else if s.is '+' then
    return some (1, none)
  else if s.is '?' then
    return some (0, some 1)
  else if s.is '\x7b' then
    bounds
  else
    return none

def greed : Reading Greed := do
  if ← accept '?' then
    return .frugal
  else if ← accept '+' then
    return .possessive
  else
    return .greedy

def quantify (f : Frame) (position least : Nat) (most : Option Nat) : Reading Frame := do
  match f.pieces with
  | [] => failAt .nothingToRepeat position
  | p :: rest =>
    match p.form with
    | .anchor => failAt .nothingToRepeat position
    | .repetition => failAt .multipleRepeat position
    | .ordinary =>
      let repeated : Piece :=
        ⟨.loop (← greed) least most p.node, p.width.scale least most, .repetition⟩
      return { f with pieces := repeated :: rest }

def anchorSymbol? (style : Style) (s : Symbol) : Option Anchor :=
  if s.is '^' then
    some (if style.multiLine then .lineStart else .textStart)
  else if s.is '$' then
    some (if style.multiLine then .lineEnd else .closing)
  else
    none

def simple (f : Frame) (position : Nat) (s : Symbol) : Reading Frame := do
  match s with
  | .escaped c => return f.push (← escape f c)
  | .dangling => return f
  | .plain c =>
    if f.style.verbose && isLayout c then
      return f
    else if f.style.verbose && s.is '#' then
      skipLine ((← get).rest.length)
      return f
    else if s.is '[' then
      return f.push (.char (← charClass f.style position))
    else if s.is '.' then
      return f.push (.char (.dot f.style))
    else
      match anchorSymbol? f.style s, ← quantifier? s with
      | some a, _ => return f.push ⟨.anchor a, .zero, .anchor⟩
      | none, some (least, most) => quantify f position least most
      | none, none => return f.push (.char (.point f.style c))

/-- Reads on inside the group `f` with the groups `outer` around it, the
innermost first, for at most `limit` rounds. -/
def tree : (limit : Nat) → (f : Frame) → (outer : List Frame) → Reading Tree
  | 0, f, _ => return ⟨f.body.1, none⟩
  | limit + 1, f, outer => do
    let position := (← get).position
    match ← peek, outer with
    | none, [] => return ⟨f.body.1, none⟩
    | none, _ :: _ => failAt .unterminatedGroup f.start
    | some s, _ =>
      if s.is '|' then
        match f.bracket, f.branches with
        | .conditional _, _ :: _ => failAt .tooManyBranches position
        | _, _ =>
          let _ ← next
          tree limit f.nextBranch outer
      else if s.is ')' then
        match outer with
        | [] => return ⟨f.body.1, some position⟩
        | parent :: outer =>
          let _ ← next
          tree limit (parent.push (← closing f)) outer
      else
        let _ ← next
        if s.is '(' then
          match ← opening f position with
          | .nothing => tree limit f outer
          | .piece p => tree limit (f.push p) outer
          | .frame inner => tree limit inner (f :: outer)
        else
          tree limit (← simple f position s) outer

end Reading

end FirstMatch.Pattern
