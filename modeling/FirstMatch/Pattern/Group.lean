import FirstMatch.Pattern.Escape
import FirstMatch.Pattern.InlineFlags
import FirstMatch.Text.Identifier
import FirstMatch.Text.Numeral

/-!
# Groups

Reading a pattern builds the tree of the innermost open group piece by piece; the groups
around it wait in their frames.
-/

namespace FirstMatch.Pattern

inductive Form where
  | ordinary
  | anchor
  | repetition
  deriving DecidableEq, Repr

structure Piece where
  node : Node
  width : Width
  form : Form := .ordinary

def Piece.char (set : CharSet) : Piece :=
  ⟨.char set, .one, .ordinary⟩

inductive Bracket where
  | whole
  | plain
  | capture (group : Nat)
  | ahead (negated : Bool)
  | behind (negated : Bool)
  | atomic
  | conditional (group : Nat)
  deriving DecidableEq, Repr

structure Frame where
  bracket : Bracket
  start : Nat
  style : Style
  /-- Inside a look-behind, the number of groups when the outermost one began. -/
  lookBehind : Option Nat
  branches : List (Node × Width) := []
  /-- The pieces of the current alternative, last first. -/
  pieces : List Piece := []

namespace Frame

def push (f : Frame) (p : Piece) : Frame :=
  { f with pieces := p :: f.pieces }

def branch (f : Frame) : Node × Width :=
  (.sequence (f.pieces.reverse.map (·.node)), (Width.sum (f.pieces.map (·.width))).capped)

def nextBranch (f : Frame) : Frame :=
  { f with branches := f.branch :: f.branches, pieces := [] }

def allBranches (f : Frame) : List (Node × Width) :=
  (f.branch :: f.branches).reverse

def body (f : Frame) : Node × Width :=
  (.choice (f.allBranches.map (·.1)),
    Width.orAll f.branch.2 (f.branches.map (·.2)))

def inner (f : Frame) (bracket : Bracket) (start : Nat) : Frame :=
  { bracket, start, style := f.style, lookBehind := f.lookBehind }

end Frame

inductive Opening where
  | nothing
  | piece (p : Piece)
  | frame (f : Frame)

namespace Reading

/-- The largest group number that a condition may name. -/
def maxGroup : Nat := 1073741822

/-- Inside a look-behind only groups may be referred to that were closed before
it began. -/
def checkLookBehind (f : Frame) (group : Nat) : Reading Unit := do
  match f.lookBehind with
  | none => pure ()
  | some count =>
    if (← closedWidth? group).isNone then
      fail .openGroup 0
    if count ≤ group then
      fail .sameLookBehind 0

def referencePiece (f : Frame) (group : Nat) (width : Width) : Reading Piece := do
  checkLookBehind f group
  return ⟨.reference group f.style.folding, width, .ordinary⟩

/-- An escape that starts with a digit other than zero: three octal digits are a
character, anything else is a reference to a group. -/
def numberedEscape (f : Frame) (c : Nat) : Reading Piece := do
  let more ← takeWhile CodePoint.isAsciiDigit 1
  let digits := c :: more
  let third ←
    if more ≠ [] && digits.all (fun d => (CodePoint.octalValue? d).isSome) then
      takeWhile (fun d => (CodePoint.octalValue? d).isSome) 1
    else
      pure []
  if third ≠ [] then
    return .char (.point f.style (← octalEscape (digits ++ third)))
  let group := digitsValue 10 (fun d => some (d - '0'.toNat)) digits
  if (← groupCount) ≤ group then
    fail (.invalidReference group) digits.length
  match ← closedWidth? group with
  | none => fail .openGroup (digits.length + 1)
  | some width => referencePiece f group width

def escape (f : Frame) (c : Nat) : Reading Piece := do
  match category? c, anchor? f.style c with
  | some (k, negated), _ => return .char (.category f.style k negated)
  | none, some a => return ⟨.anchor a, .zero, .anchor⟩
  | none, none =>
    if c == '0'.toNat then
      let more ← takeWhile (fun d => (CodePoint.octalValue? d).isSome) 2
      return .char (.point f.style (← octalEscape (c :: more)))
    else if CodePoint.isAsciiDigit c then
      numberedEscape f c
    else
      return .char (.point f.style (← codePointEscape c))

def groupName (terminator : Char) : Reading Text := do
  let name ← name terminator .missingGroupName
  unless name.isName do
    fail (.badGroupName name) (name.size + 1)
  return name

def namedGroup (name : Text) : Reading Nat := do
  match (← get).names.lookup name with
  | some group => return group
  | none => fail (.unknownGroup name) (name.size + 1)

def openCapture (name? : Option Text) : Reading Nat := do
  let r ← get
  let group := r.widths.length + 1
  let r := { r with widths := r.widths ++ [none] }
  match name? with
  | none =>
    set r
    return group
  | some name =>
    match r.names.lookup name with
    | some earlier => fail (.redefinedGroup name group earlier) (name.size + 1)
    | none =>
      set { r with names := (name, group) :: r.names }
      return group

def closeCapture (group : Nat) (width : Width) : Reading Unit :=
  modify fun r => { r with widths := r.widths.set (group - 1) (some width) }

def comment (start : Nat) : (limit : Nat) → Reading Unit
  | 0 => failAt .unterminatedComment start
  | limit + 1 => do
    match ← next with
    | none => failAt .unterminatedComment start
    | some s => if s.is ')' then pure () else comment start limit

def named (f : Frame) (start : Nat) : Reading Opening := do
  if ← accept '<' then
    let name ← groupName '>'
    return .frame (f.inner (.capture (← openCapture (some name))) start)
  else if ← accept '=' then
    let name ← groupName ')'
    let group ← namedGroup name
    match ← closedWidth? group with
    | none => fail .openGroup (name.size + 1)
    | some width => return .piece (← referencePiece f group width)
  else
    match ← next with
    | none => fail .unexpectedEnd 0
    | some s => fail (.unknownExtension (text "?P" ++ s.spelling)) (s.length + 2)

def conditionGroup : Reading Nat := do
  let name ← name ')' .missingGroupName
  if name.isName then
    namedGroup name
  else
    match Numeral.read name with
    | .error _ => fail (.badGroupName name) (name.size + 1)
    | .ok number =>
      if number < 0 then
        fail (.badGroupName name) (name.size + 1)
      let group := number.toNat
      if group = 0 then
        fail .badGroupNumber (name.size + 1)
      if maxGroup < group then
        fail (.invalidReference group) (name.size + 1)
      let r ← get
      if (r.conditions.lookup group).isNone then
        set { r with conditions := r.conditions ++ [(group, r.position - name.size - 1)] }
      return group

def lookBehind (f : Frame) (start : Nat) : Reading Opening := do
  match ← next with
  | none => fail .unexpectedEnd 0
  | some s =>
    if s.is '=' || s.is '!' then
      let count ← groupCount
      return .frame
        { f.inner (.behind (s.is '!')) start with lookBehind := f.lookBehind.or (some count) }
    else
      fail (.unknownExtension (text "?<" ++ s.spelling)) (s.length + 2)

def extension (f : Frame) (start : Nat) : Reading Opening := do
  match ← next with
  | none => fail .unexpectedEnd 0
  | some s =>
    if s.is 'P' then
      named f start
    else if s.is ':' then
      return .frame (f.inner .plain start)
    else if s.is '#' then
      comment start ((← get).rest.length + 1)
      return .nothing
    else if s.is '=' || s.is '!' then
      return .frame (f.inner (.ahead (s.is '!')) start)
    else if s.is '<' then
      lookBehind f start
    else if s.is '(' then
      let group ← conditionGroup
      checkLookBehind f group
      return .frame (f.inner (.conditional group) start)
    else if s.is '>' then
      return .frame (f.inner .atomic start)
    else
      match ← inlineFlags s with
      | some (.whole _) => failAt .lateGlobalFlags start
      | some (.scoped on off) =>
        return .frame { f.inner .plain start with style := f.style.adjust on off }
      | none => fail (.unknownExtension (text "?" ++ s.spelling)) (s.length + 1)

def opening (f : Frame) (start : Nat) : Reading Opening := do
  if ← accept '?' then
    extension f start
  else
    return .frame (f.inner (.capture (← openCapture none)) start)

def closing (f : Frame) : Reading Piece := do
  let (node, width) := f.body
  match f.bracket with
  | .whole | .plain => return ⟨node, width, .ordinary⟩
  | .capture group =>
    closeCapture group width
    return ⟨.capture group node, width, .ordinary⟩
  | .ahead negated => return ⟨.ahead negated node, .zero, .ordinary⟩
  | .behind negated => return ⟨.behind negated width node, .zero, .ordinary⟩
  | .atomic => return ⟨.atomic node, width, .ordinary⟩
  | .conditional group =>
    match f.allBranches with
    | (present, w) :: (absent, w') :: _ =>
      return ⟨.conditional group present absent, w.or w', .ordinary⟩
    | _ => return ⟨.conditional group node .empty, ⟨0, width.most⟩, .ordinary⟩

end Reading

end FirstMatch.Pattern
