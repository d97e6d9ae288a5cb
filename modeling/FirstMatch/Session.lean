import FirstMatch.Error

/-!
# Sessions of cursors

Several scanners over one list of definitions, any number of cursors on them, and steps
that are carried out one after the other.  The matchers' state is all that cursors have in
common.
-/

namespace FirstMatch

inductive Target where
  | position
  | current
  | index (i : Int)
  deriving DecidableEq, Repr

inductive Action where
  | advance
  | next
  | take (n : Nat)
  | drain
  | reset
  | release
  | enter
  | exit
  | isOwnIterator
  | observe
  | moveTo (position : Int)
  | locate (target : Target)
  deriving DecidableEq, Repr

inductive SessionStep where
  | start (scanner : Nat)
  /-- Empties the list from which the scanners took their definitions. -/
  | clearDefinitions (cursor : Nat)
  | act (cursor : Nat) (action : Action)
  deriving DecidableEq, Repr

inductive Reply where
  | nothing
  | flag (value : Bool)
  | number (value : Nat)
  | numbers (values : List Nat)
  | token (value : Token)
  | tokens (values : List Token)
  | place (value : Location)
  deriving DecidableEq

structure CursorState where
  position : Int
  current : Option Token
  exhausted : Bool
  released : Bool
  reachedEnd : Bool
  deriving DecidableEq

def Cursor.observed {ε σ : Type} (c : Cursor ε σ) : CursorState where
  position := c.position
  current := c.current
  exhausted := c.exhausted
  released := c.isReleased
  reachedEnd := c.reachedEnd

structure OpenCursor where
  scanner : Scanner
  cursor : Cursor Refusal Bench

namespace OpenCursor

def targetIndex (c : OpenCursor) : Target → Except Error Int
  | .position => .ok c.cursor.position
  | .current =>
    match c.cursor.current with
    | some token => .ok token.index
    | none => .error .noToken
  | .index i => .ok i

def locate (c : OpenCursor) (target : Target) : Except Error Location := do
  let i ← c.targetIndex target
  (c.scanner.lineIndex.location i).mapError .outside

def outcome {α : Type} (c : OpenCursor) (reply : α → Reply)
    (r : Except (Cursor.Failure Refusal) α × Cursor Refusal Bench × Bench) :
    Except Error Reply × OpenCursor × Bench :=
  ((r.1.map reply).mapError .cursor, { c with cursor := r.2.1 }, r.2.2)

def act (c : OpenCursor) (action : Action) (b : Bench) :
    Except Error Reply × OpenCursor × Bench :=
  match action with
  | .advance => c.outcome .flag (c.cursor.advance b)
  | .next => c.outcome .token (c.cursor.next b)
  | .take n => c.outcome .tokens (c.cursor.take n b)
  | .drain => c.outcome .tokens (c.cursor.drain b)
  | .reset =>
    match c.cursor.reset with
    | (result, cursor) => c.outcome (fun _ => .nothing) (result, cursor, b)
  | .release | .exit => (.ok .nothing, { c with cursor := c.cursor.release }, b)
  | .enter | .isOwnIterator => (.ok (.flag true), c, b)
  | .observe => (.ok .nothing, c, b)
  | .moveTo position => (.ok .nothing, { c with cursor := c.cursor.moveTo position }, b)
  | .locate target => ((c.locate target).map .place, c, b)

end OpenCursor

structure Session where
  scanners : List Scanner
  cursors : Array OpenCursor
  bench : Bench

structure StepReport where
  result : Except Error Reply
  state : Option CursorState
  calls : List Call

namespace Session

def scannersOf (roster : Roster) : List (Option Text) → Except ScannerFault (List Scanner)
  | [] => .ok []
  | t :: rest => do
    let scanner ← Scanner.build roster t
    return scanner :: (← scannersOf roster rest)

def start (scanners : List Scanner) (b : Bench) : Session :=
  ⟨scanners, #[], b⟩

def stateOf (x : Session) (cursor : Nat) : Option CursorState :=
  (x.cursors[cursor]?).map (·.cursor.observed)

/-- Carries out a step.  The result comes with the number of the step's cursor. -/
def perform (x : Session) (step : SessionStep) : Except Error Reply × Nat × Session :=
  match step with
  | .start scanner =>
    match x.scanners[scanner]? with
    | some scanner =>
      (.ok (.number x.cursors.size), x.cursors.size,
        { x with cursors := x.cursors.push ⟨scanner, scanner.cursor⟩ })
    | none => (.error .noMember, x.cursors.size, x)
  | .clearDefinitions cursor =>
    (.ok (.numbers (x.scanners.map (·.definitions.length))), cursor, x)
  | .act cursor action =>
    match x.cursors[cursor]? with
    | some c =>
      match c.act action x.bench with
      | (result, c, bench) =>
        (result, cursor, { x with cursors := x.cursors.setIfInBounds cursor c, bench })
    | none => (.error .noMember, cursor, x)

def step (x : Session) (step : SessionStep) : StepReport × Session :=
  match x.perform step with
  | (result, cursor, y) =>
    (⟨result, y.stateOf cursor, (y.bench.calls.extract x.bench.calls.size).toList⟩, y)

def run (x : Session) : List SessionStep → List StepReport × Session
  | [] => ([], x)
  | s :: rest =>
    match x.step s with
    | (report, x) =>
      match x.run rest with
      | (reports, x) => (report :: reports, x)

end Session

end FirstMatch
