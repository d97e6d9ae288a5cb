import FirstMatch.Text

/-!
# The state that matchers share

A scripted matcher gives a fixed list of answers, one per call, whatever it is asked: it
stands for any matcher whose answers change over time.  The bench holds the answers that
are left, a log of the calls, the warnings, and the names that patterns can call a
character by.
-/

namespace FirstMatch

inductive Answer where
  | nothing
  | found (value : Text)
  | refusal (message : Text)
  deriving DecidableEq, Repr

inductive Refusal where
  | scripted (message : Text)
  | startTooLarge
  deriving DecidableEq, Repr

def Refusal.message : Refusal → Text
  | scripted message => message
  | startTooLarge => text "Python int too large to convert to C ssize_t"

structure Call where
  name : Text
  textLength : Nat
  start : Int
  deriving DecidableEq, Repr

structure Bench where
  /-- The remaining answers of each scripted matcher. -/
  scripts : List (Nat × List Answer)
  calls : Array Call
  warnings : Array Text
  nextIdentity : Nat
  characters : CharacterNames
  deriving DecidableEq, Repr

namespace Bench

def empty : Bench where
  scripts := []
  calls := #[]
  warnings := #[]
  nextIdentity := 0
  characters := []

def warn (b : Bench) (message : Text) : Bench :=
  { b with warnings := b.warnings.push message }

def newIdentity (b : Bench) : Nat × Bench :=
  (b.nextIdentity, { b with nextIdentity := b.nextIdentity + 1 })

def addScript (b : Bench) (identity : Nat) (answers : List Answer) : Bench :=
  { b with scripts := (identity, answers) :: b.scripts }

def remaining (b : Bench) (identity : Nat) : List Answer :=
  (b.scripts.lookup identity).getD []

def takeAnswer (identity : Nat) : List (Nat × List Answer) → Answer × List (Nat × List Answer)
  | [] => (.nothing, [])
  | (i, answers) :: rest =>
    if i = identity then
      match answers with
      | [] => (.nothing, (i, []) :: rest)
      | answer :: answers => (answer, (i, answers) :: rest)
    else
      match takeAnswer identity rest with
      | (answer, rest) => (answer, (i, answers) :: rest)

def call (b : Bench) (identity : Nat) (call : Call) : Answer × Bench :=
  match takeAnswer identity b.scripts with
  | (answer, scripts) => (answer, { b with scripts, calls := b.calls.push call })

def countAnswers : List (Nat × List Answer) → Nat
  | [] => 0
  | (_, answers) :: rest => answers.length + countAnswers rest

def answersLeft (b : Bench) : Nat :=
  countAnswers b.scripts

end Bench

end FirstMatch
