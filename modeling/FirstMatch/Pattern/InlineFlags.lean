import FirstMatch.Pattern.Flags
import FirstMatch.Pattern.Reader
import FirstMatch.Text.Letter

/-!
# Flags inside a pattern

Letters after an opening parenthesis and a question mark turn switches on and, after a
minus sign, off: for the whole pattern, or for one group when a colon follows.
-/

namespace FirstMatch.Pattern

inductive InlineFlags where
  | whole (on : List Switch)
  | scoped (on off : List Switch)
  deriving DecidableEq, Repr

namespace Reading

variable {α : Type}

def noFlag (s : Symbol) (wanted : Problem) : Reading α :=
  match s with
  | .plain c => fail (if CodePoint.isLetter c then .unknownFlag else wanted) s.length
  | _ => fail wanted s.length

def switch? : Symbol → Option Switch
  | .plain c => Switch.ofLetter? c
  | _ => none

def flagsOn :
    (limit : Nat) → (on : List Switch) → (s : Switch) → Reading (List Switch × Symbol)
  | 0, _, _ => fail .missingFlagsEnd 0
  | limit + 1, on, s => do
    if s = .locale then
      fail .localeFlag 0
    let on := s :: on
    if s.selectsAlphabet && on.any (fun o => o.selectsAlphabet && o != s) then
      fail .incompatibleFlags 0
    match ← next with
    | none => fail .missingFlagsEnd 0
    | some symbol =>
      if symbol.is ')' || symbol.is '-' || symbol.is ':' then
        return (on, symbol)
      match switch? symbol with
      | some s => flagsOn limit on s
      | none => noFlag symbol .missingFlagsEnd

def flagsOff : (limit : Nat) → (off : List Switch) → (s : Switch) → Reading (List Switch)
  | 0, _, _ => fail .missingColon 0
  | limit + 1, off, s => do
    if s.selectsAlphabet then
      fail .alphabetTurnedOff 0
    let off := s :: off
    match ← next with
    | none => fail .missingColon 0
    | some symbol =>
      if symbol.is ':' then
        return off
      match switch? symbol with
      | some s => flagsOff limit off s
      | none => noFlag symbol .missingColon

def flagsAfterMinus : Reading (List Switch) := do
  match ← next with
  | none => fail .missingFlag 0
  | some symbol =>
    match switch? symbol with
    | some s => flagsOff ((← get).rest.length + 1) [] s
    | none => noFlag symbol .missingFlag

def flagsWithOff (on : List Switch) : Reading InlineFlags := do
  let off ← flagsAfterMinus
  if off.any Switch.isGlobal then
    fail .globalFlagOff 1
  if on.any off.contains then
    fail .flagOnAndOff 1
  return .scoped on off

/-- The flags that start with `symbol`, a switch or a minus sign; `none` if it is
neither. -/
def inlineFlags (symbol : Symbol) : Reading (Option InlineFlags) := do
  match switch? symbol with
  | some s =>
    let (on, ending) ← flagsOn ((← get).rest.length + 1) [] s
    if ending.is ')' then
      return some (.whole on)
    if on.any Switch.isGlobal then
      fail .globalFlagOn 1
    if ending.is ':' then
      return some (.scoped on [])
    else
      return some (← flagsWithOff on)
  | none =>
    if symbol.is '-' then
      return some (← flagsWithOff [])
    else
      return none

end Reading

end FirstMatch.Pattern
