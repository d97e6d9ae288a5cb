import FirstMatch.Pattern.Tree

/-!
# Flags at the start of a pattern

Flags for the whole pattern may stand only in front of everything that matches something:
other such flags, comments and, in verbose patterns, blanks may come before them.
-/

namespace FirstMatch.Pattern.Reading

inductive Preamble where
  | flags (on : List Switch)
  | skipped
  | body

/-- Takes flags or a comment in parentheses, and nothing if something else
stands there. -/
def parenthesis : Reading Preamble := do
  let before ← get
  let _ ← next
  unless ← accept '?' do
    set before
    return .body
  match ← next with
  | none => fail .unexpectedEnd 0
  | some s =>
    if s.is '#' then
      comment before.position ((← get).rest.length + 1)
      return .skipped
    match ← inlineFlags s with
    | some (.whole on) => return .flags on
    | _ =>
      set before
      return .body

def preamble (verbose : Bool) : Reading Preamble := do
  match ← peek with
  | some (.plain c) =>
    if verbose && isLayout c then
      let _ ← next
      return .skipped
    else if verbose && c == '#'.toNat then
      let _ ← next
      skipLine ((← get).rest.length)
      return .skipped
    else if c == '('.toNat then
      parenthesis
    else
      return .body
  | _ => return .body

/-- Reads up to the body of a pattern.  The result is the flags given, with those
that the pattern itself turns on. -/
def header : (limit : Nat) → (flags : Flags) → Reading Flags
  | 0, flags => return flags
  | limit + 1, flags => do
    match ← preamble (flags.has .verbose) with
    | .flags on => header limit (flags.turnOnAll on)
    | .skipped => header limit flags
    | .body => return flags

end FirstMatch.Pattern.Reading
