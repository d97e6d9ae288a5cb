import FirstMatch.Rule
import FirstMatch.Token

/-!
# Cursors

A cursor makes one token at a time, only when it is asked to.  At its position the rules
are tried in order.  Without a non-empty answer the cursor is exhausted and stays where it
is.  A failing rule leaves the cursor as it was.
-/

namespace FirstMatch

structure Source (ε σ : Type) where
  rules : List (Rule ε σ)
  text : Text

structure Cursor (ε σ : Type) where
  /-- Nothing once the cursor is released. -/
  source : Option (Source ε σ)
  position : Int
  current : Option Token
  exhausted : Bool

namespace Cursor

variable {ε σ : Type}

inductive Failure (ε : Type) where
  | refused (e : ε)
  | emptyValue (e : EmptyValue)
  | finished
  | released

def start (source : Source ε σ) : Cursor ε σ where
  source := some source
  position := 0
  current := none
  exhausted := false

def isReleased (c : Cursor ε σ) : Bool :=
  c.source.isNone

def reachedEnd (c : Cursor ε σ) : Bool :=
  match c.source with
  | some source => c.exhausted && c.position == source.text.size
  | none => false

def step (c : Cursor ε σ) (s : σ) : Except (Failure ε) (Option Token) × Cursor ε σ × σ :=
  match c.exhausted, c.source with
  | false, some source =>
    match Rule.firstAnswer source.text c.position source.rules s with
    | (.error e, s) => (.error (.refused e), c, s)
    | (.ok none, s) => (.ok none, { c with exhausted := true, current := none }, s)
    | (.ok (some (kind, value)), s) =>
      match Token.build c.position kind (some value) with
      | .error e => (.error (.emptyValue e), c, s)
      | .ok token =>
        (.ok (some token),
          { c with current := some token, position := c.position + value.size }, s)
  | _, _ => (.ok none, c, s)

def advance (c : Cursor ε σ) (s : σ) : Except (Failure ε) Bool × Cursor ε σ × σ :=
  match c.step s with
  | (result, c, s) => (result.map (·.isSome), c, s)

/-- The next token; that there is none is an error. -/
def next (c : Cursor ε σ) (s : σ) : Except (Failure ε) Token × Cursor ε σ × σ :=
  match c.step s with
  | (.ok (some token), c, s) => (.ok token, c, s)
  | (.ok none, c, s) => (.error .finished, c, s)
  | (.error e, c, s) => (.error e, c, s)

/-- Adds the next tokens to those found before, until there are none or `n` were
added. -/
def gather : (n : Nat) → (found : Array Token) → Cursor ε σ → σ →
    Except (Failure ε) (Array Token) × Cursor ε σ × σ
  | 0, found, c, s => (.ok found, c, s)
  | n + 1, found, c, s =>
    match c.step s with
    | (.ok (some token), c, s) => gather n (found.push token) c s
    | (.ok none, c, s) => (.ok found, c, s)
    | (.error e, c, s) => (.error e, c, s)

/-- At most `n` tokens; nothing is asked after the `n`-th. -/
def take (n : Nat) (c : Cursor ε σ) (s : σ) :
    Except (Failure ε) (List Token) × Cursor ε σ × σ :=
  match gather n #[] c s with
  | (result, c, s) => (result.map Array.toList, c, s)

def reset (c : Cursor ε σ) : Except (Failure ε) Unit × Cursor ε σ :=
  if c.isReleased then (.error .released, c)
  else (.ok (), { c with position := 0, current := none, exhausted := false })

def release (c : Cursor ε σ) : Cursor ε σ :=
  { c with source := none, current := none, exhausted := true }

def moveTo (c : Cursor ε σ) (position : Int) : Cursor ε σ :=
  { c with position }

end Cursor

end FirstMatch
