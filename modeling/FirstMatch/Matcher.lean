import FirstMatch.Bench
import FirstMatch.Datum
import FirstMatch.Pattern

/-!
# Matchers

Patterns are equal when their texts and their flags are; any other matcher is equal to
itself alone, so it carries a number of its own.  A pattern is matched by an engine, which
takes every place of a text as a start but need not take every integer.
-/

namespace FirstMatch

inductive Matcher where
  | pattern (p : Pattern)
  | keyword (identity : Nat) (word : Text)
  | scripted (identity : Nat) (name : Text)
  deriving DecidableEq, Repr

/-- The starts from which the engine of the patterns matches.  With a start it takes
all those on the way to the end of the text. -/
structure Starts where
  takes : Text → Int → Bool
  takes_zero : ∀ t, takes t 0 = true
  takes_on : ∀ {t start later}, takes t start = true → start ≤ later →
    later ≤ max start t.size → takes t later = true

namespace Starts

def all : Starts where
  takes _ _ := true
  takes_zero _ := rfl
  takes_on _ _ _ := rfl

/-- The start is a word of 64 bits, as the places of all texts in memory are. -/
def machine : Starts where
  takes t start :=
    decide (-9223372036854775808 ≤ start ∧ start ≤ 9223372036854775807 ∨
      0 ≤ start ∧ start ≤ t.size)
  takes_zero _ := by
    simp
  takes_on := by
    simp only [decide_eq_true_eq]
    omega

theorem takes_place (starts : Starts) (t : Text) {n : Nat} (hn : n ≤ t.size) :
    starts.takes t n = true :=
  starts.takes_on (starts.takes_zero t) (by omega) (by omega)

end Starts

namespace Matcher

def source : Matcher → Text
  | pattern p => p.source
  | keyword _ word => word
  | scripted _ name => name

def literal : Matcher → Text
  | pattern p => p.literal
  | keyword _ word => text "KeywordMatcher(" ++ word.quoted ++ text ")"
  | scripted _ name => text "ScriptMatcher(" ++ name.quoted ++ text ")"

def same : Matcher → Matcher → Bool
  | pattern p, pattern q => p.source == q.source && p.flags == q.flags
  | keyword i word, keyword j word' => i == j && word == word'
  | scripted i name, scripted j name' => i == j && name == name'
  | _, _ => false

/-- The place that a keyword is looked for at: a negative start counts from the end
of the text. -/
def keywordPlace (t : Text) (start : Int) : Nat :=
  (if start < 0 then start + t.size else start).toNat

def keywordAt (word t : Text) (start : Int) : Option Text :=
  if keywordPlace t start ≤ t.size ∧ t.hasAt word (keywordPlace t start) then some word
  else none

def ask (m : Matcher) (t : Text) (start : Int) (b : Bench) (starts : Starts := .machine) :
    Except Refusal (Option Text) × Bench :=
  match m with
  | pattern p =>
    (if starts.takes t start then .ok (p.matchAt t start) else .error .startTooLarge, b)
  | keyword _ word => (.ok (keywordAt word t start), b)
  | scripted identity name =>
    match b.call identity ⟨name, t.size, start⟩ with
    | (.nothing, b) => (.ok none, b)
    | (.found value, b) => (.ok (some value), b)
    | (.refusal message, b) => (.error (.scripted message), b)

theorem ask_pattern_of_takes
    {p : Pattern} {t : Text} {start : Int} {b : Bench} {starts : Starts}
    (h : starts.takes t start = true) :
    (pattern p).ask t start b starts = (.ok (p.matchAt t start), b) := by
  simp only [ask, if_pos h]

/-- Whether the answers depend on the text and the start alone. -/
def isStateless : Matcher → Bool
  | scripted _ _ => false
  | _ => true

end Matcher

end FirstMatch
