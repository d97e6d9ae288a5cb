import FirstMatch.Datum

/-!
# Rules

A rule answers one question: what, if anything, does it recognise in a text that starts
exactly at a given place?  Answering may change a state `σ`, which all rules share, and
may be refused; the state keeps what happened up to then.
-/

namespace FirstMatch

structure Rule (ε σ : Type) where
  kind : Datum
  ask : Text → Int → σ → Except ε (Option Text) × σ

namespace Rule

variable {ε σ : Type}

def firstAnswer (t : Text) (position : Int) :
    List (Rule ε σ) → σ → Except ε (Option (Datum × Text)) × σ
  | [], s => (.ok none, s)
  | rule :: rest, s =>
    match rule.ask t position s with
    | (.error e, s) => (.error e, s)
    | (.ok none, s) => firstAnswer t position rest s
    | (.ok (some v), s) =>
      if v.isEmpty then firstAnswer t position rest s else (.ok (some (rule.kind, v)), s)

end Rule

end FirstMatch
