import FirstMatch.Session

/-!
# Surveys

A survey of a text lists its tokens with their places and says where and how the
cursor stopped.
-/

namespace FirstMatch

structure Survey where
  tokens : List Token
  places : List Location
  state : CursorState
  stop : Except Outside Location

namespace Survey

def placesOf (index : LineIndex) : List Token → Except Outside (List Location)
  | [] => .ok []
  | t :: rest => do
    let place ← index.locationOf t
    return place :: (← placesOf index rest)

def make (x : Scanner) (limit : Nat) (b : Bench) : Except Error Survey × Bench :=
  match x.cursor.take limit b with
  | (.error e, _, b) => (.error (.cursor e), b)
  | (.ok tokens, c, b) =>
    let index := x.lineIndex
    match placesOf index tokens with
    | .error e => (.error (.outside e), b)
    | .ok places => (.ok ⟨tokens, places, c.observed, index.location c.position⟩, b)

end Survey

end FirstMatch
