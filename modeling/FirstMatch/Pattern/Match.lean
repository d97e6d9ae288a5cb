import FirstMatch.Pattern.Node

/-!
# Matching by backtracking

A tree hands every place where it can end, in order of preference, to the continuation
`rest`, until one is accepted.  So the result is that of the first way through the
pattern, not of the longest.  An optional round of a repetition may start only at a place
where the round before it did not, so the text bounds their number.
-/

namespace FirstMatch.Pattern

/-- Where the groups were last entered and last left, most recent first. -/
structure Marks where
  entered : List (Nat × Nat)
  left : List (Nat × Nat)
  deriving DecidableEq, Repr

structure Spot where
  index : Nat
  marks : Marks
  deriving DecidableEq, Repr

namespace Spot

def start (index : Nat) : Spot :=
  ⟨index, [], []⟩

def move (s : Spot) (n : Nat) : Spot :=
  { s with index := s.index + n }

def goTo (s : Spot) (index : Nat) : Spot :=
  { s with index }

def enter (s : Spot) (group : Nat) : Spot :=
  { s with marks := { s.marks with entered := (group, s.index) :: s.marks.entered } }

def leave (s : Spot) (group : Nat) : Spot :=
  { s with marks := { s.marks with left := (group, s.index) :: s.marks.left } }

/-- The extent of a group that took part: both marks are set, and in order. -/
def extent? (s : Spot) (group : Nat) : Option (Nat × Nat) :=
  match s.marks.entered.lookup group, s.marks.left.lookup group with
  | some i, some j => if i ≤ j then some (i, j) else none
  | _, _ => none

end Spot

/-- A way to run: from a continuation and a spot to the first accepted end. -/
abbrev Run := (Spot → Option Spot) → Spot → Option Spot

namespace Anchor

def onWordEdge (ascii : Bool) (t : Text) (i : Nat) : Bool :=
  let isWord (c? : Option Nat) := c?.any (Category.word.contains ascii)
  isWord (if i = 0 then none else t[i - 1]?) != isWord t[i]?

def holds (t : Text) (i : Nat) : Anchor → Bool
  | textStart => i == 0
  | lineStart => i == 0 || t[i - 1]? == some '\n'.toNat
  | textEnd => i == t.size
  | lineEnd => i == t.size || t[i]? == some '\n'.toNat
  | closing => i == t.size || (i + 1 == t.size && t[i]? == some '\n'.toNat)
  | wordEdge ascii => t.size != 0 && onWordEdge ascii t i
  | noWordEdge ascii => t.size != 0 && !onWordEdge ascii t i

end Anchor

def CharSet.spanFrom (set : CharSet) (t : Text) (i : Nat) : (limit : Nat) → Nat
  | 0 => 0
  | limit + 1 =>
    match t[i]? with
    | some c => if set.accepts c then set.spanFrom t (i + 1) limit + 1 else 0
    | none => 0

/-- Whether the text at index `j` repeats, up to folding, the `n` code points at
index `i`. -/
def Folding.repeats (folding : Folding) (t : Text) (i j : Nat) : (n : Nat) → Bool
  | 0 => true
  | n + 1 =>
    match t[i]?, t[j]? with
    | some a, some b => folding.lower a == folding.lower b && folding.repeats t (i + 1) (j + 1) n
    | _, _ => false

namespace Run

def orElse (first second : Run) : Run := fun rest s =>
  match first rest s with
  | some r => some r
  | none => second rest s

def exactly (body : Run) : (n : Nat) → Run
  | 0, rest, s => rest s
  | n + 1, rest, s => body (exactly body n rest) s

/-- At most `n` further rounds, more before fewer.  `last` is where the round
before started: a round without progress is not followed by another. -/
def greedy (body : Run) (rest : Spot → Option Spot) : (n : Nat) → (last : Option Nat) →
    Spot → Option Spot
  | 0, _, s => rest s
  | n + 1, last, s =>
    if last = some s.index then rest s
    else
      match body (greedy body rest n (some s.index)) s with
      | some r => some r
      | none => rest s

def frugal (body : Run) (rest : Spot → Option Spot) : (n : Nat) → (last : Option Nat) →
    Spot → Option Spot
  | 0, _, s => rest s
  | n + 1, last, s =>
    match rest s with
    | some r => some r
    | none =>
      if last = some s.index then none
      else body (frugal body rest n (some s.index)) s

/-- Exactly `n` rounds, each with its first result only. -/
def firstOnly (body : Run) : (n : Nat) → Spot → Option Spot
  | 0, s => some s
  | n + 1, s =>
    match body some s with
    | some s' => firstOnly body n s'
    | none => none

def exhaust (body : Run) : (n : Nat) → Spot → Spot
  | 0, s => s
  | n + 1, s =>
    match body some s with
    | some s' => if s'.index = s.index then s' else exhaust body n s'
    | none => s

def shrinking (rest : Spot → Option Spot) (s : Spot) (least : Nat) : (n : Nat) → Option Spot
  | 0 => rest (s.move least)
  | n + 1 =>
    match rest (s.move (least + (n + 1))) with
    | some r => some r
    | none => shrinking rest s least n

def growing (rest : Spot → Option Spot) (s : Spot) (least : Nat) : (n : Nat) → Option Spot
  | 0 => rest (s.move least)
  | n + 1 =>
    match rest (s.move least) with
    | some r => some r
    | none => growing rest s (least + 1) n

/-- A repetition of single characters: how many follow is counted once. -/
def stretch (t : Text) (set : CharSet) (greed : Greed) (least : Nat) (most : Option Nat) : Run :=
  fun rest s =>
    let room := t.size - s.index
    let n := set.spanFrom t s.index (min (most.getD room) room)
    if n < least then none
    else
      match greed with
      | .greedy => shrinking rest s least (n - least)
      | .frugal => growing rest s least (n - least)
      | .possessive => rest (s.move n)

/-- How many optional rounds a repetition may try from index `i` on. -/
def rounds (t : Text) (least : Nat) (most : Option Nat) (i : Nat) : Nat :=
  let room := t.size - i + 1
  match most with
  | some m => min (m - least) room
  | none => room

def loop (t : Text) (body : Run) (greed : Greed) (least : Nat) (most : Option Nat) : Run :=
  fun rest s =>
    match greed with
    | .greedy =>
      exactly body least (fun s' => greedy body rest (rounds t least most s'.index) none s') s
    | .frugal =>
      exactly body least (fun s' => frugal body rest (rounds t least most s'.index) none s') s
    | .possessive =>
      match firstOnly body least s with
      | some s' => rest (exhaust body (rounds t least most s'.index) s')
      | none => none

/-- Goes on from `s` with the marks of `inner` if the look found what it asked
for, and with the marks of `s` if it found, as asked, nothing. -/
def look (negated : Bool) (inner : Option Spot) : Run := fun rest s =>
  match inner with
  | some s' => if negated then none else rest (s'.goTo s.index)
  | none => if negated then rest s else none

end Run

namespace Node

def run (t : Text) : Node → Run
  | empty, rest, s => rest s
  | char set, rest, s =>
    match t[s.index]? with
    | some c => if set.accepts c then rest (s.move 1) else none
    | none => none
  | seq a b, rest, s => run t a (run t b rest) s
  | alt a b, rest, s => Run.orElse (run t a) (run t b) rest s
  | capture g a, rest, s => run t a (fun s' => rest (s'.leave g)) (s.enter g)
  | reference g folding, rest, s =>
    match s.extent? g with
    | some (i, j) => if folding.repeats t i s.index (j - i) then rest (s.move (j - i)) else none
    | none => none
  | anchor a, rest, s => if a.holds t s.index then rest s else none
  | ahead negated a, rest, s => Run.look negated (run t a some s) rest s
  | behind negated width a, rest, s =>
    Run.look negated
      (if width.least ≤ s.index then run t a some (s.goTo (s.index - width.least)) else none)
      rest s
  | atomic a, rest, s =>
    match run t a some s with
    | some s' => rest s'
    | none => none
  | conditional g a b, rest, s =>
    if (s.extent? g).isSome then run t a rest s else run t b rest s
  | loop greed least most a, rest, s =>
    match a.single? with
    | some set => Run.stretch t set greed least most rest s
    | none => Run.loop t (run t a) greed least most rest s

def matchEnd? (t : Text) (start : Nat) (root : Node) : Option Nat :=
  (root.run t some (Spot.start start)).map (·.index)

end Node

end FirstMatch.Pattern
