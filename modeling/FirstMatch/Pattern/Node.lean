import FirstMatch.Pattern.CharSet
import FirstMatch.Pattern.Width

/-!
# Patterns as trees

The switches in force are resolved while a pattern is read, so a tree means the
same wherever it stands.
-/

namespace FirstMatch.Pattern

inductive Anchor where
  | textStart
  | lineStart
  | textEnd
  | lineEnd
  /-- The end of the text, or right before a line feed that ends it. -/
  | closing
  | wordEdge (ascii : Bool)
  | noWordEdge (ascii : Bool)
  deriving DecidableEq, Repr

inductive Greed where
  | greedy
  | frugal
  /-- As many as possible, and no other number. -/
  | possessive
  deriving DecidableEq, Repr

inductive Node where
  | empty
  | char (set : CharSet)
  | seq (first second : Node)
  | alt (first second : Node)
  | capture (group : Nat) (body : Node)
  | reference (group : Nat) (folding : Folding)
  | anchor (anchor : Anchor)
  | ahead (negated : Bool) (body : Node)
  | behind (negated : Bool) (width : Width) (body : Node)
  | atomic (body : Node)
  | conditional (group : Nat) (present absent : Node)
  | loop (greed : Greed) (least : Nat) (most : Option Nat) (body : Node)
  deriving DecidableEq, Repr

namespace Node

def single? : Node → Option CharSet
  | char set => some set
  | _ => none

/-- One tree after the other, without needless empty trees. -/
def andThen : Node → Node → Node
  | empty, b => b
  | a, empty => a
  | a, b => seq a b

def sequence (nodes : List Node) : Node :=
  nodes.foldr andThen empty

def choice : List Node → Node
  | [] => empty
  | [a] => a
  | a :: rest => alt a (choice rest)

end Node

end FirstMatch.Pattern
