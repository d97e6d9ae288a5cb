import FirstMatch.Cursor
import FirstMatch.Definition
import FirstMatch.LineIndex

/-!
# Scanners

A scanner is a text and the definitions, at least one, by which it is cut into tokens.
Every cursor starts anew and owes nothing to the others, nor to the list that the
definitions were taken from.
-/

namespace FirstMatch

inductive Entry where
  | definition (d : Definition)
  | other (value : Datum)

inductive Roster where
  | entries (es : List Entry)
  | single (d : Definition)
  | other (value : Datum)

inductive ScannerFault where
  | notASequence (shown : Text)
  | noDefinitions
  | notADefinition (value : Datum)
  | missingText
  deriving DecidableEq

namespace ScannerFault

def message : ScannerFault → Text
  | notASequence shown => text "definitions must be a sequence, got " ++ shown
  | noDefinitions => text "definitions is None or empty."
  | notADefinition value => text "Expected TokenDefinition in definitions, got " ++ value.literal
  | missingText => text "text is None."

end ScannerFault

namespace Roster

/-- The elements.  The characters of a text are its elements; nothing at all has
none. -/
def elements : Roster → Except ScannerFault (List Entry)
  | entries es => .ok es
  | single d => .error (.notASequence d.literal)
  | other .none => .ok []
  | other (.list items) => .ok (items.map .other)
  | other (.text t) => .ok (t.toList.map fun c => .other (.text #[c]))
  | other value => .error (.notASequence value.literal)

def ofDefinitions (ds : List Definition) : Roster :=
  entries (ds.map .definition)

end Roster

namespace Entry

def definitions : List Entry → Except ScannerFault (List Definition)
  | [] => .ok []
  | definition d :: rest => (definitions rest).map (d :: ·)
  | other value :: _ => .error (.notADefinition value)

theorem definitions_map (ds : List Definition) :
    definitions (ds.map definition) = .ok ds := by
  induction ds with
  | nil => rfl
  | cons d ds ih => simp [definitions, ih, Except.map]

end Entry

structure Scanner where
  definitions : List Definition
  text : Text
  deriving DecidableEq

namespace Scanner

def build (roster : Roster) (t : Option Text) : Except ScannerFault Scanner := do
  let elements ← roster.elements
  if elements.isEmpty then
    throw .noDefinitions
  let definitions ← Entry.definitions elements
  match t with
  | none => throw .missingText
  | some t => return ⟨definitions, t⟩

theorem build_ofDefinitions {ds : List Definition} (hds : ds ≠ []) (t : Text) :
    build (.ofDefinitions ds) (some t) = .ok ⟨ds, t⟩ := by
  have hnonempty : (ds.map Entry.definition).isEmpty = false := by
    simpa using hds
  simp only [build, Roster.ofDefinitions, Roster.elements]
  show (if (ds.map Entry.definition).isEmpty = true then _ else _) = _
  rw [hnonempty]
  show (Entry.definitions (ds.map .definition) >>= _) = _
  rw [Entry.definitions_map]
  rfl

def cursor (x : Scanner) (starts : Starts := .machine) : Cursor Refusal Bench :=
  .start ⟨x.definitions.map (·.rule starts), x.text⟩

def lineIndex (x : Scanner) : LineIndex :=
  .ofText x.text

end Scanner

namespace Cursor

/-- One more than the number of tokens that the cursor can still make.  A token
of a scripted matcher uses up an answer, and any other one a part of the text. -/
def budget (c : Cursor Refusal Bench) (b : Bench) : Nat :=
  match c.source with
  | some source => ((source.text.size : Int) - c.position).toNat + b.answersLeft + 1
  | none => 0

def drain (c : Cursor Refusal Bench) (b : Bench) :
    Except (Failure Refusal) (List Token) × Cursor Refusal Bench × Bench :=
  c.take (c.budget b) b

end Cursor

namespace Scanner

def tokens (x : Scanner) (b : Bench) :
    Except (Cursor.Failure Refusal) (List Token) × Cursor Refusal Bench × Bench :=
  x.cursor.drain b

end Scanner

end FirstMatch
