import FirstMatch.Scanner

/-!
# Drafts

A draft describes a definition, or a list of them, before anything is made.  First the
matcher is made that a draft may ask for, then the definition; and all definitions of a
list before a scanner looks at any of them.  What was logged before a fault remains.
-/

namespace FirstMatch

inductive PatternDraft where
  | matcher (blueprint : Blueprint)
  | datum (value : Datum)

def PatternDraft.recipe (draft : PatternDraft) (b : Bench) : Except BuildFault Recipe × Bench :=
  match draft with
  | matcher blueprint =>
    match Matcher.ofBlueprint blueprint b with
    | (.ok m, b) => (.ok (.matcher m), b)
    | (.error e, b) => (.error e, b)
  | datum value => (.ok (.datum value), b)

structure DefinitionDraft where
  kind : Datum
  pattern : PatternDraft
  flags : Pattern.Flags

def DefinitionDraft.build (draft : DefinitionDraft) (b : Bench) :
    Except BuildFault Definition × Bench :=
  match draft.pattern.recipe b with
  | (.error e, b) => (.error e, b)
  | (.ok recipe, b) => Definition.build draft.kind recipe draft.flags b

inductive EntryDraft where
  | definition (draft : DefinitionDraft)
  | other (value : Datum)

namespace EntryDraft

def build (draft : EntryDraft) (b : Bench) : Except BuildFault Entry × Bench :=
  match draft with
  | definition draft =>
    match draft.build b with
    | (.ok d, b) => (.ok (.definition d), b)
    | (.error e, b) => (.error e, b)
  | other value => (.ok (.other value), b)

def buildAll : List EntryDraft → Bench → Except BuildFault (List Entry) × Bench
  | [], b => (.ok [], b)
  | draft :: rest, b =>
    match draft.build b with
    | (.error e, b) => (.error e, b)
    | (.ok entry, b) =>
      match buildAll rest b with
      | (.error e, b) => (.error e, b)
      | (.ok entries, b) => (.ok (entry :: entries), b)

end EntryDraft

inductive RosterDraft where
  | entries (drafts : List EntryDraft)
  | single (draft : DefinitionDraft)
  | other (value : Datum)

def RosterDraft.build (draft : RosterDraft) (b : Bench) : Except BuildFault Roster × Bench :=
  match draft with
  | entries drafts =>
    match EntryDraft.buildAll drafts b with
    | (.ok es, b) => (.ok (.entries es), b)
    | (.error e, b) => (.error e, b)
  | single draft =>
    match draft.build b with
    | (.ok d, b) => (.ok (.single d), b)
    | (.error e, b) => (.error e, b)
  | other value => (.ok (.other value), b)

def DefinitionDraft.buildAll : List DefinitionDraft → Bench →
    Except BuildFault (List Definition) × Bench
  | [], b => (.ok [], b)
  | draft :: rest, b =>
    match draft.build b with
    | (.error e, b) => (.error e, b)
    | (.ok d, b) =>
      match buildAll rest b with
      | (.error e, b) => (.error e, b)
      | (.ok ds, b) => (.ok (d :: ds), b)

def Blueprint.buildAll : List Blueprint → Bench → Except BuildFault (List Matcher) × Bench
  | [], b => (.ok [], b)
  | blueprint :: rest, b =>
    match Matcher.ofBlueprint blueprint b with
    | (.error e, b) => (.error e, b)
    | (.ok m, b) =>
      match buildAll rest b with
      | (.error e, b) => (.error e, b)
      | (.ok ms, b) => (.ok (m :: ms), b)

def Matcher.probeAll (m : Matcher) : List (Option Text × Int) → Bench →
    List (Except BuildFault (Option Text)) × Bench
  | [], b => ([], b)
  | (t, start) :: rest, b =>
    match m.probe t start b with
    | (answer, b) =>
      match m.probeAll rest b with
      | (answers, b) => (answer :: answers, b)

end FirstMatch
