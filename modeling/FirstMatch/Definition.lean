import FirstMatch.Matcher
import FirstMatch.Rule

/-!
# Token definitions

Making a definition asks its matcher once about the empty text: a match there is worth a
warning, because matches without any character never become tokens.
-/

namespace FirstMatch

structure Definition where
  kind : Datum
  matcher : Matcher
  deriving DecidableEq

inductive Blueprint where
  | pattern (source : Datum) (flags : Pattern.Flags)
  | keyword (word : Text)
  | scripted (name : Text) (answers : List Answer)

inductive Recipe where
  | datum (value : Datum)
  | matcher (m : Matcher)

inductive BuildFault where
  | missingKind
  | missingPattern
  | missingText
  | notText
  /-- A matcher was to be made from a list, which cannot even be looked up. -/
  | unhashable
  /-- A definition was given something that is neither a text nor a matcher. -/
  | notAPattern (value : Datum)
  | badPattern (source : Text) (fault : Pattern.Fault)
  | refused (refusal : Refusal)

namespace BuildFault

def message : BuildFault → Text
  | missingKind => text "type is None."
  | missingPattern => text "pattern is None."
  | missingText => text "text is None."
  | notText => text "first argument must be string or compiled pattern"
  | unhashable => text "unhashable type: 'list'"
  | notAPattern value =>
    text "pattern must be a string or PatternMatcher, got " ++ value.literal
  | badPattern source fault => fault.message source
  | refused refusal => refusal.message

end BuildFault

namespace Matcher

def ofSource (source : Text) (flags : Pattern.Flags) (characters : CharacterNames := []) :
    Except BuildFault Matcher :=
  match Pattern.compile source flags characters with
  | .ok p => .ok (pattern p)
  | .error fault => .error (.badPattern source fault)

def ofDatum (source : Datum) (flags : Pattern.Flags) (characters : CharacterNames := []) :
    Except BuildFault Matcher :=
  match source with
  | .none => .error .missingPattern
  | .text source => ofSource source flags characters
  | value => .error (if value.hashable then .notText else .unhashable)

def ofBlueprint (blueprint : Blueprint) (b : Bench) : Except BuildFault Matcher × Bench :=
  match blueprint with
  | .pattern source flags => (ofDatum source flags b.characters, b)
  | .keyword word =>
    match b.newIdentity with
    | (identity, b) => (.ok (keyword identity word), b)
  | .scripted name answers =>
    match b.newIdentity with
    | (identity, b) => (.ok (scripted identity name), b.addScript identity answers)

def probe (m : Matcher) (t : Option Text) (start : Int) (b : Bench) :
    Except BuildFault (Option Text) × Bench :=
  match t with
  | none => (.error .missingText, b)
  | some t =>
    match m.ask t start b with
    | (.ok answer, b) => (.ok answer, b)
    | (.error refusal, b) => (.error (.refused refusal), b)

/-- A copy that shares nothing with the matcher: it has a number of its own, and
its own share of a script. -/
def deepCopy (m : Matcher) (b : Bench) : Matcher × Bench :=
  match m with
  | pattern p => (pattern p, b)
  | keyword _ word =>
    match b.newIdentity with
    | (identity, b) => (keyword identity word, b)
  | scripted old name =>
    match b.newIdentity with
    | (identity, b) => (scripted identity name, b.addScript identity (b.remaining old))

end Matcher

namespace Definition

def matcherOf (recipe : Recipe) (flags : Pattern.Flags) (characters : CharacterNames) :
    Except BuildFault Matcher :=
  match recipe with
  | .matcher m => .ok m
  | .datum .none => .error .missingPattern
  | .datum (.text source) => Matcher.ofSource source flags characters
  | .datum value => .error (.notAPattern value)

def warning (d : Definition) : Text :=
  text "Pattern " ++ d.matcher.source.quoted ++ text " of token type " ++ d.kind.display ++
    text " can match the empty string, empty matches never produce tokens."

def tryOut (d : Definition) (b : Bench) : Except BuildFault Definition × Bench :=
  match d.matcher.ask #[] 0 b with
  | (.error refusal, b) => (.error (.refused refusal), b)
  | (.ok none, b) => (.ok d, b)
  | (.ok (some value), b) => (.ok d, if value.isEmpty then b.warn d.warning else b)

/-- Makes a definition; the flags count only if the pattern is given as a text. -/
def build (kind : Datum) (recipe : Recipe) (flags : Pattern.Flags) (b : Bench) :
    Except BuildFault Definition × Bench :=
  if kind = .none then (.error .missingKind, b)
  else
    match matcherOf recipe flags b.characters with
    | .error e => (.error e, b)
    | .ok matcher => tryOut ⟨kind, matcher⟩ b

def same (a b : Definition) : Bool :=
  a.kind.same b.kind && a.matcher.same b.matcher

def hashable (d : Definition) : Bool :=
  d.kind.hashable

def literal (d : Definition) : Text :=
  text "TokenDefinition(type=" ++ d.kind.literal ++ text ", matcher=" ++ d.matcher.literal ++
    text ")"

def rule (d : Definition) (starts : Starts := .machine) : Rule Refusal Bench where
  kind := d.kind
  ask t start b := d.matcher.ask t start b starts

inductive Duplication where
  | shallow
  | deep
  deriving DecidableEq, Repr

def duplicate (d : Definition) (how : Duplication) (b : Bench) : Definition × Bench :=
  match how with
  | .shallow => (d, b)
  | .deep =>
    match d.matcher.deepCopy b with
    | (matcher, b) => (⟨d.kind, matcher⟩, b)

end Definition

end FirstMatch
