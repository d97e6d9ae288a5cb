import FirstMatch.Draft
import FirstMatch.Error
import FirstMatch.Lexicon

/-!
# Sessions with a lexicon

Steps that add definitions to a lexicon, change its flags, look at it and scan
texts with it.  Every scanner that was made is kept and can be used again.
-/

namespace FirstMatch.Lexicon

inductive Step where
  | add (kind : Datum) (pattern : PatternDraft) (flags : Option Pattern.Flags)
  | setFlags (flags : Pattern.Flags)
  | inspect
  | scan (text : Option Text)
  | again (scanner : Nat)

inductive Reply where
  | added
  | flags (value : Pattern.Flags)
  | definitions (shown : List Text)
  | tokens (values : List Token)

structure Session where
  lexicon : Lexicon
  scanners : Array Scanner
  bench : Bench

structure Report where
  result : Except Error Reply
  count : Nat

namespace Session

def start (flags : Pattern.Flags) : Session :=
  ⟨.empty flags, #[], .empty⟩

def add (x : Session) (kind : Datum) (pattern : PatternDraft) (flags : Option Pattern.Flags) :
    Except Error Reply × Session :=
  match pattern.recipe x.bench with
  | (.error e, bench) => (.error (.build e), { x with bench })
  | (.ok recipe, bench) =>
    match x.lexicon.add kind recipe flags bench with
    | (result, lexicon, bench) =>
      ((result.map fun _ => .added).mapError .build, { x with lexicon, bench })

def scanWith (x : Session) (scanner : Scanner) : Except Error Reply × Session :=
  match scanner.tokens x.bench with
  | (result, _, bench) => ((result.map .tokens).mapError .cursor, { x with bench })

def perform (x : Session) : Step → Except Error Reply × Session
  | .add kind pattern flags => x.add kind pattern flags
  | .setFlags flags => (.ok (.flags flags), { x with lexicon := x.lexicon.setFlags flags })
  | .inspect => (.ok (.definitions (x.lexicon.definitions.toList.map (·.literal))), x)
  | .scan t =>
    match x.lexicon.scanner t with
    | .error e => (.error (.scanner e), x)
    | .ok scanner => { x with scanners := x.scanners.push scanner }.scanWith scanner
  | .again i =>
    match x.scanners[i]? with
    | some scanner => x.scanWith scanner
    | none => (.error .noMember, x)

def step (x : Session) (s : Step) : Report × Session :=
  match x.perform s with
  | (result, x) => (⟨result, x.lexicon.definitions.size⟩, x)

def run (x : Session) : List Step → List Report × Session
  | [] => ([], x)
  | s :: rest =>
    match x.step s with
    | (report, x) =>
      match x.run rest with
      | (reports, x) => (report :: reports, x)

end Session

end FirstMatch.Lexicon
