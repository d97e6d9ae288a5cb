import FirstMatch.Lexicon.Session
import FirstMatch.Proofs.Pointer

/-!
# What a lexicon holds

Each definition was made with flags of its own, or else with those in force at that moment,
and an attempt that fails leaves no trace.  A scanner takes the definitions of one moment.
If their matchers have no state, then its tokens are settled.
-/

namespace FirstMatch

namespace Lexicon

/-! ## Changes of a lexicon -/

inductive Change where
  | add (kind : Datum) (recipe : Recipe) (own : Option Pattern.Flags) (b : Bench)
  | setFlags (flags : Pattern.Flags)

def change (x : Lexicon) : Change → Lexicon
  | .add kind recipe own b => (x.add kind recipe own b).2.1
  | .setFlags flags => x.setFlags flags

namespace Change

def assigned? : Change → Option Pattern.Flags
  | add .. => none
  | setFlags flags => some flags

def made? (flags : Pattern.Flags) : Change → Option Definition
  | add kind recipe own b =>
    (Definition.build kind recipe (own.getD flags) b).1.toOption
  | setFlags _ => none

end Change

def inForce (flags : Pattern.Flags) (changes : List Change) : Pattern.Flags :=
  (changes.filterMap Change.assigned?).getLast?.getD flags

/-- The definitions that were made, in order, if `flags` are in force at first. -/
def made (flags : Pattern.Flags) : List Change → List Definition
  | [] => []
  | c :: rest => (c.made? flags).toList ++ made (c.assigned?.getD flags) rest

theorem inForce_cons (flags : Pattern.Flags) (c : Change) (rest : List Change) :
    inForce flags (c :: rest) = inForce (c.assigned?.getD flags) rest := by
  unfold inForce
  cases hassigned : c.assigned? with
  | none => simp [hassigned]
  | some own => simp [hassigned, List.getLast?_cons]

theorem add_cases
    (x : Lexicon) (kind : Datum) (recipe : Recipe) (own : Option Pattern.Flags)
    (b : Bench) :
    (∃ d b', Definition.build kind recipe (own.getD x.flags) b = (.ok d, b') ∧
      x.add kind recipe own b =
        (.ok (), { x with definitions := x.definitions.push d }, b')) ∨
    ∃ e b', Definition.build kind recipe (own.getD x.flags) b = (.error e, b') ∧
      x.add kind recipe own b = (.error e, x, b') := by
  unfold add
  cases Definition.build kind recipe (own.getD x.flags) b with
  | mk outcome b' =>
      cases outcome with
      | ok d => exact .inl ⟨d, b', rfl, rfl⟩
      | error e => exact .inr ⟨e, b', rfl, rfl⟩

theorem eq_of_add_error
    {x : Lexicon} {kind : Datum} {recipe : Recipe} {own : Option Pattern.Flags}
    {b : Bench} {e : BuildFault} (h : (x.add kind recipe own b).1 = .error e) :
    (x.add kind recipe own b).2.1 = x := by
  rcases x.add_cases kind recipe own b with ⟨d, b', _, hadd⟩ | ⟨e', b', _, hadd⟩
  · rw [hadd] at h
    cases h
  · rw [hadd]

theorem change_eq (x : Lexicon) (c : Change) :
    x.change c =
      ⟨c.assigned?.getD x.flags, x.definitions ++ (c.made? x.flags).toArray⟩ := by
  cases c with
  | add kind recipe own b =>
      show (x.add kind recipe own b).2.1 = _
      rcases x.add_cases kind recipe own b with
        ⟨d, b', hbuild, hadd⟩ | ⟨e, b', hbuild, hadd⟩
      · rw [hadd]
        simp [Change.assigned?, Change.made?, hbuild, Except.toOption]
      · rw [hadd]
        simp [Change.assigned?, Change.made?, hbuild, Except.toOption]
  | setFlags flags => simp [change, setFlags, Change.assigned?, Change.made?]

theorem foldl_change (x : Lexicon) (changes : List Change) :
    changes.foldl change x =
      ⟨inForce x.flags changes, x.definitions ++ (made x.flags changes).toArray⟩ := by
  induction changes generalizing x with
  | nil => simp [inForce, made]
  | cons c rest ih =>
      rw [List.foldl_cons, ih, change_eq, inForce_cons, made, ← List.append_toArray,
        Option.toArray_toList, Array.append_assoc]

theorem foldl_change_empty (flags : Pattern.Flags) (changes : List Change) :
    changes.foldl change (empty flags) =
      ⟨inForce flags changes, (made flags changes).toArray⟩ := by
  rw [foldl_change]
  simp [empty]

end Lexicon

/-! ## Tokens that are settled -/

section Stateless

variable {ε σ : Type}

theorem Rule.firstAnswer_of_stateless
    {rules : List (Rule ε σ)} (hrules : ∀ rule ∈ rules, rule.Stateless)
    (t : Text) (p : Int) :
    ∃ found, ∀ s, firstAnswer t p rules s = (found, s) := by
  induction rules with
  | nil => exact ⟨.ok none, fun _ => rfl⟩
  | cons rule rest ih =>
      obtain ⟨answer, hanswer⟩ := hrules rule List.mem_cons_self
      obtain ⟨found, hrest⟩ := ih fun rule' hmem =>
        hrules rule' (List.mem_cons_of_mem _ hmem)
      cases hvalue : answer t p with
      | error e =>
          refine ⟨.error e, fun s => ?_⟩
          rw [firstAnswer, hanswer, hvalue]
      | ok value =>
          cases value with
          | none =>
              refine ⟨found, fun s => ?_⟩
              rw [firstAnswer, hanswer, hvalue]
              exact hrest s
          | some v =>
              cases hempty : v.isEmpty with
              | true =>
                  refine ⟨found, fun s => ?_⟩
                  rw [firstAnswer, hanswer, hvalue]
                  simp only [hempty]
                  exact hrest s
              | false =>
                  refine ⟨.ok (some (rule.kind, v)), fun s => ?_⟩
                  rw [firstAnswer, hanswer, hvalue]
                  simp only [hempty]
                  rfl

variable {c c' : Cursor ε σ} {s s' : σ}

theorem Cursor.step_of_stateless
    {r : Except (Failure ε) (Option Token)}
    (hrules : ∀ source, c.source = some source →
      ∀ rule ∈ source.rules, rule.Stateless)
    (h : c.step s = (r, c', s')) (u : σ) :
    c.step u = (r, c', u) := by
  unfold step at h ⊢
  split at h
  next source hexhausted hsource =>
    obtain ⟨found, hfound⟩ :=
      Rule.firstAnswer_of_stateless (hrules source hsource) source.text c.position
    simp only [hfound] at h ⊢
    cases found with
    | error e =>
        cases h
        rfl
    | ok answer? =>
        cases answer? with
        | none =>
            cases h
            rfl
        | some answer =>
            simp only at h ⊢
            split at h <;> cases h <;> rfl
  next =>
    cases h
    rfl

theorem Cursor.Drains.of_stateless
    {r : Except (Failure ε) (List Token)}
    (hrules : ∀ source, c.source = some source →
      ∀ rule ∈ source.rules, rule.Stateless)
    (h : c.Drains s r c' s') (u : σ) :
    c.Drains u r c' u := by
  induction h with
  | finished hstep => exact .finished (step_of_stateless hrules hstep u)
  | failed hstep => exact .failed (step_of_stateless hrules hstep u)
  | token hstep _ ih =>
      refine .token (step_of_stateless hrules hstep u) (ih ?_)
      rw [(Steps.of_step hstep).source_eq]
      exact hrules

end Stateless

namespace Scanner

theorem text_of_build
    {roster : Roster} {t : Option Text} {x : Scanner}
    (h : build roster t = .ok x) :
    t = some x.text := by
  simp only [build, bind, Except.bind, throw, throwThe, MonadExceptOf.throw, pure,
    Except.pure] at h
  grind

theorem tokens_of_stateless
    {x : Scanner} (h : ∀ d ∈ x.definitions, d.matcher.isStateless = true) :
    ∃ tokens c, ∀ b, x.tokens b = (.ok tokens, c, b) := by
  have hrules : ∀ source, x.cursor.source = some source →
      ∀ rule ∈ source.rules, rule.Stateless := by
    rintro source ⟨⟩ rule hmem
    obtain ⟨d, hd, rfl⟩ := List.mem_map.mp hmem
    exact d.rule_stateless (h d hd) .machine
  obtain ⟨tokens, _, c, b₀, htokens, _⟩ := x.tokens_tiles h .empty
  have hdrains := x.tokens_drains .empty
  rw [htokens] at hdrains
  refine ⟨tokens, c, fun b => ?_⟩
  obtain ⟨hresult, hcursor, hbench⟩ :=
    (x.tokens_drains b).unique (hdrains.of_stateless hrules b)
  exact Prod.ext hresult (Prod.ext hcursor hbench)

end Scanner

/-! ## Sessions -/

namespace Lexicon

theorem scanner_eq_ok
    {x : Lexicon} {t : Option Text} {scanner : Scanner}
    (h : x.scanner t = .ok scanner) :
    t = some scanner.text ∧ scanner.definitions = x.definitions.toList := by
  unfold Lexicon.scanner at h
  have ht := Scanner.text_of_build h
  refine ⟨ht, ?_⟩
  by_cases hempty : x.definitions.toList = []
  · rw [hempty] at h
    cases h
  · rw [ht, Scanner.build_ofDefinitions hempty] at h
    rw [← Except.ok.inj h]

namespace Session

/-- The changes that a step makes to the lexicon.  There is none if not even the
matcher can be made. -/
def changesBy (x : Session) : Step → List Change
  | .add kind pattern own =>
    match pattern.recipe x.bench with
    | (.ok recipe, b) => [.add kind recipe own b]
    | (.error _, _) => []
  | .setFlags flags => [.setFlags flags]
  | .inspect | .scan _ | .again _ => []

def changes (x : Session) : List Step → List Change
  | [] => []
  | s :: rest => x.changesBy s ++ (x.step s).2.changes rest

variable {x : Session}

theorem run_cons (x : Session) (s : Step) (steps : List Step) :
    x.run (s :: steps) =
      ((x.step s).1 :: ((x.step s).2.run steps).1,
        ((x.step s).2.run steps).2) :=
  rfl

theorem add_cases
    (x : Session) (kind : Datum) (pattern : PatternDraft) (own : Option Pattern.Flags) :
    (∃ e b, pattern.recipe x.bench = (.error e, b) ∧
      x.add kind pattern own = (.error (.build e), { x with bench := b })) ∨
    ∃ recipe b, pattern.recipe x.bench = (.ok recipe, b) ∧
      x.add kind pattern own =
        (((x.lexicon.add kind recipe own b).1.map fun _ => .added).mapError .build,
          { x with
            lexicon := (x.lexicon.add kind recipe own b).2.1
            bench := (x.lexicon.add kind recipe own b).2.2 }) := by
  unfold add
  cases pattern.recipe x.bench with
  | mk outcome b =>
      cases outcome with
      | error e => exact .inl ⟨e, b, rfl, rfl⟩
      | ok recipe => exact .inr ⟨recipe, b, rfl, rfl⟩

theorem perform_scan_of_ok
    {t : Option Text} {scanner : Scanner} (h : x.lexicon.scanner t = .ok scanner) :
    x.perform (.scan t) =
      { x with scanners := x.scanners.push scanner }.scanWith scanner := by
  simp only [perform, h]

theorem perform_again_of_some
    {i : Nat} {scanner : Scanner} (h : x.scanners[i]? = some scanner) :
    x.perform (.again i) = x.scanWith scanner := by
  simp only [perform, h]

theorem step_effect (x : Session) (s : Step) :
    (x.step s).2.lexicon = (x.changesBy s).foldl change x.lexicon ∧
      ∃ more, (x.step s).2.scanners = x.scanners ++ more := by
  show (x.perform s).2.lexicon = _ ∧ ∃ more, (x.perform s).2.scanners = _
  cases s with
  | add kind pattern own =>
      show (x.add kind pattern own).2.lexicon = _ ∧
        ∃ more, (x.add kind pattern own).2.scanners = _
      rcases x.add_cases kind pattern own with
        ⟨e, b, hrecipe, hadd⟩ | ⟨recipe, b, hrecipe, hadd⟩
      · rw [hadd]
        exact ⟨by simp [changesBy, hrecipe], #[], by simp⟩
      · rw [hadd]
        exact ⟨by simp [changesBy, hrecipe, change], #[], by simp⟩
  | setFlags flags => exact ⟨rfl, #[], by simp [perform]⟩
  | inspect => exact ⟨rfl, #[], by simp [perform]⟩
  | scan t =>
      cases hscanner : x.lexicon.scanner t with
      | error e =>
          simp only [perform, hscanner]
          exact ⟨rfl, #[], by simp⟩
      | ok scanner =>
          rw [perform_scan_of_ok hscanner]
          exact ⟨rfl, #[scanner], Array.push_eq_append⟩
  | again i =>
      cases hkept : x.scanners[i]? with
      | none =>
          simp only [perform, hkept]
          exact ⟨rfl, #[], by simp⟩
      | some scanner =>
          rw [perform_again_of_some hkept]
          exact ⟨rfl, #[], by simp [scanWith]⟩

theorem lexicon_run (x : Session) (steps : List Step) :
    (x.run steps).2.lexicon = (x.changes steps).foldl change x.lexicon := by
  induction steps generalizing x with
  | nil => rfl
  | cons s rest ih => rw [run_cons, ih, (x.step_effect s).1, changes, List.foldl_append]

theorem lexicon_run_start (flags : Pattern.Flags) (steps : List Step) :
    ((start flags).run steps).2.lexicon =
      ⟨inForce flags ((start flags).changes steps),
        (made flags ((start flags).changes steps)).toArray⟩ := by
  rw [lexicon_run]
  exact foldl_change_empty flags _

theorem scanners_run
    {k : Nat} {scanner : Scanner} (h : x.scanners[k]? = some scanner)
    (steps : List Step) :
    (x.run steps).2.scanners[k]? = some scanner := by
  induction steps generalizing x with
  | nil => exact h
  | cons s rest ih =>
      rw [run_cons]
      apply ih
      obtain ⟨more, hmore⟩ := (x.step_effect s).2
      obtain ⟨hlt, _⟩ := Array.getElem?_eq_some_iff.mp h
      rw [hmore, Array.getElem?_append_left hlt]
      exact h

theorem scanWith_eq
    {scanner : Scanner} {tokens : List Token} {c : Cursor Refusal Bench}
    (h : ∀ b, scanner.tokens b = (.ok tokens, c, b)) (x : Session) :
    x.scanWith scanner = (.ok (.tokens tokens), x) := by
  unfold scanWith
  rw [h]
  rfl

theorem step_add
    (x : Session) (kind : Datum) (pattern : PatternDraft) (own : Option Pattern.Flags) :
    let outcome :=
      (DefinitionDraft.build ⟨kind, pattern, own.getD x.lexicon.flags⟩ x.bench).1
    (x.step (.add kind pattern own)).1.result =
        (outcome.map fun _ => .added).mapError .build ∧
      (x.step (.add kind pattern own)).2.lexicon =
        match outcome with
        | .ok d => { x.lexicon with definitions := x.lexicon.definitions.push d }
        | .error _ => x.lexicon := by
  show (x.add kind pattern own).1 = _ ∧ (x.add kind pattern own).2.lexicon = _
  rcases x.add_cases kind pattern own with
    ⟨e, b, hrecipe, hadd⟩ | ⟨recipe, b, hrecipe, hadd⟩
  · rw [hadd]
    simp [DefinitionDraft.build, hrecipe, Except.map, Except.mapError]
  · rw [hadd]
    simp only [DefinitionDraft.build, hrecipe]
    rcases x.lexicon.add_cases kind recipe own b with
      ⟨d, b', hbuild, hadd⟩ | ⟨e, b', hbuild, hadd⟩
    · rw [hadd, hbuild]
      exact ⟨rfl, rfl⟩
    · rw [hadd, hbuild]
      exact ⟨rfl, rfl⟩

/-- What a scanner found when it was made, it finds at any later time. -/
theorem step_scan
    {t : Option Text} {scanner : Scanner} (h : x.lexicon.scanner t = .ok scanner)
    (hstateless : ∀ d ∈ scanner.definitions, d.matcher.isStateless = true) :
    ∃ tokens c, (∀ b, scanner.tokens b = (.ok tokens, c, b)) ∧
      (x.step (.scan t)).1.result = .ok (.tokens tokens) ∧
      ∀ later,
        (((x.step (.scan t)).2.run later).2.step
          (.again x.scanners.size)).1.result = .ok (.tokens tokens) := by
  obtain ⟨tokens, c, htokens⟩ := scanner.tokens_of_stateless hstateless
  have hperform : x.perform (.scan t) =
      (.ok (.tokens tokens), { x with scanners := x.scanners.push scanner }) := by
    rw [perform_scan_of_ok h]
    exact scanWith_eq htokens _
  refine ⟨tokens, c, htokens, congrArg Prod.fst hperform, ?_⟩
  intro later
  have hkept : (x.step (.scan t)).2.scanners[x.scanners.size]? = some scanner := by
    show (x.perform (.scan t)).2.scanners[x.scanners.size]? = _
    rw [hperform]
    exact Array.getElem?_push_size
  have hagain := perform_again_of_some (scanners_run hkept later)
  rw [scanWith_eq htokens] at hagain
  exact congrArg Prod.fst hagain

end Session

end Lexicon

/-- After any changes a lexicon holds the definitions that could be made, in order, each with
its own flags or those in force; a failed attempt changes nothing.  A scanner without state
finds the same tokens whenever it is used again. -/
theorem lexicons_hold_what_was_added :
    (∀ (flags : Pattern.Flags) (changes : List Lexicon.Change),
      changes.foldl Lexicon.change (.empty flags) =
        ⟨Lexicon.inForce flags changes, (Lexicon.made flags changes).toArray⟩) ∧
    (∀ (x : Lexicon) (kind : Datum) (recipe : Recipe) (own : Option Pattern.Flags)
      (b : Bench) (e : BuildFault), (x.add kind recipe own b).1 = .error e →
      (x.add kind recipe own b).2.1 = x) ∧
    ∀ (flags : Pattern.Flags) (before : List Lexicon.Step),
      let x := ((Lexicon.Session.start flags).run before).2
      let changes := (Lexicon.Session.start flags).changes before
      x.lexicon =
        ⟨Lexicon.inForce flags changes, (Lexicon.made flags changes).toArray⟩ ∧
      (∀ (kind : Datum) (pattern : PatternDraft) (own : Option Pattern.Flags),
        let outcome := (DefinitionDraft.build
          ⟨kind, pattern, own.getD (Lexicon.inForce flags changes)⟩ x.bench).1
        (x.step (.add kind pattern own)).1.result =
            (outcome.map fun _ => .added).mapError .build ∧
          (x.step (.add kind pattern own)).2.lexicon =
            match outcome with
            | .ok d => { x.lexicon with definitions := x.lexicon.definitions.push d }
            | .error _ => x.lexicon) ∧
      ∀ (t : Option Text) (scanner : Scanner), x.lexicon.scanner t = .ok scanner →
        (∀ d ∈ scanner.definitions, d.matcher.isStateless = true) →
        t = some scanner.text ∧
        scanner.definitions = Lexicon.made flags changes ∧
        ∃ tokens c, (∀ b, scanner.tokens b = (.ok tokens, c, b)) ∧
          (x.step (.scan t)).1.result = .ok (.tokens tokens) ∧
          ∀ later,
            (((x.step (.scan t)).2.run later).2.step
              (.again x.scanners.size)).1.result = .ok (.tokens tokens) := by
  refine ⟨Lexicon.foldl_change_empty, ?_, ?_⟩
  · intro x kind recipe own b e hfailed
    exact Lexicon.eq_of_add_error hfailed
  · intro flags before x changes
    have hlexicon : x.lexicon = _ := Lexicon.Session.lexicon_run_start flags before
    refine ⟨hlexicon, ?_, ?_⟩
    · intro kind pattern own
      have hflags : Lexicon.inForce flags changes = x.lexicon.flags := by rw [hlexicon]
      rw [hflags]
      exact x.step_add kind pattern own
    · intro t scanner hscanner hstateless
      obtain ⟨ht, hdefinitions⟩ := Lexicon.scanner_eq_ok hscanner
      refine ⟨ht, ?_, Lexicon.Session.step_scan hscanner hstateless⟩
      rw [hdefinitions, hlexicon]

theorem lexicons_hold_what_was_added_between :
    let before : List Lexicon.Step :=
      [.add (.int 1) (.datum (.text #[97])) none,
        .add (.int 2) (.datum (.text #[98])) (some ⟨0⟩),
        .add .none (.datum (.text #[66])) none, .setFlags ⟨0⟩]
    let later : List Lexicon.Step :=
      [.add (.int 3) (.datum (.text #[66])) none, .setFlags ⟨2⟩, .scan none]
    let x := ((Lexicon.Session.start ⟨2⟩).run before).2
    let ds : List Definition :=
      [⟨.int 1, .pattern ⟨#[97], ⟨34⟩, .char ⟨false, [.point 97], .unicode⟩⟩⟩,
        ⟨.int 2, .pattern ⟨#[98], ⟨32⟩, .char ⟨false, [.point 98], .exact⟩⟩⟩]
    let scanner : Scanner := ⟨ds, #[65, 98, 66]⟩
    let tokens : List Token := [⟨0, .int 1, #[65]⟩, ⟨1, .int 2, #[98]⟩]
    (x.lexicon.add .none (.datum (.text #[66])) none x.bench).1 =
      .error .missingKind ∧
    (x.lexicon.add .none (.datum (.text #[66])) none x.bench).2.1 = x.lexicon ∧
    x.lexicon = ⟨⟨0⟩, ds.toArray⟩ ∧
    x.lexicon.scanner (some #[65, 98, 66]) = .ok scanner ∧
    (∀ d ∈ scanner.definitions, d.matcher.isStateless = true) ∧
    (x.step (.scan (some #[65, 98, 66]))).1.result = .ok (.tokens tokens) ∧
    (((x.step (.scan (some #[65, 98, 66]))).2.run later).2.step
      (.again 0)).1.result = .ok (.tokens tokens) := by
  intro before later x ds scanner tokens
  obtain ⟨_, hfails, hsessions⟩ := lexicons_hold_what_was_added
  obtain ⟨hlexicon, _, hscanners⟩ := hsessions ⟨2⟩ before
  have hforce :
      Lexicon.inForce ⟨2⟩ ((Lexicon.Session.start ⟨2⟩).changes before) = ⟨0⟩ := by
    decide +kernel
  have hmade : Lexicon.made ⟨2⟩ ((Lexicon.Session.start ⟨2⟩).changes before) = ds := by
    decide +kernel
  rw [hforce, hmade] at hlexicon
  have hscanner : x.lexicon.scanner (some #[65, 98, 66]) = .ok scanner := by
    rw [hlexicon]
    exact Scanner.build_ofDefinitions (by decide) _
  have hstateless : ∀ d ∈ scanner.definitions, d.matcher.isStateless = true := by
    decide
  obtain ⟨_, _, tokens', c, htokens, hscan, hagain⟩ :=
    hscanners _ scanner hscanner hstateless
  have hrun : (scanner.tokens .empty).1.toOption = some tokens := by
    decide +kernel
  rw [htokens] at hrun
  cases hrun
  have hsize : ((Lexicon.Session.start ⟨2⟩).run before).2.scanners.size = 0 := by
    decide +kernel
  have hagain' := hagain later
  rw [hsize] at hagain'
  subst x
  exact ⟨rfl, hfails _ _ _ _ _ .missingKind rfl, hlexicon, hscanner, hstateless, hscan,
    hagain'⟩

end FirstMatch
