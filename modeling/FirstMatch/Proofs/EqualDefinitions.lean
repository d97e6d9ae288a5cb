import FirstMatch.Proofs.Pattern.FinalFlags
import FirstMatch.Proofs.Pointer
import Mathlib.Data.List.Forall2

/-!
# Equal definitions give equal tokens

Definitions are compared by what they show: the kind as a datum, a pattern by its text and
its final flags, a keyword by its number.  Equal matchers are one and the same matcher, so
two cursors over one text, whose rules are equal one by one, stay side by side from step to
step.
-/

namespace FirstMatch

variable {ε σ : Type}

/-! ## Equal matchers -/

namespace Matcher

variable {characters : CharacterNames}

inductive Built (characters : CharacterNames) : Matcher → Prop
  | ofSource {source : Text} {flags : Pattern.Flags} {m : Matcher}
      (h : Matcher.ofSource source flags characters = .ok m) : Built characters m
  | keyword (identity : Nat) (word : Text) : Built characters (.keyword identity word)

theorem ofSource_eq_ok
    {source : Text} {flags : Pattern.Flags} {m : Matcher}
    (h : ofSource source flags characters = .ok m) :
    ∃ p, m = .pattern p ∧ Pattern.compile source flags characters = .ok p := by
  unfold ofSource at h
  cases hcompile : Pattern.compile source flags characters with
  | error fault => simp [hcompile] at h
  | ok p =>
      simp only [hcompile, Except.ok.injEq] at h
      exact ⟨p, h.symm, rfl⟩

theorem ofSource_of_compile
    {source : Text} {flags : Pattern.Flags} {p : Pattern}
    (h : (Pattern.compile source flags characters).toOption = some p) :
    ofSource source flags characters = .ok (.pattern p) := by
  unfold ofSource
  cases hcompile : Pattern.compile source flags characters with
  | error fault =>
      rw [hcompile] at h
      cases h
  | ok found =>
      rw [hcompile] at h
      cases h
      rfl

theorem Built.isStateless {m : Matcher} (hm : m.Built characters) :
    m.isStateless = true := by
  cases hm with
  | ofSource h =>
      obtain ⟨p, rfl, _⟩ := ofSource_eq_ok h
      rfl
  | keyword identity word => rfl

theorem Built.eq_of_same
    {m m' : Matcher} (hm : m.Built characters) (hm' : m'.Built characters)
    (hsame : m.same m' = true) :
    m = m' := by
  cases hm with
  | @ofSource source flags _ h =>
      obtain ⟨p, rfl, hp⟩ := ofSource_eq_ok h
      cases hm' with
      | @ofSource source' flags' _ h' =>
          obtain ⟨q, rfl, hq⟩ := ofSource_eq_ok h'
          simp only [same, Bool.and_eq_true, beq_iff_eq] at hsame
          have hsource : source = source' := by
            rw [← Pattern.source_of_compile hp, ← Pattern.source_of_compile hq]
            exact hsame.1
          subst hsource
          rw [Pattern.compile_unique hp hq hsame.2]
      | keyword identity word => simp [same] at hsame
  | keyword identity word =>
      cases hm' with
      | ofSource h' =>
          obtain ⟨q, rfl, _⟩ := ofSource_eq_ok h'
          simp [same] at hsame
      | keyword identity' word' =>
          simp only [same, Bool.and_eq_true, beq_iff_eq] at hsame
          rw [hsame.1, hsame.2]

end Matcher

theorem Definition.build_of_compile
    {source : Text} {flags : Pattern.Flags} {b : Bench} {p : Pattern}
    (hcompile : Pattern.compile source flags b.characters = .ok p)
    {kind : Datum} (hkind : kind ≠ .none) :
    build kind (.datum (.text source)) flags b =
      (.ok ⟨kind, .pattern p⟩,
        if p.matchAt #[] 0 = some #[] then b.warn (warning ⟨kind, .pattern p⟩) else b) := by
  simp only [build, if_neg hkind, matcherOf, Matcher.ofSource, hcompile, tryOut,
    Matcher.ask_pattern_of_takes (Starts.machine.takes_zero _)]
  cases hanswer : p.matchAt #[] 0 with
  | none => simp
  | some v => simp

/-! ## Side by side -/

structure Rule.Agrees (rule rule' : Rule ε σ) : Prop where
  kind : rule.kind.same rule'.kind = true
  stateless : rule.Stateless
  ask : rule.ask = rule'.ask

theorem Definition.rule_agrees
    {characters : CharacterNames} {d e : Definition}
    (hd : d.matcher.Built characters) (he : e.matcher.Built characters)
    (hsame : d.same e = true) :
    d.rule.Agrees e.rule := by
  unfold same at hsame
  rw [Bool.and_eq_true] at hsame
  have hmatcher : d.matcher = e.matcher := hd.eq_of_same he hsame.2
  refine ⟨hsame.1, d.rule_stateless hd.isStateless .machine, ?_⟩
  unfold rule
  rw [hmatcher]

def Rule.SameFind (found found' : Option (Datum × Text)) : Prop :=
  Option.Rel (fun a a' => a.1.same a'.1 = true ∧ a.2 = a'.2) found found'

theorem Rule.firstAnswer_agrees
    {rules rules' : List (Rule ε σ)} (h : List.Forall₂ Agrees rules rules')
    {t : Text} {p : Int} {s s₁ : σ} {found : Option (Datum × Text)}
    (hfirst : firstAnswer t p rules s = (.ok found, s₁)) (s' : σ) :
    s₁ = s ∧ ∃ found', firstAnswer t p rules' s' = (.ok found', s') ∧
      SameFind found found' := by
  induction h with
  | nil =>
      cases hfirst
      exact ⟨rfl, none, rfl, .none⟩
  | @cons rule rule' rest rest' hrule _ ih =>
      obtain ⟨answer, hanswer⟩ := hrule.stateless
      have hanswer' : rule'.ask t p s' = (answer t p, s') := by
        rw [← hrule.ask]
        exact hanswer t p s'
      unfold firstAnswer at hfirst ⊢
      rw [hanswer t p s] at hfirst
      rw [hanswer']
      cases hx : answer t p with
      | error e =>
          rw [hx] at hfirst
          cases hfirst
      | ok x =>
          rw [hx] at hfirst
          cases x with
          | none => exact ih hfirst
          | some v =>
              by_cases hv : v.isEmpty = true
              · simp only [if_pos hv] at hfirst ⊢
                exact ih hfirst
              · simp only [if_neg hv] at hfirst ⊢
                cases hfirst
                exact ⟨rfl, _, rfl, .some ⟨hrule.kind, rfl⟩⟩

namespace Cursor

structure Twins (c c' : Cursor ε σ) : Prop where
  sources : ∃ t rules rules', c.source = some ⟨rules, t⟩ ∧
    c'.source = some ⟨rules', t⟩ ∧ List.Forall₂ Rule.Agrees rules rules'
  position : c.position = c'.position
  exhausted : c.exhausted = c'.exhausted

theorem Twins.reachedEnd
    {c c' : Cursor ε σ} (h : c.Twins c') :
    c.reachedEnd = c'.reachedEnd := by
  obtain ⟨t, rules, rules', hsource, hsource', _⟩ := h.sources
  unfold Cursor.reachedEnd
  rw [hsource, hsource', h.position, h.exhausted]

theorem Twins.step
    {c c' d : Cursor ε σ} (h : c.Twins c') {s s₁ : σ} {r : Option Token}
    (hstep : c.step s = (.ok r, d, s₁)) (s' : σ) :
    s₁ = s ∧ ∃ r' d', c'.step s' = (.ok r', d', s') ∧
      Option.Rel (fun a a' => a.same a' = true) r r' ∧ d.Twins d' := by
  cases hexhausted : c.exhausted with
  | true =>
      have hexhausted' : c'.exhausted = true := by
        rw [← h.exhausted]
        exact hexhausted
      rw [step_of_exhausted hexhausted s] at hstep
      cases hstep
      exact ⟨rfl, none, c', step_of_exhausted hexhausted' s', .none, h⟩
  | false =>
      have hexhausted' : c'.exhausted = false := by
        rw [← h.exhausted]
        exact hexhausted
      obtain ⟨t, rules, rules', hsource, hsource', hrules⟩ := h.sources
      cases hfirst : Rule.firstAnswer t c.position rules s with
      | mk answer s₂ =>
          cases answer with
          | error e => simp [Cursor.step, hexhausted, hsource, hfirst] at hstep
          | ok found =>
              obtain ⟨rfl, found', hfirst', hfound⟩ :=
                Rule.firstAnswer_agrees hrules hfirst s'
              have hanswers := Rule.Answers.of_firstAnswer hfirst
              unfold Cursor.step at hstep ⊢
              rw [hsource, hexhausted] at hstep
              rw [← h.position, hsource', hexhausted']
              simp only [hfirst] at hstep
              simp only [hfirst']
              cases hfound with
              | none =>
                  cases hstep
                  exact ⟨rfl, none, _, rfl, .none,
                    ⟨t, rules, rules', rfl, rfl, hrules⟩, rfl, rfl⟩
              | @some a a' hsame =>
                  obtain ⟨kind, v⟩ := a
                  obtain ⟨kind', v'⟩ := a'
                  obtain ⟨hkind, rfl⟩ := hsame
                  have hne := hanswers.ne_empty
                  simp only [Token.build_of_ne hne] at hstep ⊢
                  cases hstep
                  refine ⟨rfl, _, _, rfl, .some ?_,
                    ⟨t, rules, rules', rfl, rfl, hrules⟩, rfl, rfl⟩
                  simp [Token.same, hkind]

theorem Twins.drains
    {c c' d : Cursor ε σ} {s s₁ : σ} {tokens : List Token}
    (h : c.Twins c') (hdrains : c.Drains s (.ok tokens) d s₁) (s' : σ) :
    s₁ = s ∧ ∃ tokens' d', c'.Drains s' (.ok tokens') d' s' ∧
      List.Forall₂ (fun a a' => a.same a' = true) tokens tokens' ∧
      d.Twins d' := by
  generalize hr : (.ok tokens : Except (Failure ε) (List Token)) = r at hdrains
  induction hdrains generalizing c' tokens with
  | finished hstep =>
      cases hr
      obtain ⟨hs, r', d', hstep', hsame, htwins⟩ := h.step hstep s'
      cases hsame
      exact ⟨hs, [], d', .finished hstep', .nil, htwins⟩
  | failed => cases hr
  | @token _ _ _ _ _ _ a r hstep _ ih =>
      obtain ⟨rfl, r', d', hstep', hsame, htwins⟩ := h.step hstep s'
      cases r with
      | error e => cases hr
      | ok rest =>
          cases hr
          cases hsame with
          | some hsame =>
              obtain ⟨hs, tokens', last, hrest, htokens, hlast⟩ := ih htwins rfl
              exact ⟨hs, _ :: tokens', last, .token hstep' hrest, .cons hsame htokens,
                hlast⟩

end Cursor

theorem Definition.rules_agree
    {characters : CharacterNames} {ds es : List Definition}
    (hds : ∀ d ∈ ds, d.matcher.Built characters)
    (hes : ∀ e ∈ es, e.matcher.Built characters)
    (hsame : List.Forall₂ (fun d e => d.same e = true) ds es) :
    List.Forall₂ Rule.Agrees (ds.map (·.rule)) (es.map (·.rule)) := by
  induction hsame with
  | nil => exact .nil
  | @cons d e ds es hde _ ih =>
      have hd : d.matcher.Built characters := hds d List.mem_cons_self
      have he : e.matcher.Built characters := hes e List.mem_cons_self
      refine .cons (rule_agrees hd he hde) (ih ?_ ?_)
      · intro d' hd'
        exact hds d' (List.mem_cons_of_mem d hd')
      · intro e' he'
        exact hes e' (List.mem_cons_of_mem e he')

/-- Definitions that are equal one by one tokenize every text alike, into equal
tokens up to the same stop.  Equal patterns match alike. -/
theorem equal_definitions_tokenize_alike (characters : CharacterNames) :
    (∀ p q : Pattern, (Matcher.pattern p).Built characters →
      (Matcher.pattern q).Built characters →
      (Matcher.pattern p).same (.pattern q) = true →
      ∀ t start, p.matchAt t start = q.matchAt t start) ∧
    ∀ (ds es : List Definition) (t : Text) (b b' : Bench), ds ≠ [] →
      (∀ d ∈ ds, d.matcher.Built characters) → (∀ e ∈ es, e.matcher.Built characters) →
      List.Forall₂ (fun d e => d.same e = true) ds es →
      ∃ x y tokens tokens' c c',
        Scanner.build (.ofDefinitions ds) (some t) = .ok x ∧
        Scanner.build (.ofDefinitions es) (some t) = .ok y ∧
        x.tokens b = (.ok tokens, c, b) ∧
        y.tokens b' = (.ok tokens', c', b') ∧
        List.Forall₂ (fun a a' => a.same a' = true) tokens tokens' ∧
        c.position = c'.position ∧ c.exhausted = c'.exhausted ∧
        c.reachedEnd = c'.reachedEnd := by
  constructor
  · intro p q hp hq hsame t start
    have heq : Matcher.pattern p = .pattern q := hp.eq_of_same hq hsame
    cases heq
    rfl
  · intro ds es t b b' hds hdsBuilt hesBuilt hsame
    have hes : es ≠ [] := by
      intro hempty
      subst hempty
      cases hsame
      contradiction
    have htwins : (Scanner.mk ds t).cursor.Twins (Scanner.mk es t).cursor := by
      refine ⟨⟨t, _, _, rfl, rfl, ?_⟩, rfl, rfl⟩
      exact Definition.rules_agree hdsBuilt hesBuilt hsame
    have hstateless : ∀ d ∈ ds, d.matcher.isStateless = true :=
      fun d hd => (hdsBuilt d hd).isStateless
    obtain ⟨tokens, _, c, b₁, hrun, _, _⟩ :=
      Scanner.tokens_tiles (x := ⟨ds, t⟩) hstateless b
    have hdrains := (Scanner.mk ds t).tokens_drains b
    rw [hrun] at hdrains
    obtain ⟨rfl, tokens', c', hdrains', heq, hlast⟩ := htwins.drains hdrains b'
    obtain ⟨htokens', hcursor', hbench'⟩ :=
      ((Scanner.mk es t).tokens_drains b').unique hdrains'
    exact ⟨⟨ds, t⟩, ⟨es, t⟩, tokens, tokens', c, c',
      Scanner.build_ofDefinitions hds t, Scanner.build_ofDefinitions hes t, hrun,
      Prod.ext htokens' (Prod.ext hcursor' hbench'), heq, hlast.position,
      hlast.exhausted, hlast.reachedEnd⟩

/-- A pattern that its own text makes verbose, and the same text with the flag
given; the kinds are a truth value and the number that it equals. -/
theorem equal_definitions_tokenize_alike_verbose :
    let source : Text := #[40, 63, 120, 41, 32, 97]
    let p : Pattern := ⟨source, ⟨96⟩, .char ⟨false, [.point 97], .exact⟩⟩
    let x : Scanner := ⟨[⟨.truth true, .pattern p⟩], #[97, 97, 33]⟩
    let y : Scanner := ⟨[⟨.int 1, .pattern p⟩], #[97, 97, 33]⟩
    Matcher.ofSource source ⟨0⟩ = .ok (.pattern p) ∧
    Matcher.ofSource source ⟨64⟩ = .ok (.pattern p) ∧
    ∃ tokens' c c', x.tokens .empty =
        (.ok [⟨0, .truth true, #[97]⟩, ⟨1, .truth true, #[97]⟩], c, .empty) ∧
      y.tokens .empty = (.ok tokens', c', .empty) ∧
      List.Forall₂ (fun a a' => Token.same a a' = true)
        [⟨0, .truth true, #[97]⟩, ⟨1, .truth true, #[97]⟩] tokens' ∧
      c.position = c'.position := by
  intro source p x y
  have hinline : Matcher.ofSource source ⟨0⟩ = .ok (.pattern p) := by rfl
  have hgiven : Matcher.ofSource source ⟨64⟩ = .ok (.pattern p) := by rfl
  have hxBuilt : ∀ d ∈ x.definitions, d.matcher.Built [] := by
    intro d hd
    rw [List.mem_singleton.mp hd]
    exact .ofSource hinline
  have hyBuilt : ∀ e ∈ y.definitions, e.matcher.Built [] := by
    intro e he
    rw [List.mem_singleton.mp he]
    exact .ofSource hgiven
  obtain ⟨x', y', tokens, tokens', c, c', hx, hy, hxrun, hyrun, hsame, hposition,
    _⟩ := (equal_definitions_tokenize_alike []).2 x.definitions y.definitions x.text
      .empty .empty (by decide) hxBuilt hyBuilt (.cons (by decide) .nil)
  rw [Scanner.build_ofDefinitions (by decide)] at hx hy
  cases hx
  cases hy
  have htokens : (x.tokens .empty).1.toOption =
      some [⟨0, .truth true, #[97]⟩, ⟨1, .truth true, #[97]⟩] := by
    decide +kernel
  rw [hxrun] at htokens
  cases htokens
  exact ⟨hinline, hgiven, tokens', c, c', hxrun, hyrun, hsame, hposition⟩

end FirstMatch
