import FirstMatch.Proofs.Pointer

/-!
# Adding rules

More rules can mean more tokens, but never other tokens in front of them.  This is a matter
of a single question to the rules: if other rules find the same wherever the old ones find
something, then a cursor with the other rules repeats all steps of a cursor with the old
ones, up to the place where that one stops.
-/

namespace FirstMatch

variable {ε σ : Type}

namespace Rule

/-- The rule can have a non-empty answer at `p`. -/
def Offers (rule : Rule ε σ) (t : Text) (p : Int) : Prop :=
  ∃ s v s', rule.ask t p s = (.ok (some v), s') ∧ v ≠ #[]

def Settled (rule : Rule ε σ) (t : Text) (p : Int) : Prop :=
  ∃ answer, ∀ s, rule.ask t p s = (.ok answer, s)

/-- Wherever `t` gives `rules` something to find, `rules'` find the same. -/
def Extend (t : Text) (rules rules' : List (Rule ε σ)) : Prop :=
  ∀ (p : Nat) (s s' : σ) (found : Datum × Text), p ≤ t.size →
    firstAnswer t p rules s = (.ok (some found), s') →
    firstAnswer t p rules' s = (.ok (some found), s')

variable {t : Text} {p : Int} {s s' : σ} {rule : Rule ε σ}
  {rules before middle : List (Rule ε σ)}

/-! ## One question -/

theorem Stateless.settled
    (hrule : rule.Stateless) (hanchored : rule.Anchored t) {p : Nat} (hp : p ≤ t.size)
    (s : σ) :
    rule.Settled t p := by
  obtain ⟨fixed, hfixed⟩ := hrule
  obtain ⟨answer, s', hask, _⟩ := hanchored p s hp
  rw [hfixed] at hask
  obtain ⟨hanswer, _⟩ := Prod.mk.inj hask
  refine ⟨answer, fun u => ?_⟩
  rw [hfixed, hanswer]

theorem Settled.not_offers_iff (hrule : rule.Settled t p) (s : σ) :
    ¬ rule.Offers t p ↔
      ∃ answer, rule.ask t p s = (.ok answer, s) ∧
        (answer = none ∨ answer = some #[]) := by
  obtain ⟨fixed, hfixed⟩ := hrule
  constructor
  · intro hnot
    refine ⟨fixed, hfixed s, ?_⟩
    cases fixed with
    | none => exact .inl rfl
    | some v =>
        by_cases hv : v = #[]
        · exact .inr (congrArg some hv)
        · exact absurd ⟨s, v, s, hfixed s, hv⟩ hnot
  · rintro ⟨answer, hask, hempty⟩ ⟨u, v, u', hoffer, hne⟩
    have hvalue : answer = some v := by
      rw [hfixed] at hask hoffer
      simp only [Prod.mk.injEq, Except.ok.injEq] at hask hoffer
      rw [← hask.1, hoffer.1]
    rw [hvalue] at hempty
    rcases hempty with hempty | hempty
    · cases hempty
    · exact hne (Option.some.inj hempty)

theorem allDecline_iff_not_offers (hrules : ∀ rule ∈ rules, rule.Settled t p) (s : σ) :
    AllDecline t p rules s s ↔ ∀ rule ∈ rules, ¬ rule.Offers t p := by
  induction rules with
  | nil =>
      constructor
      · simp
      · intro _
        exact .nil s
  | cons rule rest ih =>
      have hrule : rule.Settled t p := hrules rule List.mem_cons_self
      have hiff := ih fun rule' hmem => hrules rule' (List.mem_cons_of_mem rule hmem)
      rw [List.forall_mem_cons, hrule.not_offers_iff s, ← hiff]
      constructor
      · intro h
        cases h with
        | cons hask hempty hrest =>
            obtain ⟨fixed, hfixed⟩ := hrule
            rw [hfixed] at hask
            cases hask
            exact ⟨⟨_, hfixed s, hempty⟩, hrest⟩
      · rintro ⟨⟨answer, hask, hempty⟩, hrest⟩
        exact .cons hask hempty hrest

theorem Answers.append_rules
    {r : Except ε (Option (Datum × Text))} (h : Answers t p rules s r s')
    (hr : r ≠ .ok none) (extra : List (Rule ε σ)) :
    Answers t p (rules ++ extra) s r s' := by
  cases h with
  | declined => exact absurd rfl hr
  | found before hall hask hne =>
      rw [List.append_assoc, List.cons_append]
      exact .found before hall hask hne
  | refused before hall hask =>
      rw [List.append_assoc, List.cons_append]
      exact .refused before hall hask

theorem extend_append (t : Text) (rules extra : List (Rule ε σ)) :
    Extend t rules (rules ++ extra) := by
  intro p s s' found _ hfirst
  exact ((Answers.of_firstAnswer hfirst).append_rules (by simp) extra).firstAnswer_eq

/-- Rules that offer nothing, unless an earlier one does, make no difference. -/
theorem firstAnswer_insert
    (hbefore : ∀ rule ∈ before, rule.Stateless ∧ rule.Anchored t)
    (hmiddle : ∀ rule ∈ middle, rule.Stateless ∧ rule.Anchored t)
    {p : Nat} (hp : p ≤ t.size)
    (hshadowed : ∀ rule ∈ middle, rule.Offers t p →
      ∃ earlier ∈ before, earlier.Offers t p)
    (after : List (Rule ε σ)) (s : σ) :
    firstAnswer t p (before ++ (middle ++ after)) s =
      firstAnswer t p (before ++ after) s := by
  cases hfirst : firstAnswer t p before s with
  | mk r s' =>
      have hanswers := Answers.of_firstAnswer hfirst
      have hstate : s' = s := hanswers.state_eq fun rule hmem => (hbefore rule hmem).1
      subst hstate
      by_cases hr : r = .ok none
      · subst hr
        have hall : AllDecline t p before s' s' := hanswers.allDecline
        have hnone := (allDecline_iff_not_offers
          (fun rule hmem => (hbefore rule hmem).1.settled (hbefore rule hmem).2 hp s')
          s').mp hall
        have hskipped : AllDecline t p middle s' s' := by
          rw [allDecline_iff_not_offers fun rule hmem =>
            (hmiddle rule hmem).1.settled (hmiddle rule hmem).2 hp s']
          intro rule hmem hoffers
          obtain ⟨earlier, hearlier, hoffer⟩ := hshadowed rule hmem hoffers
          exact hnone earlier hearlier hoffer
        rw [hall.firstAnswer_append, hskipped.firstAnswer_append,
          hall.firstAnswer_append]
      · rw [(hanswers.append_rules hr (middle ++ after)).firstAnswer_eq,
          (hanswers.append_rules hr after).firstAnswer_eq]

end Rule

/-! ## Whole runs -/

namespace Cursor

def withRules (c : Cursor ε σ) (rules : List (Rule ε σ)) : Cursor ε σ :=
  { c with source := c.source.map fun source => { source with rules } }

variable {t : Text} {rules rules' : List (Rule ε σ)} {c : Cursor ε σ} {p q : Nat}
  {s s' : σ} {tokens : List Token}

theorem Live.withRules (h : c.Live ⟨rules, t⟩ p) (rules' : List (Rule ε σ)) :
    (c.withRules rules').Live ⟨rules', t⟩ p := by
  obtain ⟨hsource, hexhausted, hposition⟩ := h
  refine ⟨?_, hexhausted, hposition⟩
  unfold Cursor.withRules
  rw [hsource]
  rfl

theorem step_withRules
    (hlive : c.Live ⟨rules, t⟩ p)
    (hsame : Rule.firstAnswer t p rules' s = Rule.firstAnswer t p rules s) :
    (c.withRules rules').step s =
      ((c.step s).1, (c.step s).2.1.withRules rules', (c.step s).2.2) := by
  obtain ⟨hsource', hexhausted', hposition'⟩ := hlive.withRules rules'
  obtain ⟨hsource, hexhausted, hposition⟩ := hlive
  unfold step
  rw [hsource, hsource', hexhausted, hexhausted', hposition, hposition']
  simp only [hsame]
  split
  next => rfl
  next => rfl
  next kind v s' hfirst =>
    rw [Token.build_of_ne (Rule.Answers.of_firstAnswer hfirst).ne_empty]
    rfl

theorem Live.firstAnswer_of_step_token
    (hlive : c.Live ⟨rules, t⟩ p) {a : Token} {c₁ : Cursor ε σ}
    (hstep : c.step s = (.ok (some a), c₁, s')) :
    Rule.firstAnswer t p rules s = (.ok (some (a.kind, a.value)), s') := by
  obtain ⟨hsource, _, hposition⟩ := hlive
  cases Steps.of_step hstep with
  | token hsource' _ hanswers =>
      rw [hsource] at hsource'
      cases hsource'
      rw [hposition] at hanswers
      exact hanswers.firstAnswer_eq

/-- With rules that extend the old ones, a cursor makes the old tokens first, and goes
on from the place where the old rules stop. -/
theorem Live.drains_extend
    (hrules : ∀ rule ∈ rules, rule.Anchored t) (hextend : Rule.Extend t rules rules')
    (hlive : c.Live ⟨rules, t⟩ p) (hp : p ≤ t.size)
    (h : c.Drains s (.ok tokens) (stopped ⟨rules, t⟩ q) s') :
    ∃ (c₁ : Cursor ε σ) (s₁ : σ), c₁.Live ⟨rules, t⟩ q ∧ q ≤ t.size ∧
      c₁.step s₁ = (.ok none, stopped ⟨rules, t⟩ q, s') ∧
      ∀ rest c' s'', (c₁.withRules rules').Drains s₁ (.ok rest) c' s'' →
        (c.withRules rules').Drains s (.ok (tokens ++ rest)) c' s'' := by
  induction tokens generalizing c p s with
  | nil =>
      have hstep := h.step_of_nil
      have hq : p = q := by
        rcases hlive.step hrules hp s with ⟨a, _, _, _, htoken, _⟩ | ⟨s₁, hnone, _⟩
        · rw [htoken] at hstep
          cases hstep
        · rw [hnone] at hstep
          simp only [stopped, Prod.mk.injEq, Cursor.mk.injEq] at hstep
          omega
      subst hq
      exact ⟨c, s, hlive, hp, hstep, fun rest c' s'' hrest => hrest⟩
  | cons a tokens ih =>
      obtain ⟨c₁, s₁, hstep, hdrains⟩ := h.step_of_cons
      have hfirst := hlive.firstAnswer_of_step_token hstep
      have hsame : Rule.firstAnswer t p rules' s = Rule.firstAnswer t p rules s := by
        rw [hfirst]
        exact hextend p s s₁ _ hp hfirst
      have hstep' := step_withRules hlive hsame
      rw [hstep] at hstep'
      rcases hlive.step hrules hp s with
        ⟨_, p₁, _, _, htoken, _, _, _, hp₁, hlive₁⟩ | ⟨_, hnone, _⟩
      · rw [hstep] at htoken
        cases htoken
        obtain ⟨c₂, s₂, hlive₂, hq, hlast, hgo⟩ := ih hlive₁ hp₁ hdrains
        exact ⟨c₂, s₂, hlive₂, hq, hlast,
          fun rest c' s'' hrest => .token hstep' (hgo rest c' s'' hrest)⟩
      · rw [hstep] at hnone
        cases hnone

theorem Live.drains_same
    (hrules : ∀ rule ∈ rules, rule.Anchored t) (hextend : Rule.Extend t rules rules')
    (hstop : ∀ s, Rule.firstAnswer t q rules' s = Rule.firstAnswer t q rules s)
    (hlive : c.Live ⟨rules, t⟩ p) (hp : p ≤ t.size)
    (h : c.Drains s (.ok tokens) (stopped ⟨rules, t⟩ q) s') :
    (c.withRules rules').Drains s (.ok tokens) (stopped ⟨rules', t⟩ q) s' := by
  obtain ⟨c₁, s₁, hlive₁, _, hlast, hgo⟩ := hlive.drains_extend hrules hextend hp h
  have hstep := step_withRules hlive₁ (hstop s₁)
  rw [hlast] at hstep
  have hdrains := hgo [] _ _ (.finished hstep)
  rw [List.append_nil] at hdrains
  exact hdrains

theorem drains_start
    (hrules : ∀ rule ∈ rules, rule.Stateless ∧ rule.Anchored t) (s : σ) :
    ∃ tokens q, q ≤ t.size ∧
      (start ⟨rules, t⟩).Drains s (.ok tokens) (stopped ⟨rules, t⟩ q) s := by
  obtain ⟨tokens, q, _, s', hdrains, htiles, _⟩ :=
    (start_live ⟨rules, t⟩).drains (fun rule hmem => (hrules rule hmem).2)
      (Nat.zero_le _) s
  have hstate : s' = s := by
    apply hdrains.state_eq
    rintro source ⟨⟩ rule hmem
    exact (hrules rule hmem).1
  rw [hstate] at hdrains
  exact ⟨tokens, q, htiles.le_size (Nat.zero_le _), hdrains⟩

theorem drains_append_rules
    {extra : List (Rule ε σ)}
    (hrules : ∀ rule ∈ rules ++ extra, rule.Stateless ∧ rule.Anchored t) (s : σ) :
    ∃ tokens tokens' c c',
      (start ⟨rules, t⟩).Drains s (.ok tokens) c s ∧
      (start ⟨rules ++ extra, t⟩).Drains s (.ok tokens') c' s ∧
      tokens <+: tokens' ∧
      ((∀ rule ∈ extra, ¬ rule.Offers t c.position) →
        tokens' = tokens ∧ c'.observed = c.observed) := by
  have hold : ∀ rule ∈ rules, rule.Stateless ∧ rule.Anchored t :=
    fun rule hmem => hrules rule (List.mem_append_left extra hmem)
  have hanchored : ∀ rule ∈ rules, rule.Anchored t :=
    fun rule hmem => (hold rule hmem).2
  have hextend : Rule.Extend t rules (rules ++ extra) :=
    Rule.extend_append t rules extra
  have hlive : (start ⟨rules, t⟩).Live ⟨rules, t⟩ 0 := start_live ⟨rules, t⟩
  obtain ⟨tokens, q, _, hdrains⟩ := drains_start hold s
  obtain ⟨tokens', q', _, hdrains'⟩ := drains_start hrules s
  obtain ⟨c₁, s₁, hlive₁, hq, _, hgo⟩ :=
    hlive.drains_extend hanchored hextend (Nat.zero_le _) hdrains
  refine ⟨tokens, tokens', _, _, hdrains, hdrains', ?_, ?_⟩
  · obtain ⟨rest, _, _, _, hrest, _⟩ := (hlive₁.withRules (rules ++ extra)).drains
      (fun rule hmem => (hrules rule hmem).2) hq s₁
    obtain ⟨htokens, _⟩ := hdrains'.unique (hgo rest _ _ hrest)
    exact ⟨rest, (Except.ok.inj htokens).symm⟩
  · intro hnone
    have hstop : ∀ u, Rule.firstAnswer t q (rules ++ extra) u =
        Rule.firstAnswer t q rules u := by
      intro u
      have hinsert := Rule.firstAnswer_insert hold
        (fun rule hmem => hrules rule (List.mem_append_right rules hmem)) hq
        (fun rule hmem hoffers => absurd hoffers (hnone rule hmem)) [] u
      rwa [List.append_nil, List.append_nil] at hinsert
    have hsame := hlive.drains_same hanchored hextend hstop (Nat.zero_le _) hdrains
    obtain ⟨htokens, hcursor, _⟩ := hdrains'.unique hsame
    rw [hcursor]
    exact ⟨Except.ok.inj htokens, rfl⟩

theorem drains_insert_rule
    {before after : List (Rule ε σ)} {rule : Rule ε σ}
    (hrules : ∀ rule' ∈ before ++ rule :: after, rule'.Stateless ∧ rule'.Anchored t)
    (hshadowed : ∀ p : Nat, p ≤ t.size → rule.Offers t p →
      ∃ earlier ∈ before, earlier.Offers t p)
    (s : σ) :
    ∃ tokens c c',
      (start ⟨before ++ after, t⟩).Drains s (.ok tokens) c s ∧
      (start ⟨before ++ rule :: after, t⟩).Drains s (.ok tokens) c' s ∧
      c'.observed = c.observed := by
  have hold : ∀ rule' ∈ before ++ after, rule'.Stateless ∧ rule'.Anchored t := by
    intro rule' hmem
    apply hrules
    rcases List.mem_append.mp hmem with hmem | hmem
    · exact List.mem_append_left _ hmem
    · exact List.mem_append_right _ (List.mem_cons_of_mem rule hmem)
  have hsame : ∀ p : Nat, p ≤ t.size → ∀ u,
      Rule.firstAnswer t p (before ++ rule :: after) u =
        Rule.firstAnswer t p (before ++ after) u := by
    intro p hp u
    change Rule.firstAnswer t p (before ++ ([rule] ++ after)) u = _
    refine Rule.firstAnswer_insert ?_ ?_ hp ?_ after u
    · intro rule' hmem
      exact hrules rule' (List.mem_append_left _ hmem)
    · intro rule' hmem
      rw [List.mem_singleton.mp hmem]
      exact hrules rule (by simp)
    · intro rule' hmem
      rw [List.mem_singleton.mp hmem]
      exact hshadowed p hp
  have hextend : Rule.Extend t (before ++ after) (before ++ rule :: after) := by
    intro p u u' found hp hfirst
    rw [hsame p hp u]
    exact hfirst
  obtain ⟨tokens, q, hq, hdrains⟩ := drains_start hold s
  refine ⟨tokens, _, stopped ⟨before ++ rule :: after, t⟩ q, hdrains, ?_, rfl⟩
  exact (start_live _).drains_same (fun rule' hmem => (hold rule' hmem).2) hextend
    (hsame q hq) (Nat.zero_le _) hdrains

end Cursor

/-- The tokens of some rules are the first tokens when more rules are added behind them, and
they are all tokens if the added rules offer nothing where the old ones stop.  A rule that is
added at any place makes no difference if it offers nothing anywhere in the text, or only where
an earlier rule has an offer, too.  Scanners with patterns and keywords have such rules. -/
theorem added_rules_keep_tokens :
    (∀ (ε σ : Type) (t : Text) (rules extra : List (Rule ε σ)) (s : σ),
      (∀ rule ∈ rules ++ extra, rule.Stateless ∧ rule.Anchored t) →
      ∃ tokens tokens' c c',
        (Cursor.start ⟨rules, t⟩).Drains s (.ok tokens) c s ∧
        (Cursor.start ⟨rules ++ extra, t⟩).Drains s (.ok tokens') c' s ∧
        tokens <+: tokens' ∧
        ((∀ rule ∈ extra, ¬ rule.Offers t c.position) →
          tokens' = tokens ∧ c'.observed = c.observed)) ∧
    (∀ (ε σ : Type) (t : Text) (before after : List (Rule ε σ)) (rule : Rule ε σ)
      (s : σ),
      (∀ rule' ∈ before ++ rule :: after, rule'.Stateless ∧ rule'.Anchored t) →
      ((∀ p : Nat, p ≤ t.size → ¬ rule.Offers t p) ∨
        ∀ p : Nat, p ≤ t.size → rule.Offers t p →
          ∃ earlier ∈ before, earlier.Offers t p) →
      ∃ tokens c c',
        (Cursor.start ⟨before ++ after, t⟩).Drains s (.ok tokens) c s ∧
        (Cursor.start ⟨before ++ rule :: after, t⟩).Drains s (.ok tokens) c' s ∧
        c'.observed = c.observed) ∧
    ∀ (x : Scanner) (b : Bench),
      (∀ d ∈ x.definitions, d.matcher.isStateless = true) →
      (∀ rule ∈ x.definitions.map (·.rule), rule.Stateless ∧ rule.Anchored x.text) ∧
      ∀ tokens c,
        (Cursor.start ⟨x.definitions.map (·.rule), x.text⟩).Drains b
          (.ok tokens) c b →
        x.tokens b = (.ok tokens, c, b) := by
  refine ⟨?_, ?_, ?_⟩
  · intro ε σ t rules extra s hrules
    exact Cursor.drains_append_rules hrules s
  · intro ε σ t before after rule s hrules hshadowed
    apply Cursor.drains_insert_rule hrules
    intro p hp hoffers
    rcases hshadowed with hnone | hearlier
    · exact absurd hoffers (hnone p hp)
    · exact hearlier p hp hoffers
  · intro x b hstateless
    constructor
    · intro rule hmem
      obtain ⟨d, hd, rfl⟩ := List.mem_map.mp hmem
      exact ⟨d.rule_stateless (hstateless d hd) .machine,
        d.rule_anchored (hstateless d hd) .machine x.text⟩
    · intro tokens c hdrains
      obtain ⟨htokens, hcursor, hbench⟩ := (x.tokens_drains b).unique hdrains
      exact Prod.ext htokens (Prod.ext hcursor hbench)

theorem added_rules_keep_tokens_ab :
    let t : Text := #[97, 98, 33]
    let ab : Definition := ⟨.int 1, .keyword 0 #[97, 98]⟩
    let mark : Definition := ⟨.int 2, .keyword 1 #[33]⟩
    let a : Definition := ⟨.int 3, .keyword 2 #[97]⟩
    let first : Token := ⟨0, .int 1, #[97, 98]⟩
    (∀ d ∈ [ab, mark, a], d.matcher.isStateless = true) ∧
    (∀ p : Nat, p ≤ t.size → a.rule.Offers t p →
      ∃ earlier ∈ [ab.rule], earlier.Offers t p) ∧
    ([first] <+: [first, ⟨2, .int 2, #[33]⟩] ∧
      ((Scanner.mk [ab, mark] t).tokens .empty).1 =
        .ok [first, ⟨2, .int 2, #[33]⟩]) ∧
    ∃ c c', (Scanner.mk [ab] t).tokens .empty = (.ok [first], c, .empty) ∧
      (Scanner.mk [ab, a] t).tokens .empty = (.ok [first], c', .empty) ∧
      c'.observed = c.observed := by
  intro t ab mark a first
  obtain ⟨happend, hinsert, hscanner⟩ := added_rules_keep_tokens
  have hstateless : ∀ d ∈ [ab, mark, a], d.matcher.isStateless = true := by
    decide
  have hab : ((Scanner.mk [ab] t).tokens .empty).1 = .ok [first] := by rfl
  have hmark : ((Scanner.mk [ab, mark] t).tokens .empty).1 =
      .ok [first, ⟨2, .int 2, #[33]⟩] := by rfl
  have hshadowed : ∀ p : Nat, p ≤ t.size → a.rule.Offers t p →
      ∃ earlier ∈ [ab.rule], earlier.Offers t p := by
    intro p hp hoffers
    have helsewhere : ∀ p : Nat, p ≤ 3 → p ≠ 0 →
        Matcher.keywordAt #[97] t p = none := by
      decide
    have hzero : p = 0 := by
      by_contra hne
      obtain ⟨s, v, s', hask, _⟩ := hoffers
      have hword : Matcher.keywordAt #[97] t p = some v :=
        Except.ok.inj (congrArg Prod.fst hask)
      rw [helsewhere p hp hne] at hword
      cases hword
    subst hzero
    exact ⟨ab.rule, List.mem_singleton_self _, .empty, #[97, 98], .empty, rfl,
      by simp⟩
  obtain ⟨_, hsingle⟩ := hscanner ⟨[ab], t⟩ .empty (by decide)
  obtain ⟨hmarked, hboth⟩ := hscanner ⟨[ab, mark], t⟩ .empty (by decide)
  obtain ⟨hshort, hpair⟩ := hscanner ⟨[ab, a], t⟩ .empty (by decide)
  obtain ⟨tokens, tokens', c, c', hdrains, hdrains', hfirst, _⟩ :=
    happend _ _ t [ab.rule] [mark.rule] Bench.empty hmarked
  rw [hsingle tokens c hdrains] at hab
  rw [hboth tokens' c' hdrains'] at hmark
  cases hab
  cases hmark
  obtain ⟨tokens, d, d', hdrains₁, hdrains₂, hobserved⟩ :=
    hinsert _ _ t [ab.rule] [] a.rule Bench.empty hshort (.inr hshadowed)
  obtain ⟨htokens, _, _⟩ := hdrains₁.unique hdrains
  cases htokens
  refine ⟨hstateless, hshadowed, ⟨hfirst, ?_⟩, d, d', hsingle _ d hdrains₁,
    hpair _ d' hdrains₂, hobserved⟩
  rw [hboth _ c' hdrains']

end FirstMatch
