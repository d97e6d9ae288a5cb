import FirstMatch.Proofs.Walk

/-!
# Cursors at any position

The position of a cursor can be assigned, and nothing keeps it inside of the text.  A
pattern that is asked outside of the text looks at the nearest end.  Still no token takes a
cursor beyond the end of the text, so the distance to the end bounds the number of tokens.
An engine that takes the assigned position takes all those that the cursor comes to.
-/

namespace FirstMatch

variable {ε σ : Type}

/-- Asked at `p`, which need not be a place of `t`, the rule answers.  Counted from `p`,
a non-empty answer ends no later than `t` does. -/
def Rule.Confined (t : Text) (p : Int) (rule : Rule ε σ) : Prop :=
  ∀ s, ∃ answer s', rule.ask t p s = (.ok answer, s') ∧
    ∀ v, answer = some v → v ≠ #[] → p + v.size ≤ t.size

inductive Token.Abut : Int → List Token → Int → Prop
  | nil (p : Int) : Abut p [] p
  | cons {p q : Int} {a : Token} {rest : List Token} (hindex : a.index = p)
      (hne : a.value ≠ #[]) (hrest : Abut a.stop rest q) : Abut p (a :: rest) q

namespace Token.Abut

variable {p q : Int} {tokens : List Token}

theorem length_le (h : Abut p tokens q) : p + tokens.length ≤ q := by
  induction h with
  | nil => simp
  | @cons p q a rest hindex hne _ ih =>
      have hsize : 0 < a.value.size := Array.size_pos_iff.mpr hne
      have hstop : a.stop = a.index + a.value.size := rfl
      simp only [List.length_cons]
      omega

theorem index_head (h : Abut p tokens q) : ∀ a ∈ tokens.head?, a.index = p := by
  intro a ha
  cases h with
  | nil => simp at ha
  | cons hindex =>
      simp only [List.head?_cons, Option.mem_def, Option.some.injEq] at ha
      rw [← ha]
      exact hindex

theorem isChain (h : Abut p tokens q) :
    tokens.IsChain fun a b => b.index = a.stop := by
  induction h with
  | nil => exact .nil
  | cons _ _ hrest ih =>
      cases hrest with
      | nil => exact .singleton _
      | cons hindex => exact .cons_cons hindex ih

end Token.Abut

/-! ## Patterns and keywords -/

theorem Text.add_size_slice_clamp_le
    {t : Text} {p : Int} {j : Nat} (hne : t.slice (t.clamp p) j ≠ #[]) :
    p + (t.slice (t.clamp p) j).size ≤ t.size := by
  have hlt : p < t.size := lt_size_of_slice_clamp_ne hne
  have hsize : (t.slice (t.clamp p) j).size = min j t.size - t.clamp p :=
    Array.size_extract
  have hclamp : t.clamp p = p.toNat := by
    unfold clamp
    omega
  omega

theorem Definition.rule_confined
    {d : Definition} (h : d.matcher.isStateless = true) {starts : Starts} {t : Text}
    {p : Int} (htakes : starts.takes t p = true) :
    (d.rule starts).Confined t p := by
  intro b
  obtain ⟨kind, matcher⟩ := d
  cases matcher with
  | pattern q =>
      refine ⟨q.matchAt t p, b, Matcher.ask_pattern_of_takes htakes, ?_⟩
      intro v hv hne
      unfold Pattern.matchAt at hv
      obtain ⟨stop, _, rfl⟩ := Option.map_eq_some_iff.mp hv
      exact Text.add_size_slice_clamp_le hne
  | keyword identity word =>
      refine ⟨Matcher.keywordAt word t p, b, rfl, ?_⟩
      intro v hv hne
      obtain ⟨_, hslice⟩ := Matcher.slice_of_keywordAt hv
      have hsize : v.size ≤ t.size - Matcher.keywordPlace t p := by
        rw [hslice]
        unfold Text.slice
        rw [Array.size_extract]
        omega
      have hpos : 0 < v.size := Array.size_pos_iff.mpr hne
      have hplace := Matcher.le_keywordPlace t p
      omega
  | scripted identity name => simp [Matcher.isStateless] at h

/-! ## One token and all tokens -/

namespace Rule.Answers

variable {t : Text} {rules : List (Rule ε σ)} {p : Int} {s s' : σ}

theorem not_error_of_confined
    (hrules : ∀ rule ∈ rules, rule.Confined t p) {e : ε} :
    ¬ Answers t p rules s (.error e) s' := by
  apply not_error_of_ask
  intro rule hmem u
  obtain ⟨answer, u', hask, _⟩ := hrules rule hmem u
  exact ⟨answer, u', hask⟩

theorem add_size_le
    (hrules : ∀ rule ∈ rules, rule.Confined t p) {kind : Datum} {v : Text}
    (h : Answers t p rules s (.ok (some (kind, v))) s') :
    p + v.size ≤ t.size := by
  cases h with
  | @found before _ rule _ s₁ _ _ _ hask hne =>
      have hrule := hrules rule (List.mem_append_right _ List.mem_cons_self)
      obtain ⟨answer, s₂, hok, hle⟩ := hrule s₁
      rw [hask] at hok
      cases hok
      exact hle v rfl hne

end Rule.Answers

namespace Cursor

variable {source : Source ε σ} {c : Cursor ε σ}

theorem step_of_confined
    (hrules : ∀ rule ∈ source.rules, rule.Confined source.text c.position)
    (hsource : c.source = some source) (hlive : c.exhausted = false) (s : σ) :
    (∃ a c' s', c.step s = (.ok (some a), c', s') ∧ a.index = c.position ∧
      a.value ≠ #[] ∧ a.stop ≤ source.text.size ∧ c'.position = a.stop ∧
      c'.source = some source ∧ c'.exhausted = false) ∨
    ∃ c' s', c.step s = (.ok none, c', s') ∧ c'.position = c.position ∧
      c'.exhausted = true := by
  cases hstep : c.step s with
  | mk r next =>
      obtain ⟨c', s'⟩ := next
      cases Steps.of_step hstep with
      | idle h => simp [hsource, hlive] at h
      | refused hsource' _ hanswers =>
          rw [hsource] at hsource'
          cases hsource'
          exact absurd hanswers (Rule.Answers.not_error_of_confined hrules)
      | exhausted => exact .inr ⟨_, s', rfl, rfl, rfl⟩
      | @token _ kind v _ hsource' _ hanswers =>
          rw [hsource] at hsource'
          cases hsource'
          have hle : c.position + v.size ≤ source.text.size :=
            hanswers.add_size_le hrules
          exact .inl ⟨_, _, s', rfl, rfl, hanswers.ne_empty, hle, rfl, hsource, hlive⟩

theorem drains_of_confined
    (hrules : ∀ rule ∈ source.rules, ∀ q, c.position ≤ q →
      q ≤ max c.position source.text.size → rule.Confined source.text q)
    (hsource : c.source = some source) (hlive : c.exhausted = false) (s : σ) :
    ∃ tokens c' s', c.Drains s (.ok tokens) c' s' ∧
      Token.Abut c.position tokens c'.position ∧
      c'.position ≤ max c.position source.text.size ∧ c'.exhausted = true := by
  -- the way to the end of the text gets shorter, also from outside of the text
  induction hway : ((source.text.size : Int) - c.position).toNat using Nat.strongRecOn
    generalizing c s with
  | ind way ih =>
      have hhere : ∀ rule ∈ source.rules, rule.Confined source.text c.position :=
        fun rule hmem => hrules rule hmem c.position (by omega) (by omega)
      rcases step_of_confined hhere hsource hlive s with
        ⟨a, c₁, s₁, hstep, hindex, hne, hstop, hposition, hsource₁, hlive₁⟩ |
        ⟨c', s', hstep, hposition, hexhausted⟩
      · have hsize : 0 < a.value.size := Array.size_pos_iff.mpr hne
        have hlength : a.stop = a.index + a.value.size := rfl
        have hrest : ∀ rule ∈ source.rules, ∀ q, c₁.position ≤ q →
            q ≤ max c₁.position source.text.size → rule.Confined source.text q :=
          fun rule hmem q hle hge => hrules rule hmem q (by omega) (by omega)
        obtain ⟨tokens, c', s', hdrains, habut, hle, hexhausted⟩ :=
          ih _ (by omega) hrest hsource₁ hlive₁ s₁ rfl
        rw [hposition] at habut
        exact ⟨a :: tokens, c', s', .token hstep hdrains, .cons hindex hne habut,
          by omega, hexhausted⟩
      · refine ⟨[], c', s', .finished hstep, ?_, by omega, hexhausted⟩
        rw [hposition]
        exact .nil c.position

structure Reaches (t : Text) (p : Int) (tokens : List Token) (c : Cursor ε σ) :
    Prop where
  length_le : tokens.length ≤ ((t.size : Int) - p).toNat
  first_index : ∀ a ∈ tokens.head?, a.index = p
  next_index : tokens.IsChain fun a b => b.index = a.stop
  le_position : p ≤ c.position
  position_le : c.position ≤ max p t.size
  exhausted : c.exhausted = true

theorem drains_moveTo
    {p : Int} (hrules : ∀ rule ∈ source.rules, ∀ q, p ≤ q →
      q ≤ max p source.text.size → rule.Confined source.text q)
    (hsource : c.source = some source) (hlive : c.exhausted = false) (s : σ) :
    ∃ tokens c' s', (c.moveTo p).Drains s (.ok tokens) c' s' ∧
      c'.Reaches source.text p tokens := by
  obtain ⟨tokens, c', s', hdrains, habut, hle, hexhausted⟩ :=
    drains_of_confined (c := c.moveTo p) hrules hsource hlive s
  change Token.Abut p tokens c'.position at habut
  change c'.position ≤ max p source.text.size at hle
  have hlength := habut.length_le
  refine ⟨tokens, c', s', hdrains, ?_⟩
  exact {
    length_le := by omega
    first_index := habut.index_head
    next_index := habut.isChain
    le_position := by omega
    position_le := hle
    exhausted := hexhausted }

end Cursor

/-- A cursor that is neither exhausted nor released can be drained from any position that is
assigned to it.  From there on the rules need not do more than end their answers with the text,
which those of patterns and keywords do where the engine takes the start.  With an engine that
takes all starts, scanners that have only these can be drained from every position. -/
theorem drain_from_any_position :
    (∀ (ε σ : Type) (source : Source ε σ) (c : Cursor ε σ) (p : Int) (s : σ),
      (∀ rule ∈ source.rules, ∀ q, p ≤ q → q ≤ max p source.text.size →
        rule.Confined source.text q) →
      c.source = some source → c.exhausted = false →
      ∃ tokens c' s', (c.moveTo p).Drains s (.ok tokens) c' s' ∧
        c'.Reaches source.text p tokens) ∧
    (∀ (d : Definition) (starts : Starts) (t : Text) (p : Int),
      d.matcher.isStateless = true → starts.takes t p = true →
      (d.rule starts).Confined t p) ∧
    ∀ (x : Scanner) (starts : Starts) (c : Cursor Refusal Bench) (p : Int) (b b' : Bench)
      (moves : List Move) (stops : List (Cursor Refusal Bench × Bench))
      (made : List Token),
      (∀ d ∈ x.definitions, d.matcher.isStateless = true) →
      (x.cursor starts).Walks b moves stops made c b' →
      c.isReleased = false → c.exhausted = false → starts.takes x.text p = true →
      ∃ tokens c', (c.moveTo p).drain b' = (.ok tokens, c', b') ∧
        c'.Reaches x.text p tokens := by
  refine ⟨?_, fun d starts t p h htakes => d.rule_confined h htakes, ?_⟩
  · intro ε σ source c p s hrules hsource hlive
    exact Cursor.drains_moveTo hrules hsource hlive s
  · intro x starts c p b b' moves stops made hstateless hwalks hreleased hlive htakes
    let source : Source Refusal Bench := ⟨x.definitions.map (·.rule starts), x.text⟩
    have hrule : ∀ rule ∈ source.rules, ∃ d ∈ x.definitions, rule = d.rule starts := by
      intro rule hmem
      obtain ⟨d, hd, rfl⟩ := List.mem_map.mp hmem
      exact ⟨d, hd, rfl⟩
    have hsource : c.source = some source := by
      cases hother : c.source with
      | none => simp [Cursor.isReleased, hother] at hreleased
      | some other => rw [hwalks.reads (Cursor.start_reads source) other hother]
    have hrules : ∀ rule ∈ source.rules, ∀ q, p ≤ q → q ≤ max p source.text.size →
        rule.Confined source.text q := by
      intro rule hmem q hle hge
      obtain ⟨d, hd, rfl⟩ := hrule rule hmem
      exact d.rule_confined (hstateless d hd) (starts.takes_on htakes hle hge)
    have hdefined : (c.moveTo p).Defined := by
      intro other hother rule hmem
      cases hsource.symm.trans hother
      obtain ⟨d, _, rfl⟩ := hrule rule hmem
      exact ⟨d, starts, rfl⟩
    obtain ⟨tokens, c', b₁, hdrains, hreaches⟩ :=
      Cursor.drains_moveTo hrules hsource hlive b'
    have hbench : b₁ = b' := by
      apply hdrains.state_eq
      intro other hother rule hmem
      cases hsource.symm.trans hother
      obtain ⟨d, hd, rfl⟩ := hrule rule hmem
      exact d.rule_stateless (hstateless d hd) starts
    obtain ⟨htokens, hcursor, hlast⟩ :=
      (Cursor.drain_drains hdefined b').unique hdrains
    exact ⟨tokens, c', Prod.ext htokens (Prod.ext hcursor (hlast.trans hbench)),
      hreaches⟩

/-- The letter `a` is found three times, twice because the start of the text is the nearest
place.  An engine that takes all starts finds nothing beyond the largest word. -/
theorem drain_from_any_position_before :
    let p : Pattern :=
      ⟨text "a?", ⟨32⟩, .loop .greedy 0 (some 1) (.char ⟨false, [.point 97], .exact⟩)⟩
    let x : Scanner := ⟨[⟨.int 1, .pattern p⟩], #[97, 98]⟩
    let tokens : List Token :=
      [⟨-2, .int 1, #[97]⟩, ⟨-1, .int 1, #[97]⟩, ⟨0, .int 1, #[97]⟩]
    Pattern.compile (text "a?") .none = .ok p ∧
    (∀ d ∈ x.definitions, d.matcher.isStateless = true) ∧
    x.cursor.isReleased = false ∧ x.cursor.exhausted = false ∧
    (∃ c', (x.cursor.moveTo (-2)).drain .empty = (.ok tokens, c', .empty) ∧
      c'.Reaches x.text (-2) tokens) ∧
    ∃ c', ((x.cursor .all).moveTo 9223372036854775808).drain .empty =
        (.ok [], c', .empty) ∧
      c'.Reaches x.text 9223372036854775808 [] := by
  intro p x tokens
  have hcompile : Pattern.compile (text "a?") .none = .ok p := by rfl
  have hstateless : ∀ d ∈ x.definitions, d.matcher.isStateless = true := by
    intro d hd
    rw [List.mem_singleton.mp hd]
    rfl
  obtain ⟨found, c', hdrain, hreaches⟩ :=
    drain_from_any_position.2.2 x .machine x.cursor (-2) .empty .empty [] [] []
      hstateless (.nil _ _) rfl rfl (by decide)
  have htokens : ((x.cursor.moveTo (-2)).drain .empty).1.toOption = some tokens := by
    decide +kernel
  rw [hdrain] at htokens
  cases htokens
  obtain ⟨beyond, c₁, hbeyond, hreaches₁⟩ :=
    drain_from_any_position.2.2 x .all (x.cursor .all) 9223372036854775808 .empty .empty
      [] [] [] hstateless (.nil _ _) rfl rfl rfl
  have hnone : beyond = [] := List.eq_nil_of_length_eq_zero (Nat.le_zero.mp hreaches₁.length_le)
  subst hnone
  exact ⟨hcompile, hstateless, rfl, rfl, ⟨c', hdrain, hreaches⟩, c₁, hbeyond, hreaches₁⟩

end FirstMatch
