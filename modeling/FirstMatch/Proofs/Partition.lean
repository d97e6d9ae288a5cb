import FirstMatch.Proofs.Budget
import Mathlib.Algebra.GroupWithZero.Nat
import Mathlib.Data.List.Chain

/-!
# Tokens partition the front of a text

A rule is anchored on a text if, asked at a place of the text, it answers with nothing or
with a part that starts exactly there.  Tokens of anchored rules stand one right behind the
other, and each of them takes the cursor nearer to the end of the text.
-/

namespace FirstMatch

variable {ε σ : Type}

namespace Text

theorem join_empty_cons (a : Text) (rest : List Text) :
    join #[] (a :: rest) = a ++ join #[] rest := by
  have hfold : ∀ (x y : Text) (l : List Text),
      l.foldl (fun joined u => joined ++ #[] ++ u) (x ++ y) =
        x ++ l.foldl (fun joined u => joined ++ #[] ++ u) y := by
    intro x y l
    induction l generalizing y with
    | nil => rfl
    | cons z l ih => simpa [Array.append_assoc] using ih (y ++ z)
  cases rest with
  | nil => simp [join]
  | cons b rest =>
      simpa [join] using hfold a b rest

theorem slice_append_slice
    (t : Text) {i j k : Nat} (hij : i ≤ j) (hjk : j ≤ k) :
    t.slice i j ++ t.slice j k = t.slice i k := by
  unfold slice
  rw [Array.extract_append_extract, Nat.min_eq_left hij, Nat.max_eq_right hjk]

theorem size_slice (t : Text) {i j : Nat} (hj : j ≤ t.size) :
    (t.slice i j).size = j - i := by
  unfold slice
  rw [Array.size_extract, Nat.min_eq_left hj]

theorem slice_within
    {t : Text} {i j : Nat} (hne : t.slice i j ≠ #[]) :
    ∃ k, i < k ∧ k ≤ t.size ∧ t.slice i j = t.slice i k := by
  have hlt := Array.lt_of_extract_ne_empty hne
  refine ⟨min j t.size, hlt, Nat.min_le_right _ _, ?_⟩
  unfold slice
  rw [Array.extract_eq_extract_right]
  omega

end Text

/-! ## Tokens without gaps -/

inductive Token.Tiles (t : Text) : Nat → List Token → Nat → Prop
  | nil (p : Nat) : Tiles t p [] p
  | cons {p q r : Nat} {a : Token} {rest : List Token}
      (hindex : a.index = p) (hvalue : a.value = t.slice p q)
      (hlt : p < q) (hle : q ≤ t.size) (hrest : Tiles t q rest r) :
      Tiles t p (a :: rest) r

namespace Token.Tiles

variable {t : Text} {p q : Nat} {tokens : List Token}

theorem stop_eq
    {a : Token} (hindex : a.index = p) (hvalue : a.value = t.slice p q)
    (hlt : p < q) (hle : q ≤ t.size) :
    a.stop = q := by
  unfold Token.stop
  rw [hindex, hvalue, t.size_slice hle]
  omega

theorem le (h : Tiles t p tokens q) : p ≤ q := by
  induction h with
  | nil => exact Nat.le_refl _
  | cons _ _ hlt _ _ ih => omega

theorem le_size (h : Tiles t p tokens q) (hp : p ≤ t.size) : q ≤ t.size := by
  induction h with
  | nil => exact hp
  | cons _ _ _ hle _ ih => exact ih hle

theorem index_head (h : Tiles t p tokens q) :
    ∀ a ∈ tokens.head?, a.index = p := by
  intro a ha
  cases h with
  | nil => simp at ha
  | cons hindex _ _ _ _ =>
      simp only [List.head?_cons, Option.mem_def, Option.some.injEq] at ha
      rw [← ha]
      exact hindex

theorem isChain (h : Tiles t p tokens q) :
    tokens.IsChain fun a b => b.index = a.stop := by
  induction h with
  | nil => exact .nil
  | cons hindex hvalue hlt hle hrest ih =>
      have hstop := stop_eq hindex hvalue hlt hle
      cases hrest with
      | nil => exact .singleton _
      | cons hindex' _ _ _ _ =>
          refine .cons_cons ?_ ih
          rw [hstop]
          exact hindex'

theorem value_ne (h : Tiles t p tokens q) :
    ∀ a ∈ tokens, a.value ≠ #[] := by
  induction h with
  | nil => simp
  | @cons p q _ _ _ _ hvalue hlt hle _ ih =>
      intro a ha
      rcases List.mem_cons.mp ha with rfl | hmem
      · have hsize : (t.slice p q).size = q - p := t.size_slice hle
        rw [← hvalue] at hsize
        intro hempty
        rw [hempty, Array.size_empty] at hsize
        omega
      · exact ih a hmem

theorem value_eq (h : Tiles t p tokens q) :
    ∀ a ∈ tokens, ∃ i : Nat, a.index = i ∧
      a.value = t.slice i (i + a.value.size) := by
  induction h with
  | nil => simp
  | @cons p q _ a _ hindex hvalue hlt hle _ ih =>
      intro b hb
      rcases List.mem_cons.mp hb with rfl | hb
      · refine ⟨p, hindex, ?_⟩
        rw [hvalue, t.size_slice hle, Nat.add_sub_of_le (Nat.le_of_lt hlt)]
      · exact ih b hb

theorem join_values (h : Tiles t p tokens q) :
    Text.join #[] (tokens.map (·.value)) = t.slice p q := by
  induction h with
  | nil p =>
      have hempty : t.slice p p = #[] :=
        Array.extract_eq_empty_of_le (Nat.min_le_left _ _)
      rw [hempty]
      rfl
  | cons _ hvalue hlt hle hrest ih =>
      rw [List.map_cons, Text.join_empty_cons, ih, hvalue]
      exact t.slice_append_slice (Nat.le_of_lt hlt) hrest.le

theorem sum_sizes (h : Tiles t p tokens q) :
    p + (tokens.map (·.value.size)).sum = q := by
  induction h with
  | nil => simp
  | cons _ hvalue hlt hle _ ih =>
      rw [List.map_cons, List.sum_cons, hvalue, t.size_slice hle]
      omega

theorem le_index (h : Tiles t p tokens q) :
    ∀ a ∈ tokens, (p : Int) ≤ a.index := by
  induction h with
  | nil => simp
  | cons hindex _ hlt _ _ ih =>
      intro a ha
      rcases List.mem_cons.mp ha with rfl | hmem
      · omega
      · have hle := ih a hmem
        omega

theorem pairwise_index (h : Tiles t p tokens q) :
    tokens.Pairwise fun a b => a.index < b.index := by
  induction h with
  | nil => exact .nil
  | cons hindex _ hlt _ hrest ih =>
      refine .cons ?_ ih
      intro b hb
      have hle := hrest.le_index b hb
      omega

end Token.Tiles

/-! ## Anchored rules -/

/-- Asked at a place of `t`, the rule answers with nothing or with a part of `t`
that starts exactly there, whatever the state. -/
def Rule.Anchored (t : Text) (rule : Rule ε σ) : Prop :=
  ∀ (p : Nat) (s : σ), p ≤ t.size →
    ∃ answer s', rule.ask t p s = (.ok answer, s') ∧
      ∀ v, answer = some v → ∃ k, v = t.slice p (p + k)

namespace Rule.Answers

theorem not_error_of_ask
    {t : Text} {rules : List (Rule ε σ)} {p : Int} {s s' : σ}
    (hrules : ∀ rule ∈ rules, ∀ s, ∃ answer s', rule.ask t p s = (.ok answer, s'))
    {e : ε} :
    ¬ Answers t p rules s (.error e) s' := by
  intro h
  cases h with
  | @refused before _ rule _ s₁ _ _ _ hask =>
      obtain ⟨answer, s₂, hok⟩ :=
        hrules rule (List.mem_append_right _ List.mem_cons_self) s₁
      rw [hask] at hok
      cases hok

variable {t : Text} {rules : List (Rule ε σ)} {p : Nat} {s s' : σ}

theorem not_error
    (hrules : ∀ rule ∈ rules, rule.Anchored t) (hp : p ≤ t.size) {e : ε} :
    ¬ Answers t p rules s (.error e) s' := by
  apply not_error_of_ask
  intro rule hmem u
  obtain ⟨answer, u', hask, _⟩ := hrules rule hmem p u hp
  exact ⟨answer, u', hask⟩

theorem exists_slice
    (hrules : ∀ rule ∈ rules, rule.Anchored t) (hp : p ≤ t.size)
    {kind : Datum} {v : Text}
    (h : Answers t p rules s (.ok (some (kind, v))) s') :
    ∃ q, p < q ∧ q ≤ t.size ∧ v = t.slice p q := by
  cases h with
  | @found before _ rule _ s₁ _ _ _ hask hne =>
      have hrule := hrules rule (List.mem_append_right _ List.mem_cons_self)
      obtain ⟨answer, s₂, hok, hslice⟩ := hrule p s₁ hp
      rw [hask] at hok
      cases hok
      obtain ⟨k, rfl⟩ := hslice v rfl
      exact Text.slice_within hne

end Rule.Answers

namespace Cursor

structure Live (source : Source ε σ) (p : Nat) (c : Cursor ε σ) : Prop where
  source_eq : c.source = some source
  not_exhausted : c.exhausted = false
  position_eq : c.position = p

def stopped (source : Source ε σ) (q : Nat) : Cursor ε σ where
  source := some source
  position := q
  current := none
  exhausted := true

variable {source : Source ε σ} {c : Cursor ε σ} {p : Nat}

/-- A step of a cursor with anchored rules makes a token that starts at the
cursor and moves behind it, or every rule declines. -/
theorem Live.step
    (hrules : ∀ rule ∈ source.rules, rule.Anchored source.text)
    (hlive : c.Live source p) (hp : p ≤ source.text.size) (s : σ) :
    (∃ a q c' s', c.step s = (.ok (some a), c', s') ∧ a.index = p ∧
      a.value = source.text.slice p q ∧ p < q ∧ q ≤ source.text.size ∧
      c'.Live source q) ∨
    ∃ s', c.step s = (.ok none, stopped source p, s') ∧
      Rule.AllDecline source.text p source.rules s s' := by
  obtain ⟨hsource, hexhausted, hposition⟩ := hlive
  cases hstep : c.step s with
  | mk r next =>
      obtain ⟨c', s'⟩ := next
      have hsteps := Steps.of_step hstep
      cases hsteps with
      | idle h => simp [hsource, hexhausted] at h
      | refused hsource' _ hanswers =>
          rw [hsource] at hsource'
          cases hsource'
          rw [hposition] at hanswers
          exact absurd hanswers (Rule.Answers.not_error hrules hp)
      | exhausted hsource' _ hanswers =>
          rw [hsource] at hsource'
          cases hsource'
          rw [hposition] at hanswers
          right
          refine ⟨s', ?_, hanswers.allDecline⟩
          simp [stopped, hsource, hposition]
      | @token _ kind v _ hsource' _ hanswers =>
          rw [hsource] at hsource'
          cases hsource'
          rw [hposition] at hanswers
          obtain ⟨q, hlt, hle, rfl⟩ := hanswers.exists_slice hrules hp
          left
          refine ⟨_, q, _, s', rfl, hposition, rfl, hlt, hle, hsource,
            hexhausted, ?_⟩
          simp only [hposition, source.text.size_slice hle]
          omega

/-- A cursor with anchored rules can be drained.  Its tokens leave no gap, and it
stops where every rule declines. -/
theorem Live.drains
    (hrules : ∀ rule ∈ source.rules, rule.Anchored source.text)
    (hlive : c.Live source p) (hp : p ≤ source.text.size) (s : σ) :
    ∃ tokens q s₁ s', c.Drains s (.ok tokens) (stopped source q) s' ∧
      Token.Tiles source.text p tokens q ∧
      Rule.AllDecline source.text q source.rules s₁ s' := by
  -- every token leaves less of the text in front of the cursor
  induction hleft : source.text.size - p using Nat.strongRecOn
    generalizing c p s with
  | ind left ih =>
      rcases hlive.step hrules hp s with
        ⟨a, q, c', s', hstep, hindex, hvalue, hlt, hle, hlive'⟩ |
        ⟨s', hstep, hall⟩
      · obtain ⟨tokens, r, s₁, s₂, hdrains, htiles, hall⟩ :=
          ih (source.text.size - q) (by omega) hlive' hle s' rfl
        exact ⟨a :: tokens, r, s₁, s₂, .token hstep hdrains,
          .cons hindex hvalue hlt hle htiles, hall⟩
      · exact ⟨[], p, s, s', .finished hstep, .nil p, hall⟩

theorem Drains.kind_mem
    {c' : Cursor ε σ} {s s' : σ} {r : Except (Failure ε) (List Token)}
    (h : c.Drains s r c' s') (hsource : c.source = some source)
    {tokens : List Token} (hr : r = .ok tokens) :
    ∀ a ∈ tokens, ∃ rule ∈ source.rules, a.kind = rule.kind := by
  induction h generalizing tokens with
  | finished =>
      cases hr
      simp
  | failed => cases hr
  | @token _ _ _ _ _ _ a r hstep _ ih =>
      cases r with
      | error e => cases hr
      | ok rest =>
          cases hr
          have hsteps := Steps.of_step hstep
          intro b hb
          rcases List.mem_cons.mp hb with rfl | hb
          · cases hsteps with
            | @token source' _ _ _ hsource' _ hanswers =>
                rw [hsource] at hsource'
                cases hsource'
                generalize hrules : source.rules = rules at hanswers ⊢
                cases hanswers with
                | found before _ _ _ => exact ⟨_, by simp, rfl⟩
          · exact ih (hsteps.source_eq.trans hsource) rfl b hb

theorem start_live (source : Source ε σ) :
    (start source).Live source 0 :=
  ⟨rfl, rfl, rfl⟩

structure Partitions (t : Text) (tokens : List Token) (c : Cursor ε σ) : Prop where
  first_index : ∀ a ∈ tokens.head?, a.index = 0
  next_index : tokens.IsChain fun a b => b.index = a.stop
  value_ne : ∀ a ∈ tokens, a.value ≠ #[]
  values : Text.join #[] (tokens.map (·.value)) = t.slice 0 c.position.toNat
  exhausted : c.exhausted = true
  current : c.current = none
  position : c.position = (tokens.map (·.value.size)).sum
  position_le : c.position ≤ t.size
  reachedEnd :
    c.reachedEnd = true ↔ Text.join #[] (tokens.map (·.value)) = t

theorem stopped_partitions
    {tokens : List Token} {q : Nat}
    (h : Token.Tiles source.text 0 tokens q) :
    Partitions source.text tokens (stopped source q) := by
  have hle : q ≤ source.text.size := h.le_size (Nat.zero_le _)
  have hsum := h.sum_sizes
  have hjoin := h.join_values
  refine {
    first_index := h.index_head
    next_index := h.isChain
    value_ne := h.value_ne
    values := hjoin
    exhausted := rfl
    current := rfl
    position := ?_
    position_le := ?_
    reachedEnd := ?_ }
  · show (q : Int) = _
    omega
  · show (q : Int) ≤ _
    omega
  · rw [hjoin]
    have hreached : (stopped source q).reachedEnd = true ↔
        q = source.text.size := by
      unfold reachedEnd stopped
      simp only [Bool.true_and, beq_iff_eq]
      exact Int.ofNat_inj
    rw [hreached]
    constructor
    · rintro rfl
      exact Array.extract_size
    · intro hslice
      have hsize := source.text.size_slice (i := 0) hle
      rw [hslice] at hsize
      omega

end Cursor

theorem Definition.rule_anchored
    {d : Definition} (h : d.matcher.isStateless = true) (starts : Starts) (t : Text) :
    (d.rule starts).Anchored t := by
  intro p b hp
  obtain ⟨kind, matcher⟩ := d
  cases matcher with
  | pattern q =>
      refine ⟨q.matchAt t p, b,
        Matcher.ask_pattern_of_takes (starts.takes_place t hp), ?_⟩
      intro v hv
      unfold Pattern.matchAt at hv
      rw [Text.clamp_of_le hp] at hv
      obtain ⟨stop, _, rfl⟩ := Option.map_eq_some_iff.mp hv
      refine ⟨stop - p, ?_⟩
      unfold Text.slice
      rw [Array.extract_eq_extract_right]
      omega
  | keyword identity word =>
      refine ⟨Matcher.keywordAt word t p, b, rfl, ?_⟩
      intro v hv
      obtain ⟨_, hslice⟩ := Matcher.slice_of_keywordAt hv
      rw [Matcher.keywordPlace_place] at hslice
      exact ⟨v.size, hslice⟩
  | scripted identity name => simp [Matcher.isStateless] at h

theorem Scanner.tokens_tiles
    {x : Scanner} (h : ∀ d ∈ x.definitions, d.matcher.isStateless = true)
    (b : Bench) :
    ∃ tokens q c b', x.tokens b = (.ok tokens, c, b') ∧
      Token.Tiles x.text 0 tokens q ∧
      ∀ a ∈ tokens, ∃ d ∈ x.definitions, a.kind = d.kind := by
  let source : Source Refusal Bench := ⟨x.definitions.map (·.rule), x.text⟩
  have hrules : ∀ rule ∈ source.rules, rule.Anchored source.text := by
    intro rule hmem
    obtain ⟨d, hd, rfl⟩ := List.mem_map.mp hmem
    exact d.rule_anchored (h d hd) .machine source.text
  obtain ⟨tokens, q, _, b', hdrains, htiles, _⟩ :=
    (Cursor.start_live source).drains hrules (Nat.zero_le _) b
  obtain ⟨htokens, hcursor, hbench⟩ := hdrains.unique (x.tokens_drains b)
  refine ⟨tokens, q, _, b', Prod.ext htokens.symm
    (Prod.ext hcursor.symm hbench.symm), htiles, ?_⟩
  intro a ha
  obtain ⟨rule, hmem, hkind⟩ := hdrains.kind_mem rfl rfl a ha
  obtain ⟨d, hd, rfl⟩ := List.mem_map.mp hmem
  exact ⟨d, hd, hkind⟩

/-- Whatever the anchored rules, a new cursor can be drained: its tokens partition the front of
the text, and it stops where every rule declines.  The rules of patterns and keywords are
anchored. -/
theorem drain_partitions_text :
    (∀ (ε σ : Type) (source : Source ε σ) (s : σ),
      (∀ rule ∈ source.rules, rule.Anchored source.text) →
      ∃ tokens c s₁ s',
        (Cursor.start source).Drains s (.ok tokens) c s' ∧
        c.Partitions source.text tokens ∧
        Rule.AllDecline source.text c.position source.rules s₁ s') ∧
    (∀ (d : Definition) (starts : Starts) (t : Text),
      d.matcher.isStateless = true → (d.rule starts).Anchored t) ∧
    ∀ (x : Scanner) (b : Bench),
      x.cursor.Drains b (x.tokens b).1 (x.tokens b).2.1 (x.tokens b).2.2 := by
  refine ⟨?_, ?_, ?_⟩
  · intro ε σ source s hrules
    obtain ⟨tokens, q, s₁, s', hdrains, htiles, hall⟩ :=
      (Cursor.start_live source).drains hrules (Nat.zero_le _) s
    exact ⟨tokens, .stopped source q, s₁, s', hdrains,
      Cursor.stopped_partitions htiles, hall⟩
  · intro d starts t hstateless
    exact d.rule_anchored hstateless starts t
  · intro x b
    exact x.tokens_drains b

theorem drain_partitions_text_abab :
    let x : Scanner :=
      ⟨[⟨.int 1, .keyword 0 #[]⟩, ⟨.int 2, .keyword 1 #[97, 98]⟩],
        #[97, 98, 97, 98, 33]⟩
    (∀ rule ∈ x.definitions.map (·.rule), rule.Anchored x.text) ∧
    (x.tokens .empty).2.1.Partitions x.text
      [⟨0, .int 2, #[97, 98]⟩, ⟨2, .int 2, #[97, 98]⟩] ∧
    (x.tokens .empty).2.1.reachedEnd = false := by
  intro x
  have hrules : ∀ rule ∈ x.definitions.map (·.rule), rule.Anchored x.text := by
    intro rule hmem
    obtain ⟨d, hd, rfl⟩ := List.mem_map.mp hmem
    have hstateless : ∀ d ∈ x.definitions, d.matcher.isStateless = true := by
      decide
    exact drain_partitions_text.2.1 d .machine x.text (hstateless d hd)
  obtain ⟨tokens, c, s₁, s', hdrains, hpartitions, _⟩ :=
    drain_partitions_text.1 _ _ ⟨x.definitions.map (·.rule), x.text⟩
      Bench.empty hrules
  obtain ⟨htokens, hcursor, _⟩ :=
    hdrains.unique (drain_partitions_text.2.2 x Bench.empty)
  have hrun : (x.tokens .empty).1 =
      .ok [⟨0, .int 2, #[97, 98]⟩, ⟨2, .int 2, #[97, 98]⟩] := by rfl
  rw [hrun] at htokens
  cases htokens
  rw [← hcursor]
  refine ⟨hrules, hpartitions, ?_⟩
  rw [hcursor]
  rfl

end FirstMatch
