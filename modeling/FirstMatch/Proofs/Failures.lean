import FirstMatch.Proofs.AnyPosition
import FirstMatch.Proofs.Coherence
import FirstMatch.Proofs.Pause

/-!
# When the handling of a cursor fails

There are three causes.  A rule refuses to answer a request, the next token is asked for
and there is none, or a released cursor is to be reset.  Patterns and keywords refuse for
one reason only: the position was put where the engine of the patterns does not start.
-/

namespace FirstMatch

variable {ε σ : Type}

def Operation.isRequest : Operation → Bool
  | advance | next | take _ | drain => true
  | reset | release | enter | exit => false

namespace Cursor

inductive Fails (source : Source ε σ) (c : Cursor ε σ) (s : σ) (c' : Cursor ε σ) (s' : σ) :
    Handling → Failure ε → Prop
  | refused {op : Operation} {rule : Rule ε σ} {e : ε} {s₁ : σ}
      (hop : op.isRequest = true) (hrule : rule ∈ source.rules)
      (hask : rule.ask source.text c'.position s₁ = (.error e, s')) :
      Fails source c s c' s' (.operation op) (.refused e)
  | finished (hstep : c.step s = (.ok none, c', s')) :
      Fails source c s c' s' (.operation .next) .finished
  | released (h : c.isReleased = true) :
      Fails source c s c' s' (.operation .reset) .released

variable {source : Source ε σ} {c c' : Cursor ε σ} {s s' : σ}

/-! ## One handling -/

theorem Asks.fails {op : Operation} {e : ε} {s₁ : σ} (hop : op.isRequest = true)
    (hreads : c'.Reads source) (h : c'.Asks s₁ (.error e) s') :
    Fails source c s c' s' (.operation op) (.refused e) := by
  rcases h with ⟨other, hother, _, hanswers⟩
  have hsource : other = source := hreads other hother
  subst hsource
  generalize hrules : other.rules = rules at hanswers
  cases hanswers with
  | @refused before after rule _ _ _ _ _ hask =>
      have hrule : rule ∈ other.rules := by simp [hrules]
      exact .refused hop hrule hask

theorem Advances.reads {tokens : List Token}
    (h : c.Advances s tokens c' s') (hreads : c.Reads source) :
    c'.Reads source := by
  induction h with
  | nil => exact hreads
  | @cons c _ _ s _ _ _ _ hadvance _ _ ih =>
      have hnext := hreads.advance s
      rw [hadvance] at hnext
      exact ih hnext

theorem advance_eq_error {f : Failure ε} (h : c.advance s = (.error f, c', s')) :
    c.step s = (.error f, c', s') := by
  unfold advance at h
  cases hstep : c.step s with
  | mk r after =>
      rcases after with ⟨c₁, s₁⟩
      cases r with
      | error f' => simpa [hstep, Except.map] using h
      | ok answer => simp [hstep, Except.map] at h

theorem next_eq_error {f : Failure ε} (h : c.next s = (.error f, c', s')) :
    c.step s = (.error f, c', s') ∨ c.step s = (.ok none, c', s') ∧ f = .finished := by
  unfold next at h
  cases hstep : c.step s with
  | mk r after =>
      rcases after with ⟨c₁, s₁⟩
      cases r with
      | error f' => exact .inl (by simpa [hstep] using h)
      | ok answer =>
          cases answer with
          | some a => simp [hstep] at h
          | none =>
              simp only [hstep, Prod.mk.injEq, Except.error.injEq] at h
              rcases h with ⟨rfl, rfl, rfl⟩
              exact .inr ⟨rfl, rfl⟩

theorem error_of_map_eq {α : Type} {reply : α → Reply} {x : Except (Failure ε) α}
    {f : Failure ε} (h : .error f = x.map reply) : x = .error f := by
  cases x with
  | error f' =>
      cases h
      rfl
  | ok a => cases h

/-- A request fails as draining would, or it asks for a next token that there is not. -/
theorem Performs.drains_error {op : Operation} {f : Failure ε} (hop : op.isRequest = true)
    (h : c.Performs s op (.error f) c' s') :
    c.Drains s (.error f) c' s' ∨
      op = .next ∧ f = .finished ∧ c.step s = (.ok none, c', s') := by
  cases op with
  | advance =>
      rcases h with ⟨x, hx, hreply⟩
      rw [error_of_map_eq hreply] at hx
      exact .inl (.failed (advance_eq_error hx))
  | next =>
      rcases h with ⟨x, hx, hreply⟩
      rw [error_of_map_eq hreply] at hx
      rcases next_eq_error hx with hstep | ⟨hstep, hf⟩
      · exact .inl (.failed hstep)
      · exact .inr ⟨rfl, hf, hstep⟩
  | take n =>
      rcases h with ⟨x, hx, hreply⟩
      rw [error_of_map_eq hreply] at hx
      rcases take_eq_error_iff.mp hx with ⟨tokens, s₁, e, _, hrefused⟩
      exact .inl (drains_error_iff.mpr ⟨tokens, s₁, e, hrefused⟩)
  | drain =>
      rcases h with ⟨x, hx, hreply⟩
      rw [error_of_map_eq hreply] at hx
      exact .inl hx
  | reset | release | exit | enter => cases hop

theorem Performs.fails {op : Operation} {f : Failure ε} (hreads : c.Reads source)
    (h : c.Performs s op (.error f) c' s') :
    Fails source c s c' s' (.operation op) f := by
  cases hop : op.isRequest with
  | true =>
      rcases h.drains_error hop with hdrains | ⟨rfl, rfl, hstep⟩
      · rcases drains_error_iff.mp hdrains with ⟨_, _, e, hadvances, hasks, rfl⟩
        exact hasks.fails hop (hadvances.reads hreads)
      · exact .finished hstep
  | false =>
      cases op with
      | reset =>
          rcases h with ⟨x, hx, _, hreply⟩
          rw [error_of_map_eq hreply] at hx
          cases hreleased : c.isReleased with
          | true =>
              rw [reset_of_released hreleased] at hx
              cases hx
              exact .released hreleased
          | false =>
              rw [reset_of_not_released hreleased] at hx
              cases hx
      | release | exit | enter => exact absurd h.2.2 nofun
      | advance | next | take | drain => cases hop

theorem Handles.fails {x : Handling} {f : Failure ε} (hreads : c.Reads source)
    (h : c.Handles s x (.error f) c' s') :
    Fails source c s c' s' x f := by
  cases x with
  | operation op => exact Performs.fails hreads h
  | assign position => exact absurd h.2.2 nofun

/-! ## Many of them -/

theorem Handles.reads {x : Handling} {r : Except (Failure ε) Reply}
    (h : c.Handles s x r c' s') (hreads : c.Reads source) :
    c'.Reads source := by
  rcases walks_of_handles h with ⟨_, _, _, _, hwalks⟩
  exact hwalks.reads hreads

theorem History.reads {xs : List Handling} {rs : List (Except (Failure ε) Reply)}
    (h : c.History s xs rs c' s') (hreads : c.Reads source) :
    c'.Reads source := by
  induction h with
  | nil => exact hreads
  | cons hone _ ih => exact ih (hone.reads hreads)

theorem History.fails {xs : List Handling} {rs : List (Except (Failure ε) Reply)}
    (h : c.History s xs rs c' s') (hreads : c.Reads source) {i : Nat} {x : Handling}
    {f : Failure ε} (hx : xs[i]? = some x) (hr : rs[i]? = some (.error f)) :
    ∃ c₁ s₁ c₂ s₂, c.History s (xs.take i) (rs.take i) c₁ s₁ ∧
      c₁.Handles s₁ x (.error f) c₂ s₂ ∧ Fails source c₁ s₁ c₂ s₂ x f := by
  induction h generalizing i with
  | nil => cases hx
  | @cons c c₁ c' s s₁ s' y ys r rs hone hrest ih =>
      cases i with
      | zero =>
          cases hx
          cases hr
          exact ⟨c, s, c₁, s₁, .nil c s, hone, hone.fails hreads⟩
      | succ i =>
          rcases ih (hone.reads hreads) hx hr with ⟨c₂, s₂, c₃, s₃, hbefore, hfailed⟩
          exact ⟨c₂, s₂, c₃, s₃, .cons hone hbefore, hfailed⟩

end Cursor

/-! ## Starts that the engine does not take -/

theorem Definition.refusal_eq_startTooLarge
    {d : Definition} (h : d.matcher.isStateless = true) {starts : Starts} {t : Text} {p : Int}
    {b b' : Bench} {e : Refusal} (hask : (d.rule starts).ask t p b = (.error e, b')) :
    e = .startTooLarge := by
  rcases d with ⟨kind, matcher⟩
  cases matcher with
  | pattern q =>
      have hanswer := congrArg Prod.fst hask
      simp only [rule, Matcher.ask] at hanswer
      split at hanswer
      · cases hanswer
      · cases hanswer
        rfl
  | keyword identity word => cases hask
  | scripted identity name => cases h

namespace Cursor

variable {x : Scanner} {starts : Starts} {c c' : Cursor Refusal Bench} {b b' : Bench}

theorem Drains.start_of_error
    (hstateless : ∀ d ∈ x.definitions, d.matcher.isStateless = true)
    (hreads : c.Reads ⟨x.definitions.map (·.rule starts), x.text⟩) {f : Failure Refusal}
    (h : c.Drains b (.error f) c' b') :
    c.exhausted = false ∧ c.isReleased = false ∧ starts.takes x.text c.position = false := by
  have hnot : ∀ {tokens : List Token} {d : Cursor Refusal Bench} {b₁ : Bench},
      ¬ c.Drains b (.ok tokens) d b₁ := by
    intro tokens d b₁ hdrains
    cases (h.unique hdrains).1
  have hlive : c.exhausted = false := by
    rw [Bool.eq_false_iff]
    intro hexhausted
    exact hnot (.finished (step_of_exhausted hexhausted b))
  cases hsource : c.source with
  | none => exact absurd (.finished (step_of_released hsource b)) hnot
  | some source =>
      have hsame := hreads source hsource
      subst hsame
      refine ⟨hlive, by simp [isReleased, hsource], ?_⟩
      rw [Bool.eq_false_iff]
      intro htakes
      obtain ⟨tokens, d, b₁, hdrains, _⟩ :=
        drains_of_confined (c := c) (by
          intro rule hmem q hle hge
          rcases List.mem_map.mp hmem with ⟨d, hd, rfl⟩
          exact d.rule_confined (hstateless d hd) (starts.takes_on htakes hle hge))
          hsource hlive b
      exact hnot hdrains

theorem Handles.causes
    (hstateless : ∀ d ∈ x.definitions, d.matcher.isStateless = true)
    (hreads : c.Reads ⟨x.definitions.map (·.rule starts), x.text⟩) {y : Handling}
    {f : Failure Refusal} (h : c.Handles b y (.error f) c' b') :
    y = .operation .next ∧ f = .finished ∨ y = .operation .reset ∧ f = .released ∨
      (∃ op, y = .operation op ∧ op.isRequest = true) ∧ f = .refused .startTooLarge ∧
        c.exhausted = false ∧ c.isReleased = false ∧
        starts.takes x.text c.position = false := by
  cases h.fails hreads with
  | @refused op rule e b₁ hop hrule hask =>
      rcases List.mem_map.mp hrule with ⟨d, hd, rfl⟩
      have hrefusal : e = .startTooLarge := d.refusal_eq_startTooLarge (hstateless d hd) hask
      subst hrefusal
      have hperforms : c.Performs b op (.error (.refused .startTooLarge)) c' b' := h
      rcases hperforms.drains_error hop with hdrains | ⟨_, hfinished, _⟩
      · exact .inr (.inr ⟨⟨op, rfl, hop⟩, rfl, hdrains.start_of_error hstateless hreads⟩)
      · cases hfinished
  | finished => exact .inl ⟨rfl, rfl⟩
  | released => exact .inr (.inl ⟨rfl, rfl⟩)

/-- Where the first definition has a pattern, every request is refused from a start that
is not taken. -/
theorem performs_of_start {kind : Datum} {p : Pattern}
    (hfirst : x.definitions.head? = some ⟨kind, .pattern p⟩)
    (hsource : c.source = some ⟨x.definitions.map (·.rule starts), x.text⟩)
    (hlive : c.exhausted = false) (htakes : starts.takes x.text c.position = false)
    {op : Operation} (hop : op.isRequest = true) (hsome : op ≠ .take 0) :
    c.Performs b op (.error (.refused .startTooLarge)) c b := by
  obtain ⟨rest, hrest⟩ : ∃ rest, x.definitions = ⟨kind, .pattern p⟩ :: rest :=
    List.head?_eq_some_iff.mp hfirst
  have hasks : c.Asks b (.error .startTooLarge) b := by
    refine ⟨_, hsource, hlive, ?_⟩
    simp only [hrest, List.map_cons]
    refine .refused [] (.nil b) ?_
    simp [Definition.rule, Matcher.ask, htakes]
  have hstep : c.step b = (.error (.refused .startTooLarge), c, b) :=
    step_eq_error_iff.mpr ⟨_, rfl, rfl, hasks⟩
  cases op with
  | advance => exact ⟨_, advance_eq_refused_iff.mpr ⟨rfl, hasks⟩, rfl⟩
  | next => exact ⟨_, next_eq_refused_iff.mpr ⟨rfl, hasks⟩, rfl⟩
  | take n =>
      have hpos : 0 < n := by
        rw [Nat.pos_iff_ne_zero]
        rintro rfl
        exact hsome rfl
      exact ⟨_, take_eq_error_iff.mpr ⟨[], b, _, hpos, .nil c b, hasks, rfl⟩, rfl⟩
  | drain => exact ⟨_, .failed hstep, rfl⟩
  | reset | release | exit | enter => cases hop

end Cursor

/-! ## Open cursors -/

namespace OpenCursor

def handleAll (x : OpenCursor) (b : Bench) :
    List Handling → List (Except Error Reply) × OpenCursor × Bench
  | [] => ([], x, b)
  | h :: hs =>
    match x.act h.action b with
    | (r, x, b) =>
      match x.handleAll b hs with
      | (rs, x, b) => (r :: rs, x, b)

theorem exists_performs {c : Cursor Refusal Bench} (hdefined : c.Defined) (b : Bench)
    (op : Operation) : ∃ r c' b', c.Performs b op r c' b' := by
  cases op with
  | advance => exact ⟨_, _, _, _, rfl, rfl⟩
  | next => exact ⟨_, _, _, _, rfl, rfl⟩
  | take n => exact ⟨_, _, _, _, rfl, rfl⟩
  | drain => exact ⟨_, _, _, _, Cursor.drain_drains hdefined b, rfl⟩
  | reset => exact ⟨_, _, _, _, rfl, rfl, rfl⟩
  | release => exact ⟨_, _, _, rfl, rfl, rfl⟩
  | exit => exact ⟨_, _, _, rfl, rfl, rfl⟩
  | enter => exact ⟨_, _, _, rfl, rfl, rfl⟩

theorem exists_handles {x : OpenCursor} (hdefined : x.cursor.Defined) (b : Bench)
    (h : Handling) :
    ∃ r c b', x.cursor.Handles b h r c b' ∧
      x.act h.action b = (r.mapError .cursor, { x with cursor := c }, b') := by
  cases h with
  | operation op =>
      rcases exists_performs hdefined b op with ⟨r, c, b', hperforms⟩
      exact ⟨r, c, b', hperforms, act_of_performs hdefined hperforms⟩
  | assign position => exact ⟨_, _, _, ⟨rfl, rfl, rfl⟩, rfl⟩

theorem exists_history {x : OpenCursor} {source : Source Refusal Bench}
    (hrules : ∀ rule ∈ source.rules,
      ∃ (d : Definition) (starts : Starts), rule = d.rule starts)
    (hreads : x.cursor.Reads source) (b : Bench) (hs : List Handling) :
    ∃ rs c b', x.cursor.History b hs rs c b' ∧
      x.handleAll b hs = (rs.map (·.mapError .cursor), { x with cursor := c }, b') := by
  induction hs generalizing x b with
  | nil => exact ⟨[], x.cursor, b, .nil _ _, rfl⟩
  | cons h hs ih =>
      have hdefined : x.cursor.Defined := by
        intro other hother
        rw [hreads other hother]
        exact hrules
      rcases exists_handles hdefined b h with ⟨r, c, b₁, hone, hact⟩
      rcases ih (x := { x with cursor := c }) (hone.reads hreads) b₁ with
        ⟨rs, c', b', hrest, hall⟩
      refine ⟨r :: rs, c', b', .cons hone hrest, ?_⟩
      unfold handleAll
      simp only [hact, hall, List.map_cons]

end OpenCursor

/-- An error is what a rule gave, the end of the tokens or the reset of a released cursor,
whatever the rules and the handlings are.  With patterns and keywords alone, requests fail for
the next token at the end, and otherwise only from a position that the engine does not take as a
start.  From there every request is refused if the first definition has a pattern. -/
theorem handlings_fail_for_a_cause :
    (∀ (ε σ : Type) (source : Source ε σ) (s : σ) (xs : List Handling)
      (rs : List (Except (Cursor.Failure ε) Reply)) (c : Cursor ε σ) (s' : σ),
      (Cursor.start source).History s xs rs c s' →
      ∀ (i : Nat) (x : Handling) (f : Cursor.Failure ε), xs[i]? = some x →
        rs[i]? = some (.error f) →
        ∃ c₁ s₁ c₂ s₂, (Cursor.start source).History s (xs.take i) (rs.take i) c₁ s₁ ∧
          c₁.Handles s₁ x (.error f) c₂ s₂ ∧ Cursor.Fails source c₁ s₁ c₂ s₂ x f) ∧
    (∀ (ε σ : Type) (t : Text) (position : Int) (rules : List (Rule ε σ)) (s s' : σ)
      (kind : Datum) (v : Text),
      Rule.firstAnswer t position rules s = (.ok (some (kind, v)), s') →
      Token.build position kind (some v) = .ok ⟨position, kind, v⟩) ∧
    (∀ (x : Scanner) (starts : Starts) (b : Bench) (xs : List Handling),
      ∃ rs c b', (x.cursor starts).History b xs rs c b' ∧
        (OpenCursor.mk x (x.cursor starts)).handleAll b xs =
          (rs.map (·.mapError .cursor), ⟨x, c⟩, b') ∧
        ((∀ d ∈ x.definitions, d.matcher.isStateless = true) →
          ∀ (i : Nat) (h : Handling) (f : Cursor.Failure Refusal), xs[i]? = some h →
            rs[i]? = some (.error f) →
            h = .operation .next ∧ (Error.cursor f).errorClass = .endOfTokens ∨
              h = .operation .reset ∧ (Error.cursor f).errorClass = .invalidState ∨
              ∃ op c₁ b₁, h = .operation op ∧ op.isRequest = true ∧
                (Error.cursor f).errorClass = .overflow ∧
                (x.cursor starts).History b (xs.take i) (rs.take i) c₁ b₁ ∧
                c₁.exhausted = false ∧ c₁.isReleased = false ∧
                starts.takes x.text c₁.position = false)) ∧
    ∀ (x : Scanner) (starts : Starts) (c : Cursor Refusal Bench) (b : Bench) (kind : Datum)
      (p : Pattern) (op : Operation), x.definitions.head? = some ⟨kind, .pattern p⟩ →
      c.source = some ⟨x.definitions.map (·.rule starts), x.text⟩ → c.exhausted = false →
      starts.takes x.text c.position = false → op.isRequest = true → op ≠ .take 0 →
      c.Performs b op (.error (.refused .startTooLarge)) c b := by
  refine ⟨?_, ?_, ?_, ?_⟩
  · intro ε σ source s xs rs c s' hhistory i x f hx hr
    exact hhistory.fails (Cursor.start_reads source) hx hr
  · intro ε σ t position rules s s' kind v hfirst
    exact Token.build_of_ne (Rule.Answers.of_firstAnswer hfirst).ne_empty position kind
  · intro x starts b xs
    have hreads := Cursor.start_reads (Source.mk (x.definitions.map (·.rule starts)) x.text)
    have hrules : ∀ rule ∈ x.definitions.map (·.rule starts),
        ∃ (d : Definition) (starts : Starts), rule = d.rule starts := by
      intro rule hrule
      rcases List.mem_map.mp hrule with ⟨d, _, rfl⟩
      exact ⟨d, starts, rfl⟩
    rcases OpenCursor.exists_history (x := ⟨x, x.cursor starts⟩) hrules hreads b xs with
      ⟨rs, c, b', hhistory, hall⟩
    refine ⟨rs, c, b', hhistory, hall, ?_⟩
    intro hstateless i h f hx hr
    rcases hhistory.fails hreads hx hr with ⟨c₁, b₁, _, _, hbefore, hhandles, _⟩
    rcases hhandles.causes hstateless (hbefore.reads hreads) with
      ⟨rfl, rfl⟩ | ⟨rfl, rfl⟩ | ⟨⟨op, rfl, hop⟩, rfl, hstart⟩
    · exact .inl ⟨rfl, rfl⟩
    · exact .inr (.inl ⟨rfl, rfl⟩)
    · exact .inr (.inr ⟨op, c₁, b₁, rfl, hop, rfl, hbefore, hstart⟩)
  · intro x starts c b kind p op hfirst hsource hlive htakes hop hsome
    exact Cursor.performs_of_start hfirst hsource hlive htakes hop hsome

/-- The position is put to the end, where there is no next token; then the cursor is
released and cannot be reset.  Put beyond the word, it cannot be drained. -/
theorem handlings_fail_for_a_cause_released :
    ∃ d, (Definition.build (.int 1) (.datum (.text #[97])) .none .empty).1 = .ok d ∧
      let x : Scanner := ⟨[d], #[97, 98]⟩
      let source : Source Refusal Bench := ⟨[d.rule], #[97, 98]⟩
      let xs : List Handling :=
        [.assign 2, .operation .next, .operation .release, .operation .reset]
      let rs : List (Except (Cursor.Failure Refusal) Reply) :=
        [.ok .nothing, .error .finished, .ok .nothing, .error .released]
      let beyond : Cursor Refusal Bench := x.cursor.moveTo 9223372036854775808
      (∀ d ∈ x.definitions, d.matcher.isStateless = true) ∧
      ((OpenCursor.mk x x.cursor).handleAll .empty xs).1 = rs.map (·.mapError .cursor) ∧
      (∃ c₁ s₁ c₂ s₂, x.cursor.History .empty (xs.take 1) (rs.take 1) c₁ s₁ ∧
        Cursor.Fails source c₁ s₁ c₂ s₂ (.operation .next) .finished) ∧
      (∃ c₁ s₁ c₂ s₂, x.cursor.History .empty (xs.take 3) (rs.take 3) c₁ s₁ ∧
        Cursor.Fails source c₁ s₁ c₂ s₂ (.operation .reset) .released) ∧
      beyond.Performs .empty .drain (.error (.refused .startTooLarge)) beyond .empty ∧
      ∃ rs' c b', x.cursor.History .empty xs rs' c b' ∧
        ∀ (i : Nat) (h : Handling) (f : Cursor.Failure Refusal), xs[i]? = some h →
          rs'[i]? = some (.error f) →
          h = .operation .next ∧ (Error.cursor f).errorClass = .endOfTokens ∨
            h = .operation .reset ∧ (Error.cursor f).errorClass = .invalidState ∨
            ∃ op c₁ b₁, h = .operation op ∧ op.isRequest = true ∧
              (Error.cursor f).errorClass = .overflow ∧
              x.cursor.History .empty (xs.take i) (rs'.take i) c₁ b₁ ∧
              c₁.exhausted = false ∧ c₁.isReleased = false ∧
              Starts.machine.takes x.text c₁.position = false := by
  refine ⟨_, rfl, ?_⟩
  intro x source xs rs beyond
  have hstateless : ∀ d ∈ x.definitions, d.matcher.isStateless = true := by
    intro d hd
    cases List.mem_singleton.mp hd
    rfl
  have hhistory : x.cursor.History .empty xs rs _ .empty :=
    .cons ⟨rfl, rfl, rfl⟩ (.cons ⟨_, rfl, rfl⟩ (.cons ⟨rfl, rfl, rfl⟩
      (.cons ⟨_, rfl, rfl, rfl⟩ (.nil _ _))))
  obtain ⟨hcauses, _, hopen, hbeyond⟩ := handlings_fail_for_a_cause
  rcases hcauses _ _ source _ _ _ _ _ hhistory 1 _ _ rfl rfl with
    ⟨c₁, s₁, c₂, s₂, hbefore, _, hfails⟩
  rcases hcauses _ _ source _ _ _ _ _ hhistory 3 _ _ rfl rfl with
    ⟨c₃, s₃, c₄, s₄, hbefore', _, hfails'⟩
  have hdrain := hbeyond x .machine beyond .empty _ _ .drain rfl rfl rfl (by decide) rfl nofun
  rcases hopen x .machine .empty xs with ⟨rs', c, b', hhistory', _, hclasses⟩
  exact ⟨hstateless, rfl, ⟨c₁, s₁, c₂, s₂, hbefore, hfails⟩,
    ⟨c₃, s₃, c₄, s₄, hbefore', hfails'⟩, hdrain, rs', c, b', hhistory', hclasses hstateless⟩

/-- One beyond the largest word, the position stops the engine of a pattern. -/
theorem advance_beyond_word_overflows :
    ∃ d, (Definition.build (.text (text "w")) (.datum (.text (text "a"))) .none .empty).1 =
        .ok d ∧
      Scanner.build (.ofDefinitions [d]) (some (text "a")) = .ok ⟨[d], text "a"⟩ ∧
      let x : Scanner := ⟨[d], text "a"⟩
      ((OpenCursor.mk x x.cursor).handleAll .empty
          [.assign 9223372036854775808, .operation .advance]).1 =
        [.ok .nothing, .error (.cursor (.refused .startTooLarge))] ∧
      (Error.cursor (.refused .startTooLarge)).errorClass = .overflow := by
  let p : Pattern := ⟨text "a", ⟨32⟩, .char ⟨false, [.point 97], .exact⟩⟩
  have hbuild : (Definition.build (.text (text "w")) (.datum (.text (text "a"))) .none
      .empty).1 = .ok ⟨.text (text "w"), .pattern p⟩ := by rfl
  exact ⟨_, hbuild, Scanner.build_ofDefinitions (by simp) _, rfl, rfl⟩

end FirstMatch
