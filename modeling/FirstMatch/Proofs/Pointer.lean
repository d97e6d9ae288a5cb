import FirstMatch.Proofs.Partition
import FirstMatch.Session

/-!
# Cursors as pointers into a list of tokens

When the rules have no state, all that a cursor will ever do is settled by the list of
tokens that draining it once gives.  Such a cursor is a pointer into that list, and one
operation of the cursor is one operation of the pointer.
-/

namespace FirstMatch

variable {ε σ : Type}

/-- The rule neither reads nor changes the state, be it that it answers or that it
refuses to. -/
def Rule.Stateless (rule : Rule ε σ) : Prop :=
  ∃ answer : Text → Int → Except ε (Option Text),
    ∀ t p s, rule.ask t p s = (answer t p, s)

/-! ## Operations in a row -/

inductive Operation where
  | advance
  | next
  | take (n : Nat)
  | drain
  | reset
  | release
  | enter
  | exit
  deriving DecidableEq, Repr

def Operation.action : Operation → Action
  | advance => .advance
  | next => .next
  | take n => .take n
  | drain => .drain
  | reset => .reset
  | release => .release
  | enter => .enter
  | exit => .exit

namespace Cursor

def Performs (c : Cursor ε σ) (s : σ) (op : Operation)
    (r : Except (Failure ε) Reply) (c' : Cursor ε σ) (s' : σ) : Prop :=
  match op with
  | .advance => ∃ x, c.advance s = (x, c', s') ∧ r = x.map .flag
  | .next => ∃ x, c.next s = (x, c', s') ∧ r = x.map .token
  | .take n => ∃ x, c.take n s = (x, c', s') ∧ r = x.map .tokens
  | .drain => ∃ x, c.Drains s x c' s' ∧ r = x.map .tokens
  | .reset =>
    ∃ x, c.reset = (x, c') ∧ s' = s ∧ r = x.map fun _ => .nothing
  | .release | .exit => c' = c.release ∧ s' = s ∧ r = .ok .nothing
  | .enter => c' = c ∧ s' = s ∧ r = .ok (.flag true)

inductive Runs :
    Cursor ε σ → σ → List Operation → List (Except (Failure ε) Reply) →
      Cursor ε σ → σ → Prop
  | nil (c : Cursor ε σ) (s : σ) : Runs c s [] [] c s
  | cons {c c₁ c' : Cursor ε σ} {s s₁ s' : σ} {op : Operation}
      {ops : List Operation} {r : Except (Failure ε) Reply}
      {rs : List (Except (Failure ε) Reply)}
      (hop : c.Performs s op r c₁ s₁) (hops : Runs c₁ s₁ ops rs c' s') :
      Runs c s (op :: ops) (r :: rs) c' s'

end Cursor

/-! ## The pointer machine -/

def lastMade (tokens : List Token) : (k : Nat) → Option Token
  | 0 => none
  | k + 1 => tokens[k]?

def stopAfter (tokens : List Token) (k : Nat) : Int :=
  ((lastMade tokens k).map Token.stop).getD 0

inductive Pointer (tokens : List Token) where
  | made (k : Nat) (hk : k ≤ tokens.length)
  /-- All tokens were made, and one more was asked for. -/
  | done
  | released (position : Int)

namespace Pointer

variable {tokens : List Token}

def front : Pointer tokens :=
  made 0 (Nat.zero_le _)

def position : Pointer tokens → Int
  | made k _ => stopAfter tokens k
  | done => stopAfter tokens tokens.length
  | released position => position

def step : Pointer tokens → Option Token × Pointer tokens
  | made k _ =>
    if h : k < tokens.length then (some tokens[k], made (k + 1) h)
    else (none, done)
  | done => (none, done)
  | released position => (none, released position)

def gather : (n : Nat) → Pointer tokens → List Token × Pointer tokens
  | 0, p => ([], p)
  | n + 1, p =>
    match p.step with
    | (some a, p) => (a :: (p.gather n).1, (p.gather n).2)
    | (none, p) => ([], p)

/-- Where an operation takes the pointer.  No more tokens than the list has can
be left, so one more than their number is all that draining has to ask for. -/
def after (p : Pointer tokens) : Operation → Pointer tokens
  | .advance | .next => p.step.2
  | .take n => (p.gather n).2
  | .drain => (p.gather (tokens.length + 1)).2
  | .reset =>
    match p with
    | released position => released position
    | made _ _ | done => front
  | .release | .exit => released p.position
  | .enter => p

def reply (p : Pointer tokens) : Operation → Except (Cursor.Failure ε) Reply
  | .advance => .ok (.flag p.step.1.isSome)
  | .next =>
    match p.step.1 with
    | some a => .ok (.token a)
    | none => .error .finished
  | .take n => .ok (.tokens (p.gather n).1)
  | .drain => .ok (.tokens (p.gather (tokens.length + 1)).1)
  | .reset =>
    match p with
    | released _ => .error .released
    | made _ _ | done => .ok .nothing
  | .release | .exit => .ok .nothing
  | .enter => .ok (.flag true)

def replies (p : Pointer tokens) :
    List Operation → List (Except (Cursor.Failure ε) Reply)
  | [] => []
  | op :: ops => p.reply op :: (p.after op).replies ops

/-- The cursor on `source` that the pointer stands for. -/
def cursor (source : Source ε σ) : Pointer tokens → Cursor ε σ
  | made k _ => ⟨some source, stopAfter tokens k, lastMade tokens k, false⟩
  | done => ⟨some source, stopAfter tokens tokens.length, none, true⟩
  | released position => ⟨none, position, none, true⟩

def remaining : Pointer tokens → Nat
  | made k _ => tokens.length - k
  | done | released _ => 0

theorem remaining_le (p : Pointer tokens) : p.remaining ≤ tokens.length := by
  cases p with
  | made k hk => exact Nat.sub_le _ _
  | done => exact Nat.zero_le _
  | released position => exact Nat.zero_le _

theorem step_made_of_lt {k : Nat} (hk : k ≤ tokens.length)
    (hlt : k < tokens.length) :
    (made k hk).step = (some tokens[k], made (k + 1) hlt) := by
  simp [step, hlt]

theorem step_made_length (hk : tokens.length ≤ tokens.length) :
    (made tokens.length hk).step = (none, done) := by
  simp [step]

theorem remaining_step_lt {p : Pointer tokens} {a : Token}
    (h : p.step.1 = some a) :
    p.step.2.remaining < p.remaining := by
  cases p with
  | made k hk =>
      rcases Nat.lt_or_eq_of_le hk with hlt | rfl
      · rw [step_made_of_lt hk hlt]
        simp only [remaining]
        omega
      · rw [step_made_length] at h
        cases h
  | done => cases h
  | released position => cases h

end Pointer

/-! ## The simulation -/

namespace Rule

variable {t : Text} {p : Int} {rules : List (Rule ε σ)} {s s' : σ}

theorem AllDecline.state_eq
    (hrules : ∀ rule ∈ rules, rule.Stateless)
    (h : AllDecline t p rules s s') :
    s' = s := by
  induction h with
  | nil => rfl
  | cons hask _ _ ih =>
      obtain ⟨answer, hanswer⟩ := hrules _ List.mem_cons_self
      rw [hanswer] at hask
      obtain ⟨_, rfl⟩ := Prod.mk.inj hask
      exact ih fun rule hmem => hrules rule (List.mem_cons_of_mem _ hmem)

theorem Answers.state_eq
    (hrules : ∀ rule ∈ rules, rule.Stateless)
    {r : Except ε (Option (Datum × Text))}
    (h : Answers t p rules s r s') :
    s' = s := by
  have hone : ∀ {before after : List (Rule ε σ)} {rule : Rule ε σ} {s₁ : σ}
      {x : Except ε (Option Text)},
      (∀ rule' ∈ before ++ rule :: after, rule'.Stateless) →
      AllDecline t p before s s₁ → rule.ask t p s₁ = (x, s') → s' = s := by
    intro before after rule s₁ x hall hdecline hask
    have hs₁ := hdecline.state_eq fun rule' hmem =>
      hall rule' (List.mem_append_left _ hmem)
    obtain ⟨answer, hanswer⟩ :=
      hall rule (List.mem_append_right _ List.mem_cons_self)
    rw [hanswer] at hask
    cases hask
    exact hs₁
  cases h with
  | declined hall => exact hall.state_eq hrules
  | found before hall hask _ => exact hone hrules hall hask
  | refused before hall hask => exact hone hrules hall hask

end Rule

theorem Cursor.Steps.state_eq
    {c c' : Cursor ε σ} {s s' : σ}
    {r : Except (Failure ε) (Option Token)}
    (hrules : ∀ source, c.source = some source →
      ∀ rule ∈ source.rules, rule.Stateless)
    (h : c.Steps s r c' s') :
    s' = s := by
  cases h with
  | idle => rfl
  | refused hsource _ hanswers => exact hanswers.state_eq (hrules _ hsource)
  | exhausted hsource _ hanswers => exact hanswers.state_eq (hrules _ hsource)
  | token hsource _ hanswers => exact hanswers.state_eq (hrules _ hsource)

theorem Cursor.Drains.state_eq
    {c c' : Cursor ε σ} {s s' : σ} {r : Except (Failure ε) (List Token)}
    (hrules : ∀ source, c.source = some source →
      ∀ rule ∈ source.rules, rule.Stateless)
    (h : c.Drains s r c' s') :
    s' = s := by
  induction h with
  | finished hstep => exact (Steps.of_step hstep).state_eq hrules
  | failed hstep => exact (Steps.of_step hstep).state_eq hrules
  | token hstep _ ih =>
      have hsteps := Steps.of_step hstep
      rw [← hsteps.source_eq] at hrules
      rw [ih hrules]
      rw [hsteps.source_eq] at hrules
      exact hsteps.state_eq hrules

namespace Pointer

variable {tokens : List Token} {source : Source ε σ} {s : σ}
  {last : Cursor ε σ} {s' : σ}

theorem made_cursor_step
    (hrules : ∀ rule ∈ source.rules, rule.Stateless)
    {k : Nat} (hk : k ≤ tokens.length) (hlt : k < tokens.length)
    {c₁ : Cursor ε σ} {s₁ : σ}
    (hstep : ((made k hk).cursor source).step s =
      (.ok (some tokens[k]), c₁, s₁)) :
    c₁ = (made (k + 1) hlt).cursor source ∧ s₁ = s := by
  have hsteps := Cursor.Steps.of_step hstep
  constructor
  · generalize ha : tokens[k] = a at hsteps
    cases hsteps with
    | token =>
        simp only [cursor, stopAfter, lastMade, List.getElem?_eq_getElem hlt,
          ha]
        rfl
  · refine hsteps.state_eq fun source' hsource' => ?_
    cases hsource'
    exact hrules

theorem drains_made
    (hrules : ∀ rule ∈ source.rules, rule.Stateless)
    (hdrains : (Cursor.start source).Drains s (.ok tokens) last s')
    (k : Nat) (hk : k ≤ tokens.length) :
    ((made k hk).cursor source).Drains s (.ok (tokens.drop k)) last s' := by
  induction k with
  | zero => exact hdrains
  | succ k ih =>
      have hrest := ih (by omega)
      rw [List.drop_eq_getElem_cons hk] at hrest
      obtain ⟨c₁, s₁, hstep, hdrains₁⟩ := hrest.step_of_cons
      obtain ⟨rfl, rfl⟩ := made_cursor_step hrules (by omega) hk hstep
      exact hdrains₁

theorem step_cursor
    (hrules : ∀ rule ∈ source.rules, rule.Stateless)
    (hdrains : (Cursor.start source).Drains s (.ok tokens) last s')
    (p : Pointer tokens) :
    (p.cursor source).step s = (.ok p.step.1, p.step.2.cursor source, s) := by
  cases p with
  | done => exact Cursor.step_of_exhausted rfl s
  | released position => exact Cursor.step_of_exhausted rfl s
  | made k hk =>
      have hmade := drains_made hrules hdrains k hk
      rcases Nat.lt_or_eq_of_le hk with hlt | rfl
      · rw [List.drop_eq_getElem_cons hlt] at hmade
        obtain ⟨c₁, s₁, hstep, _⟩ := hmade.step_of_cons
        obtain ⟨rfl, rfl⟩ := made_cursor_step hrules hk hlt hstep
        rw [step_made_of_lt hk hlt]
        exact hstep
      · rw [List.drop_length] at hmade
        have hstep := hmade.step_of_nil
        rw [step_made_length, hstep]
        cases Cursor.Steps.of_step hstep with
        | idle h => simp [cursor] at h
        | exhausted hsource _ hanswers =>
            cases hsource
            rw [hanswers.state_eq hrules]
            rfl

theorem take_cursor
    (hrules : ∀ rule ∈ source.rules, rule.Stateless)
    (hdrains : (Cursor.start source).Drains s (.ok tokens) last s')
    (n : Nat) (p : Pointer tokens) :
    (p.cursor source).take n s =
      (.ok (p.gather n).1, (p.gather n).2.cursor source, s) := by
  induction n generalizing p with
  | zero => rfl
  | succ n ih =>
      rw [Cursor.take_succ, step_cursor hrules hdrains p]
      unfold gather
      cases hstep : p.step with
      | mk result p' =>
          cases result with
          | none => rfl
          | some a =>
              simp only [ih p']
              rfl

theorem drains_cursor
    (hrules : ∀ rule ∈ source.rules, rule.Stateless)
    (hdrains : (Cursor.start source).Drains s (.ok tokens) last s')
    {n : Nat} {p : Pointer tokens} (hn : p.remaining < n) :
    (p.cursor source).Drains s (.ok (p.gather n).1)
      ((p.gather n).2.cursor source) s := by
  induction n generalizing p with
  | zero => omega
  | succ n ih =>
      have hcursor := step_cursor hrules hdrains p
      unfold gather
      cases hstep : p.step with
      | mk result p' =>
          rw [hstep] at hcursor
          cases result with
          | none => exact .finished hcursor
          | some a =>
              have hlt : p'.remaining < p.remaining := by
                have hstep₁ : p.step.1 = some a := by rw [hstep]
                have hless := remaining_step_lt hstep₁
                rw [hstep] at hless
                exact hless
              have hless : p'.remaining < n := by omega
              exact .token hcursor (ih hless)

theorem performs_iff_of_eq
    {α : Type} {x : Except (Cursor.Failure ε) α} {c c₀ : Cursor ε σ} {s₁ : σ}
    {y : Except (Cursor.Failure ε) α × Cursor ε σ × σ} {f : α → Reply}
    {r : Except (Cursor.Failure ε) Reply} (hy : y = (x, c₀, s)) :
    (∃ x', y = (x', c, s₁) ∧ r = x'.map f) ↔ r = x.map f ∧ c = c₀ ∧ s₁ = s := by
  subst hy
  constructor
  · rintro ⟨x', heq, rfl⟩
    cases heq
    exact ⟨rfl, rfl, rfl⟩
  · rintro ⟨rfl, rfl, rfl⟩
    exact ⟨x, rfl, rfl⟩

theorem performs_iff
    (hrules : ∀ rule ∈ source.rules, rule.Stateless)
    (hdrains : (Cursor.start source).Drains s (.ok tokens) last s')
    (p : Pointer tokens) (op : Operation)
    {r : Except (Cursor.Failure ε) Reply} {c : Cursor ε σ} {s₁ : σ} :
    (p.cursor source).Performs s op r c s₁ ↔
      r = p.reply op ∧ c = (p.after op).cursor source ∧ s₁ = s := by
  have hstep := step_cursor hrules hdrains p
  cases op with
  | advance =>
      refine performs_iff_of_eq (x := .ok p.step.1.isSome) ?_
      unfold Cursor.advance
      rw [hstep]
      rfl
  | next =>
      unfold Cursor.Performs Cursor.next reply after
      rw [hstep]
      cases hnext : p.step.1 with
      | none => exact performs_iff_of_eq rfl
      | some a => exact performs_iff_of_eq rfl
  | take n => exact performs_iff_of_eq (take_cursor hrules hdrains n p)
  | drain =>
      have hall := drains_cursor hrules hdrains
        (Nat.lt_succ_of_le p.remaining_le)
      constructor
      · rintro ⟨x, hx, rfl⟩
        obtain ⟨rfl, rfl, rfl⟩ := hx.unique hall
        exact ⟨rfl, rfl, rfl⟩
      · rintro ⟨rfl, rfl, rfl⟩
        exact ⟨_, hall, rfl⟩
  | reset =>
      constructor
      · rintro ⟨x, hx, rfl, rfl⟩
        cases p <;> cases hx <;> exact ⟨rfl, rfl, rfl⟩
      · rintro ⟨rfl, rfl, rfl⟩
        cases p <;> exact ⟨_, rfl, rfl, rfl⟩
  | release =>
      constructor
      · rintro ⟨rfl, rfl, rfl⟩
        cases p <;> exact ⟨rfl, rfl, rfl⟩
      · rintro ⟨rfl, rfl, rfl⟩
        cases p <;> exact ⟨rfl, rfl, rfl⟩
  | exit =>
      constructor
      · rintro ⟨rfl, rfl, rfl⟩
        cases p <;> exact ⟨rfl, rfl, rfl⟩
      · rintro ⟨rfl, rfl, rfl⟩
        cases p <;> exact ⟨rfl, rfl, rfl⟩
  | enter =>
      constructor
      · rintro ⟨rfl, rfl, rfl⟩
        exact ⟨rfl, rfl, rfl⟩
      · rintro ⟨rfl, rfl, rfl⟩
        exact ⟨rfl, rfl, rfl⟩

/-- Operations of the cursor in a row are those of the pointer in a row. -/
theorem runs_iff
    (hrules : ∀ rule ∈ source.rules, rule.Stateless)
    (hdrains : (Cursor.start source).Drains s (.ok tokens) last s')
    (p : Pointer tokens) (ops : List Operation)
    {rs : List (Except (Cursor.Failure ε) Reply)} {c : Cursor ε σ} {s₁ : σ} :
    (p.cursor source).Runs s ops rs c s₁ ↔
      rs = p.replies ops ∧ c = (ops.foldl after p).cursor source ∧ s₁ = s := by
  induction ops generalizing p rs with
  | nil =>
      constructor
      · intro hruns
        cases hruns
        exact ⟨rfl, rfl, rfl⟩
      · rintro ⟨rfl, rfl, rfl⟩
        exact .nil _ _
  | cons op ops ih =>
      constructor
      · intro hruns
        cases hruns with
        | cons hop hops =>
            obtain ⟨rfl, rfl, rfl⟩ := (performs_iff hrules hdrains p op).mp hop
            obtain ⟨rfl, rfl, rfl⟩ := (ih (p.after op)).mp hops
            exact ⟨rfl, rfl, rfl⟩
      · rintro ⟨rfl, rfl, rfl⟩
        exact .cons
          ((performs_iff hrules hdrains p op).mpr ⟨rfl, rfl, rfl⟩)
          ((ih (p.after op)).mpr ⟨rfl, rfl, rfl⟩)

end Pointer

/-! ## Cursors of sessions -/

theorem OpenCursor.act_of_performs
    {x : OpenCursor} (hdefined : x.cursor.Defined) {b b' : Bench}
    {op : Operation} {r : Except (Cursor.Failure Refusal) Reply}
    {c : Cursor Refusal Bench}
    (h : x.cursor.Performs b op r c b') :
    x.act op.action b = (r.mapError .cursor, { x with cursor := c }, b') := by
  cases op with
  | advance =>
      obtain ⟨result, heq, rfl⟩ := h
      simp only [Operation.action, act, outcome, heq]
  | next =>
      obtain ⟨result, heq, rfl⟩ := h
      simp only [Operation.action, act, outcome, heq]
  | take n =>
      obtain ⟨result, heq, rfl⟩ := h
      simp only [Operation.action, act, outcome, heq]
  | drain =>
      obtain ⟨result, hdrains, rfl⟩ := h
      obtain ⟨rfl, rfl, rfl⟩ :=
        hdrains.unique (Cursor.drain_drains hdefined b)
      rfl
  | reset =>
      obtain ⟨result, heq, rfl, rfl⟩ := h
      simp only [Operation.action, act, outcome, heq]
  | release =>
      obtain ⟨rfl, rfl, rfl⟩ := h
      rfl
  | exit =>
      obtain ⟨rfl, rfl, rfl⟩ := h
      rfl
  | enter =>
      obtain ⟨rfl, rfl, rfl⟩ := h
      rfl

def OpenCursor.actAll (x : OpenCursor) (b : Bench) :
    List Operation → List (Except Error Reply) × OpenCursor × Bench
  | [] => ([], x, b)
  | op :: ops =>
    match x.act op.action b with
    | (r, x, b) =>
      match x.actAll b ops with
      | (rs, x, b) => (r :: rs, x, b)

theorem Definition.rule_stateless
    {d : Definition} (h : d.matcher.isStateless = true) (starts : Starts) :
    (d.rule starts).Stateless := by
  obtain ⟨kind, matcher⟩ := d
  cases matcher with
  | pattern q => exact ⟨_, fun _ _ _ => rfl⟩
  | keyword identity word => exact ⟨_, fun _ _ _ => rfl⟩
  | scripted identity name => simp [Matcher.isStateless] at h

namespace Pointer

variable {tokens : List Token}

theorem cursor_defined
    {source : Source Refusal Bench}
    (hsource : ∀ rule ∈ source.rules,
      ∃ (d : Definition) (starts : Starts), rule = d.rule starts)
    (p : Pointer tokens) :
    (p.cursor source).Defined := by
  intro source' hsource'
  cases p with
  | made k hk =>
      cases hsource'
      exact hsource
  | done =>
      cases hsource'
      exact hsource
  | released position => cases hsource'

theorem actAll_cursor
    {source : Source Refusal Bench} {b b' : Bench}
    {last : Cursor Refusal Bench} (x : Scanner)
    (hsource : ∀ rule ∈ source.rules,
      ∃ (d : Definition) (starts : Starts), rule = d.rule starts)
    (hrules : ∀ rule ∈ source.rules, rule.Stateless)
    (hdrains : (Cursor.start source).Drains b (.ok tokens) last b')
    (p : Pointer tokens) (ops : List Operation) :
    (OpenCursor.mk x (p.cursor source)).actAll b ops =
      ((p.replies ops).map (·.mapError .cursor),
        ⟨x, (ops.foldl after p).cursor source⟩, b) := by
  induction ops generalizing p with
  | nil => rfl
  | cons op ops ih =>
      have hperforms := (performs_iff hrules hdrains p op).mpr ⟨rfl, rfl, rfl⟩
      have hact := OpenCursor.act_of_performs
        (x := ⟨x, p.cursor source⟩) (p.cursor_defined hsource) hperforms
      unfold OpenCursor.actAll
      rw [hact]
      simp only [ih (p.after op)]
      rfl

theorem after_reset
    {p : Pointer tokens} {source : Source ε σ}
    (h : (p.cursor source).isReleased = false) :
    p.after .reset = front ∧
      (p.reply .reset : Except (Cursor.Failure ε) Reply) = .ok .nothing := by
  cases p with
  | made k hk => exact ⟨rfl, rfl⟩
  | done => exact ⟨rfl, rfl⟩
  | released position => cases h

end Pointer

theorem drains_of_stateless
    {source : Source ε σ}
    (hrules : ∀ rule ∈ source.rules, rule.Stateless)
    (hanchored : ∀ rule ∈ source.rules, rule.Anchored source.text) (s : σ) :
    ∃ tokens last, (Cursor.start source).Drains s (.ok tokens) last s := by
  obtain ⟨tokens, q, _, s', hdrains, _, _⟩ :=
    (Cursor.start_live source).drains hanchored (Nat.zero_le _) s
  have hs' : s' = s := hdrains.state_eq fun source' hsource' => by
    cases hsource'
    exact hrules
  rw [hs'] at hdrains
  exact ⟨tokens, _, hdrains⟩

/-- A cursor whose rules are anchored and have no state behaves as a pointer into the list of
tokens that a new cursor is drained of, under any operations in any order.  Starting again gives
the same tokens, unless the cursor is released. -/
theorem cursor_simulates_pointer :
    (∀ (ε σ : Type) (source : Source ε σ) (s : σ),
      (∀ rule ∈ source.rules, rule.Stateless ∧ rule.Anchored source.text) →
      ∃ tokens last,
        (Cursor.start source).Drains s (.ok tokens) last s ∧
        (∀ ops rs c s', (Cursor.start source).Runs s ops rs c s' ↔
          rs = (Pointer.front : Pointer tokens).replies ops ∧
          c = (ops.foldl .after (Pointer.front : Pointer tokens)).cursor source ∧
          s' = s) ∧
        ∀ ops rs c s', (Cursor.start source).Runs s ops rs c s' →
          c.isReleased = false →
          c.Runs s' [.reset, .drain]
            [.ok .nothing, .ok (.tokens tokens)] last s') ∧
    ∀ (x : Scanner) (b : Bench),
      (∀ d ∈ x.definitions, d.matcher.isStateless = true) →
      ∃ tokens, (x.tokens b).1 = .ok tokens ∧
        ∀ ops, (OpenCursor.mk x x.cursor).actAll b ops =
          (((Pointer.front : Pointer tokens).replies ops).map
              (·.mapError .cursor),
            ⟨x, (ops.foldl .after (Pointer.front : Pointer tokens)).cursor
              ⟨x.definitions.map (·.rule), x.text⟩⟩, b) := by
  refine ⟨?_, ?_⟩
  · intro ε σ source s hall
    have hrules : ∀ rule ∈ source.rules, rule.Stateless :=
      fun rule hmem => (hall rule hmem).1
    have hanchored : ∀ rule ∈ source.rules, rule.Anchored source.text :=
      fun rule hmem => (hall rule hmem).2
    obtain ⟨tokens, last, hdrains⟩ := drains_of_stateless hrules hanchored s
    have hruns : ∀ ops rs c s', (Cursor.start source).Runs s ops rs c s' ↔ _ :=
      fun ops rs c s' => Pointer.runs_iff hrules hdrains Pointer.front ops
    refine ⟨tokens, last, hdrains, hruns, ?_⟩
    intro ops rs c s' hrun hreleased
    obtain ⟨rfl, rfl, rfl⟩ := (hruns ops rs c s').mp hrun
    obtain ⟨hafter, hreply⟩ := Pointer.after_reset hreleased
    have hreset := (Pointer.performs_iff hrules hdrains _ .reset).mpr
      ⟨hreply.symm, congrArg (Pointer.cursor source) hafter.symm, rfl⟩
    exact .cons hreset (.cons ⟨.ok tokens, hdrains, rfl⟩ (.nil _ _))
  · intro x b hstateless
    let source : Source Refusal Bench := ⟨x.definitions.map (·.rule), x.text⟩
    have hsource : ∀ rule ∈ source.rules,
        ∃ d ∈ x.definitions, rule = d.rule := by
      intro rule hmem
      obtain ⟨d, hd, rfl⟩ := List.mem_map.mp hmem
      exact ⟨d, hd, rfl⟩
    have hrules : ∀ rule ∈ source.rules, rule.Stateless := by
      intro rule hmem
      obtain ⟨d, hd, rfl⟩ := hsource rule hmem
      exact d.rule_stateless (hstateless d hd) .machine
    have hanchored : ∀ rule ∈ source.rules, rule.Anchored source.text := by
      intro rule hmem
      obtain ⟨d, hd, rfl⟩ := hsource rule hmem
      exact d.rule_anchored (hstateless d hd) .machine source.text
    obtain ⟨tokens, last, hdrains⟩ := drains_of_stateless hrules hanchored b
    refine ⟨tokens, ((hdrains.unique (x.tokens_drains b)).1).symm, ?_⟩
    intro ops
    refine Pointer.actAll_cursor x ?_ hrules hdrains Pointer.front ops
    intro rule hmem
    obtain ⟨d, _, rfl⟩ := hsource rule hmem
    exact ⟨d, .machine, rfl⟩

theorem cursor_simulates_pointer_abab :
    let x : Scanner :=
      ⟨[⟨.int 2, .keyword 1 #[97, 98]⟩], #[97, 98, 97, 98, 33]⟩
    let first : Token := ⟨0, .int 2, #[97, 98]⟩
    let second : Token := ⟨2, .int 2, #[97, 98]⟩
    (∀ d ∈ x.definitions, d.matcher.isStateless = true) ∧
    (OpenCursor.mk x x.cursor).actAll .empty
        [.drain, .reset, .take 1, .release, .reset, .advance] =
      ([.ok (.tokens [first, second]), .ok .nothing, .ok (.tokens [first]),
          .ok .nothing, .error (.cursor .released), .ok (.flag false)],
        ⟨x, ⟨none, 2, none, true⟩⟩, .empty) := by
  intro x first second
  have hstateless : ∀ d ∈ x.definitions, d.matcher.isStateless = true := by
    decide
  obtain ⟨tokens, htokens, hacts⟩ :=
    cursor_simulates_pointer.2 x .empty hstateless
  have hrun : (x.tokens .empty).1 = .ok [first, second] := by rfl
  rw [hrun] at htokens
  cases htokens
  exact ⟨hstateless, hacts _⟩

end FirstMatch
