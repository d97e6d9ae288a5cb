import FirstMatch.Proofs.Budget

/-!
# When a rule refuses to answer

A rule can refuse after other rules have been asked for the same token and after other
tokens have been made.  The single step is all or nothing; around it, whatever was made
before the refusal stays made.  Nothing is assumed of the rules.
-/

namespace FirstMatch

variable {ε σ : Type}

namespace Cursor

/-- The cursor, which is neither exhausted nor released, asks its rules from the
first on and at its position, and `r` is what comes of it. -/
def Asks (c : Cursor ε σ) (s : σ) (r : Except ε (Option (Datum × Text)))
    (s' : σ) : Prop :=
  ∃ source, c.source = some source ∧ c.exhausted = false ∧
    Rule.Answers source.text c.position source.rules s r s'

def react (c : Cursor ε σ) :
    Except ε (Option (Datum × Text)) → Except (Failure ε) Bool × Cursor ε σ
  | .error e => (.error (.refused e), c)
  | .ok none => (.ok false, { c with exhausted := true, current := none })
  | .ok (some (kind, v)) =>
    (.ok true,
      { c with
        current := some ⟨c.position, kind, v⟩
        position := c.position + v.size })

inductive Advances :
    Cursor ε σ → σ → List Token → Cursor ε σ → σ → Prop
  | nil (c : Cursor ε σ) (s : σ) : Advances c s [] c s
  | cons {c c₁ c' : Cursor ε σ} {s s₁ s' : σ} {a : Token} {tokens : List Token}
      (hadvance : c.advance s = (.ok true, c₁, s₁))
      (hcurrent : c₁.current = some a)
      (hrest : Advances c₁ s₁ tokens c' s') :
      Advances c s (a :: tokens) c' s'

variable {c c' : Cursor ε σ} {s s' : σ}

/-! ## The single step -/

theorem Asks.advance_eq
    {r : Except ε (Option (Datum × Text))} (h : c.Asks s r s') :
    c.advance s = ((c.react r).1, (c.react r).2, s') := by
  obtain ⟨source, hsource, hlive, hanswers⟩ := h
  obtain ⟨_, position, current, _⟩ := c
  subst hsource hlive
  unfold advance step
  simp only [hanswers.firstAnswer_eq]
  cases r with
  | error e => rfl
  | ok answer =>
      cases answer with
      | none => rfl
      | some found =>
          simp only [Token.build_of_ne hanswers.ne_empty]
          rfl

theorem step_eq_error_iff {f : Failure ε} :
    c.step s = (.error f, c', s') ↔
      ∃ e, f = .refused e ∧ c' = c ∧ c.Asks s (.error e) s' := by
  constructor
  · intro hstep
    cases Steps.of_step hstep with
    | refused hsource hlive hanswers =>
        exact ⟨_, rfl, rfl, _, hsource, hlive, hanswers⟩
  · rintro ⟨e, rfl, rfl, source, hsource, hlive, hanswers⟩
    simp [step, hsource, hlive, hanswers.firstAnswer_eq]

theorem step_eq_token_iff {a : Token} :
    c.step s = (.ok (some a), c', s') ↔
      c.advance s = (.ok true, c', s') ∧ c'.current = some a := by
  unfold advance
  cases hstep : c.step s with
  | mk r next =>
      obtain ⟨c₁, s₁⟩ := next
      cases Steps.of_step hstep with
      | idle => simp [Except.map]
      | refused => simp [Except.map]
      | exhausted => simp [Except.map]
      | token =>
          simp only [Prod.mk.injEq, Except.ok.injEq, Option.some.injEq,
            Except.map, Option.isSome_some, true_and]
          constructor
          · rintro ⟨rfl, rfl, rfl⟩
            exact ⟨⟨rfl, rfl⟩, rfl⟩
          · rintro ⟨⟨rfl, rfl⟩, hcurrent⟩
            exact ⟨Option.some.inj hcurrent, rfl, rfl⟩

theorem advance_eq_refused_iff {e : ε} :
    c.advance s = (.error (.refused e), c', s') ↔
      c' = c ∧ c.Asks s (.error e) s' := by
  constructor
  · intro hadvance
    have hstep : c.step s = (.error (.refused e), c', s') := by
      unfold advance at hadvance
      cases hstep : c.step s with
      | mk r next =>
          obtain ⟨c₁, s₁⟩ := next
          cases r with
          | ok answer => simp [hstep, Except.map] at hadvance
          | error f => simpa [hstep, Except.map] using hadvance
    obtain ⟨_, heq, hc, hasks⟩ := step_eq_error_iff.mp hstep
    cases heq
    exact ⟨hc, hasks⟩
  · rintro ⟨rfl, hasks⟩
    exact hasks.advance_eq

theorem next_eq_refused_iff {e : ε} :
    c.next s = (.error (.refused e), c', s') ↔
      c' = c ∧ c.Asks s (.error e) s' := by
  rw [← advance_eq_refused_iff]
  unfold next advance
  cases c.step s with
  | mk r next =>
      cases r with
      | error f => simp [Except.map]
      | ok answer => cases answer <;> simp [Except.map]

/-- A cursor that met a refusal can be asked again, and then asks its rules from
the first on. -/
theorem Asks.again
    {r : Except ε (Option (Datum × Text))} (h : c.Asks s r s') (s₂ : σ) :
    ∃ r₂ s₃, c.Asks s₂ r₂ s₃ := by
  obtain ⟨source, hsource, hlive, _⟩ := h
  exact ⟨_, _, source, hsource, hlive, Rule.firstAnswer_answers _ _ _ s₂⟩

/-! ## Several steps -/

theorem take_eq_error_iff {n : Nat} {f : Failure ε} :
    c.take n s = (.error f, c', s') ↔
      ∃ tokens s₁ e, tokens.length < n ∧ c.Advances s tokens c' s₁ ∧
        c'.Asks s₁ (.error e) s' ∧ f = .refused e := by
  constructor
  · intro htake
    induction n generalizing c s with
    | zero => simp at htake
    | succ n ih =>
        rw [take_succ] at htake
        cases hstep : c.step s with
        | mk r next =>
            obtain ⟨c₁, s₁⟩ := next
            rw [hstep] at htake
            cases r with
            | error e =>
                cases htake
                obtain ⟨e, rfl, rfl, hasks⟩ := step_eq_error_iff.mp hstep
                exact ⟨[], s, e, Nat.succ_pos n, .nil _ s, hasks, rfl⟩
            | ok answer =>
                cases answer with
                | none => cases htake
                | some a =>
                    have hrest : c₁.take n s₁ = (.error f, c', s') := by
                      cases htail : c₁.take n s₁ with
                      | mk r next =>
                          cases r with
                          | ok rest => simp [htail, Except.map] at htake
                          | error e => simpa [htail, Except.map] using htake
                    obtain ⟨tokens, s₂, e, hlt, hadvances, hasks, hf⟩ := ih hrest
                    have hfirst := step_eq_token_iff.mp hstep
                    exact ⟨a :: tokens, s₂, e, by simpa using hlt,
                      .cons hfirst.1 hfirst.2 hadvances, hasks, hf⟩
  · rintro ⟨tokens, s₁, e, hlt, hadvances, hasks, rfl⟩
    induction hadvances generalizing n with
    | nil c s =>
        obtain ⟨m, rfl⟩ := Nat.exists_eq_succ_of_ne_zero (by omega : n ≠ 0)
        rw [take_succ, step_eq_error_iff.mpr ⟨e, rfl, rfl, hasks⟩]
    | cons hadvance hcurrent _ ih =>
        simp only [List.length_cons] at hlt
        obtain ⟨m, rfl⟩ := Nat.exists_eq_succ_of_ne_zero (by omega : n ≠ 0)
        rw [take_succ, step_eq_token_iff.mpr ⟨hadvance, hcurrent⟩]
        have hrest := ih (n := m) (by omega) hasks
        simp only [hrest]
        rfl

theorem drains_error_iff {f : Failure ε} :
    c.Drains s (.error f) c' s' ↔
      ∃ tokens s₁ e, c.Advances s tokens c' s₁ ∧
        c'.Asks s₁ (.error e) s' ∧ f = .refused e := by
  constructor
  · intro hdrains
    generalize hr : (.error f : Except (Failure ε) (List Token)) = r at hdrains
    induction hdrains with
    | finished => cases hr
    | failed hstep =>
        cases hr
        obtain ⟨e, rfl, rfl, hasks⟩ := step_eq_error_iff.mp hstep
        exact ⟨[], _, e, .nil _ _, hasks, rfl⟩
    | @token _ _ _ _ _ _ a r hstep _ ih =>
        cases r with
        | ok rest => cases hr
        | error e =>
            cases hr
            obtain ⟨tokens, s₁, e, hadvances, hasks, hf⟩ := ih rfl
            have hfirst := step_eq_token_iff.mp hstep
            exact ⟨a :: tokens, s₁, e,
              .cons hfirst.1 hfirst.2 hadvances, hasks, hf⟩
  · rintro ⟨tokens, s₁, e, hadvances, hasks, rfl⟩
    induction hadvances with
    | nil c s => exact .failed (step_eq_error_iff.mpr ⟨e, rfl, rfl, hasks⟩)
    | cons hadvance hcurrent _ ih =>
        have hstep := step_eq_token_iff.mpr ⟨hadvance, hcurrent⟩
        exact .token hstep (ih hasks)

theorem drain_eq_iff
    {c c' : Cursor Refusal Bench} (hdefined : c.Defined) {b b' : Bench}
    {r : Except (Failure Refusal) (List Token)} :
    c.drain b = (r, c', b') ↔ c.Drains b r c' b' := by
  have hdrains := drain_drains hdefined b
  constructor
  · intro heq
    rw [heq] at hdrains
    exact hdrains
  · intro h
    obtain ⟨hr, hc, hb⟩ := hdrains.unique h
    exact Prod.ext hr (Prod.ext hc hb)

end Cursor

/-- Whatever the rules, a refusal leaves the cursor as it was, if one token was
asked for, and where the tokens made before took it, if several were.  The next
token is then looked for from the first rule on and at the same position. -/
theorem refusal_keeps_cursor :
    (∀ (ε σ : Type) (c c' : Cursor ε σ) (s s' : σ) (e : ε),
      (c.advance s = (.error (.refused e), c', s') ↔
        c' = c ∧ c.Asks s (.error e) s') ∧
      (c.next s = (.error (.refused e), c', s') ↔
        c' = c ∧ c.Asks s (.error e) s') ∧
      (∀ n, c.take n s = (.error (.refused e), c', s') ↔
        ∃ tokens s₁, tokens.length < n ∧ c.Advances s tokens c' s₁ ∧
          c'.Asks s₁ (.error e) s') ∧
      (c.Drains s (.error (.refused e)) c' s' ↔
        ∃ tokens s₁, c.Advances s tokens c' s₁ ∧ c'.Asks s₁ (.error e) s') ∧
      (c.Asks s (.error e) s' → ∀ s₂, ∃ r s₃, c.Asks s₂ r s₃ ∧
        c.advance s₂ = ((c.react r).1, (c.react r).2, s₃))) ∧
    ∀ (c c' : Cursor Refusal Bench) (b b' : Bench) (e : Refusal), c.Defined →
      (c.drain b = (.error (.refused e), c', b') ↔
        ∃ tokens b₁, c.Advances b tokens c' b₁ ∧ c'.Asks b₁ (.error e) b') := by
  have hdrains : ∀ (ε σ : Type) (c c' : Cursor ε σ) (s s' : σ) (e : ε),
      c.Drains s (.error (.refused e)) c' s' ↔
        ∃ tokens s₁, c.Advances s tokens c' s₁ ∧ c'.Asks s₁ (.error e) s' := by
    intro ε σ c c' s s' e
    simp [Cursor.drains_error_iff]
  refine ⟨?_, ?_⟩
  · intro ε σ c c' s s' e
    refine ⟨Cursor.advance_eq_refused_iff, Cursor.next_eq_refused_iff, ?_,
      hdrains ε σ c c' s s' e, ?_⟩
    · intro n
      simp [Cursor.take_eq_error_iff]
    · intro hasks s₂
      obtain ⟨r, s₃, hagain⟩ := hasks.again s₂
      exact ⟨r, s₃, hagain, hagain.advance_eq⟩
  · intro c c' b b' e hdefined
    rw [Cursor.drain_eq_iff hdefined]
    exact hdrains Refusal Bench c c' b b' e

/-- The keyword `ab` is found twice, and then a script refuses.  Its next answer
makes a token at the place of the refusal. -/
theorem refusal_keeps_cursor_abab :
    let x : Scanner :=
      ⟨[⟨.int 1, .keyword 0 #[97, 98]⟩, ⟨.int 2, .scripted 1 #[115]⟩],
        #[97, 98, 97, 98, 33]⟩
    let b : Bench :=
      Bench.empty.addScript 1 [.refusal #[110, 111], .found #[33]]
    let c : Cursor Refusal Bench := { x.cursor with
      position := 4
      current := some ⟨2, .int 1, #[97, 98]⟩ }
    let b' : Bench := (x.cursor.drain b).2.2
    x.cursor.drain b = (.error (.refused (.scripted #[110, 111])), c, b') ∧
      (∃ tokens b₁, x.cursor.Advances b tokens c b₁ ∧
        c.Asks b₁ (.error (.scripted #[110, 111])) b') ∧
      (∃ r b₂, c.Asks b' r b₂ ∧
        c.advance b' = ((c.react r).1, (c.react r).2, b₂)) ∧
      (c.advance b').2.1.current = some ⟨4, .int 2, #[33]⟩ := by
  intro x b c b'
  have hrun : x.cursor.drain b = (.error (.refused (.scripted #[110, 111])), c, b') := by
    rfl
  have hmade := (refusal_keeps_cursor.2 x.cursor c b b' (.scripted #[110, 111])
    x.cursor_defined).mp hrun
  obtain ⟨tokens, b₁, hadvances, hasks⟩ := hmade
  have hagain := (refusal_keeps_cursor.1 _ _ c c b₁ b' (.scripted #[110, 111])).2.2.2.2
    hasks b'
  exact ⟨hrun, ⟨tokens, b₁, hadvances, hasks⟩, hagain, rfl⟩

end FirstMatch
