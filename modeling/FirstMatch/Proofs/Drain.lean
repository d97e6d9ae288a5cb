import FirstMatch.Cursor

/-!
# Draining a cursor

With arbitrary rules draining need not come to an end, so it is a relation between the
cursor before and the cursor after.  It is built from single steps alone, and it has at
most one outcome.  What the rules can do together is said once, by `Rule.Answers`, and what
a step can do once, by `Cursor.Steps`.
-/

namespace FirstMatch

variable {ε σ : Type}

namespace Rule

inductive AllDecline (t : Text) (p : Int) :
    List (Rule ε σ) → σ → σ → Prop
  | nil (s : σ) : AllDecline t p [] s s
  | cons {rule : Rule ε σ} {rest : List (Rule ε σ)} {s s₁ s' : σ}
      {answer : Option Text}
      (hask : rule.ask t p s = (.ok answer, s₁))
      (hempty : answer = none ∨ answer = some #[])
      (hrest : AllDecline t p rest s₁ s') :
      AllDecline t p (rule :: rest) s s'

/-- All that can come of asking the rules in order: they all decline, or those
in front of one decline and that one decides. -/
inductive Answers (t : Text) (p : Int) :
    List (Rule ε σ) → σ → Except ε (Option (Datum × Text)) → σ → Prop
  | declined {rules : List (Rule ε σ)} {s s' : σ}
      (hall : AllDecline t p rules s s') :
      Answers t p rules s (.ok none) s'
  | found (before : List (Rule ε σ)) {after : List (Rule ε σ)}
      {rule : Rule ε σ} {s s₁ s' : σ} {v : Text}
      (hall : AllDecline t p before s s₁)
      (hask : rule.ask t p s₁ = (.ok (some v), s'))
      (hne : v ≠ #[]) :
      Answers t p (before ++ rule :: after) s (.ok (some (rule.kind, v))) s'
  | refused (before : List (Rule ε σ)) {after : List (Rule ε σ)}
      {rule : Rule ε σ} {s s₁ s' : σ} {e : ε}
      (hall : AllDecline t p before s s₁)
      (hask : rule.ask t p s₁ = (.error e, s')) :
      Answers t p (before ++ rule :: after) s (.error e) s'

theorem Answers.cons
    {t : Text} {p : Int} {rule : Rule ε σ} {rest : List (Rule ε σ)}
    {s s₁ s' : σ} {answer : Option Text}
    {r : Except ε (Option (Datum × Text))}
    (hask : rule.ask t p s = (.ok answer, s₁))
    (hempty : answer = none ∨ answer = some #[])
    (hrest : Answers t p rest s₁ r s') :
    Answers t p (rule :: rest) s r s' := by
  cases hrest with
  | declined hall => exact .declined (.cons hask hempty hall)
  | found before hall hfound hne =>
      exact .found (rule :: before) (.cons hask hempty hall) hfound hne
  | refused before hall hrefused =>
      exact .refused (rule :: before) (.cons hask hempty hall) hrefused

theorem Answers.ne_empty
    {t : Text} {p : Int} {rules : List (Rule ε σ)} {s s' : σ}
    {kind : Datum} {v : Text}
    (h : Answers t p rules s (.ok (some (kind, v))) s') :
    v ≠ #[] := by
  cases h with
  | found _ _ _ hne => exact hne

theorem Answers.allDecline
    {t : Text} {p : Int} {rules : List (Rule ε σ)} {s s' : σ}
    (h : Answers t p rules s (.ok none) s') :
    AllDecline t p rules s s' := by
  cases h with
  | declined hall => exact hall

theorem firstAnswer_answers
    (t : Text) (p : Int) (rules : List (Rule ε σ)) (s : σ) :
    Answers t p rules s
      (firstAnswer t p rules s).1 (firstAnswer t p rules s).2 := by
  induction rules generalizing s with
  | nil => exact .declined (.nil s)
  | cons rule rest ih =>
      unfold firstAnswer
      split
      next e s₁ hask =>
        exact .refused [] (.nil s) hask
      next s₁ hask =>
        exact (ih s₁).cons hask (.inl rfl)
      next v s₁ hask =>
        split
        next hv =>
          exact (ih s₁).cons hask (.inr (by simpa using hv))
        next hv =>
          exact .found [] (.nil s) hask (by simpa using hv)

theorem Answers.of_firstAnswer
    {t : Text} {p : Int} {rules : List (Rule ε σ)} {s s' : σ}
    {r : Except ε (Option (Datum × Text))}
    (h : firstAnswer t p rules s = (r, s')) :
    Answers t p rules s r s' := by
  have hanswers := firstAnswer_answers t p rules s
  rw [h] at hanswers
  exact hanswers

theorem AllDecline.firstAnswer_append
    {t : Text} {p : Int} {before : List (Rule ε σ)} {s s₁ : σ}
    (h : AllDecline t p before s s₁) (rest : List (Rule ε σ)) :
    firstAnswer t p (before ++ rest) s = firstAnswer t p rest s₁ := by
  induction h with
  | nil => rfl
  | cons hask hempty _ ih =>
      rw [List.cons_append, firstAnswer, hask]
      rcases hempty with rfl | rfl
      · exact ih
      · simpa using ih

theorem Answers.firstAnswer_eq
    {t : Text} {p : Int} {rules : List (Rule ε σ)} {s s' : σ}
    {r : Except ε (Option (Datum × Text))}
    (h : Answers t p rules s r s') :
    firstAnswer t p rules s = (r, s') := by
  cases h with
  | declined hall => simpa [firstAnswer] using hall.firstAnswer_append []
  | found before hall hask hne =>
      rw [hall.firstAnswer_append, firstAnswer, hask]
      simp [hne]
  | refused before hall hask =>
      rw [hall.firstAnswer_append, firstAnswer, hask]

end Rule

namespace Cursor

/-! ## Single steps -/

inductive Steps (c : Cursor ε σ) (s : σ) :
    Except (Failure ε) (Option Token) → Cursor ε σ → σ → Prop
  | idle (h : c.exhausted = true ∨ c.source = none) :
      Steps c s (.ok none) c s
  | refused {source : Source ε σ} {e : ε} {s' : σ}
      (hsource : c.source = some source) (hlive : c.exhausted = false)
      (hanswers : Rule.Answers source.text c.position source.rules s
        (.error e) s') :
      Steps c s (.error (.refused e)) c s'
  | exhausted {source : Source ε σ} {s' : σ}
      (hsource : c.source = some source) (hlive : c.exhausted = false)
      (hanswers : Rule.Answers source.text c.position source.rules s
        (.ok none) s') :
      Steps c s (.ok none) { c with exhausted := true, current := none } s'
  | token {source : Source ε σ} {kind : Datum} {v : Text} {s' : σ}
      (hsource : c.source = some source) (hlive : c.exhausted = false)
      (hanswers : Rule.Answers source.text c.position source.rules s
        (.ok (some (kind, v))) s') :
      Steps c s (.ok (some ⟨c.position, kind, v⟩))
        { c with
          current := some ⟨c.position, kind, v⟩
          position := c.position + v.size } s'

theorem step_steps (c : Cursor ε σ) (s : σ) :
    Steps c s (c.step s).1 (c.step s).2.1 (c.step s).2.2 := by
  unfold step
  split
  next source hlive hsource =>
    split
    next e s' hfirst =>
      exact .refused hsource hlive (.of_firstAnswer hfirst)
    next s' hfirst =>
      exact .exhausted hsource hlive (.of_firstAnswer hfirst)
    next kind v s' hfirst =>
      have hanswers := Rule.Answers.of_firstAnswer hfirst
      rw [Token.build_of_ne hanswers.ne_empty]
      exact .token hsource hlive hanswers
  next hidle =>
    refine .idle ?_
    cases hexhausted : c.exhausted with
    | true => exact .inl rfl
    | false =>
        cases hsource : c.source with
        | none => exact .inr rfl
        | some source => exact absurd hsource (hidle source hexhausted)

theorem Steps.of_step
    {c c' : Cursor ε σ} {s s' : σ}
    {r : Except (Failure ε) (Option Token)}
    (h : c.step s = (r, c', s')) :
    Steps c s r c' s' := by
  have hsteps := step_steps c s
  rw [h] at hsteps
  exact hsteps

theorem step_of_exhausted
    {c : Cursor ε σ} (h : c.exhausted = true) (s : σ) :
    c.step s = (.ok none, c, s) := by
  simp [step, h]

theorem step_of_released
    {c : Cursor ε σ} (h : c.source = none) (s : σ) :
    c.step s = (.ok none, c, s) := by
  simp [step, h]

theorem Steps.source_eq
    {c c' : Cursor ε σ} {s s' : σ}
    {r : Except (Failure ε) (Option Token)}
    (h : Steps c s r c' s') :
    c'.source = c.source := by
  cases h <;> rfl

/-! ## Whole runs -/

/-- Asking `c` for tokens until it has none left gives the tokens of the result,
or the failure that came first, and leaves `c'`. -/
inductive Drains :
    Cursor ε σ → σ → Except (Failure ε) (List Token) → Cursor ε σ → σ → Prop
  | finished {c c' : Cursor ε σ} {s s' : σ}
      (hstep : c.step s = (.ok none, c', s')) :
      Drains c s (.ok []) c' s'
  | failed {c c' : Cursor ε σ} {s s' : σ} {e : Failure ε}
      (hstep : c.step s = (.error e, c', s')) :
      Drains c s (.error e) c' s'
  | token {c c₁ c' : Cursor ε σ} {s s₁ s' : σ} {a : Token}
      {r : Except (Failure ε) (List Token)}
      (hstep : c.step s = (.ok (some a), c₁, s₁))
      (hrest : Drains c₁ s₁ r c' s') :
      Drains c s (r.map (a :: ·)) c' s'

theorem Drains.step_of_nil
    {c c' : Cursor ε σ} {s s' : σ} (h : Drains c s (.ok []) c' s') :
    c.step s = (.ok none, c', s') := by
  generalize hr : (.ok [] : Except (Failure ε) (List Token)) = r at h
  cases h with
  | finished hstep => exact hstep
  | failed => cases hr
  | @token _ _ _ _ _ _ _ r _ _ => cases r <;> simp [Except.map] at hr

theorem Drains.step_of_cons
    {c c' : Cursor ε σ} {s s' : σ} {a : Token} {rest : List Token}
    (h : Drains c s (.ok (a :: rest)) c' s') :
    ∃ c₁ s₁, c.step s = (.ok (some a), c₁, s₁) ∧
      Drains c₁ s₁ (.ok rest) c' s' := by
  generalize hr : (.ok (a :: rest) : Except (Failure ε) (List Token)) = r at h
  cases h with
  | finished => cases hr
  | failed => cases hr
  | @token _ c₁ _ _ s₁ _ b r hstep hrest =>
      cases r with
      | error e => simp [Except.map] at hr
      | ok found =>
          simp only [Except.map, Except.ok.injEq, List.cons.injEq] at hr
          obtain ⟨rfl, rfl⟩ := hr
          exact ⟨c₁, s₁, hstep, hrest⟩

theorem Drains.unique
    {c c₁ c₂ : Cursor ε σ} {s s₁ s₂ : σ}
    {r₁ r₂ : Except (Failure ε) (List Token)}
    (h₁ : Drains c s r₁ c₁ s₁) (h₂ : Drains c s r₂ c₂ s₂) :
    r₁ = r₂ ∧ c₁ = c₂ ∧ s₁ = s₂ := by
  induction h₁ generalizing r₂ c₂ s₂ with
  | finished hstep =>
      cases h₂ <;> simp_all
  | failed hstep =>
      cases h₂ <;> simp_all
  | token hstep _ ih =>
      cases h₂ with
      | finished hstep₂ => simp [hstep] at hstep₂
      | failed hstep₂ => simp [hstep] at hstep₂
      | token hstep₂ hrest₂ =>
          rw [hstep] at hstep₂
          cases hstep₂
          obtain ⟨rfl, rfl, rfl⟩ := ih hrest₂
          exact ⟨rfl, rfl, rfl⟩

theorem gather_append
    (n : Nat) (found : Array Token) (c : Cursor ε σ) (s : σ) :
    gather n found c s =
      ((gather n #[] c s).1.map (found ++ ·), (gather n #[] c s).2) := by
  induction n generalizing found c s with
  | zero => simp [gather, Except.map]
  | succ n ih =>
      unfold gather
      cases hstep : c.step s with
      | mk result next =>
          obtain ⟨c₁, s₁⟩ := next
          cases result with
          | error e => simp [Except.map]
          | ok answer =>
              cases answer with
              | none => simp [Except.map]
              | some a =>
                  simp only
                  rw [ih (found.push a), ih (#[].push a)]
                  cases (gather n #[] c₁ s₁).1 <;> simp [Except.map]

@[simp] theorem take_zero (c : Cursor ε σ) (s : σ) :
    c.take 0 s = (.ok [], c, s) := rfl

theorem take_succ (n : Nat) (c : Cursor ε σ) (s : σ) :
    c.take (n + 1) s =
      match c.step s with
      | (.ok (some a), c₁, s₁) =>
        ((c₁.take n s₁).1.map (a :: ·), (c₁.take n s₁).2)
      | (.ok none, c₁, s₁) => (.ok [], c₁, s₁)
      | (.error e, c₁, s₁) => (.error e, c₁, s₁) := by
  unfold take
  rw [gather]
  cases hstep : c.step s with
  | mk result next =>
      obtain ⟨c₁, s₁⟩ := next
      cases result with
      | error e => rfl
      | ok answer =>
          cases answer with
          | none => rfl
          | some a =>
              simp only
              rw [gather_append]
              cases (gather n #[] c₁ s₁).1 <;> simp [Except.map]

/-- Abstract rank argument.  If every token lowers the rank of the cursor, then
taking more tokens than the rank drains it. -/
theorem drains_take_of_rank
    (Good : Cursor ε σ → σ → Prop) (rank : Cursor ε σ → σ → Nat)
    (hprogress : ∀ {c c' : Cursor ε σ} {s s' : σ} {a : Token}, Good c s →
      c.step s = (.ok (some a), c', s') → Good c' s' ∧ rank c' s' < rank c s)
    {c : Cursor ε σ} {s : σ} (hgood : Good c s) {n : Nat}
    (hrank : rank c s < n) :
    Drains c s (c.take n s).1 (c.take n s).2.1 (c.take n s).2.2 := by
  induction n generalizing c s with
  | zero => omega
  | succ n ih =>
      rw [take_succ]
      cases hstep : c.step s with
      | mk result next =>
          obtain ⟨c₁, s₁⟩ := next
          cases result with
          | error e => exact .failed hstep
          | ok answer =>
              cases answer with
              | none => exact .finished hstep
              | some a =>
                  obtain ⟨hgood₁, hlt⟩ := hprogress hgood hstep
                  exact .token hstep (ih hgood₁ (by omega))

end Cursor

end FirstMatch
