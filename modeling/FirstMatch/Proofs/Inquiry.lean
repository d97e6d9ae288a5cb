import FirstMatch.Proofs.Refusal

/-!
# Which rules are asked, and in what order

The rules of a cursor are replaced by rules that do the same and note every question.  The
notes are part of the state, so the cursor cannot tell the difference, and what it writes
into them is the complete log of its questions.
-/

namespace FirstMatch

variable {ε σ : Type}

/-! ## Rules that take notes -/

structure Inquiry (ε : Type) where
  rule : Nat
  text : Text
  position : Int
  answer : Except ε (Option Text)

/-- The log of asking the rules from number `n` on at one place, if these are
their answers. -/
def Inquiry.round (t : Text) (p : Int) (n : Nat)
    (answers : List (Except ε (Option Text))) : List (Inquiry ε) :=
  (answers.zipIdx n).map fun (answer, i) => ⟨i, t, p, answer⟩

namespace Rule

def noted (n : Nat) (rule : Rule ε σ) : Rule ε (σ × List (Inquiry ε)) where
  kind := rule.kind
  ask := fun t p (s, log) =>
    match rule.ask t p s with
    | (answer, s) => (answer, s, log ++ [⟨n, t, p, answer⟩])

def notedFrom (n : Nat) : List (Rule ε σ) → List (Rule ε (σ × List (Inquiry ε)))
  | [] => []
  | rule :: rest => rule.noted n :: notedFrom (n + 1) rest

inductive Declines (t : Text) (p : Int) :
    List (Rule ε σ) → σ → List (Option Text) → σ → Prop
  | nil (s : σ) : Declines t p [] s [] s
  | cons {rule : Rule ε σ} {rest : List (Rule ε σ)} {s s₁ s' : σ}
      {answer : Option Text} {answers : List (Option Text)}
      (hask : rule.ask t p s = (.ok answer, s₁))
      (hempty : answer = none ∨ answer = some #[])
      (hrest : Declines t p rest s₁ answers s') :
      Declines t p (rule :: rest) s (answer :: answers) s'

inductive Consults (t : Text) (p : Int) :
    List (Rule ε σ) → σ → List (Except ε (Option Text)) →
      Except ε (Option (Datum × Text)) → σ → Prop
  | found {before after : List (Rule ε σ)} {rule : Rule ε σ}
      {answers : List (Option Text)} {v : Text} {s s₁ s' : σ}
      (hbefore : Declines t p before s answers s₁)
      (hask : rule.ask t p s₁ = (.ok (some v), s')) (hne : v ≠ #[]) :
      Consults t p (before ++ rule :: after) s
        (answers.map .ok ++ [.ok (some v)]) (.ok (some (rule.kind, v))) s'
  | declined {rules : List (Rule ε σ)} {answers : List (Option Text)}
      {s s' : σ} (hall : Declines t p rules s answers s') :
      Consults t p rules s (answers.map .ok) (.ok none) s'
  | refused {before after : List (Rule ε σ)} {rule : Rule ε σ}
      {answers : List (Option Text)} {e : ε} {s s₁ s' : σ}
      (hbefore : Declines t p before s answers s₁)
      (hask : rule.ask t p s₁ = (.error e, s')) :
      Consults t p (before ++ rule :: after) s
        (answers.map .ok ++ [.error e]) (.error e) s'

end Rule

namespace Cursor

def noted (c : Cursor ε σ) : Cursor ε (σ × List (Inquiry ε)) where
  source := c.source.map fun x => ⟨Rule.notedFrom 0 x.rules, x.text⟩
  position := c.position
  current := c.current
  exhausted := c.exhausted

def asked (c : Cursor ε σ) (s : σ) : List (Inquiry ε) :=
  (c.noted.advance (s, [])).2.2.2

inductive Inquires (c : Cursor ε σ) (s : σ) :
    List (Inquiry ε) → Except (Failure ε) Bool → Cursor ε σ → σ → Prop
  | idle (h : c.exhausted = true ∨ c.source = none) :
      Inquires c s [] (.ok false) c s
  | consults {source : Source ε σ} {answers : List (Except ε (Option Text))}
      {r : Except ε (Option (Datum × Text))} {s' : σ}
      (hsource : c.source = some source) (hlive : c.exhausted = false)
      (hanswers : Rule.Consults source.text c.position source.rules s answers
        r s') :
      Inquires c s (Inquiry.round source.text c.position 0 answers)
        (c.react r).1 (c.react r).2 s'

end Cursor

/-! ## One request -/

namespace Inquiry

theorem round_nil (t : Text) (p : Int) (n : Nat) :
    round t p n ([] : List (Except ε (Option Text))) = [] :=
  rfl

theorem round_cons
    (t : Text) (p : Int) (n : Nat) (answer : Except ε (Option Text))
    (answers : List (Except ε (Option Text))) :
    round t p n (answer :: answers) =
      ⟨n, t, p, answer⟩ :: round t p (n + 1) answers := by
  simp [round]

theorem round_append
    (t : Text) (p : Int) (n : Nat)
    (answers answers' : List (Except ε (Option Text))) :
    round t p n (answers ++ answers') =
      round t p n answers ++ round t p (n + answers.length) answers' := by
  simp [round, List.zipIdx_append]

end Inquiry

namespace Rule

variable {t : Text} {p : Int} {rules : List (Rule ε σ)} {s s' : σ}

theorem Declines.length_eq
    {answers : List (Option Text)} (h : Declines t p rules s answers s') :
    answers.length = rules.length := by
  induction h with
  | nil => rfl
  | cons _ _ _ ih => simp [ih]

theorem AllDecline.exists_declines (h : AllDecline t p rules s s') :
    ∃ answers, Declines t p rules s answers s' := by
  induction h with
  | nil s => exact ⟨[], .nil s⟩
  | @cons _ _ _ _ _ answer hask hempty _ ih =>
      obtain ⟨answers, hanswers⟩ := ih
      exact ⟨answer :: answers, .cons hask hempty hanswers⟩

theorem Answers.exists_consults
    {r : Except ε (Option (Datum × Text))} (h : Answers t p rules s r s') :
    ∃ answers, Consults t p rules s answers r s' := by
  cases h with
  | declined hall =>
      obtain ⟨answers, hdeclines⟩ := hall.exists_declines
      exact ⟨_, .declined hdeclines⟩
  | found before hall hask hne =>
      obtain ⟨answers, hdeclines⟩ := hall.exists_declines
      exact ⟨_, .found hdeclines hask hne⟩
  | refused before hall hask =>
      obtain ⟨answers, hdeclines⟩ := hall.exists_declines
      exact ⟨_, .refused hdeclines hask⟩

theorem notedFrom_append (n : Nat) (before after : List (Rule ε σ)) :
    notedFrom n (before ++ after) =
      notedFrom n before ++ notedFrom (n + before.length) after := by
  induction before generalizing n with
  | nil => rfl
  | cons rule before ih =>
      have hn : n + 1 + before.length = n + (before.length + 1) := by omega
      simp only [List.cons_append, notedFrom, ih, List.length_cons, hn]

theorem noted_ask
    {rule : Rule ε σ} {answer : Except ε (Option Text)}
    (h : rule.ask t p s = (answer, s')) (n : Nat) (log : List (Inquiry ε)) :
    (rule.noted n).ask t p (s, log) =
      (answer, s', log ++ [⟨n, t, p, answer⟩]) := by
  simp only [noted, h]

theorem Declines.noted
    {answers : List (Option Text)} (h : Declines t p rules s answers s')
    (n : Nat) (log : List (Inquiry ε)) :
    AllDecline t p (notedFrom n rules) (s, log)
      (s', log ++ Inquiry.round t p n (answers.map .ok)) := by
  induction h generalizing n log with
  | nil s =>
      rw [List.map_nil, Inquiry.round_nil, List.append_nil]
      exact .nil (s, log)
  | @cons rule _ _ _ _ answer answers hask hempty _ ih =>
      have hrest := ih (n + 1) (log ++ [⟨n, t, p, .ok answer⟩])
      rw [List.append_assoc, List.singleton_append, ← Inquiry.round_cons] at hrest
      exact .cons (noted_ask hask n log) hempty hrest

theorem Declines.noted_ask
    {answers : List (Option Text)} (h : Declines t p rules s answers s')
    {rule : Rule ε σ} {answer : Except ε (Option Text)} {s₂ : σ}
    (hask : rule.ask t p s' = (answer, s₂)) (n : Nat) (log : List (Inquiry ε)) :
    (rule.noted (n + rules.length)).ask t p
        (s', log ++ Inquiry.round t p n (answers.map .ok)) =
      (answer, s₂,
        log ++ Inquiry.round t p n (answers.map .ok ++ [answer])) := by
  rw [Rule.noted_ask hask, Inquiry.round_append, List.length_map, h.length_eq,
    List.append_assoc]
  rfl

/-- Rules that take notes answer in the same way, and write the round down. -/
theorem Consults.noted
    {answers : List (Except ε (Option Text))}
    {r : Except ε (Option (Datum × Text))}
    (h : Consults t p rules s answers r s')
    (n : Nat) (log : List (Inquiry ε)) :
    Answers t p (notedFrom n rules) (s, log) r
      (s', log ++ Inquiry.round t p n answers) := by
  cases h with
  | found hbefore hask hne =>
      rw [notedFrom_append]
      exact .found _ (hbefore.noted n log) (hbefore.noted_ask hask n log) hne
  | declined hall => exact .declined (hall.noted n log)
  | refused hbefore hask =>
      rw [notedFrom_append]
      exact .refused _ (hbefore.noted n log) (hbefore.noted_ask hask n log)

end Rule

namespace Cursor

variable {c c' : Cursor ε σ} {s s' : σ}

theorem noted_react (c : Cursor ε σ) (r : Except ε (Option (Datum × Text))) :
    c.noted.react r = ((c.react r).1, (c.react r).2.noted) := by
  cases r with
  | error e => rfl
  | ok answer => cases answer <;> rfl

theorem advance_of_step
    {r : Except (Failure ε) (Option Token)}
    (hstep : c.step s = (r, c', s')) :
    c.advance s = (r.map (·.isSome), c', s') := by
  unfold advance
  rw [hstep]

theorem step_of_advance
    {r : Except (Failure ε) (Option Token)}
    (hadvance : c.advance s = (r.map (·.isSome), c', s'))
    (hcurrent : ∀ a, r = .ok (some a) → c'.current = some a) :
    c.step s = (r, c', s') := by
  cases hstep : c.step s with
  | mk r₁ next =>
      obtain ⟨c₁, s₁⟩ := next
      rw [advance_of_step hstep, Prod.mk.injEq, Prod.mk.injEq] at hadvance
      obtain ⟨hr, rfl, rfl⟩ := hadvance
      have heq : r₁ = r := by
        cases r₁ with
        | error f =>
            cases r with
            | error g =>
                cases hr
                rfl
            | ok answer => cases hr
        | ok answer₁ =>
            cases r with
            | error g => cases hr
            | ok answer =>
                cases answer₁ with
                | none =>
                    cases answer with
                    | none => rfl
                    | some a => simp [Except.map] at hr
                | some a₁ =>
                    have hmade := (step_eq_token_iff.mp hstep).2
                    cases answer with
                    | none => simp [Except.map] at hr
                    | some a =>
                        rw [← hcurrent a rfl, hmade]
      rw [heq]

theorem advance_of_idle
    (h : c.exhausted = true ∨ c.source = none) (s : σ) :
    c.advance s = (.ok false, c, s) := by
  apply advance_of_step (r := .ok none)
  rcases h with hexhausted | hsource
  · exact step_of_exhausted hexhausted s
  · exact step_of_released hsource s

/-- With rules that take notes, a request does the same and writes down what it
asks, whatever the notes are. -/
theorem exists_inquires (c : Cursor ε σ) (s : σ) :
    ∃ asked,
      c.Inquires s asked (c.advance s).1 (c.advance s).2.1 (c.advance s).2.2 ∧
      ∀ log, c.noted.advance (s, log) =
        ((c.advance s).1, (c.advance s).2.1.noted, (c.advance s).2.2,
          log ++ asked) := by
  by_cases hidle : c.exhausted = true ∨ c.source = none
  · -- No rule is looked at, whether it takes notes or not.
    have hnoted : c.noted.exhausted = true ∨ c.noted.source = none := by
      apply hidle.imp id
      intro hsource
      simp [noted, hsource]
    rw [advance_of_idle hidle]
    refine ⟨[], .idle hidle, ?_⟩
    intro log
    rw [advance_of_idle hnoted, List.append_nil]
  · rw [not_or, Bool.not_eq_true] at hidle
    obtain ⟨hlive, hsome⟩ := hidle
    obtain ⟨source, hsource⟩ := Option.ne_none_iff_exists'.mp hsome
    have hanswers := Rule.firstAnswer_answers source.text c.position
      source.rules s
    obtain ⟨answers, hconsults⟩ := hanswers.exists_consults
    have hasks : c.Asks s _ _ := ⟨source, hsource, hlive, hanswers⟩
    rw [hasks.advance_eq]
    refine ⟨_, .consults hsource hlive hconsults, ?_⟩
    intro log
    have hnotedSource : c.noted.source =
        some ⟨Rule.notedFrom 0 source.rules, source.text⟩ := by
      simp [noted, hsource]
    have hnotedAsks : c.noted.Asks (s, log) _ _ :=
      ⟨_, hnotedSource, hlive, hconsults.noted 0 log⟩
    rw [hnotedAsks.advance_eq, noted_react]

theorem asked_spec (c : Cursor ε σ) (s : σ) :
    c.Inquires s (c.asked s) (c.advance s).1 (c.advance s).2.1
        (c.advance s).2.2 ∧
      ∀ log, c.noted.advance (s, log) =
        ((c.advance s).1, (c.advance s).2.1.noted, (c.advance s).2.2,
          log ++ c.asked s) := by
  obtain ⟨asked, hinquires, hnoted⟩ := c.exists_inquires s
  have hasked : c.asked s = asked := by
    unfold Cursor.asked
    rw [hnoted]
    rfl
  rw [hasked]
  exact ⟨hinquires, hnoted⟩

theorem step_noted (c : Cursor ε σ) (s : σ) (log : List (Inquiry ε)) :
    c.noted.step (s, log) =
      ((c.step s).1, (c.step s).2.1.noted, (c.step s).2.2,
        log ++ c.asked s) := by
  apply step_of_advance
  · exact (c.asked_spec s).2 log
  · intro a ha
    have hstep : c.step s = (.ok (some a), (c.step s).2.1, (c.step s).2.2) :=
      Prod.ext ha rfl
    exact (step_eq_token_iff.mp hstep).2

theorem reset_noted (c : Cursor ε σ) :
    c.noted.reset = (c.reset.1, c.reset.2.noted) := by
  obtain ⟨source, position, current, exhausted⟩ := c
  cases source <;> rfl

end Cursor

end FirstMatch
