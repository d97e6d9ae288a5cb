import FirstMatch.Proofs.Drain
import FirstMatch.Scanner

/-!
# The budget of a scanner's cursor

The budget counts the characters in front of the cursor and the answers that scripted
matchers have left.  Every token uses up one or the other, so taking as many tokens as the
budget allows is draining in the sense of single steps.
-/

namespace FirstMatch

namespace Bench

theorem countAnswers_takeAnswer_le
    (identity : Nat) (scripts : List (Nat × List Answer)) :
    countAnswers (takeAnswer identity scripts).2 ≤ countAnswers scripts := by
  induction scripts with
  | nil => simp [takeAnswer]
  | cons script rest ih =>
      obtain ⟨i, answers⟩ := script
      unfold takeAnswer
      split
      next =>
        cases answers with
        | nil => simp
        | cons answer answers =>
            simp only [countAnswers, List.length_cons]
            omega
      next =>
        simp only [countAnswers]
        omega

theorem countAnswers_takeAnswer_lt
    {identity : Nat} {scripts : List (Nat × List Answer)}
    (h : (takeAnswer identity scripts).1 ≠ .nothing) :
    countAnswers (takeAnswer identity scripts).2 < countAnswers scripts := by
  induction scripts with
  | nil => simp [takeAnswer] at h
  | cons script rest ih =>
      obtain ⟨i, answers⟩ := script
      unfold takeAnswer at h ⊢
      by_cases hi : i = identity
      · simp only [if_pos hi] at h ⊢
        cases answers with
        | nil => simp at h
        | cons answer answers =>
            simp only [countAnswers, List.length_cons]
            omega
      · simp only [if_neg hi] at h ⊢
        have hrest := ih h
        simp only [countAnswers]
        omega

theorem answersLeft_call_le (b : Bench) (identity : Nat) (call : Call) :
    (b.call identity call).2.answersLeft ≤ b.answersLeft :=
  countAnswers_takeAnswer_le identity b.scripts

theorem answersLeft_call_lt
    {b : Bench} {identity : Nat} {call : Call}
    (h : (b.call identity call).1 ≠ .nothing) :
    (b.call identity call).2.answersLeft < b.answersLeft :=
  countAnswers_takeAnswer_lt h

end Bench

namespace Text

theorem lt_size_of_slice_ne {t : Text} {i j : Nat} (h : t.slice i j ≠ #[]) :
    i < t.size := by
  have hlt := Array.lt_of_extract_ne_empty h
  omega

theorem lt_size_of_slice_clamp_ne {t : Text} {p : Int} {j : Nat}
    (h : t.slice (t.clamp p) j ≠ #[]) :
    p < t.size := by
  have hlt := lt_size_of_slice_ne h
  unfold clamp at hlt
  omega

end Text

namespace Matcher

variable {starts : Starts}

theorem answersLeft_ask_le
    {m : Matcher} {t : Text} {p : Int} {b b' : Bench}
    {r : Except Refusal (Option Text)}
    (h : m.ask t p b starts = (r, b')) :
    b'.answersLeft ≤ b.answersLeft := by
  rw [show b' = (m.ask t p b starts).2 by rw [h]]
  cases m with
  | pattern q => exact Nat.le_refl _
  | keyword identity word => exact Nat.le_refl _
  | scripted identity name =>
      have hle := b.answersLeft_call_le identity ⟨name, t.size, p⟩
      simp only [ask]
      cases hcall : b.call identity ⟨name, t.size, p⟩ with
      | mk answer b' =>
          rw [hcall] at hle
          cases answer <;> exact hle

theorem le_keywordPlace (t : Text) (p : Int) : p ≤ keywordPlace t p := by
  unfold keywordPlace
  split <;> omega

theorem keywordPlace_place (t : Text) (n : Nat) : keywordPlace t n = n := by
  unfold keywordPlace
  split <;> omega

theorem slice_of_keywordAt
    {word t v : Text} {p : Int} (h : keywordAt word t p = some v) :
    keywordPlace t p ≤ t.size ∧
      v = t.slice (keywordPlace t p) (keywordPlace t p + v.size) := by
  unfold keywordAt at h
  split at h
  next hat =>
    cases h
    obtain ⟨hstop, hhas⟩ := hat
    refine ⟨hstop, ?_⟩
    unfold Text.hasAt at hhas
    exact (beq_iff_eq.mp hhas).symm
  next => cases h

/-- A non-empty answer either starts in front of the end of the text, or is one
of those that a script had left. -/
theorem ask_uses_up
    {m : Matcher} {t : Text} {p : Int} {b b' : Bench} {v : Text}
    (h : m.ask t p b starts = (.ok (some v), b')) (hne : v ≠ #[]) :
    (p < t.size ∧ b'.answersLeft = b.answersLeft) ∨
      b'.answersLeft < b.answersLeft := by
  cases m with
  | pattern q =>
      by_cases htakes : starts.takes t p = true
      · simp only [ask_pattern_of_takes htakes, Prod.mk.injEq, Except.ok.injEq] at h
        obtain ⟨hmatch, rfl⟩ := h
        unfold Pattern.matchAt at hmatch
        obtain ⟨stop, _, rfl⟩ := Option.map_eq_some_iff.mp hmatch
        exact .inl ⟨Text.lt_size_of_slice_clamp_ne hne, rfl⟩
      · simp [ask, htakes] at h
  | keyword identity word =>
      simp only [ask, Prod.mk.injEq, Except.ok.injEq] at h
      obtain ⟨hword, rfl⟩ := h
      obtain ⟨_, hslice⟩ := slice_of_keywordAt hword
      rw [hslice] at hne
      have hlt := Text.lt_size_of_slice_ne hne
      have hle := le_keywordPlace t p
      exact .inl ⟨by omega, rfl⟩
  | scripted identity name =>
      have hlt := @Bench.answersLeft_call_lt b identity ⟨name, t.size, p⟩
      simp only [ask] at h
      cases hcall : b.call identity ⟨name, t.size, p⟩ with
      | mk answer b₁ =>
          rw [hcall] at h hlt
          cases answer with
          | nothing => cases h
          | refusal message => cases h
          | found value =>
              cases h
              exact .inr (hlt (by simp))

end Matcher

namespace Rule

variable {t : Text} {p : Int} {rules : List (Rule Refusal Bench)} {b b' : Bench}

theorem AllDecline.answersLeft_le
    (hrules : ∀ rule ∈ rules, ∃ (d : Definition) (starts : Starts), rule = d.rule starts)
    (h : AllDecline t p rules b b') :
    b'.answersLeft ≤ b.answersLeft := by
  induction h with
  | nil => exact Nat.le_refl _
  | cons hask _ _ ih =>
      obtain ⟨d, starts, rfl⟩ := hrules _ List.mem_cons_self
      have hfirst := Matcher.answersLeft_ask_le hask
      have hrest := ih fun rule hmem =>
        hrules rule (List.mem_cons_of_mem _ hmem)
      omega

theorem Answers.uses_up
    (hrules : ∀ rule ∈ rules, ∃ (d : Definition) (starts : Starts), rule = d.rule starts)
    {kind : Datum} {v : Text}
    (h : Answers t p rules b (.ok (some (kind, v))) b') :
    (p < t.size ∧ b'.answersLeft ≤ b.answersLeft) ∨
      b'.answersLeft < b.answersLeft := by
  cases h with
  | found before hall hask hne =>
      obtain ⟨d, starts, rfl⟩ :=
        hrules _ (List.mem_append_right _ List.mem_cons_self)
      have hbefore := hall.answersLeft_le fun rule hmem =>
        hrules rule (List.mem_append_left _ hmem)
      rcases Matcher.ask_uses_up hask hne with ⟨hlt, heq⟩ | hlt
      · exact .inl ⟨hlt, by omega⟩
      · exact .inr (by omega)

end Rule

namespace Cursor

def Defined (c : Cursor Refusal Bench) : Prop :=
  ∀ source, c.source = some source →
    ∀ rule ∈ source.rules, ∃ (d : Definition) (starts : Starts), rule = d.rule starts

theorem budget_pos
    {c : Cursor Refusal Bench} {source : Source Refusal Bench}
    (hsource : c.source = some source) (b : Bench) :
    0 < c.budget b := by
  unfold budget
  simp only [hsource]
  omega

theorem Steps.budget_lt
    {c c' : Cursor Refusal Bench} {b b' : Bench} {a : Token}
    (h : Steps c b (.ok (some a)) c' b') (hdefined : c.Defined) :
    c'.budget b' < c.budget b := by
  cases h with
  | @token source kind v _ hsource _ hanswers =>
      have huses := hanswers.uses_up (hdefined source hsource)
      have hsize : 0 < v.size := Array.size_pos_iff.mpr hanswers.ne_empty
      unfold budget
      simp only [hsource]
      omega

theorem drain_drains
    {c : Cursor Refusal Bench} (hdefined : c.Defined) (b : Bench) :
    Drains c b (c.drain b).1 (c.drain b).2.1 (c.drain b).2.2 := by
  unfold drain
  cases hsource : c.source with
  | none =>
      have hbudget : c.budget b = 0 := by
        unfold budget
        rw [hsource]
      rw [hbudget, take_zero]
      exact .finished (step_of_released hsource b)
  | some source =>
      have hpos := budget_pos hsource b
      refine drains_take_of_rank (fun c₁ _ => c₁.source = some source)
        (fun c₁ b₁ => c₁.budget b₁ - 1) ?_ hsource ?_
      · intro c₁ c₂ b₁ b₂ a hsource₁ hstep
        have hsteps := Steps.of_step hstep
        have hsource₂ : c₂.source = some source := hsteps.source_eq.trans hsource₁
        have hdefined₁ : c₁.Defined := by
          unfold Defined
          rw [hsource₁, ← hsource]
          exact hdefined
        have hlt := hsteps.budget_lt hdefined₁
        have hpos₂ := budget_pos hsource₂ b₂
        exact ⟨hsource₂, by omega⟩
      · show c.budget b - 1 < c.budget b
        omega

end Cursor

namespace Scanner

theorem cursor_defined (x : Scanner) (starts : Starts := .machine) :
    (x.cursor starts).Defined := by
  intro source hsource rule hmem
  cases hsource
  obtain ⟨d, _, rfl⟩ := List.mem_map.mp hmem
  exact ⟨d, starts, rfl⟩

theorem tokens_drains (x : Scanner) (b : Bench) :
    x.cursor.Drains b (x.tokens b).1 (x.tokens b).2.1 (x.tokens b).2.2 :=
  Cursor.drain_drains x.cursor_defined b

end Scanner

end FirstMatch
