import FirstMatch.Proofs.Walk
import Mathlib.Data.Option.Basic

/-!
# Pausing on the way

A cursor may be asked for some tokens first and drained later.  Rules that change their
answers from call to call would notice a single question too many or too few.  There is
none, because taking tokens stops with the answer that makes the last of them.
-/

namespace FirstMatch

variable {ε σ : Type}

def Inquiry.Made (q : Inquiry ε) (a : Token) : Prop :=
  q.position = a.index ∧ q.answer = .ok (some a.value)

namespace Cursor

variable {c c₁ c' : Cursor ε σ} {s s₁ s' : σ}

/-! ## Single requests -/

theorem step_of_step_none
    (hstep : c.step s = (.ok none, c', s')) (u : σ) :
    c'.step u = (.ok none, c', u) := by
  cases Steps.of_step hstep with
  | idle h =>
      rcases h with hexhausted | hreleased
      · exact step_of_exhausted hexhausted u
      · exact step_of_released hreleased u
  | exhausted => exact step_of_exhausted rfl u

/-- A request that makes a token asks nothing after the answer that makes it. -/
theorem asked_of_step_token
    {a : Token} (hstep : c.step s = (.ok (some a), c', s')) :
    ∃ earlier q, c.asked s = earlier ++ [q] ∧ q.Made a := by
  obtain ⟨hadvance, hcurrent⟩ := step_eq_token_iff.mp hstep
  have hinquires := (c.asked_spec s).1
  rw [hadvance] at hinquires
  generalize hasked : c.asked s = asked at hinquires
  generalize hflag : (.ok true : Except (Failure ε) Bool) = flag at hinquires
  cases hinquires with
  | idle => cases hflag
  | @consults source answers r _ _ _ hconsults =>
      generalize source.rules = rules at hconsults
      cases hconsults with
      | declined => cases hflag
      | refused => cases hflag
      | @found before _ rule answers v _ _ _ hbefore hask hne =>
          have ha : a = ⟨c.position, rule.kind, v⟩ := (Option.some.inj hcurrent).symm
          rw [Inquiry.round_append]
          refine ⟨_, _, rfl, ?_⟩
          rw [ha]
          exact ⟨rfl, rfl⟩

/-! ## Several tokens -/

theorem take_succ_eq_ok
    {n : Nat} {found : List Token}
    (h : c.take (n + 1) s = (.ok found, c', s')) :
    (c.step s = (.ok none, c', s') ∧ found = []) ∨
      ∃ a rest c₁ s₁, c.step s = (.ok (some a), c₁, s₁) ∧
        c₁.take n s₁ = (.ok rest, c', s') ∧ found = a :: rest := by
  rw [take_succ] at h
  cases hstep : c.step s with
  | mk result next =>
      obtain ⟨c₁, s₁⟩ := next
      rw [hstep] at h
      cases result with
      | error e => cases h
      | ok answer =>
          cases answer with
          | none =>
              cases h
              exact .inl ⟨rfl, rfl⟩
          | some a =>
              right
              simp only at h
              cases htake : c₁.take n s₁ with
              | mk result last =>
                  rw [htake] at h
                  cases result with
                  | error e => cases h
                  | ok rest =>
                      cases h
                      exact ⟨a, rest, c₁, s₁, rfl, htake, rfl⟩

theorem source_of_take
    {n : Nat} {found : List Token} (h : c.take n s = (.ok found, c', s')) :
    c'.source = c.source := by
  induction n generalizing c s found with
  | zero =>
      cases h
      rfl
  | succ n ih =>
      rcases take_succ_eq_ok h with ⟨hstep, _⟩ | ⟨a, rest, c₁, s₁, hstep, hrest, _⟩
      · exact (Steps.of_step hstep).source_eq
      · exact (ih hrest).trans (Steps.of_step hstep).source_eq

/-- What draining comes to is settled before the pause: the tokens taken first
stand in front of those that are left. -/
theorem Drains.of_take
    {n : Nat} {front : List Token} {r : Except (Failure ε) (List Token)}
    (hdrains : c.Drains s r c' s')
    (htake : c.take n s = (.ok front, c₁, s₁)) :
    ∃ rest, c₁.Drains s₁ rest c' s' ∧ r = rest.map (front ++ ·) := by
  induction n generalizing c s front r with
  | zero =>
      cases htake
      refine ⟨r, hdrains, ?_⟩
      cases r <;> rfl
  | succ n ih =>
      rcases take_succ_eq_ok htake with ⟨hstep, rfl⟩ | ⟨a, rest, c₂, s₂, hstep, hrest, rfl⟩
      · -- the request that found nothing left a cursor on which nothing changes
        obtain ⟨rfl, rfl, rfl⟩ := hdrains.unique (.finished hstep)
        exact ⟨.ok [], .finished (step_of_step_none hstep _), rfl⟩
      · cases hdrains with
        | finished hstep' => simp [hstep] at hstep'
        | failed hstep' => simp [hstep] at hstep'
        | @token _ _ _ _ _ _ _ r hstep' hdrains' =>
            rw [hstep] at hstep'
            cases hstep'
            obtain ⟨last, hlast, rfl⟩ := ih hdrains' hrest
            refine ⟨last, hlast, ?_⟩
            cases last <;> rfl

/-- If as many tokens are taken as were asked for, then the answer that makes the
last of them is the last one that is given. -/
theorem noted_take_of_full
    {n : Nat} {found : List Token} (h : c.take n s = (.ok found, c', s'))
    (hfull : found.length = n) :
    ∃ early,
      (∀ log, c.noted.take n (s, log) = (.ok found, c'.noted, s', log ++ early)) ∧
      Option.Rel Inquiry.Made early.getLast? found.getLast? := by
  induction n generalizing c s found with
  | zero =>
      cases h
      refine ⟨[], ?_, .none⟩
      intro log
      rw [List.append_nil]
      rfl
  | succ n ih =>
      rcases take_succ_eq_ok h with ⟨_, rfl⟩ | ⟨a, rest, c₁, s₁, hstep, hrest, rfl⟩
      · cases hfull
      · obtain ⟨later, hnoted, hlast⟩ := ih hrest (Nat.succ.inj hfull)
        obtain ⟨earlier, q, hasked, hmade⟩ := asked_of_step_token hstep
        refine ⟨c.asked s ++ later, ?_, ?_⟩
        · intro log
          rw [take_succ, step_noted_eq hstep]
          simp only [hnoted, List.append_assoc]
          rfl
        · rw [List.getLast?_append, List.getLast?_cons]
          generalize later.getLast? = x at hlast ⊢
          generalize rest.getLast? = y at hlast ⊢
          cases hlast with
          | none =>
              rw [hasked, List.getLast?_concat]
              exact .some hmade
          | some hmade' => exact .some hmade'

theorem Drains.noted_of_take
    {n : Nat} {front : List Token} {rest : Except (Failure ε) (List Token)}
    (htake : c.take n s = (.ok front, c₁, s₁)) (hrest : c₁.Drains s₁ rest c' s')
    {r : Except (Failure ε) (List Token)} (hdrains : c.Drains s r c' s') :
    ∃ early late,
      (∀ log, c.noted.take n (s, log) = (.ok front, c₁.noted, s₁, log ++ early)) ∧
      (∀ log, c₁.noted.Drains (s₁, log) rest c'.noted (s', log ++ late)) ∧
      ∀ log, c.noted.Drains (s, log) r c'.noted (s', log ++ early ++ late) := by
  obtain ⟨_, _, stops, _, _, _, hearly⟩ := walks_of_take htake
  obtain ⟨_, stops', _, _, _, hlate⟩ := walks_of_drains hrest
  obtain ⟨_, stops'', _, _, _, hwhole⟩ := walks_of_drains hdrains
  refine ⟨questions stops, questions stops', hearly, hlate, ?_⟩
  intro log
  obtain ⟨_, hlast, _⟩ := (hwhole log).of_take (hearly log)
  have hstate := (hlast.unique (hlate (log ++ questions stops))).2.2
  rw [← hstate]
  exact hwhole log

theorem Defined.of_source
    {c c₁ : Cursor Refusal Bench} (h : c.Defined) (hsource : c₁.source = c.source) :
    c₁.Defined := by
  unfold Defined
  rw [hsource]
  exact h

theorem drain_eq_of_take
    {c c₁ : Cursor Refusal Bench} (hdefined : c.Defined) {b b₁ : Bench}
    {n : Nat} {front : List Token} (htake : c.take n b = (.ok front, c₁, b₁)) :
    c.drain b = ((c₁.drain b₁).1.map (front ++ ·), (c₁.drain b₁).2) := by
  have hdefined₁ : c₁.Defined := hdefined.of_source (source_of_take htake)
  obtain ⟨rest, hrest, hr⟩ := (drain_drains hdefined b).of_take htake
  obtain ⟨hrest', hcursor, hbench⟩ := (drain_drains hdefined₁ b₁).unique hrest
  rw [hrest', ← hr]
  exact Prod.ext rfl (Prod.ext hcursor.symm hbench.symm)

end Cursor

/-- Whatever the rules do, taking some tokens first and draining the cursor then comes to what
draining it at once comes to: result, cursor, state and the log of all questions.  The log of
what is taken ends with the answer that made the last token, if there were enough. -/
theorem taking_first_changes_nothing :
    (∀ (ε σ : Type) (c c₁ c' : Cursor ε σ) (s s₁ s' : σ) (n : Nat)
      (front : List Token) (r : Except (Cursor.Failure ε) (List Token)),
      c.Drains s r c' s' → c.take n s = (.ok front, c₁, s₁) →
      ∃ rest early late,
        c₁.Drains s₁ rest c' s' ∧ r = rest.map (front ++ ·) ∧
        (∀ log, c.noted.take n (s, log) =
          (.ok front, c₁.noted, s₁, log ++ early)) ∧
        (∀ log, c₁.noted.Drains (s₁, log) rest c'.noted (s', log ++ late)) ∧
        (∀ log, c.noted.Drains (s, log) r c'.noted (s', log ++ early ++ late)) ∧
        (front.length = n →
          Option.Rel Inquiry.Made early.getLast? front.getLast?)) ∧
    ∀ (c c₁ : Cursor Refusal Bench) (b b₁ : Bench) (n : Nat) (front : List Token),
      c.Defined → c.take n b = (.ok front, c₁, b₁) →
      c.drain b = ((c₁.drain b₁).1.map (front ++ ·), (c₁.drain b₁).2) := by
  constructor
  · intro ε σ c c₁ c' s s₁ s' n front r hdrains htake
    obtain ⟨rest, hrest, hr⟩ := hdrains.of_take htake
    obtain ⟨early, late, hearly, hlate, hwhole⟩ :=
      Cursor.Drains.noted_of_take htake hrest hdrains
    refine ⟨rest, early, late, hrest, hr, hearly, hlate, hwhole, ?_⟩
    intro hfull
    obtain ⟨early', hearly', hlast⟩ := Cursor.noted_take_of_full htake hfull
    have hsame : early' = early := by
      have hboth := (hearly' []).symm.trans (hearly [])
      simpa using hboth
    rw [← hsame]
    exact hlast
  · intro c c₁ b b₁ n front hdefined htake
    exact Cursor.drain_eq_of_take hdefined htake

theorem taking_first_changes_nothing_refused :
    let x : Scanner :=
      ⟨[⟨.int 1, .scripted 0 #[115]⟩, ⟨.int 2, .keyword 1 #[97, 98]⟩],
        #[97, 98, 33, 33]⟩
    let b : Bench :=
      Bench.empty.addScript 0 [.nothing, .found #[33], .refusal #[110, 111]]
    let front : List Token := [⟨0, .int 2, #[97, 98]⟩, ⟨2, .int 1, #[33]⟩]
    let refusal : Except (Cursor.Failure Refusal) (List Token) :=
      .error (.refused (.scripted #[110, 111]))
    ∃ c₁ c' b₁ b' early late,
      x.cursor.take 2 b = (.ok front, c₁, b₁) ∧
      x.cursor.Drains b refusal c' b' ∧ c₁.Drains b₁ refusal c' b' ∧
      x.cursor.noted.Drains (b, []) refusal c'.noted (b', early ++ late) ∧
      Option.Rel Inquiry.Made early.getLast? front.getLast? ∧
      (x.cursor.drain b).1 = refusal ∧
      x.cursor.drain b = ((c₁.drain b₁).1.map (front ++ ·), (c₁.drain b₁).2) := by
  intro x b front refusal
  have htake : x.cursor.take 2 b = (.ok front, _, _) := rfl
  have hrun : (x.cursor.drain b).1 = refusal := rfl
  have hdrains := Cursor.drain_drains x.cursor_defined b
  rw [hrun] at hdrains
  obtain ⟨rest, early, late, hrest, hr, _, _, hwhole, hlast⟩ :=
    taking_first_changes_nothing.1 _ _ _ _ _ _ _ _ 2 front refusal hdrains htake
  have hrefusal : rest = refusal := by
    cases rest with
    | error e => exact hr.symm
    | ok tokens => simp [refusal, Except.map] at hr
  rw [hrefusal] at hrest
  exact ⟨_, _, _, _, early, late, htake, hdrains, hrest, hwhole [], hlast rfl, hrun,
    taking_first_changes_nothing.2 _ _ b _ 2 front x.cursor_defined htake⟩

end FirstMatch
