import FirstMatch.Proofs.Walk

/-!
# What always holds of a cursor

A released cursor is exhausted, and an exhausted one has no current token.  The current
token ends at the position, unless the position was assigned in the meantime.  Each of the
four moves keeps these relations, so they hold after any walk from the start, whatever the
rules answer and wherever they refuse.
-/

namespace FirstMatch

variable {ε σ : Type}

inductive Handling where
  | operation (op : Operation)
  | assign (position : Int)
  deriving DecidableEq, Repr

def Handling.action : Handling → Action
  | operation op => op.action
  | assign position => .moveTo position

namespace Cursor

def Handles (c : Cursor ε σ) (s : σ) (x : Handling)
    (r : Except (Failure ε) Reply) (c' : Cursor ε σ) (s' : σ) : Prop :=
  match x with
  | .operation op => c.Performs s op r c' s'
  | .assign position => c' = c.moveTo position ∧ s' = s ∧ r = .ok .nothing

inductive History :
    Cursor ε σ → σ → List Handling → List (Except (Failure ε) Reply) →
      Cursor ε σ → σ → Prop
  | nil (c : Cursor ε σ) (s : σ) : History c s [] [] c s
  | cons {c c₁ c' : Cursor ε σ} {s s₁ s' : σ} {x : Handling} {xs : List Handling}
      {r : Except (Failure ε) Reply} {rs : List (Except (Failure ε) Reply)}
      (hone : c.Handles s x r c₁ s₁) (hrest : History c₁ s₁ xs rs c' s') :
      History c s (x :: xs) (r :: rs) c' s'

structure Coherent (c : Cursor ε σ) : Prop where
  released : c.isReleased = true →
    c.exhausted = true ∧ c.current = none ∧ c.reachedEnd = false
  exhausted : c.exhausted = true → c.current = none
  value_ne : ∀ a, c.current = some a → a.value ≠ #[]

structure Placed (c : Cursor ε σ) : Prop where
  stop_eq : ∀ a, c.current = some a → a.stop = c.position
  at_start : c.isReleased = false → c.exhausted = false → c.current = none →
    c.position = 0

inductive Makes (c : Cursor ε σ) (s : σ) (before : List Move) (a : Token)
    (after : List Move) (c' : Cursor ε σ) (s' : σ) : Prop
  | intro {c₁ c₂ : Cursor ε σ} {s₁ s₂ : σ} {stops stops' : List (Cursor ε σ × σ)}
      {tokens : List Token}
      (hbefore : c.Walks s before stops tokens c₁ s₁)
      (hadvance : c₁.advance s₁ = (.ok true, c₂, s₂))
      (hcurrent : c₂.current = some a)
      (hafter : c₂.Walks s₂ after stops' [] c' s')

/-! ## The four moves -/

/-- All that a request for a token can do to the cursor. -/
theorem advance_cases (c : Cursor ε σ) (s : σ) :
    ((c.advance s).1 ≠ .ok true ∧ (c.advance s).2.1 = c) ∨
    ((c.advance s).1 = .ok false ∧ c.isReleased = false ∧
      (c.advance s).2.1 = { c with exhausted := true, current := none }) ∨
    ∃ kind v, v ≠ #[] ∧ (c.advance s).1 = .ok true ∧ c.isReleased = false ∧
      c.exhausted = false ∧
      (c.advance s).2.1 =
        { c with
          current := some ⟨c.position, kind, v⟩
          position := c.position + v.size } := by
  cases hstep : c.step s with
  | mk r next =>
      obtain ⟨c', s'⟩ := next
      rw [advance_of_step hstep]
      cases Steps.of_step hstep with
      | idle => exact .inl ⟨by simp [Except.map], rfl⟩
      | refused => exact .inl ⟨by simp [Except.map], rfl⟩
      | exhausted hsource =>
          exact .inr (.inl ⟨rfl, by simp [isReleased, hsource], rfl⟩)
      | token hsource hlive hanswers =>
          exact .inr (.inr ⟨_, _, hanswers.ne_empty, rfl,
            by simp [isReleased, hsource], hlive, rfl⟩)

variable {c c' : Cursor ε σ} {s s' : σ} {moves : List Move}
  {stops : List (Cursor ε σ × σ)} {tokens : List Token}

theorem reset_of_released (h : c.isReleased = true) :
    c.reset = (.error .released, c) := by
  simp [reset, h]

theorem reset_of_not_released (h : c.isReleased = false) :
    c.reset = (.ok (), { c with position := 0, current := none, exhausted := false }) := by
  simp [reset, h]

theorem Walks.keeps {P : Cursor ε σ → Prop}
    (h : c.Walks s moves stops tokens c' s')
    (hadvance : ∀ c s, P c → P (c.advance s).2.1)
    (hreset : .reset ∈ moves → ∀ c, P c → P c.reset.2)
    (hrelease : .release ∈ moves → ∀ c, P c → P c.release)
    (hmoveTo : ∀ p, .moveTo p ∈ moves → ∀ c, P c → P (c.moveTo p))
    (hc : P c) :
    P c' := by
  induction h with
  | nil => exact hc
  | @advance c _ _ s _ _ _ _ _ _ hstep _ ih =>
      have hnext := hadvance c s hc
      rw [hstep] at hnext
      exact ih (fun h => hreset (.tail _ h)) (fun h => hrelease (.tail _ h))
        (fun p h => hmoveTo p (.tail _ h)) hnext
  | @reset c _ _ _ _ _ _ _ ih =>
      exact ih (fun h => hreset (.tail _ h)) (fun h => hrelease (.tail _ h))
        (fun p h => hmoveTo p (.tail _ h)) (hreset (.head _) c hc)
  | @release c _ _ _ _ _ _ _ ih =>
      exact ih (fun h => hreset (.tail _ h)) (fun h => hrelease (.tail _ h))
        (fun p h => hmoveTo p (.tail _ h)) (hrelease (.head _) c hc)
  | @moveTo c _ _ _ _ _ _ position _ ih =>
      exact ih (fun h => hreset (.tail _ h)) (fun h => hrelease (.tail _ h))
        (fun p h => hmoveTo p (.tail _ h)) (hmoveTo position (.head _) c hc)

/-! ## The relations -/

theorem start_coherent (source : Source ε σ) : (start source).Coherent :=
  ⟨nofun, nofun, nofun⟩

namespace Coherent

theorem of_not_released (hreleased : c.isReleased = false)
    (hexhausted : c.exhausted = true → c.current = none)
    (hvalue : ∀ a, c.current = some a → a.value ≠ #[]) :
    c.Coherent := by
  refine ⟨?_, hexhausted, hvalue⟩
  intro h
  rw [hreleased] at h
  cases h

theorem advance (h : c.Coherent) (s : σ) : (c.advance s).2.1.Coherent := by
  rcases c.advance_cases s with ⟨_, hc⟩ | ⟨_, hreleased, hc⟩ |
    ⟨kind, v, hne, _, hreleased, hlive, hc⟩
  · rw [hc]
    exact h
  · rw [hc]
    exact of_not_released hreleased (fun _ => rfl) nofun
  · rw [hc]
    refine of_not_released hreleased ?_ ?_
    · intro hexhausted
      cases hlive.symm.trans hexhausted
    · rintro a ⟨⟩
      exact hne

theorem reset (h : c.Coherent) : c.reset.2.Coherent := by
  cases hreleased : c.isReleased with
  | true =>
      rw [reset_of_released hreleased]
      exact h
  | false =>
      rw [reset_of_not_released hreleased]
      exact of_not_released hreleased nofun nofun

theorem release (c : Cursor ε σ) : c.release.Coherent :=
  ⟨fun _ => ⟨rfl, rfl, rfl⟩, fun _ => rfl, nofun⟩

theorem moveTo (h : c.Coherent) (position : Int) : (c.moveTo position).Coherent := by
  refine ⟨?_, h.exhausted, h.value_ne⟩
  intro hreleased
  have hsource : c.source = none := Option.isNone_iff_eq_none.mp hreleased
  obtain ⟨hexhausted, hcurrent, _⟩ := h.released hreleased
  exact ⟨hexhausted, hcurrent, by simp [reachedEnd, Cursor.moveTo, hsource]⟩

end Coherent

theorem Walks.coherent
    (h : c.Walks s moves stops tokens c' s') (hc : c.Coherent) :
    c'.Coherent :=
  h.keeps (fun _ s hc => hc.advance s) (fun _ _ hc => hc.reset)
    (fun _ c _ => .release c) (fun p _ _ hc => hc.moveTo p) hc

theorem start_placed (source : Source ε σ) : (start source).Placed :=
  ⟨nofun, fun _ _ _ => rfl⟩

namespace Placed

theorem of_token {position : Int} {kind : Datum} {v : Text}
    (h : c.current = some ⟨position, kind, v⟩) (hstop : c.position = position + v.size) :
    c.Placed := by
  constructor
  · intro a ha
    rw [h] at ha
    cases ha
    exact hstop.symm
  · intro _ _ hnone
    rw [h] at hnone
    cases hnone

theorem advance (h : c.Placed) (s : σ) : (c.advance s).2.1.Placed := by
  rcases c.advance_cases s with ⟨_, hc⟩ | ⟨_, _, hc⟩ | ⟨kind, v, _, _, _, _, hc⟩
  · rw [hc]
    exact h
  · rw [hc]
    exact ⟨nofun, nofun⟩
  · rw [hc]
    exact .of_token rfl rfl

theorem reset (h : c.Placed) : c.reset.2.Placed := by
  cases hreleased : c.isReleased with
  | true =>
      rw [reset_of_released hreleased]
      exact h
  | false =>
      rw [reset_of_not_released hreleased]
      exact ⟨nofun, fun _ _ _ => rfl⟩

theorem release (c : Cursor ε σ) : c.release.Placed :=
  ⟨nofun, nofun⟩

end Placed

theorem Walks.placed
    (h : c.Walks s moves stops tokens c' s') (hmoves : ∀ p, .moveTo p ∉ moves)
    (hc : c.Placed) :
    c'.Placed :=
  h.keeps (fun _ s hc => hc.advance s) (fun _ _ hc => hc.reset)
    (fun _ c _ => .release c) (fun p hp => absurd hp (hmoves p)) hc

/-! ## Flags that stay set -/

theorem isReleased_advance (c : Cursor ε σ) (s : σ) :
    (c.advance s).2.1.isReleased = c.isReleased := by
  have hsource : (c.advance s).2.1.source = c.source := (step_steps c s).source_eq
  unfold isReleased
  rw [hsource]

theorem Walks.isReleased
    (h : c.Walks s moves stops tokens c' s') (hc : c.isReleased = true) :
    c'.isReleased = true := by
  refine h.keeps (P := fun c => c.isReleased = true) ?_ ?_ ?_ ?_ hc
  · intro c s hc
    rw [isReleased_advance]
    exact hc
  · intro _ c hc
    rw [reset_of_released hc]
    exact hc
  · intro _ c _
    rfl
  · intro p _ c hc
    exact hc

theorem Walks.exhausted
    (h : c.Walks s moves stops tokens c' s') (hmoves : .reset ∉ moves)
    (hc : c.exhausted = true) :
    c'.exhausted = true := by
  refine h.keeps (P := fun c => c.exhausted = true) ?_ ?_ ?_ ?_ hc
  · intro c s hc
    rw [advance_of_idle (.inl hc)]
    exact hc
  · intro hmem
    exact absurd hmem hmoves
  · intro _ c _
    rfl
  · intro p _ c hc
    exact hc

theorem asked_of_released (h : c.isReleased = true) (s : σ) : c.asked s = [] := by
  have hsource : c.source = none := by simpa [Cursor.isReleased] using h
  have hnoted : c.noted.source = none := by simp [noted, hsource]
  unfold asked
  rw [advance_of_idle (.inr hnoted)]

/-! ## Where the current token comes from -/

theorem made_eq_nil {result : Except (Failure ε) Bool} (h : result ≠ .ok true)
    (c : Cursor ε σ) : made result c = [] := by
  unfold made
  split
  next => exact absurd rfl h
  next => rfl

theorem Makes.prepend
    {c₁ : Cursor ε σ} {s₁ : σ} {before after : List Move} {a : Token}
    (hwalks : c.Walks s moves stops tokens c₁ s₁)
    (h : c₁.Makes s₁ before a after c' s') :
    c.Makes s (moves ++ before) a after c' s' := by
  cases h with
  | intro hbefore hadvance hcurrent hafter =>
      exact .intro (hwalks.append hbefore) hadvance hcurrent hafter

/-- A token that is current in the end was so from the start on, or it was made on
the way and none after it. -/
theorem Walks.origin
    (h : c.Walks s moves stops tokens c' s') {a : Token} (ha : c'.current = some a) :
    (c.current = some a ∧ tokens = []) ∨
      ∃ before after, moves = before ++ .advance :: after ∧
        c.Makes s before a after c' s' := by
  induction h with
  | nil => exact .inl ⟨ha, rfl⟩
  | @advance c c₁ c' s s₁ s' moves result stops tokens hadvance hrest ih =>
      rcases ih ha with ⟨hcurrent, rfl⟩ | ⟨before, after, rfl, hmakes⟩
      · have hcases := c.advance_cases s
        rw [hadvance] at hcases
        rcases hcases with ⟨hresult, rfl⟩ | ⟨_, _, rfl⟩ | ⟨kind, v, _, rfl, _⟩
        · exact .inl ⟨hcurrent, by rw [made_eq_nil hresult]; rfl⟩
        · cases hcurrent
        · exact .inr ⟨[], moves, rfl, .intro (.nil c s) hadvance hcurrent hrest⟩
      · exact .inr ⟨.advance :: before, after, rfl,
          hmakes.prepend (walks_of_advance hadvance)⟩
  | @reset c c' s s' moves stops tokens hrest ih =>
      rcases ih ha with ⟨hcurrent, rfl⟩ | ⟨before, after, rfl, hmakes⟩
      · cases hreleased : c.isReleased with
        | true =>
            rw [reset_of_released hreleased] at hcurrent
            exact .inl ⟨hcurrent, rfl⟩
        | false =>
            rw [reset_of_not_released hreleased] at hcurrent
            cases hcurrent
      · exact .inr ⟨.reset :: before, after, rfl, hmakes.prepend (.reset (.nil _ s))⟩
  | @release c c' s s' moves stops tokens hrest ih =>
      rcases ih ha with ⟨hcurrent, _⟩ | ⟨before, after, rfl, hmakes⟩
      · cases hcurrent
      · exact .inr ⟨.release :: before, after, rfl,
          hmakes.prepend (.release (.nil _ s))⟩
  | @moveTo c c' s s' moves stops tokens position hrest ih =>
      rcases ih ha with ⟨hcurrent, rfl⟩ | ⟨before, after, rfl, hmakes⟩
      · exact .inl ⟨hcurrent, rfl⟩
      · exact .inr ⟨.moveTo position :: before, after, rfl,
          hmakes.prepend (.moveTo position (.nil _ s))⟩

theorem Makes.stop_eq
    {before after : List Move} {a : Token} (h : c.Makes s before a after c' s')
    (ha : c'.current = some a) (hmoves : ∀ p, .moveTo p ∉ after) :
    a.stop = c'.position := by
  cases h with
  | @intro c₁ c₂ s₁ s₂ _ _ _ _ hadvance _ hafter =>
      have hcases := c₁.advance_cases s₁
      rw [hadvance] at hcases
      rcases hcases with ⟨hresult, _⟩ | ⟨hresult, _⟩ | ⟨kind, v, _, _, _, _, rfl⟩
      · exact absurd rfl hresult
      · cases hresult
      · exact (hafter.placed hmoves (.of_token rfl rfl)).stop_eq a ha

/-! ## Histories are walks -/

theorem walks_of_handles
    {x : Handling} {r : Except (Failure ε) Reply} (h : c.Handles s x r c' s') :
    ∃ moves stops tokens, x.action.Consists moves ∧
      c.Walks s moves stops tokens c' s' := by
  cases x with
  | operation op =>
      obtain ⟨moves, stops, tokens, hmoves, hwalks, _⟩ := walks_of_performs h
      exact ⟨moves, stops, tokens, hmoves, hwalks⟩
  | assign position =>
      obtain ⟨rfl, rfl, _⟩ := h
      exact ⟨_, [], [], rfl, .moveTo position (.nil _ _)⟩

theorem walks_of_history
    {xs : List Handling} {rs : List (Except (Failure ε) Reply)}
    (h : c.History s xs rs c' s') :
    ∃ parts stops tokens,
      List.Forall₂ (fun x moves => x.action.Consists moves) xs parts ∧
      c.Walks s parts.flatten stops tokens c' s' := by
  induction h with
  | nil c s => exact ⟨[], [], [], .nil, .nil c s⟩
  | cons hone _ ih =>
      obtain ⟨moves, stops, tokens, hmoves, hwalks⟩ := walks_of_handles hone
      obtain ⟨parts, stops', tokens', hparts, hwalks'⟩ := ih
      exact ⟨moves :: parts, stops ++ stops', tokens ++ tokens', .cons hmoves hparts,
        hwalks.append hwalks'⟩

end Cursor

theorem Handling.mem_iff_consists
    {x : Handling} {moves : List Move} (h : x.action.Consists moves)
    {move : Move} (hmove : move ≠ .advance) :
    move ∈ moves ↔ x.action.Consists [move] := by
  have hrequests : ∀ m, [move] ≠ List.replicate m .advance := by
    intro m hm
    have hmem : move ∈ List.replicate m Move.advance := by simp [← hm]
    exact hmove (List.eq_of_mem_replicate hmem)
  cases x with
  | assign position =>
      cases h
      simp [action, Action.Consists]
  | operation op =>
      cases op with
      | take n =>
          obtain ⟨m, _, rfl⟩ := h
          simp [action, Operation.action, Action.Consists, hrequests, hmove]
      | drain =>
          obtain ⟨m, rfl⟩ := h
          simp [action, Operation.action, Action.Consists, hrequests, hmove]
      | _ =>
          cases h
          simp [action, Operation.action, Action.Consists]

theorem Handling.mem_flatten_iff_consists
    {xs : List Handling} {parts : List (List Move)}
    (h : List.Forall₂ (fun x moves => x.action.Consists moves) xs parts)
    {move : Move} (hmove : move ≠ .advance) :
    move ∈ parts.flatten ↔ ∃ x ∈ xs, x.action.Consists [move] := by
  induction h with
  | nil => simp
  | cons hone _ ih =>
      simp only [List.flatten_cons, List.mem_append, List.mem_cons, ih,
        mem_iff_consists hone hmove, exists_eq_or_imp]

/-- Whatever was done with a cursor, its fields go together.  The current token was made by some
request, and it ends at the position if that was not assigned since.  A released cursor stays
released, makes no token, asks no rule and cannot be reset; an exhausted one stays exhausted
until it is reset. -/
theorem cursors_stay_coherent :
    (∀ (ε σ : Type) (source : Source ε σ) (c : Cursor ε σ) (s s' : σ)
      (moves : List Move) (stops : List (Cursor ε σ × σ)) (tokens : List Token),
      (Cursor.start source).Walks s moves stops tokens c s' →
      c.Coherent ∧
      (∀ a, c.current = some a →
        ∃ before after, moves = before ++ .advance :: after ∧
          (Cursor.start source).Makes s before a after c s' ∧
          ((∀ p, .moveTo p ∉ after) → a.stop = c.position)) ∧
      ((∀ p, .moveTo p ∉ moves) → c.isReleased = false → c.exhausted = false →
        c.current = none → c.position = 0)) ∧
    (∀ (ε σ : Type) (c c' : Cursor ε σ) (s s' : σ) (moves : List Move)
      (stops : List (Cursor ε σ × σ)) (tokens : List Token),
      c.Walks s moves stops tokens c' s' →
      (c.isReleased = true → c'.isReleased = true) ∧
      (c.exhausted = true → .reset ∉ moves → c'.exhausted = true)) ∧
    (∀ (ε σ : Type) (c : Cursor ε σ), c.isReleased = true →
      c.reset = (.error .released, c) ∧
      ∀ s, c.advance s = (.ok false, c, s) ∧ c.asked s = []) ∧
    ∀ (ε σ : Type) (c c' : Cursor ε σ) (s s' : σ) (xs : List Handling)
      (rs : List (Except (Cursor.Failure ε) Reply)),
      c.History s xs rs c' s' →
      ∃ parts stops tokens,
        List.Forall₂ (fun x moves => x.action.Consists moves) xs parts ∧
        c.Walks s parts.flatten stops tokens c' s' ∧
        ∀ move, move ≠ .advance →
          (move ∈ parts.flatten ↔ ∃ x ∈ xs, x.action.Consists [move]) := by
  refine ⟨?_, ?_, ?_, ?_⟩
  · intro ε σ source c s s' moves stops tokens hwalks
    refine ⟨hwalks.coherent (Cursor.start_coherent source), ?_, ?_⟩
    · intro a ha
      rcases hwalks.origin ha with ⟨hnone, _⟩ | ⟨before, after, hsplit, hmakes⟩
      · cases hnone
      · exact ⟨before, after, hsplit, hmakes, hmakes.stop_eq ha⟩
    · intro hmoves
      exact (hwalks.placed hmoves (Cursor.start_placed source)).at_start
  · intro ε σ c c' s s' moves stops tokens hwalks
    exact ⟨hwalks.isReleased, fun hc hmoves => hwalks.exhausted hmoves hc⟩
  · intro ε σ c hreleased
    have hsource : c.source = none := Option.isNone_iff_eq_none.mp hreleased
    refine ⟨Cursor.reset_of_released hreleased, ?_⟩
    intro s
    exact ⟨Cursor.advance_of_idle (.inr hsource) s,
      Cursor.asked_of_released hreleased s⟩
  · intro ε σ c c' s s' xs rs hhistory
    obtain ⟨parts, stops, tokens, hparts, hwalks⟩ := Cursor.walks_of_history hhistory
    refine ⟨parts, stops, tokens, hparts, hwalks, ?_⟩
    intro move hmove
    exact Handling.mem_flatten_iff_consists hparts hmove

/-- The position is assigned before the token is made, which therefore ends there,
although it is not the first one of the text. -/
theorem cursors_stay_coherent_moved :
    let x : Scanner := ⟨[⟨.int 1, .keyword 0 #[97, 98]⟩], #[97, 98, 97, 98]⟩
    let a : Token := ⟨2, .int 1, #[97, 98]⟩
    let c : Cursor Refusal Bench := { x.cursor with
      position := 4
      current := some a }
    x.cursor.History .empty [.assign 2, .operation .advance]
      [.ok .nothing, .ok (.flag true)] c .empty ∧
    c.Coherent ∧
    (∃ before after, [Move.moveTo 2, .advance] = before ++ .advance :: after ∧
      x.cursor.Makes .empty before a after c .empty ∧
      ((∀ p, .moveTo p ∉ after) → a.stop = c.position)) ∧
    (∃ parts stops tokens, x.cursor.Walks .empty (List.flatten parts) stops tokens c
      .empty) ∧
    c.release.isReleased = true ∧ c.release.reset = (.error .released, c.release) := by
  intro x a c
  have hhistory : x.cursor.History .empty [.assign 2, .operation .advance]
      [.ok .nothing, .ok (.flag true)] c .empty :=
    .cons ⟨rfl, rfl, rfl⟩ (.cons ⟨.ok true, rfl, rfl⟩ (.nil _ _))
  have hadvance : (x.cursor.moveTo 2).advance .empty = (.ok true, c, .empty) := rfl
  have hwalks : x.cursor.Walks .empty [.moveTo 2, .advance] _ _ c .empty :=
    .moveTo 2 (Cursor.walks_of_advance hadvance)
  obtain ⟨hinvariant, _, hreleased, hhistories⟩ := cursors_stay_coherent
  obtain ⟨hcoherent, horigin, _⟩ := hinvariant _ _ _ _ _ _ _ _ _ hwalks
  obtain ⟨parts, stops, tokens, _, hparts, _⟩ := hhistories _ _ _ _ _ _ _ _ hhistory
  exact ⟨hhistory, hcoherent, horigin a rfl, ⟨parts, stops, tokens, hparts⟩, rfl,
    (hreleased _ _ c.release rfl).1⟩

end FirstMatch
