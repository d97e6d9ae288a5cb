import FirstMatch.Proofs.Inquiry
import FirstMatch.Proofs.Pointer

/-!
# Walks of a cursor

Whatever is done with a cursor comes down to four moves: it is asked for a token, put back
to the start, released, or given a position.  A walk is any sequence of these.  It
remembers the stops, which are the cursors that were asked for a token together with the
state they were asked in.
-/

namespace FirstMatch

variable {ε σ : Type}

def Reply.handed : Reply → List Token
  | .token a => [a]
  | .tokens as => as
  | _ => []

inductive Move where
  | advance
  | reset
  | release
  | moveTo (position : Int)
  deriving DecidableEq, Repr

/-- The action consists of these moves.  How often it asks for a token may depend
on the answers. -/
def Action.Consists (action : Action) (moves : List Move) : Prop :=
  match action with
  | .advance | .next => moves = [.advance]
  | .take n => ∃ m ≤ n, moves = List.replicate m .advance
  | .drain => ∃ m, moves = List.replicate m .advance
  | .reset => moves = [.reset]
  | .release | .exit => moves = [.release]
  | .moveTo position => moves = [.moveTo position]
  | .enter | .isOwnIterator | .observe | .locate _ => moves = []

namespace Cursor

def made (result : Except (Failure ε) Bool) (c : Cursor ε σ) : List Token :=
  match result with
  | .ok true => c.current.toList
  | _ => []

inductive Walks :
    Cursor ε σ → σ → List Move → List (Cursor ε σ × σ) → List Token →
      Cursor ε σ → σ → Prop
  | nil (c : Cursor ε σ) (s : σ) : Walks c s [] [] [] c s
  | advance {c c₁ c' : Cursor ε σ} {s s₁ s' : σ} {moves : List Move}
      {result : Except (Failure ε) Bool} {stops : List (Cursor ε σ × σ)}
      {tokens : List Token}
      (hadvance : c.advance s = (result, c₁, s₁))
      (hrest : Walks c₁ s₁ moves stops tokens c' s') :
      Walks c s (.advance :: moves) ((c, s) :: stops)
        (made result c₁ ++ tokens) c' s'
  | reset {c c' : Cursor ε σ} {s s' : σ} {moves : List Move}
      {stops : List (Cursor ε σ × σ)} {tokens : List Token}
      (hrest : Walks c.reset.2 s moves stops tokens c' s') :
      Walks c s (.reset :: moves) stops tokens c' s'
  | release {c c' : Cursor ε σ} {s s' : σ} {moves : List Move}
      {stops : List (Cursor ε σ × σ)} {tokens : List Token}
      (hrest : Walks c.release s moves stops tokens c' s') :
      Walks c s (.release :: moves) stops tokens c' s'
  | moveTo {c c' : Cursor ε σ} {s s' : σ} {moves : List Move}
      {stops : List (Cursor ε σ × σ)} {tokens : List Token} (position : Int)
      (hrest : Walks (c.moveTo position) s moves stops tokens c' s') :
      Walks c s (.moveTo position :: moves) stops tokens c' s'

def questions (stops : List (Cursor ε σ × σ)) : List (Inquiry ε) :=
  stops.flatMap fun stop => stop.1.asked stop.2

variable {c c₁ c' : Cursor ε σ} {s s₁ s' : σ} {moves moves' : List Move}
  {stops stops' : List (Cursor ε σ × σ)} {tokens tokens' : List Token}

theorem append_questions_nil (log : List (Inquiry ε)) :
    log ++ questions ([] : List (Cursor ε σ × σ)) = log :=
  List.append_nil log

theorem append_questions_cons
    (log : List (Inquiry ε)) (c : Cursor ε σ) (s : σ)
    (stops : List (Cursor ε σ × σ)) :
    log ++ questions ((c, s) :: stops) =
      log ++ c.asked s ++ questions stops := by
  simp [questions]

theorem append_questions_singleton
    (log : List (Inquiry ε)) (c : Cursor ε σ) (s : σ) :
    log ++ questions [(c, s)] = log ++ c.asked s := by
  simp [questions]

theorem append_questions_append
    (log : List (Inquiry ε)) (stops stops' : List (Cursor ε σ × σ)) :
    log ++ questions (stops ++ stops') =
      log ++ questions stops ++ questions stops' := by
  simp [questions]

theorem Walks.append
    (h : c.Walks s moves stops tokens c₁ s₁)
    (h' : c₁.Walks s₁ moves' stops' tokens' c' s') :
    c.Walks s (moves ++ moves') (stops ++ stops') (tokens ++ tokens') c' s' := by
  induction h with
  | nil => exact h'
  | advance hadvance _ ih =>
      rw [List.cons_append, List.cons_append, List.append_assoc]
      exact .advance hadvance (ih h')
  | reset _ ih => exact .reset (ih h')
  | release _ ih => exact .release (ih h')
  | moveTo position _ ih => exact .moveTo position (ih h')

theorem exists_walks (c : Cursor ε σ) (s : σ) (moves : List Move) :
    ∃ stops tokens c' s', c.Walks s moves stops tokens c' s' := by
  induction moves generalizing c s with
  | nil => exact ⟨[], [], c, s, .nil c s⟩
  | cons move moves ih =>
      cases move with
      | advance =>
          obtain ⟨_, _, _, _, hrest⟩ := ih (c.advance s).2.1 (c.advance s).2.2
          exact ⟨_, _, _, _, .advance rfl hrest⟩
      | reset =>
          obtain ⟨_, _, _, _, hrest⟩ := ih c.reset.2 s
          exact ⟨_, _, _, _, .reset hrest⟩
      | release =>
          obtain ⟨_, _, _, _, hrest⟩ := ih c.release s
          exact ⟨_, _, _, _, .release hrest⟩
      | moveTo position =>
          obtain ⟨_, _, _, _, hrest⟩ := ih (c.moveTo position) s
          exact ⟨_, _, _, _, .moveTo position hrest⟩

theorem Walks.noted
    (h : c.Walks s moves stops tokens c' s') (log : List (Inquiry ε)) :
    ∃ notedStops, c.noted.Walks (s, log) moves notedStops tokens c'.noted
      (s', log ++ questions stops) := by
  induction h generalizing log with
  | nil c s =>
      refine ⟨[], ?_⟩
      rw [append_questions_nil]
      exact .nil c.noted (s, log)
  | @advance c _ _ s _ _ _ _ _ _ hadvance _ ih =>
      obtain ⟨notedStops, hwalks⟩ := ih (log ++ c.asked s)
      have hnoted := (c.asked_spec s).2 log
      rw [hadvance] at hnoted
      rw [append_questions_cons]
      exact ⟨_, .advance hnoted hwalks⟩
  | @reset c _ _ _ _ _ _ _ ih =>
      obtain ⟨notedStops, hwalks⟩ := ih log
      refine ⟨notedStops, .reset ?_⟩
      rw [reset_noted]
      exact hwalks
  | release _ ih =>
      obtain ⟨notedStops, hwalks⟩ := ih log
      exact ⟨notedStops, .release hwalks⟩
  | moveTo position _ ih =>
      obtain ⟨notedStops, hwalks⟩ := ih log
      exact ⟨notedStops, .moveTo position hwalks⟩

/-! ## What the rules keep, a walk keeps -/

def Reads (c : Cursor ε σ) (source : Source ε σ) : Prop :=
  ∀ other, c.source = some other → other = source

variable {source : Source ε σ}

theorem start_reads (source : Source ε σ) : (start source).Reads source := by
  intro other hother
  exact (Option.some.inj hother).symm

theorem Reads.advance (h : c.Reads source) (s : σ) :
    (c.advance s).2.1.Reads source := by
  intro other hother
  have hkept : (c.advance s).2.1.source = c.source := (step_steps c s).source_eq
  rw [hkept] at hother
  exact h other hother

theorem Reads.reset (h : c.Reads source) : c.reset.2.Reads source := by
  unfold Cursor.reset
  split <;> exact h

theorem Reads.release (c : Cursor ε σ) (source : Source ε σ) :
    c.release.Reads source :=
  nofun

theorem Walks.reads
    (h : c.Walks s moves stops tokens c' s') (hc : c.Reads source) :
    c'.Reads source := by
  induction h with
  | nil => exact hc
  | @advance c _ _ s _ _ _ _ _ _ hadvance _ ih =>
      have hnext := hc.advance s
      rw [hadvance] at hnext
      exact ih hnext
  | reset _ ih => exact ih hc.reset
  | release _ ih => exact ih (.release _ _)
  | moveTo _ _ ih => exact ih hc

end Cursor

theorem Rule.Answers.preserves
    {J : σ → Prop} {t : Text} {p : Int} {rules : List (Rule ε σ)} {s s' : σ}
    {r : Except ε (Option (Datum × Text))}
    (hrules : ∀ rule ∈ rules, ∀ u, J u → J (rule.ask t p u).2)
    (h : Answers t p rules s r s') (hs : J s) :
    J s' := by
  have hone : ∀ {rule : Rule ε σ} {u u' : σ} {answer : Except ε (Option Text)},
      rule ∈ rules → rule.ask t p u = (answer, u') → J u → J u' := by
    intro rule u u' answer hmem hask hu
    have hkept := hrules rule hmem u hu
    rw [hask] at hkept
    exact hkept
  have hall : ∀ {before : List (Rule ε σ)} {u u' : σ}, before ⊆ rules →
      AllDecline t p before u u' → J u → J u' := by
    intro before u u' hsubset hdecline
    induction hdecline with
    | nil => exact id
    | cons hask _ _ ih =>
        intro hu
        have hsubset' := List.cons_subset.mp hsubset
        exact ih hsubset'.2 (hone hsubset'.1 hask hu)
  cases h with
  | declined hdecline => exact hall (List.Subset.refl _) hdecline hs
  | found before hdecline hask _ =>
      exact hone (by simp) hask (hall (by simp) hdecline hs)
  | refused before hdecline hask =>
      exact hone (by simp) hask (hall (by simp) hdecline hs)

namespace Cursor

variable {c c₁ c' : Cursor ε σ} {s s₁ s' : σ} {moves moves' : List Move}
  {stops stops' : List (Cursor ε σ × σ)} {tokens tokens' : List Token}
  {source : Source ε σ}

theorem advance_preserves
    {J : σ → Prop} (hc : c.Reads source)
    (hrules : ∀ rule ∈ source.rules, ∀ u, J u →
      J (rule.ask source.text c.position u).2)
    (hs : J s) :
    J (c.advance s).2.2 := by
  have hanswers : ∀ {other : Source ε σ} {r : Except ε (Option (Datum × Text))}
      {s' : σ}, c.source = some other →
      Rule.Answers other.text c.position other.rules s r s' → J s' := by
    intro other r s' hother hanswers
    rw [hc other hother] at hanswers
    exact hanswers.preserves hrules hs
  cases hstep : c.step s with
  | mk r next =>
      obtain ⟨c', s'⟩ := next
      rw [advance_of_step hstep]
      cases Steps.of_step hstep with
      | idle => exact hs
      | refused hsource _ h => exact hanswers hsource h
      | exhausted hsource _ h => exact hanswers hsource h
      | token hsource _ h => exact hanswers hsource h

theorem Walks.preserves
    {J : σ → Prop} (h : c.Walks s moves stops tokens c' s')
    (hc : c.Reads source)
    (hrules : ∀ rule ∈ source.rules, ∀ p u, J u →
      J (rule.ask source.text p u).2)
    (hs : J s) :
    J s' := by
  induction h with
  | nil => exact hs
  | @advance c _ _ s _ _ _ _ _ _ hadvance _ ih =>
      have hnext := hc.advance s
      have hkept : J (c.advance s).2.2 :=
        advance_preserves hc (fun rule hmem => hrules rule hmem c.position) hs
      rw [hadvance] at hnext hkept
      exact ih hnext hkept
  | reset _ ih => exact ih hc.reset hs
  | release _ ih => exact ih (.release _ _) hs
  | moveTo _ _ ih => exact ih hc hs

/-! ## Operations are walks -/

theorem Walks.step_token
    {a : Token} (hstep : c.step s = (.ok (some a), c₁, s₁))
    (hrest : c₁.Walks s₁ moves stops tokens c' s') :
    c.Walks s (.advance :: moves) ((c, s) :: stops) (a :: tokens) c' s' := by
  have hadvance := advance_of_step hstep
  have hmade : made (.ok true) c₁ = [a] := by
    cases Steps.of_step hstep with
    | token => rfl
  have hwalks := Walks.advance hadvance hrest
  simp only [Except.map, Option.isSome_some, hmade] at hwalks
  exact hwalks

theorem Walks.step_none
    (hstep : c.step s = (.ok none, c', s')) :
    c.Walks s [.advance] [(c, s)] [] c' s' :=
  .advance (advance_of_step hstep) (.nil c' s')

theorem Walks.step_error
    {f : Failure ε} (hstep : c.step s = (.error f, c', s')) :
    c.Walks s [.advance] [(c, s)] [] c' s' :=
  .advance (advance_of_step hstep) (.nil c' s')

theorem walks_of_advance
    {result : Except (Failure ε) Bool}
    (h : c.advance s = (result, c', s')) :
    c.Walks s [.advance] [(c, s)] (made result c') c' s' := by
  have hwalks := Walks.advance h (.nil c' s')
  rw [List.append_nil] at hwalks
  exact hwalks

theorem step_noted_eq
    {r : Except (Failure ε) (Option Token)} (hstep : c.step s = (r, c', s'))
    (log : List (Inquiry ε)) :
    c.noted.step (s, log) = (r, c'.noted, s', log ++ c.asked s) := by
  rw [step_noted, hstep]

theorem next_noted
    {result : Except (Failure ε) Token} (h : c.next s = (result, c', s'))
    (log : List (Inquiry ε)) :
    c.noted.next (s, log) = (result, c'.noted, s', log ++ c.asked s) := by
  unfold next at h ⊢
  rw [step_noted]
  split at h
  next hstep =>
    cases h
    simp only [hstep]
  next hstep =>
    cases h
    simp only [hstep]
  next hstep =>
    cases h
    simp only [hstep]

theorem walks_of_next
    {result : Except (Failure ε) Token}
    (h : c.next s = (result, c', s')) :
    ∃ tokens, c.Walks s [.advance] [(c, s)] tokens c' s' ∧
      ∀ a, result = .ok a → a ∈ tokens := by
  unfold next at h
  split at h
  next a c₁ s₁ hstep =>
    cases h
    refine ⟨[a], .step_token hstep (.nil c' s'), ?_⟩
    intro b hb
    cases hb
    exact List.mem_singleton_self a
  next c₁ s₁ hstep =>
    cases h
    exact ⟨[], .step_none hstep, nofun⟩
  next f c₁ s₁ hstep =>
    cases h
    exact ⟨[], .step_error hstep, nofun⟩

theorem walks_of_take
    {n : Nat} {result : Except (Failure ε) (List Token)}
    (h : c.take n s = (result, c', s')) :
    ∃ m ≤ n, ∃ stops tokens,
      c.Walks s (List.replicate m .advance) stops tokens c' s' ∧
      (∀ found, result = .ok found → found = tokens) ∧
      ∀ log, c.noted.take n (s, log) =
        (result, c'.noted, s', log ++ questions stops) := by
  induction n generalizing c s result with
  | zero =>
      cases h
      refine ⟨0, Nat.le_refl 0, [], [], .nil c' s', ?_, ?_⟩
      · intro found hfound
        cases hfound
        rfl
      · intro log
        rw [append_questions_nil]
        rfl
  | succ n ih =>
      rw [take_succ] at h
      cases hstep : c.step s with
      | mk r next =>
          obtain ⟨c₁, s₁⟩ := next
          have hnoted := step_noted_eq hstep
          have hone : 1 ≤ n + 1 := Nat.le_add_left 1 n
          rw [hstep] at h
          cases r with
          | error f =>
              cases h
              refine ⟨1, hone, _, [], .step_error hstep, nofun, ?_⟩
              intro log
              rw [take_succ, hnoted, append_questions_singleton]
          | ok answer =>
              cases answer with
              | none =>
                  cases h
                  refine ⟨1, hone, _, [], .step_none hstep, ?_, ?_⟩
                  · intro found hfound
                    cases hfound
                    rfl
                  · intro log
                    rw [take_succ, hnoted, append_questions_singleton]
              | some a =>
                  cases h
                  have htake : c₁.take n s₁ = ((c₁.take n s₁).1,
                      (c₁.take n s₁).2.1, (c₁.take n s₁).2.2) := rfl
                  obtain ⟨m, hm, stops, tokens, hwalks, htokens, hlog⟩ :=
                    ih htake
                  refine ⟨m + 1, Nat.succ_le_succ hm, _, a :: tokens,
                    .step_token hstep hwalks, ?_, ?_⟩
                  · intro found hfound
                    cases hrest : (c₁.take n s₁).1 with
                    | error f => simp [hrest, Except.map] at hfound
                    | ok rest =>
                        simp only [hrest, Except.map, Except.ok.injEq] at hfound
                        rw [← hfound, htokens rest hrest]
                  · intro log
                    rw [take_succ, hnoted, append_questions_cons]
                    simp only [hlog]

theorem walks_of_drains
    {result : Except (Failure ε) (List Token)}
    (h : c.Drains s result c' s') :
    ∃ m stops tokens,
      c.Walks s (List.replicate m .advance) stops tokens c' s' ∧
      (∀ found, result = .ok found → found = tokens) ∧
      ∀ log, c.noted.Drains (s, log) result c'.noted
        (s', log ++ questions stops) := by
  induction h with
  | finished hstep =>
      refine ⟨1, _, [], .step_none hstep, ?_, ?_⟩
      · intro found hfound
        cases hfound
        rfl
      · intro log
        rw [append_questions_singleton]
        exact .finished (step_noted_eq hstep log)
  | failed hstep =>
      refine ⟨1, _, [], .step_error hstep, nofun, ?_⟩
      intro log
      rw [append_questions_singleton]
      exact .failed (step_noted_eq hstep log)
  | @token _ _ _ _ _ _ a r hstep _ ih =>
      obtain ⟨m, stops, tokens, hwalks, htokens, hlog⟩ := ih
      refine ⟨m + 1, _, a :: tokens, .step_token hstep hwalks, ?_, ?_⟩
      · intro found hfound
        cases r with
        | error f => cases hfound
        | ok rest =>
            cases hfound
            rw [htokens rest rfl]
      · intro log
        rw [append_questions_cons]
        exact .token (step_noted_eq hstep log) (hlog _)

theorem handed_of_map
    {α : Type} {x : Except (Failure ε) α} {f : α → Reply}
    (h : ∀ v, x = .ok v → ∀ a ∈ (f v).handed, a ∈ tokens)
    (reply : Reply) (hreply : x.map f = .ok reply) :
    ∀ a ∈ reply.handed, a ∈ tokens := by
  cases x with
  | error e => cases hreply
  | ok v =>
      cases hreply
      exact h v rfl

/-- The operation is a walk, on which every token that it hands over was made.
With rules that take notes it does the same and adds the questions at the
stops. -/
theorem walks_of_performs
    {op : Operation} {r : Except (Failure ε) Reply}
    (h : c.Performs s op r c' s') :
    ∃ moves stops tokens, op.action.Consists moves ∧
      c.Walks s moves stops tokens c' s' ∧
      (∀ reply, r = .ok reply → ∀ a ∈ reply.handed, a ∈ tokens) ∧
      ∀ log, c.noted.Performs (s, log) op r c'.noted
        (s', log ++ questions stops) := by
  cases op with
  | advance =>
      obtain ⟨result, hadvance, rfl⟩ := h
      refine ⟨_, _, _, rfl, walks_of_advance hadvance, handed_of_map ?_, ?_⟩
      · intro flag _ a ha
        cases ha
      · intro log
        have hnoted := (c.asked_spec s).2 log
        rw [hadvance] at hnoted
        rw [append_questions_singleton]
        exact ⟨result, hnoted, rfl⟩
  | next =>
      obtain ⟨result, hnext, rfl⟩ := h
      obtain ⟨tokens, hwalks, hmem⟩ := walks_of_next hnext
      refine ⟨_, _, tokens, rfl, hwalks, handed_of_map ?_, ?_⟩
      · intro b hb a ha
        rw [List.mem_singleton.mp ha]
        exact hmem b hb
      · intro log
        rw [append_questions_singleton]
        exact ⟨result, next_noted hnext log, rfl⟩
  | take n =>
      obtain ⟨result, htake, rfl⟩ := h
      obtain ⟨m, hm, stops, tokens, hwalks, htokens, hlog⟩ :=
        walks_of_take htake
      refine ⟨_, stops, tokens, ⟨m, hm, rfl⟩, hwalks, handed_of_map ?_, ?_⟩
      · intro found hfound a ha
        rw [← htokens found hfound]
        exact ha
      · intro log
        exact ⟨result, hlog log, rfl⟩
  | drain =>
      obtain ⟨result, hdrains, rfl⟩ := h
      obtain ⟨m, stops, tokens, hwalks, htokens, hlog⟩ :=
        walks_of_drains hdrains
      refine ⟨_, stops, tokens, ⟨m, rfl⟩, hwalks, handed_of_map ?_, ?_⟩
      · intro found hfound a ha
        rw [← htokens found hfound]
        exact ha
      · intro log
        exact ⟨result, hlog log, rfl⟩
  | reset =>
      obtain ⟨result, hreset, rfl, rfl⟩ := h
      have hc : c.reset.2 = c' := by rw [hreset]
      subst hc
      refine ⟨_, [], [], rfl, .reset (.nil _ _), handed_of_map ?_, ?_⟩
      · intro done _ a ha
        cases ha
      · intro log
        refine ⟨result, ?_, congrArg (Prod.mk s') (append_questions_nil log), rfl⟩
        rw [reset_noted, hreset]
  | release =>
      obtain ⟨rfl, rfl, rfl⟩ := h
      refine ⟨_, [], [], rfl, .release (.nil _ _), ?_, ?_⟩
      · intro reply hreply a ha
        cases hreply
        cases ha
      · intro log
        exact ⟨rfl, congrArg (Prod.mk s') (append_questions_nil log), rfl⟩
  | exit =>
      obtain ⟨rfl, rfl, rfl⟩ := h
      refine ⟨_, [], [], rfl, .release (.nil _ _), ?_, ?_⟩
      · intro reply hreply a ha
        cases hreply
        cases ha
      · intro log
        exact ⟨rfl, congrArg (Prod.mk s') (append_questions_nil log), rfl⟩
  | enter =>
      obtain ⟨rfl, rfl, rfl⟩ := h
      refine ⟨_, [], [], rfl, .nil _ _, ?_, ?_⟩
      · intro reply hreply a ha
        cases hreply
        cases ha
      · intro log
        exact ⟨rfl, congrArg (Prod.mk s') (append_questions_nil log), rfl⟩

theorem walks_of_runs
    {ops : List Operation} {rs : List (Except (Failure ε) Reply)}
    (h : c.Runs s ops rs c' s') :
    ∃ parts stops tokens,
      List.Forall₂ (fun op moves => op.action.Consists moves) ops parts ∧
      c.Walks s parts.flatten stops tokens c' s' ∧
      (∀ r ∈ rs, ∀ reply, r = .ok reply → ∀ a ∈ reply.handed, a ∈ tokens) ∧
      ∀ log, c.noted.Runs (s, log) ops rs c'.noted
        (s', log ++ questions stops) := by
  induction h with
  | nil c s =>
      refine ⟨[], [], [], .nil, .nil c s, by simp, ?_⟩
      intro log
      rw [append_questions_nil]
      exact .nil c.noted (s, log)
  | cons hop _ ih =>
      obtain ⟨moves, stops, tokens, hmoves, hwalks, hhanded, hlog⟩ :=
        walks_of_performs hop
      obtain ⟨parts, stops', tokens', hparts, hwalks', hhanded', hlog'⟩ := ih
      refine ⟨moves :: parts, stops ++ stops', tokens ++ tokens',
        .cons hmoves hparts, hwalks.append hwalks', ?_, ?_⟩
      · intro r hr reply hreply a ha
        rcases List.mem_cons.mp hr with rfl | hr
        · exact List.mem_append_left _ (hhanded reply hreply a ha)
        · exact List.mem_append_right _ (hhanded' r hr reply hreply a ha)
      · intro log
        rw [append_questions_append]
        exact .cons (hlog log) (hlog' _)

end Cursor

theorem OpenCursor.walks_act (x : OpenCursor) (action : Action) (b : Bench) :
    ∃ moves stops tokens, action.Consists moves ∧
      x.cursor.Walks b moves stops tokens
        (x.act action b).2.1.cursor (x.act action b).2.2 := by
  have htake : ∀ n, ∃ m ≤ n, ∃ stops tokens,
      x.cursor.Walks b (List.replicate m .advance) stops tokens
        (x.cursor.take n b).2.1 (x.cursor.take n b).2.2 := by
    intro n
    obtain ⟨m, hm, stops, tokens, hwalks, _⟩ :=
      Cursor.walks_of_take (c := x.cursor) (s := b) (n := n) rfl
    exact ⟨m, hm, stops, tokens, hwalks⟩
  cases action with
  | advance => exact ⟨_, _, _, rfl, Cursor.walks_of_advance rfl⟩
  | next =>
      obtain ⟨tokens, hwalks, _⟩ :=
        Cursor.walks_of_next (c := x.cursor) (s := b) rfl
      exact ⟨_, _, tokens, rfl, hwalks⟩
  | take n =>
      obtain ⟨m, hm, stops, tokens, hwalks⟩ := htake n
      exact ⟨_, stops, tokens, ⟨m, hm, rfl⟩, hwalks⟩
  | drain =>
      obtain ⟨m, _, stops, tokens, hwalks⟩ := htake (x.cursor.budget b)
      exact ⟨_, stops, tokens, ⟨m, rfl⟩, hwalks⟩
  | reset => exact ⟨_, [], [], rfl, .reset (.nil _ _)⟩
  | release => exact ⟨_, [], [], rfl, .release (.nil _ _)⟩
  | exit => exact ⟨_, [], [], rfl, .release (.nil _ _)⟩
  | moveTo position => exact ⟨_, [], [], rfl, .moveTo position (.nil _ _)⟩
  | enter => exact ⟨_, [], [], rfl, .nil _ _⟩
  | isOwnIterator => exact ⟨_, [], [], rfl, .nil _ _⟩
  | observe => exact ⟨_, [], [], rfl, .nil _ _⟩
  | locate target => exact ⟨_, [], [], rfl, .nil _ _⟩

end FirstMatch
