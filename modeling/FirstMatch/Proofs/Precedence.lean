import FirstMatch.Proofs.Walk

/-!
# The precedence of rules

If the rules have no state, then every token is the work of the first rule that has
anything to offer at its index, however much more a later rule would take.  The calls that
scripted matchers leave on the bench are their part of the log.
-/

namespace FirstMatch

variable {ε σ : Type}

/-! ## Rules without state -/

/-- What the rule answers depends on the text and the place alone. -/
def Rule.Steady (rule : Rule ε σ) : Prop :=
  ∃ answer : Text → Int → Except ε (Option Text),
    ∀ t p s, (rule.ask t p s).1 = answer t p

/-- The token is that of the first rule with a non-empty answer at its index. -/
def Source.Earliest (source : Source ε σ) (a : Token) : Prop :=
  ∃ before rule after, source.rules = before ++ rule :: after ∧
    a.kind = rule.kind ∧ a.value ≠ #[] ∧
    (∀ s, (rule.ask source.text a.index s).1 = .ok (some a.value)) ∧
    ∀ earlier ∈ before, ∀ s,
      (earlier.ask source.text a.index s).1 = .ok none ∨
        (earlier.ask source.text a.index s).1 = .ok (some #[])

theorem Rule.Steady.ask_eq
    {rule : Rule ε σ} (hrule : rule.Steady) {t : Text} {p : Int} {s s' : σ}
    {r : Except ε (Option Text)} (hask : rule.ask t p s = (r, s')) (u : σ) :
    (rule.ask t p u).1 = r := by
  obtain ⟨answer, hanswer⟩ := hrule
  rw [hanswer, ← hanswer t p s, hask]

theorem Rule.Declines.steady
    {t : Text} {p : Int} {rules : List (Rule ε σ)} {s s' : σ}
    {answers : List (Option Text)} (h : Declines t p rules s answers s')
    (hrules : ∀ rule ∈ rules, rule.Steady) :
    ∀ rule ∈ rules, ∀ u, (rule.ask t p u).1 = .ok none ∨
      (rule.ask t p u).1 = .ok (some #[]) := by
  induction h with
  | nil => simp
  | @cons first rest _ _ _ answer _ hask hempty _ ih =>
      intro rule hmem u
      rcases List.mem_cons.mp hmem with rfl | hmem
      · rw [(hrules rule List.mem_cons_self).ask_eq hask u]
        rcases hempty with rfl | rfl
        · exact .inl rfl
        · exact .inr rfl
      · apply ih _ rule hmem
        intro rule' hmem'
        exact hrules rule' (List.mem_cons_of_mem first hmem')

theorem Rule.Stateless.steady
    {rule : Rule ε σ} (h : rule.Stateless) : rule.Steady := by
  obtain ⟨answer, hanswer⟩ := h
  refine ⟨answer, ?_⟩
  intro t p s
  rw [hanswer]

namespace Cursor

variable {c c' : Cursor ε σ} {s s' : σ} {source : Source ε σ}

theorem Inquires.earliest
    {asked : List (Inquiry ε)} {result : Except (Failure ε) Bool}
    (h : c.Inquires s asked result c' s') (hc : c.Reads source)
    (hrules : ∀ rule ∈ source.rules, rule.Steady) :
    ∀ a ∈ made result c', source.Earliest a := by
  intro a ha
  cases h with
  | idle => cases ha
  | consults hsource _ hconsults =>
      have hsame := hc _ hsource
      subst hsame
      generalize hlist : Source.rules _ = rules at hconsults
      cases hconsults with
      | declined => cases ha
      | refused => cases ha
      | @found before after rule _ v _ _ _ hbefore hask hne =>
          have ha' : a = ⟨c.position, rule.kind, v⟩ := List.mem_singleton.mp ha
          subst ha'
          rw [hlist] at hrules
          refine ⟨before, rule, after, hlist, rfl, hne, ?_, ?_⟩
          · intro u
            exact (hrules rule (by simp)).ask_eq hask u
          · apply hbefore.steady
            intro earlier hmem
            exact hrules earlier (List.mem_append_left _ hmem)

theorem Walks.earliest
    {moves : List Move} {stops : List (Cursor ε σ × σ)} {tokens : List Token}
    (h : c.Walks s moves stops tokens c' s') (hc : c.Reads source)
    (hrules : ∀ rule ∈ source.rules, rule.Steady) :
    ∀ a ∈ tokens, source.Earliest a := by
  induction h with
  | nil => simp
  | @advance c _ _ s _ _ _ _ _ _ hadvance _ ih =>
      have hinquires := (c.asked_spec s).1
      have hnext := hc.advance s
      rw [hadvance] at hinquires hnext
      intro a ha
      rcases List.mem_append.mp ha with ha | ha
      · exact hinquires.earliest hc hrules a ha
      · exact ih hnext a ha
  | reset _ ih => exact ih hc.reset
  | release _ ih => exact ih (.release _ _)
  | moveTo _ _ ih => exact ih hc

end Cursor

/-! ## The calls on the bench -/

/-- The call that asking the definition leaves on the bench, if it has a script. -/
def Definition.call? (d : Definition) (t : Text) (p : Int) : Option Call :=
  match d.matcher with
  | .scripted _ name => some ⟨name, t.size, p⟩
  | _ => none

def Inquiry.call? (ds : List Definition) (q : Inquiry Refusal) : Option Call :=
  ds[q.rule]?.bind fun d => d.call? q.text q.position

theorem Matcher.bench_ask_scripted
    (identity : Nat) (name t : Text) (p : Int) (b : Bench) :
    ((scripted identity name).ask t p b).2 =
      (b.call identity ⟨name, t.size, p⟩).2 := by
  simp only [ask]
  cases b.call identity ⟨name, t.size, p⟩ with
  | mk answer b' => cases answer <;> rfl

theorem Definition.calls_ask
    (d : Definition) (t : Text) (p : Int) (b : Bench) :
    (d.rule.ask t p b).2.calls.toList =
      b.calls.toList ++ (d.call? t p).toList := by
  obtain ⟨kind, matcher⟩ := d
  cases matcher with
  | pattern q => simp [rule, Matcher.ask, call?]
  | keyword identity word => simp [rule, Matcher.ask, call?]
  | scripted identity name =>
      simp only [rule, Matcher.bench_ask_scripted]
      simp [Bench.call, call?]

theorem Rule.exists_of_mem_notedFrom
    {n : Nat} {rules : List (Rule ε σ)} {rule : Rule ε (σ × List (Inquiry ε))}
    (h : rule ∈ notedFrom n rules) :
    ∃ i rule', rules[i]? = some rule' ∧ rule = noted (n + i) rule' := by
  induction rules generalizing n with
  | nil => cases h
  | cons first rest ih =>
      rcases List.mem_cons.mp h with rfl | h
      · exact ⟨0, first, rfl, rfl⟩
      · obtain ⟨i, rule', hrule', rfl⟩ := ih h
        refine ⟨i + 1, rule', hrule', ?_⟩
        rw [Nat.add_assoc, Nat.add_comm 1 i]

namespace Cursor

variable {ds : List Definition} {t : Text}

theorem calls_advance
    {c : Cursor Refusal Bench} (hc : c.Reads ⟨ds.map (·.rule), t⟩)
    (b : Bench) :
    (c.advance b).2.2.calls.toList =
      b.calls.toList ++ (c.asked b).filterMap (Inquiry.call? ds) := by
  -- Asking one rule that takes notes adds to the calls what it adds to the notes.
  let J : Bench × List (Inquiry Refusal) → Prop := fun u =>
    u.1.calls.toList = b.calls.toList ++ u.2.filterMap (Inquiry.call? ds)
  have hstart : J (b, []) := by simp [J]
  have hnoted : c.noted.Reads
      ⟨Rule.notedFrom 0 (ds.map (·.rule)), t⟩ := by
    intro other hother
    obtain ⟨source, hsource, rfl⟩ := Option.map_eq_some_iff.mp hother
    rw [hc source hsource]
  have hkept : J (c.noted.advance (b, [])).2.2 := by
    refine advance_preserves hnoted ?_ hstart
    intro rule hmem u hu
    obtain ⟨i, rule', hrule', rfl⟩ := Rule.exists_of_mem_notedFrom hmem
    rw [List.getElem?_map] at hrule'
    obtain ⟨d, hd, rfl⟩ := Option.map_eq_some_iff.mp hrule'
    obtain ⟨b₁, log⟩ := u
    have hcall : ∀ answer, Inquiry.call? ds
        ⟨0 + i, t, c.noted.position, answer⟩ =
          d.call? t c.noted.position := by
      simp [Inquiry.call?, hd]
    simp only [J] at hu ⊢
    rw [Rule.noted_ask rfl, d.calls_ask, hu, List.filterMap_append,
      List.filterMap_cons, hcall, List.append_assoc]
    cases d.call? t c.noted.position <;> rfl
  rw [(c.asked_spec b).2 []] at hkept
  exact hkept

theorem Walks.calls
    {c c' : Cursor Refusal Bench} {b b' : Bench} {moves : List Move}
    {stops : List (Cursor Refusal Bench × Bench)} {tokens : List Token}
    (h : c.Walks b moves stops tokens c' b')
    (hc : c.Reads ⟨ds.map (·.rule), t⟩) :
    b'.calls.toList =
      b.calls.toList ++ (questions stops).filterMap (Inquiry.call? ds) := by
  induction h with
  | nil => simp [questions]
  | @advance c _ _ b _ _ _ _ stops _ hadvance _ ih =>
      have hnext := hc.advance b
      have hcalls := calls_advance hc b
      rw [hadvance] at hnext hcalls
      rw [ih hnext, hcalls, List.append_assoc, ← List.filterMap_append]
      rfl
  | reset _ ih => exact ih hc.reset
  | release _ ih => exact ih (.release _ _)
  | moveTo _ _ ih => exact ih hc

end Cursor

/-- Every request for a token asks the rules in order, as `Cursor.Inquires` has it, and the log
of any walk consists of what is asked at its stops.  A token of rules without state comes from
the first of them that has one for its index.  The calls of scripted matchers are those of the
log. -/
theorem rules_are_asked_in_order :
    (∀ (ε σ : Type) (c : Cursor ε σ) (s : σ),
      c.Inquires s (c.asked s) (c.advance s).1 (c.advance s).2.1
        (c.advance s).2.2 ∧
      ∀ log, c.noted.advance (s, log) =
        ((c.advance s).1, (c.advance s).2.1.noted, (c.advance s).2.2,
          log ++ c.asked s)) ∧
    (∀ (ε σ : Type) (c : Cursor ε σ) (s : σ) (moves : List Move),
      (∃ stops tokens c' s', c.Walks s moves stops tokens c' s') ∧
      ∀ stops tokens c' s', c.Walks s moves stops tokens c' s' →
        ∀ log, ∃ notedStops, c.noted.Walks (s, log) moves notedStops tokens
          c'.noted (s', log ++ Cursor.questions stops)) ∧
    (∀ (ε σ : Type) (c c' : Cursor ε σ) (s s' : σ) (ops : List Operation)
      (rs : List (Except (Cursor.Failure ε) Reply)),
      c.Runs s ops rs c' s' →
      ∃ parts stops tokens,
        List.Forall₂ (fun op moves => op.action.Consists moves) ops parts ∧
        c.Walks s parts.flatten stops tokens c' s' ∧
        (∀ r ∈ rs, ∀ reply, r = .ok reply →
          ∀ a ∈ reply.handed, a ∈ tokens) ∧
        ∀ log, c.noted.Runs (s, log) ops rs c'.noted
          (s', log ++ Cursor.questions stops)) ∧
    (∀ (ε σ : Type) (source : Source ε σ) (c' : Cursor ε σ) (s s' : σ)
      (moves : List Move) (stops : List (Cursor ε σ × σ)) (tokens : List Token),
      (∀ rule ∈ source.rules, rule.Steady) →
      (Cursor.start source).Walks s moves stops tokens c' s' →
      ∀ a ∈ tokens, source.Earliest a) ∧
    (∀ (x : OpenCursor) (action : Action) (b : Bench),
      ∃ moves stops tokens, action.Consists moves ∧
        x.cursor.Walks b moves stops tokens
          (x.act action b).2.1.cursor (x.act action b).2.2) ∧
    ∀ (x : Scanner) (c' : Cursor Refusal Bench) (b b' : Bench)
      (moves : List Move) (stops : List (Cursor Refusal Bench × Bench))
      (tokens : List Token),
      x.cursor.Walks b moves stops tokens c' b' →
      b'.calls.toList = b.calls.toList ++
        (Cursor.questions stops).filterMap (Inquiry.call? x.definitions) := by
  refine ⟨?_, ?_, ?_, ?_, OpenCursor.walks_act, ?_⟩
  · intro ε σ c s
    exact c.asked_spec s
  · intro ε σ c s moves
    refine ⟨c.exists_walks s moves, ?_⟩
    intro stops tokens c' s' hwalks
    exact hwalks.noted
  · intro ε σ c c' s s' ops rs hruns
    exact Cursor.walks_of_runs hruns
  · intro ε σ source c' s s' moves stops tokens hrules hwalks
    exact hwalks.earliest (Cursor.start_reads source) hrules
  · intro x c' b b' moves stops tokens hwalks
    exact hwalks.calls (Cursor.start_reads _)

theorem rules_are_asked_in_order_ab :
    let t : Text := #[97, 98]
    let x : Scanner :=
      ⟨[⟨.int 1, .keyword 0 #[]⟩, ⟨.int 2, .keyword 1 #[97]⟩,
        ⟨.int 3, .keyword 2 #[97, 98]⟩], t⟩
    let source : Source Refusal Bench :=
      ⟨x.definitions.map (·.rule), t⟩
    let a : Token := ⟨0, .int 2, #[97]⟩
    let c' : Cursor Refusal Bench := ⟨some source, 1, none, true⟩
    x.cursor.asked .empty =
      [⟨0, t, 0, .ok (some #[])⟩, ⟨1, t, 0, .ok (some #[97])⟩] ∧
    x.cursor.Runs .empty [.take 2] [.ok (.tokens [a])] c' .empty ∧
    (∀ rule ∈ source.rules, rule.Steady) ∧
    (∃ moves stops tokens, x.cursor.Walks .empty moves stops tokens c' .empty ∧
      x.cursor.noted.Runs (.empty, []) [.take 2] [.ok (.tokens [a])] c'.noted
        (.empty, Cursor.questions stops)) ∧
    source.Earliest a := by
  intro t x source a c'
  have hruns : x.cursor.Runs .empty [.take 2] [.ok (.tokens [a])] c' .empty :=
    .cons ⟨.ok [a], rfl, rfl⟩ (.nil _ _)
  have hrules : ∀ rule ∈ source.rules, rule.Steady := by
    intro rule hmem
    obtain ⟨d, hd, rfl⟩ := List.mem_map.mp hmem
    have hstateless : ∀ d ∈ x.definitions, d.matcher.isStateless = true := by
      decide
    exact (d.rule_stateless (hstateless d hd) .machine).steady
  obtain ⟨parts, stops, tokens, _, hwalks, hhanded, hnoted⟩ :=
    rules_are_asked_in_order.2.2.1 _ _ _ _ _ _ _ _ hruns
  have ha : a ∈ tokens :=
    hhanded _ (List.mem_singleton_self _) _ rfl a (List.mem_singleton_self a)
  have hearliest := rules_are_asked_in_order.2.2.2.1 _ _ source c' _ _ _ stops
    tokens hrules hwalks a ha
  exact ⟨rfl, hruns, hrules, ⟨_, stops, tokens, hwalks, hnoted []⟩, hearliest⟩

end FirstMatch
