import FirstMatch.Proofs.Walk

/-!
# Cursors of one session do not interfere

If the matchers have no state, then the steps on a cursor have the same reports when they
are carried out alone, on a new cursor of the same scanner in a session of its own.  The
two sessions mirror each other: a step on the cursor is taken in both, and any other step
in the shared one only.
-/

namespace FirstMatch

/-- The step as one on the first cursor, if it is a step on cursor `k`. -/
def SessionStep.alone? (k : Nat) : SessionStep → Option SessionStep
  | .start _ => none
  | .clearDefinitions cursor =>
    if cursor = k then some (.clearDefinitions 0) else none
  | .act cursor action =>
    if cursor = k then some (.act 0 action) else none

namespace Session

def stepsOn (k : Nat) (steps : List SessionStep) : List SessionStep :=
  steps.filterMap (SessionStep.alone? k)

def reportsOn (k : Nat) (steps : List SessionStep)
    (reports : List StepReport) : List StepReport :=
  ((steps.zip reports).filter fun (step, _) => (step.alone? k).isSome).map
    Prod.snd

end Session

/-! ## Cursors without state -/

def OpenCursor.Stateless (c : OpenCursor) : Prop :=
  ∃ source, c.cursor.Reads source ∧ ∀ rule ∈ source.rules, rule.Stateless

theorem OpenCursor.Stateless.act
    {c : OpenCursor} (h : c.Stateless) (action : Action) (b : Bench) :
    (c.act action b).2.1.Stateless ∧ (c.act action b).2.2 = b := by
  obtain ⟨source, hreads, hrules⟩ := h
  obtain ⟨_, _, _, _, hwalks⟩ := c.walks_act action b
  refine ⟨⟨source, hwalks.reads hreads, hrules⟩, ?_⟩
  apply hwalks.preserves (J := fun u => u = b) hreads _ rfl
  intro rule hmem p u hu
  obtain ⟨answer, hanswer⟩ := hrules rule hmem
  rw [hanswer]
  exact hu

theorem Scanner.cursor_stateless
    {x : Scanner} (h : ∀ d ∈ x.definitions, d.matcher.isStateless = true) :
    (OpenCursor.mk x x.cursor).Stateless := by
  refine ⟨_, Cursor.start_reads _, ?_⟩
  intro rule hmem
  obtain ⟨d, hd, rfl⟩ := List.mem_map.mp hmem
  exact d.rule_stateless (h d hd) .machine

/-! ## The steps of a session -/

namespace Session

structure Settled (scanners : List Scanner) (b : Bench) (x : Session) :
    Prop where
  matchers : ∀ scanner ∈ scanners, ∀ d ∈ scanner.definitions,
    d.matcher.isStateless = true
  scanners_eq : x.scanners = scanners
  bench_eq : x.bench = b
  stateless : ∀ (i : Nat) (c : OpenCursor), x.cursors[i]? = some c → c.Stateless

variable {scanners : List Scanner} {b : Bench} {x y : Session} {k : Nat}

namespace Settled

theorem step_start
    (hx : x.Settled scanners b) {n : Nat} {scanner : Scanner}
    (hn : scanners[n]? = some scanner) :
    x.step (.start n) =
      (⟨.ok (.number x.cursors.size), some scanner.cursor.observed, []⟩,
        { x with cursors := x.cursors.push ⟨scanner, scanner.cursor⟩ }) := by
  rw [← hx.scanners_eq] at hn
  simp [step, perform, hn, stateOf]

theorem step_start_none
    (hx : x.Settled scanners b) {n : Nat} (hn : scanners[n]? = none) :
    x.step (.start n) = (⟨.error .noMember, none, []⟩, x) := by
  rw [← hx.scanners_eq] at hn
  simp [step, perform, hn, stateOf]

theorem step_clear (hx : x.Settled scanners b) (k : Nat) :
    x.step (.clearDefinitions k) =
      (⟨.ok (.numbers (scanners.map (·.definitions.length))), x.stateOf k, []⟩,
        x) := by
  rw [← hx.scanners_eq]
  simp [step, perform]

theorem step_act
    (hx : x.Settled scanners b) {c : OpenCursor}
    (hc : x.cursors[k]? = some c) (action : Action) :
    x.step (.act k action) =
      (⟨(c.act action b).1, some (c.act action b).2.1.cursor.observed, []⟩,
        { x with
          cursors := x.cursors.setIfInBounds k (c.act action b).2.1 }) := by
  have hbench := ((hx.stateless k c hc).act action b).2
  have hlt : k < x.cursors.size := (Array.getElem?_eq_some_iff.mp hc).1
  have hperform : x.perform (.act k action) =
      ((c.act action b).1, k,
        { x with
          cursors := x.cursors.setIfInBounds k (c.act action b).2.1 }) := by
    simp only [perform, hc, hx.bench_eq, hbench]
  have hstate :
      (x.cursors.setIfInBounds k (c.act action b).2.1)[k]? =
        some (c.act action b).2.1 :=
    Array.getElem?_setIfInBounds_self_of_lt hlt
  simp [step, hperform, stateOf, hstate]

theorem step_act_none
    (hc : x.cursors[k]? = none) (action : Action) :
    x.step (.act k action) = (⟨.error .noMember, none, []⟩, x) := by
  simp [step, perform, hc, stateOf]

theorem step (hx : x.Settled scanners b) (s : SessionStep) :
    (x.step s).2.Settled scanners b := by
  cases s with
  | start n =>
      cases hn : scanners[n]? with
      | none =>
          rw [hx.step_start_none hn]
          exact hx
      | some scanner =>
          rw [hx.step_start hn]
          refine ⟨hx.matchers, hx.scanners_eq, hx.bench_eq, ?_⟩
          intro i c hc
          rw [Array.getElem?_push] at hc
          split at hc
          · cases hc
            apply scanner.cursor_stateless
            exact hx.matchers scanner (List.mem_of_getElem? hn)
          · exact hx.stateless i c hc
  | clearDefinitions cursor =>
      rw [hx.step_clear cursor]
      exact hx
  | act cursor action =>
      cases hc : x.cursors[cursor]? with
      | none =>
          rw [step_act_none hc]
          exact hx
      | some c =>
          rw [hx.step_act hc]
          refine ⟨hx.matchers, hx.scanners_eq, hx.bench_eq, ?_⟩
          intro i c' hc'
          rw [Array.getElem?_setIfInBounds] at hc'
          split at hc'
          · split at hc'
            · cases hc'
              exact ((hx.stateless cursor c hc).act action b).1
            · cases hc'
          · exact hx.stateless i c' hc'

end Settled

/-! ## Runs -/

theorem run_cons (x : Session) (s : SessionStep) (steps : List SessionStep) :
    x.run (s :: steps) =
      ((x.step s).1 :: ((x.step s).2.run steps).1,
        ((x.step s).2.run steps).2) :=
  rfl

theorem run_append (x : Session) (before after : List SessionStep) :
    x.run (before ++ after) =
      ((x.run before).1 ++ ((x.run before).2.run after).1,
        ((x.run before).2.run after).2) := by
  induction before generalizing x with
  | nil => rfl
  | cons s before ih => rw [List.cons_append, run_cons, run_cons, ih]; rfl

theorem length_run (x : Session) (steps : List SessionStep) :
    (x.run steps).1.length = steps.length := by
  induction steps generalizing x with
  | nil => rfl
  | cons s steps ih => rw [run_cons, List.length_cons, List.length_cons, ih]

theorem Settled.run
    (hx : x.Settled scanners b) (steps : List SessionStep) :
    (x.run steps).2.Settled scanners b := by
  induction steps generalizing x with
  | nil => exact hx
  | cons s steps ih => exact ih (hx.step s)

structure Mirrors (scanners : List Scanner) (b : Bench) (k : Nat)
    (x y : Session) : Prop where
  shared : x.Settled scanners b
  alone : y.Settled scanners b
  exists_cursor : ∃ c, x.cursors[k]? = some c ∧ y.cursors[0]? = some c

namespace Mirrors

theorem step_own
    (h : Mirrors scanners b k x y) {s s' : SessionStep}
    (hs : s.alone? k = some s') :
    (x.step s).1 = (y.step s').1 ∧
      Mirrors scanners b k (x.step s).2 (y.step s').2 := by
  have hshared := h.shared.step s
  have halone := h.alone.step s'
  obtain ⟨c, hx, hy⟩ := h.exists_cursor
  cases s with
  | start n => cases hs
  | clearDefinitions cursor =>
      obtain ⟨rfl, hs'⟩ := Option.ite_none_right_eq_some.mp hs
      cases hs'
      rw [h.shared.step_clear, h.alone.step_clear]
      refine ⟨?_, h⟩
      simp [stateOf, hx, hy]
  | act cursor action =>
      obtain ⟨rfl, hs'⟩ := Option.ite_none_right_eq_some.mp hs
      cases hs'
      have hltx := (Array.getElem?_eq_some_iff.mp hx).1
      have hlty := (Array.getElem?_eq_some_iff.mp hy).1
      refine ⟨?_, hshared, halone, ?_⟩
      · rw [h.shared.step_act hx, h.alone.step_act hy]
      · rw [h.shared.step_act hx, h.alone.step_act hy]
        exact ⟨_, Array.getElem?_setIfInBounds_self_of_lt hltx,
          Array.getElem?_setIfInBounds_self_of_lt hlty⟩

theorem step_other
    (h : Mirrors scanners b k x y) {s : SessionStep}
    (hs : s.alone? k = none) :
    Mirrors scanners b k (x.step s).2 y := by
  have hshared := h.shared.step s
  obtain ⟨c, hx, hy⟩ := h.exists_cursor
  refine ⟨hshared, h.alone, c, ?_, hy⟩
  cases s with
  | start n =>
      cases hn : scanners[n]? with
      | none =>
          rw [h.shared.step_start_none hn]
          exact hx
      | some scanner =>
          have hlt := (Array.getElem?_eq_some_iff.mp hx).1
          rw [h.shared.step_start hn]
          simp only
          rw [Array.getElem?_push, if_neg (by omega)]
          exact hx
  | clearDefinitions cursor =>
      rw [h.shared.step_clear]
      exact hx
  | act cursor action =>
      have hne : cursor ≠ k := by
        intro heq
        simp [SessionStep.alone?, heq] at hs
      cases hc : x.cursors[cursor]? with
      | none =>
          rw [Settled.step_act_none hc]
          exact hx
      | some other =>
          rw [h.shared.step_act hc]
          simp only
          rw [Array.getElem?_setIfInBounds_ne hne]
          exact hx

theorem run
    (h : Mirrors scanners b k x y) (steps : List SessionStep) :
    reportsOn k steps (x.run steps).1 = (y.run (stepsOn k steps)).1 ∧
      Mirrors scanners b k (x.run steps).2 (y.run (stepsOn k steps)).2 := by
  induction steps generalizing x y with
  | nil => exact ⟨rfl, h⟩
  | cons s steps ih =>
      cases hs : s.alone? k with
      | none =>
          have hsteps : stepsOn k (s :: steps) = stepsOn k steps :=
            List.filterMap_cons_none hs
          obtain ⟨hreports, hmirrors⟩ := ih (h.step_other hs)
          rw [hsteps]
          refine ⟨?_, hmirrors⟩
          rw [← hreports]
          simp [reportsOn, run_cons, hs]
      | some s' =>
          have hsteps : stepsOn k (s :: steps) = s' :: stepsOn k steps :=
            List.filterMap_cons_some hs
          obtain ⟨hreport, hnext⟩ := h.step_own hs
          obtain ⟨hreports, hmirrors⟩ := ih hnext
          rw [hsteps, run_cons y]
          refine ⟨?_, hmirrors⟩
          rw [← hreports, ← hreport]
          simp [reportsOn, run_cons, hs]

end Mirrors

theorem scannersOf_ofDefinitions
    {ds : List Definition} (hds : ds ≠ []) (texts : List Text) :
    scannersOf (.ofDefinitions ds) (texts.map some) =
      .ok (texts.map (Scanner.mk ds)) := by
  induction texts with
  | nil => rfl
  | cons t texts ih =>
      simp only [List.map_cons, scannersOf, Scanner.build_ofDefinitions hds, ih]
      rfl

theorem start_settled
    {ds : List Definition}
    (hstateless : ∀ d ∈ ds, d.matcher.isStateless = true)
    (texts : List Text) (b : Bench) :
    (start (texts.map (Scanner.mk ds)) b).Settled
      (texts.map (Scanner.mk ds)) b := by
  refine ⟨?_, rfl, rfl, ?_⟩
  · intro scanner hmem
    obtain ⟨t, _, rfl⟩ := List.mem_map.mp hmem
    exact hstateless
  · intro i c hc
    simp [start] at hc

end Session

/-- A cursor is opened at some point of a session.  The steps on it, whatever stands before and
between them, have the reports that they have on the first cursor of a session of its own, and
lead to the same cursor. -/
theorem cursors_do_not_interfere
    {ds : List Definition} (hds : ds ≠ [])
    (hstateless : ∀ d ∈ ds, d.matcher.isStateless = true)
    (texts : List Text) (b : Bench) :
    let scanners := texts.map (Scanner.mk ds)
    Session.scannersOf (.ofDefinitions ds) (texts.map some) = .ok scanners ∧
    ∀ (before after : List SessionStep) (n : Nat), n < texts.length →
      let k := ((Session.start scanners b).run before).2.cursors.size
      let shared :=
        (Session.start scanners b).run (before ++ .start n :: after)
      let alone :=
        (Session.start scanners b).run (.start n :: Session.stepsOn k after)
      ∃ earlier opened later,
        shared.1 = earlier ++ opened :: later ∧
        earlier.length = before.length ∧ later.length = after.length ∧
        opened.result = .ok (.number k) ∧
        alone.1 = { opened with result := .ok (.number 0) } ::
          Session.reportsOn k after later ∧
        (∃ c, shared.2.cursors[k]? = some c ∧ alone.2.cursors[0]? = some c) ∧
        shared.2.scanners = scanners := by
  intro scanners
  refine ⟨Session.scannersOf_ofDefinitions hds texts, ?_⟩
  intro before after n hn k shared alone
  have hstart : (Session.start scanners b).Settled scanners b :=
    Session.start_settled hstateless texts b
  have hbefore := hstart.run before
  obtain ⟨scanner, hscanner⟩ : ∃ scanner, scanners[n]? = some scanner := by
    simp [scanners, hn]
  -- Right after it is opened, the cursor is the same in both sessions.
  have hopen := hbefore.step_start hscanner
  have hopen' := hstart.step_start hscanner
  have hmirrors : Session.Mirrors scanners b k
      (((Session.start scanners b).run before).2.step (.start n)).2
      ((Session.start scanners b).step (.start n)).2 := by
    refine ⟨hbefore.step _, hstart.step _, ⟨scanner, scanner.cursor⟩, ?_, ?_⟩
    · rw [hopen]
      exact Array.getElem?_push_size
    · rw [hopen']
      rfl
  obtain ⟨hreports, hlast⟩ := hmirrors.run after
  have hshared : shared = _ := Session.run_append _ before (.start n :: after)
  have halone : alone = _ := Session.run_cons _ (.start n) _
  rw [Session.run_cons] at hshared
  rw [hshared, halone]
  refine ⟨_, _, _, rfl, Session.length_run _ _, Session.length_run _ _, ?_, ?_,
    hlast.exists_cursor, hlast.shared.scanners_eq⟩
  · rw [hopen]
  · rw [hreports, hopen, hopen']
    rfl

/-- The cursor in question is the second one.  The first is released between the
steps on it, a third is opened, and the definitions are cleared. -/
theorem cursors_do_not_interfere_abab :
    let ds : List Definition :=
      [⟨.int 1, .keyword 0 #[97]⟩, ⟨.int 2, .keyword 1 #[98]⟩]
    let texts : List Text := [#[97, 98, 97], #[98, 97]]
    let scanners := texts.map (Scanner.mk ds)
    let before : List SessionStep := [.start 1, .act 0 .next]
    let after : List SessionStep :=
      [.act 1 .next, .act 0 .release, .start 0, .act 2 .drain,
        .clearDefinitions 1, .act 1 .drain, .act 0 .reset]
    let shared :=
      (Session.start scanners .empty).run (before ++ .start 0 :: after)
    let alone := (Session.start scanners .empty).run
      [.start 0, .act 0 .next, .clearDefinitions 0, .act 0 .drain]
    ds ≠ [] ∧ (∀ d ∈ ds, d.matcher.isStateless = true) ∧
    alone.1.map (·.result.toOption) =
      [some (.number 0), some (.token ⟨0, .int 1, #[97]⟩),
        some (.numbers [2, 2]),
        some (.tokens [⟨1, .int 2, #[98]⟩, ⟨2, .int 1, #[97]⟩])] ∧
    ∃ earlier opened later, shared.1 = earlier ++ opened :: later ∧
      alone.1 = { opened with result := .ok (.number 0) } ::
        Session.reportsOn 1 after later := by
  intro ds texts scanners before after shared alone
  have hds : ds ≠ [] := by simp [ds]
  have hstateless : ∀ d ∈ ds, d.matcher.isStateless = true := by decide
  have hk :
      ((Session.start scanners .empty).run before).2.cursors.size = 1 := by
    decide +kernel
  have hsteps : Session.stepsOn 1 after =
      [.act 0 .next, .clearDefinitions 0, .act 0 .drain] := by decide
  have hisolated := (cursors_do_not_interfere hds hstateless texts .empty).2
    before after 0 (by decide)
  simp only at hisolated
  rw [hk, hsteps] at hisolated
  obtain ⟨earlier, opened, later, hreports, _, _, _, hown, _⟩ :=
    hisolated
  refine ⟨hds, hstateless, ?_, earlier, opened, later, hreports, hown⟩
  decide +kernel

end FirstMatch
