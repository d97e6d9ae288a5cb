import FirstMatch.Pattern

/-!
# Compiling depends on the final flags alone

Some flags are given, others are turned on at the start of the pattern, and only their
union matters.  Suppose that one header is read in verbose mode and another is not.  As
long as both stand in front of a parenthesis they do the same.  In front of anything else
the second one ends and is never verbose then, so the final flags differ.
-/

namespace FirstMatch

theorem exists_of_bind_eq_ok
    {ε α β : Type} {x : Except ε α} {f : α → Except ε β} {b : β}
    (h : x >>= f = .ok b) :
    ∃ a, x = .ok a ∧ f a = .ok b := by
  cases x with
  | error e => cases h
  | ok a => exact ⟨a, rfl, h⟩

namespace Pattern

/-! ## Flags only grow -/

theorem Flags.has_turnOnAll_iff (f : Flags) (on : List Switch) (u : Switch) :
    (f.turnOnAll on).has u = true ↔ f.has u = true ∨ u ∈ on := by
  induction on generalizing f with
  | nil => simp [turnOnAll]
  | cons s on ih =>
      have hstep : f.turnOnAll (s :: on) = (f.turnOn s).turnOnAll on := rfl
      rw [hstep, ih, has_turnOn_iff, List.mem_cons, or_assoc, eq_comm (a := s)]

theorem settleFlags_eq_ok_iff {f g : Flags} :
    settleFlags f = .ok g ↔
      f.has .locale = false ∧
        (f.has .ascii = true ∧ f.has .unicode = false ∧ g = f ∨
          f.has .ascii = false ∧ g = f.turnOn .unicode) := by
  unfold settleFlags
  by_cases hlocale : f.has .locale = true
  · simp [hlocale]
  · by_cases hascii : f.has .ascii = true
    · by_cases hunicode : f.has .unicode = true
      · simp [hlocale, hascii, hunicode]
      · simpa [hlocale, hascii, hunicode] using eq_comm
    · simpa [hlocale, hascii] using eq_comm

theorem ofFlags_of_settleFlags
    {f g : Flags} (h : settleFlags f = .ok g) :
    Style.ofFlags g = Style.ofFlags f := by
  have hother : ∀ u, u ≠ Switch.unicode → g.has u = f.has u := by
    intro u hu
    obtain ⟨_, ⟨_, _, rfl⟩ | ⟨_, rfl⟩⟩ := settleFlags_eq_ok_iff.mp h
    · rfl
    · rw [Bool.eq_iff_iff, Flags.has_turnOn_iff]
      simp [hu.symm]
  unfold Style.ofFlags
  rw [hother .template (by decide), hother .ignoreCase (by decide), hother .multiLine (by decide),
    hother .dotAll (by decide), hother .verbose (by decide),
    hother .ascii (by decide)]

/-! ## The header -/

namespace Reading

theorem header_succ (limit : Nat) (f : Flags) (r : Reader) :
    (header (limit + 1) f).run r =
      match (preamble (f.has .verbose)).run r with
      | .error e => .error e
      | .ok (.flags on, r') => (header limit (f.turnOnAll on)).run r'
      | .ok (.skipped, r') => (header limit f).run r'
      | .ok (.body, r') => .ok (f, r') := by
  rw [header, StateT.run_bind]
  cases (preamble (f.has .verbose)).run r with
  | error e => rfl
  | ok found =>
      obtain ⟨item, r'⟩ := found
      cases item <;> rfl

theorem has_of_header
    {limit : Nat} {f g : Flags} {r r' : Reader} {u : Switch}
    (h : (header limit f).run r = .ok (g, r')) (hu : f.has u = true) :
    g.has u = true := by
  induction limit generalizing f r with
  | zero =>
      cases h
      exact hu
  | succ limit ih =>
      rw [header_succ] at h
      split at h
      next => cases h
      next on r₁ _ =>
        apply ih h
        rw [Flags.has_turnOnAll_iff]
        exact .inl hu
      next => exact ih h hu
      next =>
        cases h
        exact hu

/-- Verbose or not, the header goes on in the same way, or it ends at once when it
is not verbose. -/
theorem preamble_true_eq_or (r : Reader) :
    (preamble true).run r = (preamble false).run r ∨
      (preamble false).run r = .ok (.body, r) := by
  unfold preamble peek
  simp only [StateT.run_bind, StateT.run_get, pure_bind, StateT.run_pure]
  split
  next c _ =>
    by_cases hparenthesis : (c == '('.toNat) = true
    · have hc : c = '('.toNat := beq_iff_eq.mp hparenthesis
      subst hc
      left
      rfl
    · right
      simp only [Bool.false_and, Bool.false_eq_true, if_false, hparenthesis]
      rfl
  next =>
    right
    rfl

theorem preamble_of_header
    {limit : Nat} {f g : Flags} {r r' : Reader}
    (h : (header (limit + 1) f).run r = .ok (g, r')) :
    (preamble (g.has .verbose)).run r = (preamble (f.has .verbose)).run r := by
  cases hf : f.has .verbose with
  | true => rw [has_of_header h hf]
  | false =>
      cases hg : g.has .verbose with
      | false => rfl
      | true =>
          rcases preamble_true_eq_or r with hsame | hbody
          · exact hsame
          · rw [header_succ, hf, hbody] at h
            cases h
            rw [hf] at hg
            contradiction

theorem preamble_eq_of_header
    {limit : Nat} {f g f' g' : Flags} {r r₁ r₂ : Reader}
    (h₁ : (header (limit + 1) f).run r = .ok (f', r₁))
    (h₂ : (header (limit + 1) g).run r = .ok (g', r₂))
    (hverbose : f'.has .verbose = g'.has .verbose) :
    (preamble (f.has .verbose)).run r = (preamble (g.has .verbose)).run r := by
  rw [← preamble_of_header h₁, ← preamble_of_header h₂, hverbose]

theorem header_reader_eq
    {limit : Nat} {f g f' g' : Flags} {r r₁ r₂ : Reader}
    (h₁ : (header limit f).run r = .ok (f', r₁))
    (h₂ : (header limit g).run r = .ok (g', r₂))
    (hverbose : f'.has .verbose = g'.has .verbose) :
    r₁ = r₂ := by
  induction limit generalizing f g r with
  | zero =>
      cases h₁
      cases h₂
      rfl
  | succ limit ih =>
      have hitem := preamble_eq_of_header h₁ h₂ hverbose
      rw [header_succ] at h₁ h₂
      rw [← hitem] at h₂
      cases hfound : (preamble (f.has .verbose)).run r with
      | error e =>
          rw [hfound] at h₁
          cases h₁
      | ok found =>
          obtain ⟨item, r'⟩ := found
          rw [hfound] at h₁ h₂
          cases item with
          | flags on => exact ih h₁ h₂
          | skipped => exact ih h₁ h₂
          | body =>
              cases h₁
              cases h₂
              rfl

end Reading

/-! ## The whole pattern -/

theorem readTree_eq_of_style
    {f g : Flags} (h : Style.ofFlags f = Style.ofFlags g) :
    readTree f = readTree g := by
  unfold readTree
  rw [h]

theorem finish_eq_ok
    {source : Text} {f : Flags} {tree : Tree} {r : Reader} {p : Pattern}
    (h : finish source f tree r = .ok p) :
    settleFlags f = .ok p.flags ∧ p.source = source ∧ p.root = tree.root := by
  unfold finish at h
  obtain ⟨g, hsettle, h⟩ := exists_of_bind_eq_ok h
  cases hunbalanced : tree.unbalanced with
  | some position =>
      rw [hunbalanced] at h
      cases h
  | none =>
      rw [hunbalanced] at h
      cases hcondition : badCondition? r with
      | some bad =>
          rw [hcondition] at h
          cases h
      | none =>
          rw [hcondition] at h
          cases hlate : tree.root.lateProblem? (.ofFlags g) with
          | some problem =>
              simp only [hlate] at h
              cases h
          | none =>
              by_cases hrange : g.value < minFlags ∨ maxFlags < g.value
              · simp only [hlate, if_pos hrange] at h
                cases h
              · simp only [hlate, if_neg hrange] at h
                cases h
                exact ⟨hsettle, rfl, rfl⟩

theorem compile_eq_ok
    {source : Text} {f : Flags} {characters : CharacterNames} {p : Pattern}
    (h : compile source f characters = .ok p) :
    ∃ start g body tree r,
      Reading.checkAhead.run (startReader source characters) = .ok ((), start) ∧
      (Reading.header (start.rest.length + 1) f).run start = .ok (g, body) ∧
      (readTree g).run body = .ok (tree, r) ∧
      finish source g tree r = .ok p := by
  unfold compile at h
  obtain ⟨⟨_, start⟩, hstart, h⟩ := exists_of_bind_eq_ok h
  obtain ⟨⟨g, body⟩, hheader, h⟩ := exists_of_bind_eq_ok h
  obtain ⟨⟨tree, r⟩, htree, hfinish⟩ := exists_of_bind_eq_ok h
  exact ⟨start, g, body, tree, r, hstart, hheader, htree, hfinish⟩

theorem source_of_compile
    {source : Text} {f : Flags} {characters : CharacterNames} {p : Pattern}
    (h : compile source f characters = .ok p) :
    p.source = source := by
  obtain ⟨_, _, _, _, _, _, _, _, hfinish⟩ := compile_eq_ok h
  exact (finish_eq_ok hfinish).2.1

/-- Patterns with one text and the same final flags are the same, whatever flags
they were compiled with, as long as characters have the same names. -/
theorem compile_unique
    {source : Text} {f g : Flags} {characters : CharacterNames} {p q : Pattern}
    (hp : compile source f characters = .ok p) (hq : compile source g characters = .ok q)
    (hflags : p.flags = q.flags) :
    p = q := by
  obtain ⟨start, f', body, tree, r, hstart, hheader, htree, hfinish⟩ :=
    compile_eq_ok hp
  obtain ⟨start', g', body', tree', r', hstart', hheader', htree', hfinish'⟩ :=
    compile_eq_ok hq
  obtain ⟨hsettle, hsource, hroot⟩ := finish_eq_ok hfinish
  obtain ⟨hsettle', hsource', hroot'⟩ := finish_eq_ok hfinish'
  have hstyle : Style.ofFlags f' = Style.ofFlags g' := by
    rw [← ofFlags_of_settleFlags hsettle, ← ofFlags_of_settleFlags hsettle', hflags]
  have hverbose : f'.has .verbose = g'.has .verbose :=
    congrArg Style.verbose hstyle
  rw [hstart] at hstart'
  cases hstart'
  have hbody : body = body' := Reading.header_reader_eq hheader hheader' hverbose
  subst hbody
  rw [readTree_eq_of_style hstyle, htree'] at htree
  cases htree
  calc p = ⟨p.source, p.flags, p.root⟩ := rfl
    _ = ⟨q.source, q.flags, q.root⟩ := by
        rw [hsource, hsource', hflags, hroot, hroot']
    _ = q := rfl

end Pattern

end FirstMatch
