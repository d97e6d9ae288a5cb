import FirstMatch.Proofs.EqualDefinitions

/-!
# Compiling a pattern again

The final flags, given from the start, are in force while the header is read, in which the
text turns some of them on again.  That changes nothing: a header that ends verbose cannot
have met anything before that a verbose reader would skip and another one would not.
-/

namespace FirstMatch

namespace Pattern

/-! ## Flags that are on already -/

theorem Flags.turnOnAll_eq_self
    {f : Flags} {on : List Switch} (h : ∀ u ∈ on, f.has u = true) :
    f.turnOnAll on = f := by
  induction on with
  | nil => rfl
  | cons s on ih =>
      have hs : f.turnOn s = f := if_pos (h s List.mem_cons_self)
      have hon : ∀ u ∈ on, f.has u = true := by
        intro u hu
        exact h u (List.mem_cons_of_mem s hu)
      have hstep : f.turnOnAll (s :: on) = (f.turnOn s).turnOnAll on := rfl
      rw [hstep, hs, ih hon]

theorem has_of_settleFlags
    {f g : Flags} {u : Switch} (h : settleFlags f = .ok g) (hu : f.has u = true) :
    g.has u = true := by
  obtain ⟨_, ⟨_, _, rfl⟩ | ⟨_, rfl⟩⟩ := settleFlags_eq_ok_iff.mp h
  · exact hu
  · rw [Flags.has_turnOn_iff]
    exact .inl hu

theorem settleFlags_of_settleFlags
    {f g : Flags} (h : settleFlags f = .ok g) :
    settleFlags g = .ok g := by
  obtain ⟨hlocale, ⟨hascii, hunicode, rfl⟩ | ⟨hascii, rfl⟩⟩ :=
    settleFlags_eq_ok_iff.mp h
  · exact h
  · have hon : (f.turnOn .unicode).has .unicode = true := by
      rw [Flags.has_turnOn_iff]
      exact .inr rfl
    have hoff : ∀ u, u ≠ Switch.unicode → f.has u = false →
        (f.turnOn .unicode).has u = false := by
      intro u hu hf
      rw [Bool.eq_false_iff, Ne, Flags.has_turnOn_iff]
      simp [hf, hu.symm]
    rw [settleFlags_eq_ok_iff]
    refine ⟨hoff .locale (by decide) hlocale, .inr ⟨hoff .ascii (by decide) hascii, ?_⟩⟩
    exact (if_pos hon).symm

/-! ## The header and the whole pattern -/

/-- Read with flags that hold all the final ones, and as verbose as these, the
header ends at the same place and turns nothing on. -/
theorem Reading.header_again
    {limit : Nat} {f g k : Flags} {r r' : Reader}
    (h : (header limit f).run r = .ok (g, r'))
    (hk : ∀ u, g.has u = true → k.has u = true)
    (hverbose : k.has .verbose = g.has .verbose) :
    (header limit k).run r = .ok (k, r') := by
  induction limit generalizing f r with
  | zero =>
      cases h
      rfl
  | succ limit ih =>
      have hitem := preamble_of_header h
      rw [header_succ] at h ⊢
      rw [hverbose, hitem]
      cases hfound : (preamble (f.has .verbose)).run r with
      | error e =>
          rw [hfound] at h
          cases h
      | ok found =>
          obtain ⟨item, r₁⟩ := found
          rw [hfound] at h
          cases item with
          | flags on =>
              have hon : ∀ u ∈ on, k.has u = true := by
                intro u hu
                apply hk
                apply has_of_header h
                rw [Flags.has_turnOnAll_iff]
                exact .inr hu
              show (header limit (k.turnOnAll on)).run r₁ = _
              rw [Flags.turnOnAll_eq_self hon]
              exact ih h
          | skipped => exact ih h
          | body =>
              cases h
              rfl

theorem finish_eq_of_settleFlags
    {f g : Flags} (h : settleFlags f = settleFlags g) (source : Text) (tree : Tree)
    (r : Reader) :
    finish source f tree r = finish source g tree r := by
  unfold finish
  rw [h]

theorem compile_of_stages
    {source : Text} {f g : Flags} {characters : CharacterNames}
    {start body r : Reader} {tree : Tree}
    (hstart : Reading.checkAhead.run (startReader source characters) = .ok ((), start))
    (hheader : (Reading.header (start.rest.length + 1) f).run start = .ok (g, body))
    (htree : (readTree g).run body = .ok (tree, r)) :
    compile source f characters = finish source g tree r := by
  simp only [compile, hstart]
  show ((Reading.header (start.rest.length + 1) f).run start >>= _) = _
  rw [hheader]
  show ((readTree g).run body >>= _) = _
  rw [htree]
  rfl

theorem compile_again
    {source : Text} {f : Flags} {characters : CharacterNames} {p : Pattern}
    (h : compile source f characters = .ok p) :
    compile source p.flags characters = .ok p := by
  obtain ⟨start, g, body, tree, r, hstart, hheader, htree, hfinish⟩ := compile_eq_ok h
  obtain ⟨hsettle, _, _⟩ := finish_eq_ok hfinish
  have hstyle : Style.ofFlags p.flags = Style.ofFlags g := ofFlags_of_settleFlags hsettle
  have hverbose : p.flags.has .verbose = g.has .verbose := congrArg Style.verbose hstyle
  have hheader' : (Reading.header (start.rest.length + 1) p.flags).run start =
      .ok (p.flags, body) := by
    apply Reading.header_again hheader _ hverbose
    intro u hu
    exact has_of_settleFlags hsettle hu
  have htree' : (readTree p.flags).run body = .ok (tree, r) := by
    rw [readTree_eq_of_style hstyle]
    exact htree
  have hsettle' : settleFlags p.flags = settleFlags g := by
    rw [hsettle]
    exact settleFlags_of_settleFlags hsettle
  calc compile source p.flags characters
      = finish source p.flags tree r := compile_of_stages hstart hheader' htree'
    _ = finish source g tree r := finish_eq_of_settleFlags hsettle' source tree r
    _ = .ok p := hfinish

end Pattern

/-- A matcher that can be made from a pattern can be made again from what it shows
of itself, its text and its final flags.  The second one is equal to the first,
shows the same and recognises the same. -/
theorem shown_pattern_makes_equal_matcher
    {source : Text} {flags : Pattern.Flags} {characters : CharacterNames} {m : Matcher}
    (h : Matcher.ofSource source flags characters = .ok m) :
    ∃ p q : Pattern, m = .pattern p ∧ p.source = source ∧
      Matcher.ofSource p.source p.flags characters = .ok (.pattern q) ∧
      (Matcher.pattern q).same m = true ∧ q.source = p.source ∧ q.flags = p.flags ∧
      (Matcher.pattern q).literal = m.literal ∧
      ∀ (t : Text) (start : Int) (b : Bench) (starts : Starts),
        (Matcher.pattern q).ask t start b starts = m.ask t start b starts := by
  obtain ⟨p, rfl, hcompile⟩ := Matcher.ofSource_eq_ok h
  have hsource : p.source = source := Pattern.source_of_compile hcompile
  have hagain : Matcher.ofSource p.source p.flags characters = .ok (.pattern p) := by
    unfold Matcher.ofSource
    rw [hsource, Pattern.compile_again hcompile]
  have hsame : (Matcher.pattern p).same (.pattern p) = true := by
    simp [Matcher.same]
  exact ⟨p, p, rfl, hsource, hagain, hsame, rfl, rfl, rfl,
    fun _ _ _ _ => rfl⟩

theorem shown_pattern_makes_equal_matcher_verbose :
    let source : Text := text "(?#x y)(?ix)(?a) k # z"
    let p : Pattern := ⟨source, ⟨322⟩, .char ⟨false, [.point 107], .ascii⟩⟩
    Matcher.ofSource source ⟨0⟩ = .ok (.pattern p) ∧
      p.matchAt (text "xK") 1 = some (text "K") ∧
      ∃ q : Pattern, Matcher.ofSource source ⟨322⟩ = .ok (.pattern q) ∧
        (Matcher.pattern q).same (.pattern p) = true ∧
        (Matcher.pattern q).ask (text "xK") 1 .empty =
          (Matcher.pattern p).ask (text "xK") 1 .empty := by
  intro source p
  have hmade : Matcher.ofSource source ⟨0⟩ = .ok (.pattern p) := by
    apply Matcher.ofSource_of_compile
    decide +kernel
  obtain ⟨p', q, hp, _, hagain, hsame, _, _, _, hask⟩ :=
    shown_pattern_makes_equal_matcher hmade
  cases hp
  exact ⟨hmade, by decide +kernel, q, hagain, hsame, hask _ _ _ _⟩

end FirstMatch
