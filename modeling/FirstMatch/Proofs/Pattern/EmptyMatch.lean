import FirstMatch.Proofs.Pattern.Extent

/-!
# Matches without any character

A tree that looks only at the characters it takes is nullable or not, whatever text it is
run on.  If it has led from some spot to one at the same index, it is nullable.  If it is
nullable, its run gets through the empty text, because no way there leaves index 0 and so
every continuation that accepts index 0 is satisfied in the end.
-/

namespace FirstMatch

namespace Pattern

namespace Node

/-- Nothing in the tree depends on what stands around a match or on what a group has
taken. -/
def isSelfContained : Node → Bool
  | empty | char _ => true
  | seq a b | alt a b => a.isSelfContained && b.isSelfContained
  | capture _ a | atomic a | loop _ _ _ a => a.isSelfContained
  | reference _ _ | anchor _ | ahead _ _ | behind _ _ _ | conditional _ _ _ => false

/-- Whether a self-contained tree has a way that takes no character. -/
def isNullable : Node → Bool
  | empty => true
  | seq a b => a.isNullable && b.isNullable
  | alt a b => a.isNullable || b.isNullable
  | capture _ a | atomic a => a.isNullable
  | loop _ least _ a => least == 0 || a.isNullable
  | char _ | reference _ _ | anchor _ | ahead _ _ | behind _ _ _ | conditional _ _ _ => false

/-- A way that ends where it started has taken nothing on any of its parts. -/
theorem isNullable_of_spans
    {t : Text} {a : Node} {s s' : Spot} (ha : a.isSelfContained = true)
    (h : a.Spans t s s') (hs : s.index ≤ t.size) (hstill : s'.index = s.index) :
    a.isNullable = true := by
  induction a generalizing s s' with
  | empty => rfl
  | char set =>
      rcases h with ⟨c, _, _, rfl⟩
      simp [Spot.move] at hstill
  | seq a b iha ihb =>
      rcases h with ⟨middle, hfirst, hsecond⟩
      simp only [isSelfContained, Bool.and_eq_true] at ha
      have hmiddle := forward_spans t a _ _ hfirst hs
      have hend := forward_spans t b _ _ hsecond hmiddle.2
      have hstop : middle.index = s.index := by omega
      have hnullable : a.isNullable = true := iha ha.1 hfirst hs hstop
      have hnullable' : b.isNullable = true := ihb ha.2 hsecond hmiddle.2 (by omega)
      simp [isNullable, hnullable, hnullable']
  | alt a b iha ihb =>
      simp only [isSelfContained, Bool.and_eq_true] at ha
      rcases h with hfirst | hsecond
      · simp [isNullable, iha ha.1 hfirst hs hstill]
      · simp [isNullable, ihb ha.2 hsecond hs hstill]
  | capture g a ih =>
      rcases h with ⟨inner, hinner, rfl⟩
      exact ih ha hinner hs hstill
  | atomic a ih => exact ih ha h hs hstill
  | loop greed least most a ih =>
      rcases h with ⟨n, hleast, _, hrounds⟩
      cases hrounds with
      | zero =>
          have hzero : least = 0 := by omega
          simp [isNullable, hzero]
      | succ hfirst hothers =>
          have hmiddle := forward_spans t a _ _ hfirst hs
          have hend := (forward_spans t a).rounds _ _ _ hothers hmiddle.2
          have hnullable : a.isNullable = true := ih ha hfirst hs (by omega)
          simp [isNullable, hnullable]
  | reference | anchor | ahead | behind | conditional => cases ha

end Node

/-! ## Runs on the empty text -/

def Willing (rest : Spot → Option Spot) : Prop :=
  ∀ s, s.index = 0 → (rest s).isSome = true

theorem willing_some : Willing some :=
  fun _ _ => rfl

namespace Run

/-- On the empty text the run gets through to any willing continuation. -/
def Passes (run : Run) : Prop :=
  ∀ rest, Willing rest → Willing (run rest)

theorem Passes.exactly {body : Run} (h : Passes body) (n : Nat) : Passes (exactly body n) := by
  intro rest hrest
  induction n with
  | zero => exact hrest
  | succ n ih => exact h _ ih

theorem greedy_willing
    {rest : Spot → Option Spot} (hrest : Willing rest) (body : Run) (n : Nat)
    (last : Option Nat) : Willing (greedy body rest n last) := by
  intro s hs
  cases n with
  | zero => exact hrest s hs
  | succ n =>
      unfold greedy
      split
      next => exact hrest s hs
      next =>
        split
        next => rfl
        next => exact hrest s hs

theorem frugal_willing
    {rest : Spot → Option Spot} (hrest : Willing rest) (body : Run) (n : Nat)
    (last : Option Nat) : Willing (frugal body rest n last) := by
  intro s hs
  have hsome := hrest s hs
  cases n with
  | zero => exact hsome
  | succ n =>
      unfold frugal
      cases hfound : rest s with
      | none => simp [hfound] at hsome
      | some found => rfl

theorem index_eq_zero_of_forward
    {P : Spot → Spot → Prop} (hP : Forward #[] P) {s s' : Spot} (h : P s s')
    (hs : s.index = 0) : s'.index = 0 := by
  have hbounds := hP s s' h (by simp [hs])
  simpa using hbounds.2

section

variable {P : Spot → Spot → Prop} {body : Run} (hsound : Sound P body)
  (hforward : Forward #[] P)
include hsound hforward

theorem exists_first
    (hbody : Passes body) {s : Spot} (hs : s.index = 0) :
    ∃ s', body some s = some s' ∧ s'.index = 0 := by
  obtain ⟨s', hs'⟩ := Option.isSome_iff_exists.mp (hbody some willing_some s hs)
  exact ⟨s', hs', index_eq_zero_of_forward hforward (of_first hsound hs') hs⟩

theorem exists_firstOnly
    {least : Nat} (hbody : least = 0 ∨ Passes body) {s : Spot} (hs : s.index = 0) :
    ∃ s', firstOnly body least s = some s' ∧ s'.index = 0 := by
  induction least generalizing s with
  | zero => exact ⟨s, rfl, hs⟩
  | succ n ih =>
      have hpasses : Passes body := hbody.resolve_left (Nat.succ_ne_zero n)
      obtain ⟨s₁, hfirst, hs₁⟩ := exists_first hsound hforward hpasses hs
      obtain ⟨s', hothers, hs'⟩ := ih (.inr hpasses) hs₁
      refine ⟨s', ?_, hs'⟩
      rw [firstOnly, hfirst]
      exact hothers

theorem loop_passes
    {least : Nat} (hbody : least = 0 ∨ Passes body) (greed : Greed) (most : Option Nat) :
    Passes (loop #[] body greed least most) := by
  have hrounds : Passes (exactly body least) := by
    rcases hbody with rfl | hpasses
    · exact fun _ hrest => hrest
    · exact hpasses.exactly least
  intro rest hrest s hs
  cases greed with
  | greedy => exact hrounds _ (fun s' hs' => greedy_willing hrest body _ none s' hs') s hs
  | frugal => exact hrounds _ (fun s' hs' => frugal_willing hrest body _ none s' hs') s hs
  | possessive =>
      obtain ⟨s₁, hfirst, hs₁⟩ := exists_firstOnly hsound hforward hbody hs
      obtain ⟨k, _, hmore⟩ := exhaust_sound hsound (rounds #[] least most s₁.index) s₁
      have hlast := index_eq_zero_of_forward (hforward.rounds k) hmore hs₁
      simp only [loop, hfirst]
      exact hrest _ hlast

end

theorem stretch_passes (set : CharSet) (greed : Greed) (most : Option Nat) :
    Passes (stretch #[] set greed 0 most) := by
  intro rest hrest s hs
  have hrest₀ : (rest (s.move 0)).isSome = true := hrest _ hs
  have hspan : set.spanFrom #[] s.index 0 = 0 := rfl
  cases greed <;> simpa [stretch, hspan, shrinking, growing] using hrest₀

end Run

namespace Node

theorem run_passes {a : Node} (h : a.isNullable = true) : Run.Passes (a.run #[]) := by
  induction a with
  | empty => exact fun _ hrest => hrest
  | seq a b iha ihb =>
      simp only [isNullable, Bool.and_eq_true] at h
      exact fun rest hrest => iha h.1 _ (ihb h.2 rest hrest)
  | alt a b iha ihb =>
      simp only [isNullable, Bool.or_eq_true] at h
      intro rest hrest s hs
      unfold run Run.orElse
      cases hfirst : a.run #[] rest s with
      | some found => rfl
      | none =>
          rcases h with ha | hb
          · have hsome := iha ha rest hrest s hs
            simp [hfirst] at hsome
          · exact ihb hb rest hrest s hs
  | capture g a ih =>
      intro rest hrest s hs
      exact ih h (fun s' => rest (s'.leave g)) (fun s' hs' => hrest _ hs') (s.enter g) hs
  | atomic a ih =>
      intro rest hrest s hs
      obtain ⟨s', hfirst, hs'⟩ :=
        Run.exists_first (run_sound #[] a) (forward_spans #[] a) (ih h) hs
      simp only [run, hfirst]
      exact hrest s' hs'
  | loop greed least most a ih =>
      simp only [isNullable, Bool.or_eq_true, beq_iff_eq] at h
      intro rest hrest s hs
      rw [run]
      cases hsingle : a.single? with
      | some set =>
          rw [eq_char_of_single? hsingle] at h
          have hleast : least = 0 := by simpa [isNullable] using h
          rw [hleast]
          exact Run.stretch_passes set greed most rest hrest s hs
      | none =>
          exact Run.loop_passes (run_sound #[] a) (forward_spans #[] a) (h.imp id ih)
            greed most rest hrest s hs
  | char | reference | anchor | ahead | behind | conditional => cases h

end Node

/-! ## One question for all texts -/

variable {p : Pattern}

theorem isNullable_of_matchAt
    (hroot : p.root.isSelfContained = true) {t : Text} {start : Int}
    (h : p.matchAt t start = some #[]) : p.root.isNullable = true := by
  unfold matchAt at h
  obtain ⟨stop, hend, hslice⟩ := Option.map_eq_some_iff.mp h
  obtain ⟨s, hspans, hindex, hle, hstop⟩ :=
    Node.exists_spans_of_matchEnd? hend (t.clamp_le start)
  have hsize : (t.slice (t.clamp start) stop).size = 0 := by rw [hslice]; rfl
  have hstill : stop = t.clamp start := by
    simp only [Text.slice, Array.size_extract] at hsize
    omega
  exact Node.isNullable_of_spans hroot hspans (t.clamp_le start) (hindex.trans hstill)

theorem matchAt_empty_of_isNullable (h : p.root.isNullable = true) :
    p.matchAt #[] 0 = some #[] := by
  have hsome := Node.run_passes h some willing_some (.start 0) rfl
  obtain ⟨s, hs⟩ := Option.isSome_iff_exists.mp hsome
  have hclamp : Text.clamp #[] 0 = 0 := rfl
  simp [matchAt, Node.matchEnd?, hclamp, hs, Text.slice]

theorem exists_matchAt_empty_iff (hroot : p.root.isSelfContained = true) :
    (∃ t start, p.matchAt t start = some #[]) ↔ p.matchAt #[] 0 = some #[] := by
  constructor
  · rintro ⟨t, start, h⟩
    exact matchAt_empty_of_isNullable (isNullable_of_matchAt hroot h)
  · intro h
    exact ⟨#[], 0, h⟩

end Pattern

theorem Bench.warn_ne_self (b : Bench) (message : Text) : b.warn message ≠ b := by
  intro h
  have hsize := congrArg (fun b : Bench => b.warnings.size) h
  simp [warn] at hsize

theorem Matcher.ask_pattern_eq_found_iff
    {p : Pattern} {t v : Text} {start : Int} {b : Bench} {starts : Starts} :
    (pattern p).ask t start b starts = (.ok (some v), b) ↔
      starts.takes t start = true ∧ p.matchAt t start = some v := by
  by_cases htakes : starts.takes t start = true
  · simp [ask_pattern_of_takes htakes, htakes]
  · simp [ask, htakes]

/-- A definition from a pattern without anchors, looks, references and conditions comes
with a warning if, and only if, it recognises the empty text at some place of some
text.  Without the warning, all that it recognises has characters. -/
theorem empty_match_warning_iff
    {source : Text} {flags : Pattern.Flags} {b : Bench} {p : Pattern}
    (hcompile : Pattern.compile source flags b.characters = .ok p)
    (hroot : p.root.isSelfContained = true) {kind : Datum} (hkind : kind ≠ .none) :
    let d : Definition := ⟨kind, .pattern p⟩
    ∃ b', Definition.build kind (.datum (.text source)) flags b = (.ok d, b') ∧
      ∀ starts : Starts,
        (b' = b.warn d.warning ↔
          ∃ t start, d.matcher.ask t start b' starts = (.ok (some #[]), b')) ∧
        (b' = b ↔
          ∀ t start v, d.matcher.ask t start b' starts = (.ok (some v), b') → v ≠ #[]) := by
  intro d
  have hiff := Pattern.exists_matchAt_empty_iff hroot
  have hwarn := b.warn_ne_self d.warning
  refine ⟨_, Definition.build_of_compile hcompile hkind, fun starts => ⟨?_, ?_⟩⟩
  · simp only [d, Matcher.ask_pattern_eq_found_iff]
    by_cases hempty : p.matchAt #[] 0 = some #[]
    · exact iff_of_true (if_pos hempty) ⟨#[], 0, starts.takes_zero _, hempty⟩
    · rw [if_neg hempty]
      refine iff_of_false hwarn.symm ?_
      rintro ⟨t, start, _, hmatch⟩
      exact hempty (hiff.mp ⟨t, start, hmatch⟩)
  · simp only [d, Matcher.ask_pattern_eq_found_iff]
    by_cases hempty : p.matchAt #[] 0 = some #[]
    · rw [if_pos hempty]
      refine iff_of_false hwarn ?_
      intro h
      exact h #[] 0 #[] ⟨starts.takes_zero _, hempty⟩ rfl
    · rw [if_neg hempty]
      refine iff_of_true rfl ?_
      rintro t start v ⟨_, hmatch⟩ rfl
      exact hempty (hiff.mp ⟨t, start, hmatch⟩)

/-- Neither a lazy repetition nor an atomic group takes the `x`, so the pattern is found
there without a character. -/
theorem empty_match_warning_iff_lazy :
    let source : Text := text "(a*?|b)(?>c?)"
    let letter : Nat → Pattern.Node := fun c => .char ⟨false, [.point c], .exact⟩
    let root : Pattern.Node :=
      .seq (.capture 1 (.alt (.loop .frugal 0 none (letter 97)) (letter 98)))
        (.atomic (.loop .greedy 0 (some 1) (letter 99)))
    let p : Pattern := ⟨source, ⟨32⟩, root⟩
    let d : Definition := ⟨.int 1, .pattern p⟩
    Pattern.compile source ⟨0⟩ = .ok p ∧ root.isSelfContained = true ∧
      Datum.int 1 ≠ .none ∧
      (∃ t start, d.matcher.ask t start .empty = (.ok (some #[]), .empty)) ∧
      Definition.build (.int 1) (.datum (.text source)) ⟨0⟩ .empty =
        (.ok d, Bench.empty.warn d.warning) := by
  intro source letter root p d
  have hcompile : Pattern.compile source ⟨0⟩ = .ok p := by decide +kernel
  have hfound : p.matchAt (text "x") 0 = some #[] := by decide +kernel
  have hask : ∀ c : Bench, d.matcher.ask (text "x") 0 c = (.ok (some #[]), c) := by
    intro c
    exact Matcher.ask_pattern_eq_found_iff.mpr ⟨Starts.machine.takes_zero _, hfound⟩
  have hkind : Datum.int 1 ≠ .none := by decide
  obtain ⟨b, hbuild, hwarning⟩ :=
    empty_match_warning_iff (b := .empty) hcompile rfl hkind
  have hb : b = Bench.empty.warn d.warning := (hwarning .machine).1.mpr ⟨_, _, hask b⟩
  rw [hb] at hbuild
  exact ⟨hcompile, rfl, hkind, ⟨_, _, hask _⟩, hbuild⟩

-- An anchor is not found in the empty text, although it takes no character elsewhere.
example :
    let p : Pattern := ⟨text "\\b", ⟨32⟩, .anchor (.wordEdge false)⟩
    p.matchAt #[] 0 = none ∧ p.matchAt (text "a") 0 = some #[] := by
  decide +kernel

end FirstMatch
