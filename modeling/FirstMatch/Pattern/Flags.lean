import FirstMatch.Text

/-!
# Flags of a pattern

Each switch that the pattern language knows is a bit of the flags, and bits without a
meaning are carried along.  What a piece of a pattern means depends on the switches in
force around it, which a group may change for its own extent: that is its style.
-/

namespace FirstMatch.Pattern

inductive Switch where
  /-- No repetitions at all. -/
  | template
  | ignoreCase
  | locale
  | multiLine
  | dotAll
  | unicode
  | verbose
  | ascii
  deriving DecidableEq, Repr

namespace Switch

def weight : Switch → Int
  | template => 1
  | ignoreCase => 2
  | locale => 4
  | multiLine => 8
  | dotAll => 16
  | unicode => 32
  | verbose => 64
  | ascii => 256

theorem weight_pos (s : Switch) : 0 < s.weight := by
  cases s <;> decide

theorem exists_weight_eq {s u : Switch} (h : s.weight < u.weight) :
    ∃ m, u.weight = s.weight * (2 * m) := by
  refine ⟨u.weight / (2 * s.weight), ?_⟩
  revert h
  cases s <;> cases u <;> decide

theorem eq_of_weight_eq {s u : Switch} (h : s.weight = u.weight) : s = u := by
  revert h
  cases s <;> cases u <;> decide

def ofLetter? (c : Nat) : Option Switch :=
  match CodePoint.ascii? c with
  | some 't' => some template
  | some 'i' => some ignoreCase
  | some 'L' => some locale
  | some 'm' => some multiLine
  | some 's' => some dotAll
  | some 'u' => some unicode
  | some 'x' => some verbose
  | some 'a' => some ascii
  | _ => none

def selectsAlphabet : Switch → Bool
  | locale | unicode | ascii => true
  | _ => false

/-- A switch that holds for the whole pattern or not at all. -/
def isGlobal : Switch → Bool
  | template => true
  | _ => false

end Switch

structure Flags where
  value : Int
  deriving DecidableEq, Repr

namespace Flags

def none : Flags :=
  ⟨0⟩

def has (f : Flags) (s : Switch) : Bool :=
  f.value / s.weight % 2 == 1

def turnOn (f : Flags) (s : Switch) : Flags :=
  if f.has s then f else ⟨f.value + s.weight⟩

def turnOnAll (f : Flags) (ss : List Switch) : Flags :=
  ss.foldl turnOn f

theorem has_iff {f : Flags} {s : Switch} :
    f.has s = true ↔ f.value / s.weight % 2 = 1 := by
  simp [has]

theorem add_div_self (n : Int) {w : Int} (hw : 0 < w) : (n + w) / w = n / w + 1 := by
  have h := Int.add_mul_ediv_right n 1 (Int.ne_of_gt hw)
  rwa [Int.one_mul] at h

theorem div_mul_two_mul (n m : Int) {w : Int} (hw : 0 < w) :
    n / (w * (2 * m)) = n / w / 2 / m := by
  rw [Int.ediv_ediv_of_nonneg (by decide), Int.ediv_ediv_of_nonneg (Int.le_of_lt hw)]

/-- A greater weight leaves the bit alone, and so does a smaller one whose bit was off. -/
theorem bit_add_weight {n : Int} {s u : Switch} (hoff : n / s.weight % 2 = 0) (hne : s ≠ u) :
    (n + s.weight) / u.weight % 2 = n / u.weight % 2 := by
  rcases Int.lt_trichotomy s.weight u.weight with hlt | heq | hgt
  · obtain ⟨m, hu⟩ := Switch.exists_weight_eq hlt
    have hhalf : (n / s.weight + 1) / 2 = n / s.weight / 2 := by omega
    rw [hu, div_mul_two_mul _ m s.weight_pos, div_mul_two_mul _ m s.weight_pos,
      add_div_self n s.weight_pos, hhalf]
  · exact absurd (Switch.eq_of_weight_eq heq) hne
  · obtain ⟨m, hs⟩ := Switch.exists_weight_eq hgt
    have hshift : (n + s.weight) / u.weight = n / u.weight + 2 * m := by
      rw [hs, Int.mul_comm, Int.add_mul_ediv_right n (2 * m) (Int.ne_of_gt u.weight_pos)]
    rw [hshift]
    omega

theorem has_turnOn_iff (f : Flags) (s u : Switch) :
    (f.turnOn s).has u = true ↔ f.has u = true ∨ s = u := by
  by_cases h : f.has s = true
  · rw [turnOn, if_pos h]
    constructor
    · exact Or.inl
    · rintro (hu | rfl)
      · exact hu
      · exact h
  · rw [turnOn, if_neg h]
    rw [has_iff] at h
    have hoff : f.value / s.weight % 2 = 0 := by omega
    by_cases hu : s = u
    · subst hu
      have hon : (f.value + s.weight) / s.weight % 2 = 1 := by
        rw [add_div_self f.value s.weight_pos]
        omega
      exact ⟨fun _ => .inr rfl, fun _ => has_iff.mpr hon⟩
    · rw [has_iff, has_iff, bit_add_weight hoff hu]
      simp [hu]

end Flags

structure Style where
  template : Bool
  ignoreCase : Bool
  multiLine : Bool
  dotAll : Bool
  verbose : Bool
  ascii : Bool
  deriving DecidableEq, Repr

namespace Style

def ofFlags (f : Flags) : Style where
  template := f.has .template
  ignoreCase := f.has .ignoreCase
  multiLine := f.has .multiLine
  dotAll := f.has .dotAll
  verbose := f.has .verbose
  ascii := f.has .ascii

/-- The style inside a group that turns some switches on and others off.
Selecting an alphabet replaces the one selected before. -/
def adjust (style : Style) (on off : List Switch) : Style where
  template := style.template
  ignoreCase := (style.ignoreCase || on.contains .ignoreCase) && !off.contains .ignoreCase
  multiLine := (style.multiLine || on.contains .multiLine) && !off.contains .multiLine
  dotAll := (style.dotAll || on.contains .dotAll) && !off.contains .dotAll
  verbose := (style.verbose || on.contains .verbose) && !off.contains .verbose
  ascii := (style.ascii && !on.contains .unicode) || on.contains .ascii

end Style

end FirstMatch.Pattern
