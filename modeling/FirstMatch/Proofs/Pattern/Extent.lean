import FirstMatch.Proofs.EqualDefinitions

/-!
# The extent of a match

A run tries the ways through a tree in order of preference.  `Spans` says what a way is,
without the order: from which spot to which one a tree can lead.  Whatever a run hands to
its continuation has been reached on such a way, and every way leads forward.
-/

namespace FirstMatch

namespace Pattern

inductive Rounds (P : Spot → Spot → Prop) : Nat → Spot → Spot → Prop where
  | zero (s : Spot) : Rounds P 0 s s
  | succ {n : Nat} {s₁ s₂ s₃ : Spot} (first : P s₁ s₂) (others : Rounds P n s₂ s₃) :
      Rounds P (n + 1) s₁ s₃

/-- A number of rounds between the two bounds of a repetition; the lower one wins if
they cross. -/
def Repeats (P : Spot → Spot → Prop) (least : Nat) (most : Option Nat) (s s' : Spot) : Prop :=
  ∃ n, least ≤ n ∧ (∀ m, most = some m → n ≤ max least m) ∧ Rounds P n s s'

/-- A look that asks for its body keeps the marks the body has set, but not its end. -/
def Looks (P : Spot → Spot → Prop) (negated : Bool) (nothing : Prop) (s s' : Spot) : Prop :=
  if negated then nothing ∧ s' = s else ∃ inner, P s inner ∧ s' = inner.goTo s.index

namespace Node

/-- A tree can lead from the first spot to the second. -/
def Spans (t : Text) : Node → Spot → Spot → Prop
  | empty, s, s' => s' = s
  | char set, s, s' => ∃ c, t[s.index]? = some c ∧ set.accepts c = true ∧ s' = s.move 1
  | seq a b, s, s' => ∃ middle, Spans t a s middle ∧ Spans t b middle s'
  | alt a b, s, s' => Spans t a s s' ∨ Spans t b s s'
  | capture g a, s, s' => ∃ inner, Spans t a (s.enter g) inner ∧ s' = inner.leave g
  | reference g folding, s, s' =>
    ∃ i j, s.extent? g = some (i, j) ∧ folding.repeats t i s.index (j - i) = true ∧
      s' = s.move (j - i)
  | anchor a, s, s' => a.holds t s.index = true ∧ s' = s
  -- that a body is not found is a matter of all its ways, so `run` itself says it
  | ahead negated a, s, s' =>
    Looks (Spans t a) negated (a.run t some s = none) s s'
  | behind negated width a, s, s' =>
    Looks
      (fun s inner => width.least ≤ s.index ∧ Spans t a (s.goTo (s.index - width.least)) inner)
      negated
      (width.least ≤ s.index → a.run t some (s.goTo (s.index - width.least)) = none) s s'
  | atomic a, s, s' => Spans t a s s'
  | conditional g a b, s, s' =>
    if (s.extent? g).isSome then Spans t a s s' else Spans t b s s'
  | loop _ least most a, s, s' => Repeats (Spans t a) least most s s'

end Node

/-! ## What runs hand on -/

theorem Rounds.append
    {P : Spot → Spot → Prop} {m n : Nat} {s₁ s₂ s₃ : Spot} (h : Rounds P m s₁ s₂)
    (h' : Rounds P n s₂ s₃) : Rounds P (m + n) s₁ s₃ := by
  induction h with
  | zero s =>
      rw [Nat.zero_add]
      exact h'
  | @succ m _ _ _ first _ ih =>
      rw [Nat.add_right_comm]
      exact .succ first (ih h')

def AtMost (P : Spot → Spot → Prop) (n : Nat) (s s' : Spot) : Prop :=
  ∃ k ≤ n, Rounds P k s s'

theorem AtMost.none (P : Spot → Spot → Prop) (n : Nat) (s : Spot) : AtMost P n s s :=
  ⟨0, Nat.zero_le n, .zero s⟩

theorem AtMost.next
    {P : Spot → Spot → Prop} {n : Nat} {s₁ s₂ s₃ : Spot} (first : P s₁ s₂)
    (others : AtMost P n s₂ s₃) : AtMost P (n + 1) s₁ s₃ := by
  obtain ⟨k, hk, hrounds⟩ := others
  exact ⟨k + 1, Nat.succ_le_succ hk, .succ first hrounds⟩

namespace Run

/-- What the run accepts has been reached on a way that `P` allows. -/
def Sound (P : Spot → Spot → Prop) (run : Run) : Prop :=
  ∀ rest s r, run rest s = some r → ∃ s', P s s' ∧ rest s' = some r

theorem repeats_of_rounds
    {P : Spot → Spot → Prop} {t : Text} {least i : Nat} {most : Option Nat} {s s₁ s₂ : Spot}
    (h : Rounds P least s s₁) (h' : AtMost P (rounds t least most i) s₁ s₂) :
    Repeats P least most s s₂ := by
  obtain ⟨k, hk, h'⟩ := h'
  refine ⟨least + k, Nat.le_add_right least k, ?_, h.append h'⟩
  intro m hm
  rw [hm] at hk
  have hrounds : rounds t least (some m) i ≤ m - least := Nat.min_le_left _ _
  omega

section

variable {P : Spot → Spot → Prop} {body : Run} (hbody : Sound P body)
include hbody

theorem exactly_sound (n : Nat) : Sound (Rounds P n) (exactly body n) := by
  induction n with
  | zero =>
      intro rest s r h
      exact ⟨s, .zero s, h⟩
  | succ n ih =>
      intro rest s r h
      obtain ⟨s₁, hfirst, h₁⟩ := hbody _ _ _ h
      obtain ⟨s₂, hothers, h₂⟩ := ih _ _ _ h₁
      exact ⟨s₂, .succ hfirst hothers, h₂⟩

theorem greedy_sound
    {rest : Spot → Option Spot} {n : Nat} {last : Option Nat} {s r : Spot}
    (h : greedy body rest n last s = some r) :
    ∃ s', AtMost P n s s' ∧ rest s' = some r := by
  induction n generalizing last s with
  | zero => exact ⟨s, .none P 0 s, h⟩
  | succ n ih =>
      unfold greedy at h
      by_cases hlast : last = some s.index
      · rw [if_pos hlast] at h
        exact ⟨s, .none P _ s, h⟩
      · rw [if_neg hlast] at h
        cases hround : body (greedy body rest n (some s.index)) s with
        | none =>
            rw [hround] at h
            exact ⟨s, .none P _ s, h⟩
        | some found =>
            rw [hround] at h
            cases h
            obtain ⟨s₁, hfirst, h₁⟩ := hbody _ _ _ hround
            obtain ⟨s₂, hothers, h₂⟩ := ih h₁
            exact ⟨s₂, .next hfirst hothers, h₂⟩

theorem frugal_sound
    {rest : Spot → Option Spot} {n : Nat} {last : Option Nat} {s r : Spot}
    (h : frugal body rest n last s = some r) :
    ∃ s', AtMost P n s s' ∧ rest s' = some r := by
  induction n generalizing last s with
  | zero => exact ⟨s, .none P 0 s, h⟩
  | succ n ih =>
      unfold frugal at h
      cases hrest : rest s with
      | some found =>
          rw [hrest] at h
          cases h
          exact ⟨s, .none P _ s, hrest⟩
      | none =>
          rw [hrest] at h
          by_cases hlast : last = some s.index
          · simp only [if_pos hlast] at h
            cases h
          · simp only [if_neg hlast] at h
            obtain ⟨s₁, hfirst, h₁⟩ := hbody _ _ _ h
            obtain ⟨s₂, hothers, h₂⟩ := ih h₁
            exact ⟨s₂, .next hfirst hothers, h₂⟩

theorem of_first {s s' : Spot} (h : body some s = some s') : P s s' := by
  obtain ⟨found, hfound, heq⟩ := hbody _ _ _ h
  cases heq
  exact hfound

theorem firstOnly_sound
    {n : Nat} {s s' : Spot} (h : firstOnly body n s = some s') : Rounds P n s s' := by
  induction n generalizing s with
  | zero =>
      cases h
      exact .zero s'
  | succ n ih =>
      unfold firstOnly at h
      cases hround : body some s with
      | none =>
          rw [hround] at h
          cases h
      | some s₁ =>
          rw [hround] at h
          exact .succ (of_first hbody hround) (ih h)

theorem exhaust_sound (n : Nat) (s : Spot) : AtMost P n s (exhaust body n s) := by
  induction n generalizing s with
  | zero => exact .none P 0 s
  | succ n ih =>
      unfold exhaust
      cases hround : body some s with
      | none => exact .none P _ s
      | some s₁ =>
          have hfirst := of_first hbody hround
          by_cases hstill : s₁.index = s.index
          · simp only [if_pos hstill]
            exact .next hfirst (.none P n s₁)
          · simp only [if_neg hstill]
            exact .next hfirst (ih s₁)

theorem loop_sound (t : Text) (greed : Greed) (least : Nat) (most : Option Nat) :
    Sound (Repeats P least most) (loop t body greed least most) := by
  intro rest s r h
  cases greed with
  | greedy =>
      obtain ⟨s₁, hleast, h₁⟩ := exactly_sound hbody least _ _ _ h
      obtain ⟨s₂, hmore, h₂⟩ := greedy_sound hbody h₁
      exact ⟨s₂, repeats_of_rounds hleast hmore, h₂⟩
  | frugal =>
      obtain ⟨s₁, hleast, h₁⟩ := exactly_sound hbody least _ _ _ h
      obtain ⟨s₂, hmore, h₂⟩ := frugal_sound hbody h₁
      exact ⟨s₂, repeats_of_rounds hleast hmore, h₂⟩
  | possessive =>
      simp only [loop] at h
      cases hfirst : firstOnly body least s with
      | none =>
          rw [hfirst] at h
          cases h
      | some s₁ =>
          rw [hfirst] at h
          have hmore := exhaust_sound hbody (rounds t least most s₁.index) s₁
          exact ⟨_, repeats_of_rounds (firstOnly_sound hbody hfirst) hmore, h⟩

end

theorem shrinking_eq_some
    {rest : Spot → Option Spot} {s r : Spot} {least n : Nat}
    (h : shrinking rest s least n = some r) :
    ∃ k, least ≤ k ∧ k ≤ least + n ∧ rest (s.move k) = some r := by
  induction n with
  | zero => exact ⟨least, Nat.le_refl _, Nat.le_refl _, h⟩
  | succ n ih =>
      unfold shrinking at h
      cases hrest : rest (s.move (least + (n + 1))) with
      | some found =>
          rw [hrest] at h
          cases h
          exact ⟨least + (n + 1), Nat.le_add_right _ _, Nat.le_refl _, hrest⟩
      | none =>
          rw [hrest] at h
          obtain ⟨k, hleast, hk, hfound⟩ := ih h
          exact ⟨k, hleast, Nat.le_succ_of_le hk, hfound⟩

theorem growing_eq_some
    {rest : Spot → Option Spot} {s r : Spot} {least n : Nat}
    (h : growing rest s least n = some r) :
    ∃ k, least ≤ k ∧ k ≤ least + n ∧ rest (s.move k) = some r := by
  induction n generalizing least with
  | zero => exact ⟨least, Nat.le_refl _, Nat.le_refl _, h⟩
  | succ n ih =>
      unfold growing at h
      cases hrest : rest (s.move least) with
      | some found =>
          rw [hrest] at h
          cases h
          exact ⟨least, Nat.le_refl _, Nat.le_add_right _ _, hrest⟩
      | none =>
          rw [hrest] at h
          obtain ⟨k, hleast, hk, hfound⟩ := ih h
          exact ⟨k, by omega, by omega, hfound⟩

theorem look_sound
    {P : Spot → Spot → Prop} {negated : Bool} {nothing : Prop} {inner? : Option Spot}
    {rest : Spot → Option Spot} {s r : Spot}
    (hsome : ∀ inner, inner? = some inner → P s inner) (hnone : inner? = none → nothing)
    (h : look negated inner? rest s = some r) :
    ∃ s', Looks P negated nothing s s' ∧ rest s' = some r := by
  unfold look at h
  cases negated with
  | false =>
      cases inner? with
      | none => cases h
      | some inner => exact ⟨inner.goTo s.index, ⟨inner, hsome inner rfl, rfl⟩, h⟩
  | true =>
      cases inner? with
      | none => exact ⟨s, ⟨hnone rfl, rfl⟩, h⟩
      | some inner => cases h

end Run

namespace CharSet

theorem spanFrom_le (set : CharSet) (t : Text) (i limit : Nat) :
    set.spanFrom t i limit ≤ limit := by
  induction limit generalizing i with
  | zero => exact Nat.le_refl 0
  | succ limit ih =>
      have hrest := ih (i + 1)
      unfold spanFrom
      split
      · split <;> omega
      · omega

theorem rounds_of_le_spanFrom
    {set : CharSet} {t : Text} {limit n : Nat} {s : Spot}
    (h : n ≤ set.spanFrom t s.index limit) :
    Rounds ((Node.char set).Spans t) n s (s.move n) := by
  induction limit generalizing n s with
  | zero =>
      cases Nat.le_zero.mp h
      exact .zero s
  | succ limit ih =>
      cases n with
      | zero => exact .zero s
      | succ n =>
          unfold spanFrom at h
          cases hc : t[s.index]? with
          | none =>
              rw [hc] at h
              cases h
          | some c =>
              rw [hc] at h
              by_cases haccepts : set.accepts c = true
              · simp only [if_pos haccepts] at h
                have hothers := ih (s := s.move 1) (Nat.le_of_succ_le_succ h)
                have hmove : (s.move 1).move n = s.move (n + 1) := by
                  simp only [Spot.move]
                  congr 1
                  omega
                rw [hmove] at hothers
                exact .succ ⟨c, hc, haccepts, rfl⟩ hothers
              · simp only [if_neg haccepts] at h
                cases h

end CharSet

theorem Run.stretch_sound
    (t : Text) (set : CharSet) (greed : Greed) (least : Nat) (most : Option Nat) :
    Sound (Repeats ((Node.char set).Spans t) least most) (stretch t set greed least most) := by
  intro rest s r h
  simp only [stretch] at h
  generalize t.size - s.index = room at h
  generalize hn : set.spanFrom t s.index (min (most.getD room) room) = n at h
  have hmost : ∀ m, most = some m → n ≤ m := by
    intro m hm
    have hspan := set.spanFrom_le t s.index (min (most.getD room) room)
    rw [hn, hm, Option.getD_some] at hspan
    exact Nat.le_trans hspan (Nat.min_le_left m room)
  have hreached : ∃ k, least ≤ k ∧ k ≤ n ∧ rest (s.move k) = some r := by
    obtain ⟨henough, h⟩ := Option.ite_none_left_eq_some.mp h
    cases greed with
    | greedy =>
        obtain ⟨k, hleast, hk, hfound⟩ := shrinking_eq_some h
        exact ⟨k, hleast, by omega, hfound⟩
    | frugal =>
        obtain ⟨k, hleast, hk, hfound⟩ := growing_eq_some h
        exact ⟨k, hleast, by omega, hfound⟩
    | possessive => exact ⟨n, Nat.le_of_not_lt henough, Nat.le_refl n, h⟩
  obtain ⟨k, hleast, hk, hfound⟩ := hreached
  refine ⟨s.move k, ⟨k, hleast, ?_, CharSet.rounds_of_le_spanFrom (hn ▸ hk)⟩, hfound⟩
  intro m hm
  have hle := hmost m hm
  omega

namespace Node

theorem eq_char_of_single? {a : Node} {set : CharSet} (h : a.single? = some set) :
    a = .char set := by
  cases a <;> cases h
  rfl

theorem run_sound (t : Text) (a : Node) : Run.Sound (a.Spans t) (a.run t) := by
  induction a with
  | empty =>
      intro rest s r h
      exact ⟨s, rfl, h⟩
  | char set =>
      intro rest s r h
      unfold run at h
      cases hc : t[s.index]? with
      | none =>
          rw [hc] at h
          cases h
      | some c =>
          rw [hc] at h
          have hguard := Option.ite_none_right_eq_some.mp h
          exact ⟨s.move 1, ⟨c, hc, hguard.1, rfl⟩, hguard.2⟩
  | seq a b iha ihb =>
      intro rest s r h
      obtain ⟨middle, ha, h₁⟩ := iha _ _ _ h
      obtain ⟨s', hb, h₂⟩ := ihb _ _ _ h₁
      exact ⟨s', ⟨middle, ha, hb⟩, h₂⟩
  | alt a b iha ihb =>
      intro rest s r h
      unfold run Run.orElse at h
      cases hfirst : a.run t rest s with
      | some found =>
          rw [hfirst] at h
          cases h
          obtain ⟨s', ha, h₁⟩ := iha _ _ _ hfirst
          exact ⟨s', .inl ha, h₁⟩
      | none =>
          rw [hfirst] at h
          obtain ⟨s', hb, h₁⟩ := ihb _ _ _ h
          exact ⟨s', .inr hb, h₁⟩
  | capture g a ih =>
      intro rest s r h
      obtain ⟨inner, ha, h₁⟩ := ih _ _ _ h
      exact ⟨inner.leave g, ⟨inner, ha, rfl⟩, h₁⟩
  | reference g folding =>
      intro rest s r h
      unfold run at h
      cases hextent : s.extent? g with
      | none =>
          rw [hextent] at h
          cases h
      | some extent =>
          obtain ⟨i, j⟩ := extent
          rw [hextent] at h
          have hguard := Option.ite_none_right_eq_some.mp h
          exact ⟨s.move (j - i), ⟨i, j, hextent, hguard.1, rfl⟩, hguard.2⟩
  | anchor a =>
      intro rest s r h
      have hguard := Option.ite_none_right_eq_some.mp h
      exact ⟨s, ⟨hguard.1, rfl⟩, hguard.2⟩
  | ahead negated a ih =>
      intro rest s r h
      exact Run.look_sound (fun _ hinner => Run.of_first ih hinner) id h
  | behind negated width a ih =>
      intro rest s r h
      apply Run.look_sound _ _ h
      · intro inner hinner
        have hguard := Option.ite_none_right_eq_some.mp hinner
        exact ⟨hguard.1, Run.of_first ih hguard.2⟩
      · intro hnone hwidth
        rw [if_pos hwidth] at hnone
        exact hnone
  | atomic a ih =>
      intro rest s r h
      unfold run at h
      cases hfirst : a.run t some s with
      | none =>
          rw [hfirst] at h
          cases h
      | some s' =>
          rw [hfirst] at h
          exact ⟨s', Run.of_first ih hfirst, h⟩
  | conditional g a b iha ihb =>
      intro rest s r h
      unfold run at h
      unfold Spans
      by_cases hgroup : (s.extent? g).isSome = true
      · simp only [if_pos hgroup] at h ⊢
        exact iha _ _ _ h
      · simp only [if_neg hgroup] at h ⊢
        exact ihb _ _ _ h
  | loop greed least most a ih =>
      intro rest s r h
      unfold run at h
      cases hsingle : a.single? with
      | some set =>
          rw [hsingle] at h
          rw [eq_char_of_single? hsingle]
          exact Run.stretch_sound t set greed least most _ _ _ h
      | none =>
          rw [hsingle] at h
          exact Run.loop_sound ih t greed least most _ _ _ h

end Node

/-! ## Where ways lead -/

/-- From a place in the text, `P` leads to no earlier one, and not out of the text. -/
def Forward (t : Text) (P : Spot → Spot → Prop) : Prop :=
  ∀ s s', P s s' → s.index ≤ t.size → s.index ≤ s'.index ∧ s'.index ≤ t.size

theorem Forward.rounds
    {t : Text} {P : Spot → Spot → Prop} (hP : Forward t P) (n : Nat) :
    Forward t (Rounds P n) := by
  intro s s' h hs
  induction h with
  | zero s => exact ⟨Nat.le_refl _, hs⟩
  | succ first _ ih =>
      have hfirst := hP _ _ first hs
      have hothers := ih hfirst.2
      exact ⟨Nat.le_trans hfirst.1 hothers.1, hothers.2⟩

theorem Forward.looks
    (t : Text) (P : Spot → Spot → Prop) (negated : Bool) {nothing : Spot → Prop} :
    Forward t (fun s => Looks P negated (nothing s) s) := by
  intro s s' h hs
  have hstay : s'.index = s.index := by
    cases negated with
    | true => rw [h.2]
    | false =>
        obtain ⟨inner, _, rfl⟩ := h
        rfl
  rw [hstay]
  exact ⟨Nat.le_refl _, hs⟩

theorem Folding.add_le_size_of_repeats
    {folding : Folding} {t : Text} {i j n : Nat}
    (h : folding.repeats t i j n = true) (hj : j ≤ t.size) : j + n ≤ t.size := by
  induction n generalizing i j with
  | zero => exact hj
  | succ n ih =>
      unfold repeats at h
      cases hb : t[j]? with
      | none => simp [hb] at h
      | some b =>
          have hlt : j < t.size := (Array.getElem?_eq_some_iff.mp hb).1
          cases ha : t[i]? with
          | none => simp [ha] at h
          | some a =>
              simp only [ha, hb, Bool.and_eq_true] at h
              have hrest := ih h.2 hlt
              omega

/-- One case for each kind of tree: only characters, references and repetitions of
them move the index, and they move it behind what they have read. -/
theorem Node.forward_spans (t : Text) (a : Node) : Forward t (a.Spans t) := by
  induction a with
  | empty =>
      rintro s _ rfl hs
      exact ⟨Nat.le_refl _, hs⟩
  | char set =>
      rintro s _ ⟨c, hc, _, rfl⟩ _
      have hlt : s.index < t.size := (Array.getElem?_eq_some_iff.mp hc).1
      exact ⟨Nat.le_add_right _ _, hlt⟩
  | seq a b iha ihb =>
      rintro s s' ⟨middle, ha, hb⟩ hs
      have hfirst := iha _ _ ha hs
      have hsecond := ihb _ _ hb hfirst.2
      exact ⟨Nat.le_trans hfirst.1 hsecond.1, hsecond.2⟩
  | alt a b iha ihb =>
      rintro s s' (ha | hb) hs
      · exact iha _ _ ha hs
      · exact ihb _ _ hb hs
  | capture g a ih =>
      rintro s _ ⟨inner, ha, rfl⟩ hs
      exact ih (s.enter g) inner ha hs
  | reference g folding =>
      rintro s _ ⟨i, j, _, hrepeats, rfl⟩ hs
      exact ⟨Nat.le_add_right _ _, Folding.add_le_size_of_repeats hrepeats hs⟩
  | anchor a =>
      rintro s _ ⟨_, rfl⟩ hs
      exact ⟨Nat.le_refl _, hs⟩
  | ahead negated a _ => exact Forward.looks t _ negated
  | behind negated width a _ => exact Forward.looks t _ negated
  | atomic a ih => exact ih
  | conditional g a b iha ihb =>
      intro s s' h hs
      unfold Spans at h
      by_cases hgroup : (s.extent? g).isSome = true
      · rw [if_pos hgroup] at h
        exact iha _ _ h hs
      · rw [if_neg hgroup] at h
        exact ihb _ _ h hs
  | loop greed least most a ih =>
      rintro s s' ⟨n, _, _, hrounds⟩ hs
      exact ih.rounds n _ _ hrounds hs

theorem Node.exists_spans_of_matchEnd?
    {t : Text} {start stop : Nat} {root : Node}
    (h : root.matchEnd? t start = some stop) (hstart : start ≤ t.size) :
    ∃ s, root.Spans t (.start start) s ∧ s.index = stop ∧ start ≤ stop ∧ stop ≤ t.size := by
  unfold matchEnd? at h
  obtain ⟨s, hrun, rfl⟩ := Option.map_eq_some_iff.mp h
  have hspans := Run.of_first (run_sound t root) hrun
  have hbounds := forward_spans t root _ _ hspans hstart
  exact ⟨s, hspans, rfl, hbounds.1, hbounds.2⟩

end Pattern

/-- What a matcher made from a pattern recognises is the part of the text from the start asked
for, or the end of the text nearest to it, up to a place where the pattern can lead from there.
From a start that its engine does not take it refuses to answer. -/
theorem pattern_recognises_from_start
    {source : Text} {flags : Pattern.Flags} {characters : CharacterNames} {m : Matcher}
    (h : Matcher.ofSource source flags characters = .ok m) (t : Text) (start : Int)
    (b : Bench) :
    ∃ (p : Pattern) (q : Nat), m = .pattern p ∧ (q : Int) = max 0 (min start t.size) ∧
      (p.matchAt t start = none ∨
        ∃ (k : Nat) (s : Pattern.Spot),
          q + k ≤ t.size ∧ p.root.Spans t (.start q) s ∧ s.index = q + k ∧
          p.matchAt t start = some (t.slice q (q + k))) ∧
      ∀ starts : Starts, m.ask t start b starts =
        (if starts.takes t start then .ok (p.matchAt t start) else .error .startTooLarge,
          b) := by
  obtain ⟨p, rfl, _⟩ := Matcher.ofSource_eq_ok h
  have hclamp : (t.clamp start : Int) = max 0 (min start t.size) := by
    unfold Text.clamp
    omega
  refine ⟨p, t.clamp start, rfl, hclamp, ?_, fun starts => rfl⟩
  rw [Pattern.matchAt]
  cases hend : p.root.matchEnd? t (t.clamp start) with
  | none => exact .inl rfl
  | some stop =>
      obtain ⟨s, hspans, hindex, hle, hstop⟩ :=
        Pattern.Node.exists_spans_of_matchEnd? hend (t.clamp_le start)
      obtain ⟨k, rfl⟩ := Nat.exists_eq_add_of_le hle
      exact .inr ⟨k, s, hstop, hspans, hindex, rfl⟩

/-- A group that is set behind the start is repeated from the start on, and a look
ahead reads on.  One index earlier nothing is recognised. -/
theorem pattern_recognises_from_start_between_looks :
    let t : Text := text "xaaab"
    let a : Pattern.CharSet := ⟨false, [.point 97], .exact⟩
    let b : Pattern.CharSet := ⟨false, [.point 98], .exact⟩
    let root : Pattern.Node :=
      .seq (.behind false .one (.capture 1 (.char a)))
        (.seq (.reference 1 .exact) (.ahead true (.char b)))
    let p : Pattern := ⟨text "(?<=(a))\\1(?!b)", ⟨32⟩, root⟩
    Matcher.ofSource p.source ⟨0⟩ = .ok (.pattern p) ∧
      (Matcher.pattern p).ask t 1 .empty = (.ok none, .empty) ∧
      ∃ s : Pattern.Spot, root.Spans t (.start 2) s ∧ s.index = 3 ∧
        (Matcher.pattern p).ask t 2 .empty = (.ok (some (text "a")), .empty) := by
  intro t a b root p
  have hmade : Matcher.ofSource p.source ⟨0⟩ = .ok (.pattern p) := by
    apply Matcher.ofSource_of_compile
    decide +kernel
  have hearly : p.matchAt t 1 = none := by decide +kernel
  have hmatch : p.matchAt t 2 = some (text "a") := by decide +kernel
  obtain ⟨p', q, hp, hq, hfound, hask⟩ := pattern_recognises_from_start hmade t 2 .empty
  cases hp
  have hq' : q = 2 := by
    have hsize : t.size = 5 := by decide
    omega
  subst hq'
  have hearly : (Matcher.pattern p).ask t 1 .empty = (.ok none, .empty) := by
    rw [Matcher.ask_pattern_of_takes (by decide), hearly]
  rcases hfound with hnone | ⟨k, s, hk, hspans, hindex, hsome⟩
  · rw [hmatch] at hnone
    cases hnone
  · have hvalue : text "a" = t.slice 2 (2 + k) := by
      rw [hmatch] at hsome
      exact Option.some.inj hsome
    have hlength : (t.slice 2 (2 + k)).size = 1 := by
      rw [← hvalue]
      decide
    have hcount : k = 1 := by
      simp only [Text.slice, Array.size_extract] at hlength
      omega
    subst hcount
    refine ⟨hmade, hearly, s, hspans, hindex, ?_⟩
    rw [hask, hmatch]
    rfl

end FirstMatch
