import FirstMatch.Arithmetic.ReversePolish
import FirstMatch.Proofs.Partition
import Mathlib.Data.List.TakeWhile

/-!
# The order of the output

Rearranging has two equations.  A number goes straight to the output.  An operator goes to
the output right in front of the first later operator that does not bind tighter, or at the
end.  The two equations give an induction on lists of tokens, and with it the place of
every token relative to every other.
-/

namespace FirstMatch.Arithmetic

/-! ## The yard -/

namespace Yard

theorem popWhile_eq (p : Token → Bool) (output waiting : List Token) :
    popWhile p output waiting =
      ⟨(waiting.takeWhile p).reverse ++ output, waiting.dropWhile p⟩ := by
  induction waiting generalizing output with
  | nil => rfl
  | cons top rest ih =>
      unfold popWhile
      cases htop : p top with
      | true => simp [htop, ih]
      | false => simp [htop]

theorem finish_eq (y : Yard) :
    y.finish = y.output.reverse ++ y.waiting := by
  have hall : y.waiting.takeWhile (fun _ => true) = y.waiting :=
    List.takeWhile_eq_self_iff.mpr fun _ _ => rfl
  unfold finish
  rw [popWhile_eq, hall]
  simp

theorem take_number {t : Token} (ht : t.isA .number = true) (y : Yard) :
    y.take t = ⟨t :: y.output, y.waiting⟩ := by
  simp [take, ht, emit]

/-- An operator sends away those on top that bind as tight as it does.  Looking
at the topmost alone makes no difference. -/
theorem take_operator {t : Token} (ht : t.isA .number = false) (y : Yard) :
    y.take t =
      ⟨(y.waiting.takeWhile fun w => t.precedence ≤ w.precedence).reverse ++
          y.output,
        t :: y.waiting.dropWhile fun w => t.precedence ≤ w.precedence⟩ := by
  unfold take takeOperator
  simp only [ht, Bool.false_eq_true, if_false]
  cases hwaiting : y.waiting with
  | nil => simp [push, hwaiting]
  | cons top rest =>
      simp only
      split
      next hlt =>
        have htop : decide (t.precedence ≤ top.precedence) = false := by
          simpa using hlt
        simp [push, hwaiting, htop]
      next => rw [popWhile_eq]; rfl

theorem foldl_take_output (ts output waiting : List Token) :
    ts.foldl take ⟨output, waiting⟩ =
      ⟨(ts.foldl take ⟨[], waiting⟩).output ++ output,
        (ts.foldl take ⟨[], waiting⟩).waiting⟩ := by
  induction ts generalizing output waiting with
  | nil => rfl
  | cons t ts ih =>
      simp only [List.foldl_cons]
      cases ht : t.isA .number with
      | true =>
          rw [take_number ht, take_number ht, ih (t :: output), ih [t]]
          simp
      | false =>
          rw [take_operator ht, take_operator ht]
          simp only [List.append_nil]
          rw [ih (_ ++ output), ih (List.reverse _)]
          simp

end Yard

/-! ## The two equations -/

end FirstMatch.Arithmetic

namespace FirstMatch.Token

/-- The token is an operator that `x`, waiting in front of it, has to give way
to. -/
def Clears (c x : Token) : Prop :=
  c.isA .number = false ∧ c.precedence ≤ x.precedence

instance (c x : Token) : Decidable (c.Clears x) :=
  inferInstanceAs (Decidable (_ ∧ _))

end FirstMatch.Token

namespace FirstMatch.Arithmetic

theorem takeWhile_dropWhile_append_cons
    {p : Token → Bool} {x : Token} (hx : p x = false)
    (above below : List Token) :
    (above ++ x :: below).takeWhile p = above.takeWhile p ∧
      (above ++ x :: below).dropWhile p = above.dropWhile p ++ x :: below := by
  induction above with
  | nil => simp [hx]
  | cons w above ih =>
      cases hw : p w with
      | true => simp [hw, ih]
      | false => simp [hw]

/-- As long as no token clears `x`, what waits below is left alone, and whatever
waits above binds tighter than `x`. -/
theorem foldl_take_above
    {x : Token} {ts : List Token} (hts : ∀ c ∈ ts, ¬ c.Clears x)
    (output above below : List Token)
    (habove : ∀ w ∈ above, x.precedence < w.precedence) :
    (∀ w ∈ (ts.foldl Yard.take ⟨output, above⟩).waiting,
        x.precedence < w.precedence) ∧
      ts.foldl Yard.take ⟨output, above ++ x :: below⟩ =
        ⟨(ts.foldl Yard.take ⟨output, above⟩).output,
          (ts.foldl Yard.take ⟨output, above⟩).waiting ++ x :: below⟩ := by
  induction ts generalizing output above with
  | nil => exact ⟨habove, rfl⟩
  | cons t ts ih =>
      have hrest : ∀ c ∈ ts, ¬ c.Clears x :=
        fun c hc => hts c (List.mem_cons_of_mem t hc)
      simp only [List.foldl_cons]
      cases ht : t.isA .number with
      | true =>
          rw [Yard.take_number ht, Yard.take_number ht]
          exact ih hrest _ _ habove
      | false =>
          have hlt : x.precedence < t.precedence := by
            have hclears := hts t List.mem_cons_self
            unfold Token.Clears at hclears
            simp only [ht, true_and] at hclears
            omega
          have hx : decide (t.precedence ≤ x.precedence) = false := by
            simpa using hlt
          obtain ⟨htake, hdrop⟩ := takeWhile_dropWhile_append_cons
            (p := fun w => t.precedence ≤ w.precedence) hx above below
          rw [Yard.take_operator ht, Yard.take_operator ht]
          simp only [htake, hdrop]
          rw [← List.cons_append]
          apply ih hrest
          intro w hw
          rcases List.mem_cons.mp hw with rfl | hw
          · exact hlt
          · exact habove w (List.dropWhile_subset _ hw)

theorem rearrange_cons_number
    {x : Token} (hx : x.isA .number = true) (rest : List Token) :
    rearrange (x :: rest) = x :: rearrange rest := by
  unfold rearrange
  rw [List.foldl_cons, Yard.take_number hx, Yard.foldl_take_output]
  simp [Yard.finish_eq, Yard.empty]

/-- An operator goes to the output between what it is not cleared by and the
first token that clears it. -/
theorem rearrange_cons_operator
    {x : Token} (hx : x.isA .number = false) {inner outer : List Token}
    (hinner : ∀ c ∈ inner, ¬ c.Clears x)
    (houter : ∀ c ∈ outer.head?, c.Clears x) :
    rearrange (x :: (inner ++ outer)) =
      rearrange inner ++ x :: rearrange outer := by
  obtain ⟨hwaiting, hfold⟩ :=
    foldl_take_above hinner [] [] [] (by simp)
  simp only [List.nil_append] at hfold
  unfold rearrange
  simp only [Yard.finish_eq]
  rw [List.foldl_cons, Yard.take_operator hx]
  simp only [Yard.empty, List.takeWhile_nil, List.dropWhile_nil,
    List.reverse_nil, List.nil_append]
  rw [List.foldl_append, hfold]
  generalize inner.foldl Yard.take ⟨[], []⟩ = y at hwaiting ⊢
  cases outer with
  | nil => simp
  | cons c outer =>
      obtain ⟨hc, hle⟩ := houter c rfl
      -- the first token that clears `x` clears what waits above it as well
      have hall : ∀ w ∈ y.waiting ++ [x],
          decide (c.precedence ≤ w.precedence) = true := by
        intro w hw
        rcases List.mem_append.mp hw with hw | hw
        · have hlt := hwaiting w hw
          simp only [decide_eq_true_eq]
          omega
        · rw [List.mem_singleton.mp hw]
          simpa using hle
      rw [List.foldl_cons, List.foldl_cons, Yard.take_operator hc,
        Yard.take_operator hc]
      simp only [List.takeWhile_eq_self_iff.mpr hall,
        List.dropWhile_eq_nil_iff.mpr hall, List.takeWhile_nil,
        List.dropWhile_nil, List.reverse_nil, List.nil_append]
      rw [Yard.foldl_take_output]
      simp

theorem rearrange_induction
    {motive : List Token → Prop} (nil : motive [])
    (number : ∀ x rest, x.isA .number = true → motive rest →
      motive (x :: rest))
    (operator : ∀ x inner outer, x.isA .number = false →
      (∀ c ∈ inner, ¬ c.Clears x) → (∀ c ∈ outer.head?, c.Clears x) →
      motive inner → motive outer → motive (x :: (inner ++ outer)))
    (ts : List Token) : motive ts := by
  induction hlength : ts.length using Nat.strongRecOn generalizing ts with
  | ind n ih =>
      cases ts with
      | nil => exact nil
      | cons x rest =>
          simp only [List.length_cons] at hlength
          cases hx : x.isA .number with
          | true => exact number x rest hx (ih _ (by omega) rest rfl)
          | false =>
              let keeps : Token → Bool := fun c => ¬ c.Clears x
              have hinner : ∀ c ∈ rest.takeWhile keeps, ¬ c.Clears x := by
                intro c hc
                simpa [keeps] using List.mem_takeWhile_imp hc
              have houter : ∀ c ∈ (rest.dropWhile keeps).head?,
                  c.Clears x := by
                intro c hc
                have hnot := List.head?_dropWhile_not keeps rest
                rw [Option.mem_def.mp hc] at hnot
                simpa [keeps] using hnot
              have htake := (List.takeWhile_sublist keeps (l := rest)).length_le
              have hdrop := List.length_dropWhile_le keeps rest
              have hsplit := operator x _ _ hx hinner houter
                (ih _ (by omega) _ rfl) (ih _ (by omega) _ rfl)
              rw [List.takeWhile_append_dropWhile] at hsplit
              exact hsplit

theorem rearrange_perm (ts : List Token) : (rearrange ts).Perm ts := by
  induction ts using rearrange_induction with
  | nil => exact .refl _
  | number x rest hx ih =>
      rw [rearrange_cons_number hx]
      exact ih.cons x
  | operator x inner outer hx hinner houter ihInner ihOuter =>
      rw [rearrange_cons_operator hx hinner houter]
      exact List.perm_middle.trans ((ihInner.append ihOuter).cons x)

/-! ## The place of every token -/

/-- Behind `x` and at the latest with `y`, a token arrives that clears `x`. -/
def Cleared (ts : List Token) (x y : Token) : Prop :=
  ∃ c ∈ ts, x.index < c.index ∧ c.index ≤ y.index ∧ c.Clears x

/-- The order of `a` and `b` in the output, told from their order in `ts`. -/
def Leads (ts : List Token) (a b : Token) : Prop :=
  (a.index < b.index ∧ (a.isA .number = true ∨ Cleared ts a b)) ∨
    (b.index < a.index ∧ b.isA .number = false ∧ ¬ Cleared ts b a)

theorem cleared_iff_of_part
    {part ts : List Token} {x y : Token} (hsub : part ⊆ ts)
    (hfull : ∀ c ∈ ts, x.index < c.index → c.index ≤ y.index → c ∈ part) :
    Cleared part x y ↔ Cleared ts x y := by
  constructor
  · rintro ⟨c, hc, hrest⟩
    exact ⟨c, hsub hc, hrest⟩
  · rintro ⟨c, hc, hlt, hle, hclears⟩
    exact ⟨c, hfull c hc hlt hle, hlt, hle, hclears⟩

theorem Leads.of_part
    {part ts : List Token} {a b : Token} (hsub : part ⊆ ts)
    (hfull : ∀ c ∈ ts, (a.index ≤ c.index ∨ b.index ≤ c.index) →
      (c.index ≤ a.index ∨ c.index ≤ b.index) → c ∈ part)
    (h : Leads part a b) :
    Leads ts a b := by
  rcases h with ⟨hlt, hleads⟩ | ⟨hlt, hnumber, hnot⟩
  · have hiff := cleared_iff_of_part (x := a) (y := b) hsub
      fun c hc hlt hle => hfull c hc (.inl (by omega)) (.inr hle)
    exact .inl ⟨hlt, hleads.imp id hiff.mp⟩
  · have hiff := cleared_iff_of_part (x := b) (y := a) hsub
      fun c hc hlt hle => hfull c hc (.inr (by omega)) (.inl hle)
    exact .inr ⟨hlt, hnumber, mt hiff.mpr hnot⟩

/-- What stands in front of a part and what stands behind it make no difference
inside of it. -/
theorem pairwise_leads_of_middle
    {ts part : List Token} (front back : List Token)
    (hts : ts = front ++ (part ++ back))
    (hsorted : ts.Pairwise fun a b => a.index < b.index)
    (h : (rearrange part).Pairwise (Leads part)) :
    (rearrange part).Pairwise (Leads ts) := by
  subst hts
  obtain ⟨_, hrest, hfront⟩ := List.pairwise_append.mp hsorted
  obtain ⟨_, _, hback⟩ := List.pairwise_append.mp hrest
  refine h.imp_of_mem fun {a b} ha hb hleads => ?_
  have ha : a ∈ part := (rearrange_perm part).mem_iff.mp ha
  have hb : b ∈ part := (rearrange_perm part).mem_iff.mp hb
  apply hleads.of_part (fun c hc => by simp [hc])
  intro c hc hlow hhigh
  rcases List.mem_append.mp hc with hc | hc
  · have hca := hfront c hc a (List.mem_append_left back ha)
    have hcb := hfront c hc b (List.mem_append_left back hb)
    omega
  · rcases List.mem_append.mp hc with hc | hc
    · exact hc
    · have hac := hback a ha c hc
      have hbc := hback b hb c hc
      omega

section Operator

variable {x : Token} {inner outer : List Token}

theorem cleared_of_mem_outer
    (hsorted : (x :: (inner ++ outer)).Pairwise fun a b => a.index < b.index)
    (houter : ∀ c ∈ outer.head?, c.Clears x)
    {a b : Token} (ha : a ∈ x :: inner) (hb : b ∈ outer)
    (hle : x.precedence ≤ a.precedence) :
    Cleared (x :: (inner ++ outer)) a b := by
  rw [← List.cons_append] at hsorted ⊢
  obtain ⟨_, hsortedOuter, hacross⟩ := List.pairwise_append.mp hsorted
  cases outer with
  | nil => cases hb
  | cons c outer =>
      obtain ⟨hc, hcx⟩ := houter c rfl
      have hac := hacross a ha c List.mem_cons_self
      have hcb : c.index ≤ b.index := by
        rcases List.mem_cons.mp hb with rfl | hb
        · exact Int.le_refl _
        · exact Int.le_of_lt ((List.pairwise_cons.mp hsortedOuter).1 b hb)
      exact ⟨c, by simp, hac, hcb, hc, hcx.trans hle⟩

theorem leads_operator_of_inner
    (hsorted : (x :: (inner ++ outer)).Pairwise fun a b => a.index < b.index)
    (hx : x.isA .number = false) (hinner : ∀ c ∈ inner, ¬ c.Clears x)
    {a : Token} (ha : a ∈ inner) :
    Leads (x :: (inner ++ outer)) a x := by
  obtain ⟨hfirst, hrest⟩ := List.pairwise_cons.mp hsorted
  obtain ⟨_, _, hacross⟩ := List.pairwise_append.mp hrest
  refine .inr ⟨hfirst a (List.mem_append_left outer ha), hx, ?_⟩
  rintro ⟨c, hc, hlt, hle, hclears⟩
  rcases List.mem_cons.mp hc with rfl | hc
  · omega
  · rcases List.mem_append.mp hc with hc | hc
    · exact hinner c hc hclears
    · have hac := hacross a ha c hc
      omega

theorem leads_outer_of_mem
    (hsorted : (x :: (inner ++ outer)).Pairwise fun a b => a.index < b.index)
    (hinner : ∀ c ∈ inner, ¬ c.Clears x) (houter : ∀ c ∈ outer.head?, c.Clears x)
    {a b : Token} (ha : a ∈ x :: inner) (hb : b ∈ outer) :
    Leads (x :: (inner ++ outer)) a b := by
  have hacross : a.index < b.index := by
    rw [← List.cons_append] at hsorted
    exact (List.pairwise_append.mp hsorted).2.2 a ha b hb
  refine .inl ⟨hacross, ?_⟩
  cases hnumber : a.isA .number with
  | true => exact .inl rfl
  | false =>
      right
      apply cleared_of_mem_outer hsorted houter ha hb
      rcases List.mem_cons.mp ha with rfl | ha
      · exact Nat.le_refl _
      · have hnot := hinner a ha
        unfold Token.Clears at hnot
        simp only [hnumber, true_and] at hnot
        omega

end Operator

theorem rearrange_pairwise
    {ts : List Token} (hsorted : ts.Pairwise fun a b => a.index < b.index) :
    (rearrange ts).Pairwise (Leads ts) := by
  induction ts using rearrange_induction with
  | nil => exact .nil
  | number x rest hx ih =>
      obtain ⟨hfirst, hrest⟩ := List.pairwise_cons.mp hsorted
      have hmiddle := pairwise_leads_of_middle [x] [] (by simp) hsorted (ih hrest)
      rw [rearrange_cons_number hx]
      refine .cons ?_ hmiddle
      intro y hy
      have hy : y ∈ rest := (rearrange_perm rest).mem_iff.mp hy
      exact .inl ⟨hfirst y hy, .inl hx⟩
  | operator x inner outer hx hinner houter ihInner ihOuter =>
      obtain ⟨_, hrest⟩ := List.pairwise_cons.mp hsorted
      obtain ⟨hsortedInner, hsortedOuter, _⟩ := List.pairwise_append.mp hrest
      have hmiddleInner := pairwise_leads_of_middle [x] outer (by simp) hsorted
        (ihInner hsortedInner)
      have hmiddleOuter := pairwise_leads_of_middle (x :: inner) [] (by simp)
        hsorted (ihOuter hsortedOuter)
      rw [rearrange_cons_operator hx hinner houter]
      refine List.pairwise_append.mpr ⟨hmiddleInner, .cons ?_ hmiddleOuter, ?_⟩
      · intro b hb
        have hb : b ∈ outer := (rearrange_perm outer).mem_iff.mp hb
        exact leads_outer_of_mem hsorted hinner houter List.mem_cons_self hb
      · intro a ha b hb
        have ha : a ∈ inner := (rearrange_perm inner).mem_iff.mp ha
        rcases List.mem_cons.mp hb with rfl | hb
        · exact leads_operator_of_inner hsorted hx hinner ha
        · have hb : b ∈ outer := (rearrange_perm outer).mem_iff.mp hb
          exact leads_outer_of_mem hsorted hinner houter
            (List.mem_cons_of_mem x ha) hb

def Before (l : List Token) (x y : Token) : Prop :=
  [x, y].Sublist l

theorem before_or_before
    {l : List Token} {x y : Token} (hx : x ∈ l) (hy : y ∈ l) (hne : x ≠ y) :
    Before l x y ∨ Before l y x := by
  induction l with
  | nil => simp at hx
  | cons a l ih =>
      rcases List.mem_cons.mp hx with rfl | hxl
      · have hyl : y ∈ l := by simpa [hne.symm] using hy
        exact .inl (.cons_cons x (List.singleton_sublist.mpr hyl))
      · rcases List.mem_cons.mp hy with rfl | hyl
        · exact .inr (.cons_cons y (List.singleton_sublist.mpr hxl))
        · exact (ih hxl hyl).imp (.cons a) (.cons a)

theorem before_iff_of_pairwise
    {ts out : List Token} (hout : out.Pairwise (Leads ts))
    {x y : Token} (hx : x ∈ out) (hy : y ∈ out) (hlt : x.index < y.index) :
    Before out x y ↔ x.isA .number = true ∨ Cleared ts x y := by
  have hleads : ∀ {a b}, Before out a b → Leads ts a b := by
    intro a b hbefore
    have hpair := hout.sublist hbefore
    simpa using hpair
  constructor
  · intro hbefore
    rcases hleads hbefore with ⟨_, h⟩ | ⟨hgt, _, _⟩
    · exact h
    · omega
  · intro h
    have hne : x ≠ y := by
      rintro rfl
      omega
    rcases before_or_before hx hy hne with hbefore | hbefore
    · exact hbefore
    · rcases hleads hbefore with ⟨hgt, _⟩ | ⟨_, hnumber, hnot⟩
      · omega
      · rcases h with h | h
        · rw [hnumber] at h
          cases h
        · exact absurd h hnot

/-! ## Expressions -/

theorem eq_pattern_of_mem_definitions {d : Definition} (h : d ∈ definitions) :
    ∃ kind p, d = ⟨.arithmetic kind, .pattern p⟩ := by
  unfold definitions at h
  obtain ⟨⟨kind, source⟩, _, hd⟩ := List.mem_filterMap.mp h
  unfold definition? at hd
  obtain ⟨p, _, rfl⟩ := Option.map_eq_some_iff.mp hd
  exact ⟨kind, p, rfl⟩

theorem scan_spec (expression : Text) :
    (∃ c b, (Scanner.mk definitions expression).tokens .empty =
        (.ok (scan expression), c, b)) ∧
      (∃ q, Token.Tiles expression 0 (scan expression) q) ∧
      ∀ a ∈ scan expression, ∃ kind : Kind, a.kind = .arithmetic kind := by
  have hdefinitions : ∀ d ∈ definitions,
      ∃ kind p, d = ⟨.arithmetic kind, .pattern p⟩ :=
    fun d hd => eq_pattern_of_mem_definitions hd
  unfold scan
  -- which definitions these are does not matter, and they are large
  generalize definitions = defs at hdefinitions ⊢
  have hstateless : ∀ d ∈ defs, d.matcher.isStateless = true := by
    intro d hd
    obtain ⟨kind, p, rfl⟩ := hdefinitions d hd
    rfl
  obtain ⟨tokens, q, c, b, htokens, htiles, hkinds⟩ :=
    Scanner.tokens_tiles (x := ⟨defs, expression⟩) hstateless .empty
  rw [htokens]
  refine ⟨⟨c, b, rfl⟩, ⟨q, htiles⟩, ?_⟩
  intro a ha
  obtain ⟨d, hd, hkind⟩ := hkinds a ha
  obtain ⟨kind, p, rfl⟩ := hdefinitions d hd
  exact ⟨kind, hkind⟩

theorem isA_number_eq_false_iff
    {a : Token} {kind : Kind} (hkind : a.kind = .arithmetic kind)
    (hspace : a.isA .space = false) :
    a.isA .number = false ↔ a.operator?.isSome = true := by
  unfold Token.isA at *
  unfold Token.operator?
  rw [hkind] at hspace ⊢
  cases kind with
  | space => simp at hspace
  | _ => simp [Kind.operator?]

/-- The output for any expression, well-formed or not, holds its numbers and operators in an
order that is settled for every two of them.  A number comes before all that stands behind it.
An operator comes before a token behind it if, and only if, an operator that does not bind
tighter comes in between or is that token. -/
theorem parse_order (expression : Text) :
    let ts := (scan expression).filter fun t => !t.isA .space
    (∃ c b, (Scanner.mk definitions expression).tokens .empty =
      (.ok (scan expression), c, b)) ∧
    ts.Pairwise (fun x y => x.index < y.index) ∧
    (∀ x ∈ ts, x.isA .number = false ↔ x.operator?.isSome = true) ∧
    (parse expression).Perm ts ∧
    ∀ x ∈ ts, ∀ y ∈ ts, x.index < y.index →
      (x.isA .number = true → Before (parse expression) x y) ∧
      (x.operator?.isSome = true →
        (Before (parse expression) x y ↔
          ∃ c ∈ ts, c.operator?.isSome = true ∧
            x.index < c.index ∧ c.index ≤ y.index ∧
            c.precedence ≤ x.precedence)) := by
  intro ts
  obtain ⟨htokens, ⟨q, htiles⟩, hkinds⟩ := scan_spec expression
  have hsorted : ts.Pairwise fun x y => x.index < y.index :=
    htiles.pairwise_index.filter _
  have hoperator : ∀ x ∈ ts,
      x.isA .number = false ↔ x.operator?.isSome = true := by
    intro x hx
    obtain ⟨hmem, hspace⟩ := List.mem_filter.mp hx
    obtain ⟨kind, hkind⟩ := hkinds x hmem
    exact isA_number_eq_false_iff hkind (by simpa using hspace)
  have hperm : (parse expression).Perm ts := rearrange_perm ts
  refine ⟨htokens, hsorted, hoperator, hperm, ?_⟩
  intro x hx y hy hlt
  have hiff : Before (parse expression) x y ↔ _ :=
    before_iff_of_pairwise (rearrange_pairwise hsorted)
      (hperm.mem_iff.mpr hx) (hperm.mem_iff.mpr hy) hlt
  constructor
  · intro hnumber
    exact hiff.mpr (.inl hnumber)
  · intro hop
    have hnumber : x.isA .number = false := (hoperator x hx).mpr hop
    rw [hiff, hnumber]
    simp only [Bool.false_eq_true, false_or]
    constructor
    · rintro ⟨c, hc, hxc, hcy, hclears, hle⟩
      exact ⟨c, hc, (hoperator c hc).mp hclears, hxc, hcy, hle⟩
    · rintro ⟨c, hc, hcop, hxc, hcy, hle⟩
      exact ⟨c, hc, hxc, hcy, (hoperator c hc).mpr hcop, hle⟩

end FirstMatch.Arithmetic
