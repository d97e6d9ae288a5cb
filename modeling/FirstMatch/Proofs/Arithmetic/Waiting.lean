import FirstMatch.Proofs.Arithmetic.FirstFault
import FirstMatch.Proofs.Arithmetic.Rearrangement
import Mathlib.Data.List.Perm.Subperm
import Mathlib.Logic.Relation

/-!
# The operators that wait

Rearranging is cut into moves that touch one token each, so that its points are also those
in the middle of taking an operator.  At all of them the waiting operators stand in the
order in which they arrived, and each binds tighter than the one below it.
-/

namespace FirstMatch.Arithmetic

namespace Yard

inductive Moves : Yard × List Token → Yard × List Token → Prop
  | emit {y : Yard} {t : Token} {rest : List Token} (hnumber : t.isA .number = true) :
      Moves (y, t :: rest) (y.emit t, rest)
  | pop {output below : List Token} {top c : Token} {rest : List Token}
      (hoperator : c.isA .number = false) (hle : c.precedence ≤ top.precedence) :
      Moves (⟨output, top :: below⟩, c :: rest) (⟨top :: output, below⟩, c :: rest)
  | push {y : Yard} {c : Token} {rest : List Token} (hoperator : c.isA .number = false)
      (hloose : ∀ top ∈ y.waiting.head?, top.precedence < c.precedence) :
      Moves (y, c :: rest) (y.push c, rest)
  | flush {output below : List Token} {top : Token} :
      Moves (⟨output, top :: below⟩, []) (⟨top :: output, below⟩, [])

/-- Rearranging `ts` passes through `y` when `rest` is still to come. -/
def Point (ts : List Token) (y : Yard) (rest : List Token) : Prop :=
  Relation.ReflTransGen Moves (empty, ts) (y, rest)

structure Orderly (ts : List Token) (y : Yard) (rest : List Token) : Prop where
  operators : ∀ w ∈ y.waiting, w.isA .number = false
  arrived : ∃ front, front ++ rest = ts ∧ y.waiting.reverse.Sublist front
  falling : y.waiting.Pairwise fun a b => b.precedence < a.precedence
  completes : (rest.foldl take y).finish = rearrange ts

variable {ts rest : List Token} {y : Yard} {c : Token}

/-! ## Single moves -/

/-- Pushing at once is what popping comes to when nothing is to be popped. -/
theorem popWhile_of_loose (hloose : ∀ top ∈ y.waiting.head?, top.precedence < c.precedence) :
    popWhile (fun w => c.precedence ≤ w.precedence) y.output y.waiting = y := by
  rcases y with ⟨output, waiting⟩
  cases waiting with
  | nil => rfl
  | cons top below =>
      have htop : top.precedence < c.precedence := hloose top rfl
      have hnot : ¬ c.precedence ≤ top.precedence := by omega
      simp [popWhile, hnot]

theorem takeOperator_eq (y : Yard) (c : Token) :
    y.takeOperator c =
      (popWhile (fun w => c.precedence ≤ w.precedence) y.output y.waiting).push c := by
  unfold takeOperator
  split
  next hwaiting => rw [hwaiting, popWhile, push, push, hwaiting]
  next top below hwaiting =>
    split
    next hlt =>
      have hloose : ∀ top ∈ y.waiting.head?, top.precedence < c.precedence := by
        simpa [hwaiting] using hlt
      rw [popWhile_of_loose hloose]
    next => rfl

theorem take_pop {output below : List Token} {top : Token}
    (hoperator : c.isA .number = false) (hle : c.precedence ≤ top.precedence) :
    take ⟨output, top :: below⟩ c = take ⟨top :: output, below⟩ c := by
  rw [take_operator hoperator, take_operator hoperator]
  simp [hle]

theorem take_push (hoperator : c.isA .number = false)
    (hloose : ∀ top ∈ y.waiting.head?, top.precedence < c.precedence) :
    y.take c = y.push c := by
  rw [take, if_neg (by simp [hoperator]), takeOperator_eq, popWhile_of_loose hloose]

theorem Moves.unique {p q q' : Yard × List Token} (h : Moves p q) (h' : Moves p q') :
    q = q' := by
  cases h with
  | emit hnumber =>
      cases h' with
      | emit => rfl
      | pop hoperator => cases hnumber.symm.trans hoperator
      | push hoperator => cases hnumber.symm.trans hoperator
  | pop hoperator hle =>
      cases h' with
      | emit hnumber => cases hnumber.symm.trans hoperator
      | pop => rfl
      | push _ hloose =>
          have hlt := hloose _ rfl
          omega
  | push hoperator hloose =>
      cases h' with
      | emit hnumber => cases hnumber.symm.trans hoperator
      | push => rfl
      | pop _ hle =>
          have hlt := hloose _ rfl
          omega
  | flush =>
      cases h' with
      | flush => rfl

/-- What is tighter than the topmost is tighter than all that wait. -/
theorem Orderly.looser_of_head (h : Orderly ts y rest)
    (hloose : ∀ top ∈ y.waiting.head?, top.precedence < c.precedence) :
    ∀ w ∈ y.waiting, w.precedence < c.precedence := by
  have hfalling := h.falling
  cases hwaiting : y.waiting with
  | nil => nofun
  | cons top below =>
      rw [hwaiting] at hfalling
      have htop : top.precedence < c.precedence := hloose top (by simp [hwaiting])
      intro w hw
      rcases List.mem_cons.mp hw with rfl | hw
      · exact htop
      · exact (List.rel_of_pairwise_cons hfalling hw).trans htop

theorem Orderly.move {y' : Yard} {rest' : List Token} (h : Orderly ts y rest)
    (hmove : Moves (y, rest) (y', rest')) : Orderly ts y' rest' := by
  cases hmove with
  | @emit _ t _ hnumber =>
      rcases h.arrived with ⟨front, hfront, hsub⟩
      refine ⟨h.operators, ⟨front ++ [t], by simpa using hfront, ?_⟩, h.falling, ?_⟩
      · exact hsub.trans (List.sublist_append_left front [t])
      · have hcompletes := h.completes
        rw [List.foldl_cons, take_number hnumber] at hcompletes
        exact hcompletes
  | @pop output below top c _ hoperator hle =>
      rcases h.arrived with ⟨front, hfront, hsub⟩
      have hbelow := List.pairwise_cons.mp h.falling
      refine ⟨fun w hw => h.operators w (.tail _ hw), ⟨front, hfront, ?_⟩, hbelow.2, ?_⟩
      · exact ((List.sublist_cons_self top below).reverse).trans hsub
      · have hcompletes := h.completes
        rw [List.foldl_cons, take_pop hoperator hle] at hcompletes
        exact hcompletes
  | @push _ c _ hoperator hloose =>
      rcases h.arrived with ⟨front, hfront, hsub⟩
      refine ⟨?_, ⟨front ++ [c], by simpa using hfront, ?_⟩, ?_, ?_⟩
      · intro w hw
        rcases List.mem_cons.mp hw with rfl | hw
        · exact hoperator
        · exact h.operators w hw
      · simpa [Yard.push] using hsub.append (List.Sublist.refl [c])
      · exact List.pairwise_cons.mpr ⟨h.looser_of_head hloose, h.falling⟩
      · have hcompletes := h.completes
        rw [List.foldl_cons, take_push hoperator hloose] at hcompletes
        exact hcompletes
  | @flush output below top =>
      rcases h.arrived with ⟨front, hfront, hsub⟩
      have hbelow := List.pairwise_cons.mp h.falling
      refine ⟨fun w hw => h.operators w (.tail _ hw), ⟨front, hfront, ?_⟩, hbelow.2, ?_⟩
      · exact ((List.sublist_cons_self top below).reverse).trans hsub
      · have hcompletes := h.completes
        rw [List.foldl_nil, finish_eq] at hcompletes ⊢
        simpa using hcompletes

/-! ## Runs -/

theorem orderly_empty (ts : List Token) : Orderly ts empty ts :=
  ⟨nofun, ⟨[], rfl, .slnil⟩, .nil, rfl⟩

theorem Point.orderly (h : Point ts y rest) : Orderly ts y rest := by
  have hall : ∀ p, Relation.ReflTransGen Moves (empty, ts) p → Orderly ts p.1 p.2 := by
    intro p hp
    induction hp with
    | refl => exact orderly_empty ts
    | tail _ hmove ih => exact ih.move hmove
  exact hall _ h

theorem moves_take (y : Yard) (t : Token) (rest : List Token) :
    Relation.ReflTransGen Moves (y, t :: rest) (y.take t, rest) := by
  cases ht : t.isA .number with
  | true =>
      rw [take_number ht]
      exact .single (.emit ht)
  | false =>
      rcases y with ⟨output, waiting⟩
      induction waiting generalizing output with
      | nil =>
          have hloose : ∀ top ∈ (Yard.mk output []).waiting.head?,
              top.precedence < t.precedence := nofun
          rw [take_push ht hloose]
          exact .single (.push ht hloose)
      | cons top below ih =>
          by_cases hle : t.precedence ≤ top.precedence
          · rw [take_pop ht hle]
            exact .head (.pop ht hle) (ih _)
          · have hloose : ∀ w ∈ (Yard.mk output (top :: below)).waiting.head?,
                w.precedence < t.precedence := by
              simpa using hle
            rw [take_push ht hloose]
            exact .single (.push ht hloose)

theorem moves_foldl (front rest : List Token) (y : Yard) :
    Relation.ReflTransGen Moves (y, front ++ rest) (front.foldl take y, rest) := by
  induction front generalizing y with
  | nil => exact .refl
  | cons t front ih => exact (moves_take y t (front ++ rest)).trans (ih _)

theorem moves_flush (output waiting : List Token) :
    Relation.ReflTransGen Moves (⟨output, waiting⟩, [])
      (⟨waiting.reverse ++ output, []⟩, []) := by
  induction waiting generalizing output with
  | nil => exact .refl
  | cons top below ih =>
      refine .head .flush ?_
      simpa using ih (top :: output)

theorem point_rearrange (ts : List Token) : Point ts ⟨(rearrange ts).reverse, []⟩ [] := by
  have hall := moves_foldl ts [] empty
  rw [List.append_nil] at hall
  have hflush := moves_flush (ts.foldl take empty).output (ts.foldl take empty).waiting
  rw [rearrange, finish_eq, List.reverse_append, List.reverse_reverse]
  exact hall.trans hflush

/-! ## What the order gives -/

theorem takeWhile_eq_filter {waiting : List Token} {n : Nat}
    (hfalling : waiting.Pairwise fun a b => b.precedence < a.precedence) :
    waiting.takeWhile (fun w => n ≤ w.precedence) = waiting.filter (fun w => n ≤ w.precedence) ∧
      waiting.dropWhile (fun w => n ≤ w.precedence) =
        waiting.filter (fun w => w.precedence < n) := by
  induction waiting with
  | nil => exact ⟨rfl, rfl⟩
  | cons top below ih =>
      rcases List.pairwise_cons.mp hfalling with ⟨htop, hbelow⟩
      by_cases hle : n ≤ top.precedence
      · have hnot : ¬ top.precedence < n := by omega
        simpa [hle, hnot] using ih hbelow
      · have hall : ∀ w ∈ below, w.precedence < n := by
          intro w hw
          have hlt := htop w hw
          omega
        have htop' : top.precedence < n := by omega
        have hnone : below.filter (fun w => n ≤ w.precedence) = [] := by
          simpa using hall
        have hkept : below.filter (fun w => w.precedence < n) = below := by
          simpa using hall
        simp [hle, htop', hnone, hkept]

theorem Orderly.take_eq (h : Orderly ts y rest) (hoperator : c.isA .number = false) :
    y.take c =
      ⟨(y.waiting.filter fun w => c.precedence ≤ w.precedence).reverse ++ y.output,
        c :: y.waiting.filter fun w => w.precedence < c.precedence⟩ := by
  have hfilter := takeWhile_eq_filter (n := c.precedence) h.falling
  rw [take_operator hoperator, hfilter.1, hfilter.2]

end Yard

/-! ## Expressions -/

theorem length_le_of_falling {waiting : List Token}
    (hoperators : ∀ w ∈ waiting, w.operator?.isSome = true)
    (hfalling : waiting.Pairwise fun a b => b.precedence < a.precedence) :
    waiting.length ≤ 4 := by
  have hnodup : (waiting.map (·.precedence)).Nodup := by
    rw [List.Nodup, List.pairwise_map]
    exact hfalling.imp fun h => h.ne'
  have hsubset : waiting.map (·.precedence) ⊆ Operator.all.map Operator.precedence := by
    intro n hn
    rcases List.mem_map.mp hn with ⟨w, hw, rfl⟩
    rcases Option.isSome_iff_exists.mp (hoperators w hw) with ⟨o, ho⟩
    have hprecedence : w.precedence = o.precedence := by simp [Token.precedence, ho]
    rw [hprecedence]
    cases o <;> decide
  simpa [Operator.all] using (hnodup.subperm hsubset).length_le

/-- Wherever the rearranging of any expression has got to, those that wait are operators in the
order of the expression, each tighter than the one below, and therefore at most four.  The
operator that comes next sends away those that do not bind looser, wherever they stand. -/
theorem waiting_operators_tighten (expression : Text) :
    let ts := (scan expression).filter fun t => !t.isA .space
    (∀ front rest, front ++ rest = ts → Yard.Point ts (front.foldl Yard.take .empty) rest) ∧
    Yard.Point ts ⟨(parse expression).reverse, []⟩ [] ∧
    (∀ p q q', Yard.Moves p q → Yard.Moves p q' → q = q') ∧
    (∀ y rest, Yard.Point ts y rest →
      (∀ w ∈ y.waiting, ∃ o : Operator, w.kind = .arithmetic o.kind) ∧
      (∃ front, front ++ rest = ts ∧ y.waiting.reverse.Sublist front) ∧
      (y.waiting.reverse.Pairwise fun a b =>
        a.index < b.index ∧ a.precedence < b.precedence) ∧
      y.waiting.length ≤ 4 ∧
      ∀ c later, rest = c :: later → c.isA .number = false → y.take c =
        ⟨(y.waiting.filter fun w => c.precedence ≤ w.precedence).reverse ++ y.output,
          c :: y.waiting.filter fun w => w.precedence < c.precedence⟩) ∧
    ∀ (y : Yard) (c : Token),
      y.takeOperator c =
        (Yard.popWhile (fun w => c.precedence ≤ w.precedence) y.output y.waiting).push c ∧
      ((∀ top ∈ y.waiting.head?, top.precedence < c.precedence) →
        y.push c =
          (Yard.popWhile (fun w => c.precedence ≤ w.precedence) y.output y.waiting).push c) := by
  intro ts
  rcases scan_spec expression with ⟨_, ⟨q, htiles⟩, hkinds⟩
  have hsorted : ts.Pairwise fun a b => a.index < b.index := htiles.pairwise_index.filter _
  have hoperator : ∀ w ∈ ts, w.isA .number = false → w.operator?.isSome = true := by
    intro w hw hnumber
    rcases List.mem_filter.mp hw with ⟨hmem, hspace⟩
    rcases hkinds w hmem with ⟨kind, hkind⟩
    exact (isA_number_eq_false_iff hkind (by simpa using hspace)).mp hnumber
  refine ⟨?_, Yard.point_rearrange ts, fun _ _ _ => Yard.Moves.unique, ?_, ?_⟩
  · intro front rest hsplit
    have hmoves := Yard.moves_foldl front rest .empty
    rw [hsplit] at hmoves
    exact hmoves
  · intro y rest hpoint
    have horderly := hpoint.orderly
    rcases horderly.arrived with ⟨front, hfront, hsub⟩
    have hsub' : y.waiting.reverse.Sublist ts := by
      rw [← hfront]
      exact hsub.trans (List.sublist_append_left front rest)
    have hwaiting : ∀ w ∈ y.waiting, w.operator?.isSome = true := by
      intro w hw
      exact hoperator w (hsub'.subset (List.mem_reverse.mpr hw)) (horderly.operators w hw)
    refine ⟨?_, ⟨front, hfront, hsub⟩, ?_, length_le_of_falling hwaiting horderly.falling, ?_⟩
    · intro w hw
      rcases Option.isSome_iff_exists.mp (hwaiting w hw) with ⟨o, ho⟩
      exact ⟨o, Operator.operator?_eq_some_iff.mp ho⟩
    · exact (hsorted.sublist hsub').and (List.pairwise_reverse.mpr horderly.falling)
    · intro c _ _ hnumber
      exact horderly.take_eq hnumber
  · intro y c
    refine ⟨y.takeOperator_eq c, fun hloose => ?_⟩
    rw [Yard.popWhile_of_loose hloose]

theorem waiting_operators_tighten_full :
    let ts := (scan (text "1+2-3*4/5+6-7")).filter fun t => !t.isA .space
    let y := (ts.take 8).foldl Yard.take .empty
    ts.take 8 ++ ts.drop 8 = ts ∧ y.waiting.map (·.precedence) = [4, 3, 2, 1] ∧
      Yard.Point ts y (ts.drop 8) ∧
      (y.waiting.reverse.Pairwise fun a b =>
        a.index < b.index ∧ a.precedence < b.precedence) ∧
      y.waiting.length ≤ 4 := by
  intro ts y
  have hsplit : ts.take 8 ++ ts.drop 8 = ts := List.take_append_drop 8 ts
  obtain ⟨hpoint, _, _, hordered, _⟩ := waiting_operators_tighten (text "1+2-3*4/5+6-7")
  have hy := hpoint _ _ hsplit
  rcases hordered y _ hy with ⟨_, _, hrising, hlength, _⟩
  exact ⟨hsplit, by decide +kernel, hy, hrising, hlength⟩

end FirstMatch.Arithmetic
