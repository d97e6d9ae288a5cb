import FirstMatch.Proofs.Arithmetic.FirstFault

/-!
# Calculations one after the other

A token has to do with the two topmost values at most.  So if an operator finds its
operands among the values on top, it does not matter what lies below them.  This is why
lists can be calculated one after the other, and why only the last one counts.
-/

namespace FirstMatch.Arithmetic

def Supplied (outcome : Except Fault (List Int)) : Prop :=
  ∀ value index, outcome ≠ .error (.missingOperands value index)

variable {tokens : List Token} {top stack : List Int}

theorem supplied_ok (stack : List Int) : Supplied (.ok stack) := by
  intro value index h
  cases h

/-! ## Values below -/

theorem evaluateToken_above {t : Token} (h : Supplied (evaluateToken top t))
    (below : List Int) :
    evaluateToken (top ++ below) t = (evaluateToken top t).map (· ++ below) := by
  cases hnumber : t.isA .number with
  | true =>
      rw [evaluateToken_isA_number hnumber, evaluateToken_isA_number hnumber]
      cases Numeral.read t.value <;> rfl
  | false =>
      match top with
      | [] => exact absurd (by simp [evaluateToken, hnumber]) (h t.value t.index)
      | [_] => exact absurd (by simp [evaluateToken, hnumber]) (h t.value t.index)
      | right :: left :: rest =>
          rw [List.cons_append, List.cons_append, evaluateToken_two hnumber,
            evaluateToken_two hnumber]
          cases operate t left right <;> rfl

/-- If no operator lacks operands, the outcome is the same with more values below,
and these are still below in the end. -/
theorem evaluate_above (h : Supplied (evaluate top tokens)) (below : List Int) :
    evaluate (top ++ below) tokens = (evaluate top tokens).map (· ++ below) := by
  induction tokens generalizing top with
  | nil => rfl
  | cons t tokens ih =>
      have htoken : Supplied (evaluateToken top t) := by
        intro value index herror
        exact h value index (by rw [evaluate, herror])
      have habove := evaluateToken_above htoken below
      cases hstep : evaluateToken top t with
      | error fault =>
          rw [hstep] at habove
          rw [evaluate, evaluate, habove, hstep]
          rfl
      | ok stack =>
          rw [hstep] at habove
          rw [evaluate, hstep] at h
          rw [evaluate, evaluate, habove, hstep]
          exact ih h

theorem evaluate_above_nil (h : evaluate [] tokens = .ok stack) (below : List Int) :
    evaluate below tokens = .ok (stack ++ below) := by
  have habove := evaluate_above (h ▸ supplied_ok stack) below
  rw [h] at habove
  exact habove

/-! ## Lists that can be calculated -/

theorem exists_evaluate_of_prefix {front : List Token} (hfront : front <+: tokens)
    (h : evaluate [] tokens = .ok stack) :
    ∃ own, evaluate [] front = .ok own := by
  obtain ⟨back, rfl⟩ := hfront
  rw [evaluate_append] at h
  cases hevaluate : evaluate [] front with
  | ok own => exact ⟨own, rfl⟩
  | error fault =>
      rw [hevaluate] at h
      cases h

/-- Two lists that can be calculated can be calculated one after the other, and the value is
that of the second one, unless it is empty.  On top of any stack the second list leaves its own
values, and the stack is untouched at all times.  If the first list has a fault, both together
have the same one, whatever the second list is. -/
theorem calculate_append (xs ys : List Token) :
    (∀ m n, calculate xs = .ok m → calculate ys = .ok n → ys ≠ [] →
      calculate (xs ++ ys) = .ok n) ∧
    (∀ n, calculate ys = .ok n →
      ∃ values, evaluate [] ys = .ok values ∧ Stacked ys values ∧
        ∀ stack, evaluate stack ys = .ok (values ++ stack) ∧
          ∀ front, front <+: ys →
            ∃ own, evaluate [] front = .ok own ∧
              evaluate stack front = .ok (own ++ stack)) ∧
    (∀ fault, calculate xs = .error fault →
      calculate (xs ++ ys) = .error fault) := by
  refine ⟨?_, ?_, ?_⟩
  · intro m n hxs hys hne
    obtain ⟨below, hbelow, _⟩ := exists_evaluate_of_calculate hxs
    obtain ⟨values, hvalues, hhead⟩ := exists_evaluate_of_calculate hys
    obtain ⟨v, rest, rfl⟩ := (Stacked.of_evaluate hvalues).ne_nil hne
    have hboth : evaluate [] (xs ++ ys) = .ok (v :: rest ++ below) := by
      rw [evaluate_append, hbelow]
      exact evaluate_above_nil hvalues below
    unfold calculate
    rw [hboth]
    exact congrArg Except.ok hhead
  · intro n hys
    obtain ⟨values, hvalues, _⟩ := exists_evaluate_of_calculate hys
    refine ⟨values, hvalues, .of_evaluate hvalues, ?_⟩
    intro stack
    refine ⟨evaluate_above_nil hvalues stack, ?_⟩
    intro front hfront
    obtain ⟨own, hown⟩ := exists_evaluate_of_prefix hfront hvalues
    exact ⟨own, hown, evaluate_above_nil hown stack⟩
  · intro fault hxs
    rw [calculate_eq_error_iff] at hxs ⊢
    rw [evaluate_append, hxs]
    rfl

theorem calculate_append_surplus :
    let digit (index : Int) (c : Nat) : Token := ⟨index, .arithmetic .number, #[c]⟩
    let xs := [digit 0 49, digit 2 50]
    let zs := [digit 0 50, digit 2 48, ⟨4, .arithmetic .divide, #[47]⟩]
    let ys := [digit 6 56, digit 8 54, digit 10 53,
      ⟨12, .arithmetic .minus, #[45]⟩, ⟨14, .arithmetic .divide, #[47]⟩]
    calculate xs = .ok 2 ∧ calculate ys = .ok 8 ∧ ys ≠ [] ∧
    calculate (xs ++ ys) = .ok 8 ∧
    (∃ values, evaluate [] ys = .ok values ∧ Stacked ys values ∧
      evaluate [2, 1] ys = .ok (values ++ [2, 1]) ∧ ys.take 3 <+: ys ∧
      ∃ own, evaluate [] (ys.take 3) = .ok own ∧
        evaluate [2, 1] (ys.take 3) = .ok (own ++ [2, 1])) ∧
    calculate zs = .error .divisionByZero ∧
    calculate (zs ++ ys) = .error .divisionByZero := by
  intro digit xs zs ys
  have hxs : calculate xs = .ok 2 := by rfl
  have hys : calculate ys = .ok 8 := by rfl
  have hzs : calculate zs = .error .divisionByZero := by rfl
  have hne : ys ≠ [] := List.cons_ne_nil _ _
  have hfront : ys.take 3 <+: ys := List.take_prefix 3 ys
  obtain ⟨values, hvalues, hstacked, habove⟩ := (calculate_append xs ys).2.1 8 hys
  obtain ⟨hall, hfronts⟩ := habove [2, 1]
  exact ⟨hxs, hys, hne, (calculate_append xs ys).1 2 8 hxs hys hne,
    ⟨values, hvalues, hstacked, hall, hfront, hfronts _ hfront⟩, hzs,
    (calculate_append zs ys).2.2 _ hzs⟩

end FirstMatch.Arithmetic
