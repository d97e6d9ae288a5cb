import FirstMatch.Arithmetic.Calculation
import FirstMatch.Proofs.Arithmetic.Expression

/-!
# Trees on the stack

The value of a tree is found by going down the tree, first the left part, then the right
part, then the operator.  The stack machine does the same work in the same order and never
reaches below the operands of the tree.  Trees can have any shape and any texts.
-/

namespace FirstMatch.Arithmetic

/-- The exact result of an operation.  A quotient drops its fraction, and there is
none by zero. -/
def Operator.result? : Operator → (left right : Int) → Option Int
  | plus, a, b => some (a + b)
  | minus, a, b => some (a - b)
  | times, a, b => some (a * b)
  | divide, a, b => if b = 0 then none else some (a.tdiv b)

def orDivisionByZero : Option Int → Except Fault Int
  | some n => .ok n
  | none => .error .divisionByZero

variable {ι : Type}

def Expression.value : Expression ι → Except Fault Int
  | number _ digits => (Numeral.read digits).mapError (.badNumber digits)
  | operation _ o left right => do
    let a ← left.value
    let b ← right.value
    orDivisionByZero (o.result? a b)

def Word.written (index : ι → Int) (spelling : ι → Operator → Text) :
    Word ι → Token
  | number label digits => ⟨index label, .arithmetic .number, digits⟩
  | operator label o => ⟨index label, .arithmetic o.kind, spelling label o⟩

inductive Word.Causes : Word ι → Fault → Prop
  | number (label : ι) {digits : Text} {why : Numeral.Fault}
      (hread : Numeral.read digits = .error why) :
      Causes (.number label digits) (.badNumber digits why)
  | division (label : ι) : Causes (.operator label .divide) .divisionByZero

/-! ## Operations -/

theorem quotient?_eq_tdiv (left right : Int) :
    quotient? left right =
      if right = 0 then none else some (left.tdiv right) := by
  unfold quotient?
  by_cases hzero : right = 0
  · simp [hzero]
  · simp only [hzero, if_false]
    cases left with
    | ofNat m =>
        cases right with
        | ofNat n =>
            have hm : ¬ (m : Int) < 0 := by omega
            have hn : ¬ (n : Int) < 0 := by omega
            simp [hm, hn, Int.tdiv]
        | negSucc n => simp [Int.tdiv]
    | negSucc m =>
        cases right with
        | ofNat n => simp [Int.tdiv]
        | negSucc n => simp [Int.tdiv]

theorem Operator.apply?_eq_result? (o : Operator) (left right : Int) :
    o.apply? left right = o.result? left right := by
  cases o with
  | plus => rfl
  | minus => rfl
  | times => rfl
  | divide => exact quotient?_eq_tdiv left right

theorem Operator.eq_divide_of_result?
    (o : Operator) {left right : Int} (h : o.result? left right = none) :
    o = .divide := by
  cases o with
  | divide => rfl
  | _ => simp [result?] at h

theorem Operator.kind_operator? (o : Operator) : o.kind.operator? = some o := by
  cases o <;> rfl

theorem Operator.kind_ne_number (o : Operator) : o.kind ≠ .number := by
  cases o <;> simp [kind]

/-! ## The stack machine -/

theorem evaluate_append (stack : List Int) (xs ys : List Token) :
    evaluate stack (xs ++ ys) =
      (evaluate stack xs).bind fun stack => evaluate stack ys := by
  induction xs generalizing stack with
  | nil => rfl
  | cons x xs ih =>
      simp only [List.cons_append, evaluate]
      cases evaluateToken stack x with
      | error e => rfl
      | ok stack => exact ih stack

theorem evaluate_singleton (stack : List Int) (x : Token) :
    evaluate stack [x] = evaluateToken stack x := by
  unfold evaluate
  cases evaluateToken stack x <;> rfl

theorem Word.token_eq_written :
    Word.token = Word.written (fun i : Nat => (i : Int)) fun _ o => #[o.sign] := by
  funext w
  cases w <;> rfl

variable (index : ι → Int) (spelling : ι → Operator → Text)

theorem evaluateToken_number (stack : List Int) (label : ι) (digits : Text) :
    evaluateToken stack (Word.written index spelling (.number label digits)) =
      ((Numeral.read digits).mapError (.badNumber digits)).map (· :: stack) := by
  simp only [evaluateToken, Word.written, Token.isA, beq_self_eq_true, if_true]
  cases Numeral.read digits <;> rfl

theorem evaluateToken_operator
    (stack : List Int) (label : ι) (o : Operator) (left right : Int) :
    evaluateToken (right :: left :: stack)
        (Word.written index spelling (.operator label o)) =
      (orDivisionByZero (o.result? left right)).map (· :: stack) := by
  have hnumber : ((Datum.arithmetic o.kind) == .arithmetic .number) = false := by
    simpa using o.kind_ne_number
  simp only [evaluateToken, Word.written, Token.isA, hnumber, operate,
    Token.operator?, o.kind_operator?, o.apply?_eq_result?]
  cases o.result? left right <;> rfl

/-- Evaluating the reverse Polish order of a tree puts its value on the stack, or
fails as the tree does. -/
theorem evaluate_postOrder (e : Expression ι) (stack : List Int) :
    evaluate stack (e.postOrder.map (Word.written index spelling)) =
      e.value.map (· :: stack) := by
  induction e generalizing stack with
  | number label digits =>
      simp only [Expression.postOrder, List.map_cons, List.map_nil,
        evaluate_singleton, evaluateToken_number, Expression.value]
  | operation label o left right ihLeft ihRight =>
      simp only [Expression.postOrder, List.map_append, List.map_cons,
        List.map_nil, evaluate_append, ihLeft, Expression.value]
      cases left.value with
      | error e => rfl
      | ok a =>
          simp only [Except.map, Except.bind, ihRight]
          cases right.value with
          | error e => rfl
          | ok b =>
              simp only [evaluate_singleton, evaluateToken_operator]
              rfl

theorem calculate_written (e : Expression ι) :
    calculate (e.postOrder.map (Word.written index spelling)) = e.value := by
  unfold calculate
  rw [evaluate_postOrder]
  cases e.value <;> rfl

theorem Expression.exists_causes
    {e : Expression ι} {fault : Fault} (h : e.value = .error fault) :
    ∃ w ∈ e.postOrder, w.Causes fault := by
  induction e with
  | number label digits =>
      simp only [value] at h
      cases hread : Numeral.read digits with
      | ok n => simp [hread, Except.mapError] at h
      | error why =>
          simp only [hread, Except.mapError, Except.error.injEq] at h
          subst h
          exact ⟨_, List.mem_singleton_self _, .number label hread⟩
  | operation label o left right ihLeft ihRight =>
      simp only [value] at h
      cases hleft : left.value with
      | error f =>
          simp only [hleft, bind, Except.bind, Except.error.injEq] at h
          subst h
          obtain ⟨w, hmem, hcauses⟩ := ihLeft hleft
          exact ⟨w, by simp [postOrder, hmem], hcauses⟩
      | ok a =>
          cases hright : right.value with
          | error f =>
              simp only [hleft, hright, bind, Except.bind, Except.error.injEq] at h
              subst h
              obtain ⟨w, hmem, hcauses⟩ := ihRight hright
              exact ⟨w, by simp [postOrder, hmem], hcauses⟩
          | ok b =>
              simp only [hleft, hright, bind, Except.bind] at h
              cases hresult : o.result? a b with
              | some n => simp [hresult, orDivisionByZero] at h
              | none =>
                  simp only [hresult, orDivisionByZero, Except.error.injEq] at h
                  subst h
                  have ho : o = .divide := o.eq_divide_of_result? hresult
                  subst ho
                  exact ⟨_, by simp [postOrder], .division label⟩

/-- Calculating the reverse Polish order of any tree has the outcome of evaluating the tree.  A
fault is that of a number of the tree which cannot be read, or a division by zero. -/
theorem calculate_postOrder (e : Expression ι) :
    calculate (e.postOrder.map (Word.written index spelling)) = e.value ∧
      ∀ fault,
        calculate (e.postOrder.map (Word.written index spelling)) =
          .error fault → ∃ w ∈ e.postOrder, w.Causes fault := by
  have hvalue := calculate_written index spelling e
  refine ⟨hvalue, ?_⟩
  intro fault hfault
  rw [hvalue] at hfault
  exact e.exists_causes hfault

theorem calculate_postOrder_first_fault :
    let bad : Expression Int := .number 9 #[120]
    let quotient : Expression Int :=
      .operation 7 .divide (.number 0 #[55]) (.number (-3) #[48])
    let write : Word Int → Token := Word.written id fun _ _ => #[63]
    calculate ((Expression.operation 1 .minus quotient bad).postOrder.map write) =
        .error .divisionByZero ∧
      calculate ((Expression.operation 1 .minus bad quotient).postOrder.map write) =
        .error (.badNumber #[120] .malformed) ∧
      ∃ w ∈ (Expression.operation 1 .minus bad quotient).postOrder,
        w.Causes (.badNumber #[120] .malformed) := by
  intro bad quotient write
  have hleft : (Expression.operation 1 .minus quotient bad).value =
      .error .divisionByZero := by
    rfl
  have hright : (Expression.operation 1 .minus bad quotient).value =
      .error (.badNumber #[120] .malformed) := by
    rfl
  have hfirst := calculate_postOrder id (fun _ _ => #[63])
    (Expression.operation 1 .minus quotient bad)
  have hsecond := calculate_postOrder id (fun _ _ => #[63])
    (Expression.operation 1 .minus bad quotient)
  have hfault := hsecond.1.trans hright
  exact ⟨hfirst.1.trans hleft, hfault, hsecond.2 _ hfault⟩

end FirstMatch.Arithmetic
