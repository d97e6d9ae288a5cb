import FirstMatch.Proofs.Arithmetic.Evaluation

/-!
# The first fault of a token list

What the machine has on its stack is a forest: every number is a tree, and an operator
joins the last two trees.  The trees in order, each in reverse Polish order, are the tokens
so far.  So the height of the stack is a matter of counting, and the operands of an
operator are the values of trees.
-/

namespace FirstMatch.Arithmetic

/-- How many more numbers there are than other tokens. -/
def surplus (tokens : List Token) : Int :=
  (tokens.countP (·.isA .number) : Int) - tokens.countP fun t => !t.isA .number

def word? (t : Token) : Option (Word Token) :=
  if t.isA .number then some (.number t t.value) else t.operator?.map (.operator t)

/-- The trees that the tokens make up, the last one first. -/
def forest (tokens : List Token) : List (Expression Token) :=
  (tokens.filterMap word?).foldl rebuild []

inductive Faulty (before : List Token) (t : Token) : Fault → Prop
  | badNumber {why : Numeral.Fault} (hnumber : t.isA .number = true)
      (hread : Numeral.read t.value = .error why) :
      Faulty before t (.badNumber t.value why)
  | missingOperands (hnumber : t.isA .number = false)
      (hfew : surplus before < 2) :
      Faulty before t (.missingOperands t.value t.index)
  | unknownOperator (hnumber : t.isA .number = false)
      (hoperands : 2 ≤ surplus before)
      (hkind : ∀ o : Operator, t.kind ≠ .arithmetic o.kind)
      (hlist : ∀ items, t.kind ≠ .list items) :
      Faulty before t (.unknownOperator t.kind)
  | unhashable {items : List Datum} (hoperands : 2 ≤ surplus before)
      (hlist : t.kind = .list items) :
      Faulty before t .unhashable
  | divisionByZero {right : Expression Token}
      (hkind : t.kind = .arithmetic Operator.divide.kind)
      (hoperands : 2 ≤ surplus before)
      (hright : (forest before).head? = some right)
      (hzero : right.value = .ok 0) :
      Faulty before t .divisionByZero

def Faultless (tokens : List Token) : Prop :=
  ∀ before t after fault, tokens = before ++ t :: after → ¬ Faulty before t fault

structure Stacked (tokens : List Token) (stack : List Int) : Prop where
  length_eq : (stack.length : Int) = surplus tokens
  values : List.Forall₂ (fun e n => Expression.value e = .ok n) (forest tokens) stack
  words : tokens.map word? =
    ((forest tokens).reverse.flatMap Expression.postOrder).map some

variable {before after tokens : List Token} {t : Token} {stack : List Int}

/-! ## One more token -/

theorem Operator.operator?_eq_some_iff {o : Operator} :
    t.operator? = some o ↔ t.kind = .arithmetic o.kind := by
  unfold Token.operator?
  cases t.kind with
  | arithmetic k => cases k <;> cases o <;> simp [Kind.operator?, kind]
  | _ => simp

theorem Operator.isA_number_of_kind {o : Operator}
    (h : t.kind = .arithmetic o.kind) : t.isA .number = false := by
  unfold Token.isA
  rw [h]
  simpa using o.kind_ne_number

theorem isA_number_of_list {items : List Datum} (h : t.kind = .list items) :
    t.isA .number = false := by
  unfold Token.isA
  rw [h]
  rfl

theorem surplus_concat_number (h : t.isA .number = true) :
    surplus (before ++ [t]) = surplus before + 1 := by
  simp only [surplus, List.countP_append, List.countP_singleton, h]
  simp
  omega

theorem surplus_concat_other (h : t.isA .number = false) :
    surplus (before ++ [t]) = surplus before - 1 := by
  simp only [surplus, List.countP_append, List.countP_singleton, h]
  simp
  omega

theorem forest_concat {w : Word Token} (h : word? t = some w)
    (before : List Token) :
    forest (before ++ [t]) = rebuild (forest before) w := by
  simp [forest, List.filterMap_append, h]

theorem word?_number (h : t.isA .number = true) :
    word? t = some (.number t t.value) := by
  simp [word?, h]

theorem word?_operator {o : Operator} (h : t.kind = .arithmetic o.kind) :
    word? t = some (.operator t o) := by
  simp [word?, Operator.isA_number_of_kind h, Operator.operator?_eq_some_iff.mpr h]

theorem evaluateToken_isA_number (h : t.isA .number = true) (stack : List Int) :
    evaluateToken stack t =
      ((Numeral.read t.value).mapError (.badNumber t.value)).map (· :: stack) := by
  simp only [evaluateToken, h, if_true]
  cases Numeral.read t.value <;> rfl

theorem evaluateToken_two (h : t.isA .number = false) (right left : Int)
    (stack : List Int) :
    evaluateToken (right :: left :: stack) t =
      (operate t left right).map (· :: stack) := by
  simp only [evaluateToken, h, Bool.false_eq_true, if_false]

theorem operate_of_kind {o : Operator} (h : t.kind = .arithmetic o.kind)
    (left right : Int) :
    operate t left right = orDivisionByZero (o.result? left right) := by
  simp only [operate, Operator.operator?_eq_some_iff.mpr h, o.apply?_eq_result?]
  cases o.result? left right <;> rfl

theorem operate_of_unknown (h : ∀ o : Operator, t.kind ≠ .arithmetic o.kind)
    (left right : Int) :
    operate t left right =
      if t.kind.hashable then .error (.unknownOperator t.kind)
      else .error .unhashable := by
  have hnone : t.operator? = none := by
    rw [Option.eq_none_iff_forall_ne_some]
    intro o ho
    exact h o (Operator.operator?_eq_some_iff.mp ho)
  simp only [operate, hnone]

namespace Stacked

theorem nil : Stacked [] [] :=
  ⟨rfl, .nil, rfl⟩

theorem concat_number (h : Stacked before stack) (hnumber : t.isA .number = true)
    {n : Int} (hread : Numeral.read t.value = .ok n) :
    Stacked (before ++ [t]) (n :: stack) := by
  have hword := word?_number hnumber
  have hforest := forest_concat hword before
  refine ⟨?_, ?_, ?_⟩
  · rw [surplus_concat_number hnumber, ← h.length_eq]
    rfl
  · rw [hforest]
    refine .cons ?_ h.values
    simp [Expression.value, hread, Except.mapError]
  · rw [hforest, List.map_append, h.words]
    simp [rebuild, Expression.postOrder, hword]

theorem concat_operator {right left n : Int}
    (h : Stacked before (right :: left :: stack)) {o : Operator}
    (hkind : t.kind = .arithmetic o.kind)
    (hresult : o.result? left right = some n) :
    Stacked (before ++ [t]) (n :: stack) := by
  have hword := word?_operator hkind
  have hforest := forest_concat hword before
  obtain ⟨hlength, hvalues, hwords⟩ := h
  generalize forest before = trees at hforest hvalues hwords
  obtain ⟨b, _, hb, hafter, rfl⟩ := List.forall₂_cons_right_iff.mp hvalues
  obtain ⟨a, rest, ha, hrest, rfl⟩ := List.forall₂_cons_right_iff.mp hafter
  refine ⟨?_, ?_, ?_⟩
  · rw [surplus_concat_other (Operator.isA_number_of_kind hkind), ← hlength]
    simp only [List.length_cons]
    omega
  · rw [hforest]
    refine .cons ?_ hrest
    simp only [Expression.value, ha, hb]
    exact congrArg orDivisionByZero hresult
  · rw [hforest, List.map_append, hwords]
    simp [rebuild, Expression.postOrder, hword]

theorem exists_operands (h : Stacked before stack) (hoperands : 2 ≤ surplus before) :
    ∃ right left rest, stack = right :: left :: rest := by
  have hlength := h.length_eq
  match stack with
  | [] =>
      simp only [List.length_nil] at hlength
      omega
  | [_] =>
      simp only [List.length_singleton] at hlength
      omega
  | right :: left :: rest => exact ⟨right, left, rest, rfl⟩

end Stacked

theorem Faulty.evaluateToken_eq {fault : Fault} (h : Faulty before t fault)
    (hstacked : Stacked before stack) :
    evaluateToken stack t = .error fault := by
  cases h with
  | badNumber hnumber hread =>
      rw [evaluateToken_isA_number hnumber, hread]
      rfl
  | missingOperands hnumber hfew =>
      have hlength := hstacked.length_eq
      match stack with
      | [] => simp [evaluateToken, hnumber]
      | [_] => simp [evaluateToken, hnumber]
      | _ :: _ :: rest =>
          simp only [List.length_cons] at hlength
          omega
  | unknownOperator hnumber hoperands hkind hlist =>
      obtain ⟨right, left, rest, rfl⟩ := hstacked.exists_operands hoperands
      have hhashable : t.kind.hashable = true := by
        cases hdatum : t.kind with
        | list items => exact absurd hdatum (hlist items)
        | _ => rfl
      rw [evaluateToken_two hnumber, operate_of_unknown hkind, if_pos hhashable]
      rfl
  | @unhashable items hoperands hlist =>
      obtain ⟨right, left, rest, rfl⟩ := hstacked.exists_operands hoperands
      have hkind : ∀ o : Operator, t.kind ≠ .arithmetic o.kind := by
        simp [hlist]
      rw [evaluateToken_two (isA_number_of_list hlist), operate_of_unknown hkind,
        hlist]
      rfl
  | @divisionByZero tree hkind hoperands hright hzero =>
      obtain ⟨right, left, rest, rfl⟩ := hstacked.exists_operands hoperands
      have hvalues := hstacked.values
      obtain ⟨e, _, he, _, hforest⟩ := List.forall₂_cons_right_iff.mp hvalues
      rw [hforest] at hright
      cases hright
      rw [hzero] at he
      cases he
      rw [evaluateToken_two (Operator.isA_number_of_kind hkind),
        operate_of_kind hkind]
      rfl

/-- The machine goes on to the stack for one token more, unless the token is
faulty. -/
theorem Stacked.step (h : Stacked before stack) (t : Token) :
    (∃ stack', evaluateToken stack t = .ok stack' ∧
        Stacked (before ++ [t]) stack') ∨
      ∃ fault, Faulty before t fault := by
  cases hnumber : t.isA .number with
  | true =>
      cases hread : Numeral.read t.value with
      | error why => exact .inr ⟨_, .badNumber hnumber hread⟩
      | ok n =>
          refine .inl ⟨n :: stack, ?_, h.concat_number hnumber hread⟩
          rw [evaluateToken_isA_number hnumber, hread]
          rfl
  | false =>
      by_cases hfew : surplus before < 2
      · exact .inr ⟨_, .missingOperands hnumber hfew⟩
      · have hoperands : 2 ≤ surplus before := by omega
        obtain ⟨right, left, rest, rfl⟩ := h.exists_operands hoperands
        by_cases hkind : ∃ o : Operator, t.kind = .arithmetic o.kind
        · obtain ⟨o, hkind⟩ := hkind
          cases hresult : o.result? left right with
          | some n =>
              refine .inl ⟨n :: rest, ?_, h.concat_operator hkind hresult⟩
              rw [evaluateToken_two hnumber, operate_of_kind hkind, hresult]
              rfl
          | none =>
              have ho := o.eq_divide_of_result? hresult
              subst ho
              have hzero : right = 0 := by
                simpa [Operator.result?] using hresult
              subst hzero
              obtain ⟨e, _, he, _, hforest⟩ :=
                List.forall₂_cons_right_iff.mp h.values
              refine .inr ⟨_, .divisionByZero hkind hoperands ?_ he⟩
              rw [hforest]
              rfl
        · have hunknown : ∀ o : Operator, t.kind ≠ .arithmetic o.kind := by
            simpa using hkind
          by_cases hlist : ∃ items, t.kind = .list items
          · obtain ⟨items, hlist⟩ := hlist
            exact .inr ⟨_, .unhashable hoperands hlist⟩
          · refine .inr ⟨_, .unknownOperator hnumber hoperands hunknown ?_⟩
            simpa using hlist

/-! ## All tokens -/

theorem Faultless.of_concat (h : Faultless (before ++ [t])) :
    Faultless before ∧ ∀ fault, ¬ Faulty before t fault := by
  constructor
  · intro front u back fault heq
    exact h front u (back ++ [t]) fault (by simp [heq])
  · intro fault
    exact h before t [] fault rfl

theorem Faultless.evaluate (h : Faultless tokens) :
    ∃ stack, evaluate [] tokens = .ok stack ∧ Stacked tokens stack := by
  induction tokens using List.reverseRecOn with
  | nil => exact ⟨[], rfl, .nil⟩
  | append_singleton before t ih =>
      obtain ⟨hbefore, ht⟩ := h.of_concat
      obtain ⟨stack, hevaluate, hstacked⟩ := ih hbefore
      rcases hstacked.step t with ⟨stack', htoken, hstacked'⟩ | ⟨fault, hfaulty⟩
      · refine ⟨stack', ?_, hstacked'⟩
        rw [evaluate_append, hevaluate, Except.bind, evaluate_singleton, htoken]
      · exact absurd hfaulty (ht fault)

theorem Faulty.evaluate_eq {fault : Fault} (h : Faulty before t fault)
    (hbefore : Faultless before) (after : List Token) :
    evaluate [] (before ++ t :: after) = .error fault := by
  obtain ⟨stack, hevaluate, hstacked⟩ := hbefore.evaluate
  rw [evaluate_append, hevaluate, Except.bind, Arithmetic.evaluate,
    h.evaluateToken_eq hstacked]

theorem exists_faulty_of_not_faultless (h : ¬ Faultless tokens) :
    ∃ before t after fault, tokens = before ++ t :: after ∧
      Faulty before t fault := by
  simpa only [Faultless, not_forall, not_not, exists_prop] using h

theorem exists_first_fault (h : ¬ Faultless tokens) :
    ∃ before t after fault, tokens = before ++ t :: after ∧
      Faultless before ∧ Faulty before t fault := by
  induction tokens using List.reverseRecOn with
  | nil =>
      obtain ⟨before, t, after, fault, hsplit, _⟩ := exists_faulty_of_not_faultless h
      simp at hsplit
  | append_singleton front u ih =>
      by_cases hfront : Faultless front
      · obtain ⟨before, t, after, fault, hsplit, hfaulty⟩ :=
          exists_faulty_of_not_faultless h
        rcases List.eq_nil_or_concat after with rfl | ⟨back, v, rfl⟩
        · obtain ⟨rfl, _⟩ := List.append_inj' hsplit rfl
          exact ⟨front, t, [], fault, hsplit, hfront, hfaulty⟩
        · -- a faulty token with another one behind it belongs to `front`
          rw [List.concat_eq_append, ← List.cons_append, ← List.append_assoc] at hsplit
          obtain ⟨hsplit, _⟩ := List.append_inj' hsplit rfl
          exact absurd hfaulty (hfront before t back fault hsplit)
      · obtain ⟨before, t, after, fault, rfl, hfirst⟩ := ih hfront
        exact ⟨before, t, after ++ [u], fault, by simp, hfirst⟩

theorem Stacked.of_evaluate (h : evaluate [] tokens = .ok stack) :
    Stacked tokens stack := by
  by_cases hfaultless : Faultless tokens
  · obtain ⟨stack', hevaluate, hstacked⟩ := hfaultless.evaluate
    rw [h] at hevaluate
    cases hevaluate
    exact hstacked
  · obtain ⟨before, t, after, fault, rfl, hbefore, hfaulty⟩ :=
      exists_first_fault hfaultless
    rw [hfaulty.evaluate_eq hbefore] at h
    cases h

theorem evaluate_eq_error_iff {fault : Fault} :
    evaluate [] tokens = .error fault ↔
      ∃ before t after, tokens = before ++ t :: after ∧
        Faultless before ∧ Faulty before t fault := by
  constructor
  · intro herror
    by_cases hfaultless : Faultless tokens
    · obtain ⟨stack, hevaluate, _⟩ := hfaultless.evaluate
      rw [hevaluate] at herror
      cases herror
    · obtain ⟨before, t, after, fault', rfl, hbefore, hfaulty⟩ :=
        exists_first_fault hfaultless
      rw [hfaulty.evaluate_eq hbefore] at herror
      cases herror
      exact ⟨before, t, after, rfl, hbefore, hfaulty⟩
  · rintro ⟨before, t, after, rfl, hbefore, hfaulty⟩
    exact hfaulty.evaluate_eq hbefore after

theorem calculate_eq_error_iff {fault : Fault} :
    calculate tokens = .error fault ↔ evaluate [] tokens = .error fault := by
  unfold calculate
  cases evaluate [] tokens <;> simp [Except.map]

theorem exists_evaluate_of_calculate {n : Int} (h : calculate tokens = .ok n) :
    ∃ values, evaluate [] tokens = .ok values ∧ values.head?.getD 0 = n := by
  unfold calculate at h
  cases hevaluate : evaluate [] tokens with
  | error fault =>
      rw [hevaluate] at h
      cases h
  | ok values =>
      rw [hevaluate] at h
      exact ⟨values, rfl, Except.ok.inj h⟩

theorem Stacked.ne_nil (h : Stacked tokens stack) (hne : tokens ≠ []) :
    ∃ n rest, stack = n :: rest := by
  cases stack with
  | cons n rest => exact ⟨n, rest, rfl⟩
  | nil =>
      have hwords := h.words
      rw [List.forall₂_nil_right_iff.mp h.values] at hwords
      exact absurd (List.map_eq_nil_iff.mp hwords) hne

end FirstMatch.Arithmetic
