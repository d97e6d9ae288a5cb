import FirstMatch.Error
import FirstMatch.Proofs.Arithmetic.FirstFault
import FirstMatch.Proofs.Arithmetic.Rendering
import FirstMatch.Proofs.Numeral

/-!
# Any text as an expression

The calculator takes any text.  All that reaches the stack are numbers in ASCII digits and
operators with their sign, so little can go wrong.  The tokens can be handed on one by one,
and the rest of the text is not looked at once there is a fault: the outcome is the same.
-/

namespace FirstMatch.Arithmetic

inductive Calculates :
    Cursor Refusal Bench → Bench → (waiting : List Token) → (stack : List Int) →
      Except Fault (List Int) → Prop
  | finished {c c' : Cursor Refusal Bench} {b b' : Bench} {waiting : List Token}
      {stack : List Int} (hstep : c.step b = (.ok none, c', b')) :
      Calculates c b waiting stack (evaluate stack waiting)
  | blank {c c' : Cursor Refusal Bench} {b b' : Bench} {waiting : List Token}
      {stack : List Int} {a : Token} {r : Except Fault (List Int)}
      (hstep : c.step b = (.ok (some a), c', b')) (hblank : a.isA .space = true)
      (hrest : Calculates c' b' waiting stack r) :
      Calculates c b waiting stack r
  | fault {c c' : Cursor Refusal Bench} {b b' : Bench} {waiting : List Token}
      {stack : List Int} {a : Token} {fault : Fault}
      (hstep : c.step b = (.ok (some a), c', b')) (hblank : a.isA .space = false)
      (hevaluate : evaluate stack (Yard.take ⟨[], waiting⟩ a).output.reverse =
        .error fault) :
      Calculates c b waiting stack (.error fault)
  | word {c c' : Cursor Refusal Bench} {b b' : Bench} {waiting : List Token}
      {stack stack' : List Int} {a : Token} {r : Except Fault (List Int)}
      (hstep : c.step b = (.ok (some a), c', b')) (hblank : a.isA .space = false)
      (hevaluate : evaluate stack (Yard.take ⟨[], waiting⟩ a).output.reverse =
        .ok stack')
      (hrest : Calculates c' b' (Yard.take ⟨[], waiting⟩ a).waiting stack' r) :
      Calculates c b waiting stack r

inductive Foreseen (t : Text) : Fault → Prop
  | missingOperands {i : Nat} (o : Operator) (hsign : t[i]? = some o.sign) :
      Foreseen t (.missingOperands #[o.sign] i)
  | divisionByZero : Foreseen t .divisionByZero
  | tooLong {i n : Nat} (hdigits : Digits (t.slice i (i + n)))
      (hsize : (t.slice i (i + n)).size = n) (hlong : Numeral.maxDigits < n) :
      Foreseen t (.badNumber (t.slice i (i + n)) (.tooLong n))

/-! ## Token by token -/

theorem finish_cons (waiting : List Token) (a : Token) (ts : List Token) :
    ((a :: ts).foldl Yard.take ⟨[], waiting⟩).finish =
      (Yard.take ⟨[], waiting⟩ a).output.reverse ++
        (ts.foldl Yard.take ⟨[], (Yard.take ⟨[], waiting⟩ a).waiting⟩).finish := by
  rw [List.foldl_cons]
  generalize Yard.take ⟨[], waiting⟩ a = y
  obtain ⟨output, waiting⟩ := y
  rw [Yard.foldl_take_output, Yard.finish_eq, Yard.finish_eq]
  simp

theorem Calculates.of_drains
    {c c' : Cursor Refusal Bench} {b b' : Bench} {tokens : List Token}
    (h : c.Drains b (.ok tokens) c' b') (waiting : List Token) (stack : List Int) :
    Calculates c b waiting stack
      (evaluate stack (((tokens.filter fun a => !a.isA .space).foldl Yard.take
        ⟨[], waiting⟩).finish)) := by
  induction tokens generalizing c b waiting stack with
  | nil =>
      have hfinish : Yard.finish ⟨[], waiting⟩ = waiting := Yard.finish_eq _
      rw [List.filter_nil, List.foldl_nil, hfinish]
      exact .finished h.step_of_nil
  | cons a tokens ih =>
      obtain ⟨c₁, b₁, hstep, hrest⟩ := h.step_of_cons
      cases hblank : a.isA .space with
      | true =>
          rw [List.filter_cons_of_neg (by simp [hblank])]
          exact .blank hstep hblank (ih hrest waiting stack)
      | false =>
          rw [List.filter_cons_of_pos (by simp [hblank]), finish_cons, evaluate_append]
          cases hevaluate :
              evaluate stack (Yard.take ⟨[], waiting⟩ a).output.reverse with
          | error fault => exact .fault hstep hblank hevaluate
          | ok stack' => exact .word hstep hblank hevaluate (ih hrest _ stack')

theorem Calculates.unique
    {c : Cursor Refusal Bench} {b : Bench} {waiting : List Token} {stack : List Int}
    {r r' : Except Fault (List Int)} (h : Calculates c b waiting stack r)
    (h' : Calculates c b waiting stack r') :
    r = r' := by
  induction h generalizing r' with
  | finished hstep => cases h' <;> simp_all
  | blank hstep hblank _ ih =>
      cases h' with
      | finished hstep' => simp [hstep] at hstep'
      | blank hstep' _ hrest' =>
          rw [hstep] at hstep'
          cases hstep'
          exact ih hrest'
      | fault hstep' hblank' => simp_all
      | word hstep' hblank' => simp_all
  | fault hstep hblank hevaluate =>
      cases h' with
      | finished hstep' => simp [hstep] at hstep'
      | blank hstep' hblank' => simp_all
      | fault hstep' _ hevaluate' => simp_all
      | word hstep' _ hevaluate' => simp_all
  | word hstep hblank hevaluate _ ih =>
      cases h' with
      | finished hstep' => simp [hstep] at hstep'
      | blank hstep' hblank' => simp_all
      | fault hstep' _ hevaluate' => simp_all
      | word hstep' _ hevaluate' hrest' =>
          rw [hstep] at hstep'
          cases hstep'
          rw [hevaluate] at hevaluate'
          cases hevaluate'
          exact ih hrest'

/-! ## The words of any text -/

theorem Operator.front_kind (o : Operator) (rest : List Nat) :
    o.kind.front (o.sign :: rest) = [o.sign] := by
  have haccepts : o.kind.accepts o.sign = true := by
    rw [Kind.accepts_operator]
    exact decide_eq_true rfl
  have hrepeats : o.kind.repeats = false := by cases o <;> rfl
  simp [Kind.front_cons, haccepts, hrepeats]

theorem exists_word_of_accepts
    {k : Kind} {c : Nat} (hc : k.accepts c = true) (hk : k ≠ .space)
    (i : Nat) (rest : List Nat) :
    ∃ w : Word Nat, w.WellFormed ∧
      w.token = ⟨i, .arithmetic k, (k.front (c :: rest)).toArray⟩ := by
  cases k using Kind.cases_operator with
  | space => exact absurd rfl hk
  | number =>
      have hfront : Kind.number.front (c :: rest) ≠ [] := by
        simp [Kind.front_cons, hc]
      exact ⟨.number i _, digits_front hfront, rfl⟩
  | operator o =>
      rw [Kind.accepts_operator, decide_eq_true_eq] at hc
      subst hc
      rw [o.front_kind]
      exact ⟨.operator i o, trivial, rfl⟩

theorem exists_word_of_mem_lex
    {i : Nat} {l : List Nat} {a : Token} (ha : a ∈ lex i l)
    (hspace : a.isA .space = false) :
    ∃ w : Word Nat, w.WellFormed ∧ w.token = a := by
  fun_induction lex i l with
  | case1 => cases ha
  | case2 => cases ha
  | case3 i c rest k hk front ih =>
      rcases List.mem_cons.mp ha with rfl | ha
      · have hne : k ≠ .space := by
          rintro rfl
          simp [Token.isA] at hspace
        exact exists_word_of_accepts (Kind.of?_eq_some_iff.mp hk) hne i rest
      · exact ih ha

theorem exists_words (t : Text) :
    ∃ ws : List (Word Nat), (∀ w ∈ ws, w.WellFormed) ∧
      ws.map Word.token = words 0 t.toList := by
  have hall : ∀ a ∈ words 0 t.toList, ∃ w : Word Nat, w.WellFormed ∧ w.token = a := by
    intro a ha
    obtain ⟨hmem, hspace⟩ := List.mem_filter.mp ha
    exact exists_word_of_mem_lex hmem (by simpa using hspace)
  generalize words 0 t.toList = ts at hall
  induction ts with
  | nil => exact ⟨[], by simp, rfl⟩
  | cons a ts ih =>
      obtain ⟨w, hw, rfl⟩ := hall a List.mem_cons_self
      obtain ⟨ws, hws, rfl⟩ := ih fun b hb => hall b (List.mem_cons_of_mem _ hb)
      exact ⟨w :: ws, List.forall_mem_cons.mpr ⟨hw, hws⟩, rfl⟩

theorem exists_word_of_mem_parse {t : Text} {a : Token} (ha : a ∈ parse t) :
    ∃ w : Word Nat, w.WellFormed ∧ w.token = a := by
  obtain ⟨ws, hws, hwords⟩ := exists_words t
  rw [parse_eq_rearrange_words, ← hwords] at ha
  obtain ⟨w, hw, rfl⟩ := List.mem_map.mp ((rearrange_perm _).mem_iff.mp ha)
  exact ⟨w, hws w hw, rfl⟩

theorem Word.isA_number_token (w : Word Nat) :
    w.token.isA .number = true ∨ ∃ o : Operator, w.token.kind = .arithmetic o.kind := by
  cases w with
  | number label digits => exact .inl rfl
  | operator label o => exact .inr ⟨o, rfl⟩

/-! ## What can go wrong -/

theorem getElem?_of_slice {t : Text} {i c : Nat} (h : #[c] = t.slice i (i + 1)) :
    t[i]? = some c := by
  have hlist := congrArg Array.toList h
  rw [t.toList_slice] at hlist
  rw [← t.head?_drop]
  cases hdrop : t.toList.drop i with
  | nil => simp [hdrop] at hlist
  | cons d rest =>
      rw [hdrop] at hlist
      cases hlist
      rfl

theorem Faulty.foreseen {t : Text} {before : List Token} {a : Token} {fault : Fault}
    (h : Faulty before a fault) (ha : a ∈ parse t) :
    Foreseen t fault := by
  obtain ⟨i, hindex, hvalue⟩ := parse_value_eq t a ha
  obtain ⟨w, hw, rfl⟩ := exists_word_of_mem_parse ha
  cases w with
  | number label digits =>
      have hnumber : (Word.number label digits).token.isA .number = true := rfl
      cases h with
      | badNumber _ hread =>
          have hlong := Foreseen.tooLong (t := t) (i := i) (n := digits.size)
          rw [show t.slice i (i + digits.size) = digits from hvalue.symm] at hlong
          change Numeral.read digits = _ at hread
          rw [Numeral.read_digits hw.1 hw.2] at hread
          split at hread
          next => cases hread
          next hsize =>
            cases hread
            exact hlong hw rfl (by omega)
      | missingOperands hother => simp [hnumber] at hother
      | unknownOperator hother => simp [hnumber] at hother
      | unhashable _ hlist => cases hlist
      | divisionByZero => exact .divisionByZero
  | operator label o =>
      have hother : (Word.operator label o).token.isA .number = false :=
        Operator.isA_number_of_kind rfl
      cases h with
      | badNumber hnumber => simp [hother] at hnumber
      | missingOperands =>
          have hsign : t[i]? = some o.sign := getElem?_of_slice hvalue
          rw [hindex]
          exact .missingOperands o hsign
      | unknownOperator _ _ hkind => exact absurd rfl (hkind o)
      | unhashable _ hlist => cases hlist
      | divisionByZero => exact .divisionByZero

/-- Where numbers and operators alternate, the value is that of a tree. -/
theorem exists_value_eq {t : Text} {operators : List Operator}
    (hshape : (words 0 t.toList).map (·.kind) =
      (alternation operators).map .arithmetic) :
    ∃ e : Expression Nat, calculateExpression t = e.value := by
  obtain ⟨ws, hws, hwords⟩ := exists_words t
  have hkinds : ws.map Word.kind = alternation operators := by
    apply List.map_injective_iff.mpr fun _ _ => Datum.arithmetic.inj
    rw [← hshape, ← hwords, List.map_map, List.map_map]
    rfl
  obtain ⟨e, hcanonical, rfl⟩ := Expression.exists_canonical hkinds hws
  refine ⟨e, ?_⟩
  unfold calculateExpression
  rw [parse_eq_rearrange_words, ← hwords, hcanonical.rearrange_inOrder,
    Word.token_eq_written]
  exact calculate_written _ _ e

theorem countP_filter_space {tokens : List Token}
    (hkinds : ∀ a ∈ tokens, ∃ kind : Kind, a.kind = .arithmetic kind) :
    (tokens.filter fun a => !a.isA .space).countP (·.isA .number) =
        tokens.countP (·.isA .number) ∧
      ((tokens.filter fun a => !a.isA .space).countP fun a => !a.isA .number) =
        tokens.countP (·.operator?.isSome) := by
  rw [List.countP_filter, List.countP_filter]
  constructor
  · apply List.countP_congr
    intro a ha
    obtain ⟨kind, hkind⟩ := hkinds a ha
    unfold Token.isA
    rw [hkind]
    cases kind <;> simp
  · apply List.countP_congr
    intro a ha
    obtain ⟨kind, hkind⟩ := hkinds a ha
    unfold Token.isA Token.operator?
    rw [hkind]
    cases kind <;> simp [Kind.operator?]

theorem countP_parse (t : Text) :
    (parse t).countP (·.isA .number) = (scan t).countP (·.isA .number) ∧
      ((parse t).countP fun a => !a.isA .number) =
        (scan t).countP (·.operator?.isSome) := by
  have hperm : (parse t).Perm ((scan t).filter fun a => !a.isA .space) :=
    rearrange_perm _
  rw [hperm.countP_eq, hperm.countP_eq]
  exact countP_filter_space (scan_spec t).2.2

theorem exists_error_of_surplus_le {tokens : List Token} (hne : tokens ≠ [])
    (hsurplus : surplus tokens ≤ 0) :
    ∃ fault, calculate tokens = .error fault := by
  cases hevaluate : evaluate [] tokens with
  | error fault => exact ⟨fault, calculate_eq_error_iff.mpr hevaluate⟩
  | ok stack =>
      have hstacked := Stacked.of_evaluate hevaluate
      obtain ⟨n, rest, rfl⟩ := hstacked.ne_nil hne
      have hlength := hstacked.length_eq
      simp only [List.length_cons] at hlength
      omega

theorem parseAtMost_some (limit : Option Nat) (t : Text) :
    parseAtMost limit (some t) =
      .ok ((limit.map (parse t).take).getD (parse t)) := by
  have hdefinitions : definitions ≠ [] := by
    rw [definitions_eq]
    simp [Kind.all]
  unfold parseAtMost
  split
  next hlimit => simp [hlimit]
  next =>
    rw [Scanner.build_ofDefinitions hdefinitions]
    rfl

theorem calculates_iff (t : Text) (r : Except Fault (List Int)) :
    Calculates (Scanner.mk definitions t).cursor .empty [] [] r ↔
      r = evaluate [] (parse t) := by
  obtain ⟨⟨c, b, htokens⟩, _⟩ := scan_spec t
  have hdrains := (Scanner.mk definitions t).tokens_drains .empty
  rw [htokens] at hdrains
  have hcalculates : Calculates _ _ [] [] (evaluate [] (parse t)) :=
    .of_drains hdrains [] []
  constructor
  · intro h
    exact h.unique hcalculates
  · intro hr
    rw [hr]
    exact hcalculates

/-- Calculating as the tokens come has the outcome of calculating with all of them.  That is a
number, or one of three faults: an operator of the text lacks operands, there is a division by
zero, or a number has too many digits.  Operands are there if numbers and operators alternate,
and not if there are operators and no more numbers than operators. -/
theorem calculate_any_expression (t : Text) :
    ((∃ c b, (Scanner.mk definitions t).tokens .empty = (.ok (scan t), c, b)) ∧
      (∀ limit, parseAtMost limit (some t) =
        .ok ((limit.map (parse t).take).getD (parse t))) ∧
      ∀ a ∈ parse t, a.isA .number = true ∨
        ∃ o : Operator, a.kind = .arithmetic o.kind) ∧
    ((∀ r, Calculates (Scanner.mk definitions t).cursor .empty [] [] r ↔
        r = evaluate [] (parse t)) ∧
      calculateDatum (.text t) = (calculate (parse t)).mapError .arithmetic) ∧
    (∀ fault, calculateExpression t = .error fault → Foreseen t fault) ∧
    (∀ operators,
      ((scan t).filter fun a => !a.isA .space).map (·.kind) =
        (alternation operators).map .arithmetic →
      ∀ value index,
        calculateExpression t ≠ .error (.missingOperands value index)) ∧
    (0 < (scan t).countP (·.operator?.isSome) →
      (scan t).countP (·.isA .number) ≤ (scan t).countP (·.operator?.isSome) →
      ∃ fault, calculateExpression t = .error fault) := by
  refine ⟨⟨(scan_spec t).1, fun limit => parseAtMost_some limit t, ?_⟩,
    ⟨calculates_iff t, rfl⟩, ?_, ?_, ?_⟩
  · intro a ha
    obtain ⟨w, _, rfl⟩ := exists_word_of_mem_parse ha
    exact w.isA_number_token
  · intro fault herror
    obtain ⟨before, a, after, hparse, _, hfaulty⟩ :=
      evaluate_eq_error_iff.mp (calculate_eq_error_iff.mp herror)
    exact hfaulty.foreseen (by simp [hparse])
  · intro operators hshape value index herror
    rw [scan_filter_eq_words] at hshape
    obtain ⟨e, hvalue⟩ := exists_value_eq hshape
    rw [hvalue] at herror
    obtain ⟨w, _, hcauses⟩ := e.exists_causes herror
    cases hcauses
  · intro hoperators hcount
    obtain ⟨hnumbers, hothers⟩ := countP_parse t
    rw [← hothers] at hoperators
    obtain ⟨a, ha, _⟩ := List.countP_pos_iff.mp hoperators
    apply exists_error_of_surplus_le (List.ne_nil_of_mem ha)
    unfold surplus
    omega

/-- In `2 +/ 3x4` the plus sign lacks an operand, after the quotient of 2 and 3 was
found.  The part of `7 -2x` in front of the letter is well-formed. -/
theorem calculate_any_expression_stray :
    let t := text "2 +/ 3x4"
    let u := text "7 -2x"
    0 < (scan t).countP (·.operator?.isSome) ∧
    (scan t).countP (·.isA .number) ≤ (scan t).countP (·.operator?.isSome) ∧
    (∃ fault, calculateExpression t = .error fault) ∧
    calculateExpression t = .error (.missingOperands #[43] 2) ∧
    Foreseen t (.missingOperands #[43] 2) ∧
    ((scan u).filter fun a => !a.isA .space).map (·.kind) =
      (alternation [.minus]).map .arithmetic ∧
    ∀ value index, calculateExpression u ≠ .error (.missingOperands value index) := by
  intro t u
  have hoperators : 0 < (scan t).countP (·.operator?.isSome) := by
    decide +kernel
  have hcount : (scan t).countP (·.isA .number) ≤
      (scan t).countP (·.operator?.isSome) := by
    decide +kernel
  have hfault : calculateExpression t = .error (.missingOperands #[43] 2) := by
    decide +kernel
  have hshape : ((scan u).filter fun a => !a.isA .space).map (·.kind) =
      (alternation [.minus]).map .arithmetic := by
    decide +kernel
  obtain ⟨_, _, hforeseen, _, herror⟩ := calculate_any_expression t
  obtain ⟨_, _, _, hoperands, _⟩ := calculate_any_expression u
  exact ⟨hoperators, hcount, herror hoperators hcount, hfault, hforeseen _ hfault,
    hshape, hoperands _ hshape⟩

end FirstMatch.Arithmetic
