import FirstMatch.Proofs.Arithmetic.Evaluation
import FirstMatch.Proofs.Arithmetic.Rendering
import FirstMatch.Proofs.Numeral

/-!
# Conventional arithmetic

Conventional arithmetic knows two levels, terms and sums of terms.  The calculator has four,
so it groups differently: `1 + 2 - 3` is `1 + (2 - 3)`.  As long as no division follows a
multiplication in the same term, this does not show.  At the root of a canonical tree, a
minus sign has a single term on its right, and a multiplication or division a single
number.
-/

namespace FirstMatch.Arithmetic

def Operator.isMultiplicative : Operator → Bool
  | times | divide => true
  | plus | minus => false

structure Term where
  first : Int
  factors : List (Operator × Int)

structure Terms where
  first : Term
  addends : List (Operator × Term)

def Term.value? (x : Term) : Option Int :=
  x.factors.foldlM (fun n factor => factor.1.result? n factor.2) x.first

namespace Terms

def add? (n : Int) (addend : Operator × Term) : Option Int := do
  let m ← addend.2.value?
  addend.1.result? n m

def value? (x : Terms) : Option Int := do
  let n ← x.first.value?
  x.addends.foldlM add? n

def split (first : Int) : List (Operator × Int) → Terms
  | [] => ⟨⟨first, []⟩, []⟩
  | (o, n) :: rest =>
    let terms := split n rest
    if o.isMultiplicative then
      ⟨⟨first, (o, n) :: terms.first.factors⟩, terms.addends⟩
    else ⟨⟨first, []⟩, (o, terms.first) :: terms.addends⟩

end Terms

/-- The value that conventional arithmetic gives to numbers with operators between
them. -/
def conventional? : (numbers : List Int) → (operators : List Operator) → Option Int
  | [], _ => some 0
  | first :: others, operators => (Terms.split first (operators.zip others)).value?

/-- No division follows a multiplication before the term ends. -/
def DivisionsFirst : List Operator → Prop
  | [] => True
  | o :: rest =>
    (o = .times → .divide ∉ rest.takeWhile Operator.isMultiplicative) ∧
      DivisionsFirst rest

instance DivisionsFirst.decidable :
    (operators : List Operator) → Decidable (DivisionsFirst operators)
  | [] => isTrue trivial
  | o :: rest =>
    have := decidable rest
    inferInstanceAs (Decidable
      ((o = .times → .divide ∉ rest.takeWhile Operator.isMultiplicative) ∧
        DivisionsFirst rest))

def numbers (t : Text) : List Int :=
  ((scan t).filter (·.isA .number)).map fun a => Numeral.ofDigits a.value

/-! ## Splitting into terms -/

namespace Terms

variable {xs ys : List (Operator × Int)} {o : Operator}

theorem split_of_multiplicative (first : Int)
    (hxs : ∀ x ∈ xs, x.1.isMultiplicative = true) :
    split first xs = ⟨⟨first, xs⟩, []⟩ := by
  induction xs generalizing first with
  | nil => rfl
  | cons x xs ih =>
      have hx := hxs x List.mem_cons_self
      have hrest := ih x.2 fun y hy => hxs y (List.mem_cons_of_mem x hy)
      simp [split, hx, hrest]

theorem split_append (ho : o.isMultiplicative = false) (first n : Int)
    (xs ys : List (Operator × Int)) :
    split first (xs ++ (o, n) :: ys) =
      ⟨(split first xs).first,
        (split first xs).addends ++
          (o, (split n ys).first) :: (split n ys).addends⟩ := by
  induction xs generalizing first with
  | nil => simp [split, ho]
  | cons x xs ih =>
      by_cases hx : x.1.isMultiplicative = true
      · simp [split, hx, ih x.2]
      · simp [split, hx, ih x.2]

theorem addends_split (first : Int) (xs : List (Operator × Int)) :
    ∀ a ∈ (split first xs).addends, a.1.isMultiplicative = false := by
  induction xs generalizing first with
  | nil => simp [split]
  | cons x xs ih =>
      by_cases hx : x.1.isMultiplicative = true
      · simpa [split, hx] using ih x.2
      · simpa [split, hx] using ih x.2

theorem foldlM_add? {addends : List (Operator × Term)}
    (haddends : ∀ a ∈ addends, a.1.isMultiplicative = false) (k n : Int) :
    addends.foldlM add? (k + n) = (addends.foldlM add? n).map (k + ·) := by
  induction addends generalizing n with
  | nil => rfl
  | cons a addends ih =>
      have ha := haddends a List.mem_cons_self
      have ih := ih fun b hb => haddends b (List.mem_cons_of_mem a hb)
      obtain ⟨o, x⟩ := a
      simp only [List.foldlM_cons, add?]
      cases x.value? with
      | none => rfl
      | some m =>
          cases o with
          | plus => simpa [Operator.result?, Int.add_assoc] using ih (n + m)
          | minus => simpa [Operator.result?, Int.add_sub_assoc] using ih (n - m)
          | times => simp [Operator.isMultiplicative] at ha
          | divide => simp [Operator.isMultiplicative] at ha

theorem value?_plus (first n : Int) (xs ys : List (Operator × Int)) :
    (split first (xs ++ (.plus, n) :: ys)).value? =
      (split first xs).value?.bind fun a =>
        (split n ys).value?.bind fun b => Operator.plus.result? a b := by
  have hadd := foldlM_add? (addends_split n ys)
  rw [split_append rfl]
  simp only [value?, List.foldlM_append, List.foldlM_cons, add?, Operator.result?]
  cases (split first xs).first.value? with
  | none => rfl
  | some a =>
      simp only [Option.bind_eq_bind, Option.bind_some]
      cases (split first xs).addends.foldlM add? a with
      | none => rfl
      | some k =>
          cases (split n ys).first.value? with
          | none => rfl
          | some b =>
              simp only [Option.bind_some, hadd k b]
              cases (split n ys).addends.foldlM add? b <;> rfl

theorem value?_additive (ho : o.isMultiplicative = false)
    (hys : ∀ y ∈ ys, y.1.isMultiplicative = true)
    (first n : Int) (xs : List (Operator × Int)) :
    (split first (xs ++ (o, n) :: ys)).value? =
      (split first xs).value?.bind fun a =>
        (split n ys).value?.bind fun b => o.result? a b := by
  rw [split_append ho, split_of_multiplicative n hys]
  simp only [value?, List.foldlM_append, List.foldlM_cons, List.foldlM_nil, add?]
  cases (split first xs).first.value? with
  | none => rfl
  | some a => simp

theorem value?_multiplicative (ho : o.isMultiplicative = true)
    (hxs : ∀ x ∈ xs, x.1.isMultiplicative = true) (first n : Int) :
    (split first (xs ++ [(o, n)])).value? =
      (split first xs).value?.bind fun a => o.result? a n := by
  have hall : ∀ x ∈ xs ++ [(o, n)], x.1.isMultiplicative = true := by
    intro x hx
    rcases List.mem_append.mp hx with hmem | hmem
    · exact hxs x hmem
    · rw [List.mem_singleton.mp hmem]
      exact ho
  rw [split_of_multiplicative first hall, split_of_multiplicative first hxs]
  simp [value?, Term.value?]

end Terms

/-! ## Trees and their terms -/

theorem Operator.isMultiplicative_iff (o : Operator) :
    o.isMultiplicative = true ↔ 2 < o.precedence := by
  cases o <;> simp [isMultiplicative, precedence]

theorem DivisionsFirst.of_append_left
    {xs ys : List Operator} (h : DivisionsFirst (xs ++ ys)) :
    DivisionsFirst xs := by
  induction xs with
  | nil => trivial
  | cons o xs ih =>
      rw [List.cons_append] at h
      refine ⟨?_, ih h.2⟩
      intro ho hmem
      apply h.1 ho
      rw [List.takeWhile_append]
      split
      next =>
        have hxs := (List.takeWhile_sublist _).subset hmem
        exact List.mem_append_left _ hxs
      next => exact hmem

theorem DivisionsFirst.of_append_right
    {xs ys : List Operator} (h : DivisionsFirst (xs ++ ys)) :
    DivisionsFirst ys := by
  induction xs with
  | nil => exact h
  | cons o xs ih => exact ih h.2

namespace Expression

variable {ι : Type} {e : Expression ι}

def first : Expression ι → Int
  | number _ digits => Numeral.ofDigits digits
  | operation _ _ left _ => left.first

def rest : Expression ι → List (Operator × Int)
  | number _ _ => []
  | operation _ o left right => left.rest ++ (o, right.first) :: right.rest

/-- The value of a tree whose numbers are written with ASCII digits, unless it
divides by zero. -/
def result? : Expression ι → Option Int
  | number _ digits => some (Numeral.ofDigits digits)
  | operation _ o left right =>
    left.result?.bind fun a => right.result?.bind fun b => o.result? a b

theorem mem_inOrder_of_mem_rest
    {x : Operator × Int} (hx : x ∈ e.rest) :
    ∃ label, .operator label x.1 ∈ e.inOrder := by
  induction e with
  | number label digits => simp [rest] at hx
  | operation label o left right ihLeft ihRight =>
      simp only [rest, List.mem_append, List.mem_cons] at hx
      rcases hx with hleft | heq | hright
      · obtain ⟨label', hmem⟩ := ihLeft hleft
        exact ⟨label', by simp [inOrder, hmem]⟩
      · subst heq
        exact ⟨label, by simp [inOrder]⟩
      · obtain ⟨label', hmem⟩ := ihRight hright
        exact ⟨label', by simp [inOrder, hmem]⟩

theorem Canonical.le_rest
    (he : e.Canonical) {n : Nat} (hroot : ∀ p ∈ e.root?, n ≤ p.precedence) :
    ∀ x ∈ e.rest, n ≤ x.1.precedence := by
  intro x hx
  obtain ⟨label, hmem⟩ := mem_inOrder_of_mem_rest hx
  exact he.le_precedence hroot label x.1 hmem

theorem result?_of_rest_eq_nil (h : e.rest = []) : e.result? = some e.first := by
  cases e with
  | number label digits => rfl
  | operation label o left right => simp [rest] at h

theorem Canonical.rest_eq_nil
    {right : Expression ι} (hcanonical : right.Canonical) {o : Operator}
    (ho : o.isMultiplicative = true)
    (hright : ∀ p ∈ right.root?, o.precedence < p.precedence)
    (before : List Operator)
    (hdivisions : DivisionsFirst (before ++ o :: right.rest.map Prod.fst)) :
    right.rest = [] := by
  have htighter := hcanonical.le_rest hright
  cases hrest : right.rest with
  | nil => rfl
  | cons x tail =>
      have hx := htighter x (by simp [hrest])
      -- only a division can follow, and only behind a multiplication
      cases o with
      | plus => simp [Operator.isMultiplicative] at ho
      | minus => simp [Operator.isMultiplicative] at ho
      | divide =>
          cases hop : x.1 <;> simp [hop, Operator.precedence] at hx
      | times =>
          have hdivide : x.1 = .divide := by
            cases hop : x.1 <;> simp [hop, Operator.precedence] at hx ⊢
          have hnot := hdivisions.of_append_right.1 rfl
          simp [hrest, hdivide, List.takeWhile_cons, Operator.isMultiplicative] at hnot

/-- Grouping by four levels and grouping by two give the same value. -/
theorem Canonical.result?_eq_split
    (he : e.Canonical) (hdivisions : DivisionsFirst (e.rest.map Prod.fst)) :
    e.result? = (Terms.split e.first e.rest).value? := by
  induction e with
  | number label digits => rfl
  | operation label o left right ihLeft ihRight =>
      obtain ⟨hleft, hright, hcanonicalLeft, hcanonicalRight⟩ := he
      simp only [rest, List.map_append, List.map_cons] at hdivisions
      have hdivisionsRight : DivisionsFirst (right.rest.map Prod.fst) :=
        hdivisions.of_append_right.2
      have ihLeft := ihLeft hcanonicalLeft hdivisions.of_append_left
      have ihRight := ihRight hcanonicalRight hdivisionsRight
      have hleftOperators := hcanonicalLeft.le_rest hleft
      have hrightOperators := hcanonicalRight.le_rest hright
      simp only [result?, first, rest]
      by_cases ho : o.isMultiplicative = true
      · have hterm : ∀ x ∈ left.rest, x.1.isMultiplicative = true := by
          intro x hx
          have hle := hleftOperators x hx
          rw [Operator.isMultiplicative_iff] at ho ⊢
          omega
        have hnumber : right.rest = [] :=
          hcanonicalRight.rest_eq_nil ho hright _ hdivisions
        rw [hnumber, Terms.value?_multiplicative ho hterm, ← ihLeft,
          result?_of_rest_eq_nil hnumber]
        rfl
      · have ho : o.isMultiplicative = false := by simpa using ho
        by_cases hplus : o = .plus
        · subst hplus
          rw [Terms.value?_plus, ← ihLeft, ← ihRight]
        · have hterm : ∀ x ∈ right.rest, x.1.isMultiplicative = true := by
            intro x hx
            have hlt := hrightOperators x hx
            rw [Operator.isMultiplicative_iff]
            cases o with
            | plus => exact absurd rfl hplus
            | minus => exact hlt
            | times => simp [Operator.isMultiplicative] at ho
            | divide => simp [Operator.isMultiplicative] at ho
          rw [Terms.value?_additive ho hterm, ← ihLeft, ← ihRight]

/-! ## Reading the numbers -/

theorem Canonical.digits_of_mem
    (he : e.Canonical) {label : ι} {digits : Text}
    (hmem : .number label digits ∈ e.inOrder) :
    Digits digits := by
  induction e with
  | number label' digits' =>
      simp only [inOrder, List.mem_singleton, Word.number.injEq] at hmem
      rw [hmem.2]
      exact he
  | operation label' o left right ihLeft ihRight =>
      obtain ⟨_, _, hcanonicalLeft, hcanonicalRight⟩ := he
      simp only [inOrder, List.mem_append, List.mem_cons, reduceCtorEq,
        false_or] at hmem
      rcases hmem with hmem | hmem
      · exact ihLeft hcanonicalLeft hmem
      · exact ihRight hcanonicalRight hmem

theorem value_eq_result?
    (hdigits : ∀ label digits, .number label digits ∈ e.inOrder →
      Digits digits ∧ digits.size ≤ Numeral.maxDigits) :
    e.value = orDivisionByZero e.result? := by
  induction e with
  | number label digits =>
      obtain ⟨⟨hne, hall⟩, hsize⟩ := hdigits label digits (by simp [inOrder])
      simp only [value, result?, Numeral.read_digits hne hall, hsize, if_true]
      rfl
  | operation label o left right ihLeft ihRight =>
      have ihLeft := ihLeft fun label digits hmem =>
        hdigits label digits (by simp [inOrder, hmem])
      have ihRight := ihRight fun label digits hmem =>
        hdigits label digits (by simp [inOrder, hmem])
      simp only [value, result?, ihLeft, ihRight]
      cases left.result? with
      | none => rfl
      | some a =>
          cases right.result? with
          | none => rfl
          | some b => rfl

theorem numbers_inOrder (e : Expression Nat) :
    ((e.inOrder.map Word.token).filter (·.isA .number)).map
        (fun a => (Numeral.ofDigits a.value : Int)) =
      e.first :: e.rest.map Prod.snd := by
  induction e with
  | number label digits => simp [inOrder, Word.token, Token.isA, first, rest]
  | operation label o left right ihLeft ihRight =>
      have ho : (Word.token (.operator label o)).isA .number = false := by
        cases o <;> rfl
      simp [inOrder, first, rest, ho, ihLeft, ihRight]

theorem kinds_inOrder (e : Expression ι) :
    e.inOrder.map Word.kind = alternation (e.rest.map Prod.fst) := by
  induction e with
  | number label digits => rfl
  | operation label o left right ihLeft ihRight =>
      simp [inOrder, rest, ihLeft, ihRight, alternation]

end Expression

theorem filterMap_operator?_alternation (operators : List Operator) :
    (alternation operators).filterMap Kind.operator? = operators := by
  have htail : ∀ os : List Operator,
      (os.flatMap fun o => [o.kind, .number]).filterMap Kind.operator? = os := by
    intro os
    induction os with
    | nil => rfl
    | cons o os ih =>
        rw [List.flatMap_cons, List.cons_append,
          List.filterMap_cons_some o.kind_operator?, List.cons_append,
          List.filterMap_cons_none rfl, List.nil_append, ih]
  exact htail operators

theorem alternation_injective : Function.Injective alternation :=
  Function.LeftInverse.injective filterMap_operator?_alternation

theorem filter_number_filter (tokens : List Token) :
    (tokens.filter fun a => !a.isA .space).filter (·.isA .number) =
      tokens.filter (·.isA .number) := by
  rw [List.filter_filter]
  apply List.filter_congr
  intro a _
  cases hnumber : a.isA .number with
  | false => rfl
  | true =>
      simp only [Token.isA, beq_iff_eq] at hnumber
      simp [Token.isA, hnumber]

section Words

variable {t : Text} {e : Expression Nat}
  (hwords : words 0 t.toList = e.inOrder.map Word.token)
include hwords

theorem numbers_eq_of_words : numbers t = e.first :: e.rest.map Prod.snd := by
  unfold numbers
  rw [← filter_number_filter, scan_filter_eq_words, hwords]
  exact e.numbers_inOrder

theorem operators_eq_of_words
    {operators : List Operator}
    (hkinds : (words 0 t.toList).map (·.kind) =
      (alternation operators).map .arithmetic) :
    e.rest.map Prod.fst = operators := by
  apply alternation_injective
  rw [← e.kinds_inOrder]
  apply List.map_injective_iff.mpr fun _ _ => Datum.arithmetic.inj
  rw [hwords, List.map_map] at hkinds
  rw [List.map_map]
  exact hkinds

theorem mem_scan_of_words
    {w : Word Nat} (hw : w ∈ e.inOrder) : w.token ∈ scan t := by
  have htoken : w.token ∈ words 0 t.toList := by
    rw [hwords]
    exact List.mem_map_of_mem hw
  rw [← scan_filter_eq_words] at htoken
  exact List.mem_of_mem_filter htoken

end Words

/-- An expression in which numbers and operators alternate has the value that
conventional arithmetic gives to it, or divides by zero as that does, unless a
division follows a multiplication in the same term. -/
theorem calculate_conventional
    (t : Text) (operators : List Operator)
    (hchars : ∀ c ∈ t, CodePoint.isAsciiDigit c = true ∨
      CodePoint.isBlank c = true ∨ ∃ o : Operator, c = o.sign)
    (hshape : ((scan t).filter fun a => !a.isA .space).map (·.kind) =
      (alternation operators).map .arithmetic)
    (hdigits : ∀ a ∈ scan t, a.isA .number = true →
      a.value.size ≤ Numeral.maxDigits)
    (hdivisions : DivisionsFirst operators) :
    calculateExpression t =
      orDivisionByZero (conventional? (numbers t) operators) := by
  rw [scan_filter_eq_words] at hshape
  obtain ⟨blanked, hblanked, hrenders⟩ :=
    exists_renders (fun c hc => exists_accepts (hchars c hc)) hshape
  have he := hblanked.place 0
  have hwords := hrenders.words_eq hblanked
  have hparse := hrenders.parse_eq hblanked
  generalize blanked.place 0 = e at he hwords hparse
  have hoperators := operators_eq_of_words hwords hshape
  have hreadable : ∀ label digits, .number label digits ∈ e.inOrder →
      Digits digits ∧ digits.size ≤ Numeral.maxDigits := by
    intro label digits hmem
    exact ⟨he.digits_of_mem hmem, hdigits _ (mem_scan_of_words hwords hmem) rfl⟩
  have hzip : operators.zip (e.rest.map Prod.snd) = e.rest :=
    (List.zip_of_prod hoperators rfl).symm
  calc calculateExpression t
      = e.value := by
        unfold calculateExpression
        rw [hparse, Word.token_eq_written]
        exact calculate_written _ _ e
    _ = orDivisionByZero e.result? := Expression.value_eq_result? hreadable
    _ = orDivisionByZero (conventional? (numbers t) operators) := by
        rw [numbers_eq_of_words hwords, conventional?, hzip,
          he.result?_eq_split (hoperators.symm ▸ hdivisions)]

theorem calculate_conventional_mixed :
    let t := text "7/2*3 - 1 + 20 - 5*2"
    let operators : List Operator :=
      [.divide, .times, .minus, .plus, .minus, .times]
    ((scan t).filter fun a => !a.isA .space).map (·.kind) =
        (alternation operators).map .arithmetic ∧
      DivisionsFirst operators ∧
      calculateExpression t = .ok 18 := by
  intro t operators
  have hall : ∀ c ∈ t, CodePoint.isAsciiDigit c = true ∨
      CodePoint.isBlank c = true ∨ c ∈ Operator.all.map Operator.sign := by
    decide
  have hchars : ∀ c ∈ t, CodePoint.isAsciiDigit c = true ∨
      CodePoint.isBlank c = true ∨ ∃ o : Operator, c = o.sign := by
    intro c hc
    refine (hall c hc).imp id (Or.imp id fun hmem => ?_)
    obtain ⟨o, _, hsign⟩ := List.mem_map.mp hmem
    exact ⟨o, hsign.symm⟩
  have hshape : ((scan t).filter fun a => !a.isA .space).map (·.kind) =
      (alternation operators).map .arithmetic := by
    decide +kernel
  have hdigits : ∀ a ∈ scan t, a.isA .number = true →
      a.value.size ≤ Numeral.maxDigits := by
    decide +kernel
  have hdivisions : DivisionsFirst operators := by
    decide
  have hvalue : conventional? (numbers t) operators = some 18 := by
    decide +kernel
  have hcalculated :=
    calculate_conventional t operators hchars hshape hdigits hdivisions
  rw [hvalue] at hcalculated
  exact ⟨hshape, hdivisions, hcalculated⟩

-- a division behind a multiplication is done first
example : calculateExpression (text "2*3/2") = .ok 2 ∧
    conventional? [2, 3, 2] [.times, .divide] = some 3 := by
  decide +kernel

end FirstMatch.Arithmetic
