import FirstMatch.Proofs.Arithmetic.Alphabet

/-!
# Blanks between the words of expressions

A word is settled by its own code points and by the one behind it, and neither a blank nor
the end prolongs a word.  So blanks outside of numbers only move the words behind them, and
these are rearranged and evaluated by their kinds and values alone.
-/

namespace FirstMatch

def Text.insertAt (t : Text) (i : Nat) (more : Text) : Text :=
  t.slice 0 i ++ more ++ t.slice i t.size

/-- Where an index is after `n` code points were put in at `i`. -/
def displaced (i n : Nat) (index : Int) : Int :=
  if i ≤ index then index + n else index

namespace Token

def shifted (i n : Nat) (a : Token) : Token :=
  { a with index := displaced i n a.index }

variable (i n : Nat) (a : Token)

@[simp] theorem kind_shifted : (a.shifted i n).kind = a.kind := rfl

@[simp] theorem value_shifted : (a.shifted i n).value = a.value := rfl

@[simp] theorem index_shifted : (a.shifted i n).index = displaced i n a.index := rfl

end Token

namespace Arithmetic

def Fault.shifted (i n : Nat) : Fault → Fault
  | .missingOperands value index => .missingOperands value (displaced i n index)
  | .badNumber value fault => .badNumber value fault
  | .unknownOperator kind => .unknownOperator kind
  | .unhashable => .unhashable
  | .divisionByZero => .divisionByZero

/-! ## Words further on -/

theorem lex_add {i j : Nat} (hle : j ≤ i) (n : Nat) (l : List Nat) :
    lex (i + n) l = (lex i l).map (Token.shifted j n) := by
  induction l using Kind.front_induction generalizing i with
  | stop l hfronts => rw [lex_of_fronts hfronts, lex_of_fronts hfronts, List.map_nil]
  | token k l hfront ih =>
      have hindex : displaced j n i = (i + n : Nat) := by
        simp [displaced, hle]
      have hrest := ih (i := i + (k.front l).length) (by omega)
      rw [Nat.add_right_comm] at hrest
      rw [lex_of_front hfront, lex_of_front hfront, List.map_cons, hrest, Token.shifted,
        hindex]

theorem words_add {i j : Nat} (hle : j ≤ i) (n : Nat) (l : List Nat) :
    words (i + n) l = (words i l).map (Token.shifted j n) := by
  unfold words
  rw [lex_add hle, List.filter_map]
  rfl

/-- No number goes on from `before` into `rest`. -/
def Seam (before rest : List Nat) : Prop :=
  ∀ c ∈ before.getLast?, ∀ d ∈ rest.head?,
    CodePoint.isAsciiDigit c = true → CodePoint.isAsciiDigit d = false

namespace Seam

variable {before rest gap : List Nat}

theorem drop (h : Seam before rest) (n : Nat) : Seam (before.drop n) rest := by
  intro c hc
  rw [List.getLast?_drop] at hc
  split at hc
  · cases hc
  · exact h c hc

theorem blanks (h : Seam before rest) (hgap : ∀ c ∈ gap, CodePoint.isBlank c = true) :
    Seam before (gap ++ rest) := by
  intro c hc d hd hdigit
  cases gap with
  | nil => exact h c hc d hd hdigit
  | cons b gap =>
      have hd : b = d := Option.some.inj hd
      rw [← hd]
      exact not_digit_of_blank (hgap b List.mem_cons_self)

theorem front_append
    (h : Seam before rest) {k : Kind} (hk : k ≠ .space) (hfront : k.front before ≠ []) :
    k.front (before ++ rest) = k.front before := by
  apply Kind.front_append_of_stop hfront
  intro hrepeats hwhole d hd
  have hnumber : k = .number := by
    cases k with
    | number => rfl
    | space => exact absurd rfl hk
    | _ => cases hrepeats
  subst hnumber
  rw [Kind.accepts_number]
  -- the number ends with `before`, so that the seam settles what follows
  cases hlast : before.getLast? with
  | none =>
      rw [List.getLast?_eq_none_iff.mp hlast] at hfront
      simp at hfront
  | some c =>
      have hmem : c ∈ Kind.number.front before := by
        rw [hwhole]
        exact List.mem_of_getLast? hlast
      have hdigit := Kind.accepts_of_mem_front hmem
      rw [Kind.accepts_number] at hdigit
      exact h c hlast d hd hdigit

end Seam

theorem words_insert
    {before gap after : List Nat} (hseam : Seam before after)
    (hgap : ∀ c ∈ gap, CodePoint.isBlank c = true)
    {i j : Nat} (hj : j = i + before.length) :
    words i (before ++ (gap ++ after)) =
      (words i (before ++ after)).map (Token.shifted j gap.length) := by
  induction before using Kind.front_induction generalizing i with
  | stop before hfronts =>
      cases before with
      | nil =>
          rw [List.nil_append, List.nil_append, words_blank_append hgap]
          apply words_add
          simp [hj]
      | cons c before =>
          unfold words
          rw [lex_append_of_fronts (List.cons_ne_nil c before) hfronts,
            lex_append_of_fronts (List.cons_ne_nil c before) hfronts]
          rfl
  | token k before hfront ih =>
      have hlength := k.length_front_le before
      have hrest := ih (hseam.drop _) (i := i + (k.front before).length)
        (by rw [List.length_drop]; omega)
      by_cases hk : k = .space
      · have hblank : ∀ rest, words i (before ++ rest) =
            words (i + (k.front before).length)
              (before.drop (k.front before).length ++ rest) := by
          intro rest
          conv => lhs; rw [← k.front_append_drop before, List.append_assoc]
          apply words_blank_append
          intro c hc
          rw [← Kind.accepts_space, ← hk]
          exact Kind.accepts_of_mem_front hc
        rw [hblank, hblank, hrest]
      · have hword : ∀ rest, Seam before rest → words i (before ++ rest) =
            ⟨i, .arithmetic k, (k.front before).toArray⟩ ::
              words (i + (k.front before).length)
                (before.drop (k.front before).length ++ rest) := by
          intro rest hrest
          have hsame := hrest.front_append hk hfront
          rw [words_of_front hk (by rw [hsame]; exact hfront), hsame,
            List.drop_append_of_le_length hlength]
        have hindex : displaced j gap.length i = i := by
          have hpos := List.length_pos_of_ne_nil hfront
          unfold displaced
          rw [if_neg (by omega)]
        rw [hword _ (hseam.blanks hgap), hword _ hseam, hrest, List.map_cons,
          Token.shifted, hindex]

/-! ## Order, value and fault -/

theorem rearrange_map
    {f : Token → Token} (hf : ∀ a, (f a).kind = a.kind) (ts : List Token) :
    rearrange (ts.map f) = (rearrange ts).map f := by
  have hnumber : ∀ a, (f a).isA .number = a.isA .number := by
    intro a
    simp [Token.isA, hf]
  have hclears : ∀ a x, (f a).Clears (f x) ↔ a.Clears x := by
    intro a x
    simp [Token.Clears, Token.precedence, Token.operator?, hnumber, hf]
  induction ts using rearrange_induction with
  | nil => rfl
  | number x rest hx ih =>
      rw [List.map_cons, rearrange_cons_number hx,
        rearrange_cons_number (by rw [hnumber]; exact hx), ih, List.map_cons]
  | operator x inner outer hx hinner houter ihInner ihOuter =>
      rw [List.map_cons, List.map_append, rearrange_cons_operator hx hinner houter,
        rearrange_cons_operator (by rw [hnumber]; exact hx), ihInner, ihOuter,
        List.map_append, List.map_cons]
      · simpa [hclears] using hinner
      · simpa [hclears] using houter

theorem operate_shifted (i n : Nat) (a : Token) (left right : Int) :
    operate (a.shifted i n) left right =
      (operate a left right).mapError (Fault.shifted i n) := by
  unfold operate Token.operator?
  rw [Token.kind_shifted]
  split
  · split <;> rfl
  · split <;> rfl

theorem evaluateToken_shifted (i n : Nat) (stack : List Int) (a : Token) :
    evaluateToken stack (a.shifted i n) =
      (evaluateToken stack a).mapError (Fault.shifted i n) := by
  unfold evaluateToken Token.isA
  simp only [Token.kind_shifted, Token.value_shifted, Token.index_shifted,
    operate_shifted]
  split
  · split <;> rfl
  · split
    next right left rest => cases operate a left right <;> rfl
    next => rfl

theorem evaluate_map_shifted (i n : Nat) (stack : List Int) (ts : List Token) :
    evaluate stack (ts.map (Token.shifted i n)) =
      (evaluate stack ts).mapError (Fault.shifted i n) := by
  induction ts generalizing stack with
  | nil => rfl
  | cons a ts ih =>
      rw [List.map_cons, evaluate, evaluate, evaluateToken_shifted]
      cases evaluateToken stack a with
      | ok stack' => exact ih stack'
      | error fault => rfl

theorem calculate_map_shifted (i n : Nat) (ts : List Token) :
    calculate (ts.map (Token.shifted i n)) =
      (calculate ts).mapError (Fault.shifted i n) := by
  unfold calculate
  rw [evaluate_map_shifted]
  cases evaluate [] ts <;> rfl

/-! ## Expressions -/

theorem toList_insertAt (t : Text) (i : Nat) (more : Text) :
    (t.insertAt i more).toList =
      t.toList.take i ++ (more.toList ++ t.toList.drop i) := by
  have hdrop : (t.toList.drop i).take (t.size - i) = t.toList.drop i :=
    List.take_of_length_le (by simp)
  simp [Text.insertAt, Text.slice, hdrop]

theorem seam_of_not_betweenDigits
    {t : Text} {i : Nat} (h : t.betweenDigits i = false) :
    Seam (t.toList.take i) (t.toList.drop i) := by
  intro c hc d hd hdigit
  rw [t.head?_drop, Option.mem_def] at hd
  cases i with
  | zero => simp at hc
  | succ j =>
      have hlt := (Array.getElem?_eq_some_iff.mp hd).1
      have hlast : t[j]? = some c := by
        rw [List.getLast?_take] at hc
        simpa [show j < t.size by omega] using hc
      simpa [Text.betweenDigits, Text.digitAt, hlast, hd, hdigit] using h

/-- Blanks that are put into an expression anywhere but between two digits leave the kinds, the
values and the order of the output alone.  The indices from there on grow by the number of
blanks.  The value is the same; so is a fault, but for the index that it names. -/
theorem inserted_blanks_shift_tokens
    {t gap : Text} {i : Nat} (hi : i ≤ t.size) (hgap : Blank gap)
    (hseam : t.betweenDigits i = false) :
    parse (t.insertAt i gap) = (parse t).map (Token.shifted i gap.size) ∧
      calculateExpression (t.insertAt i gap) =
        (calculateExpression t).mapError (Fault.shifted i gap.size) := by
  have hblank : ∀ c ∈ gap.toList, CodePoint.isBlank c = true := by
    simpa [Blank] using hgap
  have hparse : parse (t.insertAt i gap) =
      (parse t).map (Token.shifted i gap.size) := by
    rw [parse_eq_rearrange_words, parse_eq_rearrange_words, toList_insertAt,
      words_insert (seam_of_not_betweenDigits hseam) hblank (j := i) (by simp [hi]),
      List.take_append_drop, Array.length_toList]
    exact rearrange_map (Token.kind_shifted i gap.size) _
  refine ⟨hparse, ?_⟩
  unfold calculateExpression
  rw [hparse, calculate_map_shifted]

theorem inserted_blanks_shift_tokens_stray :
    let t := text "2+/3x4"
    let gap : Text := #[0x2003, 10]
    let u : Text := #[50, 0x2003, 10, 43, 47, 51, 120, 52]
    1 ≤ t.size ∧ Blank gap ∧ t.betweenDigits 1 = false ∧ t.insertAt 1 gap = u ∧
    parse u =
      [⟨0, .arithmetic .number, #[50]⟩, ⟨5, .arithmetic .number, #[51]⟩,
        ⟨4, .arithmetic .divide, #[47]⟩, ⟨3, .arithmetic .plus, #[43]⟩] ∧
    calculateExpression t = .error (.missingOperands #[43] 1) ∧
    calculateExpression u = .error (.missingOperands #[43] 3) := by
  intro t gap u
  have hgap : Blank gap := by
    unfold Blank
    decide
  have hinsert : t.insertAt 1 gap = u := by
    decide
  have htokens : parse t =
      [⟨0, .arithmetic .number, #[50]⟩, ⟨3, .arithmetic .number, #[51]⟩,
        ⟨2, .arithmetic .divide, #[47]⟩, ⟨1, .arithmetic .plus, #[43]⟩] := by
    decide +kernel
  have hfault : calculateExpression t = .error (.missingOperands #[43] 1) := by
    decide +kernel
  obtain ⟨hparse, hvalue⟩ :=
    inserted_blanks_shift_tokens (t := t) (i := 1) (by decide) hgap (by decide)
  rw [hinsert, htokens] at hparse
  rw [hinsert, hfault] at hvalue
  exact ⟨by decide, hgap, by decide, hinsert, hparse, hfault, hvalue⟩

end Arithmetic

end FirstMatch
