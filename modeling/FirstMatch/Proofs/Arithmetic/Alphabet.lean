import FirstMatch.Arithmetic.Calculation
import FirstMatch.Proofs.Arithmetic.Rendering

/-!
# The characters of expressions

Digits, operators and blanks are all that expressions are written with.  The first other
character ends reading, and as long as there is none, reading goes on to the end of the
text.  The numbers that are read are then the runs of digits that are as long as possible.
-/

namespace FirstMatch

namespace Text

def digitAt (t : Text) (p : Nat) : Bool :=
  t[p]?.any CodePoint.isAsciiDigit

def betweenDigits (t : Text) (p : Nat) : Bool :=
  0 < p && t.digitAt (p - 1) && t.digitAt p

structure DigitRun (t : Text) (i j : Nat) : Prop where
  lt : i < j
  digits : ∀ p, i ≤ p → p < j → t.digitAt p = true
  left : ∀ p, p + 1 = i → t.digitAt p = false
  right : t.digitAt j = false

namespace DigitRun

variable {t : Text} {i j p q : Nat}

theorem le_of_digits
    (h : t.DigitRun i j) (hdigits : ∀ r, i ≤ r → r < q → t.digitAt r = true) :
    q ≤ j := by
  by_contra hlt
  have hdigit := hdigits j h.lt.le (by omega)
  rw [h.right] at hdigit
  cases hdigit

/-- A run is the same as another or stands behind it, if it does not start in front
of it. -/
theorem eq_or_le (h : t.DigitRun p q) (h' : t.DigitRun i j) (hle : p ≤ i) :
    (i = p ∧ j = q) ∨ q ≤ i := by
  by_cases hstart : i = p
  · subst hstart
    have hjq := h.le_of_digits h'.digits
    have hqj := h'.le_of_digits h.digits
    omega
  · right
    by_contra hlt
    have hdigit := h.digits (i - 1) (by omega) (by omega)
    rw [h'.left (i - 1) (by omega)] at hdigit
    cases hdigit

end DigitRun

end Text

namespace Arithmetic

def InAlphabet (c : Nat) : Prop :=
  CodePoint.isAsciiDigit c = true ∨ CodePoint.isBlank c = true ∨
    c ∈ Operator.all.map Operator.sign

instance (c : Nat) : Decidable (InAlphabet c) :=
  inferInstanceAs (Decidable (_ ∨ _ ∨ _))

theorem inAlphabet_iff (c : Nat) : InAlphabet c ↔ ∃ k : Kind, k.accepts c = true := by
  have hsigns : c ∈ Operator.all.map Operator.sign ↔ ∃ o : Operator, c = o.sign := by
    constructor
    · intro hmem
      obtain ⟨o, _, hsign⟩ := List.mem_map.mp hmem
      exact ⟨o, hsign.symm⟩
    · rintro ⟨o, rfl⟩
      cases o <;> decide
  unfold InAlphabet
  rw [hsigns]
  constructor
  · exact exists_accepts
  · rintro ⟨k, hk⟩
    cases k using Kind.cases_operator with
    | number =>
        rw [Kind.accepts_number] at hk
        exact .inl hk
    | space =>
        rw [Kind.accepts_space] at hk
        exact .inr (.inl hk)
    | operator o =>
        rw [Kind.accepts_operator, decide_eq_true_eq] at hk
        exact .inr (.inr ⟨o, hk⟩)

/-! ## Foreign characters -/

theorem accepts_eq_false {c : Nat} (hc : ¬ InAlphabet c) (k : Kind) :
    k.accepts c = false := by
  cases hk : k.accepts c with
  | false => rfl
  | true => exact absurd ((inAlphabet_iff c).mpr ⟨k, hk⟩) hc

theorem lex_append_foreign
    {c : Nat} (hc : ¬ InAlphabet c) (i : Nat) (l rest : List Nat) :
    lex i (l ++ c :: rest) = lex i l := by
  induction l using Kind.front_induction generalizing i with
  | stop l hfronts =>
      rw [lex_of_fronts hfronts]
      by_cases hne : l = []
      · subst hne
        apply lex_of_fronts
        intro k
        simp [Kind.front_cons, accepts_eq_false hc k]
      · exact lex_append_of_fronts hne hfronts i _
  | token k l hfront ih =>
      have hsame : k.front (l ++ c :: rest) = k.front l := by
        apply Kind.front_append_of_stop hfront
        intro _ _ d hd
        cases hd
        exact accepts_eq_false hc k
      rw [lex_of_front hfront, lex_of_front (by rw [hsame]; exact hfront), hsame,
        List.drop_append_of_le_length (k.length_front_le l), ih]

theorem parse_append_foreign
    {c : Nat} (hc : ¬ InAlphabet c) (s t : Text) :
    parse (s ++ #[c] ++ t) = parse s := by
  have hlist : (s ++ #[c] ++ t).toList = s.toList ++ c :: t.toList := by
    simp
  unfold parse
  rw [scan_eq_lex, scan_eq_lex, hlist, lex_append_foreign hc]

/-! ## The end of the text -/

/-- The calculator's cursor stops where no kind has a token. -/
theorem drains_scan (t : Text) :
    ∃ q, (Cursor.start (source t)).Drains .empty (.ok (scan t))
        (.stopped (source t) q) .empty ∧
      Token.Tiles t 0 (scan t) q ∧ ∀ k : Kind, k.front (t.toList.drop q) = [] := by
  have hrules : ∀ rule ∈ (source t).rules, rule.Anchored t := by
    intro rule hmem
    obtain ⟨k, _, rfl⟩ := List.mem_map.mp hmem
    exact k.definition.rule_anchored rfl .machine t
  have hlive := Cursor.start_live (source t)
  obtain ⟨tokens, q, b, b', hdrains, htiles, hall⟩ :=
    hlive.drains hrules (Nat.zero_le _) .empty
  change Token.Tiles t 0 tokens q at htiles
  obtain ⟨c, hlex⟩ := drains_lex (Nat.zero_le _) hlive .empty
  obtain ⟨htokens, _, hbench⟩ := hdrains.unique hlex
  have hscan : tokens = scan t := by
    rw [scan_eq_lex]
    exact Except.ok.inj htokens
  rw [hscan] at hdrains htiles
  rw [hbench] at hdrains
  refine ⟨q, hdrains, htiles, ?_⟩
  intro k
  by_contra hfront
  have hnone := (Rule.Answers.declined hall).firstAnswer_eq
  have hsome := Kind.firstAnswer_definitions (htiles.le_size (Nat.zero_le _)) Kind.all b
  rw [find_front hfront] at hsome
  cases hnone.symm.trans hsome

theorem size_le_of_fronts
    {t : Text} (ht : ∀ c ∈ t, InAlphabet c) {p : Nat}
    (hfronts : ∀ k : Kind, k.front (t.toList.drop p) = []) :
    t.size ≤ p := by
  by_contra hnot
  have hlt : p < t.size := by omega
  obtain ⟨k, hk⟩ := (inAlphabet_iff _).mp (ht t[p] (Array.getElem_mem hlt))
  have hhead : (t.toList.drop p).head? = some t[p] := by
    rw [t.head?_drop]
    exact Array.getElem?_eq_getElem hlt
  have hother := Kind.front_eq_nil_iff.mp (hfronts k) t[p] hhead
  rw [hk] at hother
  cases hother

theorem drains_to_end {t : Text} (ht : ∀ c ∈ t, InAlphabet c) :
    (Cursor.start (source t)).Drains .empty (.ok (scan t))
        (.stopped (source t) t.size) .empty ∧
      Token.Tiles t 0 (scan t) t.size := by
  obtain ⟨q, hdrains, htiles, hfronts⟩ := drains_scan t
  have hend : q = t.size :=
    Nat.le_antisymm (htiles.le_size (Nat.zero_le _)) (size_le_of_fronts ht hfronts)
  rw [hend] at hdrains htiles
  exact ⟨hdrains, htiles⟩

/-! ## Numbers -/

section Front

variable {t : Text} {p q : Nat} {k : Kind}

theorem digitAt_front
    (hle : p ≤ q) (hlt : q < p + (k.front (t.toList.drop p)).length) :
    t.digitAt q = decide (k = .number) := by
  have hget := congrArg (·[q - p]?) (k.front_append_drop (t.toList.drop p))
  have hinside : q - p < (k.front (t.toList.drop p)).length := by
    omega
  simp only [List.getElem?_append_left hinside, List.getElem?_eq_getElem hinside,
    List.getElem?_drop, Nat.add_sub_of_le hle, Array.getElem?_toList] at hget
  have haccepts := Kind.accepts_of_mem_front (List.getElem_mem hinside)
  unfold Text.digitAt
  rw [← hget, Option.any_some, ← Kind.accepts_number]
  by_cases hk : k = .number
  · rw [← hk, haccepts, decide_eq_true rfl]
  · rw [decide_eq_false hk, Bool.eq_false_iff]
    intro hnumber
    exact hk (Kind.accepts_unique haccepts hnumber)

theorem digitAt_behind_number (t : Text) (p : Nat) :
    t.digitAt (p + (Kind.number.front (t.toList.drop p)).length) = false := by
  have hnot := Kind.head_drop_front (k := .number) rfl (t.toList.drop p)
  rw [List.drop_drop, t.head?_drop] at hnot
  unfold Text.digitAt
  cases hc : t[p + (Kind.number.front (t.toList.drop p)).length]? with
  | none => rfl
  | some c =>
      rw [Option.any_some, ← Kind.accepts_number]
      exact hnot c hc

theorem digitRun_front
    (hstart : t.betweenDigits p = false)
    (hfront : Kind.number.front (t.toList.drop p) ≠ []) :
    t.DigitRun p (p + (Kind.number.front (t.toList.drop p)).length) := by
  have hpos := List.length_pos_of_ne_nil hfront
  have hdigits : ∀ q, p ≤ q →
      q < p + (Kind.number.front (t.toList.drop p)).length → t.digitAt q = true := by
    intro q hle hlt
    rw [digitAt_front hle hlt]
    rfl
  have hfirst := hdigits p (Nat.le_refl p) (by omega)
  exact {
    lt := by omega
    digits := hdigits
    left := by
      rintro q rfl
      simpa [Text.betweenDigits, hfirst] using hstart
    right := digitAt_behind_number t p }

theorem betweenDigits_behind_front (hfront : k.front (t.toList.drop p) ≠ []) :
    t.betweenDigits (p + (k.front (t.toList.drop p)).length) = false := by
  have hpos := List.length_pos_of_ne_nil hfront
  unfold Text.betweenDigits
  by_cases hk : k = .number
  · rw [hk, digitAt_behind_number, Bool.and_false]
  · have hlast := digitAt_front (t := t) (p := p) (k := k)
      (q := p + (k.front (t.toList.drop p)).length - 1) (by omega) (by omega)
    rw [hlast, decide_eq_false hk, Bool.and_false, Bool.false_and]

end Front

theorem mem_lex_number_iff
    {t : Text} {p : Nat} (ht : ∀ c ∈ t, InAlphabet c)
    (hstart : t.betweenDigits p = false) (a : Token) :
    a ∈ lex p (t.toList.drop p) ∧ a.isA .number = true ↔
      ∃ i j, p ≤ i ∧ t.DigitRun i j ∧ a = ⟨i, .arithmetic .number, t.slice i j⟩ := by
  induction hl : t.toList.drop p using Kind.front_induction generalizing p with
  | stop l hfronts =>
      subst hl
      have hsize := size_le_of_fronts ht hfronts
      rw [lex_of_fronts hfronts]
      constructor
      · rintro ⟨hmem, _⟩
        cases hmem
      · rintro ⟨i, j, hle, hrun, _⟩
        have hdigit := hrun.digits i (Nat.le_refl i) hrun.lt
        unfold Text.digitAt at hdigit
        rw [Array.getElem?_eq_none (by omega)] at hdigit
        cases hdigit
  | token k l hfront ih =>
      subst hl
      have hrest := ih (betweenDigits_behind_front hfront) List.drop_drop.symm
      rw [lex_of_front hfront]
      constructor
      · rintro ⟨hmem, hnumber⟩
        rcases List.mem_cons.mp hmem with rfl | hmem
        · have hk : k = .number := by
            simpa [Token.isA] using hnumber
          subst hk
          refine ⟨p, _, Nat.le_refl p, digitRun_front hstart hfront, ?_⟩
          rw [Kind.slice_front]
        · obtain ⟨i, j, hle, hrun, ha⟩ := hrest.mp ⟨hmem, hnumber⟩
          exact ⟨i, j, by omega, hrun, ha⟩
      · rintro ⟨i, j, hle, hrun, ha⟩
        by_cases hbehind : p + (k.front (t.toList.drop p)).length ≤ i
        · obtain ⟨hmem, hnumber⟩ := hrest.mpr ⟨i, j, hbehind, hrun, ha⟩
          exact ⟨List.mem_cons_of_mem _ hmem, hnumber⟩
        · -- a run that starts in the token has to be the token
          have hk : k = .number := by
            have hdigit := hrun.digits i (Nat.le_refl i) hrun.lt
            rw [digitAt_front hle (Nat.lt_of_not_le hbehind)] at hdigit
            exact of_decide_eq_true hdigit
          subst hk
          rcases (digitRun_front hstart hfront).eq_or_le hrun hle with ⟨rfl, rfl⟩ | hle'
          · rw [ha, Kind.slice_front]
            exact ⟨List.mem_cons_self, rfl⟩
          · exact absurd hle' hbehind

/-- A character that is no digit, operator or blank ends an expression: the tokens in front of
it are all, whatever comes behind.  A text without such characters is read to its end, and the
numbers that are read are exactly its longest runs of digits, each at its place. -/
theorem reading_stops_only_at_foreign :
    (∀ (s t : Text) (c : Nat), ¬ InAlphabet c →
      parse (s ++ #[c] ++ t) = parse s ∧
        calculateExpression (s ++ #[c] ++ t) = calculateExpression s) ∧
    ∀ s : Text, (∀ c ∈ s, InAlphabet c) →
      (∃ c, (Scanner.mk definitions s).tokens .empty = (.ok (scan s), c, .empty) ∧
        c.position = s.size ∧ c.reachedEnd = true) ∧
      Token.Tiles s 0 (scan s) s.size ∧
      ∀ a : Token, a ∈ scan s ∧ a.isA .number = true ↔
        ∃ i j, s.DigitRun i j ∧ a = ⟨i, .arithmetic .number, s.slice i j⟩ := by
  constructor
  · intro s t c hc
    have hparse := parse_append_foreign hc s t
    unfold calculateExpression
    rw [hparse]
    exact ⟨rfl, rfl⟩
  · intro s hs
    obtain ⟨hdrains, htiles⟩ := drains_to_end hs
    refine ⟨⟨.stopped (source s) s.size, ?_, rfl, ?_⟩, htiles, ?_⟩
    · have htokens := Scanner.tokens_drains ⟨definitions, s⟩ .empty
      rw [cursor_definitions] at htokens
      obtain ⟨hlist, hcursor, hbench⟩ := htokens.unique hdrains
      exact Prod.ext hlist (Prod.ext hcursor hbench)
    · rw [(Cursor.stopped_partitions htiles).reachedEnd, htiles.join_values]
      exact Array.extract_size
    · intro a
      have hiff := mem_lex_number_iff (p := 0) hs rfl a
      simpa [scan_eq_lex] using hiff

/-- The Arabic-Indic digit three ends `12 +3`, whatever comes behind.  Without it the
two numbers are the runs at the indices 0 and 4. -/
theorem reading_stops_only_at_foreign_digit :
    let s := text "12 +3"
    let t : Text := s ++ #[0x663] ++ text "*4"
    ¬ InAlphabet 0x663 ∧ (∀ c ∈ s, InAlphabet c) ∧
    parse t = parse s ∧ calculateExpression t = .ok 15 ∧
    (∃ c, (Scanner.mk definitions s).tokens .empty = (.ok (scan s), c, .empty) ∧
      c.position = 5 ∧ c.reachedEnd = true) ∧
    s.DigitRun 0 2 ∧ ⟨0, .arithmetic .number, #[49, 50]⟩ ∈ scan s ∧
    s.DigitRun 4 5 ∧ ⟨4, .arithmetic .number, #[51]⟩ ∈ scan s := by
  intro s t
  obtain ⟨hforeign, halphabet⟩ := reading_stops_only_at_foreign
  have hc : ¬ InAlphabet 0x663 := by
    decide
  have hs : ∀ c ∈ s, InAlphabet c := by
    decide
  have hvalue : calculateExpression s = .ok 15 := by
    decide +kernel
  have hdigits : ∀ p < 2, s.digitAt p = true := by
    decide
  have hfirst : s.DigitRun 0 2 := {
    lt := by omega
    digits := by
      intro p _ hlt
      exact hdigits p hlt
    left := by
      intro p hp
      omega
    right := rfl }
  have hsecond : s.DigitRun 4 5 := {
    lt := by omega
    digits := by
      intro p hle hlt
      obtain rfl : p = 4 := by omega
      rfl
    left := by
      intro p hp
      obtain rfl : p = 3 := by omega
      rfl
    right := rfl }
  obtain ⟨hparse, hsame⟩ := hforeign s (text "*4") 0x663 hc
  obtain ⟨hend, _, hnumbers⟩ := halphabet s hs
  exact ⟨hc, hs, hparse, hsame.trans hvalue, hend, hfirst,
    ((hnumbers _).mpr ⟨0, 2, hfirst, rfl⟩).1, hsecond,
    ((hnumbers _).mpr ⟨4, 5, hsecond, rfl⟩).1⟩

end Arithmetic

end FirstMatch
