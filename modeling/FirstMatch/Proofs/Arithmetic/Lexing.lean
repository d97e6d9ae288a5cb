import FirstMatch.Arithmetic.ReversePolish
import FirstMatch.Proofs.Partition
import Mathlib.Data.List.TakeWhile

/-!
# The tokens of expressions

Each kind of token has a set of code points, and no two of these sets meet.  So the first
code point settles the kind of a token, and a plain recursion over the list of code points
finds the same tokens as the cursor with its patterns.
-/

namespace FirstMatch

/-! ## Runs of single characters -/

namespace Text

theorem toList_slice (t : Text) (i n : Nat) :
    (t.slice i (i + n)).toList = (t.toList.drop i).take n := by
  unfold slice
  rw [Array.toList_extract, List.extract_eq_take_drop, Nat.add_sub_cancel_left]

theorem head?_drop (t : Text) (i : Nat) :
    (t.toList.drop i).head? = t[i]? := by
  rw [List.head?_drop, Array.getElem?_toList]

end Text

namespace Pattern

theorem CharSet.spanFrom_eq (set : CharSet) (t : Text) (i limit : Nat) :
    set.spanFrom t i limit =
      (((t.toList.drop i).take limit).takeWhile set.accepts).length := by
  induction limit generalizing i with
  | zero => simp [spanFrom]
  | succ limit ih =>
      have hhead := t.head?_drop i
      unfold spanFrom
      cases hl : t.toList.drop i with
      | nil =>
          rw [hl] at hhead
          simp [← hhead]
      | cons c rest =>
          have hrest : t.toList.drop (i + 1) = rest := by
            rw [← List.drop_drop, hl]
            rfl
          rw [hl] at hhead
          simp only [← hhead, List.head?_cons, List.take_succ_cons]
          rw [ih, hrest]
          cases hc : set.accepts c with
          | true => simp [hc]
          | false => simp [hc]

namespace Node

theorem matchEnd?_char (set : CharSet) (t : Text) (i : Nat) :
    matchEnd? t i (.char set) =
      if (t.toList.drop i).head?.any set.accepts then some (i + 1) else none := by
  rw [t.head?_drop]
  unfold matchEnd? run Spot.start
  cases t[i]? with
  | none => rfl
  | some c =>
      cases hc : set.accepts c with
      | true => simp [hc, Spot.move]
      | false => simp [hc]

theorem matchEnd?_repeat (set : CharSet) (t : Text) (i : Nat) :
    matchEnd? t i (.loop .greedy 1 none (.char set)) =
      let n := ((t.toList.drop i).takeWhile set.accepts).length
      if n = 0 then none else some (i + n) := by
  have hspan : set.spanFrom t i (t.size - i) =
      ((t.toList.drop i).takeWhile set.accepts).length := by
    rw [set.spanFrom_eq, List.take_of_length_le (by simp)]
  unfold matchEnd? run single? Run.stretch Spot.start
  simp only [Option.getD_none, Nat.min_self, hspan]
  generalize ((t.toList.drop i).takeWhile set.accepts).length = n
  cases n with
  | zero => rfl
  | succ n =>
      cases n with
      | zero => rfl
      | succ n =>
          simp [Run.shrinking, Spot.move]
          omega

end Node

end Pattern

namespace Arithmetic

/-! ## The sets of the kinds -/

namespace Operator

def sign : Operator → Nat
  | plus => 43
  | minus => 45
  | times => 42
  | divide => 47

end Operator

namespace Kind

def repeats : Kind → Bool
  | number | space => true
  | plus | minus | times | divide => false

def charSet : Kind → Pattern.CharSet
  | number => ⟨false, [.range 0x30 0x39], .exact⟩
  | plus => ⟨false, [.point Operator.plus.sign], .exact⟩
  | minus => ⟨false, [.point Operator.minus.sign], .exact⟩
  | times => ⟨false, [.point Operator.times.sign], .exact⟩
  | divide => ⟨false, [.point Operator.divide.sign], .exact⟩
  | space => ⟨false, [.category .blank false false], .exact⟩

def accepts (k : Kind) (c : Nat) : Bool :=
  k.charSet.accepts c

def root (k : Kind) : Pattern.Node :=
  if k.repeats then .loop .greedy 1 none (.char k.charSet)
  else .char k.charSet

def definition (k : Kind) : Definition :=
  ⟨.arithmetic k, .pattern
    ⟨(patterns.lookup k).getD #[], Pattern.Flags.none.turnOn .unicode, k.root⟩⟩

def of? (c : Nat) : Option Kind :=
  all.find? (·.accepts c)

/-- The token of the kind that stands at the front of the code points. -/
def front (k : Kind) (l : List Nat) : List Nat :=
  (if k.repeats then l else l.take 1).takeWhile k.accepts

end Kind

theorem definitions_eq : definitions = Kind.all.map Kind.definition := by
  decide +kernel

theorem Kind.accepts_number (c : Nat) :
    accepts .number c = CodePoint.isAsciiDigit c := by
  simp [accepts, charSet, Pattern.CharSet.accepts, Pattern.Item.accepts,
    Pattern.Folding.variants, CodePoint.isAsciiDigit]

theorem Kind.accepts_space (c : Nat) :
    accepts .space c = CodePoint.isBlank c := by
  simp [accepts, charSet, Pattern.CharSet.accepts, Pattern.Item.accepts,
    Pattern.Category.contains]

theorem Kind.accepts_operator (o : Operator) (c : Nat) :
    accepts o.kind c = decide (c = o.sign) := by
  cases o <;>
    simp [accepts, charSet, Operator.kind, Pattern.CharSet.accepts,
      Pattern.Item.accepts, Pattern.Folding.variants, eq_comm]

theorem Operator.sign_injective {o p : Operator} (h : o.sign = p.sign) : o = p := by
  cases o <;> cases p <;> simp [sign] at h ⊢

theorem Operator.kind_injective {o p : Operator} (h : o.kind = p.kind) : o = p := by
  cases o <;> cases p <;> simp [kind] at h ⊢

theorem not_blank_of_digit {c : Nat} (h : CodePoint.isAsciiDigit c = true) :
    CodePoint.isBlank c = false := by
  simp only [CodePoint.isAsciiDigit, Bool.and_eq_true, decide_eq_true_eq] at h
  have hlow : ¬ c < 0x21 := by omega
  have hhigh : ¬ 0x85 ≤ c := by omega
  simp [CodePoint.isBlank, CodePoint.blanks, CodePoint.within, hhigh]
  omega

theorem Kind.cases_operator {motive : Kind → Prop} (number : motive .number)
    (space : motive .space) (operator : ∀ o : Operator, motive o.kind)
    (k : Kind) : motive k := by
  cases k with
  | number => exact number
  | plus => exact operator .plus
  | minus => exact operator .minus
  | times => exact operator .times
  | divide => exact operator .divide
  | space => exact space

theorem Kind.accepts_unique
    {k k' : Kind} {c : Nat} (h : k.accepts c = true) (h' : k'.accepts c = true) :
    k = k' := by
  have hsign : ∀ o : Operator, CodePoint.isAsciiDigit o.sign = false ∧
      CodePoint.isBlank o.sign = false := by
    intro o
    cases o <;> decide
  cases k using Kind.cases_operator with
  | number =>
      rw [accepts_number] at h
      cases k' using Kind.cases_operator with
      | number => rfl
      | space =>
          rw [accepts_space, not_blank_of_digit h] at h'
          cases h'
      | operator o =>
          rw [accepts_operator, decide_eq_true_eq] at h'
          rw [h', (hsign o).1] at h
          cases h
  | space =>
      rw [accepts_space] at h
      cases k' using Kind.cases_operator with
      | number =>
          rw [accepts_number] at h'
          rw [not_blank_of_digit h'] at h
          cases h
      | space => rfl
      | operator o =>
          rw [accepts_operator, decide_eq_true_eq] at h'
          rw [h', (hsign o).2] at h
          cases h
  | operator o =>
      rw [accepts_operator, decide_eq_true_eq] at h
      cases k' using Kind.cases_operator with
      | number =>
          rw [accepts_number, h, (hsign o).1] at h'
          cases h'
      | space =>
          rw [accepts_space, h, (hsign o).2] at h'
          cases h'
      | operator p =>
          rw [accepts_operator, decide_eq_true_eq] at h'
          rw [Operator.sign_injective (h.symm.trans h')]

theorem Kind.of?_eq_some_iff {c : Nat} {k : Kind} :
    of? c = some k ↔ k.accepts c = true := by
  unfold of?
  constructor
  · intro h
    exact List.find?_some (p := fun k : Kind => k.accepts c) h
  · intro h
    have hmem : k ∈ all := by cases k <;> decide
    cases hfind : all.find? (·.accepts c) with
    | none =>
        rw [List.find?_eq_none] at hfind
        exact absurd h (hfind k hmem)
    | some k' =>
        have haccepts := List.find?_some (p := fun k : Kind => k.accepts c) hfind
        rw [accepts_unique haccepts h]

namespace Kind

variable {k : Kind} {c : Nat} {l run rest : List Nat}

@[simp] theorem front_nil (k : Kind) : k.front [] = [] := by
  simp [front]

theorem front_cons (k : Kind) (c : Nat) (rest : List Nat) :
    k.front (c :: rest) =
      if k.accepts c then
        c :: if k.repeats then rest.takeWhile k.accepts else []
      else [] := by
  unfold front
  cases hrepeats : k.repeats with
  | true => simp [List.takeWhile_cons]
  | false => simp [List.takeWhile_cons]

theorem front_eq_nil_iff : k.front l = [] ↔ ∀ c ∈ l.head?, k.accepts c = false := by
  cases l with
  | nil => simp
  | cons c rest => simp [front_cons]

theorem take_front (k : Kind) (l : List Nat) :
    l.take (k.front l).length = k.front l := by
  have hfront : k.front l <+: l := by
    unfold front
    refine (List.takeWhile_prefix _).trans ?_
    split
    · exact List.prefix_rfl
    · exact List.take_prefix 1 l
  exact (List.prefix_iff_eq_take.mp hfront).symm

theorem length_front_le (k : Kind) (l : List Nat) : (k.front l).length ≤ l.length := by
  rw [← take_front, List.length_take]
  exact Nat.min_le_right _ _

theorem front_append_drop (k : Kind) (l : List Nat) :
    k.front l ++ l.drop (k.front l).length = l := by
  have hsplit := List.take_append_drop (k.front l).length l
  rw [take_front] at hsplit
  exact hsplit

theorem accepts_of_mem_front (h : c ∈ k.front l) : k.accepts c = true :=
  List.mem_takeWhile_imp h

theorem length_front_of_single (hrepeats : k.repeats = false) (h : k.front l ≠ []) :
    (k.front l).length = 1 := by
  cases l with
  | nil => simp at h
  | cons c rest =>
      have hc : k.accepts c = true := by
        simpa [front_eq_nil_iff] using h
      simp [front_cons, hc, hrepeats]

theorem head_drop_front (hrepeats : k.repeats = true) (l : List Nat) :
    ∀ d ∈ (l.drop (k.front l).length).head?, k.accepts d = false := by
  intro d hd
  have hfront : k.front l = l.takeWhile k.accepts := by
    simp [front, hrepeats]
  have hdrop : l.drop (k.front l).length = l.dropWhile k.accepts := by
    apply (List.append_right_inj (k.front l)).mp
    rw [front_append_drop, hfront, List.takeWhile_append_dropWhile]
  have hnot := List.head?_dropWhile_not k.accepts l
  rw [hdrop] at hd
  rw [Option.mem_def.mp hd] at hnot
  simpa using hnot

/-- A single code point, or for a kind that repeats a run that goes no further,
is the token at the front. -/
theorem front_append
    (haccepts : ∀ c ∈ run, k.accepts c = true)
    (hsingle : k.repeats = false → run.length = 1)
    (hstop : k.repeats = true → ∀ c ∈ rest.head?, k.accepts c = false) :
    k.front (run ++ rest) = run := by
  unfold front
  cases hrepeats : k.repeats with
  | true =>
      simp only [if_true]
      rw [List.takeWhile_append_of_pos haccepts]
      have hrest : rest.takeWhile k.accepts = [] := by
        cases rest with
        | nil => rfl
        | cons c rest => simp [hstop hrepeats c rfl]
      rw [hrest, List.append_nil]
  | false =>
      simp only [Bool.false_eq_true, if_false]
      rw [List.take_append_of_le_length (by simp [hsingle hrepeats]),
        List.take_of_length_le (by simp [hsingle hrepeats])]
      exact List.takeWhile_eq_self_iff.mpr haccepts

/-- A token goes on in what follows only if that prolongs it. -/
theorem front_append_of_stop
    (hfront : k.front l ≠ [])
    (hstop : k.repeats = true → k.front l = l → ∀ c ∈ rest.head?, k.accepts c = false) :
    k.front (l ++ rest) = k.front l := by
  have hsplit := k.front_append_drop l
  conv => lhs; rw [← hsplit, List.append_assoc]
  apply front_append
  · intro c hc
    exact accepts_of_mem_front hc
  · intro hrepeats
    exact length_front_of_single hrepeats hfront
  · intro hrepeats d hd
    cases hleft : l.drop (k.front l).length with
    | nil =>
        rw [hleft] at hd hsplit
        rw [List.append_nil] at hsplit
        exact hstop hrepeats hsplit d hd
    | cons c left =>
        rw [hleft] at hd
        apply head_drop_front hrepeats l
        rw [hleft]
        exact hd

theorem front_induction
    {motive : List Nat → Prop} (stop : ∀ l, (∀ k : Kind, k.front l = []) → motive l)
    (token : ∀ (k : Kind) (l : List Nat), k.front l ≠ [] →
      motive (l.drop (k.front l).length) → motive l)
    (l : List Nat) : motive l := by
  induction hlength : l.length using Nat.strongRecOn generalizing l with
  | ind n ih =>
      by_cases hfronts : ∀ k : Kind, k.front l = []
      · exact stop l hfronts
      · obtain ⟨k, hfront⟩ := not_forall.mp hfronts
        have hpos := List.length_pos_of_ne_nil hfront
        have hle := k.length_front_le l
        apply token k l hfront
        exact ih _ (by rw [List.length_drop]; omega) _ rfl

theorem slice_front (k : Kind) (t : Text) (p : Nat) :
    t.slice p (p + (k.front (t.toList.drop p)).length) =
      (k.front (t.toList.drop p)).toArray := by
  rw [← Array.toList_inj, t.toList_slice, take_front]

theorem definition_ask
    (k : Kind) {t : Text} {p : Nat} (hp : p ≤ t.size) (b : Bench) :
    k.definition.rule.ask t p b =
      (.ok (if k.front (t.toList.drop p) = [] then none
        else some (k.front (t.toList.drop p)).toArray), b) := by
  have hend : k.root.matchEnd? t p =
      if k.front (t.toList.drop p) = [] then none
      else some (p + (k.front (t.toList.drop p)).length) := by
    unfold root
    cases hrepeats : k.repeats with
    | true =>
        rw [if_pos rfl, Pattern.Node.matchEnd?_repeat]
        change (let n := ((t.toList.drop p).takeWhile k.accepts).length
          if n = 0 then none else some (p + n)) = _
        unfold front
        simp only [hrepeats, if_true, List.length_eq_zero_iff]
    | false =>
        rw [if_neg Bool.false_ne_true, Pattern.Node.matchEnd?_char]
        change (if (t.toList.drop p).head?.any k.accepts then _ else _) = _
        cases t.toList.drop p with
        | nil => simp
        | cons c rest =>
            cases hc : k.accepts c with
            | true => simp [front_cons, hrepeats, hc]
            | false => simp [front_cons, hc]
  simp only [Definition.rule, definition]
  rw [Matcher.ask_pattern_of_takes (Starts.machine.takes_place t hp), Pattern.matchAt,
    Text.clamp_of_le hp, hend]
  split
  · rfl
  · rw [Option.map_some, slice_front]

theorem firstAnswer_definitions
    {t : Text} {p : Nat} (hp : p ≤ t.size) (ks : List Kind) (b : Bench) :
    Rule.firstAnswer t p (ks.map fun k => k.definition.rule) b =
      (.ok ((ks.find? fun k => k.front (t.toList.drop p) ≠ []).map fun k =>
        (.arithmetic k, (k.front (t.toList.drop p)).toArray)), b) := by
  induction ks with
  | nil => rfl
  | cons k ks ih =>
      rw [List.map_cons, Rule.firstAnswer, definition_ask k hp]
      by_cases hfront : k.front (t.toList.drop p) = []
      · simp [hfront, ih]
      · simp [hfront]
        rfl

end Kind

/-! ## Lexing without patterns -/

/-- The tokens of a list of code points that starts at index `i`. -/
def lex (i : Nat) : List Nat → List Token
  | [] => []
  | c :: rest =>
    match Kind.of? c with
    | none => []
    | some k =>
      let front := k.front (c :: rest)
      ⟨i, .arithmetic k, front.toArray⟩ ::
        lex (i + front.length) (rest.drop (front.length - 1))
termination_by l => l.length

@[simp] theorem lex_nil (i : Nat) : lex i [] = [] := by
  rw [lex]

theorem lex_of_none {c : Nat} (h : Kind.of? c = none) (i : Nat) (rest : List Nat) :
    lex i (c :: rest) = [] := by
  rw [lex, h]

theorem lex_of_front
    {k : Kind} {l : List Nat} (h : k.front l ≠ []) (i : Nat) :
    lex i l =
      ⟨i, .arithmetic k, (k.front l).toArray⟩ ::
        lex (i + (k.front l).length) (l.drop (k.front l).length) := by
  cases l with
  | nil => simp at h
  | cons c rest =>
      have hc : k.accepts c = true := by
        simpa [Kind.front_eq_nil_iff] using h
      have hlength : (k.front (c :: rest)).length =
          (k.front (c :: rest)).length - 1 + 1 := by
        have hpos := List.length_pos_of_ne_nil h
        omega
      rw [lex, Kind.of?_eq_some_iff.mpr hc]
      simp only
      conv => rhs; rw [hlength, List.drop_succ_cons, ← hlength]

theorem lex_of_fronts
    {l : List Nat} (h : ∀ k : Kind, k.front l = []) (i : Nat) :
    lex i l = [] := by
  cases l with
  | nil => exact lex_nil i
  | cons c rest =>
      refine lex_of_none ?_ i rest
      cases hc : Kind.of? c with
      | none => rfl
      | some k =>
          have haccepts := Kind.of?_eq_some_iff.mp hc
          have hnot := Kind.front_eq_nil_iff.mp (h k) c rfl
          rw [haccepts] at hnot
          cases hnot

theorem lex_append_of_fronts
    {l : List Nat} (hne : l ≠ []) (h : ∀ k : Kind, k.front l = []) (i : Nat)
    (rest : List Nat) :
    lex i (l ++ rest) = [] := by
  apply lex_of_fronts
  intro k
  have hhead := Kind.front_eq_nil_iff.mp (h k)
  rw [Kind.front_eq_nil_iff, List.head?_append_of_ne_nil l hne]
  exact hhead

/-! ## The cursor finds these tokens -/

def source (t : Text) : Source Refusal Bench :=
  ⟨Kind.all.map fun k => k.definition.rule, t⟩

variable {t : Text} {p : Nat} {c : Cursor Refusal Bench}

theorem find_front
    {k : Kind} {l : List Nat} (h : k.front l ≠ []) :
    Kind.all.find? (fun k => k.front l ≠ []) = some k := by
  cases l with
  | nil => simp at h
  | cons c rest =>
      have haccepts : ∀ k : Kind, decide (k.front (c :: rest) ≠ []) = k.accepts c := by
        intro k
        simp [Kind.front_eq_nil_iff]
      simp only [haccepts]
      have hc := haccepts k
      simp only [h, ne_eq, not_false_eq_true, decide_true] at hc
      exact Kind.of?_eq_some_iff.mpr hc.symm

theorem step_of_fronts
    (hp : p ≤ t.size) (hlive : c.Live (source t) p)
    (h : ∀ k : Kind, k.front (t.toList.drop p) = []) (b : Bench) :
    ∃ c', c.step b = (.ok none, c', b) := by
  obtain ⟨hsource, hexhausted, hposition⟩ := hlive
  have hanswer := Kind.firstAnswer_definitions hp Kind.all b
  have hfind : Kind.all.find? (fun k => k.front (t.toList.drop p) ≠ []) = none := by
    rw [List.find?_eq_none]
    intro k _
    simp [h k]
  rw [hfind] at hanswer
  refine ⟨{ c with exhausted := true, current := none }, ?_⟩
  unfold Cursor.step
  rw [hexhausted, hsource, hposition]
  simp only [source, hanswer, Option.map_none]

theorem step_of_front
    (hp : p ≤ t.size) (hlive : c.Live (source t) p)
    {k : Kind} (h : k.front (t.toList.drop p) ≠ []) (b : Bench) :
    ∃ c', c.step b =
        (.ok (some ⟨p, .arithmetic k, (k.front (t.toList.drop p)).toArray⟩), c', b) ∧
      c'.Live (source t) (p + (k.front (t.toList.drop p)).length) := by
  obtain ⟨hsource, hexhausted, hposition⟩ := hlive
  have hanswer := Kind.firstAnswer_definitions hp Kind.all b
  rw [find_front h] at hanswer
  let a : Token := ⟨p, .arithmetic k, (k.front (t.toList.drop p)).toArray⟩
  refine ⟨{ c with current := some a, position := c.position + a.value.size }, ?_,
    hsource, hexhausted, ?_⟩
  · unfold Cursor.step
    rw [hexhausted, hsource]
    simp only [source, hposition, hanswer, Option.map_some]
    rw [Token.build_of_ne (by simpa using h)]
  · simp [a, hposition]

/-- A cursor that looks at `p` makes the tokens of what is left there. -/
theorem drains_lex
    (hp : p ≤ t.size) (hlive : c.Live (source t) p) (b : Bench) :
    ∃ c', c.Drains b (.ok (lex p (t.toList.drop p))) c' b := by
  induction hl : t.toList.drop p using Kind.front_induction generalizing c p with
  | stop l hfronts =>
      subst hl
      obtain ⟨c', hstep⟩ := step_of_fronts hp hlive hfronts b
      rw [lex_of_fronts hfronts]
      exact ⟨c', .finished hstep⟩
  | token k l hfront ih =>
      subst hl
      obtain ⟨c₁, hstep, hlive₁⟩ := step_of_front hp hlive hfront b
      have hlength : (k.front (t.toList.drop p)).length ≤ t.size - p :=
        (k.length_front_le _).trans_eq (by simp)
      obtain ⟨c', hdrains⟩ := ih (by omega) hlive₁ List.drop_drop.symm
      rw [lex_of_front hfront]
      exact ⟨c', .token hstep hdrains⟩

theorem cursor_definitions (t : Text) :
    (Scanner.mk definitions t).cursor = .start (source t) := by
  unfold Scanner.cursor source
  rw [definitions_eq, List.map_map]
  rfl

theorem scan_eq_lex (t : Text) : scan t = lex 0 t.toList := by
  have hdrains := Scanner.tokens_drains ⟨definitions, t⟩ .empty
  rw [cursor_definitions] at hdrains
  obtain ⟨c', hlex⟩ := drains_lex (Nat.zero_le _) (Cursor.start_live (source t)) .empty
  obtain ⟨htokens, _, _⟩ := hdrains.unique hlex
  rw [List.drop_zero] at htokens
  unfold scan
  generalize (Scanner.mk definitions t).tokens .empty = outcome at htokens
  obtain ⟨tokens, rest⟩ := outcome
  simp only at htokens
  rw [htokens]

end Arithmetic

end FirstMatch
