import FirstMatch.Proofs.TokenPlaces
import Mathlib.Data.Nat.Find
import Mathlib.Data.Set.Function

/-!
# Indices and places correspond

Line `k`, counted from 0, extends from `lineStart k` up to the line feed that ends it, and
the last line up to the end of the text.  These extents, ends included, cover the indices
of the text without overlapping.
-/

namespace FirstMatch

def Text.lines (t : Text) : List (List Nat) :=
  t.toList.splitOnP CodePoint.isBreak

namespace LineIndex

/-- Where line `k`, counted from 0, starts. -/
def lineStart (x : LineIndex) (k : Nat) : Nat :=
  if k = 0 then 0 else x.breaks.getD (k - 1) 0 + 1

/-- The line feed that ends line `k`, or the end of the text. -/
def lineStop (x : LineIndex) (k : Nat) : Nat :=
  x.breaks.getD k x.length

/-- The index of a place, from the line feed in front of its line. -/
def indexAt (x : LineIndex) (l : Location) : Int :=
  if l.line = 1 then l.column - 1 else x.breaks.getD (l.line - 2) 0 + l.column

end LineIndex

def Text.indices (t : Text) : Set Int :=
  {i | 0 ≤ i ∧ i ≤ t.size}

/-- The places of a text: on every line one in front of each code point, and one
behind the last. -/
def Text.places (t : Text) : Set Location :=
  {l | 1 ≤ l.line ∧ l.line ≤ (LineIndex.ofText t).lineCount ∧
    1 ≤ l.column ∧ l.column ≤ (t.lines.getD (l.line - 1) []).length + 1}

namespace LineIndex

/-! ## Lines between line feeds -/

theorem length_splitOnP_isBreak (l : List Nat) :
    (l.splitOnP CodePoint.isBreak).length = l.countP CodePoint.isBreak + 1 := by
  induction l with
  | nil => rfl
  | cons c l ih =>
      rw [List.splitOnP_cons_eq_if_modifyHead]
      by_cases hc : CodePoint.isBreak c = true
      · simp [hc, ih]
      · simp [hc, ih]

theorem pairwise_breaksFrom (start : Nat) (l : List Nat) :
    (breaksFrom start l).Pairwise (· < ·) := by
  induction l generalizing start with
  | nil => exact .nil
  | cons c l ih =>
      by_cases hc : CodePoint.isBreak c = true
      · simp only [breaksFrom, hc, if_true]
        refine .cons ?_ (ih (start + 1))
        intro b hb
        have hbounds := bounds_of_mem_breaksFrom hb
        omega
      · simp only [breaksFrom, hc]
        exact ih (start + 1)

theorem stops_eq_zipWith (start : Nat) (l : List Nat) :
    breaksFrom start l ++ [start + l.length] =
      List.zipWith (· + ·) (start :: (breaksFrom start l).map (· + 1))
        ((l.splitOnP CodePoint.isBreak).map List.length) := by
  induction l generalizing start with
  | nil => rfl
  | cons c l ih =>
      have hrest := ih (start + 1)
      have hlength : start + (c :: l).length = start + 1 + l.length := by
        rw [List.length_cons]
        omega
      rw [List.splitOnP_cons_eq_if_modifyHead, hlength]
      by_cases hc : CodePoint.isBreak c = true
      · simp only [breaksFrom, hc, if_true, List.cons_append, List.map_cons,
          List.zipWith_cons_cons, List.length_nil, Nat.add_zero]
        rw [hrest]
      · simp only [breaksFrom, hc, Bool.false_eq_true, if_false]
        rw [hrest]
        cases hlines : l.splitOnP CodePoint.isBreak with
        | nil => exact absurd hlines (List.splitOnP_ne_nil _ _)
        | cons line lines =>
            simp only [List.modifyHead_cons, List.map_cons,
              List.zipWith_cons_cons, List.length_cons, List.cons.injEq, and_true]
            omega

theorem lineCount_eq (t : Text) : (ofText t).lineCount = t.lines.length := by
  rw [Text.lines, length_splitOnP_isBreak, ← length_breaksFrom 0]
  rfl

variable {t : Text} {i j k : Nat}

theorem lineStop_eq (hk : k ≤ (ofText t).breaks.size) :
    (ofText t).lineStop k = (ofText t).lineStart k + (t.lines.getD k []).length := by
  have hbreaks : k ≤ (breaksFrom 0 t.toList).length := hk
  have hlines : k < t.lines.length := by
    rw [← lineCount_eq]
    exact Nat.lt_succ_of_le hk
  have hstops := congrArg (·[k]?) (stops_eq_zipWith 0 t.toList)
  have hstop : (breaksFrom 0 t.toList ++ [0 + t.toList.length])[k]? =
      some ((ofText t).lineStop k) := by
    unfold lineStop ofText
    by_cases hlast : k < (breaksFrom 0 t.toList).length
    · simp [List.getElem?_append_left hlast, hlast]
    · have heq : k = (breaksFrom 0 t.toList).length := by omega
      simp [heq]
  have hstart : (0 :: (breaksFrom 0 t.toList).map (· + 1))[k]? =
      some ((ofText t).lineStart k) := by
    unfold lineStart ofText
    cases k with
    | zero => rfl
    | succ k =>
        have hk' : k < (breaksFrom 0 t.toList).length := hbreaks
        simp [hk']
  have hline : (t.lines.map List.length)[k]? = some (t.lines.getD k []).length := by
    simp [hlines]
  simp only [List.getElem?_zipWith] at hstops
  rw [hstop, hstart, ← Text.lines, hline] at hstops
  exact Option.some.inj hstops

/-! ## The line of an index -/

theorem getD_breaks_lt
    (hij : i < j) (hj : j < (ofText t).breaks.size) :
    (ofText t).breaks.getD i 0 < (ofText t).breaks.getD j 0 := by
  have hj' : j < (breaksFrom 0 t.toList).length := hj
  have hlt := List.pairwise_iff_getElem.mp (pairwise_breaksFrom 0 t.toList) i j
    (Nat.lt_trans hij hj') hj' hij
  simpa [ofText, hj', Nat.lt_trans hij hj'] using hlt

theorem lineStop_of_lt (hk : k < (ofText t).breaks.size) :
    (ofText t).lineStop k = (ofText t).breaks.getD k 0 := by
  simp [lineStop, hk]

theorem lineStop_size : (ofText t).lineStop (ofText t).breaks.size = t.size := by
  simp [lineStop, ofText]

theorem lineStart_succ (x : LineIndex) (k : Nat) :
    x.lineStart (k + 1) = x.breaks.getD k 0 + 1 :=
  rfl

theorem lineStop_lt_lineStart
    (hij : i < j) (hj : j ≤ (ofText t).breaks.size) :
    (ofText t).lineStop i < (ofText t).lineStart j := by
  obtain ⟨m, rfl⟩ := Nat.exists_eq_succ_of_ne_zero (Nat.ne_zero_of_lt hij)
  rw [lineStop_of_lt (by omega), Nat.succ_eq_add_one, lineStart_succ]
  by_cases heq : i = m
  · rw [heq]
    omega
  · have hlt := getD_breaks_lt (t := t) (i := i) (j := m) (by omega) (by omega)
    omega

theorem breaksBefore_eq
    (hk : k ≤ (ofText t).breaks.size) (hstart : (ofText t).lineStart k ≤ i)
    (hstop : i ≤ (ofText t).lineStop k) :
    (ofText t).breaksBefore i = k := by
  unfold breaksBefore
  apply searchBetween_eq
  · intro j hj
    have hlt := lineStop_lt_lineStart (t := t) hj hk
    rw [lineStop_of_lt (by omega)] at hlt
    omega
  · intro j hj hsize
    by_cases heq : j = k
    · rw [heq, ← lineStop_of_lt (by omega)]
      exact hstop
    · have hlt := getD_breaks_lt (t := t) (i := k) (j := j) (by omega) hsize
      rw [← lineStop_of_lt (by omega)] at hlt
      omega
  · omega
  · exact hk
  · omega
  · omega

theorem exists_line (hi : i ≤ t.size) :
    ∃ k, k ≤ (ofText t).breaks.size ∧ (ofText t).lineStart k ≤ i ∧
      i ≤ (ofText t).lineStop k := by
  have hlast : i ≤ (ofText t).lineStop (ofText t).breaks.size := by
    rw [lineStop_size]
    exact hi
  have hexists : ∃ k, i ≤ (ofText t).lineStop k := ⟨_, hlast⟩
  -- the first line that does not stop in front of `i`
  refine ⟨Nat.find hexists, Nat.find_min' hexists hlast, ?_, Nat.find_spec hexists⟩
  have hle := Nat.find_min' hexists hlast
  have hbefore : ∀ m, m < Nat.find hexists → (ofText t).lineStop m < i := by
    intro m hm
    exact Nat.lt_of_not_le (Nat.find_min hexists hm)
  generalize Nat.find hexists = k at hle hbefore ⊢
  cases k with
  | zero => exact Nat.zero_le i
  | succ m =>
      have hlt := hbefore m (Nat.lt_succ_self m)
      rw [lineStop_of_lt hle] at hlt
      exact hlt

theorem lineStop_le (t : Text) (k : Nat) :
    (ofText t).lineStop k ≤ t.size := by
  by_cases hlast : k < (ofText t).breaks.size
  · have hmem : (breaksFrom 0 t.toList).getD k 0 ∈ breaksFrom 0 t.toList := by
      have hk' : k < (breaksFrom 0 t.toList).length := hlast
      simp [hk']
    have hbounds := bounds_of_mem_breaksFrom hmem
    rw [lineStop_of_lt hlast]
    simp [ofText] at hbounds ⊢
    omega
  · have hlast' : (breaksFrom 0 t.toList).length ≤ k := Nat.le_of_not_lt hlast
    simp [lineStop, ofText, hlast']

/-! ## Indices and places -/

theorem location_of_line
    (hk : k ≤ (ofText t).breaks.size) (hstart : (ofText t).lineStart k ≤ i)
    (hstop : i ≤ (ofText t).lineStop k) :
    (ofText t).location i = .ok ⟨k + 1, i - (ofText t).lineStart k + 1⟩ := by
  have hi : i ≤ t.size := Nat.le_trans hstop (lineStop_le t k)
  have hrange : (0 : Int) ≤ i ∧ (i : Int) ≤ (ofText t).length := by
    simp only [ofText]
    omega
  rw [location, if_pos hrange, Int.toNat_natCast, place, breaksBefore_eq hk hstart hstop]
  rfl

theorem exists_of_location_eq_ok
    {i : Int} {l : Location} (h : (ofText t).location i = .ok l) :
    ∃ n k : Nat, i = n ∧ k ≤ (ofText t).breaks.size ∧ (ofText t).lineStart k ≤ n ∧
      n ≤ (ofText t).lineStop k ∧ l = ⟨k + 1, n - (ofText t).lineStart k + 1⟩ := by
  by_cases hrange : 0 ≤ i ∧ i ≤ (ofText t).length
  · have hi : i.toNat ≤ t.size := by
      simp only [ofText] at hrange
      omega
    have hn : (i.toNat : Int) = i := Int.toNat_of_nonneg hrange.1
    obtain ⟨k, hk, hstart, hstop⟩ := exists_line hi
    have hline := location_of_line hk hstart hstop
    rw [hn, h] at hline
    exact ⟨i.toNat, k, hn.symm, hk, hstart, hstop, Except.ok.inj hline⟩
  · rw [location, if_neg hrange] at h
    cases h

theorem indexAt_eq (x : LineIndex) (k column : Nat) :
    x.indexAt ⟨k + 1, column + 1⟩ = x.lineStart k + column := by
  cases k with
  | zero =>
      simp [indexAt, lineStart]
  | succ k =>
      simp [indexAt, lineStart]
      omega

/-- The place of an index determines the index, and every place of the text is the
place of one. -/
theorem location_eq_ok_iff {i : Int} {l : Location} :
    (ofText t).location i = .ok l ↔ l ∈ t.places ∧ i = (ofText t).indexAt l := by
  constructor
  · intro h
    obtain ⟨n, k, rfl, hk, hstart, hstop, rfl⟩ := exists_of_location_eq_ok h
    rw [indexAt_eq]
    rw [lineStop_eq hk] at hstop
    have hcolumn : n - (ofText t).lineStart k ≤ (t.lines.getD k []).length := by
      omega
    constructor
    · exact ⟨Nat.le_add_left 1 k, Nat.succ_le_succ hk, Nat.le_add_left 1 _,
        Nat.succ_le_succ hcolumn⟩
    · omega
  · rintro ⟨⟨hline, hlast, hcolumn, hend⟩, rfl⟩
    obtain ⟨line, column⟩ := l
    obtain ⟨k, rfl⟩ := Nat.exists_eq_add_of_le' hline
    obtain ⟨c, rfl⟩ := Nat.exists_eq_add_of_le' hcolumn
    simp only [Nat.add_sub_cancel] at hend
    have hk : k ≤ (ofText t).breaks.size := Nat.le_of_succ_le_succ hlast
    have hstop : (ofText t).lineStart k + c ≤ (ofText t).lineStop k := by
      rw [lineStop_eq hk]
      omega
    have hlocation := location_of_line hk (Nat.le_add_right _ c) hstop
    rw [indexAt_eq, ← Int.natCast_add, hlocation, Nat.add_sub_cancel_left]

theorem precedes_of_lt
    {i j : Int} {l m : Location} (hl : (ofText t).location i = .ok l)
    (hm : (ofText t).location j = .ok m) (hij : i < j) :
    l.Precedes m := by
  obtain ⟨n, k, rfl, hk, hstart, hstop, rfl⟩ := exists_of_location_eq_ok hl
  obtain ⟨n', k', rfl, hk', hstart', hstop', rfl⟩ := exists_of_location_eq_ok hm
  unfold Location.Precedes
  rcases Nat.lt_trichotomy k k' with hlt | rfl | hgt
  · left
    exact Nat.succ_lt_succ hlt
  · right
    refine ⟨rfl, ?_⟩
    simp only
    omega
  · have hbefore := lineStop_lt_lineStart (t := t) hgt hk
    omega

theorem exists_location_iff {i : Int} :
    (∃ l, (ofText t).location i = .ok l) ↔ i ∈ t.indices := by
  constructor
  · rintro ⟨l, hl⟩
    by_contra houtside
    have herror : (ofText t).location i = .error ⟨i, t.size⟩ := if_neg houtside
    rw [herror] at hl
    cases hl
  · intro hrange
    exact ⟨_, if_pos hrange⟩

theorem precedes_iff_lt {i j : Int} :
    (∃ l m, (ofText t).location i = .ok l ∧ (ofText t).location j = .ok m ∧
      l.Precedes m) ↔ 0 ≤ i ∧ i < j ∧ j ≤ t.size := by
  constructor
  · rintro ⟨l, m, hl, hm, hlm⟩
    have hi : 0 ≤ i ∧ i ≤ t.size := exists_location_iff.mp ⟨l, hl⟩
    have hj : 0 ≤ j ∧ j ≤ t.size := exists_location_iff.mp ⟨m, hm⟩
    refine ⟨hi.1, ?_, hj.2⟩
    by_contra hle
    -- then `m` is `l` or comes first, so the two do not stand in the order assumed
    by_cases heq : i = j
    · rw [heq, hm] at hl
      cases hl
      unfold Location.Precedes at hlm
      omega
    · have hml := precedes_of_lt hm hl (by omega)
      unfold Location.Precedes at hlm hml
      omega
  · rintro ⟨hi, hij, hj⟩
    obtain ⟨l, hl⟩ := (exists_location_iff (t := t)).mpr ⟨hi, by omega⟩
    obtain ⟨m, hm⟩ := (exists_location_iff (t := t)).mpr ⟨by omega, hj⟩
    exact ⟨l, m, hl, hm, precedes_of_lt hl hm hij⟩

theorem bijOn_location :
    Set.BijOn (ofText t).location t.indices (Except.ok '' t.places) := by
  constructor
  · intro i hi
    obtain ⟨l, hl⟩ := exists_location_iff.mpr hi
    exact ⟨l, (location_eq_ok_iff.mp hl).1, hl.symm⟩
  constructor
  · intro i hi j _ hij
    obtain ⟨l, hl⟩ := exists_location_iff.mpr hi
    have hj : (ofText t).location j = .ok l := by
      rw [← hij, hl]
    rw [(location_eq_ok_iff.mp hl).2, (location_eq_ok_iff.mp hj).2]
  · rintro _ ⟨l, hplace, rfl⟩
    have hl := location_eq_ok_iff.mpr ⟨hplace, rfl⟩
    exact ⟨_, exists_location_iff.mp ⟨l, hl⟩, hl⟩

theorem location_size :
    ∃ column, (ofText t).location t.size = .ok ⟨(ofText t).lineCount, column⟩ := by
  have hstart : (ofText t).lineStart (ofText t).breaks.size ≤ t.size := by
    have hstop := lineStop_eq (t := t) (Nat.le_refl _)
    rw [lineStop_size] at hstop
    omega
  exact ⟨_, location_of_line (Nat.le_refl _) hstart (Nat.le_of_eq lineStop_size.symm)⟩

/-- Lookup is a bijection between the indices of a text, its end included, and its
places.  It keeps their order, and `indexAt` is its inverse. -/
theorem location_corresponds (t : Text) :
    Set.BijOn (ofText t).location t.indices (Except.ok '' t.places) ∧
    (∀ i l, (ofText t).location i = .ok l ↔ l ∈ t.places ∧ i = (ofText t).indexAt l) ∧
    (∀ i j,
      (∃ l m, (ofText t).location i = .ok l ∧ (ofText t).location j = .ok m ∧
        l.Precedes m) ↔ 0 ≤ i ∧ i < j ∧ j ≤ t.size) ∧
    (ofText t).lineCount = t.lines.length ∧
    ∃ column, (ofText t).location t.size = .ok ⟨(ofText t).lineCount, column⟩ :=
  ⟨bijOn_location, fun _ _ => location_eq_ok_iff, fun _ _ => precedes_iff_lt,
    lineCount_eq t, location_size⟩

end LineIndex

end FirstMatch
