import FirstMatch.Error
import Mathlib.Data.List.Induction
import Mathlib.Data.List.TakeWhile

/-!
# Looking up a place agrees with scanning for it

The line feeds below `i` come from the text in front of `i`, and all others from the rest.
So their number is the one point where the table switches from entries below `i` to entries
that are not, and halving keeps that point inside its range.
-/

namespace FirstMatch

def Location.after (l : Location) (c : Nat) : Location :=
  if CodePoint.isBreak c then ⟨l.line + 1, 1⟩ else ⟨l.line, l.column + 1⟩

/-! ## Lines by counting -/

namespace Text

theorem locationAfter_concat (before : List Nat) (c : Nat) :
    locationAfter (before ++ [c]) = (locationAfter before).after c := by
  by_cases hc : CodePoint.isBreak c = true
  · simp [locationAfter, Location.after, hc]
  · simp [locationAfter, Location.after, hc]

theorem locationAfter_eq_foldl (before : List Nat) :
    locationAfter before = before.foldl Location.after ⟨1, 1⟩ := by
  induction before using List.reverseRecOn with
  | nil => rfl
  | append_singleton before c ih =>
      rw [locationAfter_concat, List.foldl_append, ih]
      rfl

theorem countP_of_no_break
    {line : List Nat} (hline : ∀ c ∈ line, CodePoint.isBreak c = false) :
    line.countP CodePoint.isBreak = 0 := by
  simpa [List.countP_eq_zero] using hline

theorem locationAfter_of_no_break
    {line : List Nat} (hline : ∀ c ∈ line, CodePoint.isBreak c = false) :
    locationAfter line = ⟨1, line.length + 1⟩ := by
  have hcount := countP_of_no_break hline
  have hall : line.reverse.takeWhile (fun c => !CodePoint.isBreak c) =
      line.reverse := by
    apply List.takeWhile_eq_self_iff.mpr
    simpa using hline
  simp [locationAfter, hcount, hall]

theorem locationAfter_of_last_break
    (before : List Nat) {c : Nat} (hc : CodePoint.isBreak c = true)
    {line : List Nat} (hline : ∀ d ∈ line, CodePoint.isBreak d = false) :
    locationAfter (before ++ c :: line) =
      ⟨before.countP CodePoint.isBreak + 2, line.length + 1⟩ := by
  have hcount := countP_of_no_break hline
  have hline' : ∀ d ∈ line.reverse, (!CodePoint.isBreak d) = true := by
    simpa using hline
  simp [locationAfter, hc, hcount, List.takeWhile_append_of_pos hline']

theorem exists_last_break (front : List Nat) :
    (∀ c ∈ front, CodePoint.isBreak c = false) ∨
      ∃ before c line, front = before ++ c :: line ∧
        CodePoint.isBreak c = true ∧
        ∀ d ∈ line, CodePoint.isBreak d = false := by
  induction front using List.reverseRecOn with
  | nil => simp
  | append_singleton front d ih =>
      cases hd : CodePoint.isBreak d with
      | true => exact .inr ⟨front, d, [], rfl, hd, by simp⟩
      | false =>
          rcases ih with hnone | ⟨before, c, line, rfl, hc, hline⟩
          · left
            simpa [or_imp, forall_and, hd] using hnone
          · right
            have hline' : ∀ e ∈ line ++ [d], CodePoint.isBreak e = false := by
              simpa [or_imp, forall_and, hd] using hline
            exact ⟨before, c, line ++ [d], by simp, hc, hline'⟩

end Text

namespace LineIndex

/-! ## The table of line feeds -/

theorem breaksFrom_append (start : Nat) (front rest : List Nat) :
    breaksFrom start (front ++ rest) =
      breaksFrom start front ++ breaksFrom (start + front.length) rest := by
  induction front generalizing start with
  | nil => rfl
  | cons c front ih =>
      have hstart : start + 1 + front.length = start + (front.length + 1) := by
        omega
      by_cases hc : CodePoint.isBreak c = true
      · simp [breaksFrom, hc, ih, hstart]
      · simp [breaksFrom, hc, ih, hstart]

theorem length_breaksFrom (start : Nat) (l : List Nat) :
    (breaksFrom start l).length = l.countP CodePoint.isBreak := by
  induction l generalizing start with
  | nil => rfl
  | cons c l ih =>
      by_cases hc : CodePoint.isBreak c = true
      · simp [breaksFrom, hc, ih]
      · simp [breaksFrom, hc, ih]

theorem bounds_of_mem_breaksFrom
    {start : Nat} {l : List Nat} {b : Nat} (hb : b ∈ breaksFrom start l) :
    start ≤ b ∧ b < start + l.length := by
  induction l generalizing start with
  | nil => simp [breaksFrom] at hb
  | cons c l ih =>
      have htail : b ∈ breaksFrom (start + 1) l →
          start ≤ b ∧ b < start + (c :: l).length := by
        intro hmem
        have hbounds := ih hmem
        simp only [List.length_cons]
        omega
      by_cases hc : CodePoint.isBreak c = true
      · simp only [breaksFrom, hc, if_true, List.mem_cons] at hb
        rcases hb with heq | hmem
        · simp only [List.length_cons]
          omega
        · exact htail hmem
      · simp only [breaksFrom, hc] at hb
        exact htail hb

/-! ## The search -/

/-- If the entries of the table are below `i` exactly in front of place `k`, and
`k` lies in the range, then `k` is found. -/
theorem searchBetween_eq
    {breaks : Array Nat} {i k : Nat}
    (hbelow : ∀ j, j < k → breaks.getD j 0 < i)
    (habove : ∀ j, k ≤ j → j < breaks.size → i ≤ breaks.getD j 0)
    {fuel lo hi : Nat} (hlo : lo ≤ k) (hhi : k ≤ hi) (hsize : hi ≤ breaks.size)
    (hfuel : hi - lo < fuel) :
    searchBetween breaks i fuel lo hi = k := by
  induction fuel generalizing lo hi with
  | zero => omega
  | succ fuel ih =>
      unfold searchBetween
      by_cases hrange : lo < hi
      · simp only [hrange, if_true]
        by_cases hmiddle : breaks.getD ((lo + hi) / 2) 0 < i
        · have hk : (lo + hi) / 2 < k := by
            by_contra hle
            have hnot := habove ((lo + hi) / 2) (by omega) (by omega)
            omega
          simp only [hmiddle, if_true]
          exact ih (by omega) hhi hsize (by omega)
        · have hk : k ≤ (lo + hi) / 2 := by
            by_contra hlt
            exact hmiddle (hbelow _ (by omega))
          simp only [hmiddle, if_false]
          exact ih hlo hk (by omega) (by omega)
      · simp only [hrange, if_false]
        omega

/-- The table of a text whose front is `front` has first the line feeds of the
front, and then those that stand behind it. -/
theorem breaksBefore_append (front rest : List Nat) :
    (ofText (front ++ rest).toArray).breaksBefore front.length =
      front.countP CodePoint.isBreak := by
  have hbreaks : (ofText (front ++ rest).toArray).breaks =
      (breaksFrom 0 front ++ breaksFrom front.length rest).toArray := by
    simp [ofText, breaksFrom_append]
  have hlength : (breaksFrom 0 front).length = front.countP CodePoint.isBreak :=
    length_breaksFrom 0 front
  unfold breaksBefore
  rw [hbreaks, ← hlength]
  apply searchBetween_eq
  · intro j hj
    have hmem := List.getElem_mem hj
    have hbounds := bounds_of_mem_breaksFrom hmem
    simp only [Array.getD_eq_getD_getElem?, List.getElem?_toArray,
      List.getElem?_append_left hj, List.getElem?_eq_getElem hj,
      Option.getD_some]
    omega
  · intro j hj hsize
    simp only [List.size_toArray, List.length_append] at hsize
    have hj' : j - (breaksFrom 0 front).length <
        (breaksFrom front.length rest).length := by
      omega
    have hmem := List.getElem_mem hj'
    have hbounds := bounds_of_mem_breaksFrom hmem
    simp only [Array.getD_eq_getD_getElem?, List.getElem?_toArray,
      List.getElem?_append_right hj, List.getElem?_eq_getElem hj',
      Option.getD_some]
    exact hbounds.1
  · omega
  · simp
  · simp
  · omega

theorem getD_breaks_last
    (before : List Nat) {c : Nat} (hc : CodePoint.isBreak c = true)
    (rest : List Nat) :
    (ofText (before ++ c :: rest).toArray).breaks.getD
      (before.countP CodePoint.isBreak) 0 = before.length := by
  have hbreaks : breaksFrom 0 (before ++ c :: rest) =
      breaksFrom 0 before ++ before.length ::
        breaksFrom (before.length + 1) rest := by
    simp [breaksFrom_append, breaksFrom, hc]
  have hlength := length_breaksFrom 0 before
  simp [ofText, hbreaks, ← hlength]

theorem place_append (front rest : List Nat) :
    (ofText (front ++ rest).toArray).place front.length =
      Text.locationAfter front := by
  have hline := breaksBefore_append front rest
  unfold place
  rw [hline]
  rcases Text.exists_last_break front with hnone | ⟨before, c, line, rfl, hc, hlast⟩
  · simp [Text.countP_of_no_break hnone, Text.locationAfter_of_no_break hnone]
  · have hcount : (before ++ c :: line).countP CodePoint.isBreak =
        before.countP CodePoint.isBreak + 1 := by
      simp [hc, Text.countP_of_no_break hlast]
    have hstart := getD_breaks_last before hc (line ++ rest)
    have htext : before ++ c :: line ++ rest = before ++ c :: (line ++ rest) := by
      simp
    rw [Text.locationAfter_of_last_break before hc hlast, hcount, htext]
    simp only [Nat.add_one_ne_zero, if_false, Nat.add_sub_cancel, hstart,
      List.length_append, List.length_cons, Location.mk.injEq, true_and]
    omega

theorem place_eq_locate {t : Text} {i : Nat} (hi : i ≤ t.size) :
    (ofText t).place i = t.locate i := by
  have hplace := place_append (t.toList.take i) (t.toList.drop i)
  have hlength : (t.toList.take i).length = i := by
    simp [hi]
  rw [List.take_append_drop, hlength] at hplace
  exact hplace

example : (ofText (text "ab\n\ncd")).location 4 = .ok ⟨3, 1⟩ := by rfl

end LineIndex

end FirstMatch
