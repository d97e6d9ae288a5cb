import FirstMatch.Proofs.LineLookup
import FirstMatch.Proofs.Partition
import FirstMatch.Survey

/-!
# The places of tokens follow from their values

A reader who walks along the tokens can keep line and column up to date from their values
alone.  The line index looks every place up in the whole text instead.  Because the tokens
leave no gap, both come to the same places.
-/

namespace FirstMatch

variable {ε σ : Type}

/-! ## Walking over a value -/

namespace Location

def behind (l : Location) (v : Text) : Location :=
  if ∀ c ∈ v.toList, CodePoint.isBreak c = false then
    ⟨l.line, l.column + v.size⟩
  else
    ⟨l.line + v.toList.countP CodePoint.isBreak,
      1 + (v.toList.reverse.takeWhile fun c => !CodePoint.isBreak c).length⟩

/-- The order of reading: by line, and on one line by column. -/
def Precedes (a b : Location) : Prop :=
  a.line < b.line ∨ a.line = b.line ∧ a.column < b.column

instance : DecidableRel Precedes := fun a b =>
  inferInstanceAs (Decidable (a.line < b.line ∨ a.line = b.line ∧ a.column < b.column))

instance : Trans Precedes Precedes Precedes where
  trans := by
    intro a b c hab hbc
    unfold Precedes at hab hbc ⊢
    omega

theorem foldl_after_of_no_break
    {line : List Nat} (hline : ∀ c ∈ line, CodePoint.isBreak c = false)
    (l : Location) :
    line.foldl after l = ⟨l.line, l.column + line.length⟩ := by
  induction line generalizing l with
  | nil => rfl
  | cons c line ih =>
      have hc : CodePoint.isBreak c = false := hline c List.mem_cons_self
      have hrest : ∀ d ∈ line, CodePoint.isBreak d = false := by
        intro d hd
        exact hline d (List.mem_cons_of_mem c hd)
      rw [List.foldl_cons, ih hrest]
      simp only [after, hc, Bool.false_eq_true, if_false, List.length_cons,
        Location.mk.injEq, true_and]
      omega

theorem line_foldl_after (value : List Nat) (l : Location) :
    (value.foldl after l).line = l.line + value.countP CodePoint.isBreak := by
  induction value generalizing l with
  | nil => rfl
  | cons c value ih =>
      rw [List.foldl_cons, ih]
      by_cases hc : CodePoint.isBreak c = true
      · simp only [after, hc, if_true, List.countP_cons_of_pos]
        omega
      · simp [after, hc]

theorem foldl_after_eq_behind (l : Location) (v : Text) :
    v.toList.foldl after l = l.behind v := by
  unfold behind
  rcases Text.exists_last_break v.toList with
    hnone | ⟨before, c, line, hsplit, hc, hline⟩
  · rw [foldl_after_of_no_break hnone l, if_pos hnone, Array.length_toList]
  · have hbreak : ¬ ∀ d ∈ v.toList, CodePoint.isBreak d = false := by
      intro hnone
      have hc' := hnone c (by simp [hsplit])
      rw [hc] at hc'
      contradiction
    have hlast : (v.toList.reverse.takeWhile fun d => !CodePoint.isBreak d) =
        line.reverse := by
      have hpass : ∀ d ∈ line.reverse, (!CodePoint.isBreak d) = true := by
        simpa using hline
      rw [hsplit]
      simp [List.takeWhile_append_of_pos hpass, hc]
    have hcolumn : (v.toList.foldl after l).column = 1 + line.length := by
      rw [hsplit, List.foldl_append, List.foldl_cons,
        foldl_after_of_no_break hline]
      simp [after, hc]
    have hlineNumber := line_foldl_after v.toList l
    rw [if_neg hbreak, hlast, List.length_reverse, ← hcolumn, ← hlineNumber]

theorem precedes_behind (l : Location) {v : Text} (hv : v ≠ #[]) :
    l.Precedes (l.behind v) := by
  unfold behind Precedes
  by_cases hnone : ∀ c ∈ v.toList, CodePoint.isBreak c = false
  · have hsize : 0 < v.size := Array.size_pos_iff.mpr hv
    rw [if_pos hnone]
    right
    exact ⟨rfl, Nat.lt_add_of_pos_right hsize⟩
  · have hpos : 0 < v.toList.countP CodePoint.isBreak := by
      rw [List.countP_pos_iff]
      simpa using hnone
    rw [if_neg hnone]
    left
    exact Nat.lt_add_of_pos_right hpos

theorem head?_scanl_behind (l : Location) (values : List Text) :
    (values.scanl behind l).head? = some l := by
  cases values with
  | nil => simp
  | cons v values => simp

theorem pairwise_scanl_behind
    {values : List Text} (hvalues : ∀ v ∈ values, v ≠ #[]) (l : Location) :
    (values.scanl behind l).Pairwise Precedes := by
  apply List.IsChain.pairwise
  induction values generalizing l with
  | nil => simp
  | cons v values ih =>
      rw [List.scanl_cons, List.isChain_cons, head?_scanl_behind]
      constructor
      · intro next hnext
        cases hnext
        exact l.precedes_behind (hvalues v List.mem_cons_self)
      · apply ih
        intro w hw
        exact hvalues w (List.mem_cons_of_mem v hw)

end Location

theorem Text.locate_behind
    (t : Text) {p q : Nat} (hpq : p ≤ q) :
    (t.locate p).behind (t.slice p q) = t.locate q := by
  have hfront : t.toList.take q = t.toList.take p ++ (t.slice p q).toList := by
    unfold slice
    rw [Array.toList_extract, List.extract_eq_take_drop, ← List.take_add]
    congr 1
    omega
  calc (t.locate p).behind (t.slice p q)
      = (t.slice p q).toList.foldl Location.after (t.locate p) :=
        (Location.foldl_after_eq_behind _ _).symm
    _ = (t.toList.take q).foldl Location.after ⟨1, 1⟩ := by
        rw [hfront, List.foldl_append, locate, locationAfter_eq_foldl]
    _ = t.locate q := (locationAfter_eq_foldl _).symm

/-! ## Looking up the tokens of a cursor -/

namespace LineIndex

theorem location_of_le {t : Text} {i : Nat} (hi : i ≤ t.size) :
    (ofText t).location i = .ok (t.locate i) := by
  have hrange : (0 : Int) ≤ i ∧ (i : Int) ≤ (ofText t).length := by
    simp only [ofText]
    omega
  rw [location, if_pos hrange, Int.toNat_natCast, place_eq_locate hi]

/-- All tokens and the position can be looked up.  The first place is the start of
the text, every other one lies behind the token before, and they ascend. -/
def Follows (x : LineIndex) (tokens : List Token) (position : Int) : Prop :=
  ∃ places stop,
    Survey.placesOf x tokens = .ok places ∧
    x.location position = .ok stop ∧
    places ++ [stop] = (tokens.map (·.value)).scanl Location.behind ⟨1, 1⟩ ∧
    (places ++ [stop]).Pairwise Location.Precedes

theorem placesOf_tiles
    {t : Text} {p q : Nat} {tokens : List Token}
    (h : Token.Tiles t p tokens q) (hp : p ≤ t.size) :
    ∃ places, Survey.placesOf (ofText t) tokens = .ok places ∧
      places ++ [t.locate q] =
        (tokens.map (·.value)).scanl Location.behind (t.locate p) := by
  induction h with
  | nil p => exact ⟨[], rfl, by simp⟩
  | @cons p q r a rest hindex hvalue hlt hle hrest ih =>
      obtain ⟨places, hplaces, hscan⟩ := ih hle
      have hfirst : (ofText t).locationOf a = .ok (t.locate p) := by
        unfold locationOf
        rw [hindex]
        exact location_of_le hp
      refine ⟨t.locate p :: places, ?_, ?_⟩
      · simp only [Survey.placesOf, hfirst, hplaces]
        rfl
      · rw [List.map_cons, List.scanl_cons, hvalue,
          t.locate_behind (Nat.le_of_lt hlt), List.cons_append, hscan]

theorem follows_tiles
    {t : Text} {tokens : List Token} {q : Nat}
    (h : Token.Tiles t 0 tokens q) :
    (ofText t).Follows tokens q := by
  have hle : q ≤ t.size := h.le_size (Nat.zero_le _)
  obtain ⟨places, hplaces, hscan⟩ := placesOf_tiles h (Nat.zero_le _)
  refine ⟨places, t.locate q, hplaces, location_of_le hle, hscan, ?_⟩
  rw [hscan]
  apply Location.pairwise_scanl_behind
  intro v hv
  obtain ⟨a, ha, rfl⟩ := List.mem_map.mp hv
  exact h.value_ne a ha

end LineIndex

theorem Cursor.drains_follows
    (source : Source ε σ)
    (hrules : ∀ rule ∈ source.rules, rule.Anchored source.text) (s : σ) :
    ∃ tokens c s', (Cursor.start source).Drains s (.ok tokens) c s' ∧
      (LineIndex.ofText source.text).Follows tokens c.position := by
  obtain ⟨tokens, q, _, s', hdrains, htiles, _⟩ :=
    (Cursor.start_live source).drains hrules (Nat.zero_le _) s
  exact ⟨tokens, stopped source q, s', hdrains, LineIndex.follows_tiles htiles⟩

/-- Whatever the anchored rules, the line index finds every token that a new cursor is drained
of, and the place where it stops, at the places that one comes to along the values. -/
theorem token_places_follow_values :
    (∀ (ε σ : Type) (source : Source ε σ) (s : σ),
      (∀ rule ∈ source.rules, rule.Anchored source.text) →
      ∃ tokens c s', (Cursor.start source).Drains s (.ok tokens) c s' ∧
        (LineIndex.ofText source.text).Follows tokens c.position) ∧
    ∀ (x : Scanner) (b : Bench),
      (∀ d ∈ x.definitions, d.rule.Anchored x.text) →
      ∃ tokens c b', x.tokens b = (.ok tokens, c, b') ∧
        x.lineIndex.Follows tokens c.position := by
  constructor
  · intro ε σ source s hrules
    exact Cursor.drains_follows source hrules s
  · intro x b hdefinitions
    have hrules : ∀ rule ∈ x.definitions.map (·.rule),
        rule.Anchored x.text := by
      intro rule hmem
      obtain ⟨d, hd, rfl⟩ := List.mem_map.mp hmem
      exact hdefinitions d hd
    obtain ⟨tokens, c, b', hdrains, hfollows⟩ := Cursor.drains_follows
      ⟨x.definitions.map (·.rule), x.text⟩ hrules b
    obtain ⟨htokens, hcursor, hbench⟩ := hdrains.unique (x.tokens_drains b)
    refine ⟨tokens, c, b', ?_, hfollows⟩
    rw [htokens, hcursor, hbench]

theorem token_places_follow_values_lines :
    let x : Scanner :=
      ⟨[⟨.int 1, .keyword 0 #[97, 10]⟩, ⟨.int 2, .keyword 1 #[10, 98, 10, 99]⟩],
        #[97, 10, 10, 98, 10, 99, 33]⟩
    (∀ d ∈ x.definitions, d.rule.Anchored x.text) ∧
    Survey.placesOf x.lineIndex
      [⟨0, .int 1, #[97, 10]⟩, ⟨2, .int 2, #[10, 98, 10, 99]⟩] =
        .ok [⟨1, 1⟩, ⟨2, 1⟩] ∧
    x.lineIndex.location 6 = .ok ⟨4, 2⟩ := by
  intro x
  have hanchored : ∀ d ∈ x.definitions, d.rule.Anchored x.text := by
    have hstateless : ∀ d ∈ x.definitions, d.matcher.isStateless = true := by
      decide
    intro d hd
    exact d.rule_anchored (hstateless d hd) .machine x.text
  obtain ⟨tokens, c, b', hrun, hfollows⟩ :=
    token_places_follow_values.2 x .empty hanchored
  have heval : x.tokens .empty = (.ok
      [⟨0, .int 1, #[97, 10]⟩, ⟨2, .int 2, #[10, 98, 10, 99]⟩],
      .stopped ⟨x.definitions.map (·.rule), x.text⟩ 6, .empty) := by
    rfl
  rw [heval] at hrun
  cases hrun
  obtain ⟨places, stop, hplaces, hstop, hscan, _⟩ := hfollows
  have hwalk : places ++ [stop] = [⟨1, 1⟩, ⟨2, 1⟩] ++ [⟨4, 2⟩] := hscan
  obtain ⟨rfl, hlast⟩ := List.append_inj' hwalk rfl
  cases hlast
  exact ⟨hanchored, hplaces, hstop⟩

end FirstMatch
