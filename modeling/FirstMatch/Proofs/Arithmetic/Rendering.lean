import FirstMatch.Proofs.Arithmetic.Expression

/-!
# Expressions as texts

The labels of a tree that is written down are the blanks, and the labels of the tree that
is read are the indices of the words.  Every text in which numbers and operators alternate
is what exactly one canonical tree is written as.
-/

namespace FirstMatch.Arithmetic

def Blank (t : Text) : Prop :=
  ∀ c ∈ t, CodePoint.isBlank c = true

/-- The tokens of a list of code points that starts at index `i`, without the
blanks. -/
def words (i : Nat) (l : List Nat) : List Token :=
  (lex i l).filter fun a => !a.isA .space

def Word.spell (w : Word Text) : List Nat :=
  w.label.toList ++ w.value.toList

namespace Expression

def render (e : Expression Text) : Text :=
  (e.inOrder.flatMap Word.spell).toArray

def place (i : Nat) : Expression Text → Expression Nat
  | number blanks digits => number (i + blanks.size) digits
  | operation blanks o left right =>
    let index := i + left.render.size + blanks.size
    operation index o (left.place i) (right.place (index + 1))

def erase (e : Expression ι) : Expression Unit :=
  e.map fun _ => ()

/-- The tree is written as `t`, with its labels as the blanks in front of the
words and nothing but blanks behind the last. -/
def Renders (e : Expression Text) (t : Text) : Prop :=
  (∀ w ∈ e.inOrder, Blank w.label) ∧
    ∃ trailing, Blank trailing ∧ t = e.render ++ trailing

end Expression

/-! ## Words of a text -/

theorem words_of_front
    {k : Kind} (hk : k ≠ .space) {l : List Nat} (h : k.front l ≠ []) (i : Nat) :
    words i l =
      ⟨i, .arithmetic k, (k.front l).toArray⟩ ::
        words (i + (k.front l).length) (l.drop (k.front l).length) := by
  unfold words
  rw [lex_of_front h, List.filter_cons_of_pos]
  simpa [Token.isA] using hk

theorem words_of_blanks
    {l : List Nat} (h : Kind.space.front l ≠ []) (i : Nat) :
    words i l =
      words (i + (Kind.space.front l).length) (l.drop (Kind.space.front l).length) := by
  unfold words
  rw [lex_of_front h, List.filter_cons_of_neg]
  simp [Token.isA]

theorem words_blank_cons
    {c : Nat} (hc : CodePoint.isBlank c = true) (i : Nat) (rest : List Nat) :
    words i (c :: rest) = words (i + 1) rest := by
  have haccepts : Kind.space.accepts c = true := by
    rw [Kind.accepts_space]
    exact hc
  have hfront : Kind.space.front (c :: rest) = c :: Kind.space.front rest := by
    simp [Kind.front, Kind.repeats, haccepts]
  rw [words_of_blanks (by rw [hfront]; simp), hfront]
  simp only [List.length_cons, List.drop_succ_cons]
  by_cases hrest : Kind.space.front rest = []
  · simp [hrest]
  · rw [words_of_blanks hrest (i + 1)]
    congr 1
    omega

theorem words_blank_append
    {gap : List Nat} (hgap : ∀ c ∈ gap, CodePoint.isBlank c = true)
    (i : Nat) (rest : List Nat) :
    words i (gap ++ rest) = words (i + gap.length) rest := by
  induction gap generalizing i with
  | nil => rfl
  | cons c gap ih =>
      rw [List.cons_append, words_blank_cons (hgap c List.mem_cons_self),
        ih (fun c hc => hgap c (List.mem_cons_of_mem _ hc)), List.length_cons]
      congr 1
      omega

theorem words_blank
    {gap : List Nat} (hgap : ∀ c ∈ gap, CodePoint.isBlank c = true) (i : Nat) :
    words i gap = [] := by
  have happend := words_blank_append hgap i []
  rw [List.append_nil] at happend
  rw [happend]
  simp [words]

theorem words_spell
    {w : Word Text} (hw : w.WellFormed) (hblank : Blank w.label)
    (rest : List Nat)
    (hrest : w.kind = .number → ∀ c ∈ rest.head?, CodePoint.isAsciiDigit c = false)
    (i : Nat) :
    words i (w.spell ++ rest) =
      ⟨(i + w.label.size : Nat), .arithmetic w.kind, w.value⟩ ::
        words (i + w.spell.length) rest := by
  have hgap : ∀ c ∈ w.label.toList, CodePoint.isBlank c = true := by
    simpa [Blank] using hblank
  have hfront : w.kind.front (w.value.toList ++ rest) = w.value.toList := by
    cases w with
    | number blanks digits =>
        refine Kind.front_append ?_ (fun h => by cases h) ?_
        · intro c hc
          rw [Word.kind, Kind.accepts_number]
          exact hw.2 c (by simpa [Word.value] using hc)
        · intro _ c hc
          rw [Word.kind, Kind.accepts_number]
          exact hrest rfl c hc
    | operator blanks o =>
        refine Kind.front_append ?_ (fun _ => rfl) ?_
        · intro c hc
          rw [Word.kind, Kind.accepts_operator]
          simpa [Word.value] using hc
        · intro h
          cases o <;> cases h
  have hne : w.value.toList ≠ [] := by
    cases w with
    | number blanks digits => simpa [Word.value] using hw.1
    | operator blanks o => simp [Word.value]
  have hspace : w.kind ≠ .space := by
    cases w with
    | number blanks digits => simp [Word.kind]
    | operator blanks o => cases o <;> simp [Word.kind, Operator.kind]
  unfold Word.spell
  rw [List.append_assoc, words_blank_append hgap,
    words_of_front hspace (by rw [hfront]; exact hne), hfront, List.drop_left]
  simp [Nat.add_assoc]

/-! ## Reading what was written -/

theorem not_digit_of_blank {c : Nat} (h : CodePoint.isBlank c = true) :
    CodePoint.isAsciiDigit c = false := by
  cases hdigit : CodePoint.isAsciiDigit c with
  | false => rfl
  | true =>
      rw [not_blank_of_digit hdigit] at h
      cases h

theorem length_spell_operator (blanks : Text) (o : Operator) :
    (Word.spell (.operator blanks o)).length = blanks.size + 1 := by
  simp [Word.spell, Word.label, Word.value]

theorem head_spell_operator
    {blanks : Text} (hblank : Blank blanks) (o : Operator) (rest : List Nat) :
    ∀ c ∈ (Word.spell (.operator blanks o) ++ rest).head?,
      CodePoint.isAsciiDigit c = false := by
  intro c hc
  unfold Word.spell at hc
  simp only [Word.label, Word.value] at hc
  cases hl : blanks.toList with
  | nil =>
      rw [hl] at hc
      cases hc
      cases o <;> decide
  | cons b gap =>
      rw [hl] at hc
      cases hc
      refine not_digit_of_blank (hblank c ?_)
      rw [← Array.mem_toList_iff, hl]
      exact List.mem_cons_self

namespace Expression

theorem toList_render_operation
    (blanks : Text) (o : Operator) (left right : Expression Text) :
    (operation blanks o left right).render.toList =
      left.render.toList ++ Word.spell (.operator blanks o) ++
        right.render.toList := by
  simp [render, inOrder]

theorem size_render_operation
    (blanks : Text) (o : Operator) (left right : Expression Text) :
    (operation blanks o left right).render.size =
      left.render.size + blanks.size + 1 + right.render.size := by
  rw [← Array.length_toList, toList_render_operation, List.length_append,
    List.length_append, length_spell_operator]
  simp only [Array.length_toList]
  omega

theorem words_render
    {e : Expression Text} (he : e.Canonical)
    (hblanks : ∀ w ∈ e.inOrder, Blank w.label) {rest : List Nat}
    (hrest : ∀ c ∈ rest.head?, CodePoint.isAsciiDigit c = false) (i : Nat) :
    words i (e.render.toList ++ rest) =
      (e.place i).inOrder.map Word.token ++ words (i + e.render.size) rest := by
  -- what follows a subtree is part of `rest`, and an operator cannot prolong
  -- the number in front of it
  induction e generalizing rest i with
  | number blanks digits =>
      have hword : (Word.number blanks digits).WellFormed := he
      have hread := words_spell hword (hblanks _ List.mem_cons_self) rest
        (fun _ => hrest) i
      simp only [render, inOrder, List.flatMap_singleton, List.size_toArray]
      rw [hread]
      rfl
  | operation blanks o left right ihLeft ihRight =>
      obtain ⟨_, _, hcanonicalLeft, hcanonicalRight⟩ := he
      have hblank : Blank blanks :=
        hblanks (.operator blanks o) (by simp [inOrder])
      have hleft := ihLeft hcanonicalLeft
        (fun w hw => hblanks w (by simp [inOrder, hw]))
        (head_spell_operator hblank o (right.render.toList ++ rest)) i
      have hoperator := words_spell (w := .operator blanks o) trivial hblank
        (right.render.toList ++ rest) (fun h => by cases o <;> cases h)
        (i + left.render.size)
      have hright := ihRight hcanonicalRight
        (fun w hw => hblanks w (by simp [inOrder, hw])) hrest
        (i + left.render.size + blanks.size + 1)
      rw [toList_render_operation, List.append_assoc, List.append_assoc, hleft,
        hoperator, length_spell_operator, ← Nat.add_assoc, hright,
        size_render_operation]
      simp [place, inOrder, Word.token, Word.label, Word.value, Word.kind, Nat.add_assoc]

theorem erase_place (e : Expression Text) (i : Nat) :
    (e.place i).erase = e.erase := by
  induction e generalizing i with
  | number => rfl
  | operation blanks o left right ihLeft ihRight =>
      have hleft := ihLeft i
      have hright := ihRight (i + left.render.size + blanks.size + 1)
      unfold erase at *
      simp only [place, map, hleft, hright]

theorem root?_erase (e : Expression ι) : e.erase.root? = e.root? := by
  cases e <;> rfl

theorem canonical_erase (e : Expression ι) : e.erase.Canonical ↔ e.Canonical := by
  induction e with
  | number => rfl
  | operation label o left right ihLeft ihRight =>
      have hleft := left.root?_erase
      have hright := right.root?_erase
      unfold erase at *
      simp only [map, Canonical, hleft, hright, ihLeft, ihRight]

theorem Canonical.place {e : Expression Text} (he : e.Canonical) (i : Nat) :
    (e.place i).Canonical := by
  rw [← canonical_erase, erase_place, canonical_erase]
  exact he

end Expression

theorem scan_filter_eq_words (t : Text) :
    (scan t).filter (fun a => !a.isA .space) = words 0 t.toList := by
  rw [scan_eq_lex]
  rfl

theorem parse_eq_rearrange_words (t : Text) :
    parse t = rearrange (words 0 t.toList) := by
  unfold parse
  rw [scan_filter_eq_words]

theorem Expression.Renders.words_eq
    {e : Expression Text} {t : Text} (h : e.Renders t) (he : e.Canonical) :
    words 0 t.toList = (e.place 0).inOrder.map Word.token := by
  obtain ⟨hblanks, trailing, htrailing, rfl⟩ := h
  have hgap : ∀ c ∈ trailing.toList, CodePoint.isBlank c = true := by
    simpa [Blank] using htrailing
  have hstop : ∀ c ∈ trailing.toList.head?, CodePoint.isAsciiDigit c = false :=
    fun c hc => not_digit_of_blank (hgap c (List.mem_of_mem_head? hc))
  rw [Array.toList_append, words_render he hblanks hstop, words_blank hgap,
    List.append_nil]

theorem Expression.Renders.parse_eq
    {e : Expression Text} {t : Text} (h : e.Renders t) (he : e.Canonical) :
    parse t = (e.place 0).postOrder.map Word.token := by
  rw [parse_eq_rearrange_words, h.words_eq he]
  exact (he.place 0).rearrange_inOrder

theorem Expression.Renders.erase_unique
    {e e' : Expression Text} {t : Text} (h : e.Renders t) (h' : e'.Renders t)
    (he : e.Canonical) (he' : e'.Canonical) :
    e.erase = e'.erase := by
  have hpost : (e.place 0).postOrder = (e'.place 0).postOrder := by
    apply List.map_injective_iff.mpr fun _ _ => Word.token_injective
    rw [← h.parse_eq he, h'.parse_eq he']
  rw [← e.erase_place 0, Expression.postOrder_injective hpost, e'.erase_place 0]

/-! ## A tree for every text -/

theorem digits_front {l : List Nat} (h : Kind.number.front l ≠ []) :
    Digits (Kind.number.front l).toArray := by
  refine ⟨by simpa using h, ?_⟩
  intro c hc
  rw [← Kind.accepts_number]
  exact Kind.accepts_of_mem_front (by simpa using hc)

structure Spells (ws : List (Word Text)) (l : List Nat) : Prop where
  wellFormed : ∀ w ∈ ws, w.WellFormed
  blank : ∀ w ∈ ws, Blank w.label
  trailing : ∃ trailing, Blank trailing ∧ l = ws.flatMap Word.spell ++ trailing.toList

namespace Spells

variable {ws : List (Word Text)} {l : List Nat}

theorem nil : Spells [] [] where
  wellFormed := by simp
  blank := by simp
  trailing := ⟨#[], by simp [Blank], rfl⟩

theorem cons
    (h : Spells ws l) {w : Word Text} (hw : w.WellFormed) (hblank : Blank w.label) :
    Spells (w :: ws) (w.spell ++ l) := by
  obtain ⟨trailing, htrailing, rfl⟩ := h.trailing
  refine ⟨?_, ?_, trailing, htrailing, by simp⟩
  · exact List.forall_mem_cons.mpr ⟨hw, h.wellFormed⟩
  · exact List.forall_mem_cons.mpr ⟨hblank, h.blank⟩

/-- A blank in front belongs to the first word, or to the end if there is
none. -/
theorem blank_cons
    (h : Spells ws l) {c : Nat} (hc : CodePoint.isBlank c = true) :
    ∃ ws', Spells ws' (c :: l) ∧ ws'.map Word.kind = ws.map Word.kind := by
  have hadd : ∀ blanks : Text, Blank blanks → Blank (#[c] ++ blanks) := by
    intro blanks hblank b hb
    rcases Array.mem_append.mp hb with hb | hb
    · rw [Array.mem_singleton.mp hb]
      exact hc
    · exact hblank b hb
  obtain ⟨hwellFormed, hblank, trailing, htrailing, rfl⟩ := h
  cases ws with
  | nil =>
      refine ⟨[], ⟨by simp, by simp, #[c] ++ trailing, hadd _ htrailing, ?_⟩, rfl⟩
      simp
  | cons w ws =>
      obtain ⟨hw, hwellFormed⟩ := List.forall_mem_cons.mp hwellFormed
      obtain ⟨hwblank, hblank⟩ := List.forall_mem_cons.mp hblank
      have hrest : Spells ws (ws.flatMap Word.spell ++ trailing.toList) :=
        ⟨hwellFormed, hblank, trailing, htrailing, rfl⟩
      cases w with
      | number blanks digits =>
          refine ⟨.number (#[c] ++ blanks) digits :: ws, ?_, rfl⟩
          simpa [Word.spell] using
            hrest.cons (w := .number (#[c] ++ blanks) digits) hw (hadd _ hwblank)
      | operator blanks o =>
          refine ⟨.operator (#[c] ++ blanks) o :: ws, ?_, rfl⟩
          simpa [Word.spell] using
            hrest.cons (w := .operator (#[c] ++ blanks) o) hw (hadd _ hwblank)

theorem number_front
    (h : Spells ws (l.drop (Kind.number.front l).length))
    (hfront : Kind.number.front l ≠ []) :
    Spells (.number #[] (Kind.number.front l).toArray :: ws) l := by
  have hcons := h.cons (w := .number #[] (Kind.number.front l).toArray)
    (digits_front hfront) (by simp [Blank])
  have hsplit := Kind.number.front_append_drop l
  have hspell : Word.spell (.number #[] (Kind.number.front l).toArray) ++
      l.drop (Kind.number.front l).length = l := by
    simpa [Word.spell] using hsplit
  rw [hspell] at hcons
  exact hcons

end Spells

theorem exists_spells
    {l : List Nat} (hl : ∀ c ∈ l, ∃ k : Kind, k.accepts c = true) (i : Nat) :
    ∃ ws, Spells ws l ∧
      (words i l).map (·.kind) = (ws.map Word.kind).map .arithmetic := by
  -- the first code point tells whether a blank, a sign or a run of digits goes
  induction hlength : l.length using Nat.strongRecOn generalizing l i with
  | ind n ih =>
      cases l with
      | nil => exact ⟨[], .nil, by simp [words]⟩
      | cons c rest =>
          obtain ⟨k, hk⟩ := hl c List.mem_cons_self
          have hrest : ∀ c ∈ rest, ∃ k : Kind, k.accepts c = true :=
            fun c hc => hl c (List.mem_cons_of_mem _ hc)
          simp only [List.length_cons] at hlength
          cases k using Kind.cases_operator with
          | space =>
              rw [Kind.accepts_space] at hk
              obtain ⟨ws, hspells, hkinds⟩ :=
                ih _ (by omega) hrest (i + 1) rfl
              obtain ⟨ws', hspells', hkinds'⟩ := hspells.blank_cons hk
              refine ⟨ws', hspells', ?_⟩
              rw [words_blank_cons hk, hkinds, hkinds']
          | operator o =>
              rw [Kind.accepts_operator, decide_eq_true_eq] at hk
              subst hk
              obtain ⟨ws, hspells, hkinds⟩ :=
                ih _ (by omega) hrest (i + 1) rfl
              have hblank : Blank #[] := by simp [Blank]
              have hread := words_spell (w := .operator #[] o) trivial hblank
                rest (fun h => by cases o <;> cases h) i
              refine ⟨.operator #[] o :: ws, hspells.cons trivial hblank, ?_⟩
              change (words i (Word.spell (.operator #[] o) ++ rest)).map _ = _
              rw [hread, List.map_cons, length_spell_operator]
              simp [hkinds]
          | number =>
              have hfront : Kind.number.front (c :: rest) ≠ [] := by
                simp [Kind.front_cons, hk]
              have hpos := List.length_pos_of_ne_nil hfront
              have hshorter :
                  ((c :: rest).drop (Kind.number.front (c :: rest)).length).length <
                    n := by
                simp only [List.length_drop, List.length_cons]
                omega
              obtain ⟨ws, hspells, hkinds⟩ := ih _ hshorter
                (fun c hc => hl c (List.mem_of_mem_drop hc))
                (i + (Kind.number.front (c :: rest)).length) rfl
              refine ⟨_, hspells.number_front hfront, ?_⟩
              rw [words_of_front (by simp) hfront, List.map_cons, hkinds]
              simp

theorem exists_accepts
    {c : Nat} (h : CodePoint.isAsciiDigit c = true ∨ CodePoint.isBlank c = true ∨
      ∃ o : Operator, c = o.sign) :
    ∃ k : Kind, k.accepts c = true := by
  rcases h with hdigit | hblank | ⟨o, hsign⟩
  · exact ⟨.number, by rw [Kind.accepts_number]; exact hdigit⟩
  · exact ⟨.space, by rw [Kind.accepts_space]; exact hblank⟩
  · exact ⟨o.kind, by rw [Kind.accepts_operator]; exact decide_eq_true hsign⟩

theorem exists_renders
    {t : Text} (ht : ∀ c ∈ t, ∃ k : Kind, k.accepts c = true)
    {operators : List Operator}
    (hkinds : (words 0 t.toList).map (·.kind) =
      (alternation operators).map .arithmetic) :
    ∃ e : Expression Text, e.Canonical ∧ e.Renders t := by
  obtain ⟨ws, hspells, hread⟩ := exists_spells
    (fun c hc => ht c (Array.mem_toList_iff.mp hc)) 0
  have halternate : ws.map Word.kind = alternation operators := by
    apply List.map_injective_iff.mpr fun _ _ => Datum.arithmetic.inj
    rw [← hread, hkinds]
  obtain ⟨e, hcanonical, rfl⟩ :=
    Expression.exists_canonical halternate hspells.wellFormed
  obtain ⟨trailing, htrailing, hlist⟩ := hspells.trailing
  refine ⟨e, hcanonical, hspells.blank, trailing, htrailing, ?_⟩
  rw [← Array.toList_inj, hlist]
  simp [Expression.render]

theorem parse_value_eq (t : Text) :
    ∀ a ∈ parse t, ∃ i : Nat, a.index = i ∧
      a.value = t.slice i (i + a.value.size) := by
  intro a ha
  obtain ⟨_, ⟨q, htiles⟩, _⟩ := scan_spec t
  have hmem : a ∈ (scan t).filter fun a => !a.isA .space :=
    (rearrange_perm _).mem_iff.mp ha
  exact htiles.value_eq a (List.mem_of_mem_filter hmem)

/-- What a canonical tree is written as, with any blanks, is parsed to the reverse Polish order
of the tree, each word with the index where it stands.  And any text of digits, operators and
blanks in which numbers and operators alternate is what exactly one canonical tree is written
as. -/
theorem parse_rendering :
    (∀ (e : Expression Text) (t : Text), e.Canonical → e.Renders t →
      parse t = (e.place 0).postOrder.map Word.token ∧
      (e.place 0).erase = e.erase ∧
      ∀ a ∈ parse t, ∃ i : Nat, a.index = i ∧
        a.value = t.slice i (i + a.value.size)) ∧
    ∀ (t : Text) (operators : List Operator),
      (∀ c ∈ t, CodePoint.isAsciiDigit c = true ∨ CodePoint.isBlank c = true ∨
        ∃ o : Operator, c = o.sign) →
      ((scan t).filter fun a => !a.isA .space).map (·.kind) =
        (alternation operators).map .arithmetic →
      ∃! plain : Expression Unit, plain.Canonical ∧
        ∃ e : Expression Text, e.erase = plain ∧ e.Renders t := by
  constructor
  · intro e t hcanonical hrenders
    exact ⟨hrenders.parse_eq hcanonical, e.erase_place 0, parse_value_eq t⟩
  · intro t operators ht hkinds
    rw [scan_eq_lex] at hkinds
    obtain ⟨e, hcanonical, hrenders⟩ :=
      exists_renders (fun c hc => exists_accepts (ht c hc)) hkinds
    refine ⟨e.erase, ⟨e.canonical_erase.mpr hcanonical, e, rfl, hrenders⟩, ?_⟩
    rintro _ ⟨hcanonical', e', rfl, hrenders'⟩
    exact hrenders'.erase_unique hrenders (e'.canonical_erase.mp hcanonical')
      hcanonical

theorem parse_rendering_mixed :
    let e : Expression Text :=
      .operation #[0x2003] .minus (.number #[] #[49])
        (.operation #[] .times (.number #[32, 32] #[50, 48]) (.number #[] #[51]))
    let t : Text := #[49, 0x2003, 45, 32, 32, 50, 48, 42, 51, 10]
    e.Canonical ∧ e.Renders t ∧
    parse t =
      [⟨0, .arithmetic .number, #[49]⟩, ⟨5, .arithmetic .number, #[50, 48]⟩,
        ⟨8, .arithmetic .number, #[51]⟩, ⟨7, .arithmetic .times, #[42]⟩,
        ⟨2, .arithmetic .minus, #[45]⟩] ∧
    ∃! plain : Expression Unit, plain.Canonical ∧
      ∃ e : Expression Text, e.erase = plain ∧ e.Renders t := by
  intro e t
  have hcanonical : e.Canonical := by
    simp [e, Expression.Canonical, Expression.root?, Operator.precedence, Digits,
      CodePoint.isAsciiDigit]
  have hrenders : e.Renders t := by
    refine ⟨?_, #[10], ?_, rfl⟩
    · simp [e, Expression.inOrder, Blank]
      decide
    · simp [Blank]
      decide
  have hchars : ∀ c ∈ t, CodePoint.isAsciiDigit c = true ∨
      CodePoint.isBlank c = true ∨ ∃ o : Operator, c = o.sign := by
    have hall : ∀ c ∈ t, CodePoint.isAsciiDigit c = true ∨
        CodePoint.isBlank c = true ∨ c ∈ Operator.all.map Operator.sign := by
      decide
    intro c hc
    refine (hall c hc).imp id (Or.imp id fun hmem => ?_)
    obtain ⟨o, _, hsign⟩ := List.mem_map.mp hmem
    exact ⟨o, hsign.symm⟩
  refine ⟨hcanonical, hrenders,
    (parse_rendering.1 e t hcanonical hrenders).1, ?_⟩
  exact parse_rendering.2 t [.minus, .times] hchars (by decide +kernel)

end FirstMatch.Arithmetic
