import FirstMatch.Proofs.Arithmetic.Lexing
import FirstMatch.Proofs.Arithmetic.Rearrangement

/-!
# Expressions as trees

The trees of expressions without parentheses are the canonical ones: what stands on the
left of an operator binds at least as tight as it does, and what stands on the right binds
tighter.  Words carry a label, which can be the index where they stand or the blanks in
front of them.
-/

namespace FirstMatch.Arithmetic

def Digits (t : Text) : Prop :=
  t ≠ #[] ∧ ∀ c ∈ t, CodePoint.isAsciiDigit c = true

inductive Word (ι : Type) where
  | number (label : ι) (digits : Text)
  | operator (label : ι) (o : Operator)
  deriving DecidableEq

inductive Expression (ι : Type) where
  | number (label : ι) (digits : Text)
  | operation (label : ι) (o : Operator) (left right : Expression ι)
  deriving DecidableEq

variable {ι κ : Type}

namespace Word

@[simp] def label : Word ι → ι
  | number label _ => label
  | operator label _ => label

@[simp] def kind : Word ι → Kind
  | number _ _ => .number
  | operator _ o => o.kind

@[simp] def value : Word ι → Text
  | number _ digits => digits
  | operator _ o => #[o.sign]

def WellFormed : Word ι → Prop
  | number _ digits => Digits digits
  | operator _ _ => True

def token (w : Word Nat) : Token :=
  ⟨w.label, .arithmetic w.kind, w.value⟩

end Word

namespace Expression

def inOrder : Expression ι → List (Word ι)
  | number label digits => [.number label digits]
  | operation label o left right =>
    left.inOrder ++ .operator label o :: right.inOrder

def postOrder : Expression ι → List (Word ι)
  | number label digits => [.number label digits]
  | operation label o left right =>
    left.postOrder ++ right.postOrder ++ [.operator label o]

def root? : Expression ι → Option Operator
  | number _ _ => none
  | operation _ o _ _ => some o

/-- The numbers are written with ASCII digits, and the tree needs no
parentheses. -/
def Canonical : Expression ι → Prop
  | number _ digits => Digits digits
  | operation _ o left right =>
    (∀ p ∈ left.root?, o.precedence ≤ p.precedence) ∧
      (∀ p ∈ right.root?, o.precedence < p.precedence) ∧
      left.Canonical ∧ right.Canonical

def map (f : ι → κ) : Expression ι → Expression κ
  | number label digits => number (f label) digits
  | operation label o left right =>
    operation (f label) o (left.map f) (right.map f)

end Expression

/-! ## Back from reverse Polish order -/

/-- One step of a stack machine that builds trees. -/
def rebuild (stack : List (Expression ι)) : Word ι → List (Expression ι)
  | .number label digits => .number label digits :: stack
  | .operator label o =>
    match stack with
    | right :: left :: rest => .operation label o left right :: rest
    | _ => stack

theorem foldl_rebuild (e : Expression ι) (stack : List (Expression ι)) :
    e.postOrder.foldl rebuild stack = e :: stack := by
  induction e generalizing stack with
  | number label digits => rfl
  | operation label o left right ihLeft ihRight =>
      unfold Expression.postOrder
      rw [List.foldl_append, List.foldl_append, ihLeft, ihRight]
      rfl

theorem Expression.postOrder_injective
    {e e' : Expression ι} (h : e.postOrder = e'.postOrder) : e = e' := by
  have hbuilt := foldl_rebuild e []
  rw [h, foldl_rebuild] at hbuilt
  exact (List.cons.inj hbuilt).1.symm

theorem Word.token_injective {w w' : Word Nat} (h : w.token = w'.token) : w = w' := by
  unfold token at h
  simp only [Token.mk.injEq, Datum.arithmetic.injEq] at h
  obtain ⟨hindex, hkind, hvalue⟩ := h
  have hlabel : w.label = w'.label := Int.ofNat_inj.mp hindex
  cases w with
  | number label digits =>
      cases w' with
      | number label' digits' =>
          cases hvalue
          cases hlabel
          rfl
      | operator label' o => cases o <;> cases hkind
  | operator label o =>
      cases w' with
      | number label' digits' => cases o <;> cases hkind
      | operator label' o' =>
          cases Operator.kind_injective hkind
          cases hlabel
          rfl

/-! ## Rearranging a tree -/

theorem Word.token_precedence_operator (label : Nat) (o : Operator) :
    (token (.operator label o)).precedence = o.precedence := by
  cases o <;> rfl

/-- What stands in front of an operator that clears it all is rearranged on its
own. -/
theorem rearrange_append
    {a : Token} (ha : a.isA .number = false) {ts : List Token}
    (hts : ∀ x ∈ ts, x.isA .number = false → a.precedence ≤ x.precedence)
    (rest : List Token) :
    rearrange (ts ++ a :: rest) = rearrange ts ++ rearrange (a :: rest) := by
  induction ts using rearrange_induction with
  | nil => rfl
  | number x ts hx ih =>
      have ih := ih fun y hy => hts y (List.mem_cons_of_mem x hy)
      rw [List.cons_append, rearrange_cons_number hx, rearrange_cons_number hx, ih,
        List.cons_append]
  | operator x inner outer hx hinner houter _ ih =>
      have ih := ih fun y hy => hts y (by simp [hy])
      have houter' : ∀ c ∈ (outer ++ a :: rest).head?, c.Clears x := by
        cases outer with
        | nil =>
            intro c hc
            cases hc
            exact ⟨ha, hts x List.mem_cons_self hx⟩
        | cons c outer => exact houter
      rw [rearrange_cons_operator hx hinner houter, List.cons_append,
        List.append_assoc, rearrange_cons_operator hx hinner houter', ih]
      simp

namespace Expression

theorem Canonical.le_precedence
    {e : Expression ι} (he : e.Canonical) {n : Nat}
    (hroot : ∀ p ∈ e.root?, n ≤ p.precedence) :
    ∀ label o, .operator label o ∈ e.inOrder → n ≤ o.precedence := by
  induction e generalizing n with
  | number => simp [inOrder]
  | operation label o left right ihLeft ihRight =>
      obtain ⟨hleft, hright, hcanonicalLeft, hcanonicalRight⟩ := he
      have hn : n ≤ o.precedence := hroot o rfl
      intro label' o' hmem
      rcases List.mem_append.mp hmem with hmem | hmem
      · exact ihLeft hcanonicalLeft (fun p hp => hn.trans (hleft p hp)) _ _ hmem
      · rcases List.mem_cons.mp hmem with heq | hmem
        · cases heq
          exact hn
        · refine ihRight hcanonicalRight (fun p hp => ?_) _ _ hmem
          exact hn.trans (Nat.le_of_lt (hright p hp))

theorem Canonical.le_token_precedence
    {e : Expression Nat} (he : e.Canonical) {n : Nat}
    (hroot : ∀ p ∈ e.root?, n ≤ p.precedence) :
    ∀ x ∈ e.inOrder.map Word.token, x.isA .number = false →
      n ≤ x.precedence := by
  intro x hx hnumber
  obtain ⟨w, hw, rfl⟩ := List.mem_map.mp hx
  cases w with
  | number label digits => cases hnumber
  | operator label o =>
      rw [Word.token_precedence_operator]
      exact he.le_precedence hroot label o hw

/-- Rearranging what a canonical tree is written as gives its reverse Polish
order. -/
theorem Canonical.rearrange_inOrder
    {e : Expression Nat} (he : e.Canonical) :
    rearrange (e.inOrder.map Word.token) = e.postOrder.map Word.token := by
  induction e with
  | number label digits => rfl
  | operation label o left right ihLeft ihRight =>
      obtain ⟨hleft, hright, hcanonicalLeft, hcanonicalRight⟩ := he
      let a := Word.token (.operator label o)
      have ha : a.isA .number = false := by cases o <;> rfl
      have hprecedence : a.precedence = o.precedence :=
        Word.token_precedence_operator label o
      have hpops : rearrange (a :: right.inOrder.map Word.token) =
          rearrange (right.inOrder.map Word.token) ++ [a] := by
        have hnot : ∀ c ∈ right.inOrder.map Word.token, ¬ c.Clears a := by
          rintro c hc ⟨hnumber, hle⟩
          have hlt := hcanonicalRight.le_token_precedence hright c hc hnumber
          omega
        have hsplit :
            rearrange (a :: (right.inOrder.map Word.token ++ [])) = _ :=
          rearrange_cons_operator ha hnot (by simp)
        rw [List.append_nil] at hsplit
        exact hsplit
      unfold inOrder postOrder
      simp only [List.map_append, List.map_cons, List.map_nil]
      rw [rearrange_append ha ?_, hpops, ihLeft hcanonicalLeft,
        ihRight hcanonicalRight, List.append_assoc]
      rw [hprecedence]
      exact hcanonicalLeft.le_token_precedence hleft

end Expression

/-! ## Trees for alternating words -/

namespace Expression

/-- Puts an operator and a number behind all words of a tree. -/
def graft (e : Expression ι) (label : ι) (o : Operator) (n : Expression ι) :
    Expression ι :=
  match e with
  | number label' digits => operation label o (number label' digits) n
  | operation label' p left right =>
    if o.precedence ≤ p.precedence then
      operation label o (operation label' p left right) n
    else operation label' p left (right.graft label o n)

theorem inOrder_graft
    (e : Expression ι) (label : ι) (o : Operator) (n : Expression ι) :
    (e.graft label o n).inOrder = e.inOrder ++ .operator label o :: n.inOrder := by
  induction e with
  | number => rfl
  | operation label' p left right _ ih =>
      unfold graft
      split
      · rfl
      · simp [inOrder, ih]

theorem root?_graft
    (e : Expression ι) (label : ι) (o : Operator) (n : Expression ι) :
    (e.graft label o n).root? = some o ∨ (e.graft label o n).root? = e.root? := by
  cases e with
  | number => exact .inl rfl
  | operation label' p left right =>
      unfold graft
      split
      · exact .inl rfl
      · exact .inr rfl

theorem Canonical.graft
    {e n : Expression ι} (he : e.Canonical) (hn : n.Canonical)
    (hleaf : n.root? = none) (label : ι) (o : Operator) :
    (e.graft label o n).Canonical := by
  have hright : ∀ p ∈ n.root?, o.precedence < p.precedence := by
    simp [hleaf]
  induction e with
  | number label' digits => exact ⟨by simp [root?], hright, he, hn⟩
  | operation label' p left right _ ih =>
      unfold Expression.graft
      split
      next hle =>
        refine ⟨?_, hright, he, hn⟩
        intro q hq
        cases hq
        exact hle
      next hlt =>
        obtain ⟨hleft', hright', hcanonicalLeft, hcanonicalRight⟩ := he
        refine ⟨hleft', ?_, hcanonicalLeft, ih hcanonicalRight⟩
        intro q hq
        rcases right.root?_graft label o n with hroot | hroot
        · rw [hroot] at hq
          cases hq
          omega
        · rw [hroot] at hq
          exact hright' q hq

end Expression

def alternation (operators : List Operator) : List Kind :=
  .number :: operators.flatMap fun o => [o.kind, .number]

theorem Word.eq_number {w : Word ι} (h : w.kind = .number) :
    ∃ label digits, w = .number label digits := by
  cases w with
  | number label digits => exact ⟨label, digits, rfl⟩
  | operator label o => cases o <;> cases h

theorem Word.eq_operator {w : Word ι} {o : Operator} (h : w.kind = o.kind) :
    ∃ label, w = .operator label o := by
  cases w with
  | number label digits => cases o <;> cases h
  | operator label p =>
      cases Operator.kind_injective h
      exact ⟨label, rfl⟩

namespace Expression

theorem exists_canonical_append
    {operators : List Operator} {ws : List (Word ι)}
    (hkinds : ws.map Word.kind = operators.flatMap fun o => [o.kind, .number])
    (hws : ∀ w ∈ ws, w.WellFormed) {e : Expression ι} (he : e.Canonical) :
    ∃ e' : Expression ι, e'.Canonical ∧ e'.inOrder = e.inOrder ++ ws := by
  induction operators generalizing ws e with
  | nil =>
      have hempty : ws = [] := by simpa using hkinds
      exact ⟨e, he, by simp [hempty]⟩
  | cons o operators ih =>
      rw [List.flatMap_cons] at hkinds
      obtain ⟨w, _, rfl, hw, htail⟩ := List.map_eq_cons_iff.mp hkinds
      obtain ⟨v, ws, rfl, hv, hrest⟩ := List.map_eq_cons_iff.mp htail
      obtain ⟨label, rfl⟩ := Word.eq_operator hw
      obtain ⟨label', digits, rfl⟩ := Word.eq_number hv
      have hdigits : (number label' digits).Canonical :=
        hws (.number label' digits) (by simp)
      obtain ⟨e', he', hinOrder⟩ := ih hrest (fun w hw => hws w (by simp [hw]))
        (he.graft hdigits rfl label o)
      refine ⟨e', he', ?_⟩
      rw [hinOrder, inOrder_graft]
      simp [inOrder]

theorem exists_canonical
    {operators : List Operator} {ws : List (Word ι)}
    (hkinds : ws.map Word.kind = alternation operators)
    (hws : ∀ w ∈ ws, w.WellFormed) :
    ∃ e : Expression ι, e.Canonical ∧ e.inOrder = ws := by
  obtain ⟨w, ws, rfl, hw, hrest⟩ := List.map_eq_cons_iff.mp hkinds
  obtain ⟨label, digits, rfl⟩ := Word.eq_number hw
  have hdigits : (number label digits).Canonical :=
    hws (.number label digits) List.mem_cons_self
  exact exists_canonical_append hrest
    (fun w hw => hws w (List.mem_cons_of_mem _ hw)) hdigits

end Expression

end FirstMatch.Arithmetic
