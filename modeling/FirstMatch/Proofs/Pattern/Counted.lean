import FirstMatch.Pattern
import FirstMatch.Proofs.Pattern.Reading

/-!
# A letter with a number in braces

What comes of such a pattern is settled by the digits alone.  `Yields` says what a part of
the reading gives and which symbols it leaves, with nothing learned about groups.
-/

namespace FirstMatch.Pattern

namespace Reading

variable {α β : Type}

/-- The reading goes up to `rest` and learns nothing about groups, or it stops. -/
def Yields (x : Reading α) (r : Reader) : Except Fault α → List Symbol → Prop
  | .ok a, rest => ∃ position, x.run r = .ok (a, { r with rest, position })
  | .error fault, _ => x.run r = .error fault

theorem Yields.bind {x : Reading α} {k : α → Reading β} {r : Reader} {a : α}
    {outcome : Except Fault β} {middle rest : List Symbol} (hx : Yields x r (.ok a) middle)
    (hk : ∀ position, Yields (k a) { r with rest := middle, position } outcome rest) :
    Yields (x >>= k) r outcome rest := by
  rcases hx with ⟨position, hx⟩
  cases outcome with
  | ok b =>
      rcases hk position with ⟨position', hk⟩
      refine ⟨position', ?_⟩
      rw [StateT.run_bind, hx]
      exact hk
  | error fault =>
      show (x >>= k).run r = .error fault
      rw [StateT.run_bind, hx]
      exact hk position

theorem Yields.stop {x : Reading α} {k : α → Reading β} {r : Reader} {fault : Fault}
    {middle rest : List Symbol} (hx : Yields x r (.error fault) middle) :
    Yields (x >>= k) r (.error fault) rest := by
  show (x >>= k).run r = .error fault
  rw [StateT.run_bind, show x.run r = .error fault from hx]
  rfl

/-- What stops the first part stops the whole; otherwise the rest goes on. -/
theorem Yields.map_bind {γ : Type} {x : Reading α} {k : α → Reading β} {r : Reader}
    {outcome : Except Fault γ} {f : γ → α} {g : γ → β} {middle rest : List Symbol}
    (hx : Yields x r (outcome.map f) middle)
    (hk : ∀ c position, Yields (k (f c)) { r with rest := middle, position } (.ok (g c)) rest) :
    Yields (x >>= k) r (outcome.map g) rest := by
  cases outcome with
  | error fault => exact hx.stop
  | ok c => exact hx.bind (hk c)

theorem Yields.get_bind {k : Reader → Reading α} {r : Reader} {outcome : Except Fault α}
    {rest : List Symbol} (hk : Yields (k r) r outcome rest) :
    Yields (get >>= k) r outcome rest := by
  cases outcome <;> exact hk

theorem yields_pure (r : Reader) (a : α) : Yields (pure a) r (.ok a) r.rest :=
  ⟨r.position, rfl⟩

theorem yields_peek (r : Reader) : Yields peek r (.ok r.rest.head?) r.rest :=
  ⟨r.position, rfl⟩

theorem yields_next {r : Reader} {s : Symbol} {rest : List Symbol}
    (h : r.rest = s :: rest) (hahead : rest.head? ≠ some .dangling) :
    Yields next r (.ok (some s)) rest := by
  rcases r with ⟨symbols, position, _⟩
  cases h
  refine ⟨position + s.length, ?_⟩
  cases rest with
  | nil => rfl
  | cons s' rest =>
      cases s' with
      | plain c => rfl
      | escaped c => rfl
      | dangling => exact absurd rfl hahead

theorem yields_takeWhile {p : Nat → Bool} {digits : List Nat} {e : Nat} {rest : List Symbol}
    (hp : ∀ d ∈ digits, p d = true) (he : p e = false) {limit : Nat}
    (hlimit : digits.length < limit) {r : Reader}
    (h : r.rest = digits.map .plain ++ .plain e :: rest) :
    Yields (takeWhile p limit) r (.ok digits) (.plain e :: rest) := by
  induction digits generalizing limit r with
  | nil =>
      cases limit with
      | zero => cases hlimit
      | succ limit =>
          refine (yields_peek r).bind fun position => ?_
          simp only [h, List.map_nil, List.nil_append, List.head?_cons, he,
            Bool.false_eq_true, if_false]
          exact yields_pure _ _
  | cons d digits ih =>
      cases limit with
      | zero => cases hlimit
      | succ limit =>
          have hahead : (digits.map Symbol.plain ++ .plain e :: rest).head? ≠ some .dangling := by
            cases digits <;> simp
          have hd := hp d List.mem_cons_self
          refine (yields_peek r).bind fun position => ?_
          simp only [h, List.map_cons, List.cons_append, List.head?_cons, hd, if_true]
          refine (yields_next rfl hahead).bind fun position' => ?_
          refine Yields.bind (ih (fun d hd => hp d (.tail _ hd)) ?_ ?_) fun _ => yields_pure _ _
          · simpa using hlimit
          · rfl

theorem yields_nextIs (r : Reader) (c : Char) :
    Yields (nextIs c) r (.ok (r.rest.head?.any (·.is c))) r.rest :=
  ⟨r.position, rfl⟩

theorem yields_accept {r : Reader} {c : Char} {rest : List Symbol}
    (h : r.rest = .plain c.toNat :: rest) (hahead : rest.head? ≠ some .dangling) :
    Yields (accept c) r (.ok true) rest := by
  refine (yields_nextIs r c).bind fun _ => ?_
  simp only [h, List.head?_cons, Option.any_some, Symbol.is, beq_self_eq_true, if_true]
  exact (yields_next rfl hahead).bind fun _ => yields_pure _ _

theorem yields_accept_other {r : Reader} {c : Char}
    (h : r.rest.head?.any (·.is c) = false) :
    Yields (accept c) r (.ok false) r.rest := by
  refine (yields_nextIs r c).bind fun _ => ?_
  simp only [h]
  exact yields_pure _ _

def boundValue (digits : List Nat) : Except Fault Nat :=
  if Numeral.maxDigits < digits.length then .error (.tooManyDigits digits.length)
  else if unbounded ≤ decimalValue digits then .error .repetitionTooLarge
  else .ok (decimalValue digits)

theorem boundValue_cases (digits : List Nat) :
    (digits.length ≤ Numeral.maxDigits ∧ decimalValue digits < unbounded ∧
        boundValue digits = .ok (decimalValue digits)) ∨
      (¬ (digits.length ≤ Numeral.maxDigits ∧ decimalValue digits < unbounded) ∧
        (boundValue digits = .error (.tooManyDigits digits.length) ∨
          boundValue digits = .error .repetitionTooLarge)) := by
  unfold boundValue
  by_cases hlong : Numeral.maxDigits < digits.length
  · right
    refine ⟨?_, .inl (if_pos hlong)⟩
    rintro ⟨hshort, _⟩
    omega
  · rw [if_neg hlong]
    by_cases hlarge : unbounded ≤ decimalValue digits
    · right
      refine ⟨?_, .inr (if_pos hlarge)⟩
      rintro ⟨_, hsmall⟩
      omega
    · exact .inl ⟨by omega, by omega, if_neg hlarge⟩

theorem yields_bound (digits : List Nat) (r : Reader) :
    Yields (bound digits) r (boundValue digits) r.rest := by
  unfold bound boundValue
  split
  next => rfl
  next =>
    dsimp only
    split
    next hlarge =>
      rw [if_pos (show unbounded ≤ decimalValue digits from hlarge)]
      rfl
    next hsmall =>
      rw [if_neg (show ¬ unbounded ≤ decimalValue digits from hsmall)]
      exact ⟨r.position, rfl⟩

variable {digits : List Nat}

theorem yields_bounds (hdigits : ∀ d ∈ digits, CodePoint.isAsciiDigit d = true)
    (hne : digits ≠ []) {r : Reader}
    (h : r.rest = digits.map .plain ++ [.plain '\x7d'.toNat]) :
    Yields bounds r ((boundValue digits).map fun n => some (n, some n)) [] := by
  have hopen : r.rest.head?.any (·.is '\x7d') = false := by
    rw [h]
    cases digits with
    | nil => contradiction
    | cons d digits =>
        have hd := hdigits d List.mem_cons_self
        simp only [CodePoint.isAsciiDigit, Bool.and_eq_true, decide_eq_true_eq] at hd
        have hne : d ≠ '\x7d'.toNat := by
          simp only [Char.reduceToNat]
          omega
        simpa [Symbol.is] using hne
  refine .get_bind ((yields_nextIs r _).bind fun _ => ?_)
  simp only [hopen, Bool.false_eq_true, if_false]
  refine Yields.bind (.get_bind (yields_takeWhile hdigits rfl ?_ h)) fun _ => ?_
  · simp [h]
  refine (yields_accept_other rfl).bind fun _ => ?_
  simp only [Bool.false_eq_true, if_false]
  refine (yields_pure _ digits).bind fun _ => ?_
  refine (yields_accept rfl (by simp)).bind fun _ => ?_
  have hempty : digits.isEmpty = false := by simpa using hne
  simp only [if_true, hempty, Bool.false_eq_true, if_false]
  cases hvalue : boundValue digits with
  | error fault =>
      have hbound := yields_bound digits
      rw [hvalue] at hbound
      exact (hbound _).stop
  | ok n =>
      have hbound := yields_bound digits
      rw [hvalue] at hbound
      refine (hbound _).bind fun _ => (hbound _).bind fun _ => ?_
      simp only [Nat.lt_irrefl, if_false]
      exact yields_pure _ _

def repeated (f : Frame) (p : Piece) (n : Nat) : Frame :=
  { f with
    pieces := [⟨.loop .greedy n (some n) p.node, p.width.scale n (some n), .repetition⟩] }

theorem yields_simple (hdigits : ∀ d ∈ digits, CodePoint.isAsciiDigit d = true)
    (hne : digits ≠ []) {f : Frame} {p : Piece} (hstyle : f.style.verbose = false)
    (hpieces : f.pieces = [p]) (hform : p.form = .ordinary) (position : Nat) {r : Reader}
    (h : r.rest = digits.map .plain ++ [.plain '\x7d'.toNat]) :
    Yields (simple f position (.plain '\x7b'.toNat)) r
      ((boundValue digits).map (repeated f p)) [] := by
  have hquantifier : Yields (quantifier? (.plain '\x7b'.toNat)) r
      ((boundValue digits).map fun n => some (n, some n)) [] := yields_bounds hdigits hne h
  unfold simple
  simp only [hstyle, Bool.false_and]
  refine hquantifier.map_bind fun n _ => ?_
  show Yields (quantify f position n (some n)) _ _ _
  unfold quantify
  simp only [hpieces, hform]
  refine Yields.bind (a := .greedy) ?_ fun _ => yields_pure _ _
  refine (yields_accept_other rfl).bind fun _ => ?_
  refine (yields_accept_other rfl).bind fun _ => ?_
  exact yields_pure _ _

end Reading

theorem Symbol.split_of_no_backslash {cs : List Nat} (h : Symbol.backslash ∉ cs) :
    Symbol.split cs = cs.map .plain := by
  induction cs with
  | nil => rfl
  | cons c cs ih =>
      have hc : c ≠ Symbol.backslash := fun heq => h (heq ▸ List.mem_cons_self)
      have hcs := ih fun hmem => h (.tail _ hmem)
      cases cs with
      | nil => simp [Symbol.split, hc]
      | cons d rest =>
          rw [Symbol.split, if_neg (by simpa using hc), hcs]
          rfl

def counted (digits : List Nat) : Text :=
  ('a'.toNat :: '\x7b'.toNat :: (digits ++ ['\x7d'.toNat])).toArray

variable {digits : List Nat}

theorem split_counted (hdigits : ∀ d ∈ digits, CodePoint.isAsciiDigit d = true) :
    Symbol.split (counted digits).toList =
      .plain 'a'.toNat :: .plain '\x7b'.toNat :: (digits.map .plain ++ [.plain '\x7d'.toNat]) := by
  have hnone : Symbol.backslash ∉ (counted digits).toList := by
    intro hmem
    have hcases : Symbol.backslash ∈ digits := by
      simpa [counted, Symbol.backslash] using hmem
    cases hdigits _ hcases
  rw [Symbol.split_of_no_backslash hnone]
  simp [counted]

def letterPiece : Piece :=
  .char (.point (.ofFlags .none) 'a'.toNat)

def letterFrame : Frame :=
  (wholeFrame (.ofFlags .none)).push letterPiece

theorem yields_tree (hdigits : ∀ d ∈ digits, CodePoint.isAsciiDigit d = true)
    (hne : digits ≠ []) (limit : Nat) {r : Reader}
    (h : r.rest = .plain '\x7b'.toNat :: (digits.map .plain ++ [.plain '\x7d'.toNat])) :
    Reading.Yields (Reading.tree (limit + 2) letterFrame []) r
      ((Reading.boundValue digits).map fun n =>
        ⟨(Reading.repeated letterFrame letterPiece n).body.1, none⟩) [] := by
  have hahead :
      (digits.map Symbol.plain ++ [Symbol.plain '\x7d'.toNat]).head? ≠ some .dangling := by
    cases digits <;> simp
  refine .get_bind ((Reading.yields_peek r).bind fun _ => ?_)
  simp only [h, List.head?_cons]
  refine (Reading.yields_next rfl hahead).bind fun _ => ?_
  have hsimple : ∀ {r : Reader}, r.rest = digits.map .plain ++ [.plain '\x7d'.toNat] → _ :=
    Reading.yields_simple (f := letterFrame) hdigits hne rfl rfl rfl r.position
  exact (hsimple rfl).map_bind fun n _ => ⟨_, rfl⟩

theorem compile_counted (hdigits : ∀ d ∈ digits, CodePoint.isAsciiDigit d = true)
    (hne : digits ≠ []) (characters : CharacterNames) :
    match Reading.boundValue digits with
    | .ok _ => ∃ p, compile (counted digits) .none characters = .ok p
    | .error fault => compile (counted digits) .none characters = .error fault := by
  let rest : List Symbol := digits.map .plain ++ [.plain '\x7d'.toNat]
  let start : Reader :=
    ⟨.plain 'a'.toNat :: .plain '\x7b'.toNat :: rest, 0, [], [], [], characters⟩
  have hstart : startReader (counted digits) characters = start := by
    simp only [startReader, split_counted hdigits, start, rest]
  let second : Reader := { start with rest := .plain '\x7b'.toNat :: rest, position := 1 }
  have hyields := yields_tree hdigits hne rest.length (r := second) rfl
  have hcompile : compile (counted digits) .none characters =
      ((Reading.tree (rest.length + 2) letterFrame []).run second >>= fun result =>
        finish (counted digits) .none result.1 result.2) := by
    unfold compile
    rw [hstart]
    rfl
  rw [hcompile]
  cases hvalue : Reading.boundValue digits with
  | error fault =>
      rw [hvalue] at hyields
      have hrun : (Reading.tree (rest.length + 2) letterFrame []).run second = .error fault :=
        hyields
      rw [hrun]
      rfl
  | ok n =>
      rw [hvalue] at hyields
      rcases hyields with ⟨position, hrun⟩
      rw [hrun]
      exact ⟨_, rfl⟩

end FirstMatch.Pattern
