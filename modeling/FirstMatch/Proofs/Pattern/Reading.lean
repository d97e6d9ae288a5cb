import FirstMatch.Pattern.Header

/-!
# What stops the reading of a pattern

Reading stops because the pattern is ill-formed, or because a number that is written in it
does not fit.  `Proceeds` says of a part of the reading where in the pattern it starts,
where it ends, and that this is all that can stop it.
-/

namespace FirstMatch.Pattern

/-- What a quantifier in braces is written with, up to the closing one.  The second
bound stands behind a comma. -/
def openBounds (least : List Nat) (most? : Option (List Nat)) : List Symbol :=
  [.plain '\x7b'.toNat] ++ least.map .plain ++
    (most?.map fun most => .plain ','.toNat :: most.map .plain).getD []

def IsBound (symbols : List Symbol) (digits : List Nat) : Prop :=
  ∃ least most?, openBounds least most? ++ [.plain '\x7d'.toNat] <:+: symbols ∧
    (digits = least ∨ most? = some digits) ∧ ∀ d ∈ digits, CodePoint.isAsciiDigit d = true

def decimalValue (digits : List Nat) : Nat :=
  digitsValue 10 (fun d => some (d - '0'.toNat)) digits

inductive TooLarge (symbols : List Symbol) : Fault → Prop
  | digits {digits : List Nat} (hbound : IsBound symbols digits)
      (hlong : Numeral.maxDigits < digits.length) :
      TooLarge symbols (.tooManyDigits digits.length)
  | bound {digits : List Nat} (hbound : IsBound symbols digits)
      (hlarge : unbounded ≤ decimalValue digits) : TooLarge symbols .repetitionTooLarge
  | codePoint {digits : List Nat}
      (hescape : .escaped 'U'.toNat :: digits.map .plain <:+: symbols)
      (hlength : digits.length = 8)
      (hlarge : Reading.lastCandidate < digitsValue 16 CodePoint.hexValue? digits) :
      TooLarge symbols .numberTooLarge

/-- The letters, in order, name the switches, the last one first.  The letter of the
locale is never among them. -/
def Letters (letters : List Symbol) (on : List Switch) : Prop :=
  letters.map Reading.switch? = on.reverse.map some ∧ .locale ∉ on

def GlobalFlags (symbols : List Symbol) (on : List Switch) : Prop :=
  ∃ letters, Letters letters on ∧
    [.plain '('.toNat, .plain '?'.toNat] ++ letters ++ [.plain ')'.toNat] <:+: symbols

/-- The flags are others with some more switches on that are turned on among the
symbols. -/
def Flags.GrownFrom (final flags : Flags) (symbols : List Symbol) : Prop :=
  ∃ on, final = flags.turnOnAll on ∧ ∀ u ∈ on, ∃ on', GlobalFlags symbols on' ∧ u ∈ on'

def Fault.IsIllFormed (fault : Fault) : Prop :=
  ∃ problem position, fault = .illFormed problem position

def Explained (symbols : List Symbol) (fault : Fault) : Prop :=
  fault.IsIllFormed ∨ TooLarge symbols fault

/-- The symbols `seen` were taken last, in front of the rest. -/
def Behind (whole seen rest : List Symbol) : Prop :=
  seen ++ rest <:+ whole

abbrev Within (whole rest : List Symbol) : Prop :=
  rest <:+ whole

theorem Behind.within {whole seen rest : List Symbol} (h : Behind whole seen rest) :
    Within whole rest :=
  (List.suffix_append seen rest).trans h

theorem Behind.among {whole seen rest : List Symbol} (h : Behind whole seen rest) :
    seen <:+: whole :=
  (List.prefix_append seen rest).isInfix.trans h.isInfix

theorem Flags.turnOnAll_append (f : Flags) (on on' : List Switch) :
    f.turnOnAll (on ++ on') = (f.turnOnAll on).turnOnAll on' :=
  List.foldl_append

namespace Flags.GrownFrom

variable {f g h : Flags} {symbols : List Symbol}

theorem refl : f.GrownFrom f symbols :=
  ⟨[], rfl, nofun⟩

theorem turnOnAll {on : List Switch} (hon : GlobalFlags symbols on) :
    (f.turnOnAll on).GrownFrom f symbols :=
  ⟨on, rfl, fun _ hu => ⟨on, hon, hu⟩⟩

theorem trans (hgh : h.GrownFrom g symbols) (hfg : g.GrownFrom f symbols) :
    h.GrownFrom f symbols := by
  obtain ⟨on, rfl, hon⟩ := hfg
  obtain ⟨on', rfl, hon'⟩ := hgh
  refine ⟨on ++ on', (f.turnOnAll_append on on').symm, ?_⟩
  intro u hu
  rcases List.mem_append.mp hu with h | h
  · exact hon u h
  · exact hon' u h

end Flags.GrownFrom

namespace Reading

variable {α β : Type} {whole seen : List Symbol}

/-- From symbols of which `P` holds the reading gets to symbols of which `Q` holds, or
it stops with a fault that the whole pattern explains. -/
def Proceeds (whole : List Symbol) (P : List Symbol → Prop) (x : Reading α)
    (Q : α → List Symbol → Prop) : Prop :=
  ∀ r, P r.rest →
    match x.run r with
    | .ok (a, r') => Q a r'.rest
    | .error fault => Explained whole fault

abbrev Keeps (whole : List Symbol) (x : Reading α) : Prop :=
  Proceeds whole (Within whole) x fun _ => Within whole

namespace Proceeds

variable {P P' : List Symbol → Prop} {Q Q' : α → List Symbol → Prop}
  {R : β → List Symbol → Prop} {x : Reading α}

theorem bind {f : α → Reading β} (hx : Proceeds whole P x Q)
    (hf : ∀ a, Proceeds whole (Q a) (f a) R) :
    Proceeds whole P (x >>= f) R := by
  intro r hr
  have hfirst := hx r hr
  rw [StateT.run_bind]
  cases hrun : x.run r with
  | error fault =>
      rw [hrun] at hfirst
      exact hfirst
  | ok result =>
      rw [hrun] at hfirst
      exact hf result.1 result.2 hfirst

theorem reached (hx : Proceeds whole P x Q) {a : α} {r r' : Reader} (hr : P r.rest)
    (h : x.run r = .ok (a, r')) : Q a r'.rest := by
  have hrun := hx r hr
  rw [h] at hrun
  exact hrun

theorem explained (hx : Proceeds whole P x Q) {r : Reader} {fault : Fault} (hr : P r.rest)
    (h : x.run r = .error fault) : Explained whole fault := by
  have hrun := hx r hr
  rw [h] at hrun
  exact hrun

theorem imp (hx : Proceeds whole P x Q) (hP : ∀ rest, P' rest → P rest)
    (hQ : ∀ a rest, Q a rest → Q' a rest) :
    Proceeds whole P' x Q' := by
  intro r hr
  have h := hx r (hP _ hr)
  cases hrun : x.run r with
  | error fault =>
      rw [hrun] at h
      exact h
  | ok result =>
      rw [hrun] at h
      exact hQ _ _ h

theorem behind (hx : Proceeds whole (Within whole) x Q) :
    Proceeds whole (Behind whole seen) x Q :=
  hx.imp (fun _ => Behind.within) fun _ _ => id

theorem assume (h : ∀ rest, P rest → Proceeds whole P x Q) : Proceeds whole P x Q :=
  fun r hr => h r.rest hr r hr

theorem known {p : Prop} (h : p → Proceeds whole P x Q) :
    Proceeds whole (fun rest => P rest ∧ p) x Q :=
  fun r hr => h hr.2 r hr.1

theorem forget {p : List Symbol → Prop} (hx : Proceeds whole P x Q) :
    Proceeds whole (fun rest => p rest ∧ P rest) x Q :=
  fun r hr => hx r hr.2

theorem ofExists {γ : Type} {P : γ → List Symbol → Prop}
    (h : ∀ a, Proceeds whole (P a) x Q) :
    Proceeds whole (fun rest => ∃ a, P a rest) x Q :=
  fun r ⟨a, ha⟩ => h a r ha

theorem pure {a : α} (h : ∀ rest, P rest → Q a rest) :
    Proceeds whole P (Pure.pure a) Q :=
  fun r hr => h r.rest hr

theorem keep {a : α} : Keeps whole (Pure.pure a : Reading α) :=
  .pure fun _ => id

theorem failAt (problem : Problem) (position : Nat) :
    Proceeds whole P (failAt problem position) Q :=
  fun _ _ => .inl ⟨problem, some position, rfl⟩

theorem fail (problem : Problem) (back : Nat) :
    Proceeds whole P (fail problem back) Q :=
  fun r _ => .inl ⟨problem, some (r.position - back), rfl⟩

theorem throw {fault : Fault} (h : TooLarge whole fault) :
    Proceeds whole P (MonadExcept.throw fault) Q :=
  fun _ _ => .inr h

theorem get_bind {f : Reader → Reading α}
    (hf : ∀ r, P r.rest → Proceeds whole P (f r) Q) :
    Proceeds whole P (get >>= f) Q :=
  fun r hr => hf r hr r hr

theorem set {r : Reader} {Q : PUnit → List Symbol → Prop} (h : Q ⟨⟩ r.rest) :
    Proceeds whole P (MonadStateOf.set r) Q :=
  fun _ _ => h

theorem modify {f : Reader → Reader} (h : ∀ r, (f r).rest = r.rest) :
    Proceeds whole P (StateT.modifyGet fun r => (PUnit.unit, f r)) fun _ => P := by
  intro r hr
  show P (f r).rest
  rw [h r]
  exact hr

theorem branch_bind {c : Prop} [Decidable c] {y : Reading α} {f : α → Reading β}
    (hx : c → Proceeds whole P x Q) (hy : ¬ c → Proceeds whole P y Q)
    (hf : ∀ a, Proceeds whole (Q a) (f a) R) :
    Proceeds whole P (if c then x >>= f else y >>= f) R := by
  split
  next hc => exact (hx hc).bind hf
  next hc => exact (hy hc).bind hf

theorem stop {f : α → Reading β} (hx : Proceeds whole P x fun _ _ => False) :
    Proceeds whole P (x >>= f) R :=
  hx.bind fun _ _ h => h.elim

end Proceeds

/-! ## Symbols -/

theorem next_run_cons {r : Reader} {s : Symbol} {rest : List Symbol} (h : r.rest = s :: rest) :
    next.run r = .ok (some s, { r with rest, position := r.position + s.length }) ∨
      ∃ position, next.run r = .error (.illFormed .danglingBackslash position) := by
  obtain ⟨symbols, position, _, _, _, _⟩ := r
  cases h
  cases rest with
  | nil => exact .inl rfl
  | cons s' rest =>
      cases s' with
      | plain c => exact .inl rfl
      | escaped c => exact .inl rfl
      | dangling => exact .inr ⟨_, rfl⟩

theorem next_run_nil {r : Reader} (h : r.rest = []) : next.run r = .ok (none, r) := by
  obtain ⟨symbols, _, _, _, _, _⟩ := r
  cases h
  rfl

theorem checkAhead_keeps : Keeps whole checkAhead := by
  refine .get_bind fun r hr => ?_
  split
  · exact .failAt _ _
  · exact .keep

theorem next_proceeds (seen : List Symbol) :
    Proceeds whole (Behind whole seen) next fun s? => Behind whole (seen ++ s?.toList) := by
  intro r hr
  cases hrest : r.rest with
  | nil =>
      rw [next_run_nil hrest]
      simpa using hr
  | cons s rest =>
      rw [hrest] at hr
      rcases next_run_cons hrest with hrun | ⟨position, hrun⟩
      · rw [hrun]
        simpa [Behind] using hr
      · rw [hrun]
        exact .inl ⟨_, _, rfl⟩

theorem next_behind :
    Proceeds whole (Within whole) next fun s? => Behind whole s?.toList :=
  next_proceeds []

theorem next_keeps : Keeps whole next :=
  next_behind.imp (fun _ => id) fun _ _ => Behind.within

theorem next_of_head (s : Symbol) (seen : List Symbol) :
    Proceeds whole (fun rest => rest.head? = some s ∧ Behind whole seen rest) next
      fun _ => Behind whole (seen ++ [s]) := by
  rintro r ⟨hhead, hr⟩
  obtain ⟨rest, hrest⟩ := List.head?_eq_some_iff.mp hhead
  rw [hrest] at hr
  rcases next_run_cons hrest with hrun | ⟨position, hrun⟩
  · rw [hrun]
    simpa [Behind] using hr
  · rw [hrun]
    exact .inl ⟨_, _, rfl⟩

theorem peek_proceeds (P : List Symbol → Prop) :
    Proceeds whole P peek fun s? rest => s? = rest.head? ∧ P rest :=
  fun _ hr => ⟨rfl, hr⟩

theorem eq_plain_of_is {s : Symbol} {c : Char} (h : s.is c = true) : s = .plain c.toNat :=
  beq_iff_eq.mp h

theorem nextIs_proceeds (P : List Symbol → Prop) (c : Char) :
    Proceeds whole P (nextIs c) fun found rest =>
      (found = true → rest.head? = some (.plain c.toNat)) ∧ P rest := by
  refine (peek_proceeds P).bind fun s? => .pure ?_
  rintro rest ⟨rfl, hrest⟩
  refine ⟨?_, hrest⟩
  cases rest with
  | nil => simp
  | cons s rest =>
      intro hfound
      rw [eq_plain_of_is hfound, List.head?_cons]

theorem accept_proceeds (seen : List Symbol) (c : Char) :
    Proceeds whole (Behind whole seen) (accept c) fun taken =>
      Behind whole (if taken then seen ++ [.plain c.toNat] else seen) := by
  refine (nextIs_proceeds _ c).bind fun found => ?_
  cases found with
  | false => exact .pure fun _ h => h.2
  | true =>
      refine .bind (Q := fun _ => Behind whole (seen ++ [.plain c.toNat])) ?_ fun _ =>
        .pure fun _ => id
      exact (next_of_head _ seen).imp (fun _ h => ⟨h.1 rfl, h.2⟩) fun _ _ => id

theorem accept_keeps (c : Char) : Keeps whole (accept c) :=
  (accept_proceeds [] c).imp (fun _ => id) fun _ _ => Behind.within

/-! ## Runs of characters and names -/

theorem takeWhile_proceeds (p : Nat → Bool) (limit : Nat) (seen : List Symbol) :
    Proceeds whole (Behind whole seen) (takeWhile p limit) fun digits rest =>
      Behind whole (seen ++ digits.map .plain) rest ∧ ∀ d ∈ digits, p d = true := by
  induction limit generalizing seen with
  | zero => exact .pure fun _ h => ⟨by simpa using h, nofun⟩
  | succ limit ih =>
      unfold takeWhile
      refine (peek_proceeds _).bind fun s? => ?_
      split
      next c =>
        split
        next hp =>
          refine .bind (Q := fun _ => Behind whole (seen ++ [.plain c])) ?_ fun _ => ?_
          · exact (next_of_head _ seen).imp (fun _ h => ⟨h.1.symm, h.2⟩) fun _ _ => id
          · refine (ih _).bind fun digits => .pure ?_
            rintro rest ⟨hrest, hdigits⟩
            exact ⟨by simpa using hrest, by simpa using ⟨hp, hdigits⟩⟩
        next => exact .pure fun _ h => ⟨by simpa using h.2, nofun⟩
      next => exact .pure fun _ h => ⟨by simpa using h.2, nofun⟩

theorem takeWhile_keeps (p : Nat → Bool) (limit : Nat) : Keeps whole (takeWhile p limit) :=
  (takeWhile_proceeds p limit []).imp (fun _ => id) fun _ _ h => h.1.within

theorem takeAllWhile_proceeds (p : Nat → Bool) (seen : List Symbol) :
    Proceeds whole (Behind whole seen) (takeAllWhile p) fun digits rest =>
      Behind whole (seen ++ digits.map .plain) rest ∧ ∀ d ∈ digits, p d = true :=
  .get_bind fun _ _ => takeWhile_proceeds p _ seen

theorem unterminatedName_proceeds (terminator : Char) (missing : Problem) (name : Text)
    (P : List Symbol → Prop) (Q : α → List Symbol → Prop) :
    Proceeds whole P (unterminatedName terminator missing name) Q := by
  unfold unterminatedName
  split
  · exact .fail _ _
  · exact .fail _ _

theorem nameUntil_keeps (terminator : Char) (missing : Problem) (limit : Nat) (name : Text) :
    Keeps whole (nameUntil terminator missing limit name) := by
  induction limit generalizing name with
  | zero => exact unterminatedName_proceeds _ _ _ _ _
  | succ limit ih =>
      unfold nameUntil
      refine next_keeps.bind fun s? => ?_
      split
      · exact unterminatedName_proceeds _ _ _ _ _
      · split
        · split
          · exact .fail _ _
          · exact .keep
        · exact ih _

theorem name_keeps (terminator : Char) (missing : Problem) :
    Keeps whole (name terminator missing) :=
  .get_bind fun _ _ => nameUntil_keeps terminator missing _ _

theorem groupCount_keeps : Keeps whole groupCount :=
  .get_bind fun _ _ => .keep

theorem closedWidth?_keeps (group : Nat) : Keeps whole (closedWidth? group) :=
  .get_bind fun _ _ => .keep

end Reading

end FirstMatch.Pattern
