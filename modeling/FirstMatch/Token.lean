import FirstMatch.Datum

/-!
# Tokens

The value of a token is never empty, and its index is whatever the place is called by the
one who made it: it need not be an index of any text.
-/

namespace FirstMatch

structure Token where
  index : Int
  kind : Datum
  value : Text
  deriving DecidableEq

structure EmptyValue where
  index : Int
  kind : Datum
  deriving DecidableEq

def EmptyValue.message (e : EmptyValue) : Text :=
  text "Token at " ++ decimal e.index ++ text " of type " ++ e.kind.display ++
    text " has empty value"

namespace Token

def build (index : Int) (kind : Datum) (value : Option Text) : Except EmptyValue Token :=
  match value with
  | some v => if v.isEmpty then .error ⟨index, kind⟩ else .ok ⟨index, kind, v⟩
  | none => .error ⟨index, kind⟩

def stop (t : Token) : Int :=
  t.index + t.value.size

/-- Tokens are equal when they agree in index, value and, as data, in kind. -/
def same (a b : Token) : Bool :=
  a.index == b.index && a.kind.same b.kind && a.value == b.value

def hashable (t : Token) : Bool :=
  t.kind.hashable

def literal (t : Token) : Text :=
  text "Token(index=" ++ decimal t.index ++ text ", type=" ++ t.kind.literal ++
    text ", value=" ++ t.value.quoted ++ text ")"

theorem build_of_ne {v : Text} (h : v ≠ #[]) (index : Int) (kind : Datum) :
    build index kind (some v) = .ok ⟨index, kind, v⟩ := by
  simp [build, h]

theorem build_eq_ok_iff {index : Int} {kind : Datum} {value : Option Text} {t : Token} :
    build index kind value = .ok t ↔
      value = some t.value ∧ t.value ≠ #[] ∧ t.index = index ∧ t.kind = kind := by
  cases value with
  | none => simp [build]
  | some v =>
    by_cases h : v = #[]
    · subst h
      simp [build]
      intro h'
      simp [← h']
    · rw [build_of_ne h]
      constructor
      · rintro ⟨⟩
        exact ⟨rfl, h, rfl, rfl⟩
      · rintro ⟨hv, _, rfl, rfl⟩
        cases hv
        rfl

end Token

end FirstMatch
