import FirstMatch.Pattern.Escape

/-!
# Classes in brackets

A class lists characters, ranges and categories.  A closing bracket is a member
when it comes first, and so is a minus sign that comes first or last.
-/

namespace FirstMatch.Pattern

inductive Member where
  | point (c : Nat)
  | category (category : Category) (negated : Bool)
  deriving DecidableEq, Repr

def Member.item (style : Style) : Member → Item
  | .point c => .point c
  | .category k negated => .category k style.ascii negated

namespace Reading

def classEscape (c : Nat) : Reading Member := do
  match category? c with
  | some (k, negated) => return .category k negated
  | none =>
    if c == 'b'.toNat then
      return .point 0x08
    else if (CodePoint.octalValue? c).isSome then
      let more ← takeWhile (fun d => (CodePoint.octalValue? d).isSome) 2
      return .point (← octalEscape (c :: more))
    else
      return .point (← codePointEscape c)

def member : Symbol → Reading Member
  | .plain c => return .point c
  | .escaped c => classEscape c
  | .dangling => return .point Symbol.backslash

/-- Reports a range with the symbols that start its two ends. -/
def badRange (first last : Symbol) : Reading Item :=
  fail (.badRange first.spelling last.spelling) (first.length + 1 + last.length)

def range (first last : Symbol) : Member → Member → Reading Item
  | .point lo, .point hi => if hi < lo then badRange first last else return .range lo hi
  | _, _ => badRange first last

/-- The items up to the closing bracket, in at most `limit` rounds.  `start` is
the position of the opening bracket; `items` are those read so far, last first. -/
def classItems (style : Style) (start : Nat) :
    (limit : Nat) → (items : List Item) → Reading (List Item)
  | 0, _ => failAt .unterminatedSet start
  | limit + 1, items => do
    match ← next with
    | none => failAt .unterminatedSet start
    | some first =>
      if first.is ']' && !items.isEmpty then
        return items.reverse
      let a ← member first
      if ← accept '-' then
        match ← next with
        | none => failAt .unterminatedSet start
        | some last =>
          if last.is ']' then
            return (.point '-'.toNat :: a.item style :: items).reverse
          let b ← member last
          classItems style start limit ((← range first last a b) :: items)
      else
        classItems style start limit (a.item style :: items)

def charClass (style : Style) (start : Nat) : Reading CharSet := do
  let negated ← accept '^'
  let items ← classItems style start ((← get).rest.length + 1) []
  return ⟨negated, items, style.folding⟩

end Reading

end FirstMatch.Pattern
