import FirstMatch.Text

/-!
# Blanks

Whitespace comes in two sizes.  The wide one is the Unicode property together with the
four information separators U+001C to U+001F; the narrow one is six ASCII characters.
-/

namespace FirstMatch.CodePoint

/-- Bounds of the intervals of whitespace, as `within` reads them. -/
def blanks : List Nat := [
    0x9, 0xE, 0x1C, 0x21, 0x85, 0x86, 0xA0, 0xA1, 0x1680, 0x1681, 0x2000, 0x200B, 0x2028,
    0x202A, 0x202F, 0x2030, 0x205F, 0x2060, 0x3000, 0x3001]

def isBlank (c : Nat) : Bool :=
  within blanks c

def isAsciiBlank (c : Nat) : Bool :=
  c == 0x20 || (0x09 ≤ c && c ≤ 0x0D)

end FirstMatch.CodePoint
