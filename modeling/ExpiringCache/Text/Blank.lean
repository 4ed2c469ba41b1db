import ExpiringCache.Text.CodePoints
/-!
# Blanks

The characters that are white space in any script (`White_Space`), and texts without the blanks at
their ends.
-/

namespace ExpiringCache.Text

def blank : CodePoints := [
    (0x9, 0xd), (0x20, 0x20), (0x85, 0x85), (0xa0, 0xa0), (0x1680, 0x1680), (0x2000, 0x200a),
    (0x2028, 0x2029), (0x202f, 0x202f), (0x205f, 0x205f), (0x3000, 0x3000)]

/-- A blank of some script. -/
def Blank (c : Char) : Prop := blank.Contain c

instance (c : Char) : Decidable (Blank c) := inferInstanceAs (Decidable (blank.Contain c))

/-- The characters from the first to the last one that is no blank. -/
def trimmed (chars : List Char) : List Char :=
  ((chars.dropWhile fun c => Blank c).reverse.dropWhile fun c => Blank c).reverse

end ExpiringCache.Text
