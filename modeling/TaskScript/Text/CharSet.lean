/-!
# Sets of characters

A set of characters is a list of inclusive ranges of code points. The classes of characters that
the language and its messages rest on are such sets, one module each; below `0x80` a class is
decided by a test on the character itself, so the tables begin at `0x80`.
-/

namespace TaskScript

/-- A set of characters, as inclusive ranges of code points. -/
structure CharSet where
  ranges : List (Nat × Nat)

namespace CharSet

/-- Is the character in one of the ranges? -/
def contains (set : CharSet) (c : Char) : Bool :=
  set.ranges.any fun range => range.1 ≤ c.toNat && c.toNat ≤ range.2

end CharSet

/-- Is the character one of the first 128? -/
def isAscii (c : Char) : Bool := c.toNat < 0x80

end TaskScript
