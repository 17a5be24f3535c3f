import TaskScript.Text.CharSet

/-!
# Blanks

Which characters separate words: those with the Unicode property White_Space. Below `0x80` they are
the space and the five controls from the tab to the carriage return.
-/

namespace TaskScript

/-- The characters from `0x80` on with the property White_Space. -/
def beyondAsciiBlanks : CharSet where
  ranges :=
    [(0x85, 0x85), (0xA0, 0xA0), (0x1680, 0x1680), (0x2000, 0x200A), (0x2028, 0x2029),
     (0x202F, 0x202F), (0x205F, 0x205F), (0x3000, 0x3000)]

/-- Has the character the property White_Space? -/
def isBlank (c : Char) : Bool :=
  if isAscii c then c = ' ' || ('\t' ≤ c && c ≤ '\r') else beyondAsciiBlanks.contains c

theorem isBlank_of_isAscii {c : Char} (ascii : isAscii c = true) :
    isBlank c = (c = ' ' || ('\t' ≤ c && c ≤ '\r')) := by
  simp [isBlank, ascii]

end TaskScript
