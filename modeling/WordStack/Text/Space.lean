import WordStack.Text.Ranges

/-! Whitespace and control characters.

Whitespace separates tokens and is what trimming removes. A source text is read
with its control characters blank as well, so `isBlank` is the wider class. -/
namespace WordStack.Text

/-- Whitespace: the spaces and separators of every script, and the controls that end or divide
lines, columns and records. -/
def spaces : Ranges :=
  [(0x0009, 0x000D), (0x001C, 0x0020), (0x0085, 0x0085), (0x00A0, 0x00A0), (0x1680, 0x1680),
   (0x2000, 0x200A), (0x2028, 0x2029), (0x202F, 0x202F), (0x205F, 0x205F), (0x3000, 0x3000)]

/-- The two blocks of control characters. -/
def controls : Ranges :=
  [(0x0000, 0x001F), (0x007F, 0x009F)]

def isSpace (c : Char) : Bool := spaces.contains c.toNat

def isControl (c : Char) : Bool := controls.contains c.toNat

/-- What a program's text is read with a plain space in place of. -/
def isBlank (c : Char) : Bool := isSpace c || isControl c

theorem isBlank_of_isSpace {c : Char} (space : isSpace c = true) : isBlank c = true := by
  simp [isBlank, space]

end WordStack.Text
