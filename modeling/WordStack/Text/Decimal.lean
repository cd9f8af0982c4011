import WordStack.Text.Basic

/-! Decimal digits of every script.

A decimal digit may not begin a word's name, whatever its script. Each script's
digits stand in order in ten consecutive code points, so the class is given by
its zeros. Numerals are a smaller matter: only ASCII digits make them, which is
core's `Char.isDigit`. -/
namespace WordStack.Text

/-- The digit zero of each set of decimal digits. -/
def zeros : List Nat :=
  [0x0030, 0x0660, 0x06F0, 0x07C0, 0x0966, 0x09E6, 0x0A66, 0x0AE6, 0x0B66, 0x0BE6, 0x0C66, 0x0CE6,
   0x0D66, 0x0DE6, 0x0E50, 0x0ED0, 0x0F20, 0x1040, 0x1090, 0x17E0, 0x1810, 0x1946, 0x19D0, 0x1A80,
   0x1A90, 0x1B50, 0x1BB0, 0x1C40, 0x1C50, 0xA620, 0xA8D0, 0xA900, 0xA9D0, 0xA9F0, 0xAA50, 0xABF0,
   0xFF10, 0x104A0, 0x10D30, 0x11066, 0x110F0, 0x11136, 0x111D0, 0x112F0, 0x11450, 0x114D0,
   0x11650, 0x116C0, 0x11730, 0x118E0, 0x11950, 0x11C50, 0x11D50, 0x11DA0, 0x16A60, 0x16AC0,
   0x16B50, 0x1D7CE, 0x1D7D8, 0x1D7E2, 0x1D7EC, 0x1D7F6, 0x1E140, 0x1E2F0, 0x1E950, 0x1FBF0]

/-- The decimal digits: ten code points from each zero. -/
def decimals : Ranges := zeros.map fun first => (first, first + 9)

def isDecimal (c : Char) : Bool := decimals.contains c.toNat

/-- Whether a text begins with a decimal digit, of any script. -/
def isDigitLed (text : Text) : Bool := text.head?.any isDecimal

section
variable {c : Char}

theorem toNat_of_isDigit (digit : c.isDigit = true) : 0x30 ≤ c.toNat ∧ c.toNat ≤ 0x39 := by
  simp only [Char.isDigit, ge_iff_le, Bool.and_eq_true, decide_eq_true_eq,
    UInt32.le_iff_toNat_le] at digit
  exact digit

theorem isBlank_of_isDigit (digit : c.isDigit = true) : isBlank c = false := by
  have range := toNat_of_isDigit digit
  simp only [isBlank, isSpace, spaces, isControl, controls, Ranges.contains]
  grind

theorem isSpace_of_isDigit (digit : c.isDigit = true) : isSpace c = false :=
  (Bool.or_eq_false_iff.1 (isBlank_of_isDigit digit)).1

theorem isDecimal_of_isDigit (digit : c.isDigit = true) : isDecimal c = true := by
  have range := toNat_of_isDigit digit
  show Ranges.contains ((0x30, 0x39) :: (zeros.tail.map fun first => (first, first + 9))) _ = true
  rw [Ranges.contains, if_pos range.2]
  exact decide_eq_true range.1

end

end WordStack.Text
