/-! Cells: the integers that a stack holds.

A cell is a signed number of thirty-two bits. Arithmetic is done on integers and
its result is brought back into range by discarding multiples of `modulus`, so
every result is a cell (`isCell_wrap`). -/
namespace WordStack.Cell

def modulus : Nat := 4294967296

def least : Int := -2147483648

def greatest : Int := 2147483647

/-- Whether an integer is in the range of cells. -/
def IsCell (n : Int) : Prop := least ≤ n ∧ n ≤ greatest

instance (n : Int) : Decidable (IsCell n) := inferInstanceAs (Decidable (_ ∧ _))

/-- The cell that differs from an integer by a multiple of `modulus`. -/
def wrap (n : Int) : Int := n.bmod modulus

theorem isCell_wrap (n : Int) : IsCell (wrap n) := by
  have low := Int.le_bmod (x := n) (m := modulus) (by decide)
  have high := Int.bmod_lt (x := n) (m := modulus) (by decide)
  simp only [IsCell, wrap, least, greatest, modulus] at *
  omega

end WordStack.Cell
