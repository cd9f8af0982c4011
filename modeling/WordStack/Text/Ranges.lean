/-! Character classes as ascending ranges of code points.

A class is given by the first and last code point of each of its ranges. The
ranges are disjoint and ascend, so a look-up is over at the first range that
ends at or after the code point it is asked for. -/
namespace WordStack.Text

/-- The first and last code point of each range, disjoint and ascending. -/
abbrev Ranges := List (Nat × Nat)

/-- Whether the code point lies in one of the ranges. -/
def Ranges.contains : Ranges → Nat → Bool
  | [], _ => false
  | (first, last) :: rest, point =>
    if point ≤ last then decide (first ≤ point) else Ranges.contains rest point

/-- What a class contains lies in one of its ranges. -/
theorem Ranges.exists_of_contains {ranges : Ranges} {point : Nat}
    (inside : ranges.contains point = true) :
    ∃ range ∈ ranges, range.1 ≤ point ∧ point ≤ range.2 := by
  induction ranges with
  | nil => simp [Ranges.contains] at inside
  | cons range rest ih =>
    by_cases here : point ≤ range.2
    · exact ⟨range, .head _, by simpa [Ranges.contains, here] using inside, here⟩
    · obtain ⟨r, member, bounds⟩ := ih (by simpa [Ranges.contains, here] using inside)
      exact ⟨r, .tail _ member, bounds⟩

end WordStack.Text
