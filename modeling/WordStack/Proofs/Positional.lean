import Mathlib.Data.Nat.Digits.Defs
import WordStack.Proofs.Dump

/-! Numerals, read exactly.

A numeral is a sign that may stand there, or none, and digits behind it. What a
reader makes of a text is told by the numeral alone (`Exact`): the value that the
digits have by their places, if that is in range and the digits are not too many, and
of any other text nothing. Both readers are exact, and all else that is said of
them follows from that: leading zeros and a plus sign do not matter, integers are
read back as they are written, and the two readers differ just in the minus sign and
in the numbers between their ranges (`readers_exact`). -/
namespace WordStack.Numeral

/-! ### Numerals and their values -/

/-- What digits stand for, each by its place. -/
def positional (digits : Text) : Nat :=
  Nat.ofDigits 10 (digits.reverse.map fun c => c.toNat - '0'.toNat)

/-- The number with the sign. -/
def signed (sign : Option Char) (n : Nat) : Int := if sign = some '-' then -n else n

/-- The signs that a cell may have. -/
def cellSigns : List (Option Char) := [none, some '+', some '-']

/-- The signs that a number without sign may have. -/
def unsignedSigns : List (Option Char) := [none, some '+']

/-- The text is a numeral: a sign that may stand there, and digits. -/
structure Spelled (signs : List (Option Char)) (text : Text) (sign : Option Char)
    (digits : Text) : Prop where
  whole : text = sign.toList ++ digits
  sign : sign ∈ signs
  nonempty : digits ≠ []
  digits : ∀ c ∈ digits, c.isDigit = true

/-- A reader gives the value of every numeral that is short enough and in range, refuses those that
are too long, and takes nothing else. -/
structure Exact {α : Type} (signs : List (Option Char)) (value : Option Char → Nat → α)
    (InRange : α → Prop) (read : Text → Except Error (Option α)) : Prop where
  long : ∀ {text sign digits}, Spelled signs text sign digits → digitLimit < digits.length →
    read text = .error (.longNumeral digits.length)
  inRange : ∀ {text sign digits}, Spelled signs text sign digits → digits.length ≤ digitLimit →
    InRange (value sign (positional digits)) → read text = .ok (some (value sign (positional digits)))
  outOfRange : ∀ {text sign digits}, Spelled signs text sign digits → digits.length ≤ digitLimit →
    ¬ InRange (value sign (positional digits)) → read text = .ok none
  other : ∀ {text}, (∀ sign digits, ¬ Spelled signs text sign digits) → read text = .ok none

/-- Adding a digit at the end moves the others by one place. -/
theorem positional_concat (digits : Text) (c : Char) :
    positional (digits ++ [c]) = 10 * positional digits + (c.toNat - '0'.toNat) := by
  simp only [positional, List.reverse_append, List.reverse_singleton, List.singleton_append,
    List.map_cons, Nat.ofDigits_cons]
  exact Nat.add_comm _ _

theorem value_eq_positional (digits : Text) : value digits = positional digits := by
  induction digits using List.reverseRecOn with
  | nil => rfl
  | append_singleton digits c ih =>
    rw [positional_concat, ← ih, value, List.foldl_append]
    rfl

theorem positional_toDigits (n : Nat) : positional (Nat.toDigits 10 n) = n := by
  rw [← value_eq_positional]
  exact Nat.ofDigitChars_toDigits (by decide) (by decide)

theorem positional_zeros_append (zeros : Nat) (digits : Text) :
    positional (List.replicate zeros '0' ++ digits) = positional digits := by
  induction zeros with
  | zero => rfl
  | succ zeros ih =>
    rw [← ih, ← value_eq_positional, ← value_eq_positional]
    rfl

/-! ### Signs -/

/-- What may stand as signs: none, and characters that are no digits. -/
structure Signs (signs : List (Option Char)) : Prop where
  bare : none ∈ signs
  unlike : ∀ c, some c ∈ signs → c.isDigit = false

theorem signs_cellSigns : Signs cellSigns := by
  refine ⟨List.mem_cons_self .., fun c known => ?_⟩
  simp only [cellSigns, List.mem_cons, reduceCtorEq, Option.some.injEq, List.not_mem_nil, or_false,
    false_or] at known
  rcases known with rfl | rfl <;> rfl

theorem signs_unsignedSigns : Signs unsignedSigns := by
  refine ⟨List.mem_cons_self .., fun c known => ?_⟩
  simp only [unsignedSigns, List.mem_cons, reduceCtorEq, Option.some.injEq, List.not_mem_nil,
    or_false, false_or] at known
  rw [known]
  rfl

/-- The sign of a text, if it is one that may stand there, and what is behind it. -/
def cutSign (signs : List (Option Char)) : Text → Option Char × Text
  | [] => (none, [])
  | c :: rest => if some c ∈ signs then (some c, rest) else (none, c :: rest)

section
variable {signs : List (Option Char)} {text digits text' digits' : Text} {sign sign' : Option Char}

theorem cutSign_append (signs : List (Option Char)) (text : Text) :
    text = (cutSign signs text).1.toList ++ (cutSign signs text).2 := by
  cases text with
  | nil => rfl
  | cons c rest =>
    by_cases known : some c ∈ signs
    · simp only [cutSign, if_pos known, Option.toList_some, List.singleton_append]
    · simp only [cutSign, if_neg known, Option.toList_none, List.nil_append]

theorem Signs.cutSign_mem (fit : Signs signs) (text : Text) : (cutSign signs text).1 ∈ signs := by
  cases text with
  | nil => exact fit.bare
  | cons c rest =>
    by_cases known : some c ∈ signs
    · simpa only [cutSign, if_pos known] using known
    · simpa only [cutSign, if_neg known] using fit.bare

theorem Spelled.cutSign_eq (spelled : Spelled signs text sign digits) (fit : Signs signs) :
    cutSign signs text = (sign, digits) := by
  obtain ⟨rfl, known, nonempty, only⟩ := spelled
  cases sign with
  | none =>
    cases digits with
    | nil => exact absurd rfl nonempty
    | cons c rest =>
      have digit := only c (List.mem_cons_self ..)
      have unsigned : some c ∉ signs := fun there => by
        rw [fit.unlike c there] at digit
        cases digit
      simp only [Option.toList_none, List.nil_append, cutSign, if_neg unsigned]
  | some c => simp only [Option.toList_some, List.singleton_append, cutSign, if_pos known]

/-- What stands first, if it is no digit, is the sign. -/
theorem Spelled.eq_of_head? {c : Char} (spelled : Spelled signs text sign digits)
    (first : text.head? = some c) (letter : c.isDigit = false) : sign = some c := by
  rw [spelled.whole] at first
  cases sign with
  | some d => exact first
  | none =>
    rw [spelled.digits c (List.mem_of_head? first)] at letter
    cases letter

/-- A numeral has one sign and one run of digits. -/
theorem Spelled.unique (spelled : Spelled signs text sign digits)
    (spelled' : Spelled signs text sign' digits') (fit : Signs signs) :
    sign = sign' ∧ digits = digits' := by
  have same := (spelled.cutSign_eq fit).symm.trans (spelled'.cutSign_eq fit)
  exact Prod.mk.inj same

theorem Spelled.mono {more : List (Option Char)} (spelled : Spelled signs text sign digits)
    (known : sign ∈ more) : Spelled more text sign digits :=
  ⟨spelled.whole, known, spelled.nonempty, spelled.digits⟩

/-! ### Exact readers -/

theorem magnitude_of_digits (nonempty : digits ≠ []) (only : ∀ c ∈ digits, c.isDigit = true) :
    magnitude digits = if digitLimit < digits.length then .error (.longNumeral digits.length)
      else .ok (some (positional digits)) := by
  have all : digits.any (!·.isDigit) = false := List.any_eq_false.2 fun c member => by
    simp [only c member]
  simp only [magnitude, nonempty, all, Bool.false_eq_true, or_self, if_false, value_eq_positional]

theorem magnitude_of_other (other : ¬ (digits ≠ [] ∧ ∀ c ∈ digits, c.isDigit = true)) :
    magnitude digits = .ok none := by
  have noNumeral : digits = [] ∨ digits.any (!·.isDigit) = true := by
    simpa [or_iff_not_imp_left] using other
  rw [magnitude, if_pos noNumeral]

section
variable {α : Type} {value : Option Char → Nat → α} {InRange : α → Prop}
  {read : Text → Except Error (Option α)}

/-- A reader that cuts off the sign, reads the digits and looks whether the value is in range is
exact. -/
theorem exact_of_cutSign [DecidablePred InRange] (fit : Signs signs)
    (cut : ∀ text, read text = (magnitude (cutSign signs text).2).map fun n? =>
      (n?.map (value (cutSign signs text).1)).filter (InRange ·)) :
    Exact signs value InRange read where
  long spelled tooLong := by
    rw [cut, spelled.cutSign_eq fit, magnitude_of_digits spelled.nonempty spelled.digits,
      if_pos tooLong]
    rfl
  inRange spelled short within := by
    rw [cut, spelled.cutSign_eq fit, magnitude_of_digits spelled.nonempty spelled.digits,
      if_neg (Nat.not_lt.2 short)]
    simp [Except.map, within]
  outOfRange spelled short beyond := by
    rw [cut, spelled.cutSign_eq fit, magnitude_of_digits spelled.nonempty spelled.digits,
      if_neg (Nat.not_lt.2 short)]
    simp [Except.map, beyond]
  other {text} unspelled := by
    have odd : ¬ ((cutSign signs text).2 ≠ [] ∧ ∀ c ∈ (cutSign signs text).2, c.isDigit = true) :=
      fun ⟨nonempty, only⟩ =>
        unspelled _ _ ⟨cutSign_append signs text, fit.cutSign_mem text, nonempty, only⟩
    rw [cut, magnitude_of_other odd]
    rfl

theorem splitSign_eq (text : Text) :
    splitSign text = (signed (cutSign cellSigns text).1 1, (cutSign cellSigns text).2) := by
  unfold splitSign
  split
  · rfl
  · rfl
  · rename_i minus plus
    cases text with
    | nil => rfl
    | cons c rest =>
      have bare : some c ∉ cellSigns := by
        simp only [cellSigns, List.mem_cons, reduceCtorEq, Option.some.injEq, List.not_mem_nil,
          or_false, false_or, not_or]
        exact ⟨fun same => plus rest (same ▸ rfl), fun same => minus rest (same ▸ rfl)⟩
      simp only [cutSign, if_neg bare]
      rfl

theorem dropPlus_eq (text : Text) : dropPlus text = (cutSign unsignedSigns text).2 := by
  unfold dropPlus
  split
  · rfl
  · rename_i plus
    cases text with
    | nil => rfl
    | cons c rest =>
      have bare : some c ∉ unsignedSigns := by
        simp only [unsignedSigns, List.mem_cons, reduceCtorEq, Option.some.injEq, List.not_mem_nil,
          or_false, false_or]
        exact fun same => plus rest (same ▸ rfl)
      simp only [cutSign, if_neg bare]

theorem signed_one_mul (sign : Option Char) (n : Nat) : signed sign 1 * n = signed sign n := by
  unfold signed
  split
  · simp
  · simp

theorem exact_readCell : Exact cellSigns signed Cell.IsCell readCell := by
  refine exact_of_cutSign signs_cellSigns fun text => ?_
  simp only [readCell, splitSign_eq]
  cases magnitude (cutSign cellSigns text).2 with
  | error e => rfl
  | ok n? =>
    cases n? with
    | none => rfl
    | some n => simp [Except.map, signed_one_mul]

theorem exact_readUnsigned :
    Exact unsignedSigns (fun _ n => n) (· ≤ unsignedGreatest) readUnsigned := by
  refine exact_of_cutSign signs_unsignedSigns fun text => ?_
  simp only [readUnsigned, dropPlus_eq, Option.map_id']

namespace Exact
variable (exact : Exact signs value InRange read)
include exact

/-- What is read is the value of a numeral. -/
theorem eq_some_iff {n : α} : read text = .ok (some n) ↔ ∃ sign digits,
    Spelled signs text sign digits ∧ digits.length ≤ digitLimit ∧
      InRange (value sign (positional digits)) ∧ value sign (positional digits) = n := by
  constructor
  · intro found
    by_cases unspelled : ∀ sign digits, ¬ Spelled signs text sign digits
    · rw [exact.other unspelled] at found
      cases found
    · simp only [not_forall, not_not] at unspelled
      obtain ⟨sign, digits, spelled⟩ := unspelled
      by_cases tooLong : digitLimit < digits.length
      · rw [exact.long spelled tooLong] at found
        cases found
      · by_cases within : InRange (value sign (positional digits))
        · rw [exact.inRange spelled (Nat.le_of_not_lt tooLong) within] at found
          cases found
          exact ⟨sign, digits, spelled, Nat.le_of_not_lt tooLong, within, rfl⟩
        · rw [exact.outOfRange spelled (Nat.le_of_not_lt tooLong) within] at found
          cases found
  · rintro ⟨sign, digits, spelled, short, within, rfl⟩
    exact exact.inRange spelled short within

/-- Numerals of one value are read alike, unless they are too long. -/
theorem congr (spelled : Spelled signs text sign digits)
    (spelled' : Spelled signs text' sign' digits') (short : digits.length ≤ digitLimit)
    (short' : digits'.length ≤ digitLimit)
    (same : value sign (positional digits) = value sign' (positional digits')) :
    read text = read text' := by
  by_cases within : InRange (value sign (positional digits))
  · rw [exact.inRange spelled short within, exact.inRange spelled' short' (same ▸ within), same]
  · rw [exact.outOfRange spelled short within, exact.outOfRange spelled' short' (same ▸ within)]

/-- Leading zeros do not matter. -/
theorem zeros_append (known : sign ∈ signs) (nonempty : digits ≠ [])
    (only : ∀ c ∈ digits, c.isDigit = true) {zeros : Nat}
    (short : zeros + digits.length ≤ digitLimit) :
    read (sign.toList ++ (List.replicate zeros '0' ++ digits)) = read (sign.toList ++ digits) := by
  have only' : ∀ c ∈ List.replicate zeros '0' ++ digits, c.isDigit = true := by
    refine List.forall_mem_append.2 ⟨fun c member => ?_, only⟩
    rw [List.eq_of_mem_replicate member]
    rfl
  have padded : Spelled signs _ sign (List.replicate zeros '0' ++ digits) :=
    ⟨rfl, known, List.append_ne_nil_of_right_ne_nil _ nonempty, only'⟩
  refine exact.congr padded ⟨rfl, known, nonempty, only⟩ ?_ (by omega) ?_
  · rwa [List.length_append, List.length_replicate]
  · rw [positional_zeros_append]

/-- Nor does a plus sign. -/
theorem plus_cons (bare : none ∈ signs) (plus : some '+' ∈ signs)
    (same : ∀ n, value (some '+') n = value none n) (nonempty : digits ≠ [])
    (only : ∀ c ∈ digits, c.isDigit = true) : read ('+' :: digits) = read digits := by
  have signed : Spelled signs ('+' :: digits) (some '+') digits := ⟨rfl, plus, nonempty, only⟩
  have unsigned : Spelled signs digits none digits := ⟨rfl, bare, nonempty, only⟩
  by_cases tooLong : digitLimit < digits.length
  · rw [exact.long signed tooLong, exact.long unsigned tooLong]
  · have short := Nat.le_of_not_lt tooLong
    exact exact.congr signed unsigned short short (same _)

end Exact
end
end

/-! ### Integers as they are written -/

theorem signed_of_not_negative {sign : Option Char} (known : sign ∈ unsignedSigns) (n : Nat) :
    signed sign n = n := by
  refine if_neg fun minus => ?_
  rw [minus] at known
  exact absurd known (by decide)

/-- An integer is written as a numeral of its value. -/
theorem spelled_literal (n : Int) : ∃ sign,
    Spelled cellSigns (Cell.literal n) sign (Nat.toDigits 10 n.natAbs) ∧
      signed sign (positional (Nat.toDigits 10 n.natAbs)) = n := by
  have digits : ∀ c ∈ Nat.toDigits 10 n.natAbs, c.isDigit = true := fun _ =>
    Nat.isDigit_of_mem_toDigits (by decide) (by decide)
  rw [Cell.literal_eq, positional_toDigits]
  by_cases natural : 0 ≤ n
  · have same : n.toNat = n.natAbs := by omega
    rw [if_pos natural, same]
    refine ⟨none, ⟨rfl, by decide, Nat.toDigits_ne_nil, digits⟩, ?_⟩
    rw [signed_of_not_negative (by decide)]
    omega
  · have same : (-n).toNat = n.natAbs := by omega
    rw [if_neg natural, same]
    refine ⟨some '-', ⟨rfl, by decide, Nat.toDigits_ne_nil, digits⟩, ?_⟩
    rw [signed, if_pos rfl]
    omega

theorem count_infix_message (count : Nat) :
    (toString count).toList <:+: (Error.longNumeral count).message.toList := by
  unfold Error.message
  rw [String.toList_append, String.toList_append]
  exact List.infix_append _ _ _

/-! ### Where the readers differ -/

section
variable {text : Text}

/-- A numeral without minus sign is one to both readers. -/
theorem Spelled.cell {sign : Option Char} {digits : Text}
    (spelled : Spelled unsignedSigns text sign digits) : Spelled cellSigns text sign digits := by
  refine spelled.mono ?_
  have known := spelled.sign
  simp only [unsignedSigns, cellSigns, List.mem_cons, List.not_mem_nil, or_false] at known ⊢
  exact known.imp_right .inl

theorem Spelled.minus_or_unsigned {sign : Option Char} {digits : Text}
    (spelled : Spelled cellSigns text sign digits) :
    sign = some '-' ∨ Spelled unsignedSigns text sign digits := by
  by_cases minus : sign = some '-'
  · exact .inl minus
  · refine .inr (spelled.mono ?_)
    have known := spelled.sign
    simp only [unsignedSigns, cellSigns, List.mem_cons, List.not_mem_nil, or_false, minus] at known ⊢
    exact known

/-- Only a minus sign stands before a numeral that is read as a cell and not without sign. -/
theorem cell_only_iff :
    ((∃ n, readCell text = .ok (some n)) ∧ ∀ m, readUnsigned text ≠ .ok (some m)) ↔
      ∃ n, readCell text = .ok (some n) ∧ text.head? = some '-' := by
  constructor
  · rintro ⟨⟨n, read⟩, refused⟩
    refine ⟨n, read, ?_⟩
    obtain ⟨sign, digits, spelled, short, range, -⟩ := exact_readCell.eq_some_iff.1 read
    rcases spelled.minus_or_unsigned with rfl | unsigned
    · rw [spelled.whole]
      rfl
    · rw [signed_of_not_negative unsigned.sign] at range
      have small : positional digits ≤ unsignedGreatest := by
        have above := range.2
        simp only [Cell.greatest] at above
        simp only [unsignedGreatest]
        omega
      exact absurd (exact_readUnsigned.inRange unsigned short small) (refused _)
  · rintro ⟨n, read, minus⟩
    refine ⟨⟨n, read⟩, fun m unsigned => ?_⟩
    obtain ⟨sign, digits, spelled, -⟩ := exact_readUnsigned.eq_some_iff.1 unsigned
    have known := spelled.sign
    rw [spelled.eq_of_head? minus rfl] at known
    exact absurd known (by decide)

/-- Just the numbers between the ranges are read without sign and not as a cell. -/
theorem unsigned_only_iff :
    ((∃ m, readUnsigned text = .ok (some m)) ∧ ∀ n, readCell text ≠ .ok (some n)) ↔
      ∃ sign digits, Spelled unsignedSigns text sign digits ∧ digits.length ≤ digitLimit ∧
        Cell.greatest < positional digits ∧ positional digits ≤ unsignedGreatest := by
  constructor
  · rintro ⟨⟨m, unsigned⟩, refused⟩
    obtain ⟨sign, digits, spelled, short, range, -⟩ := exact_readUnsigned.eq_some_iff.1 unsigned
    refine ⟨sign, digits, spelled, short, Int.not_le.1 fun small => ?_, range⟩
    have within : Cell.IsCell (signed sign (positional digits)) := by
      rw [signed_of_not_negative spelled.sign]
      refine ⟨?_, small⟩
      simp only [Cell.least]
      omega
    exact refused _ (exact_readCell.inRange spelled.cell short within)
  · rintro ⟨sign, digits, spelled, short, great, range⟩
    refine ⟨⟨_, exact_readUnsigned.inRange spelled short range⟩, fun n read => ?_⟩
    obtain ⟨sign', digits', spelled', -, within, -⟩ := exact_readCell.eq_some_iff.1 read
    obtain ⟨rfl, rfl⟩ := spelled.cell.unique spelled' signs_cellSigns
    rw [signed_of_not_negative spelled.sign] at within
    exact absurd within.2 (Int.not_le.2 great)

end

/-- **The readers are exact.** Of a numeral that is too long a reader says how many digits it has;
of any other it gives the value, if that is in its range; and of what is no numeral it gives
nothing. So every cell is read back as it is written, and no other integer of as many digits as are
read; neither leading zeros nor a plus sign matter; what only the reader of cells takes has a minus
sign, and what only the other one takes is between the ranges. -/
theorem readers_exact :
    (Exact cellSigns signed Cell.IsCell readCell ∧
      Exact unsignedSigns (fun _ n => n) (· ≤ unsignedGreatest) readUnsigned ∧
      ∀ count, (toString count).toList <:+: (Error.longNumeral count).message.toList) ∧
    (∀ n, Cell.IsCell n → readCell (Cell.literal n) = .ok (some n)) ∧
    (∀ n : Int, ¬ Cell.IsCell n → (Nat.toDigits 10 n.natAbs).length ≤ digitLimit →
      readCell (Cell.literal n) = .ok none) ∧
    (∀ digits, digits ≠ [] → (∀ c ∈ digits, c.isDigit = true) →
      (∀ zeros, zeros + digits.length ≤ digitLimit →
        (∀ sign ∈ cellSigns, readCell (sign.toList ++ (List.replicate zeros '0' ++ digits)) =
          readCell (sign.toList ++ digits)) ∧
        ∀ sign ∈ unsignedSigns,
          readUnsigned (sign.toList ++ (List.replicate zeros '0' ++ digits)) =
            readUnsigned (sign.toList ++ digits)) ∧
      readCell ('+' :: digits) = readCell digits ∧
      readUnsigned ('+' :: digits) = readUnsigned digits) ∧
    ∀ text,
      (((∃ n, readCell text = .ok (some n)) ∧ ∀ m, readUnsigned text ≠ .ok (some m)) ↔
        ∃ n, readCell text = .ok (some n) ∧ text.head? = some '-') ∧
      (((∃ m, readUnsigned text = .ok (some m)) ∧ ∀ n, readCell text ≠ .ok (some n)) ↔
        ∃ sign digits, Spelled unsignedSigns text sign digits ∧ digits.length ≤ digitLimit ∧
          Cell.greatest < positional digits ∧ positional digits ≤ unsignedGreatest) := by
  refine ⟨⟨exact_readCell, exact_readUnsigned, count_infix_message⟩, fun n => Cell.readCell_literal,
    fun n beyond short => ?_, fun digits nonempty only => ⟨fun zeros short => ⟨?_, ?_⟩, ?_, ?_⟩,
    fun text => ⟨cell_only_iff, unsigned_only_iff⟩⟩
  · obtain ⟨sign, spelled, same⟩ := spelled_literal n
    exact exact_readCell.outOfRange spelled short (same.symm ▸ beyond)
  · exact fun sign known => exact_readCell.zeros_append known nonempty only short
  · exact fun sign known => exact_readUnsigned.zeros_append known nonempty only short
  · exact exact_readCell.plus_cons (by decide) (by decide) (fun _ => rfl) nonempty only
  · exact exact_readUnsigned.plus_cons (by decide) (by decide) (fun _ => rfl) nonempty only

/-- Zeros behind a sign, the ends of the ranges and the last digits of another script. -/
theorem readers_exact_ends :
    readCell "+0042".toList = .ok (some 42) ∧ readUnsigned "+0042".toList = .ok (some 42) ∧
      readCell ('-' :: List.replicate 4301 '0') = .error (.longNumeral 4301) ∧
      readCell (Cell.literal (-2147483648)) = .ok (some (-2147483648)) ∧
      readCell (Cell.literal 2147483648) = .ok none ∧
      (∃ m, readUnsigned "2147483648".toList = .ok (some m)) ∧
      (∀ n, readCell "2147483648".toList ≠ .ok (some n)) ∧
      (∀ m, readUnsigned "-0".toList ≠ .ok (some m)) ∧ readCell "4٢".toList = .ok none := by
  obtain ⟨⟨cell, unsigned, -⟩, written, beyond, digits, differ⟩ := readers_exact
  have only : ∀ c ∈ "42".toList, c.isDigit = true := List.all_eq_true.1 (by decide)
  obtain ⟨zeros, plus, plus'⟩ := digits "42".toList (by decide) only
  obtain ⟨padded, padded'⟩ := zeros 2 (by decide)
  have long : Spelled cellSigns ('-' :: List.replicate 4301 '0') (some '-')
      (List.replicate 4301 '0') := by
    refine ⟨rfl, by decide, List.cons_ne_nil _ _, fun c member => ?_⟩
    rw [List.eq_of_mem_replicate member]
    rfl
  have refused := cell.long long (by rw [List.length_replicate]; decide)
  rw [List.length_replicate] at refused
  have great : Spelled unsignedSigns "2147483648".toList none "2147483648".toList :=
    ⟨rfl, by decide, by decide, List.all_eq_true.1 (by decide)⟩
  obtain ⟨unsigned, unread⟩ := (differ "2147483648".toList).2.2
    ⟨none, _, great, by decide, by decide, by decide⟩
  have minus := ((differ "-0".toList).1.2 ⟨0, by decide, by decide⟩).2
  have foreign : ∀ sign digits, ¬ Spelled cellSigns "4٢".toList sign digits := by
    intro sign digits spelled
    have member : '٢' ∈ sign.toList ++ digits := spelled.whole ▸ (by decide)
    rcases List.mem_append.1 member with there | there
    · have known := spelled.sign
      rw [Option.mem_toList.1 there] at known
      exact absurd known (by decide)
    · exact absurd (spelled.digits _ there) (by decide)
  exact ⟨(padded (some '+') (by decide)).trans (plus.trans (by decide)),
    (padded' (some '+') (by decide)).trans (plus'.trans (by decide)), refused,
    written _ (by decide), beyond _ (by decide) (by decide), unsigned, unread, minus,
    cell.other foreign⟩

end WordStack.Numeral
