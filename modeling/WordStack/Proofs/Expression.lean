import WordStack.Proofs.Dump
import WordStack.Proofs.Postfix

/-! Expressions and their postfix texts.

Written in postfix notation, an expression over cells is a program, and its run
leaves the value of the expression on the stack. The operators are those of
numbers of thirty-two bits. A zero divisor stops the run where it is met: what is
left are the two operands and, below them, the left operands of whatever was still
to be worked out.

No negative leaf may stand behind an operator, for there its sign would be taken
for one more operator. With that the text is reckoned token by token, and the rest
is an induction on the expression, for any cells below and any pieces behind.

Where nothing is divided, each operator commutes with the reduction modulo two to
the thirty-second, so the value is the exact integer, reduced once. -/
namespace WordStack

/-- An expression over numbers of thirty-two bits. -/
inductive Expression where
  | leaf (cell : Int32)
  | node (op : Operator) (left right : Expression)
deriving DecidableEq, Repr

namespace Operator

/-- The operator on numbers of thirty-two bits, which wrap around. -/
def on32 : Operator → Int32 → Int32 → Int32
  | add, left, right => left + right
  | subtract, left, right => left - right
  | multiply, left, right => left * right
  | divide, left, right => left / right

/-- The operator on integers, which have no bounds. -/
def onInt : Operator → Int → Int → Int
  | add, left, right => left + right
  | subtract, left, right => left - right
  | multiply, left, right => left * right
  | divide, left, right => left.tdiv right

theorem apply_toInt (op : Operator) (left right : Int32) :
    op.apply left.toInt right.toInt = (op.on32 left right).toInt := by
  cases op with
  | add => exact (Int32.toInt_add left right).symm
  | subtract => exact (Int32.toInt_sub left right).symm
  | multiply => exact (Int32.toInt_mul left right).symm
  | divide => exact (Int32.toInt_div left right).symm

/-- Short of division, it makes no difference whether the operands are reduced. -/
theorem on32_ofInt {op : Operator} (undivided : op ≠ .divide) (left right : Int) :
    op.on32 (Int32.ofInt left) (Int32.ofInt right) = Int32.ofInt (op.onInt left right) := by
  cases op with
  | add => exact (Int32.ofInt_add left right).symm
  | subtract => exact (Int32.ofInt_sub left right).symm
  | multiply => exact (Int32.ofInt_mul left right).symm
  | divide => exact absurd rfl undivided

end Operator

theorem Cell.isCell_toInt (cell : Int32) : IsCell cell.toInt := by
  have low := cell.le_toInt
  have high := cell.toInt_lt
  simp only [IsCell, least, greatest]
  omega

namespace Expression

/-! ### Values -/

/-- A division by zero: what was to be divided, and the values of the left operands that waited
for their right ones, the latest first. -/
structure Fault where
  dividend : Int32
  waiting : List Int32
deriving DecidableEq, Repr

/-- The value of an expression, or the first division by zero. Left operands come first. -/
def value : Expression → Except Fault Int32
  | leaf cell => .ok cell
  | node op left right =>
    match left.value with
    | .error fault => .error fault
    | .ok m => match right.value with
      | .error fault => .error { fault with waiting := fault.waiting ++ [m] }
      | .ok n => if op = .divide ∧ n = 0 then .error ⟨m, []⟩ else .ok (op.on32 m n)

/-- The value that an expression would have if numbers had no bounds. -/
def exact : Expression → Int
  | leaf cell => cell.toInt
  | node op left right => op.onInt left.exact right.exact

/-! ### Texts -/

/-- What the text of an expression is put together from. -/
inductive Piece where
  | literal (cell : Int32)
  | symbol (op : Operator)
deriving DecidableEq, Repr

namespace Piece

def text : Piece → Text
  | literal cell => Cell.literal cell.toInt
  | symbol op => [op.symbol]

def isSymbol : Piece → Bool
  | literal _ => false
  | symbol _ => true

def isNegative : Piece → Bool
  | literal cell => cell < 0
  | symbol _ => false

end Piece

/-- The leaves and operators, each operator behind its operands. -/
def postorder : Expression → List Piece
  | leaf cell => [.literal cell]
  | node op left right => left.postorder ++ right.postorder ++ [.symbol op]

/-- The program for an expression. -/
def text (e : Expression) : Text := Text.joined (e.postorder.map Piece.text)

/-- No negative leaf stands behind an operator, be it right behind or further on. -/
def SignsFirst (e : Expression) : Prop :=
  e.postorder.Pairwise fun before piece => before.isSymbol → ¬ piece.isNegative

instance (e : Expression) : Decidable e.SignsFirst :=
  inferInstanceAs (Decidable (List.Pairwise _ _))

end Expression

/-! ### Pieces as tokens -/

namespace Text

/-- Pieces without whitespace are the tokens of what is put together from them. -/
theorem tokens_joined {pieces : List Text} (nonempty : ∀ piece ∈ pieces, piece ≠ [])
    (solid : ∀ piece ∈ pieces, ∀ c ∈ piece, isSpace c = false) :
    (joined pieces).tokens = pieces := by
  induction pieces with
  | nil => rfl
  | cons piece pieces ih =>
    obtain ⟨first, nonempty⟩ := List.forall_mem_cons.1 nonempty
    obtain ⟨solid', solid⟩ := List.forall_mem_cons.1 solid
    have fit : Pieces pieces := fun other member =>
      ⟨nonempty other member, trimmed_of_solid (solid other member)⟩
    obtain ⟨behind, whole, parted, left, -⟩ := exists_joined_cons piece fit
    obtain ⟨token, after⟩ := cut_solid solid' parted
    rw [whole, tokens_eq_cons (token.symm ▸ first), token, after, left, ih nonempty solid]

end Text

namespace Postfix

theorem evaluate_append (tokens others : List Text) (cells : List Int) :
    evaluate (tokens ++ others) cells = evaluate tokens cells >>= evaluate others :=
  List.foldlM_append

theorem evaluate_singleton (token : Text) (cells : List Int) :
    evaluate [token] cells = effect token cells := by
  rw [evaluate_cons]
  exact bind_pure _

end Postfix

namespace Expression
namespace Piece

theorem readCell_literal (cell : Int32) :
    Numeral.readCell (Cell.literal cell.toInt) = .ok (some cell.toInt) :=
  Cell.readCell_literal (Cell.isCell_toInt cell)

theorem text_ne_nil (piece : Piece) : piece.text ≠ [] := by
  cases piece with
  | literal cell => exact Cell.literal_ne_nil _
  | symbol op => exact List.cons_ne_nil _ _

theorem isBlank_of_mem_text {piece : Piece} {c : Char} (member : c ∈ piece.text) :
    Text.isBlank c = false := by
  cases piece with
  | literal cell => exact Cell.isBlank_of_mem_literal member
  | symbol op =>
    rw [List.mem_singleton.1 member]
    cases op <;> decide

theorem isSpace_of_mem_text {piece : Piece} {c : Char} (member : c ∈ piece.text) :
    Text.isSpace c = false :=
  (Bool.or_eq_false_iff.1 (isBlank_of_mem_text member)).1

theorem isOperator_text (piece : Piece) : Postfix.isOperator piece.text = piece.isSymbol := by
  cases piece with
  | literal cell => exact Postfix.not_isOperator_of_literal (readCell_literal cell)
  | symbol op =>
    simp only [text, isSymbol, Postfix.isOperator, Operator.ofSymbol?_symbol, Option.isSome_some]

theorem fits (piece : Piece) :
    Postfix.isOperator piece.text = true ∨ Postfix.isLiteral piece.text = true := by
  cases piece with
  | literal cell => exact .inr (by simp only [text, Postfix.isLiteral, readCell_literal])
  | symbol op => exact .inl (isOperator_text _)

/-- Only a negative leaf has a sign. -/
theorem isNegative_of_isSigned {piece : Piece} (signed : Postfix.isSigned piece.text = true) :
    piece.isNegative = true := by
  cases piece with
  | symbol op => cases signed
  | literal cell =>
    apply decide_eq_true
    apply Int32.lt_iff_toInt_lt.2
    by_contra positive
    have nonneg : 0 ≤ cell.toInt := by simpa using positive
    have only : ∀ c ∈ text (literal cell), c.isDigit = true := by
      intro c member
      rw [text, Cell.literal_eq, if_pos nonneg] at member
      exact Nat.isDigit_of_mem_toDigits (by decide) (by decide) member
    rw [Postfix.isSigned_of_digits only] at signed
    cases signed

end Piece

theorem postorder_ne_nil (e : Expression) : e.postorder ≠ [] := by
  cases e with
  | leaf cell => exact List.cons_ne_nil _ _
  | node op left right => exact List.append_ne_nil_of_right_ne_nil _ (List.cons_ne_nil _ _)

theorem tokens_text (e : Expression) : e.text.tokens = e.postorder.map Piece.text := by
  apply Text.tokens_joined
  · exact List.forall_mem_map.2 fun piece _ => piece.text_ne_nil
  · exact List.forall_mem_map.2 fun piece _ c member => Piece.isSpace_of_mem_text member

theorem pieces_text (e : Expression) : Text.Pieces (e.postorder.map Piece.text) := by
  intro token member
  obtain ⟨piece, -, rfl⟩ := List.mem_map.1 member
  exact ⟨piece.text_ne_nil, Text.trimmed_of_solid fun _ => Piece.isSpace_of_mem_text⟩

theorem plain_text (e : Expression) : e.text.Plain := by
  apply Text.Plain.joined
  intro token there
  obtain ⟨piece, -, rfl⟩ := List.mem_map.1 there
  exact Text.plain_of_solid fun _ => Piece.isBlank_of_mem_text

theorem text_ne_nil (e : Expression) : e.text ≠ [] := by
  intro textNil
  rw [text, Text.joined_eq_nil_iff e.pieces_text, List.map_eq_nil_iff] at textNil
  exact e.postorder_ne_nil textNil

theorem SignsFirst.parted_text {e : Expression} (signs : e.SignsFirst) :
    Postfix.parted false e.text.tokens = e.text.tokens := by
  apply Postfix.parted_eq_self
  rw [tokens_text, List.isChain_map]
  -- a sign is cut off only right behind an operator, and none stands anywhere behind one
  apply signs.isChain.imp
  intro before piece apart ⟨operator, signed⟩
  rw [Piece.isOperator_text] at operator
  exact apart operator (Piece.isNegative_of_isSigned signed)

/-! ### The calculator on an expression -/

/-- What an expression does to the cells: its value is pushed, or a zero divisor and its dividend
are left on what has been worked out. -/
def effect (e : Expression) : Effect := fun cells =>
  match e.value with
  | .ok n => .ok (n.toInt :: cells)
  | .error fault =>
    .error (.divisionByZero, 0 :: fault.dividend.toInt :: (fault.waiting.map Int32.toInt ++ cells))

theorem operate_toInt (op : Operator) (left right : Int32) (cells : List Int) :
    Effect.operate op (right.toInt :: left.toInt :: cells) =
      if op = .divide ∧ right = 0 then .error (.divisionByZero, 0 :: left.toInt :: cells)
      else .ok ((op.on32 left right).toInt :: cells) := by
  by_cases divided : op = .divide ∧ right = 0
  · obtain ⟨same, zero⟩ := divided
    subst same zero
    rfl
  · have zero : right.toInt = 0 ↔ right = 0 := Int32.toInt_inj (y := 0)
    simp only [Effect.operate, Operator.apply_toInt, zero, if_neg divided]

/-- An expression does what its operands do, one after the other, and then its operator. -/
theorem effect_node (op : Operator) (left right : Expression) (cells : List Int) :
    (node op left right).effect cells =
      left.effect cells >>= right.effect >>= Effect.operate op := by
  unfold effect
  rw [value]
  cases left.value with
  | error fault => rfl
  | ok m =>
    cases right.value with
    | error fault => simp [bind, Except.bind]
    | ok n =>
      show _ = Effect.operate op (n.toInt :: m.toInt :: cells)
      rw [operate_toInt]
      by_cases divided : op = .divide ∧ n = 0
      · simp only [if_pos divided]
        rfl
      · simp only [if_neg divided]

/-- **The calculator works out an expression** from its pieces. -/
theorem evaluate_postorder (e : Expression) (cells : List Int) :
    Postfix.evaluate (e.postorder.map Piece.text) cells = e.effect cells := by
  induction e generalizing cells with
  | leaf cell =>
    show Postfix.evaluate [Cell.literal cell.toInt] cells = _
    rw [Postfix.evaluate_singleton, Postfix.effect_of_literal (Piece.readCell_literal cell)]
    rfl
  | node op left right ihLeft ihRight =>
    -- the right operand is worked out on what the left one leaves, so the cells differ
    have last (cells : List Int) :
        Postfix.evaluate [[op.symbol]] cells = Effect.operate op cells := by
      rw [Postfix.evaluate_singleton, Postfix.effect_of_operator (Operator.ofSymbol?_symbol op)]
    have right' := funext ihRight
    have last' := funext last
    rw [effect_node, postorder, List.map_append, List.map_append, Postfix.evaluate_append,
      Postfix.evaluate_append, ihLeft, right']
    show _ >>= Postfix.evaluate [[op.symbol]] = _
    rw [last']

/-- Where nothing is divided the value is the exact one, reduced. -/
theorem value_of_undivided {e : Expression} (undivided : .symbol .divide ∉ e.postorder) :
    e.value = .ok (Int32.ofInt e.exact) := by
  induction e with
  | leaf cell => rw [value, exact, Int32.ofInt_toInt]
  | node op left right ihLeft ihRight =>
    simp only [postorder, List.mem_append, List.mem_singleton, Piece.symbol.injEq,
      not_or] at undivided
    obtain ⟨⟨left', right'⟩, other⟩ := undivided
    have other := Ne.symm other
    rw [value, ihLeft left', ihRight right']
    simp only [other, false_and, if_false]
    rw [Operator.on32_ofInt other, exact]

end Expression

namespace Machine

theorem yields_text {machine : Machine} (obtained : machine.words.Obtained) {e : Expression}
    (signs : e.SignsFirst) : machine.Yields e.text (e.effect machine.cells) := by
  have fit : ∀ token ∈ e.text.tokens,
      Postfix.isOperator token = true ∨ Postfix.isLiteral token = true := by
    rw [Expression.tokens_text]
    exact List.forall_mem_map.2 fun piece _ => piece.fits
  have led : Text.isSpaceLed e.text = false := (Text.trimmed_joined e.pieces_text).led
  have reckons := Postfix.reckons obtained.checked rfl led fit
  have reckoned := reckons.numerals machine.cells e.text_ne_nil le_rfl
  rw [signs.parted_text, Expression.tokens_text, Expression.evaluate_postorder] at reckoned
  apply yields_of_yields e.text_ne_nil
  rwa [e.plain_text.withPlainSpaces]

/-- **The postfix text of an expression computes its value** on any stack, whatever the words, if
no negative leaf stands behind an operator. A division by zero leaves the zero and the dividend on
the cells that were there and the left operands that waited. Where nothing is divided the value is
the exact one, reduced once at the end. -/
theorem computes_expression {machine : Machine} (obtained : machine.words.Obtained) {e : Expression}
    (signs : e.SignsFirst) :
    (∀ n, e.value = .ok n →
      machine.Completes e.text { machine with cells := n.toInt :: machine.cells }) ∧
    (∀ fault, e.value = .error fault →
      machine.Fails e.text .divisionByZero { machine with
        cells := 0 :: fault.dividend.toInt :: (fault.waiting.map Int32.toInt ++ machine.cells) }) ∧
    (.symbol .divide ∉ e.postorder →
      machine.Completes e.text { machine with cells := Cell.wrap e.exact :: machine.cells }) := by
  have yields := yields_text obtained signs
  have completes (n : Int32) (value : e.value = .ok n) :
      machine.Completes e.text { machine with cells := n.toInt :: machine.cells } := by
    rwa [Expression.effect, value] at yields
  refine ⟨completes, fun fault value => ?_, fun undivided => ?_⟩
  · rwa [Expression.effect, value] at yields
  · have exact := completes _ (Expression.value_of_undivided undivided)
    rwa [Int32.toInt_ofInt] at exact

/-- A quotient that is not a cell, a division by zero while a left operand waits, and a product that
is far out of range. -/
theorem computes_expression_out_of_range :
    let words : Dictionary := ⟨[⟨"-1".toList, "drop".toList⟩]⟩
    let machine : Machine := { cells := [9], words }
    machine.Completes "-2147483648 -1 /".toList { cells := [-2147483648, 9], words } ∧
      machine.Fails "5 7 3 3 - / -".toList .divisionByZero { cells := [0, 7, 5, 9], words } ∧
      machine.Completes "2147483647 3 + 2147483647 *".toList
        { cells := [2147483646, 9], words } := by
  intro words machine
  have obtained : words.Obtained := ⟨words.entries, words, _, by decide +kernel, .none, rfl⟩
  have least := @computes_expression machine obtained
    (.node .divide (.leaf (-2147483648)) (.leaf (-1))) (by decide +kernel)
  have waiting := @computes_expression machine obtained
    (.node .subtract (.leaf 5) (.node .divide (.leaf 7) (.node .subtract (.leaf 3) (.leaf 3))))
    (by decide +kernel)
  have product := @computes_expression machine obtained
    (.node .multiply (.node .add (.leaf 2147483647) (.leaf 3)) (.leaf 2147483647))
    (by decide +kernel)
  exact ⟨least.1 (-2147483648) (by decide +kernel), waiting.2.1 ⟨7, [5]⟩ (by decide +kernel),
    product.2.2 (by decide +kernel)⟩

end Machine
end WordStack
