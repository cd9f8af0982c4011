import WordStack.Text.Basic
import WordStack.Text.Printable

/-! Texts as messages show them.

A quoted text stands in single quotes, or in double quotes where it holds a
single quote and no double one. Inside, the backslash and the enclosing quote
follow a backslash, and a character that is not printable is shown by a letter
or by its code point in small hexadecimal digits, in the shortest form that
fits.

A quoted text can be read back: it tells by itself where it ends and which text it
shows, whatever follows it (`readQuote_quote_append`). So a message can be cut at the
text that it quotes (`cutQuote_quoting`). -/
namespace WordStack.Text

/-- The last `width` hexadecimal digits of a number, most significant first. -/
def hexDigits : Nat → Nat → Text
  | 0, _ => []
  | width + 1, n => hexDigits width (n / 16) ++ [Nat.digitChar (n % 16)]

/-- The mark that encloses a text: double only if that spares an escape. -/
def enclosing (text : Text) : Char :=
  if '\'' ∈ text ∧ '"' ∉ text then '"' else '\''

/-- A character shown by its code point. -/
def codePoint (c : Char) : Text :=
  if c.toNat ≤ 0xFF then '\\' :: 'x' :: hexDigits 2 c.toNat
  else if c.toNat ≤ 0xFFFF then '\\' :: 'u' :: hexDigits 4 c.toNat
  else '\\' :: 'U' :: hexDigits 8 c.toNat

/-- A character inside a quoted text. -/
def escape (mark : Char) (c : Char) : Text :=
  if c = mark ∨ c = '\\' then ['\\', c]
  else if c = '\t' then ['\\', 't']
  else if c = '\n' then ['\\', 'n']
  else if c = '\r' then ['\\', 'r']
  else if isPrintable c then [c]
  else codePoint c

def quote (text : Text) : Text :=
  let mark := enclosing text
  mark :: text.flatMap (escape mark) ++ [mark]

/-- A quoted text as part of a message. -/
def quoted (text : Text) : String := String.ofList (quote text)

/-! ### Reading a quoted text back -/

def ofHexDigit (c : Char) : Nat :=
  if c.isDigit then c.toNat - '0'.toNat else c.toNat - 'a'.toNat + 10

/-- The number that hexadecimal digits denote. -/
def ofHexDigits (digits : Text) : Nat := digits.foldl (fun n c => 16 * n + ofHexDigit c) 0

/-- The character whose code point has `width` digits at the front, and what follows these. -/
def readCodePoint (width : Nat) (shown : Text) : Char × Text :=
  (Char.ofNat (ofHexDigits (shown.take width)), shown.drop width)

/-- The first character that is shown, and what follows. -/
def unescape : Text → Option (Char × Text)
  | [] => none
  | '\\' :: 't' :: rest => some ('\t', rest)
  | '\\' :: 'n' :: rest => some ('\n', rest)
  | '\\' :: 'r' :: rest => some ('\r', rest)
  | '\\' :: 'x' :: rest => some (readCodePoint 2 rest)
  | '\\' :: 'u' :: rest => some (readCodePoint 4 rest)
  | '\\' :: 'U' :: rest => some (readCodePoint 8 rest)
  | '\\' :: c :: rest => some (c, rest)
  | c :: rest => some (c, rest)

theorem length_lt_of_unescape {shown rest : Text} {c : Char}
    (first : unescape shown = some (c, rest)) : rest.length < shown.length := by
  unfold unescape at first
  split at first <;> cases first <;> simp <;> omega

/-- The text that is shown in front of the next `mark`, and what follows that. -/
def readUntil (mark : Char) (shown : Text) : Option (Text × Text) :=
  if shown.head? = some mark then some ([], shown.tail)
  else match first : unescape shown with
    | none => none
    | some (c, rest) =>
      have := length_lt_of_unescape first
      (readUntil mark rest).map fun (text, after) => (c :: text, after)
termination_by shown.length

/-- The text that is quoted at the front, and what follows it. -/
def readQuote : Text → Option (Text × Text)
  | [] => none
  | mark :: shown => readUntil mark shown

/-- Whether a character can enclose a quoted text. -/
def isMark (c : Char) : Bool := c = '\'' || c = '"'

/-- What stands in front of the first quoted text; that text, and what follows it. -/
def cutQuote (message : Text) : Text × Option (Text × Text) :=
  (message.takeWhile (!isMark ·), readQuote (message.dropWhile (!isMark ·)))

section
variable {mark c : Char} {text lead rest : Text}

theorem ofHexDigit_digitChar : ∀ {n : Nat}, n < 16 → ofHexDigit (Nat.digitChar n) = n := by
  decide

theorem ofHexDigits_hexDigits (width n : Nat) :
    ofHexDigits (hexDigits width n) = n % Nat.pow 16 width := by
  induction width generalizing n with
  | zero => exact (Nat.mod_one n).symm
  | succ width ih =>
    have last := ofHexDigit_digitChar (Nat.mod_lt n (by decide : 0 < 16))
    unfold ofHexDigits at ih ⊢
    have pow : Nat.pow 16 (width + 1) = 16 * Nat.pow 16 width := Nat.mul_comm _ _
    rw [hexDigits, List.foldl_append, ih, List.foldl_cons, List.foldl_nil, last, pow, Nat.mod_mul,
      Nat.add_comm]

theorem length_hexDigits (width n : Nat) : (hexDigits width n).length = width := by
  induction width generalizing n with
  | zero => rfl
  | succ width ih => rw [hexDigits, List.length_append, ih, List.length_singleton]

theorem readCodePoint_hexDigits_append {width : Nat} (fits : c.toNat < Nat.pow 16 width) :
    readCodePoint width (hexDigits width c.toNat ++ rest) = (c, rest) := by
  have length := length_hexDigits width c.toNat
  rw [readCodePoint, List.take_left' length, List.drop_left' length, ofHexDigits_hexDigits,
    Nat.mod_eq_of_lt fits, Char.ofNat_toNat]

theorem unescape_codePoint_append (c : Char) (rest : Text) :
    unescape (codePoint c ++ rest) = some (c, rest) := by
  unfold codePoint
  split
  · rename_i small
    exact congrArg some (readCodePoint_hexDigits_append (Nat.lt_succ_of_le small))
  split
  · rename_i small
    exact congrArg some (readCodePoint_hexDigits_append (Nat.lt_succ_of_le small))
  · exact congrArg some (readCodePoint_hexDigits_append c.val.toNat_lt)

theorem unescape_cons (plain : c ≠ '\\') : unescape (c :: rest) = some (c, rest) := by
  unfold unescape
  split <;> simp_all

theorem unescape_escape_append (encloses : isMark mark = true) (c : Char) (rest : Text) :
    unescape (escape mark c ++ rest) = some (c, rest) := by
  unfold escape
  split
  · rename_i guarded
    simp only [isMark, Bool.or_eq_true, decide_eq_true_eq] at encloses
    rcases guarded with rfl | rfl
    · rcases encloses with rfl | rfl <;> rfl
    · rfl
  split
  · rename_i tab
    subst tab
    rfl
  split
  · rename_i newline
    subst newline
    rfl
  split
  · rename_i carriageReturn
    subst carriageReturn
    rfl
  split
  · rename_i plain _ _ _ _
    exact unescape_cons fun backslash => plain (.inr backslash)
  · exact unescape_codePoint_append c rest

/-- A character is shown as it is, or by something that begins with a backslash. -/
theorem escape_eq_or (mark c : Char) :
    (escape mark c = [c] ∧ c ≠ mark) ∨ ∃ shown, escape mark c = '\\' :: shown := by
  unfold escape codePoint
  grind

/-- Nothing that shows a character begins with the mark. -/
theorem head?_escape_append (encloses : isMark mark = true) (c : Char) (rest : Text) :
    (escape mark c ++ rest).head? ≠ some mark := by
  rcases escape_eq_or mark c with ⟨shown, other⟩ | ⟨shown, escaped⟩
  · rw [shown]
    exact fun same => other (Option.some.inj same)
  · rw [escaped]
    intro same
    obtain rfl := Option.some.inj same
    cases encloses

theorem readUntil_escapes (encloses : isMark mark = true) (text rest : Text) :
    readUntil mark (text.flatMap (escape mark) ++ mark :: rest) = some (text, rest) := by
  induction text with
  | nil =>
    show readUntil mark (mark :: rest) = _
    rw [readUntil, List.head?_cons, if_pos rfl, List.tail_cons]
  | cons c text ih =>
    rw [List.flatMap_cons, List.append_assoc, readUntil,
      if_neg (head?_escape_append encloses c _)]
    split
    · rename_i ended
      rw [unescape_escape_append encloses] at ended
      cases ended
    · rename_i first
      rw [unescape_escape_append encloses] at first
      cases first
      rw [ih]
      rfl

theorem isMark_enclosing (text : Text) : isMark (enclosing text) = true := by
  unfold enclosing
  split <;> rfl

/-- **A quoted text can be read back**, whatever follows it. -/
theorem readQuote_quote_append (text rest : Text) :
    readQuote (quote text ++ rest) = some (text, rest) := by
  have read := readUntil_escapes (isMark_enclosing text) text rest
  simpa [quote, readQuote] using read

theorem quoted_append_inj {text' : Text} {tail tail' : String}
    (same : quoted text ++ tail = quoted text' ++ tail') : text = text' ∧ tail = tail' := by
  have read := congrArg (readQuote ·.toList) same
  simp only [quoted, String.toList_append, String.toList_ofList, readQuote_quote_append,
    Option.some.injEq, Prod.mk.injEq, String.toList_inj] at read
  exact read

theorem quoted_injective : Function.Injective quoted := fun _ _ same =>
  (quoted_append_inj (congrArg (· ++ "") same)).1

/-- A message that quotes a text is cut there. -/
theorem cutQuote_quoting (plain : lead.any isMark = false) (text rest : Text) :
    cutQuote (lead ++ quote text ++ rest) = (lead, some (text, rest)) := by
  have front : ∀ c ∈ lead, (!isMark c) = true := by simpa using plain
  have stop : (!isMark (enclosing text)) = false := by rw [isMark_enclosing]; rfl
  have taken : (lead ++ quote text ++ rest).takeWhile (!isMark ·) = lead := by
    simp [quote, List.takeWhile_append_of_pos front, stop]
  have dropped : (lead ++ quote text ++ rest).dropWhile (!isMark ·) = quote text ++ rest := by
    simp [quote, List.dropWhile_append_of_pos front, stop]
  rw [cutQuote, taken, dropped, readQuote_quote_append]

/-- A message that quotes nothing stays whole. -/
theorem cutQuote_plain {message : Text} (plain : message.any isMark = false) :
    cutQuote message = (message, none) := by
  have front : ∀ c ∈ message, (!isMark c) = true := by simpa using plain
  have taken := @List.takeWhile_append_of_pos _ _ message [] front
  have dropped := @List.dropWhile_append_of_pos _ _ message [] front
  rw [List.append_nil] at taken dropped
  rw [cutQuote, taken, dropped, List.takeWhile_nil, List.append_nil, List.dropWhile_nil, readQuote]

end

end WordStack.Text
