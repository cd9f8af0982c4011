import WordStack.Text.Space

/-! Texts, and how they are cut.

A text is a sequence of characters. It is cut at whitespace: the first token runs
up to the first whitespace character, and what follows the token keeps that
character. Nothing is lost by cutting (`token_append_afterToken`), and no token
holds whitespace. Trimming removes the whitespace at an end; neither cutting nor
trimming makes a text longer. -/
namespace WordStack

abbrev Text := List Char

namespace Text

/-- A text as a program is read: with a plain space for each blank character. -/
def withPlainSpaces (text : Text) : Text := text.map fun c => if isBlank c then ' ' else c

/-! ### Tokens -/

/-- What stands before the first whitespace character, or the whole text if it has none. -/
def token (text : Text) : Text := text.takeWhile (!isSpace ·)

/-- What follows the first token, beginning with the whitespace that ends it. -/
def afterToken (text : Text) : Text := text.dropWhile (!isSpace ·)

/-- The first token and what follows it, if there is any whitespace. -/
def split? (text : Text) : Option (Text × Text) :=
  if afterToken text = [] then none else some (token text, afterToken text)

@[simp] theorem token_nil : token [] = [] := rfl

@[simp] theorem afterToken_nil : afterToken [] = [] := rfl

theorem token_append_afterToken (text : Text) : token text ++ afterToken text = text :=
  List.takeWhile_append_dropWhile

theorem length_token_add_afterToken (text : Text) :
    (token text).length + (afterToken text).length = text.length := by
  rw [← List.length_append, token_append_afterToken]

theorem length_afterToken_lt {text : Text} (present : token text ≠ []) :
    (afterToken text).length < text.length := by
  have total := length_token_add_afterToken text
  have nonempty := List.length_pos_iff.2 present
  omega

theorem isSpace_of_mem_token {text : Text} {c : Char} (member : c ∈ token text) :
    isSpace c = false := by
  induction text with
  | nil => simp at member
  | cons d rest ih =>
    by_cases space : isSpace d = true
    · simp [token, space] at member
    · have same : token (d :: rest) = d :: token rest := by simp [token, space]
      rw [same] at member
      rcases List.mem_cons.1 member with rfl | later
      · simpa using space
      · exact ih later

/-! ### Trimming -/

def trimLeft (text : Text) : Text := text.dropWhile isSpace

def trimRight (text : Text) : Text := (text.reverse.dropWhile isSpace).reverse

def trim (text : Text) : Text := trimRight (trimLeft text)

@[simp] theorem trimLeft_nil : trimLeft [] = [] := rfl

theorem length_trimLeft_le (text : Text) : (trimLeft text).length ≤ text.length :=
  (List.dropWhile_sublist _).length_le

theorem length_trimRight_le (text : Text) : (trimRight text).length ≤ text.length := by
  have shorter := (List.dropWhile_sublist isSpace (l := text.reverse)).length_le
  simpa [trimRight] using shorter

theorem length_trim_le (text : Text) : (trim text).length ≤ text.length :=
  Nat.le_trans (length_trimRight_le _) (length_trimLeft_le _)

end Text
end WordStack
