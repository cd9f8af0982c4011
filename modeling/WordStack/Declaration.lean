import WordStack.Scan
import WordStack.Text.Decimal
import WordStack.Text.Lowercase

/-! Declarations: a colon, a name, a text and a semicolon.

Everything between the colon and the first semicolon is the declaration, so
neither a name nor a text holds one. The name is the first token and the text is
the rest, trimmed. A declaration that is not well formed is refused, and of two
faults the one named first below is told: no terminator, nothing declared, no
text, a name that starts with a decimal digit. -/
namespace WordStack

structure Declaration where
  /-- The declared name, in small letters. -/
  name : Text
  /-- What the word stands for, as it was spelled. -/
  text : Text
deriving DecidableEq, Repr

namespace Declaration

/-- Reads what stands between the colon and the semicolon, trimmed. -/
def read (body : Text) : Except Error Declaration :=
  let name := Text.token body
  let text := Text.trim (Text.afterToken body)
  if body = [] then .error .emptyDeclaration
  else if text = [] then .error (.noDefinition name)
  else if Text.isDigitLed name then .error (.digitLed name)
  else .ok ⟨Text.lower name, text⟩

/-- Recognises a declaration. What is left behind it is trimmed at both ends. -/
def scan : Text → Except Error (Scan Declaration)
  | ':' :: source => match source.dropWhile (· != ';') with
    | [] => .error .unterminated
    | _ :: after =>
      (read (Text.trim (source.takeWhile (· != ';')))).map (Scan.hit · (Text.trim after))
  | _ => .ok (.miss [])

theorem scan_consumes : Consumes scan := by
  intro source declaration rest found
  unfold scan at found
  split at found
  · rename_i source
    split at found
    · simp at found
    · rename_i after terminated
      have total := (List.dropWhile_sublist (· != ';') (l := source)).length_le
      have trimmed := Text.length_trim_le after
      rw [terminated] at total
      cases body : read (Text.trim (source.takeWhile (· != ';'))) with
      | error e =>
        rw [body] at found
        simp [Except.map] at found
      | ok d =>
        rw [body] at found
        obtain ⟨_, rfl⟩ : d = declaration ∧ _ = rest := by simpa [Except.map] using found
        simp only [List.length_cons] at total ⊢
        omega
  · simp at found

end Declaration
end WordStack
