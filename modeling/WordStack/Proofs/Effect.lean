import WordStack.Machine.Basic

/-! What items do.

A numeral, an operator and a command touch nothing but the cells, so each of them
is an `Effect`: a function from the cells before it to the cells after it, which
also says what is left when it fails. A declaration and an expansion leave the
cells alone; what they do depends on the dictionary only. -/
namespace WordStack

/-- What an item makes of the cells, top cell first. With an error come the cells it leaves. -/
abbrev Effect := List Int → Except (Error × List Int) (List Int)

namespace Effect

def push (cell : Int) : Effect := fun cells => .ok (cell :: cells)

/-- A lack of cells goes before a zero divisor, and takes what cells there are. -/
def operate (op : Operator) : Effect
  | right :: left :: below =>
    if op = .divide ∧ right = 0 then .error (.divisionByZero, right :: left :: below)
    else .ok (op.apply left right :: below)
  | _ => .error (.stackUnderflow, [])

def obey : Command → Effect
  | .drop, _ :: below => .ok below
  | .dup, top :: below => .ok (top :: top :: below)
  | .swap, top :: next :: below => .ok (next :: top :: below)
  | .over, top :: next :: below => .ok (next :: top :: next :: below)
  | _, _ => .error (.stackUnderflow, [])

/-- The effect on the cells of a state, the rest of which stays. -/
def act (effect : Effect) : Action Unit := fun s =>
  match effect s.cells with
  | .ok cells => .ok () { s with cells }
  | .error (e, cells) => .error e { s with cells }

/-- The errors that come of the cells alone. -/
def IsStackError (e : Error) : Prop := e = .stackUnderflow ∨ e = .divisionByZero

/-- An effect fails for want of cells or for a zero divisor, if it fails. -/
def Sound (effect : Effect) : Prop :=
  ∀ cells e left, effect cells = .error (e, left) → IsStackError e

theorem push_sound (cell : Int) : Sound (push cell) := by
  intro cells e left failed
  simp [push] at failed

theorem operate_sound (op : Operator) : Sound (operate op) := by
  intro cells e left failed
  unfold operate at failed
  split at failed
  · split at failed
    · simp only [Except.error.injEq, Prod.mk.injEq] at failed
      exact .inr failed.1.symm
    · simp at failed
  · simp only [Except.error.injEq, Prod.mk.injEq] at failed
    exact .inl failed.1.symm

theorem obey_sound (command : Command) : Sound (obey command) := by
  intro cells e left failed
  unfold obey at failed
  split at failed <;> simp only [Except.error.injEq, Prod.mk.injEq, reduceCtorEq] at failed
  exact .inl failed.1.symm

end Effect

namespace Action
variable {α β : Type} {a : Action α} {f : α → Action β} {s t : State}

/-! ### One action after another -/

theorem bind_of_ok {x : α} (first : a s = .ok x t) : (a >>= f) s = f x t := by
  simp only [bind, EStateM.bind, first]

theorem bind_of_error {e : Error} (first : a s = .error e t) : (a >>= f) s = .error e t := by
  simp only [bind, EStateM.bind, first]

theorem get_bind (f : State → Action β) : ((get : Action State) >>= f) s = f s s := rfl

theorem exists_of_bind_eq_ok {y : β} {u : State} (ran : (a >>= f) s = .ok y u) :
    ∃ x t, a s = .ok x t ∧ f x t = .ok y u := by
  cases first : a s with
  | ok x t => exact ⟨x, t, rfl, by rwa [bind_of_ok first] at ran⟩
  | error e t => simp [bind_of_error first] at ran

/-! ### The actions that are effects -/

theorem push_eq (cell : Int) : push cell = (Effect.push cell).act := rfl

theorem zeroDivisor_cons (right left : Int) (below : List Int) :
    zeroDivisor (right :: left :: below) = decide (right = 0) := by
  by_cases zero : right = 0
  · subst zero
    rfl
  · simp [zeroDivisor, zero]

/-- Unless a zero divisor is found, an operator takes two cells off and puts one back. -/
theorem operate_of_not_zero {op : Operator} {s : State}
    (fine : (op = .divide && zeroDivisor s.cells) = false) :
    operate op s = (do
      let right ← pop
      let left ← pop
      push (op.apply left right) : Action Unit) s := by
  rw [operate, get_bind, fine]
  rfl

theorem operate_eq (op : Operator) : operate op = (Effect.operate op).act := by
  funext s
  obtain ⟨⟨cells, words⟩, log⟩ := s
  match cells with
  | [] => cases op <;> rfl
  | [top] =>
    rw [operate_of_not_zero (by simp [zeroDivisor])]
    rfl
  | right :: left :: below =>
    by_cases zero : op = .divide ∧ right = 0
    · obtain ⟨rfl, rfl⟩ := zero
      rfl
    · rw [operate_of_not_zero (by simpa [zeroDivisor_cons] using zero)]
      simp only [Effect.act, Effect.operate, if_neg zero]
      rfl

theorem obey_eq (command : Command) : obey command = (Effect.obey command).act := by
  funext s
  obtain ⟨⟨cells, words⟩, log⟩ := s
  match cells with
  | [] => cases command <;> rfl
  | [top] => cases command <;> rfl
  | top :: next :: below => cases command <;> rfl

/-! ### Words -/

/-- What is noted of a declaration where the dictionary is as given. -/
def definition (words : Dictionary) (declaration : Declaration) : Record :=
  if words.contains declaration.name then .redefined declaration.name declaration.text
  else .defined declaration.name declaration.text

theorem declare_eq (declaration : Declaration) (s : State) :
    declare declaration s =
      match s.words.set declaration.name declaration.text with
      | .ok words => .ok () { s with words, log := definition s.words declaration :: s.log }
      | .error e => .error e { s with log := definition s.words declaration :: s.log } := by
  rw [declare, get_bind, definition]
  cases entered : s.words.set declaration.name declaration.text with
  | ok words => split <;> rfl
  | error e => split <;> rfl

theorem expand_of_some {source text : Text} {s : State}
    (known : s.words.get? (Text.token source) = some text) :
    expand source s = .ok (text ++ Text.afterToken source) { s with log := .expanded text :: s.log } := by
  simp only [expand, Dictionary.expand, known]

theorem expand_of_none {source : Text} {s : State}
    (unknown : s.words.get? (Text.token source) = none) : expand source s = .ok source s := by
  simp only [expand, Dictionary.expand, unknown]

end Action
end WordStack
