import WordStack.Machine.Run
import WordStack.Proofs.Effect

/-! Two runs side by side.

Many laws compare two runs: of one text on two machines, or of two texts. A
`Comparison` says when two states are alike, and which errors end the comparison
because nothing is claimed once one of the runs has met them. Two actions `Agree`
if from alike states they come to matching ends. Agreement passes from actions to
sequences of actions, from the recognisers and items of a stage to the whole stage
(`agree_items`), and from passes to runs (`runsMatch`).

Laws about a single run come in the same way: a state that is alike to itself if
and only if it has a property keeps the property. -/
namespace WordStack

/-- How the states of two runs are compared. -/
structure Comparison where
  Alike : State → State → Prop
  /-- The errors of the first run after which nothing is claimed. -/
  Left : Error → Prop
  /-- The errors of the second run after which nothing is claimed. -/
  Right : Error → Prop

/-- What a pass does after its numerals. -/
def Pass.beyond (source : Text) : Action Text := do
  let source ← Stage.operators.run source
  let source ← Stage.declarations.run source
  back source

theorem Pass.plain_eq (source : Text) :
    plain source = Stage.numerals.run source >>= Pass.beyond := by
  simp only [plain, front, bind_assoc]
  rfl

namespace Comparison
variable {C : Comparison} {α β γ δ : Type}

/-- Two ends that match: both values or both the same error, in alike states, unless one of them
is an error after which nothing is claimed. -/
inductive Matches (C : Comparison) (V : α → β → Prop) :
    EStateM.Result Error State α → EStateM.Result Error State β → Prop where
  | ok {x y s t} : V x y → C.Alike s t → Matches C V (.ok x s) (.ok y t)
  | error {e s t} : C.Alike s t → Matches C V (.error e s) (.error e t)
  | left {e s result} : C.Left e → Matches C V (.error e s) result
  | right {e t result} : C.Right e → Matches C V result (.error e t)

/-- Two actions that come from alike states to matching ends. -/
def Agree (C : Comparison) (V : α → β → Prop) (a : Action α) (b : Action β) : Prop :=
  ∀ s t, C.Alike s t → C.Matches V (a s) (b t)

/-- Any two values. -/
def Any : α → β → Prop := fun _ _ => True

theorem Agree.pure {V : α → β → Prop} {x : α} {y : β} (related : V x y) :
    C.Agree V (pure x) (pure y) :=
  fun _ _ alike => .ok related alike

theorem Agree.throw {V : α → β → Prop} (e : Error) : C.Agree V (throw e) (throw e) :=
  fun _ _ alike => .error alike

theorem Agree.bind {V : α → β → Prop} {W : γ → δ → Prop} {a : Action α} {b : Action β}
    {f : α → Action γ} {g : β → Action δ} (first : C.Agree V a b)
    (next : ∀ {x y}, V x y → C.Agree W (f x) (g y)) : C.Agree W (a >>= f) (b >>= g) := by
  intro s t alike
  have ends := first s t alike
  simp only [Bind.bind, EStateM.bind]
  generalize a s = ended, b t = ended' at ends
  cases ends with
  | ok related after => exact next related _ _ after
  | error after => exact .error after
  | left excused => exact .left excused
  | right excused => exact .right excused

theorem Agree.of_ok {V : α → β → Prop} {a : Action α} {b : Action β} {x : α} {y : β}
    {s s' t t' : State} (agree : C.Agree V a b) (alike : C.Alike s t) (done : a s = .ok x s')
    (done' : b t = .ok y t') : V x y ∧ C.Alike s' t' := by
  have ends := agree s t alike
  rw [done, done'] at ends
  cases ends with
  | ok related after => exact ⟨related, after⟩

/-! ### Stages -/

/-- What two recognisers find: the same item, leaving related texts, or both none. -/
inductive ScansMatch (C : Comparison) (T : Text → Text → Prop) :
    Except Error (Scan α) → Except Error (Scan α) → Prop where
  | hit {value x y} : T x y → ScansMatch C T (.ok (.hit value x)) (.ok (.hit value y))
  | miss {x y} : ScansMatch C T (.ok (.miss x)) (.ok (.miss y))
  | error {e} : ScansMatch C T (.error e) (.error e)
  | left {e scan} : C.Left e → ScansMatch C T (.error e) scan

theorem ScansMatch.same (scan : Except Error (Scan α)) : C.ScansMatch Eq scan scan :=
  match scan with
  | .ok (.hit _ _) => .hit rfl
  | .ok (.miss _) => .miss
  | .error _ => .error

/-- What two recognisers find where the items may differ: items that agree in what they do, leaving
related texts, or both none. -/
inductive ItemsMatch (C : Comparison) (T : Text → Text → Prop) (act : α → Action Unit) :
    Except Error (Scan α) → Except Error (Scan α) → Prop where
  | hit {value value' x y} : C.Agree Eq (act value) (act value') → T x y →
      ItemsMatch C T act (.ok (.hit value x)) (.ok (.hit value' y))
  | miss {x y} : ItemsMatch C T act (.ok (.miss x)) (.ok (.miss y))
  | error {e} : ItemsMatch C T act (.error e) (.error e)
  | left {e scan} : C.Left e → ItemsMatch C T act (.error e) scan

theorem ScansMatch.items {T : Text → Text → Prop} {act : α → Action Unit}
    {scan scan' : Except Error (Scan α)} (scans : C.ScansMatch T scan scan')
    (acts : ∀ value, C.Agree Eq (act value) (act value)) : C.ItemsMatch T act scan scan' := by
  cases scans with
  | hit left => exact .hit (acts _) left
  | miss => exact .miss
  | error => exact .error
  | left excused => exact .left excused

/-- A stage keeps two runs together if the items found in related texts do. -/
theorem agree_items {stage : Stage α} {T : Text → Text → Prop}
    (items : ∀ {x y}, T x y → C.ItemsMatch T stage.act (stage.scan x) (stage.scan y))
    (stops : ∀ {x y}, T x y → C.Agree Any (stage.stop x) (stage.stop y)) {x y : Text}
    (related : T x y) : C.Agree T (stage.run x) (stage.run y) := by
  -- the recursion of the first run: where it goes on, so does the second
  induction x using Stage.run.induct stage generalizing y with
  | case1 x e found =>
    have scan := items related
    rw [found] at scan
    generalize other : stage.scan y = found' at scan
    rw [Stage.run_of_error found]
    cases scan with
    | error =>
      rw [Stage.run_of_error other]
      exact Agree.throw e
    | left excused => exact fun _ _ _ => .left excused
  | case2 x rest found =>
    have scan := items related
    rw [found] at scan
    generalize other : stage.scan y = found' at scan
    cases scan with
    | miss =>
      rw [Stage.run_of_miss found, Stage.run_of_miss other]
      exact (stops related).bind fun _ => Agree.pure related
  | case3 x value rest found ih =>
    have scan := items related
    rw [found] at scan
    generalize other : stage.scan y = found' at scan
    cases scan with
    | hit acts left =>
      rw [Stage.run_of_hit found, Stage.run_of_hit other]
      exact acts.bind fun _ => ih left

/-- A stage keeps two runs together if its recogniser and its items do. -/
theorem agree_run {stage : Stage α} {T : Text → Text → Prop}
    (scans : ∀ {x y}, T x y → C.ScansMatch T (stage.scan x) (stage.scan y))
    (acts : ∀ value, C.Agree Eq (stage.act value) (stage.act value))
    (stops : ∀ {x y}, T x y → C.Agree Any (stage.stop x) (stage.stop y)) {x y : Text}
    (related : T x y) : C.Agree T (stage.run x) (stage.run y) :=
  agree_items (fun related => (scans related).items acts) stops related

/-- On one text, the items alone have to keep two runs together. -/
theorem agree_same {stage : Stage α}
    (acts : ∀ value, C.Agree Eq (stage.act value) (stage.act value))
    (stops : ∀ source, C.Agree Any (stage.stop source) (stage.stop source)) (source : Text) :
    C.Agree Eq (stage.run source) (stage.run source) := by
  refine agree_run ?_ acts ?_ rfl
  · rintro x _ rfl
    exact ScansMatch.same _
  · rintro x _ rfl
    exact stops x

/-- What stops the commands is only noted, which is of no account where the records may be any. -/
theorem agree_stop (blind : ∀ {s t} log log', C.Alike s t →
    C.Alike { s with log } { t with log := log' }) (x y : Text) :
    C.Agree Any (Stage.commands.stop x) (Stage.commands.stop y) := by
  intro s t alike
  simp only [Stage.commands]
  split <;> split <;> exact .ok trivial (blind _ _ alike)

/-! ### Items -/

/-- What a comparison owes for what a pass does behind its declarations, where the dictionary
stays as it is. -/
structure Steady (C : Comparison) : Prop where
  obey : ∀ command, C.Agree Eq (Action.obey command) (Action.obey command)
  note : ∀ {s t} record, C.Alike s t →
    C.Alike { s with log := record :: s.log } { t with log := record :: t.log }
  words : ∀ {s t}, C.Alike s t → s.words = t.words

/-- What a comparison owes for whole runs to be compared by it. -/
structure Fair (C : Comparison) : Prop extends Steady C where
  push : ∀ cell, C.Agree Eq (Action.push cell) (Action.push cell)
  operate : ∀ op, C.Agree Eq (Action.operate op) (Action.operate op)
  enter : ∀ {s t name text words}, C.Alike s t → s.words.set name text = .ok words →
    C.Alike { s with words } { t with words }

theorem Fair.declare (fair : C.Fair) (declaration : Declaration) :
    C.Agree Eq (Action.declare declaration) (Action.declare declaration) := by
  intro s t alike
  have noted := fair.note (Action.definition s.words declaration) alike
  rw [Action.declare_eq, Action.declare_eq, ← fair.words alike]
  cases entered : s.words.set declaration.name declaration.text with
  | ok words => exact .ok rfl (fair.enter noted entered)
  | error e => exact .error noted

/-- Texts with the same first token are expanded alike. -/
theorem Steady.expand (steady : C.Steady) {T : Text → Text → Prop} {x y : Text} (related : T x y)
    (token : Text.token x = Text.token y)
    (expanded : ∀ {s t text}, C.Alike s t → s.words.get? (Text.token x) = some text →
      T (text ++ Text.afterToken x) (text ++ Text.afterToken y)) :
    C.Agree T (Action.expand x) (Action.expand y) := by
  intro s t alike
  cases known : s.words.get? (Text.token x) with
  | some text =>
    have known' : t.words.get? (Text.token y) = some text := by
      rw [← steady.words alike, ← token, known]
    rw [Action.expand_of_some known, Action.expand_of_some known']
    exact .ok (expanded alike known) (steady.note _ alike)
  | none =>
    have known' : t.words.get? (Text.token y) = none := by
      rw [← steady.words alike, ← token, known]
    rw [Action.expand_of_none known, Action.expand_of_none known']
    exact .ok related alike

/-! ### Passes -/

/-- What a relation of texts owes for passes to keep two texts related, numerals apart, where the
items that are found may differ. -/
structure Kinship (C : Comparison) (T : Text → Text → Prop) : Prop where
  operators : ∀ {x y}, T x y → C.ItemsMatch T Action.operate (Operator.scan x) (Operator.scan y)
  declarations : ∀ {x y}, T x y →
    C.ItemsMatch T Action.declare (Declaration.scan x) (Declaration.scan y)
  commands : ∀ {x y}, T x y → C.ItemsMatch T Action.obey (Command.scan x) (Command.scan y)
  stop : ∀ {x y}, T x y → C.Agree Any (Stage.commands.stop x) (Stage.commands.stop y)
  expand : ∀ {x y}, T x y → C.Agree T (Action.expand x) (Action.expand y)

namespace Kinship
variable {T : Text → Text → Prop} {x y : Text}

theorem back (kin : C.Kinship T) (related : T x y) : C.Agree T (Pass.back x) (Pass.back y) := by
  refine Agree.bind (kin.expand related) ?_
  intro x y related
  exact agree_items kin.commands kin.stop related

theorem beyond (kin : C.Kinship T) (related : T x y) :
    C.Agree T (Pass.beyond x) (Pass.beyond y) := by
  refine Agree.bind (agree_items kin.operators (fun _ => Agree.pure trivial) related) ?_
  intro x y related
  refine Agree.bind (agree_items kin.declarations (fun _ => Agree.pure trivial) related) ?_
  intro x y related
  exact kin.back related

section
variable (numerals : ∀ {x y}, T x y → C.ItemsMatch T Action.push (Numeral.scan x) (Numeral.scan y))
include numerals

theorem front (kin : C.Kinship T) (related : T x y) :
    C.Agree T (Pass.front x) (Pass.front y) := by
  refine Agree.bind (agree_items numerals (fun _ => Agree.pure trivial) related) ?_
  intro x y related
  refine Agree.bind (agree_items kin.operators (fun _ => Agree.pure trivial) related) ?_
  intro x y related
  exact agree_items kin.declarations (fun _ => Agree.pure trivial) related

theorem plain (kin : C.Kinship T) (related : T x y) :
    C.Agree T (Pass.plain x) (Pass.plain y) :=
  (kin.front numerals related).bind kin.back

/-- Watched passes agree where the texts are one and the same, and the dictionaries are. -/
theorem watched (kin : C.Kinship T) (same : ∀ {x y}, T x y → x = y)
    (words : ∀ {s t}, C.Alike s t → s.words = t.words) (related : T x y) :
    C.Agree T (Pass.watched x) (Pass.watched y) := by
  obtain rfl := same related
  refine (kin.front numerals related).bind ?_
  intro middle middle' related'
  obtain rfl := same related'
  refine (kin.back related').bind ?_
  intro rest rest' left
  obtain rfl := same left
  split
  · intro s t alike
    show C.Matches T (.error (Pass.blame s.words middle) s) (.error (Pass.blame t.words middle) t)
    rw [words alike]
    exact .error alike
  · exact Agree.pure left

end

end Kinship

/-- What a relation of texts owes for passes to keep two texts related, numerals apart, where the
same items are found. -/
structure Likeness (C : Comparison) (T : Text → Text → Prop) : Prop where
  operators : ∀ {x y}, T x y → C.ScansMatch T (Operator.scan x) (Operator.scan y)
  declarations : ∀ {x y}, T x y → C.ScansMatch T (Declaration.scan x) (Declaration.scan y)
  commands : ∀ {x y}, T x y → C.ScansMatch T (Command.scan x) (Command.scan y)
  stop : ∀ {x y}, T x y → C.Agree Any (Stage.commands.stop x) (Stage.commands.stop y)
  expand : ∀ {x y}, T x y → C.Agree T (Action.expand x) (Action.expand y)

variable {T : Text → Text → Prop}

theorem Likeness.kinship (like : C.Likeness T) (fair : C.Fair) : C.Kinship T where
  operators related := (like.operators related).items fair.operate
  declarations related := (like.declarations related).items fair.declare
  commands related := (like.commands related).items fair.obey
  stop := like.stop
  expand := like.expand

theorem Likeness.beyond (like : C.Likeness T) (fair : C.Fair) {x y : Text} (related : T x y) :
    C.Agree T (Pass.beyond x) (Pass.beyond y) :=
  (like.kinship fair).beyond related

theorem Likeness.plain (like : C.Likeness T) (fair : C.Fair)
    (numerals : ∀ {x y}, T x y → C.ScansMatch T (Numeral.scan x) (Numeral.scan y)) {x y : Text}
    (related : T x y) : C.Agree T (Pass.plain x) (Pass.plain y) :=
  (like.kinship fair).plain (fun related => (numerals related).items fair.push) related

/-! ### One text -/

section OneText
variable (source : Text)

theorem Steady.stop (steady : C.Steady) :
    C.Agree Any (Stage.commands.stop source) (Stage.commands.stop source) := by
  intro s t alike
  simp only [Stage.commands]
  split
  · exact .ok trivial alike
  · exact .ok trivial (steady.note _ alike)

theorem Steady.back (steady : C.Steady) : C.Agree Eq (Pass.back source) (Pass.back source) := by
  refine Agree.bind (steady.expand rfl rfl fun _ _ => rfl) ?_
  rintro source _ rfl
  exact agree_same steady.obey steady.stop source

theorem Fair.likeness (fair : C.Fair) : C.Likeness Eq where
  operators := by
    rintro x _ rfl
    exact ScansMatch.same _
  declarations := by
    rintro x _ rfl
    exact ScansMatch.same _
  commands := by
    rintro x _ rfl
    exact ScansMatch.same _
  stop := by
    rintro x _ rfl
    exact fair.stop x
  expand := by
    rintro x _ rfl
    exact fair.expand rfl rfl fun _ _ => rfl

theorem Fair.numerals (fair : C.Fair) {x y : Text} (same : x = y) :
    C.ItemsMatch Eq Action.push (Numeral.scan x) (Numeral.scan y) :=
  same ▸ (ScansMatch.same _).items fair.push

theorem Fair.front (fair : C.Fair) : C.Agree Eq (Pass.front source) (Pass.front source) :=
  (fair.likeness.kinship fair).front fair.numerals rfl

theorem Fair.watched (fair : C.Fair) : C.Agree Eq (Pass.watched source) (Pass.watched source) :=
  (fair.likeness.kinship fair).watched fair.numerals id fair.words rfl

end OneText

/-! ### Runs -/

/-- How two runs that are given the same number of passes compare: both have ended, and match, or
neither has. -/
inductive RunsMatch (C : Comparison) :
    Option (EStateM.Result Error State Unit) → Option (EStateM.Result Error State Unit) → Prop where
  | both {result result'} : C.Matches Any result result' → RunsMatch C (some result) (some result')
  | neither : RunsMatch C none none
  | left {e s run} : C.Left e → RunsMatch C (some (.error e s)) run
  | right {e t run} : C.Right e → RunsMatch C run (some (.error e t))

/-- Runs are kept together by passes that are. -/
theorem runsMatch {pass : Text → Action Text} (ended : ∀ {x y}, T x y → (x = [] ↔ y = []))
    (kept : ∀ {x y}, T x y → C.Agree T (pass x) (pass y)) (passes : Nat) {x y : Text} {s t : State}
    (related : T x y) (alike : C.Alike s t) :
    C.RunsMatch (Pass.repeated pass passes x s) (Pass.repeated pass passes y t) := by
  induction passes generalizing x y s t with
  | zero =>
    cases x with
    | nil =>
      obtain rfl := (ended related).1 rfl
      exact .both (.ok trivial alike)
    | cons c x =>
      cases y with
      | nil => exact absurd ((ended related).2 rfl) (List.cons_ne_nil c x)
      | cons d y => exact .neither
  | succ passes ih =>
    by_cases finished : x = []
    · obtain rfl := (ended related).1 finished
      subst finished
      exact .both (.ok trivial alike)
    · have ends := kept related s t alike
      rw [Pass.repeated_succ finished, Pass.repeated_succ (mt (ended related).2 finished)]
      generalize pass x s = made, pass y t = made' at ends
      cases ends with
      | ok related after => exact ih related after
      | error after => exact .both (.error after)
      | left excused => exact .left excused
      | right excused => exact .right excused

/-- Watched runs of one text are kept together by every fair comparison. -/
theorem Fair.runsMatch (fair : C.Fair) (passes : Nat) (source : Text) {s t : State}
    (alike : C.Alike s t) :
    C.RunsMatch (Pass.repeated Pass.watched passes source s)
      (Pass.repeated Pass.watched passes source t) :=
  Comparison.runsMatch (fun same => by rw [same]) (fun same => same ▸ fair.watched _) passes rfl alike

/-- What a run ends in is alike to itself, where something is claimed after every error. -/
theorem RunsMatch.alike_self {result : EStateM.Result Error State Unit}
    (runs : C.RunsMatch (some result) (some result)) (left : ∀ e, ¬ C.Left e)
    (right : ∀ e, ¬ C.Right e) :
    ∃ s, C.Alike s s ∧ (Report.ofResult result).machine = s.toMachine := by
  cases runs with
  | both ends =>
    cases ends with
    | ok _ after => exact ⟨_, after, rfl⟩
    | error after => exact ⟨_, after, rfl⟩
    | left excused => exact absurd excused (left _)
    | right excused => exact absurd excused (right _)
  | left excused => exact absurd excused (left _)
  | right excused => exact absurd excused (right _)

end Comparison
end WordStack
