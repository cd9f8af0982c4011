import WordStack.Proofs.NumeralLed
import WordStack.Proofs.Trailing
import WordStack.Proofs.Watch

/-! One program after another.

A program that comes to its end can be followed by another one, in the same text,
if the other begins with a numeral: what runs is then the one and after it the
other. The first may come to its end in any stage of a pass. If that is the stage
of the numerals, the pass goes on with the second program; in every other stage
the numeral is not for it, nor for those after it, and the next pass begins with
the second program. -/
namespace WordStack

/-! ### What is left of the first program -/

namespace Text

/-- How the text of the two programs goes with the text of the first alone: something is left of
the first, with whitespace and the second behind it, or the second has been reached. It may have
lost whitespace at its end. -/
inductive Follows (next : Text) : Text → Text → Prop where
  | before {x gap rest} : x ≠ [] → gap ≠ [] → IsGap gap → Trails rest next →
      Follows next x (x ++ (gap ++ rest))
  | reached {rest} : Trails rest next → Follows next [] rest

variable {next gap rest : Text}

theorem NumeralLed.of_trails (led : NumeralLed next) (trails : Trails rest next) :
    NumeralLed rest :=
  ⟨trails.token ▸ led.digits, trails.token ▸ led.cell⟩

theorem Follows.ne_nil {x y : Text} (follows : Follows next x y) (left : x ≠ []) : y ≠ [] := by
  cases follows with
  | before => simp [left]
  | reached => exact absurd rfl left

section
variable (led : NumeralLed next) (nonempty : gap ≠ []) (blank : IsGap gap)
  (trails : Trails rest next)
include led nonempty blank trails

theorem follows_trimLeft (x : Text) :
    Follows next (trimLeft x) (trimLeft (x ++ (gap ++ rest))) := by
  by_cases xBlank : IsGap x
  · rw [trimLeft_eq_nil_iff.2 xBlank, ← List.append_assoc,
      trimLeft_gap_append (isGap_append.2 ⟨xBlank, blank⟩),
      trimLeft_eq_self (led.of_trails trails).unsigned.not_isSpaceLed]
    exact .reached trails
  · rw [trimLeft_append xBlank]
    exact .before (mt trimLeft_eq_nil_iff.1 xBlank) nonempty blank trails

theorem follows_trim (x : Text) : Follows next (trim x) (trim (x ++ (gap ++ rest))) := by
  have led' := (led.of_trails trails).unsigned
  have kept : Trails (trimRight rest) next := by
    obtain ⟨behind, blank', cut⟩ := exists_trimRight_append rest
    obtain ⟨further, blank'', rfl⟩ := trails.gap
    refine ⟨fun trimNil => absurd (trimRight_eq_nil_iff.1 trimNil) led'.not_isGap,
      behind ++ further,
      isGap_append.2 ⟨blank', blank''⟩, ?_⟩
    rw [← List.append_assoc, ← cut]
  by_cases xBlank : IsGap x
  · rw [trim_eq_nil_iff.2 xBlank, trim, ← List.append_assoc,
      trimLeft_gap_append (isGap_append.2 ⟨xBlank, blank⟩), trimLeft_eq_self led'.not_isSpaceLed]
    exact .reached kept
  · -- whitespace that is cut off the first program joins the gap before the second
    obtain ⟨behind, blank', cut⟩ := exists_trimRight_append (trimLeft x)
    have whole : trim (x ++ (gap ++ rest)) = trim x ++ ((behind ++ gap) ++ trimRight rest) := by
      calc trim (x ++ (gap ++ rest))
          = trimRight ((trimLeft x ++ gap) ++ rest) := by
            rw [trim, trimLeft_append xBlank, List.append_assoc]
        _ = (trimLeft x ++ gap) ++ trimRight rest := trimRight_append led'.not_isGap
        _ = trim x ++ ((behind ++ gap) ++ trimRight rest) := by
            rw [trim, ← List.append_assoc, ← List.append_assoc, ← cut]
    rw [whole]
    exact .before (mt trim_eq_nil_iff.1 xBlank) (by simp [nonempty])
      (isGap_append.2 ⟨blank', blank⟩) kept

end

end Text

/-! ### Recognisers before the second program -/

namespace Comparison
open Text (Follows NumeralLed)

/-- The first of the two runs is known not to fail. -/
def following : Comparison := unlogged fun _ => True

variable {next x y : Text} (led : NumeralLed next)
include led

theorem follows_numerals (follows : Follows next x y) (left : x ≠ []) :
    following.ScansMatch (Follows next) (Numeral.scan x) (Numeral.scan y) := by
  cases follows with
  | reached => exact absurd rfl left
  | @before x gap rest _ nonempty blank trails =>
    have behind : Text.isSpaceLed (gap ++ rest) = true := Text.isSpaceLed_gap_append nonempty blank
    unfold Numeral.scan
    rw [Text.token_append behind, Text.afterToken_append behind]
    cases Numeral.readCell (Text.token x) with
    | error e => exact .left trivial
    | ok n? =>
      cases n? with
      | none => exact .miss
      | some n => exact .hit (Text.follows_trimLeft led nonempty blank trails _)

theorem follows_operators (follows : Follows next x y) :
    following.ScansMatch (Follows next) (Operator.scan x) (Operator.scan y) := by
  cases follows with
  | reached trails =>
    rw [(led.of_trails trails).unsigned.operators]
    exact .miss
  | before left nonempty blank trails =>
    cases x with
    | nil => exact absurd rfl left
    | cons c x =>
      simp only [Operator.scan, List.cons_append]
      split
      · exact .hit (Text.follows_trimLeft led nonempty blank trails x)
      · exact .miss

theorem follows_declarations (follows : Follows next x y) :
    following.ScansMatch (Follows next) (Declaration.scan x) (Declaration.scan y) := by
  cases follows with
  | reached trails =>
    rw [(led.of_trails trails).unsigned.declarations]
    exact .miss
  | before left nonempty blank trails =>
    cases x with
    | nil => exact absurd rfl left
    | cons c x =>
      rw [List.cons_append]
      by_cases colon : c = ':'
      · subst colon
        by_cases closed : ';' ∈ x
        · obtain ⟨body, after, scan⟩ := Declaration.exists_scan_append closed
          have first := scan []
          rw [List.append_nil, List.append_nil] at first
          rw [first, scan]
          cases Declaration.read body with
          | error e => exact .left trivial
          | ok declaration => exact .hit (Text.follows_trim led nonempty blank trails after)
        · rw [Declaration.scan_unterminated closed]
          exact .left trivial
      · rw [Declaration.scan_of_ne colon, Declaration.scan_of_ne colon]
        exact .miss

theorem follows_commands (follows : Follows next x y) :
    following.ScansMatch (Follows next) (Command.scan x) (Command.scan y) := by
  cases follows with
  | reached trails =>
    rw [(led.of_trails trails).unsigned.commands]
    exact .miss
  | @before x gap rest left nonempty blank trails =>
    have behind : Text.isSpaceLed (gap ++ rest) = true := Text.isSpaceLed_gap_append nonempty blank
    unfold Command.scan
    rw [if_neg left, if_neg (by simp [left]), Text.token_append behind,
      Text.afterToken_append behind]
    cases Command.read (Text.lower (Text.token x)) with
    | error e => exact .left trivial
    | ok command? =>
      cases command? with
      | none => exact .miss
      | some command => exact .hit (Text.follows_trimLeft led nonempty blank trails _)

/-- Behind its numerals, a pass over the first program is not disturbed by the second. -/
theorem follows_likeness : following.Likeness (Follows next) where
  operators := follows_operators led
  declarations := follows_declarations led
  commands := follows_commands led
  stop {x y} _ := agree_stop (fun _ _ alike => alike) x y
  expand {x y} follows := by
    cases follows with
    | reached trails =>
      intro s t alike
      have checked' : t.words.Checked := alike.1 ▸ alike.2
      have unknown := (led.of_trails trails).unsigned.get?_token checked'
      rw [Action.expand_of_none alike.2.get?_nil, Action.expand_of_none unknown]
      exact .ok (.reached trails) alike
    | @before x gap rest left nonempty blank trails =>
      have behind : Text.isSpaceLed (gap ++ rest) = true :=
        Text.isSpaceLed_gap_append nonempty blank
      refine unlogged_fair.expand (.before left nonempty blank trails)
        (Text.token_append behind).symm fun {s t text} alike known => ?_
      rw [Text.afterToken_append behind, ← List.append_assoc]
      exact .before (alike.2.append_ne_nil known) nonempty blank trails

end Comparison

/-! ### From the one program to the other -/

namespace Pass
open Text (Follows NumeralLed Trails)
open Comparison (following)

variable {next x y z : Text} {s t s' : State}

/-- Where nothing is left behind the numerals, a pass has nothing more to do. -/
theorem beyond_nil (checked : s.words.Checked) : beyond [] s = .ok [] s := by
  have operators : Operator.scan [] = .ok (.miss []) := rfl
  have declarations : Declaration.scan [] = .ok (.miss []) := rfl
  rw [beyond, Action.bind_of_ok (Stage.run_eq_ok_of_miss operators rfl),
    Action.bind_of_ok (Stage.run_eq_ok_of_miss declarations rfl)]
  exact back_nil checked

section
variable (led : NumeralLed next)
include led

/-- The numerals of the first program are taken first. Numerals of the second may be taken in
the same pass, when none of the first program is left. -/
theorem numerals_follows {rest : Text} (follows : Follows next x y) (alike : following.Alike s t)
    (ran : Stage.numerals.run x s = .ok rest s') :
    ∃ rest' t', Follows next rest rest' ∧ following.Alike s' t' ∧
      Stage.numerals.run y t = Stage.numerals.run rest' t' := by
  induction x using Stage.run.induct Stage.numerals generalizing y s t with
  | case1 x e found =>
    rw [Stage.run_of_error found] at ran
    cases ran
  | case2 x left found =>
    rw [Stage.run_of_miss found] at ran
    cases ran
    exact ⟨y, t, follows, alike, rfl⟩
  | case3 x n left found ih =>
    have nonempty : x ≠ [] := by
      rintro rfl
      cases found
    have scans := Comparison.follows_numerals led follows nonempty
    rw [show Numeral.scan x = .ok (.hit n left) from found] at scans
    generalize found' : Numeral.scan y = scan at scans
    cases scans with
    | hit follows =>
      rw [Stage.run_of_hit found] at ran
      obtain ⟨_, u, pushed, ran⟩ := Action.exists_of_bind_eq_ok ran
      cases pushed
      have alike' : following.Alike { s with cells := n :: s.cells }
          { t with cells := n :: t.cells } := by
        refine ⟨?_, alike.2⟩
        rw [alike.1]
      obtain ⟨rest', t', follows', after, same⟩ := ih follows alike' ran
      refine ⟨rest', t', follows', after, ?_⟩
      rw [← same, Stage.run_of_hit found']
      rfl

/-- A pass over both programs leaves what the pass over the first leaves, or it is a pass over the
second, which the numerals have reached. -/
theorem plain_follows (follows : Follows next x y) (alike : following.Alike s t)
    (made : plain x s = .ok z s') :
    ∃ z' t', Follows next z z' ∧ following.Alike s' t' ∧
      (plain y t = .ok z' t' ∨ z = [] ∧ plain y t = plain z' t') := by
  rw [plain_eq] at made
  obtain ⟨rest, u, ran, made⟩ := Action.exists_of_bind_eq_ok made
  obtain ⟨rest', v, follows', alike', same⟩ := numerals_follows led follows alike ran
  have plain_same : plain y t = plain rest' v := by
    rw [plain_eq, plain_eq]
    simp only [bind, EStateM.bind, same]
  by_cases restNil : rest = []
  · subst restNil
    rw [beyond_nil alike'.2] at made
    cases made
    exact ⟨rest', v, follows', alike', .inr ⟨rfl, plain_same⟩⟩
  · -- the numeral scan missed here in the first run, so it misses in the second
    obtain ⟨missed, found⟩ := Stage.scan_of_run_eq_ok ran
    have scans := Comparison.follows_numerals led follows' restNil
    rw [show Numeral.scan rest = .ok (.miss missed) from found] at scans
    generalize found' : Numeral.scan rest' = scan at scans
    cases scans with
    | miss =>
      have ends := (Comparison.follows_likeness led).beyond Comparison.unlogged_fair follows' _ _ alike'
      rw [made] at ends
      have stopped : Stage.numerals.run rest' v = .ok rest' v := Stage.run_eq_ok_of_miss found' rfl
      rw [plain_same, plain_eq, Action.bind_of_ok stopped]
      generalize beyond rest' v = made' at ends
      cases ends with
      | ok follows after => exact ⟨_, _, follows, after, .inl rfl⟩
      | right excused => exact excused.elim

/-- Where the first program comes to its end, the two of them come to whatever the second comes
to from there. -/
theorem comesTo_follows {passes : Nat} (follows : Follows next x y) (alike : following.Alike s t)
    (ended : repeated plain passes x s = some (.ok () s')) :
    ∃ rest t', Trails rest next ∧ following.Alike s' t' ∧
      ∀ result, ComesTo plain y t result ↔ ComesTo plain rest t' result := by
  induction passes generalizing x y s t with
  | zero =>
    cases follows with
    | before left => cases x <;> simp [repeated] at left ended
    | reached trails =>
      cases ended
      exact ⟨y, t, trails, alike, fun _ => Iff.rfl⟩
  | succ passes ih =>
    by_cases finished : x = []
    · subst finished
      cases follows with
      | before left => exact absurd rfl left
      | reached trails =>
        cases ended
        exact ⟨y, t, trails, alike, fun _ => Iff.rfl⟩
    · rw [repeated_succ finished] at ended
      cases made : plain x s with
      | error e u => simp [made] at ended
      | ok z u =>
        rw [made] at ended
        have left := follows.ne_nil finished
        obtain ⟨z', t', follows', alike', same⟩ := plain_follows led follows alike made
        obtain ⟨rest, t'', trails, after, comes⟩ := ih follows' alike' ended
        refine ⟨rest, t'', trails, after, fun result => ?_⟩
        rw [← comes]
        rcases same with made' | ⟨rfl, same⟩
        · exact comesTo_of_ok left made'
        · cases follows' with
          | before left => exact absurd rfl left
          | reached trails' => exact comesTo_congr left (led.of_trails trails').unsigned.ne_nil same

end
end Pass

namespace Machine

/-- **Programs in sequence.** Where a program comes to its end, the text of it and of another one
that begins with a numeral comes to an end if and only if the other does from where the first
ended, and leaves the same machine. The two are parted by blanks. -/
theorem completes_append_iff {machine between : Machine} {first gap second : Text}
    (obtained : machine.words.Obtained) (nonempty : first ≠ [])
    (completes : machine.Completes first between) (parted : gap ≠ [])
    (blank : ∀ c ∈ gap, Text.isBlank c = true)
    (led : Text.NumeralLed second.withPlainSpaces) (after : Machine) :
    machine.Completes (first ++ gap ++ second) after ↔ between.Completes second after := by
  obtain ⟨s, rfl, passes, ended⟩ := completes_iff_comesTo.1 completes
  have follows : Text.Follows second.withPlainSpaces first.withPlainSpaces
      (first ++ gap ++ second).withPlainSpaces := by
    rw [Text.withPlainSpaces_append, Text.withPlainSpaces_append, List.append_assoc]
    exact .before (mt Text.withPlainSpaces_eq_nil_iff.1 nonempty)
      (mt Text.withPlainSpaces_eq_nil_iff.1 parted) (Text.isGap_withPlainSpaces blank) Text.trails_rfl
  have alike : Comparison.following.Alike { toMachine := machine } { toMachine := machine } :=
    ⟨rfl, obtained.checked⟩
  obtain ⟨rest, t, trails, alike', comes⟩ := Pass.comesTo_follows led follows alike ended
  have checked : t.words.Checked := alike'.1 ▸ alike'.2
  rw [completes_iff_comesTo, completes_iff_comesTo]
  simp only [comes]
  have same : t.toMachine = ({ toMachine := s.toMachine } : State).toMachine := alike'.1.symm
  exact Comparison.trails_comesTo trails same checked after

/-- A word that the first program declares is used by the second. -/
theorem completes_append_iff_thrice :
    let words : Dictionary := ⟨[⟨"inc".toList, "1 +".toList⟩]⟩
    let after : Dictionary := words.put "thrice".toList "3 *".toList
    Machine.Completes { cells := [2], words } ": thrice 3 * ; inc Thrice\t\n4 thrice +".toList
      { cells := [21], words := after } := by
  intro words after
  have obtained : words.Obtained :=
    ⟨[⟨"INC".toList, "1 +".toList⟩], words, _, by decide +kernel, .none, rfl⟩
  have first : Machine.Completes { cells := [2], words } ": thrice 3 * ; inc Thrice".toList
      { cells := [9], words := after } :=
    completes_of_eval? 4 (by decide +kernel)
  have second : Machine.Completes { cells := [9], words := after } "4 thrice +".toList
      { cells := [21], words := after } :=
    completes_of_eval? 4 (by decide +kernel)
  have parted : "\t\n".toList ≠ [] := by decide
  have led : Text.NumeralLed (Text.withPlainSpaces "4 thrice +".toList) :=
    ⟨List.all_eq_true.1 (by decide +kernel), 4, by decide +kernel⟩
  exact (completes_append_iff obtained (by decide) first parted
    (List.all_eq_true.1 (by decide)) led _).2 second

end Machine
end WordStack
