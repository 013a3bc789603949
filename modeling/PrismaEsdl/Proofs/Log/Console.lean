import Mathlib.Data.List.Forall2
import PrismaEsdl.Log.Console

/-!
Sessions on a console.

A console that was set up has one target, whatever was done before (`performAll_fst`): only what it
was set up for last counts (`lastSetUp?`). So each record that is told is shown once if it has a
level at all and that level is high enough, and not at all otherwise (`Writes`). It is shown as its
plain line, or as that line between a colour and the end of the colour; the levels that call for
attention have a colour of their own, which no message changes (`Shows`).
`session_writes_records_once` states this of every session. A record at a level of zero or less is
never written, also by a console for that level (`not_every_record_is_written`).
-/

namespace PrismaEsdl.Log

/-! ### Lines -/

/-- The plain line of a record: its level and its message. -/
def Record.line (record : Record) : Text := record.level.name ++ ": " ++ record.message

/-- The colour of a level that calls for attention. -/
def Level.alarm? (level : Level) : Option Colour :=
  if level = warning then some .yellow
  else if level = error then some .red
  else if level = critical then some .magenta
  else none

namespace Style

/-- What sets a colour: its code alone, or with the code for bold before or after it. -/
inductive SetsColour : Text → Prop where
  | alone (c : Colour) : SetsColour (colour c)
  | afterBold (c : Colour) : SetsColour (bold ++ colour c)
  | beforeBold (c : Colour) : SetsColour (colour c ++ bold)

theorem SetsColour.ne_nil {opening : Text} (sets : SetsColour opening) : opening ≠ [] := by
  cases sets <;> exact List.cons_ne_nil _ _

/-- A level that calls for attention decides over the colour. -/
theorem opening_of_alarm {record : Record} {c : Colour} (alarm : record.level.alarm? = some c) :
    opening record = colour c := by
  unfold Level.alarm? at alarm
  unfold opening
  split at alarm
  · rename_i isWarning
    cases alarm
    rw [isWarning]
    rfl
  · rename_i noWarning
    split at alarm
    · rename_i isError
      cases alarm
      rw [if_pos isError]
    · rename_i noError
      split at alarm
      · rename_i isCritical
        cases alarm
        rw [if_neg noError, if_pos isCritical]
      · cases alarm

/-- Any other record stays plain or gets a colour. -/
theorem opening_eq_nil_or_setsColour (record : Record) :
    opening record = [] ∨ SetsColour (opening record) := by
  unfold opening
  split
  · exact Or.inr (.alone .red)
  split
  · exact Or.inr (.alone .magenta)
  split
  · exact Or.inr (.alone .yellow)
  split
  · exact Or.inr (.afterBold .brightCyan)
  split
  · exact Or.inr (.beforeBold .brightGreen)
  split
  · exact Or.inr (.alone .brightBlue)
  split
  · exact Or.inr (.alone .brightCyan)
  split
  · exact Or.inr (.alone .cyan)
  · exact Or.inl rfl

end Style

/-- What a terminal shows of a record. Without colours this is the plain line. With colours, a level
that calls for attention is shown in its colour, and any other record in some colour or as the plain
line. -/
def Record.Shows (coloured : Bool) (record : Record) (text : Text) : Prop :=
  match coloured, record.level.alarm? with
  | false, _ => text = record.line ++ "\n"
  | true, some c => text = Style.colour c ++ record.line ++ Style.reset ++ "\n"
  | true, none => text = record.line ++ "\n" ∨
      ∃ opening, Style.SetsColour opening ∧ text = opening ++ record.line ++ Style.reset ++ "\n"

theorem fill_plain (source : Text) (record : Record) :
    Layout.plain.fill source record = record.line := by
  have fits : ∀ t : Text, ({} : Layout.Fitting).fit t = t := fun t => by simp [Layout.Fitting.fit]
  simp only [Layout.plain, Layout.fill, List.flatMap_cons, List.flatMap_nil, Layout.Piece.fill,
    fits, Layout.Part.text, Record.line, List.append_nil, List.append_assoc]
  rfl

theorem shows_line (coloured : Bool) (source : Text) (record : Record) :
    record.Shows coloured (Style.line ⟨.plain, coloured⟩ source record ++ "\n") := by
  cases coloured with
  | false =>
      have plain : Style.line ⟨.plain, false⟩ source record = record.line := by
        simp [Style.line, Style.head, Style.before, Style.after, fill_plain]
      exact congrArg (· ++ Text.ofString "\n") plain
  | true =>
      have line_eq : Style.line ⟨.plain, true⟩ source record = Style.opening record ++ record.line
          ++ if (Style.opening record).isEmpty then [] else Style.reset := by
        simp [Style.line, Style.head, Style.before, Style.after, fill_plain]
      rw [line_eq]
      unfold Record.Shows
      cases alarm : record.level.alarm? with
      | some c =>
          dsimp only
          rw [Style.opening_of_alarm alarm]
          rfl
      | none =>
          rcases Style.opening_eq_nil_or_setsColour record with plain | sets
          · refine Or.inl ?_
            rw [plain]
            simp
          · refine Or.inr ⟨_, sets, ?_⟩
            rw [if_neg (by simpa using sets.ne_nil)]

namespace Console

/-! ### Sessions -/

namespace Action

/-- The level that an action sets a console up for, and whether colours are used. -/
def setUp? : Action → Option (Level × Bool)
  | setUp level useColours isTerminal => some (level, useColours && isTerminal)
  | tell _ => none

/-- The records that an action tells. -/
def records : Action → List Record
  | setUp .. => []
  | tell records => records

end Action

/-- What a console was set up for last. -/
def lastSetUp? (actions : List Action) : Option (Level × Bool) :=
  (actions.filterMap Action.setUp?).getLast?

/-- Whether a record has a level, and that level is high enough. -/
def Reaches (level : Level) (record : Record) : Prop :=
  0 < record.level.rank ∧ level.rank ≤ record.level.rank

instance (level : Level) (record : Record) : Decidable (Reaches level record) :=
  inferInstanceAs (Decidable (_ ∧ _))

/-- What is written for records: nothing by a console that was never set up, and otherwise one
piece of text for each record that reaches the level of the console. -/
def Writes (lastSetUp? : Option (Level × Bool)) (records : List Record) (text : Text) : Prop :=
  match lastSetUp? with
  | none => text = []
  | some (level, coloured) => ∃ pieces,
      List.Forall₂ (Record.Shows coloured) (records.filter (Reaches level)) pieces ∧
      text = pieces.flatten

/-- A console that is set up for a level. -/
def ready (level : Level) (coloured : Bool) : Console :=
  ⟨level, [.terminal level ⟨.plain, coloured⟩]⟩

theorem perform_fst (console : Console) (action : Action) :
    (console.perform action).1
      = (action.setUp?.map fun (level, coloured) => ready level coloured).getD console := by
  cases action <;> rfl

theorem performAll_cons (console : Console) (action : Action) (rest : List Action) :
    console.performAll (action :: rest) =
      (((console.perform action).1.performAll rest).1,
        (console.perform action).2 :: ((console.perform action).1.performAll rest).2) := rfl

/-- Only what a console was set up for last counts. -/
theorem performAll_fst (actions : List Action) : ∀ console : Console,
    (console.performAll actions).1
      = ((lastSetUp? actions).map fun (level, coloured) => ready level coloured).getD console := by
  induction actions with
  | nil => intro console; rfl
  | cons action rest ih =>
      intro console
      rw [performAll_cons, ih, perform_fst, lastSetUp?, lastSetUp?, List.filterMap_cons]
      cases action with
      | setUp level useColours isTerminal =>
          dsimp only [Action.setUp?]
          rw [List.getLast?_cons]
          cases (rest.filterMap Action.setUp?).getLast? <;> rfl
      | tell records => rfl

theorem performAll_append (before after : List Action) : ∀ console : Console,
    (console.performAll (before ++ after)).2 =
      (console.performAll before).2 ++ ((console.performAll before).1.performAll after).2 := by
  induction before with
  | nil => intro console; rfl
  | cons action rest ih =>
      intro console
      rw [List.cons_append, performAll_cons, performAll_cons, ih]
      rfl

theorem length_performAll (actions : List Action) : ∀ console : Console,
    (console.performAll actions).2.length = actions.length := by
  induction actions with
  | nil => intro console; rfl
  | cons action rest ih =>
      intro console
      rw [performAll_cons, List.length_cons, List.length_cons, ih]

/-! ### What is written -/

theorem write_initial (source : Text) (record : Record) : initial.write source record = [] := by
  unfold write display
  split <;> rfl

/-- A console that is set up shows the records that reach its level, and nothing of the others. -/
theorem write_ready (level : Level) (coloured : Bool) (source : Text) (record : Record) :
    (ready level coloured).write source record =
      if Reaches level record then Style.line ⟨.plain, coloured⟩ source record ++ "\n" else [] := by
  have takes_iff : (ready level coloured).takes record = true ↔ Reaches level record := by
    rw [takes, Bool.and_eq_true, decide_eq_true_iff, decide_eq_true_iff]
    exact Iff.rfl
  unfold write display
  by_cases reaches : Reaches level record
  · rw [if_pos (takes_iff.mpr reaches), if_pos reaches]
    simp [ready, Target.shown, reaches.2]
  · rw [if_neg (fun taken => reaches (takes_iff.mp taken)), if_neg reaches]

theorem writes_ready (level : Level) (coloured : Bool) (records : List Record) :
    Writes (some (level, coloured)) records
      (records.flatMap ((ready level coloured).write "")) := by
  induction records with
  | nil => exact ⟨[], .nil, rfl⟩
  | cons record rest ih =>
      obtain ⟨pieces, shown, written⟩ := ih
      rw [List.flatMap_cons, written, write_ready]
      by_cases reaches : Reaches level record
      · refine ⟨_ :: pieces, ?_, by rw [if_pos reaches, List.flatten_cons]⟩
        rw [List.filter_cons_of_pos (by simpa using reaches)]
        exact .cons (shows_line coloured "" record) shown
      · refine ⟨pieces, ?_, by rw [if_neg reaches, List.nil_append]⟩
        rw [List.filter_cons_of_neg (by simpa using reaches)]
        exact shown

/-- What an action writes after others. -/
theorem writes_perform (before : List Action) (action : Action) :
    Writes (lastSetUp? before) action.records
      ((initial.performAll before).1.perform action).2 := by
  rw [performAll_fst]
  cases lastSetUp? before with
  | none =>
      cases action with
      | setUp level useColours isTerminal => rfl
      | tell records =>
          have nothing : records.flatMap (initial.write "") = [] := by
            simp [List.flatMap_eq_nil_iff, write_initial]
          exact nothing
  | some last =>
      obtain ⟨level, coloured⟩ := last
      cases action with
      | setUp level' useColours isTerminal => exact ⟨[], .nil, rfl⟩
      | tell records => exact writes_ready level coloured records

/-- A session on a console writes each record once. It has one target at any time. What an action
writes depends on what the console was set up for last: nothing before that, and afterwards one
piece of text for each record that the action tells, if the record has a level that is high enough.
Of the actions that tell something of their own, the header of a section tells three records. -/
theorem session_writes_records_once (actions : List Action) :
    (initial.performAll actions).1.targets.length = 1 ∧
    (∀ before action after, actions = before ++ action :: after →
      ∃ earlier text later, (initial.performAll actions).2 = earlier ++ text :: later ∧
        earlier.length = before.length ∧ later.length = after.length ∧
        Writes (lastSetUp? before) action.records text) ∧
    (∀ t, (Action.progress t).records.length = 1 ∧ (Action.success t).records.length = 1 ∧
      (Action.header t).records.length = 3) := by
  refine ⟨?_, ?_, fun t => ⟨rfl, rfl, rfl⟩⟩
  · rw [performAll_fst]
    cases lastSetUp? actions <;> rfl
  · rintro before action after rfl
    have written : (initial.performAll (before ++ action :: after)).2
        = (initial.performAll before).2 ++ ((initial.performAll before).1.perform action).2 ::
          (((initial.performAll before).1.perform action).1.performAll after).2 := by
      rw [performAll_append, performAll_cons]
    exact ⟨_, _, _, written, length_performAll before _, length_performAll after _,
      writes_perform before action⟩

/-- A level that is not set is high enough for a console that is set up for it, but nothing is
written at it. -/
theorem not_every_record_is_written :
    ¬ ∀ (level : Level) (record : Record), level.rank ≤ record.level.rank →
      (initial.performAll [.setUp level false false, .tell [record]]).2
        = [[], record.line ++ Text.ofString "\n"] := by
  intro written
  have lost := written .notSet ⟨.notSet, "no level"⟩ (Int.le_refl 0)
  exact absurd lost (by decide)

end Console

end PrismaEsdl.Log
