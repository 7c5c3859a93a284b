import StudyDemo.Sqlite.MaskedUpdate

/-! # Updates that fail

An update of several columns executes one command for each of them, outside of a
transaction, and returns at the first that fails. What the earlier commands changed
stays changed. -/

namespace StudyDemo.Sqlite

open Sql

/-- The updates of several columns. -/
inductive ColumnUpdate
  | device (deviceData : DeviceTable) (maskcode : uint8)
  | scene (sceneData : SceneTable) (maskcode : uint8)
  | profile (profileData : ProfileTable) (maskcode : uint8)

namespace ColumnUpdate

def steps : ColumnUpdate → List UpdateStep
  | device deviceData maskcode => deviceTableUpdateSteps deviceData maskcode
  | scene sceneData maskcode => sceneTableUpdateSteps sceneData maskcode
  | profile profileData maskcode => profileTableUpdateSteps profileData maskcode

/-- The steps that the mask selects. -/
def selected (update : ColumnUpdate) : List UpdateStep :=
  update.steps.filter UpdateStep.selected

def operation : ColumnUpdate → Operation
  | device deviceData maskcode => .deviceTableUpdate deviceData maskcode
  | scene sceneData maskcode => .sceneTableUpdate sceneData maskcode
  | profile profileData maskcode => .profileTableUpdate profileData maskcode

def statements (update : ColumnUpdate) : List (Statement TableName) :=
  update.operation.statements 0

end ColumnUpdate

section Calls

variable {layout : Layout} (environment : Environment layout.schema)

def ColumnUpdate.run : ColumnUpdate → Session TableName → SqliteStatus × Session TableName
  | device deviceData maskcode => deviceTableUpdate environment deviceData maskcode
  | scene sceneData maskcode => sceneTableUpdate environment sceneData maskcode
  | profile profileData maskcode => profileTableUpdate environment profileData maskcode

/-- A command that fails changes nothing. -/
def FailuresChangeNothing : Prop :=
  ∀ command session, (runCommand environment command session).1 = false →
    (runCommand environment command session).2.connection = session.connection

/-- Each command succeeds, from the session that the one before left. -/
inductive Executed : List Command → Session TableName → Session TableName → Prop
  | nil (session : Session TableName) : Executed [] session session
  | cons {command : Command} {commands : List Command} {session after : Session TableName}
      (success : (runCommand environment command session).1 = true)
      (rest : Executed commands (runCommand environment command session).2 after) :
      Executed (command :: commands) session after

/-- The update stopped at the step: those before it were executed, and it failed. -/
structure StoppedAt (done : List UpdateStep) (failed : UpdateStep)
    (session middle : Session TableName) (returned : SqliteStatus × Session TableName) :
    Prop where
  executed : Executed environment (done.map UpdateStep.command) session middle
  failure : (runCommand environment failed.command middle).1 = false
  status : returned.1 = failed.failure
  session : returned.2 = (runCommand environment failed.command middle).2

end Calls

section Failures

variable {layout : Layout} {environment : Environment layout.schema}

theorem ColumnUpdate.run_eq (update : ColumnUpdate) (session : Session TableName) :
    update.run environment session = runUpdate environment update.steps session := by
  cases update with
  | device deviceData maskcode => rfl
  | scene sceneData maskcode => rfl
  | profile profileData maskcode => rfl

theorem runUpdate_stoppedAt {steps : List UpdateStep} {session : Session TableName}
    (notSuccess : (runUpdate environment steps session).1 ≠ .success) :
    ∃ done failed rest middle, steps.filter UpdateStep.selected = done ++ failed :: rest ∧
      StoppedAt environment done failed session middle (runUpdate environment steps session) := by
  induction steps generalizing session with
  | nil => exact absurd rfl notSuccess
  | cons step steps induction =>
      rw [runUpdate] at notSuccess ⊢
      by_cases selected : step.selected = true
      · rw [if_pos selected] at notSuccess ⊢
        rw [List.filter_cons_of_pos selected]
        dsimp only at notSuccess ⊢
        by_cases success : (runCommand environment step.command session).1 = true
        · rw [if_pos success] at notSuccess ⊢
          obtain ⟨done, failed, rest, middle, split, stopped⟩ := induction notSuccess
          refine ⟨step :: done, failed, rest, middle, by rw [split, List.cons_append], ?_⟩
          exact ⟨.cons success stopped.executed, stopped.failure, stopped.status,
            stopped.session⟩
        · rw [if_neg success]
          exact ⟨[], step, _, session, rfl, .nil session, Bool.eq_false_iff.mpr success, rfl, rfl⟩
      · rw [if_neg selected] at notSuccess ⊢
        rw [List.filter_cons_of_neg selected]
        exact induction notSuccess

theorem Executed.connection {commands : List Command} {statements : List (Statement TableName)}
    {session after : Session TableName} (executed : Executed environment commands session after)
    (say : List.Forall₂
      (fun command statement => command.statement layout.schema = some statement)
      commands statements)
    (safe : ∀ command ∈ commands, Safe command) :
    after.connection = statements.foldl (fun connection statement =>
      statement.apply layout.schema connection) session.connection := by
  induction executed generalizing statements with
  | nil session =>
      cases say
      rfl
  | @cons command commands session after success _ induction =>
      cases say with
      | cons first later =>
          rcases runCommand_cases (safe command List.mem_cons_self) first session with
            ⟨-, ran⟩ | ⟨failed, -⟩
          · rw [List.foldl_cons, (Statement.run_eq_some.mp ran).2]
            exact induction later fun other member => safe other (List.mem_cons_of_mem _ member)
          · rw [success] at failed
            cases failed

theorem ColumnUpdate.selected_statements (layout : Layout) (update : ColumnUpdate) :
    List.Forall₂ (fun command statement => command.statement layout.schema = some statement)
      (update.selected.map UpdateStep.command) update.statements := by
  cases update with
  | device deviceData maskcode =>
      exact selectedCommands_statements (deviceTableUpdateSteps_sets deviceData maskcode)
  | scene sceneData maskcode =>
      exact selectedCommands_statements (sceneTableUpdateSteps_sets sceneData maskcode)
  | profile profileData maskcode =>
      exact selectedCommands_statements (profileTableUpdateSteps_sets profileData maskcode)

/-- When an update fails, the tables are as the commands before the failed one left
them: the first selected columns are set, and the others are as before. -/
theorem columnUpdate_failure (failures : FailuresChangeNothing environment)
    (update : ColumnUpdate) {session : Session TableName}
    (notSuccess : (update.run environment session).1 ≠ .success) :
    let returned := update.run environment session
    ∃ done failed rest middle, update.selected = done ++ failed :: rest ∧
      StoppedAt environment done failed session middle returned ∧
      returned.2.connection = middle.connection ∧
      ((∀ step ∈ done, Safe step.command) →
        returned.2.connection = (update.statements.take done.length).foldl
          (fun connection statement => statement.apply layout.schema connection)
          session.connection) := by
  have same := @ColumnUpdate.run_eq _ environment update session
  rw [same] at notSuccess
  dsimp only
  rw [same]
  obtain ⟨done, failed, rest, middle, split, stopped⟩ := runUpdate_stoppedAt notSuccess
  have unchanged : (runUpdate environment update.steps session).2.connection =
      middle.connection := by
    rw [stopped.session]
    exact failures _ _ stopped.failure
  refine ⟨done, failed, rest, middle, split, stopped, unchanged, ?_⟩
  intro safe
  have say := List.forall₂_take done.length (update.selected_statements layout)
  rw [ColumnUpdate.selected, split, List.map_append,
    List.take_left' (List.length_map _)] at say
  rw [unchanged]
  refine stopped.executed.connection say ?_
  intro command member
  obtain ⟨step, inside, rfl⟩ := List.mem_map.mp member
  exact safe step inside

end Failures

/-! ## A half-applied update -/

/-- The third call of the program fails, and no other. -/
def thirdFails : Environment Layout.shipped.schema :=
  { Environment.plain Layout.shipped.schema with succeeds := fun call => call != 2 }

theorem thirdFails_changesNothing : FailuresChangeNothing thirdFails := by
  intro command session failed
  rw [runCommand] at failed ⊢
  split_ifs at failed ⊢
  · rw [Environment.exec] at failed ⊢
    split_ifs at failed ⊢
    · simp only [thirdFails, Environment.plain, Engine.plain] at failed ⊢
      split at failed
      · cases failed
      · rfl
    · rfl
  · rfl

/-- A new id and a new user name for the switch. -/
def renamed : ColumnUpdate :=
  .device { switch with deviceId := 7, userName := "hall".toList } 0x03

/-- The id is set although the update fails. -/
theorem columnUpdate_not_atomic :
    FailuresChangeNothing thirdFails ∧
      (renamed.run thirdFails withSwitch).1 = .deviceTableUserNameError ∧
      (withSwitch.connection.tables .deviceTable).rows.map (Row.column · 1) = [.integer 0] ∧
      ((renamed.run thirdFails withSwitch).2.connection.tables .deviceTable).rows.map
        (Row.column · 1) = [.integer 7] :=
  ⟨thirdFails_changesNothing, by decide +kernel⟩

theorem columnUpdate_failure_renamed :
    let returned := renamed.run thirdFails withSwitch
    ∃ done failed rest middle, renamed.selected = done ++ failed :: rest ∧
      StoppedAt thirdFails done failed withSwitch middle returned ∧
      returned.2.connection = middle.connection ∧
      ((∀ step ∈ done, Safe step.command) →
        returned.2.connection = (renamed.statements.take done.length).foldl
          (fun connection statement => statement.apply Layout.shipped.schema connection)
          withSwitch.connection) :=
  columnUpdate_failure thirdFails_changesNothing renamed (by decide +kernel)

end StudyDemo.Sqlite
