import Mathlib.Data.List.Sort
import StudyDemo.Sql.Parser

/-! # The database library

What a program gets from the library: commands that change a connection, queries
that give rows, and values out of columns. An engine does what the grammar says of
the texts it covers; of other texts nothing is assumed. Any call may fail. -/

namespace StudyDemo.Sql

variable {T : Type} [DecidableEq T] {schema : Schema T}

structure Engine (schema : Schema T) where
  exec : Text → Connection T → Bool × Connection T
  prepare : Text → Connection T → Option (List Row)
  columnInt : Value → BitVec 32
  columnInt64 : Value → BitVec 64
  columnText : Value → Text
  exec_statement : ∀ text statement, readStatement schema text = some statement →
    ∀ connection, exec text connection =
      match statement.run schema connection with
      | some next => (true, next)
      | none => (false, connection)
  prepare_query : ∀ text query, readQuery schema text = some query →
    ∀ connection, ∃ rows, prepare text connection = some rows ∧ query.Answers connection rows
  columnInt_integer : ∀ value, columnInt (.integer value) = BitVec.ofInt 32 value
  columnInt64_integer : ∀ value, columnInt64 (.integer value) = BitVec.ofInt 64 value
  columnText_text : ∀ characters, columnText (.text characters) = characters

/-! ## An engine for the grammar -/

theorem Value.le_trans {left middle right : Value} (first : left.le middle)
    (second : middle.le right) : left.le right := by
  cases left <;> cases middle <;> cases right <;>
    simp_all [Value.le]
  all_goals first | omega | exact first.trans second

theorem Value.le_total (left right : Value) : left.le right || right.le left := by
  cases left <;> cases right <;> simp [Value.le]
  all_goals first | omega | exact LinearOrder.le_total _ _

def Row.le (position : Nat) (left right : Row) : Prop :=
  (left.column position).le (right.column position)

instance (position : Nat) : DecidableRel (Row.le position) := fun _ _ =>
  inferInstanceAs (Decidable (_ = true))

instance (position : Nat) : Std.Total (Row.le position) where
  total _ _ := Bool.or_eq_true_iff.mp (Value.le_total _ _)

instance (position : Nat) : IsTrans Row (Row.le position) where
  trans _ _ _ := Value.le_trans

def Query.rows (query : Query T) (connection : Connection T) : List Row :=
  let found := (connection.tables query.table).rows.filter (·.satisfies query.condition)
  match query.order with
  | none => found
  | some position => found.insertionSort (Row.le position)

omit [DecidableEq T] in
theorem Query.rows_answers (query : Query T) (connection : Connection T) :
    query.Answers connection (query.rows connection) := by
  cases isOrder : query.order with
  | none =>
      refine ⟨?_, ?_⟩
      · rw [Query.rows, isOrder]
      · intro position member
        rw [isOrder] at member
        cases member
  | some position =>
      refine ⟨?_, ?_⟩
      · rw [Query.rows, isOrder]
        exact List.perm_insertionSort _ _
      · intro other member
        obtain rfl := Option.some.inj (isOrder.symm.trans member)
        rw [Query.rows, isOrder]
        exact List.pairwise_insertionSort (Row.le position) _

/-- Other texts are errors, and values are not converted. -/
def Engine.plain (schema : Schema T) : Engine schema where
  exec text connection :=
    match (readStatement schema text).bind (Statement.run schema connection) with
    | some next => (true, next)
    | none => (false, connection)
  prepare text connection := (readQuery schema text).map (Query.rows · connection)
  columnInt
    | .integer value => BitVec.ofInt 32 value
    | _ => 0
  columnInt64
    | .integer value => BitVec.ofInt 64 value
    | _ => 0
  columnText
    | .text characters => characters
    | _ => []
  exec_statement text statement read connection := by rw [read, Option.bind_some]
  prepare_query text query read connection := by
    rw [read]
    exact ⟨_, rfl, query.rows_answers connection⟩
  columnInt_integer _ := rfl
  columnInt64_integer _ := rfl
  columnText_text _ := rfl

/-! ## Calls -/

/-- The connection, the calls made, and the prepared statements not yet finalized. -/
structure Session (T : Type) where
  connection : Connection T
  calls : Nat
  live : Nat

/-- The library, and which calls succeed, counted from the start of the program.
Allocations and rows of a query are counted too. A command that overruns the buffer
it is printed to is not defined: `overrun` may be anything. -/
structure Environment (schema : Schema T) where
  engine : Engine schema
  succeeds : Nat → Bool
  overrun : Text → Session T → Bool × Session T

def Session.empty : Session T := ⟨⟨fun _ => ⟨[], 0⟩, 0⟩, 0, 0⟩

def Session.called (session : Session T) : Session T :=
  { session with calls := session.calls + 1 }

/-- `sqlite3_finalize`. -/
def Session.finalize (session : Session T) : Session T :=
  { session with live := session.live - 1 }

namespace Environment

variable (environment : Environment schema)

/-- `sqlite3_exec`, with whether it returned `SQLITE_OK`. -/
def exec (sqlCommand : Text) (session : Session T) : Bool × Session T :=
  if environment.succeeds session.calls then
    let done := environment.engine.exec sqlCommand session.connection
    (done.1, { session.called with connection := done.2 })
  else (false, session.called)

/-- `sqlite3_prepare_v2`, with the rows that the statement will give. -/
def prepare (sqlCommand : Text) (session : Session T) : Option (List Row) × Session T :=
  if environment.succeeds session.calls then
    match environment.engine.prepare sqlCommand session.connection with
    | some rows => (some rows, { session.called with live := session.live + 1 })
    | none => (none, session.called)
  else (none, session.called)

def malloc (session : Session T) : Bool × Session T :=
  (environment.succeeds session.calls, session.called)

/-- The loop `while (sqlite3_step(stmt) == SQLITE_ROW)`. The body may return from
the function. -/
def forRows {State Returned : Type*}
    (body : Row → State → Session T → Except Returned State × Session T) :
    List Row → State → Session T → Except Returned State × Session T
  | [], state, session => (.ok state, session.called)
  | row :: rows, state, session =>
      if environment.succeeds session.calls then
        let done := body row state session.called
        match done.1 with
        | .error returned => (.error returned, done.2)
        | .ok state => forRows body rows state done.2
      else (.ok state, session.called)

def Faultless : Prop := ∀ call, environment.succeeds call = true

/-- The engine for the grammar, when no call fails. -/
def plain (schema : Schema T) : Environment schema :=
  ⟨Engine.plain schema, fun _ => true, fun _ session => (false, session)⟩

theorem plain_faultless : (plain schema).Faultless := fun _ => rfl

section Calls

variable {environment} {sqlCommand : Text}

theorem exec_cases {statement : Statement T}
    (read : readStatement schema sqlCommand = some statement) (session : Session T) :
    (environment.exec sqlCommand session).1 = true ∧
        statement.run schema session.connection =
          some (environment.exec sqlCommand session).2.connection ∨
      (environment.exec sqlCommand session).1 = false ∧
        (environment.exec sqlCommand session).2.connection = session.connection := by
  rw [exec, environment.engine.exec_statement _ _ read]
  split_ifs
  · cases ran : statement.run schema session.connection with
    | none => exact Or.inr ⟨rfl, rfl⟩
    | some next => exact Or.inl ⟨rfl, rfl⟩
  · exact Or.inr ⟨rfl, rfl⟩

/-- When no call fails, a command fails only for the sake of a unique column. -/
theorem exec_of_run (faultless : environment.Faultless) {statement : Statement T}
    (read : readStatement schema sqlCommand = some statement) {session : Session T}
    {next : Connection T} (ran : statement.run schema session.connection = some next) :
    (environment.exec sqlCommand session).1 = true ∧
      (environment.exec sqlCommand session).2.connection = next := by
  rw [exec, if_pos (faultless _), environment.engine.exec_statement _ _ read, ran]
  exact ⟨rfl, rfl⟩

variable (environment) in
theorem prepare_connection (sqlCommand : Text) (session : Session T) :
    (environment.prepare sqlCommand session).2.connection = session.connection := by
  rw [prepare]
  split_ifs
  · cases environment.engine.prepare sqlCommand session.connection with
    | none => rfl
    | some rows => rfl
  · rfl

theorem prepare_query (faultless : environment.Faultless) {query : Query T}
    (read : readQuery schema sqlCommand = some query) (session : Session T) :
    ∃ rows, (environment.prepare sqlCommand session).1 = some rows ∧
      query.Answers session.connection rows := by
  obtain ⟨rows, gives, answers⟩ :=
    environment.engine.prepare_query _ _ read session.connection
  refine ⟨rows, ?_, answers⟩
  rw [prepare, if_pos (faultless _), gives]

variable (environment) in
theorem forRows_connection {State Returned : Type*}
    {body : Row → State → Session T → Except Returned State × Session T}
    (kept : ∀ row state session, (body row state session).2.connection = session.connection)
    (rows : List Row) (state : State) (session : Session T) :
    (environment.forRows body rows state session).2.connection = session.connection := by
  induction rows generalizing state session with
  | nil => rfl
  | cons row rows induction =>
      have turn : (body row state session.called).2.connection = session.connection := kept _ _ _
      rw [forRows]
      split_ifs
      · dsimp only
        split
        · exact turn
        · exact (induction _ _).trans turn
      · rfl

theorem forRows_of_forall {State Returned : Type*}
    {body : Row → State → Session T → Except Returned State × Session T}
    {turn : Row → State → State} {connection : Connection T}
    (faultless : environment.Faultless) (rows : List Row)
    (turns : ∀ row ∈ rows, ∀ state session, session.connection = connection →
      (body row state session).1 = .ok (turn row state) ∧
        (body row state session).2.connection = connection)
    (state : State) {session : Session T} (unchanged : session.connection = connection) :
    (environment.forRows body rows state session).1 =
        .ok (rows.foldl (fun state row => turn row state) state) ∧
      (environment.forRows body rows state session).2.connection = connection := by
  induction rows generalizing state session with
  | nil => exact ⟨rfl, unchanged⟩
  | cons row rows induction =>
      obtain ⟨returned, after⟩ := turns row List.mem_cons_self state session.called unchanged
      have rest := induction
        (fun other member => turns other (List.mem_cons_of_mem _ member)) (turn row state) after
      rw [forRows, if_pos (faultless _)]
      dsimp only
      rw [returned]
      exact rest

end Calls

end Environment

end StudyDemo.Sql
