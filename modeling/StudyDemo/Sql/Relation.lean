import Mathlib.Data.Char
import Mathlib.Data.List.Lex
import Mathlib.Logic.Function.Basic
import Mathlib.Tactic.Common
import StudyDemo.Sql.Lexer

/-! # Tables and statements

Tables whose first column is the integer primary key, and the statements on one of
them with at most one equality as their condition. What a table may hold besides
(which columns are unique, how a new key is chosen) is in the schema. -/

namespace StudyDemo.Sql

/-- A stored value. The floating values that arise come from literals outside the
range of integers, and are whole numbers. -/
inductive Value
  | null
  | integer (value : Int)
  | real (value : Int)
  | text (characters : Text)
  deriving DecidableEq

namespace Value

/-- The order of values: null, then numbers, then text. -/
def le : Value → Value → Bool
  | .null, _ => true
  | .integer _, .null => false
  | .integer left, .integer right => decide (left ≤ right)
  | .integer left, .real right => decide (left ≤ right)
  | .integer _, .text _ => true
  | .real _, .null => false
  | .real left, .integer right => decide (left ≤ right)
  | .real left, .real right => decide (left ≤ right)
  | .real _, .text _ => true
  | .text left, .text right => decide (left ≤ right)
  | .text _, _ => false

end Value

/-- A row: its key and the values of the other columns, by position. -/
structure Row where
  rowid : Int
  cells : Nat → Value

def Row.column (row : Row) (position : Nat) : Value :=
  if position = 0 then .integer row.rowid else row.cells position

/-- `sequence` is the largest key ever given to a row. -/
structure Table where
  rows : List Row
  sequence : Int

inductive Kind
  | integer
  | text
  deriving DecidableEq

/-- Names are in lower case. -/
structure Column where
  name : Text
  kind : Kind

structure Schema (T : Type) where
  tableNamed : Text → Option T
  columns : T → List Column
  autoincrement : T → Bool
  unique : T → List Nat

/-- The tables, and the key of the last row inserted. -/
structure Connection (T : Type) where
  tables : T → Table
  lastInsertRowid : Int

abbrev Field := Nat × Value

inductive Statement (T : Type)
  | insert (table : T) (fields : List Field)
  | delete (table : T) (condition : Option Field)
  | update (table : T) (field : Field) (condition : Option Field)

structure Query (T : Type) where
  table : T
  condition : Option Field
  order : Option Nat

/-! ## What statements do -/

def Row.satisfies (row : Row) : Option Field → Bool
  | none => true
  | some field => decide (row.column field.1 = field.2)

def Row.set (row : Row) (field : Field) : Row :=
  { row with cells := Function.update row.cells field.1 field.2 }

/-- The values of a new row. A column that is not named is null. -/
def cellsOf (fields : List Field) (position : Nat) : Value :=
  ((fields.find? fun field => decide (field.1 = position)).map Prod.snd).getD .null

namespace Table

def largestRowid (table : Table) : Int :=
  table.rows.foldl (fun largest row => max largest row.rowid) 0

/-- One more than the largest key of the table, or than the largest it ever had. -/
def nextRowid (autoincrement : Bool) (table : Table) : Int :=
  1 + if autoincrement then table.sequence else table.largestRowid

def insert (table : Table) (row : Row) : Table :=
  ⟨table.rows ++ [row], max table.sequence row.rowid⟩

def delete (table : Table) (condition : Option Field) : Table :=
  { table with rows := table.rows.filter fun row => !row.satisfies condition }

def update (table : Table) (field : Field) (condition : Option Field) : Table :=
  { table with
    rows := table.rows.map fun row => if row.satisfies condition then row.set field else row }

/-- Two rows may not share a value in this column. Nulls are all different. -/
def Unique (table : Table) (position : Nat) : Prop :=
  table.rows.Pairwise fun left right =>
    left.column position = right.column position → left.column position = .null

instance (table : Table) (position : Nat) : Decidable (table.Unique position) :=
  inferInstanceAs (Decidable (List.Pairwise _ _))

end Table

namespace Statement

variable {T : Type} [DecidableEq T]

/-- What the statement makes of its table, with the key of a row it inserts. -/
def apply (schema : Schema T) (connection : Connection T) : Statement T → Connection T
  | insert table fields =>
      let rowid := (connection.tables table).nextRowid (schema.autoincrement table)
      { tables := Function.update connection.tables table
          ((connection.tables table).insert ⟨rowid, cellsOf fields⟩)
        lastInsertRowid := rowid }
  | delete table condition =>
      { connection with
        tables := Function.update connection.tables table
          ((connection.tables table).delete condition) }
  | update table field condition =>
      { connection with
        tables := Function.update connection.tables table
          ((connection.tables table).update field condition) }

def table : Statement T → T
  | insert table _ => table
  | delete table _ => table
  | update table _ _ => table

/-- The columns whose values the statement may bring into conflict. -/
def touched (schema : Schema T) : Statement T → List Nat
  | insert table _ => schema.unique table
  | delete _ _ => []
  | update table field _ => (schema.unique table).filter fun position => position = field.1

/-- A statement fails when it would break a unique column, and changes nothing then. -/
def run (schema : Schema T) (connection : Connection T) (statement : Statement T) :
    Option (Connection T) :=
  if ∀ position ∈ statement.touched schema,
      ((statement.apply schema connection).tables statement.table).Unique position then
    some (statement.apply schema connection)
  else none

end Statement

/-- The rows a query may give: those that meet its condition, sorted if it says
so. -/
structure Query.Answers {T : Type} (query : Query T) (connection : Connection T)
    (rows : List Row) : Prop where
  perm : rows.Perm ((connection.tables query.table).rows.filter (·.satisfies query.condition))
  sorted : ∀ position ∈ query.order,
    rows.Pairwise fun left right => (left.column position).le (right.column position)

end StudyDemo.Sql
