import StudyDemo.Sql.Format
import StudyDemo.Sql.Relation

/-! # Statements from tokens

The grammar of the statements and queries on one table. A literal is of the kind of
its column, and the key is never assigned. -/

namespace StudyDemo.Sql

/-- A whole number as a 64-bit floating value: 53 significant bits, ties to even. -/
def roundToDouble (value : Int) : Int :=
  let magnitude := value.natAbs
  let unit := 2 ^ (magnitude.log2 - 52)
  let quotient := magnitude / unit
  let rest := magnitude % unit
  let rounded :=
    if unit < 2 * rest || (unit = 2 * rest && quotient % 2 = 1) then quotient + 1 else quotient
  if value < 0 then -(rounded * unit : Int) else rounded * unit

/-- Literals outside the range of 64-bit integers become floating values. -/
def numberLiteral (value : Int) : Value :=
  if -2 ^ 63 ≤ value ∧ value < 2 ^ 63 then .integer value else .real (roundToDouble value)

theorem numberLiteral_of_fits {value : Int} (low : -2 ^ 63 ≤ value) (high : value < 2 ^ 63) :
    numberLiteral value = .integer value := if_pos ⟨low, high⟩

section Grammar

variable {T : Type} (schema : Schema T)

def columnNamed (table : T) (name : Text) : Option Nat :=
  (schema.columns table).findIdx? fun column => decide (column.name = name)

/-- A token as a literal of a column. -/
def literal (table : T) (position : Nat) (token : Token) : Option Value :=
  match (schema.columns table)[position]?, token with
  | some ⟨_, .integer⟩, .number value => some (numberLiteral value)
  | some ⟨_, .text⟩, .string content => some (.text content)
  | _, _ => none

def parseField (table : T) : List Token → Option (Field × List Token)
  | .word name :: .symbol '=' :: token :: tokens =>
      (columnNamed schema table name).bind fun position =>
        (literal schema table position token).map fun value => ((position, value), tokens)
  | _ => none

def parseCondition (table : T) : List Token → Option (Option Field × List Token)
  | .word letters :: tokens =>
      if letters = "where".toList then
        (parseField schema table tokens).map fun parsed => (some parsed.1, parsed.2)
      else some (none, .word letters :: tokens)
  | tokens => some (none, tokens)

/-- One statement, with at most a semicolon after it. -/
def parseEnd : List Token → Bool
  | [] => true
  | [.symbol ';'] => true
  | _ => false

/-- Columns up to the closing parenthesis. -/
def parseColumns (table : T) : List Token → Option (List Nat × List Token)
  | .word name :: .symbol character :: tokens =>
      (columnNamed schema table name).bind fun position =>
        if position = 0 then none
        else if character = ')' then some ([position], tokens)
        else if character = ',' then
          (parseColumns table tokens).map fun parsed => (position :: parsed.1, parsed.2)
        else none
  | _ => none

/-- As many literals as there are columns, up to the closing parenthesis. -/
def parseValues (table : T) : List Nat → List Token → Option (List Field × List Token)
  | [position], token :: .symbol ')' :: tokens =>
      (literal schema table position token).map fun value => ([(position, value)], tokens)
  | position :: positions, token :: .symbol ',' :: tokens =>
      (literal schema table position token).bind fun value =>
        (parseValues table positions tokens).map fun parsed =>
          ((position, value) :: parsed.1, parsed.2)
  | _, _ => none

def parseInsert : List Token → Option (Statement T)
  | .word into :: .word name :: .symbol '(' :: tokens =>
      if into = "into".toList then
        (schema.tableNamed name).bind fun table =>
          (parseColumns schema table tokens).bind fun columns =>
            match columns.2 with
            | .word values :: .symbol '(' :: tokens =>
                if values = "values".toList then
                  (parseValues schema table columns.1 tokens).bind fun fields =>
                    if parseEnd fields.2 then some (.insert table fields.1) else none
                else none
            | _ => none
      else none
  | _ => none

def parseDelete : List Token → Option (Statement T)
  | .word «from» :: .word name :: tokens =>
      if «from» = "from".toList then
        (schema.tableNamed name).bind fun table =>
          (parseCondition schema table tokens).bind fun condition =>
            if parseEnd condition.2 then some (.delete table condition.1) else none
      else none
  | _ => none

def parseUpdate : List Token → Option (Statement T)
  | .word name :: .word set :: tokens =>
      if set = "set".toList then
        (schema.tableNamed name).bind fun table =>
          (parseField schema table tokens).bind fun field =>
            (parseCondition schema table field.2).bind fun condition =>
              if parseEnd condition.2 ∧ field.1.1 ≠ 0 then
                some (.update table field.1 condition.1)
              else none
      else none
  | _ => none

def parseStatement : List Token → Option (Statement T)
  | .word letters :: tokens =>
      if letters = "insert".toList then parseInsert schema tokens
      else if letters = "delete".toList then parseDelete schema tokens
      else if letters = "update".toList then parseUpdate schema tokens
      else none
  | _ => none

def parseOrder (table : T) : List Token → Option (Option Nat × List Token)
  | .word order :: .word by' :: .word name :: .word asc :: tokens =>
      if order = "order".toList ∧ by' = "by".toList ∧ asc = "asc".toList then
        (columnNamed schema table name).map fun position => (some position, tokens)
      else none
  | tokens => some (none, tokens)

def parseQuery : List Token → Option (Query T)
  | .word select :: .symbol '*' :: .word «from» :: .word name :: tokens =>
      if select = "select".toList ∧ «from» = "from".toList then
        (schema.tableNamed name).bind fun table =>
          (parseCondition schema table tokens).bind fun condition =>
            (parseOrder schema table condition.2).bind fun order =>
              if parseEnd order.2 then some ⟨table, condition.1, order.1⟩ else none
      else none
  | _ => none

def readStatement (text : Text) : Option (Statement T) :=
  (lex text).bind (parseStatement schema)

def readQuery (text : Text) : Option (Query T) := (lex text).bind (parseQuery schema)

/-! ## Formatted commands -/

/-- A printed argument as a literal. -/
def Argument.value : Argument → Value
  | .int value => numberLiteral value.toInt
  | .unsignedLong value => numberLiteral value.toNat
  | .unsignedLongLong value => numberLiteral value.toNat
  | .string characters => .text (cString characters)

theorem Argument.int_value (value : BitVec 32) :
    (Argument.int value).value = .integer value.toInt := by
  have low := BitVec.le_toInt value
  have high := BitVec.toInt_lt (x := value)
  have isInteger : numberLiteral value.toInt = .integer value.toInt :=
    numberLiteral_of_fits (by omega) (by omega)
  exact isInteger

theorem Argument.unsignedLong_value (value : BitVec 32) :
    (Argument.unsignedLong value).value = .integer value.toNat := by
  have bound := value.isLt
  have isInteger : numberLiteral value.toNat = .integer value.toNat :=
    numberLiteral_of_fits (by omega) (by omega)
  exact isInteger

def Command.tokens (command : Command) : Option (List Token) :=
  formatTokens .between (pieces (command.format.flatMap String.toList)) command.arguments

/-- The statement that a command is when its strings contain no quote. -/
def Command.statement (command : Command) : Option (Statement T) :=
  command.tokens.bind (parseStatement schema)

def Command.query (command : Command) : Option (Query T) :=
  command.tokens.bind (parseQuery schema)

variable {schema}

theorem readStatement_text {command : Command} {statement : Statement T}
    (quoteFree : QuoteFree command.arguments)
    (formatted : command.statement schema = some statement) :
    readStatement schema command.text = some statement := by
  obtain ⟨tokens, read, parsed⟩ := Option.bind_eq_some_iff.mp formatted
  rw [readStatement, Command.text, lex_sprintf quoteFree read]
  exact parsed

theorem readQuery_text {command : Command} {query : Query T}
    (quoteFree : QuoteFree command.arguments)
    (formatted : command.query schema = some query) :
    readQuery schema command.text = some query := by
  obtain ⟨tokens, read, parsed⟩ := Option.bind_eq_some_iff.mp formatted
  rw [readQuery, Command.text, lex_sprintf quoteFree read]
  exact parsed

end Grammar

end StudyDemo.Sql
