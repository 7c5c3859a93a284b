import StudyDemo.Sql.Lengths
import StudyDemo.Sql.Parser

/-! # Forms of commands

Of a command only the values are left to its arguments. The tokens of its format are
read without them, with a slot for each; a command whose tokens have one of the usual
forms is the statement or the query that its words name. -/

namespace StudyDemo.Sql

/-! ## Slots -/

/-- A token that is written in a format, or the place of an argument. -/
inductive Slot
  | written (token : Token)
  | argument (conversion : Conversion)
  deriving DecidableEq

/-- The string that a quote ends before these pieces has ended. -/
def endsString : List Piece → Bool
  | [] => true
  | .character character :: _ => decide (character ≠ '\'')
  | _ => false

/-- A printed number fills a slot of its own. -/
def numberSlot (state : LexState) (conversion : Conversion) (format : List Piece)
    (rest : Option (List Slot)) : Option (List Slot) :=
  if state = .between ∧ endsNumber format then
    rest.map fun slots => .argument conversion :: slots
  else none

/-- The slots of the rest of a format. Strings are printed between quotes. -/
def slotsFrom (state : LexState) : List Piece → Option (List Slot)
  | [] => (lexEnd state).map (List.map .written)
  | .character character :: format =>
      (lexStep state character).bind fun step =>
        (slotsFrom step.1 format).map fun slots => step.2.map .written ++ slots
  | .s :: .character character :: format =>
      if state = .string [] ∧ character = '\'' ∧ endsString format then
        (slotsFrom .between format).map fun slots => .argument .s :: slots
      else none
  | .s :: _ => none
  | .d :: format => numberSlot state .d format (slotsFrom .between format)
  | .lu :: format => numberSlot state .lu format (slotsFrom .between format)
  | .llu :: format => numberSlot state .llu format (slotsFrom .between format)

def slots (format : List String) : Option (List Slot) :=
  slotsFrom .between (pieces (format.flatMap String.toList))

def Argument.token : Argument → Token
  | .int value => .number value.toInt
  | .unsignedLong value => .number value.toNat
  | .unsignedLongLong value => .number value.toNat
  | .string characters => .string (cString characters)

/-- The tokens, with the arguments in their places. -/
def fill : List Slot → List Argument → Option (List Token)
  | [], _ => some []
  | .written token :: slots, arguments => (fill slots arguments).map fun tokens => token :: tokens
  | .argument conversion :: slots, argument :: arguments =>
      if argument.conversion = conversion then
        (fill slots arguments).map fun tokens => argument.token :: tokens
      else none
  | .argument _ :: _, [] => none

theorem fill_written (tokens : List Token) (slots : List Slot) (arguments : List Argument) :
    fill (tokens.map .written ++ slots) arguments =
      (fill slots arguments).map fun filled => tokens ++ filled := by
  induction tokens with
  | nil => exact Option.map_id'.symm
  | cons token tokens induction =>
      rw [List.map_cons, List.cons_append, fill, induction, Option.map_map]
      rfl

/-- A closed string is a token as soon as something else follows it. -/
theorem formatTokens_closed {format : List Piece} (ends : endsString format) (content : Text)
    (arguments : List Argument) :
    formatTokens (.closed content) format arguments =
      (formatTokens .between format arguments).map fun tokens => .string content :: tokens := by
  match format with
  | [] => rfl
  | .character character :: format =>
      have notQuote : ¬character = '\'' := of_decide_eq_true ends
      have closes : lexStep (.closed content) character =
          (startToken character).map fun started => (started.1, .string content :: started.2) :=
        if_neg notQuote
      rw [formatTokens, formatTokens, closes, lexStep]
      cases startToken character with
      | none => rfl
      | some step => simp [Function.comp_def]

/-- A slot is filled by the argument it asks for. -/
theorem fill_argument {conversion : Conversion} {slots : List Slot} {arguments : List Argument}
    {tokens : List Token}
    (filled : fill (.argument conversion :: slots) arguments = some tokens) :
    ∃ argument rest after, arguments = argument :: rest ∧ argument.conversion = conversion ∧
      fill slots rest = some after ∧ tokens = argument.token :: after := by
  match arguments with
  | argument :: rest =>
      rw [fill] at filled
      split_ifs at filled with printed
      obtain ⟨after, later, rfl⟩ := Option.map_eq_some_iff.mp filled
      exact ⟨argument, rest, after, rfl, printed, later, rfl⟩

/-- What stands in the slot of a number, and behind it. -/
theorem numberToken_of_numberSlot {state : LexState} {conversion : Conversion}
    {format : List Piece} {rest : Option (List Slot)} {slots : List Slot}
    {arguments : List Argument} {tokens : List Token}
    (read : numberSlot state conversion format rest = some slots)
    (filled : fill slots arguments = some tokens)
    (later : ∀ slots, rest = some slots → ∀ arguments tokens, fill slots arguments = some tokens →
      formatTokens .between format arguments = some tokens) :
    ∃ argument behind, arguments = argument :: behind ∧ argument.conversion = conversion ∧
      ∀ value, argument.token = .number value →
        numberToken state value format (formatTokens .between format behind) = some tokens := by
  rw [numberSlot] at read
  split_ifs at read with conditions
  obtain ⟨rfl, ends⟩ := conditions
  obtain ⟨slots, isRest, rfl⟩ := Option.map_eq_some_iff.mp read
  obtain ⟨argument, behind, after, rfl, printed, filled', rfl⟩ := fill_argument filled
  refine ⟨argument, behind, rfl, printed, fun value isNumber => ?_⟩
  rw [numberToken, if_pos ends, later slots isRest behind after filled', isNumber]
  rfl

/-- The tokens of a command are those of its format with its arguments in them. -/
theorem formatTokens_of_slotsFrom {state : LexState} {format : List Piece} {slots : List Slot}
    {arguments : List Argument} {tokens : List Token} (read : slotsFrom state format = some slots)
    (filled : fill slots arguments = some tokens) :
    formatTokens state format arguments = some tokens := by
  fun_induction slotsFrom state format generalizing slots arguments tokens with
  | case1 state =>
      obtain ⟨ended, isEnd, rfl⟩ := Option.map_eq_some_iff.mp read
      rw [← List.append_nil (ended.map _), fill_written, fill] at filled
      simpa [formatTokens, isEnd] using filled
  | case2 state character format induction =>
      obtain ⟨step, stepped, rest⟩ := Option.bind_eq_some_iff.mp read
      obtain ⟨after, later, rfl⟩ := Option.map_eq_some_iff.mp rest
      rw [fill_written] at filled
      obtain ⟨tokens', filled', rfl⟩ := Option.map_eq_some_iff.mp filled
      rw [formatTokens, stepped, Option.bind_some, induction step later filled', Option.map_some]
  | case3 state character format conditions induction =>
      obtain ⟨rfl, rfl, ends⟩ := conditions
      obtain ⟨slots', later, rfl⟩ := Option.map_eq_some_iff.mp read
      obtain ⟨argument, rest, after, rfl, printed, filled', rfl⟩ := fill_argument filled
      cases argument with
      | string characters =>
          have quote : lexStep (.string ([] ++ cString characters)) '\'' =
              some (.closed (cString characters), []) := rfl
          rw [formatTokens, formatTokens, quote, Option.bind_some, formatTokens_closed ends,
            induction later filled']
          rfl
      | _ => cases printed
  | case4 => cases read
  | case5 => cases read
  | case6 state format induction =>
      obtain ⟨argument, behind, rfl, printed, number⟩ := numberToken_of_numberSlot read filled
        fun _ isRest _ _ => induction isRest
      cases argument with
      | int value => exact number _ rfl
      | _ => cases printed
  | case7 state format induction =>
      obtain ⟨argument, behind, rfl, printed, number⟩ := numberToken_of_numberSlot read filled
        fun _ isRest _ _ => induction isRest
      cases argument with
      | unsignedLong value => exact number _ rfl
      | _ => cases printed
  | case8 state format induction =>
      obtain ⟨argument, behind, rfl, printed, number⟩ := numberToken_of_numberSlot read filled
        fun _ isRest _ _ => induction isRest
      cases argument with
      | unsignedLongLong value => exact number _ rfl
      | _ => cases printed

/-! ## Parsing the usual forms -/

def word (letters : String) : Token := .word letters.toList

def Argument.kind : Argument → Kind
  | .string _ => .text
  | _ => .integer

/-- With a comma after each but the last, and a parenthesis after that. -/
def listed {α : Type} (comma parenthesis : α) : List α → List α
  | [] => []
  | [item] => [item, parenthesis]
  | item :: items => item :: comma :: listed comma parenthesis items

theorem listed_cons {α : Type} (comma parenthesis item next : α) (items : List α) :
    listed comma parenthesis (item :: next :: items) =
      item :: comma :: listed comma parenthesis (next :: items) := rfl

section Parsing

variable {T : Type} {schema : Schema T} {table : T}

theorem literal_token {position : Nat} {argument : Argument}
    (kind : ((schema.columns table)[position]?).map Column.kind = some argument.kind) :
    literal schema table position argument.token = some argument.value := by
  obtain ⟨⟨name, kind'⟩, column, isKind⟩ := Option.map_eq_some_iff.mp kind
  cases argument <;> simp_all [literal, Argument.kind, Argument.token, Argument.value]

theorem parseField_equals {column : Text} {position : Nat} {token : Token} {value : Value}
    (named : columnNamed schema table column = some position)
    (valued : literal schema table position token = some value) (rest : List Token) :
    parseField schema table (.word column :: .symbol '=' :: token :: rest) =
      some ((position, value), rest) := by
  simp [parseField, named, valued]

theorem parseCondition_where {column : Text} {position : Nat} {token : Token} {value : Value}
    (named : columnNamed schema table column = some position)
    (valued : literal schema table position token = some value) (rest : List Token) :
    parseCondition schema table
        (.word "where".toList :: .word column :: .symbol '=' :: token :: rest) =
      some (some (position, value), rest) := by
  simp [parseCondition, parseField_equals named valued]

theorem parseStatement_delete {name column : Text} {position : Nat} {token : Token}
    {value : Value} (tableNamed : schema.tableNamed name = some table)
    (named : columnNamed schema table column = some position)
    (valued : literal schema table position token = some value) (rest : List Token) :
    parseStatement schema (.word "delete".toList :: .word "from".toList :: .word name ::
        .word "where".toList :: .word column :: .symbol '=' :: token :: rest) =
      if parseEnd rest then some (.delete table (some (position, value))) else none := by
  rw [parseStatement, if_neg (by decide), if_pos rfl, parseDelete, if_pos rfl, tableNamed,
    Option.bind_some, parseCondition_where named valued, Option.bind_some]

theorem parseStatement_update {name column key : Text} {position keyPosition : Nat}
    {token keyToken : Token} {value keyValue : Value}
    (tableNamed : schema.tableNamed name = some table)
    (named : columnNamed schema table column = some position)
    (valued : literal schema table position token = some value) (notKey : position ≠ 0)
    (keyNamed : columnNamed schema table key = some keyPosition)
    (keyValued : literal schema table keyPosition keyToken = some keyValue) :
    parseStatement schema [.word "update".toList, .word name, .word "set".toList, .word column,
        .symbol '=', token, .word "where".toList, .word key, .symbol '=', keyToken] =
      some (.update table (position, value) (some (keyPosition, keyValue))) := by
  rw [parseStatement, if_neg (by decide), if_neg (by decide), if_pos rfl, parseUpdate, if_pos rfl,
    tableNamed, Option.bind_some, parseField_equals named valued, Option.bind_some,
    parseCondition_where keyNamed keyValued, Option.bind_some]
  exact if_pos ⟨rfl, notKey⟩

theorem parseQuery_whole {name : Text} (tableNamed : schema.tableNamed name = some table) :
    parseQuery schema [.word "select".toList, .symbol '*', .word "from".toList, .word name] =
      some ⟨table, none, none⟩ := by
  rw [parseQuery, if_pos ⟨rfl, rfl⟩, tableNamed]
  rfl

theorem parseQuery_ordered {name column : Text} {position : Nat}
    (tableNamed : schema.tableNamed name = some table)
    (named : columnNamed schema table column = some position) :
    parseQuery schema [.word "select".toList, .symbol '*', .word "from".toList, .word name,
        .word "order".toList, .word "by".toList, .word column, .word "asc".toList] =
      some ⟨table, none, some position⟩ := by
  have order : parseOrder schema table [.word "order".toList, .word "by".toList, .word column,
      .word "asc".toList] = some (some position, []) := by
    rw [parseOrder, if_pos ⟨rfl, rfl, rfl⟩, named]
    rfl
  rw [parseQuery, if_pos ⟨rfl, rfl⟩, tableNamed, Option.bind_some, parseCondition,
    if_neg (by decide), Option.bind_some, order]
  rfl

theorem parseQuery_where {name column : Text} {position : Nat} {token : Token} {value : Value}
    (tableNamed : schema.tableNamed name = some table)
    (named : columnNamed schema table column = some position)
    (valued : literal schema table position token = some value) (rest : List Token) :
    parseQuery schema (.word "select".toList :: .symbol '*' :: .word "from".toList ::
        .word name :: .word "where".toList :: .word column :: .symbol '=' :: token :: rest) =
      (parseOrder schema table rest).bind fun order =>
        if parseEnd order.2 then some ⟨table, some (position, value), order.1⟩ else none := by
  rw [parseQuery, if_pos ⟨rfl, rfl⟩, tableNamed, Option.bind_some,
    parseCondition_where named valued, Option.bind_some]

/-! ### Insertions -/

/-- Columns are found by their names, which are distinct. -/
theorem columnNamed_append {before after : List Column} {column : Column}
    (columns : schema.columns table = before ++ column :: after)
    (distinct : ((schema.columns table).map Column.name).Nodup) :
    columnNamed schema table column.name = some before.length := by
  rw [columns, List.map_append, List.map_cons] at distinct
  have others : ∀ other ∈ before, decide (other.name = column.name) = false := by
    intro other member
    apply decide_eq_false
    intro same
    exact (List.nodup_append.mp distinct).2.2 _ (List.mem_map_of_mem member) _
      List.mem_cons_self same
  rw [columnNamed, columns, List.findIdx?_append, List.findIdx?_eq_none_iff.mpr others,
    List.findIdx?_cons]
  simp

theorem parseColumns_listed {before rest : List Column}
    (columns : schema.columns table = before ++ rest)
    (distinct : ((schema.columns table).map Column.name).Nodup) (keyed : before ≠ [])
    (notEmpty : rest ≠ []) (tokens : List Token) :
    parseColumns schema table
        (listed (.symbol ',') (.symbol ')') (rest.map fun column => .word column.name) ++ tokens) =
      some (List.range' before.length rest.length, tokens) := by
  induction rest generalizing before with
  | nil => exact absurd rfl notEmpty
  | cons column rest induction =>
      have position : before.length ≠ 0 := fun empty => keyed (List.length_eq_zero_iff.mp empty)
      have named := columnNamed_append columns distinct
      cases rest with
      | nil => simp [listed, parseColumns, named, position]
      | cons next rest =>
          have moved : schema.columns table = (before ++ [column]) ++ next :: rest := by
            rw [columns, List.append_assoc, List.singleton_append]
          have later := induction moved (List.append_ne_nil_of_right_ne_nil _ (by simp)) (by simp)
          rw [List.length_append, List.length_singleton] at later
          rw [List.map_cons, List.map_cons, listed_cons, List.cons_append, List.cons_append,
            ← List.map_cons (f := fun column : Column => Token.word column.name), parseColumns,
            named, Option.bind_some, if_neg position, if_neg (by decide), if_pos rfl, later]
          rfl

theorem parseValues_listed {before rest : List Column}
    (columns : schema.columns table = before ++ rest) {arguments : List Argument}
    (kinds : arguments.map Argument.kind = rest.map Column.kind) (notEmpty : rest ≠ [])
    (tokens : List Token) :
    parseValues schema table (List.range' before.length rest.length)
        (listed (.symbol ',') (.symbol ')') (arguments.map Argument.token) ++ tokens) =
      some ((arguments.zipIdx before.length).map fun argument => (argument.2, argument.1.value),
        tokens) := by
  induction rest generalizing before arguments with
  | nil => exact absurd rfl notEmpty
  | cons column rest induction =>
      obtain ⟨argument, arguments, rfl, kind, kinds⟩ := List.map_eq_cons_iff.mp kinds
      have here : ((schema.columns table)[before.length]?).map Column.kind =
          some argument.kind := by
        rw [columns, List.getElem?_append_right (Nat.le_refl _), Nat.sub_self, kind]
        rfl
      have valued := literal_token here
      cases rest with
      | nil =>
          obtain rfl := List.map_eq_nil_iff.mp kinds
          simp [listed, parseValues, valued]
      | cons next rest =>
          have moved : schema.columns table = (before ++ [column]) ++ next :: rest := by
            rw [columns, List.append_assoc, List.singleton_append]
          have later := induction moved kinds (by simp)
          obtain ⟨other, arguments, rfl, -, -⟩ := List.map_eq_cons_iff.mp kinds
          rw [List.length_append, List.length_singleton] at later
          rw [List.map_cons, List.map_cons, listed_cons, List.cons_append, List.cons_append,
            ← List.map_cons, List.length_cons, List.range'_succ]
          rw [parseValues, valued, Option.bind_some, later]
          rfl

theorem parseStatement_insert {name : Text} {key : Column} {columns : List Column}
    {arguments : List Argument} (tableNamed : schema.tableNamed name = some table)
    (isColumns : schema.columns table = key :: columns)
    (distinct : ((schema.columns table).map Column.name).Nodup)
    (kinds : arguments.map Argument.kind = columns.map Column.kind) (notEmpty : columns ≠ []) :
    parseStatement schema ([.word "insert".toList, .word "into".toList, .word name, .symbol '('] ++
        (listed (.symbol ',') (.symbol ')') (columns.map fun column => .word column.name) ++
          ([.word "values".toList, .symbol '('] ++
            listed (.symbol ',') (.symbol ')') (arguments.map Argument.token)))) =
      some (.insert table
        ((arguments.zipIdx 1).map fun argument => (argument.2, argument.1.value))) := by
  have split : schema.columns table = [key] ++ columns := isColumns
  have names := parseColumns_listed split distinct (by simp) notEmpty
  have values := parseValues_listed split kinds notEmpty []
  rw [List.append_nil] at values
  rw [List.cons_append, parseStatement, if_pos rfl]
  simp only [List.cons_append, List.nil_append]
  rw [parseInsert, if_pos rfl, tableNamed, Option.bind_some, names, Option.bind_some]
  simp only [if_true]
  rw [values]
  rfl

end Parsing

/-! ## Commands of the usual forms -/

def equals (column : String) (conversion : Conversion) : List Slot :=
  [.written (word column), .written (.symbol '='), .argument conversion]

def conditionForm (column : String) (conversion : Conversion) : List Slot :=
  .written (word "where") :: equals column conversion

def deleteForm (table : String) (condition : List Slot) : List Slot :=
  [.written (word "delete"), .written (word "from"), .written (word table)] ++ condition

def updateForm (table : String) (assigned condition : List Slot) : List Slot :=
  [.written (word "update"), .written (word table), .written (word "set")] ++
    (assigned ++ condition)

def selectForm (table : String) (rest : List Slot) : List Slot :=
  [.written (word "select"), .written (.symbol '*'), .written (word "from"),
    .written (word table)] ++ rest

def orderForm (column : String) : List Slot :=
  [.written (word "order"), .written (word "by"), .written (word column), .written (word "asc")]

/-- A value for each of the columns. -/
def insertForm (table : String) (columns : List Column) (conversions : List Conversion) :
    List Slot :=
  [word "insert", word "into", word table, .symbol '('].map .written ++
    ((listed (.symbol ',') (.symbol ')') (columns.map fun column => .word column.name)).map
        .written ++
      ([word "values", .symbol '('].map .written ++
        listed (.written (.symbol ',')) (.written (.symbol ')')) (conversions.map .argument)))

theorem fill_listed (arguments : List Argument) :
    fill (listed (.written (.symbol ',')) (.written (.symbol ')'))
        ((arguments.map Argument.conversion).map .argument)) arguments =
      some (listed (.symbol ',') (.symbol ')') (arguments.map Argument.token)) := by
  induction arguments with
  | nil => rfl
  | cons argument arguments induction =>
      cases arguments with
      | nil => simp [listed, fill]
      | cons other arguments =>
          simp only [List.map_cons, listed_cons, fill, if_true] at induction ⊢
          rw [induction]
          rfl

section Forms

variable {T : Type} {schema : Schema T} {table : T} {format : List String}

/-- The argument is a value of the column at the position. -/
structure ValueOf (schema : Schema T) (table : T) (column : String) (position : Nat)
    (argument : Argument) : Prop where
  named : columnNamed schema table column.toList = some position
  kind : ((schema.columns table)[position]?).map Column.kind = some argument.kind

theorem Command.tokens_of_slots {command : Command} {form : List Slot} {tokens : List Token}
    (read : slots command.format = some form) (filled : fill form command.arguments = some tokens) :
    command.tokens = some tokens := formatTokens_of_slotsFrom read filled

theorem statement_delete {argument : Argument} {position : Nat} (name column : String)
    (form : slots format = some (deleteForm name (conditionForm column argument.conversion)))
    (tableNamed : schema.tableNamed name.toList = some table)
    (value : ValueOf schema table column position argument) :
    (⟨format, [argument]⟩ : Command).statement schema =
      some (.delete table (some (position, argument.value))) := by
  have filled : fill (deleteForm name (conditionForm column argument.conversion)) [argument] =
      some [word "delete", word "from", word name, word "where", word column, .symbol '=',
        argument.token] := by
    simp [deleteForm, conditionForm, equals, fill]
  rw [Command.statement, Command.tokens_of_slots form filled, Option.bind_some]
  exact parseStatement_delete tableNamed value.named (literal_token value.kind) []

theorem statement_update {argument key : Argument} {position keyPosition : Nat}
    (name column keyColumn : String)
    (form : slots format = some (updateForm name (equals column argument.conversion)
      (conditionForm keyColumn key.conversion)))
    (tableNamed : schema.tableNamed name.toList = some table)
    (value : ValueOf schema table column position argument) (notKey : position ≠ 0)
    (keyValue : ValueOf schema table keyColumn keyPosition key) :
    (⟨format, [argument, key]⟩ : Command).statement schema =
      some (.update table (position, argument.value) (some (keyPosition, key.value))) := by
  have filled : fill (updateForm name (equals column argument.conversion)
      (conditionForm keyColumn key.conversion)) [argument, key] =
      some [word "update", word name, word "set", word column, .symbol '=', argument.token,
        word "where", word keyColumn, .symbol '=', key.token] := by
    simp [updateForm, conditionForm, equals, fill]
  rw [Command.statement, Command.tokens_of_slots form filled, Option.bind_some]
  exact parseStatement_update tableNamed value.named (literal_token value.kind) notKey
    keyValue.named (literal_token keyValue.kind)

theorem statement_insert {arguments : List Argument} (name : String)
    (form : slots format = some (insertForm name (schema.columns table).tail
      (arguments.map Argument.conversion)))
    (tableNamed : schema.tableNamed name.toList = some table)
    (distinct : ((schema.columns table).map Column.name).Nodup)
    (kinds : (schema.columns table).map Column.kind = .integer :: arguments.map Argument.kind)
    (notEmpty : arguments ≠ []) :
    (⟨format, arguments⟩ : Command).statement schema =
      some (.insert table
        ((arguments.zipIdx 1).map fun argument => (argument.2, argument.1.value))) := by
  obtain ⟨key, columns, isColumns, -, kinds⟩ := List.map_eq_cons_iff.mp kinds
  have filled : fill (insertForm name columns (arguments.map Argument.conversion)) arguments =
      some ([word "insert", word "into", word name, .symbol '('] ++
        (listed (.symbol ',') (.symbol ')') (columns.map fun column => .word column.name) ++
          ([word "values", .symbol '('] ++
            listed (.symbol ',') (.symbol ')') (arguments.map Argument.token)))) := by
    rw [insertForm, fill_written, fill_written, fill_written, fill_listed]
    rfl
  rw [isColumns] at form
  rw [Command.statement, Command.tokens_of_slots form filled, Option.bind_some]
  apply parseStatement_insert tableNamed isColumns distinct kinds.symm
  intro empty
  rw [empty] at kinds
  exact notEmpty (List.map_eq_nil_iff.mp kinds.symm)

theorem query_whole (name : String) (form : slots format = some (selectForm name []))
    (tableNamed : schema.tableNamed name.toList = some table) :
    (⟨format, []⟩ : Command).query schema = some ⟨table, none, none⟩ := by
  have filled : fill (selectForm name []) [] =
      some [word "select", .symbol '*', word "from", word name] := rfl
  rw [Command.query, Command.tokens_of_slots form filled, Option.bind_some]
  exact parseQuery_whole tableNamed

theorem query_ordered {position : Nat} (name column : String)
    (form : slots format = some (selectForm name (orderForm column)))
    (tableNamed : schema.tableNamed name.toList = some table)
    (named : columnNamed schema table column.toList = some position) :
    (⟨format, []⟩ : Command).query schema = some ⟨table, none, some position⟩ := by
  have filled : fill (selectForm name (orderForm column)) [] =
      some [word "select", .symbol '*', word "from", word name, word "order", word "by",
        word column, word "asc"] := rfl
  rw [Command.query, Command.tokens_of_slots form filled, Option.bind_some]
  exact parseQuery_ordered tableNamed named

theorem query_where {argument : Argument} {position : Nat} (name column : String)
    (form : slots format = some (selectForm name (conditionForm column argument.conversion)))
    (tableNamed : schema.tableNamed name.toList = some table)
    (value : ValueOf schema table column position argument) :
    (⟨format, [argument]⟩ : Command).query schema =
      some ⟨table, some (position, argument.value), none⟩ := by
  have filled : fill (selectForm name (conditionForm column argument.conversion)) [argument] =
      some [word "select", .symbol '*', word "from", word name, word "where", word column,
        .symbol '=', argument.token] := by
    simp [selectForm, conditionForm, equals, fill]
  rw [Command.query, Command.tokens_of_slots form filled, Option.bind_some]
  exact parseQuery_where tableNamed value.named (literal_token value.kind) []

end Forms

end StudyDemo.Sql
