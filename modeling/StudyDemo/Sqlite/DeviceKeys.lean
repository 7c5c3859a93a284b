import StudyDemo.Sqlite.Results

/-! # Addresses as keys

A device is deleted and looked up by its address, which is pasted between quotes. An
address with a quote in it is a different literal, or none. -/

namespace StudyDemo.Sqlite

open Sql

section Keys

variable {layout : Layout} (environment : Environment layout.schema)

def devices (session : Session TableName) : List Row :=
  (session.connection.tables .deviceTable).rows

def addressKey (deviceData : DeviceTable) : Value := .text (cString deviceData.deviceIpv6)

/-- Deletion fails and changes nothing, or deletes the rows with the address and
changes nothing else. -/
def DeletesByKey (deviceData : DeviceTable) (session : Session TableName) : Prop :=
  let done := deviceTableDelete environment deviceData session
  done.1 ≠ .success ∧ done.2.connection.tables = session.connection.tables ∨
    done.1 = .success ∧
      devices done.2 =
        (devices session).filter (fun row => decide (row.column 5 ≠ addressKey deviceData)) ∧
      ∀ table ≠ TableName.deviceTable,
        done.2.connection.tables table = session.connection.tables table

/-- What is found is copied from rows with the address, from at least one on success. -/
def ReportsByKey (deviceData : DeviceTable) (session : Session TableName) : Prop :=
  ∃ status reported after rows,
    deviceTableSearchOne environment deviceData session = some ((status, reported), after) ∧
      (∀ row ∈ rows, row ∈ devices session ∧ row.column 5 = addressKey deviceData) ∧
      reported = rows.foldl (copyDevice environment.engine) deviceData ∧
      (status = .success → rows ≠ [])

def KeyIsData (deviceData : DeviceTable) (session : Session TableName) : Prop :=
  DeletesByKey environment deviceData session ∧ ReportsByKey environment deviceData session

/-- The commands with this address are errors. -/
def Rejected (deviceData : DeviceTable) : Prop :=
  ∀ connection,
    environment.engine.exec (deviceTableDeleteCommand deviceData).text connection =
        (false, connection) ∧
      environment.engine.prepare (deviceTableSearchOneCommand deviceData).text connection = none

variable (layout) in
/-- A command with this address has a meaning in the grammar. -/
def Readable (deviceData : DeviceTable) : Prop :=
  (readStatement layout.schema (deviceTableDeleteCommand deviceData).text).isSome ∨
    (readQuery layout.schema (deviceTableSearchOneCommand deviceData).text).isSome

end Keys

section Sound

variable {layout : Layout} {environment : Environment layout.schema} {deviceData : DeviceTable}

theorem quoteFree_address (noQuote : '\'' ∉ cString deviceData.deviceIpv6) :
    QuoteFree [.string deviceData.deviceIpv6] := by
  intro characters member
  rw [Argument.string.inj (List.mem_singleton.mp member)]
  exact noQuote

theorem deletesByKey_of_noQuote (fits : Fits (deviceTableDeleteCommand deviceData))
    (noQuote : '\'' ∉ cString deviceData.deviceIpv6) (session : Session TableName) :
    DeletesByKey environment deviceData session := by
  have safe : Safe (deviceTableDeleteCommand deviceData) := ⟨quoteFree_address noQuote, fits⟩
  have isDelete := @deviceTableDeleteCommand_statement layout deviceData
  rw [DeletesByKey, deviceTableDelete, execute]
  dsimp only
  rcases runCommand_cases safe isDelete session with ⟨done, ran⟩ | ⟨failed, unchanged⟩
  · have next := (Statement.run_eq_some.mp ran).2
    rw [if_pos done, devices, ← next, Statement.apply_delete_self]
    refine Or.inr ⟨rfl, ?_, fun table isOther => Statement.apply_tables_of_ne isOther⟩
    apply List.filter_congr
    intro row _
    exact (decide_not).symm
  · rw [failed, unchanged]
    exact Or.inl ⟨by decide, rfl⟩

variable (environment) in
theorem forRows_searchOne (rows : List Row) (found : uint8 × DeviceTable)
    (session : Session TableName) :
    ∃ copied : List Row, (∀ row ∈ copied, row ∈ rows) ∧
      (environment.forRows (deviceTableSearchOneTurn environment) rows found session).1 =
        .ok (found.1 + BitVec.ofNat 8 copied.length,
          copied.foldl (copyDevice environment.engine) found.2) := by
  induction rows generalizing found session with
  | nil =>
      refine ⟨[], fun _ member => member, ?_⟩
      rw [Environment.forRows]
      simp
  | cons row rows induction =>
      rw [Environment.forRows]
      split_ifs with succeeds
      · obtain ⟨copied, inside, done⟩ :=
          induction (found.1 + 1, copyDevice environment.engine found.2 row) session.called
        refine ⟨row :: copied, fun other member => ?_, ?_⟩
        · rcases List.mem_cons.mp member with rfl | later
          · exact List.mem_cons_self
          · exact List.mem_cons_of_mem _ (inside other later)
        · rw [deviceTableSearchOneTurn]
          dsimp only
          rw [done, List.length_cons, List.foldl_cons, Nat.add_comm copied.length,
            BitVec.ofNat_add, BitVec.add_assoc]
          rfl
      · refine ⟨[], fun _ member => absurd member List.not_mem_nil, ?_⟩
        simp

theorem reportsByKey_of_rows (fits : Fits (deviceTableSearchOneCommand deviceData))
    {session : Session TableName}
    (given : ∀ rows, environment.engine.prepare
        (deviceTableSearchOneCommand deviceData).text session.connection = some rows →
      ∀ row ∈ rows, row ∈ devices session ∧ row.column 5 = addressKey deviceData) :
    ReportsByKey environment deviceData session := by
  rw [ReportsByKey, deviceTableSearchOne, if_pos fits]
  dsimp only
  cases prepared : (environment.prepare (deviceTableSearchOneCommand deviceData).text
      session).1 with
  | none =>
      refine ⟨_, _, _, [], rfl, fun _ member => absurd member List.not_mem_nil, rfl, ?_⟩
      intro success
      cases success
  | some rows =>
      have gives : environment.engine.prepare (deviceTableSearchOneCommand deviceData).text
          session.connection = some rows := by
        rw [Environment.prepare] at prepared
        split_ifs at prepared
        cases gives : environment.engine.prepare
            (deviceTableSearchOneCommand deviceData).text session.connection with
        | none =>
            rw [gives] at prepared
            cases prepared
        | some found =>
            rw [gives] at prepared
            exact prepared
      obtain ⟨copied, inside, done⟩ := forRows_searchOne environment rows
        (0, deviceData)
        (environment.prepare (deviceTableSearchOneCommand deviceData).text session).2
      dsimp only
      rw [done]
      refine ⟨_, _, _, copied, rfl, fun row member => given rows gives row (inside row member),
        rfl, ?_⟩
      rintro success rfl
      cases success

theorem reportsByKey_of_noQuote (fits : Fits (deviceTableSearchOneCommand deviceData))
    (noQuote : '\'' ∉ cString deviceData.deviceIpv6) (session : Session TableName) :
    ReportsByKey environment deviceData session := by
  apply reportsByKey_of_rows fits
  intro rows gives row member
  obtain ⟨selected, answers⟩ := prepare_selectedRows environment (quoteFree_address noQuote)
    (deviceTableSearchOneCommand_query deviceData) session.connection
  obtain rfl : selectedRows environment (deviceTableSearchOneCommand deviceData)
      session.connection = rows := Option.some.inj (selected.symm.trans gives)
  obtain ⟨inside, satisfies⟩ := List.mem_filter.mp (answers.perm.mem_iff.mp member)
  exact ⟨inside, of_decide_eq_true satisfies⟩

theorem keyIsData_of_rejected (fitsDelete : Fits (deviceTableDeleteCommand deviceData))
    (fitsSearch : Fits (deviceTableSearchOneCommand deviceData))
    (rejected : Rejected environment deviceData) (session : Session TableName) :
    KeyIsData environment deviceData session := by
  obtain ⟨execFails, prepareFails⟩ := rejected session.connection
  constructor
  · have failed : (environment.exec (deviceTableDeleteCommand deviceData).text session).1 = false ∧
        (environment.exec (deviceTableDeleteCommand deviceData).text session).2.connection =
          session.connection := by
      rw [Environment.exec]
      split_ifs
      · rw [execFails]
        exact ⟨rfl, rfl⟩
      · exact ⟨rfl, rfl⟩
    rw [DeletesByKey, deviceTableDelete, execute, runCommand, if_pos fitsDelete, failed.1]
    exact Or.inl ⟨SqliteStatus.noConfusion, congrArg Connection.tables failed.2⟩
  · apply reportsByKey_of_rows fitsSearch
    intro rows gives
    rw [prepareFails] at gives
    cases gives

end Sound

/-! ## Addresses with a quote -/

section Quotes

variable {layout : Layout} {environment : Environment layout.schema} {deviceData : DeviceTable}

/-- The literal that is read instead of an address with a quote in it. -/
def Misread (deviceData : DeviceTable) (literal : Text) : Prop :=
  literal.length < (cString deviceData.deviceIpv6).length

theorem Misread.ne {literal : Text} (misread : Misread deviceData literal) :
    Value.text literal ≠ addressKey deviceData := by
  intro same
  rw [Misread, Value.text.inj same] at misread
  exact Nat.lt_irrefl _ misread

theorem lex_address {fixed : Text} {before tokens : List Token}
    (opens : lexThrough .between fixed = some (.string [], before))
    (quote : '\'' ∈ cString deviceData.deviceIpv6)
    (read : lex (fixed ++ (cString deviceData.deviceIpv6 ++ ['\''])) = some tokens) :
    ∃ literal rest, tokens = before ++ .string literal :: rest ∧ Misread deviceData literal := by
  rw [lex, lexFrom_append, opens, Option.bind_some] at read
  obtain ⟨after, later, rfl⟩ := Option.map_eq_some_iff.mp read
  obtain ⟨literal, rest, rfl, -, shorter⟩ := lexFrom_string_shorter _ [] later
  have misread := shorter quote
  rw [List.length_nil, Nat.zero_add] at misread
  exact ⟨literal, rest, rfl, misread⟩

/-- The tokens before the address. -/
def deleteOpening : List Token :=
  [word "delete", word "from", word "device_table", word "where", word "deviceipv6", .symbol '=']

def selectOpening : List Token :=
  [word "select", .symbol '*', word "from", word "device_table", word "where", word "deviceipv6",
    .symbol '=']

theorem parseStatement_opening (literal : Text) (rest : List Token) :
    parseStatement layout.schema (deleteOpening ++ .string literal :: rest) =
      if parseEnd rest then some (.delete .deviceTable (some (5, .text literal))) else none :=
  parseStatement_delete rfl rfl rfl rest

theorem parseQuery_opening (literal : Text) (rest : List Token) :
    parseQuery layout.schema (selectOpening ++ .string literal :: rest) =
      (parseOrder layout.schema .deviceTable rest).bind fun order =>
        if parseEnd order.2 then some ⟨.deviceTable, some (5, .text literal), order.1⟩
        else none := parseQuery_where rfl rfl rfl rest

section Openings

-- The openings of the two formats are evaluated.
set_option maxRecDepth 4000

theorem lexThrough_deleteOpening :
    lexThrough .between "Delete From Device_Table where deviceipv6='".toList =
      some (.string [], deleteOpening) := rfl

theorem lexThrough_selectOpening :
    lexThrough .between "Select * From Device_Table where deviceipv6='".toList =
      some (.string [], selectOpening) := rfl

theorem deviceTableDeleteCommand_text (deviceData : DeviceTable) :
    (deviceTableDeleteCommand deviceData).text =
      "Delete From Device_Table where deviceipv6='".toList ++
        (cString deviceData.deviceIpv6 ++ ['\'']) := sprintf_quoted rfl

theorem deviceTableSearchOneCommand_text (deviceData : DeviceTable) :
    (deviceTableSearchOneCommand deviceData).text =
      "Select * From Device_Table where deviceipv6='".toList ++
        (cString deviceData.deviceIpv6 ++ ['\'']) := sprintf_quoted rfl

end Openings

theorem readStatement_misread (quote : '\'' ∈ cString deviceData.deviceIpv6)
    (read : (readStatement layout.schema (deviceTableDeleteCommand deviceData).text).isSome) :
    ∃ literal, Misread deviceData literal ∧
      readStatement layout.schema (deviceTableDeleteCommand deviceData).text =
        some (.delete .deviceTable (some (5, .text literal))) := by
  rw [readStatement, deviceTableDeleteCommand_text] at read ⊢
  obtain ⟨statement, isSome⟩ := Option.isSome_iff_exists.mp read
  obtain ⟨tokens, lexed, parsed⟩ := Option.bind_eq_some_iff.mp isSome
  obtain ⟨literal, rest, rfl, misread⟩ := lex_address lexThrough_deleteOpening quote lexed
  refine ⟨literal, misread, ?_⟩
  rw [lexed, Option.bind_some]
  rw [parseStatement_opening] at parsed ⊢
  split_ifs at parsed ⊢
  rfl

theorem readQuery_misread (quote : '\'' ∈ cString deviceData.deviceIpv6)
    (read : (readQuery layout.schema (deviceTableSearchOneCommand deviceData).text).isSome) :
    ∃ literal order, Misread deviceData literal ∧
      readQuery layout.schema (deviceTableSearchOneCommand deviceData).text =
        some ⟨.deviceTable, some (5, .text literal), order⟩ := by
  rw [readQuery, deviceTableSearchOneCommand_text] at read ⊢
  obtain ⟨query, isSome⟩ := Option.isSome_iff_exists.mp read
  obtain ⟨tokens, lexed, parsed⟩ := Option.bind_eq_some_iff.mp isSome
  obtain ⟨literal, rest, rfl, misread⟩ := lex_address lexThrough_selectOpening quote lexed
  rw [lexed, Option.bind_some]
  rw [parseQuery_opening] at parsed ⊢
  obtain ⟨order, ordered, ended⟩ := Option.bind_eq_some_iff.mp parsed
  refine ⟨literal, order.1, misread, ?_⟩
  rw [ordered, Option.bind_some]
  split_ifs at ended ⊢
  rfl

/-- A database with one device, at this address. -/
def oneDevice (address : Text) : Session TableName :=
  ⟨⟨Function.update (fun _ => ⟨[], 0⟩) .deviceTable ⟨[⟨1, fun _ => .text address⟩], 1⟩, 1⟩, 0, 0⟩

theorem devices_oneDevice (address : Text) :
    devices (oneDevice address) = [⟨1, fun _ => .text address⟩] := rfl

theorem satisfies_oneDevice (address : Text) :
    (⟨1, fun _ => .text address⟩ : Row).satisfies (some (5, .text address)) = true :=
  decide_eq_true rfl

/-- The device at the literal is deleted, though it has another address. -/
theorem not_deletesByKey (faultless : environment.Faultless)
    (fits : Fits (deviceTableDeleteCommand deviceData)) {literal : Text}
    (misread : Misread deviceData literal)
    (read : readStatement layout.schema (deviceTableDeleteCommand deviceData).text =
      some (.delete .deviceTable (some (5, .text literal)))) :
    ¬DeletesByKey environment deviceData (oneDevice literal) := by
  have ran : (Statement.delete TableName.deviceTable (some (5, .text literal))).run
      layout.schema (oneDevice literal).connection =
        some ((Statement.delete TableName.deviceTable (some (5, .text literal))).apply
          layout.schema (oneDevice literal).connection) :=
    Statement.run_eq_some.mpr ⟨fun _ member => absurd member List.not_mem_nil, rfl⟩
  have done := Environment.exec_of_run faultless read ran
  rw [DeletesByKey, deviceTableDelete, execute, runCommand, if_pos fits]
  dsimp only
  rw [if_pos done.1]
  rintro (⟨failed, -⟩ | ⟨-, kept, -⟩)
  · exact failed rfl
  · have inside : (⟨1, fun _ => .text literal⟩ : Row) ∈
        devices (environment.exec (deviceTableDeleteCommand deviceData).text
          (oneDevice literal)).2 := by
      rw [kept, devices_oneDevice]
      exact List.mem_filter.mpr ⟨List.mem_singleton_self _, decide_eq_true misread.ne⟩
    rw [devices, done.2, Statement.apply_delete_self] at inside
    have left := (List.mem_filter.mp inside).2
    rw [satisfies_oneDevice] at left
    cases left

theorem not_reportsByKey (faultless : environment.Faultless)
    (fits : Fits (deviceTableSearchOneCommand deviceData)) {literal : Text} {order : Option Nat}
    (misread : Misread deviceData literal)
    (read : readQuery layout.schema (deviceTableSearchOneCommand deviceData).text =
      some ⟨.deviceTable, some (5, .text literal), order⟩) :
    ¬ReportsByKey environment deviceData (oneDevice literal) := by
  obtain ⟨rows, prepared, answers⟩ :=
    Environment.prepare_query faultless read (oneDevice literal)
  have found : rows = [⟨1, fun _ => .text literal⟩] := by
    have all : (devices (oneDevice literal)).filter
        (·.satisfies (some (5, .text literal))) = [⟨1, fun _ => .text literal⟩] := by
      apply List.filter_eq_self.mpr
      intro row member
      rw [List.mem_singleton.mp member]
      exact satisfies_oneDevice literal
    exact List.perm_singleton.mp (all ▸ answers.perm)
  rintro ⟨status, reported, after, copied, done, given, -, nonempty⟩
  rw [deviceTableSearchOne, if_pos fits] at done
  dsimp only at done
  rw [prepared, found] at done
  dsimp only [Environment.forRows, deviceTableSearchOneTurn] at done
  rw [if_pos (faultless _)] at done
  have success : status = .success := by
    have parts := congrArg (fun outcome => outcome.1.1) (Option.some.inj done)
    exact parts.symm
  obtain ⟨row, rest, rfl⟩ := List.exists_cons_of_ne_nil (nonempty success)
  obtain ⟨inside, isKey⟩ := given row List.mem_cons_self
  rw [devices_oneDevice] at inside
  rw [List.mem_singleton.mp inside] at isKey
  exact misread.ne isKey

/-- An address is data if and only if it has no quote, as far as its commands are in
the grammar. Other addresses are data when their commands are errors. -/
theorem keyIsData_iff_noQuote (layout : Layout) (deviceData : DeviceTable)
    (fitsDelete : Fits (deviceTableDeleteCommand deviceData))
    (fitsSearch : Fits (deviceTableSearchOneCommand deviceData)) :
    (∀ (environment : Environment layout.schema) (session : Session TableName),
      '\'' ∉ cString deviceData.deviceIpv6 ∨ Rejected environment deviceData →
        KeyIsData environment deviceData session) ∧
    ∀ environment : Environment layout.schema, environment.Faultless →
      Readable layout deviceData →
        ((∀ session, KeyIsData environment deviceData session) ↔
          '\'' ∉ cString deviceData.deviceIpv6) := by
  have sound : ∀ (environment : Environment layout.schema) (session : Session TableName),
      '\'' ∉ cString deviceData.deviceIpv6 → KeyIsData environment deviceData session :=
    fun _ session noQuote => ⟨deletesByKey_of_noQuote fitsDelete noQuote session,
      reportsByKey_of_noQuote fitsSearch noQuote session⟩
  constructor
  · rintro environment session (noQuote | rejected)
    · exact sound environment session noQuote
    · exact keyIsData_of_rejected fitsDelete fitsSearch rejected session
  · intro environment faultless readable
    refine ⟨fun isData quote => ?_, fun noQuote session => sound environment session noQuote⟩
    rcases readable with deleteRead | searchRead
    · obtain ⟨literal, misread, read⟩ := readStatement_misread quote deleteRead
      exact not_deletesByKey faultless fitsDelete misread read (isData _).1
    · obtain ⟨literal, order, misread, read⟩ := readQuery_misread quote searchRead
      exact not_reportsByKey faultless fitsSearch misread read (isData _).2

end Quotes

def deviceAt (address : String) : DeviceTable where
  index := 0
  deviceId := 0
  deviceName := []
  userName := []
  address := 0
  deviceIpv6 := address.toList
  macAddress := 0
  deviceType := 0
  deviceOnOff := 0
  deviceValue1 := 0
  deviceValue2 := 0
  deviceIsOnline := 0
  deviceAppendstr := []

/-- An ordinary address is data. -/
theorem keyIsData_iff_noQuote_ordinary :
    Readable Layout.shipped (deviceAt "fd00::1") ∧ ∀ session,
      KeyIsData (Environment.plain Layout.shipped.schema) (deviceAt "fd00::1") session := by
  have readable : Readable Layout.shipped (deviceAt "fd00::1") := Or.inl (by decide +kernel)
  refine ⟨readable, ?_⟩
  exact ((keyIsData_iff_noQuote Layout.shipped (deviceAt "fd00::1") (by decide +kernel)
    (by decide +kernel)).2 _ Environment.plain_faultless readable).mpr (by decide)

/-- What follows the quote is a comment, and another device is deleted. -/
theorem keyIsData_fails :
    Fits (deviceTableDeleteCommand (deviceAt "fd00::1'--")) ∧
      ¬KeyIsData (Environment.plain Layout.shipped.schema) (deviceAt "fd00::1'--")
        (oneDevice "fd00::1".toList) := by
  refine ⟨by decide +kernel, fun isData => ?_⟩
  have deleted : devices (deviceTableDelete (Environment.plain Layout.shipped.schema)
      (deviceAt "fd00::1'--") (oneDevice "fd00::1".toList)).2 = [] := by
    apply List.eq_nil_of_length_eq_zero
    decide +kernel
  have success : (deviceTableDelete (Environment.plain Layout.shipped.schema)
      (deviceAt "fd00::1'--") (oneDevice "fd00::1".toList)).1 = .success := by
    decide +kernel
  rcases isData.1 with ⟨failed, -⟩ | ⟨-, kept, -⟩
  · exact failed success
  · rw [deleted, devices_oneDevice] at kept
    have length := congrArg List.length kept
    revert length
    decide +kernel

end StudyDemo.Sqlite
