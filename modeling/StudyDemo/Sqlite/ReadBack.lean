import Mathlib.Data.List.TakeWhile
import StudyDemo.Sqlite.BufferLimits
import StudyDemo.Sqlite.Lookups

/-! # Reading a device back

A device that was added is found by its address, but the search writes into the
caller's record: a string is copied without its end, and an address of 64 bits may not
fit the integers of the database. -/

namespace StudyDemo.Sqlite

open Sql

/-! ## Strings in arrays -/

/-- The byte of the array behind a string of this length ends a string. -/
def EndsBehind (array string : Text) : Prop := array[(cString string).length]? = some '\x00'

instance (array string : Text) : Decidable (EndsBehind array string) :=
  inferInstanceAs (Decidable (_ = _))

theorem cString_begins (array : Text) : cString array <+: array := List.takeWhile_prefix _

theorem ne_end_of_mem_cString {array : Text} {character : Char} (member : character ∈ cString array) :
    character ≠ '\x00' := by
  have passes := @List.mem_takeWhile_imp _ (fun character => decide (character ≠ '\x00')) _ _ member
  exact of_decide_eq_true passes

theorem memcpy_cString (array : Text) : memcpy array (cString array) = array :=
  List.prefix_iff_eq_append.mp (cString_begins array)

theorem length_cString_lt {array : Text} (terminated : '\x00' ∈ array) :
    (cString array).length < array.length := by
  apply Nat.lt_of_le_of_ne (cString_begins array).length_le
  intro whole
  have same : cString array = array := (cString_begins array).eq_of_length whole
  rw [← same] at terminated
  exact ne_end_of_mem_cString terminated rfl

theorem cString_memcpy_iff {array string : Text} (short : (cString string).length < array.length) :
    cString (memcpy array (cString string)) = cString string ↔ EndsBehind array string := by
  have whole : ∀ character ∈ cString string, decide (character ≠ '\x00') = true :=
    fun _ member => decide_eq_true (ne_end_of_mem_cString member)
  have split : cString (memcpy array (cString string)) =
      cString string ++ cString (array.drop (cString string).length) :=
    List.takeWhile_append_of_pos whole
  rw [split, List.append_right_eq_self, EndsBehind, List.getElem?_eq_getElem short,
    List.drop_eq_getElem_cons short, cString, List.takeWhile_cons]
  split_ifs with isEnd
  · simp [of_decide_eq_true isEnd]
  · simpa using isEnd

/-! ## Records -/

/-- The sizes of the arrays of `Device_Table_t`. -/
structure Arrays (deviceData : DeviceTable) : Prop where
  deviceName : deviceData.deviceName.length = 1024
  userName : deviceData.userName.length = 1024
  deviceIpv6 : deviceData.deviceIpv6.length = 1024
  deviceAppendstr : deviceData.deviceAppendstr.length = 2048

/-- The strings end in their arrays. -/
structure Terminated (deviceData : DeviceTable) : Prop extends Arrays deviceData where
  deviceNameEnds : '\x00' ∈ deviceData.deviceName
  userNameEnds : '\x00' ∈ deviceData.userName
  deviceIpv6Ends : '\x00' ∈ deviceData.deviceIpv6
  deviceAppendstrEnds : '\x00' ∈ deviceData.deviceAppendstr

/-- The records agree, the arrays as strings. -/
structure SameDevice (deviceData found : DeviceTable) : Prop where
  deviceId : found.deviceId = deviceData.deviceId
  address : found.address = deviceData.address
  macAddress : found.macAddress = deviceData.macAddress
  deviceType : found.deviceType = deviceData.deviceType
  deviceOnOff : found.deviceOnOff = deviceData.deviceOnOff
  deviceValue1 : found.deviceValue1 = deviceData.deviceValue1
  deviceValue2 : found.deviceValue2 = deviceData.deviceValue2
  deviceIsOnline : found.deviceIsOnline = deviceData.deviceIsOnline
  deviceName : cString found.deviceName = cString deviceData.deviceName
  userName : cString found.userName = cString deviceData.userName
  deviceIpv6 : cString found.deviceIpv6 = cString deviceData.deviceIpv6
  deviceAppendstr : cString found.deviceAppendstr = cString deviceData.deviceAppendstr

section Records

variable {layout : Layout} (environment : Environment layout.schema)

/-- The search after the device was added finds it as it was written. -/
def ReadsBack (deviceData query : DeviceTable) (session : Session TableName) : Prop :=
  ∃ found after, deviceTableSearchOne environment query
      (deviceTableAddRecord environment deviceData session).2 =
        some ((.success, found), after) ∧ SameDevice deviceData found

/-- The address is an integer of the database, or its floating value is read as it. -/
def MacAddressRead (deviceData : DeviceTable) : Prop :=
  deviceData.macAddress.toNat < 2 ^ 63 ∨
    environment.engine.columnInt64 (.real (roundToDouble deviceData.macAddress.toNat)) =
      deviceData.macAddress

/-- The query is prepared and its row is read, the address of 64 bits is kept, and the
arrays of the caller end the strings that are copied to them. -/
structure CanReadBack (deviceData query : DeviceTable) (session : Session TableName) : Prop where
  prepared : environment.succeeds (session.calls + 1)
  stepped : environment.succeeds (session.calls + 2)
  macAddress : MacAddressRead environment deviceData
  deviceName : EndsBehind query.deviceName deviceData.deviceName
  userName : EndsBehind query.userName deviceData.userName
  deviceAppendstr : EndsBehind query.deviceAppendstr deviceData.deviceAppendstr

end Records

/-! ## The row of the device -/

section Row

variable {layout : Layout} {environment : Environment layout.schema}

theorem columnInt64_macAddress_iff (deviceData : DeviceTable) :
    environment.engine.columnInt64 (Argument.unsignedLongLong deviceData.macAddress).value =
        deviceData.macAddress ↔ MacAddressRead environment deviceData := by
  rw [MacAddressRead, Argument.value]
  by_cases small : deviceData.macAddress.toNat < 2 ^ 63
  · rw [numberLiteral_of_fits (by omega) (by omega), environment.engine.columnInt64_integer,
      BitVec.ofInt_natCast, BitVec.ofNat_toNat, BitVec.setWidth_eq]
    exact iff_of_true rfl (Or.inl small)
  · have large : ¬(-2 ^ 63 ≤ (deviceData.macAddress.toNat : Int) ∧
        (deviceData.macAddress.toNat : Int) < 2 ^ 63) := by
      omega
    rw [numberLiteral, if_neg large, or_iff_right small]

def deviceRow (layout : Layout) (deviceData : DeviceTable) (session : Session TableName) : Row :=
  newRow layout session.connection .deviceTable (fieldsOf (deviceTableAddCommand deviceData))

theorem deviceRow_column (deviceData : DeviceTable) (session : Session TableName)
    (position : Nat) :
    (deviceRow layout deviceData session).column (position + 1) =
      (((deviceTableAddCommand deviceData).arguments[position]?).map Argument.value).getD .null :=
  newRow_column session.connection .deviceTable _ position

theorem deviceRow_argument {deviceData : DeviceTable} {position : Nat} {argument : Argument}
    (isArgument : (deviceTableAddCommand deviceData).arguments[position]? = some argument)
    (session : Session TableName) :
    (deviceRow layout deviceData session).column (position + 1) = argument.value := by
  rw [deviceRow_column, isArgument, Option.map_some, Option.getD_some]

theorem columnInt_deviceRow {deviceData : DeviceTable} {width position : Nat}
    {value : BitVec width} (narrow : width < 32)
    (isArgument : (deviceTableAddCommand deviceData).arguments[position]? = some (promoted value))
    (session : Session TableName) :
    (environment.engine.columnInt
      ((deviceRow layout deviceData session).column (position + 1))).setWidth width = value := by
  rw [deviceRow_argument isArgument, promoted_value_of_lt narrow]
  exact columnInt_setWidth environment.engine (Nat.le_of_lt narrow) value

theorem columnInt_deviceId (deviceData : DeviceTable) (session : Session TableName) :
    environment.engine.columnInt ((deviceRow layout deviceData session).column 1) =
      deviceData.deviceId := by
  have isArgument : (deviceTableAddCommand deviceData).arguments[0]? =
      some (.unsignedLong deviceData.deviceId) := rfl
  rw [deviceRow_argument isArgument, Argument.unsignedLong_value,
    environment.engine.columnInt_integer, BitVec.ofInt_natCast, BitVec.ofNat_toNat,
    BitVec.setWidth_eq]

theorem columnText_deviceRow {deviceData : DeviceTable} {position : Nat} {characters : Text}
    (isArgument : (deviceTableAddCommand deviceData).arguments[position]? =
      some (.string characters)) (session : Session TableName) :
    environment.engine.columnText ((deviceRow layout deviceData session).column (position + 1)) =
      cString characters := by
  rw [deviceRow_argument isArgument]
  exact environment.engine.columnText_text _

theorem cString_deviceRow_iff {deviceData : DeviceTable} {position : Nat}
    {array characters : Text}
    (isArgument : (deviceTableAddCommand deviceData).arguments[position]? =
      some (.string characters)) (ends : '\x00' ∈ characters)
    (size : array.length = characters.length) (session : Session TableName) :
    cString (memcpy array (environment.engine.columnText
        ((deviceRow layout deviceData session).column (position + 1)))) = cString characters ↔
      EndsBehind array characters := by
  rw [columnText_deviceRow isArgument]
  exact cString_memcpy_iff (size ▸ length_cString_lt ends)

/-- Copying the row gives the record back in the columns of numbers, and in the
strings that end in the arrays. -/
theorem sameDevice_copyDevice_iff {deviceData query : DeviceTable}
    (terminated : Terminated deviceData) (arrays : Arrays query)
    (same : cString query.deviceIpv6 = cString deviceData.deviceIpv6)
    (session : Session TableName) :
    SameDevice deviceData
        (copyDevice environment.engine query (deviceRow layout deviceData session)) ↔
      MacAddressRead environment deviceData ∧
        EndsBehind query.deviceName deviceData.deviceName ∧
        EndsBehind query.userName deviceData.userName ∧
        EndsBehind query.deviceAppendstr deviceData.deviceAppendstr := by
  have macAddress : environment.engine.columnInt64
      ((deviceRow layout deviceData session).column 6) = deviceData.macAddress ↔
        MacAddressRead environment deviceData := by
    have isArgument : (deviceTableAddCommand deviceData).arguments[5]? =
        some (.unsignedLongLong deviceData.macAddress) := rfl
    rw [deviceRow_argument isArgument]
    exact columnInt64_macAddress_iff deviceData
  have name := @cString_deviceRow_iff _ environment deviceData 1 query.deviceName _ rfl
    terminated.deviceNameEnds (arrays.deviceName.trans terminated.deviceName.symm) session
  have user := @cString_deviceRow_iff _ environment deviceData 2 query.userName _ rfl
    terminated.userNameEnds (arrays.userName.trans terminated.userName.symm) session
  have appended := @cString_deviceRow_iff _ environment deviceData 11 query.deviceAppendstr _ rfl
    terminated.deviceAppendstrEnds
    (arrays.deviceAppendstr.trans terminated.deviceAppendstr.symm) session
  constructor
  · intro sameDevice
    exact ⟨macAddress.mp sameDevice.macAddress, name.mp sameDevice.deviceName,
      user.mp sameDevice.userName, appended.mp sameDevice.deviceAppendstr⟩
  · rintro ⟨isRead, nameEnds, userEnds, appendEnds⟩
    constructor
    · exact columnInt_deviceId deviceData session
    · exact @columnInt_deviceRow _ _ _ 16 3 _ (by decide) rfl session
    · exact macAddress.mpr isRead
    · exact @columnInt_deviceRow _ _ _ 8 6 _ (by decide) rfl session
    · exact @columnInt_deviceRow _ _ _ 8 7 _ (by decide) rfl session
    · exact @columnInt_deviceRow _ _ _ 16 8 _ (by decide) rfl session
    · exact @columnInt_deviceRow _ _ _ 16 9 _ (by decide) rfl session
    · exact @columnInt_deviceRow _ _ _ 8 10 _ (by decide) rfl session
    · exact name.mpr nameEnds
    · exact user.mpr userEnds
    · have isAddress : (deviceTableAddCommand deviceData).arguments[4]? =
          some (.string deviceData.deviceIpv6) := rfl
      rw [copyDevice]
      dsimp only
      rw [columnText_deviceRow isAddress, ← same, memcpy_cString]
    · exact appended.mpr appendEnds

end Row

/-! ## The search -/

section Search

variable {layout : Layout} {environment : Environment layout.schema}

theorem deviceTableSearchOne_of_one {query : DeviceTable}
    (fits : Fits (deviceTableSearchOneCommand query)) {session : Session TableName} {row : Row}
    (one : environment.engine.prepare (deviceTableSearchOneCommand query).text
      session.connection = some [row]) (found : DeviceTable) :
    (∃ after, deviceTableSearchOne environment query session = some ((.success, found), after)) ↔
      environment.succeeds session.calls ∧ environment.succeeds (session.calls + 1) ∧
        found = copyDevice environment.engine query row := by
  rw [deviceTableSearchOne, if_pos fits, Environment.prepare]
  by_cases prepared : environment.succeeds session.calls = true
  · rw [if_pos prepared, one]
    dsimp only
    rw [Environment.forRows]
    by_cases stepped : environment.succeeds (session.calls + 1) = true
    · have again : environment.succeeds session.called.calls = true := stepped
      rw [if_pos again]
      constructor
      · rintro ⟨after, isFound⟩
        exact ⟨prepared, stepped, (Prod.mk.inj (Prod.mk.inj (Option.some.inj isFound)).1).2.symm⟩
      · rintro ⟨-, -, rfl⟩
        exact ⟨_, rfl⟩
    · have again : ¬environment.succeeds session.called.calls = true := stepped
      rw [if_neg again]
      refine iff_of_false ?_ fun both => stepped both.2.1
      rintro ⟨after, isFound⟩
      cases isFound
  · rw [if_neg prepared]
    refine iff_of_false ?_ fun both => prepared both.1
    rintro ⟨after, isFound⟩
    cases isFound

theorem fits_search {deviceData query : DeviceTable}
    (fits : Fits (deviceTableAddCommand deviceData))
    (same : cString query.deviceIpv6 = cString deviceData.deviceIpv6) :
    Fits (deviceTableSearchOneCommand query) := by
  have added := (deviceTableAddCommand_fits_iff deviceData).mp fits
  apply (deviceTableSearchOneCommand_fits_iff query).mpr
  dsimp only [CommandSite.Short, stringLength] at added ⊢
  rw [same]
  omega

theorem deviceTableAddRecord_calls {deviceData : DeviceTable}
    (fits : Fits (deviceTableAddCommand deviceData)) (session : Session TableName) :
    (deviceTableAddRecord environment deviceData session).2.calls = session.calls + 1 := by
  rw [deviceTableAddRecord]
  dsimp only
  rw [insertRecord_session]
  exact (runCommand_called environment fits session).1

theorem devices_deviceTableAddRecord {deviceData : DeviceTable}
    (safe : Safe (deviceTableAddCommand deviceData)) {session : Session TableName}
    (added : (deviceTableAddRecord environment deviceData session).1.1 = .success) :
    devices (deviceTableAddRecord environment deviceData session).2 =
      devices session ++ [deviceRow layout deviceData session] := by
  have inserted := (insertRecord_of_success safe (deviceTableAddCommand_statement deviceData)
    added).2
  rw [devices, deviceTableAddRecord]
  dsimp only
  rw [inserted, Statement.apply_insert_self]
  rfl

theorem prepare_added {deviceData query : DeviceTable}
    (safe : Safe (deviceTableAddCommand deviceData))
    (same : cString query.deviceIpv6 = cString deviceData.deviceIpv6)
    {session : Session TableName}
    (absent : ∀ row ∈ devices session, row.column 5 ≠ addressKey deviceData)
    (added : (deviceTableAddRecord environment deviceData session).1.1 = .success) :
    environment.engine.prepare (deviceTableSearchOneCommand query).text
      (deviceTableAddRecord environment deviceData session).2.connection =
        some [deviceRow layout deviceData session] := by
  have noQuote : '\'' ∉ cString deviceData.deviceIpv6 :=
    safe.quoteFree deviceData.deviceIpv6 (List.mem_of_getElem? (i := 4) rfl)
  have isAddress : (deviceRow layout deviceData session).column 5 = addressKey deviceData := by
    have isArgument : (deviceTableAddCommand deviceData).arguments[4]? =
        some (.string deviceData.deviceIpv6) := rfl
    exact deviceRow_argument isArgument session
  have answers := prepare_selectedRows environment (quoteFree_address (same ▸ noQuote))
    (deviceTableSearchOneCommand_query query)
    (deviceTableAddRecord environment deviceData session).2.connection
  have only : (devices (deviceTableAddRecord environment deviceData session).2).filter
      (·.satisfies (some (5, .text (cString query.deviceIpv6)))) =
        [deviceRow layout deviceData session] := by
    have none : (devices session).filter
        (·.satisfies (some (5, .text (cString deviceData.deviceIpv6)))) = [] := by
      apply List.filter_eq_nil_iff.mpr
      intro row member satisfied
      exact absent row member (of_decide_eq_true satisfied)
    rw [devices_deviceTableAddRecord safe added, List.filter_append, same, none, List.nil_append]
    exact List.filter_eq_self.mpr fun row member =>
      decide_eq_true (List.mem_singleton.mp member ▸ isAddress)
  rw [answers.1]
  exact congrArg some (List.perm_singleton.mp (only ▸ answers.2.perm))

/-- A device is read back when the calls succeed and nothing is lost, and only then. -/
theorem deviceTableAddRecord_readsBack_iff {deviceData query : DeviceTable}
    (terminated : Terminated deviceData) (safe : Safe (deviceTableAddCommand deviceData))
    (arrays : Arrays query) (same : cString query.deviceIpv6 = cString deviceData.deviceIpv6)
    {session : Session TableName}
    (absent : ∀ row ∈ devices session, row.column 5 ≠ addressKey deviceData)
    (added : (deviceTableAddRecord environment deviceData session).1.1 = .success) :
    ReadsBack environment deviceData query session ↔
      CanReadBack environment deviceData query session := by
  have search := deviceTableSearchOne_of_one (fits_search safe.fits same)
    (prepare_added safe same absent added)
  rw [deviceTableAddRecord_calls safe.fits] at search
  have copies := @sameDevice_copyDevice_iff layout environment deviceData query terminated arrays
    same session
  constructor
  · rintro ⟨found, later, isFound, isSame⟩
    obtain ⟨prepared, stepped, rfl⟩ := (search found).mp ⟨later, isFound⟩
    obtain ⟨macAddress, name, user, appended⟩ := copies.mp isSame
    exact ⟨prepared, stepped, macAddress, name, user, appended⟩
  · intro can
    obtain ⟨later, isFound⟩ := (search _).mpr ⟨can.prepared, can.stepped, rfl⟩
    exact ⟨_, later, isFound, copies.mpr
      ⟨can.macAddress, can.deviceName, can.userName, can.deviceAppendstr⟩⟩

end Search

/-! ## A lamp -/

/-- A string in an array of this size, with zeros behind it. -/
def arrayOf (size : Nat) (string : String) : Text :=
  string.toList ++ zeros (size - string.toList.length)

theorem arrayOf_terminated {size : Nat} {string : String} (fits : string.toList.length < size) :
    (arrayOf size string).length = size ∧ '\x00' ∈ arrayOf size string := by
  constructor
  · rw [arrayOf, List.length_append, zeros, List.length_replicate]
    omega
  · apply List.mem_append_right
    rw [zeros]
    apply List.mem_replicate.mpr
    exact ⟨by omega, rfl⟩

def lamp (macAddress : uint64) : DeviceTable where
  index := 0
  deviceId := 7
  deviceName := arrayOf 1024 "lamp"
  userName := arrayOf 1024 ""
  address := 0x1234
  deviceIpv6 := arrayOf 1024 "fd00::1"
  macAddress := macAddress
  deviceType := 1
  deviceOnOff := 1
  deviceValue1 := 0
  deviceValue2 := 0
  deviceIsOnline := 1
  deviceAppendstr := arrayOf 2048 ""

/-- A record with old contents in the array of the name. -/
def usedQuery : DeviceTable := { lamp 0 with deviceName := List.replicate 1024 'x' }

theorem lamp_terminated (macAddress : uint64) : Terminated (lamp macAddress) := by
  have name := @arrayOf_terminated 1024 "lamp" (by decide)
  have empty := @arrayOf_terminated 1024 "" (by decide)
  have address := @arrayOf_terminated 1024 "fd00::1" (by decide)
  have appended := @arrayOf_terminated 2048 "" (by decide)
  exact ⟨⟨name.1, empty.1, address.1, appended.1⟩, name.2, empty.2, address.2, appended.2⟩

theorem usedQuery_arrays : Arrays usedQuery := by
  have arrays := (lamp_terminated 0).toArrays
  exact ⟨List.length_replicate, arrays.userName, arrays.deviceIpv6, arrays.deviceAppendstr⟩

theorem deviceTableAddRecord_readsBack_iff_lamp :
    ReadsBack (Environment.plain Layout.shipped.schema) (lamp 0x00158D00012345) usedQuery
        Session.empty ↔
      CanReadBack (Environment.plain Layout.shipped.schema) (lamp 0x00158D00012345) usedQuery
        Session.empty := by
  apply deviceTableAddRecord_readsBack_iff (lamp_terminated _) (by decide +kernel)
    usedQuery_arrays rfl
  · intro row member
    cases member
  · decide +kernel

/-- The engine for the grammar, in which a floating value that is too large is read as
the largest integer. -/
def saturating (layout : Layout) : Environment layout.schema where
  engine :=
    { Engine.plain layout.schema with
      columnInt64
        | .integer value => BitVec.ofInt 64 value
        | .real value => if 2 ^ 63 ≤ value then 0x7FFFFFFFFFFFFFFF else BitVec.ofInt 64 value
        | _ => 0
      columnInt64_integer := fun _ => rfl }
  succeeds := fun _ => true
  overrun := fun _ session => (false, session)

/-- What was in the array of the name is behind the name that is read, and an address
with its first bit set is another one. -/
theorem deviceTableAddRecord_readsBack_fails :
    ¬ReadsBack (saturating Layout.shipped) (lamp 0x00158D00012345) usedQuery Session.empty ∧
      ¬ReadsBack (saturating Layout.shipped) (lamp 0xFF158D00012345FF) (lamp 0)
        Session.empty := by
  have nameRead : (deviceTableSearchOne (saturating Layout.shipped) usedQuery
      (deviceTableAddRecord (saturating Layout.shipped) (lamp 0x00158D00012345)
        Session.empty).2).map (fun done => (cString done.1.2.deviceName).length) =
          some 1024 := by
    decide +kernel
  have addressRead : (deviceTableSearchOne (saturating Layout.shipped) (lamp 0)
      (deviceTableAddRecord (saturating Layout.shipped) (lamp 0xFF158D00012345FF)
        Session.empty).2).map (fun done => done.1.2.macAddress) = some 0x7FFFFFFFFFFFFFFF := by
    decide +kernel
  constructor
  · rintro ⟨found, after, isFound, same⟩
    have short : (cString (lamp 0x00158D00012345).deviceName).length = 4 := by decide +kernel
    rw [isFound, Option.map_some, same.deviceName, short] at nameRead
    cases nameRead
  · rintro ⟨found, after, isFound, same⟩
    rw [isFound, Option.map_some, same.macAddress] at addressRead
    cases addressRead

end StudyDemo.Sqlite
