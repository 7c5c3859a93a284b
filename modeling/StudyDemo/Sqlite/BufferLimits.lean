import StudyDemo.Sql.Lengths
import StudyDemo.Sqlite.DeviceKeys

/-! # Commands and their buffer

The arrays of a record are as large as the buffer that a command is printed to, or
larger. A command fits it only when its strings and digits leave room for the text
around them. -/

namespace StudyDemo.Sqlite

open Sql

/-- The functions that print the strings of a device or of a profile. -/
inductive CommandSite
  | deviceTableAddRecord (deviceData : DeviceTable)
  | deviceTableUpdate (deviceData : DeviceTable) (maskcode : uint8)
  | deviceTableDelete (deviceData : DeviceTable)
  | deviceTableSearchOne (deviceData : DeviceTable)
  | profileTableAddRecord (profileData : ProfileTable)
  | profileTableUpdate (profileData : ProfileTable) (maskcode : uint8)

/-- The length of the string in an array. -/
def stringLength (array : Text) : Nat := (cString array).length

/-- For each column of an update, whether it is selected, and the length of its command
but for the address. -/
def deviceTableUpdateLengths (deviceData : DeviceTable) (maskcode : uint8) :
    List (Bool × Nat) :=
  [(selects maskcode 0x01, 53 + digits deviceData.deviceId.toNat),
    (selects maskcode 0x02, 55 + stringLength deviceData.userName),
    (selects maskcode 0x04, 52 + digits deviceData.address.toNat),
    (selects maskcode 0x08, 55 + digits deviceData.macAddress.toNat),
    (maskcode.setWidth 32 &&& (0x100 : uint32) != 0, 55 + digits deviceData.deviceType.toNat),
    (selects maskcode 0x20, 56 + digits deviceData.deviceOnOff.toNat),
    (selects maskcode 0x40, 57 + digits deviceData.deviceValue1.toNat),
    (selects maskcode 0x80, 57 + digits deviceData.deviceValue2.toNat),
    (selects maskcode 0x10, 59 + digits deviceData.deviceIsOnline.toNat),
    (maskcode == 0x03, 59 + stringLength deviceData.deviceAppendstr)]

def profileTableUpdateLengths (profileData : ProfileTable) (maskcode : uint8) :
    List (Bool × Nat) :=
  [(selects maskcode 0x01, 56 + stringLength profileData.profileName),
    (selects maskcode 0x20, 57 + stringLength profileData.profileOnOff),
    (selects maskcode 0x02, 61 + stringLength profileData.profileStartTime),
    (selects maskcode 0x04, 59 + stringLength profileData.profileEndTime),
    (selects maskcode 0x08, 62 + stringLength profileData.profileTimeRepeat),
    (selects maskcode 0x10, 59 + stringLength profileData.profileTableDevices)]

namespace CommandSite

def commands : CommandSite → List Command
  | deviceTableAddRecord deviceData => [deviceTableAddCommand deviceData]
  | deviceTableUpdate deviceData maskcode =>
      selectedCommands (deviceTableUpdateSteps deviceData maskcode)
  | deviceTableDelete deviceData => [deviceTableDeleteCommand deviceData]
  | deviceTableSearchOne deviceData => [deviceTableSearchOneCommand deviceData]
  | profileTableAddRecord profileData => [profileTableAddCommand profileData]
  | profileTableUpdate profileData maskcode =>
      selectedCommands (profileTableUpdateSteps profileData maskcode)

/-- Every text with its NUL is at most as long as the buffer. -/
def FitsBuffer (site : CommandSite) : Prop :=
  ∀ command ∈ site.commands, command.text.length + 1 ≤ commandSize

/-- The strings and the digits leave room for the rest of the command. -/
def Short : CommandSite → Prop
  | deviceTableAddRecord deviceData =>
      189 + digits deviceData.deviceId.toNat + stringLength deviceData.deviceName +
        stringLength deviceData.userName + digits deviceData.address.toNat +
        stringLength deviceData.deviceIpv6 + digits deviceData.macAddress.toNat +
        digits deviceData.deviceType.toNat + digits deviceData.deviceOnOff.toNat +
        digits deviceData.deviceValue1.toNat + digits deviceData.deviceValue2.toNat +
        digits deviceData.deviceIsOnline.toNat + stringLength deviceData.deviceAppendstr < 1024
  | deviceTableUpdate deviceData maskcode =>
      ∀ column ∈ deviceTableUpdateLengths deviceData maskcode, column.1 = true →
        column.2 + stringLength deviceData.deviceIpv6 < 1024
  | deviceTableDelete deviceData => 44 + stringLength deviceData.deviceIpv6 < 1024
  | deviceTableSearchOne deviceData => 46 + stringLength deviceData.deviceIpv6 < 1024
  | profileTableAddRecord profileData =>
      152 + digits profileData.profileId.toNat + stringLength profileData.profileName +
        stringLength profileData.profileOnOff + stringLength profileData.profileStartTime +
        stringLength profileData.profileEndTime + stringLength profileData.profileTimeRepeat +
        stringLength profileData.profileTableDevices < 1024
  | profileTableUpdate profileData maskcode =>
      ∀ column ∈ profileTableUpdateLengths profileData maskcode, column.1 = true →
        column.2 + digits profileData.profileId.toNat < 1024

end CommandSite

/-! ## Lengths -/

theorem length_printed_promoted {width : Nat} (narrow : width < 32) (value : BitVec width) :
    (promoted value).printed.length = digits value.toNat := by
  have isNat : (value.setWidth 32).toInt = value.toNat := by
    have same := promoted_value_of_lt narrow value
    rw [promoted, Argument.int_value] at same
    exact Value.integer.inj same
  rw [promoted, Argument.printed, isNat]
  exact length_decimal_natural _

theorem length_promoted8 (value : uint8) :
    (promoted value).printed.length = digits value.toNat :=
  length_printed_promoted (by decide) value

theorem length_promoted16 (value : uint16) :
    (promoted value).printed.length = digits value.toNat :=
  length_printed_promoted (by decide) value

theorem deviceTableAddCommand_fits_iff (deviceData : DeviceTable) :
    (deviceTableAddCommand deviceData).text.length + 1 ≤ commandSize ↔
      (CommandSite.deviceTableAddRecord deviceData).Short := by
  have length := @Command.length_text (deviceTableAddCommand deviceData)
    [.lu, .s, .s, .d, .s, .llu, .d, .d, .d, .d, .d, .s] 189
    (by dsimp only [deviceTableAddCommand]; decide +kernel) rfl
  simp only [deviceTableAddCommand, List.map_cons, List.map_nil, List.sum_cons, List.sum_nil,
    length_promoted8, length_promoted16, length_printed_unsignedLong,
    length_printed_unsignedLongLong, length_printed_string] at length
  rw [deviceTableAddCommand, length, CommandSite.Short, commandSize]
  simp only [stringLength]
  omega

theorem profileTableAddCommand_fits_iff (profileData : ProfileTable) :
    (profileTableAddCommand profileData).text.length + 1 ≤ commandSize ↔
      (CommandSite.profileTableAddRecord profileData).Short := by
  have length := @Command.length_text (profileTableAddCommand profileData)
    [.d, .s, .s, .s, .s, .s, .s] 152
    (by dsimp only [profileTableAddCommand]; decide +kernel) rfl
  simp only [profileTableAddCommand, List.map_cons, List.map_nil, List.sum_cons, List.sum_nil,
    length_promoted16, length_printed_string] at length
  rw [profileTableAddCommand, length, CommandSite.Short, commandSize]
  simp only [stringLength]
  omega

theorem deviceTableDeleteCommand_fits_iff (deviceData : DeviceTable) :
    (deviceTableDeleteCommand deviceData).text.length + 1 ≤ commandSize ↔
      (CommandSite.deviceTableDelete deviceData).Short := by
  have length := @Command.length_text (deviceTableDeleteCommand deviceData) [.s] 44
    (by dsimp only [deviceTableDeleteCommand]; decide +kernel) rfl
  rw [length, CommandSite.Short, commandSize]
  exact Nat.lt_iff_add_one_le.symm

theorem deviceTableSearchOneCommand_fits_iff (deviceData : DeviceTable) :
    (deviceTableSearchOneCommand deviceData).text.length + 1 ≤ commandSize ↔
      (CommandSite.deviceTableSearchOne deviceData).Short := by
  have length := @Command.length_text (deviceTableSearchOneCommand deviceData) [.s] 46
    (by dsimp only [deviceTableSearchOneCommand]; decide +kernel) rfl
  rw [length, CommandSite.Short, commandSize]
  exact Nat.lt_iff_add_one_le.symm

/-! ## Updates -/

/-- The command of the step is selected with the column, and this long. -/
def Measures (rest : Nat) (step : UpdateStep) (column : Bool × Nat) : Prop :=
  step.selected = column.1 ∧ step.command.text.length = column.2 + rest

theorem selectedCommands_fit_iff {rest : Nat} {steps : List UpdateStep}
    {columns : List (Bool × Nat)} (measures : List.Forall₂ (Measures rest) steps columns) :
    (∀ command ∈ selectedCommands steps, command.text.length + 1 ≤ commandSize) ↔
      ∀ column ∈ columns, column.1 = true → column.2 + rest < 1024 := by
  induction measures with
  | nil => simp [selectedCommands]
  | @cons step column steps columns first _ induction =>
      obtain ⟨sameSelection, length⟩ := first
      rw [List.forall_mem_cons, ← induction, ← sameSelection, ← length, selectedCommands]
      cases selected : step.selected with
      | true =>
          rw [List.filter_cons_of_pos selected, List.map_cons, List.forall_mem_cons]
          exact and_congr_left fun _ => ⟨fun fits _ => fits, fun short => short rfl⟩
      | false =>
          rw [List.filter_cons_of_neg (by rw [selected]; exact Bool.false_ne_true)]
          exact (and_iff_right fun isSelected => absurd isSelected Bool.false_ne_true).symm

theorem deviceTableUpdateCommand_length {assignment : String} {argument : Argument}
    {most size : Nat} (deviceData : DeviceTable) (conversion : Conversion)
    (isArgument : argument.conversion = conversion) (isSize : argument.printed.length = size)
    (format : conversions (pieces (["Update Device_Table Set ", assignment,
        " Where deviceipv6='%s'"].flatMap String.toList)) = [conversion, .s] ∧
      literals (pieces (["Update Device_Table Set ", assignment,
        " Where deviceipv6='%s'"].flatMap String.toList)) = most) :
    (deviceTableUpdateCommand assignment argument deviceData).text.length =
      most + size + stringLength deviceData.deviceIpv6 := by
  have length := @Command.length_text (deviceTableUpdateCommand assignment argument deviceData)
    [conversion, .s] most format (by rw [← isArgument]; rfl)
  rw [length, Nat.add_assoc, ← isSize]
  rfl

theorem deviceTableUpdateSteps_measures (deviceData : DeviceTable) (maskcode : uint8) :
    List.Forall₂ (Measures (stringLength deviceData.deviceIpv6))
      (deviceTableUpdateSteps deviceData maskcode)
      (deviceTableUpdateLengths deviceData maskcode) := by
  have measure := @deviceTableUpdateCommand_length
  refine .cons ?deviceId <| .cons ?userName <| .cons ?address <| .cons ?macAddress <|
    .cons ?deviceType <| .cons ?onOff <| .cons ?value1 <| .cons ?value2 <|
    .cons ?isOnline <| .cons ?append .nil
  case deviceId =>
    exact ⟨rfl, measure deviceData .lu rfl (length_printed_unsignedLong _) (by decide +kernel)⟩
  case userName =>
    exact ⟨rfl, measure deviceData .s rfl (length_printed_string _) (by decide +kernel)⟩
  case address =>
    exact ⟨rfl, measure deviceData .d rfl (length_promoted16 _) (by decide +kernel)⟩
  case macAddress =>
    exact ⟨rfl, measure deviceData .llu rfl (length_printed_unsignedLongLong _)
      (by decide +kernel)⟩
  case deviceType =>
    exact ⟨rfl, measure deviceData .d rfl (length_promoted8 _) (by decide +kernel)⟩
  case onOff =>
    exact ⟨rfl, measure deviceData .d rfl (length_promoted8 _) (by decide +kernel)⟩
  case value1 =>
    exact ⟨rfl, measure deviceData .d rfl (length_promoted16 _) (by decide +kernel)⟩
  case value2 =>
    exact ⟨rfl, measure deviceData .d rfl (length_promoted16 _) (by decide +kernel)⟩
  case isOnline =>
    exact ⟨rfl, measure deviceData .d rfl (length_promoted8 _) (by decide +kernel)⟩
  case append =>
    exact ⟨rfl, measure deviceData .s rfl (length_printed_string _) (by decide +kernel)⟩

theorem profileTableUpdateCommand_length {assignment : String} {characters : Text} {most : Nat}
    (profileData : ProfileTable)
    (format : conversions (pieces (["Update Profile_Table Set ", assignment,
        " Where profileid=%d"].flatMap String.toList)) = [.s, .d] ∧
      literals (pieces (["Update Profile_Table Set ", assignment,
        " Where profileid=%d"].flatMap String.toList)) = most) :
    (profileTableUpdateCommand assignment (.string characters) profileData).text.length =
      most + stringLength characters + digits profileData.profileId.toNat := by
  have length := @Command.length_text
    (profileTableUpdateCommand assignment (.string characters) profileData) [.s, .d] most format rfl
  rw [length, Nat.add_assoc, ← length_promoted16]
  rfl

theorem profileTableUpdateSteps_measures (profileData : ProfileTable) (maskcode : uint8) :
    List.Forall₂ (Measures (digits profileData.profileId.toNat))
      (profileTableUpdateSteps profileData maskcode)
      (profileTableUpdateLengths profileData maskcode) := by
  refine .cons ⟨rfl, ?name⟩ <| .cons ⟨rfl, ?onOff⟩ <| .cons ⟨rfl, ?startTime⟩ <|
    .cons ⟨rfl, ?endTime⟩ <| .cons ⟨rfl, ?timeRepeat⟩ <| .cons ⟨rfl, ?devices⟩ .nil
  all_goals exact profileTableUpdateCommand_length profileData (by decide +kernel)

/-! ## All functions -/

/-- The texts fit the buffer exactly when the strings and digits are short enough. -/
theorem fitsBuffer_iff (site : CommandSite) : site.FitsBuffer ↔ site.Short := by
  cases site with
  | deviceTableAddRecord deviceData =>
      exact List.forall_mem_singleton.trans (deviceTableAddCommand_fits_iff deviceData)
  | deviceTableUpdate deviceData maskcode =>
      exact selectedCommands_fit_iff (deviceTableUpdateSteps_measures deviceData maskcode)
  | deviceTableDelete deviceData =>
      exact List.forall_mem_singleton.trans (deviceTableDeleteCommand_fits_iff deviceData)
  | deviceTableSearchOne deviceData =>
      exact List.forall_mem_singleton.trans (deviceTableSearchOneCommand_fits_iff deviceData)
  | profileTableAddRecord profileData =>
      exact List.forall_mem_singleton.trans (profileTableAddCommand_fits_iff profileData)
  | profileTableUpdate profileData maskcode =>
      exact selectedCommands_fit_iff (profileTableUpdateSteps_measures profileData maskcode)

/-! ## A long address -/

/-- The array has this size, and its string ends within it. -/
def EndsWithin (size : Nat) (array : Text) : Prop := array.length = size ∧ '\x00' ∈ array

instance (size : Nat) (array : Text) : Decidable (EndsWithin size array) :=
  inferInstanceAs (Decidable (_ ∧ _))

/-- Every character array of the record ends within its size. -/
structure AdmissibleDevice (deviceData : DeviceTable) : Prop where
  deviceName : EndsWithin 1024 deviceData.deviceName
  userName : EndsWithin 1024 deviceData.userName
  deviceIpv6 : EndsWithin 1024 deviceData.deviceIpv6
  deviceAppendstr : EndsWithin 2048 deviceData.deviceAppendstr

/-- A device whose address has 1000 characters. -/
def longAddress : DeviceTable :=
  { deviceAt "" with
    deviceName := zeros 1024
    userName := zeros 1024
    deviceIpv6 := List.replicate 1000 'f' ++ zeros 24
    deviceAppendstr := zeros 2048 }

/-- Its deletion is printed past the end of the buffer. -/
theorem fitsBuffer_fails :
    AdmissibleDevice longAddress ∧
      ¬(CommandSite.deviceTableDelete longAddress).FitsBuffer := by
  refine ⟨⟨?_, ?_, ?_, ?_⟩, fun fits => ?_⟩
  · decide +kernel
  · decide +kernel
  · decide +kernel
  · decide +kernel
  · have short := (deviceTableDeleteCommand_fits_iff longAddress).mp
      (fits _ (List.mem_singleton_self _))
    revert short
    rw [CommandSite.Short]
    decide +kernel

end StudyDemo.Sqlite
