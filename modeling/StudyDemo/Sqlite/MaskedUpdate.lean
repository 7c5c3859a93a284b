import StudyDemo.Sql.Updates
import StudyDemo.Sqlite.DeviceKeys

/-! # Masked updates

The constants of an update are joined in a mask of eight bits. One of them has no bit
there, and another has those of two others and counts only when the mask is no more. -/

namespace StudyDemo.Sqlite

open Sql

/-- The constants for the columns of the device table. -/
inductive DeviceMask
  | deviceId
  | deviceUserName
  | deviceAddress
  | deviceMacAddress
  | deviceIsOnline
  | deviceOnOff
  | deviceValue1
  | deviceValue2
  | deviceType
  | deviceAppend
  deriving DecidableEq

namespace DeviceMask

def code : DeviceMask → uint32
  | deviceId => 0x01
  | deviceUserName => 0x02
  | deviceAddress => 0x04
  | deviceMacAddress => 0x08
  | deviceIsOnline => 0x10
  | deviceOnOff => 0x20
  | deviceValue1 => 0x40
  | deviceValue2 => 0x80
  | deviceType => 0x100
  | deviceAppend => 0x03

/-- The column that the constant names. -/
def position : DeviceMask → Nat
  | deviceId => 1
  | deviceUserName => 3
  | deviceAddress => 4
  | deviceMacAddress => 6
  | deviceIsOnline => 11
  | deviceOnOff => 8
  | deviceValue1 => 9
  | deviceValue2 => 10
  | deviceType => 7
  | deviceAppend => 12

/-- The value of the record in that column. An address of 64 bits may be stored as a
floating value that is equal to it. -/
def Holds (deviceData : DeviceTable) : DeviceMask → Value → Prop
  | deviceId, value => value = .integer deviceData.deviceId.toNat
  | deviceUserName, value => value = .text (cString deviceData.userName)
  | deviceAddress, value => value = .integer deviceData.address.toNat
  | deviceMacAddress, value =>
      value = .integer deviceData.macAddress.toNat ∨ value = .real deviceData.macAddress.toNat
  | deviceIsOnline, value => value = .integer deviceData.deviceIsOnline.toNat
  | deviceOnOff, value => value = .integer deviceData.deviceOnOff.toNat
  | deviceValue1, value => value = .integer deviceData.deviceValue1.toNat
  | deviceValue2, value => value = .integer deviceData.deviceValue2.toNat
  | deviceType, value => value = .integer deviceData.deviceType.toNat
  | deviceAppend, value => value = .text (cString deviceData.deviceAppendstr)

end DeviceMask

/-- The constants joined and passed as the parameter. -/
def maskcode (named : List DeviceMask) : uint8 :=
  ((named.map DeviceMask.code).foldr (· ||| ·) 0).setWidth 8

/-! ## What an update promises -/

/-- The named columns have the values of the record, the others those they had. -/
structure ChangedAsNamed (deviceData : DeviceTable) (named : List DeviceMask)
    (row changed : Row) : Prop where
  values : ∀ mask ∈ named, mask.Holds deviceData (changed.column mask.position)
  others : ∀ position, (∀ mask ∈ named, mask.position ≠ position) →
    changed.column position = row.column position

structure UpdatesNamed (deviceData : DeviceTable) (named : List DeviceMask)
    (before after : Connection TableName) : Prop where
  devices : List.Forall₂ (fun row changed =>
    (row.column 5 = addressKey deviceData → ChangedAsNamed deviceData named row changed) ∧
      (row.column 5 ≠ addressKey deviceData → changed = row))
    (before.tables .deviceTable).rows (after.tables .deviceTable).rows
  tables : ∀ table, table ≠ .deviceTable → after.tables table = before.tables table

/-- Every command that the mask selects fits the buffer. -/
def UpdateFits (deviceData : DeviceTable) (maskcode : uint8) : Prop :=
  ∀ command ∈ selectedCommands (deviceTableUpdateSteps deviceData maskcode), Fits command

/-- The strings that an update prints contain no quote. -/
structure NoQuotes (deviceData : DeviceTable) : Prop where
  userName : '\'' ∉ cString deviceData.userName
  deviceIpv6 : '\'' ∉ cString deviceData.deviceIpv6
  deviceAppendstr : '\'' ∉ cString deviceData.deviceAppendstr

/-- Some constant has a bit that no mask of `DEVICEAPPEND` has. -/
def NamesFurther (named : List DeviceMask) : Prop :=
  ∃ mask ∈ named, mask ∈ [DeviceMask.deviceAddress, .deviceMacAddress, .deviceIsOnline,
    .deviceOnOff, .deviceValue1, .deviceValue2]

/-- Where the mask says something else than the constants, the row has the values of the
record already. -/
structure MaskSuffices (deviceData : DeviceTable) (named : List DeviceMask) (row : Row) :
    Prop where
  macAddress : .deviceMacAddress ∈ named → deviceData.macAddress.toNat < 2 ^ 63 ∨
    roundToDouble deviceData.macAddress.toNat = deviceData.macAddress.toNat
  deviceType : .deviceType ∈ named → row.column 7 = .integer deviceData.deviceType.toNat
  deviceId : .deviceAppend ∈ named → .deviceId ∉ named →
    row.column 1 = .integer deviceData.deviceId.toNat
  userName : .deviceAppend ∈ named → .deviceUserName ∉ named →
    row.column 3 = .text (cString deviceData.userName)
  withFurther : .deviceAppend ∈ named → NamesFurther named →
    row.column 12 = .text (cString deviceData.deviceAppendstr)
  withoutAppend : .deviceId ∈ named → .deviceUserName ∈ named → .deviceAppend ∉ named →
    ¬NamesFurther named → row.column 12 = .text (cString deviceData.deviceAppendstr)

/-! ## The mask -/

namespace DeviceMask

/-- Whether a mask selects the column. -/
def selected (maskcode : uint8) : DeviceMask → Bool
  | deviceId => selects maskcode 0x01
  | deviceUserName => selects maskcode 0x02
  | deviceAddress => selects maskcode 0x04
  | deviceMacAddress => selects maskcode 0x08
  | deviceIsOnline => selects maskcode 0x10
  | deviceOnOff => selects maskcode 0x20
  | deviceValue1 => selects maskcode 0x40
  | deviceValue2 => selects maskcode 0x80
  | deviceType => maskcode.setWidth 32 &&& (0x100 : uint32) != 0
  | deviceAppend => maskcode == 0x03

/-- The value that is stored when the column is selected. -/
def stored (deviceData : DeviceTable) : DeviceMask → Value
  | deviceId => (Argument.unsignedLong deviceData.deviceId).value
  | deviceUserName => .text (cString deviceData.userName)
  | deviceAddress => (promoted deviceData.address).value
  | deviceMacAddress => (Argument.unsignedLongLong deviceData.macAddress).value
  | deviceIsOnline => (promoted deviceData.deviceIsOnline).value
  | deviceOnOff => (promoted deviceData.deviceOnOff).value
  | deviceValue1 => (promoted deviceData.deviceValue1).value
  | deviceValue2 => (promoted deviceData.deviceValue2).value
  | deviceType => (promoted deviceData.deviceType).value
  | deviceAppend => .text (cString deviceData.deviceAppendstr)

/-- The constants in the order in which an update tests them. -/
def order : List DeviceMask :=
  [deviceId, deviceUserName, deviceAddress, deviceMacAddress, deviceType, deviceOnOff,
    deviceValue1, deviceValue2, deviceIsOnline, deviceAppend]

theorem mem_order (mask : DeviceMask) : mask ∈ order := by
  cases mask <;> decide

theorem position_injective : Function.Injective position := by
  intro left right same
  revert same
  cases left <;> cases right <;> decide

theorem position_ne_zero (mask : DeviceMask) : mask.position ≠ 0 := by
  cases mask <;> decide

theorem position_ne_address (mask : DeviceMask) : mask.position ≠ 5 := by
  cases mask <;> decide

theorem holds_iff (deviceData : DeviceTable) {mask : DeviceMask}
    (notMacAddress : mask ≠ deviceMacAddress) (value : Value) :
    mask.Holds deviceData value ↔ value = mask.stored deviceData := by
  have narrow : ∀ {width : Nat}, width < 32 → ∀ number : BitVec width,
      (value = .integer number.toNat ↔ value = (promoted number).value) := by
    intro width narrow number
    rw [promoted_value_of_lt narrow]
  cases mask with
  | deviceId => rw [Holds, stored, Argument.unsignedLong_value]
  | deviceUserName => exact Iff.rfl
  | deviceAddress => exact narrow (by decide) _
  | deviceMacAddress => exact absurd rfl notMacAddress
  | deviceIsOnline => exact narrow (by decide) _
  | deviceOnOff => exact narrow (by decide) _
  | deviceValue1 => exact narrow (by decide) _
  | deviceValue2 => exact narrow (by decide) _
  | deviceType => exact narrow (by decide) _
  | deviceAppend => exact Iff.rfl

theorem holds_macAddress_iff (deviceData : DeviceTable) :
    deviceMacAddress.Holds deviceData (deviceMacAddress.stored deviceData) ↔
      deviceData.macAddress.toNat < 2 ^ 63 ∨
        roundToDouble deviceData.macAddress.toNat = deviceData.macAddress.toNat := by
  rw [Holds, stored, Argument.value]
  by_cases small : deviceData.macAddress.toNat < 2 ^ 63
  · rw [numberLiteral_of_fits (by omega) (by omega)]
    exact iff_of_true (Or.inl rfl) (Or.inl small)
  · have large : ¬(-2 ^ 63 ≤ (deviceData.macAddress.toNat : Int) ∧
        (deviceData.macAddress.toNat : Int) < 2 ^ 63) := by
      omega
    rw [numberLiteral, if_neg large, or_iff_right Value.noConfusion, or_iff_right small,
      Value.real.injEq]

end DeviceMask

/-- A joined mask selects a bit when one of the constants has it. -/
theorem selects_maskcode (named : List DeviceMask) (bits : uint8) :
    selects (maskcode named) bits = true ↔
      ∃ mask ∈ named, selects (mask.code.setWidth 8) bits = true := by
  induction named with
  | nil =>
      simp only [List.not_mem_nil, false_and, exists_false, iff_false, Bool.not_eq_true]
      simp [selects, maskcode]
  | cons mask named induction =>
      have joined : maskcode (mask :: named) = mask.code.setWidth 8 ||| maskcode named :=
        BitVec.setWidth_or
      have either : ∀ left right : uint8, selects (left ||| right) bits = true ↔
          selects left bits = true ∨ selects right bits = true := by
        intro left right
        have none : (left ||| right) &&& bits = 0#8 ↔
            left &&& bits = 0#8 ∧ right &&& bits = 0#8 := by
          rw [BitVec.and_comm, BitVec.and_or_distrib_left, BitVec.or_eq_zero_iff]
          simp only [BitVec.and_comm]
        simp only [selects, bne_iff_ne, ne_eq]
        exact none.not.trans not_and_or
      rw [joined, either, induction, List.exists_mem_cons_iff]

theorem eq_three_iff (maskcode : uint8) :
    (maskcode == 0x03) = true ↔
      selects maskcode 0x01 = true ∧ selects maskcode 0x02 = true ∧
        ¬selects maskcode 0xFC = true := by
  revert maskcode
  decide

namespace DeviceMask

variable (named : List DeviceMask)

theorem selects_own_iff {bits : uint8} {own : DeviceMask}
    (isOwn : ∀ mask : DeviceMask, selects (mask.code.setWidth 8) bits = true ↔ mask = own) :
    selects (maskcode named) bits = true ↔ own ∈ named := by
  simp only [selects_maskcode, isOwn, exists_eq_right]

theorem selects_shared_iff {bits : uint8} {own : DeviceMask}
    (isOwn : ∀ mask : DeviceMask, selects (mask.code.setWidth 8) bits = true ↔
      mask = own ∨ mask = deviceAppend) :
    selects (maskcode named) bits = true ↔ own ∈ named ∨ deviceAppend ∈ named := by
  simp only [selects_maskcode, isOwn, and_or_left, exists_or, exists_eq_right]

theorem selected_deviceId :
    deviceId.selected (maskcode named) = true ↔ deviceId ∈ named ∨ deviceAppend ∈ named :=
  selects_shared_iff named (by rintro (_ | _) <;> decide)

theorem selected_deviceUserName :
    deviceUserName.selected (maskcode named) = true ↔
      deviceUserName ∈ named ∨ deviceAppend ∈ named :=
  selects_shared_iff named (by rintro (_ | _) <;> decide)

theorem selected_deviceType : deviceType.selected (maskcode named) = false := by
  have never : ∀ mask : uint8, deviceType.selected mask = false := by decide
  exact never _

theorem selected_deviceAppend :
    deviceAppend.selected (maskcode named) = true ↔
      (deviceId ∈ named ∨ deviceAppend ∈ named) ∧
        (deviceUserName ∈ named ∨ deviceAppend ∈ named) ∧ ¬NamesFurther named := by
  have further : selects (maskcode named) 0xFC = true ↔ NamesFurther named := by
    rw [selects_maskcode, NamesFurther]
    refine exists_congr fun mask => and_congr_right fun _ => ?_
    cases mask <;> decide
  rw [← further, ← selected_deviceId, ← selected_deviceUserName]
  exact eq_three_iff (maskcode named)

theorem selected_further {mask : DeviceMask} (isFurther : mask ∈ [deviceAddress, deviceMacAddress,
    deviceIsOnline, deviceOnOff, deviceValue1, deviceValue2]) :
    mask.selected (maskcode named) = true ↔ mask ∈ named := by
  fin_cases isFurther <;> exact selects_own_iff named (by rintro (_ | _) <;> decide)

end DeviceMask

/-! ## One row -/

section Row

variable (deviceData : DeviceTable)

/-- The columns that an update sets. -/
def selectedFields (maskcode : uint8) : List Field :=
  ((deviceTableUpdateColumns deviceData maskcode).filter Prod.fst).map Prod.snd

theorem selectedFields_eq (maskcode : uint8) :
    selectedFields deviceData maskcode =
      (DeviceMask.order.filter fun mask => mask.selected maskcode).map fun mask =>
        (mask.position, mask.stored deviceData) := by
  have columns : deviceTableUpdateColumns deviceData maskcode = DeviceMask.order.map fun mask =>
      (mask.selected maskcode, (mask.position, mask.stored deviceData)) := rfl
  rw [selectedFields, columns, List.filter_map, List.map_map]
  rfl

theorem mem_selectedFields {maskcode : uint8} {field : Field}
    (member : field ∈ selectedFields deviceData maskcode) :
    ∃ mask : DeviceMask, mask.selected maskcode = true ∧
      field = (mask.position, mask.stored deviceData) := by
  rw [selectedFields_eq] at member
  obtain ⟨mask, inside, rfl⟩ := List.mem_map.mp member
  exact ⟨mask, (List.mem_filter.mp inside).2, rfl⟩

/-- The row after an update of its address. -/
def updateRow (maskcode : uint8) (row : Row) : Row :=
  (selectedFields deviceData maskcode).foldl Row.set row

theorem updateRow_column (maskcode : uint8) (row : Row) (mask : DeviceMask) :
    (updateRow deviceData maskcode row).column mask.position =
      if mask.selected maskcode then mask.stored deviceData else row.column mask.position := by
  split_ifs with isSelected
  · have member : (mask.position, mask.stored deviceData) ∈
        selectedFields deviceData maskcode := by
      rw [selectedFields_eq]
      exact List.mem_map.mpr ⟨mask, List.mem_filter.mpr ⟨mask.mem_order, isSelected⟩, rfl⟩
    apply row.column_foldl_set_of_mem _ _ member
    · rw [selectedFields_eq, List.map_map]
      have distinct : (DeviceMask.order.map DeviceMask.position).Nodup := by decide
      exact distinct.sublist (List.filter_sublist.map _)
    · intro field inside
      obtain ⟨other, -, rfl⟩ := mem_selectedFields deviceData inside
      exact other.position_ne_zero
  · apply row.column_foldl_set_of_ne
    intro field inside same
    obtain ⟨other, otherSelected, rfl⟩ := mem_selectedFields deviceData inside
    exact isSelected (DeviceMask.position_injective same ▸ otherSelected)

theorem updateRow_column_of_ne (maskcode : uint8) (row : Row) {position : Nat}
    (isOther : ∀ mask : DeviceMask, mask.position ≠ position) :
    (updateRow deviceData maskcode row).column position = row.column position := by
  apply row.column_foldl_set_of_ne
  intro field inside same
  obtain ⟨mask, -, rfl⟩ := mem_selectedFields deviceData inside
  exact isOther mask same.symm

variable (named : List DeviceMask) (row : Row)

/-- The change of a row, constant by constant. -/
def RightColumn (mask : DeviceMask) : Prop :=
  (mask ∈ named → mask.Holds deviceData
    ((updateRow deviceData (maskcode named) row).column mask.position)) ∧
    (mask ∉ named →
      (updateRow deviceData (maskcode named) row).column mask.position =
        row.column mask.position)

theorem changedAsNamed_updateRow_iff :
    ChangedAsNamed deviceData named row (updateRow deviceData (maskcode named) row) ↔
      ∀ mask, RightColumn deviceData named row mask := by
  constructor
  · intro changed mask
    refine ⟨changed.values mask, fun notNamed => changed.others _ fun other isNamed same => ?_⟩
    exact notNamed (DeviceMask.position_injective same ▸ isNamed)
  · intro right
    refine ⟨fun mask => (right mask).1, fun position notNamed => ?_⟩
    by_cases isColumn : ∃ mask : DeviceMask, mask.position = position
    · obtain ⟨mask, rfl⟩ := isColumn
      exact (right mask).2 fun isNamed => notNamed mask isNamed rfl
    · exact updateRow_column_of_ne deviceData _ row fun mask same => isColumn ⟨mask, same⟩

theorem rightColumn_iff {mask : DeviceMask} (notMacAddress : mask ≠ .deviceMacAddress) :
    RightColumn deviceData named row mask ↔
      (mask ∈ named ↔ mask.selected (maskcode named) = true) ∨
        row.column mask.position = mask.stored deviceData := by
  rw [RightColumn, updateRow_column, mask.holds_iff deviceData notMacAddress]
  split_ifs with isSelected
  · rw [iff_true_intro isSelected, eq_comm (a := mask.stored deviceData)]
    tauto
  · rw [iff_false_intro isSelected]
    tauto

theorem rightColumn_macAddress_iff :
    RightColumn deviceData named row .deviceMacAddress ↔
      (.deviceMacAddress ∈ named → deviceData.macAddress.toNat < 2 ^ 63 ∨
        roundToDouble deviceData.macAddress.toNat = deviceData.macAddress.toNat) := by
  have isSelected := @DeviceMask.selected_further named .deviceMacAddress (by decide)
  rw [RightColumn, updateRow_column, ← DeviceMask.holds_macAddress_iff]
  by_cases isNamed : DeviceMask.deviceMacAddress ∈ named
  · rw [if_pos (isSelected.mpr isNamed)]
    exact ⟨And.left, fun holds => ⟨holds, fun notNamed => absurd isNamed notNamed⟩⟩
  · rw [if_neg (isSelected.not.mpr isNamed)]
    exact iff_of_true ⟨fun member => absurd member isNamed, fun _ => rfl⟩
      fun member => absurd member isNamed

theorem rightColumn_deviceId_iff :
    RightColumn deviceData named row .deviceId ↔
      (.deviceAppend ∈ named → .deviceId ∉ named →
        row.column 1 = .integer deviceData.deviceId.toNat) := by
  have right := @rightColumn_iff deviceData named row .deviceId (by decide)
  rw [DeviceMask.selected_deviceId, ← DeviceMask.holds_iff deviceData (by decide)] at right
  rw [right, DeviceMask.position, DeviceMask.Holds]
  tauto

theorem rightColumn_userName_iff :
    RightColumn deviceData named row .deviceUserName ↔
      (.deviceAppend ∈ named → .deviceUserName ∉ named →
        row.column 3 = .text (cString deviceData.userName)) := by
  rw [rightColumn_iff deviceData named row (by decide), DeviceMask.selected_deviceUserName,
    DeviceMask.position, DeviceMask.stored]
  tauto

theorem rightColumn_deviceType_iff :
    RightColumn deviceData named row .deviceType ↔
      (.deviceType ∈ named → row.column 7 = .integer deviceData.deviceType.toNat) := by
  have right := @rightColumn_iff deviceData named row .deviceType (by decide)
  rw [DeviceMask.selected_deviceType, ← DeviceMask.holds_iff deviceData (by decide)] at right
  rw [right, DeviceMask.position, DeviceMask.Holds]
  tauto

theorem rightColumn_append_iff :
    RightColumn deviceData named row .deviceAppend ↔
      (.deviceAppend ∈ named → NamesFurther named →
          row.column 12 = .text (cString deviceData.deviceAppendstr)) ∧
        (.deviceId ∈ named → .deviceUserName ∈ named → .deviceAppend ∉ named →
          ¬NamesFurther named →
            row.column 12 = .text (cString deviceData.deviceAppendstr)) := by
  rw [rightColumn_iff deviceData named row (by decide), DeviceMask.selected_deviceAppend,
    DeviceMask.position, DeviceMask.stored]
  tauto

theorem rightColumn_further {mask : DeviceMask} (notMacAddress : mask ≠ .deviceMacAddress)
    (isFurther : mask ∈ [DeviceMask.deviceAddress, .deviceMacAddress, .deviceIsOnline,
      .deviceOnOff, .deviceValue1, .deviceValue2]) :
    RightColumn deviceData named row mask :=
  (rightColumn_iff deviceData named row notMacAddress).mpr
    (Or.inl (DeviceMask.selected_further named isFurther).symm)

theorem changedAsNamed_iff :
    ChangedAsNamed deviceData named row (updateRow deviceData (maskcode named) row) ↔
      MaskSuffices deviceData named row := by
  rw [changedAsNamed_updateRow_iff]
  constructor
  · intro right
    obtain ⟨withFurther, withoutAppend⟩ := (rightColumn_append_iff _ _ _).mp (right _)
    constructor
    · exact (rightColumn_macAddress_iff _ _ _).mp (right _)
    · exact (rightColumn_deviceType_iff _ _ _).mp (right _)
    · exact (rightColumn_deviceId_iff _ _ _).mp (right _)
    · exact (rightColumn_userName_iff _ _ _).mp (right _)
    · exact withFurther
    · exact withoutAppend
  · intro holds mask
    cases mask with
    | deviceId => exact (rightColumn_deviceId_iff _ _ _).mpr holds.deviceId
    | deviceUserName => exact (rightColumn_userName_iff _ _ _).mpr holds.userName
    | deviceAddress => exact rightColumn_further _ _ _ (by decide) (by decide)
    | deviceMacAddress => exact (rightColumn_macAddress_iff _ _ _).mpr holds.macAddress
    | deviceIsOnline => exact rightColumn_further _ _ _ (by decide) (by decide)
    | deviceOnOff => exact rightColumn_further _ _ _ (by decide) (by decide)
    | deviceValue1 => exact rightColumn_further _ _ _ (by decide) (by decide)
    | deviceValue2 => exact rightColumn_further _ _ _ (by decide) (by decide)
    | deviceType => exact (rightColumn_deviceType_iff _ _ _).mpr holds.deviceType
    | deviceAppend =>
        exact (rightColumn_append_iff _ _ _).mpr ⟨holds.withFurther, holds.withoutAppend⟩

end Row

/-! ## The whole update -/

section Update

variable {layout : Layout} {environment : Environment layout.schema}

theorem runUpdate_of_success {table : TableName} {key : Field} {steps : List UpdateStep}
    {columns : List (Bool × Field)} (sets : List.Forall₂ (Sets layout table key) steps columns)
    (failures : ∀ step ∈ steps, step.failure ≠ .success)
    (safe : ∀ command ∈ selectedCommands steps, Safe command) {session : Session TableName}
    (success : (runUpdate environment steps session).1 = .success) :
    (runUpdate environment steps session).2.connection =
      ((columns.filter Prod.fst).map Prod.snd).foldl (fun connection field =>
        (Statement.update table field (some key)).apply layout.schema connection)
          session.connection := by
  induction sets generalizing session with
  | nil => rfl
  | @cons step column steps columns first _ induction =>
      have later := fun other member => failures other (List.mem_cons_of_mem _ member)
      rw [runUpdate] at success ⊢
      by_cases selected : step.selected = true
      · have isColumn : column.1 = true := first.1.symm.trans selected
        rw [selectedCommands, List.filter_cons_of_pos selected, List.map_cons] at safe
        rw [if_pos selected] at success ⊢
        dsimp only at success ⊢
        rw [List.filter_cons_of_pos isColumn, List.map_cons, List.foldl_cons]
        have executed := @runCommand_cases _ environment _ (safe _ List.mem_cons_self) _ first.2
          session
        rcases executed with ⟨done, ran⟩ | ⟨failed, -⟩
        · rw [if_pos done] at success ⊢
          rw [(Statement.run_eq_some.mp ran).2]
          exact induction later (fun command member => safe command
            (List.mem_cons_of_mem _ member)) success
        · rw [failed] at success
          exact absurd success (failures step List.mem_cons_self)
      · have notColumn : ¬column.1 = true := first.1 ▸ selected
        rw [selectedCommands, List.filter_cons_of_neg selected] at safe
        rw [if_neg selected] at success ⊢
        rw [List.filter_cons_of_neg notColumn]
        exact induction later safe success

theorem deviceTableUpdateSteps_failures (deviceData : DeviceTable) (maskcode : uint8) :
    ∀ step ∈ deviceTableUpdateSteps deviceData maskcode, step.failure ≠ .success := by
  simp [deviceTableUpdateSteps]

theorem deviceTableUpdateSteps_quoteFree {deviceData : DeviceTable}
    (noQuotes : NoQuotes deviceData) (maskcode : uint8) :
    ∀ step ∈ deviceTableUpdateSteps deviceData maskcode, QuoteFree step.command.arguments := by
  have update : ∀ assignment argument,
      (∀ characters, argument = .string characters → '\'' ∉ cString characters) →
        QuoteFree (deviceTableUpdateCommand assignment argument deviceData).arguments := by
    intro assignment argument noQuote characters member
    rcases List.mem_cons.mp member with isArgument | isAddress
    · exact noQuote characters isArgument.symm
    · rw [Argument.string.inj (List.mem_singleton.mp isAddress)]
      exact noQuotes.deviceIpv6
  intro step member
  simp only [deviceTableUpdateSteps, List.mem_cons, List.not_mem_nil, or_false] at member
  rcases member with rfl | rfl | rfl | rfl | rfl | rfl | rfl | rfl | rfl | rfl <;>
    (apply update; intro characters same; cases same)
  · exact noQuotes.userName
  · exact noQuotes.deviceAppendstr

theorem deviceTableUpdate_of_success {deviceData : DeviceTable} (noQuotes : NoQuotes deviceData)
    {maskcode : uint8} (fits : UpdateFits deviceData maskcode) {session : Session TableName}
    (success : (deviceTableUpdate environment deviceData maskcode session).1 = .success) :
    let after := (deviceTableUpdate environment deviceData maskcode session).2.connection
    (after.tables .deviceTable).rows = (devices session).map (fun row =>
        if row.satisfies (some (5, addressKey deviceData)) then
          updateRow deviceData maskcode row
        else row) ∧
      ∀ table, table ≠ .deviceTable → after.tables table = session.connection.tables table := by
  have safe : ∀ command ∈ selectedCommands (deviceTableUpdateSteps deviceData maskcode),
      Safe command := by
    intro command member
    obtain ⟨step, inside, rfl⟩ := List.mem_map.mp member
    exact ⟨deviceTableUpdateSteps_quoteFree noQuotes maskcode step (List.mem_of_mem_filter inside),
      fits _ member⟩
  have done := runUpdate_of_success (deviceTableUpdateSteps_sets deviceData maskcode)
    (deviceTableUpdateSteps_failures deviceData maskcode) safe success
  rw [deviceTableUpdate, done]
  apply foldl_update
  intro field member
  obtain ⟨mask, -, rfl⟩ := mem_selectedFields deviceData member
  exact fun same => mask.position_ne_address same.symm

theorem updatesNamed_iff {deviceData : DeviceTable} (noQuotes : NoQuotes deviceData)
    {named : List DeviceMask} (fits : UpdateFits deviceData (maskcode named))
    {session : Session TableName}
    (success : (deviceTableUpdate environment deviceData (maskcode named) session).1 = .success) :
    UpdatesNamed deviceData named session.connection
        (deviceTableUpdate environment deviceData (maskcode named) session).2.connection ↔
      ∀ row ∈ devices session, row.column 5 = addressKey deviceData →
        MaskSuffices deviceData named row := by
  obtain ⟨rows, others⟩ := deviceTableUpdate_of_success noQuotes fits success
  have each : ∀ row : Row,
      ((row.column 5 = addressKey deviceData → ChangedAsNamed deviceData named row
          (if row.satisfies (some (5, addressKey deviceData)) then
            updateRow deviceData (maskcode named) row else row)) ∧
        (row.column 5 ≠ addressKey deviceData →
          (if row.satisfies (some (5, addressKey deviceData)) then
            updateRow deviceData (maskcode named) row else row) = row)) ↔
        (row.column 5 = addressKey deviceData → MaskSuffices deviceData named row) := by
    intro row
    by_cases isMeant : row.column 5 = addressKey deviceData
    · have satisfied : row.satisfies (some (5, addressKey deviceData)) = true :=
        decide_eq_true isMeant
      rw [if_pos satisfied, changedAsNamed_iff]
      exact and_iff_left fun isOther => absurd isMeant isOther
    · have notSatisfied : ¬row.satisfies (some (5, addressKey deviceData)) = true :=
        fun satisfied => isMeant (of_decide_eq_true satisfied)
      rw [if_neg notSatisfied]
      exact iff_of_true ⟨fun same => absurd same isMeant, fun _ => rfl⟩
        fun same => absurd same isMeant
  constructor
  · intro updates row member
    have changes := updates.devices
    rw [rows, devices, List.forall₂_map_right_iff, List.forall₂_same] at changes
    exact (each row).mp (changes row member)
  · intro enough
    refine ⟨?_, others⟩
    rw [rows, devices, List.forall₂_map_right_iff, List.forall₂_same]
    exact fun row member => (each row).mpr (enough row member)

/-- A successful update is defined and changes the named columns exactly when its
commands fit and its mask says what the constants say, but for values that are there
already. -/
theorem deviceTableUpdate_named_iff {deviceData : DeviceTable} (noQuotes : NoQuotes deviceData)
    {named : List DeviceMask} {session : Session TableName}
    (success : (deviceTableUpdate environment deviceData (maskcode named) session).1 = .success) :
    UpdateFits deviceData (maskcode named) ∧
        UpdatesNamed deviceData named session.connection
          (deviceTableUpdate environment deviceData (maskcode named) session).2.connection ↔
      UpdateFits deviceData (maskcode named) ∧
        ∀ row ∈ devices session, row.column 5 = addressKey deviceData →
          MaskSuffices deviceData named row :=
  and_congr_right fun fits => updatesNamed_iff noQuotes fits success

end Update

/-! ## A switch -/

/-- The record of a device that was added with the type 0. -/
def switch : DeviceTable :=
  { deviceAt "fd00::1" with deviceType := 1, deviceAppendstr := "hall".toList }

def withSwitch : Session TableName :=
  performed (Environment.plain Layout.shipped.schema) Session.empty
    [.deviceTableAddRecord (deviceAt "fd00::1")]

theorem switch_noQuotes : NoQuotes switch := ⟨by decide, by decide, by decide⟩

theorem deviceTableUpdate_named_iff_switch :
    UpdateFits switch (maskcode [.deviceType]) ∧
        UpdatesNamed switch [.deviceType] withSwitch.connection
          (deviceTableUpdate (Environment.plain Layout.shipped.schema) switch
            (maskcode [.deviceType]) withSwitch).2.connection ↔
      UpdateFits switch (maskcode [.deviceType]) ∧
        ∀ row ∈ devices withSwitch, row.column 5 = addressKey switch →
          MaskSuffices switch [.deviceType] row :=
  deviceTableUpdate_named_iff switch_noQuotes (by decide +kernel)

/-- An update of the switch succeeds and does not do what its constants say. -/
def SwitchMissed (named : List DeviceMask) : Prop :=
  let done := deviceTableUpdate (Environment.plain Layout.shipped.schema) switch (maskcode named)
    withSwitch
  done.1 = .success ∧ ¬UpdatesNamed switch named withSwitch.connection done.2.connection

theorem withSwitch_row : ∃ row ∈ devices withSwitch, row.column 5 = addressKey switch ∧
    row.column 7 = .integer 0 ∧ row.column 12 = .text [] := by
  have stored : (devices withSwitch).map
      (fun row => (row.column 5, row.column 7, row.column 12)) =
        [(addressKey switch, .integer 0, .text [])] := by
    decide +kernel
  obtain ⟨row, member, same⟩ := List.mem_map.mp
    (stored.symm ▸ List.mem_singleton_self (addressKey switch, Value.integer 0, Value.text []))
  simp only [Prod.mk.injEq] at same
  exact ⟨row, member, same⟩

theorem switchMissed_of_row {named : List DeviceMask}
    (success : (deviceTableUpdate (Environment.plain Layout.shipped.schema) switch
      (maskcode named) withSwitch).1 = .success)
    (fits : UpdateFits switch (maskcode named)) {row : Row} (member : row ∈ devices withSwitch)
    (isSwitch : row.column 5 = addressKey switch) (notEnough : ¬MaskSuffices switch named row) :
    SwitchMissed named :=
  ⟨success, fun updates =>
    notEnough ((updatesNamed_iff switch_noQuotes fits success).mp updates row member isSwitch)⟩

/-- The type is not set, and with the id and the user name the appended string is. -/
theorem deviceTableUpdate_named_fails :
    SwitchMissed [.deviceType] ∧ SwitchMissed [.deviceId, .deviceUserName] := by
  obtain ⟨row, member, isSwitch, isType, isAppended⟩ := withSwitch_row
  constructor
  · apply switchMissed_of_row (by decide +kernel) _ member isSwitch
    · intro enough
      have isOne := enough.deviceType (by decide)
      rw [isType] at isOne
      revert isOne
      decide
    · rw [UpdateFits]
      decide +kernel
  · apply switchMissed_of_row (by decide +kernel) _ member isSwitch
    · intro enough
      have notFurther : ¬NamesFurther [.deviceId, .deviceUserName] := by
        rw [NamesFurther]
        decide
      have isHall := enough.withoutAppend (by decide) (by decide) (by decide) notFurther
      rw [isAppended] at isHall
      revert isHall
      decide
    · rw [UpdateFits]
      decide +kernel

end StudyDemo.Sqlite
