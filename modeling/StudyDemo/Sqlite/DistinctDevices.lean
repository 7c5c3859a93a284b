import StudyDemo.Foundation.Distinct
import StudyDemo.Sqlite.ProfileDevices

/-! # Distinct devices

`ProfileDeviceListSearch` compares each device with those it has listed already. Its
list has the first row of each address, in the order in which the rows are reached. -/

namespace StudyDemo.Sqlite

open Sql Distinct

section Searches

variable {layout : Layout} {environment : Environment layout.schema}

theorem addressOf_deviceOfRow (engine : Engine layout.schema) (row : Row) :
    cString (deviceOfRow engine row).deviceIpv6 = addressOf engine row :=
  cString_memcpy_zeros _ _

theorem foldl_addNew_devices (engine : Engine layout.schema) (rows : List Row) :
    rows.foldl (fun list device => Sqlite.addNew engine device list) [] =
      (firstOccurrences (addressOf engine) [] rows).map (deviceOfRow engine) := by
  have loop := @foldl_addNew _ _ _ _ (deviceOfRow engine)
    (fun device => cString device.deviceIpv6) [] [] rows fun _ => Iff.rfl
  rw [List.nil_append] at loop
  simp only [addressOf_deviceOfRow] at loop
  exact loop

theorem map_deviceIpv6 (engine : Engine layout.schema) (rows : List Row) :
    (rows.map (deviceOfRow engine)).map (fun device => cString device.deviceIpv6) =
      rows.map (addressOf engine) := by
  rw [List.map_map]
  exact List.map_congr_left fun row _ => addressOf_deviceOfRow engine row

/-- The search lists the reached rows whose address was not reached earlier. No address
is listed twice, and none that is reached is left out. -/
theorem profileDeviceListSearch_firstOccurrences (faultless : environment.Faultless)
    (profileId : uint16) (session : Session TableName) :
    let found := (profileDeviceListSearch environment profileId session).1
    let reached := reachedDevices environment profileId session.connection
    let kept := firstOccurrences (addressOf environment.engine) [] reached
    found = (.success, kept.map (deviceOfRow environment.engine)) ∧ kept.Sublist reached ∧
      (found.2.map fun device => cString device.deviceIpv6).Nodup ∧
      ∀ row ∈ reached,
        addressOf environment.engine row ∈ found.2.map fun device => cString device.deviceIpv6 := by
  dsimp only
  rw [profileDeviceListSearch_of_faultless faultless, foldl_addNew_devices, map_deviceIpv6]
  refine ⟨rfl, firstOccurrences_sublist _ _ _, nodup_map_firstOccurrences _ _ _, ?_⟩
  intro row member
  exact (mem_map_firstOccurrences _ _ _ _).mpr
    ⟨List.mem_map_of_mem member, List.not_mem_nil⟩

end Searches

/-- The profile lists its scene once more, and reaches the device a second time. -/
def eveningTwice : List Operation :=
  eveningScene 1 ++ [.profileListTableAddRecord ⟨0, ⟨1, 1, "8:00".toList, 1, 0⟩,
    ⟨1, 1, "Evening".toList, [], [], [], [], []⟩⟩]

theorem eveningTwice_safe : ∀ operation ∈ eveningTwice, operation.Safe := by
  intro operation member
  rcases List.mem_append.mp member with before | last
  · exact eveningScene_safe 1 operation before
  · rw [List.mem_singleton.mp last]
    exact profileListTableAddRecord_safe _

/-- What the operations leave in the tables. -/
def twiceTables : Option (Connection TableName) :=
  (eveningTwice.flatMap (Operation.statements 0)).foldlM
    (fun connection statement => statement.run Layout.shipped.schema connection)
    Session.empty.connection

theorem eveningTwice_connection (runs : twiceTables.isSome) :
    (performed (Environment.plain Layout.shipped.schema) Session.empty
      eveningTwice).connection = twiceTables.get runs := by
  apply performed_of_runs Environment.plain_faultless eveningTwice_safe
  · intro operation member
    simp only [eveningTwice, eveningScene, List.mem_append, List.mem_cons, List.not_mem_nil,
      or_false] at member
    rcases member with (rfl | rfl | rfl | rfl | rfl | rfl) | rfl <;> exact TableName.noConfusion
  · exact (Option.some_get runs).symm

theorem eveningTwice_reached :
    let environment := Environment.plain Layout.shipped.schema
    (reachedDevices environment 1 (performed environment Session.empty
      eveningTwice).connection).map (addressOf environment.engine) =
        ["fd00::1".toList, "fd00::1".toList] := by
  intro environment
  rw [eveningTwice_connection (by decide +kernel)]
  decide +kernel

theorem profileDeviceListSearch_firstOccurrences_evening :
    let environment := Environment.plain Layout.shipped.schema
    let session := performed environment Session.empty eveningTwice
    let found := (profileDeviceListSearch environment 1 session).1
    let reached := reachedDevices environment 1 session.connection
    let kept := firstOccurrences (addressOf environment.engine) [] reached
    (found = (.success, kept.map (deviceOfRow environment.engine)) ∧ kept.Sublist reached ∧
      (found.2.map fun device => cString device.deviceIpv6).Nodup ∧
      ∀ row ∈ reached,
        addressOf environment.engine row ∈
          found.2.map fun device => cString device.deviceIpv6) ∧
    reached.map (addressOf environment.engine) = ["fd00::1".toList, "fd00::1".toList] := by
  have twice := eveningTwice_reached
  dsimp only at twice ⊢
  exact ⟨profileDeviceListSearch_firstOccurrences Environment.plain_faultless 1 _, twice⟩

end StudyDemo.Sqlite
