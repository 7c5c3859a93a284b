import StudyDemo.Sqlite.Operations

/-! # Commands that fit

A command is safe when its strings have no quote and are short. Numbers are never too
long for the buffer. -/

namespace StudyDemo.Sqlite

open Sql

theorem safe_of_numbers {command : Command}
    (numbers : ∀ argument ∈ command.arguments, ∀ characters, argument ≠ .string characters)
    (short : (pieces (command.format.flatMap String.toList)).length +
      (command.arguments.map Argument.width).sum < commandSize) : Safe command :=
  safe_of_width (fun characters member => absurd rfl (numbers _ member characters)) short

theorem safe_of_pair {command : Command} {first second : uint32}
    (isPair : command.arguments = [.int first, .int second])
    (short : (pieces (command.format.flatMap String.toList)).length < 900) : Safe command := by
  apply safe_of_numbers
  · intro argument member characters
    rw [isPair] at member
    rcases List.mem_cons.mp member with rfl | isSecond
    · exact Argument.noConfusion
    · rw [List.mem_singleton.mp isSecond]
      exact Argument.noConfusion
  · have width : (command.arguments.map Argument.width).sum = 22 := by
      rw [isPair]
      rfl
    rw [width, commandSize]
    omega

namespace Operation

theorem safe_of_command {operation : Operation} {command : Command}
    (only : ∀ groupId, operation.commands groupId = [command]) (safe : Sqlite.Safe command) :
    operation.Safe := by
  intro groupId other member
  rw [only, List.mem_singleton] at member
  exact member ▸ safe

end Operation

/-! ## Links -/

theorem sceneDeviceTableAddRecord_safe (sceneDeviceData : SceneDeviceTable) :
    (Operation.sceneDeviceTableAddRecord sceneDeviceData).Safe := by
  have format : (pieces ((sceneDeviceTableAddCommand sceneDeviceData).format.flatMap
      String.toList)).length = 66 := by rfl
  apply Operation.safe_of_command fun _ => rfl
  apply safe_of_pair rfl
  rw [format]
  decide

theorem profileListTableAddRecord_safe (profileListData : ProfileListTable) :
    (Operation.profileListTableAddRecord profileListData).Safe := by
  have format : (pieces ((profileListTableAddCommand profileListData).format.flatMap
      String.toList)).length = 61 := by rfl
  apply Operation.safe_of_command fun _ => rfl
  apply safe_of_pair rfl
  rw [format]
  decide

theorem roomListTableAddRecord_safe (entry : RoomListTable) :
    (Operation.roomListTableAddRecord entry).Safe := by
  have format : (pieces ((roomListTableAddCommand entry).format.flatMap
      String.toList)).length = 56 := by rfl
  apply Operation.safe_of_command fun _ => rfl
  apply safe_of_pair rfl
  rw [format]
  decide

/-! ## Records with strings -/

theorem sceneTableAddRecord_safe {sceneData : SceneTable}
    (noQuote : '\'' ∉ cString sceneData.timeSpan)
    (short : (cString sceneData.timeSpan).length < 900) :
    (Operation.sceneTableAddRecord sceneData).Safe := by
  apply Operation.safe_of_command fun _ => rfl
  apply safe_of_width
  · intro characters isString
    simp only [sceneTableAddCommand, promoted, List.mem_cons, List.not_mem_nil, or_false,
      reduceCtorEq, false_or, or_self, Argument.string.injEq] at isString
    rw [isString]
    exact noQuote
  · have format : (pieces ((sceneTableAddCommand sceneData).format.flatMap
        String.toList)).length = 76 := by rfl
    have arguments : ((sceneTableAddCommand sceneData).arguments.map Argument.width).sum =
        11 + ((cString sceneData.timeSpan).length + 22) := rfl
    rw [format, arguments, commandSize]
    omega

theorem roomTableAddRecord_safe {roomData : RoomTable} (noQuote : '\'' ∉ cString roomData.roomName)
    (short : (cString roomData.roomName).length < 900) :
    (Operation.roomTableAddRecord roomData).Safe := by
  intro groupId command member
  rw [List.mem_singleton.mp member]
  apply safe_of_width
  · intro characters isString
    rcases List.mem_cons.mp isString with isName | isNumber
    · rw [Argument.string.inj isName]
      exact noQuote
    · cases List.mem_singleton.mp isNumber
  · have format : (pieces ((roomTableAddCommand { roomData with groupId }).format.flatMap
        String.toList)).length = 54 := by rfl
    have arguments : ((roomTableAddCommand { roomData with groupId }).arguments.map
        Argument.width).sum = (cString roomData.roomName).length + 10 := rfl
    rw [format, arguments, commandSize]
    omega

theorem deviceTableAddRecord_safe {deviceData : DeviceTable}
    (noQuotes : ∀ characters ∈ [deviceData.deviceName, deviceData.userName,
      deviceData.deviceIpv6, deviceData.deviceAppendstr], '\'' ∉ cString characters)
    (short : (cString deviceData.deviceName).length + (cString deviceData.userName).length +
      (cString deviceData.deviceIpv6).length + (cString deviceData.deviceAppendstr).length < 700) :
    (Operation.deviceTableAddRecord deviceData).Safe := by
  apply Operation.safe_of_command fun _ => rfl
  apply safe_of_width
  · intro characters isString
    apply noQuotes
    simp only [deviceTableAddCommand, promoted, List.mem_cons, List.not_mem_nil, or_false,
      reduceCtorEq, false_or, Argument.string.injEq] at isString ⊢
    exact isString
  · have format : (pieces ((deviceTableAddCommand deviceData).format.flatMap
        String.toList)).length = 201 := by rfl
    have arguments : ((deviceTableAddCommand deviceData).arguments.map Argument.width).sum =
        10 + ((cString deviceData.deviceName).length + ((cString deviceData.userName).length +
          (11 + ((cString deviceData.deviceIpv6).length + (20 + (11 + (11 + (11 + (11 + (11 +
            (cString deviceData.deviceAppendstr).length)))))))))) := rfl
    rw [format, arguments, commandSize]
    omega

end StudyDemo.Sqlite
