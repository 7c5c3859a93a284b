import StudyDemo.SerialLink.Corruption

/-! # The command tool

`main` of the command tool asks for a command number, copies the message of that number
out of a table into a buffer and prints its frame. Each message states the length of its
payload in its bytes 2 and 3; the frame has as many bytes as the array. -/

namespace StudyDemo.SerialLink

/-- `LinkMessage_t`. The array that `message` points to is kept in the entry. -/
structure LinkEntry where
  index : uint32
  message : List uint8
  length : uint8
  deriving DecidableEq

/-- An entry with the `sizeof` of its array. -/
def linkEntry (index : uint32) (message : List uint8) : LinkEntry :=
  ⟨index, message, BitVec.ofNat 8 message.length⟩

/-! ## The messages -/

def eSlMsgReadAttributeRequest : uint32 := 0x0100

def eZclAmBroadcast : uint8 := 4

def permitJoiningRequest : List uint8 := [0x00, 0x49, 0x00, 0x04, 0x00, 0xff, 0xfc, 0x64, 0x00]

def readAttributeRequest : List uint8 :=
  [0x01, 0x00, 0x00, 14, 0x00, eZclAmBroadcast, 0xff, 0xfe, 0x01, 0x01, 0x00, 0x00, 0x00, 0x00,
    0x00, 0x00, 0x01, 0x00, 0x00]

def writeAttributeRequest : List uint8 :=
  [0x04, 0x00, 0x00, 18, 0x00, eZclAmBroadcast, 0xff, 0xfe, 0x01, 0x01, 0x04, 0x00, 0x00, 0x00,
    0x00, 0x00, 0x01, 0x00, 0x01]

def onOffLight : List uint8 :=
  [0x00, 0x92, 0x00, 0x06, 0x00, eZclAmBroadcast, 0xff, 0xfe, 0x01, 0x02, 0x00]

def sceneRequest (type : uint8) : List uint8 :=
  [0x00, type, 0x00, 0x09, 0x00, eZclAmBroadcast, 0xff, 0xfe, 0x01, 0x01, 0x00, 0x00]

def viewScene : List uint8 := sceneRequest 0xa0

def sotreScene : List uint8 := sceneRequest 0xa4

def removeScene : List uint8 := sceneRequest 0xa2

def recallScene : List uint8 := sceneRequest 0xa5

def bindRequest : List uint8 :=
  [0x00, 0x30, 0x00, 21, 0x00, 0x00, 0x15, 0x8d, 0x00, 0x00, 0x35, 0xf4, 0x2f, 0x01, 0x00, 0x06,
    0x03, 0x00, 0x15, 0x8d, 0x00, 0x00, 0x53, 0x66, 0x4a, 0x01]

def moveHueToSaturation : List uint8 :=
  [0x00, 0xb3, 0x00, 0x08, 0x00, eZclAmBroadcast, 0xff, 0xfe, 0x01, 0x01]

def matchDescriptorRequest : List uint8 :=
  [0x00, 0x46, 0x00, 0x08, 0x00, 0xff, 0xfd, 0x01, 0x04, 0x01, 0x00, 0x05, 0x01]

def moveToHueAndStaturation : List uint8 :=
  [0x00, 0xb6, 0x00, 0x09, 0x00, eZclAmBroadcast, 0xff, 0xfd, 0x01, 0x01, 87, 0xff, 0x00, 0x05]

def moveToColor : List uint8 :=
  [0x00, 0xb7, 0x00, 11, 0x00, eZclAmBroadcast, 0xff, 0xfd, 0x01, 0x01, 0x00, 0xff, 0x00, 0xff,
    0x00, 0x05]

def moveToHue : List uint8 :=
  [0x00, 0xb0, 0x00, 0x09, 0x00, eZclAmBroadcast, 0xff, 0xfd, 0x01, 0x01, 0xaa, 0x01, 0x00, 0x05]

def erasePersistentData : List uint8 := [0x00, 0x12, 0x00, 0x00, 0x00]

def reset : List uint8 := [0x00, 0x11, 0x00, 0x00, 0x00]

def getVersion : List uint8 := [0x00, 0x10, 0x00, 0x00, 0x00]

def setExtendedPanID : List uint8 :=
  [0x00, 0x20, 0x00, 0x08, 0x00, 0x00, 0x00, 0x00, 0x00, 0x00, 0x00, 0x00, 0x00]

def setChannelMask : List uint8 := [0x00, 0x21, 0x00, 0x04, 0x00, 0x00, 0x00, 0x00, 0x0f]

def setSecurityAndKey : List uint8 := [0x00, 0x22, 0x00, 0x02, 0x00, 0x00, 0x00]

def setDeviceType : List uint8 := [0x00, 0x23, 0x00, 0x01, 0x00, 0x00]

def startNetwork : List uint8 := [0x00, 0x24, 0x00, 0x00, 0x00]

def manageLeaveDevice : List uint8 :=
  [0x00, 0x47, 0x00, 11, 0x00, 0x70, 0x9f, 0x00, 0x15, 0x8d, 0x00, 0x00, 0x53, 0x66, 0x32]

/-- The table, as the program starts with it. -/
def linkMessage : List LinkEntry :=
  [linkEntry 0x0049 permitJoiningRequest,
    linkEntry eSlMsgReadAttributeRequest readAttributeRequest,
    linkEntry 0x0092 onOffLight,
    linkEntry 0x00a4 sotreScene,
    linkEntry 0x00a0 viewScene,
    linkEntry 0x00a2 removeScene,
    linkEntry 0x00a5 recallScene,
    linkEntry 0x0030 bindRequest,
    linkEntry 0x0400 writeAttributeRequest,
    linkEntry 0x00b3 moveHueToSaturation,
    linkEntry 0x0046 matchDescriptorRequest,
    linkEntry 0x00b6 moveToHueAndStaturation,
    linkEntry 0x00b7 moveToColor,
    linkEntry 0x00b0 moveToHue,
    linkEntry 0x0012 erasePersistentData,
    linkEntry 0x0011 reset,
    linkEntry 0x0010 getVersion,
    linkEntry 0x0020 setExtendedPanID,
    linkEntry 0x0021 setChannelMask,
    linkEntry 0x0022 setSecurityAndKey,
    linkEntry 0x0023 setDeviceType,
    linkEntry 0x0024 startNetwork,
    linkEntry 0x0047 manageLeaveDevice]

/-! ## One command -/

/-- Two bytes of a message, the high one first. -/
def halfWord (message : List uint8) (position : Nat) : uint32 :=
  ((message.getD position 0).setWidth 32 <<< 8) ||| (message.getD (position + 1) 0).setWidth 32

/-- `memcpy` into the cleared buffer, and the call of `eSL_WriteMessage`. -/
def emit (u16Type u16Length : uint32) (entry : LinkEntry) : List uint8 :=
  let buffer := fun n => if n < entry.length.toNat then entry.message.getD n 0 else 0
  (writeMessage u16Type u16Length buffer entry.length).1

/-- The cluster id goes into the message of a read-attribute request, and stays there. -/
def LinkEntry.patch (entry : LinkEntry) (u16Index : uint32) : LinkEntry :=
  { entry with
    message := (entry.message.set 10 ((u16Index >>> 8).setWidth 8)).set 11
      ((u16Index &&& 0xff).setWidth 8) }

/-- One turn of `main`: the frame printed and the table left for the next turn. A number
that is not in the table leaves `i` at its size: `behind` is what is read there. -/
def mainTurn (behind : LinkEntry) (table : List LinkEntry) (u16Index cluster : uint32) :
    List uint8 × List LinkEntry :=
  let i := table.findIdx fun entry => decide (entry.index = u16Index)
  match table[i]? with
  | some entry =>
      let entry := if eSlMsgReadAttributeRequest = u16Index then entry.patch cluster else entry
      (emit (halfWord entry.message 0) (halfWord entry.message 2) entry, table.set i entry)
  | none => (emit 0 0 behind, table)

/-- The table after the turns before. -/
def tableAfter (behind : LinkEntry) : List LinkEntry → List (uint32 × uint32) → List LinkEntry
  | table, [] => table
  | table, (u16Index, cluster) :: turns =>
      tableAfter behind (mainTurn behind table u16Index cluster).2 turns

example : (mainTurn ⟨0, [], 0⟩ linkMessage 0x0010 0).1 =
    [0x01, 0x02, 0x10, 0x10, 0x02, 0x10, 0x02, 0x10, 0x10, 0x03] := by decide

/-! ## The frame of an entry -/

/-- The reader, waiting for a START, returns TRUE on the frame as one buffer, with the type
and exactly the payload. -/
def Understands (bytes : List uint8) (u16Type : uint16) (payload : List uint8) : Prop :=
  ∀ reader : Reader, reader.eRxState = .waitStart → HoldsAt reader.message 0 bytes →
    ∃ result, ReadMessage (BitVec.ofNat 16 bytes.length) reader result ∧
      result.returned = true ∧ result.reader.u16Type = u16Type ∧
      result.reader.u16Length = BitVec.ofNat 16 payload.length ∧
      HoldsAt result.reader.message 0 payload

/-- The payload length that a message states. -/
def statedLength (message : List uint8) : uint16 :=
  word (message.getD 2 0) (message.getD 3 0)

/-- A message that states as many bytes as follow its fifth. -/
def StatesLength (message : List uint8) : Prop :=
  statedLength message = BitVec.ofNat 16 (message.length - 5)

instance (message : List uint8) : Decidable (StatesLength message) :=
  inferInstanceAs (Decidable (_ = _))

/-- An entry with a header, whose length is the size of its array, and which fits the buffer. -/
structure WellFormed (entry : LinkEntry) : Prop where
  header : 5 ≤ entry.message.length
  fits : entry.message.length ≤ 100
  length : entry.length = BitVec.ofNat 8 entry.message.length
  stated : (statedLength entry.message).toNat ≤ rxMaxLength

theorem halfWord_eq (message : List uint8) (position : Nat) :
    halfWord message position =
      (word (message.getD position 0) (message.getD (position + 1) 0)).setWidth 32 := by
  rw [halfWord]
  generalize message.getD position 0 = high
  generalize message.getD (position + 1) 0 = low
  have highBound := high.isLt
  have lowBound := low.isLt
  apply BitVec.eq_of_toNat_eq
  rw [BitVec.toNat_or, BitVec.toNat_shiftLeft, BitVec.toNat_setWidth, BitVec.toNat_setWidth,
    BitVec.toNat_setWidth, word_toNat, Nat.mod_eq_of_lt (show high.toNat < 2 ^ 32 by omega),
    Nat.mod_eq_of_lt (show low.toNat < 2 ^ 32 by omega)]
  have shifted : high.toNat <<< 8 % 2 ^ 32 = high.toNat <<< 8 := by
    rw [Nat.shiftLeft_eq]
    omega
  rw [shifted, ← Nat.shiftLeft_add_eq_or_of_lt lowBound, Nat.shiftLeft_eq]
  omega

theorem emit_eq (index : uint32) (m0 m1 m2 m3 m4 : uint8) {payload : List uint8}
    (fits : payload.length ≤ 95) :
    emit (halfWord (m0 :: m1 :: m2 :: m3 :: m4 :: payload) 0)
        (halfWord (m0 :: m1 :: m2 :: m3 :: m4 :: payload) 2)
        (linkEntry index (m0 :: m1 :: m2 :: m3 :: m4 :: payload)) =
      frameOf (m0 :: m1 :: m2 :: m3 ::
        calculateCrc (word m0 m1) (word m2 m3) (fun n => payload.getD n 0) :: payload) := by
  set message := m0 :: m1 :: m2 :: m3 :: m4 :: payload with isMessage
  have size : message.length = payload.length + 5 := rfl
  have length : (BitVec.ofNat 8 message.length).toNat = message.length := by
    rw [BitVec.toNat_ofNat]
    omega
  have buffer : (fun n => if n < (BitVec.ofNat 8 message.length).toNat then message.getD n 0
      else 0) = fun n => message.getD n 0 := by
    funext n
    rw [length]
    split_ifs with inside
    · rfl
    · simp [List.getD, List.getElem?_eq_none (Nat.le_of_not_lt inside)]
  have stated : (word m2 m3).setWidth 32 = BitVec.ofNat 32 (word m2 m3).toNat := by
    apply BitVec.eq_of_toNat_eq
    rw [BitVec.toNat_setWidth, BitVec.toNat_ofNat]
  have crc : writeCrc (halfWord message 0) (halfWord message 2)
      (fun n => message.getD (5 + n) 0) =
      calculateCrc (word m0 m1) (word m2 m3) (fun n => payload.getD n 0) := by
    rw [halfWord_eq, halfWord_eq]
    change writeCrc ((word m0 m1).setWidth 32) ((word m2 m3).setWidth 32) _ = _
    rw [stated, writeCrc_eq _ (word m2 m3).isLt, BitVec.ofNat_toNat, BitVec.setWidth_eq]
    apply calculateCrc_congr
    intro n _
    rw [Nat.add_comm 5 n]
    rfl
  rw [emit, linkEntry]
  dsimp only
  have bytes : Function.update (fun n => message.getD n 0) 4
      (calculateCrc (word m0 m1) (word m2 m3) fun n => payload.getD n 0) =
      fun n => (m0 :: m1 :: m2 :: m3 ::
        calculateCrc (word m0 m1) (word m2 m3) (fun n => payload.getD n 0) :: payload).getD n 0 := by
    funext n
    match n with
    | 0 => rfl
    | 1 => rfl
    | 2 => rfl
    | 3 => rfl
    | 4 => rfl
    | n + 5 => exact Function.update_of_ne (by omega) _ _
  rw [buffer, writeMessage, crc, bytes, length]
  rfl

theorem emit_statesLength {index : uint32} {m0 m1 m2 m3 m4 : uint8} {payload : List uint8}
    (fits : payload.length ≤ 95)
    (states : StatesLength (m0 :: m1 :: m2 :: m3 :: m4 :: payload)) :
    emit (halfWord (m0 :: m1 :: m2 :: m3 :: m4 :: payload) 0)
        (halfWord (m0 :: m1 :: m2 :: m3 :: m4 :: payload) 2)
        (linkEntry index (m0 :: m1 :: m2 :: m3 :: m4 :: payload)) =
      frame (word m0 m1) payload := by
  have stated : word m2 m3 = BitVec.ofNat 16 payload.length := states
  rw [emit_eq index m0 m1 m2 m3 m4 fits, frameOf_frameBytes _ (by omega), frameBytes, ← stated,
    highByte_word, lowByte_word, highByte_word, lowByte_word, messageCrc, ← stated]

theorem statedLength_of_understands {index : uint32} {m0 m1 m2 m3 m4 : uint8}
    {payload : List uint8} (fits : payload.length ≤ 95) (u16Type : uint16)
    (accepted : (word m2 m3).toNat ≤ rxMaxLength)
    (understands : Understands (emit (halfWord (m0 :: m1 :: m2 :: m3 :: m4 :: payload) 0)
        (halfWord (m0 :: m1 :: m2 :: m3 :: m4 :: payload) 2)
        (linkEntry index (m0 :: m1 :: m2 :: m3 :: m4 :: payload))) u16Type payload) :
    StatesLength (m0 :: m1 :: m2 :: m3 :: m4 :: payload) := by
  rw [emit_eq index m0 m1 m2 m3 m4 fits] at understands
  set crc := calculateCrc (word m0 m1) (word m2 m3) fun n => payload.getD n 0
  set bytes := m0 :: m1 :: m2 :: m3 :: crc :: payload with isBytes
  obtain ⟨result, returns, -, -, length, -⟩ := understands
    ⟨.initial, 0, 0, bufferOf (frameOf bytes)⟩ rfl (bufferOf_holds _)
  have short : ([] : List uint8).length + (frameOf bytes).length ≤ 255 := by
    have twice := serialCode.length_stuff_le bytes
    have size : bytes.length = payload.length + 5 := rfl
    rw [frameOf_eq, List.length_nil, List.length_cons, List.length_append, List.length_singleton]
    omega
  obtain ⟨consumed, reads⟩ := @readMessage_frameOf ⟨.initial, 0, 0, bufferOf (frameOf bytes)⟩ []
    bytes List.not_mem_nil rfl short (bufferOf_holds _)
  rw [List.length_nil, Nat.zero_add] at reads
  have parsed := (parsed_feed_start ⟨.initial, 0, 0, bufferOf (frameOf bytes)⟩
    (@plain_of_mem_stuff bytes)).1
  rw [(serialCode.unstuff_stuff _).1] at parsed
  obtain ⟨-, collecting⟩ := parsed.resolve_left fun long => absurd accepted (Nat.not_le_of_lt long.1)
  have kept : ∀ reader : Reader, (reader.readByte slEndChar).1.u16Length = reader.u16Length := by
    intro reader
    rw [Reader.readByte, if_neg (by decide), if_neg (by decide), if_pos rfl]
    split_ifs
    · rfl
    · rfl
    · rfl
  rw [returns.unique reads, kept] at length
  exact collecting.u16Length.symm.trans length

/-! ## The table -/

/-- An entry once a cluster id was patched into the read-attribute request. -/
def LinkEntry.retouch (high low : uint8) (entry : LinkEntry) : LinkEntry :=
  if entry.index = eSlMsgReadAttributeRequest then
    { entry with message := (entry.message.set 10 high).set 11 low }
  else entry

def patchedTable (high low : uint8) : List LinkEntry :=
  linkMessage.map (LinkEntry.retouch high low)

@[simp] theorem LinkEntry.retouch_index (high low : uint8) (entry : LinkEntry) :
    (entry.retouch high low).index = entry.index := by
  rw [retouch]
  split_ifs
  · rfl
  · rfl

theorem LinkEntry.patch_retouch (high low : uint8) (cluster : uint32) {entry : LinkEntry}
    (isRead : entry.index = eSlMsgReadAttributeRequest) :
    (entry.retouch high low).patch cluster = entry.patch cluster := by
  rw [retouch, if_pos isRead, patch, patch]
  dsimp only
  rw [List.set_comm _ _ (show (11 : Nat) ≠ 10 by decide), List.set_set, List.set_set]

theorem linkMessage_patched : linkMessage = patchedTable 0 0 := by decide

theorem wellFormed_iff (entry : LinkEntry) : WellFormed entry ↔
    5 ≤ entry.message.length ∧ entry.message.length ≤ 100 ∧
      entry.length = BitVec.ofNat 8 entry.message.length ∧
      (statedLength entry.message).toNat ≤ rxMaxLength :=
  ⟨fun formed => ⟨formed.header, formed.fits, formed.length, formed.stated⟩,
    fun ⟨header, fits, length, stated⟩ => ⟨header, fits, length, stated⟩⟩

theorem wellFormed_linkMessage : ∀ entry ∈ linkMessage, WellFormed entry := by
  simp only [wellFormed_iff]
  decide

theorem linkMessage_distinct : ∀ first ∈ linkMessage, ∀ second ∈ linkMessage,
    first.index = second.index → first = second := by decide

theorem getElem?_findIdx {table : List LinkEntry} {entry : LinkEntry} (member : entry ∈ table)
    (distinct : ∀ other ∈ table, other.index = entry.index → other = entry) :
    table[table.findIdx fun other => decide (other.index = entry.index)]? = some entry := by
  have found := List.findIdx_lt_length_of_exists
    (p := fun other : LinkEntry => decide (other.index = entry.index))
    ⟨entry, member, decide_eq_true rfl⟩
  rw [List.getElem?_eq_getElem found]
  have index := of_decide_eq_true (List.findIdx_getElem (w := found))
  exact congrArg some (distinct _ (List.getElem_mem found) index)

section Turn

variable (behind : LinkEntry) (high low : uint8) (u16Index cluster : uint32)

theorem patchedTable_found {entry : LinkEntry} (member : entry ∈ linkMessage)
    (isIndex : entry.index = u16Index) :
    (patchedTable high low)[(patchedTable high low).findIdx
      fun other => decide (other.index = u16Index)]? = some (entry.retouch high low) := by
  have touched : entry.retouch high low ∈ patchedTable high low := List.mem_map_of_mem member
  have distinct : ∀ other ∈ patchedTable high low,
      other.index = (entry.retouch high low).index → other = entry.retouch high low := by
    intro other inTable same
    obtain ⟨origin, originMember, rfl⟩ := List.mem_map.mp inTable
    rw [LinkEntry.retouch_index, LinkEntry.retouch_index] at same
    rw [linkMessage_distinct origin originMember entry member same]
  have found := getElem?_findIdx touched distinct
  rw [LinkEntry.retouch_index, isIndex] at found
  exact found

theorem patchedTable_missing (missing : ∀ entry ∈ linkMessage, entry.index ≠ u16Index) :
    (patchedTable high low)[(patchedTable high low).findIdx
      fun other => decide (other.index = u16Index)]? = none := by
  have none : ∀ other ∈ patchedTable high low, decide (other.index = u16Index) = false := by
    intro other inTable
    obtain ⟨origin, originMember, rfl⟩ := List.mem_map.mp inTable
    rw [LinkEntry.retouch_index]
    exact decide_eq_false (missing origin originMember)
  rw [List.findIdx_eq_length_of_false none]
  exact List.getElem?_eq_none (Nat.le_refl _)

theorem mainTurn_found {entry : LinkEntry} (member : entry ∈ linkMessage)
    (isIndex : entry.index = u16Index) :
    (mainTurn behind (patchedTable high low) u16Index cluster).1 =
      let sent := if eSlMsgReadAttributeRequest = u16Index then entry.patch cluster else entry
      emit (halfWord sent.message 0) (halfWord sent.message 2) sent := by
  dsimp only [mainTurn]
  rw [patchedTable_found high low u16Index member isIndex]
  dsimp only
  by_cases isRead : eSlMsgReadAttributeRequest = u16Index
  · rw [if_pos isRead, if_pos isRead,
      LinkEntry.patch_retouch high low cluster (isIndex.trans isRead.symm)]
  · have untouched : entry.retouch high low = entry :=
      if_neg fun equal => isRead (equal.symm.trans isIndex)
    rw [if_neg isRead, if_neg isRead, untouched]

theorem mainTurn_missing (missing : ∀ entry ∈ linkMessage, entry.index ≠ u16Index) :
    mainTurn behind (patchedTable high low) u16Index cluster =
      (emit 0 0 behind, patchedTable high low) := by
  dsimp only [mainTurn]
  rw [patchedTable_missing high low u16Index missing]

theorem mainTurn_table : ∃ high' low',
    (mainTurn behind (patchedTable high low) u16Index cluster).2 = patchedTable high' low' := by
  by_cases missing : ∀ entry ∈ linkMessage, entry.index ≠ u16Index
  · exact ⟨high, low, by rw [mainTurn_missing behind high low u16Index cluster missing]⟩
  by_cases isRead : eSlMsgReadAttributeRequest = u16Index
  · subst isRead
    exact ⟨(cluster >>> 8).setWidth 8, (cluster &&& 0xff).setWidth 8, rfl⟩
  · push Not at missing
    obtain ⟨entry, member, isIndex⟩ := missing
    have found := patchedTable_found high low u16Index member isIndex
    refine ⟨high, low, ?_⟩
    dsimp only [mainTurn]
    rw [found]
    dsimp only
    rw [if_neg isRead]
    obtain ⟨inside, here⟩ := List.getElem?_eq_some_iff.mp found
    rw [← here]
    exact List.set_getElem_self inside

end Turn

theorem tableAfter_patched (behind : LinkEntry) (high low : uint8)
    (turns : List (uint32 × uint32)) :
    ∃ high' low', tableAfter behind (patchedTable high low) turns = patchedTable high' low' := by
  induction turns generalizing high low with
  | nil => exact ⟨high, low, rfl⟩
  | cons turn turns induction =>
      obtain ⟨nextHigh, nextLow, next⟩ := mainTurn_table behind high low turn.1 turn.2
      obtain ⟨lastHigh, lastLow, last⟩ := induction nextHigh nextLow
      refine ⟨lastHigh, lastLow, ?_⟩
      rw [tableAfter, next, last]

/-! ## What the reader makes of a command -/

/-- The message that a command is to send: with the cluster id, if it asks for one. -/
def LinkEntry.sent (entry : LinkEntry) (cluster : uint32) : List uint8 :=
  if eSlMsgReadAttributeRequest = entry.index then (entry.patch cluster).message
  else entry.message

/-- A command of the table is understood, and no other one sends a frame. -/
def CommandUnderstood (bytes : List uint8) (u16Index cluster : uint32) : Prop :=
  (∀ entry ∈ linkMessage, entry.index = u16Index →
    Understands bytes (word ((entry.sent cluster).getD 0 0) ((entry.sent cluster).getD 1 0))
      ((entry.sent cluster).drop 5)) ∧
    ((∀ entry ∈ linkMessage, entry.index ≠ u16Index) → bytes = [])

theorem LinkEntry.sent_length (entry : LinkEntry) (cluster : uint32) :
    (entry.sent cluster).length = entry.message.length := by
  rw [sent]
  split_ifs
  · rw [patch, List.length_set, List.length_set]
  · rfl

theorem LinkEntry.sent_header (entry : LinkEntry) (cluster : uint32) {position : Nat}
    (header : position < 5) :
    (entry.sent cluster).getD position 0 = entry.message.getD position 0 := by
  rw [sent]
  split_ifs
  · rw [patch, List.getD, List.getD, List.getElem?_set_ne (by omega),
      List.getElem?_set_ne (by omega)]
  · rfl

theorem LinkEntry.sent_statesLength (entry : LinkEntry) (cluster : uint32) :
    StatesLength (entry.sent cluster) ↔ StatesLength entry.message := by
  rw [StatesLength, StatesLength, statedLength, statedLength,
    entry.sent_header cluster (by decide), entry.sent_header cluster (by decide),
    entry.sent_length cluster]

theorem understands_iff {entry : LinkEntry} (formed : WellFormed entry) (cluster : uint32) :
    Understands (emit (halfWord (entry.sent cluster) 0) (halfWord (entry.sent cluster) 2)
        (linkEntry entry.index (entry.sent cluster)))
      (word ((entry.sent cluster).getD 0 0) ((entry.sent cluster).getD 1 0))
      ((entry.sent cluster).drop 5) ↔ StatesLength entry.message := by
  have size := entry.sent_length cluster
  have stated := formed.stated
  rw [statedLength, ← entry.sent_header cluster (by decide),
    ← entry.sent_header cluster (by decide)] at stated
  rw [← entry.sent_statesLength cluster]
  have header := formed.header
  have fits := formed.fits
  rw [← size] at header fits
  generalize entry.sent cluster = message at header fits stated
  match message with
  | m0 :: m1 :: m2 :: m3 :: m4 :: payload =>
      have short : payload.length ≤ 95 := by
        simp only [List.length_cons] at fits
        omega
      constructor
      · exact statedLength_of_understands short _ stated
      · intro states reader waits buffer
        rw [emit_statesLength short states] at buffer ⊢
        have inBuffer : ([] : List uint8).length + (frame (word m0 m1) payload).length ≤ 256 := by
          have twice := serialCode.length_stuff_le (frameBytes (word m0 m1) payload)
          have bytes : (frameBytes (word m0 m1) payload).length = payload.length + 5 := rfl
          rw [frame_eq _ (by omega), List.length_nil, List.length_cons, List.length_append,
            List.length_singleton]
          omega
        have read := readMessage_frame (word m0 m1) payload [] reader (by omega)
          List.not_mem_nil inBuffer waits buffer
        rw [List.length_nil, Nat.zero_add] at read
        exact read

theorem mainTurn_sends (behind : LinkEntry) (high low : uint8) (cluster : uint32)
    {entry : LinkEntry} (member : entry ∈ linkMessage) :
    (mainTurn behind (patchedTable high low) entry.index cluster).1 =
      emit (halfWord (entry.sent cluster) 0) (halfWord (entry.sent cluster) 2)
        (linkEntry entry.index (entry.sent cluster)) := by
  have length := entry.sent_length cluster
  rw [mainTurn_found behind high low entry.index cluster member rfl, linkEntry, length,
    ← (wellFormed_linkMessage entry member).length, LinkEntry.sent]
  split_ifs
  · rfl
  · rfl

/-- After any commands, a command is understood exactly if it is in the table with a message
that states its own length. -/
theorem commandUnderstood_iff (behind : LinkEntry) (before : List (uint32 × uint32))
    (u16Index cluster : uint32) :
    CommandUnderstood
        (mainTurn behind (tableAfter behind linkMessage before) u16Index cluster).1 u16Index
        cluster ↔
      ∃ entry ∈ linkMessage, entry.index = u16Index ∧ StatesLength entry.message := by
  obtain ⟨high, low, table⟩ := tableAfter_patched behind 0 0 before
  rw [← linkMessage_patched] at table
  rw [table]
  by_cases missing : ∀ entry ∈ linkMessage, entry.index ≠ u16Index
  · apply iff_of_false
    · rintro ⟨-, nothing⟩
      rw [mainTurn_missing behind high low u16Index cluster missing] at nothing
      exact absurd (nothing missing) (List.cons_ne_nil _ _)
    · rintro ⟨entry, member, isIndex, -⟩
      exact missing entry member isIndex
  · have listed := missing
    push Not at listed
    obtain ⟨entry, member, isIndex⟩ := listed
    have formed := wellFormed_linkMessage entry member
    have only : ∀ other ∈ linkMessage, other.index = u16Index → other = entry := by
      intro other otherMember same
      exact linkMessage_distinct other otherMember entry member (same.trans isIndex.symm)
    rw [← isIndex, mainTurn_sends behind high low cluster member, isIndex]
    constructor
    · rintro ⟨understood, -⟩
      exact ⟨entry, member, isIndex,
        (understands_iff formed cluster).mp (understood entry member isIndex)⟩
    · rintro ⟨other, otherMember, otherIndex, states⟩
      rw [only other otherMember otherIndex] at states
      refine ⟨?_, fun none => absurd none missing⟩
      intro again againMember againIndex
      rw [only again againMember againIndex]
      exact (understands_iff formed cluster).mpr states

/-- The commands that are not understood. -/
example : (linkMessage.filter fun entry => decide ¬StatesLength entry.message).map
    LinkEntry.index = [0x00a4, 0x00a0, 0x00a2, 0x00a5, 0x0400, 0x00b3, 0x0047] := by decide

/-- The request to view a scene states nine bytes and has seven. -/
theorem commandUnderstood_fails :
    ¬∀ (behind : LinkEntry) (before : List (uint32 × uint32)) (u16Index cluster : uint32),
      CommandUnderstood
        (mainTurn behind (tableAfter behind linkMessage before) u16Index cluster).1 u16Index
        cluster := by
  intro all
  have member : linkEntry 0x00a0 viewScene ∈ linkMessage := by decide
  have understood := (all ⟨0, [], 0⟩ [] (linkEntry 0x00a0 viewScene).index 0).1 _ member rfl
  rw [tableAfter, linkMessage_patched, mainTurn_sends _ 0 0 0 member,
    understands_iff (wellFormed_linkMessage _ member) 0] at understood
  exact absurd understood (by decide)

end StudyDemo.SerialLink
