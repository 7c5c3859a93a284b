import StudyDemo.EasyLink.Record
import StudyDemo.Foundation.CMemory

/-! # The netlink message

The driver broadcasts its record behind a netlink header, in a message of
`NLMSG_SPACE(sizeof(TEasyLink))` bytes. The program receives it into a buffer of
`sizeof(TEasyLink)` bytes and copies the record from behind the header. -/

namespace StudyDemo.NetLink

open StudyDemo.EasyLink StudyDemo.CMemory

/-! ## Layout -/

/-- The number of bytes of a `struct nlmsghdr`. -/
def nlmsghdrSize : Nat := 16

def nlmsgAlign (length : Nat) : Nat := (length + 3) / 4 * 4

def nlmsgHdrlen : Nat := nlmsgAlign nlmsghdrSize

def nlmsgLength (length : Nat) : Nat := length + nlmsgHdrlen

def nlmsgSpace (length : Nat) : Nat := nlmsgAlign (nlmsgLength length)

structure NlMsgHdr where
  nlmsgLen : UINT32
  nlmsgType : USHORT
  nlmsgFlags : USHORT
  nlmsgSeq : UINT32
  nlmsgPid : UINT32

def wordBytes {width : Nat} (word : BitVec width) : List UCHAR :=
  (List.range (width / 8)).map (loadWord word)

def NlMsgHdr.bytes (header : NlMsgHdr) : List UCHAR :=
  wordBytes header.nlmsgLen ++ wordBytes header.nlmsgType ++ wordBytes header.nlmsgFlags ++
    wordBytes header.nlmsgSeq ++ wordBytes header.nlmsgPid

theorem NlMsgHdr.length_bytes (header : NlMsgHdr) : header.bytes.length = nlmsghdrSize := by
  simp [NlMsgHdr.bytes, wordBytes, nlmsghdrSize]

def recordBytes (record : TEasyLink) : List UCHAR := List.ofFn record.byteAt

/-- The word of two or four bytes, the lowest first. -/
def joinHalf (low high : UCHAR) : USHORT := high ++ low

def joinWord (first second third fourth : UCHAR) : UINT32 :=
  joinHalf third fourth ++ joinHalf first second

theorem getElem_joinHalf (low high : UCHAR) {bit : Nat} (bound : bit < 16) :
    (joinHalf low high)[bit] = if bit < 8 then low.getLsbD bit else high.getLsbD (bit - 8) := by
  change (high ++ low)[bit] = _
  rw [BitVec.getElem_append]
  split_ifs with first
  · rw [BitVec.getLsbD_eq_getElem]
  · rw [BitVec.getLsbD_eq_getElem]

theorem joinHalf_loadWord (word : USHORT) :
    joinHalf (loadWord word 0) (loadWord word 1) = word := by
  ext bit bound
  rw [getElem_joinHalf _ _ bound, ← BitVec.getLsbD_eq_getElem]
  split_ifs with first
  · simp [loadWord, first]
  · simp [loadWord, show bit - 8 < 8 by omega, show 8 + (bit - 8) = bit by omega]

theorem joinWord_loadWord (word : UINT32) :
    joinWord (loadWord word 0) (loadWord word 1) (loadWord word 2) (loadWord word 3) = word := by
  ext bit bound
  change (joinHalf (loadWord word 2) (loadWord word 3) ++
    joinHalf (loadWord word 0) (loadWord word 1))[bit] = _
  rw [BitVec.getElem_append, ← BitVec.getLsbD_eq_getElem bound]
  split_ifs with low
  · rw [getElem_joinHalf _ _ low]
    split_ifs with first
    · simp [loadWord, first]
    · simp [loadWord, show bit - 8 < 8 by omega, show 8 + (bit - 8) = bit by omega]
  · rw [getElem_joinHalf _ _ (show bit - 16 < 16 by omega)]
    split_ifs with third
    · simp [loadWord, third, show 16 + (bit - 16) = bit by omega]
    · simp [loadWord, show bit - 16 - 8 < 8 by omega, show 24 + (bit - 16 - 8) = bit by omega]

/-- The record that stands in memory. -/
def recordAt (memory : Memory) (address : Nat) : TEasyLink where
  uSSIDlen := memory address
  uPwdLen := memory (address + 1)
  uChannel := memory (address + 2)
  uLinkType := memory (address + 3)
  uRecOK := joinWord (memory (address + 4)) (memory (address + 5)) (memory (address + 6))
    (memory (address + 7))
  uPort := joinHalf (memory (address + 8)) (memory (address + 9))
  uIP := joinWord (memory (address + 12)) (memory (address + 13)) (memory (address + 14))
    (memory (address + 15))
  uPwd := fun index => memory (address + 16 + index.val)
  uSSID := fun index => memory (address + 48 + index.val)

/-! ## The hop -/

/-- The message that `STA_MonPktSend` broadcasts. The type and the sequence number
are what the new buffer held. -/
def broadcastMessage (nlmsgType : USHORT) (nlmsgSeq : UINT32) (record : TEasyLink) :
    List UCHAR :=
  let header : NlMsgHdr := {
    nlmsgLen := BitVec.ofNat 32 (nlmsgSpace TEasyLink.size)
    nlmsgType := nlmsgType
    nlmsgFlags := 0
    nlmsgSeq := nlmsgSeq
    nlmsgPid := 0 }
  header.bytes ++ recordBytes record

theorem length_broadcastMessage (nlmsgType : USHORT) (nlmsgSeq : UINT32) (record : TEasyLink) :
    (broadcastMessage nlmsgType nlmsgSeq record).length = nlmsgSpace TEasyLink.size := by
  rw [broadcastMessage, List.length_append, NlMsgHdr.length_bytes, recordBytes, List.length_ofFn]
  rfl

/-- `recvmsg` stores the part of a message that fits into `iov_len` bytes. -/
def recvmsg (memory : Memory) (iovBase iovLen : Nat) (message : List UCHAR) : Memory :=
  store memory iovBase (message.take iovLen)

/-- The record that `main` copies from behind the header after a `recvmsg`. -/
def receivedRecord (memory : Memory) (nlh : Nat) (message : List UCHAR) : TEasyLink :=
  recordAt (recvmsg memory nlh TEasyLink.size message) (nlh + nlmsgHdrlen)

section Hop

variable (memory : Memory) (nlh : Nat) (nlmsgType : USHORT) (nlmsgSeq : UINT32)
  (record : TEasyLink)

/-- What the buffer holds of the record: all but its last 16 bytes. -/
theorem received_byte {index : Nat} (inside : index < 64) :
    recvmsg memory nlh TEasyLink.size (broadcastMessage nlmsgType nlmsgSeq record)
        (nlh + nlmsgHdrlen + index) =
      record.byteAt ⟨index, Nat.lt_trans inside (by decide)⟩ := by
  have whole := holds_store memory nlh
    ((broadcastMessage nlmsgType nlmsgSeq record).take TEasyLink.size)
  rw [broadcastMessage, List.take_append, NlMsgHdr.length_bytes,
    List.take_of_length_le (by rw [NlMsgHdr.length_bytes]; decide)] at whole
  have part := whole.right
  rw [NlMsgHdr.length_bytes] at part
  have position : index < ((recordBytes record).take (TEasyLink.size - nlmsghdrSize)).length := by
    rw [List.length_take, recordBytes, List.length_ofFn]
    change index < min 64 80
    omega
  have byte := part index position
  rw [List.getElem_take] at byte
  exact byte.trans (List.getElem_ofFn _)

/-- The last 16 bytes come from behind the buffer. -/
theorem unreceived_byte {index : Nat} (past : 64 ≤ index) :
    recvmsg memory nlh TEasyLink.size (broadcastMessage nlmsgType nlmsgSeq record)
        (nlh + nlmsgHdrlen + index) = memory (nlh + nlmsgHdrlen + index) := by
  have long := length_broadcastMessage nlmsgType nlmsgSeq record
  dsimp only [recvmsg, store]
  split_ifs
  · rw [List.getD_eq_default]
    rw [List.length_take, long]
    change min 80 96 ≤ nlh + 16 + index - nlh
    omega
  · rfl

theorem received_fields :
    let received := receivedRecord memory nlh (broadcastMessage nlmsgType nlmsgSeq record)
    received.uSSIDlen = record.uSSIDlen ∧ received.uPwdLen = record.uPwdLen ∧
      received.uChannel = record.uChannel ∧ received.uLinkType = record.uLinkType ∧
      received.uRecOK = record.uRecOK ∧ received.uPort = record.uPort ∧
      received.uIP = record.uIP ∧ received.uPwd = record.uPwd := by
  have byte : ∀ index : Nat, (inside : index < 64) →
      recvmsg memory nlh TEasyLink.size (broadcastMessage nlmsgType nlmsgSeq record)
          (nlh + nlmsgHdrlen + index) =
        record.byteAt ⟨index, Nat.lt_trans inside (by decide)⟩ :=
    fun _ inside => received_byte memory nlh nlmsgType nlmsgSeq record inside
  dsimp only [receivedRecord, recordAt]
  refine ⟨byte 0 (by decide), byte 1 (by decide), byte 2 (by decide), byte 3 (by decide),
    ?_, ?_, ?_, ?_⟩
  · rw [byte 4 (by decide), byte 5 (by decide), byte 6 (by decide), byte 7 (by decide)]
    exact joinWord_loadWord record.uRecOK
  · rw [byte 8 (by decide), byte 9 (by decide)]
    exact joinHalf_loadWord record.uPort
  · rw [byte 12 (by decide), byte 13 (by decide), byte 14 (by decide), byte 15 (by decide)]
    exact joinWord_loadWord record.uIP
  · funext index
    have inside : 16 + index.val < 64 := by omega
    rw [Nat.add_assoc _ 16, byte (16 + index.val) inside]
    simp only [TEasyLink.byteAt]
    repeat rw [if_neg (by omega)]
    rw [dif_pos (by omega)]
    congr 1
    apply Fin.ext
    change 16 + index.val - 16 = index.val
    omega

theorem received_uSSID (index : Fin 32) :
    (receivedRecord memory nlh (broadcastMessage nlmsgType nlmsgSeq record)).uSSID index =
      if index.val < 16 then record.uSSID index else memory (nlh + 64 + index.val) := by
  dsimp only [receivedRecord, recordAt]
  rw [Nat.add_assoc _ 48]
  split_ifs with first
  · rw [received_byte memory nlh nlmsgType nlmsgSeq record (show 48 + index.val < 64 by omega)]
    simp only [TEasyLink.byteAt]
    repeat rw [if_neg (by omega)]
    rw [dif_neg (by omega)]
    congr 1
    apply Fin.ext
    change 48 + index.val - 48 = index.val
    omega
  · rw [unreceived_byte memory nlh nlmsgType nlmsgSeq record (show 64 ≤ 48 + index.val by omega)]
    congr 1
    change nlh + 16 + (48 + index.val) = _
    omega

/-- The record survives the hop exactly when the 16 bytes behind the receive buffer
are the last bytes of the SSID. -/
theorem receivedRecord_eq_iff :
    receivedRecord memory nlh (broadcastMessage nlmsgType nlmsgSeq record) = record ↔
      ∀ index : Fin 32, 16 ≤ index.val →
        memory (nlh + TEasyLink.size + (index.val - 16)) = record.uSSID index := by
  have behind : ∀ index : Fin 32, 16 ≤ index.val →
      nlh + TEasyLink.size + (index.val - 16) = nlh + 64 + index.val := by
    intro index past
    change nlh + 80 + (index.val - 16) = _
    omega
  constructor
  · intro same index past
    have byte := congrFun (congrArg TEasyLink.uSSID same) index
    rw [received_uSSID, if_neg (by omega)] at byte
    rw [behind index past, byte]
  · intro tail
    obtain ⟨uSSIDlen, uPwdLen, uChannel, uLinkType, uRecOK, uPort, uIP, uPwd⟩ :=
      received_fields memory nlh nlmsgType nlmsgSeq record
    apply TEasyLink.ext uSSIDlen uPwdLen uChannel uLinkType uRecOK uPort uIP uPwd
    funext index
    rw [received_uSSID]
    split_ifs with first
    · rfl
    · rw [← tail index (by omega), behind index (by omega)]

end Hop

/-- An SSID of 17 letters, and a heap of zeros. -/
def longNameRecord : TEasyLink :=
  { TEasyLink.zero with uSSID := fun index => if index.val < 17 then 0x41 else 0 }

theorem receivedRecord_ne :
    ¬∀ (memory : Memory) (nlh : Nat) (nlmsgType : USHORT) (nlmsgSeq : UINT32)
      (record : TEasyLink),
      receivedRecord memory nlh (broadcastMessage nlmsgType nlmsgSeq record) = record := by
  intro survives
  have same := survives (fun _ => 0) 0 0 0 longNameRecord
  have byte := congrFun (congrArg TEasyLink.uSSID same) 16
  rw [received_uSSID] at byte
  exact absurd byte (by decide)

end StudyDemo.NetLink
