import StudyDemo.SerialLink.Writer

/-! # Round trip over the serial link

A frame after any bytes without an END is read back as it was written, from any
statics that wait for a START. -/

namespace StudyDemo.SerialLink

theorem plain_of_mem_stuff {bytes : List uint8} :
    ∀ u8Data ∈ serialCode.stuff bytes, Plain u8Data := by
  intro u8Data member
  have escapeOnly : serialCode.reserved u8Data → u8Data = slEscChar := fun isReserved =>
    serialCode.eq_escape_of_mem_stuff member isReserved
  constructor
  · intro isStart
    rw [isStart] at escapeOnly
    exact absurd (escapeOnly (by decide)) (by decide)
  · intro isEnd
    rw [isEnd] at escapeOnly
    exact absurd (escapeOnly (by decide)) (by decide)

theorem parsed_feed_start (reader : Reader) {bytes : List uint8}
    (plain : ∀ u8Data ∈ bytes, Plain u8Data) :
    Parsed 0 (reader.feed (slStartChar :: bytes)) (serialCode.unstuff false bytes) ∧
      (reader.feed (slStartChar :: bytes)).bInEsc = serialCode.pending false bytes := by
  obtain ⟨start, closed, -⟩ := parsed_start reader
  have all := start.feed plain
  rw [closed, List.nil_append] at all
  exact all

section Frame

variable {u16Type : uint16} {payload : List uint8}

/-- The statics and out-parameters after all of a frame but its END. -/
structure Complete (base : Nat) (u16Type : uint16) (payload : List uint8) (reader : Reader) :
    Prop where
  type : reader.u16Type = u16Type
  length : reader.u16Length = BitVec.ofNat 16 payload.length
  crc : reader.u8CRC = messageCrc u16Type payload
  stored : ∀ index, base ≤ index → index < payload.length →
    reader.message index = payload.getD index 0

theorem Parsed.complete {base : Nat} {reader : Reader}
    (parsed : Parsed base reader (frameBytes u16Type payload))
    (short : payload.length ≤ 250) : Complete base u16Type payload reader := by
  have size : (BitVec.ofNat 16 payload.length).toNat = payload.length := by
    rw [BitVec.toNat_ofNat]
    omega
  rcases parsed with ⟨long, -⟩ | ⟨fits, collecting⟩
  · rw [word_bytes, size] at long
    exact absurd long (Nat.not_lt_of_le (Nat.le_trans short (by decide)))
  · rw [word_bytes, word_bytes] at collecting
    have bytes := collecting.bytes
    rw [size, Nat.min_self] at bytes
    refine ⟨collecting.u16Type, collecting.u16Length, collecting.u8CRC, ?_⟩
    intro index fromBase inside
    exact collecting.stored index fromBase (by omega)

theorem Complete.readByte_end {reader : Reader} (complete : Complete 0 u16Type payload reader)
    (short : payload.length ≤ 250) :
    reader.readByte slEndChar = ({ reader with eRxState := .waitStart }, true) := by
  have size : (BitVec.ofNat 16 payload.length).toNat = payload.length := by
    rw [BitVec.toNat_ofNat]
    omega
  have fits : ¬rxMaxLength < reader.u16Length.toNat := by
    rw [complete.length, size]
    exact Nat.not_lt_of_le (Nat.le_trans short (by decide))
  have crc : reader.crcMatches := by
    rw [Reader.crcMatches, complete.crc, complete.type, complete.length, messageCrc]
    apply calculateCrc_congr
    intro index inside
    rw [size] at inside
    exact (complete.stored index (Nat.zero_le index) inside).symm
  rw [Reader.readByte, if_neg (by decide), if_neg (by decide), if_pos rfl, if_neg fits,
    if_pos crc]

end Frame

theorem readLoop_end {u16MsgLen : uint16} (fuel : Nat) {cursor : Nat} {reader : Reader}
    (consumed : List uint8) (small : cursor ≤ 255) (inside : cursor < u16MsgLen.toNat)
    (isEnd : reader.message cursor = slEndChar) (accepts : (reader.readByte slEndChar).2 = true) :
    readLoop u16MsgLen (fuel + 1) (BitVec.ofNat 8 cursor) reader consumed =
      some ⟨(reader.readByte slEndChar).1, true, consumed ++ [slEndChar]⟩ := by
  have value : (BitVec.ofNat 8 cursor).toNat = cursor := by
    rw [BitVec.toNat_ofNat]
    omega
  rw [readLoop, value, if_pos inside, isEnd]
  simp only [accepts, if_true]

/-- A call whose buffer holds the rest of a frame, and which stores behind its
cursor, returns TRUE on the END. -/
theorem readLoop_frame_end {u16Type : uint16} {payload : List uint8} {reader : Reader}
    {bytes : List uint8} (short : payload.length ≤ 250) (noEnd : slEndChar ∉ bytes)
    (small : bytes.length ≤ 255) (buffer : HoldsAt reader.message 0 (bytes ++ [slEndChar]))
    (behind : Behind 0 reader)
    (complete : Complete 0 u16Type payload (reader.feed bytes)) :
    ReadMessage (BitVec.ofNat 16 (bytes.length + 1)) reader
      ⟨{ reader.feed bytes with eRxState := .waitStart }, true, bytes ++ [slEndChar]⟩ := by
  obtain ⟨before, last⟩ := HoldsAt.append.mp buffer
  have length : (BitVec.ofNat 16 (bytes.length + 1)).toNat = bytes.length + 1 := by
    rw [BitVec.toNat_ofNat]
    omega
  obtain ⟨loop, unread, -⟩ := readLoop_feed (BitVec.ofNat 16 (bytes.length + 1)) 1 []
    noEnd before (by omega) (by omega) behind
  have isEnd : (reader.feed bytes).message bytes.length = slEndChar := by
    rw [unread _ (by omega)]
    have here := last 0 Nat.one_pos
    rwa [Nat.zero_add, Nat.add_zero] at here
  have accepts := complete.readByte_end short
  rw [Nat.zero_add, readLoop_end 0 _ small (by omega) isEnd (by rw [accepts]), accepts] at loop
  exact ⟨_, loop⟩

theorem readMessage_garbage_frame (u16Type : uint16) {payload garbage : List uint8}
    {reader : Reader} (short : payload.length ≤ 250) (noEnd : slEndChar ∉ garbage)
    (fits : garbage.length + (frame u16Type payload).length ≤ 256)
    (waits : reader.eRxState = .waitStart)
    (buffer : HoldsAt reader.message 0 (garbage ++ frame u16Type payload)) :
    ∃ result, ReadMessage
        (BitVec.ofNat 16 (garbage.length + (frame u16Type payload).length)) reader result ∧
      result.returned = true ∧ Complete 0 u16Type payload result.reader := by
  have closed := serialCode.unstuff_stuff (frameBytes u16Type payload)
  rw [frame_eq u16Type short] at fits buffer ⊢
  set body := serialCode.stuff (frameBytes u16Type payload)
  have plain : ∀ u8Data ∈ body, Plain u8Data := plain_of_mem_stuff
  -- Everything before the END.
  set bytes := garbage ++ slStartChar :: body with isBytes
  have split : garbage ++ slStartChar :: (body ++ [slEndChar]) = bytes ++ [slEndChar] := by
    rw [isBytes, List.append_assoc, List.cons_append]
  have size : garbage.length + (slStartChar :: (body ++ [slEndChar])).length =
      bytes.length + 1 := by
    rw [← List.length_append, split, List.length_append]
    rfl
  rw [split] at buffer
  rw [size] at fits ⊢
  have bytesNoEnd : slEndChar ∉ bytes := slEndChar_not_mem_frame noEnd plain
  obtain ⟨parsed, -⟩ := parsed_feed_start (reader.feed garbage) plain
  rw [closed.1, ← Reader.feed_append] at parsed
  have complete := parsed.complete short
  refine ⟨_, readLoop_frame_end short bytesNoEnd (by omega) buffer (Or.inl waits) complete,
    rfl, complete.type, complete.length, complete.crc, complete.stored⟩

/-- What is written is read back. -/
theorem readMessage_frame (u16Type : uint16) (payload garbage : List uint8)
    (reader : Reader) (short : payload.length ≤ 250) (noEnd : slEndChar ∉ garbage)
    (fits : garbage.length + (frame u16Type payload).length ≤ 256)
    (waits : reader.eRxState = .waitStart)
    (buffer : HoldsAt reader.message 0 (garbage ++ frame u16Type payload)) :
    ∃ result, ReadMessage
        (BitVec.ofNat 16 (garbage.length + (frame u16Type payload).length)) reader result ∧
      result.returned = true ∧ result.reader.u16Type = u16Type ∧
      result.reader.u16Length = BitVec.ofNat 16 payload.length ∧
      HoldsAt result.reader.message 0 payload := by
  obtain ⟨result, returns, true, complete⟩ :=
    readMessage_garbage_frame u16Type short noEnd fits waits buffer
  refine ⟨result, returns, true, complete.type, complete.length, ?_⟩
  intro index inside
  rw [Nat.zero_add]
  exact complete.stored index (Nat.zero_le index) inside

def bufferOf (bytes : List uint8) : Nat → uint8 := fun index => bytes.getD index 0

theorem bufferOf_holds (bytes : List uint8) : HoldsAt (bufferOf bytes) 0 bytes := by
  intro index _
  rw [Nat.zero_add]
  rfl

/-- A permit-join request after a stray byte, read with stale statics. -/
theorem readMessage_frame_permitJoin :
    ∃ result, ReadMessage
        (BitVec.ofNat 16 (1 + (frame 0x0049 [0xff, 0xfc, 0x64, 0x00]).length))
        ⟨⟨.waitStart, 7, 9, true⟩, 5, 300,
          bufferOf ([0x55] ++ frame 0x0049 [0xff, 0xfc, 0x64, 0x00])⟩ result ∧
      result.returned = true ∧ result.reader.u16Type = 0x0049 ∧
      result.reader.u16Length = 4 ∧
      HoldsAt result.reader.message 0 [0xff, 0xfc, 0x64, 0x00] :=
  readMessage_frame 0x0049 [0xff, 0xfc, 0x64, 0x00] [0x55]
    ⟨⟨.waitStart, 7, 9, true⟩, 5, 300,
      bufferOf ([0x55] ++ frame 0x0049 [0xff, 0xfc, 0x64, 0x00])⟩
    (by decide) (by decide) (by decide) rfl (bufferOf_holds _)

end StudyDemo.SerialLink
