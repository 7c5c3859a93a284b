import StudyDemo.SerialLink.Acceptance

/-! # A corrupted byte

The checksum is the exclusive or of the header and the payload. It shows a change
of any of these bytes but for the two of the length: a changed length also changes
which bytes the reader adds up. -/

namespace StudyDemo.SerialLink

/-- A frame whose bytes are given: what the printing loop of `eSL_WriteMessage`
makes of them, between START and END. -/
def frameOf (bytes : List uint8) : List uint8 :=
  0x01 :: (writeLoop bytes.length 0 fun n => bytes.getD n 0).1 ++ [0x03]

theorem frameOf_eq (bytes : List uint8) :
    frameOf bytes = slStartChar :: (serialCode.stuff bytes ++ [slEndChar]) := by
  have listed : (List.range' 0 bytes.length).map (fun n => bytes.getD n 0) = bytes := by
    apply List.ext_getElem
    · rw [List.length_map, List.length_range']
    · intro index _ inside
      rw [List.getElem_map, List.getElem_range', Nat.zero_add, Nat.one_mul]
      simp [List.getD, List.getElem?_eq_getElem inside]
  rw [frameOf, writeLoop_eq, listed]
  rfl

theorem frameOf_frameBytes (u16Type : uint16) {payload : List uint8}
    (short : payload.length ≤ 250) :
    frame u16Type payload = frameOf (frameBytes u16Type payload) := by
  rw [frame_eq u16Type short, frameOf_eq]

/-- No call on the bytes and the frame returns TRUE. -/
def Caught (reader : Reader) (garbage bytes : List uint8) : Prop :=
  ∀ result, ReadMessage (BitVec.ofNat 16 (garbage.length + (frameOf bytes).length)) reader
    result → result.returned = false

/-! ## Reading escaped bytes -/

theorem feed_stuffOne {reader : Reader} (closed : reader.bInEsc = false) (u8Data : uint8) :
    reader.feed (serialCode.stuffOne u8Data) = reader.takeByte u8Data := by
  have same : ({ reader with bInEsc := false } : Reader) = reader := by rw [← closed]
  rw [Foundation.Stuffing.stuffOne]
  split_ifs with escaped
  · have changed := serialCode.change_reserved u8Data escaped
    have plain : ∀ other, serialCode.reserved other → serialCode.change u8Data ≠ other := by
      intro other isReserved equal
      rw [equal, isReserved] at changed
      exact absurd changed.symm Bool.false_ne_true
    have open_ : ({ reader with bInEsc := true } : Reader).bInEsc = true := rfl
    have back : serialCode.change u8Data ^^^ 0x10 = u8Data := serialCode.change_change u8Data
    rw [Reader.feed_cons, Reader.feed_cons]
    change ((Reader.readByte { reader with bInEsc := true } (serialCode.change u8Data)).1).feed []
      = _
    rw [readByte_plain ⟨plain _ (by decide), plain _ (by decide)⟩,
      if_neg (plain slEscChar (by decide)), if_pos open_, back]
    exact congrArg (Reader.takeByte · u8Data) same
  · have plain : ∀ other, serialCode.reserved other → u8Data ≠ other := by
      intro other isReserved equal
      exact escaped (equal ▸ isReserved)
    rw [Reader.feed_cons, readByte_plain ⟨plain _ (by decide), plain _ (by decide)⟩,
      if_neg (plain slEscChar (by decide)), closed]
    rfl

theorem feed_stuff {reader : Reader} (closed : reader.bInEsc = false) (bytes : List uint8) :
    reader.feed (serialCode.stuff bytes) = bytes.foldl Reader.takeByte reader := by
  induction bytes generalizing reader with
  | nil => rfl
  | cons u8Data bytes induction =>
      rw [Foundation.Stuffing.stuff_cons, Reader.feed_append, feed_stuffOne closed]
      exact induction ((takeByte_bInEsc _ _).trans closed)

theorem foldl_takeByte_waiting {reader : Reader} (waits : reader.eRxState = .waitStart)
    (bytes : List uint8) : bytes.foldl Reader.takeByte reader = reader := by
  induction bytes with
  | nil => rfl
  | cons u8Data bytes induction =>
      rw [List.foldl_cons, takeByte_of_waitStart waits]
      exact induction

theorem takeByte_stores (reader : Reader) (u8Data : uint8) :
    (reader.takeByte u8Data).u16Bytes.toNat ≤ reader.u16Bytes.toNat + 1 ∧
      ∀ index, reader.u16Bytes.toNat < index →
        (reader.takeByte u8Data).message index = reader.message index := by
  have behind : Behind reader.u16Bytes.toNat reader := Or.inr (Nat.le_refl _)
  refine ⟨?_, (takeByte_behind behind u8Data).2⟩
  rw [Reader.takeByte]
  split
  all_goals try exact Nat.le_succ _
  split_ifs
  · change (reader.u16Bytes + 1).toNat ≤ _
    rw [BitVec.toNat_add]
    exact Nat.mod_le _ _
  · exact Nat.le_succ _

theorem takeByte_header {reader : Reader} (header : reader.eRxState ≠ .waitData)
    (u8Data : uint8) :
    (reader.takeByte u8Data).u16Bytes = reader.u16Bytes ∧
      (reader.takeByte u8Data).message = reader.message := by
  rw [Reader.takeByte]
  split
  · exact ⟨rfl, rfl⟩
  · exact ⟨rfl, rfl⟩
  · exact ⟨rfl, rfl⟩
  · exact ⟨rfl, rfl⟩
  · exact ⟨rfl, rfl⟩
  · exact ⟨rfl, rfl⟩
  · exact absurd ‹_› header

theorem foldl_takeByte_message {reader : Reader} {bytes : List uint8} {index : Nat}
    (beyond : reader.u16Bytes.toNat + bytes.length ≤ index) :
    (bytes.foldl Reader.takeByte reader).message index = reader.message index := by
  induction bytes generalizing reader with
  | nil => rfl
  | cons u8Data bytes induction =>
      rw [List.length_cons] at beyond
      obtain ⟨few, unchanged⟩ := takeByte_stores reader u8Data
      rw [List.foldl_cons, induction (by omega), unchanged index (by omega)]

/-! ## The test at the END -/

/-- What the reader finds at the start of its buffer: the payload, and behind it
what was there before. -/
def overlay (payload : List uint8) (memory : Nat → uint8) : Nat → uint8 := fun index =>
  if index < payload.length then payload.getD index 0 else memory index

section AtEnd

variable (reader : Reader) (type1 type0 length1 length0 : uint8)

/-- The reader after a START and the first four bytes. -/
def announced : Reader :=
  { reader with
    u16Bytes := 0
    bInEsc := false
    u16Type := word type1 type0
    u16Length := word length1 length0
    eRxState := if rxMaxLength < (word length1 length0).toNat then .waitStart else .waitCrc }

theorem feed_start (bytes : List uint8) :
    reader.feed (slStartChar ::
        serialCode.stuff (type1 :: type0 :: length1 :: length0 :: bytes)) =
      bytes.foldl Reader.takeByte (announced reader type1 type0 length1 length0) := by
  rw [Reader.feed_cons, feed_stuff (parsed_start reader).2.1]
  rfl

variable (crc : uint8) (payload : List uint8)

/-- With a length that fits the END compares the checksum byte with the sum over what
is in the buffer. -/
theorem accepts_feed_start :
    (reader.feed (slStartChar ::
        serialCode.stuff (type1 :: type0 :: length1 :: length0 :: crc :: payload))).accepts ↔
      (word length1 length0).toNat ≤ rxMaxLength ∧
        crc = calculateCrc (word type1 type0) (word length1 length0)
          (overlay payload reader.message) := by
  have parsed := (parsed_feed_start reader (@plain_of_mem_stuff
    (type1 :: type0 :: length1 :: length0 :: crc :: payload))).1
  rw [(serialCode.unstuff_stuff _).1] at parsed
  have unstored : ∀ index, payload.length ≤ index →
      (reader.feed (slStartChar ::
        serialCode.stuff (type1 :: type0 :: length1 :: length0 :: crc :: payload))).message index =
        reader.message index := by
    intro index beyond
    have header : (announced reader type1 type0 length1 length0).eRxState ≠ .waitData := by
      rw [announced]
      split_ifs
      · exact fun equal => nomatch equal
      · exact fun equal => nomatch equal
    obtain ⟨bytes, message⟩ := takeByte_header header crc
    have none : (announced reader type1 type0 length1 length0).u16Bytes.toNat = 0 := rfl
    rw [feed_start, List.foldl_cons, foldl_takeByte_message (by rw [bytes, none]; omega), message]
    rfl
  by_cases long : rxMaxLength < (word length1 length0).toNat
  · rw [feed_start, foldl_takeByte_waiting (if_pos long)]
    constructor
    · rintro ⟨fits, -⟩
      exact absurd fits (Nat.not_le_of_lt long)
    · rintro ⟨fits, -⟩
      exact absurd fits (Nat.not_le_of_lt long)
  · obtain ⟨-, collecting⟩ := parsed.resolve_left fun tooLong => long tooLong.1
    have sum : calculateCrc (word type1 type0) (word length1 length0)
        (reader.feed (slStartChar :: serialCode.stuff
          (type1 :: type0 :: length1 :: length0 :: crc :: payload))).message =
        calculateCrc (word type1 type0) (word length1 length0)
          (overlay payload reader.message) := by
      apply calculateCrc_congr
      intro index inside
      rw [overlay]
      split_ifs with within
      · exact collecting.stored index (Nat.zero_le index) (by rw [collecting.bytes]; omega)
      · exact unstored index (Nat.le_of_not_lt within)
    rw [Reader.accepts, Reader.crcMatches, collecting.u16Type, collecting.u16Length,
      collecting.u8CRC, sum]

end AtEnd

theorem readMessage_frameOf {reader : Reader} {garbage bytes : List uint8}
    (noEnd : slEndChar ∉ garbage) (waits : reader.eRxState = .waitStart)
    (fits : garbage.length + (frameOf bytes).length ≤ 255)
    (buffer : HoldsAt reader.message 0 (garbage ++ frameOf bytes)) :
    ∃ consumed, ReadMessage (BitVec.ofNat 16 (garbage.length + (frameOf bytes).length)) reader
      ⟨(((reader.feed garbage).feed (slStartChar :: serialCode.stuff bytes)).readByte slEndChar).1,
        (((reader.feed garbage).feed (slStartChar :: serialCode.stuff bytes)).readByte
          slEndChar).2, consumed⟩ := by
  rw [frameOf_eq] at fits buffer ⊢
  have plain : ∀ u8Data ∈ serialCode.stuff bytes, Plain u8Data := plain_of_mem_stuff
  set body := serialCode.stuff bytes
  -- Everything before the END.
  set before := garbage ++ slStartChar :: body with isBefore
  have split : garbage ++ slStartChar :: (body ++ [slEndChar]) = before ++ [slEndChar] := by
    rw [isBefore, List.append_assoc, List.cons_append]
  have size : garbage.length + (slStartChar :: (body ++ [slEndChar])).length =
      before.length + 1 := by
    rw [← List.length_append, split, List.length_append]
    rfl
  rw [split] at buffer
  rw [size] at fits ⊢
  have beforeNoEnd : slEndChar ∉ before := slEndChar_not_mem_frame noEnd plain
  have length : (BitVec.ofNat 16 (before.length + 1)).toNat = before.length + 1 := by
    rw [BitVec.toNat_ofNat]
    omega
  obtain ⟨first, last⟩ := HoldsAt.append.mp buffer
  obtain ⟨loop, unread, -⟩ := readLoop_feed (BitVec.ofNat 16 (before.length + 1)) 2 []
    beforeNoEnd first (by omega) (by omega) (Or.inl waits)
  have isEnd : (reader.feed before).message before.length = slEndChar := by
    rw [unread _ (by omega)]
    have here := last 0 Nat.one_pos
    rwa [Nat.zero_add, Nat.add_zero] at here
  have value : (BitVec.ofNat 8 before.length).toNat = before.length := by
    rw [BitVec.toNat_ofNat]
    omega
  have next : (BitVec.ofNat 8 before.length + 1).toNat = before.length + 1 := by
    rw [BitVec.toNat_add, value]
    change (before.length + 1) % 256 = before.length + 1
    omega
  rw [← Reader.feed_append, ← isBefore]
  rw [Nat.zero_add, readLoop, value, if_pos (by omega), isEnd] at loop
  dsimp only at loop
  refine ⟨before ++ [slEndChar], 2 + before.length, ?_⟩
  cases returned : ((reader.feed before).readByte slEndChar).2 with
  | true =>
      rw [returned, if_pos rfl] at loop
      exact loop
  | false =>
      rw [returned, if_neg Bool.false_ne_true, readLoop, next, if_neg (by omega)] at loop
      exact loop

theorem caught_iff {reader : Reader} {garbage bytes : List uint8} (noEnd : slEndChar ∉ garbage)
    (waits : reader.eRxState = .waitStart)
    (fits : garbage.length + (frameOf bytes).length ≤ 255)
    (buffer : HoldsAt reader.message 0 (garbage ++ frameOf bytes)) :
    Caught reader garbage bytes ↔
      ¬((reader.feed garbage).feed (slStartChar :: serialCode.stuff bytes)).accepts := by
  obtain ⟨consumed, returns⟩ := readMessage_frameOf noEnd waits fits buffer
  constructor
  · intro caught accepted
    have rejected := caught _ returns
    rw [readByte_accepted accepted] at rejected
    exact Bool.noConfusion rejected
  · intro rejected result resultReturns
    rw [resultReturns.unique returns]
    apply Bool.eq_false_iff.mpr
    intro accepted
    exact rejected (readByte_returns accepted).2.1

/-! ## Sums of bytes -/

/-- The exclusive or of the bytes from one position up to another. -/
def xorBetween (pu8Data : Nat → uint8) (first last : Nat) : uint8 :=
  (List.range' first (last - first)).foldl (fun u8CRC n => u8CRC ^^^ pu8Data n) 0

theorem foldl_xor (pu8Data : Nat → uint8) (positions : List Nat) (u8CRC : uint8) :
    positions.foldl (fun u8CRC n => u8CRC ^^^ pu8Data n) u8CRC =
      u8CRC ^^^ positions.foldl (fun u8CRC n => u8CRC ^^^ pu8Data n) 0 := by
  induction positions generalizing u8CRC with
  | nil => exact (BitVec.xor_zero).symm
  | cons position positions induction =>
      have zero : (0 : uint8) ^^^ pu8Data position = pu8Data position := BitVec.zero_xor
      rw [List.foldl_cons, List.foldl_cons, zero, induction, induction (pu8Data position),
        BitVec.xor_assoc]

theorem xorBetween_append (pu8Data : Nat → uint8) {first middle last : Nat}
    (start : first ≤ middle) (rest : middle ≤ last) :
    xorBetween pu8Data first last =
      xorBetween pu8Data first middle ^^^ xorBetween pu8Data middle last := by
  have length : last - first = (middle - first) + (last - middle) := by omega
  have position : first + 1 * (middle - first) = middle := by omega
  rw [xorBetween, length, ← List.range'_append, position, List.foldl_append, foldl_xor]
  rfl

theorem xorBetween_congr {left right : Nat → uint8} {first last : Nat}
    (same : ∀ n, first ≤ n → n < last → left n = right n) :
    xorBetween left first last = xorBetween right first last := by
  apply List.foldl_ext
  intro u8CRC n member
  have bounds := List.mem_range'_1.mp member
  rw [same n bounds.1 (by omega)]

theorem xorBetween_update (pu8Data : Nat → uint8) {first last position : Nat}
    (above : first ≤ position) (below : position < last) (value : uint8) :
    xorBetween (Function.update pu8Data position value) first last =
      xorBetween pu8Data first last ^^^ (pu8Data position ^^^ value) := by
  have single : ∀ data : Nat → uint8, xorBetween data position (position + 1) =
      data position := by
    intro data
    rw [xorBetween, Nat.add_sub_cancel_left]
    exact BitVec.zero_xor
  have before : xorBetween (Function.update pu8Data position value) first position =
      xorBetween pu8Data first position :=
    xorBetween_congr fun n _ less => Function.update_of_ne (Nat.ne_of_lt less) _ _
  have after : xorBetween (Function.update pu8Data position value) (position + 1) last =
      xorBetween pu8Data (position + 1) last :=
    xorBetween_congr fun n more _ => Function.update_of_ne (by omega) _ _
  rw [xorBetween_append _ above (Nat.le_of_lt below),
    xorBetween_append _ (Nat.le_succ position) below, before, after, single,
    Function.update_self, xorBetween_append pu8Data above (Nat.le_of_lt below),
    xorBetween_append pu8Data (Nat.le_succ position) below, single]
  have cancel : pu8Data position ^^^ (pu8Data position ^^^ value) = value := by
    rw [← BitVec.xor_assoc, BitVec.xor_self, BitVec.zero_xor]
  conv_lhs => rw [← cancel]
  ac_rfl

theorem calculateCrc_sum (type1 type0 length1 length0 : uint8) (pu8Data : Nat → uint8) :
    calculateCrc (word type1 type0) (word length1 length0) pu8Data =
      type0 ^^^ type1 ^^^ length0 ^^^ length1 ^^^
        xorBetween pu8Data 0 (word length1 length0).toNat := by
  rw [calculateCrc_eq, foldl_xor, lowByte_word, lowByte_word, highByte_word, highByte_word,
    xorBetween, List.range_eq_range', Nat.sub_zero]

theorem xorBetween_lengths (pu8Data : Nat → uint8) (first second : Nat) :
    xorBetween pu8Data 0 second =
      xorBetween pu8Data 0 first ^^^ xorBetween pu8Data (min first second) (max first second) := by
  rcases Nat.le_total first second with shorter | longer
  · rw [Nat.min_eq_left shorter, Nat.max_eq_right shorter]
    exact xorBetween_append pu8Data (Nat.zero_le first) shorter
  · rw [Nat.min_eq_right longer, Nat.max_eq_left longer,
      xorBetween_append pu8Data (Nat.zero_le second) longer, BitVec.xor_assoc, BitVec.xor_self,
      BitVec.xor_zero]

theorem xor_eq_xor_iff {left right sum between : uint8} :
    left ^^^ sum = right ^^^ (sum ^^^ between) ↔ between = left ^^^ right := by
  constructor
  · intro equal
    have cancelled := congrArg (right ^^^ sum ^^^ ·) equal
    have leftSide : right ^^^ sum ^^^ (left ^^^ sum) = left ^^^ right ^^^ (sum ^^^ sum) := by
      ac_rfl
    have rightSide : right ^^^ sum ^^^ (right ^^^ (sum ^^^ between)) =
        right ^^^ right ^^^ (sum ^^^ sum) ^^^ between := by ac_rfl
    rw [leftSide, rightSide, BitVec.xor_self, BitVec.xor_self, BitVec.xor_zero, BitVec.zero_xor,
      BitVec.zero_xor] at cancelled
    exact cancelled.symm
  · intro equal
    have regroup : right ^^^ (sum ^^^ (left ^^^ right)) =
        left ^^^ sum ^^^ (right ^^^ right) := by ac_rfl
    rw [equal, regroup, BitVec.xor_self, BitVec.xor_zero]

/-! ## One changed byte -/

section Changed

variable {u16Type : uint16} {payload : List uint8}

/-- The bytes between the two lengths, of the payload and of the buffer behind it, make up
for the change of the length. -/
def LengthHidden (payload : List uint8) (memory : Nat → uint8) (u16Length : uint16) : Prop :=
  u16Length.toNat ≤ rxMaxLength ∧
    xorBetween (overlay payload memory) (min payload.length u16Length.toNat)
        (max payload.length u16Length.toNat) =
      BitVec.ofNat 8 payload.length ^^^ (lowByte u16Length ^^^ highByte u16Length)

/-- The length that complete bytes declare. -/
def declaredLength (bytes : List uint8) : uint16 := word (bytes.getD 2 0) (bytes.getD 3 0)

theorem overlay_getD (memory : Nat → uint8) {n : Nat} (inside : n < payload.length) :
    overlay payload memory n = payload.getD n 0 := if_pos inside

theorem length_word (short : payload.length ≤ 100) :
    highByte (BitVec.ofNat 16 payload.length) = 0 ∧
      lowByte (BitVec.ofNat 16 payload.length) = BitVec.ofNat 8 payload.length ∧
      (BitVec.ofNat 16 payload.length).toNat = payload.length := by
  have size : (BitVec.ofNat 16 payload.length).toNat = payload.length := by
    rw [BitVec.toNat_ofNat]
    omega
  refine ⟨?_, ?_, size⟩
  · apply BitVec.eq_of_toNat_eq
    rw [highByte, BitVec.toNat_setWidth, BitVec.toNat_ushiftRight, size,
      Nat.shiftRight_eq_div_pow]
    change payload.length / 2 ^ 8 % 2 ^ 8 = 0
    omega
  · apply BitVec.eq_of_toNat_eq
    rw [lowByte, BitVec.toNat_setWidth, size, BitVec.toNat_ofNat]

theorem messageCrc_sum (short : payload.length ≤ 100) (memory : Nat → uint8) :
    messageCrc u16Type payload =
      lowByte u16Type ^^^ highByte u16Type ^^^ lowByte (BitVec.ofNat 16 payload.length) ^^^
        highByte (BitVec.ofNat 16 payload.length) ^^^
        xorBetween (overlay payload memory) 0 payload.length := by
  have size := (length_word short).2.2
  have sum := calculateCrc_sum (highByte u16Type) (lowByte u16Type)
    (highByte (BitVec.ofNat 16 payload.length)) (lowByte (BitVec.ofNat 16 payload.length))
    (fun n => payload.getD n 0)
  rw [word_bytes, word_bytes, size] at sum
  rw [messageCrc, sum, xorBetween_congr fun n _ inside => overlay_getD memory inside]

theorem accepts_length_iff (short : payload.length ≤ 100) (reader : Reader)
    (length1 length0 : uint8) :
    (reader.feed (slStartChar :: serialCode.stuff (highByte u16Type :: lowByte u16Type ::
        length1 :: length0 :: messageCrc u16Type payload :: payload))).accepts ↔
      LengthHidden payload reader.message (word length1 length0) := by
  obtain ⟨high, low, -⟩ := length_word short
  rw [accepts_feed_start, calculateCrc_sum, messageCrc_sum short reader.message, LengthHidden,
    xorBetween_lengths _ payload.length (word length1 length0).toNat, high, low, lowByte_word,
    highByte_word, xor_eq_xor_iff]
  have regroup : lowByte u16Type ^^^ highByte u16Type ^^^ BitVec.ofNat 8 payload.length ^^^ 0 ^^^
      (lowByte u16Type ^^^ highByte u16Type ^^^ length0 ^^^ length1) =
      BitVec.ofNat 8 payload.length ^^^ (length0 ^^^ length1) ^^^
        (lowByte u16Type ^^^ lowByte u16Type) ^^^ (highByte u16Type ^^^ highByte u16Type) ^^^ 0 := by
    ac_rfl
  have zero : ∀ byte : uint8, byte ^^^ (0 : uint8) = byte := fun _ => BitVec.xor_zero
  have same : ∀ byte : uint8, byte ^^^ byte = (0 : uint8) := fun _ => BitVec.xor_self
  rw [regroup, same, same, zero, zero, zero]

theorem xorBetween_set {position : Nat} (inside : position < payload.length) {value : uint8}
    (memory : Nat → uint8) :
    xorBetween (overlay (payload.set position value) memory) 0 payload.length =
      xorBetween (overlay payload memory) 0 payload.length ^^^
        (payload[position] ^^^ value) := by
  have here : overlay payload memory position = payload[position] := by
    rw [overlay_getD memory inside]
    simp [List.getD, List.getElem?_eq_getElem inside]
  rw [← here, ← xorBetween_update _ (Nat.zero_le position) inside]
  apply xorBetween_congr
  intro n _ below
  rw [overlay_getD memory (by rwa [List.length_set])]
  by_cases equal : n = position
  · subst equal
    simp [List.getD, below]
  · rw [Function.update_of_ne equal, overlay_getD memory below]
    simp [List.getD, List.getElem?_set_ne (Ne.symm equal)]

/-- A single changed byte is caught, unless it changes the length and what lies in the
buffer between the two lengths hides it. -/
theorem corruption_caught_iff {garbage : List uint8} {reader : Reader} {position : Nat}
    {value : uint8} (short : payload.length ≤ 100) (noEnd : slEndChar ∉ garbage)
    (waits : reader.eRxState = .waitStart)
    (inside : position < (frameBytes u16Type payload).length)
    (changed : (frameBytes u16Type payload)[position] ≠ value)
    (fits : garbage.length +
      (frameOf ((frameBytes u16Type payload).set position value)).length ≤ 255)
    (buffer : HoldsAt reader.message 0
      (garbage ++ frameOf ((frameBytes u16Type payload).set position value))) :
    Caught reader garbage ((frameBytes u16Type payload).set position value) ↔
      (position = 2 ∨ position = 3 → ¬LengthHidden payload (reader.feed garbage).message
        (declaredLength ((frameBytes u16Type payload).set position value))) := by
  rw [caught_iff noEnd waits fits buffer]
  generalize reader.feed garbage = started
  clear fits buffer
  have other : ∀ {accepted : Prop} {place : Nat}, ¬accepted → place ≠ 2 → place ≠ 3 →
      ∀ {hidden : Prop}, ¬accepted ↔ (place = 2 ∨ place = 3 → hidden) := by
    intro accepted place rejected notTwo notThree hidden
    exact iff_of_true rejected fun length => absurd length (not_or.mpr ⟨notTwo, notThree⟩)
  have crc := @messageCrc_sum u16Type payload short started.message
  have size := (length_word short).2.2
  have declared : word (highByte (BitVec.ofNat 16 payload.length))
      (lowByte (BitVec.ofNat 16 payload.length)) = BitVec.ofNat 16 payload.length := word_bytes _
  match position with
  | 0 =>
      apply other _ (by decide) (by decide)
      intro accepted
      have sum := ((accepts_feed_start started _ _ _ _ _ payload).mp accepted).2
      rw [calculateCrc_sum, declared, size, crc] at sum
      rw [BitVec.xor_left_inj, BitVec.xor_left_inj, BitVec.xor_left_inj,
        BitVec.xor_right_inj] at sum
      exact changed sum
  | 1 =>
      apply other _ (by decide) (by decide)
      intro accepted
      have sum := ((accepts_feed_start started _ _ _ _ _ payload).mp accepted).2
      rw [calculateCrc_sum, declared, size, crc] at sum
      rw [BitVec.xor_left_inj, BitVec.xor_left_inj, BitVec.xor_left_inj,
        BitVec.xor_left_inj] at sum
      exact changed sum
  | 2 =>
      exact (not_congr (accepts_length_iff short started value _)).trans
        ⟨fun shown _ => shown, fun shown => shown (Or.inl rfl)⟩
  | 3 =>
      exact (not_congr (accepts_length_iff short started _ value)).trans
        ⟨fun shown _ => shown, fun shown => shown (Or.inr rfl)⟩
  | 4 =>
      apply other _ (by decide) (by decide)
      intro accepted
      have sum := ((accepts_feed_start started _ _ _ _ _ payload).mp accepted).2
      rw [calculateCrc_sum, declared, size, ← crc] at sum
      exact changed sum.symm
  | index + 5 =>
      apply other _ (by omega) (by omega)
      intro accepted
      have within : index < payload.length := by
        rw [frameBytes, List.length_cons, List.length_cons, List.length_cons, List.length_cons,
          List.length_cons] at inside
        omega
      have sum := ((accepts_feed_start started _ _ _ _ _ (payload.set index value)).mp accepted).2
      rw [calculateCrc_sum, declared, size, crc, xorBetween_set within] at sum
      rw [BitVec.xor_right_inj] at sum
      have grown := BitVec.xor_zero.trans sum
      rw [BitVec.xor_right_inj] at grown
      exact changed (BitVec.xor_eq_zero_iff.mp grown.symm)

end Changed

/-- A permit-join request whose payload byte 0x64 became 0x65. -/
theorem corruption_caught_iff_permitJoin :
    Caught ⟨.initial, 0, 0, bufferOf ([0x55] ++
        frameOf ((frameBytes 0x0049 [0xff, 0xfc, 0x64, 0x00]).set 7 0x65))⟩ [0x55]
      ((frameBytes 0x0049 [0xff, 0xfc, 0x64, 0x00]).set 7 0x65) :=
  (corruption_caught_iff (by decide) (by decide) rfl (by decide) (by decide) (by decide)
    (bufferOf_holds _)).mpr fun length => absurd length (by decide)

/-- A version request whose length became 1: the byte 0x01 that the reader adds to the sum
is the START in front of the frame. -/
theorem corruption_caught_fails :
    ¬∀ (u16Type : uint16) (payload garbage : List uint8) (reader : Reader) (position : Nat)
      (value : uint8) (_ : payload.length ≤ 100) (_ : slEndChar ∉ garbage)
      (_ : reader.eRxState = .waitStart)
      (inside : position < (frameBytes u16Type payload).length)
      (_ : (frameBytes u16Type payload)[position] ≠ value)
      (_ : garbage.length +
        (frameOf ((frameBytes u16Type payload).set position value)).length ≤ 255)
      (_ : HoldsAt reader.message 0
        (garbage ++ frameOf ((frameBytes u16Type payload).set position value))),
      Caught reader garbage ((frameBytes u16Type payload).set position value) := by
  intro all
  have caught := all 0x0010 [] [] ⟨.initial, 0, 0,
    bufferOf (frameOf ((frameBytes 0x0010 []).set 3 1))⟩ 3 1 (by decide) (by decide) rfl
    (by decide) (by decide) (by decide) (bufferOf_holds _)
  rw [caught_iff (by decide) rfl (by decide) (bufferOf_holds _)] at caught
  exact caught (by decide +kernel)

end StudyDemo.SerialLink
