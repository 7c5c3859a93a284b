import StudyDemo.Foundation.Stuffing
import StudyDemo.SerialLink.Reader

/-! # What the reader has parsed

After a START the reader's state is a function of the unescaped bytes since.
`Parsed` computes it from these bytes alone; each byte of the buffer extends
them. -/

namespace StudyDemo.SerialLink

/-- The escaping of the serial link. -/
def serialCode : Foundation.Stuffing uint8 where
  escape := slEscChar
  reserved byte := decide (byte < 0x10)
  change byte := byte ^^^ 0x10
  change_change := by decide
  change_reserved := by decide
  escape_reserved := by decide

def word (high low : uint8) : uint16 := high.setWidth 16 <<< 8 + low.setWidth 16

theorem word_toNat (high low : uint8) :
    (word high low).toNat = 256 * high.toNat + low.toNat := by
  have highBound := high.isLt
  have lowBound := low.isLt
  simp only [word, BitVec.toNat_add, BitVec.toNat_shiftLeft, BitVec.toNat_setWidth,
    Nat.shiftLeft_eq]
  omega

/-- The payload state. The bytes from `base` on were stored in this buffer. -/
structure Collecting (base : Nat) (reader : Reader) (type length : uint16) (crc : uint8)
    (payload : List uint8) : Prop where
  state : reader.eRxState = .waitData
  u16Type : reader.u16Type = type
  u16Length : reader.u16Length = length
  u8CRC : reader.u8CRC = crc
  bytes : reader.u16Bytes.toNat = min payload.length length.toNat
  stored : ∀ index, base ≤ index → index < reader.u16Bytes.toNat →
    reader.message index = payload.getD index 0

/-- The reader after a START and these unescaped bytes. -/
def Parsed (base : Nat) (reader : Reader) : List uint8 → Prop
  | [] => reader.eRxState = .waitTypeMsb ∧ reader.u16Bytes = 0
  | [type1] =>
      reader.eRxState = .waitTypeLsb ∧ reader.u16Bytes = 0 ∧
        reader.u16Type = type1.setWidth 16 <<< 8
  | [type1, type0] =>
      reader.eRxState = .waitLenMsb ∧ reader.u16Bytes = 0 ∧ reader.u16Type = word type1 type0
  | [type1, type0, length1] =>
      reader.eRxState = .waitLenLsb ∧ reader.u16Bytes = 0 ∧
        reader.u16Type = word type1 type0 ∧ reader.u16Length = length1.setWidth 16 <<< 8
  | [type1, type0, length1, length0] =>
      rxMaxLength < (word length1 length0).toNat ∧ reader.eRxState = .waitStart ∨
        (word length1 length0).toNat ≤ rxMaxLength ∧ reader.eRxState = .waitCrc ∧
          reader.u16Bytes = 0 ∧ reader.u16Type = word type1 type0 ∧
          reader.u16Length = word length1 length0
  | type1 :: type0 :: length1 :: length0 :: crc :: payload =>
      rxMaxLength < (word length1 length0).toNat ∧ reader.eRxState = .waitStart ∨
        (word length1 length0).toNat ≤ rxMaxLength ∧
          Collecting base reader (word type1 type0) (word length1 length0) crc payload

/-! ## One unescaped byte -/

section TakeByte

variable {base : Nat} {reader : Reader}

theorem takeByte_of_waitStart (waits : reader.eRxState = .waitStart) (u8Data : uint8) :
    reader.takeByte u8Data = reader := by
  rw [Reader.takeByte, waits]

theorem Collecting.takeByte {type length : uint16} {crc : uint8} {payload : List uint8}
    (collecting : Collecting base reader type length crc payload)
    (fits : length.toNat ≤ rxMaxLength) (u8Data : uint8) :
    Collecting base (reader.takeByte u8Data) type length crc (payload ++ [u8Data]) := by
  have bytes := collecting.bytes
  have bound : length.toNat ≤ 256 := fits
  rw [Reader.takeByte, collecting.state]
  dsimp only
  split_ifs with room
  · have below : reader.u16Bytes.toNat < length.toNat := by
      have less := BitVec.lt_def.mp room
      rwa [collecting.u16Length] at less
    have position : reader.u16Bytes.toNat = payload.length := by omega
    have next : (reader.u16Bytes + 1).toNat = payload.length + 1 := by
      rw [BitVec.toNat_add, position]
      change (payload.length + 1) % 65536 = payload.length + 1
      omega
    refine ⟨rfl, collecting.u16Type, collecting.u16Length, collecting.u8CRC, ?_, ?_⟩
    · rw [next, List.length_append, List.length_singleton]
      omega
    · intro index fromBase inside
      rw [next] at inside
      change Function.update reader.message reader.u16Bytes.toNat u8Data index = _
      rw [position]
      by_cases last : index = payload.length
      · rw [last, Function.update_self]
        simp
      · rw [Function.update_of_ne last, collecting.stored index fromBase (by omega)]
        simp [List.getD, List.getElem?_append_left (show index < payload.length by omega)]
  · have full : length.toNat ≤ reader.u16Bytes.toNat := by
      rw [← collecting.u16Length]
      exact Nat.le_of_not_lt fun below => room (BitVec.lt_def.mpr below)
    refine ⟨collecting.state, collecting.u16Type, collecting.u16Length, collecting.u8CRC, ?_, ?_⟩
    · rw [List.length_append, List.length_singleton]
      omega
    · intro index fromBase inside
      rw [collecting.stored index fromBase inside]
      simp [List.getD, List.getElem?_append_left (show index < payload.length by omega)]

theorem Parsed.takeByte {parsed : List uint8} (state : Parsed base reader parsed)
    (u8Data : uint8) : Parsed base (reader.takeByte u8Data) (parsed ++ [u8Data]) := by
  match parsed with
  | [] =>
      obtain ⟨waits, bytes⟩ := state
      rw [Reader.takeByte, waits]
      exact ⟨rfl, bytes, rfl⟩
  | [type1] =>
      obtain ⟨waits, bytes, type⟩ := state
      rw [Reader.takeByte, waits]
      exact ⟨rfl, bytes, by rw [type]; rfl⟩
  | [type1, type0] =>
      obtain ⟨waits, bytes, type⟩ := state
      rw [Reader.takeByte, waits]
      exact ⟨rfl, bytes, type, rfl⟩
  | [type1, type0, length1] =>
      obtain ⟨waits, bytes, type, length⟩ := state
      rw [Reader.takeByte, waits, length]
      change _ ∨ _
      by_cases long : rxMaxLength < (word length1 u8Data).toNat
      · exact Or.inl ⟨long, if_pos long⟩
      · exact Or.inr ⟨Nat.le_of_not_lt long, if_neg long, bytes, type, rfl⟩
  | [type1, type0, length1, length0] =>
      rcases state with ⟨long, waits⟩ | ⟨fits, waits, bytes, type, length⟩
      · rw [takeByte_of_waitStart waits]
        exact Or.inl ⟨long, waits⟩
      · rw [Reader.takeByte, waits]
        refine Or.inr ⟨fits, rfl, type, length, rfl, ?_, ?_⟩
        · rw [bytes]
          exact (Nat.zero_min _).symm
        · intro index _ inside
          change index < reader.u16Bytes.toNat at inside
          rw [bytes] at inside
          exact absurd inside (Nat.not_lt_zero index)
  | type1 :: type0 :: length1 :: length0 :: crc :: payload =>
      rcases state with ⟨long, waits⟩ | ⟨fits, collecting⟩
      · rw [takeByte_of_waitStart waits]
        exact Or.inl ⟨long, waits⟩
      · exact Or.inr ⟨fits, collecting.takeByte fits u8Data⟩

/-- While only the header was parsed no byte was stored, and the buffer may be
another one. -/
theorem Parsed.rebuffer_header {parsed : List uint8} (state : Parsed base reader parsed)
    (header : parsed.length ≤ 5) (memory : Nat → uint8) :
    Parsed 0 { reader with message := memory } parsed ∧
      (reader.eRxState = .waitStart ∨ reader.u16Bytes = 0) := by
  match parsed with
  | [] => exact ⟨state, Or.inr state.2⟩
  | [_] => exact ⟨state, Or.inr state.2.1⟩
  | [_, _] => exact ⟨state, Or.inr state.2.1⟩
  | [_, _, _] => exact ⟨state, Or.inr state.2.1⟩
  | [_, _, _, _] =>
      refine ⟨state, ?_⟩
      rcases state with ⟨-, waits⟩ | ⟨-, -, bytes, -⟩
      · exact Or.inl waits
      · exact Or.inr bytes
  | [type1, type0, length1, length0, crc] =>
      rcases state with ⟨long, waits⟩ | ⟨fits, collecting⟩
      · exact ⟨Or.inl ⟨long, waits⟩, Or.inl waits⟩
      · have none : reader.u16Bytes.toNat = 0 := by
          rw [collecting.bytes]
          exact Nat.zero_min _
        refine ⟨Or.inr ⟨fits, collecting.state, collecting.u16Type, collecting.u16Length,
          collecting.u8CRC, collecting.bytes, ?_⟩, Or.inr (BitVec.eq_of_toNat_eq none)⟩
        intro index _ inside
        change index < reader.u16Bytes.toNat at inside
        omega

theorem Parsed.rebuffer {parsed : List uint8} (state : Parsed base reader parsed)
    (memory : Nat → uint8) :
    Parsed reader.u16Bytes.toNat { reader with message := memory } parsed := by
  match parsed with
  | [] => exact state
  | [_] => exact state
  | [_, _] => exact state
  | [_, _, _] => exact state
  | [_, _, _, _] => exact state
  | _ :: _ :: _ :: _ :: _ :: _ =>
      rcases state with tooLong | ⟨fits, collecting⟩
      · exact Or.inl tooLong
      · refine Or.inr ⟨fits, collecting.state, collecting.u16Type, collecting.u16Length,
          collecting.u8CRC, collecting.bytes, ?_⟩
        intro index fromBase inside
        exact absurd inside (Nat.not_lt_of_le fromBase)

theorem Parsed.withEscape {parsed : List uint8} (state : Parsed base reader parsed)
    (flag : Bool) : Parsed base { reader with bInEsc := flag } parsed := by
  match parsed with
  | [] => exact state
  | [_] => exact state
  | [_, _] => exact state
  | [_, _, _] => exact state
  | [_, _, _, _] => exact state
  | _ :: _ :: _ :: _ :: _ :: _ =>
      rcases state with tooLong | ⟨fits, collecting⟩
      · exact Or.inl tooLong
      · exact Or.inr ⟨fits, collecting.state, collecting.u16Type, collecting.u16Length,
          collecting.u8CRC, collecting.bytes, collecting.stored⟩

end TakeByte

/-! ## Bytes of the buffer -/

def Plain (u8Data : uint8) : Prop := u8Data ≠ slStartChar ∧ u8Data ≠ slEndChar

theorem slEndChar_not_mem_frame {garbage body : List uint8} (noEnd : slEndChar ∉ garbage)
    (plain : ∀ u8Data ∈ body, Plain u8Data) : slEndChar ∉ garbage ++ slStartChar :: body := by
  intro member
  rcases List.mem_append.mp member with inGarbage | inFrame
  · exact noEnd inGarbage
  · rcases List.mem_cons.mp inFrame with isStart | inBody
    · exact absurd isStart (by decide)
    · exact (plain _ inBody).2 rfl

theorem readByte_plain {reader : Reader} {u8Data : uint8} (plain : Plain u8Data) :
    reader.readByte u8Data =
      if u8Data = slEscChar then ({ reader with bInEsc := true }, false)
      else if reader.bInEsc then
        (Reader.takeByte { reader with bInEsc := false } (u8Data ^^^ 0x10), false)
      else (reader.takeByte u8Data, false) := by
  rw [Reader.readByte, if_neg plain.1, if_neg plain.2]

theorem readByte_end_message (reader : Reader) :
    (reader.readByte slEndChar).1.message = reader.message := by
  rw [Reader.readByte, if_neg (by decide), if_neg (by decide), if_pos rfl]
  split_ifs <;> rfl

@[simp] theorem takeByte_bInEsc (reader : Reader) (u8Data : uint8) :
    (reader.takeByte u8Data).bInEsc = reader.bInEsc := by
  rw [Reader.takeByte]
  split
  · rfl
  · rfl
  · rfl
  · rfl
  · rfl
  · rfl
  · split_ifs <;> rfl

theorem Parsed.readByte {base : Nat} {reader : Reader} {parsed : List uint8}
    (state : Parsed base reader parsed) {u8Data : uint8} (plain : Plain u8Data) :
    Parsed base (reader.readByte u8Data).1
        (parsed ++ serialCode.unstuff reader.bInEsc [u8Data]) ∧
      (reader.readByte u8Data).1.bInEsc = serialCode.pending reader.bInEsc [u8Data] ∧
      (reader.readByte u8Data).2 = false := by
  rw [readByte_plain plain, serialCode.pending_singleton]
  by_cases isEscape : u8Data = serialCode.escape
  · have branch : u8Data = slEscChar := isEscape
    rw [if_pos branch, isEscape, serialCode.unstuff_escape, List.append_nil]
    exact ⟨state.withEscape true, (decide_eq_true rfl).symm, rfl⟩
  · have branch : ¬u8Data = slEscChar := isEscape
    rw [if_neg branch, serialCode.unstuff_singleton reader.bInEsc isEscape,
      decide_eq_false isEscape]
    cases flag : reader.bInEsc with
    | true => exact ⟨(state.withEscape false).takeByte _, takeByte_bInEsc _ _, rfl⟩
    | false => exact ⟨state.takeByte _, (takeByte_bInEsc _ _).trans flag, rfl⟩

/-- The reader after the bytes, none of which ends the call. -/
def Reader.feed (reader : Reader) (bytes : List uint8) : Reader :=
  bytes.foldl (fun reader u8Data => (reader.readByte u8Data).1) reader

theorem Reader.feed_append (reader : Reader) (left right : List uint8) :
    reader.feed (left ++ right) = (reader.feed left).feed right := List.foldl_append

theorem Reader.feed_cons (reader : Reader) (u8Data : uint8) (bytes : List uint8) :
    reader.feed (u8Data :: bytes) = (reader.readByte u8Data).1.feed bytes := rfl

theorem Parsed.feed {base : Nat} {reader : Reader} {parsed : List uint8}
    (state : Parsed base reader parsed) {bytes : List uint8}
    (plain : ∀ u8Data ∈ bytes, Plain u8Data) :
    Parsed base (reader.feed bytes) (parsed ++ serialCode.unstuff reader.bInEsc bytes) ∧
      (reader.feed bytes).bInEsc = serialCode.pending reader.bInEsc bytes := by
  induction bytes generalizing reader parsed with
  | nil =>
      rw [Foundation.Stuffing.unstuff_nil, List.append_nil]
      exact ⟨state, rfl⟩
  | cons u8Data bytes induction =>
      obtain ⟨next, flag, -⟩ := state.readByte (plain u8Data List.mem_cons_self)
      obtain ⟨parsedAll, flagAll⟩ := induction next fun other member =>
        plain other (List.mem_cons_of_mem _ member)
      have unstuffed := serialCode.unstuff_append reader.bInEsc [u8Data] bytes
      have left := serialCode.pending_append reader.bInEsc [u8Data] bytes
      rw [flag, List.append_assoc] at parsedAll
      rw [flag] at flagAll
      rw [List.singleton_append] at unstuffed left
      rw [Reader.feed_cons, unstuffed, left]
      exact ⟨parsedAll, flagAll⟩

theorem parsed_start (reader : Reader) :
    Parsed 0 (reader.readByte slStartChar).1 [] ∧
      (reader.readByte slStartChar).1.bInEsc = false ∧
      (reader.readByte slStartChar).2 = false := ⟨⟨rfl, rfl⟩, rfl, rfl⟩

/-! ## Reading ahead of the stores -/

/-- The next store goes to a byte that was taken out already. -/
def Behind (cursor : Nat) (reader : Reader) : Prop :=
  reader.eRxState = .waitStart ∨ reader.u16Bytes.toNat ≤ cursor

theorem takeByte_behind {cursor : Nat} {reader : Reader} (behind : Behind cursor reader)
    (u8Data : uint8) :
    Behind (cursor + 1) (reader.takeByte u8Data) ∧
      ∀ index, cursor < index → (reader.takeByte u8Data).message index =
        reader.message index := by
  rcases behind with waits | below
  · rw [takeByte_of_waitStart waits]
    exact ⟨Or.inl waits, fun _ _ => rfl⟩
  · have later : reader.u16Bytes.toNat ≤ cursor + 1 := by omega
    rw [Reader.takeByte]
    split
    · exact ⟨Or.inr later, fun _ _ => rfl⟩
    · exact ⟨Or.inr later, fun _ _ => rfl⟩
    · exact ⟨Or.inr later, fun _ _ => rfl⟩
    · exact ⟨Or.inr later, fun _ _ => rfl⟩
    · exact ⟨Or.inr later, fun _ _ => rfl⟩
    · exact ⟨Or.inr later, fun _ _ => rfl⟩
    · split_ifs
      · refine ⟨Or.inr ?_, fun index ahead => ?_⟩
        · have grows : (reader.u16Bytes + 1).toNat ≤ reader.u16Bytes.toNat + 1 := by
            rw [BitVec.toNat_add]
            exact Nat.mod_le _ _
          exact Nat.le_trans grows (by omega)
        · exact Function.update_of_ne (by omega) _ _
      · exact ⟨Or.inr later, fun _ _ => rfl⟩

theorem readByte_behind {cursor : Nat} {reader : Reader} (behind : Behind cursor reader)
    {u8Data : uint8} (notEnd : u8Data ≠ slEndChar) :
    Behind (cursor + 1) (reader.readByte u8Data).1 ∧
      (∀ index, cursor < index → (reader.readByte u8Data).1.message index =
        reader.message index) ∧
      (reader.readByte u8Data).2 = false := by
  by_cases isStart : u8Data = slStartChar
  · rw [isStart]
    exact ⟨Or.inr (Nat.zero_le _), fun _ _ => rfl, rfl⟩
  · have later : Behind (cursor + 1) reader := by
      rcases behind with waits | below
      · exact Or.inl waits
      · exact Or.inr (by omega)
    rw [readByte_plain ⟨isStart, notEnd⟩]
    split_ifs
    · exact ⟨later, fun _ _ => rfl, rfl⟩
    · have closed : Behind cursor { reader with bInEsc := false } := behind
      obtain ⟨next, same⟩ := takeByte_behind closed (u8Data ^^^ 0x10)
      exact ⟨next, same, rfl⟩
    · obtain ⟨next, same⟩ := takeByte_behind behind u8Data
      exact ⟨next, same, rfl⟩

/-- The memory holds the bytes from a position on. -/
def HoldsAt (message : Nat → uint8) (start : Nat) (bytes : List uint8) : Prop :=
  ∀ index, index < bytes.length → message (start + index) = bytes.getD index 0

theorem HoldsAt.append {message : Nat → uint8} {start : Nat} {left right : List uint8} :
    HoldsAt message start (left ++ right) ↔
      HoldsAt message start left ∧ HoldsAt message (start + left.length) right := by
  constructor
  · intro holds
    refine ⟨fun index inside => ?_, fun index inside => ?_⟩
    · rw [holds index (by rw [List.length_append]; omega)]
      simp [List.getD, List.getElem?_append_left inside]
    · have here := holds (left.length + index) (by rw [List.length_append]; omega)
      rw [Nat.add_assoc, here]
      simp [List.getD, List.getElem?_append_right (Nat.le_add_right left.length index)]
  · rintro ⟨first, second⟩ index inside
    rw [List.length_append] at inside
    by_cases within : index < left.length
    · rw [first index within]
      simp [List.getD, List.getElem?_append_left within]
    · have here := second (index - left.length) (by omega)
      rw [Nat.add_assoc, Nat.add_sub_cancel' (by omega)] at here
      rw [here]
      simp [List.getD, List.getElem?_append_right (Nat.le_of_not_lt within)]

theorem HoldsAt.congr {before after : Nat → uint8} {start : Nat} {bytes : List uint8}
    (holds : HoldsAt before start bytes)
    (same : ∀ index, start ≤ index → after index = before index) :
    HoldsAt after start bytes := by
  intro index inside
  rw [same _ (Nat.le_add_right start index)]
  exact holds index inside

/-- As long as the stores stay behind, the loop takes out the bytes as they
were put in. -/
theorem readLoop_feed (u16MsgLen : uint16) (fuel : Nat) {cursor : Nat} {reader : Reader}
    {bytes : List uint8} (consumed : List uint8) (noEnd : slEndChar ∉ bytes)
    (holds : HoldsAt reader.message cursor bytes)
    (fits : cursor + bytes.length ≤ u16MsgLen.toNat) (small : cursor + bytes.length ≤ 255)
    (behind : Behind cursor reader) :
    readLoop u16MsgLen (fuel + bytes.length) (BitVec.ofNat 8 cursor) reader consumed =
        readLoop u16MsgLen fuel (BitVec.ofNat 8 (cursor + bytes.length)) (reader.feed bytes)
          (consumed ++ bytes) ∧
      (∀ index, cursor + bytes.length ≤ index →
        (reader.feed bytes).message index = reader.message index) ∧
      Behind (cursor + bytes.length) (reader.feed bytes) := by
  induction bytes generalizing cursor reader consumed with
  | nil =>
      rw [List.append_nil]
      exact ⟨rfl, fun _ _ => rfl, behind⟩
  | cons u8Data bytes induction =>
      rw [List.length_cons] at fits small
      have first : reader.message cursor = u8Data := holds 0 (Nat.succ_pos _)
      have notEnd : u8Data ≠ slEndChar := fun equal =>
        noEnd (equal ▸ List.mem_cons_self)
      have value : (BitVec.ofNat 8 cursor).toNat = cursor := by
        rw [BitVec.toNat_ofNat]
        omega
      have next : BitVec.ofNat 8 cursor + 1 = BitVec.ofNat 8 (cursor + 1) :=
        (BitVec.ofNat_add cursor 1).symm
      obtain ⟨nextBehind, same, goesOn⟩ := readByte_behind behind notEnd
      have rest : HoldsAt (reader.readByte u8Data).1.message (cursor + 1) bytes := by
        have split := HoldsAt.append.mp (show HoldsAt reader.message cursor
          ([u8Data] ++ bytes) from holds)
        exact split.2.congr fun index ahead => same index ahead
      obtain ⟨loop, unchanged, further⟩ := induction (consumed ++ [u8Data])
        (fun member => noEnd (List.mem_cons_of_mem _ member)) rest (by omega) (by omega)
        nextBehind
      have shift : cursor + 1 + bytes.length = cursor + (bytes.length + 1) := by omega
      rw [shift] at loop unchanged further
      refine ⟨?_, ?_, further⟩
      · rw [List.length_cons, ← Nat.add_assoc, readLoop, value, if_pos (by omega), first]
        simp only [goesOn, Bool.false_eq_true, if_false, next]
        rw [loop, List.append_assoc, List.singleton_append, Reader.feed_cons]
      · intro index ahead
        exact (unchanged index ahead).trans (same index (by
          rw [List.length_cons] at ahead
          omega))

end StudyDemo.SerialLink
