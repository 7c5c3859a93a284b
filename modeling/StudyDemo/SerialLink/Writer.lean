import StudyDemo.SerialLink.Parsing

/-! # The serial writer

`eSL_WriteMessage` of the command tool prints a frame byte by byte. The tool
defines `uint16_t` as `unsigned int`. -/

namespace StudyDemo.SerialLink

abbrev uint32 := BitVec 32

/-- `u8SL_CalculateCRC` of the command tool. -/
def writeCrc (u16Type u16Length : uint32) (pu8Data : Nat → uint8) : uint8 :=
  let u8CRC : uint8 := 0
  let u8CRC := u8CRC ^^^ ((u16Type >>> 8) &&& 0xff).setWidth 8
  let u8CRC := u8CRC ^^^ (u16Type &&& 0xff).setWidth 8
  let u8CRC := u8CRC ^^^ ((u16Length >>> 8) &&& 0xff).setWidth 8
  let u8CRC := u8CRC ^^^ (u16Length &&& 0xff).setWidth 8
  (List.range u16Length.toNat).foldl (fun u8CRC n => u8CRC ^^^ pu8Data n) u8CRC

/-- The printing loop, `count` bytes from `n` on, with the buffer it leaves. -/
def writeLoop : Nat → Nat → (Nat → uint8) → List uint8 × (Nat → uint8)
  | 0, _, pu8Data => ([], pu8Data)
  | count + 1, n, pu8Data =>
      if pu8Data n < 0x10 then
        let changed := Function.update pu8Data n (pu8Data n ^^^ 0x10)
        let rest := writeLoop count (n + 1) changed
        (0x02 :: changed n :: rest.1, rest.2)
      else
        let rest := writeLoop count (n + 1) pu8Data
        (pu8Data n :: rest.1, rest.2)

/-- `eSL_WriteMessage`: the bytes it prints and the buffer it leaves. -/
def writeMessage (u16Type u16Length : uint32) (pu8Data : Nat → uint8) (pu8Length : uint8) :
    List uint8 × (Nat → uint8) :=
  let u8CRC := writeCrc u16Type u16Length fun n => pu8Data (5 + n)
  let written := writeLoop pu8Length.toNat 0 (Function.update pu8Data 4 u8CRC)
  (0x01 :: written.1 ++ [0x03], written.2)

def highByte (number : uint16) : uint8 := (number >>> 8).setWidth 8

def lowByte (number : uint16) : uint8 := number.setWidth 8

def messageBytes (u16Type : uint16) (payload : List uint8) : List uint8 :=
  let u16Length := BitVec.ofNat 16 payload.length
  [highByte u16Type, lowByte u16Type, highByte u16Length, lowByte u16Length, 0] ++ payload

def frame (u16Type : uint16) (payload : List uint8) : List uint8 :=
  (writeMessage (u16Type.setWidth 32) (BitVec.ofNat 32 payload.length)
    (fun n => (messageBytes u16Type payload).getD n 0)
    (BitVec.ofNat 8 (5 + payload.length))).1

/-! ## The frame in closed form -/

theorem writeLoop_eq (count n : Nat) (pu8Data : Nat → uint8) :
    (writeLoop count n pu8Data).1 = serialCode.stuff ((List.range' n count).map pu8Data) := by
  induction count generalizing n pu8Data with
  | zero => rfl
  | succ count induction =>
      rw [List.range'_succ, List.map_cons, Foundation.Stuffing.stuff_cons, writeLoop,
        Foundation.Stuffing.stuffOne]
      by_cases small : pu8Data n < 0x10
      · have reserved : serialCode.reserved (pu8Data n) = true := decide_eq_true small
        have later : (List.range' (n + 1) count).map
            (Function.update pu8Data n (pu8Data n ^^^ 0x10)) =
            (List.range' (n + 1) count).map pu8Data := by
          apply List.map_congr_left
          intro index member
          have bounds := List.mem_range'_1.mp member
          exact Function.update_of_ne (by omega) _ _
        rw [if_pos small, if_pos reserved]
        simp only [Function.update_self, induction, later]
        rfl
      · have plain : ¬serialCode.reserved (pu8Data n) = true := by
          intro reserved
          exact small (of_decide_eq_true reserved)
        rw [if_neg small, if_neg plain]
        simp only [induction]
        rfl

theorem word_bytes (number : uint16) : word (highByte number) (lowByte number) = number := by
  have bound := number.isLt
  apply BitVec.eq_of_toNat_eq
  rw [word_toNat]
  simp only [highByte, lowByte, BitVec.toNat_setWidth, BitVec.toNat_ushiftRight,
    Nat.shiftRight_eq_div_pow]
  omega

theorem and_ff_setWidth {width : Nat} (number : BitVec width) (wide : 8 ≤ width) :
    (number &&& 0xff).setWidth 8 = number.setWidth 8 := by
  apply BitVec.eq_of_toNat_eq
  have mask : (0xff : BitVec width).toNat = 2 ^ 8 - 1 := by
    change (BitVec.ofNat width 255).toNat = 255
    rw [BitVec.toNat_ofNat]
    apply Nat.mod_eq_of_lt
    exact Nat.lt_of_lt_of_le (by decide : 255 < 2 ^ 8) (Nat.pow_le_pow_right (by decide) wide)
  rw [BitVec.toNat_setWidth, BitVec.toNat_setWidth, BitVec.toNat_and, mask,
    Nat.and_two_pow_sub_one_eq_mod, Nat.mod_mod]

theorem calculateCrc_eq (u16Type u16Length : uint16) (pu8Data : Nat → uint8) :
    calculateCrc u16Type u16Length pu8Data =
      (List.range u16Length.toNat).foldl (fun u8CRC n => u8CRC ^^^ pu8Data n)
        (lowByte u16Type ^^^ highByte u16Type ^^^ lowByte u16Length ^^^
          highByte u16Length) := by
  dsimp only [calculateCrc]
  rw [and_ff_setWidth _ (by decide), and_ff_setWidth _ (by decide),
    and_ff_setWidth _ (by decide), and_ff_setWidth _ (by decide)]
  rfl

theorem calculateCrc_congr {u16Type u16Length : uint16} {left right : Nat → uint8}
    (same : ∀ n < u16Length.toNat, left n = right n) :
    calculateCrc u16Type u16Length left = calculateCrc u16Type u16Length right := by
  rw [calculateCrc_eq, calculateCrc_eq]
  apply List.foldl_ext
  intro u8CRC n member
  rw [same n (List.mem_range.mp member)]

theorem writeCrc_eq (u16Type : uint16) {length : Nat} (short : length < 65536)
    (pu8Data : Nat → uint8) :
    writeCrc (u16Type.setWidth 32) (BitVec.ofNat 32 length) pu8Data =
      calculateCrc u16Type (BitVec.ofNat 16 length) pu8Data := by
  have bound := u16Type.isLt
  have typeHigh : ((u16Type.setWidth 32) >>> 8).setWidth 8 = highByte u16Type := by
    apply BitVec.eq_of_toNat_eq
    simp only [highByte, BitVec.toNat_setWidth, BitVec.toNat_ushiftRight]
    rw [Nat.mod_eq_of_lt (show u16Type.toNat < 2 ^ 32 by omega)]
  have typeLow : (u16Type.setWidth 32).setWidth 8 = lowByte u16Type :=
    BitVec.setWidth_setWidth_of_le _ (by decide)
  have lengthWidth : (BitVec.ofNat 32 length) = (BitVec.ofNat 16 length).setWidth 32 := by
    apply BitVec.eq_of_toNat_eq
    simp only [BitVec.toNat_setWidth, BitVec.toNat_ofNat]
    omega
  have lengthHigh : ((BitVec.ofNat 32 length) >>> 8).setWidth 8 =
      highByte (BitVec.ofNat 16 length) := by
    apply BitVec.eq_of_toNat_eq
    simp only [highByte, BitVec.toNat_setWidth, BitVec.toNat_ushiftRight, BitVec.toNat_ofNat]
    rw [Nat.mod_eq_of_lt (show length < 2 ^ 32 by omega),
      Nat.mod_eq_of_lt (show length < 2 ^ 16 by omega)]
  have lengthLow : (BitVec.ofNat 32 length).setWidth 8 = lowByte (BitVec.ofNat 16 length) := by
    rw [lengthWidth, lowByte]
    exact BitVec.setWidth_setWidth_of_le _ (by decide)
  have count : (BitVec.ofNat 32 length).toNat = (BitVec.ofNat 16 length).toNat := by
    simp only [BitVec.toNat_ofNat]
    omega
  rw [calculateCrc_eq]
  dsimp only [writeCrc]
  rw [and_ff_setWidth _ (by decide), and_ff_setWidth _ (by decide),
    and_ff_setWidth _ (by decide), and_ff_setWidth _ (by decide), typeHigh, typeLow,
    lengthHigh, lengthLow, count]
  have zero : (0 : uint8) ^^^ highByte u16Type = highByte u16Type := BitVec.zero_xor
  rw [zero]
  congr 1
  ac_rfl

def messageCrc (u16Type : uint16) (payload : List uint8) : uint8 :=
  calculateCrc u16Type (BitVec.ofNat 16 payload.length) fun n => payload.getD n 0

/-- The unescaped bytes of a frame: header, checksum and payload. -/
def frameBytes (u16Type : uint16) (payload : List uint8) : List uint8 :=
  let u16Length := BitVec.ofNat 16 payload.length
  highByte u16Type :: lowByte u16Type :: highByte u16Length :: lowByte u16Length ::
    messageCrc u16Type payload :: payload

theorem frame_eq (u16Type : uint16) {payload : List uint8} (short : payload.length ≤ 250) :
    frame u16Type payload =
      slStartChar :: (serialCode.stuff (frameBytes u16Type payload) ++ [slEndChar]) := by
  have crc : writeCrc (u16Type.setWidth 32) (BitVec.ofNat 32 payload.length)
      (fun n => (messageBytes u16Type payload).getD (5 + n) 0) =
      messageCrc u16Type payload := by
    rw [writeCrc_eq u16Type (by omega)]
    apply calculateCrc_congr
    intro n _
    have shift : 5 + n = n + 1 + 1 + 1 + 1 + 1 := by omega
    rw [shift]
    rfl
  have size : (BitVec.ofNat 8 (5 + payload.length)).toNat = 5 + payload.length := by
    rw [BitVec.toNat_ofNat]
    omega
  have bytes : (List.range' 0 (5 + payload.length)).map
      (Function.update (fun n => (messageBytes u16Type payload).getD n 0) 4
        (messageCrc u16Type payload)) = frameBytes u16Type payload := by
    apply List.ext_getElem
    · simp only [frameBytes, List.length_map, List.length_range', List.length_cons]
      omega
    · intro index inside _
      simp only [List.length_map, List.length_range'] at inside
      rw [List.getElem_map, List.getElem_range', Nat.zero_add, Nat.one_mul]
      match index with
      | 0 => rfl
      | 1 => rfl
      | 2 => rfl
      | 3 => rfl
      | 4 => rfl
      | index + 5 =>
          rw [Function.update_of_ne (by omega)]
          change payload.getD index 0 = payload[index]
          simp [List.getD, List.getElem?_eq_getElem (show index < payload.length by omega)]
  simp only [frame, writeMessage, writeLoop_eq, crc, size, bytes]
  rfl

end StudyDemo.SerialLink
