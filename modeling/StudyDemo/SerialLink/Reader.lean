import Mathlib.Data.BitVec
import Mathlib.Logic.Function.Basic

/-! # The serial reader

`eSL_ReadMessage` takes bytes out of a buffer and stores the payload of a
message into the same buffer from its start. Its parse state is static and
survives calls. -/

namespace StudyDemo.SerialLink

abbrev uint8 := BitVec 8
abbrev uint16 := BitVec 16

def slStartChar : uint8 := 0x01
def slEscChar : uint8 := 0x02
def slEndChar : uint8 := 0x03

def rxMaxLength : Nat := 256

/-- `teSL_RxState`, in the order of the enumeration. -/
inductive RxState
  | waitStart
  | waitTypeMsb
  | waitTypeLsb
  | waitLenMsb
  | waitLenLsb
  | waitCrc
  | waitData
  deriving DecidableEq

/-- The static variables of `eSL_ReadMessage`. -/
structure Statics where
  eRxState : RxState
  u8CRC : uint8
  u16Bytes : uint16
  bInEsc : Bool
  deriving DecidableEq

def Statics.initial : Statics := ⟨.waitStart, 0, 0, false⟩

/-- The statics, the two out-parameters and the memory at `pu8Message`. -/
structure Reader extends Statics where
  u16Type : uint16
  u16Length : uint16
  message : Nat → uint8

/-- `u8SL_CalculateCRC`. The loop counter is 16 bits wide, as the length is. -/
def calculateCrc (u16Type u16Length : uint16) (pu8Data : Nat → uint8) : uint8 :=
  let u8CRC : uint8 := (u16Type &&& 0xff).setWidth 8
  let u8CRC := u8CRC ^^^ ((u16Type >>> 8) &&& 0xff).setWidth 8
  let u8CRC := u8CRC ^^^ (u16Length &&& 0xff).setWidth 8
  let u8CRC := u8CRC ^^^ ((u16Length >>> 8) &&& 0xff).setWidth 8
  (List.range u16Length.toNat).foldl (fun u8CRC n => u8CRC ^^^ pu8Data n) u8CRC

namespace Reader

/-- The switch on the state, for an unescaped byte. -/
def takeByte (reader : Reader) (u8Data : uint8) : Reader :=
  match reader.eRxState with
  | .waitStart => reader
  | .waitTypeMsb =>
      { reader with
        u16Type := u8Data.setWidth 16 <<< 8
        eRxState := .waitTypeLsb }
  | .waitTypeLsb =>
      { reader with
        u16Type := reader.u16Type + u8Data.setWidth 16
        eRxState := .waitLenMsb }
  | .waitLenMsb =>
      { reader with
        u16Length := u8Data.setWidth 16 <<< 8
        eRxState := .waitLenLsb }
  | .waitLenLsb =>
      let u16Length := reader.u16Length + u8Data.setWidth 16
      { reader with
        u16Length := u16Length
        eRxState := if rxMaxLength < u16Length.toNat then .waitStart else .waitCrc }
  | .waitCrc =>
      { reader with
        u8CRC := u8Data
        eRxState := .waitData }
  | .waitData =>
      if reader.u16Bytes < reader.u16Length then
        { reader with
          message := Function.update reader.message reader.u16Bytes.toNat u8Data
          u16Bytes := reader.u16Bytes + 1 }
      else
        reader

/-- The checksum test of the END branch. -/
def crcMatches (reader : Reader) : Prop :=
  reader.u8CRC = calculateCrc reader.u16Type reader.u16Length reader.message

instance (reader : Reader) : Decidable reader.crcMatches :=
  inferInstanceAs (Decidable (_ = _))

/-- The END branch returns TRUE. -/
def accepts (reader : Reader) : Prop :=
  reader.u16Length.toNat ≤ rxMaxLength ∧ reader.crcMatches

instance (reader : Reader) : Decidable reader.accepts :=
  inferInstanceAs (Decidable (_ ∧ _))

/-- One byte of the buffer, with whether the call returns TRUE on it. -/
def readByte (reader : Reader) (u8Data : uint8) : Reader × Bool :=
  if u8Data = slStartChar then
    ({ reader with u16Bytes := 0, bInEsc := false, eRxState := .waitTypeMsb }, false)
  else if u8Data = slEscChar then
    ({ reader with bInEsc := true }, false)
  else if u8Data = slEndChar then
    if rxMaxLength < reader.u16Length.toNat then
      ({ reader with eRxState := .waitStart }, false)
    else if reader.crcMatches then
      ({ reader with eRxState := .waitStart }, true)
    else
      (reader, false)
  else if reader.bInEsc then
    (takeByte { reader with bInEsc := false } (u8Data ^^^ 0x10), false)
  else
    (reader.takeByte u8Data, false)

end Reader

/-- What a call leaves behind: its return value, and the bytes it took out of
the buffer in the order in which `u8Data` held them. -/
structure ReadResult where
  reader : Reader
  returned : Bool
  consumed : List uint8

/-- The loop `while (u16MsgLen > i)`. The counter `i` is 8 bits wide; `none` is a
loop that has not returned within the fuel. -/
def readLoop (u16MsgLen : uint16) : Nat → uint8 → Reader → List uint8 → Option ReadResult
  | 0, _, _, _ => none
  | fuel + 1, i, reader, consumed =>
      if i.toNat < u16MsgLen.toNat then
        let u8Data := reader.message i.toNat
        let read := reader.readByte u8Data
        if read.2 then
          some ⟨read.1, true, consumed ++ [u8Data]⟩
        else
          readLoop u16MsgLen fuel (i + 1) read.1 (consumed ++ [u8Data])
      else
        some ⟨reader, false, consumed⟩

/-- The call returns, with the result. -/
def ReadMessage (u16MsgLen : uint16) (reader : Reader) (result : ReadResult) : Prop :=
  ∃ fuel, readLoop u16MsgLen fuel 0 reader [] = some result

theorem readLoop_mono {u16MsgLen : uint16} {fuel more : Nat} {i : uint8} {reader : Reader}
    {consumed : List uint8} {result : ReadResult}
    (returns : readLoop u16MsgLen fuel i reader consumed = some result)
    (enough : fuel ≤ more) : readLoop u16MsgLen more i reader consumed = some result := by
  induction fuel generalizing more i reader consumed with
  | zero => cases returns
  | succ fuel induction =>
      obtain ⟨rest, rfl⟩ := Nat.exists_eq_add_of_le enough
      rw [show fuel + 1 + rest = (fuel + rest) + 1 by omega]
      simp only [readLoop] at returns ⊢
      split_ifs at returns ⊢
      · exact returns
      · exact induction returns (Nat.le_add_right fuel rest)
      · exact returns

theorem ReadMessage.unique {u16MsgLen : uint16} {reader : Reader} {first second : ReadResult}
    (left : ReadMessage u16MsgLen reader first) (right : ReadMessage u16MsgLen reader second) :
    first = second := by
  obtain ⟨fuel, left⟩ := left
  obtain ⟨more, right⟩ := right
  have leftMore := readLoop_mono left (Nat.le_add_right fuel more)
  have rightMore := readLoop_mono right (Nat.le_add_left more fuel)
  exact Option.some.inj (leftMore.symm.trans rightMore)

end StudyDemo.SerialLink
