import Mathlib.Data.Fin.VecNotation
import StudyDemo.EasyLink.Receiver

/-! # The phone's frame sender

`WifiEasyConnect` spells a channel mark, its own address and two texts out in
multicast addresses. A frame's payload never matters: the receiver reads the
destination address only. -/

namespace StudyDemo.EasyLink

/-- The four numbers of the dotted quad that `MakeSendFrm` prints. -/
structure Quad where
  first : UCHAR
  second : UCHAR
  third : UCHAR
  fourth : UCHAR
  deriving DecidableEq

def makeSendFrm (type index data0 data1 : UCHAR) : Quad :=
  let bMultiAddr : UCHAR := 238
  ⟨bMultiAddr, type ||| index, data0, data1⟩

def sendTypeChannel : UCHAR := 0x00 <<< 5
def sendTypeReip : UCHAR := 0x03 <<< 5

/-- `TYPE_SSID` and `TYPE_PSWD` of the sender. -/
def Field.sendType : Field → UCHAR
  | .ssid => 0x01 <<< 5
  | .pswd => 0x02 <<< 5

/-! ## Building the frames -/

def channelFrame : Quad := makeSendFrm sendTypeChannel 0 0x01 0x02

/-- The high and the low byte of `wSum`, as the check frames carry it. -/
def sumBytes (wSum : USHORT) : UCHAR × UCHAR :=
  (((wSum &&& 0xFF00) >>> 8).setWidth 8, (wSum &&& 0xFF).setWidth 8)

/-- The five frames with `g_IfIPAddr` and `g_IfPort`. -/
def reIpFrames (ip port : UINT32) : List Quad :=
  let iLen : UCHAR := 3 + 2
  let ip3 : UCHAR := ((ip &&& 0xFF000000) >>> 24).setWidth 8
  let ip2 : UCHAR := ((ip &&& 0x00FF0000) >>> 16).setWidth 8
  let ip1 : UCHAR := ((ip &&& 0x0000FF00) >>> 8).setWidth 8
  let ip0 : UCHAR := (ip &&& 0x000000FF).setWidth 8
  let port1 : UCHAR := ((port &&& 0xFF00) >>> 8).setWidth 8
  let port0 : UCHAR := (port &&& 0x00FF).setWidth 8
  let wSum : USHORT := (0xAA#8).setWidth 16 + iLen.setWidth 16
  let wSum := wSum + (ip3.setWidth 16 + ip2.setWidth 16)
  let wSum := wSum + (ip1.setWidth 16 + ip0.setWidth 16)
  let wSum := wSum + (port1.setWidth 16 + port0.setWidth 16)
  [makeSendFrm sendTypeReip 0 0xAA iLen,
    makeSendFrm sendTypeReip 1 ip3 ip2,
    makeSendFrm sendTypeReip 2 ip1 ip0,
    makeSendFrm sendTypeReip 3 port1 port0,
    makeSendFrm sendTypeReip 4 (sumBytes wSum).1 (sumBytes wSum).2]

/-- `iLen = (ilen + 1) / 2 + 2`: a header, the text two bytes a frame, a check. -/
def frameCount (ilen : Nat) : Nat := (ilen + 1) / 2 + 2

/-- `bSendData[0]`, `bSendData[1]` and `wSum` after one iteration of the loop
over a text `pb` of length `ilen`. -/
def sendData (pb : Nat → UCHAR) (ilen iLen index : Nat) (wSum : USHORT) :
    UCHAR × UCHAR × USHORT :=
  if index = 0 then
    let len := BitVec.ofNat 8 iLen
    (0xAA, len, (0xAA#8).setWidth 16 + len.setWidth 16)
  else if index + 1 = iLen then
    ((sumBytes wSum).1, (sumBytes wSum).2, wSum)
  else
    let data0 := pb ((index - 1) * 2)
    let data1 :=
      if index + 2 = iLen ∧ ilen % 2 ≠ 0 then 0 else pb ((index - 1) * 2 + 1)
    (data0, data1, wSum + data0.setWidth 16 + data1.setWidth 16)

/-- The frame loop, `count` iterations from `index` on. -/
def frameLoop (type : UCHAR) (pb : Nat → UCHAR) (ilen iLen : Nat) :
    Nat → Nat → USHORT → List Quad
  | 0, _, _ => []
  | count + 1, index, wSum =>
      let data := sendData pb ilen iLen index wSum
      makeSendFrm type (BitVec.ofNat 8 index) data.1 data.2.1 ::
        frameLoop type pb ilen iLen count (index + 1) data.2.2

def fieldFrames (type : UCHAR) (pb : Nat → UCHAR) (ilen : Nat) : List Quad :=
  let iLen := frameCount ilen
  frameLoop type pb ilen iLen iLen 0 0

/-- The frames of one call of `WifiEasyConnect(1, ...)`, in the order sent. -/
def wifiEasyConnect (pbSSID : Nat → UCHAR) (ilenSSID : Nat) (pbPwd : Nat → UCHAR)
    (ilenPwd : Nat) (ip port : UINT32) : List Quad :=
  List.replicate 4 channelFrame ++ reIpFrames ip port ++
    fieldFrames Field.pswd.sendType pbPwd ilenPwd ++
    fieldFrames Field.ssid.sendType pbSSID ilenSSID

/-! ## Delivery -/

/-- The Ethernet address of the group. The second number stays below 128, so
the mapping keeps it whole. -/
def Quad.addr3 (quad : Quad) : MacAddr :=
  ![0x01, 0x00, 0x5e, quad.second, quad.third, quad.fourth]

/-- A call that hands the frame sent to `quad` to the receiver. -/
structure Carries (call : Call) (quad : Quad) : Prop where
  passes : isEasyLinkFrame call.adapter call.block
  addr3 : call.block.addr3 = quad.addr3

/-- Such a call, on an adapter without surroundings. -/
def Quad.call (quad : Quad) : Call where
  adapter := ⟨0, 10, 0, fun _ => 0⟩
  block := ⟨10, .data, false, true, quad.addr3⟩

theorem Quad.call_carries (quad : Quad) : Carries quad.call quad where
  passes := ⟨le_rfl, le_rfl, rfl, rfl, rfl, rfl, rfl, rfl⟩
  addr3 := rfl

/-! ## The frames of a text -/

/-- A text short enough for the byte arrays of the link record. -/
structure Credential where
  text : List UCHAR
  short : text.length ≤ 32

namespace Credential

variable (credential : Credential)

/-- The byte a pointer to the text reads; the text ends with NUL. -/
def byte (index : Nat) : UCHAR := credential.text.getD index 0

/-- The text padded to the size of the array. -/
def padded (index : Fin 32) : UCHAR := credential.byte index.val

def count : Nat := frameCount credential.text.length

theorem two_le_count : 2 ≤ credential.count := Nat.le_add_left _ _

theorem count_le : credential.count ≤ 18 := by
  have short := credential.short
  unfold count frameCount
  omega

theorem byte_of_length_le {index : Nat} (past : credential.text.length ≤ index) :
    credential.byte index = 0 := by
  simp [byte, List.getD, List.getElem?_eq_none past]

theorem padded_of_count_le {index : Fin 32} (past : 2 * (credential.count - 2) ≤ index.val) :
    credential.padded index = 0 := by
  apply credential.byte_of_length_le
  unfold count frameCount at past
  omega

/-- The sum of the first `pairs` pairs of bytes. -/
def total : Nat → Nat
  | 0 => 0
  | pairs + 1 =>
      total pairs + (credential.byte (2 * pairs)).toNat +
        (credential.byte (2 * pairs + 1)).toNat

theorem total_le (pairs : Nat) : credential.total pairs ≤ 510 * pairs := by
  induction pairs with
  | zero => exact le_rfl
  | succ pairs induction =>
      have first := (credential.byte (2 * pairs)).isLt
      have second := (credential.byte (2 * pairs + 1)).isLt
      simp only [total]
      omega

/-- The checksum of the whole text. -/
def checksum : Nat := credential.count + 0xAA + credential.total (credential.count - 2)

theorem checksum_lt : credential.checksum < 65536 := by
  have bound := credential.total_le (credential.count - 2)
  have count := credential.count_le
  unfold checksum
  omega

/-- The two bytes the frame with an index carries. -/
def data (index : Nat) : UCHAR × UCHAR :=
  if index = 0 then (0xAA, BitVec.ofNat 8 credential.count)
  else if index + 1 = credential.count then
    sumBytes (BitVec.ofNat 16 credential.checksum)
  else
    (credential.byte (2 * (index - 1)), credential.byte (2 * (index - 1) + 1))

def frame (field : Field) (index : Nat) : Quad :=
  makeSendFrm field.sendType (BitVec.ofNat 8 index) (credential.data index).1
    (credential.data index).2

def frames (field : Field) : List Quad :=
  fieldFrames field.sendType credential.byte credential.text.length

end Credential

theorem sendData_eq (credential : Credential) {index : Nat} (wSum : USHORT)
    (inside : index < credential.count)
    (running : 0 < index → wSum = BitVec.ofNat 16
      (credential.count + 0xAA + credential.total (index - 1))) :
    (sendData credential.byte credential.text.length credential.count index wSum).1 =
        (credential.data index).1 ∧
      (sendData credential.byte credential.text.length credential.count index wSum).2.1 =
        (credential.data index).2 ∧
      (index + 1 < credential.count →
        (sendData credential.byte credential.text.length credential.count index wSum).2.2 =
          BitVec.ofNat 16 (credential.count + 0xAA + credential.total index)) := by
  have countLe := credential.count_le
  by_cases header : index = 0
  · subst header
    refine ⟨rfl, rfl, fun _ => ?_⟩
    apply BitVec.eq_of_toNat_eq
    simp [sendData, Credential.total]
    omega
  · have running := running (by omega)
    by_cases check : index + 1 = credential.count
    · have sum : wSum = BitVec.ofNat 16 credential.checksum := by
        rw [running, Credential.checksum, show credential.count - 2 = index - 1 by omega]
      simp only [sendData, Credential.data, if_neg header, if_pos check, sum]
      exact ⟨trivial, trivial, fun further => by omega⟩
    · -- The odd tail: the byte past the text is the NUL that `getD` reads.
      have tail : (if index + 2 = credential.count ∧ credential.text.length % 2 ≠ 0 then 0
          else credential.byte ((index - 1) * 2 + 1)) =
          credential.byte (2 * (index - 1) + 1) := by
        rw [Nat.mul_comm]
        split_ifs with odd
        · rw [credential.byte_of_length_le]
          unfold Credential.count frameCount at odd
          omega
        · rfl
      obtain ⟨previous, rfl⟩ : ∃ previous, index = previous + 1 :=
        ⟨index - 1, by omega⟩
      simp only [sendData, Credential.data, if_neg header, if_neg check, tail]
      refine ⟨by rw [Nat.mul_comm], trivial, fun _ => ?_⟩
      have bound := credential.total_le previous
      simp only [Nat.add_sub_cancel] at running ⊢
      rw [running, Nat.mul_comm previous 2]
      apply BitVec.eq_of_toNat_eq
      simp only [BitVec.toNat_add, BitVec.toNat_ofNat, BitVec.toNat_setWidth, Credential.total]
      omega

theorem frameLoop_eq (field : Field) (credential : Credential) (count : Nat) {index : Nat}
    (wSum : USHORT) (inside : index + count = credential.count)
    (running : 0 < index → wSum = BitVec.ofNat 16
      (credential.count + 0xAA + credential.total (index - 1))) :
    frameLoop field.sendType credential.byte credential.text.length credential.count
        count index wSum =
      (List.range' index count).map (credential.frame field) := by
  induction count generalizing index wSum with
  | zero => rfl
  | succ count induction =>
      obtain ⟨data0, data1, sum⟩ := sendData_eq credential wSum (by omega) running
      simp only [frameLoop, List.range'_succ, List.map_cons]
      congr 1
      · rw [data0, data1, Credential.frame]
      · cases count with
        | zero => rfl
        | succ count =>
            apply induction
            · omega
            · intro _
              rw [Nat.add_sub_cancel]
              exact sum (by omega)

theorem Credential.frames_eq (credential : Credential) (field : Field) :
    credential.frames field =
      (List.range credential.count).map (credential.frame field) := by
  rw [List.range_eq_range']
  exact frameLoop_eq field credential credential.count 0 (Nat.zero_add _)
    (fun positive => absurd positive (lt_irrefl 0))

/-! ## What the receiver reads off a frame -/

section Address

variable (type : Fin 4) {index : Nat} (data0 data1 : UCHAR)

theorem frmType_makeSendFrm (small : index < 32) :
    frmType (makeSendFrm (BitVec.ofNat 8 type.val <<< 5) (BitVec.ofNat 8 index)
      data0 data1).addr3 = BitVec.ofNat 8 type.val := by
  have all : ∀ type : Fin 4, ∀ index : Fin 32,
      (((BitVec.ofNat 8 type.val <<< 5 ||| BitVec.ofNat 8 index.val) >>> 5) &&& 0x03#8) =
        BitVec.ofNat 8 type.val := by decide
  exact all type ⟨index, small⟩

theorem frmIndex_makeSendFrm (small : index < 32) :
    frmIndex (makeSendFrm (BitVec.ofNat 8 type.val <<< 5) (BitVec.ofNat 8 index)
      data0 data1).addr3 = BitVec.ofNat 32 index := by
  have all : ∀ type : Fin 4, ∀ index : Fin 32,
      ((BitVec.ofNat 8 type.val <<< 5 ||| BitVec.ofNat 8 index.val) &&& 0x1F#8).setWidth 32 =
        BitVec.ofNat 32 index.val := by decide
  exact all type ⟨index, small⟩

end Address

theorem Field.sendType_eq (field : Field) :
    field.sendType = BitVec.ofNat 8 field.type.val <<< 5 := by
  cases field <;> rfl

namespace Credential

variable (credential : Credential) (field : Field) {index : Nat}

theorem frmType_frame (small : index < 32) :
    frmType (credential.frame field index).addr3 = BitVec.ofNat 8 field.type.val := by
  rw [frame, field.sendType_eq]
  exact frmType_makeSendFrm field.type _ _ small

theorem frmIndex_frame (small : index < 32) :
    frmIndex (credential.frame field index).addr3 = BitVec.ofNat 32 index := by
  rw [frame, field.sendType_eq]
  exact frmIndex_makeSendFrm field.type _ _ small

end Credential

end StudyDemo.EasyLink
