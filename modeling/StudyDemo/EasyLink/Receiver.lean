import Mathlib.Logic.Function.Basic
import StudyDemo.EasyLink.Record
import StudyDemo.Foundation.Execution

/-! # The driver's frame receiver

`STA_MonPktSend` collects a channel, an address, an SSID and a password from
the destination addresses of sniffed multicast frames. Its function-level
statics are the state; a call may broadcast the link record over netlink. -/

namespace StudyDemo.EasyLink

def typeChannel : Fin 4 := 0
def typeSsid : Fin 4 := 1
def typePswd : Fin 4 := 2
def typeReip : Fin 4 := 3

def typeMask : UCHAR := 0x03
def numMask : UCHAR := 0x1F

def netLinkChannel : UCHAR := 0x01
def netLinkSsidPwd : UCHAR := 0x02
def netLinkReIpPort : UCHAR := 0x03

/-! ## Inputs and state -/

/-- `pHeader->FC.Type`. -/
inductive FrameType
  | management
  | control
  | data
  | reserved
  deriving DecidableEq

abbrev MacAddr := Fin 6 → UCHAR

/-- What the receiver reads of a sniffed frame. -/
structure RxBlk where
  dataSize : Nat
  frameType : FrameType
  frDs : Bool
  toDs : Bool
  addr3 : MacAddr

/-- What the receiver reads of its surroundings: the tuned channel, the two
sizes of the driver build that bound a frame, and the memory that stands around
the record. -/
structure Adapter where
  channel : UCHAR
  rxBufferAggreSize : Nat
  prismHeaderSize : Nat
  outside : UINT32 → UCHAR

structure Call where
  adapter : Adapter
  block : RxBlk

/-- The static variables of `STA_MonPktSend`. -/
@[ext] structure Statics where
  iInit : Int
  iRecOk : Int
  iRecSsidPwd : Int
  iRecIp : Int
  iRecChannel : Int
  easyLink : TEasyLink
  uRecMask : Fin 4 → UINT32
  uSum : Fin 4 → UINT32
  uCrc : Fin 4 → UINT32
  deriving DecidableEq

/-- Statics of a freshly loaded driver. -/
def Statics.initial : Statics where
  iInit := 0
  iRecOk := 0
  iRecSsidPwd := 0
  iRecIp := 0
  iRecChannel := 0
  easyLink := .zero
  uRecMask := fun _ => 0
  uSum := fun _ => 0
  uCrc := fun _ => 0

namespace TEasyLink

/-- `g_tEasyLink.uRecOK & (1 << type)`. -/
def received (record : TEasyLink) (type : Fin 4) : Bool :=
  record.uRecOK &&& (1#32 <<< type.val) != 0#32

/-- Mark a kind of frame as completely received. -/
def accept (record : TEasyLink) (type : Fin 4) (linkType : UCHAR) : TEasyLink :=
  { record with
    uRecOK := record.uRecOK ||| (1#32 <<< type.val)
    uLinkType := linkType }

end TEasyLink

/-! ## One branch per frame type -/

/-- `(pHeader->Addr3[3] >> 5) & TYPE_MASK`. -/
def frmType (addr3 : MacAddr) : UCHAR := (addr3 3 >>> 5) &&& typeMask

/-- `pHeader->Addr3[3] & NUMMASK`, as the `UINT` the branches compute with. -/
def frmIndex (addr3 : MacAddr) : UINT32 := (addr3 3 &&& numMask).setWidth 32

/-- The `TYPE_CHANNEL` branch; `none` is the jump to `err_free_sk_buff`. -/
def receiveChannel (adapter : Adapter) (addr3 : MacAddr) (statics : Statics) :
    Option Statics :=
  if statics.easyLink.received typeChannel then
    none
  else if addr3 4 = 0x01 ∧ addr3 5 = 0x02 then
    some { statics with
      easyLink := { statics.easyLink with uChannel := adapter.channel }.accept
        typeChannel netLinkChannel
      iRecChannel := 1 }
  else
    some statics

/-- The `TYPE_REIP` branch up to the completeness test. -/
def storeReIp (addr3 : MacAddr) (statics : Statics) : Statics :=
  let uIndex := frmIndex addr3
  let record := statics.easyLink
  let high : UINT32 := (addr3 4).setWidth 32
  let low : UINT32 := (addr3 5).setWidth 32
  let marked := Function.update statics.uRecMask typeReip
    (statics.uRecMask typeReip ||| (1#32 <<< uIndex.toNat))
  if addr3 4 = 0xAA ∧ uIndex = 0 then
    { statics with
      uRecMask := Function.update marked typeReip 0x01
      easyLink := { record with uIP := 0, uPort := 0 }
      uCrc := Function.update statics.uCrc typeReip 0 }
  else if uIndex = 1 then
    { statics with
      uRecMask := marked
      easyLink := { record with uIP := record.uIP ||| high <<< 24 ||| low <<< 16 } }
  else if uIndex = 2 then
    { statics with
      uRecMask := marked
      easyLink := { record with uIP := record.uIP ||| high <<< 8 ||| low } }
  else if uIndex = 3 then
    { statics with
      uRecMask := marked
      easyLink := { record with
        uPort := record.uPort ||| (high <<< 8).setWidth 16 ||| low.setWidth 16 } }
  else if uIndex = 4 then
    { statics with
      uRecMask := marked
      uCrc := Function.update statics.uCrc typeReip (high <<< 8 + low) }
  else
    { statics with uRecMask := marked }

/-- The receiver's own sum over a complete address and port. -/
def reIpSum (record : TEasyLink) : UINT32 :=
  let port : UINT32 := record.uPort.setWidth 32
  let ip3 : UINT32 := (record.uIP &&& 0xFF000000) >>> 24
  let ip2 : UINT32 := (record.uIP &&& 0xFF0000) >>> 16
  let ip1 : UINT32 := (record.uIP &&& 0xFF00) >>> 8
  let ip0 : UINT32 := record.uIP &&& 0xFF
  let port1 : UINT32 := (port &&& 0xFF00) >>> 8
  let port0 : UINT32 := port &&& 0xFF
  (5 + 0xAA) + ip3 + ip2 + ip1 + ip0 + port1 + port0

/-- The completeness and checksum test of the `TYPE_REIP` branch. -/
def verifyReIp (statics : Statics) : Statics :=
  let uMask := 0xFFFFFFFF#32 >>> (32 - 5)
  if statics.uRecMask typeReip &&& uMask = uMask then
    let sum := reIpSum statics.easyLink
    let summed := { statics with uSum := Function.update statics.uSum typeReip sum }
    if statics.uCrc typeReip = sum then
      { summed with
        easyLink := statics.easyLink.accept typeReip netLinkReIpPort
        iRecIp := 1 }
    else
      summed
  else
    statics

def receiveReIp (addr3 : MacAddr) (statics : Statics) : Option Statics :=
  if statics.easyLink.received typeReip then
    none
  else
    some (verifyReIp (storeReIp addr3 statics))

/-! The `TYPE_SSID` and `TYPE_PSWD` branches run the same code over their own
length, byte array and array slots. -/

inductive Field
  | ssid
  | pswd
  deriving DecidableEq

namespace Field

def type : Field → Fin 4
  | .ssid => typeSsid
  | .pswd => typePswd

/-- Where the field's byte array stands in the record. -/
def offset : Field → UINT32
  | .ssid => TEasyLink.uSSIDOffset
  | .pswd => TEasyLink.uPwdOffset

end Field

namespace TEasyLink

def fieldLen (record : TEasyLink) : Field → UCHAR
  | .ssid => record.uSSIDlen
  | .pswd => record.uPwdLen

def fieldBytes (record : TEasyLink) : Field → Fin 32 → UCHAR
  | .ssid => record.uSSID
  | .pswd => record.uPwd

/-- The header frame clears the byte array and sets the announced length. -/
def startField (record : TEasyLink) (len : UCHAR) : Field → TEasyLink
  | .ssid => { record with uSSID := fun _ => 0, uSSIDlen := len }
  | .pswd => { record with uPwd := fun _ => 0, uPwdLen := len }

/-- The two stores `field[2*(uIndex-1)] = high; field[2*(uIndex-1)+1] = low`. -/
def storePair (record : TEasyLink) (field : Field) (uIndex : UINT32)
    (high low : UCHAR) : TEasyLink :=
  (record.store (field.offset + 2 * (uIndex - 1)) high).store
    (field.offset + (2 * (uIndex - 1) + 1)) low

end TEasyLink

/-- Whether the code takes a frame for the header of a field. -/
def isHeader (addr3 : MacAddr) : Prop := addr3 4 = 0xAA ∧ frmIndex addr3 = 0

instance (addr3 : MacAddr) : Decidable (isHeader addr3) :=
  inferInstanceAs (Decidable (_ ∧ _))

/-- Whether the code takes a frame for the checksum: `uIndex == len - 1`, with
the `int` on the right converted to `UINT`. -/
def isCheck (record : TEasyLink) (field : Field) (addr3 : MacAddr) : Prop :=
  frmIndex addr3 = (record.fieldLen field).setWidth 32 - 1

instance (record : TEasyLink) (field : Field) (addr3 : MacAddr) :
    Decidable (isCheck record field addr3) :=
  inferInstanceAs (Decidable (_ = _))

/-- A field's branch up to the completeness test. -/
def storeField (field : Field) (addr3 : MacAddr) (statics : Statics) : Statics :=
  let uIndex := frmIndex addr3
  let record := statics.easyLink
  let marked := Function.update statics.uRecMask field.type
    (statics.uRecMask field.type ||| (1#32 <<< uIndex.toNat))
  if isHeader addr3 then
    { statics with
      uRecMask := Function.update statics.uRecMask field.type 0x01
      easyLink := record.startField (addr3 5) field
      uCrc := Function.update statics.uCrc field.type 0 }
  else if isCheck record field addr3 then
    { statics with
      uRecMask := marked
      uCrc := Function.update statics.uCrc field.type
        ((addr3 4).setWidth 32 <<< 8 + (addr3 5).setWidth 32) }
  else
    { statics with
      uRecMask := marked
      easyLink := record.storePair field uIndex (addr3 4) (addr3 5) }

/-- The count of `0xFFFFFFFF >> (32 - len)`: an `int`, of which the MIPS shift
uses the low five bits. -/
def shiftCount (len : UCHAR) : Nat := ((32#32 - len.setWidth 32) &&& 31#32).toNat

/-- The bits of `uRecMask` a complete field needs. -/
def completeMask (len : UCHAR) : UINT32 := 0xFFFFFFFF#32 >>> shiftCount len

/-- Iterations of `for (uIndex = 0; uIndex < len - 2; uIndex++)`, compared as
`UINT`. -/
def checksumCount (len : UCHAR) : Nat := (len.setWidth 32 - 2#32).toNat

/-- The body of the checksum loop, `count` times from `uIndex` on. -/
def checksumLoop (load : UINT32 → UCHAR) : Nat → UINT32 → UINT32 → UINT32
  | 0, _, sum => sum
  | count + 1, uIndex, sum =>
      checksumLoop load count (uIndex + 1)
        (sum + (load (2 * uIndex + 1)).setWidth 32 + (load (2 * uIndex)).setWidth 32)

/-- The receiver's own sum over a field. -/
def fieldSum (outside : UINT32 → UCHAR) (record : TEasyLink) (field : Field) : UINT32 :=
  let len := record.fieldLen field
  checksumLoop (fun index => record.load outside (field.offset + index))
    (checksumCount len) 0 (len.setWidth 32 + 0xAA)

/-- The completeness and checksum test of a field's branch. -/
def verifyField (outside : UINT32 → UCHAR) (field : Field) (statics : Statics) :
    Statics :=
  let uMask := completeMask (statics.easyLink.fieldLen field)
  if statics.uRecMask field.type &&& uMask = uMask then
    let sum := fieldSum outside statics.easyLink field
    let summed := { statics with uSum := Function.update statics.uSum field.type sum }
    if statics.uCrc field.type = sum then
      { summed with easyLink := statics.easyLink.accept field.type netLinkSsidPwd }
    else
      summed
  else
    statics

def receiveField (field : Field) (outside : UINT32 → UCHAR) (addr3 : MacAddr)
    (statics : Statics) : Option Statics :=
  if statics.easyLink.received field.type then
    none
  else
    some (verifyField outside field (storeField field addr3 statics))

/-- The branches on `uIFrmType`. -/
def receiveFrame (adapter : Adapter) (addr3 : MacAddr) (statics : Statics) :
    Option Statics :=
  if frmType addr3 = 0 then
    receiveChannel adapter addr3 statics
  else if frmType addr3 = 3 then
    receiveReIp addr3 statics
  else if frmType addr3 = 1 then
    receiveField .ssid adapter.outside addr3 statics
  else if frmType addr3 = 2 then
    receiveField .pswd adapter.outside addr3 statics
  else
    some statics

/-! ## The send step -/

/-- Both parts of the credentials are in and were not announced yet. -/
def raiseSsidPwd (statics : Statics) : Statics :=
  if statics.iRecSsidPwd = 0 ∧ statics.easyLink.received typePswd ∧
      statics.easyLink.received typeSsid then
    { statics with iRecSsidPwd := 1 }
  else
    statics

/-- The flag that one broadcast moves from 1 to 2. -/
def clearPending (statics : Statics) : Statics :=
  if statics.iRecSsidPwd = 1 then { statics with iRecSsidPwd := 2 }
  else if statics.iRecIp = 1 then { statics with iRecIp := 2 }
  else if statics.iRecChannel = 1 then { statics with iRecChannel := 2 }
  else statics

/-- Broadcast the record if a flag is raised; allocation of the message is
taken to succeed. -/
def sendPending (statics : Statics) : Statics × Option TEasyLink :=
  if statics.iRecSsidPwd = 1 ∨ statics.iRecChannel = 1 ∨ statics.iRecIp = 1 then
    (clearPending statics, some statics.easyLink)
  else
    (statics, none)

def finish (statics : Statics) : Statics :=
  if statics.iRecChannel = 2 ∧ statics.iRecSsidPwd = 2 ∧ statics.iRecIp = 2 then
    { statics with iRecOk := 1 }
  else
    statics

/-- What follows the branches: raise, send, finish. -/
def notify (statics : Statics) : Statics × Option TEasyLink :=
  let sent := sendPending (raiseSsidPwd statics)
  (finish sent.1, sent.2)

/-! ## The whole function -/

/-- The first call clears the record. -/
def initialise (statics : Statics) : Statics :=
  if statics.iInit = 0 then { statics with easyLink := .zero, iInit := 1 }
  else statics

/-- The tests a frame passes before its type is looked at. -/
def isEasyLinkFrame (adapter : Adapter) (block : RxBlk) : Prop :=
  10 ≤ block.dataSize ∧
  block.dataSize + adapter.prismHeaderSize ≤ adapter.rxBufferAggreSize ∧
  block.frameType = .data ∧ block.frDs = false ∧ block.toDs = true ∧
  block.addr3 0 = 0x01 ∧ block.addr3 1 = 0x00 ∧ block.addr3 2 = 0x5e

instance (adapter : Adapter) (block : RxBlk) :
    Decidable (isEasyLinkFrame adapter block) :=
  inferInstanceAs (Decidable (_ ∧ _))

/-- The part of a call up to the send step; `none` when the frame is dropped. -/
def collect (call : Call) (statics : Statics) : Option Statics :=
  if statics.iRecOk = 1 then
    none
  else if isEasyLinkFrame call.adapter call.block then
    receiveFrame call.adapter call.block.addr3 statics
  else
    none

/-- One call of the receiver, with the record it broadcasts. -/
def staMonPktSend : Execution.Step Statics Call TEasyLink :=
  fun statics call =>
    let statics := initialise statics
    match collect call statics with
    | none => (statics, none)
    | some collected => notify collected

end StudyDemo.EasyLink
