import StudyDemo.EasyLink.Reception

/-! # The address over the air

The five frames of the sender's address and port against the branch that
receives them. The branch collects the halves of the address by OR, so that a
repeated frame adds nothing. -/

namespace StudyDemo.EasyLink

/-! ## The frames -/

theorem loadWord_masked (word : UINT32) (index : Nat) (inside : index < 4) :
    (word &&& (0xFF#32 <<< (8 * index))) >>> (8 * index) =
      (loadWord word index).setWidth 32 := by
  apply BitVec.eq_of_getLsbD_eq
  intro bit small
  by_cases low : bit < 8
  · have kept : ∀ bit : Fin 8, (0xFF#32).getLsbD bit.val = true := by decide
    have here := kept ⟨bit, low⟩
    simp only at here
    simp [loadWord, small, low, here, show 8 * index + bit < 32 by omega]
  · have cleared : ∀ bit < 32, ¬bit < 8 → (0xFF#32).getLsbD bit = false := by decide
    have here := cleared bit small low
    simp [loadWord, low, here]

theorem loadWord_masked_byte (word : UINT32) (index : Nat) (inside : index < 4) :
    ((word &&& (0xFF#32 <<< (8 * index))) >>> (8 * index)).setWidth 8 =
      loadWord word index := by
  rw [loadWord_masked word index inside, BitVec.setWidth_setWidth_of_le _ (by decide),
    BitVec.setWidth_eq]

/-- The sum over mark, length, address and port. -/
def reIpTotal (ip port : UINT32) : Nat :=
  5 + 0xAA + (loadWord ip 3).toNat + (loadWord ip 2).toNat + (loadWord ip 1).toNat +
    (loadWord ip 0).toNat + (loadWord port 1).toNat + (loadWord port 0).toNat

theorem reIpTotal_lt (ip port : UINT32) : reIpTotal ip port < 65536 := by
  have ip3 := (loadWord ip 3).isLt
  have ip2 := (loadWord ip 2).isLt
  have ip1 := (loadWord ip 1).isLt
  have ip0 := (loadWord ip 0).isLt
  have port1 := (loadWord port 1).isLt
  have port0 := (loadWord port 0).isLt
  unfold reIpTotal
  omega

/-- The two bytes the frame with an index carries. -/
def reIpData (ip port : UINT32) : Fin 5 → UCHAR × UCHAR
  | 0 => (0xAA, 5)
  | 1 => (loadWord ip 3, loadWord ip 2)
  | 2 => (loadWord ip 1, loadWord ip 0)
  | 3 => (loadWord port 1, loadWord port 0)
  | 4 => sumBytes (BitVec.ofNat 16 (reIpTotal ip port))

def reIpFrame (ip port : UINT32) (index : Fin 5) : Quad :=
  makeSendFrm sendTypeReip (BitVec.ofNat 8 index.val) (reIpData ip port index).1
    (reIpData ip port index).2

theorem reIpFrames_eq (ip port : UINT32) :
    reIpFrames ip port = List.ofFn (reIpFrame ip port) := by
  have ip3 : ((ip &&& 0xFF000000) >>> 24).setWidth 8 = loadWord ip 3 :=
    loadWord_masked_byte ip 3 (by decide)
  have ip2 : ((ip &&& 0x00FF0000) >>> 16).setWidth 8 = loadWord ip 2 :=
    loadWord_masked_byte ip 2 (by decide)
  have ip1 : ((ip &&& 0x0000FF00) >>> 8).setWidth 8 = loadWord ip 1 :=
    loadWord_masked_byte ip 1 (by decide)
  have ip0 : (ip &&& 0x000000FF).setWidth 8 = loadWord ip 0 := by
    have masked := loadWord_masked_byte ip 0 (by decide)
    rwa [Nat.mul_zero, BitVec.ushiftRight_zero] at masked
  have port1 : ((port &&& 0xFF00) >>> 8).setWidth 8 = loadWord port 1 :=
    loadWord_masked_byte port 1 (by decide)
  have port0 : (port &&& 0x00FF).setWidth 8 = loadWord port 0 := by
    have masked := loadWord_masked_byte port 0 (by decide)
    rwa [Nat.mul_zero, BitVec.ushiftRight_zero] at masked
  have sum : (0xAA#8).setWidth 16 + (3 + 2 : UCHAR).setWidth 16 +
      ((loadWord ip 3).setWidth 16 + (loadWord ip 2).setWidth 16) +
      ((loadWord ip 1).setWidth 16 + (loadWord ip 0).setWidth 16) +
      ((loadWord port 1).setWidth 16 + (loadWord port 0).setWidth 16) =
      BitVec.ofNat 16 (reIpTotal ip port) := by
    apply BitVec.eq_of_toNat_eq
    simp only [BitVec.toNat_add, BitVec.toNat_ofNat, BitVec.toNat_setWidth, reIpTotal]
    change ((((170 % 65536 + 5 % 65536) % 65536 + _) % 65536 + _) % 65536 + _) % 65536 = _
    omega
  dsimp only [reIpFrames]
  rw [ip3, ip2, ip1, ip0, port1, port0, sum]
  rfl

theorem frmType_reIpFrame (ip port : UINT32) (index : Fin 5) :
    frmType (reIpFrame ip port index).addr3 = 3 :=
  frmType_makeSendFrm 3 _ _ (by omega)

theorem frmIndex_reIpFrame (ip port : UINT32) (index : Fin 5) :
    frmIndex (reIpFrame ip port index).addr3 = BitVec.ofNat 32 index.val :=
  frmIndex_makeSendFrm 3 _ _ (by omega)

/-! ## The halves -/

def upperHalf (ip : UINT32) : UINT32 :=
  (loadWord ip 3).setWidth 32 <<< 24 ||| (loadWord ip 2).setWidth 32 <<< 16

def lowerHalf (ip : UINT32) : UINT32 :=
  (loadWord ip 1).setWidth 32 <<< 8 ||| (loadWord ip 0).setWidth 32

def portHalf (port : UINT32) : USHORT :=
  ((loadWord port 1).setWidth 32 <<< 8).setWidth 16 |||
    ((loadWord port 0).setWidth 32).setWidth 16

theorem upperHalf_or_lowerHalf (ip : UINT32) : upperHalf ip ||| lowerHalf ip = ip := by
  apply BitVec.eq_of_getLsbD_eq
  intro bit small
  have byteOf : bit < 8 ∨ 8 ≤ bit ∧ bit < 16 ∨ 16 ≤ bit ∧ bit < 24 ∨ 24 ≤ bit := by omega
  rcases byteOf with inside | inside | inside | inside
  · simp [upperHalf, lowerHalf, loadWord, small, show bit < 24 by omega,
      show bit < 16 by omega, inside]
  · simp [upperHalf, lowerHalf, loadWord, small, show bit < 24 by omega, inside.2,
      show ¬bit < 8 by omega, show bit - 8 < 8 by omega,
      show 8 + (bit - 8) = bit by omega]
  · simp [upperHalf, lowerHalf, loadWord, small, inside.2, show ¬bit < 16 by omega,
      show ¬bit < 8 by omega, show bit - 16 < 8 by omega, show ¬bit - 8 < 8 by omega,
      show 16 + (bit - 16) = bit by omega]
  · simp [upperHalf, lowerHalf, loadWord, small, show ¬bit < 24 by omega,
      show ¬bit < 16 by omega, show ¬bit < 8 by omega, show bit - 24 < 8 by omega,
      show ¬bit - 16 < 8 by omega, show ¬bit - 8 < 8 by omega,
      show 24 + (bit - 24) = bit by omega]

theorem portHalf_eq (port : UINT32) : portHalf port = port.setWidth 16 := by
  apply BitVec.eq_of_getLsbD_eq
  intro bit small
  by_cases low : bit < 8
  · simp [portHalf, loadWord, small, low]
  · simp [portHalf, loadWord, small, low, show bit - 8 < 8 by omega,
      show bit < 32 by omega, show 8 + (bit - 8) = bit by omega]

/-! ## Receiving -/

/-- The header is in, and so is what the marked frames carry. -/
structure AddressReceiving (ip port : UINT32) (statics : Statics) : Prop where
  header : (statics.uRecMask typeReip).getLsbD 0
  uIP : statics.easyLink.uIP =
    (if (statics.uRecMask typeReip).getLsbD 1 then upperHalf ip else 0) |||
      (if (statics.uRecMask typeReip).getLsbD 2 then lowerHalf ip else 0)
  uPort : statics.easyLink.uPort =
    if (statics.uRecMask typeReip).getLsbD 3 then portHalf port else 0
  crc : (statics.uRecMask typeReip).getLsbD 4 →
    statics.uCrc typeReip = BitVec.ofNat 32 (reIpTotal ip port)

section Frames

variable (ip port : UINT32) (statics : Statics)

theorem storeReIp_header : storeReIp (reIpFrame ip port 0).addr3 statics =
    { statics with
      uRecMask := Function.update statics.uRecMask typeReip 0x01
      easyLink := { statics.easyLink with uIP := 0, uPort := 0 }
      uCrc := Function.update statics.uCrc typeReip 0 } := by
  rw [storeReIp]
  dsimp only
  rw [if_pos ⟨rfl, frmIndex_reIpFrame ip port 0⟩, Function.update_idem]

theorem storeReIp_header_mask :
    (storeReIp (reIpFrame ip port 0).addr3 statics).uRecMask typeReip = 1 := by
  simp only [storeReIp_header, Function.update_self]

theorem storeReIp_mask {index : Fin 5} (positive : 0 < index.val) (bit : Nat) :
    ((storeReIp (reIpFrame ip port index).addr3 statics).uRecMask typeReip).getLsbD bit =
      ((statics.uRecMask typeReip).getLsbD bit || decide (index.val = bit)) := by
  have notZero : ¬BitVec.ofNat 32 index.val = 0 := by
    intro equal
    have value := congrArg BitVec.toNat equal
    rw [BitVec.toNat_ofNat] at value
    change index.val % 4294967296 = 0 at value
    omega
  rw [← getLsbD_mark _ (by omega)]
  dsimp only [storeReIp]
  rw [frmIndex_reIpFrame, if_neg (fun header => notZero header.2)]
  split_ifs <;> simp only [Function.update_self]

theorem addressReceiving_header :
    AddressReceiving ip port (storeReIp (reIpFrame ip port 0).addr3 statics) := by
  have mask := storeReIp_header_mask ip port statics
  refine ⟨?header, ?uIP, ?uPort, ?crc⟩
  case header =>
    rw [mask]
    rfl
  case uIP =>
    rw [mask, getLsbD_one_of_pos Nat.one_pos, getLsbD_one_of_pos Nat.two_pos,
      if_neg Bool.false_ne_true, if_neg Bool.false_ne_true, storeReIp_header]
    rfl
  case uPort =>
    rw [mask, getLsbD_one_of_pos (by omega), if_neg Bool.false_ne_true, storeReIp_header]
  case crc =>
    rw [mask, getLsbD_one_of_pos (by omega)]
    intro marked
    exact absurd marked Bool.false_ne_true

theorem storeReIp_frame {index : Fin 5} (positive : 0 < index.val) :
    (storeReIp (reIpFrame ip port index).addr3 statics).easyLink.uIP =
        (statics.easyLink.uIP ||| (if index = 1 then upperHalf ip else 0)) |||
          (if index = 2 then lowerHalf ip else 0) ∧
      (storeReIp (reIpFrame ip port index).addr3 statics).easyLink.uPort =
        (statics.easyLink.uPort ||| if index = 3 then portHalf port else 0) ∧
      (storeReIp (reIpFrame ip port index).addr3 statics).uCrc typeReip =
        if index = 4 then BitVec.ofNat 32 (reIpTotal ip port)
        else statics.uCrc typeReip := by
  have indexed := frmIndex_reIpFrame ip port index
  match index with
  | 1 =>
      simp [storeReIp, indexed, upperHalf, BitVec.or_assoc]
      rfl
  | 2 =>
      simp [storeReIp, indexed, lowerHalf, BitVec.or_assoc]
      rfl
  | 3 =>
      simp [storeReIp, indexed, portHalf, BitVec.or_assoc]
      rfl
  | 4 =>
      simp [storeReIp, indexed]
      exact sumBytes_ofNat (reIpTotal_lt ip port)

variable {ip port statics}

theorem AddressReceiving.storeFrame (receiving : AddressReceiving ip port statics)
    {index : Fin 5} (positive : 0 < index.val) :
    AddressReceiving ip port (storeReIp (reIpFrame ip port index).addr3 statics) := by
  have mask := storeReIp_mask ip port statics positive
  obtain ⟨uIP, uPort, crc⟩ := storeReIp_frame ip port statics positive
  have cases : index = 1 ∨ index = 2 ∨ index = 3 ∨ index = 4 := by omega
  refine ⟨?header, ?uIP, ?uPort, ?crc⟩
  case header => rw [mask, receiving.header, Bool.true_or]
  case uIP =>
    rw [uIP, mask, mask, receiving.uIP]
    rcases cases with rfl | rfl | rfl | rfl
    · cases (statics.uRecMask typeReip).getLsbD 1 with
      | false => simp [BitVec.or_comm]
      | true => simp [BitVec.or_comm, ← BitVec.or_assoc]
    · cases (statics.uRecMask typeReip).getLsbD 2 <;> simp [BitVec.or_assoc]
    · simp
    · simp
  case uPort =>
    rw [uPort, mask, receiving.uPort]
    rcases cases with rfl | rfl | rfl | rfl
    · simp
    · simp
    · cases (statics.uRecMask typeReip).getLsbD 3 <;> simp
    · simp
  case crc =>
    rw [mask, crc]
    rcases cases with rfl | rfl | rfl | rfl
    · simpa using receiving.crc
    · simpa using receiving.crc
    · simpa using receiving.crc
    · simp

theorem AddressReceiving.congr (receiving : AddressReceiving ip port statics)
    {after : Statics} (record : after.easyLink = statics.easyLink)
    (masks : after.uRecMask = statics.uRecMask) (crcs : after.uCrc = statics.uCrc) :
    AddressReceiving ip port after := by
  obtain ⟨header, uIP, uPort, crc⟩ := receiving
  rw [← masks] at header
  rw [← record, ← masks] at uIP uPort
  rw [← masks, ← crcs] at crc
  exact ⟨header, uIP, uPort, crc⟩

/-- The frames are all marked. -/
def HasAllAddress (mask : UINT32) : Prop := ∀ index < 5, mask.getLsbD index

theorem reIpMask_iff (mask : UINT32) :
    mask &&& (0xFFFFFFFF#32 >>> (32 - 5)) = 0xFFFFFFFF#32 >>> (32 - 5) ↔
      HasAllAddress mask := by
  have bits : ∀ bit < 32, (0xFFFFFFFF#32 >>> (32 - 5)).getLsbD bit = decide (bit < 5) := by
    decide
  constructor
  · intro equal index inside
    have bitEqual := congrArg (fun word : UINT32 => word.getLsbD index) equal
    simp only [BitVec.getLsbD_and, bits index (by omega), decide_eq_true inside] at bitEqual
    rwa [Bool.and_true] at bitEqual
  · intro all
    apply BitVec.eq_of_getLsbD_eq
    intro bit small
    rw [BitVec.getLsbD_and, bits bit small]
    by_cases inside : bit < 5
    · rw [all bit inside, Bool.true_and]
    · rw [decide_eq_false inside, Bool.and_false]

theorem AddressReceiving.record_eq (receiving : AddressReceiving ip port statics)
    (all : HasAllAddress (statics.uRecMask typeReip)) :
    statics.easyLink.uIP = ip ∧ statics.easyLink.uPort = port.setWidth 16 := by
  rw [receiving.uIP, receiving.uPort, if_pos (all 1 (by decide)), if_pos (all 2 (by decide)),
    if_pos (all 3 (by decide)), upperHalf_or_lowerHalf, portHalf_eq]
  exact ⟨rfl, rfl⟩

theorem reIpSum_eq {record : TEasyLink} (uIP : record.uIP = ip)
    (uPort : record.uPort = port.setWidth 16) :
    reIpSum record = BitVec.ofNat 32 (reIpTotal ip port) := by
  have port1 : loadWord ((port.setWidth 16).setWidth 32) 1 = loadWord port 1 := by
    apply BitVec.eq_of_getLsbD_eq
    intro bit small
    simp [loadWord, small, show 8 + bit < 16 by omega, show 8 + bit < 32 by omega]
  have port0 : loadWord ((port.setWidth 16).setWidth 32) 0 = loadWord port 0 := by
    apply BitVec.eq_of_getLsbD_eq
    intro bit small
    simp [loadWord, small, show bit < 32 by omega]
  have masked : ∀ word : UINT32, ((word &&& 0xFF000000) >>> 24) = (loadWord word 3).setWidth 32 ∧
      ((word &&& 0xFF0000) >>> 16) = (loadWord word 2).setWidth 32 ∧
      ((word &&& 0xFF00) >>> 8) = (loadWord word 1).setWidth 32 ∧
      (word &&& 0xFF) = (loadWord word 0).setWidth 32 := by
    intro word
    have byte0 := loadWord_masked word 0 (by decide)
    rw [Nat.mul_zero, BitVec.ushiftRight_zero] at byte0
    exact ⟨loadWord_masked word 3 (by decide), loadWord_masked word 2 (by decide),
      loadWord_masked word 1 (by decide), byte0⟩
  obtain ⟨ip3, ip2, ip1, ip0⟩ := masked ip
  obtain ⟨-, -, masked1, masked0⟩ := masked ((port.setWidth 16).setWidth 32)
  dsimp only [reIpSum]
  rw [uIP, uPort, ip3, ip2, ip1, ip0, masked1, masked0, port1, port0]
  have start : (5 + 0xAA : UINT32) = 175#32 := rfl
  rw [start]
  apply BitVec.eq_of_toNat_eq
  simp only [BitVec.toNat_add, BitVec.toNat_ofNat, BitVec.toNat_setWidth, reIpTotal]
  omega

theorem AddressReceiving.verifyReIp_eq (receiving : AddressReceiving ip port statics) :
    (HasAllAddress (statics.uRecMask typeReip) →
      (verifyReIp statics).easyLink = statics.easyLink.accept typeReip netLinkReIpPort) ∧
    (¬HasAllAddress (statics.uRecMask typeReip) → verifyReIp statics = statics) := by
  dsimp only [verifyReIp]
  constructor
  · intro all
    obtain ⟨uIP, uPort⟩ := receiving.record_eq all
    rw [if_pos ((reIpMask_iff _).mpr all), reIpSum_eq uIP uPort,
      if_pos (receiving.crc (all 4 (by decide)))]
  · intro missing
    rw [if_neg (fun complete => missing ((reIpMask_iff _).mp complete))]

end Frames

end StudyDemo.EasyLink
