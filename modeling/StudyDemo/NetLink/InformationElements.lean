import StudyDemo.Foundation.Reading
import StudyDemo.NetLink.SiteSurvey

/-! # The walk over the information elements

For each network `getsitesurvey` walks over the information elements that the access
point announced, and collects the ciphers and the key managements of the security
elements. All bytes it reads are counted from `IEs` on. -/

namespace StudyDemo.NetLink

open StudyDemo.CMemory

/-! ## The flags -/

def wpaOuiType : BitVec 32 := 0x01F25000
def wpaOui : BitVec 32 := 0x00F25000
def wpa2Oui : BitVec 32 := 0x00AC0F00
def ciscoOui : BitVec 32 := 0x00964000

namespace Security

/-- All flags are `FALSE`. -/
def none : Security where
  bTKIP := false
  bAESWRAP := false
  bAESCCMP := false
  bWPA := false
  bWPAPSK := false
  bWPANONE := false
  bWPA2 := false
  bWPA2PSK := false
  bWPA2NONE := false
  bCCKM := false

/-- The flag of a group or pairwise suite. -/
def setCipher (security : Security) (type : BitVec 32) : Security :=
  if type = 2 then { security with bTKIP := true }
  else if type = 3 then { security with bAESWRAP := true }
  else if type = 4 then { security with bAESCCMP := true }
  else security

/-- The flag of a key management suite in a vendor element. -/
def setWpa (infrastructureMode : Nat) (security : Security) (type : BitVec 32) : Security :=
  if type = 1 then { security with bWPA := true }
  else if type = 0 ∨ type = 2 then
    if infrastructureMode ≠ 0 then { security with bWPAPSK := true }
    else { security with bWPANONE := true }
  else security

/-- The flag of a key management suite in an element 48. -/
def setWpa2 (infrastructureMode : Nat) (security : Security) (type : BitVec 32) : Security :=
  if type = 1 then { security with bWPA2 := true }
  else if type = 0 ∨ type = 2 then
    if infrastructureMode ≠ 0 then { security with bWPA2PSK := true }
    else { security with bWPA2NONE := true }
  else security

def setCCKM (security : Security) : Security := { security with bCCKM := true }

end Security

/-! ## One element -/

def ouiOf (word : BitVec 32) : BitVec 32 := word &&& 0x00ffffff

def typeOf (word : BitVec 32) : BitVec 32 := (word &&& 0xff000000) >>> 0x18

section Element

variable (area : Memory) (oui : BitVec 32) (setKey : Security → BitVec 32 → Security)

/-- The loop over the pairwise suites, of which so many are left. It stops at a foreign
OUI. -/
def pairwiseKeys : Nat → Nat → Security → Reading Security
  | 0, _, security => pure security
  | left + 1, plPairwiseKey, security => do
      let word ← readWord area plPairwiseKey
      if ouiOf word = oui then
        pairwiseKeys left (plPairwiseKey + 4) (security.setCipher (typeOf word))
      else
        pure security

/-- The flag of one key management suite. -/
def authenKey (word : BitVec 32) (security : Security) : Security :=
  if ouiOf word = ciscoOui then security.setCCKM
  else if ouiOf word = oui then setKey security (typeOf word)
  else security

def authenKeys : Nat → Nat → Security → Reading Security
  | 0, _, security => pure security
  | left + 1, plAuthenKey, security => do
      let word ← readWord area plAuthenKey
      authenKeys left (plAuthenKey + 4) (authenKey oui setKey word security)

/-- The group suite and the two lists behind it. The second list is behind as many
pairwise suites as the first one announces, also if its loop stopped earlier. -/
def suiteLists (plGroupKey : Nat) (security : Security) : Reading Security := do
  let group ← readWord area plGroupKey
  if ouiOf group = oui then
    let pdPairKeyCount := plGroupKey + 4
    let pairs ← readShort area pdPairKeyCount
    let security ← pairwiseKeys area oui pairs.toNat (pdPairKeyCount + 2)
      (security.setCipher (typeOf group))
    let pdAuthenKeyCount := pdPairKeyCount + 2 + 4 * pairs.toNat
    let keys ← readShort area pdAuthenKeyCount
    authenKeys area oui setKey keys.toNat (pdAuthenKeyCount + 2) security
  else
    pure security

end Element

section Walk

variable (area : Memory) (infrastructureMode : Nat)

/-- A vendor element of 16 bytes or more. -/
def wpaElement (pVarIE : Nat) (security : Security) : Reading Security := do
  let pOUI ← readWord area (pVarIE + 2)
  if pOUI ≠ wpaOuiType then
    pure security
  else
    suiteLists area wpaOui (Security.setWpa infrastructureMode) (pVarIE + 8) security

/-- An element 48 of 12 bytes or more. -/
def wpa2Element (pVarIE : Nat) (security : Security) : Reading Security :=
  suiteLists area wpa2Oui (Security.setWpa2 infrastructureMode) (pVarIE + 4) security

/-- The body of the loop, without the advance to the next element: every way through
the body ends with it. -/
def walkElement (pVarIE : Nat) (security : Security) : Reading Security := do
  let elementID ← readByte area pVarIE
  let length ← readByte area (pVarIE + 1)
  if elementID = 221 ∧ 16 ≤ length.toNat then
    wpaElement area infrastructureMode pVarIE security
  else if elementID = 48 ∧ 12 ≤ length.toNat then
    wpa2Element area infrastructureMode pVarIE security
  else
    pure security

/-! ## The loop -/

/-- The variables of the loop. `pVarIE` is counted from `IEs` on. -/
structure Walk where
  lIELoc : BitVec 32
  pVarIE : Nat
  security : Security

/-- `unsigned long`, which also `sizeof` is. -/
inductive UnsignedLong
  | bits32
  | bits64
  deriving DecidableEq

def UnsignedLong.width : UnsignedLong → Nat
  | .bits32 => 32
  | .bits64 => 64

variable (long : UnsignedLong) (ieLength : Nat)

/-- `IELength > (lIELoc + sizeof(NDIS_802_11_VARIABLE_IEs))`. -/
def Continues (lIELoc : BitVec 32) : Prop := (lIELoc.toNat + 3) % 2 ^ long.width < ieLength

instance (lIELoc : BitVec 32) : Decidable (Continues long ieLength lIELoc) :=
  inferInstanceAs (Decidable (_ < _))

/-- The `while` loop, for no more than so many turns. -/
def walkLoop : Nat → Walk → Reading (Option Security)
  | 0, _ => pure none
  | turns + 1, walk =>
      if Continues long ieLength walk.lIELoc then do
        let security ← walkElement area infrastructureMode walk.pVarIE walk.security
        let length ← readByte area (walk.pVarIE + 1)
        let lIELoc := walk.lIELoc + length.setWidth 32 + 2
        let pVarIE := walk.pVarIE + length.toNat + 2
        let next ← readByte area (pVarIE + 1)
        if next.toNat ≤ 0 then
          pure (some security)
        else
          walkLoop turns { lIELoc := lIELoc, pVarIE := pVarIE, security := security }
      else
        pure (some walk.security)

/-- `sizeof(NDIS_802_11_FIXED_IEs)`. -/
def fixedSize : Nat := 12

/-- The loop from the first element on. -/
def walkIEs (turns : Nat) : Reading (Option Security) :=
  walkLoop area infrastructureMode long ieLength turns
    { lIELoc := BitVec.ofNat 32 fixedSize, pVarIE := fixedSize, security := .none }

/-- `sizeof(NDIS_WLAN_BSSID)`. -/
def UnsignedLong.bssidSize : UnsignedLong → Nat
  | .bits32 => 104
  | .bits64 => 148

/-- The flags of a network whose entry in the list has a length. -/
def surveySecurity (length : Nat) (turns : Nat) : Reading (Option Security) :=
  if long.bssidSize < length ∧ fixedSize < ieLength then
    walkIEs area infrastructureMode long ieLength turns
  else
    pure (some .none)

end Walk

/-! ## One turn -/

theorem length_le_zero_iff (length : Byte) : length.toNat ≤ 0 ↔ length = 0 := by
  rw [Nat.le_zero, ← BitVec.toNat_inj]
  rfl

section Turn

variable (area : Memory) (infrastructureMode : Nat) (long : UnsignedLong) (ieLength : Nat)

/-- Where the element behind the one at an offset stands. -/
def nextElement (offset : Nat) : Nat := offset + (area (offset + 1)).toNat + 2

/-- The loop in front of the element at an offset. -/
def walkAt (offset : Nat) (security : Security) : Walk where
  lIELoc := BitVec.ofNat 32 offset
  pVarIE := offset
  security := security

theorem lIELoc_next (offset : Nat) :
    BitVec.ofNat 32 offset + (area (offset + 1)).setWidth 32 + 2 =
      BitVec.ofNat 32 (nextElement area offset) := by
  rw [nextElement, BitVec.ofNat_add, BitVec.ofNat_add, BitVec.ofNat_toNat]
  rfl

variable {ieLength} {offset : Nat} (security : Security)

theorem walkLoop_ended (turns : Nat)
    (ended : ¬Continues long ieLength (BitVec.ofNat 32 offset)) :
    walkLoop area infrastructureMode long ieLength (turns + 1) (walkAt offset security) =
      pure (some security) :=
  if_neg ended

theorem walkLoop_more (turns : Nat) (more : Continues long ieLength (BitVec.ofNat 32 offset)) :
    walkLoop area infrastructureMode long ieLength (turns + 1) (walkAt offset security) =
      (walkElement area infrastructureMode offset security >>= fun security =>
        readByte area (offset + 1) >>= fun _ =>
        readByte area (nextElement area offset + 1) >>= fun next =>
        if next.toNat ≤ 0 then pure (some security)
        else walkLoop area infrastructureMode long ieLength turns
          (walkAt (nextElement area offset) security)) := by
  rw [walkLoop]
  change (if Continues long ieLength (BitVec.ofNat 32 offset) then _ else _) = _
  rw [if_pos more]
  simp only [walkAt, ← lIELoc_next]
  rfl

theorem walkLoop_result (turns : Nat)
    (more : Continues long ieLength (BitVec.ofNat 32 offset)) :
    (walkLoop area infrastructureMode long ieLength (turns + 1)
        (walkAt offset security)).result =
      if area (nextElement area offset + 1) = 0 then
        some (walkElement area infrastructureMode offset security).result
      else
        (walkLoop area infrastructureMode long ieLength turns
          (walkAt (nextElement area offset)
            (walkElement area infrastructureMode offset security).result)).result := by
  rw [walkLoop_more area infrastructureMode long security turns more]
  by_cases last : area (nextElement area offset + 1) = 0
  · simp only [Reading.result_bind, result_readByte, length_le_zero_iff, last, if_true,
      Reading.result_pure]
  · simp only [Reading.result_bind, result_readByte, length_le_zero_iff, last, if_false]

theorem walkLoop_within (turns : Nat) {limit : Nat}
    (more : Continues long ieLength (BitVec.ofNat 32 offset)) :
    (walkLoop area infrastructureMode long ieLength (turns + 1)
        (walkAt offset security)).Within limit ↔
      (walkElement area infrastructureMode offset security).Within limit ∧
        nextElement area offset + 1 < limit ∧
        (area (nextElement area offset + 1) ≠ 0 →
          (walkLoop area infrastructureMode long ieLength turns
            (walkAt (nextElement area offset)
              (walkElement area infrastructureMode offset security).result)).Within limit) := by
  have before : offset + 1 < nextElement area offset + 1 := by
    rw [nextElement]
    omega
  rw [walkLoop_more area infrastructureMode long security turns more]
  simp only [Reading.within_bind, within_readByte, result_readByte, length_le_zero_iff]
  by_cases last : area (nextElement area offset + 1) = 0
  · simp only [last, if_true, Reading.within_pure, ne_eq, not_true, false_imp_iff, and_true]
    constructor
    · rintro ⟨element, -, header⟩
      exact ⟨element, header⟩
    · rintro ⟨element, header⟩
      exact ⟨element, before.trans header, header⟩
  · simp only [last, if_false, ne_eq, not_false_iff, true_imp_iff]
    constructor
    · rintro ⟨element, -, header, later⟩
      exact ⟨element, header, later⟩
    · rintro ⟨element, header, later⟩
      exact ⟨element, before.trans header, header, later⟩

end Turn

end StudyDemo.NetLink
