import StudyDemo.NetLink.InformationElements

/-! # Security elements

What an information element announces, whatever stands around it: an element is an id
and up to 255 bytes, a security element holds a group suite and two lists of suites,
and each suite stands for a flag. The walk over such an element sets these flags and
no others. -/

namespace StudyDemo.NetLink

open StudyDemo.CMemory

/-! ## Flags and suites -/

/-- The flags of the scan, without that of Cisco's key management. -/
inductive Flag
  | bTKIP
  | bAESWRAP
  | bAESCCMP
  | bWPA
  | bWPAPSK
  | bWPANONE
  | bWPA2
  | bWPA2PSK
  | bWPA2NONE
  deriving DecidableEq

/-- The flag is set. -/
def Security.Has (security : Security) : Flag → Prop
  | .bTKIP => security.bTKIP = true
  | .bAESWRAP => security.bAESWRAP = true
  | .bAESCCMP => security.bAESCCMP = true
  | .bWPA => security.bWPA = true
  | .bWPAPSK => security.bWPAPSK = true
  | .bWPANONE => security.bWPANONE = true
  | .bWPA2 => security.bWPA2 = true
  | .bWPA2PSK => security.bWPA2PSK = true
  | .bWPA2NONE => security.bWPA2NONE = true

/-- The cipher of a suite type. -/
def cipherFlag (type : Byte) : Option Flag :=
  if type = 2 then some .bTKIP
  else if type = 3 then some .bAESWRAP
  else if type = 4 then some .bAESCCMP
  else none

/-- The key management of a suite type: certificates, or a key shared beforehand, which
has a name of its own in networks without an access point. -/
def keyFlag (certificates shared adHoc : Flag) (infrastructureMode : Nat) (type : Byte) :
    Option Flag :=
  if type = 1 then some certificates
  else if type = 0 ∨ type = 2 then some (if infrastructureMode ≠ 0 then shared else adHoc)
  else none

def wpaKeyFlag : Nat → Byte → Option Flag := keyFlag .bWPA .bWPAPSK .bWPANONE
def wpa2KeyFlag : Nat → Byte → Option Flag := keyFlag .bWPA2 .bWPA2PSK .bWPA2NONE

/-- The bytes that begin every suite of a kind of security element. -/
structure Oui where
  first : Byte
  second : Byte
  third : Byte

def Oui.wpa : Oui where
  first := 0x00
  second := 0x50
  third := 0xF2

def Oui.wpa2 : Oui where
  first := 0x00
  second := 0x0F
  third := 0xAC

/-- A group suite and the two lists, by the types of their suites. -/
structure Suites where
  group : Byte
  pairwise : List Byte
  akm : List Byte

/-- The flags of all suites. -/
def Suites.Announces (suites : Suites) (keyFlag : Byte → Option Flag) (flag : Flag) : Prop :=
  cipherFlag suites.group = some flag ∨
    (∃ type ∈ suites.pairwise, cipherFlag type = some flag) ∨
    ∃ type ∈ suites.akm, keyFlag type = some flag

namespace Oui

variable (oui : Oui)

def suite (type : Byte) : List Byte := [oui.first, oui.second, oui.third, type]

/-- A list of suites behind their number, which has two bytes. -/
def list (types : List Byte) : List Byte :=
  BitVec.ofNat 8 types.length :: BitVec.ofNat 8 (types.length / 256) :: types.flatMap oui.suite

def bytes (suites : Suites) : List Byte :=
  oui.suite suites.group ++ (oui.list suites.pairwise ++ oui.list suites.akm)

theorem length_flatMap (types : List Byte) :
    (types.flatMap oui.suite).length = 4 * types.length := by
  induction types with
  | nil => rfl
  | cons type types induction =>
      rw [List.flatMap_cons, List.length_append, induction, List.length_cons]
      change 4 + _ = _
      omega

theorem length_list (types : List Byte) : (oui.list types).length = 2 + 4 * types.length := by
  rw [list, List.length_cons, List.length_cons, length_flatMap]
  omega

end Oui

/-! ## Elements -/

/-- An information element. -/
structure Element where
  id : Byte
  data : List Byte
  short : data.length < 256

namespace Element

def bytes (element : Element) : List Byte :=
  element.id :: BitVec.ofNat 8 element.data.length :: element.data

/-- The first four bytes of the data. -/
def typeWord (element : Element) : BitVec 32 :=
  wordOf (element.data.getD 0 0) (element.data.getD 1 0) (element.data.getD 2 0)
    (element.data.getD 3 0)

def IsWpa (element : Element) : Prop :=
  element.id = 221 ∧ 16 ≤ element.data.length ∧ element.typeWord = wpaOuiType

def IsWpa2 (element : Element) : Prop :=
  element.id = 48 ∧ 12 ≤ element.data.length

/-- The data hold the suites behind a number of other bytes. -/
def Carries (element : Element) (oui : Oui) (behind : Nat) (suites : Suites) : Prop :=
  ∃ before extra, before.length = behind ∧ element.data = before ++ (oui.bytes suites ++ extra)

/-- The suites of a vendor element stand behind its type word and its version, those of
an element 48 behind its version. -/
def CarriesWpa (element : Element) : Suites → Prop := element.Carries .wpa 6

def CarriesWpa2 (element : Element) : Suites → Prop := element.Carries .wpa2 2

/-- A security element holds the lists it announces in full, with its own OUI. -/
structure WellFormed (element : Element) : Prop where
  wpa : element.IsWpa → ∃ suites, element.CarriesWpa suites
  wpa2 : element.IsWpa2 → ∃ suites, element.CarriesWpa2 suites

/-- The flags of the suites that an element lists. -/
def Announces (element : Element) (infrastructureMode : Nat) (flag : Flag) : Prop :=
  (element.IsWpa ∧ ∃ suites, element.CarriesWpa suites ∧
      suites.Announces (wpaKeyFlag infrastructureMode) flag) ∨
    (element.IsWpa2 ∧ ∃ suites, element.CarriesWpa2 suites ∧
      suites.Announces (wpa2KeyFlag infrastructureMode) flag)

theorem Announces.long {element : Element} {infrastructureMode : Nat} {flag : Flag}
    (announces : element.Announces infrastructureMode flag) : 12 ≤ element.data.length := by
  rcases announces with ⟨wpa, -⟩ | ⟨wpa2, -⟩
  · exact Nat.le_trans (by decide) wpa.2.1
  · exact wpa2.2

theorem length_bytes (element : Element) : element.bytes.length = element.data.length + 2 := rfl

theorem toNat_length (element : Element) :
    (BitVec.ofNat 8 element.data.length).toNat = element.data.length := by
  rw [BitVec.toNat_ofNat]
  exact Nat.mod_eq_of_lt element.short

end Element

/-! ## The walk over the suites -/

theorem has_setCipher (security : Security) (type : Byte) (flag : Flag) :
    (security.setCipher (type.setWidth 32)).Has flag ↔
      security.Has flag ∨ cipherFlag type = some flag := by
  have two : type.setWidth 32 = 2 ↔ type = 2 := by
    revert type
    decide +kernel
  have three : type.setWidth 32 = 3 ↔ type = 3 := by
    revert type
    decide +kernel
  have four : type.setWidth 32 = 4 ↔ type = 4 := by
    revert type
    decide +kernel
  simp only [Security.setCipher, cipherFlag, two, three, four]
  split_ifs <;> cases flag <;> simp [Security.Has]

section KeyTypes

variable (security : Security) (infrastructureMode : Nat) (type : Byte) (flag : Flag)

theorem keyType_one : type.setWidth 32 = 1 ↔ type = 1 := by
  revert type
  decide +kernel

theorem keyType_shared :
    type.setWidth 32 = 0 ∨ type.setWidth 32 = 2 ↔ type = 0 ∨ type = 2 := by
  revert type
  decide +kernel

theorem has_setWpa :
    (security.setWpa infrastructureMode (type.setWidth 32)).Has flag ↔
      security.Has flag ∨ wpaKeyFlag infrastructureMode type = some flag := by
  simp only [Security.setWpa, wpaKeyFlag, keyFlag, keyType_one, keyType_shared]
  split_ifs <;> cases flag <;> simp [Security.Has]

theorem has_setWpa2 :
    (security.setWpa2 infrastructureMode (type.setWidth 32)).Has flag ↔
      security.Has flag ∨ wpa2KeyFlag infrastructureMode type = some flag := by
  simp only [Security.setWpa2, wpa2KeyFlag, keyFlag, keyType_one, keyType_shared]
  split_ifs <;> cases flag <;> simp [Security.Has]

end KeyTypes

/-- The code reads suites with an OUI, and sets the flags of their types. -/
structure SetsKeys (word : BitVec 32) (setKey : Security → BitVec 32 → Security) (oui : Oui)
    (keyFlag : Byte → Option Flag) : Prop where
  ouiOf : ∀ type, ouiOf (wordOf oui.first oui.second oui.third type) = word
  typeOf : ∀ type, typeOf (wordOf oui.first oui.second oui.third type) = type.setWidth 32
  foreign : word ≠ ciscoOui
  has : ∀ security type flag, (setKey security (type.setWidth 32)).Has flag ↔
    security.Has flag ∨ keyFlag type = some flag

theorem setsKeys_wpa (infrastructureMode : Nat) :
    SetsKeys wpaOui (Security.setWpa infrastructureMode) .wpa (wpaKeyFlag infrastructureMode) where
  ouiOf := by decide +kernel
  typeOf := by decide +kernel
  foreign := by decide
  has := fun security type flag => has_setWpa security infrastructureMode type flag

theorem setsKeys_wpa2 (infrastructureMode : Nat) :
    SetsKeys wpa2Oui (Security.setWpa2 infrastructureMode) .wpa2
      (wpa2KeyFlag infrastructureMode) where
  ouiOf := by decide +kernel
  typeOf := by decide +kernel
  foreign := by decide
  has := fun security type flag => has_setWpa2 security infrastructureMode type flag

section Suites

variable {area : Memory} {word : BitVec 32} {setKey : Security → BitVec 32 → Security}
  {oui : Oui} {keyFlag : Byte → Option Flag} (sets : SetsKeys word setKey oui keyFlag)
  {rest : List Byte} (flag : Flag)

include sets

theorem readSuite_result {type : Byte} {offset : Nat}
    (holds : Holds area offset (oui.suite type ++ rest)) :
    ouiOf (readWord area offset).result = word ∧
      typeOf (readWord area offset).result = type.setWidth 32 := by
  rw [Holds.readWord_result holds]
  exact ⟨sets.ouiOf type, sets.typeOf type⟩

theorem pairwiseKeys_has {types : List Byte} {offset : Nat} (security : Security)
    (holds : Holds area offset (types.flatMap oui.suite ++ rest)) :
    (pairwiseKeys area word types.length offset security).result.Has flag ↔
      security.Has flag ∨ ∃ type ∈ types, cipherFlag type = some flag := by
  induction types generalizing offset security with
  | nil => simp [pairwiseKeys]
  | cons type types induction =>
      rw [List.flatMap_cons, List.append_assoc] at holds
      obtain ⟨own, typed⟩ := readSuite_result sets holds
      have later := induction (security.setCipher (type.setWidth 32)) holds.right
      simp only [List.length_cons, pairwiseKeys, Reading.result_bind, own, typed, if_true]
      rw [show offset + 4 = offset + (oui.suite type).length from rfl, later, has_setCipher]
      simp only [List.mem_cons, exists_eq_or_imp, or_assoc]

theorem authenKeys_has {types : List Byte} {offset : Nat} (security : Security)
    (holds : Holds area offset (types.flatMap oui.suite ++ rest)) :
    (authenKeys area word setKey types.length offset security).result.Has flag ↔
      security.Has flag ∨ ∃ type ∈ types, keyFlag type = some flag := by
  induction types generalizing offset security with
  | nil => simp [authenKeys]
  | cons type types induction =>
      rw [List.flatMap_cons, List.append_assoc] at holds
      obtain ⟨own, typed⟩ := readSuite_result sets holds
      have later := induction (setKey security (type.setWidth 32)) holds.right
      simp only [List.length_cons, authenKeys, Reading.result_bind, authenKey, own, typed,
        sets.foreign, if_false, if_true]
      rw [show offset + 4 = offset + (oui.suite type).length from rfl, later, sets.has]
      simp only [List.mem_cons, exists_eq_or_imp, or_assoc]

omit sets in
theorem readCount_result {types : List Byte} {offset : Nat} (short : types.length < 65536)
    (holds : Holds area offset (oui.list types ++ rest)) :
    (readShort area offset).result.toNat = types.length := by
  have low : (BitVec.ofNat 8 types.length).toNat < 2 ^ 8 := BitVec.isLt _
  rw [Holds.readShort_result holds, shortOf, BitVec.toNat_append,
    ← Nat.shiftLeft_add_eq_or_of_lt low, Nat.shiftLeft_eq, BitVec.toNat_ofNat, BitVec.toNat_ofNat]
  omega

theorem suiteLists_has {suites : Suites} {plGroupKey : Nat} (security : Security)
    (pairwiseShort : suites.pairwise.length < 65536) (akmShort : suites.akm.length < 65536)
    (holds : Holds area plGroupKey (oui.bytes suites ++ rest)) :
    (suiteLists area word setKey plGroupKey security).result.Has flag ↔
      security.Has flag ∨ suites.Announces keyFlag flag := by
  rw [Oui.bytes, List.append_assoc, List.append_assoc] at holds
  obtain ⟨own, typed⟩ := readSuite_result sets holds
  have pairs : Holds area (plGroupKey + 4)
      (oui.list suites.pairwise ++ (oui.list suites.akm ++ rest)) := holds.right
  have keys : Holds area (plGroupKey + 4 + 2 + 4 * suites.pairwise.length)
      (oui.list suites.akm ++ rest) := by
    have right := pairs.right
    rw [oui.length_list, ← Nat.add_assoc] at right
    exact right
  have pairCount := readCount_result pairwiseShort pairs
  have keyCount := readCount_result akmShort keys
  simp only [suiteLists, Reading.result_bind, own, typed, if_true, pairCount, keyCount]
  rw [authenKeys_has sets flag _ keys.tail.tail, pairwiseKeys_has sets flag _ pairs.tail.tail,
    has_setCipher]
  simp only [Suites.Announces, or_assoc]

end Suites

/-! ## The walk over an element -/

section Element

variable {area : Memory} {element : Element} {offset : Nat}
  (holds : Holds area offset element.bytes)

include holds

theorem Element.holds_data : Holds area (offset + 2) element.data := holds.tail.tail

theorem Element.length_byte : (area (offset + 1)).toNat = element.data.length := by
  rw [holds.tail.head, element.toNat_length]

theorem nextElement_eq : nextElement area offset = offset + element.bytes.length := by
  rw [nextElement, Element.length_byte holds, element.length_bytes]
  omega

theorem Element.readWord_type (long : 16 ≤ element.data.length) :
    (readWord area (offset + 2)).result = element.typeWord := by
  have data := Element.holds_data holds
  have byte : ∀ index, index < 16 → area (offset + 2 + index) = element.data.getD index 0 := by
    intro index inside
    rw [data index (by omega), List.getD_eq_getElem _ _ (by omega)]
  simp only [readWord, Element.typeWord]
  rw [← byte 0 (by decide), ← byte 1 (by decide), ← byte 2 (by decide), ← byte 3 (by decide)]

theorem Element.holds_suites {oui : Oui} {behind : Nat} {suites : Suites}
    (carries : element.Carries oui behind suites) :
    ∃ rest, Holds area (offset + 2 + behind) (oui.bytes suites ++ rest) ∧
      suites.pairwise.length < 65536 ∧ suites.akm.length < 65536 := by
  obtain ⟨before, extra, rfl, split⟩ := carries
  have data := Element.holds_data holds
  rw [split] at data
  refine ⟨extra, data.right, ?_⟩
  have short := element.short
  rw [split, Oui.bytes, List.length_append, List.length_append, List.length_append,
    List.length_append, Oui.length_list, Oui.length_list] at short
  omega

variable (infrastructureMode : Nat) (security : Security) (flag : Flag)

theorem Element.suiteLists_has {word : BitVec 32} {setKey : Security → BitVec 32 → Security}
    {oui : Oui} {keyFlag : Byte → Option Flag} (sets : SetsKeys word setKey oui keyFlag)
    {behind : Nat} {suites : Suites} (carries : element.Carries oui behind suites) :
    (suiteLists area word setKey (offset + 2 + behind) security).result.Has flag ↔
      security.Has flag ∨ suites.Announces keyFlag flag := by
  obtain ⟨rest, stands, pairwiseShort, akmShort⟩ := Element.holds_suites holds carries
  exact NetLink.suiteLists_has sets flag security pairwiseShort akmShort stands

theorem wpaElement_has (wellFormed : element.WellFormed) (vendor : element.id = 221)
    (long : 16 ≤ element.data.length) :
    (wpaElement area infrastructureMode offset security).result.Has flag ↔
      security.Has flag ∨ element.Announces infrastructureMode flag := by
  have notWpa2 : ¬element.IsWpa2 := fun wpa2 => absurd (vendor.symm.trans wpa2.1) (by decide)
  simp only [wpaElement, Reading.result_bind, Element.readWord_type holds long]
  by_cases type : element.typeWord = wpaOuiType
  · have wpa : element.IsWpa := ⟨vendor, long, type⟩
    have announced := fun suites (carries : element.CarriesWpa suites) =>
      Element.suiteLists_has holds security flag (setsKeys_wpa infrastructureMode) carries
    obtain ⟨suites, carries⟩ := wellFormed.wpa wpa
    rw [if_neg (not_not.mpr type)]
    constructor
    · intro has
      rcases (announced suites carries).mp has with kept | listed
      · exact Or.inl kept
      · exact Or.inr (Or.inl ⟨wpa, suites, carries, listed⟩)
    · rintro (kept | ⟨-, other, otherCarries, listed⟩ | ⟨wpa2, -⟩)
      · exact (announced suites carries).mpr (Or.inl kept)
      · exact (announced other otherCarries).mpr (Or.inr listed)
      · exact absurd wpa2 notWpa2
  · rw [if_pos type]
    refine ⟨Or.inl, ?_⟩
    rintro (kept | ⟨wpa, -⟩ | ⟨wpa2, -⟩)
    · exact kept
    · exact absurd wpa.2.2 type
    · exact absurd wpa2 notWpa2

theorem wpa2Element_has (wellFormed : element.WellFormed) (wpa2 : element.IsWpa2) :
    (wpa2Element area infrastructureMode offset security).result.Has flag ↔
      security.Has flag ∨ element.Announces infrastructureMode flag := by
  have notWpa : ¬element.IsWpa := fun wpa => absurd (wpa.1.symm.trans wpa2.1) (by decide)
  have announced := fun suites (carries : element.CarriesWpa2 suites) =>
    Element.suiteLists_has holds security flag (setsKeys_wpa2 infrastructureMode) carries
  obtain ⟨suites, carries⟩ := wellFormed.wpa2 wpa2
  constructor
  · intro has
    rcases (announced suites carries).mp has with kept | listed
    · exact Or.inl kept
    · exact Or.inr (Or.inr ⟨wpa2, suites, carries, listed⟩)
  · rintro (kept | ⟨wpa, -⟩ | ⟨-, other, otherCarries, listed⟩)
    · exact (announced suites carries).mpr (Or.inl kept)
    · exact absurd wpa notWpa
    · exact (announced other otherCarries).mpr (Or.inr listed)

theorem walkElement_has (wellFormed : element.WellFormed) :
    (walkElement area infrastructureMode offset security).result.Has flag ↔
      security.Has flag ∨ element.Announces infrastructureMode flag := by
  have id : area offset = element.id := holds.head
  simp only [walkElement, Reading.result_bind, result_readByte, id, Element.length_byte holds]
  by_cases vendor : element.id = 221 ∧ 16 ≤ element.data.length
  · rw [if_pos vendor]
    exact wpaElement_has holds infrastructureMode security flag wellFormed vendor.1 vendor.2
  · rw [if_neg vendor]
    by_cases wpa2 : element.id = 48 ∧ 12 ≤ element.data.length
    · rw [if_pos wpa2]
      exact wpa2Element_has holds infrastructureMode security flag wellFormed wpa2
    · rw [if_neg wpa2]
      refine ⟨Or.inl, ?_⟩
      rintro (kept | ⟨wpa, -⟩ | ⟨other, -⟩)
      · exact kept
      · exact absurd ⟨wpa.1, wpa.2.1⟩ vendor
      · exact absurd other wpa2

end Element

end StudyDemo.NetLink
