import StudyDemo.NetLink.InformationElements

/-! # What the walk reads

The loop tests that an element has a header inside the block. It does not test that
the announced lists end there, and looks at the header of the next element before
the test. -/

namespace StudyDemo.NetLink

open StudyDemo.CMemory

/-! ## The elements of a block -/

section Block

variable (area : Memory)

/-- The offset behind the lists of a group suite at `plGroupKey`. -/
def listsEnd (plGroupKey : Nat) : Nat :=
  let pairs := (readShort area (plGroupKey + 4)).result.toNat
  let keys := (readShort area (plGroupKey + 6 + 4 * pairs)).result.toNat
  plGroupKey + 8 + 4 * pairs + 4 * keys

/-- The element at an offset is a vendor element with the type word and the group suite
of WPA. -/
def IsWpaAt (offset : Nat) : Prop :=
  area offset = 221 ∧ 16 ≤ (area (offset + 1)).toNat ∧
    (readWord area (offset + 2)).result = wpaOuiType ∧
    ouiOf (readWord area (offset + 8)).result = wpaOui

/-- The element at an offset is an element 48 with a group suite of its own. -/
def IsWpa2At (offset : Nat) : Prop :=
  area offset = 48 ∧ 12 ≤ (area (offset + 1)).toNat ∧
    ouiOf (readWord area (offset + 4)).result = wpa2Oui

/-- The lists that the element at an offset announces end inside the block, and so does
the header of the next element. -/
structure InsideBlock (ieLength offset : Nat) : Prop where
  wpa : IsWpaAt area offset → listsEnd area (offset + 8) ≤ ieLength
  wpa2 : IsWpa2At area offset → listsEnd area (offset + 4) ≤ ieLength
  header : nextElement area offset + 2 ≤ ieLength

/-- The offsets of the elements, up to one of length zero behind another or to the end of
the block. -/
inductive ElementAt (long : UnsignedLong) (ieLength : Nat) : Nat → Prop
  | first (more : Continues long ieLength (BitVec.ofNat 32 fixedSize)) :
      ElementAt long ieLength fixedSize
  | next (offset : Nat) (element : ElementAt long ieLength offset)
      (nonempty : area (nextElement area offset + 1) ≠ 0)
      (more : Continues long ieLength (BitVec.ofNat 32 (nextElement area offset))) :
      ElementAt long ieLength (nextElement area offset)

end Block

/-! ## The reads of one element -/

section Reads

variable (area : Memory) (oui : BitVec 32) (setKey : Security → BitVec 32 → Security)
  {limit : Nat}

theorem pairwiseKeys_within (left plPairwiseKey : Nat) (security : Security)
    (inside : plPairwiseKey + 4 * left ≤ limit) :
    (pairwiseKeys area oui left plPairwiseKey security).Within limit := by
  induction left generalizing plPairwiseKey security with
  | zero => exact Reading.within_pure security
  | succ left induction =>
      rw [pairwiseKeys, Reading.within_bind]
      refine ⟨(within_readWord area).mpr (by omega), ?_⟩
      split_ifs
      · exact induction _ _ (by omega)
      · exact Reading.within_pure security

theorem authenKeys_within (left plAuthenKey : Nat) (security : Security)
    (start : plAuthenKey ≤ limit) :
    (authenKeys area oui setKey left plAuthenKey security).Within limit ↔
      plAuthenKey + 4 * left ≤ limit := by
  induction left generalizing plAuthenKey security with
  | zero => exact iff_of_true (Reading.within_pure security) start
  | succ left induction =>
      rw [authenKeys, Reading.within_bind, within_readWord]
      constructor
      · rintro ⟨here, later⟩
        have rest := (induction (plAuthenKey + 4) _ here).mp later
        omega
      · intro inside
        exact ⟨by omega, (induction (plAuthenKey + 4) _ (by omega)).mpr (by omega)⟩

theorem suiteLists_within_own {plGroupKey : Nat} (security : Security)
    (own : ouiOf (readWord area plGroupKey).result = oui) :
    (suiteLists area oui setKey plGroupKey security).Within limit ↔
      listsEnd area plGroupKey ≤ limit := by
  simp only [suiteLists, Reading.within_bind, within_readWord, own, if_true, within_readShort,
    listsEnd]
  generalize (readShort area (plGroupKey + 4)).result.toNat = pairs
  rw [show plGroupKey + 4 + 2 + 4 * pairs = plGroupKey + 6 + 4 * pairs by omega]
  generalize (readShort area (plGroupKey + 6 + 4 * pairs)).result.toNat = keys
  constructor
  · rintro ⟨group, count, pairwise, keyCount, authen⟩
    have inside := (authenKeys_within area oui setKey _ _ _ keyCount).mp authen
    omega
  · intro inside
    refine ⟨by omega, by omega, pairwiseKeys_within area oui _ _ _ (by omega), by omega, ?_⟩
    exact (authenKeys_within area oui setKey _ _ _ (by omega)).mpr (by omega)

theorem suiteLists_within_foreign {plGroupKey : Nat} (security : Security)
    (foreign : ouiOf (readWord area plGroupKey).result ≠ oui) :
    (suiteLists area oui setKey plGroupKey security).Within limit ↔ plGroupKey + 4 ≤ limit := by
  simp only [suiteLists, Reading.within_bind, within_readWord, foreign, if_false,
    Reading.within_pure, and_true]

end Reads

section Element

variable {area : Memory} (infrastructureMode : Nat) {limit offset : Nat}

theorem wpaElement_within (security : Security) (vendor : area offset = 221)
    (long : 16 ≤ (area (offset + 1)).toNat) (header : nextElement area offset + 2 ≤ limit) :
    (wpaElement area infrastructureMode offset security).Within limit ↔
      (IsWpaAt area offset → listsEnd area (offset + 8) ≤ limit) := by
  have typeInside : offset + 2 + 4 ≤ limit := by
    rw [nextElement] at header
    omega
  have groupInside : offset + 8 + 4 ≤ limit := by
    rw [nextElement] at header
    omega
  simp only [wpaElement, Reading.within_bind, within_readWord, typeInside, true_and]
  by_cases type : (readWord area (offset + 2)).result = wpaOuiType
  · rw [if_neg (not_not.mpr type)]
    by_cases own : ouiOf (readWord area (offset + 8)).result = wpaOui
    · rw [suiteLists_within_own area _ _ security own]
      exact ⟨fun inside _ => inside, fun inside => inside ⟨vendor, long, type, own⟩⟩
    · rw [suiteLists_within_foreign area _ _ security own]
      exact iff_of_true groupInside fun wpa => absurd wpa.2.2.2 own
  · rw [if_pos type]
    exact iff_of_true (Reading.within_pure security) fun wpa => absurd wpa.2.2.1 type

theorem wpa2Element_within (security : Security) (rsn : area offset = 48)
    (long : 12 ≤ (area (offset + 1)).toNat) (header : nextElement area offset + 2 ≤ limit) :
    (wpa2Element area infrastructureMode offset security).Within limit ↔
      (IsWpa2At area offset → listsEnd area (offset + 4) ≤ limit) := by
  have groupInside : offset + 4 + 4 ≤ limit := by
    rw [nextElement] at header
    omega
  rw [wpa2Element]
  by_cases own : ouiOf (readWord area (offset + 4)).result = wpa2Oui
  · rw [suiteLists_within_own area _ _ security own]
    exact ⟨fun inside _ => inside, fun inside => inside ⟨rsn, long, own⟩⟩
  · rw [suiteLists_within_foreign area _ _ security own]
    exact iff_of_true groupInside fun wpa2 => absurd wpa2.2.2 own

/-- An element in front of a header inside the block is read inside the block, if its
lists end there. -/
theorem walkElement_within (security : Security) (header : nextElement area offset + 2 ≤ limit) :
    (walkElement area infrastructureMode offset security).Within limit ↔
      (IsWpaAt area offset → listsEnd area (offset + 8) ≤ limit) ∧
        (IsWpa2At area offset → listsEnd area (offset + 4) ≤ limit) := by
  have idInside : offset < limit := by
    rw [nextElement] at header
    omega
  have lengthInside : offset + 1 < limit := by
    rw [nextElement] at header
    omega
  simp only [walkElement, Reading.within_bind, within_readByte, idInside, lengthInside, true_and]
  change (if area offset = 221 ∧ 16 ≤ (area (offset + 1)).toNat then _
    else if area offset = 48 ∧ 12 ≤ (area (offset + 1)).toNat then _
    else (pure security : Reading Security)).Within limit ↔ _
  split_ifs with vendor rsn
  · rw [wpaElement_within infrastructureMode security vendor.1 vendor.2 header]
    refine ⟨fun inside => ⟨inside, fun wpa2 => ?_⟩, And.left⟩
    exact absurd (vendor.1.symm.trans wpa2.1) (by decide)
  · rw [wpa2Element_within infrastructureMode security rsn.1 rsn.2 header]
    exact ⟨fun inside => ⟨fun wpa => absurd ⟨wpa.1, wpa.2.1⟩ vendor, inside⟩, And.right⟩
  · exact iff_of_true (Reading.within_pure security)
      ⟨fun wpa => absurd ⟨wpa.1, wpa.2.1⟩ vendor, fun wpa2 => absurd ⟨wpa2.1, wpa2.2.1⟩ rsn⟩

end Element

/-! ## The reads of the loop -/

/-- Every byte that the loop reads, however many turns it takes, stands in the block. -/
def ReadsInside (area : Memory) (infrastructureMode : Nat) (long : UnsignedLong)
    (ieLength : Nat) : Prop :=
  ∀ turns, (walkIEs area infrastructureMode long ieLength turns).Within ieLength

section Loop

variable {area : Memory} (infrastructureMode : Nat) {long : UnsignedLong} {ieLength : Nat}

theorem ElementAt.continues {offset : Nat} (element : ElementAt area long ieLength offset) :
    Continues long ieLength (BitVec.ofNat 32 offset) := by
  cases element with
  | first more => exact more
  | next offset element nonempty more => exact more

theorem walkLoop_within_iff {offset : Nat} (element : ElementAt area long ieLength offset)
    (security : Security) (turns : Nat) :
    (walkLoop area infrastructureMode long ieLength (turns + 1)
        (walkAt offset security)).Within ieLength ↔
      InsideBlock area ieLength offset ∧
        (area (nextElement area offset + 1) ≠ 0 →
          (walkLoop area infrastructureMode long ieLength turns
            (walkAt (nextElement area offset)
              (walkElement area infrastructureMode offset security).result)).Within ieLength) := by
  rw [walkLoop_within area infrastructureMode long security turns element.continues]
  constructor
  · rintro ⟨here, header, later⟩
    obtain ⟨wpa, wpa2⟩ := (walkElement_within infrastructureMode security header).mp here
    exact ⟨⟨wpa, wpa2, header⟩, later⟩
  · rintro ⟨⟨wpa, wpa2, header⟩, later⟩
    exact ⟨(walkElement_within infrastructureMode security header).mpr ⟨wpa, wpa2⟩, header, later⟩

theorem walkLoop_inside (inside : ∀ offset, ElementAt area long ieLength offset →
      InsideBlock area ieLength offset) (turns : Nat) {offset : Nat} (security : Security)
    (reached : Continues long ieLength (BitVec.ofNat 32 offset) →
      ElementAt area long ieLength offset) :
    (walkLoop area infrastructureMode long ieLength turns
      (walkAt offset security)).Within ieLength := by
  induction turns generalizing offset security with
  | zero => exact Reading.within_pure _
  | succ turns induction =>
      by_cases more : Continues long ieLength (BitVec.ofNat 32 offset)
      · have element := reached more
        rw [walkLoop_within_iff infrastructureMode element]
        refine ⟨inside offset element, fun nonempty => induction _ fun later => ?_⟩
        exact .next offset element nonempty later
      · rw [walkLoop_ended area infrastructureMode long security turns more]
        exact Reading.within_pure _

theorem exists_walkLoop (reads : ReadsInside area infrastructureMode long ieLength) {offset : Nat}
    (element : ElementAt area long ieLength offset) :
    ∃ security, ∀ turns, (walkLoop area infrastructureMode long ieLength turns
      (walkAt offset security)).Within ieLength := by
  induction element with
  | first more => exact ⟨.none, reads⟩
  | next offset element nonempty more induction =>
      obtain ⟨security, within⟩ := induction
      refine ⟨(walkElement area infrastructureMode offset security).result, fun turns => ?_⟩
      exact ((walkLoop_within_iff infrastructureMode element security turns).mp
        (within (turns + 1))).2 nonempty

end Loop

/-- The walk reads nothing outside the block exactly if for every element the announced
lists, and the header that is looked at next, end inside the block. -/
theorem readsInside_iff (area : Memory) (infrastructureMode : Nat) (long : UnsignedLong)
    (ieLength : Nat) :
    ReadsInside area infrastructureMode long ieLength ↔
      ∀ offset, ElementAt area long ieLength offset → InsideBlock area ieLength offset := by
  constructor
  · intro reads offset element
    obtain ⟨security, within⟩ := exists_walkLoop infrastructureMode reads element
    exact ((walkLoop_within_iff infrastructureMode element security 0).mp (within 1)).1
  · intro inside turns
    exact walkLoop_inside infrastructureMode inside turns .none fun more => .first more

/-- A block of one element, of two bytes: the length byte behind it is read. -/
theorem not_readsInside : ¬∀ (area : Memory) (infrastructureMode : Nat) (long : UnsignedLong)
    (ieLength : Nat), 12 < ieLength → ReadsInside area infrastructureMode long ieLength := by
  intro reads
  have within := reads (store (fun _ => 0) 12 [0, 2, 0x61, 0x62]) 1 .bits32 16 (by decide) 1
  revert within
  decide +kernel

end StudyDemo.NetLink
