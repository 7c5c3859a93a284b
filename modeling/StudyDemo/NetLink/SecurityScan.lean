import StudyDemo.NetLink.SecurityElements

/-! # The security scan

The walk over a well-formed block collects the flags of the elements it comes to. It
does not come to those behind an element of length zero, unless that is the first. -/

namespace StudyDemo.NetLink

open StudyDemo.CMemory

/-! ## Blocks -/

def elementsBytes (elements : List Element) : List Byte := elements.flatMap Element.bytes

/-- What `malloc` returns for the list of networks. -/
def listSize : Nat := 65536 * 2

/-- The elements behind the fixed part of an IE block in the list of networks. -/
structure IeBlock where
  elements : List Element
  wellFormed : ∀ element ∈ elements, element.WellFormed
  inList : fixedSize + (elementsBytes elements).length ≤ listSize

def IeBlock.ieLength (block : IeBlock) : Nat := fixedSize + (elementsBytes block.elements).length

/-- The elements up to the first one of length zero behind the first element. -/
def visited : List Element → List Element
  | [] => []
  | element :: rest => element :: rest.takeWhile fun later => later.data ≠ []

/-- The elements from there on. -/
def skipped : List Element → List Element
  | [] => []
  | _ :: rest => rest.dropWhile fun later => later.data ≠ []

/-- Some of the elements announces the flag. -/
def Announced (infrastructureMode : Nat) (elements : List Element) (flag : Flag) : Prop :=
  ∃ element ∈ elements, element.Announces infrastructureMode flag

/-- The walk ends, with the flags of all elements. -/
def SeesEvery (area : Memory) (infrastructureMode : Nat) (long : UnsignedLong)
    (block : IeBlock) : Prop :=
  ∀ turns, block.ieLength ≤ turns →
    ∃ security,
      (walkIEs area infrastructureMode long block.ieLength turns).result = some security ∧
        ∀ flag, security.Has flag ↔ Announced infrastructureMode block.elements flag

theorem visited_append_skipped (elements : List Element) :
    visited elements ++ skipped elements = elements := by
  cases elements with
  | nil => rfl
  | cons element rest => exact congrArg (element :: ·) (List.takeWhile_append_dropWhile)

theorem announced_append {infrastructureMode : Nat} {first second : List Element} {flag : Flag} :
    Announced infrastructureMode (first ++ second) flag ↔
      Announced infrastructureMode first flag ∨ Announced infrastructureMode second flag := by
  simp only [Announced, List.mem_append, or_and_right, exists_or]

theorem announced_cons {infrastructureMode : Nat} {element : Element} {rest : List Element}
    {flag : Flag} : Announced infrastructureMode (element :: rest) flag ↔
      element.Announces infrastructureMode flag ∨ Announced infrastructureMode rest flag := by
  simp only [Announced, List.mem_cons, exists_eq_or_imp]

theorem not_announced_nil (infrastructureMode : Nat) (flag : Flag) :
    ¬Announced infrastructureMode [] flag := by
  simp [Announced]

theorem Announced.long {infrastructureMode : Nat} {elements : List Element} {flag : Flag}
    (announced : Announced infrastructureMode elements flag) :
    14 ≤ (elementsBytes elements).length := by
  induction elements with
  | nil => exact absurd announced (not_announced_nil infrastructureMode flag)
  | cons element rest induction =>
      rw [elementsBytes, List.flatMap_cons, List.length_append, element.length_bytes]
      rcases announced_cons.mp announced with here | later
      · have long := here.long
        omega
      · have long := induction later
        rw [elementsBytes] at long
        omega

theorem Announced.of_visited {infrastructureMode : Nat} {elements : List Element} {flag : Flag}
    (announced : Announced infrastructureMode (visited elements) flag) :
    Announced infrastructureMode elements flag := by
  rw [← visited_append_skipped elements]
  exact announced_append.mpr (Or.inl announced)

theorem takeWhile_eq_visited {rest : List Element}
    (nonempty : ∀ later others, rest = later :: others → later.data ≠ []) :
    (rest.takeWhile fun later => later.data ≠ []) = visited rest := by
  cases rest with
  | nil => rfl
  | cons later others =>
      exact List.takeWhile_cons_of_pos (decide_eq_true (nonempty later others rfl))

theorem takeWhile_eq_nil {rest : List Element}
    (empty : ∀ later others, rest = later :: others → later.data = []) :
    (rest.takeWhile fun later => later.data ≠ []) = [] := by
  cases rest with
  | nil => rfl
  | cons later others =>
      exact List.takeWhile_cons_of_neg (by simp [empty later others rfl])

/-! ## The run of the loop -/

section Run

variable {area : Memory} (infrastructureMode : Nat) (long : UnsignedLong) {ieLength : Nat}
  (small : ieLength + 3 < 2 ^ 32)

include small

theorem continues_iff {offset : Nat} (inside : offset ≤ ieLength) :
    Continues long ieLength (BitVec.ofNat 32 offset) ↔ offset + 3 < ieLength := by
  have narrow : (BitVec.ofNat 32 offset).toNat = offset := by
    rw [BitVec.toNat_ofNat]
    exact Nat.mod_eq_of_lt (by omega)
  have wide : (offset + 3) % 2 ^ long.width = offset + 3 := by
    apply Nat.mod_eq_of_lt
    cases long with
    | bits32 => exact Nat.lt_of_le_of_lt (by omega) small
    | bits64 => exact Nat.lt_of_le_of_lt (by omega) (small.trans (by decide))
  rw [Continues, narrow, wide]

/-- From an element on, the loop sets the flags of the elements up to one of length
zero. -/
theorem walkLoop_has {elements : List Element}
    (wellFormed : ∀ element ∈ elements, element.WellFormed) {offset turns : Nat}
    (holds : Holds area offset (elementsBytes elements))
    (ends : offset + (elementsBytes elements).length = ieLength)
    (enough : elements.length < turns) (security : Security) :
    ∃ final, (walkLoop area infrastructureMode long ieLength turns
        (walkAt offset security)).result = some final ∧
      ∀ flag, final.Has flag ↔
        security.Has flag ∨ Announced infrastructureMode (visited elements) flag := by
  induction elements generalizing offset turns security with
  | nil =>
      cases turns with
      | zero => exact absurd enough (Nat.lt_irrefl 0)
      | succ turns =>
          have ended : ¬Continues long ieLength (BitVec.ofNat 32 offset) := by
            change offset + 0 = ieLength at ends
            rw [continues_iff long small (by omega)]
            omega
          rw [walkLoop_ended area infrastructureMode long security turns ended]
          exact ⟨security, rfl, fun flag => (or_iff_left (not_announced_nil _ flag)).symm⟩
  | cons element rest induction =>
      rw [elementsBytes, List.flatMap_cons] at holds
      have length : offset + element.bytes.length + (elementsBytes rest).length = ieLength := by
        rw [elementsBytes, List.flatMap_cons, List.length_append] at ends
        rw [Nat.add_assoc]
        exact ends
      have here : Holds area offset element.bytes := holds.left
      have behind : Holds area (offset + element.bytes.length) (elementsBytes rest) := holds.right
      cases turns with
      | zero => exact absurd enough (Nat.not_lt_zero _)
      | succ turns =>
          by_cases more : Continues long ieLength (BitVec.ofNat 32 offset)
          · have walked := fun flag => walkElement_has here infrastructureMode security flag
              (wellFormed element List.mem_cons_self)
            have header : ∀ later others, rest = later :: others →
                (area (offset + element.bytes.length + 1)).toNat = later.data.length := by
              rintro later others rfl
              exact Element.length_byte (Holds.left behind)
            rw [walkLoop_result area infrastructureMode long security turns more,
              nextElement_eq here]
            generalize (walkElement area infrastructureMode offset security).result = flags at *
            by_cases last : area (offset + element.bytes.length + 1) = 0
            -- The walk stops at an empty element, or at what stands behind the block.
            · have stop := takeWhile_eq_nil fun later others split => by
                have none := header later others split
                rw [last] at none
                exact List.length_eq_zero_iff.mp none.symm
              rw [if_pos last]
              refine ⟨flags, rfl, fun flag => ?_⟩
              rw [visited, stop, walked, announced_cons]
              simp only [not_announced_nil, or_false]
            · have further := takeWhile_eq_visited fun later others split => by
                intro none
                apply last
                apply BitVec.eq_of_toNat_eq
                rw [header later others split, none]
                rfl
              obtain ⟨final, result, has⟩ := induction
                (fun later member => wellFormed later (List.mem_cons_of_mem _ member)) behind length
                (Nat.lt_of_succ_lt_succ enough) flags
              rw [if_neg last]
              refine ⟨final, result, fun flag => ?_⟩
              rw [visited, further, has, walked, announced_cons, or_assoc]
          · rw [continues_iff long small (by omega)] at more
            have nothing : ∀ flag,
                ¬Announced infrastructureMode (visited (element :: rest)) flag := by
              intro flag announced
              have long := announced.of_visited.long
              omega
            rw [walkLoop_ended area infrastructureMode long security turns (by
              rw [continues_iff long small (by omega)]
              exact more)]
            exact ⟨security, rfl, fun flag => (or_iff_left (nothing flag)).symm⟩

end Run

/-! ## The scan of a block -/

theorem not_has_none (flag : Flag) : ¬Security.none.Has flag := by
  cases flag <;> exact Bool.false_ne_true

theorem length_le_elementsBytes (elements : List Element) :
    elements.length ≤ (elementsBytes elements).length := by
  induction elements with
  | nil => exact Nat.le_refl _
  | cons element rest induction =>
      rw [elementsBytes, List.flatMap_cons, List.length_append, List.length_cons,
        element.length_bytes]
      rw [elementsBytes] at induction
      omega

section Scan

variable {area : Memory} (infrastructureMode : Nat) (long : UnsignedLong) (block : IeBlock)
  (holds : Holds area fixedSize (elementsBytes block.elements))

include holds

theorem walkIEs_has {turns : Nat} (enough : block.ieLength ≤ turns) :
    ∃ security,
      (walkIEs area infrastructureMode long block.ieLength turns).result = some security ∧
        ∀ flag, security.Has flag ↔
          Announced infrastructureMode (visited block.elements) flag := by
  have small : block.ieLength + 3 < 2 ^ 32 :=
    Nat.lt_of_le_of_lt (Nat.add_le_add_right block.inList 3) (by decide)
  have many : block.elements.length < turns := by
    have fewer := length_le_elementsBytes block.elements
    change 12 + _ ≤ turns at enough
    omega
  obtain ⟨security, result, has⟩ := walkLoop_has infrastructureMode long small block.wellFormed
    holds rfl many .none
  exact ⟨security, result, fun flag => (has flag).trans (or_iff_right (not_has_none flag))⟩

/-- The scan finds the flags of all elements exactly if those behind the first empty
element, other than the first of all, announce nothing new. -/
theorem seesEvery_iff :
    SeesEvery area infrastructureMode long block ↔
      ∀ flag, Announced infrastructureMode (skipped block.elements) flag →
        Announced infrastructureMode (visited block.elements) flag := by
  constructor
  · intro sees flag announced
    obtain ⟨security, result, all⟩ := sees block.ieLength (Nat.le_refl _)
    obtain ⟨same, found, has⟩ := walkIEs_has infrastructureMode long block holds (Nat.le_refl _)
    obtain rfl := Option.some.inj (result.symm.trans found)
    rw [← has, all, ← visited_append_skipped block.elements]
    exact announced_append.mpr (Or.inr announced)
  · intro nothing turns enough
    obtain ⟨security, result, has⟩ := walkIEs_has infrastructureMode long block holds enough
    refine ⟨security, result, fun flag => (has flag).trans ⟨Announced.of_visited, fun all => ?_⟩⟩
    rw [← visited_append_skipped block.elements] at all
    rcases announced_append.mp all with here | behind
    · exact here
    · exact nothing flag behind

end Scan

/-! ## What is listed -/

/-- The flags that decide what `Auth` says. -/
def Flag.IsKey : Flag → Prop
  | .bTKIP => False
  | .bAESWRAP => False
  | .bAESCCMP => False
  | _ => True

theorem authText_unknown_iff (security : Security) :
    security.authText = literal "Unknown" ↔ ∀ flag : Flag, flag.IsKey → ¬security.Has flag := by
  constructor
  · intro unknown flag isKey has
    have named : security.authText ≠ literal "Unknown" := by
      dsimp only [Security.authText]
      split_ifs with wpa wpapsk wpanone wpa2 wpa2psk wpa2none
      · decide +kernel
      · decide +kernel
      · decide +kernel
      · decide +kernel
      · decide +kernel
      · decide +kernel
      · cases flag <;> contradiction
    exact named unknown
  · intro none
    have wpa := none .bWPA trivial
    have wpapsk := none .bWPAPSK trivial
    have wpanone := none .bWPANONE trivial
    have wpa2 := none .bWPA2 trivial
    have wpa2psk := none .bWPA2PSK trivial
    have wpa2none := none .bWPA2NONE trivial
    simp only [Security.Has] at wpa wpapsk wpanone wpa2 wpa2psk wpa2none
    simp only [Security.authText, wpa, wpapsk, wpanone, wpa2, wpa2psk, wpa2none]
    rfl

/-- A network is listed as unknown exactly if no visited element announces a key
management. -/
theorem surveySecurity_unknown {area : Memory} (infrastructureMode : Nat) (long : UnsignedLong)
    (block : IeBlock) (holds : Holds area fixedSize (elementsBytes block.elements))
    (length : Nat) {turns : Nat} (enough : block.ieLength ≤ turns) :
    ∃ security,
      (surveySecurity area infrastructureMode long block.ieLength length turns).result =
          some security ∧
        (long.bssidSize < length → (security.authText = literal "Unknown" ↔
          ∀ flag : Flag, flag.IsKey →
            ¬Announced infrastructureMode (visited block.elements) flag)) := by
  rw [surveySecurity]
  split_ifs with listed
  · obtain ⟨security, result, has⟩ := walkIEs_has infrastructureMode long block holds enough
    refine ⟨security, result, fun _ => ?_⟩
    rw [authText_unknown_iff]
    simp only [has]
  · refine ⟨.none, rfl, fun entry => ?_⟩
    have empty : block.elements = [] := by
      have short : ¬fixedSize < block.ieLength := fun long => listed ⟨entry, long⟩
      have fewer := length_le_elementsBytes block.elements
      rw [IeBlock.ieLength] at short
      exact List.length_eq_zero_iff.mp (by omega)
    rw [authText_unknown_iff, empty]
    exact iff_of_true (fun flag _ => not_has_none flag) fun flag _ => not_announced_nil _ flag

/-! ## An empty element -/

/-- An element 48 with one cipher and a key that is shared beforehand. -/
def sharedKeyElement : Element where
  id := 48
  data := [0x01, 0x00] ++ (Oui.wpa2.bytes { group := 4, pairwise := [4], akm := [2] } ++ [])
  short := by decide

/-- The hidden name of a network. -/
def emptyElement : Element where
  id := 0
  data := []
  short := by decide

/-- The rates that a network supports. -/
def ratesElement : Element where
  id := 1
  data := [0x82, 0x84, 0x8B, 0x96]
  short := by decide

theorem sharedKeyElement_wellFormed : sharedKeyElement.WellFormed where
  wpa := fun wpa => absurd wpa.1 (by decide)
  wpa2 := fun _ => ⟨_, _, _, rfl, rfl⟩

theorem emptyElement_wellFormed : emptyElement.WellFormed where
  wpa := fun wpa => absurd wpa.1 (by decide)
  wpa2 := fun wpa2 => absurd wpa2.1 (by decide)

theorem ratesElement_wellFormed : ratesElement.WellFormed where
  wpa := fun wpa => absurd wpa.1 (by decide)
  wpa2 := fun wpa2 => absurd wpa2.1 (by decide)

/-- A network with a hidden name: the empty element is the first. -/
def hiddenBlock : IeBlock where
  elements := [emptyElement, sharedKeyElement]
  wellFormed := by
    intro element member
    rcases List.mem_cons.mp member with rfl | later
    · exact emptyElement_wellFormed
    · rw [List.mem_singleton.mp later]
      exact sharedKeyElement_wellFormed
  inList := by decide

theorem seesEvery_hidden :
    SeesEvery (store (fun _ => 0) fixedSize (elementsBytes hiddenBlock.elements)) 1 .bits32
      hiddenBlock :=
  (seesEvery_iff 1 .bits32 hiddenBlock (holds_store _ _ _)).mpr fun flag announced =>
    absurd announced (not_announced_nil 1 flag)

/-- The same elements behind the rates. -/
def maskedBlock : IeBlock where
  elements := [ratesElement, emptyElement, sharedKeyElement]
  wellFormed := by
    intro element member
    rcases List.mem_cons.mp member with rfl | later
    · exact ratesElement_wellFormed
    · exact hiddenBlock.wellFormed element later
  inList := by decide

theorem not_seesEvery : ¬∀ (area : Memory) (infrastructureMode : Nat) (long : UnsignedLong)
    (block : IeBlock), Holds area fixedSize (elementsBytes block.elements) →
      SeesEvery area infrastructureMode long block := by
  intro sees
  obtain ⟨security, result, all⟩ := sees
    (store (fun _ => 0) fixedSize (elementsBytes maskedBlock.elements)) 1 .bits32 maskedBlock
    (holds_store _ _ _) maskedBlock.ieLength (Nat.le_refl _)
  have nothing : (walkIEs (store (fun _ => 0) fixedSize (elementsBytes maskedBlock.elements)) 1
      .bits32 maskedBlock.ieLength maskedBlock.ieLength).result = some .none := by
    decide +kernel
  obtain rfl := Option.some.inj (result.symm.trans nothing)
  have announced : Announced 1 maskedBlock.elements .bWPA2PSK := by
    refine ⟨sharedKeyElement, by simp [maskedBlock], Or.inr ⟨⟨rfl, by decide⟩, ?_⟩⟩
    exact ⟨_, ⟨_, _, rfl, rfl⟩, Or.inr (Or.inr ⟨2, List.mem_singleton.mpr rfl, by decide⟩)⟩
  exact not_has_none _ ((all .bWPA2PSK).mpr announced)

end StudyDemo.NetLink
