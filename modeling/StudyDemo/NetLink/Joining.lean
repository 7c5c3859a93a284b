import StudyDemo.NetLink.Main

/-! # Joining the named network

Which access point `main` joins. The names in the list were rewritten for display,
the received name was not, so that a network is found by its name only if every
character of the name is displayed as it is, or by the search for a part of a name. -/

namespace StudyDemo.NetLink

open StudyDemo.EasyLink StudyDemo.CMemory

/-- The access points of a scan that `APList` has room for. -/
structure Scan where
  bssids : List NdisWlanBssidEx
  named : ∀ bssid ∈ bssids, bssid.HasName
  few : bssids.length ≤ 100

section Search

variable {bssids : List NdisWlanBssidEx} {found : Nat → Bool} {wanted : NdisWlanBssidEx → Bool}
  (same : ∀ index (inside : index < bssids.length), found index = wanted bssids[index])

include same

theorem find?_of_searchList_some {index : Nat}
    (result : searchList bssids.length found = some index) :
    ∃ inside : index < bssids.length, bssids.find? wanted = some bssids[index] := by
  rw [searchList, Int.toNat_natCast, List.find?_range_eq_some, List.mem_range] at result
  obtain ⟨here, inside, before⟩ := result
  refine ⟨inside, List.find?_eq_some_iff_getElem.mpr ⟨?_, index, inside, rfl, ?_⟩⟩
  · rw [← same index inside]
    exact here
  · intro earlier smaller
    rw [← same earlier (smaller.trans inside)]
    exact before earlier smaller

theorem find?_of_searchList_none (result : searchList bssids.length found = none) :
    bssids.find? wanted = none := by
  rw [searchList, Int.toNat_natCast, List.find?_range_eq_none] at result
  apply List.find?_eq_none.mpr
  intro bssid member
  obtain ⟨index, inside, rfl⟩ := List.getElem_of_mem member
  rw [← same index inside]
  simpa using result index inside

end Search

section Names

variable {bssid : NdisWlanBssidEx} {name : List Byte}

theorem NdisWlanBssidEx.listedName_eq_display (bssid : NdisWlanBssidEx)
    (short : bssid.listedName.length < 32) : bssid.listedName = display bssid.ssid := by
  dsimp only [listedName] at short ⊢
  split_ifs at short ⊢ with fits
  · rfl
  · rw [List.length_append, List.length_take] at short
    omega

theorem NdisWlanBssidEx.listedName_of_plain (hasName : bssid.HasName)
    (plain : ∀ char ∈ bssid.ssid, Plain char) : bssid.listedName = bssid.ssid := by
  rw [listedName, display_of_plain plain, if_pos hasName.2.1]

theorem NdisWlanBssidEx.ssid_of_listedName (short : name.length < 32)
    (plain : ∀ char ∈ name, Plain char) (listed : bssid.listedName = name) :
    bssid.ssid = name := by
  apply eq_of_display_eq _ plain
  rw [← bssid.listedName_eq_display (listed ▸ short), listed]

theorem NdisWlanBssidEx.listedName_ne (hasName : bssid.HasName) {char : Byte}
    (member : char ∈ bssid.ssid) (special : ¬Plain char) : bssid.listedName ≠ bssid.ssid := by
  intro listed
  have displayed := bssid.listedName_eq_display (listed ▸ hasName.2.1)
  have grows := length_lt_display member special
  rw [← displayed, listed] at grows
  exact Nat.lt_irrefl _ grows

end Names

/-- When `main` finds the network with a name: no character of the name is special,
or no listed name is the name and the first one to contain it is of that network. -/
def FindsNetwork (bssids : List NdisWlanBssidEx) (name : List Byte) : Prop :=
  (∀ char ∈ name, Plain char) ∨
    (∀ bssid ∈ bssids, bssid.listedName ≠ name) ∧
      ∃ bssid ∈ bssids.find? fun bssid => decide (name <:+: bssid.listedName), bssid.ssid = name

theorem chooseAP_eq (memory : Memory) (apList : Nat) {bssids : List NdisWlanBssidEx}
    (named : ∀ bssid ∈ bssids, bssid.HasName) (name : List Byte) :
    match chooseAP (getsitesurvey memory apList (some bssids)).1 apList bssids.length name with
    | some index => ∃ inside : index < bssids.length,
        bssids[index].listedName = name ∨ (∀ bssid ∈ bssids, bssid.listedName ≠ name) ∧
          bssids.find? (fun bssid => decide (name <:+: bssid.listedName)) = some bssids[index]
    | none => (∀ bssid ∈ bssids, bssid.listedName ≠ name) ∧
        bssids.find? (fun bssid => decide (name <:+: bssid.listedName)) = none := by
  have exact : ∀ index (inside : index < bssids.length),
      decide (name = listedName (getsitesurvey memory apList (some bssids)).1 apList index) =
        decide (bssids[index].listedName = name) := by
    intro index inside
    rw [listedName, getsitesurvey_name named inside]
    exact decide_eq_decide.mpr eq_comm
  have part : ∀ index (inside : index < bssids.length),
      decide (name <:+: listedName (getsitesurvey memory apList (some bssids)).1 apList index) =
        decide (name <:+: bssids[index].listedName) := by
    intro index inside
    rw [listedName, getsitesurvey_name named inside]
  rw [chooseAP]
  cases first : searchList bssids.length fun index =>
      decide (name = listedName (getsitesurvey memory apList (some bssids)).1 apList index) with
  | some index =>
      obtain ⟨inside, result⟩ := @find?_of_searchList_some bssids _
        (fun bssid => decide (bssid.listedName = name)) exact index first
      have listed := List.find?_some result
      exact ⟨inside, Or.inl (of_decide_eq_true listed)⟩
  | none =>
      have result := @find?_of_searchList_none bssids _
        (fun bssid => decide (bssid.listedName = name)) exact first
      have unlisted : ∀ bssid ∈ bssids, bssid.listedName ≠ name := fun bssid member listed =>
        List.find?_eq_none.mp result bssid member (decide_eq_true listed)
      rw [if_pos (Int.natCast_nonneg _)]
      cases second : searchList bssids.length fun index => decide
          (name <:+: listedName (getsitesurvey memory apList (some bssids)).1 apList index) with
      | some index =>
          obtain ⟨inside, result⟩ := @find?_of_searchList_some bssids _
            (fun bssid => decide (name <:+: bssid.listedName)) part index second
          exact ⟨inside, Or.inr ⟨unlisted, result⟩⟩
      | none =>
          exact ⟨unlisted, @find?_of_searchList_none bssids _
            (fun bssid => decide (name <:+: bssid.listedName)) part second⟩

/-- An entry that is listed as the name is of that network if no character of the
name is special. -/
theorem NdisWlanBssidEx.ssid_eq_iff_plain {name : List Byte} {bssid : NdisWlanBssidEx}
    (named : bssid.HasName) (short : name.length < 32) (listed : bssid.listedName = name) :
    bssid.ssid = name ↔ ∀ char ∈ name, Plain char := by
  constructor
  · intro equal char member
    by_contra special
    rw [← equal] at member listed
    exact bssid.listedName_ne named member special listed
  · intro plain
    exact bssid.ssid_of_listedName short plain listed

theorem joinNetwork_actions (addresses : Addresses) (turn : Turn) (main : Main) {checks : Nat}
    (switched : turn.checks = some checks) :
    (joinNetwork addresses turn main).actions =
      main.actions ++ List.replicate checks .managedMode ++
        ((chooseAP (getsitesurvey main.memory addresses.apList turn.scan).1 addresses.apList
          (getsitesurvey main.memory addresses.apList turn.scan).2
          (receivedName addresses main.gTEasyLink)).map Action.connectAP).toList := by
  rw [joinNetwork, switched]
  dsimp only
  cases chooseAP (getsitesurvey main.memory addresses.apList turn.scan).1 addresses.apList
      (getsitesurvey main.memory addresses.apList turn.scan).2
      (receivedName addresses main.gTEasyLink) with
  | none => exact (List.append_nil _).symm
  | some index => rfl

/-- `main` joins the network that a record names exactly when it finds it. -/
theorem joinNetwork_iff (addresses : Addresses) (scan : Scan) (main : Main) (turn : Turn)
    (checks : Nat) (scanned : turn.scan = some scan.bssids) (switched : turn.checks = some checks)
    (present : ∃ bssid ∈ scan.bssids, bssid.ssid = receivedName addresses main.gTEasyLink) :
    (∃ index, ∃ inside : index < scan.bssids.length,
      (joinNetwork addresses turn main).actions =
          main.actions ++ List.replicate checks .managedMode ++ [.connectAP index] ∧
        scan.bssids[index].ssid = receivedName addresses main.gTEasyLink) ↔
      FindsNetwork scan.bssids (receivedName addresses main.gTEasyLink) := by
  have chosen := chooseAP_eq main.memory addresses.apList scan.named
    (receivedName addresses main.gTEasyLink)
  have actions := joinNetwork_actions addresses turn main switched
  rw [scanned] at actions
  obtain ⟨network, member, isNamed⟩ := present
  have short : (receivedName addresses main.gTEasyLink).length < 32 :=
    isNamed ▸ (scan.named network member).2.1
  generalize receivedName addresses main.gTEasyLink = name at *
  -- Without a listed name that is the name itself, the name has a special character.
  have special : (∀ bssid ∈ scan.bssids, bssid.listedName ≠ name) →
      ¬∀ char ∈ name, Plain char := by
    intro unlisted plain
    have listed := network.listedName_of_plain (scan.named network member) (isNamed ▸ plain)
    exact unlisted network member (listed.trans isNamed)
  change _ = _ ++ Option.toList (Option.map _ (chooseAP _ _ (scan.bssids.length : Int) _))
    at actions
  cases choice : chooseAP (getsitesurvey main.memory addresses.apList (some scan.bssids)).1
      addresses.apList scan.bssids.length name with
  | none =>
      rw [choice] at chosen actions
      obtain ⟨unlisted, missing⟩ := chosen
      constructor
      · rintro ⟨index, -, result, -⟩
        rw [actions] at result
        exact absurd (List.append_cancel_left result) (List.cons_ne_nil _ _).symm
      · rintro (plain | ⟨-, bssid, found, -⟩)
        · exact absurd plain (special unlisted)
        · rw [missing] at found
          cases found
  | some index =>
      rw [choice] at chosen actions
      obtain ⟨inside, cases⟩ := chosen
      have joined : (∃ index, ∃ inside : index < scan.bssids.length,
          (joinNetwork addresses turn main).actions =
              main.actions ++ List.replicate checks .managedMode ++ [.connectAP index] ∧
            scan.bssids[index].ssid = name) ↔ scan.bssids[index].ssid = name := by
        constructor
        · rintro ⟨other, within, result, equal⟩
          rw [actions] at result
          cases List.append_cancel_left result
          exact equal
        · intro equal
          exact ⟨index, inside, actions, equal⟩
      rw [joined]
      rcases cases with listed | ⟨unlisted, found⟩
      · rw [(scan.bssids[index]).ssid_eq_iff_plain (scan.named _ (List.getElem_mem inside)) short
          listed]
        constructor
        · exact Or.inl
        · rintro (plain | ⟨unlisted, -⟩)
          · exact plain
          · exact absurd listed (unlisted _ (List.getElem_mem inside))
      · constructor
        · intro equal
          exact Or.inr ⟨unlisted, _, found, equal⟩
        · rintro (plain | ⟨-, bssid, first, equal⟩)
          · exact absurd plain (special unlisted)
          · rw [found] at first
            cases first
            exact equal

/-! ## Some networks -/

/-- An open network with a name. -/
def openNetwork (name : List Byte) : NdisWlanBssidEx where
  ssid := name
  security := ⟨false, false, false, false, false, false, false, false, false, false⟩
  privacy := false
  infrastructureMode := ndis802_11Infrastructure

/-- A scan that finds one open network. -/
def scanOf (name : List Byte) (short : 0 < name.length ∧ name.length < 32 ∧ 0 ∉ name) : Scan where
  bssids := [openNetwork name]
  named := by
    intro bssid member
    rw [List.mem_singleton.mp member]
    exact short
  few := by
    rw [List.length_singleton]
    decide

/-- The program with a record that names a network. -/
def told (name : List Byte) : Main :=
  { Main.initial (fun _ => 0) with
    gTEasyLink := { TEasyLink.zero with
      uLinkType := netLinkSsidPwd
      uSSID := fun index => name.getD index.val 0 } }

def scanTurn (name : List Byte) : Turn := ⟨none, some 0, some [openNetwork name], true, true, true⟩

/-- A scan that finds three networks; two are listed with the word `home`. -/
def threeNetworks : Scan where
  bssids := [openNetwork (literal "my home"), openNetwork (literal "guest"),
    openNetwork (literal "home")]
  named := by
    intro bssid member
    simp only [List.mem_cons, List.not_mem_nil, or_false] at member
    rcases member with rfl | rfl | rfl
    · exact ⟨by decide +kernel, by decide +kernel, by decide +kernel⟩
    · exact ⟨by decide +kernel, by decide +kernel, by decide +kernel⟩
    · exact ⟨by decide +kernel, by decide +kernel, by decide +kernel⟩
  few := by decide

theorem joinNetwork_home :
    ∃ index, ∃ inside : index < threeNetworks.bssids.length,
      (joinNetwork ⟨0, 1000, []⟩ ⟨none, some 2, some threeNetworks.bssids, true, true, true⟩
          (told (literal "home"))).actions =
          (told (literal "home")).actions ++ List.replicate 2 .managedMode ++
            [.connectAP index] ∧
        threeNetworks.bssids[index].ssid =
          receivedName ⟨0, 1000, []⟩ (told (literal "home")).gTEasyLink := by
  apply (joinNetwork_iff ⟨0, 1000, []⟩ threeNetworks (told (literal "home"))
    ⟨none, some 2, some threeNetworks.bssids, true, true, true⟩ 2 rfl rfl
    ⟨openNetwork (literal "home"), by simp [threeNetworks], by decide +kernel⟩).mpr
  exact Or.inl (by decide +kernel)

/-- A network with a blank in its name is not joined. -/
theorem joinNetwork_misses :
    ¬∀ (addresses : Addresses) (scan : Scan) (main : Main) (turn : Turn) (checks : Nat),
      turn.scan = some scan.bssids → turn.checks = some checks →
      (∃ bssid ∈ scan.bssids, bssid.ssid = receivedName addresses main.gTEasyLink) →
      ∃ index, ∃ inside : index < scan.bssids.length,
        (joinNetwork addresses turn main).actions =
            main.actions ++ List.replicate checks .managedMode ++ [.connectAP index] ∧
          scan.bssids[index].ssid = receivedName addresses main.gTEasyLink := by
  intro joins
  have result := joins ⟨0, 1000, []⟩ (scanOf (literal "a b") (by decide +kernel))
    (told (literal "a b")) (scanTurn (literal "a b")) 0 rfl rfl
    ⟨openNetwork (literal "a b"), List.mem_singleton_self _, by decide +kernel⟩
  obtain ⟨index, -, actions, -⟩ := result
  have nothing : (joinNetwork ⟨0, 1000, []⟩ (scanTurn (literal "a b"))
      (told (literal "a b"))).actions = [.monitorMode] := by
    decide +kernel
  rw [nothing] at actions
  have lengths : 1 = 2 := congrArg List.length actions
  exact absurd lengths (by decide)

end StudyDemo.NetLink
