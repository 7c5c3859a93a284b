import StudyDemo.NetLink.Main

/-! # Fixed fields as strings

The password and the SSID of a record are blocks of 32 bytes, padded with zeros.
`ConnectAP` and `main` read them as strings: a block that is filled completely has
no end of its own, and the string goes on with what stands behind the block. -/

namespace StudyDemo.NetLink

open StudyDemo.EasyLink StudyDemo.CMemory

/-! ## The commands -/

/-- `g_tEasyLink->uPwd` as a string. `uSSID` stands directly behind it. -/
def receivedPwd (addresses : Addresses) (record : TEasyLink) : List UCHAR :=
  (List.ofFn record.uPwd ++ (List.ofFn record.uSSID ++ addresses.behind)).takeWhile (· ≠ 0)

/-- `APList[i].Auth` as a string. -/
def listedAuth (memory : Memory) (apList index : Nat) : List UCHAR :=
  readString memory maxLength (entryAddress apList index + authOffset)

/-- `APList[i].Encry` as a string. -/
def listedEncry (memory : Memory) (apList index : Nat) : List UCHAR :=
  readString memory maxLength (entryAddress apList index + encryOffset)

/-- `APList[i].Infr` as a string. -/
def listedInfr (memory : Memory) (apList index : Nat) : List UCHAR :=
  readString memory maxLength (entryAddress apList index + infrOffset)

/-- The text before the password. -/
def wpapsk : List Byte := literal "iwpriv ra0 set WPAPSK="

section Commands

variable (memory : Memory) (apList index : Nat)

def cmdinfr : List Byte := literal "iwpriv ra0 set NetworkType=" ++ listedInfr memory apList index

def cmdauth : List Byte := literal "iwpriv ra0 set AuthMode=" ++ listedAuth memory apList index

def cmdencry : List Byte := literal "iwpriv ra0 set EncrypType=" ++ listedEncry memory apList index

def cmdssid : List Byte := literal "iwpriv ra0 set SSID=" ++ listedName memory apList index

def cmdpwd (addresses : Addresses) (record : TEasyLink) : List Byte :=
  wpapsk ++ receivedPwd addresses record

/-- The commands before the type of the network is checked. -/
def bridgeCommands : List (List Byte) :=
  [literal "brctl delif br0 ra0", literal "ifconfig br0 down", literal "ifconfig ra0 up"]

/-- The settings for every network with an access point. -/
def settingCommands : List (List Byte) :=
  [cmdinfr memory apList index, cmdauth memory apList index, cmdencry memory apList index]

/-- The commands that get an address. -/
def udhcpcCommands : List (List Byte) :=
  [literal "killall udhcpc",
    literal "udhcpc -i ra0 -s /sbin/udhcpc.sh -p /var/run/udhcpc_ra0.pid"]

end Commands

/-- `ConnectAP`: the commands that it runs, in order, and what it returns. -/
def connectAP (memory : Memory) (addresses : Addresses) (record : TEasyLink) (index : Nat) :
    List (List Byte) × Int :=
  let apList := addresses.apList
  let ssid := cmdssid memory apList index
  if listedInfr memory apList index = literal "Infra" then
    let before := bridgeCommands ++ settingCommands memory apList index
    if listedAuth memory apList index = literal "OPEN" then
      (before ++ [ssid] ++ udhcpcCommands, 0)
    else if literal "WPA" <:+: listedAuth memory apList index then
      (before ++ [ssid, cmdpwd addresses record, ssid] ++ udhcpcCommands, 0)
    else
      (before, -1)
  else
    (bridgeCommands, 0)

/-! ## Telling the commands apart -/

/-- The first characters of a command tell whether it sets the password. -/
def SetsPassword (command : List Byte) : Prop := command.take 16 = wpapsk.take 16

theorem setsPassword_wpapsk (argument : List Byte) : SetsPassword (wpapsk ++ argument) :=
  List.take_append_of_le_length (by decide +kernel)

theorem not_setsPassword_append {setting : List Byte} (long : 16 ≤ setting.length)
    (other : ¬SetsPassword setting) (argument : List Byte) :
    ¬SetsPassword (setting ++ argument) := by
  rw [SetsPassword, List.take_append_of_le_length long]
  exact other

theorem not_setsPassword_bridge : ∀ command ∈ bridgeCommands, ¬SetsPassword command := by
  unfold SetsPassword
  decide +kernel

theorem not_setsPassword_udhcpc : ∀ command ∈ udhcpcCommands, ¬SetsPassword command := by
  unfold SetsPassword
  decide +kernel

section Others

variable (memory : Memory) (apList index : Nat)

theorem not_setsPassword_cmdssid : ¬SetsPassword (cmdssid memory apList index) :=
  not_setsPassword_append (by decide +kernel) (by unfold SetsPassword; decide +kernel) _

theorem not_setsPassword_setting :
    ∀ command ∈ settingCommands memory apList index, ¬SetsPassword command := by
  have infr : ¬SetsPassword (cmdinfr memory apList index) :=
    not_setsPassword_append (by decide +kernel) (by unfold SetsPassword; decide +kernel) _
  have auth : ¬SetsPassword (cmdauth memory apList index) :=
    not_setsPassword_append (by decide +kernel) (by unfold SetsPassword; decide +kernel) _
  have encry : ¬SetsPassword (cmdencry memory apList index) :=
    not_setsPassword_append (by decide +kernel) (by unfold SetsPassword; decide +kernel) _
  simp [settingCommands, infr, auth, encry]

theorem eq_cmdpwd {addresses : Addresses} {record : TEasyLink} {command : List Byte}
    (member : command ∈ (connectAP memory addresses record index).1)
    (sets : SetsPassword command) : command = cmdpwd addresses record := by
  have bridge : command ∉ bridgeCommands :=
    fun member => not_setsPassword_bridge command member sets
  have udhcpc : command ∉ udhcpcCommands :=
    fun member => not_setsPassword_udhcpc command member sets
  have setting : command ∉ settingCommands memory addresses.apList index :=
    fun member => not_setsPassword_setting _ _ _ command member sets
  have ssid : command ≠ cmdssid memory addresses.apList index := by
    intro equal
    exact not_setsPassword_cmdssid _ _ _ (equal ▸ sets)
  dsimp only [connectAP] at member
  split_ifs at member
  · simp [bridge, udhcpc, setting, ssid] at member
  · simpa [bridge, udhcpc, setting, ssid] using member
  · simp [bridge, setting] at member
  · exact absurd member bridge

theorem cmdpwd_mem {addresses : Addresses} (record : TEasyLink)
    (infr : listedInfr memory addresses.apList index = literal "Infra")
    (auth : literal "WPA" <:+: listedAuth memory addresses.apList index)
    (secured : listedAuth memory addresses.apList index ≠ literal "OPEN") :
    cmdpwd addresses record ∈ (connectAP memory addresses record index).1 := by
  dsimp only [connectAP]
  rw [if_pos infr, if_neg secured, if_pos auth]
  simp

end Others

/-! ## Padded fields -/

/-- A field holds a text without zeros, and is filled up with zeros. -/
structure ZeroPadded (field : Fin 32 → UCHAR) (text : List UCHAR) : Prop where
  bytes : List.ofFn field = text ++ List.replicate (32 - text.length) 0
  noNul : 0 ∉ text

section Padded

variable {field : Fin 32 → UCHAR} {text : List UCHAR}

theorem ZeroPadded.length_le (padded : ZeroPadded field text) : text.length ≤ 32 := by
  have lengths := congrArg List.length padded.bytes
  rw [List.length_ofFn, List.length_append, List.length_replicate] at lengths
  omega

/-- A shorter text ends within its field. -/
theorem ZeroPadded.read_short (padded : ZeroPadded field text) (short : text.length < 32)
    (rest : List UCHAR) : (List.ofFn field ++ rest).takeWhile (· ≠ 0) = text := by
  obtain ⟨count, more⟩ := Nat.exists_eq_add_of_lt short
  rw [padded.bytes, show 32 - text.length = count + 1 by omega, List.replicate_succ,
    List.append_assoc, takeWhile_append_of_noNul padded.noNul]
  exact List.append_nil _

/-- A text that fills its field goes on with what stands behind the field. -/
theorem ZeroPadded.read_full (padded : ZeroPadded field text) (full : text.length = 32)
    (rest : List UCHAR) :
    (List.ofFn field ++ rest).takeWhile (· ≠ 0) = text ++ rest.takeWhile (· ≠ 0) := by
  rw [padded.bytes, full, Nat.sub_self, List.replicate_zero, List.append_nil,
    takeWhile_append_of_noNul padded.noNul]

theorem ZeroPadded.read_iff (padded : ZeroPadded field text) (rest : List UCHAR) :
    (List.ofFn field ++ rest).takeWhile (· ≠ 0) = text ↔
      text.length < 32 ∨ rest.takeWhile (· ≠ 0) = [] := by
  rcases padded.length_le.lt_or_eq with short | full
  · simp only [padded.read_short short, short, true_or]
  · simp only [padded.read_full full, full, List.append_right_eq_self, Nat.lt_irrefl, false_or]

end Padded

/-! ## The fields of a record -/

/-- The texts of an entry leave room in the arrays of their commands. -/
structure EntryFits (memory : Memory) (apList index : Nat) : Prop where
  infr : (cmdinfr memory apList index).length < 1024
  auth : (cmdauth memory apList index).length < 1024
  encry : (cmdencry memory apList index).length < 1024
  ssid : (cmdssid memory apList index).length < 1024

/-- The password that `ConnectAP` sets and the name that `main` compares are the
texts `pwd` and `ssid`, whatever the list holds and whichever entry is joined. -/
structure UsesFields (addresses : Addresses) (record : TEasyLink) (pwd ssid : List UCHAR) :
    Prop where
  argument : ∀ (memory : Memory) (index : Nat), EntryFits memory addresses.apList index →
    ∀ text, wpapsk ++ text ∈ (connectAP memory addresses record index).1 → text = pwd
  name : receivedName addresses record = ssid

/-- A network with a password. -/
def securedNetwork : NdisWlanBssidEx where
  ssid := literal "home"
  security := ⟨false, false, true, false, false, false, false, true, false, false⟩
  privacy := true
  infrastructureMode := ndis802_11Infrastructure

/-- The list after a scan that finds the network. -/
def securedList (apList : Nat) : Memory :=
  (getsitesurvey (fun _ => 0) apList (some [securedNetwork])).1

theorem securedList_name (apList : Nat) :
    listedName (securedList apList) apList 0 = literal "home" := by
  have named : ∀ bssid ∈ [securedNetwork], bssid.HasName := by
    intro bssid member
    rw [List.mem_singleton.mp member]
    unfold NdisWlanBssidEx.HasName
    decide +kernel
  have isName : securedNetwork.listedName = literal "home" := by decide +kernel
  exact (getsitesurvey_name named Nat.zero_lt_one).trans isName

theorem securedList_infr (apList : Nat) :
    listedInfr (securedList apList) apList 0 = literal "Infra" := by
  have holds : Holds (securedList apList) (entryAddress apList 0 + infrOffset)
      (literal "Infra" ++ [0]) := holds_store _ _ _
  exact holds.readString (by decide +kernel) (by decide +kernel)

theorem securedList_auth (apList : Nat) :
    listedAuth (securedList apList) apList 0 = literal "WPA2PSK" := by
  have length : (securedNetwork.authText ++ [0]).length = 8 := by decide +kernel
  have holds : Holds (securedList apList) (entryAddress apList 0 + authOffset)
      (literal "WPA2PSK" ++ [0]) := by
    apply surveyInfr_before securedNetwork (surveyEncry_holds securedNetwork
      (surveyAuth_holds securedNetwork))
    rw [length]
    change entryAddress apList 0 + 33 + 8 ≤ entryAddress apList 0 + 97
    omega
  exact holds.readString (by decide +kernel) (by decide +kernel)

theorem securedList_encry (apList : Nat) :
    listedEncry (securedList apList) apList 0 = literal "AES" := by
  have length : (literal "AES" ++ [0]).length = 4 := by decide +kernel
  have written : Holds (surveyEncry (surveyAuth (surveyName (fun _ => 0) (entryAddress apList 0)
      securedNetwork) (entryAddress apList 0) securedNetwork) (entryAddress apList 0)
      securedNetwork) (entryAddress apList 0 + encryOffset) (literal "AES" ++ [0]) :=
    holds_store _ _ _
  have holds : Holds (securedList apList) (entryAddress apList 0 + encryOffset)
      (literal "AES" ++ [0]) := by
    apply written.before (literal "Infra" ++ [0])
    rw [length]
    change entryAddress apList 0 + 65 + 4 ≤ entryAddress apList 0 + 97
    omega
  exact holds.readString (by decide +kernel) (by decide +kernel)

theorem securedList_fits (apList : Nat) : EntryFits (securedList apList) apList 0 := by
  constructor
  · rw [cmdinfr, securedList_infr]
    decide +kernel
  · rw [cmdauth, securedList_auth]
    decide +kernel
  · rw [cmdencry, securedList_encry]
    decide +kernel
  · rw [cmdssid, securedList_name]
    decide +kernel

section Record

variable (addresses : Addresses) {record : TEasyLink} {pwd ssid : List UCHAR}

theorem argument_iff :
    (∀ (memory : Memory) (index : Nat), EntryFits memory addresses.apList index →
        ∀ text, wpapsk ++ text ∈ (connectAP memory addresses record index).1 → text = pwd) ↔
      receivedPwd addresses record = pwd := by
  constructor
  · intro argument
    apply argument (securedList addresses.apList) 0 (securedList_fits _)
    apply cmdpwd_mem _ _ record (securedList_infr _)
    · rw [securedList_auth]
      decide +kernel
    · rw [securedList_auth]
      decide +kernel
  · intro read memory index _ text member
    have command := eq_cmdpwd _ _ member (setsPassword_wpapsk text)
    exact (List.append_cancel_left command).trans read

/-- Both fields are used as the strings they hold exactly if the password does not
fill its field, and the SSID does not or a zero stands behind it. -/
theorem usesFields_iff (password : ZeroPadded record.uPwd pwd) (name : ZeroPadded record.uSSID ssid)
    (nonempty : 0 < ssid.length) :
    UsesFields addresses record pwd ssid ↔
      pwd.length < 32 ∧ (ssid.length < 32 ∨ addresses.behind.takeWhile (· ≠ 0) = []) := by
  have someName : (List.ofFn record.uSSID ++ addresses.behind).takeWhile (· ≠ 0) ≠ [] := by
    intro none
    rcases name.length_le.lt_or_eq with short | full
    · rw [name.read_short short] at none
      rw [none] at nonempty
      exact Nat.lt_irrefl _ nonempty
    · rw [name.read_full full, List.append_eq_nil_iff] at none
      rw [none.1] at nonempty
      exact Nat.lt_irrefl _ nonempty
  have readsPassword : receivedPwd addresses record = pwd ↔ pwd.length < 32 := by
    rw [receivedPwd, password.read_iff, or_iff_left someName]
  rw [← readsPassword, ← name.read_iff, ← argument_iff]
  constructor
  · intro uses
    exact ⟨uses.argument, uses.name⟩
  · rintro ⟨argument, name⟩
    exact ⟨argument, name⟩

end Record

/-! ## Two records -/

/-- The record with a password and an SSID. -/
def linkRecord (pwd ssid : List UCHAR) : TEasyLink :=
  { TEasyLink.zero with
    uLinkType := netLinkSsidPwd
    uSSIDlen := BitVec.ofNat 8 ssid.length
    uPwdLen := BitVec.ofNat 8 pwd.length
    uPwd := fun index => pwd.getD index.val 0
    uSSID := fun index => ssid.getD index.val 0 }

/-- The SSID is used as it is although it fills its field. -/
theorem usesFields_iff_full :
    UsesFields ⟨0, 4096, [0]⟩ (linkRecord (literal "secret") (List.replicate 32 97))
      (literal "secret") (List.replicate 32 97) := by
  apply (usesFields_iff ⟨0, 4096, [0]⟩ _ _ _).mpr
  · exact ⟨by decide +kernel, Or.inr (by decide)⟩
  · exact ⟨by decide +kernel, by decide +kernel⟩
  · exact ⟨by decide +kernel, by decide +kernel⟩
  · decide

/-- A password of 32 characters is set together with the SSID behind it. -/
theorem not_usesFields : ¬∀ (addresses : Addresses) (record : TEasyLink) (pwd ssid : List UCHAR),
    ZeroPadded record.uPwd pwd → ZeroPadded record.uSSID ssid → 0 < ssid.length →
      UsesFields addresses record pwd ssid := by
  intro uses
  have password : ZeroPadded (linkRecord (List.replicate 32 97) (literal "home")).uPwd
      (List.replicate 32 97) := ⟨by decide +kernel, by decide +kernel⟩
  have name : ZeroPadded (linkRecord (List.replicate 32 97) (literal "home")).uSSID
      (literal "home") := ⟨by decide +kernel, by decide +kernel⟩
  have argument := (uses ⟨0, 4096, [0]⟩ _ _ _ password name (by decide +kernel)).argument
  have read := (argument_iff ⟨0, 4096, [0]⟩).mp argument
  revert read
  decide +kernel

end StudyDemo.NetLink
