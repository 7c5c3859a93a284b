import StudyDemo.Foundation.CMemory

/-! # The site survey

`getsitesurvey` lists the access points that the driver found. Each SSID is copied
into a field of 32 bytes, and rewritten there for display. A longer text runs into
the field behind it, which is written next. -/

namespace StudyDemo.NetLink

open StudyDemo.CMemory

/-! ## Display -/

/-- The last digits of a number, in decimal. -/
def decimal : Nat → Nat → List Byte
  | 0, _ => []
  | width + 1, value => decimal width (value / 10) ++ [BitVec.ofNat 8 (48 + value % 10)]

/-- What `ConverterStringToDisplay` writes for one `char`, which is signed. -/
def displayByte (char : Byte) : List Byte :=
  if char = 38 then literal "&amp;"
  else if char = 60 then literal "&lt;"
  else if char = 62 then literal "&gt;"
  else if char = 34 then literal "&#34;"
  else if char = 39 then literal "&#39;"
  else if char = 32 then literal "&nbsp;"
  else if 0 ≤ char.toInt ∧ char.toInt ≤ 31 then
    literal "&#" ++ decimal 2 char.toNat ++ literal ";"
  else if char = 39 ∨ char = 47 ∨ char = 59 ∨ char = 92 then
    literal "&#" ++ decimal 2 char.toNat ++ literal ";"
  else if 127 ≤ char.toInt then
    literal "&#" ++ decimal 3 char.toNat ++ literal ";"
  else
    [char]

def display (text : List Byte) : List Byte := text.flatMap displayByte

/-- No string in memory is longer. -/
def maxLength : Nat := 65536

/-- `ConverterStringToDisplay` rewrites the string at an address in place. -/
def converterStringToDisplay (memory : Memory) (str : Nat) : Memory :=
  strcpy memory str (display (readString memory maxLength str))

/-- A character that is displayed as it is. -/
def Plain (char : Byte) : Prop := displayByte char = [char]

instance (char : Byte) : Decidable (Plain char) := inferInstanceAs (Decidable (_ = _))

section Display

theorem displayByte_noNul (char : Byte) : 0 ∉ displayByte char := by
  revert char
  decide +kernel

theorem length_displayByte_pos (char : Byte) : 0 < (displayByte char).length := by
  revert char
  decide +kernel

theorem displayByte_of_not_plain (char : Byte) (special : ¬Plain char) :
    38 ∈ displayByte char ∧ 1 < (displayByte char).length := by
  revert char
  decide +kernel

theorem not_plain_ampersand : ¬Plain 38 := by decide +kernel

variable {text other : List Byte}

theorem display_noNul (text : List Byte) : 0 ∉ display text := by
  intro member
  obtain ⟨char, _, within⟩ := List.mem_flatMap.mp member
  exact displayByte_noNul char within

theorem display_of_plain (plain : ∀ char ∈ text, Plain char) : display text = text := by
  induction text with
  | nil => rfl
  | cons char text induction =>
      rw [display, List.flatMap_cons, plain char List.mem_cons_self]
      exact congrArg (char :: ·) (induction fun later member =>
        plain later (List.mem_cons_of_mem _ member))

theorem length_le_display (text : List Byte) : text.length ≤ (display text).length := by
  induction text with
  | nil => exact Nat.le_refl _
  | cons char text induction =>
      have positive := length_displayByte_pos char
      rw [display, List.flatMap_cons, List.length_append, List.length_cons]
      change text.length ≤ (display text).length at induction
      change _ ≤ _ + (display text).length
      omega

theorem length_lt_display {char : Byte} (member : char ∈ text) (special : ¬Plain char) :
    text.length < (display text).length := by
  induction text with
  | nil => cases member
  | cons first text induction =>
      have positive := length_displayByte_pos first
      have tail := length_le_display text
      rw [display, List.flatMap_cons, List.length_append, List.length_cons]
      change _ < _ + (display text).length
      rcases List.mem_cons.mp member with here | later
      · have grows := (displayByte_of_not_plain first (here ▸ special)).2
        omega
      · have grows := induction later
        omega

theorem eq_of_display_eq (equal : display text = other) (plain : ∀ char ∈ other, Plain char) :
    text = other := by
  have allPlain : ∀ char ∈ text, Plain char := by
    intro char member
    by_contra special
    have ampersand : 38 ∈ display text :=
      List.mem_flatMap.mpr ⟨char, member, (displayByte_of_not_plain char special).1⟩
    exact not_plain_ampersand (plain 38 (equal ▸ ampersand))
  rw [← equal, display_of_plain allPlain]

end Display

/-! ## The list of access points -/

/-- `sizeof(SiteSurvey)`, and where its fields stand. -/
def siteSurveySize : Nat := 129

def ssidOffset : Nat := 1
def authOffset : Nat := 33
def encryOffset : Nat := 65
def infrOffset : Nat := 97

/-- The flags that the loop over the information elements sets. -/
structure Security where
  bTKIP : Bool
  bAESWRAP : Bool
  bAESCCMP : Bool
  bWPA : Bool
  bWPAPSK : Bool
  bWPANONE : Bool
  bWPA2 : Bool
  bWPA2PSK : Bool
  bWPA2NONE : Bool
  bCCKM : Bool
  deriving DecidableEq

/-- What `getsitesurvey` takes from an `NDIS_WLAN_BSSID_EX`. -/
structure NdisWlanBssidEx where
  ssid : List Byte
  security : Security
  privacy : Bool
  infrastructureMode : Nat
  deriving DecidableEq

def ndis802_11Infrastructure : Nat := 1

/-- The text that the chain over the flags copies into `Auth`. -/
def Security.authText (security : Security) : List Byte :=
  if security.bWPA then literal "WPA"
  else if security.bWPAPSK then literal "WPAPSK"
  else if security.bWPANONE then literal "WPANONE"
  else if security.bWPA2 then literal "WPA2"
  else if security.bWPA2PSK then literal "WPA2PSK"
  else if security.bWPA2NONE then literal "WPA2NONE"
  else literal "Unknown"

def surveyName (memory : Memory) (entry : Nat) (bssid : NdisWlanBssidEx) : Memory :=
  let memory := memset memory (entry + ssidOffset) 0 32
  let memory := memset memory (entry + authOffset) 0 32
  let memory := memset memory (entry + encryOffset) 0 32
  let memory := memset memory (entry + infrOffset) 0 32
  let memory := strncpy memory (entry + ssidOffset) bssid.ssid bssid.ssid.length
  converterStringToDisplay memory (entry + ssidOffset)

def surveyAuth (memory : Memory) (entry : Nat) (bssid : NdisWlanBssidEx) : Memory :=
  let memory :=
    if bssid.security.bCCKM then strcpy memory (entry + authOffset) (literal "CCKM") else memory
  strcpy memory (entry + authOffset) bssid.security.authText

def surveyEncry (memory : Memory) (entry : Nat) (bssid : NdisWlanBssidEx) : Memory :=
  if bssid.security.bTKIP then strcpy memory (entry + encryOffset) (literal "TKIP")
  else if bssid.security.bAESWRAP || bssid.security.bAESCCMP then
    strcpy memory (entry + encryOffset) (literal "AES")
  else if bssid.privacy then strcpy memory (entry + encryOffset) (literal "WEP")
  else
    let memory := strcpy memory (entry + encryOffset) (literal "NONE")
    strcpy memory (entry + authOffset) (literal "OPEN")

def surveyInfr (memory : Memory) (entry : Nat) (bssid : NdisWlanBssidEx) : Memory :=
  if bssid.infrastructureMode = ndis802_11Infrastructure then
    strcpy memory (entry + infrOffset) (literal "Infra")
  else
    strcpy memory (entry + infrOffset) (literal "Adhoc")

/-- One iteration of the loop over the list. -/
def surveyEntry (memory : Memory) (entry : Nat) (bssid : NdisWlanBssidEx) : Memory :=
  surveyInfr (surveyEncry (surveyAuth (surveyName memory entry bssid) entry bssid) entry bssid)
    entry bssid

def entryAddress (apList index : Nat) : Nat := apList + siteSurveySize * index

def surveyLoop (apList : Nat) : Nat → Memory → List NdisWlanBssidEx → Memory
  | _, memory, [] => memory
  | index, memory, bssid :: rest =>
      surveyLoop apList (index + 1) (surveyEntry memory (entryAddress apList index) bssid) rest

/-- `getsitesurvey`; `none` is a driver that fails one of the queries. -/
def getsitesurvey (memory : Memory) (apList : Nat) :
    Option (List NdisWlanBssidEx) → Memory × Int
  | none => (memory, -1)
  | some bssids => (surveyLoop apList 0 memory bssids, bssids.length)

/-! ## What an entry holds -/

def NdisWlanBssidEx.authText (bssid : NdisWlanBssidEx) : List Byte :=
  if bssid.security.bTKIP || (bssid.security.bAESWRAP || bssid.security.bAESCCMP) ||
      bssid.privacy then
    bssid.security.authText
  else
    literal "OPEN"

/-- The string that starts at `SSID`. A displayed text of 32 characters or more is
cut there, and goes on with `Auth`. -/
def NdisWlanBssidEx.listedName (bssid : NdisWlanBssidEx) : List Byte :=
  if (display bssid.ssid).length < 32 then display bssid.ssid
  else (display bssid.ssid).take 32 ++ bssid.authText

/-- The raw SSIDs that a driver lists, as long as they can be shown. -/
def NdisWlanBssidEx.HasName (bssid : NdisWlanBssidEx) : Prop :=
  0 < bssid.ssid.length ∧ bssid.ssid.length < 32 ∧ 0 ∉ bssid.ssid

theorem Security.authText_short (security : Security) :
    security.authText.length < 32 ∧ 0 ∉ security.authText := by
  dsimp only [authText]
  split_ifs <;> decide +kernel

theorem NdisWlanBssidEx.authText_short (bssid : NdisWlanBssidEx) :
    bssid.authText.length < 32 ∧ 0 ∉ bssid.authText := by
  dsimp only [authText]
  split_ifs
  · exact bssid.security.authText_short
  · decide +kernel

theorem NdisWlanBssidEx.listedName_noNul (bssid : NdisWlanBssidEx) : 0 ∉ bssid.listedName := by
  have displayed := display_noNul bssid.ssid
  dsimp only [listedName]
  split_ifs
  · exact displayed
  · intro member
    rcases List.mem_append.mp member with name | auth
    · exact displayed (List.mem_of_mem_take name)
    · exact bssid.authText_short.2 auth

theorem NdisWlanBssidEx.length_listedName (bssid : NdisWlanBssidEx) :
    bssid.listedName.length < 64 := by
  have auth := bssid.authText_short.1
  dsimp only [listedName]
  split_ifs with short
  · omega
  · rw [List.length_append, List.length_take]
    omega

section Entry

variable {memory : Memory} {address entry : Nat} {bytes : List Byte} (bssid : NdisWlanBssidEx)

theorem surveyName_before (holds : Holds memory address bytes)
    (before : address + bytes.length ≤ entry + ssidOffset) :
    Holds (surveyName memory entry bssid) address bytes := by
  have auth : address + bytes.length ≤ entry + authOffset :=
    before.trans (Nat.add_le_add_left (by decide) _)
  have encry : address + bytes.length ≤ entry + encryOffset :=
    before.trans (Nat.add_le_add_left (by decide) _)
  have infr : address + bytes.length ≤ entry + infrOffset :=
    before.trans (Nat.add_le_add_left (by decide) _)
  exact (((((holds.before _ before).before _ auth).before _ encry).before _ infr).before _
    before).before _ before

theorem surveyAuth_before (holds : Holds memory address bytes)
    (before : address + bytes.length ≤ entry + authOffset) :
    Holds (surveyAuth memory entry bssid) address bytes := by
  dsimp only [surveyAuth]
  apply Holds.before _ _ before
  split_ifs
  · exact holds.before _ before
  · exact holds

theorem surveyEncry_before (holds : Holds memory address bytes)
    (before : address + bytes.length ≤ entry + authOffset) :
    Holds (surveyEncry memory entry bssid) address bytes := by
  have encry : address + bytes.length ≤ entry + encryOffset :=
    before.trans (Nat.add_le_add_left (by decide) _)
  dsimp only [surveyEncry]
  split_ifs
  · exact holds.before _ encry
  · exact holds.before _ encry
  · exact holds.before _ encry
  · exact (holds.before _ encry).before _ before

theorem surveyInfr_before (holds : Holds memory address bytes)
    (before : address + bytes.length ≤ entry + infrOffset) :
    Holds (surveyInfr memory entry bssid) address bytes := by
  dsimp only [surveyInfr]
  split_ifs
  · exact holds.before _ before
  · exact holds.before _ before

theorem surveyEntry_before (holds : Holds memory address bytes)
    (before : address + bytes.length ≤ entry + ssidOffset) :
    Holds (surveyEntry memory entry bssid) address bytes := by
  have auth : address + bytes.length ≤ entry + authOffset :=
    before.trans (Nat.add_le_add_left (by decide) _)
  have infr : address + bytes.length ≤ entry + infrOffset :=
    before.trans (Nat.add_le_add_left (by decide) _)
  have named := surveyName_before bssid holds before
  have authored := surveyAuth_before bssid named auth
  exact surveyInfr_before bssid (surveyEncry_before bssid authored auth) infr

theorem converterStringToDisplay_holds {text : List Byte}
    (holds : Holds memory address (text ++ [0])) (noNul : 0 ∉ text)
    (short : text.length < maxLength) :
    Holds (converterStringToDisplay memory address) address (display text ++ [0]) := by
  rw [converterStringToDisplay, holds.readString noNul short]
  exact holds_store _ _ _

theorem surveyName_holds (hasName : bssid.HasName) :
    Holds (surveyName memory entry bssid) (entry + ssidOffset) (display bssid.ssid ++ [0]) := by
  obtain ⟨-, short, noNul⟩ := hasName
  have field : (List.replicate 32 (0 : Byte)).length = 32 := List.length_replicate
  have cleared := holds_store memory (entry + ssidOffset) (List.replicate 32 0)
  have below : ∀ offset, 33 ≤ offset →
      entry + ssidOffset + (List.replicate 32 (0 : Byte)).length ≤ entry + offset := by
    intro offset behind
    rw [field]
    change entry + 1 + 32 ≤ _
    omega
  have zeros := ((cleared.before (List.replicate 32 0) (below authOffset (by decide))).before
    (List.replicate 32 0) (below encryOffset (by decide))).before
    (List.replicate 32 0) (below infrOffset (by decide))
  exact converterStringToDisplay_holds (holds_strncpy zeros noNul short) noNul
    (short.trans (by decide))

theorem surveyAuth_holds :
    Holds (surveyAuth memory entry bssid) (entry + authOffset)
      (bssid.security.authText ++ [0]) :=
  holds_store _ _ _

theorem surveyEncry_holds
    (holds : Holds memory (entry + authOffset) (bssid.security.authText ++ [0])) :
    Holds (surveyEncry memory entry bssid) (entry + authOffset) (bssid.authText ++ [0]) := by
  have short := bssid.security.authText_short.1
  have before : entry + authOffset + (bssid.security.authText ++ [0]).length ≤
      entry + encryOffset := by
    rw [List.length_append, List.length_singleton]
    change entry + 33 + _ ≤ entry + 65
    omega
  dsimp only [surveyEncry, NdisWlanBssidEx.authText]
  cases bssid.security.bTKIP with
  | true => exact holds.before _ before
  | false =>
      cases bssid.security.bAESWRAP || bssid.security.bAESCCMP with
      | true => exact holds.before _ before
      | false =>
          cases bssid.privacy with
          | true => exact holds.before _ before
          | false => exact holds_store _ _ _

theorem surveyEntry_holds (hasName : bssid.HasName) :
    Holds (surveyEntry memory entry bssid) (entry + ssidOffset) (bssid.listedName ++ [0]) := by
  have name := (@surveyName_holds memory entry bssid hasName).take 32
  have inside : entry + ssidOffset + ((display bssid.ssid ++ [0]).take 32).length ≤
      entry + authOffset := by
    rw [List.length_take]
    change entry + 1 + min 32 _ ≤ entry + 33
    omega
  have named := surveyInfr_before bssid (surveyEncry_before bssid
    (surveyAuth_before bssid name inside) inside)
    (inside.trans (Nat.add_le_add_left (by decide) _))
  dsimp only [NdisWlanBssidEx.listedName]
  split_ifs with short
  · rw [List.take_of_length_le (by rw [List.length_append, List.length_singleton]; omega)] at named
    exact named
  · have auth := surveyEncry_holds bssid
      (@surveyAuth_holds (surveyName memory entry bssid) entry bssid)
    have authShort := bssid.authText_short.1
    have kept := surveyInfr_before bssid auth (by
      rw [List.length_append, List.length_singleton]
      change entry + 33 + _ ≤ entry + 97
      omega)
    rw [List.take_append_of_le_length (by omega)] at named
    rw [List.append_assoc]
    apply named.append
    rw [List.length_take, Nat.min_eq_left (by omega)]
    exact kept

end Entry

section Survey

variable {memory : Memory} {apList address : Nat} {bytes : List Byte}
  {bssids : List NdisWlanBssidEx}

theorem surveyLoop_before {index : Nat} (holds : Holds memory address bytes)
    (before : address + bytes.length ≤ entryAddress apList index + ssidOffset) :
    Holds (surveyLoop apList index memory bssids) address bytes := by
  induction bssids generalizing index memory with
  | nil => exact holds
  | cons bssid rest induction =>
      apply induction (surveyEntry_before bssid holds before)
      apply before.trans
      change apList + 129 * index + 1 ≤ apList + 129 * (index + 1) + 1
      omega

theorem surveyLoop_holds {index : Nat} (named : ∀ bssid ∈ bssids, bssid.HasName)
    {position : Nat} (inside : position < bssids.length) :
    Holds (surveyLoop apList index memory bssids)
      (entryAddress apList (index + position) + ssidOffset)
      (bssids[position].listedName ++ [0]) := by
  induction bssids generalizing index memory position with
  | nil => exact absurd inside (Nat.not_lt_zero _)
  | cons bssid rest induction =>
      cases position with
      | zero =>
          have written := @surveyEntry_holds memory (entryAddress apList index) bssid
            (named bssid List.mem_cons_self)
          apply surveyLoop_before written
          have short := bssid.length_listedName
          rw [List.length_append, List.length_singleton]
          change apList + 129 * index + 1 + _ ≤ apList + 129 * (index + 1) + 1
          omega
      | succ position =>
          have later := @induction (surveyEntry memory (entryAddress apList index) bssid)
            (index + 1) (fun other member => named other (List.mem_cons_of_mem _ member))
            position (Nat.lt_of_succ_lt_succ inside)
          rw [Nat.add_right_comm] at later
          exact later

theorem getsitesurvey_name (named : ∀ bssid ∈ bssids, bssid.HasName) {position : Nat}
    (inside : position < bssids.length) :
    readString (getsitesurvey memory apList (some bssids)).1 maxLength
        (entryAddress apList position + ssidOffset) = bssids[position].listedName := by
  have holds := @surveyLoop_holds memory apList bssids 0 named position inside
  rw [Nat.zero_add] at holds
  exact holds.readString bssids[position].listedName_noNul
    (bssids[position].length_listedName.trans (by decide))

end Survey

end StudyDemo.NetLink
