import StudyDemo.EasyLink.Frozen
import StudyDemo.EasyLink.Round

/-! # Delivery in any order

The frames of one sender in any order, with any losses and repetitions. Each
field is unannounced, in reception or accepted, and stays so whatever frames of
the other kinds arrive, with one exception: before the password's header, the
check frame of the longest passwords is stored over the first two bytes of the
SSID. -/

namespace StudyDemo.EasyLink

/-! ## The states of a text -/

/-- No header came yet. -/
structure Unannounced (field : Field) (statics : Statics) : Prop where
  len : statics.easyLink.fieldLen field = 0
  mask : (statics.uRecMask field.type).getLsbD 31 = false

inductive FieldState (field : Field) (credential : Credential) (statics : Statics) : Prop
  | unannounced (fresh : statics.easyLink.received field.type = false)
      (state : Unannounced field statics)
  | receiving (fresh : statics.easyLink.received field.type = false)
      (state : Receiving field credential statics)
  | accepted (done : statics.easyLink.received field.type)
      (bytes : statics.easyLink.fieldBytes field = credential.padded)

/-- What a step that belongs to other data does to a text. -/
structure KeepsField (field : Field) (credential : Credential) (before after : Statics) :
    Prop where
  received : after.easyLink.received field.type = before.easyLink.received field.type
  len : after.easyLink.fieldLen field = before.easyLink.fieldLen field
  mask : after.uRecMask field.type = before.uRecMask field.type
  crc : after.uCrc field.type = before.uCrc field.type
  bytes : ∀ index, after.easyLink.fieldBytes field index =
      before.easyLink.fieldBytes field index ∨
    after.easyLink.fieldBytes field index = credential.padded index

section Text

variable {field : Field} {credential : Credential} {before after statics : Statics}
  {index : Nat}

theorem Unannounced.keep (state : Unannounced field before)
    (keeps : KeepsField field credential before after) : Unannounced field after := by
  refine ⟨?_, ?_⟩
  · rw [keeps.len]
    exact state.len
  · rw [keeps.mask]
    exact state.mask

theorem Receiving.keep (receiving : Receiving field credential before)
    (keeps : KeepsField field credential before after) :
    Receiving field credential after := by
  refine ⟨?len, ?header, ?bytes, ?crc⟩
  case len =>
    rw [keeps.len]
    exact receiving.len
  case header =>
    rw [keeps.mask]
    exact receiving.header
  case bytes =>
    intro position present
    rw [keeps.mask] at present
    rcases keeps.bytes position with same | padded
    · exact same.trans (receiving.bytes position present)
    · exact padded
  case crc =>
    rw [keeps.mask, keeps.crc]
    exact receiving.crc

theorem KeepsField.of_same (record : after.easyLink = before.easyLink)
    (masks : after.uRecMask = before.uRecMask) (crcs : after.uCrc = before.uCrc) :
    KeepsField field credential before after := by
  refine ⟨?_, ?_, ?_, ?_, fun _ => Or.inl ?_⟩
  · rw [record]
  · rw [record]
  · rw [masks]
  · rw [crcs]
  · rw [record]

theorem KeepsField.trans {middle : Statics} (first : KeepsField field credential before middle)
    (second : KeepsField field credential middle after) :
    KeepsField field credential before after := by
  refine ⟨second.received.trans first.received, second.len.trans first.len,
    second.mask.trans first.mask, second.crc.trans first.crc, ?_⟩
  intro position
  rcases second.bytes position with same | padded
  · rw [same]
    exact first.bytes position
  · exact Or.inr padded

theorem FieldState.keep (state : FieldState field credential before)
    (keeps : KeepsField field credential before after) :
    FieldState field credential after := by
  cases state with
  | unannounced fresh state =>
      exact .unannounced (keeps.received.trans fresh) (state.keep keeps)
  | receiving fresh state =>
      exact .receiving (keeps.received.trans fresh) (state.keep keeps)
  | accepted done bytes =>
      refine .accepted (keeps.received.trans done) ?_
      funext position
      rcases keeps.bytes position with same | padded
      · rw [same, bytes]
      · exact padded

/-- Before the header every other frame, the check frame included, is stored as
data, and nothing completes. -/
theorem Unannounced.receive (state : Unannounced field statics) (credential : Credential)
    (positive : 0 < index) (inside : index < credential.count) (outside : UINT32 → UCHAR) :
    verifyField outside field
        (storeField field (credential.frame field index).addr3 statics) =
      storeField field (credential.frame field index).addr3 statics ∧
    (storeField field (credential.frame field index).addr3 statics).easyLink =
      statics.easyLink.storePair field (BitVec.ofNat 32 index) (credential.data index).1
        (credential.data index).2 ∧
    Unannounced field (storeField field (credential.frame field index).addr3 statics) := by
  have bound := credential.count_le
  have value : (BitVec.ofNat 32 index).toNat = index := by
    rw [BitVec.toNat_ofNat]
    omega
  have notCheck : ¬isCheck statics.easyLink field (credential.frame field index).addr3 := by
    rw [isCheck, credential.frmIndex_frame field (by omega), state.len]
    intro equal
    have wrong := congrArg BitVec.toNat equal
    rw [value] at wrong
    change index = 4294967295 at wrong
    omega
  obtain ⟨record, -⟩ := storeField_of_data field statics
    (not_isHeader_frame field positive inside) notCheck
  rw [credential.frmIndex_frame field (by omega)] at record
  have mask := frame_mask field statics positive inside
  have len : (storeField field (credential.frame field index).addr3
      statics).easyLink.fieldLen field = 0 := by
    rw [record, TEasyLink.storePair_fieldLen _ _ _ _ _ (by omega), state.len]
  have stored : Unannounced field
      (storeField field (credential.frame field index).addr3 statics) := by
    refine ⟨len, ?_⟩
    rw [mask, state.mask, decide_eq_false (by omega)]
    rfl
  refine ⟨?_, record, stored⟩
  dsimp only [verifyField]
  rw [len, if_neg]
  intro complete
  have bit := congrArg (fun word : UINT32 => word.getLsbD 31) complete
  rw [BitVec.getLsbD_and, stored.mask] at bit
  exact absurd bit (by decide)

theorem FieldState.receive (state : FieldState field credential statics)
    (fresh : statics.easyLink.received field.type = false)
    (inside : index < credential.count) (outside : UINT32 → UCHAR) :
    FieldState field credential (verifyField outside field
      (storeField field (credential.frame field index).addr3 statics)) := by
  have same := storeField_sameStatus field (credential.frame field index).addr3 statics
  have stillFresh : (storeField field (credential.frame field index).addr3
      statics).easyLink.received field.type = false :=
    (TEasyLink.received_congr same.uRecOK _).trans fresh
  have fromReceiving : Receiving field credential
      (storeField field (credential.frame field index).addr3 statics) →
      FieldState field credential (verifyField outside field
        (storeField field (credential.frame field index).addr3 statics)) := by
    intro receiving
    obtain ⟨complete, incomplete⟩ := receiving.verifyField_eq outside
    by_cases all : HasAll credential ((storeField field
        (credential.frame field index).addr3 statics).uRecMask field.type)
    · refine .accepted ?_ ?_
      · rw [complete all, TEasyLink.received_accept, decide_eq_true rfl, Bool.true_or]
      · rw [complete all, TEasyLink.fieldBytes_accept, receiving.fieldBytes_eq all]
    · rw [incomplete all]
      exact .receiving stillFresh receiving
  by_cases first : index = 0
  · subst first
    exact fromReceiving (receiving_header statics)
  · cases state with
    | unannounced _ state =>
        obtain ⟨unchanged, -, stored⟩ :=
          state.receive credential (by omega) inside outside
        rw [unchanged]
        exact .unannounced stillFresh stored
    | receiving _ state => exact fromReceiving (state.storeFrame (by omega) inside)
    | accepted done _ => exact absurd (fresh.symm.trans done) Bool.false_ne_true

end Text

/-! ## The states of the address -/

inductive AddressState (ip port : UINT32) (statics : Statics) : Prop
  | unannounced (fresh : statics.easyLink.received typeReip = false)
      (mask : (statics.uRecMask typeReip).getLsbD 0 = false)
  | receiving (fresh : statics.easyLink.received typeReip = false)
      (state : AddressReceiving ip port statics)
  | accepted (done : statics.easyLink.received typeReip)
      (uIP : statics.easyLink.uIP = ip)
      (uPort : statics.easyLink.uPort = port.setWidth 16)

/-- What a step that belongs to other data does to the address. -/
structure KeepsAddress (before after : Statics) : Prop where
  received : after.easyLink.received typeReip = before.easyLink.received typeReip
  uIP : after.easyLink.uIP = before.easyLink.uIP
  uPort : after.easyLink.uPort = before.easyLink.uPort
  mask : after.uRecMask typeReip = before.uRecMask typeReip
  crc : after.uCrc typeReip = before.uCrc typeReip

section Address

variable {ip port : UINT32} {before after statics : Statics}

theorem KeepsAddress.of_same (record : after.easyLink = before.easyLink)
    (masks : after.uRecMask = before.uRecMask) (crcs : after.uCrc = before.uCrc) :
    KeepsAddress before after := by
  refine ⟨?_, ?_, ?_, ?_, ?_⟩
  · rw [record]
  · rw [record]
  · rw [record]
  · rw [masks]
  · rw [crcs]

theorem AddressReceiving.keep (receiving : AddressReceiving ip port before)
    (keeps : KeepsAddress before after) : AddressReceiving ip port after := by
  obtain ⟨header, uIP, uPort, crc⟩ := receiving
  rw [← keeps.mask] at header uIP uPort crc
  rw [← keeps.crc] at crc
  exact ⟨header, keeps.uIP.trans uIP, keeps.uPort.trans uPort, crc⟩

theorem AddressState.keep (state : AddressState ip port before)
    (keeps : KeepsAddress before after) : AddressState ip port after := by
  cases state with
  | unannounced fresh mask =>
      exact .unannounced (keeps.received.trans fresh) (by rw [keeps.mask]; exact mask)
  | receiving fresh state => exact .receiving (keeps.received.trans fresh) (state.keep keeps)
  | accepted done uIP uPort =>
      exact .accepted (keeps.received.trans done) (keeps.uIP.trans uIP)
        (keeps.uPort.trans uPort)

theorem AddressState.receive (state : AddressState ip port statics)
    (fresh : statics.easyLink.received typeReip = false) (index : Fin 5) :
    AddressState ip port (verifyReIp (storeReIp (reIpFrame ip port index).addr3 statics)) := by
  have same := storeReIp_sameStatus (reIpFrame ip port index).addr3 statics
  have stillFresh : (storeReIp (reIpFrame ip port index).addr3
      statics).easyLink.received typeReip = false :=
    (TEasyLink.received_congr same.uRecOK _).trans fresh
  have fromReceiving :
      AddressReceiving ip port (storeReIp (reIpFrame ip port index).addr3 statics) →
      AddressState ip port
        (verifyReIp (storeReIp (reIpFrame ip port index).addr3 statics)) := by
    intro receiving
    obtain ⟨complete, incomplete⟩ := receiving.verifyReIp_eq
    by_cases all : HasAllAddress
        ((storeReIp (reIpFrame ip port index).addr3 statics).uRecMask typeReip)
    · obtain ⟨uIP, uPort⟩ := receiving.record_eq all
      refine .accepted ?_ ?_ ?_
      · rw [complete all, TEasyLink.received_accept, decide_eq_true rfl, Bool.true_or]
      · rw [complete all]
        exact uIP
      · rw [complete all]
        exact uPort
    · rw [incomplete all]
      exact .receiving stillFresh receiving
  by_cases first : index = 0
  · subst first
    exact fromReceiving (addressReceiving_header ip port statics)
  · have positive : 0 < index.val := Fin.pos_iff_ne_zero.mpr first
    cases state with
    | unannounced _ mask =>
        have missing : ((storeReIp (reIpFrame ip port index).addr3 statics).uRecMask
            typeReip).getLsbD 0 = false := by
          rw [storeReIp_mask ip port statics positive, mask, decide_eq_false (by omega)]
          rfl
        have unchanged : verifyReIp (storeReIp (reIpFrame ip port index).addr3 statics) =
            storeReIp (reIpFrame ip port index).addr3 statics := by
          refine if_neg fun complete => ?_
          have marked := (reIpMask_iff _).mp complete 0 (by decide)
          exact absurd (missing.symm.trans marked) Bool.false_ne_true
        rw [unchanged]
        exact .unannounced stillFresh missing
    | receiving _ state => exact fromReceiving (state.storeFrame positive)
    | accepted done _ _ => exact absurd (fresh.symm.trans done) Bool.false_ne_true

end Address

/-! ## Frames of other data -/

theorem verifyField_slots (outside : UINT32 → UCHAR) (field : Field) (statics : Statics) :
    (verifyField outside field statics).uRecMask = statics.uRecMask ∧
      (verifyField outside field statics).uCrc = statics.uCrc ∧
      (∀ type, type ≠ field.type → (verifyField outside field statics).easyLink.received type =
        statics.easyLink.received type) ∧
      ∀ other, (verifyField outside field statics).easyLink.fieldLen other =
        statics.easyLink.fieldLen other := by
  dsimp only [verifyField]
  split_ifs
  · refine ⟨rfl, rfl, ?_, fun other => TEasyLink.fieldLen_accept _ _ _ other⟩
    intro type different
    rw [TEasyLink.received_accept, decide_eq_false different, Bool.false_or]
  · exact ⟨rfl, rfl, fun _ _ => rfl, fun _ => rfl⟩
  · exact ⟨rfl, rfl, fun _ _ => rfl, fun _ => rfl⟩

theorem verifyReIp_slots (statics : Statics) :
    (verifyReIp statics).uRecMask = statics.uRecMask ∧
      (verifyReIp statics).uCrc = statics.uCrc ∧
      ∀ type, type ≠ typeReip → (verifyReIp statics).easyLink.received type =
        statics.easyLink.received type := by
  dsimp only [verifyReIp]
  split_ifs
  · refine ⟨rfl, rfl, ?_⟩
    intro type different
    rw [TEasyLink.received_accept, decide_eq_false different, Bool.false_or]
  · exact ⟨rfl, rfl, fun _ _ => rfl⟩
  · exact ⟨rfl, rfl, fun _ _ => rfl⟩

theorem verifyReIp_sameFields (statics : Statics) (field : Field) :
    (verifyReIp statics).easyLink.fieldLen field = statics.easyLink.fieldLen field ∧
      (verifyReIp statics).easyLink.fieldBytes field = statics.easyLink.fieldBytes field := by
  dsimp only [verifyReIp]
  split_ifs
  · exact ⟨TEasyLink.fieldLen_accept _ _ _ field, TEasyLink.fieldBytes_accept _ _ _ field⟩
  · exact ⟨rfl, rfl⟩
  · exact ⟨rfl, rfl⟩

theorem storeReIp_slots (addr3 : MacAddr) (statics : Statics) {slot : Fin 4}
    (other : slot ≠ typeReip) :
    (storeReIp addr3 statics).uRecMask slot = statics.uRecMask slot ∧
      (storeReIp addr3 statics).uCrc slot = statics.uCrc slot ∧
      ∀ field, (storeReIp addr3 statics).easyLink.fieldLen field =
          statics.easyLink.fieldLen field ∧
        (storeReIp addr3 statics).easyLink.fieldBytes field =
          statics.easyLink.fieldBytes field := by
  dsimp only [storeReIp]
  have fields : ∀ uIP uPort, ∀ field : Field,
      { statics.easyLink with uIP := uIP, uPort := uPort }.fieldLen field =
          statics.easyLink.fieldLen field ∧
        { statics.easyLink with uIP := uIP, uPort := uPort }.fieldBytes field =
          statics.easyLink.fieldBytes field := by
    intro uIP uPort field
    cases field <;> exact ⟨rfl, rfl⟩
  split_ifs
  · simp [Function.update_of_ne other, fields]
  · simp [Function.update_of_ne other, fields]
  · simp [Function.update_of_ne other, fields]
  · simp [Function.update_of_ne other, fields]
  · simp [Function.update_of_ne other]
  · simp [Function.update_of_ne other]

theorem Field.type_ne_other (field : Field) : field.type ≠ field.other.type := by
  cases field <;> decide

theorem startField_other (record : TEasyLink) (len : UCHAR) (field : Field) :
    (record.startField len field).fieldLen field.other = record.fieldLen field.other ∧
      (record.startField len field).fieldBytes field.other = record.fieldBytes field.other ∧
      (record.startField len field).uIP = record.uIP ∧
      (record.startField len field).uPort = record.uPort := by
  cases field <;> exact ⟨rfl, rfl, rfl, rfl⟩

/-- The records a frame of a text can leave in its own branch, as far as other
data is concerned. -/
theorem storeField_record_cases (field : Field) (credential : Credential) {index : Nat}
    (inside : index < credential.count) (statics : Statics) :
    (∃ len, (storeField field (credential.frame field index).addr3 statics).easyLink =
        statics.easyLink.startField len field) ∨
    (storeField field (credential.frame field index).addr3 statics).easyLink =
        statics.easyLink ∨
    0 < index ∧ (storeField field (credential.frame field index).addr3 statics).easyLink =
      statics.easyLink.storePair field (BitVec.ofNat 32 index) (credential.data index).1
        (credential.data index).2 := by
  have bound := credential.count_le
  by_cases header : isHeader (credential.frame field index).addr3
  · exact Or.inl ⟨_, (storeField_of_header field statics header).1⟩
  · have positive : 0 < index := by
      by_contra zero
      obtain rfl : index = 0 := by omega
      exact header (isHeader_header credential field)
    by_cases check : isCheck statics.easyLink field (credential.frame field index).addr3
    · exact Or.inr (Or.inl (storeField_of_check field statics header check).1)
    · refine Or.inr (Or.inr ⟨positive, ?_⟩)
      have record := (storeField_of_data field statics header check).1
      rw [credential.frmIndex_frame field (by omega)] at record
      exact record

theorem ofNat_toNat_of_lt {index : Nat} (small : index < 32) :
    (BitVec.ofNat 32 index).toNat = index := by
  rw [BitVec.toNat_ofNat]
  omega

theorem keepsAddress_field (field : Field) (credential : Credential) {index : Nat}
    (inside : index < credential.count) (outside : UINT32 → UCHAR) (statics : Statics) :
    KeepsAddress statics (verifyField outside field
      (storeField field (credential.frame field index).addr3 statics)) := by
  have bound := credential.count_le
  have value := ofNat_toNat_of_lt (show index < 32 by omega)
  obtain ⟨masks, crcs, received, -⟩ := verifyField_slots outside field
    (storeField field (credential.frame field index).addr3 statics)
  have same := storeField_sameStatus field (credential.frame field index).addr3 statics
  have data := verifyField_sameData outside field
    (storeField field (credential.frame field index).addr3 statics)
  have different : typeReip ≠ field.type := by cases field <;> decide
  obtain ⟨mask, crc⟩ := storeField_of_ne field (credential.frame field index).addr3
    statics different
  have record : (storeField field (credential.frame field index).addr3 statics).easyLink.uIP =
        statics.easyLink.uIP ∧
      (storeField field (credential.frame field index).addr3 statics).easyLink.uPort =
        statics.easyLink.uPort := by
    rcases storeField_record_cases field credential inside statics with
      ⟨len, header⟩ | check | ⟨positive, pair⟩
    · rw [header]
      exact (startField_other statics.easyLink len field).2.2
    · rw [check]
      exact ⟨rfl, rfl⟩
    · rw [pair]
      refine ⟨?_, storePair_uPort _ _ _ _ (by omega)⟩
      cases field with
      | ssid => exact ssidPair_uIP _ _ _ (by omega)
      | pswd =>
          refine (pswdPair_uIP_iff _ _ _ (by omega)).mpr fun zero => ?_
          omega
  refine ⟨?_, data.uIP.trans record.1, data.uPort.trans record.2, ?_, ?_⟩
  · rw [received _ different, TEasyLink.received_congr same.uRecOK]
  · rw [masks, mask]
  · rw [crcs, crc]

/-- The check frame of a longest password, stored as data, carries the first two
bytes of the SSID. -/
def SameCheck (ssid pswd : Credential) : Prop :=
  pswd.count = 18 →
    sumBytes (BitVec.ofNat 16 pswd.checksum) = (ssid.byte 0, ssid.byte 1)

theorem storePair_other (field : Field) (own other : Credential) {index : Nat}
    (positive : 0 < index) (inside : index < own.count) (record : TEasyLink)
    (safe : field = .pswd → SameCheck other own) (position : Fin 32) :
    (record.storePair field (BitVec.ofNat 32 index) (own.data index).1
        (own.data index).2).fieldBytes field.other position =
      record.fieldBytes field.other position ∨
    (record.storePair field (BitVec.ofNat 32 index) (own.data index).1
        (own.data index).2).fieldBytes field.other position = other.padded position := by
  have bound := own.count_le
  have value := ofNat_toNat_of_lt (show index < 32 by omega)
  have small : (BitVec.ofNat 32 index).toNat < 32 := by omega
  cases field with
  | ssid =>
      have same := (ssidPair_uPwd_iff record (own.data index).1 (own.data index).2
        small).mpr fun zero => by omega
      exact Or.inl (congrFun same position)
  | pswd =>
      by_cases late : index < 17
      · have same := (pswdPair_uSSID_iff record (own.data index).1 (own.data index).2
          small).mpr fun late => by omega
        exact Or.inl (congrFun same position)
      · have count : own.count = 18 := by omega
        obtain rfl : index = 17 := by omega
        have data : own.data 17 = (other.byte 0, other.byte 1) := by
          rw [Credential.data, if_neg (by decide), if_pos (by omega)]
          exact safe rfl count
        change (record.storePair .pswd _ _ _).uSSID position = _ ∨
          (record.storePair .pswd _ _ _).uSSID position = _
        rw [storePair_uSSID _ _ _ _ (by decide), pairOffset_pswd _ (by decide), data]
        split_ifs with isLow isHigh
        · refine Or.inr (congrArg other.byte ?_)
          change 14 + 2 * 17 + 1 = 48 + position.val at isLow
          omega
        · refine Or.inr (congrArg other.byte ?_)
          change 14 + 2 * 17 = 48 + position.val at isHigh
          omega
        · exact Or.inl rfl

theorem keepsField_other (field : Field) (own other : Credential) {index : Nat}
    (inside : index < own.count) (outside : UINT32 → UCHAR) (statics : Statics)
    (safe : field = .pswd → SameCheck other own) :
    KeepsField field.other other statics (verifyField outside field
      (storeField field (own.frame field index).addr3 statics)) := by
  have bound := own.count_le
  have value := ofNat_toNat_of_lt (show index < 32 by omega)
  obtain ⟨masks, crcs, received, len⟩ := verifyField_slots outside field
    (storeField field (own.frame field index).addr3 statics)
  have same := storeField_sameStatus field (own.frame field index).addr3 statics
  have data : ∀ field', (verifyField outside field (storeField field
      (own.frame field index).addr3 statics)).easyLink.fieldBytes field' =
      (storeField field (own.frame field index).addr3 statics).easyLink.fieldBytes field' := by
    intro field'
    have kept := verifyField_sameData outside field
      (storeField field (own.frame field index).addr3 statics)
    cases field'
    · exact kept.uSSID
    · exact kept.uPwd
  have different := field.type_ne_other.symm
  obtain ⟨mask, crc⟩ := storeField_of_ne field (own.frame field index).addr3 statics
    different
  refine ⟨?received, ?len, ?mask, ?crc, ?bytes⟩
  case received => rw [received _ different, TEasyLink.received_congr same.uRecOK]
  case mask => rw [masks, mask]
  case crc => rw [crcs, crc]
  case len =>
    rw [len]
    rcases storeField_record_cases field own inside statics with
      ⟨announced, header⟩ | check | ⟨positive, pair⟩
    · rw [header, (startField_other statics.easyLink announced field).1]
    · rw [check]
    · rw [pair, TEasyLink.storePair_fieldLen _ _ _ _ _ (by omega)]
  case bytes =>
    intro position
    rw [data]
    rcases storeField_record_cases field own inside statics with
      ⟨announced, header⟩ | check | ⟨positive, pair⟩
    · rw [header, (startField_other statics.easyLink announced field).2.1]
      exact Or.inl rfl
    · rw [check]
      exact Or.inl rfl
    · rw [pair]
      exact storePair_other field own other positive inside statics.easyLink safe position

/-! ## All the data of one sender -/

/-- The frames of one sender. -/
def senderFrames (ssid pswd : Credential) (ip port : UINT32) : List Quad :=
  wifiEasyConnect ssid.byte ssid.text.length pswd.byte pswd.text.length ip port

/-- Every kind of data is unannounced, in reception or as the sender has it. -/
structure Delivering (ssid pswd : Credential) (ip port : UINT32) (statics : Statics) :
    Prop where
  ssid : FieldState .ssid ssid statics
  pswd : FieldState .pswd pswd statics
  address : AddressState ip port statics

section Sender

variable {ssid pswd : Credential} {ip port : UINT32} {before after statics : Statics}

theorem delivering_initial : Delivering ssid pswd ip port .initial where
  ssid := .unannounced rfl ⟨rfl, rfl⟩
  pswd := .unannounced rfl ⟨rfl, rfl⟩
  address := .unannounced rfl rfl

theorem Delivering.congr (delivering : Delivering ssid pswd ip port before)
    (record : after.easyLink = before.easyLink) (masks : after.uRecMask = before.uRecMask)
    (crcs : after.uCrc = before.uCrc) : Delivering ssid pswd ip port after where
  ssid := delivering.ssid.keep (.of_same record masks crcs)
  pswd := delivering.pswd.keep (.of_same record masks crcs)
  address := delivering.address.keep (.of_same record masks crcs)

theorem mem_senderFrames {quad : Quad} (sent : quad ∈ senderFrames ssid pswd ip port) :
    quad = channelFrame ∨ (∃ index, quad = reIpFrame ip port index) ∨
      (∃ index < pswd.count, quad = pswd.frame .pswd index) ∨
      ∃ index < ssid.count, quad = ssid.frame .ssid index := by
  have texts : ∀ (field : Field) (credential : Credential),
      quad ∈ fieldFrames field.sendType credential.byte credential.text.length →
      ∃ index < credential.count, quad = credential.frame field index := by
    intro field credential member
    change quad ∈ credential.frames field at member
    rw [credential.frames_eq, List.mem_map] at member
    obtain ⟨index, inside, equal⟩ := member
    exact ⟨index, List.mem_range.mp inside, equal.symm⟩
  rw [senderFrames, wifiEasyConnect, List.mem_append, List.mem_append, List.mem_append] at sent
  rcases sent with ((channel | address) | password) | name
  · exact Or.inl (List.eq_of_mem_replicate channel)
  · rw [reIpFrames_eq, List.mem_ofFn] at address
    obtain ⟨index, equal⟩ := address
    exact Or.inr (Or.inl ⟨index, equal.symm⟩)
  · exact Or.inr (Or.inr (Or.inl (texts .pswd pswd password)))
  · exact Or.inr (Or.inr (Or.inr (texts .ssid ssid name)))

/-- What a frame of the sender does to the data. -/
inductive Collects (ssid pswd : Credential) (ip port : UINT32) (quad : Quad) (before : Statics) :
    Statics → Prop
  | channel {adapter : Adapter} {addr3 : MacAddr} {after : Statics}
      (result : receiveChannel adapter addr3 before = some after) :
      Collects ssid pswd ip port quad before after
  | reIp (index : Fin 5) (fresh : before.easyLink.received typeReip = false) :
      Collects ssid pswd ip port quad before
        (verifyReIp (storeReIp (reIpFrame ip port index).addr3 before))
  | text (field : Field) {own : Credential} {index : Nat} (owned : own = match field with
        | .ssid => ssid
        | .pswd => pswd)
      (inside : index < own.count) (isFrame : quad = own.frame field index)
      (fresh : before.easyLink.received field.type = false) (outside : UINT32 → UCHAR) :
      Collects ssid pswd ip port quad before
        (verifyField outside field (storeField field (own.frame field index).addr3 before))

theorem collects_of_carries {call : Call} {quad : Quad}
    (sent : quad ∈ senderFrames ssid pswd ip port) (carries : Carries call quad)
    (result : collect call before = some after) :
    Collects ssid pswd ip port quad before after := by
  have running : before.iRecOk ≠ 1 := (collect_progress result).1
  have text : ∀ (field : Field) (own : Credential), (own = match field with
      | .ssid => ssid
      | .pswd => pswd) → ∀ index < own.count, quad = own.frame field index →
      Collects ssid pswd ip port quad before after := by
    intro field own owned index inside isFrame
    have bound := own.count_le
    have carriesFrame : Carries call (own.frame field index) := isFrame ▸ carries
    cases fresh : before.easyLink.received field.type with
    | true => exact absurd result (collect_of_accepted carriesFrame (by omega) running fresh)
    | false =>
        rw [collect_frame carriesFrame (by omega) running fresh] at result
        cases result
        exact .text field owned inside isFrame fresh _
  rcases mem_senderFrames sent with
    rfl | ⟨index, rfl⟩ | ⟨index, inside, equal⟩ | ⟨index, inside, equal⟩
  · rw [collect_of_carries carries running] at result
    exact .channel result
  · cases fresh : before.easyLink.received typeReip with
    | true =>
        rw [collect_of_carries carries running, receiveFrame, frmType_reIpFrame] at result
        change (if before.easyLink.received typeReip then none else _) = _ at result
        rw [fresh] at result
        cases result
    | false =>
        rw [collect_reIpFrame carries running fresh] at result
        cases result
        exact .reIp index fresh
  · exact text .pswd pswd rfl index inside equal
  · exact text .ssid ssid rfl index inside equal

theorem receiveChannel_kept {adapter : Adapter} {addr3 : MacAddr}
    (result : receiveChannel adapter addr3 before = some after) :
    KeepsAddress before after ∧
      ∀ (field : Field) (credential : Credential), KeepsField field credential before after := by
  rw [receiveChannel] at result
  split_ifs at result with done marked
  · cases result
    have marks : ∀ type, type ≠ typeChannel →
        (({ before.easyLink with uChannel := adapter.channel } : TEasyLink).accept typeChannel
          netLinkChannel).received type = before.easyLink.received type := by
      intro type different
      rw [TEasyLink.received_accept, decide_eq_false different, Bool.false_or]
      rfl
    refine ⟨⟨marks _ (by decide), rfl, rfl, rfl, rfl⟩, fun field _ => ?_⟩
    cases field with
    | ssid => exact ⟨marks _ (by decide), rfl, rfl, rfl, fun _ => Or.inl rfl⟩
    | pswd => exact ⟨marks _ (by decide), rfl, rfl, rfl, fun _ => Or.inl rfl⟩
  · cases result
    exact ⟨.of_same rfl rfl rfl, fun _ _ => .of_same rfl rfl rfl⟩

theorem Delivering.reIp (delivering : Delivering ssid pswd ip port statics)
    (fresh : statics.easyLink.received typeReip = false) (index : Fin 5) :
    Delivering ssid pswd ip port
      (verifyReIp (storeReIp (reIpFrame ip port index).addr3 statics)) := by
  have texts : ∀ (field : Field) (credential : Credential), KeepsField field credential statics
      (verifyReIp (storeReIp (reIpFrame ip port index).addr3 statics)) := by
    intro field credential
    have different : field.type ≠ typeReip := by cases field <;> decide
    obtain ⟨masks, crcs, received⟩ := verifyReIp_slots
      (storeReIp (reIpFrame ip port index).addr3 statics)
    obtain ⟨mask, crc, fields⟩ := storeReIp_slots (reIpFrame ip port index).addr3 statics
      different
    have same := storeReIp_sameStatus (reIpFrame ip port index).addr3 statics
    have data := verifyReIp_sameFields (storeReIp (reIpFrame ip port index).addr3 statics) field
    refine ⟨?_, ?_, ?_, ?_, fun position => Or.inl ?_⟩
    · rw [received _ different, TEasyLink.received_congr same.uRecOK]
    · rw [data.1, (fields field).1]
    · rw [masks, mask]
    · rw [crcs, crc]
    · rw [data.2, (fields field).2]
  exact ⟨delivering.ssid.keep (texts .ssid ssid), delivering.pswd.keep (texts .pswd pswd),
    delivering.address.receive fresh index⟩

theorem Delivering.text (delivering : Delivering ssid pswd ip port statics) (field : Field)
    {index : Nat} (own : Credential) (owned : own = match field with
      | .ssid => ssid
      | .pswd => pswd)
    (fresh : statics.easyLink.received field.type = false) (inside : index < own.count)
    (safe : field = .pswd → SameCheck ssid pswd) (outside : UINT32 → UCHAR) :
    Delivering ssid pswd ip port (verifyField outside field
      (storeField field (own.frame field index).addr3 statics)) := by
  cases field with
  | ssid =>
      subst owned
      exact ⟨delivering.ssid.receive fresh inside outside,
        delivering.pswd.keep (keepsField_other .ssid _ pswd inside outside statics
          fun wrong => absurd wrong (by decide)),
        delivering.address.keep (keepsAddress_field .ssid _ inside outside statics)⟩
  | pswd =>
      subst owned
      exact ⟨delivering.ssid.keep (keepsField_other .pswd _ ssid inside outside statics safe),
        delivering.pswd.receive fresh inside outside,
        delivering.address.keep (keepsAddress_field .pswd _ inside outside statics)⟩

/-- A call that carries a frame of the sender; password frames only under `safe`. -/
theorem Delivering.collect (delivering : Delivering ssid pswd ip port before) {quad : Quad}
    (safe : (∃ index, quad = pswd.frame .pswd index) → SameCheck ssid pswd)
    (collects : Collects ssid pswd ip port quad before after) :
    Delivering ssid pswd ip port after := by
  cases collects with
  | channel result =>
      obtain ⟨address, texts⟩ := receiveChannel_kept result
      exact ⟨delivering.ssid.keep (texts .ssid ssid), delivering.pswd.keep (texts .pswd pswd),
        delivering.address.keep address⟩
  | reIp index fresh => exact delivering.reIp fresh index
  | @text field own index owned inside isFrame fresh outside =>
      refine delivering.text field own owned fresh inside (fun isPswd => safe ⟨index, ?_⟩) outside
      subst isPswd owned
      exact isFrame

theorem initialise_slots (statics : Statics) :
    (initialise statics).uRecMask = statics.uRecMask ∧
      (initialise statics).uCrc = statics.uCrc := by
  rw [initialise]
  split_ifs <;> exact ⟨rfl, rfl⟩

theorem Delivering.initialised (delivering : Delivering ssid pswd ip port statics)
    (settled : Settled statics) : Delivering ssid pswd ip port (initialise statics) :=
  delivering.congr settled.initialised_easyLink (initialise_slots statics).1
    (initialise_slots statics).2

theorem Delivering.afterCall (delivering : Delivering ssid pswd ip port statics)
    (settled : Settled statics) {call : Call} {quad : Quad}
    (sent : quad ∈ senderFrames ssid pswd ip port)
    (safe : (∃ index, quad = pswd.frame .pswd index) → SameCheck ssid pswd)
    (carries : Carries call quad) :
    Delivering ssid pswd ip port (staMonPktSend statics call).1 := by
  dsimp only [staMonPktSend]
  have start := delivering.initialised settled
  cases result : EasyLink.collect call (initialise statics) with
  | none => exact start
  | some collected =>
      obtain ⟨record, masks, crcs, -⟩ := notify_store collected
      exact (start.collect safe (collects_of_carries sent carries result)).congr record masks crcs

end Sender

/-! ## Broadcast records -/

/-- The record of a kind the sender has data for is the sender's. -/
structure Delivered (ssid pswd : Credential) (ip port : UINT32) (record : TEasyLink) :
    Prop where
  ssidPwd : record.uLinkType = netLinkSsidPwd →
    record.uSSID = ssid.padded ∧ record.uPwd = pswd.padded
  reIp : record.uLinkType = netLinkReIpPort →
    record.uIP = ip ∧ record.uPort = port.setWidth 16

/-- Every call hands a frame of the sender to the receiver. -/
def FromSender (ssid pswd : Credential) (ip port : UINT32) (calls : List Call) : Prop :=
  ∀ call ∈ calls, ∃ quad ∈ senderFrames ssid pswd ip port, Carries call quad

section Broadcast

variable {ssid pswd : Credential} {ip port : UINT32} {statics : Statics}

theorem FieldState.bytes_of_received {field : Field} {credential : Credential}
    (state : FieldState field credential statics)
    (done : statics.easyLink.received field.type) :
    statics.easyLink.fieldBytes field = credential.padded := by
  cases state with
  | unannounced fresh _ => exact absurd (fresh.symm.trans done) Bool.false_ne_true
  | receiving fresh _ => exact absurd (fresh.symm.trans done) Bool.false_ne_true
  | accepted _ bytes => exact bytes

theorem AddressState.record_of_received (state : AddressState ip port statics)
    (done : statics.easyLink.received typeReip) :
    statics.easyLink.uIP = ip ∧ statics.easyLink.uPort = port.setWidth 16 := by
  cases state with
  | unannounced fresh _ => exact absurd (fresh.symm.trans done) Bool.false_ne_true
  | receiving fresh _ => exact absurd (fresh.symm.trans done) Bool.false_ne_true
  | accepted _ uIP uPort => exact ⟨uIP, uPort⟩

theorem Settled.broadcast_eq (settled : Settled statics) {call : Call} {record : TEasyLink}
    (sent : record ∈ (staMonPktSend statics call).2) :
    record = (staMonPktSend statics call).1.easyLink := by
  rcases settled.callCases call with ⟨-, result⟩ | ⟨raised, pending, -, -, -, result, -, -⟩
  · rw [result] at sent
    cases sent
  · rw [result] at sent ⊢
    rw [finish_easyLink, sendPending_easyLink]
    cases pending with
    | none => cases sent
    | some kind => exact (Option.some.inj sent).symm

theorem Delivering.delivered (settled : Settled statics) {call : Call}
    (delivering : Delivering ssid pswd ip port (staMonPktSend statics call).1)
    {record : TEasyLink} (sent : record ∈ (staMonPktSend statics call).2) :
    Delivered ssid pswd ip port record := by
  obtain ⟨-, kind, -, -, -, -, linkType, complete⟩ := settled.broadcast_kind call sent
  have equal := settled.broadcast_eq sent
  have same : ∀ other : LinkKind, record.uLinkType = other.code → other.complete record := by
    intro other isOther
    rw [← LinkKind.code_injective (linkType.symm.trans isOther)]
    exact complete
  subst equal
  refine ⟨?_, ?_⟩
  · intro isSsidPwd
    have both := Bool.and_eq_true_iff.mp (same .ssidPwd isSsidPwd)
    exact ⟨delivering.ssid.bytes_of_received both.1, delivering.pswd.bytes_of_received both.2⟩
  · intro isReIp
    exact delivering.address.record_of_received (same .reIp isReIp)

theorem delivered_of_sameCheck (safe : SameCheck ssid pswd) {calls : List Call}
    (fromSender : FromSender ssid pswd ip port calls) :
    ∀ record ∈ broadcasts calls, Delivered ssid pswd ip port record := by
  have kept : ∀ (statics : Statics) (call : Call),
      (∃ quad ∈ senderFrames ssid pswd ip port, Carries call quad) →
      Settled statics ∧ Delivering ssid pswd ip port statics →
      Settled (staMonPktSend statics call).1 ∧
        Delivering ssid pswd ip port (staMonPktSend statics call).1 := by
    rintro statics call ⟨quad, sent, carries⟩ ⟨settled, delivering⟩
    exact ⟨settled.afterCall call,
      delivering.afterCall settled sent (fun _ => safe) carries⟩
  refine Execution.forall_observations
    (fun _ call => ∃ quad ∈ senderFrames ssid pswd ip port, Carries call quad)
    (fun statics => Settled statics ∧ Delivering ssid pswd ip port statics) kept ?_
    (Execution.eachCall_of_allowed _ _ fromSender) ⟨settled_initial, delivering_initial⟩
  intro statics call allowed holds record sent
  exact (kept statics call allowed holds).2.delivered holds.1 sent

end Broadcast

end StudyDemo.EasyLink
