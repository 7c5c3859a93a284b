import StudyDemo.EasyLink.Receiver

/-! # What one frame can change

A collected frame completes at most one kind of data. `Progress` lists the
cases with everything the send step looks at; the branches themselves are not
unfolded again. -/

namespace StudyDemo.EasyLink

namespace TEasyLink

theorem received_eq_getLsbD (record : TEasyLink) (type : Fin 4) :
    record.received type = record.uRecOK.getLsbD type.val := by
  have nonzero : ∀ type : Fin 4, BitVec.twoPow 32 type.val ≠ 0#32 := by decide
  rw [received, ← BitVec.twoPow_eq, BitVec.and_twoPow]
  split
  · rename_i present
    simp [nonzero type, present]
  · rename_i absent
    simp [absent]

@[simp] theorem received_zero (type : Fin 4) : zero.received type = false := by
  simp [received_eq_getLsbD, zero]

theorem received_congr {left right : TEasyLink} (same : left.uRecOK = right.uRecOK)
    (type : Fin 4) : left.received type = right.received type := by
  rw [received, received, same]

theorem received_of_mark {before after : TEasyLink} {marked : Fin 4}
    (mark : after.uRecOK = before.uRecOK ||| (1#32 <<< marked.val)) (type : Fin 4) :
    after.received type = (decide (type = marked) || before.received type) := by
  rw [received_eq_getLsbD, received_eq_getLsbD, mark, BitVec.getLsbD_or,
    ← BitVec.twoPow_eq, BitVec.getLsbD_twoPow, Bool.or_comm]
  simp only [show marked.val < 32 by omega, decide_true, Bool.true_and]
  congr 1
  exact decide_eq_decide.mpr ⟨fun equal => Fin.ext equal.symm, fun equal => equal ▸ rfl⟩

@[simp] theorem received_accept (record : TEasyLink) (marked : Fin 4) (linkType : UCHAR)
    (type : Fin 4) :
    (record.accept marked linkType).received type =
      (decide (type = marked) || record.received type) :=
  received_of_mark rfl type

end TEasyLink

/-! ## Stores of a data frame -/

theorem frmIndex_lt (addr3 : MacAddr) : (frmIndex addr3).toNat < 32 := by
  have bound : (addr3 3 &&& numMask).toNat ≤ 31 := by
    rw [BitVec.toNat_and]
    exact Nat.and_le_right
  simp only [frmIndex, BitVec.toNat_setWidth]
  omega

/-- The first of the two offsets a data frame stores to. -/
def pairOffset (field : Field) (uIndex : UINT32) : UINT32 :=
  field.offset + 2 * (uIndex - 1)

theorem storePair_eq (record : TEasyLink) (field : Field) (uIndex : UINT32)
    (high low : UCHAR) :
    record.storePair field uIndex high low =
      (record.store (pairOffset field uIndex) high).store
        (pairOffset field uIndex + 1) low := by
  rw [TEasyLink.storePair, pairOffset, BitVec.add_assoc]

/-- Index 0 wraps round to the two bytes before the array. -/
theorem pairOffset_toNat (field : Field) (uIndex : UINT32) (small : uIndex.toNat < 32) :
    (pairOffset field uIndex).toNat =
      field.offset.toNat + 2 * uIndex.toNat - 2 := by
  cases field <;>
    simp only [pairOffset, Field.offset, TEasyLink.uSSIDOffset, TEasyLink.uPwdOffset] <;>
    bv_omega

theorem pairOffset_pswd (uIndex : UINT32) (small : uIndex.toNat < 32) :
    (pairOffset .pswd uIndex).toNat = 14 + 2 * uIndex.toNat := by
  rw [pairOffset_toNat .pswd uIndex small]
  change 16 + 2 * uIndex.toNat - 2 = 14 + 2 * uIndex.toNat
  omega

theorem pairOffset_ssid (uIndex : UINT32) (small : uIndex.toNat < 32) :
    (pairOffset .ssid uIndex).toNat = 46 + 2 * uIndex.toNat := by
  rw [pairOffset_toNat .ssid uIndex small]
  change 48 + 2 * uIndex.toNat - 2 = 46 + 2 * uIndex.toNat
  omega

theorem pairOffset_add_one_toNat (field : Field) (uIndex : UINT32)
    (small : uIndex.toNat < 32) :
    (pairOffset field uIndex + 1).toNat = (pairOffset field uIndex).toNat + 1 := by
  have here := pairOffset_toNat field uIndex small
  cases field <;>
    simp only [Field.offset, TEasyLink.uSSIDOffset, TEasyLink.uPwdOffset] at here <;>
    bv_omega

/-- No data frame reaches the scalar bytes in front of `uIP`. -/
theorem le_pairOffset (field : Field) (uIndex : UINT32) (small : uIndex.toNat < 32) :
    14 ≤ (pairOffset field uIndex).toNat := by
  rw [pairOffset_toNat field uIndex small]
  cases field <;> simp [Field.offset, TEasyLink.uSSIDOffset, TEasyLink.uPwdOffset]
  · omega
  · omega

section StorePair

variable (record : TEasyLink) (field : Field) {uIndex : UINT32} (high low : UCHAR)

theorem storePair_scalars (small : uIndex.toNat < 32) :
    (record.storePair field uIndex high low).uSSIDlen = record.uSSIDlen ∧
    (record.storePair field uIndex high low).uPwdLen = record.uPwdLen ∧
    (record.storePair field uIndex high low).uChannel = record.uChannel ∧
    (record.storePair field uIndex high low).uLinkType = record.uLinkType ∧
    (record.storePair field uIndex high low).uRecOK = record.uRecOK ∧
    (record.storePair field uIndex high low).uPort = record.uPort := by
  have first := le_pairOffset field uIndex small
  have second := pairOffset_add_one_toNat field uIndex small
  rw [storePair_eq]
  refine ⟨?_, ?_, ?_, ?_, ?_, ?_⟩
  all_goals simp only [TEasyLink.store, second]
  · rw [if_neg (by omega), if_neg (by omega)]
  · rw [if_neg (by omega), if_neg (by omega)]
  · rw [if_neg (by omega), if_neg (by omega)]
  · rw [if_neg (by omega), if_neg (by omega)]
  · rw [storeWord_of_outside _ _ (by omega), storeWord_of_outside _ _ (by omega)]
  · rw [storeWord_of_outside _ _ (by omega), storeWord_of_outside _ _ (by omega)]

theorem storePair_uSSID (small : uIndex.toNat < 32) (index : Fin 32) :
    (record.storePair field uIndex high low).uSSID index =
      if (pairOffset field uIndex).toNat + 1 = 48 + index.val then low
      else if (pairOffset field uIndex).toNat = 48 + index.val then high
      else record.uSSID index := by
  rw [storePair_eq]
  simp only [TEasyLink.store, pairOffset_add_one_toNat field uIndex small]

theorem storePair_uPwd (small : uIndex.toNat < 32) (index : Fin 32) :
    (record.storePair field uIndex high low).uPwd index =
      if (pairOffset field uIndex).toNat + 1 = 16 + index.val then low
      else if (pairOffset field uIndex).toNat = 16 + index.val then high
      else record.uPwd index := by
  rw [storePair_eq]
  simp only [TEasyLink.store, pairOffset_add_one_toNat field uIndex small]

theorem storePair_uIP (small : uIndex.toNat < 32) {index : Nat} (inside : index < 4) :
    loadWord (record.storePair field uIndex high low).uIP index =
      if (pairOffset field uIndex).toNat + 1 = 12 + index then low
      else if (pairOffset field uIndex).toNat = 12 + index then high
      else loadWord record.uIP index := by
  rw [storePair_eq]
  simp only [TEasyLink.store, pairOffset_add_one_toNat field uIndex small,
    loadWord_storeWord _ _ _ _ inside]

end StorePair

/-! ## The cases of a collected frame -/

/-- The variables the send step looks at are the same. -/
structure SameStatus (before after : Statics) : Prop where
  iInit : after.iInit = before.iInit
  iRecOk : after.iRecOk = before.iRecOk
  iRecSsidPwd : after.iRecSsidPwd = before.iRecSsidPwd
  iRecIp : after.iRecIp = before.iRecIp
  iRecChannel : after.iRecChannel = before.iRecChannel
  uRecOK : after.easyLink.uRecOK = before.easyLink.uRecOK
  uLinkType : after.easyLink.uLinkType = before.easyLink.uLinkType

theorem SameStatus.refl (statics : Statics) : SameStatus statics statics :=
  ⟨rfl, rfl, rfl, rfl, rfl, rfl, rfl⟩

theorem storeReIp_sameStatus (addr3 : MacAddr) (statics : Statics) :
    SameStatus statics (storeReIp addr3 statics) := by
  dsimp only [storeReIp]
  split_ifs <;> exact ⟨rfl, rfl, rfl, rfl, rfl, rfl, rfl⟩

theorem startField_scalars (record : TEasyLink) (len : UCHAR) (field : Field) :
    (record.startField len field).uRecOK = record.uRecOK ∧
    (record.startField len field).uLinkType = record.uLinkType := by
  cases field <;> exact ⟨rfl, rfl⟩

theorem storeField_sameStatus (field : Field) (addr3 : MacAddr) (statics : Statics) :
    SameStatus statics (storeField field addr3 statics) := by
  dsimp only [storeField]
  split_ifs with header check
  · have scalars := startField_scalars statics.easyLink (addr3 5) field
    exact ⟨rfl, rfl, rfl, rfl, rfl, scalars.1, scalars.2⟩
  · exact ⟨rfl, rfl, rfl, rfl, rfl, rfl, rfl⟩
  · obtain ⟨-, -, -, uLinkType, uRecOK, -⟩ := storePair_scalars statics.easyLink field
      (addr3 4) (addr3 5) (frmIndex_lt addr3)
    exact ⟨rfl, rfl, rfl, rfl, rfl, uRecOK, uLinkType⟩

/-! The three branches of a field's store. -/

section StoreField

variable (field : Field) {addr3 : MacAddr} (statics : Statics)

theorem storeField_mask (header : ¬isHeader addr3) :
    (storeField field addr3 statics).uRecMask field.type =
      statics.uRecMask field.type ||| 1#32 <<< (frmIndex addr3).toNat := by
  dsimp only [storeField]
  rw [if_neg header]
  split_ifs <;> exact Function.update_self _ _ _

theorem storeField_of_header (header : isHeader addr3) :
    (storeField field addr3 statics).easyLink =
        statics.easyLink.startField (addr3 5) field ∧
      (storeField field addr3 statics).uRecMask field.type = 1 := by
  dsimp only [storeField]
  rw [if_pos header]
  exact ⟨rfl, Function.update_self _ _ _⟩

theorem storeField_of_check (header : ¬isHeader addr3)
    (check : isCheck statics.easyLink field addr3) :
    (storeField field addr3 statics).easyLink = statics.easyLink ∧
      (storeField field addr3 statics).uCrc field.type =
        (addr3 4).setWidth 32 <<< 8 + (addr3 5).setWidth 32 := by
  dsimp only [storeField]
  rw [if_neg header, if_pos check]
  exact ⟨rfl, Function.update_self _ _ _⟩

theorem storeField_of_data (header : ¬isHeader addr3)
    (check : ¬isCheck statics.easyLink field addr3) :
    (storeField field addr3 statics).easyLink =
        statics.easyLink.storePair field (frmIndex addr3) (addr3 4) (addr3 5) ∧
      (storeField field addr3 statics).uCrc = statics.uCrc := by
  dsimp only [storeField]
  rw [if_neg header, if_neg check]
  exact ⟨rfl, rfl⟩

theorem storeField_of_ne (addr3 : MacAddr) (statics : Statics) {slot : Fin 4}
    (other : slot ≠ field.type) :
    (storeField field addr3 statics).uRecMask slot = statics.uRecMask slot ∧
      (storeField field addr3 statics).uCrc slot = statics.uCrc slot := by
  dsimp only [storeField]
  split_ifs
  · exact ⟨Function.update_of_ne other _ _, Function.update_of_ne other _ _⟩
  · exact ⟨Function.update_of_ne other _ _, Function.update_of_ne other _ _⟩
  · exact ⟨Function.update_of_ne other _ _, rfl⟩

end StoreField

/-- Which kind of data a collected frame completes, if any. -/
inductive Completed
  | nothing
  | channel
  | reIp
  | field (field : Field)

/-- The effect of a collected frame on the variables the send step looks at. -/
structure Progress (before after : Statics) (completed : Completed) : Prop where
  iInit : after.iInit = before.iInit
  iRecOk : after.iRecOk = before.iRecOk
  iRecSsidPwd : after.iRecSsidPwd = before.iRecSsidPwd
  effect : match completed with
    | .nothing => SameStatus before after
    | .channel =>
        before.easyLink.received typeChannel = false ∧
        after.easyLink.uRecOK = before.easyLink.uRecOK ||| (1#32 <<< typeChannel.val) ∧
        after.easyLink.uLinkType = netLinkChannel ∧
        after.iRecIp = before.iRecIp ∧ after.iRecChannel = 1
    | .reIp =>
        before.easyLink.received typeReip = false ∧
        after.easyLink.uRecOK = before.easyLink.uRecOK ||| (1#32 <<< typeReip.val) ∧
        after.easyLink.uLinkType = netLinkReIpPort ∧
        after.iRecIp = 1 ∧ after.iRecChannel = before.iRecChannel
    | .field field =>
        before.easyLink.received field.type = false ∧
        after.easyLink.uRecOK = before.easyLink.uRecOK ||| (1#32 <<< field.type.val) ∧
        after.easyLink.uLinkType = netLinkSsidPwd ∧
        after.iRecIp = before.iRecIp ∧ after.iRecChannel = before.iRecChannel

theorem SameStatus.progress {before after : Statics} (same : SameStatus before after) :
    Progress before after .nothing :=
  ⟨same.iInit, same.iRecOk, same.iRecSsidPwd, same⟩

theorem Progress.received_stays {before after : Statics} {completed : Completed}
    (progress : Progress before after completed) {type : Fin 4}
    (accepted : before.easyLink.received type) : after.easyLink.received type := by
  have effect := progress.effect
  cases completed with
  | nothing => rwa [TEasyLink.received_congr effect.uRecOK]
  | channel => simp [TEasyLink.received_of_mark effect.2.1, accepted]
  | reIp => simp [TEasyLink.received_of_mark effect.2.1, accepted]
  | field field => simp [TEasyLink.received_of_mark effect.2.1, accepted]

theorem receiveChannel_progress {adapter : Adapter} {addr3 : MacAddr}
    {before after : Statics} (result : receiveChannel adapter addr3 before = some after) :
    ∃ completed, Progress before after completed := by
  unfold receiveChannel at result
  split_ifs at result with done isData
  · cases result
    exact ⟨.channel, rfl, rfl, rfl, by simpa using done, rfl, rfl, rfl, rfl⟩
  · cases result
    exact ⟨.nothing, (SameStatus.refl before).progress⟩

theorem receiveReIp_progress {addr3 : MacAddr} {before after : Statics}
    (result : receiveReIp addr3 before = some after) :
    ∃ completed, Progress before after completed := by
  unfold receiveReIp at result
  split_ifs at result with done
  cases result
  have stored := storeReIp_sameStatus addr3 before
  dsimp only [verifyReIp]
  split_ifs with complete correct
  · refine ⟨.reIp, stored.iInit, stored.iRecOk, stored.iRecSsidPwd, by simpa using done,
      ?_, rfl, rfl, stored.iRecChannel⟩
    simp only [TEasyLink.accept, stored.uRecOK]
  · exact ⟨.nothing, SameStatus.progress
      ⟨stored.1, stored.2, stored.3, stored.4, stored.5, stored.6, stored.7⟩⟩
  · exact ⟨.nothing, stored.progress⟩

theorem receiveField_progress {field : Field} {outside : UINT32 → UCHAR} {addr3 : MacAddr}
    {before after : Statics} (result : receiveField field outside addr3 before = some after) :
    ∃ completed, Progress before after completed := by
  unfold receiveField at result
  split_ifs at result with done
  cases result
  have stored := storeField_sameStatus field addr3 before
  dsimp only [verifyField]
  split_ifs with complete correct
  · refine ⟨.field field, stored.iInit, stored.iRecOk, stored.iRecSsidPwd,
      by simpa using done, ?_, rfl, stored.iRecIp, stored.iRecChannel⟩
    simp only [TEasyLink.accept, stored.uRecOK]
  · exact ⟨.nothing, SameStatus.progress
      ⟨stored.1, stored.2, stored.3, stored.4, stored.5, stored.6, stored.7⟩⟩
  · exact ⟨.nothing, stored.progress⟩

theorem receiveFrame_progress {adapter : Adapter} {addr3 : MacAddr}
    {before after : Statics} (result : receiveFrame adapter addr3 before = some after) :
    ∃ completed, Progress before after completed := by
  unfold receiveFrame at result
  split_ifs at result
  · exact receiveChannel_progress result
  · exact receiveReIp_progress result
  · exact receiveField_progress result
  · exact receiveField_progress result
  · cases result
    exact ⟨.nothing, (SameStatus.refl before).progress⟩

theorem collect_progress {call : Call} {before after : Statics}
    (result : collect call before = some after) :
    before.iRecOk ≠ 1 ∧ ∃ completed, Progress before after completed := by
  unfold collect at result
  split_ifs at result with stopped easyLinkFrame
  exact ⟨stopped, receiveFrame_progress result⟩

end StudyDemo.EasyLink
