import StudyDemo.EasyLink.Progress
import StudyDemo.EasyLink.Sender

/-! # One text over the air

The frames of a credential against the branch that receives its field. After
the header the mask says which frames came, and every byte whose frame came is
the sender's; the branch accepts once every frame came. -/

namespace StudyDemo.EasyLink

/-! ## The mask -/

/-- The frames with the indices below the count are all marked. -/
def HasAll (credential : Credential) (mask : UINT32) : Prop :=
  ∀ index < credential.count, mask.getLsbD index

theorem getLsbD_mark (mask : UINT32) {index : Nat} (small : index < 32) (bit : Nat) :
    (mask ||| 1#32 <<< (BitVec.ofNat 32 index).toNat).getLsbD bit =
      (mask.getLsbD bit || decide (index = bit)) := by
  have value : (BitVec.ofNat 32 index).toNat = index := by
    rw [BitVec.toNat_ofNat]
    omega
  rw [value, BitVec.getLsbD_or, ← BitVec.twoPow_eq, BitVec.getLsbD_twoPow, decide_eq_true small,
    Bool.true_and]

theorem getLsbD_completeMask {count : Nat} (positive : 0 < count) (bound : count ≤ 32)
    (bit : Nat) :
    (completeMask (BitVec.ofNat 8 count)).getLsbD bit = decide (bit < count) := by
  have shift : ∀ count : Fin 33, 0 < count.val →
      shiftCount (BitVec.ofNat 8 count.val) = 32 - count.val := by decide
  have counted := shift ⟨count, by omega⟩ positive
  have ones : (0xFFFFFFFF#32) = BitVec.allOnes 32 := by decide
  simp only at counted
  rw [completeMask, counted, ones, BitVec.getLsbD_ushiftRight, BitVec.getLsbD_allOnes]
  exact decide_eq_decide.mpr (by omega)

theorem Credential.complete_iff (credential : Credential) (mask : UINT32) :
    mask &&& completeMask (BitVec.ofNat 8 credential.count) =
        completeMask (BitVec.ofNat 8 credential.count) ↔
      HasAll credential mask := by
  have bits := getLsbD_completeMask (Nat.lt_of_lt_of_le Nat.zero_lt_two
    credential.two_le_count) (Nat.le_trans credential.count_le (by decide))
  constructor
  · intro equal index inside
    have bitEqual := congrArg (fun word : UINT32 => word.getLsbD index) equal
    simpa [bits, inside] using bitEqual
  · intro all
    apply BitVec.eq_of_getLsbD_eq
    intro bit _
    rw [BitVec.getLsbD_and, bits]
    by_cases inside : bit < credential.count
    · simp [inside, all bit inside]
    · simp [inside]

/-! ## The checksum -/

theorem sumBytes_join (wSum : USHORT) :
    (sumBytes wSum).1.setWidth 32 <<< 8 + (sumBytes wSum).2.setWidth 32 =
      wSum.setWidth 32 := by
  have high : (sumBytes wSum).1 = (wSum >>> 8).setWidth 8 := by
    have kept : ∀ bit < 8, (0xFF00#16).getLsbD (8 + bit) := by decide
    apply BitVec.eq_of_getLsbD_eq
    intro bit small
    simp [sumBytes, small, kept bit small]
  have low : (sumBytes wSum).2 = wSum.setWidth 8 := by
    have kept : ∀ bit : Fin 8, (0xFF#8)[bit.val] = true := by decide
    apply BitVec.eq_of_getLsbD_eq
    intro bit small
    simpa [sumBytes, small] using fun _ => kept ⟨bit, small⟩
  have bound := wSum.isLt
  rw [high, low]
  apply BitVec.eq_of_toNat_eq
  simp only [BitVec.toNat_add, BitVec.toNat_shiftLeft, BitVec.toNat_setWidth,
    BitVec.toNat_ushiftRight, Nat.shiftLeft_eq, Nat.shiftRight_eq_div_pow]
  omega

theorem sumBytes_ofNat {total : Nat} (bound : total < 65536) :
    (sumBytes (BitVec.ofNat 16 total)).1.setWidth 32 <<< 8 +
        (sumBytes (BitVec.ofNat 16 total)).2.setWidth 32 =
      BitVec.ofNat 32 total := by
  rw [sumBytes_join]
  apply BitVec.eq_of_toNat_eq
  rw [BitVec.toNat_setWidth, BitVec.toNat_ofNat, BitVec.toNat_ofNat]
  omega

theorem checksumLoop_eq (credential : Credential) (load : UINT32 → UCHAR)
    (count index base : Nat) (small : index + count ≤ 16)
    (loads : ∀ position < 2 * (index + count),
      load (BitVec.ofNat 32 position) = credential.byte position) :
    checksumLoop load count (BitVec.ofNat 32 index)
        (BitVec.ofNat 32 (base + credential.total index)) =
      BitVec.ofNat 32 (base + credential.total (index + count)) := by
  induction count generalizing index with
  | zero => rfl
  | succ count induction =>
      have next : BitVec.ofNat 32 index + 1 = BitVec.ofNat 32 (index + 1) :=
        (BitVec.ofNat_add index 1).symm
      have low : 2 * BitVec.ofNat 32 index = BitVec.ofNat 32 (2 * index) :=
        (BitVec.ofNat_mul 2 index).symm
      have high : BitVec.ofNat 32 (2 * index) + 1 = BitVec.ofNat 32 (2 * index + 1) :=
        (BitVec.ofNat_add (2 * index) 1).symm
      have sum : BitVec.ofNat 32 (base + credential.total index) +
          (credential.byte (2 * index + 1)).setWidth 32 +
          (credential.byte (2 * index)).setWidth 32 =
          BitVec.ofNat 32 (base + credential.total (index + 1)) := by
        apply BitVec.eq_of_toNat_eq
        simp only [BitVec.toNat_add, BitVec.toNat_ofNat, BitVec.toNat_setWidth,
          Credential.total]
        omega
      rw [checksumLoop, low, high, loads _ (by omega), loads _ (by omega), next, sum]
      rw [show index + (count + 1) = index + 1 + count by omega]
      apply induction
      · omega
      · intro position inside
        exact loads position (by omega)

/-! ## The bytes of a field -/

namespace TEasyLink

theorem load_field (record : TEasyLink) (outside : UINT32 → UCHAR) (field : Field)
    (index : Fin 32) :
    record.load outside (field.offset + BitVec.ofNat 32 index.val) =
      record.fieldBytes field index := by
  have small := index.isLt
  cases field with
  | ssid =>
      have position : (Field.ssid.offset + BitVec.ofNat 32 index.val).toNat =
          48 + index.val := by
        simp only [Field.offset, uSSIDOffset, BitVec.toNat_add, BitVec.toNat_ofNat]
        change (48 + _) % _ = _
        omega
      simp only [load, position, size, show 48 + index.val < 80 by omega, dif_pos, byteAt]
      repeat rw [if_neg (by omega)]
      rw [dif_neg (by omega)]
      exact congrArg record.uSSID (Fin.ext (by simp))
  | pswd =>
      have position : (Field.pswd.offset + BitVec.ofNat 32 index.val).toNat =
          16 + index.val := by
        simp only [Field.offset, uPwdOffset, BitVec.toNat_add, BitVec.toNat_ofNat]
        change (16 + _) % _ = _
        omega
      simp only [load, position, size, show 16 + index.val < 80 by omega, dif_pos, byteAt]
      repeat rw [if_neg (by omega)]
      rw [dif_pos (by omega)]
      exact congrArg record.uPwd (Fin.ext (by simp))

theorem storePair_fieldBytes (record : TEasyLink) (field : Field) {uIndex : UINT32}
    (high low : UCHAR) (small : uIndex.toNat < 32) (index : Fin 32) :
    (record.storePair field uIndex high low).fieldBytes field index =
      if 2 * uIndex.toNat = index.val + 1 then low
      else if 2 * uIndex.toNat = index.val + 2 then high
      else record.fieldBytes field index := by
  cases field with
  | ssid =>
      change (record.storePair .ssid uIndex high low).uSSID index = _
      rw [storePair_uSSID record .ssid high low small, pairOffset_ssid uIndex small]
      congr 1
      · simp only [eq_iff_iff]
        omega
      · congr 1
        simp only [eq_iff_iff]
        omega
  | pswd =>
      change (record.storePair .pswd uIndex high low).uPwd index = _
      rw [storePair_uPwd record .pswd high low small, pairOffset_pswd uIndex small]
      congr 1
      · simp only [eq_iff_iff]
        omega
      · congr 1
        simp only [eq_iff_iff]
        omega

theorem storePair_fieldLen (record : TEasyLink) (field other : Field) {uIndex : UINT32}
    (high low : UCHAR) (small : uIndex.toNat < 32) :
    (record.storePair field uIndex high low).fieldLen other = record.fieldLen other := by
  have scalars := storePair_scalars record field high low small
  cases other
  · exact scalars.1
  · exact scalars.2.1

@[simp] theorem fieldLen_accept (record : TEasyLink) (type : Fin 4) (linkType : UCHAR)
    (field : Field) : (record.accept type linkType).fieldLen field = record.fieldLen field := by
  cases field <;> rfl

@[simp] theorem fieldBytes_accept (record : TEasyLink) (type : Fin 4) (linkType : UCHAR)
    (field : Field) :
    (record.accept type linkType).fieldBytes field = record.fieldBytes field := by
  cases field <;> rfl

@[simp] theorem fieldLen_startField (record : TEasyLink) (len : UCHAR) (field : Field) :
    (record.startField len field).fieldLen field = len := by
  cases field <;> rfl

@[simp] theorem fieldBytes_startField (record : TEasyLink) (len : UCHAR) (field : Field) :
    (record.startField len field).fieldBytes field = fun _ => 0 := by
  cases field <;> rfl

end TEasyLink

/-! ## Receiving -/

/-- The field's header is in, and so is what the marked frames carry. -/
structure Receiving (field : Field) (credential : Credential) (statics : Statics) : Prop where
  len : statics.easyLink.fieldLen field = BitVec.ofNat 8 credential.count
  header : (statics.uRecMask field.type).getLsbD 0
  bytes : ∀ index : Fin 32,
    (statics.uRecMask field.type).getLsbD (index.val / 2 + 1) ∨
        2 * (credential.count - 2) ≤ index.val →
      statics.easyLink.fieldBytes field index = credential.padded index
  crc : (statics.uRecMask field.type).getLsbD (credential.count - 1) →
    statics.uCrc field.type = BitVec.ofNat 32 credential.checksum

section Frames

variable {field : Field} {credential : Credential} {statics : Statics} {index : Nat}

theorem isHeader_header (credential : Credential) (field : Field) :
    isHeader (credential.frame field 0).addr3 :=
  ⟨rfl, credential.frmIndex_frame field (by omega)⟩

theorem not_isHeader_frame (field : Field) (positive : 0 < index)
    (inside : index < credential.count) :
    ¬isHeader (credential.frame field index).addr3 := by
  have bound := credential.count_le
  intro header
  have zero := header.2
  rw [credential.frmIndex_frame field (by omega)] at zero
  have value := congrArg BitVec.toNat zero
  rw [BitVec.toNat_ofNat] at value
  change index % 4294967296 = 0 at value
  omega

theorem isCheck_frame_iff {record : TEasyLink}
    (len : record.fieldLen field = BitVec.ofNat 8 credential.count)
    (inside : index < credential.count) :
    isCheck record field (credential.frame field index).addr3 ↔
      index + 1 = credential.count := by
  have least := credential.two_le_count
  have bound := credential.count_le
  have last : (BitVec.ofNat 8 credential.count).setWidth 32 - 1 =
      BitVec.ofNat 32 (credential.count - 1) := by
    apply BitVec.eq_of_toNat_eq
    have value : ((BitVec.ofNat 8 credential.count).setWidth 32).toNat = credential.count := by
      rw [BitVec.toNat_setWidth, BitVec.toNat_ofNat]
      omega
    rw [BitVec.toNat_sub, value, BitVec.toNat_ofNat]
    change (4294967296 - 1 + credential.count) % 4294967296 = _
    omega
  rw [isCheck, credential.frmIndex_frame field (by omega), len, last]
  constructor
  · intro equal
    have value := congrArg BitVec.toNat equal
    rw [BitVec.toNat_ofNat, BitVec.toNat_ofNat] at value
    omega
  · intro equal
    rw [← equal, Nat.add_sub_cancel]

theorem getLsbD_one_of_pos {bit : Nat} (positive : 0 < bit) :
    (1 : UINT32).getLsbD bit = false := by
  change (1#32).getLsbD bit = false
  rw [BitVec.getLsbD_one, decide_eq_false (by omega : ¬bit = 0), Bool.and_false]

theorem receiving_header (statics : Statics) :
    Receiving field credential (storeField field (credential.frame field 0).addr3 statics) := by
  obtain ⟨record, mask⟩ := storeField_of_header field statics
    (isHeader_header credential field)
  have least := credential.two_le_count
  refine ⟨?len, ?header, ?bytes, ?crc⟩
  case len =>
    rw [record]
    exact TEasyLink.fieldLen_startField _ _ _
  case header =>
    rw [mask]
    rfl
  case bytes =>
    intro position present
    rw [mask, getLsbD_one_of_pos (Nat.succ_pos _)] at present
    rcases present with marked | past
    · exact absurd marked Bool.false_ne_true
    · rw [record, credential.padded_of_count_le past]
      exact congrFun (TEasyLink.fieldBytes_startField _ _ _) position
  case crc =>
    rw [mask, getLsbD_one_of_pos (by omega)]
    intro marked
    exact absurd marked Bool.false_ne_true

theorem frame_mask (field : Field) (statics : Statics) (positive : 0 < index)
    (inside : index < credential.count) (bit : Nat) :
    ((storeField field (credential.frame field index).addr3 statics).uRecMask
        field.type).getLsbD bit =
      ((statics.uRecMask field.type).getLsbD bit || decide (index = bit)) := by
  have bound := credential.count_le
  rw [storeField_mask field statics (not_isHeader_frame field positive inside),
    credential.frmIndex_frame field (by omega), getLsbD_mark _ (by omega)]

theorem Receiving.storeCheck (receiving : Receiving field credential statics)
    (positive : 0 < index) (last : index + 1 = credential.count) :
    Receiving field credential
      (storeField field (credential.frame field index).addr3 statics) := by
  have inside : index < credential.count := by omega
  obtain ⟨record, crc⟩ := storeField_of_check field statics
    (not_isHeader_frame field positive inside)
    ((isCheck_frame_iff receiving.len inside).mpr last)
  have mask := frame_mask field statics positive inside
  refine ⟨?len, ?header, ?bytes, ?crc⟩
  case len =>
    rw [record]
    exact receiving.len
  case header =>
    rw [mask, receiving.header, Bool.true_or]
  case bytes =>
    intro position present
    rw [mask] at present
    rw [record]
    apply receiving.bytes position
    rcases present with marked | past
    · rcases Bool.or_eq_true_iff.mp marked with before | now
      · exact Or.inl before
      · have same : index = position.val / 2 + 1 := of_decide_eq_true now
        exact Or.inr (by omega)
    · exact Or.inr past
  case crc =>
    intro _
    have data : credential.data index = sumBytes (BitVec.ofNat 16 credential.checksum) := by
      rw [Credential.data, if_neg (by omega), if_pos last]
    rw [crc, ← sumBytes_ofNat credential.checksum_lt, ← data]
    rfl

theorem Receiving.storeData (receiving : Receiving field credential statics)
    (positive : 0 < index) (inside : index + 1 < credential.count) :
    Receiving field credential
      (storeField field (credential.frame field index).addr3 statics) := by
  have bound := credential.count_le
  have check := isCheck_frame_iff receiving.len (Nat.lt_of_succ_lt inside)
  have notCheck : ¬index + 1 = credential.count := by omega
  obtain ⟨record, crc⟩ := storeField_of_data field statics
    (not_isHeader_frame field positive (by omega))
    (fun equal => notCheck (check.mp equal))
  have mask := frame_mask field statics positive
    (Nat.lt_of_succ_lt inside)
  have value : (BitVec.ofNat 32 index).toNat = index := by
    rw [BitVec.toNat_ofNat]
    omega
  rw [credential.frmIndex_frame field (by omega)] at record
  refine ⟨?len, ?header, ?bytes, ?crc⟩
  case len =>
    rw [record, TEasyLink.storePair_fieldLen _ _ _ _ _ (by omega)]
    exact receiving.len
  case header =>
    rw [mask, receiving.header, Bool.true_or]
  case bytes =>
    intro position present
    rw [mask] at present
    have data : credential.data index =
        (credential.byte (2 * (index - 1)), credential.byte (2 * (index - 1) + 1)) := by
      rw [Credential.data, if_neg (by omega), if_neg notCheck]
    have high : (credential.frame field index).addr3 4 = credential.byte (2 * (index - 1)) :=
      congrArg Prod.fst data
    have low : (credential.frame field index).addr3 5 =
        credential.byte (2 * (index - 1) + 1) :=
      congrArg Prod.snd data
    rw [record, TEasyLink.storePair_fieldBytes _ _ _ _ (by omega), value, high, low]
    split_ifs with isLow isHigh
    · exact congrArg credential.byte (by omega)
    · exact congrArg credential.byte (by omega)
    · apply receiving.bytes position
      rcases present with marked | past
      · rcases Bool.or_eq_true_iff.mp marked with before | now
        · exact Or.inl before
        · have same : index = position.val / 2 + 1 := of_decide_eq_true now
          omega
      · exact Or.inr past
  case crc =>
    rw [mask, crc]
    intro marked
    rcases Bool.or_eq_true_iff.mp marked with before | now
    · exact receiving.crc before
    · have same : index = credential.count - 1 := of_decide_eq_true now
      omega

theorem Receiving.storeFrame (receiving : Receiving field credential statics)
    (positive : 0 < index) (inside : index < credential.count) :
    Receiving field credential
      (storeField field (credential.frame field index).addr3 statics) := by
  by_cases last : index + 1 = credential.count
  · exact receiving.storeCheck positive last
  · exact receiving.storeData positive (by omega)

theorem Receiving.congr (receiving : Receiving field credential statics) {after : Statics}
    (record : after.easyLink = statics.easyLink) (masks : after.uRecMask = statics.uRecMask)
    (crcs : after.uCrc = statics.uCrc) : Receiving field credential after := by
  obtain ⟨len, header, bytes, crc⟩ := receiving
  rw [← record, ← masks] at bytes
  rw [← record] at len
  rw [← masks] at header
  rw [← masks, ← crcs] at crc
  exact ⟨len, header, bytes, crc⟩

theorem Receiving.fieldBytes_eq (receiving : Receiving field credential statics)
    (all : HasAll credential (statics.uRecMask field.type)) :
    statics.easyLink.fieldBytes field = credential.padded := by
  funext position
  apply receiving.bytes position
  by_cases within : position.val / 2 + 1 < credential.count
  · exact Or.inl (all _ within)
  · exact Or.inr (by omega)

theorem Receiving.fieldSum_eq (receiving : Receiving field credential statics)
    (all : HasAll credential (statics.uRecMask field.type)) (outside : UINT32 → UCHAR) :
    fieldSum outside statics.easyLink field = BitVec.ofNat 32 credential.checksum := by
  have least := credential.two_le_count
  have bound := credential.count_le
  have bytes := receiving.fieldBytes_eq all
  have length : ((BitVec.ofNat 8 credential.count).setWidth 32) =
      BitVec.ofNat 32 credential.count := by
    apply BitVec.eq_of_toNat_eq
    rw [BitVec.toNat_setWidth, BitVec.toNat_ofNat, BitVec.toNat_ofNat]
    omega
  have iterations : checksumCount (BitVec.ofNat 8 credential.count) = credential.count - 2 := by
    rw [checksumCount, length, BitVec.toNat_sub, BitVec.toNat_ofNat]
    change (4294967296 - 2 + credential.count % 4294967296) % 4294967296 = _
    omega
  have start : BitVec.ofNat 32 credential.count + 0xAA =
      BitVec.ofNat 32 (credential.count + 0xAA + credential.total 0) :=
    (BitVec.ofNat_add credential.count 0xAA).symm
  have loop := checksumLoop_eq credential
    (fun offset => statics.easyLink.load outside (field.offset + offset))
    (credential.count - 2) 0 (credential.count + 0xAA) (by omega) (by
      intro position inside
      have loaded := statics.easyLink.load_field outside field ⟨position, by omega⟩
      rw [bytes] at loaded
      exact loaded)
  rw [Nat.zero_add] at loop
  rw [fieldSum, receiving.len, iterations, length, start]
  exact loop

theorem Receiving.verifyField_eq (receiving : Receiving field credential statics)
    (outside : UINT32 → UCHAR) :
    (HasAll credential (statics.uRecMask field.type) →
      (verifyField outside field statics).easyLink =
        statics.easyLink.accept field.type netLinkSsidPwd) ∧
    (¬HasAll credential (statics.uRecMask field.type) →
      verifyField outside field statics = statics) := by
  have least := credential.two_le_count
  dsimp only [verifyField]
  rw [receiving.len]
  constructor
  · intro all
    have crc := receiving.crc (all (credential.count - 1) (by omega))
    rw [if_pos ((credential.complete_iff _).mpr all), receiving.fieldSum_eq all outside,
      if_pos crc]
  · intro missing
    rw [if_neg (fun complete => missing ((credential.complete_iff _).mp complete))]

end Frames

end StudyDemo.EasyLink
