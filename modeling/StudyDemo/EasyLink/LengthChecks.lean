import StudyDemo.EasyLink.Delivery

/-! # Lengths taken from the air

The completeness test shifts by a length that a header announced, and the checksum
loop runs up to it. Neither compares the length with anything. This file says which
frames of a run keep both well defined: the bitmap stops a length that is too long
for the loop only as long as a frame is missing. -/

namespace StudyDemo.EasyLink

/-- The call tests whether a field is complete. -/
def TestsField (field : Field) (call : Call) (statics : Statics) : Prop :=
  statics.iRecOk ≠ 1 ∧ isEasyLinkFrame call.adapter call.block ∧
    frmType call.block.addr3 = field.code ∧ statics.easyLink.received field.type = false

instance (field : Field) (call : Call) (statics : Statics) :
    Decidable (TestsField field call statics) :=
  inferInstanceAs (Decidable (_ ∧ _))

def Complete (field : Field) (statics : Statics) : Prop :=
  statics.uRecMask field.type &&& completeMask (statics.easyLink.fieldLen field) =
    completeMask (statics.easyLink.fieldLen field)

/-- The shift is by 0 to 31 bits, and the loop reads 32 bytes at most. -/
structure TestDefined (field : Field) (stored : Statics) : Prop where
  shift : 0 ≤ 32 - ((stored.easyLink.fieldLen field).toNat : Int) ∧
    32 - ((stored.easyLink.fieldLen field).toNat : Int) ≤ 31
  loop : Complete field stored →
    checksumCount (stored.easyLink.fieldLen field) ≤ 16 ∧
      ∀ uIndex < checksumCount (stored.easyLink.fieldLen field), 2 * uIndex + 1 < 32

def VerifiesSafely (statics : Statics) (call : Call) : Prop :=
  ∀ field, TestsField field call (initialise statics) →
    TestDefined field (storeField field call.block.addr3 (initialise statics))

/-- The frames of a field that the receiver still collects, in order. -/
def testedFrames (field : Field) (statics : Statics) : List Call → List MacAddr
  | [] => []
  | call :: calls =>
      (if TestsField field call (initialise statics) then [call.block.addr3] else []) ++
        testedFrames field (staMonPktSend statics call).1 calls

/-- The first frame is a header, every header announces 2 to 32, and after one that
announces more than 18 some index never comes before the next header. -/
structure FramesFit (frames : List MacAddr) : Prop where
  headed : ∀ frame ∈ frames.head?, isHeader frame
  announced : ∀ frame ∈ frames, isHeader frame →
    2 ≤ (frame 5).toNat ∧ (frame 5).toNat ≤ 32
  missing : ∀ before header data after, frames = before ++ header :: (data ++ after) →
    isHeader header → (∀ frame ∈ data, ¬isHeader frame) → 18 < (header 5).toNat →
      ∃ index, 0 < index ∧ index < (header 5).toNat ∧
        ∀ frame ∈ data, (frmIndex frame).toNat ≠ index

/-! ## One frame -/

def announcedLen (field : Field) (addr3 : MacAddr) (statics : Statics) : UCHAR :=
  if isHeader addr3 then addr3 (Fin.last 5) else statics.easyLink.fieldLen field

def collectedMask (field : Field) (addr3 : MacAddr) (statics : Statics) : UINT32 :=
  if isHeader addr3 then 1
  else statics.uRecMask field.type ||| 1#32 <<< (frmIndex addr3).toNat

/-- The length in force is 1 to 32, and unless it is 2 to 18 an index is missing. -/
def LengthFits (field : Field) (addr3 : MacAddr) (statics : Statics) : Prop :=
  let len := (announcedLen field addr3 statics).toNat
  (1 ≤ len ∧ len ≤ 32) ∧
    (2 ≤ len ∧ len ≤ 18 ∨
      ∃ index < len, (collectedMask field addr3 statics).getLsbD index = false)

section Store

variable (field : Field) (addr3 : MacAddr) (statics : Statics)

theorem storeField_fieldLen :
    (storeField field addr3 statics).easyLink.fieldLen field =
      announcedLen field addr3 statics := by
  by_cases header : isHeader addr3
  · rw [(storeField_of_header field statics header).1, announcedLen, if_pos header]
    exact TEasyLink.fieldLen_startField _ _ _
  · rw [announcedLen, if_neg header]
    by_cases check : isCheck statics.easyLink field addr3
    · rw [(storeField_of_check field statics header check).1]
    · rw [(storeField_of_data field statics header check).1]
      exact TEasyLink.storePair_fieldLen _ _ _ _ _ (frmIndex_lt addr3)

theorem storeField_collected :
    (storeField field addr3 statics).uRecMask field.type = collectedMask field addr3 statics := by
  by_cases header : isHeader addr3
  · rw [(storeField_of_header field statics header).2, collectedMask, if_pos header]
  · rw [storeField_mask field statics header, collectedMask, if_neg header]

end Store

theorem complete_iff_bits {len : UCHAR} (positive : 1 ≤ len.toNat) (bound : len.toNat ≤ 32)
    (mask : UINT32) :
    mask &&& completeMask len = completeMask len ↔
      ∀ index < len.toNat, mask.getLsbD index = true := by
  have isLen : BitVec.ofNat 8 len.toNat = len := by simp
  have bits := getLsbD_completeMask positive bound
  rw [isLen] at bits
  constructor
  · intro equal index inside
    have bitEqual := congrArg (fun word : UINT32 => word.getLsbD index) equal
    simpa [bits, inside] using bitEqual
  · intro all
    apply BitVec.eq_of_getLsbD_eq
    intro bit _
    rw [BitVec.getLsbD_and, bits]
    by_cases inside : bit < len.toNat
    · simp [inside, all bit inside]
    · simp [inside]

theorem checksumCount_le_iff (len : UCHAR) :
    checksumCount len ≤ 16 ↔ 2 ≤ len.toNat ∧ len.toNat ≤ 18 := by
  revert len
  decide

theorem testDefined_iff (field : Field) (addr3 : MacAddr) (statics : Statics) :
    TestDefined field (storeField field addr3 statics) ↔ LengthFits field addr3 statics := by
  have len := storeField_fieldLen field addr3 statics
  have mask := storeField_collected field addr3 statics
  dsimp only [LengthFits]
  rw [← len, ← mask]
  generalize stored : storeField field addr3 statics = after
  constructor
  · intro defined
    have shift := defined.shift
    have positive : 1 ≤ (after.easyLink.fieldLen field).toNat := by omega
    have bound : (after.easyLink.fieldLen field).toNat ≤ 32 := by omega
    refine ⟨⟨positive, bound⟩, ?_⟩
    by_cases complete : Complete field after
    · exact Or.inl ((checksumCount_le_iff _).mp (defined.loop complete).1)
    · right
      rw [Complete, complete_iff_bits positive bound] at complete
      push Not at complete
      simpa using complete
  · rintro ⟨⟨positive, bound⟩, fits⟩
    refine ⟨by omega, fun complete => ?_⟩
    have few : checksumCount (after.easyLink.fieldLen field) ≤ 16 := by
      rw [checksumCount_le_iff]
      rcases fits with inRange | missing
      · exact inRange
      · obtain ⟨index, inside, absent⟩ := missing
        have present := (complete_iff_bits positive bound _).mp complete index inside
        rw [absent] at present
        exact absurd present Bool.false_ne_true
    exact ⟨few, fun uIndex inside => by omega⟩

/-! ## The frames seen before -/

/-- A field's length and bits are those of the frames so far. -/
structure Stands (field : Field) (frames : List MacAddr) (statics : Statics) : Prop where
  unannounced : frames = [] → statics.easyLink.fieldLen field = 0
  announced : ∀ before header data, frames = before ++ header :: data → isHeader header →
    (∀ frame ∈ data, ¬isHeader frame) →
      statics.easyLink.fieldLen field = header 5 ∧
        ∀ bit, (statics.uRecMask field.type).getLsbD bit = true ↔
          bit = 0 ∨ ∃ frame ∈ data, (frmIndex frame).toNat = bit

section Frames

variable {field : Field} {frames : List MacAddr} {addr3 : MacAddr} {before after statics : Statics}

theorem FramesFit.nil : FramesFit [] where
  headed := by simp
  announced := by simp
  missing := by simp

theorem FramesFit.of_append {more : List MacAddr} (fit : FramesFit (frames ++ more)) :
    FramesFit frames := by
  refine ⟨?headed, ?announced, ?missing⟩
  case headed =>
    intro frame first
    apply fit.headed frame
    simp only [Option.mem_def] at first ⊢
    simp [List.head?_append, first]
  case announced =>
    intro frame member
    exact fit.announced frame (List.mem_append_left more member)
  case missing =>
    intro before header data after split
    apply fit.missing before header data (after ++ more)
    simp [split]

theorem exists_lastHeader (some : ∃ frame ∈ frames, isHeader frame) :
    ∃ before header data, frames = before ++ header :: data ∧ isHeader header ∧
      ∀ frame ∈ data, ¬isHeader frame := by
  induction frames with
  | nil => simp at some
  | cons first frames induction =>
      by_cases later : ∃ frame ∈ frames, isHeader frame
      · obtain ⟨before, header, data, split, isLast⟩ := induction later
        exact ⟨first :: before, header, data, by simp [split], isLast⟩
      · push Not at later
        obtain ⟨frame, member, header⟩ := some
        rcases List.mem_cons.mp member with rfl | after
        · exact ⟨[], frame, frames, rfl, header, later⟩
        · exact absurd header (later frame after)

theorem FramesFit.lastHeader (fit : FramesFit frames) (nonempty : frames ≠ []) :
    ∃ before header data, frames = before ++ header :: data ∧ isHeader header ∧
      ∀ frame ∈ data, ¬isHeader frame := by
  apply exists_lastHeader
  cases frames with
  | nil => exact absurd rfl nonempty
  | cons first frames => exact ⟨first, List.mem_cons_self, fit.headed first rfl⟩

theorem collectedMask_of_header (header : isHeader addr3) (bit : Nat) :
    (collectedMask field addr3 statics).getLsbD bit = true ↔ bit = 0 := by
  rw [collectedMask, if_pos header]
  simp

theorem collectedMask_of_data (header : ¬isHeader addr3) (bit : Nat) :
    (collectedMask field addr3 statics).getLsbD bit = true ↔
      (statics.uRecMask field.type).getLsbD bit = true ∨ (frmIndex addr3).toNat = bit := by
  have mark := getLsbD_mark (statics.uRecMask field.type) (frmIndex_lt addr3) bit
  rw [BitVec.ofNat_toNat, BitVec.setWidth_eq] at mark
  rw [collectedMask, if_neg header, mark]
  simp

theorem Stands.next (stands : Stands field frames before)
    (len : after.easyLink.fieldLen field = announcedLen field addr3 before)
    (mask : after.uRecMask field.type = collectedMask field addr3 before) :
    Stands field (frames ++ [addr3]) after := by
  refine ⟨fun none => by simp at none, ?_⟩
  intro front header data split isFirst others
  rw [len, mask]
  rcases List.eq_nil_or_concat data with rfl | ⟨data, last, rfl⟩
  · obtain ⟨-, equal⟩ := List.append_inj' split rfl
    obtain rfl : addr3 = header := List.head_eq_of_cons_eq equal
    refine ⟨if_pos isFirst, fun bit => ?_⟩
    rw [collectedMask_of_header isFirst]
    simp
  · rw [List.concat_eq_append, ← List.cons_append, ← List.append_assoc] at split
    rw [List.concat_eq_append] at others ⊢
    obtain ⟨shorter, equal⟩ := List.append_inj' split rfl
    obtain rfl : addr3 = last := List.head_eq_of_cons_eq equal
    have notHeader : ¬isHeader addr3 := others addr3 (by simp)
    obtain ⟨stored, bits⟩ := stands.announced front header data shorter isFirst
      fun frame member => others frame (List.mem_append_left _ member)
    refine ⟨(if_neg notHeader).trans stored, fun bit => ?_⟩
    rw [collectedMask_of_data notHeader, bits]
    simp [or_and_right, exists_or, or_assoc]

theorem announcedLen_header (header : isHeader addr3) :
    announcedLen field addr3 statics = addr3 5 := if_pos header

theorem lengthFits_header_iff (header : isHeader addr3) :
    LengthFits field addr3 statics ↔ 2 ≤ (addr3 5).toNat ∧ (addr3 5).toNat ≤ 32 := by
  have bit := @collectedMask_of_header field addr3 statics header
  rw [LengthFits, announcedLen_header header]
  constructor
  · rintro ⟨⟨positive, bound⟩, ⟨two, -⟩ | ⟨index, inside, absent⟩⟩
    · exact ⟨two, bound⟩
    · have later : index ≠ 0 := fun zero => by simp [(bit index).mpr zero] at absent
      exact ⟨by omega, bound⟩
  · rintro ⟨two, bound⟩
    refine ⟨⟨by omega, bound⟩, Or.inr ⟨1, by omega, ?_⟩⟩
    rw [← Bool.not_eq_true, bit]
    exact one_ne_zero

/-- After a header a data frame fits exactly when the length announced is 2 to 18, or
some index is still to come. -/
theorem Stands.fits_data_iff (stands : Stands field frames statics)
    {front : List MacAddr} {header : MacAddr} {data : List MacAddr}
    (split : frames = front ++ header :: data) (isFirst : isHeader header)
    (others : ∀ frame ∈ data, ¬isHeader frame) (isData : ¬isHeader addr3)
    (announced : 2 ≤ (header 5).toNat ∧ (header 5).toNat ≤ 32) :
    LengthFits field addr3 statics ↔ (18 < (header 5).toNat →
      ∃ index, 0 < index ∧ index < (header 5).toNat ∧
        ∀ frame ∈ data ++ [addr3], (frmIndex frame).toNat ≠ index) := by
  obtain ⟨len, bits⟩ := stands.announced front header data split isFirst others
  have missing : ∀ index, (collectedMask field addr3 statics).getLsbD index = false ↔
      0 < index ∧ ∀ frame ∈ data ++ [addr3], (frmIndex frame).toNat ≠ index := by
    intro index
    rw [← Bool.not_eq_true, collectedMask_of_data isData, bits, List.forall_mem_append]
    push Not
    simp [Nat.pos_iff_ne_zero, and_assoc]
  rw [LengthFits, announcedLen, if_neg isData, len]
  simp only [missing]
  constructor
  · rintro ⟨-, ⟨-, few⟩ | ⟨index, inside, positive, absent⟩⟩ many
    · omega
    · exact ⟨index, positive, inside, absent⟩
  · intro hole
    refine ⟨⟨by omega, announced.2⟩, ?_⟩
    by_cases many : 18 < (header 5).toNat
    · obtain ⟨index, positive, inside, absent⟩ := hole many
      exact Or.inr ⟨index, inside, positive, absent⟩
    · exact Or.inl ⟨announced.1, by omega⟩

theorem Stands.fits_iff (stands : Stands field frames statics) (fit : FramesFit frames) :
    LengthFits field addr3 statics ↔ FramesFit (frames ++ [addr3]) := by
  constructor
  · intro fits
    refine ⟨?headed, ?announced, ?missing⟩
    case headed =>
      intro frame first
      cases frames with
      | cons earlier frames => exact fit.headed frame first
      | nil =>
          obtain rfl : addr3 = frame := Option.some.inj first
          by_contra data
          have len := fits.1.1
          rw [announcedLen, if_neg data, stands.unannounced rfl] at len
          exact absurd len (by decide)
    case announced =>
      intro frame member header
      rcases List.mem_append.mp member with earlier | last
      · exact fit.announced frame earlier header
      · obtain rfl := List.mem_singleton.mp last
        exact (lengthFits_header_iff header).mp fits
    case missing =>
      intro front header data rest split isFirst others many
      rcases List.eq_nil_or_concat rest with rfl | ⟨rest, last, rfl⟩
      · rw [List.append_nil] at split
        rcases List.eq_nil_or_concat data with rfl | ⟨data, last, rfl⟩
        · exact ⟨1, Nat.one_pos, by omega, by simp⟩
        · rw [List.concat_eq_append, ← List.cons_append, ← List.append_assoc] at split
          rw [List.concat_eq_append] at others ⊢
          obtain ⟨shorter, equal⟩ := List.append_inj' split rfl
          obtain rfl : addr3 = last := List.head_eq_of_cons_eq equal
          have announced := fit.announced header (by simp [shorter]) isFirst
          have isData : ¬isHeader addr3 := others addr3 (by simp)
          exact (stands.fits_data_iff shorter isFirst
            (fun frame member => others frame (List.mem_append_left _ member)) isData
            announced).mp fits many
      · apply fit.missing front header data rest _ isFirst others many
        rw [List.concat_eq_append, ← List.append_assoc, ← List.cons_append,
          ← List.append_assoc] at split
        exact (List.append_inj' split rfl).1
  · intro more
    by_cases header : isHeader addr3
    · exact (lengthFits_header_iff header).mpr (more.announced addr3 (by simp) header)
    · have nonempty : frames ≠ [] := by
        rintro rfl
        exact header (more.headed addr3 rfl)
      obtain ⟨front, first, data, split, isFirst, others⟩ := fit.lastHeader nonempty
      have announced := fit.announced first (by simp [split]) isFirst
      rw [stands.fits_data_iff split isFirst others header announced]
      apply more.missing front first (data ++ [addr3]) [] (by simp [split]) isFirst
      simpa [or_imp, forall_and, header] using others

end Frames

/-! ## Calls -/

section Calls

variable {field : Field} {call : Call} {before after statics : Statics}
  {frames : List MacAddr}

theorem Stands.keep (stands : Stands field frames before)
    (len : after.easyLink.fieldLen field = before.easyLink.fieldLen field)
    (mask : after.uRecMask field.type = before.uRecMask field.type) :
    Stands field frames after := by
  refine ⟨?_, ?_⟩
  · rw [len]
    exact stands.unannounced
  · rw [len, mask]
    exact stands.announced

theorem TestsField.collect_eq (tests : TestsField field call statics) :
    collect call statics = some (verifyField call.adapter.outside field
      (storeField field call.block.addr3 statics)) := by
  obtain ⟨running, passes, code, fresh⟩ := tests
  unfold collect receiveFrame
  rw [if_neg running, if_pos passes]
  cases field with
  | ssid =>
      change frmType call.block.addr3 = 1 at code
      simp [code, receiveField, fresh]
  | pswd =>
      change frmType call.block.addr3 = 2 at code
      simp [code, receiveField, fresh]

theorem storeField_other (addr3 : MacAddr) (statics : Statics) {other : Field}
    (different : other ≠ field) :
    (storeField field addr3 statics).easyLink.fieldLen other = statics.easyLink.fieldLen other ∧
      (storeField field addr3 statics).uRecMask other.type = statics.uRecMask other.type := by
  obtain rfl : other = field.other := by cases field <;> cases other <;> simp_all [Field.other]
  refine ⟨?_, (storeField_of_ne field addr3 statics field.type_ne_other.symm).1⟩
  by_cases header : isHeader addr3
  · rw [(storeField_of_header field statics header).1]
    exact (startField_other statics.easyLink _ field).1
  · by_cases check : isCheck statics.easyLink field addr3
    · rw [(storeField_of_check field statics header check).1]
    · rw [(storeField_of_data field statics header check).1]
      exact TEasyLink.storePair_fieldLen _ _ _ _ _ (frmIndex_lt addr3)

theorem collect_untested (result : collect call before = some after)
    (untested : ¬TestsField field call before) :
    after.easyLink.fieldLen field = before.easyLink.fieldLen field ∧
      after.uRecMask field.type = before.uRecMask field.type := by
  unfold collect at result
  split_ifs at result with stopped passes
  unfold receiveFrame at result
  have text : ∀ own : Field, frmType call.block.addr3 = own.code →
      receiveField own call.adapter.outside call.block.addr3 before = some after →
      after.easyLink.fieldLen field = before.easyLink.fieldLen field ∧
        after.uRecMask field.type = before.uRecMask field.type := by
    intro own code received
    unfold receiveField at received
    split_ifs at received with done
    cases received
    obtain ⟨masks, -, -, len⟩ := verifyField_slots call.adapter.outside own
      (storeField own call.block.addr3 before)
    rw [len, masks]
    apply storeField_other
    rintro rfl
    exact untested ⟨stopped, passes, code, by simpa using done⟩
  split_ifs at result with channel reIp ssid pswd
  · unfold receiveChannel at result
    split_ifs at result
    · cases result
      cases field <;> exact ⟨rfl, rfl⟩
    · cases result
      exact ⟨rfl, rfl⟩
  · unfold receiveReIp at result
    split_ifs at result
    cases result
    have different : field.type ≠ typeReip := by cases field <;> decide
    obtain ⟨mask, -, fields⟩ := storeReIp_slots call.block.addr3 before different
    rw [(verifyReIp_sameFields _ field).1, (verifyReIp_slots _).1]
    exact ⟨(fields field).1, mask⟩
  · exact text .ssid ssid result
  · exact text .pswd pswd result
  · cases result
    exact ⟨rfl, rfl⟩

end Calls

/-! ## Runs -/

theorem verifiesSafely_iff {statics : Statics} (call : Call) {frames : Field → List MacAddr}
    (fit : ∀ field, FramesFit (frames field))
    (stands : ∀ field, Stands field (frames field) (initialise statics)) :
    VerifiesSafely statics call ↔ ∀ field, FramesFit (frames field ++
      if TestsField field call (initialise statics) then [call.block.addr3] else []) := by
  refine forall_congr' fun field => ?_
  by_cases tests : TestsField field call (initialise statics)
  · rw [if_pos tests, testDefined_iff, (stands field).fits_iff (fit field)]
    exact forall_prop_of_true tests
  · rw [if_neg tests, List.append_nil]
    exact iff_of_true (fun tested => absurd tested tests) (fit field)

theorem Settled.stands_afterCall {statics : Statics} (settled : Settled statics) (call : Call)
    {field : Field} {frames : List MacAddr}
    (stands : Stands field frames (initialise statics)) :
    Stands field (frames ++
        if TestsField field call (initialise statics) then [call.block.addr3] else [])
      (initialise (staMonPktSend statics call).1) := by
  suffices after : Stands field (frames ++
      if TestsField field call (initialise statics) then [call.block.addr3] else [])
      (staMonPktSend statics call).1 from
    after.keep (by rw [(settled.afterCall call).initialised_easyLink])
      (by rw [(initialise_slots _).1])
  dsimp only [staMonPktSend]
  by_cases tests : TestsField field call (initialise statics)
  · rw [if_pos tests, tests.collect_eq]
    obtain ⟨record, masks, -, -⟩ := notify_store (verifyField call.adapter.outside field
      (storeField field call.block.addr3 (initialise statics)))
    obtain ⟨verifiedMasks, -, -, len⟩ := verifyField_slots call.adapter.outside field
      (storeField field call.block.addr3 (initialise statics))
    apply stands.next
    · rw [record, len, storeField_fieldLen]
    · rw [masks, verifiedMasks, storeField_collected]
  · rw [if_neg tests, List.append_nil]
    cases result : collect call (initialise statics) with
    | none => exact stands
    | some collected =>
        obtain ⟨record, masks, -, -⟩ := notify_store collected
        obtain ⟨len, mask⟩ := collect_untested result tests
        exact stands.keep (by rw [record, len]) (by rw [masks, mask])

theorem Settled.lengthTests_iff {statics : Statics} (settled : Settled statics)
    (calls : List Call) {frames : Field → List MacAddr}
    (fit : ∀ field, FramesFit (frames field))
    (stands : ∀ field, Stands field (frames field) (initialise statics)) :
    Execution.EachCall staMonPktSend VerifiesSafely statics calls ↔
      ∀ field, FramesFit (frames field ++ testedFrames field statics calls) := by
  induction calls generalizing statics frames with
  | nil => simpa [testedFrames] using iff_of_true (Execution.eachCall_nil _ _ _) fit
  | cons call calls induction =>
      rw [Execution.eachCall_cons, verifiesSafely_iff call fit stands]
      simp only [testedFrames, ← List.append_assoc]
      constructor
      · rintro ⟨here, later⟩
        exact (induction (settled.afterCall call) here
          fun field => settled.stands_afterCall call (stands field)).mp later
      · intro all
        have here := fun field => (all field).of_append
        exact ⟨here, (induction (settled.afterCall call) here
          fun field => settled.stands_afterCall call (stands field)).mpr all⟩

theorem stands_initial (field : Field) : Stands field [] (initialise .initial) where
  unannounced _ := by cases field <;> rfl
  announced := by simp

/-- Every test of a run is well defined exactly when the frames collected for either field
start with a header, announce 2 to 32, and complete no announced length over 18. -/
theorem lengthTests_defined_iff (calls : List Call) :
    Execution.EachCall staMonPktSend VerifiesSafely .initial calls ↔
      ∀ field, FramesFit (testedFrames field .initial calls) :=
  settled_initial.lengthTests_iff calls (fun _ => .nil) stands_initial

/-- A data frame before any header: the shift is by 32. -/
theorem lengthTests_not_defined :
    ¬Execution.EachCall staMonPktSend VerifiesSafely .initial
      ([makeSendFrm Field.ssid.sendType 1 0x41 0x42].map Quad.call) := by
  intro safe
  have defined := safe [] _ [] rfl .ssid (by decide)
  exact absurd defined.shift.2 (by decide)

end StudyDemo.EasyLink
