import StudyDemo.EasyLink.Notifications
import StudyDemo.EasyLink.Sender

/-! # Accepted fields

A data frame stores at an index taken from the air, and the index is not
compared with the size of the array. This file says which stores reach the
bytes of another field, and that accepted fields stay as they are exactly as
long as those stores change nothing. -/

namespace StudyDemo.EasyLink

/-- What has been accepted is the same afterwards. -/
structure Frozen (before after : TEasyLink) : Prop where
  ssid : before.received typeSsid → after.uSSID = before.uSSID
  pswd : before.received typePswd → after.uPwd = before.uPwd
  reip : before.received typeReip → after.uIP = before.uIP ∧ after.uPort = before.uPort

theorem Frozen.of_same {before after : TEasyLink} (uSSID : after.uSSID = before.uSSID)
    (uPwd : after.uPwd = before.uPwd) (uIP : after.uIP = before.uIP)
    (uPort : after.uPort = before.uPort) : Frozen before after :=
  ⟨fun _ => uSSID, fun _ => uPwd, fun _ => ⟨uIP, uPort⟩⟩

/-- `uIFrmType` of a field's frames. -/
def Field.code : Field → UCHAR
  | .ssid => 1
  | .pswd => 2

/-- The call runs the storing branch of a field: a frame of the field's type,
not accepted yet, that is neither its header nor its checksum. -/
def StoresPair (field : Field) (call : Call) (statics : Statics) : Prop :=
  statics.iRecOk ≠ 1 ∧ isEasyLinkFrame call.adapter call.block ∧
    frmType call.block.addr3 = field.code ∧
    statics.easyLink.received field.type = false ∧
    ¬isHeader call.block.addr3 ∧ ¬isCheck statics.easyLink field call.block.addr3

/-- The index of a call's frame. -/
def Call.index (call : Call) : Fin 32 :=
  ⟨(frmIndex call.block.addr3).toNat, frmIndex_lt call.block.addr3⟩

/-- No store of the call changes a byte of an accepted field. Password frames
from index 17 on store into `uSSID`, password frames of index 0 into the upper
half of `uIP`, and SSID frames of index 0 into the end of `uPwd`. -/
structure KeepsAccepted (call : Call) (statics : Statics) : Prop where
  ssid : statics.easyLink.received typeSsid → StoresPair .pswd call statics →
    ∀ late : 17 ≤ call.index.val,
      statics.easyLink.uSSID ⟨2 * (call.index.val - 17), by omega⟩ = call.block.addr3 4 ∧
      statics.easyLink.uSSID ⟨2 * (call.index.val - 17) + 1, by omega⟩ = call.block.addr3 5
  pswd : statics.easyLink.received typePswd → StoresPair .ssid call statics →
    call.index.val = 0 →
      statics.easyLink.uPwd 30 = call.block.addr3 4 ∧
      statics.easyLink.uPwd 31 = call.block.addr3 5
  reip : statics.easyLink.received typeReip → StoresPair .pswd call statics →
    call.index.val = 0 →
      loadWord statics.easyLink.uIP 2 = call.block.addr3 4 ∧
      loadWord statics.easyLink.uIP 3 = call.block.addr3 5

/-! ## The storing branch -/

section StorePair

variable (record : TEasyLink) {uIndex : UINT32} (high low : UCHAR)

theorem pswdPair_uSSID_iff (small : uIndex.toNat < 32) :
    (record.storePair .pswd uIndex high low).uSSID = record.uSSID ↔
      ∀ late : 17 ≤ uIndex.toNat,
        record.uSSID ⟨2 * (uIndex.toNat - 17), by omega⟩ = high ∧
        record.uSSID ⟨2 * (uIndex.toNat - 17) + 1, by omega⟩ = low := by
  have start := pairOffset_pswd uIndex small
  constructor
  · intro same late
    have first := congrFun same ⟨2 * (uIndex.toNat - 17), by omega⟩
    have second := congrFun same ⟨2 * (uIndex.toNat - 17) + 1, by omega⟩
    rw [storePair_uSSID record .pswd high low small] at first second
    simp only [start] at first second
    rw [if_neg (by omega), if_pos (by omega)] at first
    rw [if_pos (by omega)] at second
    exact ⟨first.symm, second.symm⟩
  · intro same
    funext index
    rw [storePair_uSSID record .pswd high low small, start]
    split_ifs with isLow isHigh
    · rw [← (same (by omega)).2]
      exact congrArg record.uSSID (Fin.ext (by simp only; omega))
    · rw [← (same (by omega)).1]
      exact congrArg record.uSSID (Fin.ext (by simp only; omega))
    · rfl

theorem ssidPair_uPwd_iff (small : uIndex.toNat < 32) :
    (record.storePair .ssid uIndex high low).uPwd = record.uPwd ↔
      (uIndex.toNat = 0 → record.uPwd 30 = high ∧ record.uPwd 31 = low) := by
  have start := pairOffset_ssid uIndex small
  constructor
  · intro same zero
    have first := congrFun same 30
    have second := congrFun same 31
    rw [storePair_uPwd record .ssid high low small, start, zero] at first second
    exact ⟨first.symm, second.symm⟩
  · intro same
    funext index
    rw [storePair_uPwd record .ssid high low small, start]
    split_ifs with isLow isHigh
    · rw [← (same (by omega)).2]
      exact congrArg record.uPwd (Fin.ext (by change 31 = index.val; omega))
    · rw [← (same (by omega)).1]
      exact congrArg record.uPwd (Fin.ext (by change 30 = index.val; omega))
    · rfl

theorem pswdPair_uIP_iff (small : uIndex.toNat < 32) :
    (record.storePair .pswd uIndex high low).uIP = record.uIP ↔
      (uIndex.toNat = 0 →
        loadWord record.uIP 2 = high ∧ loadWord record.uIP 3 = low) := by
  have start := pairOffset_pswd uIndex small
  constructor
  · intro same zero
    have first := storePair_uIP record .pswd high low small (by decide : 2 < 4)
    have second := storePair_uIP record .pswd high low small (by decide : 3 < 4)
    rw [same, start, zero] at first second
    exact ⟨first, second⟩
  · intro same
    apply word_ext
    intro index inside
    rw [storePair_uIP record .pswd high low small inside, start]
    split_ifs with isLow isHigh
    · obtain rfl : index = 3 := by omega
      exact (same (by omega)).2.symm
    · obtain rfl : index = 2 := by omega
      exact (same (by omega)).1.symm
    · rfl

theorem ssidPair_uIP (small : uIndex.toNat < 32) :
    (record.storePair .ssid uIndex high low).uIP = record.uIP := by
  have start := pairOffset_ssid uIndex small
  apply word_ext
  intro index inside
  rw [storePair_uIP record .ssid high low small inside, start, if_neg (by omega),
    if_neg (by omega)]

theorem storePair_uPort (field : Field) (small : uIndex.toNat < 32) :
    (record.storePair field uIndex high low).uPort = record.uPort :=
  (storePair_scalars record field high low small).2.2.2.2.2

end StorePair

/-- The storing branch keeps the accepted fields exactly under `KeepsAccepted`. -/
theorem frozen_storePair_iff {field : Field} {call : Call} {statics : Statics}
    (stores : StoresPair field call statics) :
    Frozen statics.easyLink
        (statics.easyLink.storePair field (frmIndex call.block.addr3)
          (call.block.addr3 4) (call.block.addr3 5)) ↔
      KeepsAccepted call statics := by
  have small := frmIndex_lt call.block.addr3
  obtain ⟨-, -, code, fresh, -, -⟩ := id stores
  cases field with
  | ssid =>
      have notPswd : ¬StoresPair .pswd call statics := fun other => by
        rw [other.2.2.1] at code
        exact absurd code (by decide)
      constructor
      · intro frozen
        refine ⟨fun _ other => absurd other notPswd, fun accepted _ => ?_,
          fun _ other => absurd other notPswd⟩
        exact (ssidPair_uPwd_iff statics.easyLink _ _ small).mp (frozen.pswd accepted)
      · intro keeps
        refine ⟨fun accepted => by simp [Field.type, accepted] at fresh, fun accepted => ?_,
          fun _ => ⟨ssidPair_uIP statics.easyLink _ _ small,
            storePair_uPort statics.easyLink _ _ _ small⟩⟩
        exact (ssidPair_uPwd_iff statics.easyLink _ _ small).mpr (keeps.pswd accepted stores)
  | pswd =>
      have notSsid : ¬StoresPair .ssid call statics := fun other => by
        rw [other.2.2.1] at code
        exact absurd code (by decide)
      constructor
      · intro frozen
        refine ⟨fun accepted _ => ?_, fun _ other => absurd other notSsid,
          fun accepted _ => ?_⟩
        · exact (pswdPair_uSSID_iff statics.easyLink _ _ small).mp (frozen.ssid accepted)
        · exact (pswdPair_uIP_iff statics.easyLink _ _ small).mp (frozen.reip accepted).1
      · intro keeps
        refine ⟨fun accepted => ?_, fun accepted => by simp [Field.type, accepted] at fresh,
          fun accepted => ⟨?_, storePair_uPort statics.easyLink _ _ _ small⟩⟩
        · exact (pswdPair_uSSID_iff statics.easyLink _ _ small).mpr
            (keeps.ssid accepted stores)
        · exact (pswdPair_uIP_iff statics.easyLink _ _ small).mpr
            (keeps.reip accepted stores)

/-! ## The other branches -/

/-- Two records hold the same received data. -/
structure SameData (left right : TEasyLink) : Prop where
  uSSID : left.uSSID = right.uSSID
  uPwd : left.uPwd = right.uPwd
  uIP : left.uIP = right.uIP
  uPort : left.uPort = right.uPort

theorem SameData.frozen_iff {before left right : TEasyLink} (same : SameData left right) :
    Frozen before left ↔ Frozen before right := by
  constructor
  · intro frozen
    exact ⟨same.uSSID ▸ frozen.ssid, same.uPwd ▸ frozen.pswd,
      same.uIP ▸ same.uPort ▸ frozen.reip⟩
  · intro frozen
    exact ⟨same.uSSID.symm ▸ frozen.ssid, same.uPwd.symm ▸ frozen.pswd,
      same.uIP.symm ▸ same.uPort.symm ▸ frozen.reip⟩

theorem verifyField_sameData (outside : UINT32 → UCHAR) (field : Field) (statics : Statics) :
    SameData (verifyField outside field statics).easyLink statics.easyLink := by
  dsimp only [verifyField]
  split_ifs <;> exact ⟨rfl, rfl, rfl, rfl⟩

theorem verifyReIp_sameData (statics : Statics) :
    SameData (verifyReIp statics).easyLink statics.easyLink := by
  dsimp only [verifyReIp]
  split_ifs <;> exact ⟨rfl, rfl, rfl, rfl⟩

theorem frozen_receiveChannel {adapter : Adapter} {addr3 : MacAddr} {before after : Statics}
    (result : receiveChannel adapter addr3 before = some after) :
    Frozen before.easyLink after.easyLink := by
  unfold receiveChannel at result
  split_ifs at result
  · cases result
    exact Frozen.of_same rfl rfl rfl rfl
  · cases result
    exact Frozen.of_same rfl rfl rfl rfl

theorem frozen_receiveReIp {addr3 : MacAddr} {before after : Statics}
    (result : receiveReIp addr3 before = some after) :
    Frozen before.easyLink after.easyLink := by
  unfold receiveReIp at result
  split_ifs at result with accepted
  cases result
  rw [(verifyReIp_sameData _).frozen_iff]
  dsimp only [storeReIp]
  split_ifs <;> exact ⟨fun _ => rfl, fun _ => rfl, fun done => absurd done accepted⟩

theorem frozen_storeField {field : Field} {addr3 : MacAddr} {statics : Statics}
    (fresh : statics.easyLink.received field.type = false)
    (noStore : isHeader addr3 ∨ isCheck statics.easyLink field addr3) :
    Frozen statics.easyLink (storeField field addr3 statics).easyLink := by
  dsimp only [storeField]
  split_ifs with header check
  · cases field with
    | ssid =>
        exact ⟨fun accepted => by simp [Field.type, accepted] at fresh, fun _ => rfl,
          fun _ => ⟨rfl, rfl⟩⟩
    | pswd =>
        exact ⟨fun _ => rfl, fun accepted => by simp [Field.type, accepted] at fresh,
          fun _ => ⟨rfl, rfl⟩⟩
  · exact Frozen.of_same rfl rfl rfl rfl
  · rcases noStore with isHeader | isCheck
    · exact absurd isHeader header
    · exact absurd isCheck check

theorem frozen_receiveField_iff {field : Field} {call : Call} {before after : Statics}
    (running : before.iRecOk ≠ 1) (passes : isEasyLinkFrame call.adapter call.block)
    (code : frmType call.block.addr3 = field.code)
    (result : receiveField field call.adapter.outside call.block.addr3 before = some after) :
    Frozen before.easyLink after.easyLink ↔ KeepsAccepted call before := by
  unfold receiveField at result
  split_ifs at result with accepted
  cases result
  rw [(verifyField_sameData _ _ _).frozen_iff]
  have fresh : before.easyLink.received field.type = false := by simpa using accepted
  by_cases noStore : isHeader call.block.addr3 ∨ isCheck before.easyLink field call.block.addr3
  · refine iff_of_true (frozen_storeField fresh noStore) ?_
    have none : ∀ other, ¬StoresPair other call before := by
      rintro other ⟨-, -, otherCode, -, notHeader, notCheck⟩
      obtain rfl : other = field := by
        rw [code] at otherCode
        cases other <;> cases field <;> first | rfl | exact absurd otherCode (by decide)
      exact noStore.elim notHeader notCheck
    exact ⟨fun _ other => absurd other (none _), fun _ other => absurd other (none _),
      fun _ other => absurd other (none _)⟩
  · push Not at noStore
    rw [(storeField_of_data _ _ noStore.1 noStore.2).1]
    exact frozen_storePair_iff ⟨running, passes, code, fresh, noStore.1, noStore.2⟩

/-! ## Calls and runs -/

theorem StoresPair.collect_ne_none {field : Field} {call : Call} {statics : Statics}
    (stores : StoresPair field call statics) : collect call statics ≠ none := by
  obtain ⟨running, passes, code, fresh, -, -⟩ := stores
  unfold collect receiveFrame
  rw [if_neg running, if_pos passes]
  cases field with
  | ssid =>
      change frmType call.block.addr3 = 1 at code
      simp [code, receiveField, fresh]
  | pswd =>
      change frmType call.block.addr3 = 2 at code
      simp [code, receiveField, fresh]

theorem keepsAccepted_of_code {call : Call} {statics : Statics}
    (other : ∀ field : Field, StoresPair field call statics → False) :
    KeepsAccepted call statics :=
  ⟨fun _ stores => (other _ stores).elim, fun _ stores => (other _ stores).elim,
    fun _ stores => (other _ stores).elim⟩

theorem frozen_collect_iff {call : Call} {before after : Statics}
    (result : collect call before = some after) :
    Frozen before.easyLink after.easyLink ↔ KeepsAccepted call before := by
  unfold collect at result
  split_ifs at result with stopped passes
  unfold receiveFrame at result
  have byCode : ∀ code : UCHAR, frmType call.block.addr3 = code →
      (∀ field : Field, code ≠ field.code) → KeepsAccepted call before := by
    intro code isCode noField
    exact keepsAccepted_of_code fun field stores =>
      noField field (isCode.symm.trans stores.2.2.1)
  split_ifs at result with channel reIp ssid pswd
  · exact iff_of_true (frozen_receiveChannel result)
      (byCode 0 channel fun field => by cases field <;> decide)
  · exact iff_of_true (frozen_receiveReIp result)
      (byCode 3 reIp fun field => by cases field <;> decide)
  · have code : frmType call.block.addr3 = Field.ssid.code := ssid
    exact frozen_receiveField_iff stopped passes code result
  · have code : frmType call.block.addr3 = Field.pswd.code := pswd
    exact frozen_receiveField_iff stopped passes code result
  · cases result
    refine iff_of_true (Frozen.of_same rfl rfl rfl rfl)
      (keepsAccepted_of_code fun field stores => ?_)
    cases field
    · exact ssid stores.2.2.1
    · exact pswd stores.2.2.1

theorem Settled.keepsAccepted_initialise_iff {statics : Statics} (settled : Settled statics)
    (call : Call) :
    KeepsAccepted call (initialise statics) ↔ KeepsAccepted call statics := by
  have record := settled.initialised_easyLink
  have stores : ∀ field, StoresPair field call (initialise statics) ↔
      StoresPair field call statics := by
    intro field
    unfold StoresPair
    rw [record, initialise_iRecOk]
  constructor
  · rintro ⟨ssid, pswd, reip⟩
    simp only [stores, record] at ssid pswd reip
    exact ⟨ssid, pswd, reip⟩
  · rintro ⟨ssid, pswd, reip⟩
    refine ⟨?_, ?_, ?_⟩ <;> simp only [stores, record]
    · exact ssid
    · exact pswd
    · exact reip

theorem staMonPktSend_easyLink (statics : Statics) (call : Call) :
    (staMonPktSend statics call).1.easyLink =
      ((collect call (initialise statics)).getD (initialise statics)).easyLink := by
  dsimp only [staMonPktSend]
  cases collect call (initialise statics) with
  | none => rfl
  | some collected => exact notify_easyLink collected

theorem Settled.frozen_call_iff {statics : Statics} (settled : Settled statics)
    (call : Call) :
    Frozen statics.easyLink (staMonPktSend statics call).1.easyLink ↔
      KeepsAccepted call statics := by
  rw [staMonPktSend_easyLink, ← settled.keepsAccepted_initialise_iff,
    ← settled.initialised_easyLink]
  cases result : collect call (initialise statics) with
  | some collected => exact frozen_collect_iff result
  | none =>
      refine iff_of_true (Frozen.of_same rfl rfl rfl rfl)
        (keepsAccepted_of_code fun field stores => ?_)
      exact stores.collect_ne_none result

theorem Settled.received_stays {statics : Statics} (settled : Settled statics) (call : Call)
    (type : Fin 4) (accepted : statics.easyLink.received type) :
    (staMonPktSend statics call).1.easyLink.received type := by
  rw [staMonPktSend_easyLink]
  rw [← settled.initialised_easyLink] at accepted
  cases result : collect call (initialise statics) with
  | none => exact accepted
  | some collected =>
      obtain ⟨-, completed, progress⟩ := collect_progress result
      exact progress.received_stays accepted

/-- What is accepted after `before` stays as it is for the rest of the run. -/
def AcceptedStays (calls : List Call) : Prop :=
  ∀ before later after, calls = before ++ later ++ after →
    Frozen (reached before).easyLink (reached (before ++ later)).easyLink

theorem Settled.frozen_finalState {statics : Statics} (settled : Settled statics)
    (later : List Call)
    (keeps : ∀ before call after, later = before ++ call :: after →
      KeepsAccepted call (Execution.finalState staMonPktSend statics before)) :
    Frozen statics.easyLink (Execution.finalState staMonPktSend statics later).easyLink := by
  induction later generalizing statics with
  | nil => exact Frozen.of_same rfl rfl rfl rfl
  | cons call later induction =>
      have first : Frozen statics.easyLink (staMonPktSend statics call).1.easyLink :=
        (settled.frozen_call_iff call).mpr (keeps [] call later rfl)
      have rest := induction (settled.afterCall call) fun before next after split =>
        keeps (call :: before) next after (by rw [split, List.cons_append])
      have stays := settled.received_stays call
      rw [Execution.finalState_cons]
      refine ⟨fun accepted => ?_, fun accepted => ?_, fun accepted => ?_⟩
      · exact (rest.ssid (stays _ accepted)).trans (first.ssid accepted)
      · exact (rest.pswd (stays _ accepted)).trans (first.pswd accepted)
      · have uIP := (rest.reip (stays _ accepted)).1.trans (first.reip accepted).1
        have uPort := (rest.reip (stays _ accepted)).2.trans (first.reip accepted).2
        exact ⟨uIP, uPort⟩

/-- Accepted fields stay as they are in a run exactly when no store of the run
changes a byte of an accepted field. -/
theorem acceptedFields_frozen_iff (calls : List Call) :
    AcceptedStays calls ↔
      ∀ before call after, calls = before ++ call :: after →
        KeepsAccepted call (reached before) := by
  constructor
  · intro stays before call after split
    have frozen := stays before [call] after (by simp [split])
    rw [reached, reached, Execution.finalState_append] at frozen
    exact ((settled_reached before).frozen_call_iff call).mp frozen
  · intro keeps before later after split
    rw [reached, reached, Execution.finalState_append]
    refine (settled_reached before).frozen_finalState later ?_
    intro earlier call rest splitLater
    have kept := keeps (before ++ earlier) call (rest ++ after) (by simp [split, splitLater])
    rwa [reached, Execution.finalState_append] at kept

/-- The frames of an empty SSID, and then a password frame of index 17. -/
def overwritingCalls : List Call :=
  [makeSendFrm Field.ssid.sendType 0 0xAA 2, makeSendFrm Field.ssid.sendType 1 0 0xAC,
    makeSendFrm Field.pswd.sendType 17 0x41 0x42].map Quad.call

theorem acceptedFields_not_frozen : ¬AcceptedStays overwritingCalls := by
  intro stays
  have frozen := stays (overwritingCalls.take 2) (overwritingCalls.drop 2) []
    (by rw [List.take_append_drop, List.append_nil])
  have same := congrFun (frozen.ssid (by decide)) 0
  revert same
  decide

end StudyDemo.EasyLink
