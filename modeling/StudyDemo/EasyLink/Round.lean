import StudyDemo.EasyLink.AddressReception
import StudyDemo.EasyLink.Notifications

/-! # One clean round

A complete list of frames, in order, completes its kind of data from any
statics that still want data: the header starts the reception over, and the
last frame is the first one that finds every frame marked. -/

namespace StudyDemo.EasyLink

/-! ## Calls that carry a sender's frame -/

theorem collect_of_carries {call : Call} {quad : Quad} (carries : Carries call quad)
    {statics : Statics} (running : statics.iRecOk ≠ 1) :
    collect call statics = receiveFrame call.adapter quad.addr3 statics := by
  rw [collect, if_neg running, if_pos carries.passes, carries.addr3]

theorem collect_frame {field : Field} {credential : Credential} {index : Nat} {call : Call}
    (carries : Carries call (credential.frame field index)) (small : index < 32)
    {statics : Statics} (running : statics.iRecOk ≠ 1)
    (fresh : statics.easyLink.received field.type = false) :
    collect call statics =
      some (verifyField call.adapter.outside field
        (storeField field (credential.frame field index).addr3 statics)) := by
  rw [collect_of_carries carries running, receiveFrame, credential.frmType_frame field small]
  cases field with
  | ssid =>
      change (if statics.easyLink.received Field.ssid.type then none else _) = _
      rw [fresh]
      rfl
  | pswd =>
      change (if statics.easyLink.received Field.pswd.type then none else _) = _
      rw [fresh]
      rfl

theorem collect_of_accepted {field : Field} {credential : Credential} {index : Nat}
    {call : Call} (carries : Carries call (credential.frame field index)) (small : index < 32)
    {statics collected : Statics} (running : statics.iRecOk ≠ 1)
    (done : statics.easyLink.received field.type) :
    collect call statics ≠ some collected := by
  rw [collect_of_carries carries running, receiveFrame, credential.frmType_frame field small]
  cases field with
  | ssid =>
      change (if statics.easyLink.received Field.ssid.type then none else _) ≠ _
      rw [done]
      exact Option.some_ne_none collected ∘ Eq.symm
  | pswd =>
      change (if statics.easyLink.received Field.pswd.type then none else _) ≠ _
      rw [done]
      exact Option.some_ne_none collected ∘ Eq.symm

theorem collect_reIpFrame {ip port : UINT32} {index : Fin 5} {call : Call}
    (carries : Carries call (reIpFrame ip port index)) {statics : Statics}
    (running : statics.iRecOk ≠ 1) (fresh : statics.easyLink.received typeReip = false) :
    collect call statics =
      some (verifyReIp (storeReIp (reIpFrame ip port index).addr3 statics)) := by
  rw [collect_of_carries carries running, receiveFrame, frmType_reIpFrame]
  change (if statics.easyLink.received typeReip then none else _) = _
  rw [fresh]
  rfl

theorem notify_store (statics : Statics) :
    (notify statics).1.easyLink = statics.easyLink ∧
      (notify statics).1.uRecMask = statics.uRecMask ∧
      (notify statics).1.uCrc = statics.uCrc ∧
      (notify statics).1.iInit = statics.iInit := by
  dsimp only [notify, finish, sendPending, clearPending, raiseSsidPwd]
  split_ifs <;> exact ⟨rfl, rfl, rfl, rfl⟩

theorem staMonPktSend_of_collect {call : Call} {statics collected : Statics}
    (result : collect call (initialise statics) = some collected) :
    staMonPktSend statics call = notify collected := by
  dsimp only [staMonPktSend]
  rw [result]

/-! ## Statics that still want data -/

/-- A send flag that was raised at some time. -/
def Announced (flag : Int) : Prop := flag = 1 ∨ flag = 2

/-- All three kinds were announced, or wait to be: the receiver is about to
stop, whatever frames follow. -/
structure Spent (statics : Statics) : Prop where
  channel : Announced statics.iRecChannel
  reIp : Announced statics.iRecIp
  ssidPwd : Announced statics.iRecSsidPwd ∨ statics.iRecSsidPwd = 0 ∧
    statics.easyLink.received typeSsid ∧ statics.easyLink.received typePswd

theorem Spent.of_sameStatus {before after : Statics} (same : SameStatus before after)
    (spent : Spent after) : Spent before := by
  obtain ⟨channel, reIp, ssidPwd⟩ := spent
  rw [same.iRecChannel] at channel
  rw [same.iRecIp] at reIp
  rw [same.iRecSsidPwd, TEasyLink.received_congr same.uRecOK,
    TEasyLink.received_congr same.uRecOK] at ssidPwd
  exact ⟨channel, reIp, ssidPwd⟩

theorem Spent.of_initialise {statics : Statics} (spent : Spent (initialise statics)) :
    Spent statics := by
  rw [initialise] at spent
  split_ifs at spent with first
  · refine ⟨spent.channel, spent.reIp, Or.inl ?_⟩
    rcases spent.ssidPwd with announced | cleared
    · exact announced
    · exact absurd cleared.2.1 (by rw [TEasyLink.received_zero]; exact Bool.false_ne_true)
  · exact spent

theorem Spent.of_raiseSsidPwd {statics : Statics} (spent : Spent (raiseSsidPwd statics)) :
    Spent statics := by
  rw [raiseSsidPwd] at spent
  split_ifs at spent with raises
  · exact ⟨spent.channel, spent.reIp, Or.inr ⟨raises.1, raises.2.2, raises.2.1⟩⟩
  · exact spent

theorem Spent.of_sendPending {statics : Statics} (spent : Spent (sendPending statics).1) :
    Spent statics := by
  rw [sendPending] at spent
  split_ifs at spent with waits
  · dsimp only [clearPending] at spent
    split_ifs at spent with ssidPwd reIp channel
    · exact ⟨spent.channel, spent.reIp, Or.inl (Or.inl ssidPwd)⟩
    · exact ⟨spent.channel, Or.inl reIp, spent.ssidPwd⟩
    · exact ⟨Or.inl channel, spent.reIp, spent.ssidPwd⟩
    · exact spent
  · exact spent

theorem notify_of_not_spent {statics : Statics} (running : statics.iRecOk ≠ 1)
    (wanted : ¬Spent statics) :
    (notify statics).1.iRecOk ≠ 1 ∧ ¬Spent (notify statics).1 := by
  have sent : ¬Spent (sendPending (raiseSsidPwd statics)).1 := fun spent =>
    wanted spent.of_sendPending.of_raiseSsidPwd
  have goesOn : (notify statics).1 = (sendPending (raiseSsidPwd statics)).1 := by
    refine if_neg fun all => sent ⟨Or.inr all.1, Or.inr all.2.2, Or.inl (Or.inr all.2.1)⟩
  rw [goesOn]
  refine ⟨?_, sent⟩
  dsimp only [sendPending, clearPending, raiseSsidPwd]
  split_ifs <;> exact running

/-! ## Rounds -/

/-- The acceptance bit is clear before the last of the calls and set after it. -/
structure CompletesAtEnd (type : Fin 4) (statics : Statics) (calls : List Call) : Prop where
  clear : ∀ before after, calls = before ++ after → after ≠ [] →
    (Execution.finalState staMonPktSend statics before).easyLink.received type = false
  set : (Execution.finalState staMonPktSend statics calls).easyLink.received type

theorem CompletesAtEnd.single {type : Fin 4} {statics : Statics} {call : Call}
    (fresh : statics.easyLink.received type = false)
    (done : (staMonPktSend statics call).1.easyLink.received type) :
    CompletesAtEnd type statics [call] := by
  refine ⟨?_, done⟩
  intro before after split more
  cases before with
  | nil => exact fresh
  | cons first before =>
      rw [List.cons_append, List.cons.injEq] at split
      exact absurd (List.append_eq_nil_iff.mp split.2.symm).2 more

theorem CompletesAtEnd.cons {type : Fin 4} {statics : Statics} {call : Call}
    {calls : List Call} (fresh : statics.easyLink.received type = false)
    (later : CompletesAtEnd type (staMonPktSend statics call).1 calls) :
    CompletesAtEnd type statics (call :: calls) := by
  refine ⟨?_, later.set⟩
  intro before after split more
  cases before with
  | nil => exact fresh
  | cons first before =>
      rw [List.cons_append, List.cons.injEq] at split
      rw [← split.1, Execution.finalState_cons]
      exact later.clear before after split.2 more

/-- A run whose invariant counts the frames received completes at its end. -/
theorem completesAtEnd_of_counted {type : Fin 4} {frame : Nat → Quad} {count : Nat}
    (InRound : Nat → Statics → Prop) (Done : Statics → Prop)
    (fresh : ∀ index statics, InRound index statics →
      statics.easyLink.received type = false)
    (next : ∀ index statics call, InRound index statics → index + 1 < count →
      Carries call (frame index) → InRound (index + 1) (staMonPktSend statics call).1)
    (last : ∀ index statics call, InRound index statics → index + 1 = count →
      Carries call (frame index) → Done (staMonPktSend statics call).1)
    (accepted : ∀ statics, Done statics → statics.easyLink.received type)
    (more : Nat) {index : Nat} {statics : Statics} {calls : List Call}
    (remaining : index + more + 1 = count)
    (carried : List.Forall₂ Carries calls ((List.range' index (more + 1)).map frame))
    (inRound : InRound index statics) :
    CompletesAtEnd type statics calls ∧
      Done (Execution.finalState staMonPktSend statics calls) := by
  induction more generalizing index statics calls with
  | zero =>
      cases carried with
      | cons carries rest =>
          cases rest
          have done := last index statics _ inRound remaining carries
          exact ⟨CompletesAtEnd.single (fresh _ _ inRound) (accepted _ done), done⟩
  | succ more induction =>
      cases carried with
      | cons carries rest =>
          have further := next index statics _ inRound (by omega) carries
          obtain ⟨completes, done⟩ := induction (by omega) rest further
          exact ⟨CompletesAtEnd.cons (fresh _ _ inRound) completes, done⟩

/-! ## A round of a text -/

/-- The first `index` frames of a round were received, and nothing is complete. -/
structure InRound (field : Field) (credential : Credential) (index : Nat)
    (statics : Statics) : Prop where
  fresh : statics.easyLink.received field.type = false
  running : statics.iRecOk ≠ 1
  wanted : ¬Spent statics
  started : 0 < index → statics.iInit ≠ 0
  receiving : 0 < index → Receiving field credential statics
  mask : 0 < index → ∀ bit < credential.count,
    (statics.uRecMask field.type).getLsbD bit = decide (bit < index)

theorem initialise_received {statics : Statics} {type : Fin 4}
    (fresh : statics.easyLink.received type = false) :
    (initialise statics).easyLink.received type = false := by
  rw [initialise]
  split_ifs
  · exact TEasyLink.received_zero type
  · exact fresh

theorem initialise_of_started {statics : Statics} (started : statics.iInit ≠ 0) :
    initialise statics = statics := if_neg started

section TextRound

variable {field : Field} {credential : Credential} {index : Nat} {statics : Statics}
  {call : Call}

theorem InRound.stored (inRound : InRound field credential index statics)
    (inside : index < credential.count) :
    Receiving field credential
        (storeField field (credential.frame field index).addr3 (initialise statics)) ∧
      ∀ bit < credential.count,
        ((storeField field (credential.frame field index).addr3
          (initialise statics)).uRecMask field.type).getLsbD bit = decide (bit < index + 1) := by
  by_cases first : index = 0
  · subst first
    refine ⟨receiving_header _, ?_⟩
    intro bit _
    rw [(storeField_of_header field _ (isHeader_header credential field)).2]
    by_cases zero : bit = 0
    · rw [zero]
      rfl
    · rw [getLsbD_one_of_pos (by omega), decide_eq_false (by omega)]
  · have positive : 0 < index := by omega
    rw [initialise_of_started (inRound.started positive)]
    refine ⟨(inRound.receiving positive).storeFrame positive inside, ?_⟩
    intro bit within
    rw [frame_mask field statics positive inside, inRound.mask positive bit within]
    rw [← Bool.decide_or]
    exact decide_eq_decide.mpr (by omega)

theorem InRound.call_eq (inRound : InRound field credential index statics)
    (inside : index < credential.count)
    (carries : Carries call (credential.frame field index)) :
    staMonPktSend statics call = notify (verifyField call.adapter.outside field
      (storeField field (credential.frame field index).addr3 (initialise statics))) := by
  have bound := credential.count_le
  apply staMonPktSend_of_collect
  apply collect_frame carries (by omega)
  · rw [initialise_iRecOk]
    exact inRound.running
  · exact initialise_received inRound.fresh

theorem InRound.next (inRound : InRound field credential index statics)
    (inside : index + 1 < credential.count)
    (carries : Carries call (credential.frame field index)) :
    InRound field credential (index + 1) (staMonPktSend statics call).1 := by
  obtain ⟨receiving, mask⟩ := inRound.stored (Nat.lt_of_succ_lt inside)
  have missing : ¬HasAll credential ((storeField field
      (credential.frame field index).addr3 (initialise statics)).uRecMask field.type) := by
    intro all
    have marked := all (credential.count - 1) (by omega)
    rw [mask _ (by omega)] at marked
    have wrong := of_decide_eq_true marked
    omega
  have same := storeField_sameStatus field (credential.frame field index).addr3
    (initialise statics)
  rw [inRound.call_eq (Nat.lt_of_succ_lt inside) carries,
    (receiving.verifyField_eq _).2 missing]
  obtain ⟨record, masks, crc, iInit⟩ := notify_store (storeField field
    (credential.frame field index).addr3 (initialise statics))
  obtain ⟨running, wanted⟩ := notify_of_not_spent
    (by rw [same.iRecOk, initialise_iRecOk]; exact inRound.running)
    (fun spent => inRound.wanted (spent.of_sameStatus same).of_initialise)
  refine ⟨?fresh, running, wanted, ?started, ?receiving, ?mask⟩
  case fresh =>
    rw [record, TEasyLink.received_congr same.uRecOK]
    exact initialise_received inRound.fresh
  case started =>
    intro _
    rw [iInit, same.iInit]
    exact initialise_iInit statics
  case receiving =>
    intro _
    exact receiving.congr record masks crc
  case mask =>
    intro _ bit within
    rw [masks]
    exact mask bit within

theorem InRound.last (inRound : InRound field credential index statics)
    (final : index + 1 = credential.count)
    (carries : Carries call (credential.frame field index)) :
    (staMonPktSend statics call).1.easyLink.received field.type ∧
      (staMonPktSend statics call).1.easyLink.fieldBytes field = credential.padded := by
  obtain ⟨receiving, mask⟩ := inRound.stored (by omega)
  have all : HasAll credential ((storeField field
      (credential.frame field index).addr3 (initialise statics)).uRecMask field.type) := by
    intro bit within
    rw [mask bit within]
    exact decide_eq_true (by omega)
  rw [inRound.call_eq (by omega) carries, notify_easyLink,
    (receiving.verifyField_eq _).1 all]
  constructor
  · rw [TEasyLink.received_accept, decide_eq_true rfl, Bool.true_or]
  · rw [TEasyLink.fieldBytes_accept, receiving.fieldBytes_eq all]

end TextRound

theorem textRound {field : Field} {credential : Credential} {statics : Statics}
    (running : statics.iRecOk ≠ 1) (wanted : ¬Spent statics)
    (fresh : statics.easyLink.received field.type = false) {calls : List Call}
    (carried : List.Forall₂ Carries calls (credential.frames field)) :
    CompletesAtEnd field.type statics calls ∧
      (Execution.finalState staMonPktSend statics calls).easyLink.fieldBytes field =
        credential.padded := by
  have least := credential.two_le_count
  have size : credential.count - 1 + 1 = credential.count := by omega
  rw [credential.frames_eq, List.range_eq_range', ← size] at carried
  have start : InRound field credential 0 statics :=
    ⟨fresh, running, wanted, fun positive => absurd positive (lt_irrefl 0),
      fun positive => absurd positive (lt_irrefl 0),
      fun positive => absurd positive (lt_irrefl 0)⟩
  obtain ⟨completes, -, bytes⟩ := completesAtEnd_of_counted (InRound field credential)
    (fun statics => statics.easyLink.received field.type ∧
      statics.easyLink.fieldBytes field = credential.padded)
    (fun _ _ inRound => inRound.fresh)
    (fun _ _ _ inRound inside carries => inRound.next inside carries)
    (fun _ _ _ inRound final carries => inRound.last final carries)
    (fun _ done => done.1) (credential.count - 1) (by omega) carried start
  exact ⟨completes, bytes⟩

/-! ## A round of the address -/

/-- The frame with an index, for the run lemma's count. -/
def reIpFrameAt (ip port : UINT32) (index : Nat) : Quad :=
  reIpFrame ip port (Fin.ofNat 5 index)

structure InAddressRound (ip port : UINT32) (index : Nat) (statics : Statics) : Prop where
  fresh : statics.easyLink.received typeReip = false
  running : statics.iRecOk ≠ 1
  wanted : ¬Spent statics
  started : 0 < index → statics.iInit ≠ 0
  receiving : 0 < index → AddressReceiving ip port statics
  mask : 0 < index → ∀ bit < 5,
    (statics.uRecMask typeReip).getLsbD bit = decide (bit < index)

section AddressRound

variable {ip port : UINT32} {index : Nat} {statics : Statics} {call : Call}

theorem InAddressRound.stored (inRound : InAddressRound ip port index statics)
    (inside : index < 5) :
    AddressReceiving ip port
        (storeReIp (reIpFrameAt ip port index).addr3 (initialise statics)) ∧
      ∀ bit < 5, ((storeReIp (reIpFrameAt ip port index).addr3
        (initialise statics)).uRecMask typeReip).getLsbD bit = decide (bit < index + 1) := by
  by_cases first : index = 0
  · subst first
    refine ⟨addressReceiving_header ip port _, ?_⟩
    intro bit _
    rw [reIpFrameAt, Fin.ofNat_zero, storeReIp_header_mask ip port (initialise statics)]
    by_cases zero : bit = 0
    · rw [zero]
      rfl
    · rw [getLsbD_one_of_pos (by omega), decide_eq_false (by omega)]
  · have positive : 0 < index := by omega
    have value : (Fin.ofNat 5 index).val = index := Nat.mod_eq_of_lt inside
    have positiveIndex : 0 < (Fin.ofNat 5 index).val := by omega
    rw [initialise_of_started (inRound.started positive)]
    refine ⟨(inRound.receiving positive).storeFrame positiveIndex, ?_⟩
    intro bit within
    rw [reIpFrameAt, storeReIp_mask ip port statics positiveIndex,
      inRound.mask positive bit within, value, ← Bool.decide_or]
    exact decide_eq_decide.mpr (by omega)

theorem InAddressRound.call_eq (inRound : InAddressRound ip port index statics)
    (carries : Carries call (reIpFrameAt ip port index)) :
    staMonPktSend statics call = notify (verifyReIp
      (storeReIp (reIpFrameAt ip port index).addr3 (initialise statics))) := by
  apply staMonPktSend_of_collect
  apply collect_reIpFrame carries
  · rw [initialise_iRecOk]
    exact inRound.running
  · exact initialise_received inRound.fresh

theorem InAddressRound.next (inRound : InAddressRound ip port index statics)
    (inside : index + 1 < 5) (carries : Carries call (reIpFrameAt ip port index)) :
    InAddressRound ip port (index + 1) (staMonPktSend statics call).1 := by
  obtain ⟨receiving, mask⟩ := inRound.stored (Nat.lt_of_succ_lt inside)
  have missing : ¬HasAllAddress ((storeReIp (reIpFrameAt ip port index).addr3
      (initialise statics)).uRecMask typeReip) := by
    intro all
    have marked := all 4 (by decide)
    rw [mask _ (by decide)] at marked
    have wrong := of_decide_eq_true marked
    omega
  have same := storeReIp_sameStatus (reIpFrameAt ip port index).addr3 (initialise statics)
  rw [inRound.call_eq carries, receiving.verifyReIp_eq.2 missing]
  obtain ⟨record, masks, crc, iInit⟩ := notify_store
    (storeReIp (reIpFrameAt ip port index).addr3 (initialise statics))
  obtain ⟨running, wanted⟩ := notify_of_not_spent
    (by rw [same.iRecOk, initialise_iRecOk]; exact inRound.running)
    (fun spent => inRound.wanted (spent.of_sameStatus same).of_initialise)
  refine ⟨?fresh, running, wanted, ?started, ?receiving, ?mask⟩
  case fresh =>
    rw [record, TEasyLink.received_congr same.uRecOK]
    exact initialise_received inRound.fresh
  case started =>
    intro _
    rw [iInit, same.iInit]
    exact initialise_iInit statics
  case receiving =>
    intro _
    exact receiving.congr record masks crc
  case mask =>
    intro _ bit within
    rw [masks]
    exact mask bit within

theorem InAddressRound.last (inRound : InAddressRound ip port index statics)
    (final : index + 1 = 5) (carries : Carries call (reIpFrameAt ip port index)) :
    (staMonPktSend statics call).1.easyLink.received typeReip ∧
      (staMonPktSend statics call).1.easyLink.uIP = ip ∧
      (staMonPktSend statics call).1.easyLink.uPort = port.setWidth 16 := by
  obtain ⟨receiving, mask⟩ := inRound.stored (by omega)
  have all : HasAllAddress ((storeReIp (reIpFrameAt ip port index).addr3
      (initialise statics)).uRecMask typeReip) := by
    intro bit within
    rw [mask bit within]
    exact decide_eq_true (by omega)
  rw [inRound.call_eq carries, notify_easyLink, receiving.verifyReIp_eq.1 all,
    TEasyLink.received_accept, decide_eq_true rfl, Bool.true_or]
  exact ⟨rfl, receiving.record_eq all⟩

end AddressRound

theorem addressRound {ip port : UINT32} {statics : Statics} (running : statics.iRecOk ≠ 1)
    (wanted : ¬Spent statics) (fresh : statics.easyLink.received typeReip = false)
    {calls : List Call} (carried : List.Forall₂ Carries calls (reIpFrames ip port)) :
    CompletesAtEnd typeReip statics calls ∧
      (Execution.finalState staMonPktSend statics calls).easyLink.uIP = ip ∧
      (Execution.finalState staMonPktSend statics calls).easyLink.uPort =
        port.setWidth 16 := by
  have counted : reIpFrames ip port =
      (List.range' 0 (4 + 1)).map (reIpFrameAt ip port) := reIpFrames_eq ip port
  rw [counted] at carried
  have start : InAddressRound ip port 0 statics :=
    ⟨fresh, running, wanted, fun positive => absurd positive (lt_irrefl 0),
      fun positive => absurd positive (lt_irrefl 0),
      fun positive => absurd positive (lt_irrefl 0)⟩
  obtain ⟨completes, -, record⟩ := completesAtEnd_of_counted (InAddressRound ip port)
    (fun statics => statics.easyLink.received typeReip ∧ statics.easyLink.uIP = ip ∧
      statics.easyLink.uPort = port.setWidth 16)
    (fun _ _ inRound => inRound.fresh)
    (fun _ _ _ inRound inside carries => inRound.next inside carries)
    (fun _ _ _ inRound final carries => inRound.last final carries)
    (fun _ done => done.1) 4 rfl carried start
  exact ⟨completes, record⟩

/-! ## The round from any statics -/

/-- One clean round of any kind of data suffices, whatever earlier frames left
behind, as long as the receiver is not about to stop. -/
theorem cleanRound_suffices (statics : Statics) (running : statics.iRecOk ≠ 1)
    (wanted : ¬Spent statics) :
    (∀ (field : Field) (credential : Credential) (calls : List Call),
      statics.easyLink.received field.type = false →
      List.Forall₂ Carries calls (credential.frames field) →
      CompletesAtEnd field.type statics calls ∧
        (Execution.finalState staMonPktSend statics calls).easyLink.fieldBytes field =
          credential.padded) ∧
    (∀ ip port calls, statics.easyLink.received typeReip = false →
      List.Forall₂ Carries calls (reIpFrames ip port) →
      CompletesAtEnd typeReip statics calls ∧
        (Execution.finalState staMonPktSend statics calls).easyLink.uIP = ip ∧
        (Execution.finalState staMonPktSend statics calls).easyLink.uPort =
          port.setWidth 16) :=
  ⟨fun _ _ _ fresh carried => textRound running wanted fresh carried,
    fun _ _ _ fresh carried => addressRound running wanted fresh carried⟩

theorem not_spent_initial : ¬Spent .initial := fun spent =>
  spent.channel.elim (by decide) (by decide)

/-- Statics that earlier rounds left behind: bits, sums and lengths of other texts, and
buffers that are half filled. The channel has been announced. -/
def leftoverStatics : Statics where
  iInit := 1
  iRecOk := 0
  iRecSsidPwd := 0
  iRecIp := 0
  iRecChannel := 2
  easyLink := {
    uSSIDlen := 9
    uPwdLen := 31
    uChannel := 6
    uLinkType := netLinkChannel
    uRecOK := 1
    uPort := 0x1F90
    uIP := 0xC0A80101
    uPwd := fun index => if index.val < 5 then 0x70 else 0
    uSSID := fun index => if index.val < 7 then 0x41 else 0xFF }
  uRecMask := fun _ => 0x2F
  uSum := fun _ => 0x1234
  uCrc := fun _ => 0x0BAD

def threeLetters : Credential := ⟨[0x61, 0x62, 0x63], by decide⟩

def fiveLetters : Credential := ⟨[0xAA, 0x00, 0x73, 0xFF, 0x21], by decide⟩

/-- From these statics a round of texts of odd lengths and a round of an address are taken. -/
theorem cleanRound_suffices_leftover :
    (CompletesAtEnd typeSsid leftoverStatics ((threeLetters.frames .ssid).map Quad.call) ∧
        (Execution.finalState staMonPktSend leftoverStatics
          ((threeLetters.frames .ssid).map Quad.call)).easyLink.uSSID = threeLetters.padded) ∧
      (CompletesAtEnd typePswd leftoverStatics ((fiveLetters.frames .pswd).map Quad.call) ∧
        (Execution.finalState staMonPktSend leftoverStatics
          ((fiveLetters.frames .pswd).map Quad.call)).easyLink.uPwd = fiveLetters.padded) ∧
      (CompletesAtEnd typeReip leftoverStatics
          ((reIpFrames 0x0A000001 0x12345).map Quad.call) ∧
        (Execution.finalState staMonPktSend leftoverStatics
          ((reIpFrames 0x0A000001 0x12345).map Quad.call)).easyLink.uIP = 0x0A000001 ∧
        (Execution.finalState staMonPktSend leftoverStatics
          ((reIpFrames 0x0A000001 0x12345).map Quad.call)).easyLink.uPort = 0x2345) := by
  have carried : ∀ quads : List Quad, List.Forall₂ Carries (quads.map Quad.call) quads :=
    fun quads => List.forall₂_map_left_iff.mpr
      (List.forall₂_same.mpr fun quad _ => quad.call_carries)
  have wanted : ¬Spent leftoverStatics := fun spent => spent.reIp.elim (by decide) (by decide)
  have round := cleanRound_suffices leftoverStatics (by decide) wanted
  have ssid := round.1 .ssid threeLetters _ (by decide) (carried _)
  have pswd := round.1 .pswd fiveLetters _ (by decide) (carried _)
  have address := round.2 0x0A000001 0x12345 _ (by decide) (carried _)
  exact ⟨ssid, pswd, address⟩

/-- Statics with all three kinds announced but nothing received. -/
def announcedStatics : Statics :=
  { Statics.initial with iInit := 1, iRecSsidPwd := 2, iRecIp := 2, iRecChannel := 2 }

/-- From these the first frame of a round stops the receiver. -/
theorem cleanRound_fails_announced :
    ¬∀ statics : Statics, statics.iRecOk ≠ 1 → ∀ credential : Credential, ∀ calls,
      statics.easyLink.received typeSsid = false →
      List.Forall₂ Carries calls (credential.frames .ssid) →
      CompletesAtEnd typeSsid statics calls := by
  intro all
  have completes := all announcedStatics (by decide) ⟨[], by decide⟩ _ (by decide)
    (List.forall₂_map_left_iff.mpr (List.forall₂_same.mpr fun quad _ => quad.call_carries))
  have set := completes.set
  revert set
  decide

end StudyDemo.EasyLink
