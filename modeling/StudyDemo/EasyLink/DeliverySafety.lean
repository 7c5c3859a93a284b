import StudyDemo.EasyLink.Delivery

/-! # When delivery is safe

The check frame of a password of 31 or 32 bytes has index 17. Before the
password's header it is stored over the first two bytes of the SSID, so that
delivery is safe exactly when the password is shorter, or the check bytes are
those two bytes. -/

namespace StudyDemo.EasyLink

/-! ## The condition on the texts -/

/-- The password fits sixteen data frames, or its checksum spells the first two
bytes of the padded SSID. -/
def SafeCredentials (ssid pswd : Credential) : Prop :=
  pswd.text.length ≤ 30 ∨
    18 + 0xAA + (pswd.text.map BitVec.toNat).sum =
      256 * (ssid.byte 0).toNat + (ssid.byte 1).toNat

instance (ssid pswd : Credential) : Decidable (SafeCredentials ssid pswd) :=
  inferInstanceAs (Decidable (_ ∨ _))

theorem Credential.sum_take (credential : Credential) (count : Nat) :
    ((credential.text.take (count + 1)).map BitVec.toNat).sum =
      ((credential.text.take count).map BitVec.toNat).sum + (credential.byte count).toNat := by
  rw [List.take_add_one, List.map_append, List.sum_append, Credential.byte, List.getD]
  cases credential.text[count]? with
  | none => rfl
  | some byte => simp

theorem Credential.total_eq_sum (credential : Credential) (pairs : Nat) :
    credential.total pairs =
      ((credential.text.take (2 * pairs)).map BitVec.toNat).sum := by
  induction pairs with
  | zero => rfl
  | succ pairs induction =>
      rw [Credential.total, induction, show 2 * (pairs + 1) = 2 * pairs + 1 + 1 by omega,
        credential.sum_take, credential.sum_take]

theorem Credential.checksum_eq (credential : Credential) :
    credential.checksum =
      credential.count + 0xAA + (credential.text.map BitVec.toNat).sum := by
  rw [Credential.checksum, credential.total_eq_sum, List.take_of_length_le]
  unfold Credential.count frameCount
  omega

theorem sumBytes_eq_iff {total : Nat} (bound : total < 65536) (high low : UCHAR) :
    sumBytes (BitVec.ofNat 16 total) = (high, low) ↔
      total = 256 * high.toNat + low.toNat := by
  have highBound := high.isLt
  have lowBound := low.isLt
  have joined := sumBytes_ofNat bound
  have first := (sumBytes (BitVec.ofNat 16 total)).1.isLt
  have second := (sumBytes (BitVec.ofNat 16 total)).2.isLt
  have value : total = 256 * (sumBytes (BitVec.ofNat 16 total)).1.toNat +
      (sumBytes (BitVec.ofNat 16 total)).2.toNat := by
    have number := congrArg BitVec.toNat joined
    simp only [BitVec.toNat_add, BitVec.toNat_shiftLeft, BitVec.toNat_setWidth,
      BitVec.toNat_ofNat, Nat.shiftLeft_eq] at number
    omega
  constructor
  · intro equal
    rw [equal] at value
    exact value
  · intro equal
    refine Prod.ext (BitVec.eq_of_toNat_eq ?_) (BitVec.eq_of_toNat_eq ?_)
    · change _ = high.toNat
      omega
    · change _ = low.toNat
      omega

theorem sameCheck_iff (ssid pswd : Credential) :
    SameCheck ssid pswd ↔ SafeCredentials ssid pswd := by
  have short := pswd.short
  have length : pswd.count = 18 ↔ ¬pswd.text.length ≤ 30 := by
    unfold Credential.count frameCount
    omega
  have sum := sumBytes_eq_iff pswd.checksum_lt (ssid.byte 0) (ssid.byte 1)
  rw [SameCheck, SafeCredentials, sum, pswd.checksum_eq]
  constructor
  · intro same
    by_cases shorter : pswd.text.length ≤ 30
    · exact Or.inl shorter
    · have equal := same (length.mpr shorter)
      rw [length.mpr shorter] at equal
      exact Or.inr equal
  · intro safe full
    rw [full]
    exact safe.resolve_left (length.mp full)

/-! ## A run that delivers a wrong SSID -/

section Calls

variable {field : Field} {own : Credential} (other : Credential) {statics : Statics}
  {call : Call} {index : Nat}

/-- A call with a frame of one text, as far as the other text and the channel
are concerned. -/
theorem Settled.textCall (settled : Settled statics) (inside : index < own.count)
    (carries : Carries call (own.frame field index))
    (safe : field = .pswd → SameCheck other own) :
    KeepsField field.other other statics (staMonPktSend statics call).1 ∧
      (staMonPktSend statics call).1.easyLink.received typeChannel =
        statics.easyLink.received typeChannel := by
  have bound := own.count_le
  have start : KeepsField field.other other statics (initialise statics) :=
    .of_same settled.initialised_easyLink (initialise_slots statics).1
      (initialise_slots statics).2
  dsimp only [staMonPktSend]
  cases result : collect call (initialise statics) with
  | none => exact ⟨start, by rw [settled.initialised_easyLink]⟩
  | some collected =>
      have running := (collect_progress result).1
      obtain ⟨record, masks, crcs, -⟩ := notify_store collected
      cases fresh : (initialise statics).easyLink.received field.type with
      | true => exact absurd result (collect_of_accepted carries (by omega) running fresh)
      | false =>
          rw [collect_frame carries (by omega) running fresh] at result
          have keeps := keepsField_other field own other inside call.adapter.outside
            (initialise statics) safe
          have same := storeField_sameStatus field (own.frame field index).addr3
            (initialise statics)
          have different : typeChannel ≠ field.type := by cases field <;> decide
          rw [Option.some.inj result] at keeps
          refine ⟨(start.trans keeps).trans (.of_same record masks crcs), ?_⟩
          rw [record, ← Option.some.inj result,
            (verifyField_slots _ field _).2.2.1 _ different,
            TEasyLink.received_congr same.uRecOK, settled.initialised_easyLink]

end Calls

/-- The password was not announced, and the receiver waits for the channel. -/
structure BeforePswd (statics : Statics) : Prop where
  settled : Settled statics
  pswd : Unannounced .pswd statics
  fresh : statics.easyLink.received typePswd = false
  channel : statics.easyLink.received typeChannel = false

theorem beforePswd_initial : BeforePswd .initial :=
  ⟨settled_initial, ⟨rfl, rfl⟩, rfl, rfl⟩

theorem Settled.running_of_channel {statics : Statics} (settled : Settled statics)
    (channel : statics.easyLink.received typeChannel = false) :
    statics.iRecOk ≠ 1 ∧ ¬Spent statics := by
  constructor
  · intro stopped
    have done : statics.easyLink.received typeChannel := settled.stopped.mp stopped .channel
    exact absurd (channel.symm.trans done) Bool.false_ne_true
  · intro spent
    have flag : statics.iRecChannel = 0 := by
      have equal := settled.flag .channel
      rw [LinkKind.complete, channel] at equal
      exact equal
    have announced := spent.channel
    rw [flag] at announced
    exact announced.elim (by decide) (by decide)

theorem BeforePswd.ssidCalls {statics : Statics} (before : BeforePswd statics)
    {ssid : Credential} {calls : List Call}
    (carried : ∀ call ∈ calls, ∃ index < ssid.count, Carries call (ssid.frame .ssid index)) :
    BeforePswd (Execution.finalState staMonPktSend statics calls) := by
  refine Execution.invariant_finalState _ BeforePswd ?_
    (Execution.eachCall_of_allowed _ _ carried) before
  rintro statics call ⟨index, inside, carries⟩ before
  obtain ⟨keeps, channel⟩ := before.settled.textCall ssid inside carries
    (fun wrong => absurd wrong (by decide))
  exact ⟨before.settled.afterCall call, before.pswd.keep keeps,
    keeps.received.trans before.fresh, channel.trans before.channel⟩

/-- The check frame of a longest password before its header. -/
theorem BeforePswd.checkCall {statics : Statics} (before : BeforePswd statics)
    {pswd : Credential} (full : pswd.count = 18) {call : Call}
    (carries : Carries call (pswd.frame .pswd 17)) :
    BeforePswd (staMonPktSend statics call).1 ∧
      (staMonPktSend statics call).1.easyLink =
        statics.easyLink.storePair .pswd 17
          (sumBytes (BitVec.ofNat 16 pswd.checksum)).1
          (sumBytes (BitVec.ofNat 16 pswd.checksum)).2 := by
  have running := (before.settled.running_of_channel before.channel).1
  have record := before.settled.initialised_easyLink
  have start : Unannounced .pswd (initialise statics) := by
    refine ⟨?_, ?_⟩
    · rw [record]
      exact before.pswd.len
    · rw [(initialise_slots statics).1]
      exact before.pswd.mask
  have inside : 17 < pswd.count := by omega
  obtain ⟨unchanged, stored, state⟩ :=
    start.receive pswd (by decide) inside call.adapter.outside
  have data : pswd.data 17 = sumBytes (BitVec.ofNat 16 pswd.checksum) := by
    rw [Credential.data, if_neg (by decide), if_pos (by omega)]
  have result : staMonPktSend statics call =
      notify (storeField .pswd (pswd.frame .pswd 17).addr3 (initialise statics)) := by
    rw [← unchanged]
    apply staMonPktSend_of_collect
    apply collect_frame carries (by decide)
    · rw [initialise_iRecOk]
      exact running
    · rw [record]
      exact before.fresh
  obtain ⟨same, masks, -, -⟩ := notify_store
    (storeField .pswd (pswd.frame .pswd 17).addr3 (initialise statics))
  have status := storeField_sameStatus .pswd (pswd.frame .pswd 17).addr3 (initialise statics)
  have bits : ∀ type, (staMonPktSend statics call).1.easyLink.received type =
      statics.easyLink.received type := by
    intro type
    rw [result, same, TEasyLink.received_congr status.uRecOK, record]
  refine ⟨⟨before.settled.afterCall call, ⟨?_, ?_⟩, ?_, ?_⟩, ?_⟩
  · rw [result, same]
    exact state.len
  · rw [result, masks]
    exact state.mask
  · rw [bits, before.fresh]
  · rw [bits, before.channel]
  · rw [result, same, stored, record, data]
    rfl

/-- A record's SSID bytes as a text of their own. -/
def TEasyLink.ssidText (record : TEasyLink) : Credential where
  text := List.ofFn record.uSSID
  short := by rw [List.length_ofFn]

theorem TEasyLink.padded_ssidText (record : TEasyLink) :
    record.ssidText.padded = record.uSSID := by
  funext position
  rw [Credential.padded, Credential.byte, ssidText, List.getD, List.getElem?_ofFn,
    dif_pos position.isLt, Option.getD_some]

theorem exists_carried {calls : List Call} {quads : List Quad}
    (carried : List.Forall₂ Carries calls quads) :
    ∀ call ∈ calls, ∃ quad ∈ quads, Carries call quad := by
  induction carried with
  | nil =>
      intro call member
      cases member
  | cons carries rest induction =>
      intro call member
      rcases List.mem_cons.mp member with first | later
      · rw [first]
        exact ⟨_, List.mem_cons_self, carries⟩
      · obtain ⟨quad, sent, carried⟩ := induction call later
        exact ⟨quad, List.mem_cons_of_mem _ sent, carried⟩

theorem forall_carries {calls : List Call} {field : Field} {credential : Credential}
    (carried : List.Forall₂ Carries calls (credential.frames field)) :
    ∀ call ∈ calls, ∃ index < credential.count, Carries call (credential.frame field index) := by
  intro call member
  obtain ⟨quad, sent, carries⟩ := exists_carried carried call member
  rw [credential.frames_eq, List.mem_map] at sent
  obtain ⟨index, inside, equal⟩ := sent
  exact ⟨index, List.mem_range.mp inside, equal ▸ carries⟩

/-- An accepted SSID in a receiver between calls. -/
structure HoldsSsid (ssid : Credential) (statics : Statics) : Prop where
  settled : Settled statics
  accepted : statics.easyLink.received typeSsid
  bytes : statics.easyLink.uSSID = ssid.padded

/-- The SSID stays through the frames of a password whose check bytes do not
change it. -/
theorem HoldsSsid.pswdCalls {ssid pswd : Credential} {statics : Statics}
    (holds : HoldsSsid ssid statics) (safe : SameCheck ssid pswd) {calls : List Call}
    (allowed : ∀ call ∈ calls, ∃ index < pswd.count, Carries call (pswd.frame .pswd index)) :
    HoldsSsid ssid (Execution.finalState staMonPktSend statics calls) := by
  refine Execution.invariant_finalState _ (HoldsSsid ssid) ?_
    (Execution.eachCall_of_allowed _ _ allowed) holds
  rintro statics call ⟨index, inside, carries⟩ holds
  obtain ⟨keeps, -⟩ := holds.settled.textCall ssid inside carries fun _ => safe
  refine ⟨holds.settled.afterCall call, keeps.received.trans holds.accepted, ?_⟩
  funext position
  rcases keeps.bytes position with same | padded
  · exact same.trans (congrFun holds.bytes position)
  · exact padded

/-- From statics that hold an accepted SSID and no password, a round of the
password broadcasts that SSID, if the check bytes do not change it. -/
theorem BeforePswd.round_broadcasts {statics : Statics} (before : BeforePswd statics)
    {ssid pswd : Credential} (holds : HoldsSsid ssid statics) (safe : SameCheck ssid pswd)
    {calls : List Call} (carried : List.Forall₂ Carries calls (pswd.frames .pswd)) :
    ∃ record ∈ Execution.observations staMonPktSend statics calls,
      record.uLinkType = netLinkSsidPwd ∧ record.uSSID = ssid.padded := by
  obtain ⟨running, wanted⟩ := before.settled.running_of_channel before.channel
  have fresh : statics.easyLink.received Field.pswd.type = false := before.fresh
  have allowed := forall_carries carried
  obtain ⟨⟨clear, set⟩, -⟩ := textRound running wanted fresh carried
  have final := holds.pswdCalls safe allowed
  rcases List.eq_nil_or_concat' calls with empty | ⟨first, last, split⟩
  · rw [empty] at set
    exact absurd (fresh.symm.trans set) Bool.false_ne_true
  · have missing := clear first [last] split (List.cons_ne_nil _ _)
    have earlier : HoldsSsid ssid (Execution.finalState staMonPktSend statics first) := by
      apply holds.pswdCalls safe
      intro call member
      exact allowed call (split ▸ List.mem_append_left _ member)
    rw [split, Execution.finalState_append] at set final
    have incomplete : LinkKind.ssidPwd.complete
        (Execution.finalState staMonPktSend statics first).easyLink = false :=
      Bool.and_eq_false_iff.mpr (Or.inr missing)
    have complete : LinkKind.ssidPwd.complete (staMonPktSend
        (Execution.finalState staMonPktSend statics first) last).1.easyLink :=
      Bool.and_eq_true_iff.mpr ⟨final.accepted, set⟩
    obtain ⟨sent, linkType⟩ := earlier.settled.broadcast_of_completed incomplete complete
    refine ⟨_, ?_, linkType, final.bytes⟩
    rw [split, Execution.observations_append]
    apply List.mem_append_right
    simp [sent]

/-! ## The equivalence -/

/-- The calls of the failing run: a round of the SSID, the password's check
frame, a round of the password. -/
def lateHeaderCalls (ssid pswd : Credential) : List Call :=
  (ssid.frames .ssid).map Quad.call ++ (pswd.frame .pswd 17).call ::
    (pswd.frames .pswd).map Quad.call

theorem carries_map_call (quads : List Quad) :
    List.Forall₂ Carries (quads.map Quad.call) quads :=
  List.forall₂_map_left_iff.mpr (List.forall₂_same.mpr fun quad _ => quad.call_carries)

theorem lateHeaderCalls_fromSender (ssid pswd : Credential) (ip port : UINT32)
    (full : pswd.count = 18) :
    FromSender ssid pswd ip port (lateHeaderCalls ssid pswd) := by
  have pswdSent : ∀ quad ∈ pswd.frames .pswd, quad ∈ senderFrames ssid pswd ip port :=
    fun quad member => List.mem_append_left _ (List.mem_append_right _ member)
  have ssidSent : ∀ quad ∈ ssid.frames .ssid, quad ∈ senderFrames ssid pswd ip port :=
    fun quad member => List.mem_append_right _ member
  have check : pswd.frame .pswd 17 ∈ pswd.frames .pswd := by
    rw [pswd.frames_eq, full]
    exact List.mem_map.mpr ⟨17, List.mem_range.mpr (by decide), rfl⟩
  intro call member
  rcases List.mem_append.mp member with name | password
  · obtain ⟨quad, sent, rfl⟩ := List.mem_map.mp name
    exact ⟨quad, ssidSent quad sent, quad.call_carries⟩
  · rcases List.mem_cons.mp password with isCheck | later
    · rw [isCheck]
      exact ⟨_, pswdSent _ check, Quad.call_carries _⟩
    · obtain ⟨quad, sent, rfl⟩ := List.mem_map.mp later
      exact ⟨quad, pswdSent quad sent, quad.call_carries⟩

/-- If the check bytes differ from the SSID's first two bytes, the failing run
broadcasts a wrong SSID. -/
theorem undelivered_of_not_sameCheck {ssid pswd : Credential} (ip port : UINT32)
    (differs : ¬SameCheck ssid pswd) :
    ∃ calls, FromSender ssid pswd ip port calls ∧
      ∃ record ∈ broadcasts calls, ¬Delivered ssid pswd ip port record := by
  rw [SameCheck, Classical.not_imp] at differs
  obtain ⟨full, different⟩ := differs
  have ssidCarried := carries_map_call (ssid.frames .ssid)
  -- The SSID is accepted first.
  have first : BeforePswd (reached ((ssid.frames .ssid).map Quad.call)) :=
    beforePswd_initial.ssidCalls (forall_carries ssidCarried)
  obtain ⟨⟨-, accepted⟩, bytes⟩ := textRound (by decide) not_spent_initial
    (show Statics.initial.easyLink.received Field.ssid.type = false from rfl) ssidCarried
  -- The check frame replaces its first two bytes.
  obtain ⟨second, record⟩ := first.checkCall full (pswd.frame .pswd 17).call_carries
  set statics := (staMonPktSend (reached ((ssid.frames .ssid).map Quad.call))
    (pswd.frame .pswd 17).call).1
  have low : (17 : UINT32).toNat < 32 := by decide
  have start : (pairOffset .pswd 17).toNat = 48 := pairOffset_pswd 17 low
  have byte0 : statics.easyLink.uSSID 0 = (sumBytes (BitVec.ofNat 16 pswd.checksum)).1 := by
    rw [record, storePair_uSSID _ _ _ _ low, start]
    rfl
  have byte1 : statics.easyLink.uSSID 1 = (sumBytes (BitVec.ofNat 16 pswd.checksum)).2 := by
    rw [record, storePair_uSSID _ _ _ _ low, start]
    rfl
  have holds : HoldsSsid statics.easyLink.ssidText statics := by
    refine ⟨second.settled, ?_, (TEasyLink.padded_ssidText _).symm⟩
    exact first.settled.received_stays _ typeSsid accepted
  have safe : SameCheck statics.easyLink.ssidText pswd := by
    intro _
    have padded := statics.easyLink.padded_ssidText
    refine Prod.ext ?_ ?_
    · exact byte0.symm.trans (congrFun padded 0).symm
    · exact byte1.symm.trans (congrFun padded 1).symm
  -- A round of the password sends the record as it is now.
  obtain ⟨sent, observed, linkType, wrong⟩ := second.round_broadcasts holds safe
    (carries_map_call (pswd.frames .pswd))
  refine ⟨lateHeaderCalls ssid pswd, lateHeaderCalls_fromSender ssid pswd ip port full,
    sent, ?_, ?_⟩
  · rw [lateHeaderCalls, broadcasts, Execution.observations_append]
    exact List.mem_append_right _ (List.mem_append_right _ observed)
  · intro delivered
    apply different
    have same : statics.easyLink.uSSID = ssid.padded := by
      rw [← statics.easyLink.padded_ssidText, ← wrong]
      exact (delivered.ssidPwd linkType).1
    refine Prod.ext ?_ ?_
    · exact byte0.symm.trans (congrFun same 0)
    · exact byte1.symm.trans (congrFun same 1)

/-- Whatever frames of one sender arrive, every broadcast record is the
sender's, exactly for the texts whose check bytes are harmless. -/
theorem delivery_safe_iff (ssid pswd : Credential) (ip port : UINT32) :
    (∀ calls, FromSender ssid pswd ip port calls →
      ∀ record ∈ broadcasts calls, Delivered ssid pswd ip port record) ↔
      SafeCredentials ssid pswd := by
  rw [← sameCheck_iff]
  constructor
  · intro all
    by_contra differs
    obtain ⟨calls, fromSender, record, sent, undelivered⟩ :=
      undelivered_of_not_sameCheck ip port differs
    exact undelivered (all calls fromSender record sent)
  · intro safe calls fromSender
    exact delivered_of_sameCheck safe fromSender

/-- An SSID and a password of 31 characters. -/
def shortName : Credential := ⟨[0x41], by decide⟩

def longPassword : Credential := ⟨List.replicate 31 0x61, by decide⟩

theorem delivery_not_safe :
    ¬∀ (ssid pswd : Credential) (ip port : UINT32), ssid.text ≠ [] → 0 ∉ ssid.text →
      0 ∉ pswd.text → ∀ calls, FromSender ssid pswd ip port calls →
      ∀ record ∈ broadcasts calls, Delivered ssid pswd ip port record := by
  intro all
  have differs : ¬SameCheck shortName longPassword := by
    rw [sameCheck_iff]
    decide
  obtain ⟨calls, fromSender, record, sent, undelivered⟩ :=
    undelivered_of_not_sameCheck 0 0 differs
  exact undelivered (all shortName longPassword 0 0 (by decide) (by decide) (by decide) calls
    fromSender record sent)

end StudyDemo.EasyLink
