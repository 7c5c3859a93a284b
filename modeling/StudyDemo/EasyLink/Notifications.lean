import StudyDemo.EasyLink.Progress

/-! # Link notifications

Between calls every send flag is a function of the acceptance bits: 2 when its
kind of data is complete, 0 when it is not. A flag is 1 only inside the call
that completes its kind, and that call broadcasts it. -/

namespace StudyDemo.EasyLink

/-- The three kinds of record the driver broadcasts. -/
inductive LinkKind
  | channel
  | ssidPwd
  | reIp
  deriving DecidableEq

namespace LinkKind

def code : LinkKind → UCHAR
  | .channel => netLinkChannel
  | .ssidPwd => netLinkSsidPwd
  | .reIp => netLinkReIpPort

def flag : LinkKind → Statics → Int
  | .channel, statics => statics.iRecChannel
  | .ssidPwd, statics => statics.iRecSsidPwd
  | .reIp, statics => statics.iRecIp

@[simp] theorem flag_channel (statics : Statics) :
    channel.flag statics = statics.iRecChannel := rfl

@[simp] theorem flag_ssidPwd (statics : Statics) :
    ssidPwd.flag statics = statics.iRecSsidPwd := rfl

@[simp] theorem flag_reIp (statics : Statics) : reIp.flag statics = statics.iRecIp := rfl

/-- The acceptance bits of a kind are set. -/
def complete : LinkKind → TEasyLink → Bool
  | .channel, record => record.received typeChannel
  | .ssidPwd, record => record.received typeSsid && record.received typePswd
  | .reIp, record => record.received typeReip

theorem code_injective : Function.Injective code := by
  intro left right equal
  cases left <;> cases right <;> first | rfl | exact absurd equal (by decide)

theorem complete_congr {left right : TEasyLink} (same : left.uRecOK = right.uRecOK)
    (kind : LinkKind) : kind.complete left = kind.complete right := by
  cases kind <;> simp only [complete, TEasyLink.received_congr same]

end LinkKind

/-- Everything was received. -/
def AllComplete (record : TEasyLink) : Prop := ∀ kind : LinkKind, kind.complete record

/-- What holds of the statics between calls. -/
structure Settled (statics : Statics) : Prop where
  flag : ∀ kind : LinkKind,
    kind.flag statics = if kind.complete statics.easyLink then 2 else 0
  stopped : statics.iRecOk = 1 ↔ AllComplete statics.easyLink
  fresh : statics.iInit = 0 → statics.easyLink = .zero

/-- What holds just before the send step: at most one kind, the one that was
completed by this call, waits to be sent. -/
structure Raised (statics : Statics) (pending : Option LinkKind) : Prop where
  flag : ∀ kind : LinkKind, kind.flag statics =
    if pending = some kind then 1 else if kind.complete statics.easyLink then 2 else 0
  complete : ∀ kind, pending = some kind → kind.complete statics.easyLink
  linkType : ∀ kind, pending = some kind → statics.easyLink.uLinkType = kind.code
  running : statics.iRecOk ≠ 1
  started : statics.iInit ≠ 0

theorem settled_initial : Settled .initial where
  flag kind := by cases kind <;> rfl
  stopped := by
    constructor
    · intro stopped
      exact absurd stopped (by decide)
    · intro all
      exact absurd (all .channel) (by simp [LinkKind.complete, Statics.initial])
  fresh _ := rfl

theorem Settled.initialised {statics : Statics} (settled : Settled statics) :
    Settled (initialise statics) := by
  unfold initialise
  split_ifs with first
  · have zero := settled.fresh first
    refine ⟨?_, ?_, fun _ => rfl⟩
    · intro kind
      rw [← zero]
      cases kind
      · exact settled.flag .channel
      · exact settled.flag .ssidPwd
      · exact settled.flag .reIp
    · rw [← zero]
      exact settled.stopped
  · exact settled

theorem initialise_iInit (statics : Statics) : (initialise statics).iInit ≠ 0 := by
  unfold initialise
  split_ifs with first
  · exact one_ne_zero
  · exact first

theorem initialise_iRecOk (statics : Statics) :
    (initialise statics).iRecOk = statics.iRecOk := by
  rw [initialise]
  split_ifs <;> rfl

theorem Settled.initialised_easyLink {statics : Statics} (settled : Settled statics) :
    (initialise statics).easyLink = statics.easyLink := by
  unfold initialise
  split_ifs with first
  · exact (settled.fresh first).symm
  · rfl

/-! ## Raising -/

@[simp] theorem raiseSsidPwd_easyLink (statics : Statics) :
    (raiseSsidPwd statics).easyLink = statics.easyLink := by
  unfold raiseSsidPwd
  split_ifs <;> rfl

theorem raiseSsidPwd_eq (statics : Statics) :
    raiseSsidPwd statics =
      if statics.iRecSsidPwd = 0 ∧ LinkKind.ssidPwd.complete statics.easyLink then
        { statics with iRecSsidPwd := 1 }
      else statics := by
  unfold raiseSsidPwd
  simp only [LinkKind.complete, Bool.and_eq_true, and_comm]

section Marks

variable {before after : TEasyLink}

theorem complete_of_markChannel
    (mark : after.uRecOK = before.uRecOK ||| (1#32 <<< typeChannel.val)) (kind : LinkKind) :
    kind.complete after = (decide (kind = .channel) || kind.complete before) := by
  cases kind <;>
    simp [LinkKind.complete, TEasyLink.received_of_mark mark, typeChannel, typeSsid,
      typePswd, typeReip]

theorem complete_of_markReIp
    (mark : after.uRecOK = before.uRecOK ||| (1#32 <<< typeReip.val)) (kind : LinkKind) :
    kind.complete after = (decide (kind = .reIp) || kind.complete before) := by
  cases kind <;>
    simp [LinkKind.complete, TEasyLink.received_of_mark mark, typeChannel, typeSsid,
      typePswd, typeReip]

/-- The half of the credentials that is not `field`. -/
def Field.other : Field → Field
  | .ssid => .pswd
  | .pswd => .ssid

theorem complete_of_markField (field : Field)
    (mark : after.uRecOK = before.uRecOK ||| (1#32 <<< field.type.val)) (kind : LinkKind) :
    kind.complete after =
      if kind = .ssidPwd then before.received field.other.type
      else kind.complete before := by
  cases kind <;> cases field <;>
    simp [LinkKind.complete, TEasyLink.received_of_mark mark, Field.type, Field.other,
      typeChannel, typeSsid, typePswd, typeReip]

end Marks

theorem raiseSsidPwd_of_not_complete {statics : Statics}
    (stays : statics.iRecSsidPwd = 0 → LinkKind.ssidPwd.complete statics.easyLink = false) :
    raiseSsidPwd statics = statics := by
  rw [raiseSsidPwd_eq, if_neg]
  rintro ⟨zero, complete⟩
  simp [stays zero] at complete

theorem Settled.raised {before after : Statics} {completed : Completed}
    (settled : Settled before) (running : before.iRecOk ≠ 1) (started : before.iInit ≠ 0)
    (progress : Progress before after completed) :
    ∃ pending, Raised (raiseSsidPwd after) pending ∧
      (∀ kind : LinkKind, kind.complete before.easyLink →
        kind.complete (raiseSsidPwd after).easyLink ∧ pending ≠ some kind) ∧
      ∀ kind : LinkKind, kind.complete (raiseSsidPwd after).easyLink →
        kind.complete before.easyLink ∨ pending = some kind := by
  have afterRunning : after.iRecOk ≠ 1 := progress.iRecOk ▸ running
  have afterStarted : after.iInit ≠ 0 := progress.iInit ▸ started
  have ssidPwdFlag : after.iRecSsidPwd =
      if LinkKind.ssidPwd.complete before.easyLink then 2 else 0 :=
    progress.iRecSsidPwd.trans (settled.flag .ssidPwd)
  have zeroIncomplete : after.iRecSsidPwd = 0 →
      LinkKind.ssidPwd.complete before.easyLink = false := by
    intro zero
    cases complete : LinkKind.ssidPwd.complete before.easyLink with
    | false => rfl
    | true => simp [zero, complete] at ssidPwdFlag
  have effect := progress.effect
  cases completed with
  | nothing =>
      have same := LinkKind.complete_congr effect.uRecOK
      rw [raiseSsidPwd_of_not_complete fun zero => (same .ssidPwd).trans (zeroIncomplete zero)]
      refine ⟨none, ⟨?_, by simp, by simp, afterRunning, afterStarted⟩,
        fun kind done => ⟨(same kind).trans done, by simp⟩,
        fun kind done => Or.inl ((same kind).symm.trans done)⟩
      intro kind
      rw [same kind]
      cases kind with
      | channel => exact effect.iRecChannel.trans (settled.flag .channel)
      | ssidPwd => exact ssidPwdFlag
      | reIp => exact effect.iRecIp.trans (settled.flag .reIp)
  | channel =>
      obtain ⟨fresh, uRecOK, uLinkType, iRecIp, iRecChannel⟩ := effect
      have marks := complete_of_markChannel uRecOK
      rw [raiseSsidPwd_of_not_complete fun zero => by simp [marks, zeroIncomplete zero]]
      have missing : LinkKind.channel.complete before.easyLink = false := fresh
      refine ⟨some .channel, ⟨?_, ?_, ?_, afterRunning, afterStarted⟩,
        fun kind done => ⟨by simp [marks, done], ?_⟩,
        fun kind done => by cases kind <;> simp_all⟩
      · intro kind
        cases kind with
        | channel => exact iRecChannel
        | ssidPwd => simpa [marks] using ssidPwdFlag
        | reIp => simpa [marks] using iRecIp.trans (settled.flag .reIp)
      · rintro kind ⟨⟩
        simp [marks]
      · rintro kind ⟨⟩
        exact uLinkType
      · rintro ⟨⟩
        simp [missing] at done
  | reIp =>
      obtain ⟨fresh, uRecOK, uLinkType, iRecIp, iRecChannel⟩ := effect
      have marks := complete_of_markReIp uRecOK
      rw [raiseSsidPwd_of_not_complete fun zero => by simp [marks, zeroIncomplete zero]]
      have missing : LinkKind.reIp.complete before.easyLink = false := fresh
      refine ⟨some .reIp, ⟨?_, ?_, ?_, afterRunning, afterStarted⟩,
        fun kind done => ⟨by simp [marks, done], ?_⟩,
        fun kind done => by cases kind <;> simp_all⟩
      · intro kind
        cases kind with
        | channel => simpa [marks] using iRecChannel.trans (settled.flag .channel)
        | ssidPwd => simpa [marks] using ssidPwdFlag
        | reIp => exact iRecIp
      · rintro kind ⟨⟩
        simp [marks]
      · rintro kind ⟨⟩
        exact uLinkType
      · rintro ⟨⟩
        simp [missing] at done
  | field field =>
      obtain ⟨fresh, uRecOK, uLinkType, iRecIp, iRecChannel⟩ := effect
      have marks := complete_of_markField field uRecOK
      -- The field was missing, so the pair was incomplete and its flag is still 0.
      have incomplete : LinkKind.ssidPwd.complete before.easyLink = false := by
        cases field <;> simp_all [LinkKind.complete, Field.type]
      have zero : after.iRecSsidPwd = 0 := by simpa [incomplete] using ssidPwdFlag
      cases other : before.easyLink.received field.other.type with
      | false =>
          rw [raiseSsidPwd_of_not_complete fun _ => by simp [marks, other]]
          refine ⟨none, ⟨?_, by simp, by simp, afterRunning, afterStarted⟩,
            fun kind done => ⟨?_, by simp⟩, fun kind done => ?_⟩
          rotate_left
          · cases kind <;> simp_all
          · cases kind <;> simp_all
          intro kind
          cases kind with
          | channel => simpa [marks] using iRecChannel.trans (settled.flag .channel)
          | ssidPwd => simpa [marks, other] using zero
          | reIp => simpa [marks] using iRecIp.trans (settled.flag .reIp)
      | true =>
          rw [raiseSsidPwd_eq, if_pos ⟨zero, by simp [marks, other]⟩]
          refine ⟨some .ssidPwd, ⟨?_, ?_, ?_, afterRunning, afterStarted⟩,
            fun kind done => ⟨?_, ?_⟩, fun kind done => by cases kind <;> simp_all⟩
          · intro kind
            cases kind with
            | channel => simpa [marks] using iRecChannel.trans (settled.flag .channel)
            | ssidPwd => rfl
            | reIp => simpa [marks] using iRecIp.trans (settled.flag .reIp)
          · rintro kind ⟨⟩
            simp [marks, other]
          · rintro kind ⟨⟩
            exact uLinkType
          · cases kind <;> simp_all
          · rintro ⟨⟩
            simp [incomplete] at done

/-! ## Sending -/

@[simp] theorem clearPending_easyLink (statics : Statics) :
    (clearPending statics).easyLink = statics.easyLink := by
  unfold clearPending
  split_ifs <;> rfl

@[simp] theorem sendPending_easyLink (statics : Statics) :
    (sendPending statics).1.easyLink = statics.easyLink := by
  unfold sendPending
  split_ifs
  · exact clearPending_easyLink statics
  · rfl

@[simp] theorem finish_easyLink (statics : Statics) :
    (finish statics).easyLink = statics.easyLink := by
  unfold finish
  split_ifs <;> rfl

@[simp] theorem finish_flag (kind : LinkKind) (statics : Statics) :
    kind.flag (finish statics) = kind.flag statics := by
  unfold finish
  split_ifs
  · cases kind <;> rfl
  · rfl

@[simp] theorem notify_easyLink (statics : Statics) :
    (notify statics).1.easyLink = statics.easyLink := by
  simp [notify]

section Raised

variable {statics : Statics} {pending : Option LinkKind}

theorem Raised.flag_of_ne (raised : Raised statics pending) {kind : LinkKind}
    (other : pending ≠ some kind) :
    kind.flag statics = if kind.complete statics.easyLink then 2 else 0 := by
  rw [raised.flag kind, if_neg other]

theorem Raised.flag_ne_one (raised : Raised statics pending) {kind : LinkKind}
    (other : pending ≠ some kind) : kind.flag statics ≠ 1 := by
  rw [raised.flag_of_ne other]
  split_ifs <;> decide

theorem Raised.flag_eq_one_iff (raised : Raised statics pending) (kind : LinkKind) :
    kind.flag statics = 1 ↔ pending = some kind := by
  constructor
  · intro one
    by_contra other
    exact raised.flag_ne_one other one
  · intro waits
    rw [raised.flag kind, if_pos waits]

theorem Raised.sendPending_eq (raised : Raised statics pending) :
    sendPending statics =
      match pending with
      | none => (statics, none)
      | some .channel => ({ statics with iRecChannel := 2 }, some statics.easyLink)
      | some .ssidPwd => ({ statics with iRecSsidPwd := 2 }, some statics.easyLink)
      | some .reIp => ({ statics with iRecIp := 2 }, some statics.easyLink) := by
  have channel := raised.flag_eq_one_iff .channel
  have ssidPwd := raised.flag_eq_one_iff .ssidPwd
  have reIp := raised.flag_eq_one_iff .reIp
  simp only [LinkKind.flag_channel, LinkKind.flag_ssidPwd, LinkKind.flag_reIp] at *
  rcases pending with _ | _ | _ | _ <;>
    simp [sendPending, clearPending, channel, ssidPwd, reIp]

theorem Raised.sendPending_record (raised : Raised statics pending) :
    (sendPending statics).2 = pending.map fun _ => statics.easyLink := by
  rw [raised.sendPending_eq]
  rcases pending with _ | _ | _ | _ <;> rfl

theorem Raised.sendPending_flag (raised : Raised statics pending) (kind : LinkKind) :
    kind.flag (sendPending statics).1 =
      if kind.complete statics.easyLink then 2 else 0 := by
  by_cases waits : pending = some kind
  · have complete := raised.complete kind waits
    subst waits
    rw [raised.sendPending_eq, complete, if_pos rfl]
    cases kind <;> rfl
  · rw [← raised.flag_of_ne waits, raised.sendPending_eq]
    rcases pending with _ | _ | _ | _ <;> cases kind <;>
      first | rfl | exact absurd rfl waits

theorem Raised.sendPending_control (raised : Raised statics pending) :
    (sendPending statics).1.iRecOk = statics.iRecOk ∧
      (sendPending statics).1.iInit = statics.iInit := by
  rw [raised.sendPending_eq]
  rcases pending with _ | _ | _ | _ <;> exact ⟨rfl, rfl⟩

theorem Raised.settled_finish (raised : Raised statics pending) :
    Settled (finish (sendPending statics).1) := by
  have flags := raised.sendPending_flag
  have channel := flags .channel
  have ssidPwd := flags .ssidPwd
  have reIp := flags .reIp
  simp only [LinkKind.flag_channel, LinkKind.flag_ssidPwd, LinkKind.flag_reIp] at *
  have control := raised.sendPending_control
  refine ⟨fun kind => by simpa using flags kind, ?_, ?_⟩
  · unfold finish
    split_ifs with all
    · refine iff_of_true rfl fun kind => ?_
      have two : kind.flag (sendPending statics).1 = 2 := by
        cases kind
        · exact all.1
        · exact all.2.1
        · exact all.2.2
      have complete := (flags kind).symm.trans two
      simpa using complete
    · refine iff_of_false (control.1 ▸ raised.running) fun complete => all ?_
      simp only [sendPending_easyLink] at complete
      simp [channel, ssidPwd, reIp, complete .channel, complete .ssidPwd, complete .reIp]
  · intro zero
    refine absurd ?_ (control.2 ▸ raised.started)
    unfold finish at zero
    split_ifs at zero <;> exact zero

end Raised

/-! ## One call -/

/-- The statics just before the send step of a call, when it gets there. -/
def atSend (call : Call) (statics : Statics) : Option Statics :=
  (collect call (initialise statics)).map raiseSsidPwd

/-- A call from settled statics is dropped, or runs the send step on statics
in which only the kind it completed waits. -/
theorem Settled.callCases {statics : Statics} (settled : Settled statics)
    (call : Call) :
    (atSend call statics = none ∧ staMonPktSend statics call = (initialise statics, none)) ∨
    ∃ raised pending, atSend call statics = some raised ∧ Raised raised pending ∧
      (initialise statics).iRecOk ≠ 1 ∧
      staMonPktSend statics call =
        (finish (sendPending raised).1, pending.map fun _ => raised.easyLink) ∧
      (∀ kind : LinkKind, kind.complete statics.easyLink →
        kind.complete raised.easyLink ∧ pending ≠ some kind) ∧
      ∀ kind : LinkKind, kind.complete raised.easyLink →
        kind.complete statics.easyLink ∨ pending = some kind := by
  dsimp only [staMonPktSend, atSend]
  cases result : collect call (initialise statics) with
  | none => exact .inl ⟨rfl, rfl⟩
  | some collected =>
      obtain ⟨running, completed, progress⟩ := collect_progress result
      obtain ⟨pending, raised, kept, new⟩ := settled.initialised.raised running
        (initialise_iInit statics) progress
      rw [settled.initialised_easyLink] at kept new
      refine .inr ⟨_, pending, rfl, raised, running, ?_, kept, new⟩
      rw [← raised.sendPending_record]
      rfl

theorem Settled.afterCall {statics : Statics} (settled : Settled statics)
    (call : Call) : Settled (staMonPktSend statics call).1 := by
  rcases settled.callCases call with
    ⟨-, result⟩ | ⟨raised, pending, -, isRaised, -, result, -⟩
  · rw [result]
    exact settled.initialised
  · rw [result]
    exact isRaised.settled_finish

theorem Settled.callStopped {statics : Statics} (settled : Settled statics)
    (stopped : statics.iRecOk = 1) (call : Call) :
    (staMonPktSend statics call).1.easyLink = statics.easyLink ∧
      (staMonPktSend statics call).1.iRecOk = 1 ∧
      (staMonPktSend statics call).2 = none := by
  have still : (initialise statics).iRecOk = 1 := by
    unfold initialise
    split_ifs <;> exact stopped
  rcases settled.callCases call with ⟨-, result⟩ | ⟨raised, pending, -, -, running, -⟩
  · rw [result]
    exact ⟨settled.initialised_easyLink, still, rfl⟩
  · exact absurd still running

/-- The statics reached by a sequence of calls on a freshly loaded driver. -/
abbrev reached (calls : List Call) : Statics :=
  Execution.finalState staMonPktSend .initial calls

/-- The records broadcast in a sequence of calls on a freshly loaded driver. -/
abbrev broadcasts (calls : List Call) : List TEasyLink :=
  Execution.observations staMonPktSend .initial calls

theorem settled_reached (calls : List Call) : Settled (reached calls) :=
  Execution.invariant_finalState (fun _ _ => True) Settled
    (fun _ call _ settled => settled.afterCall call)
    (Execution.eachCall_of_allowed _ _ fun _ _ => trivial) settled_initial

theorem Settled.broadcast_at_most_once {statics : Statics} (settled : Settled statics)
    (calls : List Call) (kind : LinkKind) :
    (Execution.observations staMonPktSend statics calls).countP
      (fun record => record.uLinkType = kind.code) ≤ 1 := by
  refine Execution.selected_observation_at_most_once Settled
    (fun statics => kind.complete statics.easyLink)
    (fun _ call settled => settled.afterCall call) ?stays ?silent ?establishes calls settled
  case stays =>
    intro statics call settled done
    rcases settled.callCases call with
      ⟨-, result⟩ | ⟨raised, pending, -, -, -, result, kept, -⟩
    · rw [result]
      exact settled.initialised_easyLink.symm ▸ done
    · rw [result]
      simpa using (kept kind done).1
  case silent =>
    intro statics call settled done seen observed
    rcases settled.callCases call with
      ⟨-, result⟩ | ⟨raised, pending, -, isRaised, -, result, kept, -⟩
    · simp [result] at observed
    · rw [result] at observed
      cases pending with
      | none => simp at observed
      | some sent =>
          obtain rfl : raised.easyLink = seen := by simpa using observed
          have other : sent ≠ kind := fun equal => (kept kind done).2 (equal ▸ rfl)
          rw [isRaised.linkType sent rfl]
          exact decide_eq_false fun equal => other (LinkKind.code_injective equal)
  case establishes =>
    intro statics call settled seen observed selected
    rcases settled.callCases call with
      ⟨-, result⟩ | ⟨raised, pending, -, isRaised, -, result, -⟩
    · simp [result] at observed
    · rw [result] at observed ⊢
      cases pending with
      | none => simp at observed
      | some sent =>
          obtain rfl : raised.easyLink = seen := by simpa using observed
          have same : sent = kind := LinkKind.code_injective
            ((isRaised.linkType sent rfl).symm.trans (of_decide_eq_true selected))
          simpa using isRaised.complete kind (same ▸ rfl)

theorem Settled.broadcast_kind {statics : Statics} (settled : Settled statics)
    (call : Call) {record : TEasyLink} (sent : record ∈ (staMonPktSend statics call).2) :
    ∃ raised, ∃ kind : LinkKind, atSend call statics = some raised ∧
      kind.flag raised = 1 ∧ kind.flag (staMonPktSend statics call).1 = 2 ∧
      (∀ other : LinkKind, other.flag raised = 1 → other = kind) ∧
      record.uLinkType = kind.code ∧ kind.complete record := by
  rcases settled.callCases call with
    ⟨-, result⟩ | ⟨raised, pending, collected, isRaised, -, result, -⟩
  · simp [result] at sent
  · rw [result] at sent ⊢
    cases pending with
    | none => simp at sent
    | some kind =>
        obtain rfl : raised.easyLink = record := by simpa using sent
        have complete := isRaised.complete kind rfl
        refine ⟨raised, kind, collected, (isRaised.flag_eq_one_iff kind).mpr rfl, ?_, ?_,
          isRaised.linkType kind rfl, complete⟩
        · simp [isRaised.sendPending_flag kind, complete]
        · intro other one
          exact (Option.some_inj.mp ((isRaised.flag_eq_one_iff other).mp one)).symm

theorem Settled.broadcast_of_completed {statics : Statics} (settled : Settled statics)
    {call : Call} {kind : LinkKind} (missing : kind.complete statics.easyLink = false)
    (complete : kind.complete (staMonPktSend statics call).1.easyLink) :
    (staMonPktSend statics call).2 = some (staMonPktSend statics call).1.easyLink ∧
      (staMonPktSend statics call).1.easyLink.uLinkType = kind.code := by
  rcases settled.callCases call with
    ⟨-, result⟩ | ⟨raised, pending, -, isRaised, -, result, -, new⟩
  · rw [result, settled.initialised_easyLink] at complete
    exact absurd (missing.symm.trans complete) Bool.false_ne_true
  · rw [result] at complete ⊢
    simp only [finish_easyLink, sendPending_easyLink] at complete ⊢
    rcases new kind complete with before | waits
    · exact absurd (missing.symm.trans before) Bool.false_ne_true
    · rw [waits]
      exact ⟨rfl, isRaised.linkType kind waits⟩

theorem Settled.rests {statics : Statics} (settled : Settled statics)
    (stopped : statics.iRecOk = 1) (later : List Call) :
    (Execution.finalState staMonPktSend statics later).easyLink = statics.easyLink ∧
      Execution.observations staMonPktSend statics later = [] := by
  induction later generalizing statics with
  | nil => exact ⟨rfl, rfl⟩
  | cons call later induction =>
      obtain ⟨sameRecord, still, silent⟩ := settled.callStopped stopped call
      obtain ⟨restRecord, restSilent⟩ := induction (settled.afterCall call) still
      simp [silent, restRecord, sameRecord, restSilent]

/-- Each kind of record is broadcast at most once, in the call that completes
its kind; once all are out the receiver rests. -/
theorem linkNotifications_exactlyOnce (calls : List Call) :
    (∀ kind : LinkKind,
      (broadcasts calls).countP (fun record => record.uLinkType = kind.code) ≤ 1) ∧
    (∀ call, ∀ record ∈ (staMonPktSend (reached calls) call).2,
      ∃ raised, ∃ kind : LinkKind, atSend call (reached calls) = some raised ∧
        kind.flag raised = 1 ∧
        kind.flag (staMonPktSend (reached calls) call).1 = 2 ∧
        (∀ other : LinkKind, other.flag raised = 1 → other = kind) ∧
        record.uLinkType = kind.code ∧ kind.complete record) ∧
    (∀ kind : LinkKind, kind.flag (reached calls) ≠ 1) ∧
    ((∀ kind : LinkKind, kind.flag (reached calls) = 2) → (reached calls).iRecOk = 1) ∧
    ((reached calls).iRecOk = 1 → ∀ later,
      (reached (calls ++ later)).easyLink = (reached calls).easyLink ∧
        broadcasts (calls ++ later) = broadcasts calls) := by
  have settled := settled_reached calls
  refine ⟨settled_initial.broadcast_at_most_once calls,
    fun call record sent => settled.broadcast_kind call sent, ?_, ?_, ?_⟩
  · intro kind
    rw [settled.flag kind]
    split_ifs <;> decide
  · intro all
    refine settled.stopped.mpr fun kind => ?_
    have two := (settled.flag kind).symm.trans (all kind)
    simpa using two
  · intro stopped later
    obtain ⟨sameRecord, silent⟩ := settled.rests stopped later
    rw [reached, broadcasts, Execution.finalState_append, Execution.observations_append]
    exact ⟨sameRecord, by rw [silent, List.append_nil]⟩

end StudyDemo.EasyLink
