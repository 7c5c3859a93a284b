import StudyDemo.EasyLink.Delivery

/-! # The address in every record

No frame of a text reaches the address. Once it is accepted, every record that the
driver broadcasts carries it, whatever the record announces. -/

namespace StudyDemo.EasyLink

section Sender

variable {ssid pswd : Credential} {ip port : UINT32} {before after statics : Statics}

theorem AddressState.collect (state : AddressState ip port before) {quad : Quad}
    (collects : Collects ssid pswd ip port quad before after) : AddressState ip port after := by
  cases collects with
  | channel result => exact state.keep (receiveChannel_kept result).1
  | reIp index fresh => exact state.receive fresh index
  | text field owned inside isFrame fresh outside =>
      exact state.keep (keepsAddress_field field _ inside outside before)

theorem AddressState.afterCall (state : AddressState ip port statics)
    (settled : Settled statics) {call : Call} {quad : Quad}
    (sent : quad ∈ senderFrames ssid pswd ip port) (carries : Carries call quad) :
    AddressState ip port (staMonPktSend statics call).1 := by
  have start : AddressState ip port (initialise statics) := by
    apply state.keep
    exact .of_same settled.initialised_easyLink (initialise_slots statics).1
      (initialise_slots statics).2
  dsimp only [staMonPktSend]
  cases result : EasyLink.collect call (initialise statics) with
  | none => exact start
  | some collected =>
      obtain ⟨record, masks, crcs, -⟩ := notify_store collected
      exact (start.collect (collects_of_carries sent carries result)).keep
        (.of_same record masks crcs)

end Sender

/-! ## Records -/

section Broadcast

variable {calls : List Call}

theorem received_of_announced :
    ∀ record ∈ broadcasts calls, record.uLinkType = netLinkReIpPort →
      record.received typeReip := by
  refine @Execution.forall_observations _ _ _ staMonPktSend (fun _ _ => True) Settled
    (fun statics call _ settled => settled.afterCall call) _ calls
    (fun record => record.uLinkType = netLinkReIpPort → record.received typeReip) ?_
    (Execution.eachCall_of_allowed _ _ fun _ _ => trivial) settled_initial
  intro statics call _ settled record sent announced
  obtain ⟨-, kind, -, -, -, -, linkType, complete⟩ := settled.broadcast_kind call sent
  have isAddress : kind = .reIp := LinkKind.code_injective (linkType.symm.trans announced)
  subst isAddress
  exact complete

theorem address_of_received {ssid pswd : Credential} {ip port : UINT32}
    (fromSender : FromSender ssid pswd ip port calls) :
    ∀ record ∈ broadcasts calls, record.received typeReip →
      record.uIP = ip ∧ record.uPort = port.setWidth 16 := by
  have kept : ∀ (statics : Statics) (call : Call),
      (∃ quad ∈ senderFrames ssid pswd ip port, Carries call quad) →
      Settled statics ∧ AddressState ip port statics →
      Settled (staMonPktSend statics call).1 ∧
        AddressState ip port (staMonPktSend statics call).1 := by
    rintro statics call ⟨quad, sent, carries⟩ ⟨settled, state⟩
    exact ⟨settled.afterCall call, state.afterCall settled sent carries⟩
  refine @Execution.forall_observations _ _ _ staMonPktSend
    (fun _ call => ∃ quad ∈ senderFrames ssid pswd ip port, Carries call quad)
    (fun statics => Settled statics ∧ AddressState ip port statics) kept _ calls
    (fun record => record.received typeReip → record.uIP = ip ∧ record.uPort = port.setWidth 16) ?_
    (Execution.eachCall_of_allowed _ _ fromSender) ⟨settled_initial, .unannounced rfl rfl⟩
  intro statics call allowed holds record sent received
  rw [holds.1.broadcast_eq sent] at received ⊢
  exact (kept statics call allowed holds).2.record_of_received received

theorem received_pairwise :
    (broadcasts calls).Pairwise fun first later =>
      first.received typeReip → later.received typeReip := by
  have stays : ∀ (record : TEasyLink) (statics : Statics) (call : Call), Settled statics →
      (record.received typeReip → statics.easyLink.received typeReip) →
      record.received typeReip → (staMonPktSend statics call).1.easyLink.received typeReip :=
    fun record statics call settled related received =>
      settled.received_stays call typeReip (related received)
  apply @Execution.pairwise_observations _ _ _ staMonPktSend (fun statics _ => Settled statics)
    (fun record statics => record.received typeReip → statics.easyLink.received typeReip)
  · intro statics call settled record sent received
    rw [← settled.broadcast_eq sent]
    exact received
  · exact stays
  · intro record statics call settled related later sent received
    rw [settled.broadcast_eq sent]
    exact stays record statics call settled related received
  · intro before call after _
    exact settled_reached before

end Broadcast

end StudyDemo.EasyLink
