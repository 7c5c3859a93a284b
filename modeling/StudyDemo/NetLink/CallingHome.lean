import StudyDemo.EasyLink.AddressDelivery
import StudyDemo.NetLink.Joining

/-! # Calling home

Whom `main` connects to when it consumes the records of a driver that hears one
sender: only the sender, and only once a network was joined and a record with the
address was consumed. -/

namespace StudyDemo.NetLink

open StudyDemo.EasyLink StudyDemo.CMemory

/-! ## Connections -/

/-- A connection to the sender's address, after what it has to come after. -/
structure IsCallHome (ip port : UINT32) (before : List Action) (address : List UCHAR)
    (sinPort : USHORT) : Prop where
  joined : ∃ index, .connectAP index ∈ before
  told : ∃ record, .consume record ∈ before ∧ record.uLinkType = netLinkReIpPort
  server : ∃ record, .consume record ∈ before ∧ record.uIP = ip ∧
    record.uPort.toNat = port.toNat % 65536 ∧
    address = sinAddr record ∧ sinPort = htons record.uPort

/-- Every connection of a run is one to the sender. -/
def CallsOnlyHome (ip port : UINT32) (actions : List Action) : Prop :=
  ∀ before address sinPort after, actions = before ++ .connect address sinPort :: after →
    IsCallHome ip port before address sinPort

section Actions

variable {ip port : UINT32} {actions extra : List Action}

/-- Actions that are no connections. -/
def Quiet (extra : List Action) : Prop := ∀ address sinPort, .connect address sinPort ∉ extra

theorem CallsOnlyHome.quiet (calls : CallsOnlyHome ip port actions) (quiet : Quiet extra) :
    CallsOnlyHome ip port (actions ++ extra) := by
  intro before address sinPort after split
  rcases List.append_eq_append_iff.mp split with
    ⟨middle, -, inExtra⟩ | ⟨middle, earlier, rest⟩
  · apply absurd _ (quiet address sinPort)
    rw [inExtra]
    exact List.mem_append_right _ List.mem_cons_self
  · cases middle with
    | nil =>
        apply absurd _ (quiet address sinPort)
        rw [List.nil_append] at rest
        rw [← rest]
        exact List.mem_cons_self
    | cons action middle =>
        obtain ⟨rfl, -⟩ := List.cons.inj rest
        exact calls before address sinPort middle earlier

theorem CallsOnlyHome.connect (calls : CallsOnlyHome ip port actions) {address : List UCHAR}
    {sinPort : USHORT} (home : IsCallHome ip port actions address sinPort) :
    CallsOnlyHome ip port (actions ++ [.connect address sinPort]) := by
  intro before other otherPort after split
  rcases List.eq_nil_or_concat' after with rfl | ⟨after, last, rfl⟩
  · obtain ⟨rfl, same⟩ := List.append_inj' split rfl
    cases same
    exact home
  · rw [← List.cons_append, ← List.append_assoc] at split
    obtain ⟨earlier, -⟩ := List.append_inj' split rfl
    exact calls before other otherPort after earlier

end Actions

/-! ## One iteration -/

/-- What the records of a run promise about the address. -/
structure SenderRecords (ip port : UINT32) (records : List TEasyLink) : Prop where
  announced : ∀ record ∈ records, record.uLinkType = netLinkReIpPort → record.received typeReip
  address : ∀ record ∈ records, record.received typeReip →
    record.uIP = ip ∧ record.uPort = port.setWidth 16
  stays : records.Pairwise fun first later => first.received typeReip → later.received typeReip

/-- The program between two iterations, with the records that it has not consumed. -/
structure HomeState (ip port : UINT32) (remaining : List TEasyLink) (main : Main) : Prop where
  calls : CallsOnlyHome ip port main.actions
  joined : main.iLinkRoute = 1 → ∃ index, .connectAP index ∈ main.actions
  told : main.iRecIpPort = 1 →
    ∃ record, .consume record ∈ main.actions ∧ record.uLinkType = netLinkReIpPort
  known : main.iRecIpPort = 1 → ∀ record ∈ remaining, record.received typeReip

/-- The program while it handles a record. -/
structure Handling (ip port : UINT32) (remaining : List TEasyLink) (main : Main) : Prop extends
    HomeState ip port remaining main where
  consumed : .consume main.gTEasyLink ∈ main.actions
  announced : main.gTEasyLink.uLinkType = netLinkReIpPort → main.gTEasyLink.received typeReip
  server : main.gTEasyLink.received typeReip →
    main.gTEasyLink.uIP = ip ∧ main.gTEasyLink.uPort = port.setWidth 16
  stays : main.gTEasyLink.received typeReip → ∀ record ∈ remaining, record.received typeReip
  current : main.iRecIpPort = 1 → main.gTEasyLink.received typeReip

section Iteration

variable {ip port : UINT32} {remaining : List TEasyLink} {main after : Main}
  {addresses : Addresses}

theorem HomeState.quiet (state : HomeState ip port remaining main) (extra : List Action)
    (quiet : Quiet extra) (actions : after.actions = main.actions ++ extra)
    (iLinkRoute : after.iLinkRoute = 1 → main.iLinkRoute = 1 ∨ ∃ index, .connectAP index ∈ extra)
    (iRecIpPort : after.iRecIpPort = main.iRecIpPort) : HomeState ip port remaining after := by
  constructor
  case calls =>
    rw [actions]
    exact state.calls.quiet quiet
  case joined =>
    intro joined
    rw [actions]
    rcases iLinkRoute joined with earlier | ⟨index, now⟩
    · obtain ⟨index, member⟩ := state.joined earlier
      exact ⟨index, List.mem_append_left _ member⟩
    · exact ⟨index, List.mem_append_right _ now⟩
  case told =>
    intro told
    rw [iRecIpPort] at told
    obtain ⟨record, member, announced⟩ := state.told told
    rw [actions]
    exact ⟨record, List.mem_append_left _ member, announced⟩
  case known =>
    intro told
    rw [iRecIpPort] at told
    exact state.known told

theorem HomeState.hopChannel (state : HomeState ip port remaining main) :
    HomeState ip port remaining (hopChannel main) := by
  dsimp only [NetLink.hopChannel]
  split_ifs
  · exact state.quiet [.channel main.iChannel, .monitorMode] (by simp [Quiet])
      (List.append_assoc _ _ _) Or.inl rfl
  · exact state.quiet [.channel main.iChannel, .monitorMode] (by simp [Quiet])
      (List.append_assoc _ _ _) Or.inl rfl
  · exact state.quiet [.channel main.gTEasyLink.uChannel.toNat, .monitorMode] (by simp [Quiet])
      (List.append_assoc _ _ _) Or.inl rfl
  · exact state

theorem HomeState.consumeMessage {record : TEasyLink}
    (state : HomeState ip port (record :: remaining) main)
    (records : SenderRecords ip port (record :: remaining)) (nlmsgType : USHORT)
    (nlmsgSeq : UINT32) :
    Handling ip port remaining
      (consumeMessage addresses (broadcastMessage nlmsgType nlmsgSeq record) main) := by
  have next : record ∈ record :: remaining := List.mem_cons_self
  obtain ⟨-, -, -, uLinkType, uRecOK, uPort, uIP, -⟩ :=
    received_fields main.memory addresses.nlh nlmsgType nlmsgSeq record
  have received := TEasyLink.received_congr uRecOK typeReip
  have later : HomeState ip port remaining main :=
    { state with known := fun told other member => state.known told other (.tail _ member) }
  have kept := @HomeState.quiet _ _ _ _ (NetLink.consumeMessage addresses
    (broadcastMessage nlmsgType nlmsgSeq record) main) later [.consume _] (by simp [Quiet]) rfl
    Or.inl rfl
  refine { kept with consumed := ?_, announced := ?_, server := ?_, stays := ?_, current := ?_ }
  · exact List.mem_append_right _ (List.mem_singleton_self _)
  · intro announced
    exact received.trans (records.announced record next (uLinkType.symm.trans announced))
  · intro accepted
    have address := records.address record next (received.symm.trans accepted)
    exact ⟨uIP.trans address.1, uPort.trans address.2⟩
  · intro accepted other member
    exact List.rel_of_pairwise_cons records.stays member (received.symm.trans accepted)
  · intro told
    exact received.trans (state.known told record next)

theorem HomeState.exit (state : HomeState ip port remaining main) :
    HomeState ip port remaining main.exit :=
  state.quiet [] (by simp [Quiet]) (List.append_nil _).symm Or.inl rfl

theorem HomeState.reboot (state : HomeState ip port remaining main) :
    HomeState ip port remaining (main.act .reboot) :=
  state.quiet [.reboot] (by simp [Quiet]) rfl Or.inl rfl

theorem Handling.quiet (handling : Handling ip port remaining main) (extra : List Action)
    (quiet : Quiet extra) (actions : after.actions = main.actions ++ extra)
    (record : after.gTEasyLink = main.gTEasyLink)
    (iLinkRoute : after.iLinkRoute = 1 → main.iLinkRoute = 1 ∨ ∃ index, .connectAP index ∈ extra)
    (iRecIpPort : after.iRecIpPort = main.iRecIpPort) : Handling ip port remaining after := by
  have state := handling.toHomeState.quiet extra quiet actions iLinkRoute iRecIpPort
  refine { state with consumed := ?_, announced := ?_, server := ?_, stays := ?_, current := ?_ }
  · rw [record, actions]
    exact List.mem_append_left _ handling.consumed
  · rw [record]
    exact handling.announced
  · rw [record]
    exact handling.server
  · rw [record]
    exact handling.stays
  · rw [record, iRecIpPort]
    exact handling.current

theorem Handling.joinNetwork (handling : Handling ip port remaining main) (turn : Turn) :
    Handling ip port remaining (joinNetwork addresses turn main) := by
  dsimp only [NetLink.joinNetwork]
  cases turn.checks with
  | none =>
      exact handling.quiet [] (by simp [Quiet]) (List.append_nil _).symm rfl Or.inl rfl
  | some checks =>
      dsimp only
      cases chooseAP (getsitesurvey main.memory addresses.apList turn.scan).1 addresses.apList
          (getsitesurvey main.memory addresses.apList turn.scan).2
          (receivedName addresses main.gTEasyLink) with
      | none =>
          exact handling.quiet (List.replicate checks .managedMode) (by simp [Quiet]) rfl rfl
            Or.inl rfl
      | some index =>
          exact handling.quiet
            (List.replicate checks Action.managedMode ++ [Action.connectAP index])
            (by simp [Quiet]) (List.append_assoc _ _ _) rfl
            (fun _ => Or.inr ⟨index, List.mem_append_right _ (List.mem_singleton_self _)⟩) rfl

theorem Handling.handleRecord (handling : Handling ip port remaining main) (turn : Turn) :
    Handling ip port remaining (handleRecord addresses turn main) := by
  dsimp only [NetLink.handleRecord]
  split_ifs with isChannel isSsidPwd isReIpPort
  · exact handling.quiet [.channel main.gTEasyLink.uChannel.toNat] (by simp [Quiet]) rfl rfl
      Or.inl rfl
  · exact handling.joinNetwork turn
  · -- The flag is raised: this record and all that follow have the address.
    have accepted := handling.announced isReIpPort
    exact { handling with
      told := fun _ => ⟨main.gTEasyLink, handling.consumed, isReIpPort⟩
      known := fun _ => handling.stays accepted
      current := fun _ => accepted }
  · exact handling

theorem Handling.callHome (handling : Handling ip port remaining main) (turn : Turn) :
    HomeState ip port remaining (callHome turn main) := by
  dsimp only [NetLink.callHome]
  split_ifs with ready socket connect recv
  · exact (called ready).reboot
  · exact (called ready).reboot.exit
  · exact (called ready).exit
  · exact handling.exit
  · exact handling.toHomeState
where
  called (ready : main.running ∧ main.iLinkRoute = 1 ∧ main.iRecIpPort = 1) :
      HomeState ip port remaining
        (main.act (.connect (sinAddr main.gTEasyLink) (htons main.gTEasyLink.uPort))) := by
    obtain ⟨-, joined, told⟩ := ready
    obtain ⟨uIP, uPort⟩ := handling.server (handling.current told)
    have home : IsCallHome ip port main.actions (sinAddr main.gTEasyLink)
        (htons main.gTEasyLink.uPort) := by
      refine ⟨handling.joined joined, handling.told told, main.gTEasyLink, handling.consumed,
        uIP, ?_, rfl, rfl⟩
      rw [uPort, BitVec.toNat_setWidth]
    obtain ⟨index, route⟩ := handling.joined joined
    obtain ⟨record, member, announced⟩ := handling.told told
    exact ⟨handling.calls.connect home, fun _ => ⟨index, List.mem_append_left _ route⟩,
      fun _ => ⟨record, List.mem_append_left _ member, announced⟩, handling.known⟩

end Iteration

/-! ## Runs -/

/-- The messages of a run carry records of a list, in its order. -/
def Delivers (turns : List Turn) (records : List TEasyLink) : Prop :=
  ∃ consumed, consumed.Sublist records ∧
    List.Forall₂ (fun message record => ∃ nlmsgType nlmsgSeq,
      message = broadcastMessage nlmsgType nlmsgSeq record) (turns.filterMap Turn.message) consumed

section Runs

variable {ip port : UINT32} {addresses : Addresses}

theorem SenderRecords.sublist {first second : List TEasyLink}
    (records : SenderRecords ip port second) (part : first.Sublist second) :
    SenderRecords ip port first where
  announced record member := records.announced record (part.subset member)
  address record member := records.address record (part.subset member)
  stays := records.stays.sublist part

theorem senderRecords_broadcasts {ssid pswd : Credential} {calls : List Call}
    (fromSender : FromSender ssid pswd ip port calls) :
    SenderRecords ip port (broadcasts calls) where
  announced := received_of_announced
  address := address_of_received fromSender
  stays := received_pairwise

theorem homeState_initial (memory : Memory) (records : List TEasyLink) :
    HomeState ip port records (.initial memory) := by
  refine ⟨?_, fun joined => absurd joined Nat.zero_ne_one,
    fun told => absurd told Nat.zero_ne_one, fun told => absurd told Nat.zero_ne_one⟩
  intro before address sinPort after split
  rcases List.cons_eq_append_iff.mp split with ⟨-, here⟩ | ⟨rest, -, later⟩
  · cases here
  · exact absurd later.symm (List.append_ne_nil_of_right_ne_nil rest (List.cons_ne_nil _ _))

theorem HomeState.turn {record : TEasyLink} {remaining : List TEasyLink} {main : Main}
    (state : HomeState ip port (record :: remaining) main)
    (records : SenderRecords ip port (record :: remaining)) (turn : Turn) {nlmsgType : USHORT}
    {nlmsgSeq : UINT32}
    (message : turn.message = some (broadcastMessage nlmsgType nlmsgSeq record)) :
    HomeState ip port remaining (mainTurn addresses main turn) := by
  dsimp only [mainTurn]
  rw [message]
  split_ifs with running
  · have consumed := @HomeState.consumeMessage _ _ _ _ addresses _ state.hopChannel records
      nlmsgType nlmsgSeq
    exact (consumed.handleRecord turn).callHome turn
  · exact { state with known := fun told other member => state.known told other (.tail _ member) }

theorem HomeState.run {consumed : List TEasyLink} {main : Main}
    (state : HomeState ip port consumed main) (records : SenderRecords ip port consumed)
    {turns : List Turn}
    (delivers : List.Forall₂ (fun message record => ∃ nlmsgType nlmsgSeq,
      message = broadcastMessage nlmsgType nlmsgSeq record)
        (turns.filterMap Turn.message) consumed) :
    ∃ remaining, HomeState ip port remaining (turns.foldl (mainTurn addresses) main) := by
  induction turns generalizing consumed main with
  | nil => exact ⟨consumed, state⟩
  | cons turn turns induction =>
      cases message : turn.message with
      | none =>
          rw [List.filterMap_cons_none message] at delivers
          apply induction _ records delivers
          dsimp only [mainTurn]
          rw [message]
          split_ifs
          · exact state.hopChannel
          · exact state
      | some text =>
          rw [List.filterMap_cons_some message] at delivers
          cases delivers with
          | cons carries rest =>
              obtain ⟨nlmsgType, nlmsgSeq, rfl⟩ := carries
              exact induction (state.turn records turn message)
                (records.sublist (List.sublist_cons_self _ _)) rest

/-- `main` connects only to the sender whose frames the driver heard, after it has
joined a network and consumed a record with the address. -/
theorem mainRun_callsOnlyHome (ssid pswd : Credential) {calls : List Call}
    (fromSender : FromSender ssid pswd ip port calls) (memory : Memory) {turns : List Turn}
    (delivers : Delivers turns (broadcasts calls)) :
    CallsOnlyHome ip port (mainRun addresses memory turns).actions := by
  obtain ⟨consumed, part, carried⟩ := delivers
  have records := (senderRecords_broadcasts fromSender).sublist part
  obtain ⟨remaining, state⟩ :=
    @HomeState.run _ _ addresses _ _ (homeState_initial memory consumed) records turns carried
  exact state.calls

/-- The turns that consume all the records, next to one network. -/
def consumingTurns (name : List Byte) (records : List TEasyLink) : List Turn :=
  records.map fun record =>
    ⟨some (broadcastMessage 0 0 record), some 0, some [openNetwork name], true, true, true⟩

theorem delivers_consumingTurns (name : List Byte) (records : List TEasyLink) :
    Delivers (consumingTurns name records) records := by
  refine ⟨records, List.Sublist.refl records, ?_⟩
  have messages : (consumingTurns name records).filterMap Turn.message =
      records.map (broadcastMessage 0 0) := by
    simp [consumingTurns, List.filterMap_map]
  rw [messages, List.forall₂_map_left_iff]
  exact List.forall₂_same.mpr fun record _ => ⟨0, 0, rfl⟩

/-- A sender of an SSID without a password. -/
def namedSender : Credential := ⟨literal "home", by decide +kernel⟩

def noPassword : Credential := ⟨[], by decide⟩

theorem mainRun_callsOnlyHome_named :
    CallsOnlyHome 0x0100A8C0 5000 (mainRun ⟨0, 1000, []⟩ (fun _ => 0)
        (consumingTurns (literal "home") (broadcasts
          ((senderFrames namedSender noPassword 0x0100A8C0 5000).map Quad.call)))).actions ∧
      .connect [0xC0, 0xA8, 0, 1] (htons 5000) ∈ (mainRun ⟨0, 1000, []⟩ (fun _ => 0)
        (consumingTurns (literal "home") (broadcasts
          ((senderFrames namedSender noPassword 0x0100A8C0 5000).map Quad.call)))).actions := by
  refine ⟨mainRun_callsOnlyHome namedSender noPassword ?_ _ (delivers_consumingTurns _ _), ?_⟩
  · intro call member
    obtain ⟨quad, sent, rfl⟩ := List.mem_map.mp member
    exact ⟨quad, sent, quad.call_carries⟩
  · decide +kernel

end Runs

end StudyDemo.NetLink
