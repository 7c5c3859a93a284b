import StudyDemo.SelectServer.SelectLoop

/-! # Consistent tables

The slots, their bound, the set of descriptors and its bound are four tables of the
same connections. They agree as long as every descriptor fits into the set; then the
table of slots is never full either, as it has a slot for each member of the set. -/

namespace StudyDemo.SelectServer

/-! ## The tables -/

/-- A slot of the table has the descriptor. -/
def TcpServer.Occupies (server : TcpServer) (i : Nat) (fd : Nat) : Prop :=
  i < fdSetSize ∧ server.client i = fd

/-- The tables at a call of `select`. -/
structure TablesAgree (server : TcpServer) : Prop where
  members : ∀ fd, server.allset.IsSet fd ↔ fd = server.listenfd ∨ ∃ i, server.Occupies i fd
  listening : ∀ i, ¬server.Occupies i server.listenfd
  distinct : ∀ fd i j, server.Occupies i fd → server.Occupies j fd → i = j
  occupied : ∀ i fd, server.Occupies i fd → (i : Int) ≤ server.maxi
  maxi : server.maxi < fdSetSize
  maxfd : ∀ fd, server.allset.IsSet fd → (fd : Int) ≤ server.maxfd

/-- The descriptors in the tables are open. -/
structure Connected (server : TcpServer) : Prop where
  agree : TablesAgree server
  listens : server.listenfd ∈ server.openFds
  connects : ∀ i fd, server.Occupies i fd → fd ∈ server.openFds

/-- The tables agree at every call of `select`. -/
def StaysConsistent (listenfd : Nat) (behind : Nat → Int) (turns : List Turn) : Prop :=
  ∀ before, before <+: turns → TablesAgree (reached listenfd behind before)

/-- A descriptor that `accept` returns fits into the set. -/
def AcceptsWithin (server : TcpServer) (turn : Turn) : Prop :=
  ∀ fd, (server.rset turn).IsSet server.listenfd → server.accept turn = some fd →
    fd < fdSetSize

/-! ## Room for another connection -/

section Room

variable {server : TcpServer}

theorem TablesAgree.exists_free (agree : TablesAgree server) :
    ∃ i < fdSetSize, server.client i < 0 := by
  by_contra full
  have occupies : ∀ i < fdSetSize, server.Occupies i (server.client i).toNat := by
    intro i inside
    have nonneg : ¬server.client i < 0 := fun free => full ⟨i, inside, free⟩
    exact ⟨inside, by omega⟩
  have listening : server.listenfd ∈ server.allset.members := (agree.members _).mpr (.inl rfl)
  have maps : ∀ i ∈ Finset.range fdSetSize,
      (server.client i).toNat ∈ server.allset.members.erase server.listenfd := by
    intro i member
    have slot := occupies i (Finset.mem_range.mp member)
    apply Finset.mem_erase.mpr
    constructor
    · intro same
      exact agree.listening i (same ▸ slot)
    · exact (agree.members _).mpr (.inr ⟨i, slot⟩)
  have injective : Set.InjOn (fun i => (server.client i).toNat) (Finset.range fdSetSize) := by
    intro i first j second same
    have left := occupies i (Finset.mem_range.mp (Finset.mem_coe.mp first))
    have right := occupies j (Finset.mem_range.mp (Finset.mem_coe.mp second))
    dsimp only at same
    rw [same] at left
    exact agree.distinct _ i j left right
  have slots := Finset.card_le_card_of_injOn _ maps injective
  have room : server.allset.members.card ≤ fdSetSize := by
    have within : server.allset.members ⊆ Finset.range fdSetSize := fun fd member =>
      Finset.mem_range.mpr (server.allset.bounded fd member)
    rw [← Finset.card_range fdSetSize]
    exact Finset.card_le_card within
  have positive := Finset.card_pos.mpr ⟨_, listening⟩
  rw [Finset.card_range, Finset.card_erase_of_mem listening] at slots
  omega

/-- A connection that is accepted with a full table gets no slot, and the next scan
goes on behind the table. -/
theorem addClient_full (full : ∀ i < fdSetSize, 0 ≤ server.client i) (connectfd : Nat) :
    (server.addClient connectfd).client = server.client ∧
      (fdSetSize : Int) ≤ (server.addClient connectfd).maxi := by
  rcases server.freeSlot_spec with ⟨inside, free⟩ | ⟨slot, -⟩
  · exact absurd (full _ inside) (Int.not_le.mpr free)
  · dsimp only [TcpServer.addClient]
    rw [if_pos slot, slot]
    refine ⟨rfl, ?_⟩
    split_ifs <;> omega

end Room

/-! ## One iteration -/

section Step

variable {server : TcpServer}

theorem occupies_addClient (inside : server.freeSlot < fdSetSize)
    (free : server.client server.freeSlot < 0) (connectfd : Nat) (i : Nat) (fd : Nat) :
    (server.addClient connectfd).Occupies i fd ↔
      i = server.freeSlot ∧ fd = connectfd ∨ server.Occupies i fd := by
  dsimp only [TcpServer.Occupies, TcpServer.addClient]
  rw [if_neg inside.ne]
  by_cases slot : i = server.freeSlot
  · subst slot
    rw [Function.update_self]
    omega
  · rw [Function.update_of_ne slot]
    simp [slot]

theorem occupies_closeClient (i : Nat) (sockfd : Nat) (j : Nat) (fd : Nat) :
    (server.closeClient i sockfd).Occupies j fd ↔ j ≠ i ∧ server.Occupies j fd := by
  dsimp only [TcpServer.Occupies, TcpServer.closeClient]
  by_cases slot : j = i
  · subst slot
    rw [Function.update_self]
    omega
  · rw [Function.update_of_ne slot]
    simp [slot]

theorem Connected.addClient (connected : Connected server) {connectfd : Nat}
    (new : connectfd ∉ server.openFds) (within : connectfd < fdSetSize) :
    Connected (server.addClient connectfd) := by
  obtain ⟨agree, listens, connects⟩ := connected
  obtain ⟨i, small, empty⟩ := agree.exists_free
  obtain ⟨inside, free⟩ := TcpServer.freeSlot_of_free small empty
  have occupies := occupies_addClient inside free connectfd
  have isSet := server.allset.isSet_set within
  have unlisted : ∀ i, ¬server.Occupies i connectfd := fun i slot => new (connects i _ slot)
  constructor
  case agree =>
    constructor
    case members =>
      intro fd
      simp only [occupies, exists_or]
      rw [show (server.addClient connectfd).allset.IsSet fd ↔ _ from isSet fd, agree.members]
      constructor
      · rintro (isNew | listening | slot)
        · exact .inr (.inl ⟨_, rfl, isNew⟩)
        · exact .inl listening
        · exact .inr (.inr slot)
      · rintro (listening | ⟨-, -, isNew⟩ | slot)
        · exact .inr (.inl listening)
        · exact .inl isNew
        · exact .inr (.inr slot)
    case listening =>
      intro i slot
      rcases (occupies i _).mp slot with ⟨-, isNew⟩ | earlier
      · exact new (isNew ▸ listens)
      · exact agree.listening i earlier
    case distinct =>
      intro fd i j first second
      rcases (occupies i fd).mp first with ⟨left, isNew⟩ | earlier
      · rcases (occupies j fd).mp second with ⟨right, -⟩ | other
        · exact left.trans right.symm
        · exact absurd (isNew ▸ other) (unlisted j)
      · rcases (occupies j fd).mp second with ⟨-, isNew⟩ | other
        · exact absurd (isNew ▸ earlier) (unlisted i)
        · exact agree.distinct fd i j earlier other
    case occupied =>
      intro i fd slot
      have bound : (i : Int) ≤ server.freeSlot ∨ (i : Int) ≤ server.maxi := by
        rcases (occupies i fd).mp slot with ⟨isNew, -⟩ | earlier
        · exact .inl (by omega)
        · exact .inr (agree.occupied i fd earlier)
      dsimp only [TcpServer.addClient]
      split_ifs <;> omega
    case maxi =>
      have before := agree.maxi
      dsimp only [TcpServer.addClient]
      split_ifs <;> omega
    case maxfd =>
      intro fd member
      have bound : (fd : Int) ≤ connectfd ∨ (fd : Int) ≤ server.maxfd := by
        rcases (isSet fd).mp member with isNew | earlier
        · exact .inl (by omega)
        · exact .inr (agree.maxfd fd earlier)
      dsimp only [TcpServer.addClient]
      split_ifs <;> omega
  case listens => exact Finset.mem_insert_of_mem listens
  case connects =>
    intro i fd slot
    rcases (occupies i fd).mp slot with ⟨-, isNew⟩ | earlier
    · exact isNew ▸ Finset.mem_insert_self _ _
    · exact Finset.mem_insert_of_mem (connects i fd earlier)

theorem Connected.closeClient (connected : Connected server) {i : Nat} {sockfd : Nat}
    (slot : server.Occupies i sockfd) : Connected (server.closeClient i sockfd) := by
  obtain ⟨agree, listens, connects⟩ := connected
  have occupies := @occupies_closeClient server i sockfd
  have isSet := server.allset.isSet_clr sockfd
  have notListening : server.listenfd ≠ sockfd := by
    intro same
    rw [← same] at slot
    exact agree.listening i slot
  have other : ∀ j fd, server.Occupies j fd → j ≠ i → fd ≠ sockfd := by
    intro j fd occupied different same
    exact different (agree.distinct fd j i occupied (same ▸ slot))
  constructor
  case agree =>
    constructor
    case members =>
      intro fd
      simp only [occupies]
      rw [show (server.closeClient i sockfd).allset.IsSet fd ↔ _ from isSet fd, agree.members]
      constructor
      · rintro ⟨different, listening | ⟨j, occupied⟩⟩
        · exact .inl listening
        · refine .inr ⟨j, ?_, occupied⟩
          rintro rfl
          have values := occupied.2.symm.trans slot.2
          exact different (by omega)
      · rintro (listening | ⟨j, different, occupied⟩)
        · exact ⟨listening ▸ notListening, .inl listening⟩
        · exact ⟨other j fd occupied different, .inr ⟨j, occupied⟩⟩
    case listening => exact fun j taken => agree.listening j ((occupies j _).mp taken).2
    case distinct =>
      intro fd first second left right
      exact agree.distinct fd first second ((occupies _ _).mp left).2 ((occupies _ _).mp right).2
    case occupied => exact fun j fd taken => agree.occupied j fd ((occupies j fd).mp taken).2
    case maxi => exact agree.maxi
    case maxfd => exact fun fd member => agree.maxfd fd ((isSet fd).mp member).2
  case listens => exact Finset.mem_erase.mpr ⟨notListening, listens⟩
  case connects =>
    intro j fd taken
    obtain ⟨different, occupied⟩ := (occupies j fd).mp taken
    exact Finset.mem_erase.mpr ⟨other j fd occupied different, connects j fd occupied⟩

theorem Connected.scanClients (connected : Connected server) (turn : Turn) (rset : FdSet)
    (nready : Int) : Connected (server.scanClients turn rset nready) := by
  have bound := connected.agree.maxi
  have closes : ∀ (server : TcpServer) (i fd : Nat), i < fdSetSize → server.client i = fd →
      rset.IsSet fd → Connected server → Connected (server.closeClient i fd) :=
    fun server i fd inside slot _ connected => connected.closeClient ⟨inside, slot⟩
  exact TcpServer.scan_keeps closes _ (by omega) nready connected

theorem accept_new {turn : Turn} {fd : Nat} (accepted : server.accept turn = some fd) :
    fd ∉ server.openFds := by
  have filtered := (Option.filter_eq_some_iff.mp accepted).2
  simpa using filtered

/-- An iteration keeps the tables consistent if what it accepts fits into the set. -/
theorem Connected.iterate (connected : Connected server) {turn : Turn}
    (within : AcceptsWithin server turn) : Connected (server.iterate turn) := by
  rw [TcpServer.iterate]
  by_cases listening : (server.rset turn).IsSet server.listenfd
  · rw [if_pos listening]
    cases accepted : server.accept turn with
    | none => exact connected
    | some connectfd =>
        have added := connected.addClient (accept_new accepted)
          (within connectfd listening accepted)
        dsimp only
        split_ifs
        · exact added
        · exact added.scanClients turn _ _
  · rw [if_neg listening]
    exact connected.scanClients turn _ _

/-- The slot of a descriptor that does not fit into the set is not scanned. -/
theorem scanClients_occupies {slot : Nat} {connectfd : Nat} (large : fdSetSize ≤ connectfd)
    (occupies : server.Occupies slot connectfd) (turn : Turn) (rset : FdSet) (nready : Int) :
    (server.scanClients turn rset nready).Occupies slot connectfd := by
  have closes : ∀ (after : TcpServer) (i fd : Nat), i < (server.maxi + 1).toNat →
      after.client i = fd → rset.IsSet fd → after.Occupies slot connectfd →
      (after.closeClient i fd).Occupies slot connectfd := by
    intro after i fd _ other ready occupies
    have small := ready.lt
    apply (occupies_closeClient i fd slot connectfd).mpr
    refine ⟨?_, occupies⟩
    rintro rfl
    have values := other.symm.trans occupies.2
    omega
  exact TcpServer.scan_keeps closes _ (by omega) nready occupies

theorem Connected.acceptsWithin (connected : Connected server) {turn : Turn}
    (agree : TablesAgree (server.iterate turn)) : AcceptsWithin server turn := by
  intro connectfd listening accepted
  by_contra large
  have large : fdSetSize ≤ connectfd := Nat.le_of_not_lt large
  obtain ⟨i, small, empty⟩ := connected.agree.exists_free
  obtain ⟨inside, free⟩ := TcpServer.freeSlot_of_free small empty
  have added : (server.addClient connectfd).Occupies server.freeSlot connectfd :=
    (occupies_addClient inside free connectfd _ _).mpr (.inl ⟨rfl, rfl⟩)
  have stays : (server.iterate turn).Occupies server.freeSlot connectfd := by
    rw [TcpServer.iterate, if_pos listening, accepted]
    dsimp only
    split_ifs
    · exact added
    · exact scanClients_occupies large added turn _ _
  have member := (agree.members connectfd).mpr (.inr ⟨_, stays⟩)
  exact absurd member.lt (Nat.not_lt.mpr large)

end Step

/-! ## Runs -/

section Runs

variable {server : TcpServer}

/-- From consistent tables on, they agree at every call of `select` exactly if every
descriptor that is accepted fits into the set. -/
theorem agree_prefixes_iff (connected : Connected server) (turns : List Turn) :
    (∀ before, before <+: turns →
        TablesAgree (Execution.finalState tcpServerThread server before)) ↔
      Execution.EachCall tcpServerThread AcceptsWithin server turns := by
  induction turns generalizing server with
  | nil =>
      refine iff_of_true (fun before isPrefix => ?_) (Execution.eachCall_nil _ _ _)
      rw [List.prefix_nil.mp isPrefix]
      exact connected.agree
  | cons turn turns induction =>
      rw [Execution.eachCall_cons]
      constructor
      · intro agree
        have next : TablesAgree (server.iterate turn) :=
          agree [turn] (List.prefix_append [turn] turns)
        have within := connected.acceptsWithin next
        refine ⟨within, (induction (connected.iterate within)).mp fun before isPrefix => ?_⟩
        exact agree (turn :: before) (List.cons_prefix_cons.mpr ⟨rfl, isPrefix⟩)
      · rintro ⟨within, later⟩ before isPrefix
        cases before with
        | nil => exact connected.agree
        | cons first before =>
            obtain ⟨rfl, rest⟩ := List.cons_prefix_cons.mp isPrefix
            exact (induction (connected.iterate within)).mpr later before rest

theorem connected_start {listenfd : Nat} (behind : Nat → Int) (within : listenfd < fdSetSize) :
    Connected (TcpServer.start listenfd behind) := by
  have empty : ∀ i fd, ¬(TcpServer.start listenfd behind).Occupies i fd := by
    rintro i fd ⟨inside, slot⟩
    dsimp only [TcpServer.start] at slot
    rw [if_pos inside] at slot
    omega
  have isSet : ∀ fd, (TcpServer.start listenfd behind).allset.IsSet fd ↔ fd = listenfd := by
    intro fd
    dsimp only [TcpServer.start]
    rw [FdSet.isSet_set _ within, or_iff_left (FdSet.isSet_zero fd)]
  constructor
  case agree =>
    constructor
    case members =>
      intro fd
      rw [isSet, or_iff_left fun occupied => empty _ _ occupied.choose_spec]
      rfl
    case listening => exact fun i => empty i _
    case distinct => exact fun fd i j slot _ => absurd slot (empty i fd)
    case occupied => exact fun i fd slot => absurd slot (empty i fd)
    case maxi =>
      change (-1 : Int) < fdSetSize
      omega
    case maxfd =>
      intro fd member
      rw [(isSet fd).mp member]
      exact le_rfl
  case listens => exact Finset.mem_singleton_self listenfd
  case connects => exact fun i fd slot => absurd slot (empty i fd)

end Runs

/-- The tables agree at every call of `select` exactly if the listening descriptor and
every one that `accept` returns fit into the set. -/
theorem staysConsistent_iff (listenfd : Nat) (behind : Nat → Int) (turns : List Turn) :
    StaysConsistent listenfd behind turns ↔
      listenfd < fdSetSize ∧
        Execution.EachCall tcpServerThread AcceptsWithin (.start listenfd behind) turns := by
  constructor
  · intro agree
    have first : TablesAgree (TcpServer.start listenfd behind) := agree [] List.nil_prefix
    have within : listenfd < fdSetSize := ((first.members listenfd).mpr (.inl rfl)).lt
    exact ⟨within, (agree_prefixes_iff (connected_start behind within) turns).mp agree⟩
  · rintro ⟨within, accepts⟩
    exact (agree_prefixes_iff (connected_start behind within) turns).mpr accepts

/-! ## A descriptor that does not fit -/

/-- A client connects, and `accept` returns a descriptor. -/
def connectTurn (listenfd connectfd : Nat) : Turn where
  ready := {listenfd}
  nready := 1
  accepted := some connectfd
  received := fun _ => -1

/-- A connection with the first descriptor that the set has no room for. -/
theorem not_staysConsistent : ¬∀ (listenfd : Nat) (behind : Nat → Int) (turns : List Turn),
    StaysConsistent listenfd behind turns := by
  intro consistent
  have within : 3 < fdSetSize := by
    unfold fdSetSize
    decide
  have connected := connected_start (fun _ => 0) within
  have agree := consistent 3 (fun _ => 0) [connectTurn 3 fdSetSize] _ (List.prefix_refl _)
  have listening : ((TcpServer.start 3 fun _ => 0).rset (connectTurn 3 fdSetSize)).IsSet 3 := by
    have member : (TcpServer.start 3 fun _ => 0).allset.IsSet 3 :=
      (connected.agree.members 3).mpr (.inl rfl)
    exact Finset.mem_inter.mpr ⟨member, Finset.mem_singleton_self 3⟩
  have accepted : (TcpServer.start 3 fun _ => 0).accept (connectTurn 3 fdSetSize) =
      some fdSetSize := by
    have new : fdSetSize ≠ 3 := within.ne'
    simp [TcpServer.accept, TcpServer.start, connectTurn, new]
  exact absurd (connected.acceptsWithin agree fdSetSize listening accepted) (Nat.lt_irrefl _)

end StudyDemo.SelectServer
