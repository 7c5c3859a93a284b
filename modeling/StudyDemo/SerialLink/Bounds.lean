import StudyDemo.SerialLink.Acceptance

/-! # Where a call reads and stores

Within one message the payload is stored behind the cursor, and the checksum is taken
over bytes that were stored. Both can fail when a message is cut: the payload offset and
the declared length survive into the next call, and an END may come before the payload it
was declared with. -/

namespace StudyDemo.SerialLink

/-- An access to `pu8Message`. -/
inductive Access
  | read (index : Nat)
  | store (index : Nat)

/-- A store goes to a byte that was consumed, a read stays in the buffer. -/
def Access.Inside (u16MsgLen : uint16) (consumed : Nat) : Access → Prop
  | .read index => index < u16MsgLen.toNat
  | .store index => index < consumed

namespace Reader

/-- A payload byte would be stored. -/
def storing (reader : Reader) : Prop :=
  reader.eRxState = .waitData ∧ reader.u16Bytes < reader.u16Length

instance (reader : Reader) : Decidable reader.storing := inferInstanceAs (Decidable (_ ∧ _))

/-- The accesses for a byte once it was taken out: the checksum at an END, and the
store of a payload byte. -/
def accesses (reader : Reader) (u8Data : uint8) : List Access :=
  if u8Data = slStartChar then []
  else if u8Data = slEscChar then []
  else if u8Data = slEndChar then
    if rxMaxLength < reader.u16Length.toNat then []
    else (List.range reader.u16Length.toNat).map Access.read
  else if reader.storing then [Access.store reader.u16Bytes.toNat]
  else []

end Reader

/-- Every access of the loop `while (u16MsgLen > i)` is inside. -/
def LoopInside (u16MsgLen : uint16) : Nat → uint8 → Reader → Nat → Prop
  | 0, _, _, _ => True
  | fuel + 1, i, reader, consumed =>
      i.toNat < u16MsgLen.toNat →
        let u8Data := reader.message i.toNat
        (Access.read i.toNat).Inside u16MsgLen consumed ∧
          (∀ access ∈ reader.accesses u8Data, access.Inside u16MsgLen (consumed + 1)) ∧
          ((reader.readByte u8Data).2 = false →
            LoopInside u16MsgLen fuel (i + 1) (reader.readByte u8Data).1 (consumed + 1))

/-- Every access of a call is inside its buffer. -/
def CallInside (state : Listening) (buffer : Buffer) : Prop :=
  LoopInside buffer.u16MsgLen 256 0 { state.reader with message := buffer.memory } 0

/-! ## The condition -/

/-- Neither START nor ESC nor END. -/
def IsData (u8Data : uint8) : Prop :=
  u8Data ≠ slStartChar ∧ u8Data ≠ slEscChar ∧ u8Data ≠ slEndChar

/-- A call that goes on with a payload: as many bytes as were stored before are passed
over, ESC or rejected END, before another one is stored. -/
def ResumesInside (u16MsgLen : uint16) (reader : Reader) (cursor : Nat) : Prop :=
  ∀ position, cursor ≤ position → position < u16MsgLen.toNat →
    (∀ earlier, cursor ≤ earlier → earlier < position →
      reader.message earlier = slEscChar ∨
        reader.message earlier = slEndChar ∧ ¬reader.accepts) →
    IsData (reader.message position) → reader.u16Bytes.toNat ≤ position

/-- A declared length that the END branch can work on in this buffer. -/
def LengthFits (u16MsgLen : uint16) (reader : Reader) : Prop :=
  reader.u16Length.toNat ≤ rxMaxLength → reader.u16Length.toNat ≤ u16MsgLen.toNat

/-- Each END that the loop takes out comes with a length that fits. -/
def EndsFit (u16MsgLen : uint16) : Nat → uint8 → Reader → Prop
  | 0, _, _ => True
  | fuel + 1, i, reader =>
      i.toNat < u16MsgLen.toNat →
        let u8Data := reader.message i.toNat
        (u8Data = slEndChar → LengthFits u16MsgLen reader) ∧
          ((reader.readByte u8Data).2 = false →
            EndsFit u16MsgLen fuel (i + 1) (reader.readByte u8Data).1)

/-- The condition for one call. -/
structure CallFits (state : Listening) (buffer : Buffer) : Prop where
  resumes : state.reader.storing → ResumesInside buffer.u16MsgLen
    { state.reader with message := buffer.memory } 0
  ends : EndsFit buffer.u16MsgLen 256 0 { state.reader with message := buffer.memory }

/-! ## One byte -/

section OneByte

variable {u16MsgLen : uint16} {cursor : Nat} {reader : Reader} {u8Data : uint8}

theorem accesses_end : (∀ access ∈ reader.accesses slEndChar,
    access.Inside u16MsgLen cursor) ↔ LengthFits u16MsgLen reader := by
  rw [Reader.accesses, if_neg (by decide), if_neg (by decide), if_pos rfl, LengthFits]
  split_ifs with long
  · exact iff_of_true (fun _ member => absurd member List.not_mem_nil)
      fun fits => absurd fits (Nat.not_le_of_lt long)
  · constructor
    · intro inside fits
      by_contra more
      have last := inside (.read u16MsgLen.toNat)
        (List.mem_map_of_mem (List.mem_range.mpr (Nat.lt_of_not_le more)))
      exact Nat.lt_irrefl _ last
    · intro fits access member
      obtain ⟨index, within, rfl⟩ := List.mem_map.mp member
      exact Nat.lt_of_lt_of_le (List.mem_range.mp within) (fits (Nat.le_of_not_lt long))

theorem accesses_plain (notEnd : u8Data ≠ slEndChar)
    (quiet : u8Data = slStartChar ∨ u8Data = slEscChar ∨ ¬reader.storing) :
    reader.accesses u8Data = [] := by
  rw [Reader.accesses]
  split_ifs with isStart isEscape storing
  · rfl
  · rfl
  · rcases quiet with start | escape | still
    · exact absurd start isStart
    · exact absurd escape isEscape
    · exact absurd storing still
  · rfl

theorem accesses_data (data : IsData u8Data) (storing : reader.storing) :
    reader.accesses u8Data = [Access.store reader.u16Bytes.toNat] := by
  rw [Reader.accesses, if_neg data.1, if_neg data.2.1, if_neg data.2.2, if_pos storing]

theorem accesses_of_not_stored (notStored : ¬(IsData u8Data ∧ reader.storing)) :
    (∀ access ∈ reader.accesses u8Data, access.Inside u16MsgLen cursor) ↔
      (u8Data = slEndChar → LengthFits u16MsgLen reader) := by
  by_cases isEnd : u8Data = slEndChar
  · rw [isEnd, accesses_end]
    exact ⟨fun fits _ => fits, fun fits => fits rfl⟩
  · have quiet : u8Data = slStartChar ∨ u8Data = slEscChar ∨ ¬reader.storing := by
      rw [IsData] at notStored
      tauto
    rw [accesses_plain isEnd quiet]
    exact iff_of_true (fun _ member => absurd member List.not_mem_nil)
      fun equal => absurd equal isEnd

/-- Nothing will be stored ahead of the cursor. -/
def Settled (cursor : Nat) (reader : Reader) : Prop :=
  Behind cursor reader ∨ reader.eRxState = .waitData ∧ ¬reader.storing

theorem Settled.accesses (settled : Settled cursor reader) (u8Data : uint8) :
    (∀ access ∈ reader.accesses u8Data, access.Inside u16MsgLen (cursor + 1)) ↔
      (u8Data = slEndChar → LengthFits u16MsgLen reader) := by
  by_cases stored : IsData u8Data ∧ reader.storing
  · obtain ⟨data, storing⟩ := stored
    rw [accesses_data data storing]
    refine iff_of_true (fun access member => ?_) fun equal => absurd equal data.2.2
    rw [List.mem_singleton.mp member]
    rcases settled with behind | ⟨-, still⟩
    · rcases behind with waits | below
      · exact absurd (storing.1.symm.trans waits) (by decide)
      · exact Nat.lt_succ_of_le below
    · exact absurd storing still
  · exact accesses_of_not_stored stored

theorem Settled.succ (settled : Settled cursor reader) : Settled (cursor + 1) reader := by
  rcases settled with behind | still
  · rcases behind with waits | below
    · exact Or.inl (Or.inl waits)
    · exact Or.inl (Or.inr (Nat.le_succ_of_le below))
  · exact Or.inr still

theorem Settled.readByte (settled : Settled cursor reader)
    (goesOn : (reader.readByte u8Data).2 = false) :
    Settled (cursor + 1) (reader.readByte u8Data).1 := by
  by_cases isEnd : u8Data = slEndChar
  · subst isEnd
    rcases readByte_end_goesOn goesOn with same | waits
    · rw [same]
      exact settled.succ
    · exact Or.inl (Or.inl waits)
  · rcases settled with behind | ⟨state, still⟩
    · exact Or.inl (readByte_behind behind isEnd).1
    · have full : ∀ (flag : Bool) (data : uint8),
          Reader.takeByte { reader with bInEsc := flag } data = { reader with bInEsc := flag } := by
        intro flag data
        rw [Reader.takeByte, state]
        exact if_neg fun room => still ⟨state, room⟩
      by_cases isStart : u8Data = slStartChar
      · rw [isStart]
        exact Or.inl (Or.inr (Nat.zero_le _))
      · rw [readByte_plain ⟨isStart, isEnd⟩]
        split_ifs
        · exact Or.inr ⟨state, still⟩
        · rw [full]
          exact Or.inr ⟨state, still⟩
        · exact Or.inr ((full reader.bInEsc u8Data).symm ▸ ⟨state, still⟩)

theorem readByte_passed (fits : reader.u16Length.toNat ≤ rxMaxLength)
    (passed : u8Data = slEscChar ∨ u8Data = slEndChar ∧ ¬reader.accepts) :
    ∃ flag, reader.readByte u8Data = ({ reader with bInEsc := flag }, false) := by
  rcases passed with rfl | ⟨rfl, rejected⟩
  · exact ⟨true, rfl⟩
  · refine ⟨reader.bInEsc, ?_⟩
    rw [Reader.readByte, if_neg (by decide), if_neg (by decide), if_pos rfl,
      if_neg (Nat.not_lt_of_le fits), if_neg fun crc => rejected ⟨fits, crc⟩]

theorem settled_of_stop (notData : ¬IsData u8Data) (notEscape : u8Data ≠ slEscChar)
    (accepted : u8Data = slEndChar → reader.accepts)
    (goesOn : (reader.readByte u8Data).2 = false) :
    Settled cursor (reader.readByte u8Data).1 := by
  by_cases isEnd : u8Data = slEndChar
  · rw [isEnd, readByte_accepted (accepted isEnd)] at goesOn
    cases goesOn
  · have isStart : u8Data = slStartChar := by
      rw [IsData] at notData
      tauto
    rw [isStart]
    exact Or.inl (Or.inr (Nat.zero_le _))

end OneByte

/-! ## One call -/

section OneCall

variable {u16MsgLen : uint16} (small : u16MsgLen.toNat ≤ 255)

include small

theorem next_position {i : uint8} (inside : i.toNat < u16MsgLen.toNat) :
    (i + 1).toNat = i.toNat + 1 := by
  rw [BitVec.toNat_add]
  change (i.toNat + 1) % 256 = i.toNat + 1
  omega

theorem loopInside_succ {fuel : Nat} {i : uint8} {reader : Reader}
    (inside : i.toNat < u16MsgLen.toNat) :
    LoopInside u16MsgLen (fuel + 1) i reader i.toNat ↔
      (∀ access ∈ reader.accesses (reader.message i.toNat),
        access.Inside u16MsgLen (i.toNat + 1)) ∧
      ((reader.readByte (reader.message i.toNat)).2 = false →
        LoopInside u16MsgLen fuel (i + 1) (reader.readByte (reader.message i.toNat)).1
          (i + 1).toNat) := by
  have reads : (Access.read i.toNat).Inside u16MsgLen i.toNat := inside
  rw [LoopInside, next_position small inside]
  exact (imp_iff_right inside).trans (and_iff_right reads)

theorem settled_loop {fuel : Nat} {i : uint8} {reader : Reader}
    (settled : Settled i.toNat reader) :
    LoopInside u16MsgLen fuel i reader i.toNat ↔ EndsFit u16MsgLen fuel i reader := by
  induction fuel generalizing i reader with
  | zero => exact Iff.rfl
  | succ fuel induction =>
      by_cases inside : i.toNat < u16MsgLen.toNat
      · rw [loopInside_succ small inside, settled.accesses, EndsFit, imp_iff_right inside]
        apply and_congr_right
        intro _
        apply imp_congr_right
        intro goesOn
        have rest := settled.readByte goesOn
        rw [← next_position small inside] at rest
        exact induction rest
      · exact iff_of_true (fun less => absurd less inside) (fun less => absurd less inside)

omit small in
theorem resumesInside_succ {cursor : Nat} {reader : Reader}
    (passed : reader.message cursor = slEscChar ∨
      reader.message cursor = slEndChar ∧ ¬reader.accepts) :
    ResumesInside u16MsgLen reader cursor ↔ ResumesInside u16MsgLen reader (cursor + 1) := by
  constructor
  · intro resumes position above inside earlier data
    apply resumes position (by omega) inside _ data
    intro index from_ before
    by_cases first : index = cursor
    · rw [first]
      exact passed
    · exact earlier index (by omega) before
  · intro resumes position above inside earlier data
    by_cases first : position = cursor
    · rw [first] at data
      rcases passed with escape | ⟨isEnd, -⟩
      · exact absurd escape data.2.1
      · exact absurd isEnd data.2.2
    · exact resumes position (by omega) inside
        (fun index from_ before => earlier index (by omega) before) data

omit small in
theorem resumesInside_of_stop {cursor : Nat} {reader : Reader}
    (notData : ¬IsData (reader.message cursor)) (notEscape : reader.message cursor ≠ slEscChar)
    (accepted : reader.message cursor = slEndChar → reader.accepts) :
    ResumesInside u16MsgLen reader cursor := by
  intro position above inside earlier data
  by_cases first : position = cursor
  · rw [first] at data
    exact absurd data notData
  · rcases earlier cursor (Nat.le_refl cursor) (by omega) with escape | ⟨isEnd, rejected⟩
    · exact absurd escape notEscape
    · exact absurd (accepted isEnd) rejected

theorem storing_loop {fuel : Nat} {i : uint8} {reader : Reader} (storing : reader.storing)
    (fits : reader.u16Length.toNat ≤ rxMaxLength) (enough : u16MsgLen.toNat < i.toNat + fuel) :
    LoopInside u16MsgLen fuel i reader i.toNat ↔
      ResumesInside u16MsgLen reader i.toNat ∧ EndsFit u16MsgLen fuel i reader := by
  induction fuel generalizing i reader with
  | zero =>
      apply (and_iff_right _).symm
      intro position above inside
      omega
  | succ fuel induction =>
      by_cases below : reader.u16Bytes.toNat ≤ i.toNat
      · have settled : Settled i.toNat reader := Or.inl (Or.inr below)
        rw [settled_loop small settled]
        exact (and_iff_right fun position above _ _ _ => Nat.le_trans below above).symm
      · by_cases inside : i.toNat < u16MsgLen.toNat
        · have next := next_position small inside
          rw [loopInside_succ small inside, EndsFit, imp_iff_right inside]
          dsimp only
          by_cases data : IsData (reader.message i.toNat)
          · rw [accesses_data data storing]
            apply iff_of_false
            · rintro ⟨stored, -⟩
              exact below (Nat.le_of_lt_succ (stored _ (List.mem_singleton_self _)))
            · rintro ⟨resumes, -⟩
              exact below (resumes i.toNat (Nat.le_refl _) inside
                (fun earlier above before => absurd above (Nat.not_le_of_lt before)) data)
          · rw [accesses_of_not_stored fun stored => data stored.1]
            by_cases passed : reader.message i.toNat = slEscChar ∨
                reader.message i.toNat = slEndChar ∧ ¬reader.accepts
            · obtain ⟨flag, read⟩ := readByte_passed fits passed
              have later := @induction (i + 1) { reader with bInEsc := flag } storing fits
                (by omega)
              rw [read, resumesInside_succ passed, ← next, imp_iff_right rfl, imp_iff_right rfl,
                later]
              exact and_left_comm
            · rw [not_or, not_and, not_not] at passed
              rw [and_iff_right (resumesInside_of_stop data passed.1 passed.2)]
              refine and_congr_right fun _ => imp_congr_right fun goesOn => ?_
              exact settled_loop small (settled_of_stop data passed.1 passed.2 goesOn)
        · apply iff_of_true
          · exact fun less => absurd less inside
          · refine ⟨fun position above less => ?_, fun less => absurd less inside⟩
            omega

end OneCall

/-! ## Runs of calls -/

/-- Nothing is stored in the header, and a payload has a length that is accepted. -/
structure InOrder (reader : Reader) : Prop where
  header : reader.eRxState = .waitStart ∨ reader.eRxState = .waitData ∨ reader.u16Bytes = 0
  length : reader.eRxState = .waitCrc ∨ reader.eRxState = .waitData →
    reader.u16Length.toNat ≤ rxMaxLength

theorem InOrder.bytes {reader : Reader} (inOrder : InOrder reader)
    (notStart : reader.eRxState ≠ .waitStart) (notData : reader.eRxState ≠ .waitData) :
    reader.u16Bytes = 0 :=
  (inOrder.header.resolve_left notStart).resolve_left notData

theorem InOrder.takeByte {reader : Reader} (inOrder : InOrder reader) (u8Data : uint8) :
    InOrder (reader.takeByte u8Data) := by
  cases state : reader.eRxState with
  | waitStart =>
      rw [takeByte_of_waitStart state]
      exact inOrder
  | waitTypeMsb =>
      have bytes := inOrder.bytes (by rw [state]; decide) (by rw [state]; decide)
      rw [Reader.takeByte, state]
      exact ⟨Or.inr (Or.inr bytes), fun later => by simp at later⟩
  | waitTypeLsb =>
      have bytes := inOrder.bytes (by rw [state]; decide) (by rw [state]; decide)
      rw [Reader.takeByte, state]
      exact ⟨Or.inr (Or.inr bytes), fun later => by simp at later⟩
  | waitLenMsb =>
      have bytes := inOrder.bytes (by rw [state]; decide) (by rw [state]; decide)
      rw [Reader.takeByte, state]
      exact ⟨Or.inr (Or.inr bytes), fun later => by simp at later⟩
  | waitLenLsb =>
      have bytes := inOrder.bytes (by rw [state]; decide) (by rw [state]; decide)
      rw [Reader.takeByte, state]
      refine ⟨Or.inr (Or.inr bytes), fun later => ?_⟩
      dsimp only at later ⊢
      split_ifs at later with long
      · simp at later
      · exact Nat.le_of_not_lt long
  | waitCrc =>
      have length := inOrder.length (Or.inl state)
      rw [Reader.takeByte, state]
      exact ⟨Or.inr (Or.inl rfl), fun _ => length⟩
  | waitData =>
      have length := inOrder.length (Or.inr state)
      rw [Reader.takeByte, state]
      dsimp only
      split_ifs
      · exact ⟨Or.inr (Or.inl rfl), fun _ => length⟩
      · exact inOrder

theorem InOrder.readByte {reader : Reader} (inOrder : InOrder reader) (u8Data : uint8) :
    InOrder (reader.readByte u8Data).1 := by
  have waiting : InOrder { reader with eRxState := .waitStart } :=
    ⟨Or.inl rfl, fun later => by simp at later⟩
  have escape : ∀ flag : Bool, InOrder { reader with bInEsc := flag } := fun _ =>
    ⟨inOrder.header, inOrder.length⟩
  rw [Reader.readByte]
  split_ifs
  · exact ⟨Or.inr (Or.inr rfl), fun later => by simp at later⟩
  · exact escape true
  · exact waiting
  · exact waiting
  · exact inOrder
  · exact (escape false).takeByte _
  · exact inOrder.takeByte u8Data

theorem readLoop_keeps {Keeps : Reader → Prop}
    (kept : ∀ reader u8Data, Keeps reader → Keeps (reader.readByte u8Data).1)
    {u16MsgLen : uint16} {fuel : Nat} {i : uint8} {reader : Reader} {consumed : List uint8}
    {result : ReadResult} (holds : Keeps reader)
    (returns : readLoop u16MsgLen fuel i reader consumed = some result) :
    Keeps result.reader := by
  induction fuel generalizing i reader consumed with
  | zero => cases returns
  | succ fuel induction =>
      rw [readLoop] at returns
      dsimp only at returns
      split_ifs at returns
      · rw [← Option.some.inj returns]
        exact kept _ _ holds
      · exact induction (kept _ _ holds) returns
      · rw [← Option.some.inj returns]
        exact holds

theorem callStep_inOrder {state : Listening} {buffer : Buffer} (inOrder : InOrder state.reader) :
    InOrder (callStep state buffer).1.reader := by
  have start : InOrder { state.reader with message := buffer.memory } :=
    ⟨inOrder.header, inOrder.length⟩
  exact readLoop_keeps (fun _ u8Data holds => holds.readByte u8Data) start
    (readMessage_loop state.reader buffer)

theorem callInside_iff {state : Listening} (inOrder : InOrder state.reader) (buffer : Buffer) :
    CallInside state buffer ↔ CallFits state buffer := by
  by_cases storing : state.reader.storing
  · have loop := @storing_loop buffer.u16MsgLen buffer.small 256 0
      { state.reader with message := buffer.memory } storing
      (inOrder.length (Or.inr storing.1)) (Nat.lt_of_le_of_lt buffer.small (by decide))
    constructor
    · intro inside
      obtain ⟨resumes, ends⟩ := loop.mp inside
      exact ⟨fun _ => resumes, ends⟩
    · intro fits
      exact loop.mpr ⟨fits.resumes storing, fits.ends⟩
  · have settled : Settled (0 : uint8).toNat { state.reader with message := buffer.memory } := by
      rcases inOrder.header with waits | data | none
      · exact Or.inl (Or.inl waits)
      · exact Or.inr ⟨data, storing⟩
      · apply Or.inl
        apply Or.inr
        rw [none]
        exact Nat.le_refl 0
    have loop := @settled_loop buffer.u16MsgLen buffer.small 256 0 _ settled
    constructor
    · intro inside
      exact ⟨fun now => absurd now storing, loop.mp inside⟩
    · intro fits
      exact loop.mpr fits.ends

/-- A run of calls stays inside its buffers exactly if each of its calls resumes an open
payload, and ends a message, within its own buffer. -/
theorem staysInside_iff (u16Type u16Length : uint16) (calls : List Buffer) :
    Execution.EachCall callStep CallInside (.initial u16Type u16Length) calls ↔
      Execution.EachCall callStep CallFits (.initial u16Type u16Length) calls := by
  have inOrder : ∀ before : List Buffer,
      InOrder (Execution.finalState callStep (.initial u16Type u16Length) before).reader := by
    intro before
    apply Execution.invariant_finalState (fun _ _ => True) (fun state : Listening => InOrder state.reader)
      (fun _ _ _ holds => callStep_inOrder holds) (fun _ _ _ _ => trivial)
    exact ⟨Or.inl rfl, fun later => by simp [Listening.initial, Statics.initial] at later⟩
  constructor
  · intro inside before buffer after split
    exact (callInside_iff (inOrder before) buffer).mp (inside before buffer after split)
  · intro fits before buffer after split
    exact (callInside_iff (inOrder before) buffer).mpr (fits before buffer after split)

/-- A frame with the payload 0x41 0x42, cut before its last payload byte, which the second
call stores at the place behind it. -/
theorem staysInside_fails :
    ¬∀ (u16Type u16Length : uint16) (calls : List Buffer),
      (∀ buffer ∈ calls, 1 ≤ buffer.u16MsgLen.toNat) →
      Execution.EachCall callStep CallInside (.initial u16Type u16Length) calls := by
  intro all
  have data : IsData 0x42 := ⟨by decide, by decide, by decide⟩
  have inside := all 0 0 [⟨10, bufferOf ((frame 0x0049 [0x41, 0x42]).take 10), by decide⟩,
    ⟨2, bufferOf [0x42, 0x03], by decide⟩] (by decide)
  have second := (Execution.eachCall_cons.mp (Execution.eachCall_cons.mp inside).2).1
  have fits := (callInside_iff (callStep_inOrder ⟨Or.inl rfl, fun later => by
    simp [Listening.initial, Statics.initial] at later⟩) _).mp second
  have behind := fits.resumes (by decide +kernel) 0 (Nat.le_refl 0) (by decide)
    (fun earlier _ before => absurd before (Nat.not_lt_zero earlier)) data
  exact absurd behind (by decide +kernel)

end StudyDemo.SerialLink
