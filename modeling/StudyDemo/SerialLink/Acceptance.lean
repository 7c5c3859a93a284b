import StudyDemo.Foundation.Execution
import StudyDemo.SerialLink.RoundTrip

/-! # What the reader accepts

The END branch tests a checksum over the statics, the out-parameters and the
buffer, in whatever state it is. Over calls on any buffers, the messages it
returns are whole frames, each from a START of its own, as long as the END
bytes whose test succeeds come at the end of a payload. -/

namespace StudyDemo.SerialLink

/-- What a call is given: `u16MsgLen` and the memory at `pu8Message`. -/
structure Buffer where
  u16MsgLen : uint16
  memory : Nat → uint8
  small : u16MsgLen.toNat ≤ 255

/-- The counter `i` reaches the length of a small buffer. -/
theorem readLoop_returns {u16MsgLen : uint16} (small : u16MsgLen.toNat ≤ 255) {fuel : Nat}
    {i : uint8} (reader : Reader) (consumed : List uint8) (inside : i.toNat ≤ u16MsgLen.toNat)
    (enough : u16MsgLen.toNat < i.toNat + fuel) :
    (readLoop u16MsgLen fuel i reader consumed).isSome := by
  induction fuel generalizing i reader consumed with
  | zero => omega
  | succ fuel induction =>
      rw [readLoop]
      by_cases goesOn : i.toNat < u16MsgLen.toNat
      · have next : (i + 1).toNat = i.toNat + 1 := by
          rw [BitVec.toNat_add]
          change (i.toNat + 1) % 256 = i.toNat + 1
          omega
        rw [if_pos goesOn]
        dsimp only
        split_ifs
        · rfl
        · exact induction _ _ (by omega) (by omega)
      · rw [if_neg goesOn]
        rfl

/-- `eSL_ReadMessage` on a buffer, with the statics and out-parameters that the
calls before left. -/
def readMessage (reader : Reader) (buffer : Buffer) : ReadResult :=
  (readLoop buffer.u16MsgLen 256 0 { reader with message := buffer.memory } []).get
    (readLoop_returns buffer.small _ _ (Nat.zero_le _)
      (Nat.lt_of_le_of_lt buffer.small (by decide)))

theorem readMessage_loop (reader : Reader) (buffer : Buffer) :
    readLoop buffer.u16MsgLen 256 0 { reader with message := buffer.memory } [] =
      some (readMessage reader buffer) := (Option.some_get _).symm

/-- The reader between calls, and all the bytes it took out so far. -/
structure Listening where
  reader : Reader
  log : List uint8

/-- One call. It is observed when it returns TRUE. -/
def callStep : Execution.Step Listening Buffer Listening := fun state buffer =>
  let result := readMessage state.reader buffer
  let next : Listening := ⟨result.reader, state.log ++ result.consumed⟩
  (next, if result.returned then some next else none)

/-- An END that does not end the call is passed over. -/
def withoutEnds (raw : List uint8) : List uint8 :=
  raw.filter fun u8Data => decide (u8Data ≠ slEndChar)

/-- What the bytes after a START stand for. -/
def received (raw : List uint8) : List uint8 := serialCode.unstuff false (withoutEnds raw)

/-- The bytes since the last START are a frame, and it is the message returned. -/
def CompleteFrame (state : Listening) : Prop :=
  ∃ before raw type1 type0 length1 length0 crc payload,
    state.log = before ++ slStartChar :: raw ∧ slStartChar ∉ raw ∧
      received raw = type1 :: type0 :: length1 :: length0 :: crc :: payload ∧
      state.reader.u16Type = word type1 type0 ∧
      state.reader.u16Length = word length1 length0 ∧
      state.reader.u16Length.toNat ≤ payload.length ∧
      crc = (payload.take state.reader.u16Length.toNat).foldl (fun u8CRC byte => u8CRC ^^^ byte)
        (type0 ^^^ type1 ^^^ length0 ^^^ length1) ∧
      HoldsAt state.reader.message 0 (payload.take state.reader.u16Length.toNat)

/-- Every message returned is a complete frame, and a START is taken out between
any two of them. -/
def AcceptsCompleteFrames (initial : Listening) (calls : List Buffer) : Prop :=
  (∀ returned ∈ Execution.observations callStep initial calls, CompleteFrame returned) ∧
    (Execution.observations callStep initial calls).Pairwise fun first second =>
      ∃ rest, second.log = first.log ++ rest ∧ slStartChar ∈ rest

/-! ## The condition -/

/-- The reader before an END: in the payload state with all its bytes, none of
which was stored in the buffer of an earlier call. Here `before` is `u16Bytes` at
the start of the call, and `consumed` what the call took out since. -/
structure WholeMessage (before : uint16) (consumed : List uint8) (reader : Reader) : Prop where
  state : reader.eRxState = .waitData
  bytes : reader.u16Bytes = reader.u16Length
  here : slStartChar ∈ consumed ∨ before = 0

instance (before : uint16) (consumed : List uint8) (reader : Reader) :
    Decidable (WholeMessage before consumed reader) :=
  decidable_of_iff
    (reader.eRxState = .waitData ∧ reader.u16Bytes = reader.u16Length ∧
      (slStartChar ∈ consumed ∨ before = 0))
    ⟨fun ⟨state, bytes, here⟩ => ⟨state, bytes, here⟩,
      fun whole => ⟨whole.state, whole.bytes, whole.here⟩⟩

/-- Each END that the loop takes out either fails its test or ends a whole
message. -/
def EndsWhole (u16MsgLen before : uint16) : Nat → uint8 → Reader → List uint8 → Prop
  | 0, _, _, _ => True
  | fuel + 1, i, reader, consumed =>
      i.toNat < u16MsgLen.toNat →
        let u8Data := reader.message i.toNat
        (u8Data = slEndChar → reader.accepts → WholeMessage before consumed reader) ∧
          ((reader.readByte u8Data).2 = false →
            EndsWhole u16MsgLen before fuel (i + 1) (reader.readByte u8Data).1
              (consumed ++ [u8Data]))

instance EndsWhole.decidable (u16MsgLen before : uint16) :
    (fuel : Nat) → (i : uint8) → (reader : Reader) → (consumed : List uint8) →
      Decidable (EndsWhole u16MsgLen before fuel i reader consumed)
  | 0, _, _, _ => isTrue trivial
  | fuel + 1, i, reader, consumed =>
      let _ := decidable u16MsgLen before fuel (i + 1)
        (reader.readByte (reader.message i.toNat)).1 (consumed ++ [reader.message i.toNat])
      inferInstanceAs (Decidable (_ → _ ∧ (_ → EndsWhole _ _ fuel _ _ _)))

/-- The condition for one call. -/
def SoundCall (state : Listening) (buffer : Buffer) : Prop :=
  EndsWhole buffer.u16MsgLen state.reader.u16Bytes 256 0
    { state.reader with message := buffer.memory } []

instance (state : Listening) (buffer : Buffer) : Decidable (SoundCall state buffer) :=
  inferInstanceAs (Decidable (EndsWhole ..))

/-! ## One byte -/

theorem readByte_returns {reader : Reader} {u8Data : uint8}
    (returns : (reader.readByte u8Data).2 = true) :
    u8Data = slEndChar ∧ reader.accepts ∧
      (reader.readByte u8Data).1 = { reader with eRxState := .waitStart } := by
  by_cases isEnd : u8Data = slEndChar
  · rw [isEnd, Reader.readByte, if_neg (by decide), if_neg (by decide), if_pos rfl] at returns ⊢
    split_ifs at returns ⊢ with long crc
    exact ⟨rfl, ⟨Nat.le_of_not_lt long, crc⟩, rfl⟩
  · have behind : Behind reader.u16Bytes.toNat reader := Or.inr (Nat.le_refl _)
    rw [(readByte_behind behind isEnd).2.2] at returns
    exact absurd returns Bool.false_ne_true

theorem readByte_accepted {reader : Reader} (accepted : reader.accepts) :
    (reader.readByte slEndChar).2 = true := by
  rw [Reader.readByte, if_neg (by decide), if_neg (by decide), if_pos rfl,
    if_neg (Nat.not_lt_of_le accepted.1), if_pos accepted.2]

theorem readByte_waitStart {reader : Reader} (waits : reader.eRxState = .waitStart)
    {u8Data : uint8} (notStart : u8Data ≠ slStartChar) :
    (reader.readByte u8Data).1.eRxState = .waitStart := by
  rw [Reader.readByte, if_neg notStart]
  split_ifs
  · exact waits
  · rfl
  · rfl
  · exact waits
  · rw [takeByte_of_waitStart (show ({ reader with bInEsc := false } : Reader).eRxState =
      .waitStart from waits)]
    exact waits
  · rw [takeByte_of_waitStart waits]
    exact waits

theorem readByte_end_goesOn {reader : Reader} :
    (reader.readByte slEndChar).2 = false →
      (reader.readByte slEndChar).1 = reader ∨
        (reader.readByte slEndChar).1.eRxState = .waitStart := by
  rw [Reader.readByte, if_neg (by decide), if_neg (by decide), if_pos rfl]
  split_ifs
  · exact fun _ => Or.inr rfl
  · exact fun _ => Or.inr rfl
  · exact fun _ => Or.inl rfl

/-! ## The bytes since the last START -/

/-- Unless it waits for a START, the reader has parsed the bytes since the last
one. -/
def Tracks (base : Nat) (log : List uint8) (reader : Reader) : Prop :=
  reader.eRxState ≠ .waitStart →
    ∃ before raw, log = before ++ slStartChar :: raw ∧ slStartChar ∉ raw ∧
      Parsed base reader (received raw) ∧
      reader.bInEsc = serialCode.pending false (withoutEnds raw)

theorem withoutEnds_append_end (raw : List uint8) :
    withoutEnds (raw ++ [slEndChar]) = withoutEnds raw := by
  rw [withoutEnds, List.filter_append]
  exact List.append_nil _

theorem withoutEnds_append (raw : List uint8) {u8Data : uint8} (notEnd : u8Data ≠ slEndChar) :
    withoutEnds (raw ++ [u8Data]) = withoutEnds raw ++ [u8Data] := by
  rw [withoutEnds, List.filter_append]
  exact congrArg _ (List.filter_cons_of_pos (decide_eq_true notEnd))

theorem Tracks.readByte {base : Nat} {log : List uint8} {reader : Reader}
    (tracks : Tracks base log reader) {u8Data : uint8}
    (goesOn : (reader.readByte u8Data).2 = false) :
    Tracks (if u8Data = slStartChar then 0 else base) (log ++ [u8Data])
      (reader.readByte u8Data).1 := by
  intro parsing
  by_cases isStart : u8Data = slStartChar
  · obtain ⟨start, closed, -⟩ := parsed_start reader
    rw [if_pos isStart, isStart]
    exact ⟨log, [], rfl, List.not_mem_nil, start, closed⟩
  · have parsingBefore : reader.eRxState ≠ .waitStart := fun waits =>
      parsing (readByte_waitStart waits isStart)
    obtain ⟨before, raw, isLog, noStart, parsed, flag⟩ := tracks parsingBefore
    rw [if_neg isStart]
    refine ⟨before, raw ++ [u8Data], ?_, ?_, ?_⟩
    · rw [isLog, List.append_assoc, List.cons_append]
    · intro member
      rcases List.mem_append.mp member with inRaw | last
      · exact noStart inRaw
      · exact isStart (List.mem_singleton.mp last).symm
    · by_cases isEnd : u8Data = slEndChar
      · subst isEnd
        rcases readByte_end_goesOn goesOn with same | waits
        · rw [same, received, withoutEnds_append_end]
          exact ⟨parsed, flag⟩
        · exact absurd waits parsing
      · obtain ⟨next, nextFlag, -⟩ := parsed.readByte ⟨isStart, isEnd⟩
        rw [flag] at next nextFlag
        rw [received, withoutEnds_append raw isEnd, serialCode.unstuff_append,
          serialCode.pending_append]
        exact ⟨next, nextFlag⟩

theorem Parsed.collecting {base : Nat} {reader : Reader} {bytes : List uint8}
    (parsed : Parsed base reader bytes) (state : reader.eRxState = .waitData) :
    ∃ type1 type0 length1 length0 crc payload,
      bytes = type1 :: type0 :: length1 :: length0 :: crc :: payload ∧
        Collecting base reader (word type1 type0) (word length1 length0) crc payload := by
  match bytes with
  | [] => exact absurd (state.symm.trans parsed.1) (by decide)
  | [_] => exact absurd (state.symm.trans parsed.1) (by decide)
  | [_, _] => exact absurd (state.symm.trans parsed.1) (by decide)
  | [_, _, _] => exact absurd (state.symm.trans parsed.1) (by decide)
  | [_, _, _, _] =>
      rcases parsed with ⟨-, waits⟩ | ⟨-, waits, -⟩
      · exact absurd (state.symm.trans waits) (by decide)
      · exact absurd (state.symm.trans waits) (by decide)
  | type1 :: type0 :: length1 :: length0 :: crc :: payload =>
      rcases parsed with ⟨-, waits⟩ | ⟨-, collecting⟩
      · exact absurd (state.symm.trans waits) (by decide)
      · exact ⟨type1, type0, length1, length0, crc, payload, rfl, collecting⟩

/-! ## One call -/

theorem calculateCrc_take {reader : Reader} {payload : List uint8}
    (enough : reader.u16Length.toNat ≤ payload.length)
    (stored : HoldsAt reader.message 0 (payload.take reader.u16Length.toNat)) :
    calculateCrc reader.u16Type reader.u16Length reader.message =
      (payload.take reader.u16Length.toNat).foldl (fun u8CRC byte => u8CRC ^^^ byte)
        (lowByte reader.u16Type ^^^ highByte reader.u16Type ^^^ lowByte reader.u16Length ^^^
          highByte reader.u16Length) := by
  have listed : payload.take reader.u16Length.toNat =
      (List.range reader.u16Length.toNat).map reader.message := by
    apply List.ext_getElem
    · rw [List.length_take, List.length_map, List.length_range]
      omega
    · intro index inside _
      have here := stored index inside
      rw [Nat.zero_add] at here
      rw [List.getElem_map, List.getElem_range, here]
      simp [List.getD, List.getElem?_eq_getElem inside]
  rw [calculateCrc_eq, listed, List.foldl_map]

theorem highByte_word (high low : uint8) : highByte (word high low) = high := by
  apply BitVec.eq_of_toNat_eq
  have lowBound := low.isLt
  have highBound := high.isLt
  rw [highByte, BitVec.toNat_setWidth, BitVec.toNat_ushiftRight, word_toNat,
    Nat.shiftRight_eq_div_pow]
  omega

theorem lowByte_word (high low : uint8) : lowByte (word high low) = low := by
  apply BitVec.eq_of_toNat_eq
  have lowBound := low.isLt
  rw [lowByte, BitVec.toNat_setWidth, word_toNat]
  omega

/-- Where the bytes of a payload were stored that were stored in this call. -/
def storedFrom (before : uint16) (consumed : List uint8) : Nat :=
  if slStartChar ∈ consumed then 0 else before.toNat

theorem WholeMessage.storedFrom_eq {before : uint16} {consumed : List uint8} {reader : Reader}
    (whole : WholeMessage before consumed reader) : storedFrom before consumed = 0 := by
  rw [storedFrom]
  split_ifs with started
  · rfl
  · rcases whole.here with inConsumed | fresh
    · exact absurd inConsumed started
    · rw [fresh]
      rfl

theorem Tracks.completeFrame {base : Nat} {log : List uint8} {reader : Reader}
    (tracks : Tracks base log reader) {before : uint16} {consumed : List uint8}
    (isBase : storedFrom before consumed = base) (whole : WholeMessage before consumed reader)
    (accepted : reader.accepts) :
    CompleteFrame ⟨{ reader with eRxState := .waitStart }, log ++ [slEndChar]⟩ := by
  have parsing : reader.eRxState ≠ .waitStart := by
    rw [whole.state]
    decide
  obtain ⟨earlier, raw, isLog, noStart, parsed, -⟩ := tracks parsing
  obtain ⟨type1, type0, length1, length0, crc, payload, bytes, collecting⟩ :=
    parsed.collecting whole.state
  rw [whole.storedFrom_eq] at isBase
  have count := collecting.bytes
  rw [whole.bytes, ← collecting.u16Length] at count
  have enough : reader.u16Length.toNat ≤ payload.length := by omega
  have stored : HoldsAt reader.message 0 (payload.take reader.u16Length.toNat) := by
    intro index inside
    rw [List.length_take] at inside
    have here := collecting.stored index (by omega) (by rw [whole.bytes]; omega)
    rw [Nat.zero_add, here]
    simp [List.getD, List.getElem?_take_of_lt (show index < reader.u16Length.toNat by omega)]
  refine ⟨earlier, raw ++ [slEndChar], type1, type0, length1, length0, crc, payload, ?_, ?_, ?_,
    collecting.u16Type, collecting.u16Length, enough, ?_, stored⟩
  · rw [isLog, List.append_assoc, List.cons_append]
  · intro member
    rcases List.mem_append.mp member with inRaw | last
    · exact noStart inRaw
    · exact absurd (List.mem_singleton.mp last) (by decide)
  · rw [received, withoutEnds_append_end]
    exact bytes
  · have test := accepted.2
    rw [Reader.crcMatches, calculateCrc_take enough stored, collecting.u8CRC] at test
    rw [test, collecting.u16Type, collecting.u16Length, highByte_word, highByte_word,
      lowByte_word, lowByte_word]

theorem readLoop_cases {Invariant : List uint8 → Reader → Prop}
    (preserved : ∀ consumed reader u8Data, Invariant consumed reader →
      (reader.readByte u8Data).2 = false →
      Invariant (consumed ++ [u8Data]) (reader.readByte u8Data).1)
    {u16MsgLen before : uint16} {fuel : Nat} {i : uint8} {reader : Reader}
    {consumed : List uint8} {result : ReadResult}
    (ends : EndsWhole u16MsgLen before fuel i reader consumed)
    (holds : Invariant consumed reader)
    (returns : readLoop u16MsgLen fuel i reader consumed = some result) :
    result.returned = false ∧ Invariant result.consumed result.reader ∨
      ∃ last taken, result = ⟨{ last with eRxState := .waitStart }, true, taken ++ [slEndChar]⟩ ∧
        Invariant taken last ∧ WholeMessage before taken last ∧ last.accepts := by
  induction fuel generalizing i reader consumed with
  | zero => cases returns
  | succ fuel induction =>
      rw [readLoop] at returns
      rw [EndsWhole] at ends
      by_cases inside : i.toNat < u16MsgLen.toNat
      · obtain ⟨here, rest⟩ := ends inside
        rw [if_pos inside] at returns
        dsimp only at returns here rest
        cases read : (reader.readByte (reader.message i.toNat)).2 with
        | true =>
            obtain ⟨isEnd, accepted, next⟩ := readByte_returns read
            rw [if_pos read, next, isEnd] at returns
            exact Or.inr ⟨reader, consumed, (Option.some.inj returns).symm, holds,
              here isEnd accepted, accepted⟩
        | false =>
            rw [if_neg (by rw [read]; exact Bool.false_ne_true)] at returns
            exact induction (rest read) (preserved _ _ _ holds read) returns
      · rw [if_neg inside] at returns
        rw [← Option.some.inj returns]
        exact Or.inl ⟨rfl, holds⟩

theorem storedFrom_append (before : uint16) (consumed : List uint8) (u8Data : uint8) :
    storedFrom before (consumed ++ [u8Data]) =
      if u8Data = slStartChar then 0 else storedFrom before consumed := by
  simp only [storedFrom, List.mem_append, List.mem_singleton]
  by_cases isStart : u8Data = slStartChar
  · rw [if_pos (Or.inr isStart.symm), if_pos isStart]
  · have same : (slStartChar ∈ consumed ∨ slStartChar = u8Data) ↔ slStartChar ∈ consumed :=
      or_iff_left fun equal => isStart equal.symm
    simp only [same, if_neg isStart]

/-- Between calls: the buffer does not matter. -/
def Tracking (state : Listening) : Prop := ∃ base, Tracks base state.log state.reader

theorem Tracks.rebuffer {base : Nat} {log : List uint8} {reader : Reader}
    (tracks : Tracks base log reader) (memory : Nat → uint8) :
    Tracks reader.u16Bytes.toNat log { reader with message := memory } := by
  intro parsing
  obtain ⟨before, raw, isLog, noStart, parsed, flag⟩ := tracks parsing
  exact ⟨before, raw, isLog, noStart, parsed.rebuffer memory, flag⟩

/-- A call under the condition: it returns FALSE and goes on tracking, or returns
TRUE on a complete frame and waits for a START. -/
theorem callStep_tracking {state : Listening} {buffer : Buffer} (sound : SoundCall state buffer)
    (tracking : Tracking state) :
    Tracking (callStep state buffer).1 ∧
      ∀ returned ∈ (callStep state buffer).2, CompleteFrame returned := by
  obtain ⟨base, tracks⟩ := tracking
  have start : Tracks (storedFrom state.reader.u16Bytes []) (state.log ++ [])
      { state.reader with message := buffer.memory } := by
    rw [List.append_nil]
    exact tracks.rebuffer buffer.memory
  have preserved : ∀ (consumed : List uint8) (reader : Reader) (u8Data : uint8),
      Tracks (storedFrom state.reader.u16Bytes consumed) (state.log ++ consumed) reader →
      (reader.readByte u8Data).2 = false →
      Tracks (storedFrom state.reader.u16Bytes (consumed ++ [u8Data]))
        (state.log ++ (consumed ++ [u8Data])) (reader.readByte u8Data).1 := by
    intro consumed reader u8Data tracks goesOn
    rw [storedFrom_append, ← List.append_assoc]
    exact tracks.readByte goesOn
  rcases readLoop_cases preserved sound start (readMessage_loop state.reader buffer) with
    ⟨silent, tracksAfter⟩ | ⟨last, taken, result, tracksLast, whole, accepted⟩
  · refine ⟨⟨_, tracksAfter⟩, ?_⟩
    intro returned member
    dsimp only [callStep] at member
    rw [silent] at member
    cases member
  · have complete := tracksLast.completeFrame rfl whole accepted
    dsimp only [callStep]
    rw [result, List.append_assoc] at *
    refine ⟨⟨0, fun parsing => absurd rfl parsing⟩, ?_⟩
    intro returned member
    rw [← Option.some.inj member]
    exact complete

/-! ## One START for each message -/

/-- Since a message was returned, the reader has left its waiting state only by a
START. -/
def StartedSince (returned state : Listening) : Prop :=
  ∃ rest, state.log = returned.log ++ rest ∧
    (state.reader.eRxState ≠ .waitStart → slStartChar ∈ rest)

theorem startedSince_returned {returned state : Listening} {buffer : Buffer}
    (sound : SoundCall state buffer) (member : returned ∈ (callStep state buffer).2) :
    StartedSince returned (callStep state buffer).1 := by
  have nothing : ∀ (consumed : List uint8) (reader : Reader) (u8Data : uint8), True →
      (reader.readByte u8Data).2 = false → True := fun _ _ _ _ _ => trivial
  rcases readLoop_cases nothing sound trivial (readMessage_loop state.reader buffer) with
    ⟨silent, -⟩ | ⟨last, taken, result, -⟩
  · dsimp only [callStep] at member
    rw [silent] at member
    cases member
  · dsimp only [callStep] at member ⊢
    rw [result] at member ⊢
    rw [← Option.some.inj member]
    exact ⟨[], (List.append_nil _).symm, fun waits => absurd rfl waits⟩

theorem callStep_startedSince {returned state : Listening} {buffer : Buffer}
    (sound : SoundCall state buffer) (started : StartedSince returned state) :
    StartedSince returned (callStep state buffer).1 ∧
      ∀ later ∈ (callStep state buffer).2,
        ∃ rest, later.log = returned.log ++ rest ∧ slStartChar ∈ rest := by
  obtain ⟨rest, isLog, inRest⟩ := started
  have preserved : ∀ (consumed : List uint8) (reader : Reader) (u8Data : uint8),
      (reader.eRxState ≠ .waitStart → slStartChar ∈ rest ++ consumed) →
      (reader.readByte u8Data).2 = false →
      ((reader.readByte u8Data).1.eRxState ≠ .waitStart →
        slStartChar ∈ rest ++ (consumed ++ [u8Data])) := by
    intro consumed reader u8Data inTaken _ parsing
    rw [← List.append_assoc]
    by_cases isStart : u8Data = slStartChar
    · exact List.mem_append_right _ (isStart ▸ List.mem_singleton_self u8Data)
    · apply List.mem_append_left
      apply inTaken
      intro waits
      exact parsing (readByte_waitStart waits isStart)
  have start : state.reader.eRxState ≠ .waitStart → slStartChar ∈ rest ++ [] := by
    rw [List.append_nil]
    exact inRest
  rcases readLoop_cases preserved sound start (readMessage_loop state.reader buffer) with
    ⟨silent, inTaken⟩ | ⟨last, taken, result, inTaken, whole, -⟩
  · refine ⟨⟨rest ++ (readMessage state.reader buffer).consumed, ?_, inTaken⟩, ?_⟩
    · rw [← List.append_assoc, ← isLog]
      rfl
    · intro later member
      dsimp only [callStep] at member
      rw [silent] at member
      cases member
  · have parsing : last.eRxState ≠ .waitStart := by
      rw [whole.state]
      decide
    have inLog : slStartChar ∈ rest ++ (taken ++ [slEndChar]) := by
      rw [← List.append_assoc]
      exact List.mem_append_left _ (inTaken parsing)
    have split : state.log ++ (taken ++ [slEndChar]) =
        returned.log ++ (rest ++ (taken ++ [slEndChar])) := by
      rw [isLog, List.append_assoc]
    dsimp only [callStep]
    rw [result]
    refine ⟨⟨_, split, fun waits => absurd rfl waits⟩, ?_⟩
    intro later member
    rw [← Option.some.inj member]
    exact ⟨_, split, inLog⟩

/-! ## Runs of calls -/

/-- A freshly loaded program, with any values in the out-parameters. -/
def Listening.initial (u16Type u16Length : uint16) : Listening :=
  ⟨⟨.initial, u16Type, u16Length, fun _ => 0⟩, []⟩

/-- As long as each accepted END of the run ends a whole message, what is
accepted is complete frames, each from a START of its own. -/
theorem acceptsCompleteFrames_of_sound (u16Type u16Length : uint16) (calls : List Buffer)
    (sound : Execution.EachCall callStep SoundCall (.initial u16Type u16Length) calls) :
    AcceptsCompleteFrames (.initial u16Type u16Length) calls := by
  have tracking : Tracking (.initial u16Type u16Length) := ⟨0, fun parsing => absurd rfl parsing⟩
  constructor
  · exact Execution.forall_observations SoundCall Tracking
      (fun _ _ here holds => (callStep_tracking here holds).1)
      (fun _ _ here holds => (callStep_tracking here holds).2) sound tracking
  · exact Execution.pairwise_observations
      (fun state buffer here returned member => startedSince_returned here member)
      (fun returned state buffer here started => (callStep_startedSince here started).1)
      (fun returned state buffer here started => (callStep_startedSince here started).2) sound

/-- A permit-join request in one buffer, then a version request whose frame is cut
in its header. -/
def requestCalls : List Buffer :=
  [⟨15, bufferOf (frame 0x0049 [0xff, 0xfc, 0x64, 0x00]), by decide⟩,
    ⟨4, bufferOf ((frame 0x0010 []).take 4), by decide⟩,
    ⟨6, bufferOf ((frame 0x0010 []).drop 4), by decide⟩]

theorem acceptsCompleteFrames_requests :
    AcceptsCompleteFrames (.initial 5 300) requestCalls := by
  apply acceptsCompleteFrames_of_sound
  decide +kernel

/-- An END alone is accepted by a freshly loaded program. -/
theorem acceptsCompleteFrames_fails :
    ¬∀ (u16Type u16Length : uint16) (calls : List Buffer),
      AcceptsCompleteFrames (.initial u16Type u16Length) calls := by
  intro all
  have complete := (all 0 0 [⟨1, bufferOf [slEndChar], by decide⟩]).1
  obtain ⟨before, raw, -, -, -, -, -, -, isLog, -⟩ := complete
    ⟨⟨.initial, 0, 0, bufferOf [slEndChar]⟩, [slEndChar]⟩ (List.mem_singleton.mpr rfl)
  have started : slStartChar ∈ [slEndChar] := by
    rw [show [slEndChar] = before ++ slStartChar :: raw from isLog]
    exact List.mem_append_right before List.mem_cons_self
  exact absurd started (by decide)

end StudyDemo.SerialLink
