import StudyDemo.SerialLink.RoundTrip

/-! # Frames cut in two

The parse state survives the end of a buffer, the payload does not: its bytes
are stored in the buffer they arrive in, at their place in the whole message. -/

namespace StudyDemo.SerialLink

/-- Two calls, on a buffer that holds the first part and on another one that
holds the second, answer like one call on the whole. -/
def ReadsInTwo (u16Type : uint16) (payload first second : List uint8) : Prop :=
  ∀ (reader : Reader) (memory : Nat → uint8), reader.eRxState = .waitStart →
    HoldsAt reader.message 0 first → HoldsAt memory 0 second →
    ∃ middle result,
      ReadMessage (BitVec.ofNat 16 first.length) reader middle ∧ middle.returned = false ∧
      ReadMessage (BitVec.ofNat 16 second.length) { middle.reader with message := memory }
        result ∧ result.returned = true ∧
      ∀ whole single, HoldsAt whole 0 (frame u16Type payload) →
        ReadMessage (BitVec.ofNat 16 (frame u16Type payload).length)
          { reader with message := whole } single →
        single.returned = true ∧ result.reader.u16Type = single.reader.u16Type ∧
          result.reader.u16Length = single.reader.u16Length ∧
          ∀ index < single.reader.u16Length.toNat,
            result.reader.message index = single.reader.message index

/-! ## One call on the whole -/

section Frame

variable {u16Type : uint16} {payload : List uint8}

theorem payload_size (short : payload.length ≤ 250) :
    (BitVec.ofNat 16 payload.length).toNat = payload.length := by
  rw [BitVec.toNat_ofNat]
  omega

theorem single_complete (short : payload.length ≤ 250)
    (fits : (frame u16Type payload).length ≤ 255) {reader : Reader}
    (waits : reader.eRxState = .waitStart) {whole : Nat → uint8}
    (buffer : HoldsAt whole 0 (frame u16Type payload)) {single : ReadResult}
    (returns : ReadMessage (BitVec.ofNat 16 (frame u16Type payload).length)
      { reader with message := whole } single) :
    single.returned = true ∧ Complete 0 u16Type payload single.reader := by
  have all : ∃ result, ReadMessage (BitVec.ofNat 16
      (([] : List uint8).length + (frame u16Type payload).length))
      { reader with message := whole } result ∧
      result.returned = true ∧ Complete 0 u16Type payload result.reader :=
    readMessage_garbage_frame u16Type short List.not_mem_nil
      (by rw [List.length_nil]; omega) waits buffer
  rw [List.length_nil, Nat.zero_add] at all
  obtain ⟨result, other, returned, complete⟩ := all
  rw [returns.unique other]
  exact ⟨returned, complete⟩

theorem Complete.agree {result single : Reader} (short : payload.length ≤ 250)
    (left : Complete 0 u16Type payload result) (right : Complete 0 u16Type payload single) :
    result.u16Type = single.u16Type ∧ result.u16Length = single.u16Length ∧
      ∀ index < single.u16Length.toNat, result.message index = single.message index := by
  refine ⟨left.type.trans right.type.symm, left.length.trans right.length.symm, ?_⟩
  intro index inside
  rw [right.length, payload_size short] at inside
  rw [left.stored index (Nat.zero_le index) inside,
    right.stored index (Nat.zero_le index) inside]

theorem exists_single (u16Type : uint16) (short : payload.length ≤ 250)
    (fits : (frame u16Type payload).length ≤ 255) {reader : Reader}
    (waits : reader.eRxState = .waitStart) :
    ∃ single, ReadMessage (BitVec.ofNat 16 (frame u16Type payload).length)
      { reader with message := bufferOf (frame u16Type payload) } single ∧
      Complete 0 u16Type payload single.reader := by
  have whole : ∃ result, ReadMessage (BitVec.ofNat 16
      (([] : List uint8).length + (frame u16Type payload).length))
      { reader with message := bufferOf (frame u16Type payload) } result ∧
      result.returned = true ∧ Complete 0 u16Type payload result.reader :=
    readMessage_garbage_frame u16Type short List.not_mem_nil
      (by rw [List.length_nil]; omega) waits (bufferOf_holds _)
  rw [List.length_nil, Nat.zero_add] at whole
  obtain ⟨single, returns, -, complete⟩ := whole
  exact ⟨single, returns, complete⟩

theorem Complete.waiting {reader : Reader} (complete : Complete 0 u16Type payload reader) :
    Complete 0 u16Type payload { reader with eRxState := .waitStart } :=
  ⟨complete.type, complete.length, complete.crc, complete.stored⟩

/-! ## The first call -/

theorem readMessage_noEnd {reader : Reader} {bytes : List uint8} (noEnd : slEndChar ∉ bytes)
    (small : bytes.length ≤ 255) (buffer : HoldsAt reader.message 0 bytes)
    (behind : Behind 0 reader) :
    ReadMessage (BitVec.ofNat 16 bytes.length) reader ⟨reader.feed bytes, false, bytes⟩ := by
  have length : (BitVec.ofNat 16 bytes.length).toNat = bytes.length := by
    rw [BitVec.toNat_ofNat]
    omega
  obtain ⟨loop, -, -⟩ := readLoop_feed (BitVec.ofNat 16 bytes.length) 1 [] noEnd buffer
    (by omega) (by omega) behind
  have value : (BitVec.ofNat 8 (0 + bytes.length)).toNat = bytes.length := by
    rw [BitVec.toNat_ofNat]
    omega
  have stops : readLoop (BitVec.ofNat 16 bytes.length) 1 (BitVec.ofNat 8 (0 + bytes.length))
      (reader.feed bytes) ([] ++ bytes) = some ⟨reader.feed bytes, false, bytes⟩ := by
    rw [readLoop, value, length, if_neg (Nat.lt_irrefl _), List.nil_append]
  exact ⟨_, loop.trans stops⟩

/-- Where a cut of a frame goes through: the START and a part of the body come
first, the rest of the body and the END second. -/
theorem split_frame (short : payload.length ≤ 250) {first second : List uint8}
    (split : frame u16Type payload = first ++ second) (nonemptyFirst : first ≠ [])
    (nonemptySecond : second ≠ []) :
    ∃ body rest, first = slStartChar :: body ∧ second = rest ++ [slEndChar] ∧
      body ++ rest = serialCode.stuff (frameBytes u16Type payload) := by
  rw [frame_eq u16Type short] at split
  cases first with
  | nil => exact absurd rfl nonemptyFirst
  | cons start body =>
      rw [List.cons_append, List.cons.injEq] at split
      rcases List.eq_nil_or_concat' second with empty | ⟨rest, last, isSecond⟩
      · exact absurd empty nonemptySecond
      · rw [isSecond, ← List.append_assoc] at split
        have parts := List.append_inj' split.2 rfl
        refine ⟨body, rest, by rw [split.1], ?_, parts.1.symm⟩
        rw [isSecond, ← parts.2]

theorem unstuff_split {body rest : List uint8}
    (whole : body ++ rest = serialCode.stuff (frameBytes u16Type payload)) :
    serialCode.unstuff false body ++
        serialCode.unstuff (serialCode.pending false body) rest =
      frameBytes u16Type payload := by
  rw [← serialCode.unstuff_append, whole]
  exact (serialCode.unstuff_stuff _).1

theorem first_call {reader : Reader} (body rest : List uint8)
    (waits : reader.eRxState = .waitStart)
    (whole : body ++ rest = serialCode.stuff (frameBytes u16Type payload))
    (small : (slStartChar :: body).length ≤ 255)
    (buffer : HoldsAt reader.message 0 (slStartChar :: body)) :
    ReadMessage (BitVec.ofNat 16 (slStartChar :: body).length) reader
        ⟨reader.feed (slStartChar :: body), false, slStartChar :: body⟩ ∧
      Parsed 0 (reader.feed (slStartChar :: body)) (serialCode.unstuff false body) ∧
      (reader.feed (slStartChar :: body)).bInEsc = serialCode.pending false body := by
  have plain : ∀ u8Data ∈ body, Plain u8Data := fun u8Data member =>
    plain_of_mem_stuff u8Data (whole ▸ List.mem_append_left rest member)
  have noEnd : slEndChar ∉ slStartChar :: body := by
    intro member
    rcases List.mem_cons.mp member with isStart | inBody
    · exact absurd isStart (by decide)
    · exact (plain _ inBody).2 rfl
  exact ⟨readMessage_noEnd noEnd small buffer (Or.inl waits), parsed_feed_start reader plain⟩

theorem readsInTwo_of_second (short : payload.length ≤ 250)
    (fits : (frame u16Type payload).length ≤ 255) {body rest : List uint8}
    (whole : body ++ rest = serialCode.stuff (frameBytes u16Type payload))
    (second : ∀ (reader : Reader) (memory : Nat → uint8),
      Parsed 0 reader (serialCode.unstuff false body) →
      reader.bInEsc = serialCode.pending false body → HoldsAt memory 0 (rest ++ [slEndChar]) →
      ∃ result, ReadMessage (BitVec.ofNat 16 (rest ++ [slEndChar]).length)
        { reader with message := memory } result ∧ result.returned = true ∧
        Complete 0 u16Type payload result.reader) :
    ReadsInTwo u16Type payload (slStartChar :: body) (rest ++ [slEndChar]) := by
  intro reader memory waits firstBuffer secondBuffer
  have size : (slStartChar :: body).length ≤ 255 := by
    rw [frame_eq u16Type short, ← whole] at fits
    simp only [List.length_cons, List.length_append] at fits ⊢
    omega
  obtain ⟨firstReturns, parsed, flag⟩ := first_call body rest waits whole size firstBuffer
  obtain ⟨result, returns, returned, complete⟩ := second _ memory parsed flag secondBuffer
  refine ⟨_, result, firstReturns, rfl, returns, returned, ?_⟩
  intro other single otherBuffer singleReturns
  obtain ⟨singleReturned, singleComplete⟩ :=
    single_complete short fits waits otherBuffer singleReturns
  exact ⟨singleReturned, complete.agree short singleComplete⟩

theorem plain_of_whole {body rest : List uint8}
    (whole : body ++ rest = serialCode.stuff (frameBytes u16Type payload)) :
    ∀ u8Data ∈ rest, Plain u8Data := fun u8Data member =>
  plain_of_mem_stuff u8Data (whole ▸ List.mem_append_right body member)

theorem length_rest_le (short : payload.length ≤ 250)
    (fits : (frame u16Type payload).length ≤ 255) {body rest : List uint8}
    (whole : body ++ rest = serialCode.stuff (frameBytes u16Type payload)) :
    rest.length ≤ 253 := by
  rw [frame_eq u16Type short, ← whole] at fits
  simp only [List.length_cons, List.length_append, List.length_nil] at fits
  omega

/-! ## Cuts before the payload -/

theorem readsInTwo_of_header (short : payload.length ≤ 250)
    (fits : (frame u16Type payload).length ≤ 255) {body rest : List uint8}
    (whole : body ++ rest = serialCode.stuff (frameBytes u16Type payload))
    (header : (serialCode.unstuff false body).length ≤ 5) :
    ReadsInTwo u16Type payload (slStartChar :: body) (rest ++ [slEndChar]) := by
  apply readsInTwo_of_second short fits whole
  intro reader memory parsed flag buffer
  obtain ⟨parsedAgain, idle⟩ := parsed.rebuffer_header header memory
  have plain := plain_of_whole whole
  have behind : Behind 0 { reader with message := memory } := by
    rcases idle with waits | none
    · exact Or.inl waits
    · refine Or.inr (Nat.le_of_eq ?_)
      change reader.u16Bytes.toNat = 0
      rw [none]
      rfl
  obtain ⟨parsedAll, -⟩ := parsedAgain.feed plain
  rw [show ({ reader with message := memory } : Reader).bInEsc =
    serialCode.pending false body from flag, unstuff_split whole] at parsedAll
  have complete := parsedAll.complete short
  have returns := readLoop_frame_end short (fun member => (plain _ member).2 rfl)
    (Nat.le_trans (length_rest_le short fits whole) (by decide)) buffer behind complete
  rw [List.length_append]
  exact ⟨_, returns, rfl, complete.waiting⟩

/-! ## Cuts in the payload -/

theorem unstuff_ne_nil {flag : Bool} {bytes : List uint8} {last : uint8}
    (notEscape : last ≠ slEscChar) :
    serialCode.unstuff flag (bytes ++ [last]) ≠ [] := by
  rw [serialCode.unstuff_append, serialCode.unstuff_singleton _ notEscape]
  exact List.append_ne_nil_of_right_ne_nil _ (List.cons_ne_nil _ _)

theorem body_of_end_payload {body rest : List uint8}
    (whole : body ++ rest = serialCode.stuff (frameBytes u16Type [slEndChar])) :
    (serialCode.unstuff false body).length ≤ 5 ∨ rest = [] := by
  rcases List.eq_nil_or_concat' rest with empty | ⟨earlier, last, isRest⟩
  · exact Or.inr empty
  · refine Or.inl ?_
    have split := unstuff_split whole
    have changed : last = 0x13 := by
      have tail : serialCode.stuff (frameBytes u16Type [slEndChar]) =
          serialCode.stuff ((frameBytes u16Type [slEndChar]).dropLast) ++
            [slEscChar] ++ [0x13] := by
        rw [List.append_assoc]
        exact serialCode.stuff_append ((frameBytes u16Type [slEndChar]).dropLast) [slEndChar]
      rw [isRest, tail, ← List.append_assoc] at whole
      have parts := List.append_inj' whole rfl
      exact (List.cons.inj parts.2).1
    have something : serialCode.unstuff (serialCode.pending false body) rest ≠ [] := by
      rw [isRest]
      exact unstuff_ne_nil (by rw [changed]; decide)
    have lengths := congrArg List.length split
    have positive := List.length_pos_iff.mpr something
    rw [List.length_append] at lengths
    change _ = 6 at lengths
    omega

theorem Parsed.rebuffer_same {reader : Reader} {parsed : List uint8}
    (state : Parsed 0 reader parsed) {memory : Nat → uint8}
    (same : ∀ index < reader.u16Bytes.toNat, memory index = reader.message index) :
    Parsed 0 { reader with message := memory } parsed := by
  match parsed with
  | [] => exact state
  | [_] => exact state
  | [_, _] => exact state
  | [_, _, _] => exact state
  | [_, _, _, _] => exact state
  | _ :: _ :: _ :: _ :: _ :: _ =>
      rcases state with tooLong | ⟨fits, collecting⟩
      · exact Or.inl tooLong
      · refine Or.inr ⟨fits, collecting.state, collecting.u16Type, collecting.u16Length,
          collecting.u8CRC, collecting.bytes, ?_⟩
        intro index fromBase inside
        exact (same index inside).trans (collecting.stored index fromBase inside)

/-- The first part completes one payload byte, 0x02, and the second begins with the escape
of the next: the same byte at the same place, and the stores stay behind the loop. -/
structure Echoes (payload first second : List uint8) : Prop where
  one : (serialCode.unstuff false first.tail).length = 6
  head : payload.head? = some slEscChar
  again : second.head? = some slEscChar

theorem readLoop_escape_end {reader : Reader} {bytes : List uint8}
    (short : payload.length ≤ 250) (noEnd : slEndChar ∉ bytes) (small : bytes.length ≤ 253)
    (buffer : HoldsAt reader.message 0 (slEscChar :: bytes ++ [slEndChar]))
    (behind : Behind 1 reader)
    (complete : Complete 0 u16Type payload (reader.feed (slEscChar :: bytes))) :
    ReadMessage (BitVec.ofNat 16 (bytes.length + 2)) reader
      ⟨{ reader.feed (slEscChar :: bytes) with eRxState := .waitStart }, true,
        slEscChar :: bytes ++ [slEndChar]⟩ := by
  obtain ⟨before, last⟩ := HoldsAt.append.mp buffer
  obtain ⟨first, rest⟩ := HoldsAt.append.mp (show HoldsAt reader.message 0
    ([slEscChar] ++ bytes) from before)
  have here : reader.message 0 = slEscChar := first 0 Nat.one_pos
  have escape : reader.readByte slEscChar = ({ reader with bInEsc := true }, false) := by
    rw [Reader.readByte, if_neg (by decide), if_pos rfl]
  have length : (BitVec.ofNat 16 (bytes.length + 2)).toNat = bytes.length + 2 := by
    rw [BitVec.toNat_ofNat]
    omega
  obtain ⟨loop, unread, -⟩ := @readLoop_feed (BitVec.ofNat 16 (bytes.length + 2)) 1 1
    { reader with bInEsc := true } bytes [slEscChar] noEnd rest (by omega) (by omega) behind
  have isEnd : (({ reader with bInEsc := true } : Reader).feed bytes).message
      (1 + bytes.length) = slEndChar := by
    rw [unread _ (Nat.le_refl _)]
    have isLast := last 0 Nat.one_pos
    rwa [List.length_cons, Nat.zero_add, Nat.add_zero, Nat.add_comm] at isLast
  have fed : reader.feed (slEscChar :: bytes) =
      ({ reader with bInEsc := true } : Reader).feed bytes := by
    rw [Reader.feed_cons, escape]
  rw [fed] at complete ⊢
  have accepts := complete.readByte_end short
  rw [readLoop_end 0 _ (by omega) (by omega) isEnd (by rw [accepts]), accepts] at loop
  refine ⟨1 + bytes.length + 1, ?_⟩
  rw [readLoop, if_pos (by rw [length]; exact Nat.succ_pos _)]
  dsimp only
  rw [show (0 : uint8).toNat = 0 from rfl, here, escape]
  exact loop

theorem readsInTwo_of_echoes (short : payload.length ≤ 250)
    (fits : (frame u16Type payload).length ≤ 255) {body rest : List uint8}
    (whole : body ++ rest = serialCode.stuff (frameBytes u16Type payload))
    (echoes : Echoes payload (slStartChar :: body) (rest ++ [slEndChar])) :
    ReadsInTwo u16Type payload (slStartChar :: body) (rest ++ [slEndChar]) := by
  apply readsInTwo_of_second short fits whole
  intro reader memory parsed flag buffer
  have split := unstuff_split whole
  have one : (serialCode.unstuff false body).length = 6 := echoes.one
  cases payload with
  | nil =>
      have sizes := congrArg List.length split
      rw [List.length_append, one] at sizes
      change 6 + _ = 5 at sizes
      omega
  | cons byte payload =>
      have firstBytes : serialCode.unstuff false body =
          (frameBytes u16Type (byte :: payload)).take 6 := by
        rw [← split, ← one, List.take_left]
      -- The one byte stored in the first buffer is there in the second.
      have here : memory 0 = byte := by
        have start := buffer 0 (by rw [List.length_append]; exact Nat.succ_pos _)
        rw [Nat.zero_add] at start
        rw [start, List.getD, ← List.head?_eq_getElem?, echoes.again]
        exact (Option.some.inj echoes.head).symm
      obtain ⟨stored, same⟩ : reader.u16Bytes.toNat ≤ 1 ∧
          ∀ index < reader.u16Bytes.toNat, memory index = reader.message index := by
        rw [firstBytes] at parsed
        rcases parsed with ⟨long, -⟩ | ⟨-, collecting⟩
        · rw [word_bytes, payload_size short] at long
          exact absurd long (Nat.not_lt_of_le (Nat.le_trans short (by decide)))
        · have few := collecting.bytes
          rw [show ((byte :: payload).take 1).length = 1 from rfl] at few
          refine ⟨by omega, fun index inside => ?_⟩
          obtain rfl : index = 0 := by omega
          rw [here, collecting.stored 0 (Nat.le_refl 0) inside]
          rfl
      have parsedAgain := parsed.rebuffer_same same
      have plain := plain_of_whole whole
      obtain ⟨parsedAll, -⟩ := parsedAgain.feed plain
      rw [show ({ reader with message := memory } : Reader).bInEsc =
        serialCode.pending false body from flag, split] at parsedAll
      have complete := parsedAll.complete short
      cases rest with
      | nil => exact absurd (Option.some.inj echoes.again) (by decide)
      | cons first rest =>
          obtain rfl : first = slEscChar := Option.some.inj echoes.again
          have small := length_rest_le short fits whole
          rw [List.length_cons] at small
          have size : (slEscChar :: rest ++ [slEndChar]).length = rest.length + 2 := by
            rw [List.length_append]
            rfl
          rw [size]
          exact ⟨_, @readLoop_escape_end u16Type _ { reader with message := memory } rest short
            (fun member => (plain _ (List.mem_cons_of_mem _ member)).2 rfl) (by omega) buffer
            (Or.inr stored) complete, rfl, complete.waiting⟩

/-! ## Cuts with no escape behind them -/

theorem readByte_unreserved {reader : Reader} {u8Data : uint8}
    (unreserved : serialCode.reserved u8Data = false) (closed : reader.bInEsc = false) :
    reader.readByte u8Data = (reader.takeByte u8Data, false) := by
  have other : ∀ control, serialCode.reserved control = true → u8Data ≠ control := by
    intro control isReserved equal
    rw [equal, isReserved] at unreserved
    exact absurd unreserved.symm Bool.false_ne_true
  rw [Reader.readByte, if_neg (other _ rfl), if_neg (other _ rfl), if_neg (other _ rfl), closed,
    if_neg Bool.false_ne_true]

/-- The second call of a frame of which `early` payload bytes came first, before the byte
at `cursor`, with `late` bytes to come: each store is that far ahead of the cursor. -/
structure Overtaking (start : Reader) (early late cursor : Nat) (reader : Reader) : Prop where
  state : reader.eRxState = .waitData
  bInEsc : reader.bInEsc = false
  u8CRC : reader.u8CRC = start.u8CRC
  u16Type : reader.u16Type = start.u16Type
  u16Length : reader.u16Length = start.u16Length
  size : start.u16Length.toNat = early + late
  u16Bytes : reader.u16Bytes.toNat = early + cursor
  kept : ∀ index < early, reader.message index = start.message index
  echoed : ∀ index < cursor, index < early →
    reader.message (early + index) = start.message index
  stored : ∀ index, early ≤ index → index < early + cursor →
    serialCode.reserved (reader.message index) = false

section Overtaking

variable {start reader : Reader} {early cursor : Nat} {bytes : List uint8}
  (buffer : HoldsAt start.message 0 (bytes ++ [slEndChar]))
  (unreserved : ∀ byte ∈ bytes, serialCode.reserved byte = false)

include unreserved buffer

theorem Overtaking.next (overtaking : Overtaking start early bytes.length cursor reader)
    (positive : 0 < early) (inside : cursor < bytes.length) :
    (reader.readByte (reader.message cursor)).2 = false ∧
      Overtaking start early bytes.length (cursor + 1)
        (reader.readByte (reader.message cursor)).1 := by
  have plain : serialCode.reserved (reader.message cursor) = false := by
    by_cases below : cursor < early
    · have here := (HoldsAt.append.mp buffer).1 cursor inside
      rw [Nat.zero_add] at here
      rw [overtaking.kept cursor below, here, List.getD, List.getElem?_eq_getElem inside]
      exact unreserved _ (List.getElem_mem inside)
    · exact overtaking.stored cursor (Nat.le_of_not_lt below) (by omega)
  have echo : cursor < early → reader.message cursor = start.message cursor :=
    overtaking.kept cursor
  generalize reader.message cursor = u8Data at plain echo
  rw [readByte_unreserved plain overtaking.bInEsc]
  have size := overtaking.size
  have bound := start.u16Length.isLt
  have room : reader.u16Bytes < reader.u16Length := by
    rw [BitVec.lt_def, overtaking.u16Bytes, overtaking.u16Length]
    omega
  have next : (reader.u16Bytes + 1).toNat = early + cursor + 1 := by
    rw [BitVec.toNat_add, overtaking.u16Bytes]
    change (early + cursor + 1) % 65536 = _
    omega
  refine ⟨rfl, ?_⟩
  rw [Reader.takeByte, overtaking.state]
  dsimp only
  rw [if_pos room, overtaking.u16Bytes]
  refine ⟨rfl, overtaking.bInEsc, overtaking.u8CRC, overtaking.u16Type,
    overtaking.u16Length, size, next, ?kept, ?echoed, ?stored⟩
  case kept =>
    intro index below
    rw [← overtaking.kept index below]
    exact Function.update_of_ne (by omega) _ _
  case echoed =>
    intro index before below
    dsimp only
    by_cases last : index = cursor
    · rw [last, Function.update_self]
      exact echo (last ▸ below)
    · rw [Function.update_of_ne (by omega)]
      exact overtaking.echoed index (by omega) below
  case stored =>
    intro index above below
    dsimp only
    by_cases last : index = early + cursor
    · rw [last, Function.update_self]
      exact plain
    · rw [Function.update_of_ne last]
      exact overtaking.stored index above (by omega)

theorem Overtaking.loop (overtaking : Overtaking start early bytes.length 0 start)
    (positive : 0 < early) (small : bytes.length ≤ 253) (inside : cursor ≤ bytes.length) :
    ∃ later consumed, Overtaking start early bytes.length cursor later ∧
      ∀ fuel, readLoop (BitVec.ofNat 16 (bytes.length + 1)) (fuel + cursor) 0 start [] =
        readLoop (BitVec.ofNat 16 (bytes.length + 1)) fuel (BitVec.ofNat 8 cursor) later
          consumed := by
  induction cursor with
  | zero => exact ⟨start, [], overtaking, fun _ => rfl⟩
  | succ cursor induction =>
      obtain ⟨later, consumed, here, loop⟩ := induction (Nat.le_of_succ_le inside)
      obtain ⟨goesOn, next⟩ := here.next buffer unreserved positive inside
      refine ⟨_, consumed ++ [later.message cursor], next, fun fuel => ?_⟩
      have value : (BitVec.ofNat 8 cursor).toNat = cursor := by
        rw [BitVec.toNat_ofNat]
        omega
      have whole : (BitVec.ofNat 16 (bytes.length + 1)).toNat = bytes.length + 1 := by
        rw [BitVec.toNat_ofNat]
        omega
      have step : BitVec.ofNat 8 cursor + 1 = BitVec.ofNat 8 (cursor + 1) :=
        (BitVec.ofNat_add cursor 1).symm
      rw [← Nat.add_assoc, Nat.add_right_comm, loop (fuel + 1), readLoop, value,
        if_pos (by omega)]
      dsimp only
      rw [goesOn, if_neg Bool.false_ne_true, step]

/-- Unless the stores begin behind the END they overwrite it, and the call does not return
TRUE. -/
theorem Overtaking.returned (overtaking : Overtaking start early bytes.length 0 start)
    (positive : 0 < early) (small : bytes.length ≤ 253) {result : ReadResult}
    (returns : ReadMessage (BitVec.ofNat 16 (bytes.length + 1)) start result)
    (returned : result.returned = true) :
    bytes.length < early ∧ ∀ index < early, result.reader.message index =
      start.message index := by
  obtain ⟨later, consumed, here, loop⟩ :=
    overtaking.loop buffer unreserved positive small (Nat.le_refl _)
  obtain ⟨fuel, returns⟩ := returns
  have more := readLoop_mono returns (show fuel ≤ fuel + 1 + 1 + bytes.length by omega)
  have value : (BitVec.ofNat 8 bytes.length).toNat = bytes.length := by
    rw [BitVec.toNat_ofNat]
    omega
  have next : (BitVec.ofNat 8 bytes.length + 1).toNat = bytes.length + 1 := by
    rw [BitVec.toNat_add, value]
    change (bytes.length + 1) % 256 = _
    omega
  have whole : (BitVec.ofNat 16 (bytes.length + 1)).toNat = bytes.length + 1 := by
    rw [BitVec.toNat_ofNat]
    omega
  rw [loop, readLoop, value, if_pos (by omega)] at more
  dsimp only at more
  by_cases below : bytes.length < early
  · have isEnd : later.message bytes.length = slEndChar := by
      have last := (HoldsAt.append.mp buffer).2 0 Nat.one_pos
      rw [Nat.zero_add, Nat.add_zero] at last
      exact (here.kept _ below).trans last
    refine ⟨below, fun index inside => ?_⟩
    rw [isEnd] at more
    split_ifs at more
    · rw [← Option.some.inj more]
      exact (congrFun (readByte_end_message later) index).trans (here.kept index inside)
    · rw [readLoop, next, whole, if_neg (Nat.lt_irrefl _)] at more
      rw [← Option.some.inj more] at returned
      exact absurd returned Bool.false_ne_true
  · have stored := here.stored bytes.length (Nat.le_of_not_lt below) (by omega)
    rw [readByte_unreserved stored here.bInEsc, if_neg Bool.false_ne_true, readLoop, next, whole,
      if_neg (Nat.lt_irrefl _)] at more
    rw [← Option.some.inj more] at returned
    exact absurd returned Bool.false_ne_true

end Overtaking

/-- Nothing behind the cut is escaped. -/
structure Unescaped (first second : List uint8) : Prop where
  closed : serialCode.pending false first.tail = false
  plain : slEscChar ∉ second

section Unescaped

variable {body rest : List uint8}
  (whole : body ++ rest = serialCode.stuff (frameBytes u16Type payload))
  (unescaped : Unescaped (slStartChar :: body) (rest ++ [slEndChar]))

include whole unescaped

theorem Unescaped.unreserved : ∀ byte ∈ rest, serialCode.reserved byte = false := by
  intro byte member
  by_contra isReserved
  have sent : byte ∈ serialCode.stuff (frameBytes u16Type payload) :=
    whole ▸ List.mem_append_right body member
  have isEscape : byte = slEscChar :=
    serialCode.eq_escape_of_mem_stuff sent (by simpa using isReserved)
  exact unescaped.plain (List.mem_append_left _ (isEscape ▸ member))

theorem Unescaped.cut_payload (late : 5 < (serialCode.unstuff false body).length) :
    ∃ front, front ≠ [] ∧ payload = front ++ rest ∧
      serialCode.unstuff false body = (frameBytes u16Type payload).take 5 ++ front := by
  have split := unstuff_split whole
  rw [show serialCode.pending false body = false from unescaped.closed,
    serialCode.unstuff_of_not_mem fun member => unescaped.plain (List.mem_append_left _ member),
    ← List.take_append_drop 5 (frameBytes u16Type payload)] at split
  rcases List.append_eq_append_iff.mp split with ⟨more, isHead, -⟩ | ⟨front, isBody, isPayload⟩
  · have size := congrArg List.length isHead
    rw [List.length_append] at size
    change 5 = _ at size
    omega
  · refine ⟨front, ?_, isPayload, isBody⟩
    rintro rfl
    rw [List.append_nil] at isBody
    rw [isBody] at late
    exact absurd late (Nat.lt_irrefl 5)

end Unescaped

theorem Parsed.collecting_frame {reader : Reader} {front : List uint8} (short : payload.length ≤ 250)
    (parsed : Parsed 0 reader ((frameBytes u16Type payload).take 5 ++ front)) :
    Collecting 0 reader u16Type (BitVec.ofNat 16 payload.length)
      (messageCrc u16Type payload) front := by
  rcases parsed with ⟨long, -⟩ | ⟨-, collecting⟩
  · rw [word_bytes, payload_size short] at long
    exact absurd long (Nat.not_lt_of_le (Nat.le_trans short (by decide)))
  · rwa [word_bytes, word_bytes] at collecting

theorem Collecting.overtaking {reader : Reader} {front rest : List uint8} {type : uint16}
    {crc : uint8} (short : (front ++ rest).length ≤ 250)
    (collecting : Collecting 0 reader type (BitVec.ofNat 16 (front ++ rest).length) crc front)
    (closed : reader.bInEsc = false) (memory : Nat → uint8) :
    Overtaking { reader with message := memory } front.length rest.length 0
      { reader with message := memory } := by
  have size : (BitVec.ofNat 16 (front ++ rest).length).toNat = front.length + rest.length := by
    rw [payload_size short, List.length_append]
  refine ⟨collecting.state, closed, rfl, rfl, rfl, ?size, ?bytes, fun _ _ => rfl, ?echoed,
    ?stored⟩
  case size =>
    change reader.u16Length.toNat = _
    rw [collecting.u16Length, size]
  case bytes =>
    change reader.u16Bytes.toNat = _
    rw [collecting.bytes, size]
    omega
  case echoed =>
    intro index before
    exact absurd before (Nat.not_lt_zero index)
  case stored =>
    intro index above below
    omega

/-- The payload repeats what the second buffer holds, its END in the middle: the first part
stores no more than the second buffer shows again. -/
theorem readsInTwo_of_repeats (short : payload.length ≤ 250)
    (fits : (frame u16Type payload).length ≤ 255) {body rest : List uint8}
    (whole : body ++ rest = serialCode.stuff (frameBytes u16Type payload))
    (unescaped : Unescaped (slStartChar :: body) (rest ++ [slEndChar]))
    (late : 5 < (serialCode.unstuff false body).length)
    (repeats : payload = rest ++ [slEndChar] ++ rest) :
    ReadsInTwo u16Type payload (slStartChar :: body) (rest ++ [slEndChar]) := by
  apply readsInTwo_of_second short fits whole
  intro reader memory parsed flag buffer
  obtain ⟨front, -, rfl, isBody⟩ := unescaped.cut_payload whole late
  have isFront : front = rest ++ [slEndChar] := List.append_cancel_right repeats
  have size : front.length = rest.length + 1 := by
    rw [isFront, List.length_append, List.length_singleton]
  have total : (front ++ rest).length = front.length + rest.length := List.length_append
  rw [isBody] at parsed
  have collecting := parsed.collecting_frame short
  have overtaking := collecting.overtaking short (flag.trans unescaped.closed) memory
  obtain ⟨later, consumed, here, loop⟩ := overtaking.loop buffer
    (unescaped.unreserved whole) (by omega) (by omega) (Nat.le_refl _)
  have shows : ∀ index < front.length, memory index = front.getD index 0 := by
    intro index inside
    have shown := buffer index (by rw [← isFront]; exact inside)
    rwa [Nat.zero_add, ← isFront] at shown
  have isEnd : later.message rest.length = slEndChar := by
    rw [here.kept _ (by omega)]
    exact (shows _ (by omega)).trans (by simp [isFront])
  have complete : Complete 0 u16Type (front ++ rest) later := by
    refine ⟨here.u16Type.trans collecting.u16Type, here.u16Length.trans collecting.u16Length,
      here.u8CRC.trans collecting.u8CRC, ?_⟩
    intro index _ inside
    by_cases early : index < front.length
    · rw [here.kept index early]
      refine (shows index early).trans ?_
      simp [List.getD, List.getElem?_append_left early]
    · obtain ⟨offset, rfl⟩ := Nat.exists_eq_add_of_le (Nat.le_of_not_lt early)
      have within : offset < rest.length := by omega
      have again : front.getD offset 0 = rest.getD offset 0 := by
        simp [List.getD, isFront, List.getElem?_append_left within]
      have later : (front ++ rest).getD (front.length + offset) 0 = rest.getD offset 0 := by
        simp [List.getD, List.getElem?_append_right (Nat.le_add_right front.length offset)]
      rw [here.echoed offset within (by omega), later]
      exact (shows offset (by omega)).trans again
  have accepts := complete.readByte_end short
  have last := readLoop_end 0 consumed (by omega)
    (show rest.length < (BitVec.ofNat 16 (rest.length + 1)).toNat by
      rw [BitVec.toNat_ofNat]
      omega) isEnd (by rw [accepts])
  rw [accepts] at last
  have returns := (loop 1).trans last
  rw [List.length_append, List.length_singleton]
  exact ⟨_, ⟨_, returns⟩, rfl, complete.waiting⟩

/-- The memory shows the second part, and differs from the front everywhere behind it. -/
theorem front_of_shown {front part : List uint8} (longer : part.length ≤ front.length)
    (shown : ∀ index < front.length,
      (if index < part.length then part.getD index 0 else front.getD index 0 + 1) =
        front.getD index 0) : front = part := by
  have all : front.length = part.length := by
    by_contra more
    have wrong := shown part.length (by omega)
    rw [if_neg (Nat.lt_irrefl _)] at wrong
    have other : ∀ byte : uint8, byte + 1 ≠ byte := by decide
    exact other _ wrong
  apply List.ext_getElem all
  intro index inside also
  have here := shown index inside
  rw [if_pos also] at here
  simpa [List.getD, List.getElem?_eq_getElem inside, List.getElem?_eq_getElem also] using here.symm

/-- A cut in the payload with nothing escaped behind it reads in two only where the payload
repeats what the second buffer holds. -/
theorem repeats_of_readsInTwo (short : payload.length ≤ 250)
    (fits : (frame u16Type payload).length ≤ 255) {body rest : List uint8}
    (whole : body ++ rest = serialCode.stuff (frameBytes u16Type payload))
    (unescaped : Unescaped (slStartChar :: body) (rest ++ [slEndChar]))
    (late : 5 < (serialCode.unstuff false body).length)
    (reads : ReadsInTwo u16Type payload (slStartChar :: body) (rest ++ [slEndChar])) :
    payload = rest ++ [slEndChar] ++ rest := by
  obtain ⟨front, nonempty, rfl, isBody⟩ := unescaped.cut_payload whole late
  have total : (front ++ rest).length = front.length + rest.length := List.length_append
  have partSize : (rest ++ [slEndChar]).length = rest.length + 1 := by simp
  -- A memory that differs from the payload wherever the second part leaves it open.
  set memory : Nat → uint8 := fun index =>
    if index < (rest ++ [slEndChar]).length then (rest ++ [slEndChar]).getD index 0
    else front.getD index 0 + 1 with isMemory
  set first := slStartChar :: body with isFirst
  set start : Reader := ⟨.initial, 0, 0, bufferOf first⟩
  have buffer : HoldsAt memory 0 (rest ++ [slEndChar]) := by
    intro index inside
    rw [Nat.zero_add, isMemory]
    exact if_pos inside
  obtain ⟨middle, result, firstReturns, -, second, returned, same⟩ :=
    reads start memory rfl (bufferOf_holds first) buffer
  have size : first.length ≤ 255 := by
    rw [frame_eq u16Type short, ← whole] at fits
    simp only [isFirst, List.length_cons, List.length_append] at fits ⊢
    omega
  obtain ⟨expected, parsed, flag⟩ :=
    @first_call u16Type (front ++ rest) start body rest rfl whole size (bufferOf_holds first)
  obtain rfl := firstReturns.unique expected
  rw [isBody] at parsed
  have overtaking := (parsed.collecting_frame short).overtaking short
    (flag.trans unescaped.closed) memory
  rw [partSize] at second
  obtain ⟨below, kept⟩ := overtaking.returned buffer (unescaped.unreserved whole)
    (List.length_pos_iff.mpr nonempty) (by omega) second returned
  obtain ⟨single, singleReturns, complete⟩ := exists_single u16Type short fits
    (show start.eRxState = .waitStart from rfl)
  obtain ⟨-, -, -, bytes⟩ := same _ single (bufferOf_holds _) singleReturns
  have isFront : front = rest ++ [slEndChar] := by
    apply front_of_shown (by omega)
    intro index inside
    have here := bytes index (by rw [complete.length, payload_size short]; omega)
    rw [complete.stored index (Nat.zero_le index) (by omega), kept index inside] at here
    refine here.trans ?_
    simp [List.getD, List.getElem?_append_left inside]
  rw [isFront]

/-- With nothing escaped behind it a cut reads in two only where no payload byte is complete,
or where the payload repeats what the second buffer holds. -/
theorem readsInTwo_unescaped_iff (short : payload.length ≤ 250)
    (fits : (frame u16Type payload).length ≤ 255) {body rest : List uint8}
    (whole : body ++ rest = serialCode.stuff (frameBytes u16Type payload))
    (unescaped : Unescaped (slStartChar :: body) (rest ++ [slEndChar])) :
    ReadsInTwo u16Type payload (slStartChar :: body) (rest ++ [slEndChar]) ↔
      (serialCode.unstuff false body).length ≤ 5 ∨ payload = rest ++ [slEndChar] ++ rest := by
  by_cases header : (serialCode.unstuff false body).length ≤ 5
  · exact iff_of_true (readsInTwo_of_header short fits whole header) (Or.inl header)
  · have late := Nat.lt_of_not_le header
    constructor
    · intro reads
      exact Or.inr (repeats_of_readsInTwo short fits whole unescaped late reads)
    · rintro (early | repeats)
      · exact absurd early header
      · exact readsInTwo_of_repeats short fits whole unescaped late repeats

theorem readsInTwo_cut (short : payload.length ≤ 250)
    (fits : (frame u16Type payload).length ≤ 255) {first second : List uint8}
    (split : frame u16Type payload = first ++ second) (nonemptyFirst : first ≠ [])
    (nonemptySecond : second ≠ []) :
    ((serialCode.unstuff false first.tail).length ≤ 5 ∨ Echoes payload first second →
      ReadsInTwo u16Type payload first second) ∧
    (Unescaped first second → (ReadsInTwo u16Type payload first second ↔
      (serialCode.unstuff false first.tail).length ≤ 5 ∨
        payload = second ++ second.dropLast)) := by
  obtain ⟨body, rest, rfl, rfl, whole⟩ := split_frame short split nonemptyFirst nonemptySecond
  rw [List.tail_cons, List.dropLast_concat]
  refine ⟨?_, readsInTwo_unescaped_iff short fits whole⟩
  rintro (header | echoes)
  · exact readsInTwo_of_header short fits whole header
  · exact readsInTwo_of_echoes short fits whole echoes

/-- The cut before the END loses any other payload. -/
theorem payload_of_readsInTwo (short : payload.length ≤ 250)
    (fits : (frame u16Type payload).length ≤ 255)
    (reads : ReadsInTwo u16Type payload
      (slStartChar :: serialCode.stuff (frameBytes u16Type payload)) [slEndChar]) :
    payload = [] ∨ payload = [slEndChar] := by
  have closed := serialCode.unstuff_stuff (frameBytes u16Type payload)
  have unescaped : Unescaped (slStartChar :: serialCode.stuff (frameBytes u16Type payload))
      [slEndChar] := ⟨closed.2, by decide⟩
  have cut := readsInTwo_cut short fits (frame_eq u16Type short) (List.cons_ne_nil _ _)
    (List.cons_ne_nil _ _)
  rcases (cut.2 unescaped).mp reads with header | repeats
  · rw [List.tail_cons, closed.1] at header
    change payload.length + 5 ≤ 5 at header
    exact Or.inl (List.length_eq_zero_iff.mp (by omega))
  · exact Or.inr repeats

/-- How a frame of at most 255 bytes fares, cut by cut: it reads in two where the first part
completes no payload byte, and where the second begins as the payload does. Behind a cut
with nothing escaped it reads in two only so. A frame reads in two wherever it is cut
exactly when its payload is empty or the byte 0x03. -/
theorem readsInTwo_iff (u16Type : uint16) (payload : List uint8)
    (short : payload.length ≤ 250) (fits : (frame u16Type payload).length ≤ 255) :
    (∀ first second, frame u16Type payload = first ++ second → first ≠ [] → second ≠ [] →
      ((serialCode.unstuff false first.tail).length ≤ 5 ∨ Echoes payload first second →
        ReadsInTwo u16Type payload first second) ∧
      (Unescaped first second → (ReadsInTwo u16Type payload first second ↔
        (serialCode.unstuff false first.tail).length ≤ 5 ∨
          payload = second ++ second.dropLast))) ∧
    ((∀ first second, frame u16Type payload = first ++ second → first ≠ [] → second ≠ [] →
      ReadsInTwo u16Type payload first second) ↔ payload = [] ∨ payload = [slEndChar]) := by
  refine ⟨fun first second => readsInTwo_cut short fits, ?_⟩
  constructor
  · intro all
    exact payload_of_readsInTwo short fits
      (all _ _ (frame_eq u16Type short) (List.cons_ne_nil _ _) (List.cons_ne_nil _ _))
  · intro either first second split nonemptyFirst nonemptySecond
    have cut := readsInTwo_cut short fits split nonemptyFirst nonemptySecond
    obtain ⟨body, rest, rfl, rfl, whole⟩ :=
      split_frame short split nonemptyFirst nonemptySecond
    have lengths := congrArg List.length (unstuff_split whole)
    rw [List.length_append] at lengths
    rcases either with rfl | rfl
    · change _ = 5 at lengths
      exact cut.1 (Or.inl (show (serialCode.unstuff false body).length ≤ 5 by omega))
    · rcases body_of_end_payload whole with header | rfl
      · exact cut.1 (Or.inl header)
      · rw [List.append_nil] at whole
        have closed := serialCode.unstuff_stuff (frameBytes u16Type [slEndChar])
        have unescaped : Unescaped (slStartChar :: body) ([] ++ [slEndChar]) :=
          ⟨by rw [List.tail_cons, whole]; exact closed.2, by decide⟩
        exact (cut.2 unescaped).mpr (Or.inr rfl)

end Frame

/-- Two payload bytes cut apart: the escape of the second is the first once more. -/
theorem readsInTwo_iff_echo :
    ReadsInTwo 0x0049 [0x02, 0x03] ((frame 0x0049 [0x02, 0x03]).take 11)
      ((frame 0x0049 [0x02, 0x03]).drop 11) :=
  ((readsInTwo_iff 0x0049 [0x02, 0x03] (by decide) (by decide)).1 _ _
    (List.take_append_drop 11 _).symm (by decide) (by decide)).1
    (Or.inr ⟨by decide, by decide, by decide⟩)

/-- The payload 0x41 is lost when the END arrives in another buffer. -/
theorem readsInTwo_fails :
    ¬∀ (u16Type : uint16) (payload : List uint8), payload.length ≤ 250 →
      (frame u16Type payload).length ≤ 255 →
      ∀ first second, frame u16Type payload = first ++ second → first ≠ [] → second ≠ [] →
        ReadsInTwo u16Type payload first second := by
  intro all
  have short : [(0x41 : uint8)].length ≤ 250 := by decide
  have fits : (frame 0x0049 [0x41]).length ≤ 255 := by decide
  have closed := serialCode.unstuff_stuff (frameBytes 0x0049 [0x41])
  have reads := all 0x0049 [0x41] short fits _ [slEndChar] (frame_eq 0x0049 short)
    (List.cons_ne_nil _ _) (List.cons_ne_nil _ _)
  rcases (readsInTwo_unescaped_iff short fits (List.append_nil _)
    ⟨closed.2, by decide⟩).mp reads with header | repeats
  · rw [closed.1] at header
    exact absurd header (by decide)
  · exact absurd repeats (by decide)

end StudyDemo.SerialLink
