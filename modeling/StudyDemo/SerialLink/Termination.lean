import StudyDemo.SerialLink.Acceptance

/-! # Whether a call returns

The counter of `eSL_ReadMessage` is 8 bits wide and its bound 16. On a buffer of
more than 255 bytes the counter starts over, and the loop reads the first 256
bytes again, as its own stores have left them, until an END is accepted. A whole
frame among these bytes has such an END; bytes that bring no END have none. -/

namespace StudyDemo.SerialLink

def Returns (u16MsgLen : uint16) (reader : Reader) : Prop :=
  ∃ result, ReadMessage u16MsgLen reader result

namespace Reader

/-- The reader after so many bytes, taken out at a counter that starts over
after 255. -/
def endless (reader : Reader) : Nat → Reader
  | 0 => reader
  | count + 1 =>
      ((reader.endless count).readByte ((reader.endless count).message (count % 256))).1

/-- The byte at the position is an END whose test succeeds. -/
def EndsAt (reader : Reader) (position : Nat) : Prop :=
  reader.message position = slEndChar ∧ reader.accepts

instance (reader : Reader) (position : Nat) : Decidable (reader.EndsAt position) :=
  inferInstanceAs (Decidable (_ ∧ _))

theorem readByte_returns_iff {reader : Reader} {position : Nat} :
    (reader.readByte (reader.message position)).2 = true ↔ reader.EndsAt position := by
  constructor
  · intro returns
    obtain ⟨isEnd, accepted, -⟩ := readByte_returns returns
    exact ⟨isEnd, accepted⟩
  · intro ends
    rw [ends.1]
    exact readByte_accepted ends.2

end Reader

/-! ## The loop past the end of its counter -/

section Wraps

variable {u16MsgLen : uint16} (wraps : 256 ≤ u16MsgLen.toNat) {reader : Reader}

include wraps

theorem readLoop_endless {count : Nat} (going : ∀ step < count,
    ¬(reader.endless step).EndsAt (step % 256)) (fuel : Nat) :
    ∃ consumed, readLoop u16MsgLen (fuel + count) 0 reader [] =
      readLoop u16MsgLen fuel (BitVec.ofNat 8 count) (reader.endless count) consumed := by
  induction count generalizing fuel with
  | zero => exact ⟨[], rfl⟩
  | succ count induction =>
      obtain ⟨consumed, loop⟩ := induction
        (fun step before => going step (Nat.lt_succ_of_lt before)) (fuel + 1)
      have position : (BitVec.ofNat 8 count).toNat = count % 256 := BitVec.toNat_ofNat _ _
      have inside : count % 256 < u16MsgLen.toNat :=
        Nat.lt_of_lt_of_le (Nat.mod_lt _ (by decide)) wraps
      have goesOn : ¬((reader.endless count).readByte
          ((reader.endless count).message (count % 256))).2 = true := fun returns =>
        going count (Nat.lt_succ_self count) (Reader.readByte_returns_iff.mp returns)
      have next : BitVec.ofNat 8 count + 1 = BitVec.ofNat 8 (count + 1) :=
        (BitVec.ofNat_add count 1).symm
      rw [readLoop, position, if_pos inside, if_neg goesOn, next] at loop
      have shift : fuel + (count + 1) = fuel + 1 + count := by omega
      rw [shift]
      exact ⟨_, loop⟩

theorem returns_of_endsAt {count : Nat} (going : ∀ step < count,
    ¬(reader.endless step).EndsAt (step % 256))
    (ends : (reader.endless count).EndsAt (count % 256)) : Returns u16MsgLen reader := by
  obtain ⟨consumed, loop⟩ := readLoop_endless wraps going 1
  have position : (BitVec.ofNat 8 count).toNat = count % 256 := BitVec.toNat_ofNat _ _
  have inside : count % 256 < u16MsgLen.toNat :=
    Nat.lt_of_lt_of_le (Nat.mod_lt _ (by decide)) wraps
  rw [readLoop, position, if_pos inside, if_pos (Reader.readByte_returns_iff.mpr ends)] at loop
  exact ⟨_, _, loop⟩

theorem returns_iff_endsAt : Returns u16MsgLen reader ↔
    ∃ count, (reader.endless count).EndsAt (count % 256) := by
  constructor
  · rintro ⟨result, fuel, returns⟩
    by_contra never
    obtain ⟨consumed, loop⟩ := @readLoop_endless u16MsgLen wraps reader fuel
      (fun step _ ends => never ⟨step, ends⟩) 0
    rw [Nat.zero_add, returns] at loop
    cases loop
  · intro ends
    exact returns_of_endsAt wraps (fun _ before => Nat.find_min ends before) (Nat.find_spec ends)

end Wraps

/-! ## Waiting for a START -/

/-- Neither an END nor an escape, from which the loop could make one. -/
structure NothingEnds (reader : Reader) : Prop where
  bInEsc : reader.bInEsc = false
  message : ∀ position < 256,
    reader.message position ≠ slEndChar ∧ reader.message position ≠ slEscChar

theorem NothingEnds.takeByte {reader : Reader} (nothing : NothingEnds reader) {u8Data : uint8}
    (notEnd : u8Data ≠ slEndChar) (notEscape : u8Data ≠ slEscChar) :
    NothingEnds (reader.takeByte u8Data) := by
  refine ⟨(takeByte_bInEsc reader u8Data).trans nothing.bInEsc, ?_⟩
  rw [Reader.takeByte]
  split
  · exact nothing.message
  · exact nothing.message
  · exact nothing.message
  · exact nothing.message
  · exact nothing.message
  · exact nothing.message
  · split_ifs
    · intro position inside
      dsimp only
      rw [Function.update_apply]
      split_ifs
      · exact ⟨notEnd, notEscape⟩
      · exact nothing.message position inside
    · exact nothing.message

theorem NothingEnds.endless {reader : Reader} (nothing : NothingEnds reader) (count : Nat) :
    NothingEnds (reader.endless count) := by
  induction count with
  | zero => exact nothing
  | succ count induction =>
      obtain ⟨notEnd, notEscape⟩ := induction.message (count % 256) (Nat.mod_lt _ (by decide))
      rw [Reader.endless]
      generalize (reader.endless count).message (count % 256) = u8Data at notEnd notEscape
      rw [Reader.readByte]
      split_ifs with isStart flag
      · exact ⟨rfl, induction.message⟩
      · exact absurd (induction.bInEsc.symm.trans flag) Bool.false_ne_true
      · exact induction.takeByte notEnd notEscape

/-- The first 256 bytes hold a frame, or the rest of one whose header was being read. -/
inductive MeetsFrame (reader : Reader) : Prop
  | rest {parsed rest : List uint8} {u16Type : uint16} {payload : List uint8}
      (short : payload.length ≤ 250) (state : Parsed 0 reader parsed)
      (header : parsed.length ≤ 5) (plain : ∀ u8Data ∈ rest, Plain u8Data)
      (whole : parsed ++ serialCode.unstuff reader.bInEsc rest = frameBytes u16Type payload)
      (fits : rest.length + 1 ≤ 256)
      (buffer : HoldsAt reader.message 0 (rest ++ [slEndChar]))
  | frame {garbage : List uint8} {u16Type : uint16} {payload : List uint8}
      (short : payload.length ≤ 250) (behind : Behind 0 reader)
      (fits : garbage.length + (frame u16Type payload).length ≤ 256)
      (buffer : HoldsAt reader.message 0 (garbage ++ SerialLink.frame u16Type payload))

section Frame

variable {reader : Reader} {count start : Nat}

theorem Behind.goesOn {cursor : Nat} (behind : Behind cursor reader) {u8Data : uint8}
    (goesOn : (reader.readByte u8Data).2 = false) :
    Behind (cursor + 1) (reader.readByte u8Data).1 ∧
      ∀ index, cursor < index → (reader.readByte u8Data).1.message index =
        reader.message index := by
  by_cases isEnd : u8Data = slEndChar
  · subst isEnd
    refine ⟨?_, fun index _ => by rw [readByte_end_message]⟩
    rcases readByte_end_goesOn goesOn with same | waits
    · rw [same]
      rcases behind with waits | below
      · exact Or.inl waits
      · exact Or.inr (Nat.le_succ_of_le below)
    · exact Or.inl waits
  · obtain ⟨next, same, -⟩ := readByte_behind behind isEnd
    exact ⟨next, same⟩

/-- The first time round the bytes ahead are as they were put in. -/
theorem endless_ahead (behind : Behind 0 reader)
    (going : ∀ step, ¬(reader.endless step).EndsAt (step % 256)) (small : count ≤ 256) :
    Behind count (reader.endless count) ∧
      ∀ index, count ≤ index → (reader.endless count).message index = reader.message index := by
  induction count with
  | zero => exact ⟨behind, fun _ _ => rfl⟩
  | succ count induction =>
      obtain ⟨here, ahead⟩ := induction (Nat.le_of_succ_le small)
      have goesOn : ((reader.endless count).readByte
          ((reader.endless count).message (count % 256))).2 = false := by
        rw [← Bool.not_eq_true, Reader.readByte_returns_iff]
        exact going count
      obtain ⟨next, same⟩ := here.goesOn goesOn
      refine ⟨next, fun index later => ?_⟩
      exact (same index later).trans (ahead index (Nat.le_of_succ_le later))

theorem endless_feed (behind : Behind 0 reader)
    (going : ∀ step, ¬(reader.endless step).EndsAt (step % 256)) {bytes : List uint8}
    (fits : start + bytes.length ≤ 256) (buffer : HoldsAt reader.message start bytes) :
    reader.endless (start + bytes.length) = (reader.endless start).feed bytes := by
  induction bytes generalizing start with
  | nil => rfl
  | cons u8Data bytes induction =>
      rw [List.length_cons] at fits
      obtain ⟨first, rest⟩ := HoldsAt.append.mp (show HoldsAt reader.message start
        ([u8Data] ++ bytes) from buffer)
      have here : reader.message start = u8Data := first 0 Nat.one_pos
      have next : reader.endless (start + 1) = ((reader.endless start).readByte u8Data).1 := by
        rw [Reader.endless, Nat.mod_eq_of_lt (by omega),
          (endless_ahead behind going (by omega)).2 start (Nat.le_refl start), here]
      rw [List.length_singleton] at rest
      have later := induction (by omega) rest
      rw [List.length_cons, Reader.feed_cons, ← next, ← later, Nat.add_right_comm,
        Nat.add_assoc]

theorem endsAt_of_parsed (behind : Behind 0 reader)
    (going : ∀ step, ¬(reader.endless step).EndsAt (step % 256)) {parsed rest : List uint8}
    {u16Type : uint16} {payload : List uint8} (short : payload.length ≤ 250)
    (state : Parsed 0 (reader.endless start) parsed)
    (plain : ∀ u8Data ∈ rest, Plain u8Data)
    (whole : parsed ++ serialCode.unstuff (reader.endless start).bInEsc rest =
      frameBytes u16Type payload)
    (fits : start + rest.length + 1 ≤ 256)
    (buffer : HoldsAt reader.message start (rest ++ [slEndChar])) :
    (reader.endless (start + rest.length)).EndsAt ((start + rest.length) % 256) := by
  obtain ⟨before, last⟩ := HoldsAt.append.mp buffer
  have ahead := (endless_ahead behind going (by omega)).2 (start + rest.length) (Nat.le_refl _)
  have isEnd : reader.message (start + rest.length) = slEndChar := last 0 Nat.one_pos
  have complete : Complete 0 u16Type payload (reader.endless (start + rest.length)) := by
    rw [endless_feed behind going (by omega) before]
    apply Parsed.complete _ short
    rw [← whole]
    exact (state.feed plain).1
  rw [Nat.mod_eq_of_lt (by omega)]
  have returns := congrArg Prod.snd (complete.readByte_end short)
  exact ⟨ahead.trans isEnd, (readByte_returns returns).2.1⟩

theorem MeetsFrame.returns (meets : MeetsFrame reader) {u16MsgLen : uint16}
    (wraps : 256 ≤ u16MsgLen.toNat) : Returns u16MsgLen reader := by
  rw [returns_iff_endsAt wraps]
  by_contra never
  have going : ∀ step, ¬(reader.endless step).EndsAt (step % 256) :=
    fun step ends => never ⟨step, ends⟩
  cases meets with
  | @rest parsed rest u16Type payload short state header plain whole fits buffer =>
      have behind : Behind 0 reader := by
        rcases (state.rebuffer_header header reader.message).2 with waits | none
        · exact Or.inl waits
        · exact Or.inr (by rw [none]; exact Nat.le_refl 0)
      exact never ⟨_, @endsAt_of_parsed reader 0 behind going _ _ _ _ short state plain whole
        (by omega) buffer⟩
  | @frame garbage u16Type payload short behind fits buffer =>
      rw [frame_eq u16Type short] at fits buffer
      simp only [List.length_cons, List.length_append, List.length_nil] at fits
      obtain ⟨-, buffer⟩ := HoldsAt.append.mp buffer
      rw [Nat.zero_add] at buffer
      obtain ⟨first, rest⟩ := HoldsAt.append.mp (show HoldsAt reader.message garbage.length
        ([slStartChar] ++ (serialCode.stuff (frameBytes u16Type payload) ++ [slEndChar])) from
        buffer)
      have start : reader.endless (garbage.length + 1) =
          ((reader.endless garbage.length).readByte slStartChar).1 :=
        @endless_feed reader garbage.length behind going [slStartChar]
          (by rw [List.length_singleton]; omega) first
      obtain ⟨state, flag, -⟩ := parsed_start (reader.endless garbage.length)
      rw [← start] at state flag
      have whole : [] ++ serialCode.unstuff (reader.endless (garbage.length + 1)).bInEsc
          (serialCode.stuff (frameBytes u16Type payload)) = frameBytes u16Type payload := by
        rw [flag, List.nil_append, (serialCode.unstuff_stuff _).1]
      exact never ⟨_, endsAt_of_parsed behind going short state plain_of_mem_stuff whole
        (by omega) rest⟩

end Frame

end StudyDemo.SerialLink
