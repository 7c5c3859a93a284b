import StudyDemo.Foundation.PrefixCodes
import StudyDemo.NetLink.SiteSurvey

/-! # The buffer of the display conversion

`ConverterStringToDisplay` writes the text for display into a local buffer of 193
bytes, one piece for each character, before it copies it back. Which characters
are rewritten depends on whether plain `char` is signed. -/

namespace StudyDemo.NetLink

open StudyDemo.CMemory

/-! ## The loop over the characters -/

/-- Whether plain `char` is signed. -/
inductive PlainChar
  | signed
  | unsigned
  deriving DecidableEq

/-- `str[i]`, promoted to `int`. -/
def PlainChar.value : PlainChar → Byte → Int
  | .signed, char => char.toInt
  | .unsigned, char => char.toNat

/-- What one iteration writes at `pOut`, and how far `pOut` moves. -/
structure Piece where
  bytes : List Byte
  advance : Nat
  deriving DecidableEq

/-- `strcpy` and `sprintf` write a NUL behind the text. -/
def Piece.string (text : List Byte) (advance : Nat) : Piece where
  bytes := text ++ [0]
  advance := advance

/-- The `switch` over `str[i]`. -/
def displayPiece (plain : PlainChar) (char : Byte) : Piece :=
  let value := plain.value char
  if value = 38 then .string (literal "&amp;") 5
  else if value = 60 then .string (literal "&lt;") 4
  else if value = 62 then .string (literal "&gt;") 4
  else if value = 34 then .string (literal "&#34;") 5
  else if value = 39 then .string (literal "&#39;") 5
  else if value = 32 then .string (literal "&nbsp;") 6
  else if 0 ≤ value ∧ value ≤ 31 then
    .string (literal "&#" ++ decimal 2 value.toNat ++ literal ";") 5
  else if value = 39 ∨ value = 47 ∨ value = 59 ∨ value = 92 then
    .string (literal "&#" ++ decimal 2 value.toNat ++ literal ";") 5
  else if 127 ≤ value then
    .string (literal "&#" ++ decimal 3 value.toNat ++ literal ";") 6
  else
    { bytes := [char], advance := 1 }

/-- The buffer during the loop. -/
structure Display where
  memory : Memory
  pOut : Nat

def displayChar (plain : PlainChar) (display : Display) (char : Byte) : Display :=
  let piece := displayPiece plain char
  { memory := store display.memory display.pOut piece.bytes
    pOut := display.pOut + piece.advance }

/-- `sizeof(buffer)`. -/
def bufferSize : Nat := 193

/-- The memory when the loop over the string at `str` is done; `buffer` is the address
of the local buffer, where anything may have stood before. -/
def localBuffer (plain : PlainChar) (memory : Memory) (str buffer : Nat) : Memory :=
  let display := (readString memory maxLength str).foldl (displayChar plain)
    { memory := memset memory buffer 0 bufferSize, pOut := buffer }
  store display.memory display.pOut [0]

/-- The string in the local buffer. -/
def converted (plain : PlainChar) (memory : Memory) (str buffer : Nat) : List Byte :=
  readString (localBuffer plain memory str buffer) maxLength buffer

/-- The string fits the buffer with its NUL, and nothing outside was written. -/
def FitsLocalBuffer (plain : PlainChar) (memory : Memory) (str buffer : Nat) : Prop :=
  (converted plain memory str buffer).length + 1 ≤ bufferSize ∧
    ∀ position, position < buffer ∨ buffer + bufferSize ≤ position →
      localBuffer plain memory str buffer position = memory position

/-! ## The pieces as a code -/

/-- The text of a piece, without what the next piece overwrites. -/
def Piece.word (piece : Piece) : List Byte := piece.bytes.take piece.advance

/-- Every piece is as long as `pOut` moves, with at most a NUL behind it. -/
theorem displayPiece_length (plain : PlainChar) (char : Byte) :
    (displayPiece plain char).word.length = (displayPiece plain char).advance ∧
      (displayPiece plain char).bytes.length ≤ (displayPiece plain char).advance + 1 ∧
      (displayPiece plain char).advance ≤ 6 := by
  revert char
  cases plain <;> decide +kernel

theorem displayPiece_word_noNul (plain : PlainChar) (char : Byte) :
    0 ∉ (displayPiece plain char).word := by
  revert char
  cases plain <;> decide +kernel

/-- The character that a word stands for. -/
def characterOf (word : List Byte) : Byte :=
  if word = literal "&amp;" then 38
  else if word = literal "&lt;" then 60
  else if word = literal "&gt;" then 62
  else if word = literal "&nbsp;" then 32
  else if word.length = 1 then word.headD 0
  else BitVec.ofNat 8 (((word.drop 2).dropLast).foldl (fun number digit =>
    10 * number + (digit.toNat - 48)) 0)

theorem characterOf_displayPiece (plain : PlainChar) (char : Byte) :
    characterOf (displayPiece plain char).word = char := by
  revert char
  cases plain <;> decide +kernel

/-- A piece is its character, which is no ampersand, or a text from an ampersand to
the only semicolon. -/
theorem displayPiece_delimited (plain : PlainChar) (char : Byte) :
    Delimited (38 : Byte) 59 (displayPiece plain char).word := by
  have either : ((displayPiece plain char).word = [char] ∧ char ≠ 38) ∨
      59 ∉ ((displayPiece plain char).word.drop 1).dropLast ∧
        (displayPiece plain char).word =
          38 :: (((displayPiece plain char).word.drop 1).dropLast ++ [59]) := by
    revert char
    cases plain <;> decide +kernel
  rcases either with ⟨single, closed⟩ | ⟨outside, between⟩
  · exact Or.inl ⟨char, closed, single⟩
  · exact Or.inr ⟨_, outside, between⟩

/-- The code that the conversion is. -/
def displayCode (plain : PlainChar) : PrefixCode Byte Byte :=
  PrefixCode.ofDelimited 38 59 (fun char => (displayPiece plain char).word)
    (Function.LeftInverse.injective (characterOf_displayPiece plain))
    (displayPiece_delimited plain)

theorem length_displayCode_le (plain : PlainChar) (text : List Byte) :
    ((displayCode plain).encode text).length ≤ 6 * text.length := by
  apply (displayCode plain).length_encode_le
  intro char
  change (displayPiece plain char).word.length ≤ 6
  rw [(displayPiece_length plain char).1]
  exact (displayPiece_length plain char).2.2

theorem displayCode_noNul (plain : PlainChar) (text : List Byte) :
    0 ∉ (displayCode plain).encode text := by
  intro member
  obtain ⟨char, _, within⟩ := List.mem_flatMap.mp member
  exact displayPiece_word_noNul plain char within

theorem displayCode_append (plain : PlainChar) (text : List Byte) (char : Byte) :
    (displayCode plain).encode (text ++ [char]) =
      (displayCode plain).encode text ++ (displayPiece plain char).word := by
  rw [PrefixCode.encode, List.flatMap_append, List.flatMap_singleton]
  rfl

/-! ## What the buffer holds -/

/-- The buffer after some characters: their text stands in it up to `pOut`, and
nothing outside was written. -/
structure Displayed (plain : PlainChar) (frame : Memory) (buffer : Nat) (seen : List Byte)
    (display : Display) : Prop where
  text : Holds display.memory buffer ((displayCode plain).encode seen)
  pOut : display.pOut = buffer + ((displayCode plain).encode seen).length
  outside : ∀ position, position < buffer ∨ buffer + bufferSize ≤ position →
    display.memory position = frame position

section Buffer

variable {plain : PlainChar} {frame : Memory} {buffer : Nat} {seen : List Byte}
  {display : Display}

theorem displayed_start (plain : PlainChar) (frame : Memory) (buffer : Nat) :
    Displayed plain frame buffer []
      { memory := memset frame buffer 0 bufferSize, pOut := buffer } where
  text := fun _ inside => absurd inside (Nat.not_lt_zero _)
  pOut := rfl
  outside := fun position apart => store_outside frame (by
    rw [List.length_replicate]
    exact apart)

theorem Displayed.step (displayed : Displayed plain frame buffer seen display) (char : Byte)
    (short : seen.length < 32) :
    Displayed plain frame buffer (seen ++ [char]) (displayChar plain display char) := by
  obtain ⟨exact, written, moved⟩ := displayPiece_length plain char
  have before := length_displayCode_le plain seen
  have room : display.pOut + (displayPiece plain char).bytes.length ≤ buffer + bufferSize := by
    have placed := displayed.pOut
    change _ ≤ buffer + 193
    omega
  refine { text := ?_, pOut := ?_, outside := fun position apart => ?_ }
  · rw [displayCode_append]
    apply (displayed.text.before _ (Nat.le_of_eq displayed.pOut.symm)).append
    rw [← displayed.pOut]
    exact (holds_store _ _ _).take _
  · change display.pOut + (displayPiece plain char).advance = _
    rw [displayCode_append, List.length_append, exact, displayed.pOut]
    omega
  · rw [← displayed.outside position apart]
    apply store_outside
    have placed := displayed.pOut
    omega

theorem Displayed.run (displayed : Displayed plain frame buffer seen display)
    {str : List Byte} (short : seen.length + str.length ≤ 32) :
    Displayed plain frame buffer (seen ++ str) (str.foldl (displayChar plain) display) := by
  induction str generalizing seen display with
  | nil => simpa using displayed
  | cons char str induction =>
      rw [List.length_cons] at short
      have next := displayed.step char (by omega)
      have later := induction next (by rw [List.length_append, List.length_singleton]; omega)
      rw [List.append_assoc] at later
      exact later

section Converted

variable (plain : PlainChar) {memory : Memory} {str : Nat} (buffer : Nat) {text : List Byte}
  (holds : Holds memory str (text ++ [0])) (noNul : 0 ∉ text) (short : text.length ≤ 32)

include holds noNul short

theorem displayed_loop :
    Displayed plain memory buffer text ((readString memory maxLength str).foldl
      (displayChar plain) { memory := memset memory buffer 0 bufferSize, pOut := buffer }) := by
  rw [holds.readString noNul (short.trans_lt (by decide))]
  apply (displayed_start plain memory buffer).run
  rw [List.length_nil, Nat.zero_add]
  exact short

theorem converted_eq :
    converted plain memory str buffer = (displayCode plain).encode text := by
  have displayed := displayed_loop plain buffer holds noNul short
  have ended : Holds (localBuffer plain memory str buffer) buffer
      ((displayCode plain).encode text ++ [0]) := by
    apply (displayed.text.before [0] (Nat.le_of_eq displayed.pOut.symm)).append
    rw [← displayed.pOut]
    exact holds_store _ _ _
  have length := length_displayCode_le plain text
  apply ended.readString (displayCode_noNul plain text)
  change _ < 65536
  omega

theorem fitsLocalBuffer : FitsLocalBuffer plain memory str buffer := by
  have displayed := displayed_loop plain buffer holds noNul short
  have length := length_displayCode_le plain text
  refine ⟨?_, fun position apart => ?_⟩
  · rw [converted_eq plain buffer holds noNul short]
    change _ ≤ 193
    omega
  · rw [← displayed.outside position apart]
    apply store_outside
    have placed := displayed.pOut
    rw [List.length_singleton]
    change position < buffer ∨ buffer + 193 ≤ position at apart
    omega

theorem converted_signed :
    converted .signed memory str buffer = NetLink.display text := by
  have pieces : ∀ char, (displayPiece .signed char).word = displayByte char := by decide +kernel
  rw [converted_eq .signed buffer holds noNul short]
  exact congrArg (text.flatMap ·) (funext pieces)

end Converted

end Buffer

/-- Different strings of at most 32 characters are displayed differently, and each of
them fits the buffer. -/
theorem converted_separates (plain : PlainChar) {memory otherMemory : Memory}
    {str otherStr : Nat} (buffer otherBuffer : Nat) {text other : List Byte}
    (holds : Holds memory str (text ++ [0])) (otherHolds : Holds otherMemory otherStr (other ++ [0]))
    (noNul : 0 ∉ text) (otherNoNul : 0 ∉ other)
    (short : text.length ≤ 32) (otherShort : other.length ≤ 32) :
    (text ≠ other →
        converted plain memory str buffer ≠ converted plain otherMemory otherStr otherBuffer) ∧
      FitsLocalBuffer plain memory str buffer := by
  refine ⟨fun different equal => different ?_, fitsLocalBuffer plain buffer holds noNul short⟩
  rw [converted_eq plain buffer holds noNul short,
    converted_eq plain otherBuffer otherHolds otherNoNul otherShort] at equal
  exact (displayCode plain).encode_injective equal

theorem converted_separates_ampersand :
    literal "&" ≠ literal "&amp;" ∧
      converted .unsigned (strcpy (fun _ => 255) 1000 (literal "&")) 1000 0 ≠
        converted .unsigned (strcpy (fun _ => 255) 1000 (literal "&amp;")) 1000 0 := by
  have different : literal "&" ≠ literal "&amp;" := by decide +kernel
  exact ⟨different, (converted_separates .unsigned 0 0 (holds_store _ _ _) (holds_store _ _ _)
    (by decide +kernel) (by decide +kernel) (by decide +kernel) (by decide +kernel)).1 different⟩

end StudyDemo.NetLink
