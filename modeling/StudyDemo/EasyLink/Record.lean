import Mathlib.Data.BitVec

/-! # The link record

`TEasyLink` as the driver lays it out in memory, with the byte stores and loads
that pointer arithmetic from its `uPwd` and `uSSID` arrays can reach. The target
is a 32-bit little-endian MIPS. -/

namespace StudyDemo.EasyLink

abbrev UCHAR := BitVec 8
abbrev USHORT := BitVec 16
abbrev UINT32 := BitVec 32

/-- The record the driver assembles and broadcasts. Offsets: `uSSIDlen` 0,
`uPwdLen` 1, `uChannel` 2, `uLinkType` 3, `uRecOK` 4, `uPort` 8, `uIP` 12,
`uPwd` 16, `uSSID` 48; bytes 10 and 11 are padding. -/
@[ext] structure TEasyLink where
  uSSIDlen : UCHAR
  uPwdLen : UCHAR
  uChannel : UCHAR
  uLinkType : UCHAR
  uRecOK : UINT32
  uPort : USHORT
  uIP : UINT32
  uPwd : Fin 32 → UCHAR
  uSSID : Fin 32 → UCHAR
  deriving DecidableEq

namespace TEasyLink

/-- `memset(&g_tEasyLink, 0, sizeof(g_tEasyLink))`. -/
def zero : TEasyLink where
  uSSIDlen := 0
  uPwdLen := 0
  uChannel := 0
  uLinkType := 0
  uRecOK := 0
  uPort := 0
  uIP := 0
  uPwd := fun _ => 0
  uSSID := fun _ => 0

/-- `sizeof(TEasyLink)`. -/
def size : Nat := 80

def uPwdOffset : UINT32 := 16
def uSSIDOffset : UINT32 := 48

end TEasyLink

/-- A byte stored at `offset` into a little-endian word standing at `base`. -/
def storeWord {width : Nat} (word : BitVec width) (base offset : Nat)
    (byte : UCHAR) : BitVec width :=
  if base ≤ offset ∧ offset < base + width / 8 then
    let shift := 8 * (offset - base)
    (word &&& ~~~((BitVec.allOnes 8).setWidth width <<< shift)) |||
      (byte.setWidth width <<< shift)
  else
    word

/-- The byte at `index` of a little-endian word. -/
def loadWord {width : Nat} (word : BitVec width) (index : Nat) : UCHAR :=
  (word >>> (8 * index)).setWidth 8

theorem storeWord_of_outside {width : Nat} (word : BitVec width)
    {base offset : Nat} (byte : UCHAR)
    (outside : offset < base ∨ base + width / 8 ≤ offset) :
    storeWord word base offset byte = word := by
  rw [storeWord, if_neg (by omega)]

theorem getElem_byteMask (bit : Nat) (bound : bit < 32) :
    (255#32)[bit] = decide (bit < 8) := by
  revert bit
  decide

theorem word_ext {left right : UINT32}
    (equal : ∀ index < 4, loadWord left index = loadWord right index) : left = right := by
  ext bit bound
  have byteEqual := equal (bit / 8) (by omega)
  have bitEqual := congrArg (fun byte : UCHAR => byte.getLsbD (bit % 8)) byteEqual
  have position : 8 * (bit / 8) + bit % 8 = bit := Nat.div_add_mod bit 8
  simpa [loadWord, position, Nat.mod_lt bit (by decide : 0 < 8), bound] using bitEqual

theorem loadWord_storeWord (word : UINT32) (base offset : Nat) {index : Nat} (byte : UCHAR)
    (inside : index < 4) :
    loadWord (storeWord word base offset byte) index =
      if offset = base + index then byte else loadWord word index := by
  by_cases within : base ≤ offset ∧ offset < base + 32 / 8
  · obtain ⟨stored, rfl⟩ := Nat.exists_eq_add_of_le within.1
    simp only [storeWord, if_pos within, Nat.add_sub_cancel_left, Nat.add_left_cancel_iff,
      loadWord]
    split_ifs with same
    · subst same
      ext bit bound
      simp [show 8 * stored + bit < 32 by omega, bound, getElem_byteMask,
        show ¬8 * stored + bit < 8 * stored by omega]
    · ext bit bound
      have apart : 8 * index + bit < 8 * stored ∨ 8 ≤ 8 * index + bit - 8 * stored := by
        omega
      rcases apart with before | after
      · simp [show 8 * index + bit < 32 by omega, before]
      · simp [show 8 * index + bit < 32 by omega, getElem_byteMask,
          show ¬8 * index + bit < 8 * stored by omega,
          show ¬8 * index + bit - 8 * stored < 8 by omega, after]
  · rw [storeWord_of_outside _ _ (by omega), if_neg (by omega)]

namespace TEasyLink

/-- Store one byte at an offset from the start of the record. A store past the
record is dropped. -/
def store (record : TEasyLink) (offset : UINT32) (byte : UCHAR) : TEasyLink where
  uSSIDlen := if offset.toNat = 0 then byte else record.uSSIDlen
  uPwdLen := if offset.toNat = 1 then byte else record.uPwdLen
  uChannel := if offset.toNat = 2 then byte else record.uChannel
  uLinkType := if offset.toNat = 3 then byte else record.uLinkType
  uRecOK := storeWord record.uRecOK 4 offset.toNat byte
  uPort := storeWord record.uPort 8 offset.toNat byte
  uIP := storeWord record.uIP 12 offset.toNat byte
  uPwd := fun index =>
    if offset.toNat = 16 + index.val then byte else record.uPwd index
  uSSID := fun index =>
    if offset.toNat = 48 + index.val then byte else record.uSSID index

/-- The byte at an offset inside the record; the padding reads as zero. -/
def byteAt (record : TEasyLink) (offset : Fin size) : UCHAR :=
  if offset.val = 0 then record.uSSIDlen
  else if offset.val = 1 then record.uPwdLen
  else if offset.val = 2 then record.uChannel
  else if offset.val = 3 then record.uLinkType
  else if offset.val < 8 then loadWord record.uRecOK (offset.val - 4)
  else if offset.val < 10 then loadWord record.uPort (offset.val - 8)
  else if offset.val < 12 then 0
  else if offset.val < 16 then loadWord record.uIP (offset.val - 12)
  else if within : offset.val < 48 then record.uPwd ⟨offset.val - 16, by omega⟩
  else record.uSSID ⟨offset.val - 48, by have := offset.isLt; simp [size] at this; omega⟩

/-- Load one byte at an offset from the start of the record. `outside` is the
memory around the record. -/
def load (record : TEasyLink) (outside : UINT32 → UCHAR) (offset : UINT32) : UCHAR :=
  if within : offset.toNat < size then record.byteAt ⟨offset.toNat, within⟩
  else outside offset

end TEasyLink

end StudyDemo.EasyLink
