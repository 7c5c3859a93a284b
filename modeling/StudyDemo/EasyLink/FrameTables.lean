import StudyDemo.EasyLink.Sender

/-! # The tables of frames

`WifiEasyConnect` builds the frames of a text into a table of 18 rows when the text
is new, and sends the rows of the table on every call. The number of frames grows
with the text, and `main` takes a password of any length. -/

namespace StudyDemo.EasyLink

/-! ## The loops -/

/-- `iLen` of a length. The division cuts towards zero. -/
def iLen (ilen : BitVec 32) : Int := (ilen + 1).toInt.tdiv 2 + 2

/-- How often a loop up to `iLen` runs. -/
def rowCount (ilen : BitVec 32) : Nat := (iLen ilen).toNat

/-- A row of a table, and the frame that `MakeSendFrm` prints into it. -/
structure Row where
  index : Nat
  frame : Quad
  deriving DecidableEq

/-- The build loop over a text, `count` iterations from `index` on. -/
def buildLoop (type : UCHAR) (pb : Nat → UCHAR) (ilen : BitVec 32) :
    Nat → Nat → USHORT → List Row
  | 0, _, _ => []
  | count + 1, index, wSum =>
      let data := sendData pb ilen.toNat (rowCount ilen) index wSum
      ⟨index, makeSendFrm type (BitVec.ofNat 8 index) data.1 data.2.1⟩ ::
        buildLoop type pb ilen count (index + 1) data.2.2

def buildRows (type : UCHAR) (pb : Nat → UCHAR) (ilen : BitVec 32) : List Row :=
  buildLoop type pb ilen (rowCount ilen) 0 0

/-- The rows that the loop over `MultiCast` sends. -/
def sendRows (ilen : BitVec 32) : List Nat := List.range (rowCount ilen)

/-- What one call of `WifiEasyConnect` does with the tables. -/
structure Transfer where
  bSSIDData : List Row
  bPwdData : List Row
  sentPwd : List Nat
  sentSSID : List Nat
  deriving DecidableEq

/-- The loops of `WifiEasyConnect`. -/
def wifiEasyConnectRows (bChanged : UCHAR) (pbSSID : Nat → UCHAR) (ilenSSID : BitVec 32)
    (pbPwd : Nat → UCHAR) (ilenPwd : BitVec 32) : Transfer where
  bSSIDData := if bChanged = 1 then buildRows Field.ssid.sendType pbSSID ilenSSID else []
  bPwdData := if bChanged = 1 then buildRows Field.pswd.sendType pbPwd ilenPwd else []
  sentPwd := sendRows ilenPwd
  sentSSID := sendRows ilenSSID

/-! ## The lengths -/

/-- `CheckWifiStatus`: 15 bytes of what the command prints are read at most, and the
last one is dropped. -/
def checkWifiStatus (output : List UCHAR) : Nat :=
  let i := min 15 output.length
  if i ≤ 0 then 0 else i - 1

/-- `ipwdLen`, an `int`. -/
def ipwdLen (argv2 : Option (List UCHAR)) : BitVec 32 :=
  match argv2 with
  | some argument => BitVec.ofNat 32 argument.length
  | none => 0

/-- What a pointer to `bPwd_data` reads. `behind` stands behind its 40 bytes, and is what
`memcpy` leaves there after a longer argument. -/
def pwdByte (argv2 : Option (List UCHAR)) (behind : Nat → UCHAR) (index : Nat) : UCHAR :=
  if index < 40 then
    if 0 ≤ (ipwdLen argv2).toInt then
      ((argv2.getD []).take (ipwdLen argv2).toNat).getD index 0
    else
      0
  else
    behind index

/-- What a pointer to `bSSID_data` reads. -/
def ssidByte (output : List UCHAR) (behind : Nat → UCHAR) (index : Nat) : UCHAR :=
  if index < 40 then (output.take (checkWifiStatus output)).getD index 0 else behind index

/-- The calls of `WifiEasyConnect` in `main`, the last ones in the loop. -/
def mainTransfers (argv2 : Option (List UCHAR)) (output : List UCHAR)
    (pwdBehind ssidBehind : Nat → UCHAR) (repeats : Nat) : List Transfer :=
  let iSSIDLen := checkWifiStatus output
  let wifiEasyConnect := fun bChanged =>
    wifiEasyConnectRows bChanged (ssidByte output ssidBehind) (BitVec.ofNat 32 iSSIDLen)
      (pwdByte argv2 pwdBehind) (ipwdLen argv2)
  if 0 < iSSIDLen then
    wifiEasyConnect 1 :: List.replicate repeats (wifiEasyConnect 0)
  else
    []

/-! ## Counting the rows -/

section Count

variable {ilen : BitVec 32}

theorem toInt_succ (small : ilen.toNat < 2 ^ 31 - 1) : (ilen + 1).toInt = ilen.toNat + 1 := by
  have sum : (ilen + 1).toNat = ilen.toNat + 1 := by
    have one : (1 : BitVec 32).toNat = 1 := rfl
    rw [BitVec.toNat_add_of_lt (by omega), one]
  rw [BitVec.toInt_eq_toNat_of_lt (by omega), sum]
  rfl

theorem toInt_succ_nonpos (large : 2 ^ 31 - 1 ≤ ilen.toNat) : (ilen + 1).toInt ≤ 0 := by
  have bound := ilen.isLt
  have sum : (ilen + 1).toNat = (ilen.toNat + 1) % 2 ^ 32 := BitVec.toNat_add _ _
  rw [BitVec.toInt_eq_toNat_cond, sum]
  split_ifs <;> omega

theorem rowCount_eq (small : ilen.toNat < 2 ^ 31 - 1) : rowCount ilen = frameCount ilen.toNat := by
  rw [rowCount, iLen, toInt_succ small, Int.tdiv_eq_ediv_of_nonneg (by omega), frameCount]
  omega

theorem rowCount_le_two (large : 2 ^ 31 - 1 ≤ ilen.toNat) : rowCount ilen ≤ 2 := by
  have negative := toInt_succ_nonpos large
  have half : 0 ≤ (-(ilen + 1).toInt).tdiv 2 := Int.tdiv_nonneg (by omega) (by decide)
  rw [Int.neg_tdiv] at half
  rw [rowCount, iLen]
  omega

theorem rowCount_le_iff :
    rowCount ilen ≤ 18 ↔ ilen.toNat ≤ 32 ∨ 2 ^ 31 - 1 ≤ ilen.toNat := by
  by_cases small : ilen.toNat < 2 ^ 31 - 1
  · rw [rowCount_eq small, frameCount]
    omega
  · have two := rowCount_le_two (Nat.le_of_not_lt small)
    omega

end Count

theorem checkWifiStatus_le (output : List UCHAR) : checkWifiStatus output ≤ 14 := by
  dsimp only [checkWifiStatus]
  split_ifs <;> omega

/-! ## What the loops use -/

section Rows

variable (type : UCHAR) (pb : Nat → UCHAR) (ilen : BitVec 32)

theorem buildLoop_index (count index : Nat) (wSum : USHORT) :
    (buildLoop type pb ilen count index wSum).map Row.index = List.range' index count := by
  induction count generalizing index wSum with
  | zero => rfl
  | succ count induction => exact congrArg (index :: ·) (induction _ _)

theorem buildRows_index : (buildRows type pb ilen).map Row.index = List.range (rowCount ilen) := by
  rw [buildRows, buildLoop_index, List.range_eq_range']

theorem length_buildRows : (buildRows type pb ilen).length = rowCount ilen := by
  rw [← List.length_map Row.index, buildRows_index, List.length_range]

theorem buildLoop_frame (count index : Nat) (wSum : USHORT) :
    ∀ row ∈ buildLoop type pb ilen count index wSum, ∃ data0 data1,
      row.frame = makeSendFrm type (BitVec.ofNat 8 row.index) data0 data1 := by
  induction count generalizing index wSum with
  | zero => exact fun row member => absurd member List.not_mem_nil
  | succ count induction =>
      intro row member
      rcases List.mem_cons.mp member with first | later
      · rw [first]
        exact ⟨_, _, rfl⟩
      · exact induction _ _ row later

theorem buildRows_frames (small : ilen.toNat < 2 ^ 31 - 1) :
    (buildRows type pb ilen).map Row.frame = fieldFrames type pb ilen.toNat := by
  have loops : ∀ (count index : Nat) (wSum : USHORT),
      (buildLoop type pb ilen count index wSum).map Row.frame =
        frameLoop type pb ilen.toNat (rowCount ilen) count index wSum := by
    intro count
    induction count with
    | zero => exact fun _ _ => rfl
    | succ count induction => exact fun index wSum => congrArg (_ :: ·) (induction _ _)
  rw [buildRows, loops, rowCount_eq small]
  rfl

theorem index_lt_iff (bound : Nat) :
    (∀ row ∈ buildRows type pb ilen, row.index < bound) ↔ rowCount ilen ≤ bound := by
  rw [← List.forall_mem_map (f := Row.index) (P := (· < bound)), buildRows_index]
  simp only [List.mem_range]
  exact forall_lt_iff_le

theorem sendRows_lt_iff (bound : Nat) :
    (∀ row ∈ sendRows ilen, row < bound) ↔ rowCount ilen ≤ bound := by
  simp only [sendRows, List.mem_range]
  exact forall_lt_iff_le

/-- The length that the header announces, as long as it fits into a byte. -/
theorem header_length (byte : rowCount ilen < 256) :
    ∀ row ∈ (buildRows type pb ilen).head?,
      row.frame.fourth.toNat = (buildRows type pb ilen).length := by
  rw [length_buildRows, buildRows]
  cases count : rowCount ilen with
  | zero => exact fun row member => absurd member (Option.not_mem_none row)
  | succ more =>
      intro row member
      cases member
      simp [sendData, makeSendFrm, count]
      omega

end Rows

/-! ## The limits -/

/-- The calls that build and send the rows of a field keep within its table, keep the
type of the field in every frame, and announce the number of frames. -/
structure KeepsWithin (field : Field) (built : List Row) (sent : List Nat) : Prop where
  builtRows : ∀ row ∈ built, row.index < 18
  sentRows : ∀ row ∈ sent, row < 18
  indices : ∀ row ∈ built, row.index < 32 ∧ frmType row.frame.addr3 = field.sendType >>> 5
  header : ∀ row ∈ built.head?, row.frame.fourth.toNat = built.length

structure Transfer.KeepsWithin (transfer : Transfer) : Prop where
  pwd : EasyLink.KeepsWithin Field.pswd transfer.bPwdData transfer.sentPwd
  ssid : EasyLink.KeepsWithin Field.ssid transfer.bSSIDData transfer.sentSSID

section Limits

variable (field : Field) (pb : Nat → UCHAR) {ilen : BitVec 32}

theorem frmType_row {row : Row} (member : row ∈ buildRows field.sendType pb ilen)
    (small : row.index < 32) : frmType row.frame.addr3 = field.sendType >>> 5 := by
  obtain ⟨data0, data1, frame⟩ := buildLoop_frame _ _ _ _ _ _ row member
  rw [frame, field.sendType_eq, frmType_makeSendFrm field.type _ _ small]
  cases field <;> rfl

theorem keepsWithin_build (few : rowCount ilen ≤ 18) :
    KeepsWithin field (buildRows field.sendType pb ilen) (sendRows ilen) where
  builtRows := (index_lt_iff _ _ _ _).mpr few
  sentRows := (sendRows_lt_iff _ _).mpr few
  indices := by
    intro row member
    have small : row.index < 32 :=
      (index_lt_iff field.sendType pb ilen 32).mpr (few.trans (by decide)) row member
    exact ⟨small, frmType_row field pb member small⟩
  header := header_length _ _ _ (by omega)

theorem keepsWithin_send (few : rowCount ilen ≤ 18) : KeepsWithin field [] (sendRows ilen) where
  builtRows := by simp
  sentRows := (sendRows_lt_iff _ _).mpr few
  indices := by simp
  header := by simp

end Limits

/-- Whatever the network is called, and however often `main` sends, every call with a
password keeps within the tables. -/
def SendsWithin (argv2 : List UCHAR) : Prop :=
  ∀ (output : List UCHAR) (pwdBehind ssidBehind : Nat → UCHAR) (repeats : Nat),
    ∀ transfer ∈ mainTransfers (some argv2) output pwdBehind ssidBehind repeats,
      transfer.KeepsWithin

theorem wifiEasyConnectRows_keepsWithin (bChanged : UCHAR) (pbSSID pbPwd : Nat → UCHAR)
    {ilenSSID ilenPwd : BitVec 32} (ssid : rowCount ilenSSID ≤ 18) (pwd : rowCount ilenPwd ≤ 18) :
    (wifiEasyConnectRows bChanged pbSSID ilenSSID pbPwd ilenPwd).KeepsWithin := by
  by_cases changed : bChanged = 1
  · rw [wifiEasyConnectRows, if_pos changed, if_pos changed]
    exact ⟨keepsWithin_build _ _ pwd, keepsWithin_build _ _ ssid⟩
  · rw [wifiEasyConnectRows, if_neg changed, if_neg changed]
    exact ⟨keepsWithin_send _ pwd, keepsWithin_send _ ssid⟩

theorem rowCount_of_sendsWithin {argv2 : List UCHAR} (within : SendsWithin argv2) :
    rowCount (ipwdLen (some argv2)) ≤ 18 := by
  have call := within [104, 105, 10] (fun _ => 0) (fun _ => 0) 0 _ List.mem_cons_self
  exact (sendRows_lt_iff _ _).mp call.pwd.sentRows

/-- The sender keeps within its tables exactly for the passwords of up to 32 bytes, and
for those whose length overflows an `int`. -/
theorem sendsWithin_iff (argv2 : List UCHAR) :
    SendsWithin argv2 ↔
      argv2.length % 2 ^ 32 ≤ 32 ∨ 2 ^ 31 - 1 ≤ argv2.length % 2 ^ 32 := by
  rw [← BitVec.toNat_ofNat, ← rowCount_le_iff]
  constructor
  · exact rowCount_of_sendsWithin
  · intro few output pwdBehind ssidBehind repeats transfer member
    have ssid : rowCount (BitVec.ofNat 32 (checkWifiStatus output)) ≤ 18 := by
      have short := checkWifiStatus_le output
      rw [rowCount_le_iff, BitVec.toNat_ofNat]
      omega
    dsimp only [mainTransfers] at member
    split_ifs at member
    · rcases List.mem_cons.mp member with first | later
      · rw [first]
        exact wifiEasyConnectRows_keepsWithin _ _ _ ssid few
      · rw [List.eq_of_mem_replicate later]
        exact wifiEasyConnectRows_keepsWithin _ _ _ ssid few
    · exact absurd member List.not_mem_nil

/-- A passphrase of 63 characters. -/
theorem not_sendsWithin : ¬∀ argv2 : List UCHAR, SendsWithin argv2 := by
  intro within
  have few := rowCount_of_sendsWithin (within (List.replicate 63 97))
  revert few
  decide +kernel

end StudyDemo.EasyLink
