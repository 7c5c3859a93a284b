import StudyDemo.EasyLink.Receiver
import StudyDemo.NetLink.Message
import StudyDemo.NetLink.SiteSurvey

/-! # The program

`main` of `netlink_test` hops through the channels until the driver knows the
phone's, takes the driver's records, joins the network that a record names, and
calls the phone back once it has joined a network and has the phone's address. -/

namespace StudyDemo.NetLink

open StudyDemo.EasyLink StudyDemo.CMemory

/-! ## Surroundings -/

/-- What `main` does to its surroundings. `consume` is the copy of a record into
`g_tEasyLink`. -/
inductive Action
  | channel (number : Nat)
  | monitorMode
  | managedMode
  | consume (record : TEasyLink)
  | connectAP (index : Nat)
  | connect (sinAddr : List UCHAR) (sinPort : USHORT)
  | reboot
  deriving DecidableEq

/-- What one iteration gets from its surroundings: the message that waits, how
often `CheckWifiStatus` returns 0 (`none` when it never returns 1), what the scan
finds, and which socket calls succeed. -/
structure Turn where
  message : Option (List UCHAR)
  checks : Option Nat
  scan : Option (List NdisWlanBssidEx)
  socket : Bool
  connect : Bool
  recv : Bool

/-- Where the receive buffer and the list of access points stand, and what stands
behind `g_tEasyLink`. -/
structure Addresses where
  nlh : Nat
  apList : Nat
  behind : List UCHAR

/-- The variables of `main`, and what it has done. A program that exits or loops in
`CheckWifiStatus` is not `running`. -/
structure Main where
  gTEasyLink : TEasyLink
  memory : Memory
  iChannel : Nat
  iFountChannel : Nat
  iRecIpPort : Nat
  iLinkRoute : Nat
  running : Bool
  actions : List Action

def Main.initial (memory : Memory) : Main where
  gTEasyLink := .zero
  memory := memory
  iChannel := 1
  iFountChannel := 0
  iRecIpPort := 0
  iLinkRoute := 0
  running := true
  actions := [.monitorMode]

def Main.act (main : Main) (action : Action) : Main :=
  { main with actions := main.actions ++ [action] }

def Main.exit (main : Main) : Main := { main with running := false }

/-! ## Strings -/

def receivedName (addresses : Addresses) (record : TEasyLink) : List UCHAR :=
  (List.ofFn record.uSSID ++ addresses.behind).takeWhile (· ≠ 0)

def listedName (memory : Memory) (apList index : Nat) : List UCHAR :=
  readString memory maxLength (entryAddress apList index + ssidOffset)

/-- The decimal number of a byte, without leading zeros. -/
def decimalByte (byte : UCHAR) : List Byte :=
  if byte.toNat < 10 then decimal 1 byte.toNat
  else if byte.toNat < 100 then decimal 2 byte.toNat
  else decimal 3 byte.toNat

/-- `inet_ntoa` of the bytes of an `in_addr`. -/
def inetNtoa : List UCHAR → List Byte
  | [] => []
  | [last] => decimalByte last
  | byte :: rest => decimalByte byte ++ literal "." ++ inetNtoa rest

/-- `inet_aton` of numbers in decimal; `number` is what was read of the current one. -/
def inetAton : List Byte → Nat → List UCHAR
  | [], number => [BitVec.ofNat 8 number]
  | char :: rest, number =>
      if char = 46 then BitVec.ofNat 8 number :: inetAton rest 0
      else inetAton rest (10 * number + (char.toNat - 48))

def htons (port : USHORT) : USHORT := joinHalf (loadWord port 1) (loadWord port 0)

/-- `server.sin_addr` for a record. -/
def sinAddr (record : TEasyLink) : List UCHAR := inetAton (inetNtoa (wordBytes record.uIP)) 0

/-! ## The loop -/

/-- The channel commands at the start of an iteration. -/
def hopChannel (main : Main) : Main :=
  if main.iFountChannel = 0 then
    let hopped := (main.act (.channel main.iChannel)).act .monitorMode
    { hopped with iChannel := if main.iChannel + 1 > 14 then 1 else main.iChannel + 1 }
  else if main.iFountChannel = 1 then
    let hopped := (main.act (.channel main.gTEasyLink.uChannel.toNat)).act .monitorMode
    { hopped with iFountChannel := 2 }
  else
    main

/-- The index a search loop over the list breaks at. -/
def searchList (ret : Int) (found : Nat → Bool) : Option Nat := (List.range ret.toNat).find? found

/-- The index that `ConnectAP` is called with: the first entry with the same name
or, if there is none and the scan did not fail, the first one that contains it. -/
def chooseAP (memory : Memory) (apList : Nat) (ret : Int) (name : List UCHAR) : Option Nat :=
  match searchList ret fun index => decide (name = listedName memory apList index) with
  | some index => some index
  | none =>
      if 0 ≤ ret then
        searchList ret fun index => decide (name <:+: listedName memory apList index)
      else
        none

/-- The branch of `NET_LINK_SSIDPWD`. -/
def joinNetwork (addresses : Addresses) (turn : Turn) (main : Main) : Main :=
  match turn.checks with
  | none => main.exit
  | some checks =>
      let survey := getsitesurvey main.memory addresses.apList turn.scan
      let main := { main with
        memory := survey.1
        actions := main.actions ++ List.replicate checks .managedMode }
      match chooseAP survey.1 addresses.apList survey.2 (receivedName addresses main.gTEasyLink) with
      | none => main
      | some index => { main.act (.connectAP index) with iLinkRoute := 1 }

/-- The branches on `uLinkType`. -/
def handleRecord (addresses : Addresses) (turn : Turn) (main : Main) : Main :=
  if main.gTEasyLink.uLinkType = netLinkChannel then
    { main.act (.channel main.gTEasyLink.uChannel.toNat) with iFountChannel := 1 }
  else if main.gTEasyLink.uLinkType = netLinkSsidPwd then
    joinNetwork addresses turn main
  else if main.gTEasyLink.uLinkType = netLinkReIpPort then
    { main with iRecIpPort := 1 }
  else
    main

/-- The connection to the phone. -/
def callHome (turn : Turn) (main : Main) : Main :=
  if main.running ∧ main.iLinkRoute = 1 ∧ main.iRecIpPort = 1 then
    if turn.socket then
      let called := main.act (.connect (sinAddr main.gTEasyLink) (htons main.gTEasyLink.uPort))
      if turn.connect then
        if turn.recv then called.act .reboot else (called.act .reboot).exit
      else
        called.exit
    else
      main.exit
  else
    main

/-- `recvmsg` and the copy of the record behind the header. -/
def consumeMessage (addresses : Addresses) (message : List UCHAR) (main : Main) : Main :=
  let record := receivedRecord main.memory addresses.nlh message
  { main.act (.consume record) with
    memory := recvmsg main.memory addresses.nlh TEasyLink.size message
    gTEasyLink := record }

/-- One iteration of `while(1)`. -/
def mainTurn (addresses : Addresses) (main : Main) (turn : Turn) : Main :=
  if main.running then
    let main := hopChannel main
    match turn.message with
    | none => main
    | some message =>
        callHome turn (handleRecord addresses turn (consumeMessage addresses message main))
  else
    main

/-- `main`, from the start of its loop. -/
def mainRun (addresses : Addresses) (memory : Memory) (turns : List Turn) : Main :=
  turns.foldl (mainTurn addresses) (.initial memory)

/-! ## The address -/

theorem inetAton_decimalByte (byte : UCHAR) (rest : List Byte) :
    inetAton (decimalByte byte ++ rest) 0 = inetAton rest byte.toNat := by
  have digits : ∀ (digits : List Byte) (number : Nat), 46 ∉ digits →
      inetAton (digits ++ rest) number = inetAton rest
        (digits.foldl (fun number char => 10 * number + (char.toNat - 48)) number) := by
    intro digits
    induction digits with
    | nil =>
        intro number _
        rfl
    | cons char digits induction =>
        intro number noDot
        have notDot : char ≠ 46 := fun dot => noDot (dot ▸ List.mem_cons_self)
        rw [List.cons_append, inetAton, if_neg notDot]
        exact induction _ fun member => noDot (List.mem_cons_of_mem _ member)
  have written : ∀ byte : UCHAR, 46 ∉ decimalByte byte ∧
      (decimalByte byte).foldl (fun number char => 10 * number + (char.toNat - 48)) 0 =
        byte.toNat := by
    decide +kernel
  rw [digits _ _ (written byte).1, (written byte).2]

theorem inetAton_inetNtoa {address : List UCHAR} (nonempty : address ≠ []) :
    inetAton (inetNtoa address) 0 = address := by
  induction address with
  | nil => exact absurd rfl nonempty
  | cons byte rest induction =>
      cases rest with
      | nil =>
          have read := inetAton_decimalByte byte []
          rw [List.append_nil] at read
          rw [inetNtoa, read, inetAton, BitVec.ofNat_toNat, BitVec.setWidth_eq]
      | cons next rest =>
          have dot : literal "." = [46] := by decide +kernel
          rw [inetNtoa, List.append_assoc, inetAton_decimalByte, dot, List.cons_append, inetAton,
            if_pos rfl, List.nil_append, induction (List.cons_ne_nil _ _), BitVec.ofNat_toNat,
            BitVec.setWidth_eq]
          exact List.cons_ne_nil _ _

theorem sinAddr_eq (record : TEasyLink) : sinAddr record = wordBytes record.uIP :=
  inetAton_inetNtoa (List.cons_ne_nil _ _)

end StudyDemo.NetLink
