import StudyDemo.Sqlite.Lookups
import StudyDemo.Sqlite.ProfileSwitch
import StudyDemo.Sqlite.SceneDevices
import StudyDemo.Sqlite.UnknownProfiles

/-! # Statements left open

A search that returns out of a loop leaves the statements of that loop and of the loops
around it open. Whether it does can be told from the calls alone: each loop is compared
with the pattern of its calls. -/

namespace StudyDemo.Sqlite

open Sql

/-! ## Patterns of calls -/

/-- From the calls made so far, whether a part of a search goes on, and the calls made
by then. -/
abbrev CallPattern := Nat → Bool × Nat

section Patterns

variable {layout : Layout} (environment : Environment layout.schema)

/-- One call, which must succeed. -/
def allocation : CallPattern := fun calls => (environment.succeeds calls, calls + 1)

/-- Two calls, which must both succeed. -/
def twoAllocations : CallPattern := fun calls =>
  if environment.succeeds calls then (environment.succeeds (calls + 1), calls + 2)
  else (false, calls + 1)

/-- A loop over rows: a failed step ends it as if there were no more rows. -/
def walk (pattern : Row → CallPattern) : List Row → CallPattern
  | [], calls => (true, calls + 1)
  | row :: rows, calls =>
      if environment.succeeds calls then
        let turn := pattern row (calls + 1)
        if turn.1 then walk pattern rows turn.2 else (false, turn.2)
      else (true, calls + 1)

def accepts (command : Command) (connection : Connection TableName) (calls : Nat) : Bool :=
  environment.succeeds calls && (environment.engine.prepare command.text connection).isSome

/-- A query and the loop over its rows. -/
def query (command : Command) (connection : Connection TableName) (pattern : Row → CallPattern) :
    CallPattern := fun calls =>
  if accepts environment command connection calls then
    walk environment pattern (selectedRows environment command connection) (calls + 1)
  else (false, calls + 1)

/-- If the statement is prepared, no turn of its loop returns. -/
def Closes (command : Command) (connection : Connection TableName) (pattern : Row → CallPattern)
    (calls : Nat) : Prop :=
  accepts environment command connection calls = true →
    (query environment command connection pattern calls).1 = true

/-- A turn makes the calls of the pattern, and leaves no statement open when it goes on. -/
structure FollowsAt {State Returned : Type*} (holds : Connection TableName → Prop)
    (pattern : CallPattern) (session : Session TableName)
    (done : Except Returned State × Session TableName) : Prop where
  connection : holds done.2.connection
  calls : done.2.calls = (pattern session.calls).2
  goesOn : done.1.isOk = (pattern session.calls).1
  closed : done.1.isOk = true → done.2.live = session.live
  open_le : session.live ≤ done.2.live

def Follows {State Returned : Type*} (holds : Connection TableName → Prop)
    (turn : Row → State → Session TableName → Except Returned State × Session TableName)
    (pattern : Row → CallPattern) : Prop :=
  ∀ row state session, holds session.connection →
    FollowsAt holds (pattern row) session (turn row state session)

/-- A query, its loop, and the statement finalized behind the loop. -/
def afterQuery {State Returned : Type*} (command : Command)
    (turn : Row → State → Session TableName → Except Returned State × Session TableName)
    (state : State) (session : Session TableName) : Session TableName :=
  let prepared := environment.prepare command.text session
  match prepared.1 with
  | none => prepared.2
  | some rows =>
      let done := environment.forRows turn rows state prepared.2
      match done.1 with
      | .error _ => done.2
      | .ok _ => done.2.finalize

end Patterns

section Loops

variable {layout : Layout} {environment : Environment layout.schema} {State Returned : Type*}
  {holds : Connection TableName → Prop}
  {turn : Row → State → Session TableName → Except Returned State × Session TableName}
  {pattern : Row → CallPattern}

variable (environment) in
theorem forRows_follows (follows : Follows holds turn pattern) (rows : List Row) (state : State)
    (session : Session TableName) (start : holds session.connection) :
    FollowsAt holds (walk environment pattern rows) session
      (environment.forRows turn rows state session) := by
  induction rows generalizing state session with
  | nil => exact ⟨start, rfl, rfl, fun _ => rfl, Nat.le_refl _⟩
  | cons row rows induction =>
      by_cases stepped : environment.succeeds session.calls = true
      · have first := follows row state session.called start
        have isCalled : session.called.calls = session.calls + 1 := rfl
        have walked : walk environment pattern (row :: rows) session.calls =
            if (pattern row (session.calls + 1)).1 then
              walk environment pattern rows (pattern row (session.calls + 1)).2
            else (false, (pattern row (session.calls + 1)).2) := by
          rw [walk, if_pos stepped]
        rw [Environment.forRows, if_pos stepped]
        revert first
        cases turn row state session.called with
        | mk result after =>
            intro first
            have made := first.calls
            have goesOn := first.goesOn
            rw [isCalled] at made goesOn
            cases result with
            | error returned =>
                rw [← goesOn] at walked
                dsimp only at made ⊢
                exact ⟨first.connection, by rw [walked]; exact made,
                  by rw [walked]; rfl, fun isOk => absurd isOk Bool.false_ne_true,
                  first.open_le⟩
            | ok next =>
                rw [← goesOn] at walked
                dsimp only at made ⊢
                have rest := induction next after first.connection
                have same : walk environment pattern (row :: rows) session.calls =
                    walk environment pattern rows after.calls := by
                  rw [walked, made]
                  rfl
                have kept : after.live = session.live := first.closed rfl
                exact ⟨rest.connection, by rw [same]; exact rest.calls,
                  by rw [same]; exact rest.goesOn, fun isOk => (rest.closed isOk).trans kept,
                  kept ▸ rest.open_le⟩
      · rw [Environment.forRows, if_neg stepped]
        have walked : walk environment pattern (row :: rows) session.calls =
            (true, session.calls + 1) := by
          rw [walk, if_neg stepped]
        exact ⟨start, by rw [walked]; rfl, by rw [walked]; rfl, fun _ => rfl, Nat.le_refl _⟩

variable {command : Command} {session : Session TableName}

theorem prepare_of_accepts
    (accepted : accepts environment command session.connection session.calls = true) :
    environment.prepare command.text session =
      (some (selectedRows environment command session.connection),
        { session.called with live := session.live + 1 }) := by
  obtain ⟨succeeds, gives⟩ := Bool.and_eq_true_iff.mp accepted
  obtain ⟨rows, isRows⟩ := Option.isSome_iff_exists.mp gives
  rw [Environment.prepare, if_pos succeeds, selectedRows, isRows]
  rfl

theorem prepare_of_not_accepts
    (refused : ¬accepts environment command session.connection session.calls = true) :
    environment.prepare command.text session = (none, session.called) := by
  rw [Environment.prepare]
  split_ifs with succeeds
  · cases gives : environment.engine.prepare command.text session.connection with
    | none => rfl
    | some rows => exact absurd (by rw [accepts, succeeds, gives]; rfl) refused
  · rfl

variable (environment) (command) in
theorem afterQuery_cases (follows : Follows holds turn pattern)
    (state : State) (start : holds session.connection) :
    let after := afterQuery environment command turn state session
    let called := query environment command session.connection pattern session.calls
    holds after.connection ∧ after.calls = called.2 ∧
      (accepts environment command session.connection session.calls = true →
        called.1 = false → session.live < after.live) ∧
      (accepts environment command session.connection session.calls = false ∨ called.1 = true →
        after.live = session.live) := by
  dsimp only
  rw [afterQuery, query]
  by_cases accepted : accepts environment command session.connection session.calls = true
  · have loop := forRows_follows environment follows
      (selectedRows environment command session.connection) state
      { session.called with live := session.live + 1 } start
    rw [prepare_of_accepts accepted, if_pos accepted]
    revert loop
    dsimp only
    cases environment.forRows turn (selectedRows environment command session.connection) state
      { session.called with live := session.live + 1 } with
    | mk result after =>
        intro loop
        have goesOn := loop.goesOn
        have opened := loop.open_le
        cases result with
        | error returned =>
            refine ⟨loop.connection, loop.calls, fun _ _ => opened, ?_⟩
            rintro (refused | whole)
            · rw [accepted] at refused
              cases refused
            · cases goesOn.trans whole
        | ok next =>
            have closed := loop.closed rfl
            refine ⟨loop.connection, loop.calls, fun _ returned => ?_, fun _ => ?_⟩
            · cases goesOn.trans returned
            · exact (congrArg (· - 1) closed).trans (Nat.add_sub_cancel _ _)
  · rw [prepare_of_not_accepts accepted, if_neg accepted]
    exact ⟨start, rfl, fun isAccepted => absurd isAccepted accepted, fun _ => rfl⟩

variable (environment) (command) in
theorem le_afterQuery_live (follows : Follows holds turn pattern) (state : State)
    (start : holds session.connection) :
    session.live ≤ (afterQuery environment command turn state session).live := by
  obtain ⟨-, -, opened, closed⟩ := afterQuery_cases environment command follows state start
  by_cases accepted : accepts environment command session.connection session.calls = true
  · cases returned : (query environment command session.connection pattern session.calls).1 with
    | true => exact Nat.le_of_eq (closed (Or.inr returned)).symm
    | false => exact Nat.le_of_lt (opened accepted returned)
  · exact Nat.le_of_eq (closed (Or.inl (Bool.eq_false_iff.mpr accepted))).symm

variable (environment) (command) in
theorem afterQuery_live_iff (follows : Follows holds turn pattern)
    (state : State) (start : holds session.connection) :
    (afterQuery environment command turn state session).live = session.live ↔
      Closes environment command session.connection pattern session.calls := by
  obtain ⟨-, -, opened, closed⟩ :=
    afterQuery_cases environment command follows state start
  constructor
  · intro same accepted
    by_contra returned
    have more := opened accepted (Bool.eq_false_iff.mpr returned)
    exact absurd same.symm (Nat.ne_of_lt more)
  · intro closes
    apply closed
    by_cases accepted : accepts environment command session.connection session.calls = true
    · exact Or.inr (closes accepted)
    · exact Or.inl (Bool.eq_false_iff.mpr accepted)

end Loops

/-! ## Loops inside loops -/

section Nested

variable {layout : Layout} {environment : Environment layout.schema} {Listed : Type}

/-- The statement of an inner query is open while its loop runs. -/
theorem selectLoop_session (command : Command) (turn : Turn Listed) (list : List Listed)
    (session : Session TableName) :
    (selectLoop environment command true turn list session).2 =
      afterQuery environment command turn list session := by
  rw [selectLoop, afterQuery]
  rcases environment.prepare command.text session with ⟨_ | rows, after⟩
  · rfl
  · dsimp only
    rcases environment.forRows turn rows list after with ⟨_ | _, last⟩
    · rfl
    · rfl

variable (environment) in
theorem selectLoop_isOk {holds : Connection TableName → Prop} (command : Command)
    {turn : Turn Listed} {pattern : Row → CallPattern} (follows : Follows holds turn pattern)
    (finalizes : Bool) (list : List Listed) {session : Session TableName}
    (start : holds session.connection) :
    (selectLoop environment command finalizes turn list session).1.isOk =
      (query environment command session.connection pattern session.calls).1 := by
  rw [selectLoop, query]
  by_cases accepted : accepts environment command session.connection session.calls = true
  · have loop := forRows_follows environment follows
      (selectedRows environment command session.connection) list
      { session.called with live := session.live + 1 } start
    rw [prepare_of_accepts accepted, if_pos accepted]
    revert loop
    dsimp only
    cases environment.forRows turn (selectedRows environment command session.connection) list
      { session.called with live := session.live + 1 } with
    | mk result after =>
        intro loop
        cases result with
        | error returned => exact loop.goesOn
        | ok next => exact loop.goesOn
  · rw [prepare_of_not_accepts accepted, if_neg accepted]
    rfl

variable (environment) in
theorem selectLoop_follows {connection : Connection TableName} (commandOf : Row → Command)
    {turn : Row → Turn Listed} {pattern : Row → Row → CallPattern}
    (follows : ∀ row, Follows (· = connection) (turn row) (pattern row)) :
    Follows (· = connection)
      (fun row => selectLoop environment (commandOf row) true (turn row))
      (fun row => query environment (commandOf row) connection (pattern row)) := by
  intro row list session start
  have isOk := selectLoop_isOk environment (commandOf row) (follows row) true list start
  have opened := le_afterQuery_live environment (commandOf row) (follows row) list start
  obtain ⟨kept, made, -, closed⟩ :=
    afterQuery_cases environment (commandOf row) (follows row) list start
  rw [start] at isOk made closed
  rw [← selectLoop_session] at kept made opened closed
  exact ⟨kept, made, isOk, fun ok => closed (Or.inr (isOk.symm.trans ok)), opened⟩

theorem FollowsAt.allocation {State Returned : Type*} {connection : Connection TableName}
    {session : Session TableName} (start : session.connection = connection)
    {result : Except Returned State}
    (goesOn : result.isOk = environment.succeeds session.calls) :
    FollowsAt (· = connection) (allocation environment) session (result, session.called) :=
  ⟨start, rfl, goesOn, fun _ => rfl, Nat.le_refl _⟩

variable (environment) in
theorem appendTurn_follows (connection : Connection TableName) (ofRow : Row → Listed) :
    Follows (· = connection) (appendTurn environment ofRow)
      fun _ => allocation environment := by
  intro row list session start
  have memory : (environment.malloc session).1 = environment.succeeds session.calls := rfl
  rw [appendTurn, memory]
  cases succeeds : environment.succeeds session.calls with
  | true => exact FollowsAt.allocation start succeeds.symm
  | false => exact FollowsAt.allocation start succeeds.symm

variable (environment) in
theorem newAddressTurn_follows (connection : Connection TableName) :
    Follows (· = connection) (newAddressTurn environment) fun _ => allocation environment := by
  intro row list session start
  have memory : (environment.malloc session).1 = environment.succeeds session.calls := rfl
  rw [newAddressTurn, memory]
  cases succeeds : environment.succeeds session.calls with
  | true =>
      rw [if_pos rfl]
      split_ifs
      · exact FollowsAt.allocation start succeeds.symm
      · exact FollowsAt.allocation start succeeds.symm
  | false => exact FollowsAt.allocation start succeeds.symm

variable (environment) in
theorem profileTurn_follows (connection : Connection TableName) :
    Follows (· = connection) (profileTurn environment)
      fun _ => twoAllocations environment := by
  intro row list session start
  have memory : (environment.malloc session).1 = environment.succeeds session.calls := rfl
  have second : (environment.malloc (environment.malloc session).2).1 =
      environment.succeeds (session.calls + 1) := rfl
  rw [profileTurn, memory]
  cases succeeds : environment.succeeds session.calls with
  | true =>
      have calls : twoAllocations environment session.calls =
          (environment.succeeds (session.calls + 1), session.calls + 2) := by
        rw [twoAllocations, if_pos succeeds]
      rw [if_pos rfl]
      dsimp only
      rw [second]
      cases next : environment.succeeds (session.calls + 1) with
      | true =>
          rw [next] at calls
          exact ⟨start, (congrArg Prod.snd calls).symm, (congrArg Prod.fst calls).symm,
            fun _ => rfl, Nat.le_refl _⟩
      | false =>
          rw [next] at calls
          exact ⟨start, (congrArg Prod.snd calls).symm, (congrArg Prod.fst calls).symm,
            fun _ => rfl, Nat.le_refl _⟩
  | false =>
      have calls : twoAllocations environment session.calls = (false, session.calls + 1) := by
        rw [twoAllocations, succeeds]
        rfl
      exact ⟨start, (congrArg Prod.snd calls).symm, (congrArg Prod.fst calls).symm,
        fun _ => rfl, Nat.le_refl _⟩

end Nested

/-! ## The searches -/

section Searches

variable {layout : Layout} {environment : Environment layout.schema}

theorem tableSearch_session {Listed : Type} (command : Command) (turn : Turn Listed)
    (session : Session TableName) :
    (tableSearch environment command turn session).2 =
      afterQuery environment command turn [] session := by
  rw [tableSearch, afterQuery]
  rcases environment.prepare command.text session with ⟨_ | rows, after⟩
  · rfl
  · dsimp only
    rcases environment.forRows turn rows [] after with ⟨_ | _, last⟩
    · rfl
    · rfl

theorem returned_session {Listed : Type}
    (done : Except (SqliteStatus × List Listed) (List Listed) × Session TableName) :
    (returned done).2 = done.2 := by
  cases done with
  | mk result after =>
      cases result with
      | error returned => rfl
      | ok list => rfl

/-- A turn that makes no call. -/
def silent : CallPattern := fun calls => (true, calls)

theorem FollowsAt.silent {State Returned : Type*} {connection : Connection TableName}
    {session : Session TableName} (start : session.connection = connection) (next : State) :
    FollowsAt (· = connection) silent session ((.ok next : Except Returned State), session) :=
  ⟨start, rfl, rfl, fun _ => rfl, Nat.le_refl _⟩

variable (environment) in
theorem deviceTableSearchOneTurn_follows (connection : Connection TableName) :
    Follows (· = connection) (deviceTableSearchOneTurn environment) fun _ => silent :=
  fun _ _ _ start => FollowsAt.silent start _

variable (environment) in
theorem sceneTableSearchOneTurn_follows (connection : Connection TableName) :
    Follows (· = connection) (sceneTableSearchOneTurn environment) fun _ => silent :=
  fun _ _ _ start => FollowsAt.silent start _

variable (environment) in
theorem roomTableSearchOneTurn_follows (connection : Connection TableName) :
    Follows (· = connection) (roomTableSearchOneTurn environment) fun _ => silent :=
  fun _ _ _ start => FollowsAt.silent start _

theorem walk_silent (rows : List Row) (calls : Nat) :
    (walk environment (fun _ => silent) rows calls).1 = true := by
  induction rows generalizing calls with
  | nil => rfl
  | cons row rows induction =>
      rw [walk]
      split_ifs
      · exact induction _
      · rfl

theorem closes_silent (command : Command) (connection : Connection TableName) (calls : Nat) :
    Closes environment command connection (fun _ => silent) calls := by
  intro accepted
  rw [query, if_pos accepted]
  exact walk_silent _ _

theorem deviceTableSearchOne_session {deviceData : DeviceTable} {session : Session TableName} :
    (deviceTableSearchOne environment deviceData session).map Prod.snd =
      if Fits (deviceTableSearchOneCommand deviceData) then
        some (afterQuery environment (deviceTableSearchOneCommand deviceData)
          (deviceTableSearchOneTurn environment) (0, deviceData) session)
      else none := by
  rw [deviceTableSearchOne, afterQuery]
  dsimp only
  split_ifs
  · rcases environment.prepare (deviceTableSearchOneCommand deviceData).text session with
      ⟨_ | rows, after⟩
    · rfl
    · dsimp only
      rcases environment.forRows (deviceTableSearchOneTurn environment) rows
        (0, deviceData) after with
        ⟨returned | found, last⟩
      · cases returned
      · rfl
  · rfl

theorem sceneTableSearchOne_session (sceneData : SceneTable) (session : Session TableName) :
    (sceneTableSearchOne environment sceneData session).2 =
      afterQuery environment (sceneTableSearchOneCommand sceneData)
        (sceneTableSearchOneTurn environment) (0, sceneData) session := by
  rw [sceneTableSearchOne, afterQuery]
  rcases environment.prepare (sceneTableSearchOneCommand sceneData).text session with
    ⟨_ | rows, after⟩
  · rfl
  · dsimp only
    rcases environment.forRows (sceneTableSearchOneTurn environment) rows (0, sceneData) after with
      ⟨returned | found, last⟩
    · cases returned
    · rfl

theorem roomTableSearchOne_session (roomData : RoomTable) (session : Session TableName) :
    (roomTableSearchOne environment roomData session).2 =
      afterQuery environment (roomTableSelect roomData.groupId)
        (roomTableSearchOneTurn environment) (0, roomData) session := by
  rw [roomTableSearchOne, afterQuery]
  rcases environment.prepare (roomTableSelect roomData.groupId).text session with
    ⟨_ | rows, after⟩
  · rfl
  · dsimp only
    rcases environment.forRows (roomTableSearchOneTurn environment) rows (0, roomData) after with
      ⟨returned | found, last⟩
    · cases returned
    · rfl

variable (environment) in
theorem profileTableSearchOneTurn_follows (connection : Connection TableName) :
    Follows (· = connection) (profileTableSearchOneTurn environment)
      fun _ => allocation environment := by
  intro row found session start
  have memory : (environment.malloc session).1 = environment.succeeds session.calls := rfl
  rw [profileTableSearchOneTurn]
  dsimp only
  rw [memory]
  cases succeeds : environment.succeeds session.calls with
  | true => exact FollowsAt.allocation start succeeds.symm
  | false => exact FollowsAt.allocation start succeeds.symm

variable (environment) in
theorem linkageTableSearchOneTurn_follows (connection : Connection TableName) :
    Follows (· = connection) (linkageTableSearchOneTurn environment)
      fun _ => allocation environment := by
  intro row found session start
  have memory : (environment.malloc session).1 = environment.succeeds session.calls := rfl
  rw [linkageTableSearchOneTurn]
  dsimp only
  rw [memory]
  cases succeeds : environment.succeeds session.calls with
  | true => exact FollowsAt.allocation start succeeds.symm
  | false => exact FollowsAt.allocation start succeeds.symm

theorem profileTableSearchOne_session (profileData : ProfileTable)
    (session : Session TableName) :
    (profileTableSearchOne environment profileData session).2 =
      afterQuery environment (profileTableSelect profileData.profileId)
        (profileTableSearchOneTurn environment) (0, profileData) session := by
  rw [profileTableSearchOne, afterQuery]
  rcases environment.prepare (profileTableSelect profileData.profileId).text session with
    ⟨_ | rows, after⟩
  · rfl
  · dsimp only
    rcases environment.forRows (profileTableSearchOneTurn environment) rows (0, profileData)
      after with
      ⟨_ | _, last⟩
    · rfl
    · rfl

theorem linkageTableSearchOne_session {linkageData : LinkageTable}
    {session : Session TableName} :
    (linkageTableSearchOne environment linkageData session).map Prod.snd =
      if Fits (linkageTableSearchOneCommand linkageData) then
        some (afterQuery environment (linkageTableSearchOneCommand linkageData)
          (linkageTableSearchOneTurn environment) (0, linkageData) session)
      else none := by
  rw [linkageTableSearchOne, afterQuery]
  dsimp only
  split_ifs
  · rcases environment.prepare (linkageTableSearchOneCommand linkageData).text session with
      ⟨_ | rows, after⟩
    · rfl
    · dsimp only
      rcases environment.forRows (linkageTableSearchOneTurn environment) rows (0, linkageData)
        after with
        ⟨_ | _, last⟩
      · rfl
      · rfl
  · rfl

/-! ## Switching -/

variable (environment) in
/-- How many rows a loop goes through. -/
def turns (pattern : Row → CallPattern) : List Row → Nat → Nat
  | [], _ => 0
  | row :: rows, calls =>
      if environment.succeeds calls then
        let turn := pattern row (calls + 1)
        if turn.1 then turns pattern rows turn.2 + 1 else 0
      else 0

/-- The key that was read from the last row. -/
def lastIndex (engine : Engine layout.schema) (rows : List Row) (index : uint16) : uint16 :=
  rows.foldl (fun _ row => (engine.columnInt (row.column 0)).setWidth 16) index

variable (environment) in
/-- The key of the profile, when `ProfileTableSearchOne` finds it. Its rows are counted
in 8 bits. -/
def foundIndex (profileData : ProfileTable) (session : Session TableName) : Option uint16 :=
  let select := profileTableSelect profileData.profileId
  let rows := selectedRows environment select session.connection
  let read := rows.take (turns environment (fun _ => allocation environment) rows
    (session.calls + 1))
  if accepts environment select session.connection session.calls ∧
      (query environment select session.connection (fun _ => allocation environment)
        session.calls).1 = true ∧ read.length % 256 ≠ 0 then
    some (lastIndex environment.engine read profileData.index)
  else none

theorem forRows_profileTableSearchOneTurn (rows : List Row) (count : uint8)
    (profileData : ProfileTable) (session : Session TableName)
    (whole : (walk environment (fun _ => allocation environment) rows session.calls).1 = true) :
    let read := rows.take (turns environment (fun _ => allocation environment) rows session.calls)
    ∃ copied : ProfileTable,
      (environment.forRows (profileTableSearchOneTurn environment) rows (count, profileData)
        session).1 = .ok (count + BitVec.ofNat 8 read.length, copied) ∧
      copied.index = lastIndex environment.engine read profileData.index := by
  induction rows generalizing count profileData session with
  | nil => exact ⟨profileData, congrArg (fun n => Except.ok (n, profileData)) (by simp), rfl⟩
  | cons row rows induction =>
      dsimp only
      rw [Environment.forRows, turns]
      rw [walk] at whole
      split_ifs with stepped
      · rw [if_pos stepped] at whole
        have isCalled : (allocation environment (session.calls + 1)).1 =
            (environment.malloc session.called).1 := rfl
        dsimp only at whole ⊢
        by_cases allocated : (environment.malloc session.called).1 = true
        · rw [isCalled, if_pos allocated] at whole
          rw [isCalled, if_pos allocated, profileTableSearchOneTurn]
          dsimp only
          rw [if_pos allocated]
          obtain ⟨copied, result, isIndex⟩ :=
            induction (count + 1) _ session.called.called whole
          refine ⟨copied, result.trans ?_, isIndex⟩
          rw [List.take_succ_cons, List.length_cons, BitVec.ofNat_add, BitVec.add_assoc,
            BitVec.add_comm 1]
          rfl
        · rw [isCalled, if_neg allocated] at whole
          cases whole
      · exact ⟨profileData, by simp, rfl⟩

theorem forRows_profileTableSearchOneTurn_error {rows : List Row} {found : uint8 × ProfileTable}
    {session : Session TableName} {returned : SqliteStatus × ProfileTable}
    (failed : (environment.forRows (profileTableSearchOneTurn environment) rows found
      session).1 = .error returned) : returned.1 = .mallocErr := by
  induction rows generalizing found session with
  | nil => cases failed
  | cons row rows induction =>
      rw [Environment.forRows] at failed
      split_ifs at failed
      rw [profileTableSearchOneTurn] at failed
      dsimp only at failed
      split_ifs at failed
      · exact induction failed
      · exact congrArg Prod.fst (Except.error.inj failed).symm

theorem count_eq_zero_iff (length : Nat) :
    (0 : uint8) + BitVec.ofNat 8 length = 0 ↔ length % 256 = 0 := by
  have sum : ((0 : uint8) + BitVec.ofNat 8 length).toNat = (0 + length % 256) % 256 := rfl
  have zero : (0 : uint8).toNat = 0 := rfl
  rw [← BitVec.toNat_inj, sum, zero]
  omega

theorem profileTableSearchOne_foundIndex (profileData : ProfileTable)
    (session : Session TableName) :
    let found := profileTableSearchOne environment profileData session
    (∀ key, foundIndex environment profileData session = some key →
        found.1.1 = .success ∧ found.1.2.index = key) ∧
      (foundIndex environment profileData session = none → found.1.1 ≠ .success) := by
  let select := profileTableSelect profileData.profileId
  let rows := selectedRows environment select session.connection
  let middle : Session TableName := { session.called with live := session.live + 1 }
  rw [foundIndex, profileTableSearchOne]
  dsimp only
  by_cases accepted : accepts environment select session.connection session.calls = true
  · have loop := forRows_follows environment
      (profileTableSearchOneTurn_follows environment session.connection) rows (0, profileData)
      middle rfl
    have goesOn := loop.goesOn
    rw [prepare_of_accepts accepted, query, if_pos accepted]
    dsimp only
    by_cases whole : (walk environment (fun _ => allocation environment) rows
        (session.calls + 1)).1 = true
    · obtain ⟨copied, result, isIndex⟩ :=
        forRows_profileTableSearchOneTurn rows 0 profileData middle whole
      have isCalls : middle.calls = session.calls + 1 := rfl
      rw [isCalls] at result isIndex
      rw [result]
      dsimp only
      by_cases overflow : (rows.take (turns environment (fun _ => allocation environment) rows
          (session.calls + 1))).length % 256 = 0
      · rw [if_neg fun all => all.2.2 overflow, if_pos ((count_eq_zero_iff _).mpr overflow)]
        refine ⟨fun key isSome => ?_, fun _ => SqliteStatus.noConfusion⟩
        cases isSome
      · rw [if_pos ⟨accepted, whole, overflow⟩,
          if_neg ((count_eq_zero_iff _).not.mpr overflow)]
        refine ⟨fun key isSome => ⟨rfl, ?_⟩, fun isNone => ?_⟩
        · exact isIndex.trans (Option.some.inj isSome)
        · cases isNone
    · rw [if_neg fun all => whole all.2.1]
      refine ⟨fun key isSome => ?_, fun _ => ?_⟩
      · cases isSome
      · revert goesOn
        cases result : (environment.forRows (profileTableSearchOneTurn environment) rows
          (0, profileData) middle).1 with
        | error returned =>
            intro _
            dsimp only
            rw [forRows_profileTableSearchOneTurn_error result]
            exact SqliteStatus.noConfusion
        | ok found =>
            intro isOk
            exact absurd isOk.symm whole
  · rw [prepare_of_not_accepts accepted, if_neg fun both => accepted both.1]
    refine ⟨fun key isSome => ?_, fun _ => SqliteStatus.noConfusion⟩
    cases isSome

variable (environment) in
/-- The command of an entry fails only when its call does. -/
theorem onOffTurn_follows (onOff : uint8) :
    Follows (fun _ => True) (onOffTurn environment onOff) fun _ => allocation environment := by
  intro row _ session _
  let command := sceneTableOnOffCommand onOff (environment.engine.columnInt (row.column 1))
  have safe := sceneTableOnOffCommand_safe onOff (environment.engine.columnInt (row.column 1))
  obtain ⟨made, live⟩ := runCommand_called environment safe.fits session
  have ran := onOffStatement_run environment.engine onOff row session.connection
  have success : (runCommand environment command session).1 = true ↔
      environment.succeeds session.calls = true := by
    rw [runCommand_success_iff safe (sceneTableOnOffCommand_statement onOff _) session]
    rw [onOffStatement] at ran
    rw [ran]
    exact and_iff_left rfl
  have isOk : (onOffTurn environment onOff row () session).1.isOk =
      (runCommand environment command session).1 := by
    rw [onOffTurn]
    dsimp only
    cases (runCommand environment command session).1 with
    | true => rfl
    | false => rfl
  exact ⟨trivial, made, isOk.trans (Bool.eq_iff_iff.mpr success), fun _ => live,
    Nat.le_of_eq live.symm⟩

theorem profileTableOnOff_session (profileData : ProfileTable) (onOff : uint8)
    (session : Session TableName) :
    (profileTableOnOff environment profileData onOff session).2 =
      let found := profileTableSearchOne environment profileData session
      if found.1.1 = .success then
        afterQuery environment (profileListTableSelect (found.1.2.index.setWidth 32))
          (onOffTurn environment onOff) () found.2
      else found.2 := by
  rw [profileTableOnOff]
  dsimp only
  split_ifs
  · rw [afterQuery]
    rcases environment.prepare _ (profileTableSearchOne environment profileData session).2 with
      ⟨_ | rows, after⟩
    · rfl
    · dsimp only
      rcases environment.forRows (onOffTurn environment onOff) rows () after with ⟨_ | _, last⟩
      · rfl
      · rfl
  · rfl

/-! ## All searches -/

inductive SearchCall
  | sceneTableSearch
  | deviceTableSearch
  | roomTableSearch
  | profileTableSearch
  | deviceTableSearchOne (deviceData : DeviceTable)
  | sceneTableSearchOne (sceneData : SceneTable)
  | roomTableSearchOne (roomData : RoomTable)
  | profileTableSearchOne (profileData : ProfileTable)
  | linkageTableSearchOne (linkageData : LinkageTable)
  | profileTableOnOff (profileData : ProfileTable) (onOff : uint8)
  | profileDeviceListSearch (profileId : uint16)
  | profileSceneListSearch (profileId : uint16)
  | roomDeviceListSearch (roomId : uint32)
  | sceneDeviceListSearch (sceneId : uint16)

namespace SearchCall

variable (environment)

/-- The session after the search. `none` is a command that overruns its buffer. -/
def run (session : Session TableName) : SearchCall → Option (Session TableName)
  | sceneTableSearch => some (Sqlite.sceneTableSearch environment session).2
  | deviceTableSearch => some (Sqlite.deviceTableSearch environment session).2
  | roomTableSearch => some (Sqlite.roomTableSearch environment session).2
  | profileTableSearch => some (Sqlite.profileTableSearch environment session).2
  | deviceTableSearchOne deviceData =>
      (Sqlite.deviceTableSearchOne environment deviceData session).map Prod.snd
  | sceneTableSearchOne sceneData =>
      some (Sqlite.sceneTableSearchOne environment sceneData session).2
  | roomTableSearchOne roomData =>
      some (Sqlite.roomTableSearchOne environment roomData session).2
  | profileTableSearchOne profileData =>
      some (Sqlite.profileTableSearchOne environment profileData session).2
  | linkageTableSearchOne linkageData =>
      (Sqlite.linkageTableSearchOne environment linkageData session).map Prod.snd
  | profileTableOnOff profileData onOff =>
      some (Sqlite.profileTableOnOff environment profileData onOff session).2
  | profileDeviceListSearch profileId =>
      some (Sqlite.profileDeviceListSearch environment profileId session).2
  | profileSceneListSearch profileId =>
      some (Sqlite.profileSceneListSearch environment profileId session).2
  | roomDeviceListSearch roomId =>
      some (Sqlite.roomDeviceListSearch environment roomId session).2
  | sceneDeviceListSearch sceneId =>
      some (Sqlite.sceneDeviceListSearch environment sceneId session).2

/-- No call that is made once the first statement is open makes the search return, and
the search for the scenes of a profile does not open its second statement. -/
def RunsToItsEnd (session : Session TableName) : SearchCall → Prop :=
  let engine := environment.engine
  let connection := session.connection
  let closes := fun command pattern => Closes environment command connection pattern session.calls
  let allocates := fun _ : Row => allocation environment
  let devicesOf := fun column (link : Row) => query environment
    (deviceTableSelect (engine.columnInt (link.column column))) connection allocates
  fun
  | sceneTableSearch => closes sceneTableSearchCommand allocates
  | deviceTableSearch => closes deviceTableSearchCommand allocates
  | roomTableSearch => closes roomTableSearchCommand allocates
  | profileTableSearch => closes profileTableSearchCommand fun _ => twoAllocations environment
  | deviceTableSearchOne deviceData => Fits (deviceTableSearchOneCommand deviceData)
  | sceneTableSearchOne _ => True
  | roomTableSearchOne _ => True
  | profileTableSearchOne profileData =>
      closes (profileTableSelect profileData.profileId) allocates
  | linkageTableSearchOne linkageData =>
      Fits (linkageTableSearchOneCommand linkageData) ∧
        closes (linkageTableSearchOneCommand linkageData) allocates
  | profileTableOnOff profileData _ =>
      closes (profileTableSelect profileData.profileId) allocates ∧
        ∀ key, foundIndex environment profileData session = some key →
          Closes environment (profileListTableSelect (key.setWidth 32)) connection allocates
            (query environment (profileTableSelect profileData.profileId) connection allocates
              session.calls).2
  | profileDeviceListSearch profileId =>
      closes (profileTableSelect profileId) fun profile => query environment
        (profileListTableSelect (engine.columnInt (profile.column 0))) connection fun entry =>
          query environment (sceneDeviceTableSelect (engine.columnInt (entry.column 1)))
            connection (devicesOf 2)
  | profileSceneListSearch profileId =>
      closes (profileTableSelect profileId) allocates ∧
        environment.succeeds (query environment (profileTableSelect profileId) connection
          allocates session.calls).2 = false
  | roomDeviceListSearch roomId =>
      closes (roomTableSelect roomId) fun room => query environment
        (roomListTableSelect (engine.columnInt (room.column 0))) connection (devicesOf 1)
  | sceneDeviceListSearch sceneId => closes (sceneDeviceListSelect sceneId) (devicesOf 2)

/-- The search is defined, and as many statements are open after it as before it. -/
def LeavesNoneOpen (search : SearchCall) (session : Session TableName) : Prop :=
  ∃ after, search.run environment session = some after ∧ after.live = session.live

end SearchCall

theorem returned_live_iff {Listed : Type} {command : Command} {turn : Turn Listed}
    {pattern : Row → CallPattern} {session : Session TableName}
    (follows : Follows (· = session.connection) turn pattern) :
    (returned (selectLoop environment command true turn [] session)).2.live = session.live ↔
      Closes environment command session.connection pattern session.calls := by
  rw [returned_session, selectLoop_session]
  exact afterQuery_live_iff environment _ follows [] rfl

theorem tableSearch_live_iff {Listed : Type} {command : Command} {turn : Turn Listed}
    {pattern : Row → CallPattern} {session : Session TableName}
    (follows : Follows (· = session.connection) turn pattern) :
    (tableSearch environment command turn session).2.live = session.live ↔
      Closes environment command session.connection pattern session.calls := by
  rw [tableSearch_session]
  exact afterQuery_live_iff environment _ follows [] rfl

variable (environment) in
theorem accepts_of_query {command : Command} {query : Query TableName}
    (quoteFree : QuoteFree command.arguments)
    (isQuery : command.query layout.schema = some query) (connection : Connection TableName)
    (calls : Nat) :
    accepts environment command connection calls = environment.succeeds calls := by
  rw [accepts, (prepare_selectedRows environment quoteFree isQuery connection).1]
  exact Bool.and_true _

theorem lt_selectLoop_live {Listed : Type} {holds : Connection TableName → Prop}
    {command : Command} {turn : Turn Listed} {pattern : Row → CallPattern}
    (follows : Follows holds turn pattern) (list : List Listed) {session : Session TableName}
    (start : holds session.connection)
    (accepted : accepts environment command session.connection session.calls = true) :
    session.live < (selectLoop environment command false turn list session).2.live := by
  have loop := forRows_follows environment follows
    (selectedRows environment command session.connection) list
    { session.called with live := session.live + 1 } start
  rw [selectLoop, prepare_of_accepts accepted]
  revert loop
  dsimp only
  rcases environment.forRows turn (selectedRows environment command session.connection) list
    { session.called with live := session.live + 1 } with ⟨_ | _, last⟩
  · exact fun loop => loop.open_le
  · exact fun loop => loop.open_le

variable (environment) in
theorem profileTableSearchOne_after (profileData : ProfileTable) (session : Session TableName) :
    let select := profileTableSelect profileData.profileId
    let after := (profileTableSearchOne environment profileData session).2
    after.connection = session.connection ∧
      after.calls = (query environment select session.connection
        (fun _ => allocation environment) session.calls).2 ∧
      session.live ≤ after.live ∧
      (after.live = session.live ↔ Closes environment select session.connection
        (fun _ => allocation environment) session.calls) := by
  have follows := profileTableSearchOneTurn_follows environment session.connection
  obtain ⟨kept, made, -, -⟩ := afterQuery_cases environment
    (profileTableSelect profileData.profileId) follows (0, profileData) rfl
  dsimp only
  rw [profileTableSearchOne_session]
  exact ⟨kept, made, le_afterQuery_live environment _ follows _ rfl,
    afterQuery_live_iff environment _ follows _ rfl⟩

theorem profileSceneListSearch_live_iff (profileId : uint16) (session : Session TableName) :
    (profileSceneListSearch environment profileId session).2.live = session.live ↔
      (SearchCall.profileSceneListSearch profileId).RunsToItsEnd environment session := by
  let engine := environment.engine
  let found := profileTableSearchOne environment (zeroedProfile profileId) session
  obtain ⟨kept, made, least, live⟩ :=
    profileTableSearchOne_after environment (zeroedProfile profileId) session
  have isId : (zeroedProfile profileId).profileId = profileId := rfl
  rw [isId] at made live
  have entries := selectLoop_follows environment
    (fun entry => sceneTableSelect (engine.columnInt (entry.column 1)))
    fun _ => appendTurn_follows environment session.connection (sceneOfRow engine)
  have accepted := accepts_of_query environment
    (quoteFree_int (found.1.2.index.setWidth 32)) (profileListTableSelect_query _)
    found.2.connection found.2.calls
  rw [profileSceneListSearch, returned_session, SearchCall.RunsToItsEnd]
  dsimp only
  rw [← live, ← made]
  by_cases succeeds : environment.succeeds found.2.calls = true
  · have more := lt_selectLoop_live entries [] kept (accepted.trans succeeds)
    refine iff_of_false (fun same => ?_) fun both => ?_
    · exact absurd same.symm (Nat.ne_of_lt (Nat.lt_of_le_of_lt least more))
    · rw [succeeds] at both
      cases both.2
  · have refused : ¬accepts environment (profileListTableSelect (found.1.2.index.setWidth 32))
        found.2.connection found.2.calls = true := by
      rw [accepted]
      exact succeeds
    rw [selectLoop, prepare_of_not_accepts refused]
    exact (and_iff_left (Bool.eq_false_iff.mpr succeeds)).symm

theorem profileTableOnOff_live_iff (profileData : ProfileTable) (onOff : uint8)
    (session : Session TableName) :
    (profileTableOnOff environment profileData onOff session).2.live = session.live ↔
      (SearchCall.profileTableOnOff profileData onOff).RunsToItsEnd environment session := by
  obtain ⟨kept, made, least, live⟩ :=
    profileTableSearchOne_after environment profileData session
  obtain ⟨isFound, notFound⟩ := profileTableSearchOne_foundIndex profileData session
  rw [profileTableOnOff_session, SearchCall.RunsToItsEnd]
  dsimp only
  rw [← live, ← made]
  cases isIndex : foundIndex environment profileData session with
  | none =>
      rw [if_neg (notFound isIndex)]
      refine (and_iff_left fun key isSome => ?_).symm
      cases isSome
  | some key =>
      obtain ⟨success, isKey⟩ := isFound key isIndex
      rw [if_pos success, isKey]
      generalize (profileTableSearchOne environment profileData session).2 = found at *
      have more : found.live ≤ (afterQuery environment (profileListTableSelect (key.setWidth 32))
          (onOffTurn environment onOff) () found).live :=
        le_afterQuery_live environment _ (onOffTurn_follows environment onOff) () trivial
      have closes : (afterQuery environment (profileListTableSelect (key.setWidth 32))
          (onOffTurn environment onOff) () found).live = found.live ↔ _ :=
        afterQuery_live_iff environment _ (onOffTurn_follows environment onOff) () trivial
      rw [kept] at closes
      have only : (∀ other, some key = some other →
          Closes environment (profileListTableSelect (other.setWidth 32)) session.connection
            (fun _ => allocation environment) found.calls) ↔
          Closes environment (profileListTableSelect (key.setWidth 32)) session.connection
            (fun _ => allocation environment) found.calls := by
        constructor
        · exact fun all => all key rfl
        · rintro one other same
          obtain rfl := Option.some.inj same
          exact one
      rw [only, ← closes]
      omega

theorem exists_live_iff (after : Session TableName) (live : Nat) :
    (∃ found, some after = some found ∧ found.live = live) ↔ after.live = live := by
  constructor
  · rintro ⟨found, same, isLive⟩
    exact Option.some.inj same ▸ isLive
  · exact fun isLive => ⟨after, rfl, isLive⟩

theorem exists_fits_live_iff (command : Command) (after : Session TableName) (live : Nat) :
    (∃ found, (if Fits command then some after else none) = some found ∧ found.live = live) ↔
      Fits command ∧ after.live = live := by
  by_cases fits : Fits command
  · rw [if_pos fits, exists_live_iff]
    exact (and_iff_right fits).symm
  · rw [if_neg fits]
    refine iff_of_false (fun overruns => ?_) fun both => fits both.1
    obtain ⟨found, isNone, -⟩ := overruns
    cases isNone

/-- A search leaves no statement open if and only if no call makes it return early. -/
theorem leavesNoneOpen_iff (search : SearchCall) (session : Session TableName) :
    search.LeavesNoneOpen environment session ↔ search.RunsToItsEnd environment session := by
  have devicesOf := fun column => selectLoop_follows environment
    (fun link => deviceTableSelect (environment.engine.columnInt (link.column column)))
    fun _ => appendTurn_follows environment session.connection (deviceOfRow environment.engine)
  have newDevicesOf := fun column => selectLoop_follows environment
    (fun link => deviceTableSelect (environment.engine.columnInt (link.column column)))
    fun _ => newAddressTurn_follows environment session.connection
  rw [SearchCall.LeavesNoneOpen]
  cases search with
  | sceneTableSearch =>
      rw [SearchCall.run, exists_live_iff]
      exact tableSearch_live_iff (appendTurn_follows environment _ _)
  | deviceTableSearch =>
      rw [SearchCall.run, exists_live_iff]
      exact tableSearch_live_iff (appendTurn_follows environment _ _)
  | roomTableSearch =>
      rw [SearchCall.run, exists_live_iff, roomTableSearch_eq]
      exact tableSearch_live_iff (appendTurn_follows environment _ _)
  | profileTableSearch =>
      rw [SearchCall.run, exists_live_iff]
      exact tableSearch_live_iff (profileTurn_follows environment _)
  | deviceTableSearchOne deviceData =>
      rw [SearchCall.run, deviceTableSearchOne_session, exists_fits_live_iff,
        afterQuery_live_iff environment _
          (deviceTableSearchOneTurn_follows environment session.connection) _ rfl]
      exact and_iff_left (closes_silent _ _ _)
  | sceneTableSearchOne sceneData =>
      rw [SearchCall.run, exists_live_iff, sceneTableSearchOne_session, afterQuery_live_iff environment _
        (sceneTableSearchOneTurn_follows environment session.connection) _ rfl]
      exact iff_of_true (closes_silent _ _ _) trivial
  | roomTableSearchOne roomData =>
      rw [SearchCall.run, exists_live_iff, roomTableSearchOne_session, afterQuery_live_iff environment _
        (roomTableSearchOneTurn_follows environment session.connection) _ rfl]
      exact iff_of_true (closes_silent _ _ _) trivial
  | profileTableSearchOne profileData =>
      rw [SearchCall.run, exists_live_iff]
      exact (profileTableSearchOne_after environment profileData session).2.2.2
  | linkageTableSearchOne linkageData =>
      rw [SearchCall.run, linkageTableSearchOne_session, exists_fits_live_iff,
        afterQuery_live_iff environment _
          (linkageTableSearchOneTurn_follows environment session.connection) _ rfl]
      rfl
  | profileTableOnOff profileData onOff =>
      rw [SearchCall.run, exists_live_iff]
      exact profileTableOnOff_live_iff profileData onOff session
  | profileDeviceListSearch profileId =>
      rw [SearchCall.run, exists_live_iff]
      exact returned_live_iff (selectLoop_follows environment _ fun _ =>
        selectLoop_follows environment _ fun _ => newDevicesOf 2)
  | profileSceneListSearch profileId =>
      rw [SearchCall.run, exists_live_iff]
      exact profileSceneListSearch_live_iff profileId session
  | roomDeviceListSearch roomId =>
      rw [SearchCall.run, exists_live_iff]
      exact returned_live_iff (selectLoop_follows environment _ fun _ => devicesOf 1)
  | sceneDeviceListSearch sceneId =>
      rw [SearchCall.run, exists_live_iff]
      exact returned_live_iff (devicesOf 2)

end Searches

/-- With no failing call at all, the search for the scenes of a profile leaves a
statement open. -/
theorem profileSceneListSearch_leavesOpen :
    ¬(SearchCall.profileSceneListSearch 1).LeavesNoneOpen
      (Environment.plain Layout.shipped.schema) Session.empty := by
  rintro ⟨after, isAfter, live⟩
  obtain rfl := Option.some.inj isAfter
  revert live
  decide +kernel

end StudyDemo.Sqlite
