import StudyDemo.Sqlite.CutShort
import StudyDemo.Sqlite.ProfileDevices

/-! # Unknown profiles

`ProfileSceneListSearch` does not look at what `ProfileTableSearchOne` returns. For a
profile that is not there it goes on with the key 0, which no row has, but entries
that were made from a struct without a key may name it. -/

namespace StudyDemo.Sqlite

open Sql Execution

/-! ## Searches that list nothing -/

section Loops

variable {layout : Layout} {environment : Environment layout.schema} {Listed : Type}

variable (environment) in
theorem prepare_cases (command : Command) (session : Session TableName) :
    (environment.prepare command.text session).1 = none ∨
      (environment.prepare command.text session).1 =
        some (selectedRows environment command session.connection) := by
  rw [Environment.prepare, selectedRows]
  split_ifs
  · cases environment.engine.prepare command.text session.connection with
    | none => exact Or.inl rfl
    | some rows => exact Or.inr rfl
  · exact Or.inl rfl

/-- The turn for a row lists nothing more and changes nothing, however it ends. -/
def ListsNothing (connection : Connection TableName) (turn : Turn Listed) (row : Row) : Prop :=
  ∀ list session, session.connection = connection →
    listedBy (turn row list session).1 = list ∧ (turn row list session).2.connection = connection

theorem forRows_listsNothing {connection : Connection TableName} {turn : Turn Listed}
    {rows : List Row} (turns : ∀ row ∈ rows, ListsNothing connection turn row)
    (list : List Listed) {session : Session TableName} (unchanged : session.connection = connection) :
    listedBy (environment.forRows turn rows list session).1 = list ∧
      (environment.forRows turn rows list session).2.connection = connection := by
  induction rows generalizing session with
  | nil => exact ⟨rfl, unchanged⟩
  | cons row rows induction =>
      have turned := turns row List.mem_cons_self list session.called unchanged
      rw [Environment.forRows]
      split_ifs
      · revert turned
        cases turn row list session.called with
        | mk done after =>
            intro turned
            cases done with
            | error returned => exact turned
            | ok next =>
                obtain rfl : next = list := turned.1
                exact induction (fun other member => turns other (List.mem_cons_of_mem _ member))
                  turned.2
      · exact ⟨rfl, unchanged⟩

theorem selectLoop_listsNothing {connection : Connection TableName} {command : Command}
    {turn : Turn Listed} (finalizes : Bool)
    (turns : ∀ row ∈ selectedRows environment command connection,
      ListsNothing connection turn row)
    (list : List Listed) {session : Session TableName} (unchanged : session.connection = connection) :
    listedBy (selectLoop environment command finalizes turn list session).1 = list ∧
      (selectLoop environment command finalizes turn list session).2.connection = connection := by
  have after := (Environment.prepare_connection environment command.text session).trans unchanged
  rw [selectLoop]
  rcases prepare_cases environment command session with failed | gives
  · rw [failed]
    exact ⟨rfl, after⟩
  · rw [gives, unchanged]
    have loop := @forRows_listsNothing _ environment _ _ _ _ turns list _ after
    revert loop
    dsimp only
    cases environment.forRows turn (selectedRows environment command connection) list
      (environment.prepare command.text session).2 with
    | mk done after =>
        intro loop
        cases done with
        | error returned => exact loop
        | ok next =>
            cases finalizes with
            | false => exact loop
            | true => exact loop

theorem returned_listedBy
    (done : Except (SqliteStatus × List Listed) (List Listed) × Session TableName) :
    (returned done).1.2 = listedBy done.1 := by
  cases done with
  | mk result after =>
      cases result with
      | error returned => rfl
      | ok list => rfl

end Loops

/-! ## The searches for an unknown profile -/

def UnknownProfile (profileId : uint16) (session : Session TableName) : Prop :=
  ∀ profile ∈ rowsOf .profileTable session, profile.column 1 ≠ .integer profileId.toNat

section Searches

variable {layout : Layout} {environment : Environment layout.schema} {profileId : uint16}
  {session : Session TableName}

theorem selectedRows_of_unknown (unknown : UnknownProfile profileId session) :
    selectedRows environment (profileTableSelect profileId) session.connection = [] := by
  apply List.eq_nil_iff_forall_not_mem.mpr
  intro profile member
  obtain ⟨inside, satisfied⟩ := (mem_selectedRows (quoteFree_int _)
    (profileTableSelect_query profileId)).mp member
  rw [promoted_value] at satisfied
  exact unknown profile inside (of_decide_eq_true satisfied)

theorem profileDeviceListSearch_unknown (unknown : UnknownProfile profileId session) :
    (profileDeviceListSearch environment profileId session).1.2 = [] := by
  rw [profileDeviceListSearch, returned_listedBy]
  refine (selectLoop_listsNothing true (fun profile member => ?_) [] rfl).1
  rw [selectedRows_of_unknown unknown] at member
  cases member

/-- The struct keeps its key 0. -/
theorem profileTableSearchOne_unknown (unknown : UnknownProfile profileId session) :
    (profileTableSearchOne environment (zeroedProfile profileId) session).1.2 =
        zeroedProfile profileId ∧
      (profileTableSearchOne environment (zeroedProfile profileId) session).2.connection =
        session.connection := by
  have after := Environment.prepare_connection environment
    (profileTableSelect profileId).text session
  have isId : (zeroedProfile profileId).profileId = profileId := rfl
  rw [profileTableSearchOne, isId]
  rcases prepare_cases environment (profileTableSelect profileId) session with failed | gives
  · rw [failed]
    exact ⟨rfl, after⟩
  · rw [gives, selectedRows_of_unknown unknown]
    exact ⟨rfl, after⟩

/-- An entry for the key 0 names a scene. -/
def UnfilledEntry (session : Session TableName) : Prop :=
  ∃ entry ∈ rowsOf .profileListTable session, entry.column 2 = .integer 0 ∧
    ∃ scene ∈ rowsOf .sceneTable session, entry.column 1 = .integer scene.rowid

theorem exists_unfilledScene_iff (linked : Linked session.connection) :
    (∃ entry ∈ selectedRows environment (profileListTableSelect 0) session.connection,
      ∃ scene, scene ∈ selectedRows environment
        (sceneTableSelect (environment.engine.columnInt (entry.column 1))) session.connection) ↔
      UnfilledEntry session := by
  have isZero : ∀ entry : Row,
      entry.satisfies (some (2, (Argument.int (0 : uint32)).value)) = true ↔
        entry.column 2 = .integer 0 := fun entry => decide_eq_true_iff
  simp only [mem_selectedRows (quoteFree_int _) (profileListTableSelect_query _),
    mem_selectedRows (quoteFree_int _) (sceneTableSelect_query _), isZero]
  constructor
  · rintro ⟨entry, ⟨inside, unfilled⟩, scene, isScene, names⟩
    have isLink := linked .profileListTable (by decide) entry inside
    exact ⟨entry, inside, unfilled, scene, isScene, (satisfies_link_iff isLink.1).mp names⟩
  · rintro ⟨entry, inside, unfilled, scene, isScene, names⟩
    have isLink := linked .profileListTable (by decide) entry inside
    exact ⟨entry, ⟨inside, unfilled⟩, scene, isScene, (satisfies_link_iff isLink.1).mpr names⟩

theorem profileSceneListSearch_unknown (linked : Linked session.connection)
    (unknown : UnknownProfile profileId session) (filled : ¬UnfilledEntry session) :
    (profileSceneListSearch environment profileId session).1.2 = [] := by
  obtain ⟨kept, after⟩ := @profileTableSearchOne_unknown _ environment _ _ unknown
  have isZero : (zeroedProfile profileId).index.setWidth 32 = (0 : uint32) := rfl
  rw [profileSceneListSearch, returned_listedBy, kept, isZero]
  refine (selectLoop_listsNothing false (fun entry member => ?_) [] after).1
  intro list middle unchanged
  refine selectLoop_listsNothing true (fun scene isScene => ?_) list unchanged
  exact absurd ((exists_unfilledScene_iff linked).mp ⟨entry, member, scene, isScene⟩) filled

theorem profileSceneListSearch_unfilled (faultless : environment.Faultless)
    (linked : Linked session.connection) (unknown : UnknownProfile profileId session)
    (unfilled : UnfilledEntry session) :
    (profileSceneListSearch environment profileId session).1.1 = .success ∧
      (profileSceneListSearch environment profileId session).1.2 ≠ [] := by
  let engine := environment.engine
  obtain ⟨kept, after⟩ := @profileTableSearchOne_unknown _ environment _ _ unknown
  have isZero : (zeroedProfile profileId).index.setWidth 32 = (0 : uint32) := rfl
  have sceneLoop : ∀ entry : Row, Continues session.connection
      (appendTurn environment (sceneOfRow engine))
      fun row list => list ++ [sceneOfRow engine row] :=
    fun _ => appendTurn_continues faultless session.connection (sceneOfRow engine)
  have entryLoop := fun start : Row => selectLoop_continues faultless
    (fun entry => quoteFree_int (engine.columnInt (entry.column 1)))
    (fun entry => sceneTableSelect_query (engine.columnInt (entry.column 1))) sceneLoop true
  have whole := selectLoop_continues faultless (fun _ : Row => quoteFree_int 0)
    (fun _ => profileListTableSelect_query 0) entryLoop false
  have done := (whole ⟨0, fun _ => .null⟩ []
    (profileTableSearchOne environment (zeroedProfile profileId) session).2 after).1
  simp only [foldl_append_singleton, foldl_flatMap_append, List.nil_append] at done
  rw [profileSceneListSearch, returned, kept, isZero, done]
  refine ⟨rfl, fun empty => ?_⟩
  obtain ⟨entry, isEntry, scene, isScene⟩ :=
    (@exists_unfilledScene_iff _ environment _ linked).mpr unfilled
  have listed : scene ∈ (selectedRows environment (profileListTableSelect 0)
      session.connection).flatMap fun entry => selectedRows environment
        (sceneTableSelect (engine.columnInt (entry.column 1))) session.connection :=
    List.mem_flatMap.mpr ⟨entry, isEntry, isScene⟩
  rw [List.map_eq_nil_iff.mp empty] at listed
  cases listed

variable (environment) in
/-- Whichever calls fail, the search for scenes is an error or gives none. -/
def GivesNoScenes (profileId : uint16) (session : Session TableName) : Prop :=
  ∀ succeeds,
    let found := profileSceneListSearch { environment with succeeds := succeeds } profileId session
    found.1.1 ≠ .success ∨ found.1.2 = []

/-- After every run, an unknown profile has no scenes if and only if no entry for the
key 0 names one. -/
theorem givesNoScenes_iff {reaching : Environment layout.schema} {start : Session TableName}
    (noRows : NoRows start) {operations : List Operation}
    (safe : ∀ operation ∈ operations, operation.Safe)
    (unknown : UnknownProfile profileId (performed reaching start operations)) :
    GivesNoScenes environment profileId (performed reaching start operations) ↔
      ¬UnfilledEntry (performed reaching start operations) := by
  have linked := (@consistent_performed _ reaching _ noRows _ safe).linked
  constructor
  · intro none unfilled
    have faultless : ({ environment with succeeds := fun _ => true } :
        Environment layout.schema).Faultless := fun _ => rfl
    obtain ⟨success, listed⟩ := profileSceneListSearch_unfilled faultless linked unknown unfilled
    rcases none fun _ => true with isError | empty
    · exact isError success
    · exact listed empty
  · intro filled succeeds
    exact Or.inr (profileSceneListSearch_unknown linked unknown filled)

end Searches

/-! ## An entry without a profile -/

/-- A scene, and an entry for it made from a profile with this `Index`. -/
def entryFor (profileIndex : uint16) : List Operation :=
  let scene : SceneTable := ⟨1, 1, "8:00".toList, 1, 0⟩
  let profile : ProfileTable := ⟨profileIndex, 1, [], [], [], [], [], []⟩
  [.sceneTableAddRecord scene, .profileListTableAddRecord ⟨0, scene, profile⟩]

theorem entryFor_safe (profileIndex : uint16) :
    ∀ operation ∈ entryFor profileIndex, operation.Safe := by
  intro operation member
  simp only [entryFor, List.mem_cons, List.not_mem_nil, or_false] at member
  rcases member with rfl | rfl
  · exact sceneTableAddRecord_safe (show '\'' ∉ cString "8:00".toList by decide)
      (show (cString "8:00".toList).length < 900 by decide)
  · exact profileListTableAddRecord_safe _

theorem entryFor_unknown (profileIndex : uint16) (empty : (rowsOf .profileTable
      (performed (Environment.plain Layout.shipped.schema) Session.empty
        (entryFor profileIndex))).length = 0) :
    UnknownProfile 9 (performed (Environment.plain Layout.shipped.schema) Session.empty
      (entryFor profileIndex)) := by
  intro profile member
  rw [List.eq_nil_of_length_eq_zero empty] at member
  cases member

theorem givesNoScenes_iff_filled :
    GivesNoScenes (Environment.plain Layout.shipped.schema) 9
        (performed (Environment.plain Layout.shipped.schema) Session.empty (entryFor 1)) ↔
      ¬UnfilledEntry
        (performed (Environment.plain Layout.shipped.schema) Session.empty (entryFor 1)) :=
  givesNoScenes_iff (fun _ => ⟨rfl, Int.le_refl 0⟩) (entryFor_safe 1)
    (entryFor_unknown 1 (by decide +kernel))

theorem not_givesNoScenes {layout : Layout} {environment : Environment layout.schema}
    {profileId : uint16} {session : Session TableName}
    (success : (profileSceneListSearch environment profileId session).1.1 = .success)
    (one : (profileSceneListSearch environment profileId session).1.2.length = 1) :
    ¬GivesNoScenes environment profileId session := by
  intro none
  rcases none environment.succeeds with isError | empty
  · exact isError success
  · rw [empty] at one
    cases one

/-- There is no profile, and the profile 9 has a scene. -/
theorem givesNoScenes_fails :
    (∀ operation ∈ entryFor 0, operation.Safe) ∧
      UnknownProfile 9
        (performed (Environment.plain Layout.shipped.schema) Session.empty (entryFor 0)) ∧
      ¬GivesNoScenes (Environment.plain Layout.shipped.schema) 9
        (performed (Environment.plain Layout.shipped.schema) Session.empty (entryFor 0)) :=
  ⟨entryFor_safe 0, entryFor_unknown 0 (by decide +kernel),
    not_givesNoScenes (by decide +kernel) (by decide +kernel)⟩

end StudyDemo.Sqlite
