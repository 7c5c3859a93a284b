import StudyDemo.Foundation.Execution
import StudyDemo.Json.Entries

/-! # Objects

Whatever the hash function does, the table of an object holds the entries that its calls
put into it, in the order in which their keys came. -/

namespace StudyDemo.Json

open scoped List

variable {Key Val : Type} [Inhabited Val]

/-! ## The functions of an object -/

section Functions

variable [DecidableEq Key] {hash : Key → Nat} {t : LhTable Key Val} {nodes : List Nat}
  {entries : Entries Key Val} {key : Key}

theorem jsonObjectObjectGetEx_eq (holds : Holds hash t nodes entries) (key : Key) :
    jsonObjectObjectGetEx hash t key =
      some ((entries.lookup key).isSome, (entries.lookup key).getD default) := by
  by_cases member : key ∈ entries.map Prod.fst
  · obtain ⟨before, e, after, front, v, behind, rfl, rfl, length, there, value, inside, new, -⟩ :=
      holds.split member
    have found := holds.lookup_mem (by simp) there
    simp [jsonObjectObjectGetEx, lhTableLookupEx, found, LhTable.entry, inside, value,
      Entries.lookup_split new]
  · simp [jsonObjectObjectGetEx, lhTableLookupEx, holds.lookup_absent member,
      Entries.lookup_absent member]

theorem jsonObjectObjectAdd_holds (holds : Holds hash t nodes entries) (key : Key)
    (few : entries.length ≤ maximalCount) (val : Val) :
    ∃ result places, jsonObjectObjectAdd hash key val t =
        some ((entries.lookup key).toList, result) ∧
      Holds hash result places (entries.add key val) := by
  by_cases member : key ∈ entries.map Prod.fst
  · obtain ⟨before, e, after, front, v, behind, rfl, rfl, length, there, value, inside, new,
      later⟩ := holds.split member
    have found := holds.lookup_mem (by simp) there
    refine ⟨t.stored e val, before ++ e :: after, ?_, ?_⟩
    · simp [jsonObjectObjectAdd, found, LhTable.entry, inside, value, LhTable.update,
        LhTable.stored, Entries.lookup_split new]
    · rw [Entries.add_split new later]
      exact holds.store length val
  · obtain ⟨result, places, inserted, after⟩ := holds.insert member few val
    refine ⟨result, places, ?_, by rwa [Entries.add, if_neg member]⟩
    simp [jsonObjectObjectAdd, holds.lookup_absent member, inserted, Entries.lookup_absent member]

theorem jsonObjectObjectDel_holds (holds : Holds hash t nodes entries) (key : Key) :
    ∃ result places, jsonObjectObjectDel hash key t =
        some ((entries.lookup key).toList, result) ∧
      Holds hash result places (entries.del key) := by
  by_cases member : key ∈ entries.map Prod.fst
  · obtain ⟨before, e, after, front, v, behind, rfl, rfl, length, there, value, inside, new,
      later⟩ := holds.split member
    have found := holds.lookup_mem (by simp) there
    obtain ⟨deleted, removed⟩ := holds.remove length
    refine ⟨t.removed e, before ++ after, ?_, ?_⟩
    · simp [jsonObjectObjectDel, lhTableDelete, found, deleted, Entries.lookup_split new]
    · rw [Entries.del_split new later]
      exact removed
  · refine ⟨t, nodes, ?_, ?_⟩
    · simp [jsonObjectObjectDel, lhTableDelete, holds.lookup_absent member,
        Entries.lookup_absent member]
    · rwa [Entries.del_absent member]

end Functions

/-! ## Whole runs -/

/-- A call that changes an object. -/
inductive ObjectCall (Key Val : Type)
  | add (key : Key) (val : Val)
  | del (key : Key)

namespace ObjectCall

variable [DecidableEq Key]

/-- What the call does to the table, and the values it gives up. -/
def perform (hash : Key → Nat) :
    ObjectCall Key Val → LhTable Key Val → Option (List Val × LhTable Key Val)
  | add key val => jsonObjectObjectAdd hash key val
  | del key => jsonObjectObjectDel hash key

/-- What the call does to the entries. -/
def meaning : ObjectCall Key Val → Entries Key Val → Entries Key Val
  | add key val, entries => entries.add key val
  | del key, entries => entries.del key

def released : ObjectCall Key Val → Entries Key Val → List Val
  | add key _, entries => (entries.lookup key).toList
  | del key, entries => (entries.lookup key).toList

/-- The value that the object takes over. -/
def taken : ObjectCall Key Val → Option Val
  | add _ val => some val
  | del _ => none

end ObjectCall

section Runs

variable [DecidableEq Key] {hash : Key → Nat} {t : LhTable Key Val} {nodes : List Nat}
  {entries : Entries Key Val} {calls : List (ObjectCall Key Val)}

/-- The calls as steps of the entries. -/
def entriesStep : Execution.Step (Entries Key Val) (ObjectCall Key Val) (List Val) :=
  fun entries call => (call.meaning entries, some (call.released entries))

/-- The calls, one after the other, on the table. -/
def performCalls (hash : Key → Nat) :
    List (ObjectCall Key Val) → LhTable Key Val → Option (List Val × LhTable Key Val)
  | [], t => some ([], t)
  | call :: calls, t => do
      let (released, t) ← call.perform hash t
      let (later, t) ← performCalls hash calls t
      some (released ++ later, t)

/-- No call comes when more keys are there than a table takes. -/
def FewKeys (entries : Entries Key Val) (calls : List (ObjectCall Key Val)) : Prop :=
  Execution.EachCall entriesStep (fun entries _ => entries.length ≤ maximalCount) entries calls

instance (entries : Entries Key Val) (calls : List (ObjectCall Key Val)) :
    Decidable (FewKeys entries calls) :=
  inferInstanceAs (Decidable (Execution.EachCall _ _ _ _))

theorem ObjectCall.perform_holds (holds : Holds hash t nodes entries)
    (few : entries.length ≤ maximalCount) (call : ObjectCall Key Val) :
    ∃ result places, call.perform hash t = some (call.released entries, result) ∧
      Holds hash result places (call.meaning entries) := by
  cases call with
  | add key val => exact jsonObjectObjectAdd_holds holds key few val
  | del key => exact jsonObjectObjectDel_holds holds key

omit [Inhabited Val] in
theorem ObjectCall.values_perm (distinct : (entries.map Prod.fst).Nodup)
    (call : ObjectCall Key Val) :
    (call.taken.toList ++ entries.map Prod.snd).Perm
      (call.released entries ++ (call.meaning entries).map Prod.snd) := by
  have split : ∀ key, key ∈ entries.map Prod.fst → ∃ front v behind,
      entries = front ++ (key, v) :: behind ∧ key ∉ front.map Prod.fst ∧
        key ∉ behind.map Prod.fst := by
    intro key member
    obtain ⟨entry, isEntry, rfl⟩ := List.mem_map.mp member
    obtain ⟨front, behind, rfl⟩ := List.append_of_mem isEntry
    simp only [List.map_append, List.map_cons, List.nodup_append, List.nodup_cons] at distinct
    exact ⟨front, entry.2, behind, rfl,
      fun inside => distinct.2.2 _ inside _ List.mem_cons_self rfl, distinct.2.1.1⟩
  cases call with
  | add key val =>
      by_cases member : key ∈ entries.map Prod.fst
      · obtain ⟨front, v, behind, rfl, front_, behind_⟩ := split key member
        simp only [taken, released, meaning, Entries.lookup_split front_,
          Entries.add_split front_ behind_, Option.toList_some, List.map_append, List.map_cons,
          List.singleton_append]
        calc val :: (front.map Prod.snd ++ v :: behind.map Prod.snd)
            ~ val :: v :: (front.map Prod.snd ++ behind.map Prod.snd) := List.perm_middle.cons val
          _ ~ v :: val :: (front.map Prod.snd ++ behind.map Prod.snd) := .swap v val _
          _ ~ v :: (front.map Prod.snd ++ val :: behind.map Prod.snd) :=
              List.perm_middle.symm.cons v
      · simp only [taken, released, meaning, Entries.lookup_absent member, Entries.add,
          if_neg member, Option.toList_some, Option.toList_none, List.nil_append,
          List.singleton_append, List.map_append, List.map_cons, List.map_nil]
        exact (List.perm_append_singleton val _).symm
  | del key =>
      by_cases member : key ∈ entries.map Prod.fst
      · obtain ⟨front, v, behind, rfl, front_, behind_⟩ := split key member
        simp only [taken, released, meaning, Entries.lookup_split front_,
          Entries.del_split front_ behind_, Option.toList_some, Option.toList_none,
          List.map_append, List.map_cons, List.singleton_append, List.nil_append]
        exact List.perm_middle
      · simp only [taken, released, meaning, Entries.lookup_absent member,
          Entries.del_absent member, Option.toList_none]
        exact .refl _

theorem performCalls_holds (holds : Holds hash t nodes entries) (few : FewKeys entries calls) :
    ∃ result places, performCalls hash calls t =
        some ((Execution.observations entriesStep entries calls).flatten, result) ∧
      Holds hash result places (Execution.finalState entriesStep entries calls) ∧
      calls.filterMap ObjectCall.taken ++ entries.map Prod.snd ~
        (Execution.observations entriesStep entries calls).flatten ++
          (Execution.finalState entriesStep entries calls).map Prod.snd := by
  induction calls generalizing t nodes entries with
  | nil => exact ⟨t, nodes, rfl, holds, .refl _⟩
  | cons call calls induction =>
      obtain ⟨short, few⟩ := Execution.eachCall_cons.mp few
      obtain ⟨middle, between, performed, after⟩ := call.perform_holds holds short
      obtain ⟨result, places, rest, final, values⟩ := induction after few
      have here := call.values_perm holds.keys_nodup
      have observed : (Execution.observations entriesStep entries (call :: calls)).flatten =
          call.released entries ++
            (Execution.observations entriesStep (call.meaning entries) calls).flatten := by
        simp [entriesStep]
      refine ⟨result, places, ?_, final, ?_⟩
      · simp only [performCalls, performed, rest, Option.bind_eq_bind, Option.bind_some, observed]
      · have first : (call :: calls).filterMap ObjectCall.taken =
            call.taken.toList ++ calls.filterMap ObjectCall.taken := by
          cases taken : call.taken <;> simp [taken]
        rw [observed, first, List.append_assoc, List.append_assoc]
        calc call.taken.toList ++ (calls.filterMap ObjectCall.taken ++ entries.map Prod.snd)
            ~ calls.filterMap ObjectCall.taken ++ (call.taken.toList ++ entries.map Prod.snd) :=
              List.perm_append_comm_assoc _ _ _
          _ ~ calls.filterMap ObjectCall.taken ++
                (call.released entries ++ (call.meaning entries).map Prod.snd) :=
              here.append_left _
          _ ~ call.released entries ++
                (calls.filterMap ObjectCall.taken ++ (call.meaning entries).map Prod.snd) :=
              List.perm_append_comm_assoc _ _ _
          _ ~ _ := values.append_left _

/-- What can be seen of an object. -/
structure ShowsEntries (hash : Key → Nat) (jso : LhTable Key Val) (entries : Entries Key Val) :
    Prop where
  listed : lhForeach jso = some entries
  length : jsonObjectObjectLength jso = entries.length
  found : ∀ key, jsonObjectObjectGetEx hash jso key =
    some ((entries.lookup key).isSome, (entries.lookup key).getD default)
  freed : lhTableFree jso = some (entries.map Prod.snd)

theorem Holds.showsEntries (holds : Holds hash t nodes entries) : ShowsEntries hash t entries where
  listed := holds.foreach_eq
  length := holds.count
  found := jsonObjectObjectGetEx_eq holds
  freed := by simp [lhTableFree, holds.foreach_eq]

/-- However the keys collide, the calls of a new object end, follow no `NULL`, and leave a
table that shows their entries. A value that came in is given up once, at its exchange or
deletion, or still in the object, whose deletion gives it up. -/
theorem objects_hold_entries (hash : Key → Nat) (calls : List (ObjectCall Key Val))
    (few : FewKeys [] calls) :
    ∃ released jso, performCalls hash calls jsonObjectNewObject = some (released, jso) ∧
      ShowsEntries hash jso (Execution.finalState entriesStep [] calls) ∧
      calls.filterMap ObjectCall.taken ~
        released ++ (Execution.finalState entriesStep [] calls).map Prod.snd := by
  have new : Holds hash (jsonObjectNewObject : LhTable Key Val) [] [] := holds_new (by decide)
  obtain ⟨jso, places, performed, holds, values⟩ := performCalls_holds new few
  refine ⟨_, jso, performed, holds.showsEntries, ?_⟩
  simpa using values

/-- A value that is exchanged, a key that is deleted, and a key behind it. -/
theorem objects_hold_entries_colliding :
    ∃ released jso, performCalls (fun _ : Nat => 3)
        [.add 1 'a', .add 2 'b', .add 1 'c', .del 1, .add 3 'd']
        jsonObjectNewObject = some (released, jso) ∧
      lhForeach jso = some [(2, 'b'), (3, 'd')] := by
  obtain ⟨released, jso, performed, shown, -⟩ := objects_hold_entries (fun _ : Nat => 3)
    [.add 1 'a', .add 2 'b', .add 1 'c', .del 1, .add 3 'd'] (by decide)
  exact ⟨released, jso, performed, shown.listed⟩

end Runs

end StudyDemo.Json
