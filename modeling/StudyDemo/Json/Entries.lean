import StudyDemo.Json.LinkHash

/-! # Tables as lists of entries

A table holds entries in an order: its list runs through them, and every key is in reach
of a search. Insertion, growth and deletion keep both. -/

namespace StudyDemo.Json

open Probing Rings
open scoped List

variable {Key Val : Type}

namespace LhTable

variable (t : LhTable Key Val)

/-- The entry behind another; `none` stands in front of the first and behind the last. -/
def nextOf : Option Nat → Option Nat
  | none => t.head
  | some n => (t.table n).next

def prevOf : Option Nat → Option Nat
  | none => t.tail
  | some n => (t.table n).prev

/-- Two entries are linked to each other. -/
structure Adjacent (left right : Option Nat) : Prop where
  next : t.nextOf left = right
  prev : t.prevOf right = left

def cells (n : Nat) : Cell Key := (t.table n).k

/-- The table with a new last entry. -/
def filled (n : Nat) (k : Key) (v : Val) : LhTable Key Val where
  size := t.size
  count := t.count + 1
  head := if t.head = none then some n else t.head
  tail := some n
  table m :=
    if m = n then { k := .used k, v := v, next := none, prev := t.tail }
    else if t.tail = some m then { t.table m with next := some n }
    else t.table m

/-- The table without an entry. -/
def removed [Inhabited Val] (e : Nat) : LhTable Key Val where
  size := t.size
  count := t.count - 1
  head := if t.head = some e then (t.table e).next else t.head
  tail := if t.tail = some e then (t.table e).prev else t.tail
  table m :=
    if m = e then { k := .freed, v := default, next := none, prev := none }
    else {
      k := (t.table m).k
      v := (t.table m).v
      next := if (t.table e).prev = some m then (t.table e).next else (t.table m).next
      prev := if (t.table e).next = some m then (t.table e).prev else (t.table m).prev }

/-- The table with another value in an entry. -/
def stored (n : Nat) (v : Val) : LhTable Key Val :=
  { t with table := Function.update t.table n { t.table n with v := v } }

@[simp] theorem cells_filled (n : Nat) (k : Key) (v : Val) :
    (t.filled n k v).cells = Function.update t.cells n (.used k) := by
  funext m
  simp only [cells, filled, Function.update_apply]
  split_ifs <;> rfl

@[simp] theorem cells_removed [Inhabited Val] (e : Nat) :
    (t.removed e).cells = Function.update t.cells e .freed := by
  funext m
  simp only [cells, removed, Function.update_apply]
  split_ifs <;> rfl

@[simp] theorem cells_stored (n : Nat) (v : Val) : (t.stored n v).cells = t.cells := by
  funext m
  simp only [cells, stored, Function.update_apply]
  split_ifs with same
  · rw [same]
  · rfl

theorem adjacent_stored (n : Nat) (v : Val) {left right : Option Nat}
    (adjacent : t.Adjacent left right) : (t.stored n v).Adjacent left right := by
  refine ⟨?_, ?_⟩
  · rw [← adjacent.next]
    cases left with
    | none => rfl
    | some m => by_cases same : m = n <;> simp [nextOf, stored, same]
  · rw [← adjacent.prev]
    cases right with
    | none => rfl
    | some m => by_cases same : m = n <;> simp [prevOf, stored, same]

end LhTable

/-! ## Entries -/

/-- The entries of an object in the order of their keys' first insertion. -/
abbrev Entries (Key Val : Type) := List (Key × Val)

namespace Entries

variable [DecidableEq Key]

/-- A new key comes to the end, the value of an old one is exchanged in its place. -/
def add (entries : Entries Key Val) (key : Key) (val : Val) : Entries Key Val :=
  if key ∈ entries.map Prod.fst then
    entries.map fun entry => if entry.1 = key then (key, val) else entry
  else
    entries ++ [(key, val)]

def del (entries : Entries Key Val) (key : Key) : Entries Key Val :=
  entries.filter fun entry => entry.1 ≠ key

section Split

variable {entries front behind : Entries Key Val} {key : Key} {v : Val}

theorem lookup_split (front_ : key ∉ front.map Prod.fst) :
    (front ++ (key, v) :: behind).lookup key = some v := by
  induction front with
  | nil => simp
  | cons entry front induction =>
      rw [List.map_cons, List.mem_cons, not_or] at front_
      have other : (key == entry.1) = false := by simpa using front_.1
      rw [List.cons_append, List.lookup_cons, other]
      exact induction front_.2

theorem lookup_absent (absent : key ∉ entries.map Prod.fst) : entries.lookup key = none := by
  rw [List.lookup_eq_none_iff]
  intro entry member
  have other : key ≠ entry.1 := fun same => absent (same ▸ List.mem_map_of_mem member)
  simpa using other

theorem add_split (front_ : key ∉ front.map Prod.fst) (behind_ : key ∉ behind.map Prod.fst)
    (val : Val) : (front ++ (key, v) :: behind).add key val = front ++ (key, val) :: behind := by
  have kept : ∀ entries : Entries Key Val, key ∉ entries.map Prod.fst →
      (entries.map fun entry => if entry.1 = key then (key, val) else entry) = entries := by
    intro entries absent
    refine (List.map_congr_left fun entry member => ?_).trans (List.map_id entries)
    exact if_neg fun same => absent (List.mem_map.mpr ⟨entry, member, same⟩)
  rw [add, if_pos (by simp), List.map_append, List.map_cons, kept front front_,
    kept behind behind_, if_pos rfl]

theorem del_absent (absent : key ∉ entries.map Prod.fst) : entries.del key = entries := by
  refine List.filter_eq_self.mpr fun entry member => ?_
  have other : entry.1 ≠ key := fun same => absent (List.mem_map.mpr ⟨entry, member, same⟩)
  simpa using other

theorem del_split (front_ : key ∉ front.map Prod.fst) (behind_ : key ∉ behind.map Prod.fst) :
    (front ++ (key, v) :: behind).del key = front ++ behind := by
  have kept := del_absent front_
  have kept' := del_absent behind_
  rw [del] at kept kept' ⊢
  rw [List.filter_append, List.filter_cons_of_neg (by simp), kept, kept']

end Split

end Entries

/-- The table holds the entries in this order at these places. -/
structure Holds (hash : Key → Nat) (t : LhTable Key Val) (nodes : List Nat)
    (entries : Entries Key Val) : Prop where
  nonempty : 0 < t.size
  inside : ∀ n ∈ nodes, n < t.size
  ring : Ring t.Adjacent none (nodes.map some)
  keys : nodes.map t.cells = entries.map fun entry => .used entry.1
  values : nodes.map (fun n => (t.table n).v) = entries.map Prod.snd
  only : ∀ n < t.size, ∀ key, t.cells n = .used key → n ∈ nodes
  reach : InReach t.size hash t.cells
  count : t.count = entries.length

namespace Holds

variable {hash : Key → Nat} {t : LhTable Key Val} {nodes : List Nat}
  {entries : Entries Key Val} {key : Key} {n : Nat}

theorem length_eq (holds : Holds hash t nodes entries) : nodes.length = entries.length := by
  simpa using congrArg List.length holds.keys

theorem nodup (holds : Holds hash t nodes entries) : nodes.Nodup :=
  (List.nodup_cons.mp holds.ring.distinct).2.of_map some

theorem length_le (holds : Holds hash t nodes entries) : entries.length ≤ t.size := by
  have inside : nodes.toFinset ⊆ Finset.range t.size := fun n member =>
    Finset.mem_range.mpr (holds.inside n (List.mem_toFinset.mp member))
  have card := Finset.card_le_card inside
  rwa [List.toFinset_card_of_nodup holds.nodup, Finset.card_range, holds.length_eq] at card

theorem key_mem (holds : Holds hash t nodes entries) (member : n ∈ nodes)
    (there : t.cells n = .used key) : key ∈ entries.map Prod.fst := by
  have listed : t.cells n ∈ nodes.map t.cells := List.mem_map_of_mem member
  rw [holds.keys, there, List.mem_map] at listed
  obtain ⟨entry, isEntry, same⟩ := listed
  exact List.mem_map.mpr ⟨entry, isEntry, Cell.used.inj same⟩

end Holds

/-! ## Lookup -/

section Lookup

variable [DecidableEq Key] {hash : Key → Nat} {t : LhTable Key Val} {nodes : List Nat}
  {entries : Entries Key Val} {key : Key} {n : Nat}

theorem lookupLoop_eq (inside : n < t.size) (count : Nat) :
    lookupLoop t key count n = some (find t.size t.cells key count n) := by
  induction count generalizing n with
  | zero => rfl
  | succ count induction =>
      have next := follow_lt inside
      simp only [lookupLoop, LhTable.entry, inside, if_true, Option.bind_eq_bind,
        Option.bind_some, find, LhTable.cells]
      cases (t.table n).k with
      | empty => rfl
      | freed => exact induction next
      | used other =>
          by_cases same : other = key
          · simp [same]
          · simpa [same] using induction next

theorem Holds.lookup_mem (holds : Holds hash t nodes entries) (member : n ∈ nodes)
    (there : t.cells n = .used key) : lhTableLookupEntry hash t key = some (some n) := by
  have found := holds.reach.find_eq (holds.inside n member) there
  rw [lhTableLookupEntry, lookupLoop_eq (Nat.mod_lt _ holds.nonempty)]
  exact congrArg some found

theorem Holds.lookup_absent (holds : Holds hash t nodes entries)
    (absent : key ∉ entries.map Prod.fst) : lhTableLookupEntry hash t key = some none := by
  rw [lhTableLookupEntry, lookupLoop_eq (Nat.mod_lt _ holds.nonempty)]
  exact congrArg some (InReach.find_none holds.nonempty fun n inside there =>
    absent (holds.key_mem (holds.only n inside key there) there))

end Lookup

/-! ## Insertion -/

section Insertion

variable {hash : Key → Nat} {t : LhTable Key Val} {nodes : List Nat}
  {entries : Entries Key Val} {key : Key} {n : Nat}

theorem insertLoop_eq (inside : n < t.size) (count : Nat) :
    insertLoop t count n = vacant t.size t.cells count n := by
  induction count generalizing n with
  | zero => rfl
  | succ count induction =>
      have next := follow_lt inside
      simp only [insertLoop, LhTable.entry, inside, if_true, Option.bind_eq_bind,
        Option.bind_some, vacant, LhTable.cells]
      cases (t.table n).k with
      | empty => rfl
      | freed => rfl
      | used other => exact induction next

theorem Holds.tail_eq (holds : Holds hash t nodes entries) :
    t.tail = lastOf none (nodes.map some) :=
  holds.ring.links_head.2.prev

theorem Holds.head_none (holds : Holds hash t nodes entries) :
    t.head = none ↔ t.tail = none := by
  have first : t.head = firstOf none (nodes.map some) := holds.ring.links_head.1.next
  rw [first, holds.tail_eq]
  cases nodes with
  | nil => simp
  | cons n nodes =>
      have last := lastOf_mem (some n) (nodes.map some)
      rw [← List.map_cons, List.mem_map] at last
      obtain ⟨m, -, isLast⟩ := last
      rw [List.map_cons, firstOf_cons, lastOf, List.getLastD_cons]
      refine iff_of_false (Option.some_ne_none n) ?_
      exact isLast.symm.trans_ne (Option.some_ne_none m)

theorem Holds.tail_mem (holds : Holds hash t nodes entries) {m : Nat} (isTail : t.tail = some m) :
    m ∈ nodes := by
  have member := lastOf_mem none (nodes.map some)
  rw [← holds.tail_eq, isTail] at member
  simpa using member

theorem fillEntry_eq (holds : Holds hash t nodes entries)
    (found : insertLoop t t.size (hash key % t.size) = some n) (inside : n < t.size)
    (new : n ∉ nodes) (v : Val) :
    fillEntry hash key v t = some (t.filled n key v) := by
  cases isTail : t.tail with
  | none =>
      have isHead := holds.head_none.mpr isTail
      simp only [fillEntry, found, Option.bind_eq_bind, Option.bind_some, LhTable.update, inside,
        if_true, isHead, LhTable.setNext, LhTable.setPrev, LhTable.filled, isTail]
      simp only [Option.some.injEq, LhTable.mk.injEq, true_and]
      funext m
      by_cases same : m = n <;> simp [same]
  | some last =>
      have isHead : t.head ≠ none := fun empty => by simp [holds.head_none.mp empty] at isTail
      obtain ⟨first, isFirst⟩ := Option.ne_none_iff_exists'.mp isHead
      have isLast := holds.inside last (holds.tail_mem isTail)
      have other : n ≠ last := fun same => new (same ▸ holds.tail_mem isTail)
      simp only [fillEntry, found, Option.bind_eq_bind, Option.bind_some, LhTable.update, inside,
        if_true, isFirst, isTail, isLast, LhTable.setNext, LhTable.setPrev, LhTable.filled]
      simp only [Option.some.injEq, LhTable.mk.injEq, true_and]
      refine ⟨by simp, ?_⟩
      funext m
      by_cases same : m = n
      · simp [same, other]
      · by_cases isLast : m = last
        · simp [isLast, Ne.symm other]
        · simp [same, isLast, Ne.symm isLast]

theorem ring_filled (holds : Holds hash t nodes entries) (new : n ∉ nodes) (v : Val) :
    Ring (t.filled n key v).Adjacent none ((nodes ++ [n]).map some) := by
  have whole : Ring t.Adjacent none (nodes.map some ++ []) := by
    rw [List.append_nil]
    exact holds.ring
  rw [List.map_append]
  refine whole.insert (by simpa using new) ?_ ?_ ?_
  · intro left right notLeft notRight notLast notFirst adjacent
    rw [← holds.tail_eq] at notLast
    refine ⟨?_, ?_⟩
    · rw [← adjacent.next]
      cases left with
      | none =>
          have notEmpty : t.head ≠ none := fun empty => notLast (holds.head_none.mp empty).symm
          simp [LhTable.nextOf, LhTable.filled, notEmpty]
      | some m =>
          have other : m ≠ n := fun same => notLeft (congrArg some same)
          simp [LhTable.nextOf, LhTable.filled, other, Ne.symm notLast]
    · rw [← adjacent.prev]
      cases right with
      | none => exact absurd rfl notFirst
      | some m =>
          have other : m ≠ n := fun same => notRight (congrArg some same)
          by_cases isTail : t.tail = some m <;>
            simp [LhTable.prevOf, LhTable.filled, other, isTail]
  · rw [← holds.tail_eq]
    refine ⟨?_, by simp [LhTable.prevOf, LhTable.filled]⟩
    cases isTail : t.tail with
    | none => simp [LhTable.nextOf, LhTable.filled, holds.head_none.mpr isTail]
    | some last =>
        have other : last ≠ n := fun same => new (same ▸ holds.tail_mem isTail)
        simp [LhTable.nextOf, LhTable.filled, isTail, other]
  · exact ⟨by simp [LhTable.nextOf, LhTable.filled], rfl⟩

theorem Holds.fill (holds : Holds hash t nodes entries) (room : entries.length < t.size)
    (new : key ∉ entries.map Prod.fst) (v : Val) :
    ∃ n, fillEntry hash key v t = some (t.filled n key v) ∧
      Holds hash (t.filled n key v) (nodes ++ [n]) (entries ++ [(key, v)]) := by
  rw [← holds.length_eq] at room
  obtain ⟨position, inside, unused⟩ := exists_unused holds.only room
  obtain ⟨n, low, found, free, reach⟩ := holds.reach.insert (fun m isEntry there =>
    new (holds.key_mem (holds.only m isEntry key there) there)) inside unused
  have notListed : n ∉ nodes := by
    intro member
    have listed : t.cells n ∈ nodes.map t.cells := List.mem_map_of_mem member
    rw [holds.keys, List.mem_map] at listed
    obtain ⟨entry, -, there⟩ := listed
    exact free entry.1 there.symm
  have others : ∀ m ∈ nodes, m ≠ n := fun m member same => notListed (same ▸ member)
  refine ⟨n, fillEntry_eq holds ?_ low notListed v, holds.nonempty, ?_, ring_filled holds notListed
      v,
    ?_, ?_, ?_, ?_, ?_⟩
  · rw [insertLoop_eq (Nat.mod_lt _ holds.nonempty)]
    exact found
  · intro m member
    rcases List.mem_append.mp member with member | member
    · exact holds.inside m member
    · rw [List.mem_singleton.mp member]
      exact low
  · rw [LhTable.cells_filled, List.map_append, List.map_append, ← holds.keys]
    refine congrArg₂ _ (List.map_congr_left fun m member => ?_) (by simp)
    exact Function.update_of_ne (others m member) _ _
  · rw [List.map_append, List.map_append, ← holds.values]
    refine congrArg₂ _ (List.map_congr_left fun m member => ?_) (by simp [LhTable.filled])
    simp only [LhTable.filled, others m member, if_false]
    split_ifs <;> rfl
  · intro m isEntry other there
    rw [LhTable.cells_filled, Function.update_apply] at there
    split_ifs at there with same
    · simp [same]
    · exact List.mem_append_left _ (holds.only m isEntry other there)
  · rw [LhTable.cells_filled]
    exact reach
  · simp [LhTable.filled, holds.count]

end Insertion

/-! ## Walks along the list -/

/-- From the first of these places on, the list shows these entries. -/
inductive Walks (t : LhTable Key Val) : List Nat → Entries Key Val → Prop
  | nil : Walks t [] []
  | cons {n : Nat} {k : Key} {v : Val} {nodes : List Nat} {entries : Entries Key Val}
      (inside : n < t.size) (isKey : (t.table n).k = .used k) (isValue : (t.table n).v = v)
      (next : (t.table n).next = firstOf none (nodes.map some)) (rest : Walks t nodes entries) :
      Walks t (n :: nodes) ((k, v) :: entries)

section Walking

variable {hash : Key → Nat} {t : LhTable Key Val} {nodes : List Nat} {entries : Entries Key Val}

theorem walks_of_links (inside : ∀ n ∈ nodes, n < t.size)
    (links : (nodes.map some ++ [none]).IsChain t.Adjacent)
    (keys : nodes.map t.cells = entries.map fun entry => .used entry.1)
    (values : nodes.map (fun n => (t.table n).v) = entries.map Prod.snd) :
    Walks t nodes entries := by
  induction nodes generalizing entries with
  | nil =>
      cases entries with
      | nil => exact .nil
      | cons entry entries => simp at keys
  | cons n nodes induction =>
      cases entries with
      | nil => simp at keys
      | cons entry entries =>
          rw [List.map_cons, List.cons_append, ← firstOf_cons_tail, List.isChain_cons_cons,
            firstOf_cons_tail] at links
          simp only [List.map_cons, List.cons.injEq] at keys values
          exact .cons (inside n List.mem_cons_self) keys.1 values.1 links.1.next
            (induction (fun m member => inside m (List.mem_cons_of_mem n member)) links.2
              keys.2 values.2)

theorem Holds.walks (holds : Holds hash t nodes entries) : Walks t nodes entries := by
  have links := holds.ring.links
  rw [← firstOf_cons_tail, List.isChain_cons_cons, firstOf_cons_tail] at links
  exact walks_of_links holds.inside links.2 holds.keys holds.values

theorem Walks.foreachLoop_eq (walks : Walks t nodes entries) {fuel : Nat}
    (enough : nodes.length ≤ fuel) :
    foreachLoop t fuel (firstOf none (nodes.map some)) = some entries := by
  induction walks generalizing fuel with
  | nil => cases fuel <;> rfl
  | cons inside isKey isValue next rest induction =>
      cases fuel with
      | zero => simp at enough
      | succ fuel =>
          simp [foreachLoop, LhTable.entry, inside, isKey, isValue, next,
            induction (Nat.le_of_succ_le_succ enough)]

theorem Holds.foreach_eq (holds : Holds hash t nodes entries) : lhForeach t = some entries := by
  have first : t.head = firstOf none (nodes.map some) := holds.ring.links_head.1.next
  rw [lhForeach, first]
  apply holds.walks.foreachLoop_eq
  rw [holds.length_eq]
  exact holds.length_le

theorem Holds.keys_nodup (holds : Holds hash t nodes entries) :
    (entries.map Prod.fst).Nodup := by
  have cells : (nodes.map t.cells).Nodup := by
    refine List.Nodup.map_on (fun first isFirst second isSecond same => ?_) holds.nodup
    have listed : t.cells first ∈ nodes.map t.cells := List.mem_map_of_mem isFirst
    rw [holds.keys, List.mem_map] at listed
    obtain ⟨entry, -, there⟩ := listed
    exact holds.reach.once entry.1 first second (holds.inside first isFirst)
      (holds.inside second isSecond) there.symm (same.symm.trans there.symm)
  rw [holds.keys] at cells
  refine List.Nodup.of_map Cell.used ?_
  rwa [List.map_map]

theorem Holds.split {key : Key} (holds : Holds hash t nodes entries)
    (member : key ∈ entries.map Prod.fst) :
    ∃ before e after front v behind, nodes = before ++ e :: after ∧
      entries = front ++ (key, v) :: behind ∧ before.length = front.length ∧
      t.cells e = .used key ∧ (t.table e).v = v ∧ e < t.size ∧
      key ∉ front.map Prod.fst ∧ key ∉ behind.map Prod.fst := by
  obtain ⟨entry, isEntry, rfl⟩ := List.mem_map.mp member
  obtain ⟨front, behind, rfl⟩ := List.append_of_mem isEntry
  have keys := holds.keys
  have values := holds.values
  rw [List.map_append, List.map_cons] at keys values
  obtain ⟨before, rest, rfl, keysFront, keysRest⟩ := List.map_eq_append_iff.mp keys
  obtain ⟨e, after, rfl, keyHere, -⟩ := List.map_eq_cons_iff.mp keysRest
  have length : before.length = front.length := by simpa using congrArg List.length keysFront
  rw [List.map_append, List.map_cons] at values
  have valuesSplit := List.append_inj values (by simpa using length)
  have distinct := holds.keys_nodup
  simp only [List.map_append, List.map_cons, List.nodup_append, List.nodup_cons] at distinct
  refine ⟨before, e, after, front, entry.2, behind, rfl, rfl, length, keyHere,
    (List.cons.inj valuesSplit.2).1, holds.inside e (by simp), ?_, distinct.2.1.1⟩
  exact fun inside => distinct.2.2 _ inside _ List.mem_cons_self rfl

end Walking

/-! ## Growth -/

section Growth

variable [Inhabited Val] {hash : Key → Nat} {t : LhTable Key Val} {nodes : List Nat}
    {entries : Entries Key Val}

theorem holds_new {size : Nat} (nonempty : 0 < size) :
    Holds hash (lhTableNew size : LhTable Key Val) [] [] where
  nonempty := nonempty
  inside := nofun
  ring := Ring.empty ⟨rfl, rfl⟩
  keys := rfl
  values := rfl
  only _ _ _ there := nomatch there
  reach := InReach.empty size hash
  count := rfl

theorem Walks.resizeLoop_eq (walks : Walks t nodes entries) {newT : LhTable Key Val}
    {placed : List Nat} {done : Entries Key Val} (holds : Holds hash newT placed done)
    (distinct : ((done ++ entries).map Prod.fst).Nodup)
    (room : (done ++ entries).length * 100 < newT.size * 66 + 100) {fuel : Nat}
    (enough : nodes.length ≤ fuel) :
    ∃ result places,
      resizeLoop (lhTableInsert hash 1) t fuel (firstOf none (nodes.map some)) newT =
        some result ∧
      result.size = newT.size ∧ Holds hash result places (done ++ entries) := by
  induction walks generalizing newT placed done fuel with
  | nil => exact ⟨newT, placed, by cases fuel <;> rfl, rfl, by rwa [List.append_nil]⟩
  | @cons n k v nodes entries inside isKey isValue next rest induction =>
      cases fuel with
      | zero => simp at enough
      | succ fuel =>
          rw [List.append_cons] at distinct room
          have unloaded : ¬newT.Loaded := by
            rw [LhTable.Loaded, holds.count]
            simp at room
            omega
          have fits : done.length < newT.size := by
            simp at room
            omega
          have new : k ∉ done.map Prod.fst := by
            simp only [List.map_append, List.map_cons, List.map_nil, List.nodup_append] at distinct
            intro member
            exact distinct.1.2.2 k member k (by simp) rfl
          obtain ⟨m, filled, after⟩ := holds.fill fits new v
          obtain ⟨result, places, resized, size, whole⟩ := induction after distinct room
            (Nat.le_of_succ_le_succ enough)
          have inserted : lhTableInsert hash 1 k v newT = some (newT.filled m k v) := by
            rw [lhTableInsert, if_neg unloaded, filled]
          refine ⟨result, places, ?_, size, by rwa [List.append_cons]⟩
          simp [resizeLoop, LhTable.entry, inside, isKey, isValue, next, inserted, resized]

/-- As many keys as a table of `2 ^ 30` entries takes. -/
def maximalCount : Nat := 708669603

theorem Holds.insert (holds : Holds hash t nodes entries) {key : Key}
    (absent : key ∉ entries.map Prod.fst) (few : entries.length ≤ maximalCount) (v : Val) :
    ∃ result places, lhTableInsert hash 2 key v t = some result ∧
      Holds hash result places (entries ++ [(key, v)]) := by
  rw [lhTableInsert]
  by_cases loaded : t.Loaded
  · have small : t.size * 2 < 2 ^ 31 := by
      rw [LhTable.Loaded, holds.count] at loaded
      rw [maximalCount] at few
      omega
    have fits := holds.length_le
    have enough : nodes.length ≤ t.size := by rwa [holds.length_eq]
    have nonempty := holds.nonempty
    have first : t.head = firstOf none (nodes.map some) := holds.ring.links_head.1.next
    have doubled : 0 < t.size * 2 := Nat.mul_pos nonempty (by decide)
    have new : Holds hash (lhTableNew (t.size * 2) : LhTable Key Val) [] [] := holds_new doubled
    obtain ⟨grown, places, resized, size, moved⟩ := holds.walks.resizeLoop_eq new holds.keys_nodup
      (by simp only [List.nil_append, lhTableNew]; omega) enough
    rw [List.nil_append] at moved
    have same : ({ t with
        size := t.size * 2
        table := grown.table
        head := grown.head
        tail := grown.tail } : LhTable Key Val) = grown := by
      rw [holds.count, ← moved.count, show t.size * 2 = grown.size from size.symm]
    have room : entries.length < grown.size := by
      rw [size]
      exact Nat.lt_of_le_of_lt fits (show t.size < t.size * 2 by omega)
    obtain ⟨n, filled, after⟩ := moved.fill room absent v
    refine ⟨_, _, ?_, after⟩
    simp only [if_pos loaded, if_pos small, lhTableResize, first, resized, Option.bind_eq_bind,
      Option.bind_some]
    rw [← filled, ← same]
  · have room : entries.length < t.size := by
      rw [LhTable.Loaded, holds.count] at loaded
      omega
    obtain ⟨n, filled, after⟩ := holds.fill room absent v
    exact ⟨_, _, by rw [if_neg loaded, filled], after⟩

end Growth

/-! ## Deletion -/

section Deletion

variable {hash : Key → Nat} {t : LhTable Key Val} {before after : List Nat}
  {entries : Entries Key Val} {key : Key} {e : Nat}

/-- How an entry stands between its neighbours. -/
structure Between (t : LhTable Key Val) (left : Option Nat) (e : Nat) (right : Option Nat) :
    Prop where
  behind : t.Adjacent left (some e)
  inFront : t.Adjacent (some e) right
  isHead : t.head = some e ↔ left = none
  isTail : t.tail = some e ↔ right = none
  left_lt : ∀ n, left = some n → n < t.size ∧ n ≠ e
  right_lt : ∀ n, right = some n → n < t.size ∧ n ≠ e

theorem Holds.between (holds : Holds hash t (before ++ e :: after) entries) :
    Between t (lastOf none (before.map some)) e (firstOf none (after.map some)) := by
  have ring := holds.ring
  rw [List.map_append, List.map_cons] at ring
  have links := ring.links_of_split
  have ends := ring.links_head
  have distinct := holds.nodup
  simp only [List.nodup_append, List.nodup_cons, List.mem_cons] at distinct
  have inside := holds.inside
  simp only [List.mem_append, List.mem_cons] at inside
  have left := lastOf_mem none (before.map some)
  have right := firstOf_mem none (after.map some)
  refine ⟨links.1, links.2, ⟨fun isHead => ?_, fun first => ?_⟩, ⟨fun isTail => ?_, fun last => ?_⟩,
    ?_, ?_⟩
  · have prev := ends.1.prev
    rw [← ends.1.next, show t.nextOf none = t.head from rfl, isHead] at prev
    rw [← links.1.prev, prev]
  · have next := links.1.next
    rwa [first] at next
  · have next := ends.2.next
    rw [← ends.2.prev, show t.prevOf none = t.tail from rfl, isTail] at next
    rw [← links.2.next, next]
  · have prev := links.2.prev
    rwa [last] at prev
  · intro n isLeft
    rw [isLeft] at left
    have member : n ∈ before := by simpa using left
    exact ⟨inside n (Or.inl member), fun same => distinct.2.2 n member e (Or.inl rfl) same⟩
  · intro n isRight
    rw [isRight] at right
    have member : n ∈ after := by simpa using right
    exact ⟨inside n (Or.inr (Or.inr member)), fun same => distinct.2.1.1 (same ▸ member)⟩

theorem lhTableDeleteEntry_eq [Inhabited Val] {left right : Option Nat}
    (between : Between t left e right)
    (inside : e < t.size) (isKey : (t.table e).k = .used key) :
    lhTableDeleteEntry t e = some (0, [(t.table e).v], t.removed e) := by
  have prev : (t.table e).prev = left := between.behind.prev
  have next : (t.table e).next = right := between.inFront.next
  simp only [lhTableDeleteEntry, LhTable.entry, inside, if_true, Option.bind_eq_bind,
    Option.bind_some, isKey, LhTable.update, between.isHead, between.isTail, prev, next]
  cases left with
  | none =>
      cases right with
      | none =>
          simp [LhTable.setNext, LhTable.setPrev, LhTable.update, inside, LhTable.removed,
            between.isHead, between.isTail, prev, next]
          funext m
          by_cases same : m = e <;> simp [same]
      | some n =>
          obtain ⟨low, other⟩ := between.right_lt n rfl
          simp [LhTable.setNext, LhTable.setPrev, LhTable.update, inside, LhTable.removed,
            between.isHead, between.isTail, prev, next, low]
          funext m
          by_cases same : m = e <;> by_cases isNext : m = n <;>
            simp_all [Function.update_apply, eq_comm]
  | some p =>
      obtain ⟨low, other⟩ := between.left_lt p rfl
      cases right with
      | none =>
          simp [LhTable.setNext, LhTable.setPrev, LhTable.update, inside, LhTable.removed,
            between.isHead, between.isTail, prev, next, low]
          funext m
          by_cases same : m = e <;> by_cases isPrev : m = p <;>
            simp_all [Function.update_apply, eq_comm]
      | some n =>
          obtain ⟨low', other'⟩ := between.right_lt n rfl
          simp [LhTable.setNext, LhTable.setPrev, LhTable.update, inside, LhTable.removed,
            between.isHead, between.isTail, prev, next, low, low']
          funext m
          by_cases same : m = e <;> by_cases isPrev : m = p <;> by_cases isNext : m = n <;>
            simp_all [Function.update_apply, eq_comm]

theorem ring_removed [Inhabited Val] (holds : Holds hash t (before ++ e :: after) entries) :
    Ring (t.removed e).Adjacent none ((before ++ after).map some) := by
  have between := holds.between
  have ring := holds.ring
  rw [List.map_append, List.map_cons] at ring
  rw [List.map_append]
  have prev : (t.table e).prev = lastOf none (before.map some) := between.behind.prev
  have next : (t.table e).next = firstOf none (after.map some) := between.inFront.next
  refine ring.remove ?_ ⟨?_, ?_⟩
  · intro left right notLeft notRight notLast notFirst adjacent
    refine ⟨?_, ?_⟩
    · rw [← adjacent.next]
      cases left with
      | none => simp [LhTable.nextOf, LhTable.removed, between.isHead, Ne.symm notLast]
      | some m =>
          have other : m ≠ e := fun same => notLeft (congrArg some same)
          simp [LhTable.nextOf, LhTable.removed, other, prev, Ne.symm notLast]
    · rw [← adjacent.prev]
      cases right with
      | none => simp [LhTable.prevOf, LhTable.removed, between.isTail, Ne.symm notFirst]
      | some m =>
          have other : m ≠ e := fun same => notRight (congrArg some same)
          simp [LhTable.prevOf, LhTable.removed, other, next, Ne.symm notFirst]
  · cases isLeft : lastOf none (before.map some) with
    | none => simp [LhTable.nextOf, LhTable.removed, between.isHead, isLeft, next]
    | some p =>
        have other := (between.left_lt p isLeft).2
        simp [LhTable.nextOf, LhTable.removed, other, prev, isLeft, next]
  · cases isRight : firstOf none (after.map some) with
    | none => simp [LhTable.prevOf, LhTable.removed, between.isTail, isRight, prev]
    | some n =>
        have other := (between.right_lt n isRight).2
        simp [LhTable.prevOf, LhTable.removed, other, next, isRight, prev]

theorem Holds.remove [Inhabited Val] {front behind : Entries Key Val} {v : Val}
    (holds : Holds hash t (before ++ e :: after) (front ++ (key, v) :: behind))
    (same : before.length = front.length) :
    lhTableDeleteEntry t e = some (0, [v], t.removed e) ∧
      Holds hash (t.removed e) (before ++ after) (front ++ behind) := by
  have keys := holds.keys
  have values := holds.values
  rw [List.map_append, List.map_append] at keys values
  have keysSplit := List.append_inj keys (by simpa using same)
  have valuesSplit := List.append_inj values (by simpa using same)
  simp only [List.map_cons, List.cons.injEq] at keysSplit valuesSplit
  have distinct := holds.nodup
  simp only [List.nodup_append, List.nodup_cons, List.mem_cons] at distinct
  have others : ∀ m ∈ before ++ after, m ≠ e := by
    intro m member same
    rcases List.mem_append.mp member with member | member
    · exact distinct.2.2 m member e (Or.inl rfl) same
    · exact distinct.2.1.1 (same ▸ member)
  have inside := holds.inside e (by simp)
  have keyThere : (t.table e).k = .used key := keysSplit.2.1
  have valueThere : (t.table e).v = v := valuesSplit.2.1
  have keysKept : (before ++ after).map t.cells =
      (front ++ behind).map fun entry => Cell.used entry.1 := by
    rw [List.map_append, List.map_append, keysSplit.1, keysSplit.2.2]
  have valuesKept : ((before ++ after).map fun n => (t.table n).v) =
      (front ++ behind).map Prod.snd := by
    rw [List.map_append, List.map_append, valuesSplit.1, valuesSplit.2.2]
  refine ⟨?_, holds.nonempty, ?_, ring_removed holds, ?_, ?_, ?_, ?_, ?_⟩
  · rw [lhTableDeleteEntry_eq holds.between inside keyThere, valueThere]
  · intro m member
    apply holds.inside
    rcases List.mem_append.mp member with member | member <;> simp [member]
  · rw [LhTable.cells_removed, ← keysKept]
    exact List.map_congr_left fun m member => Function.update_of_ne (others m member) _ _
  · rw [← valuesKept]
    exact List.map_congr_left fun m member => by simp [LhTable.removed, others m member]
  · intro m isEntry other there
    rw [LhTable.cells_removed, Function.update_apply] at there
    split_ifs at there with gone
    have member := holds.only m isEntry other there
    simp only [List.mem_append, List.mem_cons, gone, false_or] at member
    exact List.mem_append.mpr member
  · rw [LhTable.cells_removed]
    exact holds.reach.free e
  · have count := holds.count
    rw [List.length_append, List.length_cons] at count
    simp only [LhTable.removed, List.length_append]
    omega

end Deletion

/-! ## Exchange -/

theorem Holds.store {hash : Key → Nat} {t : LhTable Key Val} {before after : List Nat} {e : Nat}
    {front behind : Entries Key Val} {key : Key} {v : Val}
    (holds : Holds hash t (before ++ e :: after) (front ++ (key, v) :: behind))
    (same : before.length = front.length) (val : Val) :
    Holds hash (t.stored e val) (before ++ e :: after) (front ++ (key, val) :: behind) where
  nonempty := holds.nonempty
  inside := holds.inside
  ring := holds.ring.kept fun _ _ _ _ => t.adjacent_stored e val
  keys := by simpa using holds.keys
  values := by
    have values := holds.values
    rw [List.map_append, List.map_append] at values
    have valuesSplit := List.append_inj values (by simpa using same)
    simp only [List.map_cons, List.cons.injEq] at valuesSplit
    have distinct := holds.nodup
    simp only [List.nodup_append, List.nodup_cons, List.mem_cons] at distinct
    have others : ∀ nodes : List Nat, e ∉ nodes →
        nodes.map (fun n => ((t.stored e val).table n).v) = nodes.map fun n => (t.table n).v :=
      fun nodes absent => List.map_congr_left fun n member => by
        have other : n ≠ e := fun same => absent (same ▸ member)
        simp [LhTable.stored, other]
    rw [List.map_append, List.map_cons, List.map_append, List.map_cons, others before ?_,
      others after distinct.2.1.1, valuesSplit.1, valuesSplit.2.2]
    · simp [LhTable.stored]
    · exact fun member => distinct.2.2 e member e (Or.inl rfl) rfl
  only := by
    rw [LhTable.cells_stored]
    exact holds.only
  reach := by
    rw [LhTable.cells_stored]
    exact holds.reach
  count := by
    have count := holds.count
    simp only [List.length_append, List.length_cons] at count ⊢
    exact count

end StudyDemo.Json
