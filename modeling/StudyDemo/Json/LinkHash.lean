import StudyDemo.Foundation.Probing
import StudyDemo.Foundation.Rings

/-! # The hash table of JSON objects

Open addressing with a flag for freed entries, and through the entries in use a list in
the order of insertion. An access outside the table, or through a pointer that is
`NULL`, has no result. -/

namespace StudyDemo.Json

open Probing

/-- `struct lh_entry`; `k` may be `LH_EMPTY` or `LH_FREED`, and the default value of the
values is `NULL`. -/
structure LhEntry (Key Val : Type) where
  k : Cell Key
  v : Val
  next : Option Nat
  prev : Option Nat

/-- `struct lh_table` without its counters for statistics. Entries are pointed to by
their numbers. -/
structure LhTable (Key Val : Type) where
  size : Nat
  count : Nat
  head : Option Nat
  tail : Option Nat
  table : Nat → LhEntry Key Val

variable {Key Val : Type} [Inhabited Val]

def lhTableNew (size : Nat) : LhTable Key Val where
  size := size
  count := 0
  head := none
  tail := none
  table _ := { k := .empty, v := default, next := none, prev := none }

namespace LhTable

variable (t : LhTable Key Val)

/-- `t->table[n]`. -/
def entry (n : Nat) : Option (LhEntry Key Val) := if n < t.size then some (t.table n) else none

def update (n : Nat) (change : LhEntry Key Val → LhEntry Key Val) : Option (LhTable Key Val) :=
  if n < t.size then
    some { t with table := Function.update t.table n (change (t.table n)) }
  else
    none

def setNext (n : Nat) (next : Option Nat) : Option (LhTable Key Val) :=
  t.update n fun entry => { entry with next := next }

def setPrev (n : Nat) (prev : Option Nat) : Option (LhTable Key Val) :=
  t.update n fun entry => { entry with prev := prev }

/-- `count >= size * LH_LOAD_FACTOR`. -/
def Loaded : Prop := t.size * 66 ≤ t.count * 100

instance : Decidable t.Loaded := inferInstanceAs (Decidable (_ ≤ _))

end LhTable

/-! ## Lookup -/

section Lookup

variable [DecidableEq Key] (hash : Key → Nat)

/-- The loop of `lh_table_lookup_entry` over at most `size` entries. -/
def lookupLoop (t : LhTable Key Val) (k : Key) : Nat → Nat → Option (Option Nat)
  | 0, _ => some none
  | count + 1, n => do
      let entry ← t.entry n
      match entry.k with
      | .empty => some none
      | .freed => lookupLoop t k count (follow t.size n)
      | .used key =>
          if key = k then some (some n) else lookupLoop t k count (follow t.size n)

def lhTableLookupEntry (t : LhTable Key Val) (k : Key) : Option (Option Nat) :=
  lookupLoop t k t.size (hash k % t.size)

/-- Whether the key is there, and its value or `NULL`. -/
def lhTableLookupEx (t : LhTable Key Val) (k : Key) : Option (Bool × Val) := do
  match ← lhTableLookupEntry hash t k with
  | none => some (false, default)
  | some n =>
      let entry ← t.entry n
      some (true, entry.v)

end Lookup

/-! ## Insertion -/

section Insertion

variable (hash : Key → Nat)

/-- The loop of `lh_table_insert`; a table without a free entry would keep it going. -/
def insertLoop (t : LhTable Key Val) : Nat → Nat → Option Nat
  | 0, _ => none
  | count + 1, n => do
      let entry ← t.entry n
      match entry.k with
      | .empty => some n
      | .freed => some n
      | .used _ => insertLoop t count (follow t.size n)

/-- What follows the resizing in `lh_table_insert`. -/
def fillEntry (k : Key) (v : Val) (t : LhTable Key Val) : Option (LhTable Key Val) := do
  let n ← insertLoop t t.size (hash k % t.size)
  let t ← t.update n fun entry => { entry with k := .used k, v := v }
  let t := { t with count := t.count + 1 }
  match t.head with
  | none => do
      let t ← LhTable.setNext { t with head := some n, tail := some n } n none
      t.setPrev n none
  | some _ => do
      let tail ← t.tail
      let t ← t.setNext tail (some n)
      let t ← t.setPrev n (some tail)
      let t ← t.setNext n none
      some { t with tail := some n }

/-- The loop of `lh_table_resize` along the entries of the old table. -/
def resizeLoop (insert : Key → Val → LhTable Key Val → Option (LhTable Key Val))
    (t : LhTable Key Val) : Nat → Option Nat → LhTable Key Val → Option (LhTable Key Val)
  | _, none, newT => some newT
  | 0, some _, _ => none
  | fuel + 1, some ent, newT => do
      let entry ← t.entry ent
      match entry.k with
      | .used k =>
          let newT ← insert k entry.v newT
          resizeLoop insert t fuel entry.next newT
      | _ => none

def lhTableResize (insert : Key → Val → LhTable Key Val → Option (LhTable Key Val))
    (newSize : Nat) (t : LhTable Key Val) : Option (LhTable Key Val) := do
  let newT ← resizeLoop insert t t.size t.head (lhTableNew newSize)
  some { t with size := newSize, table := newT.table, head := newT.head, tail := newT.tail }

/-- `lh_table_insert`, which calls itself for the entries of a table that grows. The new
size must be an `int`. -/
def lhTableInsert : Nat → Key → Val → LhTable Key Val → Option (LhTable Key Val)
  | 0, _, _, _ => none
  | depth + 1, k, v, t =>
      if t.Loaded then
        if t.size * 2 < 2 ^ 31 then do
          let t ← lhTableResize (lhTableInsert depth) (t.size * 2) t
          fillEntry hash k v t
        else
          none
      else
        fillEntry hash k v t

end Insertion

/-! ## Deletion -/

/-- `lh_table_delete_entry`: its result, the value that the free function gets, and the
table. -/
def lhTableDeleteEntry (t : LhTable Key Val) (e : Nat) :
    Option (Int × List Val × LhTable Key Val) := do
  let entry ← t.entry e
  match entry.k with
  | .empty => some (-1, [], t)
  | .freed => some (-1, [], t)
  | .used _ =>
      let t := { t with count := t.count - 1 }
      let t ← t.update e fun entry => { entry with k := .freed, v := default }
      let t ←
        if t.tail = some e ∧ t.head = some e then
          some { t with head := none, tail := none }
        else if t.head = some e then do
          let next ← entry.next
          let t ← t.setPrev next none
          some { t with head := some next }
        else if t.tail = some e then do
          let prev ← entry.prev
          let t ← t.setNext prev none
          some { t with tail := some prev }
        else do
          let prev ← entry.prev
          let next ← entry.next
          let t ← t.setNext prev (some next)
          t.setPrev next (some prev)
      let t ← t.setNext e none
      let t ← t.setPrev e none
      some (0, [entry.v], t)

def lhTableDelete [DecidableEq Key] (hash : Key → Nat) (t : LhTable Key Val) (k : Key) :
    Option (Int × List Val × LhTable Key Val) := do
  match ← lhTableLookupEntry hash t k with
  | none => some (-1, [], t)
  | some e => lhTableDeleteEntry t e

/-! ## Walks along the entries -/

/-- `lh_foreach`: the keys and values in the order of the list. -/
def foreachLoop (t : LhTable Key Val) : Nat → Option Nat → Option (List (Key × Val))
  | _, none => some []
  | 0, some _ => none
  | fuel + 1, some n => do
      let entry ← t.entry n
      match entry.k with
      | .used k =>
          let rest ← foreachLoop t fuel entry.next
          some ((k, entry.v) :: rest)
      | _ => none

def lhForeach (t : LhTable Key Val) : Option (List (Key × Val)) :=
  foreachLoop t t.size t.head

/-- `lh_table_free`: what the free function gets. -/
def lhTableFree (t : LhTable Key Val) : Option (List Val) := do
  let entries ← lhForeach t
  some (entries.map Prod.snd)

/-! ## Objects -/

section Objects

variable [DecidableEq Key] (hash : Key → Nat)

def jsonObjectNewObject : LhTable Key Val := lhTableNew 16

/-- `json_object_object_add`: the table, and the values whose reference is given up. -/
def jsonObjectObjectAdd (key : Key) (val : Val) (jso : LhTable Key Val) :
    Option (List Val × LhTable Key Val) := do
  match ← lhTableLookupEntry hash jso key with
  | none =>
      let jso ← lhTableInsert hash 2 key val jso
      some ([], jso)
  | some existing =>
      let entry ← jso.entry existing
      let jso ← jso.update existing fun entry => { entry with v := val }
      some ([entry.v], jso)

/-- `json_object_object_get_ex` for an object. -/
def jsonObjectObjectGetEx (jso : LhTable Key Val) (key : Key) : Option (Bool × Val) :=
  lhTableLookupEx hash jso key

def jsonObjectObjectDel (key : Key) (jso : LhTable Key Val) :
    Option (List Val × LhTable Key Val) := do
  let (_, released, jso) ← lhTableDelete hash jso key
  some (released, jso)

def jsonObjectObjectLength (jso : LhTable Key Val) : Nat := jso.count

end Objects

end StudyDemo.Json
