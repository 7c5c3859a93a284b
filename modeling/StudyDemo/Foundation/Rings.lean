import Mathlib.Data.List.Chain
import Mathlib.Data.List.Nodup

/-! # Circular lists of linked nodes

Nodes that follow each other from a head back to that head, over any relation that
says when one node is linked to the next. An edit exchanges a piece of such a ring;
what links the nodes is left to the user of this file. -/

namespace StudyDemo.Rings

variable {Node : Type*}

/-- From the head along the nodes back to the head, none of them twice. -/
structure Ring (Adjacent : Node → Node → Prop) (head : Node) (nodes : List Node) : Prop where
  links : (head :: (nodes ++ [head])).IsChain Adjacent
  distinct : (head :: nodes).Nodup

/-- The node in front of a position. -/
def lastOf (head : Node) (before : List Node) : Node := before.getLastD head

/-- The node behind a position. -/
def firstOf (head : Node) (after : List Node) : Node := after.headD head

section Ends

variable (head : Node)

theorem dropLast_append_lastOf (before : List Node) :
    (head :: before).dropLast ++ [lastOf head before] = head :: before := by
  rw [lastOf, ← List.getLast_eq_getLastD (List.cons_ne_nil head before)]
  exact List.dropLast_append_getLast (List.cons_ne_nil head before)

theorem firstOf_cons_tail (after : List Node) :
    firstOf head after :: (after ++ [head]).tail = after ++ [head] := by
  cases after with
  | nil => rfl
  | cons node nodes => rfl

theorem lastOf_mem (before : List Node) : lastOf head before ∈ head :: before :=
  List.getLastD_mem_cons

theorem firstOf_mem (after : List Node) : firstOf head after ∈ after ++ [head] := by
  rw [← firstOf_cons_tail]
  exact List.mem_cons_self

@[simp] theorem lastOf_append (before : List Node) (node : Node) :
    lastOf head (before ++ [node]) = node :=
  List.getLastD_concat

@[simp] theorem lastOf_nil : lastOf head ([] : List Node) = head := rfl

@[simp] theorem firstOf_nil : firstOf head ([] : List Node) = head := rfl

@[simp] theorem firstOf_cons (node : Node) (nodes : List Node) :
    firstOf head (node :: nodes) = node := rfl

end Ends

/-- Only the nodes in front of the last have a successor, and only those behind the
first a predecessor. -/
theorem isChain_of_kept {Adjacent Adjacent' : Node → Node → Prop} {nodes : List Node}
    (chain : nodes.IsChain Adjacent)
    (kept : ∀ left ∈ nodes.dropLast, ∀ right ∈ nodes.tail,
      Adjacent left right → Adjacent' left right) :
    nodes.IsChain Adjacent' := by
  induction chain with
  | nil => exact List.isChain_nil
  | singleton node => exact List.isChain_singleton node
  | cons_cons adjacent chain induction =>
      rename_i first second rest
      refine List.isChain_cons_cons.mpr
        ⟨kept first List.mem_cons_self second List.mem_cons_self adjacent, ?_⟩
      refine induction fun left earlier right later => ?_
      exact kept left (List.mem_cons_of_mem _ earlier) right (List.mem_cons_of_mem _ later)

section Edits

variable {Adjacent Adjacent' : Node → Node → Prop} {head : Node}
variable {before after nodes : List Node}

/-- A change that leaves the links between the nodes of a ring leaves the ring. -/
theorem Ring.kept (ring : Ring Adjacent head nodes)
    (kept : ∀ left ∈ head :: nodes, ∀ right ∈ head :: nodes,
      Adjacent left right → Adjacent' left right) :
    Ring Adjacent' head nodes where
  links := by
    refine ring.links.imp_of_mem_imp fun left right isLeft isRight => ?_
    have inside : ∀ node ∈ head :: (nodes ++ [head]), node ∈ head :: nodes := by
      intro node member
      rcases List.mem_cons.mp member with rfl | member
      · exact List.mem_cons_self
      · rcases List.mem_append.mp member with member | member
        · exact List.mem_cons_of_mem head member
        · rw [List.mem_singleton.mp member]
          exact List.mem_cons_self
    exact kept left (inside left isLeft) right (inside right isRight)
  distinct := ring.distinct

/-- Another piece takes the place of a piece of the ring: the links between the nodes
that stay are kept, but for those into and out of the gap. -/
theorem Ring.splice {old new : List Node} (ring : Ring Adjacent head (before ++ old ++ after))
    (kept : ∀ left right, left ∉ old ++ new → right ∉ old ++ new → left ≠ lastOf head before →
      right ≠ firstOf head after → Adjacent left right → Adjacent' left right)
    (piece : (lastOf head before :: (new ++ [firstOf head after])).IsChain Adjacent')
    (distinct : (head :: (before ++ new ++ after)).Nodup) :
    Ring Adjacent' head (before ++ new ++ after) where
  links := by
    have opened (middle : List Node) : head :: (before ++ middle ++ after ++ [head]) =
        (head :: before).dropLast ++ lastOf head before ::
          (middle ++ firstOf head after :: (after ++ [head]).tail) := by
      calc head :: (before ++ middle ++ after ++ [head])
          = (head :: before) ++ (middle ++ (after ++ [head])) := by simp
        _ = ((head :: before).dropLast ++ [lastOf head before]) ++
              (middle ++ firstOf head after :: (after ++ [head]).tail) := by
            rw [dropLast_append_lastOf, firstOf_cons_tail]
        _ = _ := by simp
    have links := ring.links
    rw [opened, List.isChain_split, List.isChain_cons_split] at links
    rw [opened, List.isChain_split, List.isChain_cons_split]
    have unique := ring.distinct
    have unique' := distinct
    simp only [List.nodup_cons, List.nodup_append, List.mem_append, not_or] at unique unique'
    simp only [List.mem_append, not_or] at kept
    have inFront := lastOf_mem head before
    have behind := firstOf_mem head after
    rw [List.mem_cons] at inFront
    rw [List.mem_append, List.mem_singleton] at behind
    refine ⟨isChain_of_kept links.1 ?_, piece, isChain_of_kept links.2.2 ?_⟩
    · rw [List.dropLast_concat, dropLast_append_lastOf, List.tail_cons]
      intro left isLeft right isRight
      have earlier : left ∈ head :: before := List.dropLast_subset _ isLeft
      have notLast : left ≠ lastOf head before := by
        have split := dropLast_append_lastOf head before
        have once : (head :: before).Nodup := List.nodup_cons.mpr ⟨by grind, by grind⟩
        rw [← split] at once
        exact fun same => (List.nodup_append.mp once).2.2 left isLeft _
          (List.mem_singleton_self _) same
      rw [List.mem_cons] at earlier
      exact kept left right (by grind) (by grind) notLast (by grind)
    · rw [firstOf_cons_tail, List.dropLast_concat]
      intro left isLeft right isRight
      have later : right ∈ after ++ [head] := List.mem_of_mem_tail isRight
      have notFirst : right ≠ firstOf head after := by
        have split := firstOf_cons_tail head after
        have once : (after ++ [head]).Nodup := by
          rw [List.nodup_append]
          exact ⟨by grind, List.nodup_singleton head, by grind⟩
        rw [← split] at once
        exact fun same => (List.nodup_cons.mp once).1 (same ▸ isRight)
      rw [List.mem_append, List.mem_singleton] at later
      exact kept left right (by grind) (by grind) (by grind) notFirst
  distinct := distinct

/-- A node that is linked in between two neighbours. -/
theorem Ring.insert {node : Node} (ring : Ring Adjacent head (before ++ after))
    (new : node ∉ head :: (before ++ after))
    (kept : ∀ left right, left ≠ node → right ≠ node → left ≠ lastOf head before →
      right ≠ firstOf head after → Adjacent left right → Adjacent' left right)
    (behind : Adjacent' (lastOf head before) node)
    (inFront : Adjacent' node (firstOf head after)) :
    Ring Adjacent' head (before ++ node :: after) := by
  have distinct : (head :: (before ++ node :: after)).Nodup := by
    have unique := ring.distinct
    simp only [List.nodup_cons, List.nodup_append, List.mem_append, List.mem_cons,
      not_or] at unique new ⊢
    grind
  rw [List.append_cons] at distinct ⊢
  have whole : Ring Adjacent head (before ++ [] ++ after) := by rwa [List.append_nil]
  refine whole.splice (fun left right isLeft isRight => kept left right
    (List.mem_singleton.not.mp isLeft) (List.mem_singleton.not.mp isRight)) ?_ distinct
  exact List.isChain_cons_cons.mpr ⟨behind, List.isChain_pair.mpr inFront⟩

/-- A node whose neighbours are linked to each other. -/
theorem Ring.remove {node : Node} (ring : Ring Adjacent head (before ++ node :: after))
    (kept : ∀ left right, left ≠ node → right ≠ node → left ≠ lastOf head before →
      right ≠ firstOf head after → Adjacent left right → Adjacent' left right)
    (closed : Adjacent' (lastOf head before) (firstOf head after)) :
    Ring Adjacent' head (before ++ after) := by
  have distinct : (head :: (before ++ [] ++ after)).Nodup := by
    have unique := ring.distinct
    simp only [List.nodup_cons, List.nodup_append, List.mem_append, List.mem_cons,
      not_or, List.append_nil] at unique ⊢
    grind
  have whole : Ring Adjacent head (before ++ [node] ++ after) := by
    rw [← List.append_cons]
    exact ring
  have removed := whole.splice (fun left right isLeft isRight => kept left right
    (List.mem_singleton.not.mp isLeft) (List.mem_singleton.not.mp isRight))
    (List.isChain_pair.mpr closed) distinct
  rwa [List.append_nil] at removed

theorem Ring.empty (self : Adjacent head head) : Ring Adjacent head [] where
  links := List.isChain_pair.mpr self
  distinct := List.nodup_singleton head

theorem Ring.reversed (ring : Ring Adjacent head nodes) :
    Ring (fun left right => Adjacent right left) head nodes.reverse where
  links := by
    have links := List.isChain_reverse.mpr ring.links
    simpa using links
  distinct := by
    have unique := ring.distinct
    rw [List.nodup_cons] at unique ⊢
    exact ⟨fun member => unique.1 (List.mem_reverse.mp member), List.nodup_reverse.mpr unique.2⟩

theorem Ring.links_of_split {node : Node} (ring : Ring Adjacent head (before ++ node :: after)) :
    Adjacent (lastOf head before) node ∧ Adjacent node (firstOf head after) := by
  have opened : head :: (before ++ node :: after ++ [head]) = (head :: before).dropLast ++
      lastOf head before :: node :: firstOf head after :: (after ++ [head]).tail := by
    calc head :: (before ++ node :: after ++ [head])
        = (head :: before) ++ node :: (after ++ [head]) := by simp
      _ = ((head :: before).dropLast ++ [lastOf head before]) ++
            node :: firstOf head after :: (after ++ [head]).tail := by
          rw [dropLast_append_lastOf, firstOf_cons_tail]
      _ = _ := by simp
  have links := ring.links
  rw [opened, List.isChain_append_cons_cons, List.isChain_cons_cons] at links
  exact ⟨links.2.1, links.2.2.1⟩

theorem Ring.links_head (ring : Ring Adjacent head nodes) :
    Adjacent head (firstOf head nodes) ∧ Adjacent (lastOf head nodes) head := by
  have links := ring.links
  constructor
  · rw [← firstOf_cons_tail, List.isChain_cons_cons] at links
    exact links.1
  · rw [← List.cons_append, ← dropLast_append_lastOf, List.append_assoc,
      List.singleton_append, List.isChain_append_cons_cons] at links
    exact links.2.1

end Edits

/-! ## Walking -/

section Walk

variable [DecidableEq Node]

/-- The nodes that are met from a node on until the head comes round. -/
def walk (head : Node) (step : Node → Option Node) : Nat → Node → Option (List Node)
  | fuel, node =>
      if node = head then some []
      else match fuel with
        | 0 => none
        | fuel + 1 => (step node).bind fun next => (walk head step fuel next).map (node :: ·)

theorem walk_of_isChain {Adjacent : Node → Node → Prop} {head : Node}
    {step : Node → Option Node} (steps : ∀ left right, Adjacent left right → step left = some right)
    {nodes : List Node} (links : (nodes ++ [head]).IsChain Adjacent) (apart : head ∉ nodes)
    {fuel : Nat} (enough : nodes.length ≤ fuel) :
    walk head step fuel (firstOf head nodes) = some nodes := by
  induction nodes generalizing fuel with
  | nil =>
      rw [firstOf_nil]
      cases fuel <;> rw [walk, if_pos rfl]
  | cons node nodes induction =>
      obtain ⟨other, apart⟩ := not_or.mp (List.mem_cons.not.mp apart)
      cases fuel with
      | zero => exact absurd enough (by simp)
      | succ fuel =>
          rw [List.cons_append, ← firstOf_cons_tail, List.isChain_cons_cons,
            firstOf_cons_tail] at links
          have rest := induction links.2 apart (Nat.le_of_succ_le_succ enough)
          rw [firstOf_cons, walk, if_neg (Ne.symm other)]
          simp [steps _ _ links.1, rest]

theorem Ring.walk_eq {Adjacent : Node → Node → Prop} {head : Node} {nodes : List Node}
    (ring : Ring Adjacent head nodes) {step : Node → Option Node}
    (steps : ∀ left right, Adjacent left right → step left = some right)
    {fuel : Nat} (enough : nodes.length ≤ fuel) :
    (step head).bind (walk head step fuel) = some nodes := by
  have links := ring.links
  rw [← firstOf_cons_tail, List.isChain_cons_cons, firstOf_cons_tail] at links
  rw [steps _ _ links.1, Option.bind_some]
  exact walk_of_isChain steps links.2 (List.nodup_cons.mp ring.distinct).1 enough

end Walk

end StudyDemo.Rings
