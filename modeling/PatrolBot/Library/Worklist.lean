import Mathlib.Algebra.GroupWithZero.Nat
import Mathlib.Algebra.Order.BigOperators.Group.List
import Mathlib.Algebra.Order.Group.Nat
import Mathlib.Data.List.Perm.Basic

/-!
# Worklists over forests

A loop takes a node from a list of pending ones, visits it and puts its children on the
list.  A visit may refuse, which ends the loop.  Where a visit charges a cost against a
budget, the loop refuses exactly when the cost of all nodes is over the budget, in
whatever order the nodes are taken.
-/

namespace PatrolBot.Worklist

variable {Node Count Error : Type}

/-- Nodes with their children; the size of a node is above that of all its children. -/
structure Forest (Node : Type) where
  children : Node → List Node
  size : Node → Nat
  sum_lt : ∀ node, ((children node).map size).sum < size node

namespace Forest

variable (F : Forest Node) (visit : Node → Count → Except Error Count)

theorem size_lt {node child : Node} (h : child ∈ F.children node) : F.size child < F.size node :=
  Nat.lt_of_le_of_lt (List.le_sum_of_mem (List.mem_map_of_mem h)) (F.sum_lt node)

/-- A node and everything below it. -/
def nodes (node : Node) : List Node :=
  node :: (F.children node).attach.flatMap fun child => nodes child.1
termination_by F.size node
decreasing_by exact F.size_lt child.2

theorem nodes_eq (node : Node) : F.nodes node = node :: (F.children node).flatMap F.nodes := by
  rw [nodes, List.flatMap_subtype]
  · rw [List.unattach_attach]
  · intro child hchild
    rfl

/-- Everything still to visit. -/
def pending (stack : List Node) : List Node := stack.flatMap F.nodes

theorem pending_perm {stack rest : List Node} {node : Node} (h : stack.Perm (node :: rest)) :
    (F.pending stack).Perm (node :: F.pending (F.children node ++ rest)) := by
  have hnode : F.pending (node :: rest) = node :: F.pending (F.children node ++ rest) := by
    rw [pending, List.flatMap_cons, nodes_eq, List.cons_append, pending, List.flatMap_append]
  exact hnode ▸ h.flatMap_right F.nodes

theorem size_children_append (node : Node) (rest : List Node) :
    ((F.children node ++ rest).map F.size).sum < ((node :: rest).map F.size).sum := by
  rw [List.map_append, List.sum_append, List.map_cons, List.sum_cons]
  exact Nat.add_lt_add_right (F.sum_lt node) _

/-- The loop that takes the node pushed last. -/
def loop : List Node → Count → Except Error Count
  | [], count => .ok count
  | node :: stack, count =>
    match visit node count with
    | .error reason => .error reason
    | .ok count => loop ((F.children node).reverse ++ stack) count
termination_by stack => (stack.map F.size).sum
decreasing_by
  have h := F.size_children_append node stack
  simp only [List.unattach_reverse, List.unattach_attach, List.map_append, List.map_reverse,
    List.sum_append, List.sum_reverse] at h ⊢
  exact h

/-- A node of the list is visited, whichever it is. -/
def Step (before after : List Node × Count) : Prop :=
  ∃ node rest, before.1.Perm (node :: rest) ∧ visit node before.2 = .ok after.2 ∧
    after.1.Perm (F.children node ++ rest)

/-- The outcomes of the loop when nodes are taken in any order. -/
inductive Walk : List Node × Count → Except Error Count → Prop where
  | done (count : Count) : Walk ([], count) (.ok count)
  | refused {before : List Node × Count} {node : Node} {rest : List Node} {reason : Error}
      (hperm : before.1.Perm (node :: rest)) (hvisit : visit node before.2 = .error reason) :
      Walk before (.error reason)
  | next {before after : List Node × Count} {outcome : Except Error Count}
      (hstep : F.Step visit before after) (hwalk : Walk after outcome) : Walk before outcome

/-- No order goes on forever. -/
theorem wellFounded_step : WellFounded fun after before => F.Step visit before after := by
  apply Subrelation.wf (r := InvImage (· < ·) fun s : List Node × Count => (s.1.map F.size).sum)
  · rintro after before ⟨node, rest, hbefore, -, hafter⟩
    have hlt := F.size_children_append node rest
    rw [← (hafter.map F.size).sum_eq, ← (hbefore.map F.size).sum_eq] at hlt
    exact hlt
  · exact InvImage.wf _ Nat.lt_wfRel.wf

theorem walk_loop (stack : List Node) (count : Count) :
    F.Walk visit (stack, count) (F.loop visit stack count) := by
  induction stack, count using Forest.loop.induct F visit with
  | case1 count =>
    rw [loop]
    exact .done count
  | case2 node stack count reason hvisit =>
    rw [loop, hvisit]
    exact .refused (List.Perm.refl _) hvisit
  | case3 node stack count count' hvisit ih =>
    simp only [List.unattach_reverse, List.unattach_attach] at ih
    rw [loop, hvisit]
    have hstep : F.Step visit (node :: stack, count)
        ((F.children node).reverse ++ stack, count') :=
      ⟨node, stack, List.Perm.refl _, hvisit, (List.reverse_perm _).append_right stack⟩
    exact .next hstep ih

/-! ### Budgets -/

section Budget

variable {M : Type} [AddCommMonoid M]

/-- While the budget allows what is spent, a visit goes on exactly when it allows that
    with the cost of the node; what is allowed with more is allowed with less. -/
structure Charges (allowed : M → Prop) (cost : Node → M) (spent : Count → M) : Prop where
  lower : ∀ a b, allowed (a + b) → allowed a
  visited : ∀ node count, allowed (spent count + cost node) →
    ∃ count', visit node count = .ok count' ∧ spent count' = spent count + cost node
  refused : ∀ node count, allowed (spent count) → ¬ allowed (spent count + cost node) →
    ∃ reason, visit node count = .error reason

variable {F visit} {allowed : M → Prop} {cost : Node → M} {spent : Count → M}

theorem Charges.of_ok (h : Charges visit allowed cost spent) {node : Node}
    {count count' : Count} (hcount : allowed (spent count))
    (hvisit : visit node count = .ok count') :
    allowed (spent count') ∧ spent count' = spent count + cost node := by
  by_cases hallowed : allowed (spent count + cost node)
  · obtain ⟨count'', hok, hspent⟩ := h.visited node count hallowed
    rw [hvisit] at hok
    obtain rfl := Except.ok.inj hok
    exact ⟨hspent ▸ hallowed, hspent⟩
  · obtain ⟨reason, hrefused⟩ := h.refused node count hcount hallowed
    rw [hvisit] at hrefused
    cases hrefused

theorem Charges.of_error (h : Charges visit allowed cost spent) {node : Node} {count : Count}
    {reason : Error} (hvisit : visit node count = .error reason) :
    ¬ allowed (spent count + cost node) := by
  intro hallowed
  obtain ⟨count', hok, -⟩ := h.visited node count hallowed
  rw [hvisit] at hok
  cases hok

/-- In any order, the loop refuses exactly when what is spent with the cost of everything
    pending is not allowed. -/
theorem Charges.walk_refused_iff (h : Charges visit allowed cost spent)
    {before : List Node × Count} {outcome : Except Error Count}
    (hwalk : F.Walk visit before outcome) (hbefore : allowed (spent before.2)) :
    (∃ reason, outcome = .error reason) ↔
      ¬ allowed (spent before.2 + ((F.pending before.1).map cost).sum) := by
  induction hwalk with
  | done count =>
    have hallowed : allowed (spent count + 0) := by
      rw [add_zero]
      exact hbefore
    constructor
    · rintro ⟨reason, hreason⟩
      cases hreason
    · intro hnot
      exact absurd hallowed hnot
  | @refused before node rest reason hperm hvisit =>
    have hpending := (F.pending_perm hperm).map cost
    refine iff_of_true ⟨reason, rfl⟩ ?_
    intro hallowed
    rw [hpending.sum_eq, List.map_cons, List.sum_cons, ← add_assoc] at hallowed
    exact h.of_error hvisit (h.lower _ _ hallowed)
  | @next before after outcome hstep hwalk ih =>
    obtain ⟨node, rest, hperm, hvisit, hafter⟩ := hstep
    obtain ⟨hallowed, hspent⟩ := h.of_ok hbefore hvisit
    have hrest : ((F.pending after.1).map cost).Perm
        ((F.pending (F.children node ++ rest)).map cost) :=
      (hafter.flatMap_right F.nodes).map cost
    have hpending := (F.pending_perm hperm).map cost
    rw [ih hallowed, hpending.sum_eq, List.map_cons, List.sum_cons, ← add_assoc, hspent,
      hrest.sum_eq]

end Budget

end Forest

end PatrolBot.Worklist
