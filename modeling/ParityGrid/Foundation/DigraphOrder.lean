import ParityGrid.Foundation.Digraph
import ParityGrid.Foundation.Sorting

/-!
# Topological orders

The nodes without remaining incoming edges wait, and a rule of arrangement says
which of them is taken next: the top of a stack, the least of a heap.  Whatever
the rule, each node is taken once and after all its predecessors, and all nodes
are taken if and only if the graph has no cycle.  When the least is taken, the
order is the lexicographically least of all topological orders.
-/

namespace ParityGrid.Foundation

section DigraphOrder

variable {α : Type} [DecidableEq α]

/-- The nodes taken, in order, when the first of the arranged waiting nodes is
taken in each of at most `fuel` turns. -/
def peelBy (arrange : List α → List α) (edges : List (α × α)) :
    Nat → Peeling α → List α
  | 0, _ => []
  | fuel + 1, state =>
      match arrange state.ready with
      | [] => []
      | node :: ready =>
          node :: peelBy arrange edges fuel
            ((successorsOf edges node).foldl relax { state with ready })

/-- The nodes in the order in which they are taken. -/
def orderBy (arrange : List α → List α) (nodes : List α)
    (edges : List (α × α)) : List α :=
  peelBy arrange edges nodes.length (peeling nodes edges)

/-- What holds between two turns does not depend on the order of the waiting
nodes. -/
theorem Peeled.rearrange {nodes : List α} {edges : List (α × α)}
    {taken : List α} {state : Peeling α}
    (kept : Peeled nodes edges taken state) {ready : List α}
    (perm : ready.Perm state.ready) :
    Peeled nodes edges taken { state with ready } where
  distinct :=
    (List.Perm.append_left taken perm).nodup_iff.mpr kept.distinct
  within node member :=
    kept.within node
      ((List.Perm.append_left taken perm).mem_iff.mp member)
  degree := kept.degree
  free node known :=
    (kept.free node known).trans
      (List.Perm.append_left taken perm).mem_iff.symm
  grounded := kept.grounded

variable {arrange : List α → List α} {nodes : List α} {edges : List (α × α)}

theorem Peeled.takeBy {taken : List α} {state : Peeling α} {node : α}
    {ready : List α} (kept : Peeled nodes edges taken state)
    (arranged : ∀ waiting, (arrange waiting).Perm waiting)
    (spans : Spans nodes edges) (top : arrange state.ready = node :: ready) :
    Peeled nodes edges (taken ++ [node])
      ((successorsOf edges node).foldl relax { state with ready }) := by
  have perm := arranged state.ready
  rw [top] at perm
  exact (kept.rearrange perm).take spans rfl

/-- With enough fuel the loop ends when no node waits. -/
theorem Peeled.runBy {taken : List α} {state : Peeling α}
    (kept : Peeled nodes edges taken state)
    (arranged : ∀ waiting, (arrange waiting).Perm waiting)
    (spans : Spans nodes edges) {fuel : Nat}
    (enough : nodes.length ≤ taken.length + fuel) :
    ∃ last : Peeling α, last.ready = [] ∧
      Peeled nodes edges (taken ++ peelBy arrange edges fuel state) last := by
  induction fuel generalizing taken state with
  | zero =>
      refine ⟨state, ?_, by simpa [peelBy] using kept⟩
      have bound := (List.subperm_of_subset kept.distinct kept.within).length_le
      rw [List.length_append] at bound
      exact List.eq_nil_of_length_eq_zero (by omega)
  | succ fuel ih =>
      cases top : arrange state.ready with
      | nil =>
          have perm := arranged state.ready
          rw [top] at perm
          exact ⟨state, List.nil_perm.mp perm,
            by simpa [peelBy, top] using kept⟩
      | cons node ready =>
          have next := kept.takeBy arranged spans top
          obtain ⟨last, done, reached⟩ := ih next (by
            simp only [List.length_append, List.length_singleton]
            omega)
          refine ⟨last, done, ?_⟩
          simpa [peelBy, top] using reached

/-- Every predecessor of a taken node was taken before it. -/
theorem Peeled.predecessor_before {taken : List α} {state : Peeling α}
    (kept : Peeled nodes edges taken state)
    (arranged : ∀ waiting, (arrange waiting).Perm waiting)
    (spans : Spans nodes edges) {fuel : Nat} {before after : List α}
    {source node : α}
    (order : peelBy arrange edges fuel state = before ++ node :: after)
    (edge : (source, node) ∈ edges) : source ∈ taken ++ before := by
  induction fuel generalizing taken state before with
  | zero => simp [peelBy] at order
  | succ fuel ih =>
      cases top : arrange state.ready with
      | nil => simp [peelBy, top] at order
      | cons first ready =>
          have next := kept.takeBy arranged spans top
          simp only [peelBy, top] at order
          cases before with
          | nil =>
              rw [List.nil_append, List.cons.injEq] at order
              obtain ⟨rfl, _⟩ := order
              have waits : first ∈ state.ready := by
                rw [← (arranged state.ready).mem_iff, top]
                exact List.mem_cons_self ..
              rw [List.append_nil]
              exact kept.predecessor_taken (spans _ edge).2
                (List.mem_append_right taken waits) edge
          | cons head before =>
              rw [List.cons_append, List.cons.injEq] at order
              obtain ⟨rfl, order⟩ := order
              simpa using ih next order

section Order

variable (arranged : ∀ waiting, (arrange waiting).Perm waiting)
  (distinct : nodes.Nodup) (spans : Spans nodes edges)

include arranged distinct spans

theorem orderBy_peeled :
    ∃ last : Peeling α, last.ready = [] ∧
      Peeled nodes edges (orderBy arrange nodes edges) last := by
  have enough : nodes.length ≤ ([] : List α).length + nodes.length := by simp
  obtain ⟨last, done, reached⟩ :=
    (peeled_initial edges distinct).runBy arranged spans enough
  exact ⟨last, done, by simpa [orderBy] using reached⟩

theorem orderBy_nodup : (orderBy arrange nodes edges).Nodup := by
  obtain ⟨last, _, reached⟩ := orderBy_peeled arranged distinct spans
  exact (List.nodup_append.mp reached.distinct).1

theorem orderBy_subset : orderBy arrange nodes edges ⊆ nodes := by
  obtain ⟨last, _, reached⟩ := orderBy_peeled arranged distinct spans
  exact fun node member => reached.within node (by simp [member])

/-- All nodes are taken exactly when there is no cycle. -/
theorem orderBy_length :
    (orderBy arrange nodes edges).length = nodes.length ↔ Acyclic edges := by
  obtain ⟨last, done, reached⟩ := orderBy_peeled arranged distinct spans
  exact reached.length_eq distinct spans done

theorem orderBy_perm (acyclic : Acyclic edges) :
    (orderBy arrange nodes edges).Perm nodes :=
  (List.subperm_of_subset (orderBy_nodup arranged distinct spans)
    (orderBy_subset arranged distinct spans)).perm_of_length_le
      ((orderBy_length arranged distinct spans).mpr acyclic).ge

theorem orderBy_predecessor {before after : List α} {source node : α}
    (order : orderBy arrange nodes edges = before ++ node :: after)
    (edge : (source, node) ∈ edges) : source ∈ before := by
  simpa using (peeled_initial edges distinct).predecessor_before arranged
    spans order edge

end Order

/-! ## Cycles -/

omit [DecidableEq α]

/-- Some edges lead from a node back to it. -/
def HasCycle (edges : List (α × α)) : Prop :=
  ∃ node, Relation.TransGen
    (fun source target => (source, target) ∈ edges) node node

/-- In a finite graph every backward path ends when no path closes. -/
theorem acyclic_iff_not_hasCycle (spans : Spans nodes edges) :
    Acyclic edges ↔ ¬ HasCycle edges := by
  constructor
  · rintro acyclic ⟨node, closed⟩
    exact acyclic.transGen.irrefl.irrefl node closed
  · intro unclosed
    have strict : IsStrictOrder α (Relation.TransGen
        fun source target => (source, target) ∈ edges) :=
      { irrefl := fun node closed => unclosed ⟨node, closed⟩
        trans := fun _ _ _ => Relation.TransGen.trans }
    have finite := Set.wellFoundedOn_iff.mp
      ((List.finite_toSet nodes).wellFoundedOn
        (r := Relation.TransGen
          fun source target => (source, target) ∈ edges))
    exact Subrelation.wf (fun edge =>
      ⟨.single edge, (spans _ edge).1, (spans _ edge).2⟩) finite

/-- A height that every edge raises excludes cycles. -/
theorem Acyclic.of_height (height : α → Nat)
    (rises : ∀ edge ∈ edges, height edge.1 < height edge.2) :
    Acyclic edges :=
  Subrelation.wf (fun edge => rises _ edge) (measure height).wf

end DigraphOrder

/-! ## The least order -/

section Least

variable {α κ : Type} [DecidableEq α] [LinearOrder κ] {key : α → κ}
  {nodes : List α} {edges : List (α × α)}

omit [DecidableEq α] in
theorem nil_le_map (values : List α) : ([] : List κ) ≤ values.map key := by
  cases values with
  | nil => exact le_refl _
  | cons value rest => exact le_of_lt (List.nil_lt_cons ..)

/-- Sequences are compared at their first difference. -/
theorem cons_le_cons_of {one other : κ} {left right : List κ}
    (le : one < other ∨ one = other ∧ left ≤ right) :
    one :: left ≤ other :: right := by
  rcases le with less | ⟨same, rest⟩
  · exact le_of_lt (List.cons_lt_cons_iff.mpr (.inl less))
  · subst same
    rcases rest.lt_or_eq with less | equal
    · exact le_of_lt (List.cons_lt_cons_iff.mpr (.inr ⟨rfl, less⟩))
    · rw [equal]

/-- Every node occurs once and every edge goes forward. -/
structure IsTopological (nodes : List α) (edges : List (α × α))
    (order : List α) : Prop where
  perm : order.Perm nodes
  forward : ∀ edge ∈ edges, order.idxOf edge.1 < order.idxOf edge.2

/-- What stands before an entry that occurs once. -/
theorem idxOf_lt_idxOf_iff {before after : List α} {one node : α}
    (distinct : (before ++ node :: after).Nodup) :
    (before ++ node :: after).idxOf one <
        (before ++ node :: after).idxOf node ↔ one ∈ before := by
  have apart : node ∉ before := by
    intro member
    exact (List.nodup_append.mp distinct).2.2 node member node
      (List.mem_cons_self ..) rfl
  rw [List.idxOf_append_of_notMem apart, List.idxOf_cons_self, Nat.add_zero]
  constructor
  · intro earlier
    by_contra absent
    rw [List.idxOf_append_of_notMem absent] at earlier
    omega
  · intro member
    rw [List.idxOf_append_of_mem member]
    exact List.idxOf_lt_length_of_mem member

theorem IsTopological.predecessor (distinct : nodes.Nodup)
    {before after : List α} {source node : α}
    (order : IsTopological nodes edges (before ++ node :: after))
    (edge : (source, node) ∈ edges) : source ∈ before :=
  (idxOf_lt_idxOf_iff (order.perm.nodup_iff.mpr distinct)).mp
    (order.forward _ edge)

theorem orderBy_isTopological {arrange : List α → List α}
    (arranged : ∀ waiting, (arrange waiting).Perm waiting)
    (distinct : nodes.Nodup) (spans : Spans nodes edges)
    (acyclic : Acyclic edges) :
    IsTopological nodes edges (orderBy arrange nodes edges) where
  perm := orderBy_perm arranged distinct spans acyclic
  forward := by
    rintro ⟨source, node⟩ edge
    have perm := orderBy_perm arranged distinct spans acyclic
    obtain ⟨before, after, split⟩ :=
      List.append_of_mem (perm.mem_iff.mpr (spans _ edge).2)
    have unique := orderBy_nodup arranged distinct spans
    have earlier := orderBy_predecessor arranged distinct spans split edge
    rw [split] at unique ⊢
    exact (idxOf_lt_idxOf_iff unique).mpr earlier

/-- The least waiting node comes no later than the next node of any other
topological order: that node waits as well. -/
theorem Peeled.peelBy_le
    (injective : ∀ one ∈ nodes, ∀ other ∈ nodes,
      key one = key other → one = other)
    (distinct : nodes.Nodup) (spans : Spans nodes edges)
    {taken : List α} {state : Peeling α}
    (kept : Peeled nodes edges taken state) {fuel : Nat} {rest : List α}
    (other : IsTopological nodes edges (taken ++ rest)) :
    (peelBy (sortedBy key) edges fuel state).map key ≤ rest.map key := by
  induction fuel generalizing taken state rest with
  | zero => exact nil_le_map rest
  | succ fuel ih =>
      cases top : sortedBy key state.ready with
      | nil =>
          simp only [peelBy, top]
          exact nil_le_map rest
      | cons node ready =>
          simp only [peelBy, top]
          have waits : node ∈ state.ready := by
            have first : node ∈ sortedBy key state.ready := by
              rw [top]
              exact List.mem_cons_self ..
            exact mem_sortedBy.mp first
          have fresh : node ∉ taken := fun member =>
            (List.nodup_append.mp kept.distinct).2.2 node member node
              waits rfl
          have known : node ∈ nodes :=
            kept.within node (List.mem_append_right taken waits)
          cases rest with
          | nil =>
              rw [List.append_nil] at other
              exact absurd (other.perm.mem_iff.mpr known) fresh
          | cons first rest =>
              have firstKnown : first ∈ nodes :=
                other.perm.mem_iff.mp (by simp)
              have firstFresh : first ∉ taken := fun member =>
                (List.nodup_append.mp
                  (other.perm.nodup_iff.mpr distinct)).2.2 first member
                    first (List.mem_cons_self ..) rfl
              have firstFree : first ∈ taken ++ state.ready := by
                rw [← kept.free first firstKnown, kept.degree,
                  List.countP_eq_zero]
                rintro ⟨source, target⟩ edge both
                simp only [decide_eq_true_eq] at both
                obtain ⟨rfl, absent⟩ := both
                exact absent (other.predecessor distinct edge)
              have firstWaits : first ∈ node :: ready := by
                rw [← top, mem_sortedBy]
                exact (List.mem_append.mp firstFree).resolve_left firstFresh
              have least : key node ≤ key first := by
                rcases List.mem_cons.mp firstWaits with rfl | later
                · exact le_refl _
                · have ordered := sortedBy_pairwise key state.ready
                  rw [top] at ordered
                  exact (List.pairwise_cons.mp ordered).1 first later
              rw [List.map_cons, List.map_cons]
              apply cons_le_cons_of
              rcases least.lt_or_eq with less | same
              · exact .inl less
              · refine .inr ⟨same, ?_⟩
                have equal := injective node known first firstKnown same
                subst equal
                refine ih (kept.takeBy (sortedBy_perm key) spans top) ?_
                rwa [List.append_assoc, List.singleton_append]

theorem orderBy_le
    (injective : ∀ one ∈ nodes, ∀ other ∈ nodes,
      key one = key other → one = other)
    (distinct : nodes.Nodup) (spans : Spans nodes edges) {order : List α}
    (other : IsTopological nodes edges order) :
    (orderBy (sortedBy key) nodes edges).map key ≤ order.map key :=
  (peeled_initial edges distinct).peelBy_le injective distinct spans
    (by simpa using other)

end Least

end ParityGrid.Foundation
