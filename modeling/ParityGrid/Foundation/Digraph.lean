import Mathlib

/-!
# Cycles of a directed graph

A graph is a list of nodes and a list of edges, source first.  Nodes without
incoming edges are taken off a stack one by one; taking a node removes its
outgoing edges, and a successor that has lost its last incoming edge is pushed.
The nodes that are taken are exactly the nodes from which every backward path
ends, so all nodes are taken if and only if the graph has no cycle.
-/

namespace ParityGrid.Foundation

section Digraph

variable {α : Type} [DecidableEq α]

/-- The targets of one node, in the order of the edges. -/
def successorsOf (edges : List (α × α)) (node : α) : List α :=
  (edges.filter fun edge => edge.1 = node).map Prod.snd

/-- How many edges enter each node. -/
def inDegree (edges : List (α × α)) (node : α) : Nat :=
  edges.countP fun edge => edge.2 = node

/-- The stack, top first, and the edges that still enter each node. -/
structure Peeling (α : Type) where
  degree : α → Nat
  ready : List α

/-- One successor loses one incoming edge; it is ready when that was the last. -/
def relax (state : Peeling α) (successor : α) : Peeling α :=
  let remaining := state.degree successor - 1
  { degree := Function.update state.degree successor remaining
    ready := if remaining = 0 then successor :: state.ready else state.ready }

/-- The nodes taken, in order, when at most `fuel` nodes are taken. -/
def peel (edges : List (α × α)) : Nat → Peeling α → List α
  | 0, _ => []
  | fuel + 1, state =>
      match state.ready with
      | [] => []
      | node :: ready =>
          node :: peel edges fuel
            ((successorsOf edges node).foldl relax { state with ready })

/-- The stack before the first node is taken. -/
def peeling (nodes : List α) (edges : List (α × α)) : Peeling α where
  degree := inDegree edges
  ready := (nodes.filter fun node => inDegree edges node = 0).reverse

/-- Whether some node is never taken. -/
def containsCycle (nodes : List α) (edges : List (α × α)) : Bool :=
  (peel edges nodes.length (peeling nodes edges)).length ≠ nodes.length

/-- Every edge joins two nodes. -/
def Spans (nodes : List α) (edges : List (α × α)) : Prop :=
  ∀ edge ∈ edges, edge.1 ∈ nodes ∧ edge.2 ∈ nodes

/-- Every backward path ends. -/
def Acyclic (edges : List (α × α)) : Prop :=
  WellFounded fun source target => (source, target) ∈ edges

/-! ## Taking one node -/

theorem count_successorsOf (edges : List (α × α)) (node target : α) :
    (successorsOf edges node).count target =
      edges.countP fun edge => edge.1 = node ∧ edge.2 = target := by
  rw [successorsOf, List.count, List.countP_map, List.countP_filter]
  apply List.countP_congr
  intro edge _
  simp [and_comm]

theorem mem_successorsOf {edges : List (α × α)} {node target : α} :
    target ∈ successorsOf edges node ↔ (node, target) ∈ edges := by
  simp [successorsOf]

/-- Losing several edges at once: degrees drop, and the new nodes on the stack
are those that lost their last edge. -/
theorem foldl_relax (targets : List α) (state : Peeling α)
    (enough : ∀ node, targets.count node ≤ state.degree node) :
    (∀ node, (targets.foldl relax state).degree node =
      state.degree node - targets.count node) ∧
      ∃ fresh : List α, (targets.foldl relax state).ready =
          fresh ++ state.ready ∧ fresh.Nodup ∧
        ∀ node, node ∈ fresh ↔
          node ∈ targets ∧ state.degree node = targets.count node := by
  induction targets generalizing state with
  | nil => exact ⟨fun node => by simp, [], by simp⟩
  | cons target rest ih =>
      have positive : 1 ≤ state.degree target := by
        have bound := enough target
        rw [List.count_cons_self] at bound
        omega
      have degrees : ∀ node, (relax state target).degree node =
          if node = target then state.degree target - 1
          else state.degree node := by
        intro node
        by_cases same : node = target
        · subst same
          simp [relax]
        · simp [relax, same]
      have enoughRest : ∀ node,
          rest.count node ≤ (relax state target).degree node := by
        intro node
        have bound := enough node
        rw [degrees]
        by_cases same : node = target
        · subst same
          rw [List.count_cons_self] at bound
          simp only [if_true]
          omega
        · rw [List.count_cons_of_ne (Ne.symm same)] at bound
          simpa [same] using bound
      obtain ⟨lowered, fresh, stack, nodup, members⟩ := ih _ enoughRest
      rw [List.foldl_cons]
      constructor
      · intro node
        rw [lowered, degrees]
        by_cases same : node = target
        · subst same
          rw [List.count_cons_self]
          simp only [if_true]
          omega
        · rw [List.count_cons_of_ne (Ne.symm same)]
          simp [same]
      · have bound := enoughRest target
        rw [degrees, if_pos rfl] at bound
        by_cases last : state.degree target - 1 = 0
        · have absent : target ∉ rest := by
            rw [← List.count_eq_zero]
            omega
          have apart : target ∉ fresh := fun inFresh =>
            absent ((members target).mp inFresh).1
          refine ⟨fresh ++ [target], ?_, ?_, ?_⟩
          · rw [stack]
            simp [relax, last]
          · rw [List.nodup_append]
            refine ⟨nodup, List.nodup_singleton _, ?_⟩
            intro node inFresh other inSingle same
            rw [List.mem_singleton] at inSingle
            exact apart (inSingle ▸ same ▸ inFresh)
          · intro node
            by_cases same : node = target
            · subst same
              rw [List.count_cons_self, List.count_eq_zero.mpr absent]
              simp only [List.mem_append, List.mem_cons, true_or, or_true,
                true_and, true_iff]
              omega
            · rw [List.count_cons_of_ne (Ne.symm same)]
              simp [same, members, degrees]
        · refine ⟨fresh, ?_, nodup, ?_⟩
          · rw [stack]
            simp [relax, last]
          · intro node
            rw [members, degrees]
            by_cases same : node = target
            · subst same
              rw [List.count_cons_self]
              simp only [if_true, List.mem_cons, true_or, true_and]
              constructor
              · rintro ⟨_, equal⟩
                omega
              · intro equal
                have present : 0 < rest.count node := by omega
                exact ⟨List.count_pos_iff.mp present, by omega⟩
            · rw [List.count_cons_of_ne (Ne.symm same)]
              simp [same]

/-! ## What the loop keeps -/

/--
What holds between two turns: the nodes taken and the nodes on the stack are
those without an incoming edge from a node not yet taken, and every backward
path from a taken node ends.
-/
structure Peeled (nodes : List α) (edges : List (α × α)) (taken : List α)
    (state : Peeling α) : Prop where
  distinct : (taken ++ state.ready).Nodup
  within : ∀ node ∈ taken ++ state.ready, node ∈ nodes
  degree : ∀ node, state.degree node =
    edges.countP fun edge => edge.2 = node ∧ edge.1 ∉ taken
  free : ∀ node ∈ nodes,
    state.degree node = 0 ↔ node ∈ taken ++ state.ready
  grounded : ∀ node ∈ taken,
    Acc (fun source target => (source, target) ∈ edges) node

theorem peeled_initial {nodes : List α} (edges : List (α × α))
    (distinct : nodes.Nodup) :
    Peeled nodes edges [] (peeling nodes edges) where
  distinct := by
    simpa [peeling] using List.nodup_reverse.mpr (distinct.filter _)
  within := by
    intro node member
    simp only [peeling, List.nil_append, List.mem_reverse, List.mem_filter]
      at member
    exact member.1
  degree node := by
    simp [peeling, inDegree]
  free := by
    intro node member
    simp [peeling, member]
  grounded := by simp

/-- All predecessors of a node without remaining edges have been taken. -/
theorem Peeled.predecessor_taken {nodes : List α} {edges : List (α × α)}
    {taken : List α} {state : Peeling α}
    (kept : Peeled nodes edges taken state) {source node : α}
    (known : node ∈ nodes) (free : node ∈ taken ++ state.ready)
    (edge : (source, node) ∈ edges) : source ∈ taken := by
  have zero := (kept.free node known).mpr free
  rw [kept.degree, List.countP_eq_zero] at zero
  by_contra absent
  exact zero (source, node) edge (by simp [absent])

theorem Peeled.take {nodes : List α} {edges : List (α × α)} {taken : List α}
    {state : Peeling α} {node : α} {ready : List α}
    (kept : Peeled nodes edges taken state)
    (spans : Spans nodes edges) (top : state.ready = node :: ready) :
    Peeled nodes edges (taken ++ [node])
      ((successorsOf edges node).foldl relax { state with ready }) := by
  have onStack : node ∈ taken ++ state.ready := by simp [top]
  have known : node ∈ nodes := kept.within node onStack
  have notTaken : node ∉ taken := by
    intro inTaken
    have distinct := kept.distinct
    rw [top, List.nodup_append] at distinct
    exact distinct.2.2 node inTaken node (List.mem_cons_self ..) rfl
  have enough : ∀ target, (successorsOf edges node).count target ≤
      state.degree target := by
    intro target
    rw [count_successorsOf, kept.degree]
    apply List.countP_mono_left
    intro edge _ both
    simp only [decide_eq_true_eq] at both ⊢
    exact ⟨both.2, both.1 ▸ notTaken⟩
  obtain ⟨lowered, fresh, stack, freshNodup, freshMembers⟩ :=
    foldl_relax (successorsOf edges node) { state with ready } enough
  -- The edges that entered a node split by whether they leave the taken node.
  have split : ∀ target, state.degree target =
      (edges.countP fun edge =>
        edge.2 = target ∧ edge.1 ∉ taken ++ [node]) +
        (successorsOf edges node).count target := by
    intro target
    rw [kept.degree, count_successorsOf,
      List.countP_eq_countP_filter_add edges _
        (fun edge => decide (edge.1 = node)), Nat.add_comm]
    rw [List.countP_filter, List.countP_filter]
    congr 1
    · apply List.countP_congr
      intro edge _
      simp only [List.mem_append, List.mem_singleton, Bool.and_eq_true,
        decide_eq_true_eq, Bool.not_eq_true', decide_eq_false_iff_not,
        not_or]
      tauto
    · apply List.countP_congr
      intro edge _
      simp only [Bool.and_eq_true, decide_eq_true_eq]
      constructor
      · rintro ⟨⟨into, _⟩, out⟩
        exact ⟨out, into⟩
      · rintro ⟨out, into⟩
        exact ⟨⟨into, out ▸ notTaken⟩, out⟩
  have members : ∀ other, other ∈ fresh ↔
      (node, other) ∈ edges ∧
        state.degree other = (successorsOf edges node).count other := by
    intro other
    rw [freshMembers, mem_successorsOf]
  have freshOut : ∀ other ∈ fresh, other ∉ taken ++ state.ready := by
    intro other inFresh free
    have edge := ((members other).mp inFresh).1
    exact notTaken (kept.predecessor_taken (spans _ edge).2 free edge)
  have grounded : Acc (fun source target => (source, target) ∈ edges)
      node := by
    constructor
    intro source edge
    exact kept.grounded source (kept.predecessor_taken known onStack edge)
  refine ⟨?_, ?_, ?_, ?_, ?_⟩
  · rw [stack]
    have perm : (taken ++ [node] ++ (fresh ++ ready)).Perm
        (fresh ++ (taken ++ state.ready)) := by
      rw [top]
      simp only [List.append_assoc, List.singleton_append]
      refine List.Perm.trans ?_ (List.perm_append_comm_assoc fresh taken _).symm
      apply List.Perm.append_left
      exact List.perm_middle.symm
    rw [perm.nodup_iff, List.nodup_append]
    exact ⟨freshNodup, kept.distinct, fun other inFresh same inOld equal =>
      freshOut other inFresh (equal ▸ inOld)⟩
  · intro other member
    rw [stack] at member
    simp only [List.mem_append, List.mem_singleton] at member
    rcases member with (inTaken | rfl) | inFresh | inReady
    · exact kept.within other (by simp [inTaken])
    · exact known
    · exact (spans _ ((members other).mp inFresh).1).2
    · exact kept.within other (by simp [top, inReady])
  · intro other
    have parts := split other
    rw [lowered]
    change state.degree other - _ = _
    omega
  · intro other otherKnown
    have before := kept.free other otherKnown
    have parts := split other
    rw [lowered, stack]
    change state.degree other - _ = 0 ↔ _
    simp only [List.mem_append, List.mem_singleton, members]
    constructor
    · intro zero
      by_cases edge : (node, other) ∈ edges
      · exact .inr (.inl ⟨edge, by have := enough other; omega⟩)
      · have none : (successorsOf edges node).count other = 0 :=
          List.count_eq_zero.mpr (fun member =>
            edge (mem_successorsOf.mp member))
        have free := before.mp (by omega)
        rw [top] at free
        simp only [List.mem_append, List.mem_cons] at free
        tauto
    · rintro ((inTaken | rfl) | ⟨_, all⟩ | inReady)
      · have := before.mpr (by simp [inTaken])
        omega
      · have := before.mpr onStack
        omega
      · omega
      · have := before.mpr (by simp [top, inReady])
        omega
  · intro other member
    rcases List.mem_append.mp member with inTaken | single
    · exact kept.grounded other inTaken
    · rw [List.mem_singleton.mp single]
      exact grounded

/-- With enough fuel the loop ends on an empty stack. -/
theorem Peeled.run {nodes : List α} {edges : List (α × α)} {taken : List α}
    {state : Peeling α} (kept : Peeled nodes edges taken state)
    (spans : Spans nodes edges) {fuel : Nat}
    (enough : nodes.length ≤ taken.length + fuel) :
    ∃ last : Peeling α, last.ready = [] ∧
      Peeled nodes edges (taken ++ peel edges fuel state) last := by
  induction fuel generalizing taken state with
  | zero =>
      refine ⟨state, ?_, by simpa [peel] using kept⟩
      have bound := (List.subperm_of_subset kept.distinct kept.within).length_le
      rw [List.length_append] at bound
      exact List.eq_nil_of_length_eq_zero (by omega)
  | succ fuel ih =>
      cases top : state.ready with
      | nil => exact ⟨state, top, by simpa [peel, top] using kept⟩
      | cons node ready =>
          have next := kept.take spans top
          obtain ⟨last, done, reached⟩ := ih next (by
            simp only [List.length_append, List.length_singleton]
            omega)
          refine ⟨last, done, ?_⟩
          simpa [peel, top] using reached

/-- When no node is left on the stack, the nodes taken are those from which every
backward path ends. -/
theorem Peeled.mem_iff {nodes : List α} {edges : List (α × α)}
    {taken : List α} {state : Peeling α}
    (kept : Peeled nodes edges taken state) (spans : Spans nodes edges)
    (done : state.ready = []) {node : α} :
    node ∈ taken ↔ node ∈ nodes ∧
      Acc (fun source target => (source, target) ∈ edges) node := by
  constructor
  · intro member
    exact ⟨kept.within node (by simp [member]), kept.grounded node member⟩
  · rintro ⟨known, grounded⟩
    induction grounded with
    | intro node _ ih =>
        have free : state.degree node = 0 := by
          rw [kept.degree, List.countP_eq_zero]
          rintro ⟨source, target⟩ edge both
          simp only [decide_eq_true_eq] at both
          obtain ⟨rfl, absent⟩ := both
          exact absent (ih source edge (spans _ edge).1)
        have member := (kept.free node known).mp free
        simpa [done] using member

/-- When no node is left on the stack, all nodes have been taken exactly when
there is no cycle. -/
theorem Peeled.length_eq {nodes : List α} {edges : List (α × α)}
    {taken : List α} {state : Peeling α}
    (kept : Peeled nodes edges taken state) (distinct : nodes.Nodup)
    (spans : Spans nodes edges) (done : state.ready = []) :
    taken.length = nodes.length ↔ Acyclic edges := by
  have takenNodup : taken.Nodup := (List.nodup_append.mp kept.distinct).1
  have takenSubset : taken ⊆ nodes :=
    fun node member => kept.within node (by simp [member])
  constructor
  · intro all
    constructor
    intro node
    by_cases known : node ∈ nodes
    · have perm := (List.subperm_of_subset takenNodup takenSubset).perm_of_length_le
        (Nat.le_of_eq all.symm)
      exact ((kept.mem_iff spans done).mp (perm.mem_iff.mpr known)).2
    · constructor
      intro source edge
      exact absurd (spans _ edge).2 known
  · intro acyclic
    apply Nat.le_antisymm
    · exact (List.subperm_of_subset takenNodup takenSubset).length_le
    · apply (List.subperm_of_subset distinct ?_).length_le
      intro node known
      exact (kept.mem_iff spans done).mpr ⟨known, acyclic.apply node⟩

/-- The loop finds a cycle exactly when some backward path does not end. -/
theorem containsCycle_eq_false {nodes : List α} {edges : List (α × α)}
    (distinct : nodes.Nodup) (spans : Spans nodes edges) :
    containsCycle nodes edges = false ↔ Acyclic edges := by
  have enough : nodes.length ≤ ([] : List α).length + nodes.length := by simp
  obtain ⟨last, done, reached⟩ :=
    (peeled_initial edges distinct).run spans enough
  rw [List.nil_append] at reached
  rw [← reached.length_eq distinct spans done]
  simp [containsCycle]

end Digraph

end ParityGrid.Foundation
