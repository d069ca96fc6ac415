import Mathlib

/-!
# Exploring a graph, and rooted trees

A graph is explored from a stack of nodes: a node that is new is marked and its
neighbours go on the stack.  The marked nodes are those a path leads to.  A
connected graph in which no node has two incoming edges and one node has none
is a rooted tree: every node is reached from the root by exactly one path.
-/

namespace ParityGrid.Foundation

section Explore

variable {α : Type} [DecidableEq α]

/-- The marked nodes after at most `fuel` turns; `arrange` orders the new
neighbours. -/
def explore (arrange : List α → List α) (adjacent : α → List α) :
    Nat → List α → List α → List α
  | 0, visited, _ => visited
  | _ + 1, visited, [] => visited
  | fuel + 1, visited, node :: pending =>
      if node ∈ visited then explore arrange adjacent fuel visited pending
      else
        explore arrange adjacent fuel (node :: visited)
          (arrange ((adjacent node).filter (· ∉ node :: visited)) ++ pending)

variable {arrange : List α → List α} {adjacent : α → List α}

theorem explore_nodup {fuel : Nat} {visited pending : List α}
    (distinct : visited.Nodup) :
    (explore arrange adjacent fuel visited pending).Nodup := by
  induction fuel, visited, pending using explore.induct arrange adjacent with
  | case1 => simpa [explore] using distinct
  | case2 => simpa [explore] using distinct
  | case3 fuel visited node pending known ih =>
      simpa [explore, known] using ih distinct
  | case4 fuel visited node pending fresh ih =>
      simpa [explore, fresh] using ih (List.nodup_cons.mpr ⟨fresh, distinct⟩)

/-- A set of nodes that the neighbours of its nodes belong to is not left. -/
theorem explore_within (arranged : ∀ fresh, (arrange fresh).Perm fresh)
    {inside : α → Prop}
    (closed : ∀ node, inside node → ∀ other ∈ adjacent node, inside other)
    {fuel : Nat} {visited pending : List α}
    (marked : ∀ node ∈ visited, inside node)
    (waiting : ∀ node ∈ pending, inside node) :
    ∀ node ∈ explore arrange adjacent fuel visited pending, inside node := by
  induction fuel, visited, pending using explore.induct arrange adjacent with
  | case1 => simpa [explore] using marked
  | case2 => simpa [explore] using marked
  | case3 fuel visited node pending known ih =>
      simp only [explore, if_pos known]
      exact ih marked fun other member =>
        waiting other (List.mem_cons_of_mem node member)
  | case4 fuel visited node pending fresh ih =>
      simp only [explore, if_neg fresh]
      have here : inside node := waiting node (List.mem_cons_self ..)
      refine ih ?_ ?_
      · intro other member
        rcases List.mem_cons.mp member with rfl | member
        · exact here
        · exact marked other member
      · intro other member
        rcases List.mem_append.mp member with member | member
        · have neighbour := (arranged _).mem_iff.mp member
          exact closed node here other (List.mem_filter.mp neighbour).1
        · exact waiting other (List.mem_cons_of_mem node member)

/-- With enough fuel the marked nodes contain the given ones and all their
neighbours: every turn takes a node off the stack, and a new node puts at most
`nodes.length` on it. -/
theorem explore_closed (arranged : ∀ fresh, (arrange fresh).Perm fresh)
    {nodes : List α}
    (within : ∀ node ∈ nodes, ∀ other ∈ adjacent node, other ∈ nodes)
    (short : ∀ node ∈ nodes, (adjacent node).length ≤ nodes.length)
    {fuel : Nat} {visited pending : List α} (distinct : visited.Nodup)
    (marked : ∀ node ∈ visited, node ∈ nodes)
    (waiting : ∀ node ∈ pending, node ∈ nodes)
    (covered : ∀ node ∈ visited, ∀ other ∈ adjacent node,
      other ∈ visited ∨ other ∈ pending)
    (enough : pending.length +
      (nodes.length - visited.length) * nodes.length ≤ fuel) :
    (∀ node ∈ visited ++ pending,
      node ∈ explore arrange adjacent fuel visited pending) ∧
    ∀ node ∈ explore arrange adjacent fuel visited pending,
      ∀ other ∈ adjacent node,
        other ∈ explore arrange adjacent fuel visited pending := by
  induction fuel, visited, pending using explore.induct arrange adjacent with
  | case1 visited pending =>
      have empty : pending = [] :=
        List.eq_nil_of_length_eq_zero (by omega)
      subst empty
      simpa [explore] using covered
  | case2 fuel visited =>
      simpa [explore] using covered
  | case3 fuel visited node pending known ih =>
      simp only [explore, if_pos known]
      rw [List.length_cons] at enough
      have next := ih distinct marked
        (fun other member =>
          waiting other (List.mem_cons_of_mem node member))
        (fun one member other neighbour => by
          rcases covered one member other neighbour with seen | waits
          · exact .inl seen
          · rcases List.mem_cons.mp waits with rfl | waits
            · exact .inl known
            · exact .inr waits)
        (by omega)
      refine ⟨fun other member => next.1 other ?_, next.2⟩
      rcases List.mem_append.mp member with seen | waits
      · exact List.mem_append_left pending seen
      · rcases List.mem_cons.mp waits with rfl | waits
        · exact List.mem_append_left pending known
        · exact List.mem_append_right visited waits
  | case4 fuel visited node pending fresh ih =>
      simp only [explore, if_neg fresh]
      rw [List.length_cons] at enough
      have here : node ∈ nodes := waiting node (List.mem_cons_self ..)
      have distinctNext : (node :: visited).Nodup :=
        List.nodup_cons.mpr ⟨fresh, distinct⟩
      have markedNext : ∀ other ∈ node :: visited, other ∈ nodes := by
        intro other member
        rcases List.mem_cons.mp member with rfl | member
        · exact here
        · exact marked other member
      have room : visited.length + 1 ≤ nodes.length := by
        simpa using (List.subperm_of_subset distinctNext markedNext).length_le
      have pushed : ∀ other, other ∈ arrange
          ((adjacent node).filter (· ∉ node :: visited)) ↔
            other ∈ adjacent node ∧ other ∉ node :: visited := by
        intro other
        rw [(arranged _).mem_iff, List.mem_filter, decide_eq_true_eq]
      have few : (arrange ((adjacent node).filter
          (· ∉ node :: visited))).length ≤ nodes.length := by
        rw [(arranged _).length_eq]
        exact (List.length_filter_le ..).trans (short node here)
      have next := ih distinctNext markedNext
        (fun other member => by
          rcases List.mem_append.mp member with new | waits
          · exact within node here other ((pushed other).mp new).1
          · exact waiting other (List.mem_cons_of_mem node waits))
        (fun one member other neighbour => by
          rw [List.mem_append, pushed]
          by_cases seen : other ∈ node :: visited
          · exact .inl seen
          · rcases List.mem_cons.mp member with rfl | member
            · exact .inr (.inl ⟨neighbour, seen⟩)
            · rcases covered one member other neighbour with known | waits
              · exact .inl (List.mem_cons_of_mem node known)
              · rcases List.mem_cons.mp waits with rfl | waits
                · exact .inl (List.mem_cons_self ..)
                · exact .inr (.inr waits))
        (by
          rw [List.length_append, List.length_cons]
          have split : (nodes.length - visited.length) * nodes.length =
              (nodes.length - (visited.length + 1)) * nodes.length +
                nodes.length := by
            rw [← Nat.succ_mul]
            congr 1
            omega
          omega)
      refine ⟨fun other member => next.1 other ?_, next.2⟩
      rcases List.mem_append.mp member with seen | waits
      · exact List.mem_append_left _ (List.mem_cons_of_mem node seen)
      · rcases List.mem_cons.mp waits with rfl | waits
        · exact List.mem_append_left _ (List.mem_cons_self ..)
        · exact List.mem_append_right _ (List.mem_append_right _ waits)

/-- The marked nodes are those a path leads to from the first node. -/
theorem mem_explore (arranged : ∀ fresh, (arrange fresh).Perm fresh)
    {nodes : List α} {start : α} (known : start ∈ nodes)
    (within : ∀ node ∈ nodes, ∀ other ∈ adjacent node, other ∈ nodes)
    (short : ∀ node ∈ nodes, (adjacent node).length ≤ nodes.length)
    {node : α} :
    node ∈ explore arrange adjacent (1 + nodes.length * nodes.length) []
        [start] ↔
      Relation.ReflTransGen (fun one other => other ∈ adjacent one)
        start node := by
  constructor
  · intro member
    have closed : ∀ one, Relation.ReflTransGen
        (fun one other => other ∈ adjacent one) start one →
        ∀ other ∈ adjacent one, Relation.ReflTransGen
          (fun one other => other ∈ adjacent one) start other :=
      fun one reached other neighbour => reached.tail neighbour
    refine explore_within arranged closed ?_ ?_ node member
    · simp
    · simp [Relation.ReflTransGen.refl]
  · have waiting : ∀ node ∈ [start], node ∈ nodes := by simpa using known
    have enough : [start].length +
        (nodes.length - ([] : List α).length) * nodes.length ≤
          1 + nodes.length * nodes.length := by simp
    have closed := explore_closed arranged within short List.nodup_nil
      (by simp) waiting (by simp) enough
    intro reached
    induction reached with
    | refl => exact closed.1 start (by simp)
    | tail _ neighbour ih => exact closed.2 _ ih _ neighbour

end Explore

/-! ## Rooted trees -/

section Reaching

variable {α : Type} {step : α → α → Prop}

/-- Where no node has two predecessors and the root has none, a node connected
with the root is reached from it. -/
theorem reaches_of_connected
    (single : ∀ one other node, step one node → step other node → one = other)
    {root : α} (free : ∀ node, ¬ step node root) {node : α}
    (connected : Relation.ReflTransGen
      (fun one other => step one other ∨ step other one) root node) :
    Relation.ReflTransGen step root node := by
  induction connected with
  | refl => exact .refl
  | @tail one other _ joined reached =>
      rcases joined with forward | backward
      · exact reached.tail forward
      · -- The only predecessor lies on the path from the root.
        rcases reached.cases_tail with rfl | ⟨previous, reached, last⟩
        · exact absurd backward (free other)
        · exact single _ _ _ last backward ▸ reached

end Reaching

section Trees

variable {α ε : Type} (nodes : List α) (edges : List ε) (source target : ε → α)

/-- The nodes of a graph, as the vertices of a quiver. -/
def GraphVertex (_edges : List ε) (_source _target : ε → α) : Type :=
  { node : α // node ∈ nodes }

/-- The arrows are the edges. -/
instance : Quiver (GraphVertex nodes edges source target) where
  Hom one other :=
    { edge : ε // edge ∈ edges ∧ source edge = one.val ∧
      target edge = other.val }

/-- Every node is reached from the root by exactly one path. -/
def IsRootedTree (root : GraphVertex nodes edges source target) : Prop :=
  ∀ node : GraphVertex nodes edges source target,
    Nonempty (Unique (Quiver.Path root node))

variable {nodes edges source target}

/-- A graph that rises along every edge, in which no two edges have one target
and every node but the root has an edge into it, is a rooted tree. -/
theorem isRootedTree_of_single {root : α} (known : root ∈ nodes)
    (height : α → Nat)
    (rises : ∀ edge ∈ edges, height (source edge) < height (target edge))
    (spans : ∀ edge ∈ edges, source edge ∈ nodes)
    (single : ∀ one ∈ edges, ∀ other ∈ edges,
      target one = target other → one = other)
    (entered : ∀ node ∈ nodes, node ≠ root →
      ∃ edge ∈ edges, target edge = node) :
    IsRootedTree nodes edges source target ⟨root, known⟩ := by
  have rising : ∀ ⦃one other : GraphVertex nodes edges source target⦄,
      (one ⟶ other) → height one.val < height other.val := by
    rintro one other ⟨edge, member, out, into⟩
    rw [← out, ← into]
    exact rises edge member
  have alone : ∀ ⦃one other node : GraphVertex nodes edges source target⦄
      (first : one ⟶ node) (second : other ⟶ node),
      one = other ∧ first ≍ second := by
    intro one other node first second
    have same : first.val = second.val :=
      single _ first.property.1 _ second.property.1
        (first.property.2.2.trans second.property.2.2.symm)
    have joined : one = other := Subtype.ext
      (first.property.2.1.symm.trans
        ((congrArg source same).trans second.property.2.1))
    subst joined
    exact ⟨rfl, heq_of_eq (Subtype.ext same)⟩
  have rooted : ∀ node : GraphVertex nodes edges source target,
      node = ⟨root, known⟩ ∨
        ∃ other : GraphVertex nodes edges source target,
          Nonempty (other ⟶ node) := by
    rintro ⟨node, member⟩
    by_cases top : node = root
    · subst top
      exact .inl rfl
    · obtain ⟨edge, inside, into⟩ := entered node member top
      exact .inr ⟨⟨source edge, spans edge inside⟩,
        ⟨⟨edge, inside, rfl, into⟩⟩⟩
  exact fun node => ⟨(Quiver.arborescenceMk _ _ rising alone rooted).uniquePath
    node⟩

/-- Such a graph has one node more than it has edges. -/
theorem edges_length_of_single [DecidableEq α] {root : α}
    (known : root ∈ nodes) (distinct : nodes.Nodup) (different : edges.Nodup)
    (spans : ∀ edge ∈ edges, target edge ∈ nodes)
    (single : ∀ one ∈ edges, ∀ other ∈ edges,
      target one = target other → one = other)
    (free : ∀ edge ∈ edges, target edge ≠ root)
    (entered : ∀ node ∈ nodes, node ≠ root →
      ∃ edge ∈ edges, target edge = node) :
    edges.length + 1 = nodes.length := by
  have targets : (edges.map target).Perm (nodes.erase root) := by
    rw [List.perm_ext_iff_of_nodup
      (different.map_on fun one inside other member =>
        single one inside other member) (distinct.erase root)]
    intro node
    rw [distinct.mem_erase_iff, List.mem_map]
    constructor
    · rintro ⟨edge, inside, rfl⟩
      exact ⟨free edge inside, spans edge inside⟩
    · rintro ⟨apart, member⟩
      exact entered node member apart
  have lengths := targets.length_eq
  rw [List.length_map, List.length_erase_of_mem known] at lengths
  have positive := List.length_pos_of_mem known
  omega

end Trees

end ParityGrid.Foundation
