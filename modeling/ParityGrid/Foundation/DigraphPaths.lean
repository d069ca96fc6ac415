import Mathlib

/-!
# Guarded paths

A node is open when some path from a node without incoming edges reaches it and
passes no guard.  Being open spreads along the edges: a node is open when it is
no guard and either has no incoming edge or an open predecessor.
-/

namespace ParityGrid.Foundation

section Paths

variable {α : Type}

/-- A path along the edges. -/
structure IsPath (edges : List (α × α)) (path : List α) (first last : α) :
    Prop where
  first : path.head? = some first
  last : path.getLast? = some last
  chain : path.IsChain fun one other => (one, other) ∈ edges

/-- No edge leads to the node. -/
def IsRoot (edges : List (α × α)) (node : α) : Prop :=
  ∀ edge ∈ edges, edge.2 ≠ node

/-- A path from a root reaches the node without passing a guard. -/
def IsOpen (edges : List (α × α)) (guard : α → Prop) (node : α) : Prop :=
  ∃ path root, IsPath edges path root node ∧ IsRoot edges root ∧
    ∀ other ∈ path, ¬ guard other

variable {edges : List (α × α)}

theorem IsPath.single (node : α) : IsPath edges [node] node node :=
  ⟨rfl, rfl, List.isChain_singleton node⟩

theorem IsPath.snoc {path : List α} {first last node : α}
    (leads : IsPath edges path first last) (edge : (last, node) ∈ edges) :
    IsPath edges (path ++ [node]) first node where
  first := by
    rw [List.head?_append, leads.first, Option.some_or]
  last := List.getLast?_concat ..
  chain := by
    rw [List.isChain_append]
    refine ⟨leads.chain, List.isChain_singleton node, ?_⟩
    intro one isLast other isFirst
    rw [leads.last, Option.mem_some_iff] at isLast
    rw [List.head?_cons, Option.mem_some_iff] at isFirst
    subst isLast
    subst isFirst
    exact edge

/-- A path is a single node, or a path to a predecessor and one edge. -/
theorem IsPath.cases_last {path : List α} {first node : α}
    (leads : IsPath edges path first node) :
    path = [node] ∧ first = node ∨
      ∃ front last, path = front ++ [node] ∧
        IsPath edges front first last ∧ (last, node) ∈ edges := by
  have nonempty : path ≠ [] := by
    intro empty
    have head := leads.first
    rw [empty] at head
    cases head
  obtain ⟨front, final, rfl⟩ : ∃ front final, path = front ++ [final] :=
    ⟨_, _, (List.dropLast_append_getLast nonempty).symm⟩
  have same := leads.last
  rw [List.getLast?_concat, Option.some.injEq] at same
  subst same
  have chain := leads.chain
  rw [List.isChain_append] at chain
  cases rest : front.getLast? with
  | none =>
      have empty := List.getLast?_eq_none_iff.mp rest
      subst empty
      have head := leads.first
      rw [List.nil_append, List.head?_cons, Option.some.injEq] at head
      exact .inl ⟨rfl, head.symm⟩
  | some last =>
      refine .inr ⟨front, last, rfl, ⟨?_, rest, chain.1⟩, ?_⟩
      · cases front with
        | nil => cases rest
        | cons head _ => exact leads.first
      · exact chain.2.2 last rest final (by simp)

/-- Being open spreads along the edges and stops at guards. -/
theorem isOpen_iff {guard : α → Prop} {node : α} :
    IsOpen edges guard node ↔ ¬ guard node ∧
      (IsRoot edges node ∨
        ∃ parent, (parent, node) ∈ edges ∧ IsOpen edges guard parent) := by
  constructor
  · rintro ⟨path, root, leads, atRoot, unguarded⟩
    rcases leads.cases_last with ⟨rfl, rfl⟩ | ⟨front, last, rfl, before, edge⟩
    · exact ⟨unguarded _ (List.mem_singleton_self _), .inl atRoot⟩
    · refine ⟨unguarded node (by simp), .inr ⟨last, edge, front, root,
        before, atRoot, fun other member => ?_⟩⟩
      exact unguarded other (List.mem_append_left [node] member)
  · rintro ⟨free, atRoot | ⟨parent, edge, path, root, leads, atRoot, others⟩⟩
    · exact ⟨[node], node, .single node, atRoot, by simpa using free⟩
    · refine ⟨path ++ [node], root, leads.snoc edge, atRoot, ?_⟩
      intro other member
      rcases List.mem_append.mp member with inside | final
      · exact others other inside
      · rw [List.mem_singleton.mp final]
        exact free

end Paths

end ParityGrid.Foundation
