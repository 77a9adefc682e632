import Mathlib.Data.Finset.Card
import Mathlib.Logic.Relation

/-!
# Finite forests given by lists of children

`children` lists the children of every node. When no node has two parents and the
roots have none, the nodes below the roots form a forest, even if there are cycles
elsewhere. `Forest children roots nodes` lists that forest: every root is followed
by the nodes below it, in the order of the lists of children. A derivation of
`Forest` is the finite tree itself, so an induction on it goes over the tree.
-/

universe u

variable {α : Type u}

/-- `nodes` lists the trees at `roots`, each root before the nodes below it. -/
inductive Forest (children : α → List α) : List α → List α → Prop where
  | nil : Forest children [] []
  | cons {root : α} {roots below behind : List α}
      (below_tree : Forest children (children root) below)
      (behind_trees : Forest children roots behind) :
      Forest children (root :: roots) (root :: (below ++ behind))

/-- No node is listed as a child twice. -/
structure UniqueParents (children : α → List α) : Prop where
  nodup : ∀ parent, (children parent).Nodup
  unique : ∀ ⦃parent other child⦄, child ∈ children parent → child ∈ children other →
    parent = other

/-- The node is in the tree at `root`. -/
def Below (children : α → List α) (root node : α) : Prop :=
  Relation.ReflTransGen (fun parent child => child ∈ children parent) root node

/-- The node is in the tree at `root`, but not the root. -/
def StrictlyBelow (children : α → List α) (root node : α) : Prop :=
  Relation.TransGen (fun parent child => child ∈ children parent) root node

variable {children : α → List α}

theorem StrictlyBelow.below {root node : α} (strict : StrictlyBelow children root node) :
    Below children root node :=
  Relation.TransGen.to_reflTransGen strict

theorem below_iff {root node : α} :
    Below children root node ↔ node = root ∨ StrictlyBelow children root node :=
  Relation.reflTransGen_iff_eq_or_transGen

theorem strictlyBelow_iff_child {root node : α} :
    StrictlyBelow children root node ↔ ∃ child ∈ children root, Below children child node :=
  Relation.TransGen.head'_iff

namespace Forest

theorem append {roots others nodes rest : List α} (front : Forest children roots nodes)
    (back : Forest children others rest) :
    Forest children (roots ++ others) (nodes ++ rest) := by
  induction front with
  | nil => exact back
  | cons below_tree _ _ behind_ih =>
      simp only [List.cons_append, List.append_assoc]
      exact .cons below_tree behind_ih

/-- The listed nodes are those below a root. -/
theorem mem_iff {roots nodes : List α} (forest : Forest children roots nodes) (node : α) :
    node ∈ nodes ↔ ∃ root ∈ roots, Below children root node := by
  induction forest with
  | nil => simp
  | @cons root roots below behind _ _ below_ih behind_ih =>
      rw [← strictlyBelow_iff_child] at below_ih
      simp only [List.mem_cons, List.mem_append, below_ih, behind_ih, exists_eq_or_imp, below_iff]
      exact or_assoc.symm

theorem children_mem {roots nodes : List α} (forest : Forest children roots nodes)
    {parent child : α} (parent_mem : parent ∈ nodes) (is_child : child ∈ children parent) :
    child ∈ nodes := by
  rcases (forest.mem_iff parent).mp parent_mem with ⟨root, root_mem, below⟩
  exact (forest.mem_iff child).mpr ⟨root, root_mem, below.tail is_child⟩

theorem root_or_child {roots nodes : List α} (forest : Forest children roots nodes) {node : α}
    (node_mem : node ∈ nodes) :
    node ∈ roots ∨ ∃ parent ∈ nodes, node ∈ children parent := by
  rcases (forest.mem_iff node).mp node_mem with ⟨root, root_mem, below⟩
  rcases Relation.ReflTransGen.cases_tail below with rfl | ⟨parent, above, is_child⟩
  · exact .inl root_mem
  · exact .inr ⟨parent, (forest.mem_iff parent).mpr ⟨root, root_mem, above⟩, is_child⟩

end Forest

namespace UniqueParents

/-- Of two nodes with a common descendant, one is below the other. -/
theorem comparable (parents : UniqueParents children) {first second node : α}
    (below_first : Below children first node) (below_second : Below children second node) :
    Below children first second ∨ Below children second first := by
  rw [Below, ← Relation.reflTransGen_swap] at below_first below_second
  have right_unique : Relator.RightUnique
      (Function.swap fun parent child => child ∈ children parent) :=
    fun _ _ _ first_parent second_parent => parents.unique first_parent second_parent
  rcases below_first.total_of_right_unique right_unique below_second with above | above
  · exact .inr (Relation.reflTransGen_swap.mp above)
  · exact .inl (Relation.reflTransGen_swap.mp above)

/-- Below a node without parent there is no cycle. -/
theorem acyclic (parents : UniqueParents children) {root node : α}
    (orphan : ∀ parent, root ∉ children parent) (below : Below children root node) :
    ¬StrictlyBelow children node node := by
  induction below with
  | refl =>
      intro cycle
      rcases Relation.TransGen.tail'_iff.mp cycle with ⟨parent, -, is_child⟩
      exact orphan parent is_child
  | tail _ is_child ih =>
      intro cycle
      rcases Relation.TransGen.tail'_iff.mp cycle with ⟨parent, above, also_child⟩
      rw [parents.unique also_child is_child] at above
      exact ih (Relation.TransGen.head' is_child above)

/-- Siblings are not below each other, unless their parent is on a cycle. -/
theorem siblings (parents : UniqueParents children) {parent first second : α}
    (no_cycle : ¬StrictlyBelow children parent parent) (first_child : first ∈ children parent)
    (second_child : second ∈ children parent) (below : Below children first second) :
    first = second := by
  rcases Relation.ReflTransGen.cases_tail below with same | ⟨other, above, is_child⟩
  · exact same.symm
  · rw [parents.unique is_child second_child] at above
    exact absurd (Relation.TransGen.head' first_child above) no_cycle

/-- The trees of unrelated roots are listed without repetition. -/
theorem nodup_of_forest (parents : UniqueParents children) {roots nodes : List α}
    (forest : Forest children roots nodes) (roots_nodup : roots.Nodup)
    (unrelated : ∀ first ∈ roots, ∀ second ∈ roots, Below children first second → first = second)
    (no_cycle : ∀ node ∈ nodes, ¬StrictlyBelow children node node) : nodes.Nodup := by
  induction forest with
  | nil => exact List.nodup_nil
  | @cons root roots below behind below_tree behind_trees below_ih behind_ih =>
      simp only [List.mem_cons, List.mem_append, forall_eq_or_imp] at no_cycle unrelated
      rcases List.nodup_cons.mp roots_nodup with ⟨root_new, roots_nodup⟩
      have below_nodup : below.Nodup :=
        below_ih (parents.nodup root)
          (fun first first_child second second_child =>
            parents.siblings no_cycle.1 first_child second_child)
          (fun node node_mem => no_cycle.2 node (.inl node_mem))
      have behind_nodup : behind.Nodup :=
        behind_ih roots_nodup (fun first first_mem => (unrelated.2 first first_mem).2)
          (fun node node_mem => no_cycle.2 node (.inr node_mem))
      have below_iff_strict := fun node =>
        (below_tree.mem_iff node).trans strictlyBelow_iff_child.symm
      -- A node below another root would make that root and this one comparable.
      have separate : ∀ node, Below children root node → node ∉ behind := by
        intro node below_root node_mem
        rcases (behind_trees.mem_iff node).mp node_mem with ⟨other, other_mem, below_other⟩
        rcases parents.comparable below_root below_other with above | above
        · exact root_new ((unrelated.1.2 other other_mem above) ▸ other_mem)
        · exact root_new (((unrelated.2 other other_mem).1 above) ▸ other_mem)
      rw [List.nodup_cons, List.mem_append, List.nodup_append']
      refine ⟨?_, below_nodup, behind_nodup, ?_⟩
      · rintro (inside | elsewhere)
        · exact no_cycle.1 ((below_iff_strict root).mp inside)
        · exact separate root .refl elsewhere
      · intro node inside
        exact separate node ((below_iff_strict node).mp inside).below

/-- A node below which there is no cycle has a tree, if there are finitely many nodes. -/
theorem exists_tree (bound : Finset α)
    (bounded : ∀ ⦃parent child⦄, child ∈ children parent → child ∈ bound) (root : α)
    (no_cycle : ∀ node, Below children root node → ¬StrictlyBelow children node node) :
    ∃ nodes, Forest children [root] nodes := by
  classical
  -- The induction is on the number of nodes strictly below the root.
  induction size_eq : (bound.filter (StrictlyBelow children root)).card using
    Nat.strong_induction_on generalizing root with
  | _ size ih =>
      have trees : ∀ roots : List α, (∀ child ∈ roots, child ∈ children root) →
          ∃ nodes, Forest children roots nodes := by
        intro roots are_children
        induction roots with
        | nil => exact ⟨[], .nil⟩
        | cons child roots roots_ih =>
            have is_child := are_children child List.mem_cons_self
            have fewer : (bound.filter (StrictlyBelow children child)).card < size := by
              rw [← size_eq]
              refine Finset.card_lt_card (Finset.ssubset_iff_of_subset ?_ |>.mpr ⟨child, ?_, ?_⟩)
              · intro node node_mem
                rw [Finset.mem_filter] at node_mem ⊢
                exact ⟨node_mem.1, .head is_child node_mem.2⟩
              · exact Finset.mem_filter.mpr ⟨bounded is_child, .single is_child⟩
              · intro child_mem
                exact no_cycle child (.single is_child) (Finset.mem_filter.mp child_mem).2
            rcases ih _ fewer child (fun node below => no_cycle node (.head is_child below)) rfl
              with ⟨first, first_tree⟩
            rcases roots_ih (fun other other_mem => are_children other
              (List.mem_cons_of_mem child other_mem)) with ⟨rest, rest_trees⟩
            exact ⟨first ++ rest, first_tree.append rest_trees⟩
      rcases trees (children root) (fun _ is_child => is_child) with ⟨below, below_tree⟩
      exact ⟨root :: (below ++ []), .cons below_tree .nil⟩

/-- Roots without parents span a forest. -/
theorem exists_forest (parents : UniqueParents children) (bound : Finset α)
    (bounded : ∀ ⦃parent child⦄, child ∈ children parent → child ∈ bound) {roots : List α}
    (roots_nodup : roots.Nodup)
    (orphans : ∀ root ∈ roots, ∀ parent, root ∉ children parent) :
    ∃ nodes, Forest children roots nodes ∧ nodes.Nodup := by
  have exists_nodes : ∃ nodes, Forest children roots nodes := by
    clear roots_nodup
    induction roots with
    | nil => exact ⟨[], .nil⟩
    | cons root roots ih =>
        rw [List.forall_mem_cons] at orphans
        rcases exists_tree bound bounded root (fun _ below => parents.acyclic orphans.1 below)
          with ⟨first, first_tree⟩
        rcases ih orphans.2 with ⟨rest, rest_trees⟩
        exact ⟨first ++ rest, first_tree.append rest_trees⟩
  rcases exists_nodes with ⟨nodes, forest⟩
  refine ⟨nodes, forest, parents.nodup_of_forest forest roots_nodup ?_ ?_⟩
  · intro first _ second second_mem below
    rcases Relation.ReflTransGen.cases_tail below with same | ⟨parent, -, is_child⟩
    · exact same.symm
    · exact absurd is_child (orphans second second_mem parent)
  · intro node node_mem
    rcases (forest.mem_iff node).mp node_mem with ⟨root, root_mem, below⟩
    exact parents.acyclic (orphans root root_mem) below

end UniqueParents
