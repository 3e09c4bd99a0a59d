import LiderPlatform.Collector
import LiderPlatform.RegistrationEvidence
import LiderPlatform.Worklist
import Mathlib.Algebra.Order.BigOperators.Group.List
/-!
# TreeWalkers — the walks over a tree of the management API

The API keeps the children of a node under `childEntries` or `children`, and each walk has its own rule which of them
it goes on to: `_summarize_user_group_tree` takes both, `flatten_tree_agent_ids` and `_iter_tree_nodes` the second only
where the first is empty, `_count_tree_nodes` never takes the second.  `mem_flattenTreeAgentIds` says which ids a tree
holds, `flattenTreeAgentIds_shuffled` that the order of siblings does not count, and `treeWalkers_agree_iff` when the
walks count the same nodes.
-/
namespace Lider

open Py
open Worklist (queue stack depthFirst)

/-! ## The rules -/

namespace TreeNode

def items : TreeNode → Dict
  | .mk items _ _ => items

/-- `node.get("childEntries", [])`. -/
def childEntries : TreeNode → List TreeNode
  | .mk _ childEntries _ => childEntries.getD []

/-- `node.get("children", [])`. -/
def children : TreeNode → List TreeNode
  | .mk _ _ children => children.getD []

/-- `_iter_tree_children`. -/
def bothChildren (node : TreeNode) : List TreeNode := node.childEntries ++ node.children

/-- `node.get("childEntries", []) or node.get("children", [])`. -/
def entriesOrChildren (node : TreeNode) : List TreeNode :=
  if node.childEntries.isEmpty then node.children else node.childEntries

end TreeNode

theorem sum_sizeOf_lt (nodes : List TreeNode) : (nodes.map sizeOf).sum < sizeOf nodes := by
  induction nodes with
  | nil => simp
  | cons n ns ih =>
    simp only [List.map_cons, List.sum_cons, List.cons.sizeOf_spec]
    omega

theorem sum_sizeOf_getD (nodes : Option (List TreeNode)) : ((nodes.getD []).map sizeOf).sum < sizeOf nodes := by
  cases nodes with
  | none => simp
  | some ns =>
    have := sum_sizeOf_lt ns
    simp only [Option.getD_some, Option.some.sizeOf_spec]
    omega

theorem sizeOf_bothChildren (node : TreeNode) : (node.bothChildren.map sizeOf).sum < sizeOf node := by
  obtain ⟨items, ce, ch⟩ := node
  have hce := sum_sizeOf_getD ce
  have hch := sum_sizeOf_getD ch
  simp only [TreeNode.bothChildren, TreeNode.childEntries, TreeNode.children, List.map_append, List.sum_append,
    TreeNode.mk.sizeOf_spec]
  omega

/-- A rule that takes some of both kinds of children goes down. -/
theorem sizeOf_sublist (node : TreeNode) (kids : List TreeNode) (h : kids.Sublist node.bothChildren) :
    (kids.map sizeOf).sum < sizeOf node :=
  Nat.lt_of_le_of_lt ((h.map sizeOf).sum_le_sum (fun _ _ => Nat.zero_le _)) (sizeOf_bothChildren node)

theorem childEntries_sublist (node : TreeNode) : node.childEntries.Sublist node.bothChildren :=
  List.sublist_append_left _ _

theorem entriesOrChildren_sublist (node : TreeNode) : node.entriesOrChildren.Sublist node.bothChildren := by
  unfold TreeNode.entriesOrChildren
  split
  · exact List.sublist_append_right _ _
  · exact List.sublist_append_left _ _

/-- The tree as `_summarize_user_group_tree` walks it: every node of it. -/
def wholeTree : Worklist.Forest TreeNode := ⟨TreeNode.bothChildren, ⟨sizeOf, sizeOf_bothChildren⟩⟩

/-- The tree as `flatten_tree_agent_ids`, `_iter_tree_nodes` and `find_first_agent` walk it. -/
def entryTree : Worklist.Forest TreeNode :=
  ⟨TreeNode.entriesOrChildren, ⟨sizeOf, fun n => sizeOf_sublist n _ (entriesOrChildren_sublist n)⟩⟩

/-- The tree as `_count_tree_nodes` walks it. -/
def countedTree : Worklist.Forest TreeNode :=
  ⟨TreeNode.childEntries, ⟨sizeOf, fun n => sizeOf_sublist n _ (childEntries_sublist n)⟩⟩

/-! ## Counting nodes -/

def nodeMembershipCount (items : Dict) : Nat × List String :=
  match asInt (items.get "memberCount") with
  | some count => (count.toNat, ["memberCount"])
  | none =>
    ["checkedEntries", "memberEntries", "members", "memberDns", "memberUids"].foldl (fun acc key =>
      match items.get key with
      | .arr value => (max acc.1 value.length, acc.2 ++ [key])
      | _ => acc) (0, [])

/-- The variables of `_summarize_user_group_tree`. -/
structure GroupTreeSummary where
  rootCount : Nat
  nodeCount : Nat
  leafCount : Nat
  memberBearingNodeCount : Nat
  declaredMemberCount : Nat
  memberSourceKeys : List String
  sampleGroupDns : List String

def summarizeNode (s : GroupTreeSummary) (node : TreeNode) : GroupTreeSummary :=
  let sampleGroupDns := match node.items.get "distinguishedName" with
    | .str dn => if dn ≠ "" ∧ s.sampleGroupDns.length < 5 then s.sampleGroupDns ++ [dn] else s.sampleGroupDns
    | _ => s.sampleGroupDns
  let leafCount := if node.bothChildren.isEmpty then s.leafCount + 1 else s.leafCount
  let membership := nodeMembershipCount node.items
  let s := { s with nodeCount := s.nodeCount + 1, leafCount := leafCount, sampleGroupDns := sampleGroupDns }
  if 0 < membership.1 then
    { s with
      memberBearingNodeCount := s.memberBearingNodeCount + 1
      declaredMemberCount := s.declaredMemberCount + membership.1
      memberSourceKeys := s.memberSourceKeys ++ membership.2 }
  else s

def summarizeUserGroupTree (nodes : List TreeNode) : GroupTreeSummary :=
  let rootDns := nodes.filter (fun node => (node.items.get "distinguishedName").truthy)
  let s := wholeTree.run queue summarizeNode ⟨rootDns.length, 0, 0, 0, 0, [], []⟩ nodes
  { s with memberSourceKeys := (sortedUnique s.memberSourceKeys).val }

/-- `LiderApiAdapter._iter_tree_nodes`. -/
def iterTreeNodes (nodes : List TreeNode) : List TreeNode :=
  entryTree.run queue (fun flattened node => flattened ++ [node]) [] nodes

/-- The platform exporter's `_count_tree_nodes`; the last of the nodes is the top of its stack. -/
def countTreeNodes (nodes : List TreeNode) : Nat := countedTree.run stack (fun total _ => total + 1) 0 nodes.reverse

theorem summarizeNode_nodeCount (s : GroupTreeSummary) (node : TreeNode) :
    (summarizeNode s node).nodeCount = s.nodeCount + 1 := by
  unfold summarizeNode
  simp only
  split <;> rfl

theorem nodeCount_eq (nodes : List TreeNode) :
    (summarizeUserGroupTree nodes).nodeCount = (wholeTree.order queue nodes).length :=
  (wholeTree.run_count queue summarizeNode GroupTreeSummary.nodeCount summarizeNode_nodeCount _ nodes).trans
    (Nat.zero_add _)

theorem iterTreeNodes_eq (nodes : List TreeNode) : iterTreeNodes nodes = entryTree.order queue nodes := by
  have hfold : ∀ (ns acc : List TreeNode), ns.foldl (fun flattened node => flattened ++ [node]) acc = acc ++ ns := by
    intro ns
    induction ns with
    | nil => simp
    | cons n ns ih => intro acc; rw [List.foldl_cons, ih, List.append_assoc, List.singleton_append]
  rw [iterTreeNodes, Worklist.Forest.run_eq, hfold, List.nil_append]

theorem countTreeNodes_eq (nodes : List TreeNode) :
    countTreeNodes nodes = (countedTree.order depthFirst nodes).length := by
  have hcount : countTreeNodes nodes = (countedTree.order stack nodes.reverse).length :=
    (countedTree.run_count stack (fun total _ => total + 1) id (fun _ _ => rfl) 0 nodes.reverse).trans (Nat.zero_add _)
  rw [hcount, (countedTree.order_perm stack nodes.reverse).length_eq]
  exact (countedTree.order_depthFirst_perm (List.reverse_perm nodes)).length_eq

/-- **The counts are ordered as the rules are**: the walk that takes fewer children counts fewer nodes. -/
theorem counts_ordered (nodes : List TreeNode) : countTreeNodes nodes ≤ (iterTreeNodes nodes).length ∧
    (iterTreeNodes nodes).length ≤ (summarizeUserGroupTree nodes).nodeCount := by
  have hsub : ∀ n : TreeNode, n.childEntries.Sublist n.entriesOrChildren := by
    intro n
    unfold TreeNode.entriesOrChildren
    split
    · rename_i h
      rw [List.isEmpty_iff.1 h]
      exact List.nil_sublist _
    · exact List.Sublist.refl _
  rw [countTreeNodes_eq, iterTreeNodes_eq, nodeCount_eq]
  exact ⟨countedTree.length_order_le depthFirst entryTree hsub queue nodes,
    entryTree.length_order_le queue wholeTree entriesOrChildren_sublist queue nodes⟩

/-- **The three walks count the same nodes exactly when no node of the tree keeps any under `children`.** -/
theorem treeWalkers_agree_iff (nodes : List TreeNode) :
    ((summarizeUserGroupTree nodes).nodeCount = (iterTreeNodes nodes).length ∧
        (iterTreeNodes nodes).length = countTreeNodes nodes) ↔
      ∀ node, wholeTree.Reach nodes node → node.children = [] := by
  obtain ⟨hle, hle'⟩ := counts_ordered nodes
  have hends : ((summarizeUserGroupTree nodes).nodeCount = (iterTreeNodes nodes).length ∧
      (iterTreeNodes nodes).length = countTreeNodes nodes) ↔
        countTreeNodes nodes = (summarizeUserGroupTree nodes).nodeCount := by omega
  have hkids : ∀ node : TreeNode, node.childEntries = node.bothChildren ↔ node.children = [] := fun node =>
    List.self_eq_append_right
  rw [hends, countTreeNodes_eq, nodeCount_eq,
    countedTree.length_order_eq_iff depthFirst wholeTree childEntries_sublist queue nodes]
  exact forall₂_congr (fun node _ => hkids node)

def childrenOnly : List TreeNode := [.mk [] none (some [.mk [] none none])]

theorem treeWalkers_disagree : ¬ ((summarizeUserGroupTree childrenOnly).nodeCount = (iterTreeNodes childrenOnly).length ∧
    (iterTreeNodes childrenOnly).length = countTreeNodes childrenOnly) := by
  have hcount : countTreeNodes childrenOnly = 1 := by
    simp [countTreeNodes, childrenOnly, Worklist.Forest.run, countedTree, TreeNode.childEntries, stack]
  have hiter : (iterTreeNodes childrenOnly).length = 2 := by
    simp [iterTreeNodes, childrenOnly, Worklist.Forest.run, entryTree, TreeNode.entriesOrChildren,
      TreeNode.childEntries, TreeNode.children, queue]
  omega

/-! ## The ids of a tree -/

theorem visited_eq (node : TreeNode) : visited node = node.items :: visitedAll node.entriesOrChildren := by
  obtain ⟨items, _ | _ | ⟨c, cs⟩, _ | nodes⟩ := node <;>
    simp [visited, visitedAll, TreeNode.items, TreeNode.entriesOrChildren, TreeNode.childEntries, TreeNode.children]

theorem visitedAll_eq_flatMap (nodes : List TreeNode) : visitedAll nodes = nodes.flatMap visited := by
  induction nodes with
  | nil => rfl
  | cons n ns ih => rw [visitedAll, ih, List.flatMap_cons]

/-- The walk's nodes are those of the tree, each before its children. -/
theorem visitedAll_eq (nodes : List TreeNode) : visitedAll nodes = (entryTree.order depthFirst nodes).map TreeNode.items := by
  induction nodes using entryTree.induction with
  | nil => rw [Worklist.Forest.order_nil]; rfl
  | cons n ns ihkids ihns =>
    have hpush : depthFirst.push ns (entryTree.kids n) = entryTree.kids n ++ ns := rfl
    rw [visitedAll, visited_eq, Worklist.Forest.order_cons, hpush, Worklist.Forest.order_depthFirst_append, List.map_cons,
      List.map_append, ← ihkids, ← ihns, List.cons_append]
    rfl

/-- **The ids found are the ids of the agent nodes reached.** -/
theorem mem_flattenTreeAgentIds (repr : Json → String) (nodes : List TreeNode) (agentId : String) :
    agentId ∈ (flattenTreeAgentIds repr nodes).val ↔ agentId ≠ "" ∧ ∃ node, entryTree.Reach nodes node ∧
      isAgentNode repr node.items = true ∧ normalizeAgentId repr (nodeLabel node.items) = some agentId := by
  have hagent : ∀ items, agentOfNode repr items = some agentId ↔
      agentId ≠ "" ∧ isAgentNode repr items = true ∧ normalizeAgentId repr (nodeLabel items) = some agentId := by
    intro items
    unfold agentOfNode firstIdentity
    cases isAgentNode repr items with
    | false => simp
    | true =>
      have hfilter : ∀ x : Option String, x.filter (fun s => s ≠ "") = some agentId ↔ agentId ≠ "" ∧ x = some agentId := by
        intro x
        rw [Option.filter_eq_some_iff, decide_eq_true_eq, and_comm]
      cases hn : normalizeAgentId repr (nodeLabel items) with
      | none => simp [hn]
      | some y => simpa [hn] using hfilter (some y)
  rw [flattenTreeAgentIds, mem_sortedUnique, walkNodes_eq, visitedAll_eq, List.filterMap_map, List.mem_filterMap]
  simp only [Function.comp_apply, hagent, Worklist.Forest.mem_order_iff]
  constructor
  · rintro ⟨node, hreach, hne, hnode⟩
    exact ⟨hne, node, hreach, hnode⟩
  · rintro ⟨hne, node, hreach, hnode⟩
    exact ⟨node, hreach, hne, hnode⟩

/-- Two forests that differ in the order of the roots, and of the children of nodes at any depth. -/
inductive Shuffled : List TreeNode → List TreeNode → Prop
  | roots {ns ns' : List TreeNode} (h : ns.Perm ns') : Shuffled ns ns'
  | childEntries {before after ns ns' : List TreeNode} {items : Dict} {ch : Option (List TreeNode)} (h : Shuffled ns ns') :
    Shuffled (before ++ .mk items (some ns) ch :: after) (before ++ .mk items (some ns') ch :: after)
  | children {before after ns ns' : List TreeNode} {items : Dict} {ce : Option (List TreeNode)} (h : Shuffled ns ns') :
    Shuffled (before ++ .mk items ce (some ns) :: after) (before ++ .mk items ce (some ns') :: after)
  | trans {ns ns' ns'' : List TreeNode} (h : Shuffled ns ns') (h' : Shuffled ns' ns'') : Shuffled ns ns''

theorem Shuffled.length_eq {ns ns' : List TreeNode} (h : Shuffled ns ns') : ns.length = ns'.length := by
  induction h with
  | roots h => exact h.length_eq
  | childEntries => simp
  | children => simp
  | trans _ _ ih ih' => exact ih.trans ih'

/-- **Shuffled forests are walked through the same items.** -/
theorem Shuffled.visitedAll_perm {ns ns' : List TreeNode} (h : Shuffled ns ns') : (visitedAll ns).Perm (visitedAll ns') := by
  have hnode : ∀ (before after : List TreeNode) (n n' : TreeNode), (visited n).Perm (visited n') →
      (visitedAll (before ++ n :: after)).Perm (visitedAll (before ++ n' :: after)) := by
    intro before after n n' hn
    simp only [visitedAll_eq_flatMap, List.flatMap_append, List.flatMap_cons]
    exact (hn.append_right _).append_left _
  induction h with
  | roots h =>
    rw [visitedAll_eq_flatMap, visitedAll_eq_flatMap]
    exact h.flatMap_right visited
  | @childEntries before after ns ns' items ch hns ih =>
    have hlen := hns.length_eq
    refine hnode _ _ _ _ ?_
    rw [visited_eq, visited_eq]
    refine List.Perm.cons items ?_
    -- the first of the two lists is read unless it is empty, and then both are
    cases ns with
    | nil => rw [List.length_eq_zero_iff.1 hlen.symm]
    | cons n ns =>
      cases ns' with
      | nil => cases hlen
      | cons n' ns' => exact ih
  | @children before after ns ns' items ce _ ih =>
    refine hnode _ _ _ _ ?_
    rw [visited_eq, visited_eq]
    refine List.Perm.cons items ?_
    rcases ce with _ | _ | ⟨c, cs⟩
    · exact ih
    · exact ih
    · exact List.Perm.refl _
  | trans _ _ ih ih' => exact ih.trans ih'

/-- **The ids are those of the agent nodes reached, in strictly ascending order, whatever the order of siblings.** -/
theorem flattenTreeAgentIds_spec (repr : Json → String) (nodes : List TreeNode) :
    (flattenTreeAgentIds repr nodes).val.Pairwise (· < ·) ∧
      (∀ agentId, agentId ∈ (flattenTreeAgentIds repr nodes).val ↔ agentId ≠ "" ∧ ∃ node, entryTree.Reach nodes node ∧
        isAgentNode repr node.items = true ∧ normalizeAgentId repr (nodeLabel node.items) = some agentId) ∧
      ∀ nodes', Shuffled nodes nodes' → flattenTreeAgentIds repr nodes' = flattenTreeAgentIds repr nodes := by
  refine ⟨(flattenTreeAgentIds repr nodes).property, mem_flattenTreeAgentIds repr nodes, fun nodes' h => ?_⟩
  refine Ascending.ext_mem _ _ (fun agentId => ?_)
  rw [flattenTreeAgentIds, flattenTreeAgentIds, mem_sortedUnique, mem_sortedUnique, walkNodes_eq, walkNodes_eq]
  exact (h.visitedAll_perm.filterMap (agentOfNode repr)).mem_iff.symm

end Lider
