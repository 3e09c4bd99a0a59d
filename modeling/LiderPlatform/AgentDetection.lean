import LiderPlatform.PolicyChecks
import LiderPlatform.TreeWalkers
/-!
# AgentDetection — the two searches for agents in a tree

`flatten_tree_agent_ids` reads the type of a node from `type` or, when that is blank, from `nodeType`;
`find_first_agent` reads `type` alone and stops at the first agent, and a `type` that has no hash stops it before.
`agentDetection_agree_iff` says on which trees one finds an agent exactly when the other does.
-/
namespace Lider

open Py
open Worklist (depthFirst)

/-! ## Nodes as dictionaries -/

/-- The items of a node that stand under other keys than its children. -/
def ownItems (items : Dict) : Dict := items.filter (fun p => p.1 ≠ "childEntries" ∧ p.1 ≠ "children")

mutual
/-- A node as the API returns it. -/
def TreeNode.toDict : TreeNode → Dict
  | .mk items childEntries children =>
    childItem "childEntries" childEntries ++ (childItem "children" children ++ ownItems items)
def childItem (key : String) : Option (List TreeNode) → Dict
  | none => []
  | some nodes => [(key, .arr (nodesToJson nodes))]
def nodesToJson : List TreeNode → List Json
  | [] => []
  | n :: ns => .obj n.toDict :: nodesToJson ns
end

theorem ownItems_get (items : Dict) (key : String) (h : key ≠ "childEntries" ∧ key ≠ "children") :
    (ownItems items).get key = items.get key := by
  induction items with
  | nil => rfl
  | cons p items ih =>
    obtain ⟨k, v⟩ := p
    unfold ownItems at ih ⊢
    rw [List.filter_cons]
    split
    · rw [Dict.get_cons, Dict.get_cons, ih]
    · rename_i hk
      have hne : key ≠ k := by
        rintro rfl
        simp [h] at hk
      rw [ih, Dict.get_cons, if_neg hne]

theorem toDict_get (n : TreeNode) (key : String) (h : key ≠ "childEntries" ∧ key ≠ "children") :
    n.toDict.get key = n.items.get key := by
  obtain ⟨items, ce, ch⟩ := n
  have hskip : ∀ (k : String) (nodes : Option (List TreeNode)) (d : Dict), key ≠ k →
      Dict.get (childItem k nodes ++ d) key = d.get key := by
    intro k nodes d hk
    cases nodes with
    | none => rfl
    | some nodes => rw [childItem, List.singleton_append, Dict.get_cons, if_neg hk]
  rw [TreeNode.toDict, hskip _ _ _ h.1, hskip _ _ _ h.2, ownItems_get items key h]
  rfl

/-! ## The search in walking order -/

section
variable (isMatch : Dict → Except CallError Bool)

def firstMatch : List Dict → Except CallError (Option Dict)
  | [] => .ok none
  | d :: ds =>
    match isMatch d with
    | .error e => .error e
    | .ok true => .ok (some d)
    | .ok false => firstMatch ds

theorem firstMatch_append (ds ds' : List Dict) : firstMatch isMatch (ds ++ ds') =
    match firstMatch isMatch ds with
    | .error e => .error e
    | .ok (some d) => .ok (some d)
    | .ok none => firstMatch isMatch ds' := by
  induction ds with
  | nil => rfl
  | cons d ds ih =>
    rw [List.cons_append, firstMatch, firstMatch]
    split
    · rfl
    · rfl
    · exact ih

theorem firstMatch_matches (ds : List Dict) (d : Dict) (h : firstMatch isMatch ds = .ok (some d)) :
    isMatch d = .ok true := by
  induction ds with
  | nil => cases h
  | cons e ds ih =>
    rw [firstMatch] at h
    split at h
    · cases h
    · rename_i he
      cases h
      exact he
    · exact ih h

/-- A match is found exactly when one comes before everything the test raises on. -/
theorem firstMatch_iff (ds : List Dict) : (∃ d, firstMatch isMatch ds = .ok (some d)) ↔
    ∃ before d after, ds = before ++ d :: after ∧ isMatch d = .ok true ∧ ∀ d' ∈ before, ∃ b, isMatch d' = .ok b := by
  constructor
  · induction ds with
    | nil => rintro ⟨d, h⟩; cases h
    | cons d ds ih =>
      rintro ⟨d', h⟩
      rw [firstMatch] at h
      split at h
      · cases h
      · rename_i hd
        exact ⟨[], d, ds, rfl, hd, fun _ h => (nomatch h)⟩
      · rename_i hd
        obtain ⟨before, e, after, rfl, he, hbefore⟩ := ih ⟨d', h⟩
        exact ⟨d :: before, e, after, rfl, he, List.forall_mem_cons.2 ⟨⟨false, hd⟩, hbefore⟩⟩
  · rintro ⟨before, d, after, rfl, hd, hbefore⟩
    induction before with
    | nil => exact ⟨d, by rw [List.nil_append, firstMatch, hd]⟩
    | cons e before ih =>
      obtain ⟨b, hb⟩ := hbefore e List.mem_cons_self
      rw [List.cons_append, firstMatch, hb]
      cases b with
      | true => exact ⟨e, rfl⟩
      | false => exact ih (fun d' h => hbefore d' (List.mem_cons_of_mem _ h))

def belowNode (node : Dict) : Except CallError (Option Dict) :=
  if (Dict.get node "childEntries").truthy then searchMember isMatch "childEntries" node
  else searchMember isMatch "children" node

theorem searchMember_of_get (key : String) : ∀ (d : Dict),
    searchMember isMatch key d = match d.lookup key with
      | none => .ok none
      | some v => searchNodes isMatch v
  | [] => rfl
  | (k, v) :: d => by
    rw [searchMember, List.lookup_cons]
    by_cases h : k = key
    · rw [if_pos h, h, beq_self_eq_true]
    · rw [if_neg h, searchMember_of_get key d, beq_eq_false_iff_ne.2 (Ne.symm h)]

theorem lookup_toDict (n : TreeNode) : n.toDict.lookup "childEntries" =
      (match n with | .mk _ ce _ => ce.map (fun nodes => Json.arr (nodesToJson nodes))) ∧
    n.toDict.lookup "children" = (match n with | .mk _ _ ch => ch.map (fun nodes => Json.arr (nodesToJson nodes))) := by
  obtain ⟨items, ce, ch⟩ := n
  have hown : ∀ key, (key = "childEntries" ∨ key = "children") → (ownItems items).lookup key = none := by
    intro key hkey
    rw [List.lookup_eq_none_iff]
    intro p hp
    have := (List.mem_filter.1 hp).2
    rcases hkey with rfl | rfl <;> simp at this ⊢ <;> tauto
  have h1 := hown "childEntries" (Or.inl rfl)
  have h2 := hown "children" (Or.inr rfl)
  rw [TreeNode.toDict]
  cases ce <;> cases ch <;> simp [childItem, List.lookup_cons, h1, h2]

/-- **Below a node the search goes on to the children the walk goes on to.** -/
theorem belowNode_toDict (n : TreeNode) :
    belowNode isMatch n.toDict = searchList isMatch (nodesToJson n.entriesOrChildren) := by
  obtain ⟨hce, hch⟩ := lookup_toDict n
  unfold belowNode
  rw [searchMember_of_get, searchMember_of_get, Dict.get, hce, hch]
  obtain ⟨items, _ | _ | ⟨c, cs⟩, _ | nodes⟩ := n <;>
    simp [TreeNode.entriesOrChildren, TreeNode.childEntries, TreeNode.children, Json.truthy, nodesToJson, searchNodes,
      searchList]

/-- **The search finds the first match in walking order.** -/
theorem searchList_eq (hne : ∀ d, isMatch d = .ok true → d ≠ []) (nodes : List TreeNode) :
    searchList isMatch (nodesToJson nodes) =
      firstMatch isMatch ((entryTree.order depthFirst nodes).map TreeNode.toDict) := by
  induction nodes using entryTree.induction with
  | nil => rw [nodesToJson, searchList, Worklist.Forest.order_nil, List.map_nil, firstMatch]
  | cons n ns ihkids ihns =>
    have hpush : depthFirst.push ns (entryTree.kids n) = entryTree.kids n ++ ns := rfl
    rw [nodesToJson, searchList, Worklist.Forest.order_cons, hpush, Worklist.Forest.order_depthFirst_append, List.map_cons,
      List.map_append, firstMatch, firstMatch_append, ← ihkids, ← ihns]
    cases hn : isMatch n.toDict with
    | error e => rfl
    | ok b =>
      cases b with
      | true => rfl
      | false =>
        have hchildren := belowNode_toDict isMatch n
        unfold belowNode at hchildren
        have hkids : searchList isMatch (nodesToJson (entryTree.kids n)) =
            searchList isMatch (nodesToJson n.entriesOrChildren) := rfl
        simp only
        rw [hchildren, hkids]
        cases hs : searchList isMatch (nodesToJson n.entriesOrChildren) with
        | error e => rfl
        | ok found =>
          cases found with
          | none => rfl
          | some child =>
            -- what was found matched, so it is no empty dictionary
            have hfirst : firstMatch isMatch ((entryTree.order depthFirst (entryTree.kids n)).map TreeNode.toDict) =
                .ok (some child) := by rw [← ihkids]; exact hs
            have hchild := hne child (firstMatch_matches isMatch _ child hfirst)
            simp [hchild]

end

/-! ## Agents -/

def isAgentType : Json → Bool
  | .str type => decide (type ∈ ["AHENK", "WINDOWS_AHENK"])
  | _ => false

def isHashable : Json → Bool
  | .arr _ | .obj _ => false
  | _ => true

/-- The test of `find_first_agent`. -/
def agentTest (node : Dict) : Except CallError Bool :=
  match node.get "type" with
  | .str type => .ok (decide (type ∈ ["AHENK", "WINDOWS_AHENK"]))
  | .arr _ | .obj _ => .error unhashable
  | _ => .ok false

theorem findFirstAgent_eq (nodes : List Json) : findFirstAgent (.arr nodes) = searchList agentTest nodes := by
  rw [findFirstAgent, searchNodes]
  rfl

theorem agentTest_true_iff (node : Dict) : agentTest node = .ok true ↔ isAgentType (node.get "type") = true := by
  unfold agentTest isAgentType
  split <;> simp_all

/-- The test raises on a type without a hash, and on nothing else. -/
theorem agentTest_ok_iff (node : Dict) : (∃ b, agentTest node = .ok b) ↔ isHashable (node.get "type") = true := by
  unfold agentTest isHashable
  split <;> simp_all

/-- A node whose `type` names an agent is walked before every node whose `type` has no hash. -/
def AgentFirst (nodes : List TreeNode) : Prop :=
  ∃ before node after, entryTree.order depthFirst nodes = before ++ node :: after ∧
    isAgentType (node.items.get "type") = true ∧ ∀ n ∈ before, isHashable (n.items.get "type") = true

/-- The `type` of the node names an agent or, when it is blank, the `nodeType`. -/
def NamesAgent (items : Dict) : Prop :=
  isAgentType (items.get "type") = true ∨
    ((items.get "type").truthy = false ∧ isAgentType (items.get "nodeType") = true)

theorem findFirstAgent_iff (nodes : List TreeNode) :
    (∃ entry, findFirstAgent (.arr (nodesToJson nodes)) = .ok (some entry)) ↔ AgentFirst nodes := by
  have hne : ∀ d, agentTest d = .ok true → d ≠ [] := by
    rintro d h rfl
    cases h
  have htype : ∀ n : TreeNode, n.toDict.get "type" = n.items.get "type" := fun n => toDict_get n "type" (by decide)
  rw [findFirstAgent_eq, searchList_eq agentTest hne, firstMatch_iff]
  constructor
  · rintro ⟨before, d, after, hsplit, hd, hbefore⟩
    obtain ⟨ns, rest, horder, rfl, hrest⟩ := List.map_eq_append_iff.1 hsplit
    obtain ⟨n, ns', rfl, rfl, rfl⟩ := List.map_eq_cons_iff.1 hrest
    rw [agentTest_true_iff, htype] at hd
    refine ⟨ns, n, ns', horder, hd, fun m hm => ?_⟩
    rw [← htype, ← agentTest_ok_iff]
    exact hbefore _ (List.mem_map_of_mem hm)
  · rintro ⟨before, n, after, horder, hn, hbefore⟩
    refine ⟨before.map TreeNode.toDict, n.toDict, after.map TreeNode.toDict, by rw [horder]; simp, ?_, ?_⟩
    · rw [agentTest_true_iff, htype]
      exact hn
    · intro d hd
      obtain ⟨m, hm, rfl⟩ := List.mem_map.1 hd
      rw [agentTest_ok_iff, htype]
      exact hbefore m hm

section
variable (repr : Json → String) (hrepr : ∀ v, (∀ s, v ≠ .str s) → repr v ≠ "AHENK" ∧ repr v ≠ "WINDOWS_AHENK")
include hrepr

theorem pyStr_agent_iff (v : Json) : pyStr repr v ∈ ["AHENK", "WINDOWS_AHENK"] ↔ isAgentType v = true := by
  cases v with
  | str s => simp [pyStr, isAgentType]
  | _ => simp [pyStr, isAgentType, hrepr]

theorem isAgentNode_iff (items : Dict) : isAgentNode repr items = true ↔ NamesAgent items := by
  have hblank : ∀ v : Json, isAgentType v = true → v.truthy = true := by
    intro v hv
    cases v with
    | str s =>
      have hne : s ≠ "" := by
        rintro rfl
        cases hv
      simpa [Json.truthy] using hne
    | _ => cases hv
  unfold isAgentNode NamesAgent
  rw [decide_eq_true_eq, pyStr_agent_iff repr hrepr]
  cases htype : (items.get "type").truthy with
  | true => simp [Json.orElse, htype]
  | false =>
    have htype' : ¬ isAgentType (items.get "type") = true := fun h => by
      rw [hblank _ h] at htype
      cases htype
    cases hnode : (items.get "nodeType").truthy with
    | true => simp [Json.orElse, htype, hnode, htype']
    | false =>
      have hnode' : ¬ isAgentType (items.get "nodeType") = true := fun h => by
        rw [hblank _ h] at hnode
        cases hnode
      have hempty : isAgentType (.str "") = false := by decide
      simp [Json.orElse, htype, hnode, htype', hnode', hempty]

/-- **Where every node typed as an agent has an id, the two searches agree exactly on the trees in which an agent by
`type` comes before every unhashable `type`, and on those without agents.** -/
theorem agentDetection_agree_iff (nodes : List TreeNode)
    (hlabel : ∀ node, entryTree.Reach nodes node →
      isAgentType (node.items.get "type") = true ∨ isAgentType (node.items.get "nodeType") = true →
      ∃ agentId, normalizeAgentId repr (nodeLabel node.items) = some agentId ∧ agentId ≠ "") :
    ((∃ entry, findFirstAgent (.arr (nodesToJson nodes)) = .ok (some entry)) ↔
        (flattenTreeAgentIds repr nodes).val ≠ []) ↔
      AgentFirst nodes ∨ ∀ node, entryTree.Reach nodes node → ¬ NamesAgent node.items := by
  have hflatten : (flattenTreeAgentIds repr nodes).val ≠ [] ↔
      ∃ node, entryTree.Reach nodes node ∧ NamesAgent node.items := by
    constructor
    · intro hne
      obtain ⟨agentId, hmem⟩ := List.exists_mem_of_ne_nil _ hne
      obtain ⟨-, node, hreach, hagent, -⟩ := (mem_flattenTreeAgentIds repr nodes agentId).1 hmem
      exact ⟨node, hreach, (isAgentNode_iff repr hrepr _).1 hagent⟩
    · rintro ⟨node, hreach, hnames⟩
      obtain ⟨agentId, hid, hne⟩ := hlabel node hreach (hnames.imp_right And.right)
      exact List.ne_nil_of_mem ((mem_flattenTreeAgentIds repr nodes agentId).2
        ⟨hne, node, hreach, (isAgentNode_iff repr hrepr _).2 hnames, hid⟩)
  have hfound : AgentFirst nodes → ∃ node, entryTree.Reach nodes node ∧ NamesAgent node.items := by
    rintro ⟨before, node, after, horder, htype, -⟩
    refine ⟨node, (entryTree.mem_order_iff depthFirst nodes node).1 ?_, Or.inl htype⟩
    rw [horder]
    exact List.mem_append_right _ List.mem_cons_self
  have hnone : (∀ node, entryTree.Reach nodes node → ¬ NamesAgent node.items) ↔
      ¬ ∃ node, entryTree.Reach nodes node ∧ NamesAgent node.items := by
    simp only [not_exists, not_and]
  rw [findFirstAgent_iff, hflatten, hnone]
  constructor
  · intro hiff
    by_cases hfirst : AgentFirst nodes
    · exact Or.inl hfirst
    · exact Or.inr (fun h => hfirst (hiff.2 h))
  · rintro (hfirst | hno)
    · exact iff_of_true hfirst (hfound hfirst)
    · exact iff_of_false (fun h => hno (hfound h)) hno

end

/-! ## Agents by `type` and by `nodeType` -/

def agentLeaf (key : String) : List TreeNode := [.mk [(key, .str "AHENK"), ("uid", .str "ahenk-001")] none none]

theorem normalize_ahenk_001 (repr : Json → String) : normalizeAgentId repr (.str "ahenk-001") = some "ahenk-001" :=
  normalizeAgentId_spells repr "ahenk-001" (plainId_ahenkId 1) "ahenk-001" .plain

def laboratory : TreeNode := .mk [("name", .str "laboratory")] none (some (agentLeaf "type"))

def ahenkler : TreeNode := .mk [("type", .str "ORGANIZATIONAL_UNIT")] (some (laboratory :: agentLeaf "nodeType")) none

/-- An agent of each kind below a folder, and a node whose `type` has no hash behind them. -/
def branchingForest : List TreeNode := [ahenkler, .mk [("type", .arr []), ("uid", .str "pc-7")] none none]

theorem order_branchingForest : entryTree.order depthFirst branchingForest =
    [ahenkler, laboratory] ++ agentLeaf "type" ++ agentLeaf "nodeType" ++
      [.mk [("type", .arr []), ("uid", .str "pc-7")] none none] := by
  have hleaf : ∀ items rest, entryTree.order depthFirst (.mk items none none :: rest) =
      .mk items none none :: entryTree.order depthFirst rest :=
    fun items rest => entryTree.order_cons depthFirst (.mk items none none) rest
  rw [branchingForest, Worklist.Forest.order_cons]
  change ahenkler :: entryTree.order depthFirst (laboratory :: (agentLeaf "nodeType" ++ _)) = _
  rw [Worklist.Forest.order_cons]
  change ahenkler :: laboratory :: entryTree.order depthFirst (agentLeaf "type" ++ (agentLeaf "nodeType" ++ _)) = _
  simp only [agentLeaf, List.cons_append, List.nil_append, hleaf, Worklist.Forest.order_nil]

/-- Both searches find an agent there. -/
theorem branchingForest_agree :
    (∃ entry, findFirstAgent (.arr (nodesToJson branchingForest)) = .ok (some entry)) ∧
      (flattenTreeAgentIds (fun _ => "") branchingForest).val ≠ [] := by
  have hfirst : AgentFirst branchingForest := by
    refine ⟨[ahenkler, laboratory], _, _, order_branchingForest, by decide, ?_⟩
    simp only [List.forall_mem_cons, List.not_mem_nil, false_implies, implies_true, and_true]
    decide
  have hlabel : ∀ node, entryTree.Reach branchingForest node →
      isAgentType (node.items.get "type") = true ∨ isAgentType (node.items.get "nodeType") = true →
      ∃ agentId, normalizeAgentId (fun _ => "") (nodeLabel node.items) = some agentId ∧ agentId ≠ "" := by
    intro node hreach hagent
    rw [← entryTree.mem_order_iff depthFirst, order_branchingForest] at hreach
    simp only [agentLeaf, List.cons_append, List.nil_append, List.mem_cons, List.not_mem_nil, or_false] at hreach
    obtain rfl | rfl | rfl | rfl | rfl := hreach
    · exact absurd hagent (by decide)
    · exact absurd hagent (by decide)
    · exact ⟨"ahenk-001", normalize_ahenk_001 _, by decide⟩
    · exact ⟨"ahenk-001", normalize_ahenk_001 _, by decide⟩
    · exact absurd hagent (by decide)
  have hagree := (agentDetection_agree_iff (fun _ => "") (by simp) branchingForest hlabel).2 (Or.inl hfirst)
  have hfound := (findFirstAgent_iff branchingForest).2 hfirst
  exact ⟨hfound, hagree.1 hfound⟩

/-- **The one search reports the agent, the other none.** -/
theorem agentLeaf_nodeType : normalizeAgentId (fun _ => "") (.str "ahenk-001") = some "ahenk-001" ∧
    ¬ ((∃ entry, findFirstAgent (.arr (nodesToJson (agentLeaf "nodeType"))) = .ok (some entry)) ↔
      (flattenTreeAgentIds (fun _ => "") (agentLeaf "nodeType")).val ≠ []) := by
  refine ⟨normalize_ahenk_001 _, fun h => ?_⟩
  have hmem : "ahenk-001" ∈ (flattenTreeAgentIds (fun _ => "") (agentLeaf "nodeType")).val :=
    (mem_flattenTreeAgentIds _ _ _).2 ⟨by decide, _, .root List.mem_cons_self, by decide, normalize_ahenk_001 _⟩
  obtain ⟨entry, hentry⟩ := h.2 (List.ne_nil_of_mem hmem)
  cases hentry

end Lider
