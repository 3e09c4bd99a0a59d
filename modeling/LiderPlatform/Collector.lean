import LiderPlatform.Registration
import LiderPlatform.AgentSpelling
import LiderPlatform.PyJsonDumps
/-!
# Collector — one snapshot from six surfaces (`RegistrationCollector.collect_snapshot`)

The collector reads the directory, the message server, the runtime database and the management API, reduces every row
to an agent id and keeps each surface's ids sorted and without duplicates.  The agent list of the API is paged, and
the collector asks for one page with the adapter's default size: `converged_pass_iff` says what that costs.
-/
namespace Lider

open Py

/-! ## What the adapters return -/

/-- The reply of the agent-info endpoint: `content` when it is a list, else the list under `agents`. -/
structure AgentInfoReply where
  statusCode : Nat
  content : Option (List Dict)
  agents : Option (List Dict)

def AgentInfoReply.rows (reply : AgentInfoReply) : List Dict :=
  match reply.content, reply.agents with
  | some rows, _ => rows
  | none, some rows => rows
  | none, none => []

/-- `LiderApiAdapter.get_agent_list`: any failure is an empty list. -/
def getAgentList (post : Nat → Nat → Except PyExc AgentInfoReply) (page size : Nat) : List Dict :=
  match post page size with
  | .error _ => []
  | .ok reply => if reply.statusCode = 200 then reply.rows else []

def defaultPage : Nat := 1
def defaultPageSize : Nat := 100

/-- The surfaces as the adapters answer, each call returning normally. -/
structure Platform (V : Type) where
  dashboardInfo : Option Record
  agentInfo : Nat → Nat → Except PyExc AgentInfoReply
  computerTree : List TreeNode
  ldapEntries : List (LdapEntry V)
  registeredUsers : List String
  connectedUsers : List String
  cAgents : List Dict
  configJson : Json

section
variable (nt : NumText) (sha256 : ByteArray → String) (repr : Json → String) {V : Type} (str : V → String)

/-- The hash of a document that was read, so that its integers have a text. -/
def hashPayload (payload : Json) : String := sha256 (encode (jsonText nt .compact 0 payload.sortKeys))

/-- The ids of a list of XMPP users, the server's own account left out. -/
def xmppAgentIds (users : List String) : AgentIds :=
  sortedUnique ((users.filterMap (fun user => normalizeAgentId repr (.str user))).filter
    (fun agentId => agentId ≠ "" ∧ agentId ≠ "lider_sunucu"))

/-- The dashboard totals, `None` for what it does not answer. -/
def dashboardOf (info : Option Record) : Dashboard :=
  let dashboard := info.getD Record.empty
  { totalComputerNumber := Record.get dashboard "totalComputerNumber"
    totalOnlineComputerNumber := Record.get dashboard "totalOnlineComputerNumber" }

def collectSnapshot (platform : Platform V) (runtimeProfile : String) (expectedAgents : Int) (now : String) :
    Snapshot where
  runtimeProfile := runtimeProfile
  expectedAgents := expectedAgents
  capturedAt := now
  ldapAgentIds := sortedUnique (platform.ldapEntries.filterMap (identityFromLdapEntry repr str))
  xmppRegisteredAgentIds := xmppAgentIds repr platform.registeredUsers
  xmppConnectedAgentIds := xmppAgentIds repr platform.connectedUsers
  cAgentIds := sortedUnique (platform.cAgents.filterMap (identityFromCAgent repr))
  domainAgentIds := sortedUnique ((getAgentList platform.agentInfo defaultPage defaultPageSize).filterMap
    (identityFromDomainAgent repr))
  computerTreeAgentIds := flattenTreeAgentIds repr platform.computerTree
  dashboard := dashboardOf platform.dashboardInfo
  runtimeConfigFingerprint := some (hashPayload nt sha256 platform.configJson)

end

/-! ## The agents of a platform -/

/-- `f"ahenk-{n:03d}"`. -/
def ahenkId (n : Nat) : String := "ahenk-" ++ String.ofList (List.leftpad 3 '0' (Nat.toDigits 10 n))

/-- `ahenk-001` to `ahenk-n`. -/
def agentNames (n : Nat) : List String := (List.range n).map (fun i => ahenkId (i + 1))

theorem toList_ahenkId (n : Nat) : (ahenkId n).toList =
    ['a', 'h', 'e', 'n', 'k', '-'] ++ (List.replicate (3 - (Nat.toDigits 10 n).length) '0' ++ Nat.toDigits 10 n) := by
  simp only [ahenkId, String.toList_append, String.toList_ofList, List.leftpad]
  rfl

theorem ahenkId_injective (m n : Nat) (h : ahenkId m = ahenkId n) : m = n := by
  have key : ∀ k ds, Nat.ofDigitChars 10 (List.replicate k '0' ++ ds) 0 = Nat.ofDigitChars 10 ds 0 := by
    intro k ds
    induction k with
    | zero => rfl
    | succ k ih => rw [List.replicate_succ, List.cons_append, Nat.ofDigitChars_cons]; exact ih
  have hl := congrArg String.toList h
  rw [toList_ahenkId, toList_ahenkId] at hl
  have hd := congrArg (fun cs => Nat.ofDigitChars 10 cs 0) (List.append_cancel_left hl)
  simp only [key, Nat.ofDigitChars_toDigits (b := 10) (by decide) (by decide)] at hd
  exact hd

theorem agentNames_nodup (n : Nat) : (agentNames n).Nodup :=
  List.nodup_range.map (fun i j h => by have := ahenkId_injective _ _ h; omega)

theorem isIdChar_of_isDigit (c : Char) (h : c.isDigit = true) : isIdChar c = true := by
  obtain ⟨h1, h2⟩ := Char.isDigit_iff_toNat.1 h
  have hne : ∀ d ∈ ['@', '/', ',', '='], c ≠ d := by
    simp only [List.mem_cons, List.not_mem_nil, or_false]
    rintro d (rfl | rfl | rfl | rfl) rfl <;> exact absurd h (by decide)
  simp only [isIdChar, Bool.and_eq_true, decide_eq_true_eq]
  exact ⟨⟨Nat.lt_of_lt_of_le (by decide) h1, Nat.lt_of_le_of_lt h2 (by decide)⟩, fun hm => hne c hm rfl⟩

theorem plainId_ahenkId (n : Nat) : PlainId (ahenkId n) where
  chars c hc := by
    rw [toList_ahenkId] at hc
    rcases List.mem_append.1 hc with hc | hc
    · exact (by decide : ∀ c ∈ ['a', 'h', 'e', 'n', 'k', '-'], isIdChar c = true) c hc
    · rcases List.mem_append.1 hc with hc | hc
      · rw [List.eq_of_mem_replicate hc]; decide
      · exact isIdChar_of_isDigit c (Nat.isDigit_of_mem_toDigits (by decide) (by decide) hc)
  nonempty := by rw [toList_ahenkId]; simp
  no_host h := by
    -- the last character is a digit
    obtain ⟨t, ht⟩ := h
    have hne : Nat.toDigits 10 n ≠ [] := by rcases toDigits_head n with h | ⟨c, cs, h, -⟩ <;> rw [h] <;> simp
    have hlast := congrArg List.getLast? ht
    rw [toList_ahenkId, List.getLast?_append_of_ne_nil _ (by decide), List.getLast?_append_of_ne_nil _ (by simp [hne]),
      List.getLast?_append_of_ne_nil _ hne] at hlast
    have ht : 't' ∈ Nat.toDigits 10 n := List.mem_of_getLast? hlast.symm
    exact absurd (Nat.isDigit_of_mem_toDigits (by decide) (by decide) ht) (by decide)

theorem plainId_lider_sunucu : PlainId "lider_sunucu" where
  chars := by decide
  nonempty := by decide
  no_host := by decide

/-! ## Converged platforms -/

/-- The rows name the agents `1..n`, each once, in any order. -/
def HoldsExactly {ρ : Type} (names : ρ → String → Prop) (rows : List ρ) (n : Nat) : Prop :=
  ∃ ids, ids.Perm (agentNames n) ∧ List.Forall₂ names rows ids

/-- The users are the agents `1..n`, each once, and any number of entries of the server's account. -/
def HoldsUsers (users : List String) (n : Nat) : Prop :=
  ∃ ids, (ids.filter (fun id => id ≠ "lider_sunucu")).Perm (agentNames n) ∧
    List.Forall₂ (fun user id => Spells id user) users ids

section
variable (repr : Json → String)

mutual
/-- The nodes the walk visits, by their items. -/
def visited : TreeNode → List Dict
  | .mk items (some (c :: cs)) _ => items :: (visited c ++ visitedAll cs)
  | .mk items _ (some nodes) => items :: visitedAll nodes
  | .mk items _ none => [items]
def visitedAll : List TreeNode → List Dict
  | [] => []
  | n :: ns => visited n ++ visitedAll ns
end

mutual
theorem walkNode_eq : ∀ (n : TreeNode), walkNode repr n = (visited n).filterMap (agentOfNode repr)
  | .mk items (some (c :: cs)) _ => by
    rw [walkNode, visited, walkNode_eq c, walkNodes_eq cs, List.filterMap_cons]
    cases agentOfNode repr items <;> simp
  | .mk items (some []) (some nodes) => by
    rw [walkNode, visited, walkNodes_eq nodes, List.filterMap_cons]
    · cases agentOfNode repr items <;> simp
    all_goals simp
  | .mk items none (some nodes) => by
    rw [walkNode, visited, walkNodes_eq nodes, List.filterMap_cons]
    · cases agentOfNode repr items <;> simp
    all_goals simp
  | .mk items (some []) none => by
    rw [walkNode, visited, List.filterMap_cons]
    · cases agentOfNode repr items <;> simp
    all_goals simp
  | .mk items none none => by
    rw [walkNode, visited, List.filterMap_cons]
    · cases agentOfNode repr items <;> simp
    all_goals simp
theorem walkNodes_eq : ∀ (ns : List TreeNode), walkNodes repr ns = (visitedAll ns).filterMap (agentOfNode repr)
  | [] => rfl
  | n :: ns => by rw [walkNodes, visitedAll, walkNode_eq n, walkNodes_eq ns, List.filterMap_append]
end

/-- A node's label fields spell the id. -/
def NodeSpells (items : Dict) (id : String) : Prop :=
  FirstSpells [items.get "uid", items.get "cn", items.get "name", items.get "distinguishedName"] id

/-- **A converged platform**: every surface holds exactly the agents `1..n`, the dashboard reports them, and the
agent-info endpoint serves page `p` of size `s` as rows `(p - 1) * s` to `p * s - 1`. -/
structure Converged {V : Type} (str : V → String) (platform : Platform V) (n : Nat) : Prop where
  ldap : HoldsExactly (fun entry id => FirstSpells [firstAttrValue str entry "cn", firstAttrValue str entry "uid",
    .str entry.dn] id) platform.ldapEntries n
  registered : HoldsUsers platform.registeredUsers n
  connected : HoldsUsers platform.connectedUsers n
  cAgents : HoldsExactly (fun row id => FirstSpells (["jid", "hostname", "agent_id", "client_id", "dn"].map row.get) id)
    platform.cAgents n
  agentInfo : ∃ rows, HoldsExactly (fun row id =>
      FirstSpells (["jid", "uid", "hostname", "commonName", "distinguishedName"].map row.get) id) rows n ∧
    ∀ page size, 1 ≤ page → ∃ reply, platform.agentInfo page size = .ok reply ∧ reply.statusCode = 200 ∧
      reply.rows = (rows.drop ((page - 1) * size)).take size
  computerTree : HoldsExactly NodeSpells ((visitedAll platform.computerTree).filter (isAgentNode repr)) n
  dashboard : ∃ info, platform.dashboardInfo = some info ∧ info.val.get "totalComputerNumber" = .int n ∧
    info.val.get "totalOnlineComputerNumber" = .int n

end

/-! ## What the collector reads of a converged platform -/

theorem filterMap_of_names {ρ : Type} (names : ρ → String → Prop) (f : ρ → Option String)
    (hf : ∀ row id, PlainId id → names row id → f row = some id) : ∀ (rows : List ρ) (ids : List String),
    (∀ id ∈ ids, PlainId id) → List.Forall₂ names rows ids → rows.filterMap f = ids
  | [], [], _, _ => rfl
  | row :: rows, id :: ids, hplain, h => by
    obtain ⟨hrow, hrest⟩ := List.forall₂_cons.1 h
    rw [List.filterMap_cons_some (hf row id (hplain id List.mem_cons_self) hrow),
      filterMap_of_names names f hf rows ids (fun i hi => hplain i (List.mem_cons_of_mem _ hi)) hrest]

theorem plainId_of_mem_agentNames (n : Nat) (id : String) (h : id ∈ agentNames n) : PlainId id := by
  obtain ⟨i, -, rfl⟩ := List.mem_map.1 h
  exact plainId_ahenkId _

theorem HoldsExactly.sorted {ρ : Type} {names : ρ → String → Prop} {rows : List ρ} {n : Nat}
    (h : HoldsExactly names rows n) (f : ρ → Option String)
    (hf : ∀ row id, PlainId id → names row id → f row = some id) :
    sortedUnique (rows.filterMap f) = sortedUnique (agentNames n) := by
  obtain ⟨ids, hperm, hrows⟩ := h
  have hplain : ∀ id ∈ ids, PlainId id := fun id hid => plainId_of_mem_agentNames n id (hperm.mem_iff.1 hid)
  rw [filterMap_of_names names f hf rows ids hplain hrows]
  exact Ascending.ext_mem _ _ (fun x => by rw [mem_sortedUnique, mem_sortedUnique, hperm.mem_iff])

theorem HoldsUsers.sorted (repr : Json → String) {users : List String} {n : Nat} (h : HoldsUsers users n) :
    xmppAgentIds repr users = sortedUnique (agentNames n) := by
  obtain ⟨ids, hperm, hrows⟩ := h
  have hmem : ∀ id, id ∈ ids ∧ id ≠ "lider_sunucu" ↔ id ∈ agentNames n := fun id => by
    rw [← hperm.mem_iff, List.mem_filter, decide_eq_true_eq]
  have hplain : ∀ id ∈ ids, PlainId id := fun id hid => by
    by_cases hserver : id = "lider_sunucu"
    · rw [hserver]; exact plainId_lider_sunucu
    · exact plainId_of_mem_agentNames n id ((hmem id).1 ⟨hid, hserver⟩)
  have hread := filterMap_of_names (fun user id => Spells id user) (fun user => normalizeAgentId repr (.str user))
    (fun user id hid hs => normalizeAgentId_spells repr id hid user hs) users ids hplain hrows
  unfold xmppAgentIds
  rw [hread]
  refine Ascending.ext_mem _ _ (fun id => ?_)
  rw [mem_sortedUnique, mem_sortedUnique, ← hmem, List.mem_filter, decide_eq_true_eq]
  refine and_congr_right (fun hid => and_iff_right ?_)
  rintro rfl
  exact (hplain _ hid).nonempty rfl

theorem length_sortedUnique_agentNames (n : Nat) : (sortedUnique (agentNames n)).val.length = n := by
  rw [length_sortedUnique _ (agentNames_nodup n), agentNames, List.length_map, List.length_range]

/-- `v or w or ..` over a list. -/
def orElseAll : List Json → Json
  | [] => .null
  | [v] => v
  | v :: w :: vs => v.orElse (orElseAll (w :: vs))

theorem orElseAll_str (s : String) (hs : s ≠ "") (rest : List Json) : ∀ (missing : List Json),
    (∀ v ∈ missing, v = .null ∨ v = .str "") → orElseAll (missing ++ .str s :: rest) = .str s
  | [], _ => by cases rest <;> simp [orElseAll, Json.orElse, Json.truthy, hs]
  | v :: missing, h => by
    have ih := orElseAll_str s hs rest missing (fun w hw => h w (List.mem_cons_of_mem _ hw))
    have hv : v.truthy = false := by rcases h v List.mem_cons_self with rfl | rfl <;> rfl
    obtain ⟨w, ws, hw⟩ := List.exists_cons_of_ne_nil (l := missing ++ .str s :: rest) (by simp)
    rw [List.cons_append, hw, orElseAll, ← hw, ih, Json.orElse, hv]
    rfl

theorem nodeLabel_spells (repr : Json → String) (items : Dict) (id : String) (hid : PlainId id)
    (h : NodeSpells items id) : firstIdentity repr [nodeLabel items] = some id := by
  obtain ⟨missing, s, rest, hall, hnull, hs⟩ := h
  have hlabel : nodeLabel items = .str s := by
    rw [← orElseAll_str s (spells_ne_empty id hid s hs) rest missing hnull, ← hall]
    rfl
  rw [hlabel]
  exact firstIdentity_spells repr id hid _ ⟨[], s, [], rfl, by simp, hs⟩

theorem flattenTreeAgentIds_eq (repr : Json → String) (nodes : List TreeNode) : flattenTreeAgentIds repr nodes =
    sortedUnique (((visitedAll nodes).filter (isAgentNode repr)).filterMap
      (fun items => firstIdentity repr [nodeLabel items])) := by
  rw [flattenTreeAgentIds, walkNodes_eq, List.filterMap_filter]
  rfl

section
variable (nt : NumText) (sha256 : ByteArray → String) (repr : Json → String) {V : Type} (str : V → String)
  {platform : Platform V} {n : Nat} (h : Converged repr str platform n) (runtimeProfile now : String)
include h

/-- Every surface but the paged one is read as the whole list of agents. -/
theorem converged_surfaces :
    let s := collectSnapshot nt sha256 repr str platform runtimeProfile n now
    s.ldapAgentIds = sortedUnique (agentNames n) ∧ s.xmppRegisteredAgentIds = sortedUnique (agentNames n) ∧
      s.xmppConnectedAgentIds = sortedUnique (agentNames n) ∧ s.cAgentIds = sortedUnique (agentNames n) ∧
      s.computerTreeAgentIds = sortedUnique (agentNames n) := by
  refine ⟨?_, h.registered.sorted repr, h.connected.sorted repr, ?_, ?_⟩
  · exact h.ldap.sorted (identityFromLdapEntry repr str)
      (fun entry id hid hs => firstIdentity_spells repr id hid _ hs)
  · exact h.cAgents.sorted (identityFromCAgent repr) (fun row id hid hs => firstIdentity_spells repr id hid _ hs)
  · exact (flattenTreeAgentIds_eq repr platform.computerTree).trans
      (h.computerTree.sorted _ (fun items id hid hs => nodeLabel_spells repr items id hid hs))

/-- The paged surface is read as the agents of the first hundred rows. -/
theorem converged_domain : ∃ ids : List String, ids.Perm (agentNames n) ∧
    (collectSnapshot nt sha256 repr str platform runtimeProfile n now).domainAgentIds = sortedUnique (ids.take 100) := by
  obtain ⟨rows, ⟨ids, hperm, hrows⟩, hpages⟩ := h.agentInfo
  obtain ⟨reply, hpost, hstatus, hreply⟩ := hpages defaultPage defaultPageSize (Nat.le_refl _)
  have hlist : getAgentList platform.agentInfo defaultPage defaultPageSize = rows.take 100 := by
    simp only [getAgentList, hpost, hstatus, if_true, hreply]
    rfl
  have htake : List.Forall₂ _ (rows.take 100) (ids.take 100) := List.forall₂_take 100 hrows
  refine ⟨ids, hperm, ?_⟩
  have hplain : ∀ id ∈ ids.take 100, PlainId id := fun id hid =>
    plainId_of_mem_agentNames n id (hperm.mem_iff.1 (List.mem_of_mem_take hid))
  show sortedUnique ((getAgentList platform.agentInfo defaultPage defaultPageSize).filterMap _) = _
  rw [hlist, filterMap_of_names _ (identityFromDomainAgent repr)
    (fun row id hid hs => firstIdentity_spells repr id hid _ hs) _ _ hplain htake]

/-- **A converged platform passes exactly when its agents fit on one page** of the agent list. -/
theorem converged_agrees_iff :
    (collectSnapshot nt sha256 repr str platform runtimeProfile n now).Agrees ↔ n ≤ 100 := by
  obtain ⟨hldap, hreg, hconn, hc, htree⟩ := converged_surfaces nt sha256 repr str h runtimeProfile now
  obtain ⟨ids, hperm, hdomain⟩ := converged_domain nt sha256 repr str h runtimeProfile now
  obtain ⟨info, hinfo, htotal, honline⟩ := h.dashboard
  have hlen := length_sortedUnique_agentNames n
  have hids : ids.length = n := by rw [hperm.length_eq, agentNames, List.length_map, List.length_range]
  constructor
  · intro ha
    by_contra hn
    have hdlen : (sortedUnique (ids.take 100)).val.length = 100 := by
      have hnodup := (hperm.nodup_iff.2 (agentNames_nodup n)).sublist (List.take_sublist 100 ids)
      rw [length_sortedUnique _ hnodup, List.length_take, hids]
      omega
    have := congrArg (fun a : AgentIds => a.val.length) ha.domain
    simp only [hdomain, hldap, hlen, hdlen] at this
    omega
  · intro hn
    have hall : sortedUnique (ids.take 100) = sortedUnique (agentNames n) := by
      rw [List.take_of_length_le (by omega)]
      exact Ascending.ext_mem _ _ (fun x => by rw [mem_sortedUnique, mem_sortedUnique, hperm.mem_iff])
    have hdash : (dashboardOf platform.dashboardInfo).totalComputerNumber.val = .int n ∧
        (dashboardOf platform.dashboardInfo).totalOnlineComputerNumber.val = .int n := by
      rw [hinfo]
      exact ⟨htotal, honline⟩
    refine ⟨by rw [hreg, hldap], by rw [hc, hldap], by rw [hdomain, hall, hldap], by rw [htree, hldap], ?_, ?_, ?_, ?_⟩
    · rw [hldap, hlen]; rfl
    · rw [hconn, hlen]; rfl
    · show (dashboardOf platform.dashboardInfo).totalComputerNumber.val.pyEq (.int n) = true
      rw [hdash.1]; simp
    · show (dashboardOf platform.dashboardInfo).totalOnlineComputerNumber.val.pyEq _ = true
      rw [hdash.2, hconn, hlen]; simp

end

/-- **A converged platform yields a pass exactly when its agents fit on one page** of the agent list: the collector
asks for the first page only, of the adapter's default size. -/
theorem converged_pass_iff (nt : NumText) (sha256 : ByteArray → String) (repr : Json → String) {V : Type}
    (str : V → String) (platform : Platform V) (n : Nat) (h : Converged repr str platform n)
    (runtimeProfile now : String) :
    (evaluateSnapshot (collectSnapshot nt sha256 repr str platform runtimeProfile n now) false []).status = .pass ↔
      n ≤ 100 := by
  rw [status_pass_iff, ← agrees_iff, converged_agrees_iff nt sha256 repr str h runtimeProfile now]
  exact and_iff_right rfl

/-- A converged platform of `n` agents: a flat organisational unit, JIDs with a resource, the server registered. -/
def samplePlatform (n : Nat) : Platform String where
  dashboardInfo := some ⟨[("totalComputerNumber", .int n), ("totalOnlineComputerNumber", .int n)],
    by simp [Json.WF, Json.WFMembers, Dict.keys]⟩
  agentInfo page size := .ok
    { statusCode := 200
      content := some ((((agentNames n).map (fun id => [("jid", .str id)])).drop ((page - 1) * size)).take size)
      agents := none }
  computerTree := [.mk [("type", .str "ORGANIZATIONAL_UNIT"), ("distinguishedName", .str "ou=Ahenkler")]
    (some ((agentNames n).map (fun id => .mk [("type", .str "AHENK"), ("uid", .str id)] none none))) none]
  ldapEntries := (agentNames n).map (fun id => ⟨"cn=" ++ id ++ ",ou=Ahenkler", [("cn", .many [id])]⟩)
  registeredUsers := "lider_sunucu" :: agentNames n
  connectedUsers := (agentNames n).map (fun id => id ++ "@" ++ "liderahenk.org/ahenk")
  cAgents := (agentNames n).map (fun id => [("jid", .str id), ("dn", .str ("cn=" ++ id ++ ",ou=Ahenkler"))])
  configJson := .obj []

theorem holdsExactly_map {ρ : Type} (names : ρ → String → Prop) (n : Nat) (row : String → ρ)
    (h : ∀ agent, names (row agent) agent) : HoldsExactly names ((agentNames n).map row) n :=
  ⟨agentNames n, List.Perm.refl _, List.forall₂_map_left_iff.2 (List.forall₂_same.2 (fun id _ => h id))⟩

theorem server_not_mem_agentNames (n : Nat) : "lider_sunucu" ∉ agentNames n := by
  intro hm
  obtain ⟨i, -, heq⟩ := List.mem_map.1 hm
  have := congrArg String.toList heq
  rw [toList_ahenkId] at this
  cases this

theorem filter_agentNames (n : Nat) : (agentNames n).filter (fun id => id ≠ "lider_sunucu") = agentNames n :=
  List.filter_eq_self.2 (fun _ hid => decide_eq_true (fun h => server_not_mem_agentNames n (h ▸ hid)))

theorem visitedAll_leaves (items : String → Dict) : ∀ (ids : List String),
    visitedAll (ids.map (fun id => .mk (items id) none none)) = ids.map items
  | [] => rfl
  | _ :: ids => by rw [List.map_cons, visitedAll, visitedAll_leaves items ids]; simp [visited]

theorem visited_entries (items : Dict) (nodes : List TreeNode) :
    visited (.mk items (some nodes) none) = items :: visitedAll nodes := by
  cases nodes <;> simp [visited, visitedAll]

theorem samplePlatform_converged (repr : Json → String) (n : Nat) : Converged repr id (samplePlatform n) n where
  ldap := holdsExactly_map _ n _ (fun id => ⟨[], id, _, rfl, by simp, .plain⟩)
  registered := ⟨"lider_sunucu" :: agentNames n, by rw [List.filter_cons_of_neg (by simp), filter_agentNames],
    List.forall₂_same.2 (fun _ _ => .plain)⟩
  connected := ⟨agentNames n, by rw [filter_agentNames],
    List.forall₂_map_left_iff.2 (List.forall₂_same.2 (fun _ _ => .jid _))⟩
  cAgents := holdsExactly_map _ n _ (fun id => ⟨[], id, _, rfl, by simp, .plain⟩)
  agentInfo := ⟨_, holdsExactly_map _ n _ (fun id => ⟨[], id, _, rfl, by simp, .plain⟩), fun _ _ _ => ⟨_, rfl, rfl, rfl⟩⟩
  computerTree := by
    have hnodes : (visitedAll (samplePlatform n).computerTree).filter (isAgentNode repr) =
        (agentNames n).map (fun id => [("type", .str "AHENK"), ("uid", .str id)]) := by
      rw [samplePlatform, visitedAll, visited_entries,
        visitedAll_leaves (fun id => [("type", .str "AHENK"), ("uid", .str id)])]
      rw [visitedAll, List.append_nil, List.filter_cons_of_neg (by simp [isAgentNode, Json.orElse, Json.truthy, pyStr]),
        List.filter_eq_self.2]
      intro items hitems
      obtain ⟨id, -, rfl⟩ := List.mem_map.1 hitems
      simp [isAgentNode, Json.orElse, Json.truthy, pyStr]
    rw [hnodes]
    exact holdsExactly_map _ n _ (fun id => ⟨[], id, _, rfl, by simp, .plain⟩)
  dashboard := ⟨_, rfl, rfl, rfl⟩

theorem samplePlatform_pass : (evaluateSnapshot (collectSnapshot .bits (fun _ => "") (fun _ => "") id
    (samplePlatform 1) "dev-fast" 1 "2026-01-01T00:00:00+00:00") false []).status = .pass :=
  (converged_pass_iff .bits (fun _ => "") (fun _ => "") id (samplePlatform 1) 1 (samplePlatform_converged _ 1)
    "dev-fast" "2026-01-01T00:00:00+00:00").2 (by decide)

/-- **A hundred and one converged agents fail**: the last one is on the second page. -/
theorem secondPage_unread : Converged (fun _ => "") id (samplePlatform 101) 101 ∧
    (evaluateSnapshot (collectSnapshot .bits (fun _ => "") (fun _ => "") id (samplePlatform 101) "dev-fast" 101
      "2026-01-01T00:00:00+00:00") false []).status ≠ .pass := by
  have h := samplePlatform_converged (fun _ => "") 101
  refine ⟨h, fun hpass => ?_⟩
  have hagrees := (agrees_iff _).2 ((status_pass_iff _ false []).1 hpass).2
  exact absurd ((converged_agrees_iff .bits (fun _ => "") _ id h "dev-fast" _).1 hagrees) (by decide)

end Lider
