import LiderPlatform.BaselineCapture
import LiderPlatform.Collector
/-!
# AgentExtraction — one agent list, read by the baseline and by the collector

`golden_baseline.py` records the ids of four fields of every row; `registration.py` takes of each row the first usable
of five.  `agentExtraction_iff` says for which lists both record the same agents.
-/
namespace Lider

open Py

section
variable (repr : Json → String)

/-! ## The fields of a row -/

/-- The fields of `_identity_from_domain_agent`, in its order. -/
def identityFields : List String := ["jid", "uid", "hostname", "commonName", "distinguishedName"]

/-- The fields of the golden baseline. -/
def baselineFields : List String := ["jid", "uid", "hostname", "distinguishedName"]

/-- The id in a field of a row, if it holds one that is not empty. -/
def usableId (agent : Dict) (key : String) : Option String :=
  (normalizeAgentId repr (agent.get key)).filter (fun id => id ≠ "")

/-- `id` stands in the first usable field of a row, `key`. -/
def Leads (agent : Dict) (key id : String) : Prop :=
  ∃ before after, identityFields = before ++ key :: after ∧ usableId repr agent key = some id ∧
    ∀ earlier ∈ before, usableId repr agent earlier = none

/-- `id` stands in the field `key` of a row, after another usable field. -/
def Trails (agent : Dict) (key id : String) : Prop :=
  ∃ before after, identityFields = before ++ key :: after ∧ usableId repr agent key = some id ∧
    ∃ earlier ∈ before, usableId repr agent earlier ≠ none

/-- Every trailing id of a baseline field leads another row, and every id that leads by `commonName` stands in a
baseline field of some row. -/
def SameAgents (rows : List Dict) : Prop :=
  (∀ agent ∈ rows, ∀ key ∈ baselineFields, ∀ id, Trails repr agent key id →
    ∃ other ∈ rows, ∃ first, Leads repr other first id) ∧
  ∀ agent ∈ rows, ∀ id, Leads repr agent "commonName" id →
    ∃ other ∈ rows, ∃ key ∈ baselineFields, usableId repr other key = some id

theorem identityFromDomainAgent_eq_some_iff (agent : Dict) (id : String) :
    identityFromDomainAgent repr agent = some id ↔ ∃ key, Leads repr agent key id := by
  have hfields : identityFromDomainAgent repr agent = identityFields.findSome? (usableId repr agent) := by
    rw [identityFromDomainAgent, firstIdentity, List.findSome?_map]
    rfl
  rw [hfields, List.findSome?_eq_some_iff]
  constructor
  · rintro ⟨before, key, after, hsplit, hid, hbefore⟩
    exact ⟨key, before, after, hsplit, hid, hbefore⟩
  · rintro ⟨key, before, after, hsplit, hid, hbefore⟩
    exact ⟨before, key, after, hsplit, hid, hbefore⟩

theorem mem_baselineFields_iff (key : String) :
    key ∈ baselineFields ↔ key ∈ identityFields ∧ key ≠ "commonName" := by
  constructor
  · intro h
    simp only [baselineFields, List.mem_cons, List.not_mem_nil, or_false] at h
    rcases h with rfl | rfl | rfl | rfl <;> decide
  · rintro ⟨h, hne⟩
    simp only [identityFields, List.mem_cons, List.not_mem_nil, or_false] at h
    rcases h with rfl | rfl | rfl | rfl | rfl
    · decide
    · decide
    · decide
    · exact absurd rfl hne
    · decide

/-- A usable field leads its row or trails in it. -/
theorem leads_or_trails {agent : Dict} {key id : String} (hkey : key ∈ identityFields)
    (hid : usableId repr agent key = some id) : Leads repr agent key id ∨ Trails repr agent key id := by
  obtain ⟨before, after, hsplit⟩ := List.append_of_mem hkey
  by_cases hfirst : ∀ earlier ∈ before, usableId repr agent earlier = none
  · exact Or.inl ⟨before, after, hsplit, hid, hfirst⟩
  · push Not at hfirst
    exact Or.inr ⟨before, after, hsplit, hid, hfirst⟩

theorem Leads.mem {agent : Dict} {key id : String} (h : Leads repr agent key id) : key ∈ identityFields := by
  obtain ⟨before, after, hsplit, -⟩ := h
  rw [hsplit]
  exact List.mem_append_right _ List.mem_cons_self

/-! ## The two extractors -/

theorem mem_captureAgentIds (agentList : List Record) (id : String) :
    id ∈ (captureAgentIds repr agentList).val ↔
      ∃ agent ∈ agentList.map Subtype.val, ∃ key ∈ baselineFields, usableId repr agent key = some id := by
  rw [captureAgentIds, mem_sortedUnique, List.mem_filter, List.mem_flatMap]
  simp only [List.mem_filterMap, decide_eq_true_eq, List.mem_map, usableId, Option.filter_eq_some_iff]
  constructor
  · rintro ⟨⟨agent, hagent, key, hkey, hid⟩, hne⟩
    exact ⟨agent.val, ⟨agent, hagent, rfl⟩, key, hkey, hid, hne⟩
  · rintro ⟨-, ⟨agent, hagent, rfl⟩, key, hkey, hid, hne⟩
    exact ⟨⟨agent, hagent, key, hkey, hid⟩, hne⟩

theorem mem_domainAgentIds (rows : List Dict) (id : String) :
    id ∈ (sortedUnique (rows.filterMap (identityFromDomainAgent repr))).val ↔
      ∃ agent ∈ rows, ∃ key, Leads repr agent key id := by
  rw [mem_sortedUnique, List.mem_filterMap]
  simp only [identityFromDomainAgent_eq_some_iff]

theorem captureAgentIds_eq_iff (agentList : List Record) :
    captureAgentIds repr agentList =
        sortedUnique ((agentList.map Subtype.val).filterMap (identityFromDomainAgent repr)) ↔
      SameAgents repr (agentList.map Subtype.val) := by
  constructor
  · intro h
    have hmem := fun id => (mem_captureAgentIds repr agentList id).symm.trans
      ((by rw [h] : _ ↔ _).trans (mem_domainAgentIds repr (agentList.map Subtype.val) id))
    refine ⟨fun agent hagent key hkey id htrails => ?_, fun agent hagent id hleads => ?_⟩
    · obtain ⟨before, after, hsplit, hid, -⟩ := htrails
      exact (hmem id).1 ⟨agent, hagent, key, hkey, hid⟩
    · exact (hmem id).2 ⟨agent, hagent, "commonName", hleads⟩
  · rintro ⟨htrails, hcommon⟩
    refine Ascending.ext_mem _ _ (fun id => ?_)
    rw [mem_captureAgentIds, mem_domainAgentIds]
    constructor
    · rintro ⟨agent, hagent, key, hkey, hid⟩
      rcases leads_or_trails repr ((mem_baselineFields_iff key).1 hkey).1 hid with h | h
      · exact ⟨agent, hagent, key, h⟩
      · exact htrails agent hagent key hkey id h
    · rintro ⟨agent, hagent, key, hleads⟩
      by_cases hkey : key = "commonName"
      · subst hkey
        exact hcommon agent hagent id hleads
      · have hbase : key ∈ baselineFields := (mem_baselineFields_iff key).2 ⟨hleads.mem repr, hkey⟩
        obtain ⟨before, after, hsplit, hid, -⟩ := hleads
        exact ⟨agent, hagent, key, hbase, hid⟩

end

/-- **The baseline and the collector record the same agents of one list exactly when every id they read differently
stands elsewhere in it too.** -/
theorem agentExtraction_iff (nt : NumText) (sha256 : ByteArray → String) (repr : Json → String) {V : Type}
    (str : V → String) (c : BaselineContract) (live : LiveInputs V) (platform : Platform V) (runtimeProfile now : String)
    (expectedAgents : Int)
    (h : getAgentList platform.agentInfo defaultPage defaultPageSize = live.agentList.map Subtype.val) :
    (collectLiveBaselinePayload nt sha256 repr str c live).agentList.agentIds =
        (collectSnapshot nt sha256 repr str platform runtimeProfile expectedAgents now).domainAgentIds ↔
      SameAgents repr (live.agentList.map Subtype.val) := by
  rw [← captureAgentIds_eq_iff, ← h]
  rfl

/-- A row with the two fields a freshly registered agent has. -/
def agentRow (jid hostname : String) : Record :=
  ⟨[("jid", .str jid), ("hostname", .str hostname)], by simp [Json.WF, Json.WFMembers, Dict.keys]⟩

/-- A platform whose API lists these rows on every page. -/
def listingPlatform (rows : List Record) : Platform String :=
  { samplePlatform 0 with
    agentInfo := fun _ _ => .ok { statusCode := 200, content := some (rows.map Subtype.val), agents := none } }

def listingLive (rows : List Record) : LiveInputs String := { sampleLive "" "" with agentList := rows }

/-- An agent whose host is named as the agent is the same agent to both. -/
theorem agentExtraction_sample :
    (collectLiveBaselinePayload .bits (fun _ => "") (fun _ => "") id baselineContract
        (listingLive [agentRow "ahenk-001" "ahenk-001-host"])).agentList.agentIds =
      (collectSnapshot .bits (fun _ => "") (fun _ => "") id (listingPlatform [agentRow "ahenk-001" "ahenk-001-host"])
        "dev-fidelity" 1 "").domainAgentIds := by
  refine (agentExtraction_iff .bits (fun _ => "") (fun _ => "") id baselineContract _ _ "dev-fidelity" "" 1 rfl).2
    ((captureAgentIds_eq_iff (fun _ => "") [agentRow "ahenk-001" "ahenk-001-host"]).1 ?_)
  decide

/-- **A host with a name of its own is a second agent to the baseline.** -/
theorem agentExtraction_false : ¬ ∀ (nt : NumText) (sha256 : ByteArray → String) (repr : Json → String)
    (c : BaselineContract) (live : LiveInputs String) (platform : Platform String) (runtimeProfile now : String)
    (expectedAgents : Int),
    getAgentList platform.agentInfo defaultPage defaultPageSize = live.agentList.map Subtype.val →
    (collectLiveBaselinePayload nt sha256 repr id c live).agentList.agentIds =
      (collectSnapshot nt sha256 repr id platform runtimeProfile expectedAgents now).domainAgentIds := by
  intro h
  have heq := h .bits (fun _ => "") (fun _ => "") baselineContract (listingLive [agentRow "ahenk-001" "pc-001"])
    (listingPlatform [agentRow "ahenk-001" "pc-001"]) "dev-fidelity" "" 1 rfl
  have hne : captureAgentIds (fun _ => "") [agentRow "ahenk-001" "pc-001"] ≠
      sortedUnique ([agentRow "ahenk-001" "pc-001"].map Subtype.val |>.filterMap
        (identityFromDomainAgent (fun _ => ""))) := by
    decide
  exact hne heq

end Lider
