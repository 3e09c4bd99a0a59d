import LiderPlatform.AgentIdentity
import LiderPlatform.PyJsonDumps
/-!
# BaselineCapture — what a golden baseline records (`platform_runtime/golden_baseline.py`)

A capture reads the directory, the runtime configuration and three API surfaces and normalises them into five payload
files.  Configuration fields that hold secrets are recorded by presence and hash only; the directory's entries are
recorded with every attribute, `userPassword` included.  `eraseSecretHashes_eq_iff` compares two captures that differ in
secrets alone.
-/
namespace Lider

open Py

/-! ## The contract (`baseline-registry.yaml`) -/

structure BaselineContract where
  baselineNameEnv : String
  sourceKind : String
  manifest : String
  ldapTree : String
  config : String
  apiCaptures : List String
  uiEvidence : List String
  manifestRequiredFields : List String
  blockingSeverity : String
  severityOrder : List String
  criticalRuntimeFields : List String
  secretRuntimeFields : List String

def baselineContract : BaselineContract where
  baselineNameEnv := "GOLDEN_BASELINE_NAME"
  sourceKind := "stock-liderahenk-install"
  manifest := "manifest.json"
  ldapTree := "ldap-tree.json"
  config := "config.json"
  apiCaptures := ["api-captures/dashboard.json", "api-captures/agent-list.json", "api-captures/computer-tree.json"]
  uiEvidence := ["ui-evidence/dashboard.png", "ui-evidence/computer-management.png"]
  manifestRequiredFields :=
    ["schemaVersion", "baselineName", "status", "source", "capturedAt", "files", "captureContext"]
  blockingSeverity := "error"
  severityOrder := ["error", "warn", "info"]
  criticalRuntimeFields :=
    ["ldapRootDn", "agentLdapBaseDn", "userLdapBaseDn", "userGroupLdapBaseDn", "ahenkGroupLdapBaseDn",
      "xmppServiceName", "xmppResource", "ldapPassword", "xmppPassword"]
  secretRuntimeFields := ["ldapPassword", "xmppPassword", "fileServerPassword", "mailPassword"]

def requiredRelativePaths (c : BaselineContract) : List String :=
  [c.manifest, c.ldapTree, c.config] ++ c.apiCaptures ++ c.uiEvidence

/-- `_tracked_manifest_paths`: every required file but the manifest itself. -/
def trackedManifestPaths (c : BaselineContract) : List String := (requiredRelativePaths c).drop 1

/-! ## The payload files -/

def AttrValue.map {V W : Type} (f : V → W) : AttrValue V → AttrValue W
  | .many items => .many (items.map f)
  | .single item => .single (f item)

def LdapEntry.map {V W : Type} (f : V → W) (e : LdapEntry V) : LdapEntry W :=
  ⟨e.dn, e.attrs.map (fun p => (p.1, p.2.map f))⟩

/-- `ldap-tree.json`. -/
@[ext] structure LdapTreeCapture where
  capturedAt : String
  entries : List (LdapEntry String)
  sorted : entries.Pairwise (fun e f => e.dn ≤ f.dn)

/-- One entry of `fields` in `config.json`; a secret has no `value`. -/
structure ConfigField where
  present : Bool
  source : String
  sha256 : String
  value : Option Document

/-- `config.json`. -/
structure ConfigCapture where
  capturedAt : String
  source : String
  fields : List (String × ConfigField)
  distinct : (fields.map Prod.fst).Nodup

/-- `api-captures/dashboard.json`. -/
structure DashboardCapture where
  capturedAt : String
  payload : Record

/-- `api-captures/agent-list.json`. -/
structure AgentListCapture where
  capturedAt : String
  payload : List Record
  agentIds : Ascending String

/-- `api-captures/computer-tree.json`. -/
structure ComputerTreeCapture where
  capturedAt : String
  payload : List TreeNode
  agentIds : Ascending String

/-- The dictionary `_collect_live_baseline_payload` returns. -/
@[ext] structure BaselinePayload where
  ldapTree : LdapTreeCapture
  config : ConfigCapture
  dashboard : DashboardCapture
  agentList : AgentListCapture
  computerTree : ComputerTreeCapture

/-! ## The payload as documents -/

def AttrValue.toJson : AttrValue String → Json
  | .many items => .arr (items.map .str)
  | .single item => .str item

def LdapEntry.toJson (e : LdapEntry String) : Json :=
  .obj [("dn", .str e.dn), ("attrs", .obj (e.attrs.map (fun p => (p.1, p.2.toJson))))]

def ConfigField.toJson (f : ConfigField) : Json :=
  .obj ([("present", .bool f.present), ("source", .str f.source), ("sha256", .str f.sha256)] ++
    match f.value with
      | none => []
      | some v => [("value", v.val)])

mutual
def TreeNode.toJson : TreeNode → Json
  | .mk items (some entries) (some nodes) =>
    .obj (items ++ [("childEntries", .arr (TreeNode.toJsonList entries)), ("children", .arr (TreeNode.toJsonList nodes))])
  | .mk items (some entries) none => .obj (items ++ [("childEntries", .arr (TreeNode.toJsonList entries))])
  | .mk items none (some nodes) => .obj (items ++ [("children", .arr (TreeNode.toJsonList nodes))])
  | .mk items none none => .obj items
def TreeNode.toJsonList : List TreeNode → List Json
  | [] => []
  | n :: ns => n.toJson :: TreeNode.toJsonList ns
end

/-- One file of the payload: its fixed fields, then its own. -/
def captureFile (capturedAt : String) (fields : Dict) : Json :=
  .obj ([("schemaVersion", .int 1), ("capturedAt", .str capturedAt)] ++ fields)

/-- The payload files by path, in the order they are written. -/
def BaselinePayload.files (p : BaselinePayload) : List (String × Json) :=
  [("ldap-tree.json", captureFile p.ldapTree.capturedAt [("entries", .arr (p.ldapTree.entries.map LdapEntry.toJson))]),
    ("config.json", captureFile p.config.capturedAt
      [("source", .str p.config.source), ("fields", .obj (p.config.fields.map (fun f => (f.1, f.2.toJson))))]),
    ("api-captures/dashboard.json", captureFile p.dashboard.capturedAt [("payload", .obj p.dashboard.payload.val)]),
    ("api-captures/agent-list.json", captureFile p.agentList.capturedAt
      [("payload", .arr (p.agentList.payload.map (fun r => .obj r.val))), ("agentIds", idsToJson p.agentList.agentIds)]),
    ("api-captures/computer-tree.json", captureFile p.computerTree.capturedAt
      [("payload", .arr (TreeNode.toJsonList p.computerTree.payload)),
        ("agentIds", idsToJson p.computerTree.agentIds)])]

/-! ## The capture -/

/-- What the adapters and the clock answer during a capture; `now` holds the five time stamps in order. -/
structure LiveInputs (V : Type) where
  dashboardInfo : Option Record
  agentList : List Record
  computerTree : List TreeNode
  ldapTree : List (LdapEntry V)
  configJson : Record
  now : Fin 5 → String

section
variable (nt : NumText) (sha256 : ByteArray → String) (repr : Json → String) {V : Type} (str : V → String)

/-- The hash of a value of a document that was read, so that its integers have a text. -/
def hashText (value : Json) : String :=
  let text := match value with
    | .null => []
    | .str s => s.toList
    | v => jsonText nt .compact 0 v.sortKeys
  sha256 (encode text)

/-- The entry `_capture_runtime_config` records for a field. -/
def captureField (c : BaselineContract) (configJson : Record) (name : String) : ConfigField :=
  let value := Record.get configJson name
  { present := !value.val.isNone
    source := "c_config.liderConfigParams"
    sha256 := hashText nt sha256 value.val
    value := if name ∉ c.secretRuntimeFields ∧ !value.val.isNone then some value else none }

def captureRuntimeConfig (c : BaselineContract) (configJson : Record) (now : String) : ConfigCapture where
  capturedAt := now
  source := c.sourceKind
  fields := (fromkeys c.criticalRuntimeFields).map (fun name => (name, captureField nt sha256 c configJson name))
  distinct := by
    rw [List.map_map]
    exact (List.map_id' _).symm ▸ nodup_fromkeys c.criticalRuntimeFields

/-- `_normalize_ldap_entries`: every value by its text, the entries sorted by DN. -/
def normalizeLdapEntries (entries : List (LdapEntry V)) : List (LdapEntry String) :=
  sortedBy LdapEntry.dn (entries.map (LdapEntry.map str))

/-- The ids of the agent list: those of all four identity fields of every row. -/
def captureAgentIds (agentList : List Record) : Ascending String :=
  sortedUnique ((agentList.flatMap (fun agent => ["jid", "uid", "hostname", "distinguishedName"].filterMap
    (fun key => normalizeAgentId repr (agent.val.get key)))).filter (fun id => id ≠ ""))

def collectLiveBaselinePayload (c : BaselineContract) (live : LiveInputs V) : BaselinePayload where
  ldapTree := ⟨live.now 0, normalizeLdapEntries str live.ldapTree, sortedBy_pairwise _ _⟩
  config := captureRuntimeConfig nt sha256 c live.configJson (live.now 1)
  dashboard := ⟨live.now 2, live.dashboardInfo.getD Record.empty⟩
  agentList := ⟨live.now 3, live.agentList, captureAgentIds repr live.agentList⟩
  computerTree := ⟨live.now 4, live.computerTree, flattenTreeAgentIds repr live.computerTree⟩

end

/-! ## Captures that differ in secrets -/

/-- The LDAP attribute the provisioner stores the agent's password in. -/
def passwordAttribute : String := "userPassword"

/-- Entries of one DN with the same attributes, equal but for passwords. -/
def EntryEqualButSecrets {V : Type} (e f : LdapEntry V) : Prop :=
  e.dn = f.dn ∧ List.Forall₂ (fun p q => p.1 = q.1 ∧ (p.1 ≠ passwordAttribute → p.2 = q.2)) e.attrs f.attrs

/-- Inputs equal but for the secret configuration fields and the directory's passwords. -/
structure EqualButSecrets {V : Type} (c : BaselineContract) (a b : LiveInputs V) : Prop where
  dashboardInfo : a.dashboardInfo = b.dashboardInfo
  agentList : a.agentList = b.agentList
  computerTree : a.computerTree = b.computerTree
  now : a.now = b.now
  ldapTree : List.Forall₂ EntryEqualButSecrets a.ldapTree b.ldapTree
  configJson : ∀ name, name ∉ c.secretRuntimeFields → a.configJson.val.get name = b.configJson.val.get name

/-- The payload with the hashes of secret configuration fields blanked. -/
def BaselinePayload.eraseSecretHashes (c : BaselineContract) (p : BaselinePayload) : BaselinePayload :=
  { p with
    config :=
      { p.config with
        fields := p.config.fields.map (fun f =>
          (f.1, if f.1 ∈ c.secretRuntimeFields then { f.2 with sha256 := "" } else f.2))
        distinct := by
          rw [List.map_map]
          exact p.config.distinct } }

/-- The same secrets are set in both configurations. -/
def SameSecretsSet {V : Type} (c : BaselineContract) (a b : LiveInputs V) : Prop :=
  ∀ name ∈ c.criticalRuntimeFields, name ∈ c.secretRuntimeFields →
    (a.configJson.val.get name).isNone = (b.configJson.val.get name).isNone

/-- Every password has the same text in both directories. -/
def SamePasswords {V : Type} (str : V → String) (a b : LiveInputs V) : Prop :=
  List.Forall₂ (fun e f => List.Forall₂ (fun p q => p.1 = passwordAttribute → p.2.map str = q.2.map str) e.attrs f.attrs)
    a.ldapTree b.ldapTree

/-- Under a pointwise relation of two lists, equivalent relations hold of them together. -/
theorem forall₂_congr_of {α β : Type} {R P Q : α → β → Prop} (hPQ : ∀ x y, R x y → (P x y ↔ Q x y)) :
    ∀ {xs : List α} {ys : List β}, List.Forall₂ R xs ys → (List.Forall₂ P xs ys ↔ List.Forall₂ Q xs ys)
  | [], [], _ => by simp
  | x :: xs, y :: ys, h => by
    obtain ⟨hxy, hrest⟩ := List.forall₂_cons.1 h
    rw [List.forall₂_cons, List.forall₂_cons, hPQ x y hxy, forall₂_congr_of hPQ hrest]

theorem map_eq_map_iff_forall₂ {α β : Type} (f : α → β) (xs ys : List α) :
    xs.map f = ys.map f ↔ List.Forall₂ (fun x y => f x = f y) xs ys := by
  rw [← List.forall₂_eq_eq_eq, List.forall₂_map_left_iff, List.forall₂_map_right_iff]

theorem LdapEntry.map_eq_iff {V : Type} (str : V → String) (e f : LdapEntry V) (h : EntryEqualButSecrets e f) :
    e.map str = f.map str ↔
      List.Forall₂ (fun p q => p.1 = passwordAttribute → p.2.map str = q.2.map str) e.attrs f.attrs := by
  obtain ⟨hdn, hattrs⟩ := h
  have hmap : e.map str = f.map str ↔
      e.attrs.map (fun p => (p.1, p.2.map str)) = f.attrs.map (fun p => (p.1, p.2.map str)) := by
    simp only [LdapEntry.map, LdapEntry.mk.injEq, hdn, true_and]
  rw [hmap, map_eq_map_iff_forall₂]
  refine forall₂_congr_of (fun p q hpq => ?_) hattrs
  obtain ⟨hname, hvalue⟩ := hpq
  rw [Prod.mk.injEq, and_iff_right hname]
  refine ⟨fun heq _ => heq, fun heq => ?_⟩
  by_cases hp : p.1 = passwordAttribute
  · exact heq hp
  · rw [hvalue hp]

section
variable (nt : NumText) (sha256 : ByteArray → String) (repr : Json → String) {V : Type} (str : V → String)
  (c : BaselineContract) (a b : LiveInputs V) (h : EqualButSecrets c a b)
include h

theorem normalizeLdapEntries_eq_iff :
    normalizeLdapEntries str a.ldapTree = normalizeLdapEntries str b.ldapTree ↔ SamePasswords str a b := by
  have hdns : (a.ldapTree.map (LdapEntry.map str)).map LdapEntry.dn =
      (b.ldapTree.map (LdapEntry.map str)).map LdapEntry.dn := by
    rw [List.map_map, List.map_map, map_eq_map_iff_forall₂]
    exact h.ldapTree.imp (fun e f he => he.1)
  rw [normalizeLdapEntries, normalizeLdapEntries, sortedBy_eq_iff _ _ _ hdns, map_eq_map_iff_forall₂]
  exact forall₂_congr_of (fun e f he => LdapEntry.map_eq_iff str e f he) h.ldapTree

/-- A field is recorded alike, the hash of a secret apart, when it is no secret or both or neither have it. -/
theorem captureField_eq_iff (name : String) :
    (if name ∈ c.secretRuntimeFields then { captureField nt sha256 c a.configJson name with sha256 := "" }
      else captureField nt sha256 c a.configJson name) =
      (if name ∈ c.secretRuntimeFields then { captureField nt sha256 c b.configJson name with sha256 := "" }
        else captureField nt sha256 c b.configJson name) ↔
    (name ∈ c.secretRuntimeFields →
      (a.configJson.val.get name).isNone = (b.configJson.val.get name).isNone) := by
  by_cases hs : name ∈ c.secretRuntimeFields
  · simp [hs, captureField, Record.get]
  · have hget : Record.get a.configJson name = Record.get b.configJson name :=
      Subtype.ext (h.configJson name hs)
    simp [hs, captureField, hget]

theorem captureRuntimeConfig_eq_iff :
    ((collectLiveBaselinePayload nt sha256 repr str c a).eraseSecretHashes c).config =
      ((collectLiveBaselinePayload nt sha256 repr str c b).eraseSecretHashes c).config ↔ SameSecretsSet c a b := by
  simp only [BaselinePayload.eraseSecretHashes, collectLiveBaselinePayload, captureRuntimeConfig,
    ConfigCapture.mk.injEq, h.now, true_and, List.map_map, List.map_inj_left, Function.comp_apply, Prod.mk.injEq,
    captureField_eq_iff nt sha256 c a b h, mem_fromkeys]
  rfl

/-- **Two captures that differ in secrets alone record the same, secret hashes apart, exactly when the same secrets are
set and no password of the directory changed.** -/
theorem eraseSecretHashes_eq_iff :
    (collectLiveBaselinePayload nt sha256 repr str c a).eraseSecretHashes c =
      (collectLiveBaselinePayload nt sha256 repr str c b).eraseSecretHashes c ↔
    SameSecretsSet c a b ∧ SamePasswords str a b := by
  rw [← captureRuntimeConfig_eq_iff nt sha256 repr str c a b h, ← normalizeLdapEntries_eq_iff str c a b h]
  have hldap : ((collectLiveBaselinePayload nt sha256 repr str c a).eraseSecretHashes c).ldapTree =
      ((collectLiveBaselinePayload nt sha256 repr str c b).eraseSecretHashes c).ldapTree ↔
        normalizeLdapEntries str a.ldapTree = normalizeLdapEntries str b.ldapTree := by
    rw [LdapTreeCapture.ext_iff]
    exact and_iff_right (congrFun h.now 0)
  rw [BaselinePayload.ext_iff, hldap]
  refine ⟨fun ⟨hl, hc, _⟩ => ⟨hc, hl⟩, fun ⟨hc, hl⟩ => ⟨hl, hc, ?_, ?_, ?_⟩⟩
  all_goals simp only [BaselinePayload.eraseSecretHashes, collectLiveBaselinePayload, h.now, h.dashboardInfo,
    h.agentList, h.computerTree]

end

/-- An installation with one agent, its directory password and the LDAP administrator's password. -/
def sampleLive (userPassword ldapPassword : String) : LiveInputs String where
  dashboardInfo := none
  agentList := []
  computerTree := []
  ldapTree := [⟨"cn=ahenk-001,ou=Ahenkler,dc=liderahenk,dc=org",
    [("cn", .many ["ahenk-001"]), ("userPassword", .many [userPassword])]⟩]
  configJson := ⟨[("ldapRootDn", .str "dc=liderahenk,dc=org"), ("ldapPassword", .str ldapPassword)], by
    simp [Json.WF, Json.WFMembers, Dict.keys]⟩
  now _ := "2026-01-01T00:00:00+00:00"

theorem sampleLive_equalButSecrets (p q p' q' : String) :
    EqualButSecrets baselineContract (sampleLive p q) (sampleLive p' q') where
  dashboardInfo := rfl
  agentList := rfl
  computerTree := rfl
  now := rfl
  ldapTree := by simp [sampleLive, EntryEqualButSecrets, passwordAttribute]
  configJson name h := by
    have hne : name ≠ "ldapPassword" := by rintro rfl; exact h (by decide)
    simp [sampleLive, hne]

/-- A new administrator password leaves the record as it was, its hash apart. -/
theorem ldapPassword_hidden :
    (collectLiveBaselinePayload .bits (fun _ => "") (fun _ => "") id baselineContract (sampleLive "a" "x")).eraseSecretHashes
        baselineContract =
      (collectLiveBaselinePayload .bits (fun _ => "") (fun _ => "") id baselineContract (sampleLive "a" "y")).eraseSecretHashes
        baselineContract := by
  refine (eraseSecretHashes_eq_iff .bits (fun _ => "") (fun _ => "") id baselineContract _ _
    (sampleLive_equalButSecrets "a" "x" "a" "y")).2 ⟨fun name _ hs => ?_, ?_⟩
  · simp only [baselineContract, List.mem_cons, List.not_mem_nil, or_false] at hs
    rcases hs with rfl | rfl | rfl | rfl <;> simp [sampleLive, Json.isNone]
  · simp [SamePasswords, sampleLive]

/-- **A new agent password shows in the record**: two captures that differ in it alone differ. -/
theorem userPassword_exposed : EqualButSecrets baselineContract (sampleLive "a" "x") (sampleLive "b" "x") ∧
    (collectLiveBaselinePayload .bits (fun _ => "") (fun _ => "") id baselineContract (sampleLive "a" "x")).eraseSecretHashes
        baselineContract ≠
      (collectLiveBaselinePayload .bits (fun _ => "") (fun _ => "") id baselineContract (sampleLive "b" "x")).eraseSecretHashes
        baselineContract := by
  have h := sampleLive_equalButSecrets "a" "x" "b" "x"
  refine ⟨h, fun heq => ?_⟩
  have hentries := congrArg (fun p => p.ldapTree.entries) heq
  have hsame := (normalizeLdapEntries_eq_iff id baselineContract _ _ h).1 hentries
  simp [SamePasswords, sampleLive, passwordAttribute, AttrValue.map] at hsame

end Lider
