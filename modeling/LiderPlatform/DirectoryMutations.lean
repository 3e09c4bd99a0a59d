import LiderPlatform.MutationEvidence
import LiderPlatform.MutationSupport
import LiderPlatform.TreeWalkers
/-!
# DirectoryMutations — the mutations that leave evidence (`adapters/lider_api_adapter.py`)

`create_directory_user` and `add_directory_entries_to_user_group` post to an endpoint that the environment names, wait
until a tree of the API shows what they asked for, and record that in the evidence file.  The server is a parameter: its
answer to the request (`Response`) and, for each poll before the timeout, to the requests for the tree (`TreeApi`).
-/
namespace Py.Record

/-- `d[key] = v`. -/
def set (d : Record) (key : String) (v : Document) : Record :=
  ⟨d.val.set key v.val, Json.wf_set _ _ _ d.property v.property⟩

/-- `d.setdefault(key, v)`. -/
def setdefault (d : Record) (key : String) (v : Document) : Record :=
  ⟨d.val.setdefault key v.val, Json.wf_setdefault _ _ _ d.property v.property⟩

/-- `d.update(items)`, item by item. -/
def update (d : Record) (items : List (String × Document)) : Record := items.foldl (fun d p => d.set p.1 p.2) d

def toDocument (d : Record) : Document := ⟨.obj d.val, d.property⟩

end Py.Record

namespace Lider.DirectoryMutations

open Py

/-! ## Requests -/

inductive AdapterError where
  | notImplemented (message : String)
  /-- The connection fails. -/
  | requestException
  | httpError (statusCode : Nat)
  | lookupError (message : String)
  | python (exc : PyExc)

/-- What `response.content` holds: nothing, a JSON document, or a text that is none. -/
inductive Content where
  | empty
  | json (payload : Json)
  | text (raw : String)

structure Response where
  statusCode : Nat
  content : Content

/-- `raise_for_status`. -/
def raiseForStatus (r : Response) : Except AdapterError Unit :=
  if 400 ≤ r.statusCode ∧ r.statusCode < 600 then .error (.httpError r.statusCode) else .ok ()

/-- `_coerce_json_response`. -/
def coerceJsonResponse (r : Response) : Dict :=
  match r.content with
  | .empty => [("statusCode", .int r.statusCode)]
  | .text raw => [("statusCode", .int r.statusCode), ("rawBody", .str raw)]
  | .json (.obj payload) => payload
  | .json payload => [("statusCode", .int r.statusCode), ("payload", payload)]

/-! ## Trees -/

/-- The server during one poll: the nodes that a path answers, and those below a node, asked for by its DN. -/
structure TreeApi where
  post : String → Except AdapterError (List TreeNode)
  postForm : String → Json → Except AdapterError (List TreeNode)

/-- `node["childEntries"] = entries`. -/
def withChildEntries : TreeNode → List TreeNode → TreeNode
  | .mk items _ children, entries => .mk items (some entries) children

/-- What each reader of a tree does: the nodes, and under each that has a DN the answer to a second request. -/
def readTree (path detailsPath : String) (api : TreeApi) : Except AdapterError (List TreeNode) := do
  let nodes ← api.post path
  nodes.mapM (fun node =>
    let dn := node.items.get "distinguishedName"
    if dn.truthy then return withChildEntries node (← api.postForm detailsPath dn) else return node)

def getUserGroupTree := readTree "/api/lider/user-groups/groups" "/api/lider/user-groups/ou-details"

def getDirectoryUserTree := readTree "/api/lider/user/users" "/api/lider/user/ou-details"

section
variable (repr : Json → String)

/-- `str(first or second or … or "").strip()`. -/
def strippedText (candidates : List Json) : Text := strip (pyStr repr (candidates.foldr Json.orElse (.str ""))).toList

def distinguishedNameOf (node : TreeNode) : Text :=
  strippedText repr [node.items.get "distinguishedName", node.items.get "dn"]

/-- The test of `find_directory_user_entry`. -/
def isDirectoryUser (uid : String) (node : TreeNode) : Bool :=
  let target := strip uid.toList
  let nodeUid := strippedText repr [node.items.get "uid", node.items.get "name", node.items.get "cn"]
  decide (nodeUid = target) || decide (distinguishedNameOf repr node = target) ||
    ("uid=".toList ++ target ++ [',']).isPrefixOf (distinguishedNameOf repr node)

def findDirectoryUserEntry (uid : String) (api : TreeApi) : Except AdapterError (Option TreeNode) := do
  return (iterTreeNodes (← getDirectoryUserTree api)).find? (isDirectoryUser repr uid)

/-- The test of `find_user_group_entry`. -/
def isUserGroup (groupDn : String) (node : TreeNode) : Bool := decide (distinguishedNameOf repr node = strip groupDn.toList)

def findUserGroupEntry (groupDn : String) (api : TreeApi) : Except AdapterError (Option TreeNode) := do
  return (iterTreeNodes (← getUserGroupTree api)).find? (isUserGroup repr groupDn)

/-- `(entry.get(key) or {}).get("member")`. -/
def memberUnder (entry : TreeNode) (key : String) : Except AdapterError Json :=
  match (entry.items.get key).orElse (.obj []) with
  | .obj attributes => .ok (Dict.get attributes "member")
  | _ => .error (.python .attributeError)

/-- `_group_member_dns`. -/
def groupMemberDns (entry : TreeNode) : Except AdapterError (List String) := do
  match ← memberUnder entry "attributesMultiValues" with
  | .arr members => return members.map (pyStr repr)
  | _ =>
    match ← memberUnder entry "attributes" with
    | .arr members => return members.map (pyStr repr)
    | .str member => return [member]
    | _ => return []

/-! ## Postconditions -/

/-- The two mutations, with the arguments that their postconditions read. -/
inductive Mutation where
  | createDirectoryUser (uid selectedOuDn : String)
  | addDirectoryEntriesToUserGroup (groupDn : String) (checkedEntries : List Json)

/-- The DNs of the checked entries. -/
def memberDnsOf (checkedEntries : List Json) : List String :=
  checkedEntries.filterMap (fun entry => match entry with
    | .obj entry =>
      let dn := Dict.get entry "distinguishedName"
      if dn.truthy then some (pyStr repr dn) else none
    | _ => none)

/-- One turn of the loop of `wait_for_directory_user` or `wait_for_user_group_membership`. -/
def look (m : Mutation) (api : TreeApi) : Except AdapterError (Option TreeNode) :=
  match m with
  | .createDirectoryUser uid _ => findDirectoryUserEntry repr uid api
  | .addDirectoryEntriesToUserGroup groupDn checkedEntries => do
    match ← findUserGroupEntry repr groupDn api with
    | none => return none
    | some entry =>
      let currentDns ← groupMemberDns repr entry
      return if (memberDnsOf repr checkedEntries).all (fun dn => decide (dn ∈ currentDns)) then some entry else none

/-- The message of the `LookupError` after the timeout of 30 seconds; `shown` is the list of DNs as Python shows it. -/
def lookupMessage (shown : List String → String) : Mutation → String
  | .createDirectoryUser uid _ => s!"Directory user could not be resolved within 30 seconds: {uid}"
  | .addDirectoryEntriesToUserGroup groupDn checkedEntries =>
    s!"User-group membership could not be verified within 30 seconds: {shown (memberDnsOf repr checkedEntries)} -> {groupDn}"

/-- What a poll shows when it ends the loop. -/
def Postcondition (m : Mutation) (api : TreeApi) (entry : TreeNode) : Prop :=
  match m with
  | .createDirectoryUser uid _ =>
    ∃ nodes, getDirectoryUserTree api = .ok nodes ∧ entry ∈ iterTreeNodes nodes ∧ isDirectoryUser repr uid entry = true
  | .addDirectoryEntriesToUserGroup groupDn checkedEntries =>
    ∃ nodes, getUserGroupTree api = .ok nodes ∧ entry ∈ iterTreeNodes nodes ∧ isUserGroup repr groupDn entry = true ∧
      ∃ current, groupMemberDns repr entry = .ok current ∧ ∀ dn ∈ memberDnsOf repr checkedEntries, dn ∈ current

/-! ## What is recorded -/

/-- The arguments of `_write_ui_mutation_verification`; what is extra has keys of its own. -/
structure Verification where
  stepName : String
  mode : String
  subjectDn : Option String
  groupDn : Option String
  extra : List (String × Document)
  extra_fresh : ∀ p ∈ extra, p.1 ∉ ["runtimeVerified", "mode", "subjectDn", "groupDn"]
  extra_nodup : (extra.map Prod.fst).Nodup

def textDocument (s : String) : Document := ⟨.str s, trivial⟩

def createVerification (endpoint uid verifiedDn : String) : Verification where
  stepName := "create_user_via_ui"
  mode := "ui-first-postcondition"
  subjectDn := some verifiedDn
  groupDn := none
  extra := [("endpoint", textDocument endpoint), ("uid", textDocument uid)]
  extra_fresh := by simp
  extra_nodup := by simp

def membershipVerification (endpoint groupDn firstDn : String) (memberDns : List String) : Verification where
  stepName := "assign_user_to_group_via_ui"
  mode := "existing_group_membership_update"
  subjectDn := some firstDn
  groupDn := some groupDn
  extra := [("endpoint", textDocument endpoint), ("memberDns", ⟨.strs memberDns, Json.wf_strs memberDns⟩)]
  extra_fresh := by simp
  extra_nodup := by simp

/-- `verified_dn`. -/
def verifiedDn (uid selectedOuDn : String) (entry : TreeNode) (responseData : Dict) : String :=
  pyStr repr ([entry.items.get "distinguishedName", entry.items.get "dn", responseData.get "distinguishedName",
    responseData.get "dn"].foldr Json.orElse (.str s!"uid={uid},{selectedOuDn}"))

/-- What a mutation records once its postcondition is seen; nothing is waited for when no entry has a DN. -/
def verificationOf (m : Mutation) (endpoint : String) (responseData : Dict) (entry : TreeNode) : Option Verification :=
  match m with
  | .createDirectoryUser uid selectedOuDn =>
    some (createVerification endpoint uid (verifiedDn repr uid selectedOuDn entry responseData))
  | .addDirectoryEntriesToUserGroup groupDn checkedEntries =>
    match memberDnsOf repr checkedEntries with
    | [] => none
    | firstDn :: dns => some (membershipVerification endpoint groupDn firstDn (firstDn :: dns))

/-- What a mutation adds to the response it returns. -/
def answerOf (m : Mutation) (v : Verification) (responseData : Dict) : Dict :=
  let verified := responseData.set "runtimeVerified" (.bool true)
  match m with
  | .createDirectoryUser _ _ => verified.set "verifiedDn" (.str (v.subjectDn.getD ""))
  | .addDirectoryEntriesToUserGroup groupDn _ => verified.set "verifiedGroupDn" (.str groupDn)

end

/-- `dict(v or {})`; of anything but a dictionary it is taken to fail. -/
def dictOrEmpty (v : Document) : Except PyExc Record :=
  match v with
  | ⟨.obj d, h⟩ => .ok ⟨d, h⟩
  | ⟨w, _⟩ => if w.truthy then .error .typeError else .ok .empty

/-- `load_ui_mutation_evidence() or {}`, on which `.get` is called. -/
def payloadOf (loaded : Option Document) : Except PyExc Record :=
  match loaded with
  | none => .ok .empty
  | some ⟨.obj d, h⟩ => .ok ⟨d, h⟩
  | some ⟨w, _⟩ => if w.truthy then .error .attributeError else .ok .empty

def setOptional (key : String) (v : Option String) (d : Record) : Record :=
  match v with
  | none => d
  | some s => d.set key (textDocument s)

/-- The entry of the step, over the one that stood there. -/
def stepPayload (v : Verification) (before : Record) : Record :=
  let entry := (before.set "runtimeVerified" ⟨.bool true, trivial⟩).set "mode" (textDocument v.mode)
  (setOptional "groupDn" v.groupDn (setOptional "subjectDn" v.subjectDn entry)).update v.extra

/-- The payload that `_write_ui_mutation_verification` writes, from the one it loaded. -/
def verificationPayload (v : Verification) (payload : Record) : Except PyExc Record := do
  let verifiedSteps ← dictOrEmpty (payload.get "verifiedSteps")
  let before ← dictOrEmpty (verifiedSteps.get v.stepName)
  let payload := payload.set "verifiedSteps" (verifiedSteps.set v.stepName (stepPayload v before).toDocument).toDocument
  return payload.setdefault "source" (textDocument "LiderApiAdapter")

/-! ## A call, step by step -/

/-- Where a call is: waiting for the tree, with the postcondition seen, with the evidence loaded, or over. -/
inductive Stage where
  | idle
  | waiting (m : Mutation) (endpoint : String) (responseData : Dict)
  | proven (m : Mutation) (v : Verification) (responseData : Dict)
  | loaded (m : Mutation) (v : Verification) (responseData : Dict) (payload : Record)
  | returned (response : Dict)
  | raised (e : AdapterError)

def endpointEnv : Mutation → String
  | .createDirectoryUser _ _ => "LIDER_DIRECTORY_USER_CREATE_ENDPOINT"
  | .addDirectoryEntriesToUserGroup _ _ => "LIDER_USER_GROUP_ADD_MEMBER_ENDPOINT"

def notConfigured : Mutation → String
  | .createDirectoryUser _ _ => "Official directory user create endpoint is not configured. " ++
    "Set LIDER_DIRECTORY_USER_CREATE_ENDPOINT to enable create_user_via_ui."
  | .addDirectoryEntriesToUserGroup _ _ => "Official user-group membership update endpoint is not configured. " ++
    "Set LIDER_USER_GROUP_ADD_MEMBER_ENDPOINT to enable add-user-to-group mutation."

section
variable (repr : Json → String)

/-- A mutation without a DN to look for returns at once. -/
def waits : Mutation → Bool
  | .createDirectoryUser _ _ => true
  | .addDirectoryEntriesToUserGroup _ checkedEntries => !(memberDnsOf repr checkedEntries).isEmpty

/-- Up to the loop: the endpoint, the request and its status. -/
def Stage.request (env : String → Option String) (m : Mutation) (response : Except AdapterError Response) : Stage :=
  match configuredEndpoint env (endpointEnv m) with
  | none => .raised (.notImplemented (notConfigured m))
  | some endpoint =>
    match response with
    | .error e => .raised e
    | .ok r =>
      match raiseForStatus r with
      | .error e => .raised e
      | .ok _ => if waits repr m then .waiting m endpoint (coerceJsonResponse r) else .returned (coerceJsonResponse r)

/-- One turn of the loop. -/
def Stage.poll (m : Mutation) (endpoint : String) (responseData : Dict) (api : TreeApi) : Stage :=
  match look repr m api with
  | .error e => .raised e
  | .ok none => .waiting m endpoint responseData
  | .ok (some entry) =>
    match verificationOf repr m endpoint responseData entry with
    | some v => .proven m v responseData
    | none => .returned responseData

end

/-- The evidence is loaded, or loading it fails. -/
def Stage.load (m : Mutation) (v : Verification) (responseData : Dict) (evidence : Except PyExc (Option Document)) : Stage :=
  match evidence.bind payloadOf with
  | .error e => .raised (.python e)
  | .ok payload => .loaded m v responseData payload

/-- The evidence is written over what was loaded. -/
def Stage.write (nt : NumText) (access : String → Access) (paths : List String) (generatedAt : String) (m : Mutation)
    (v : Verification) (responseData : Dict) (payload : Record) (fs : Files) : Stage × Files :=
  match (verificationPayload v payload).bind (fun body => writeUiMutationEvidence nt access paths body generatedAt fs) with
  | .error e => (.raised (.python e), fs)
  | .ok (_, fs') => (.returned (answerOf m v responseData), fs')

/-! ## Runs -/

/-- A postcondition that a poll showed, and what the call is to record of it. -/
structure Proof where
  mutation : Mutation
  endpoint : String
  responseData : Dict
  api : TreeApi
  entry : TreeNode
  verification : Verification

def Proof.Holds (repr : Json → String) (p : Proof) : Prop :=
  Postcondition repr p.mutation p.api p.entry ∧
    verificationOf repr p.mutation p.endpoint p.responseData p.entry = some p.verification

/-- The evidence files, the calls of any number of clients, and the postconditions shown so far. -/
structure World (ι : Type) where
  files : Files
  stage : ι → Stage
  proofs : List Proof

variable {ι : Type}

/-- Nothing is recorded, and no call has begun. -/
structure World.Fresh (paths : List String) (w : World ι) : Prop where
  files : ∀ p ∈ paths, w.files p = none
  stage : ∀ i, w.stage i = .idle
  proofs : w.proofs = []

def World.setStage [DecidableEq ι] (w : World ι) (i : ι) (l : Stage) : World ι :=
  { w with stage := Function.update w.stage i l }

/-- The postcondition that a poll shows, if it does. -/
def shown (repr : Json → String) (m : Mutation) (endpoint : String) (responseData : Dict) (api : TreeApi) : List Proof :=
  match look repr m api with
  | .ok (some entry) =>
    ((verificationOf repr m endpoint responseData entry).map
      (fun v => ⟨m, endpoint, responseData, api, entry, v⟩)).toList
  | _ => []

/-- One step of any client, or the removal of a copy by `clear_ui_mutation_evidence`. -/
inductive Step [DecidableEq ι] (repr : Json → String) (nt : NumText) (paths : List String) :
    World ι → World ι → Prop where
  | request (w : World ι) (i : ι) (env : String → Option String) (m : Mutation) (response : Except AdapterError Response) :
      Step repr nt paths w (w.setStage i (.request repr env m response))
  | poll (w : World ι) (i : ι) (api : TreeApi) {m : Mutation} {endpoint : String} {responseData : Dict}
      (h : w.stage i = .waiting m endpoint responseData) :
      Step repr nt paths w
        { w.setStage i (.poll repr m endpoint responseData api) with
          proofs := w.proofs ++ shown repr m endpoint responseData api }
  | timeout (w : World ι) (i : ι) (text : List String → String) {m : Mutation} {endpoint : String} {responseData : Dict}
      (h : w.stage i = .waiting m endpoint responseData) :
      Step repr nt paths w (w.setStage i (.raised (.lookupError (lookupMessage repr text m))))
  | load (w : World ι) (i : ι) (access : String → Access) (evidence : Except PyExc (Option Document)) {m : Mutation}
      {v : Verification} {responseData : Dict} (h : w.stage i = .proven m v responseData)
      (hload : loadUiMutationEvidence nt access paths w.files = evidence.map (Option.map Subtype.val)) :
      Step repr nt paths w (w.setStage i (.load m v responseData evidence))
  | write (w : World ι) (i : ι) (access : String → Access) (generatedAt : String) {m : Mutation} {v : Verification}
      {responseData : Dict} {payload : Record} (h : w.stage i = .loaded m v responseData payload) :
      Step repr nt paths w
        { w.setStage i (Stage.write nt access paths generatedAt m v responseData payload w.files).1 with
          files := (Stage.write nt access paths generatedAt m v responseData payload w.files).2 }
  | unlink (w : World ι) (path : String) : Step repr nt paths w { w with files := w.files.unlink path }

end Lider.DirectoryMutations
