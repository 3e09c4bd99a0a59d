import LiderPlatform.PyText
import LiderPlatform.PySorted
/-!
# AgentIdentity — one agent id from many spellings (`platform_runtime/registration.py`)

The directory, the message server, the database and the API name an agent by a DN, a JID, a host name or a plain id;
`normalizeAgentId` reduces each to the id.  `str(v)` of a string is the string; of any other value it is its `repr`, a
parameter here, since no result depends on it.
-/
namespace Lider

open Py

/-! ## Sources -/

/-- An LDAP attribute: a list of values or a single one, as the LDAP client returns them. -/
inductive AttrValue (V : Type) where
  | many (items : List V)
  | single (item : V)
deriving DecidableEq

structure LdapEntry (V : Type) where
  dn : String
  attrs : List (String × AttrValue V)

/-- A node of the computer tree: its own items, and the two keys its children may stand under. -/
inductive TreeNode where
  | mk (items : Dict) (childEntries children : Option (List TreeNode))

def idsToJson (ids : Ascending String) : Json := .strs ids.val

section
variable (repr : Json → String)

/-- `str(v)`, of a value that was read: its integers have a text. -/
def pyStr : Json → String
  | .str s => s
  | v => repr v

/-! ## Normalisation -/

/-- A text up to the first `sep`. -/
def cutAt (sep : Char) (text : Text) : Text := if sep ∈ text then splitHead sep text else text

/-- The value of the first component of a DN. -/
def firstComponentValue (text : Text) : Text :=
  if ',' ∈ text ∧ '=' ∈ text then
    let head := splitHead ',' text
    if '=' ∈ head then splitTail '=' head else text
  else text

def withoutHost (text : Text) : Text :=
  if "-host".toList <:+ text then text.take (text.length - 5) else text

def normalizeAgentId : Json → Option String
  | .null => none
  | v =>
    let text := strip (pyStr repr v).toList
    if text = [] then none
    else some (String.ofList (withoutHost (firstComponentValue (cutAt '/' (cutAt '@' text)))))

/-- The first candidate with an id that is not empty. -/
def firstIdentity (candidates : List Json) : Option String :=
  candidates.findSome? (fun v => (normalizeAgentId repr v).filter (fun s => s ≠ ""))

def identityFromDomainAgent (agent : Dict) : Option String :=
  firstIdentity repr (["jid", "uid", "hostname", "commonName", "distinguishedName"].map agent.get)

def identityFromCAgent (agent : Dict) : Option String :=
  firstIdentity repr (["jid", "hostname", "agent_id", "client_id", "dn"].map agent.get)

/-- `_first_attr_value`, a value of the client by its text. -/
def firstAttrValue {V : Type} (str : V → String) (entry : LdapEntry V) (key : String) : Json :=
  match entry.attrs.lookup key with
  | none => .null
  | some (.many []) => .null
  | some (.many (item :: _)) => .str (str item)
  | some (.single item) => .str (str item)

def identityFromLdapEntry {V : Type} (str : V → String) (entry : LdapEntry V) : Option String :=
  firstIdentity repr [firstAttrValue str entry "cn", firstAttrValue str entry "uid", .str entry.dn]

/-! ## The computer tree -/

def isAgentNode (items : Dict) : Bool :=
  pyStr repr ((items.get "type").orElse ((items.get "nodeType").orElse (.str ""))) ∈ ["AHENK", "WINDOWS_AHENK"]

def nodeLabel (items : Dict) : Json :=
  (items.get "uid").orElse ((items.get "cn").orElse ((items.get "name").orElse (items.get "distinguishedName")))

/-- The id of a node that is an agent. -/
def agentOfNode (items : Dict) : Option String :=
  if isAgentNode repr items then firstIdentity repr [nodeLabel items] else none

mutual
/-- The ids below one node, itself first; `childEntries` is read unless it is missing or empty. -/
def walkNode : TreeNode → List String
  | .mk items (some (c :: cs)) _ => (agentOfNode repr items).toList ++ (walkNode c ++ walkNodes cs)
  | .mk items _ (some nodes) => (agentOfNode repr items).toList ++ walkNodes nodes
  | .mk items _ none => (agentOfNode repr items).toList
def walkNodes : List TreeNode → List String
  | [] => []
  | n :: ns => walkNode n ++ walkNodes ns
end

def flattenTreeAgentIds (nodes : List TreeNode) : Ascending String := sortedUnique (walkNodes repr nodes)

end
end Lider
