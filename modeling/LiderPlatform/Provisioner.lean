import LiderPlatform.Collector
import LiderPlatform.LdapTree
import LiderPlatform.Restart
/-!
# Provisioner — services/provisioner/provision.py

One run of the provisioner against the directory and the XMPP server, as a program over their state.  Every call that
writes is one write, also where the server refuses it.  A `Backend` is what the servers decide by themselves: how names
compare, which entries the schema takes, which accounts ejabberd registers.  The salts of the hashed passwords are a
run's own.
-/
namespace Lider

open Ldap Restart

/-! ## Names -/

/-- The attributes that name the provisioner's entries. -/
inductive NamingAttr where
  | cn
  | uid
  | ou
deriving DecidableEq

/-- `f"{n:03d}"`. -/
def numbered (n : Nat) : String := String.ofList (List.leftpad 3 '0' (Nat.toDigits 10 n))

def directoryUserArchetypes : List String := ["standard", "privileged", "restricted", "shared"]

def userGroupArchetypes : List String := ["standard", "privileged", "restricted", "shared"]

def endpointGroupArchetypes : List String := ["standard", "restricted", "privileged"]

/-- The archetype of that index, or its number. -/
def archetypeName (head : String) (archetypes : List String) (index : Nat) : String :=
  match archetypes[index]? with
  | some archetype => head ++ archetype
  | none => head ++ numbered (index + 1)

def userGroupName : Nat → String := archetypeName "ug-" userGroupArchetypes

def endpointGroupName : Nat → String := archetypeName "eg-" endpointGroupArchetypes

/-- The names the provisioner gives under `cn`. -/
inductive SeedName : String → Prop where
  | role : SeedName "liderahenk"
  | admins : SeedName "DomainAdmins"
  | userGroup (index : Nat) : SeedName (userGroupName index)
  | endpointGroup (index : Nat) : SeedName (endpointGroupName index)
  | agent (n : Nat) : SeedName (ahenkId n)

/-! ## The two servers -/

/-- A value of an attribute: a text, a name, or the hash of a password. -/
inductive LdapValue (ρ : Type) where
  | text (s : String)
  | dn (d : Dn ρ)
  | ssha (password salt : String)
deriving DecidableEq

/-- The values of each attribute, none where an entry does not have it. -/
abbrev LdapAttrs (ρ : Type) := String → List (LdapValue ρ)

/-- Attributes with their values, as a request has them. -/
abbrev AttrList (ρ : Type) := List (String × List (LdapValue ρ))

def attributesOf {ρ : Type} (attrs : AttrList ρ) : LdapAttrs ρ := fun k => (attrs.lookup k).getD []

/-- `MODIFY_REPLACE` of each attribute. -/
def replaceAttrs {ρ : Type} (changes : AttrList ρ) (e : LdapAttrs ρ) : LdapAttrs ρ := fun k =>
  (changes.lookup k).getD (e k)

/-- A value without the salt of a hash. -/
def LdapValue.unsalted {ρ : Type} : LdapValue ρ → LdapValue ρ
  | .text s => .text s
  | .dn d => .dn d
  | .ssha password _ => .ssha password ""

def unsaltedAttrs {ρ : Type} (e : LdapAttrs ρ) : LdapAttrs ρ := fun k => (e k).map LdapValue.unsalted

/-- What the servers decide: how they compare the components of names, the entries that the schema takes, the entries
that `(objectClass=device)` finds, and the accounts that ejabberd registers. -/
structure Backend (ρ : Type) where
  rdn : NamingAttr → String → ρ
  rdn_attr : ∀ {a b : NamingAttr} {v w : String}, rdn a v = rdn b w → a = b
  rdn_name : ∀ {v w : String}, SeedName v → SeedName w → rdn .cn v = rdn .cn w → v = w
  valid : Dn ρ → LdapAttrs ρ → Bool
  valid_unsalted : ∀ (d : Dn ρ) (e : LdapAttrs ρ), valid d (unsaltedAttrs e) = valid d e
  isDevice : LdapAttrs ρ → Bool
  isDevice_unsalted : ∀ e : LdapAttrs ρ, isDevice (unsaltedAttrs e) = isDevice e
  registers : String → String → Bool

/-- The directory, and the password of each XMPP account. -/
structure Stores (ρ : Type) where
  directory : Directory ρ (LdapAttrs ρ)
  accounts : String → Option String

inductive StoreWrite (ρ : Type) where
  | add (dn : Dn ρ) (attrs : AttrList ρ)
  | modify (dn : Dn ρ) (changes : AttrList ρ)
  | delete (dn : Dn ρ)
  | modifyDn (dn newSuperior : Dn ρ)
  | register (user password : String)

section
variable {ρ : Type} [DecidableEq ρ] (b : Backend ρ)

/-- The LDAP result code of an operation, or the HTTP status of a registration. -/
def Backend.reply (s : Stores ρ) : StoreWrite ρ → Nat
  | .add dn attrs =>
    if dn ∈ s.directory.dns then 68
    else if ¬ s.directory.CanAdd dn then 32
    else if attrs.any (fun a => a.2.isEmpty) then 2
    else if b.valid dn (attributesOf attrs) then 0
    else 65
  | .modify dn changes =>
    match s.directory.find? dn with
    | none => 32
    | some e => if b.valid dn (replaceAttrs changes e) then 0 else 65
  | .delete dn =>
    if dn ∉ s.directory.dns then 32
    else if s.directory.IsLeaf dn then 0
    else 66
  | .modifyDn dn newSuperior =>
    if dn ∉ s.directory.dns then 32
    else if dn.take 1 ++ newSuperior ∈ s.directory.dns then 68
    else if s.directory.CanMove dn newSuperior then 0
    else 53
  | .register user password =>
    if (s.accounts user).isSome then 409
    else if b.registers user password then 200
    else 400

/-- What a write changes, where it is not refused. -/
def Backend.apply (s : Stores ρ) (w : StoreWrite ρ) : Stores ρ :=
  match w with
  | .add dn attrs =>
    if b.reply s w = 0 then { s with directory := s.directory.add dn (attributesOf attrs) } else s
  | .modify dn changes =>
    if b.reply s w = 0 then { s with directory := s.directory.modify dn (replaceAttrs changes) } else s
  | .delete dn => if b.reply s w = 0 then { s with directory := s.directory.delete dn } else s
  | .modifyDn dn newSuperior =>
    if b.reply s w = 0 then { s with directory := s.directory.move dn newSuperior } else s
  | .register user password =>
    if b.reply s w = 200 then { s with accounts := fun u => if u = user then some password else s.accounts u } else s

inductive ProvisionError (ρ : Type) where
  | rootMissing (label : String) (dn : Dn ρ)
  | seedUserFailed (dn : Dn ρ) (result : Nat)
  | seedGroupFailed (dn : Dn ρ) (result : Nat)
  | seedGroupUpdateFailed (dn : Dn ρ) (result : Nat)
  | roleFailed (result : Nat)
  | xmppFailed (username : String) (statusCode : Nat)
  | ldapFailed (dn : Dn ρ) (result : Nat)
  | countMismatch (actual : Nat) (expected : Int)
deriving DecidableEq

/-- A part of a run. -/
abbrev Provision (α : Type) := Prog b.apply (ProvisionError ρ) α

/-- The answer of a step that may find its work done. -/
inductive Seeded where
  | created
  | exists
  | updated
deriving DecidableEq

/-- A call that writes, with its reply. -/
def send (w : StoreWrite ρ) : Provision b Nat := Prog.perform b.reply w

def entryExists (dn : Dn ρ) : Provision b Bool := Prog.look (fun s => decide (dn ∈ s.directory.dns))

def requireBaseEntry (dn : Dn ρ) (label : String) : Provision b Unit := do
  let found ← entryExists b dn
  if found then pure () else Prog.raise (.rootMissing label dn)

/-- `conn.add` of an entry that may exist. -/
def addEntry (dn : Dn ρ) (attrs : AttrList ρ) (failed : Nat → ProvisionError ρ) : Provision b Seeded := do
  let result ← send b (.add dn attrs)
  if result = 0 then pure .created
  else if result = 68 then pure .exists
  else Prog.raise (failed result)

/-! ## What is seeded -/

/-- The environment of a run. -/
structure ProvisionerConfig (ρ : Type) where
  agentCount : Int
  xmppPass : String
  liderAdminUid : String
  seededUserPass : String
  operatorCount : Nat
  directoryUserCount : Nat
  userGroupCount : Nat
  endpointGroupCount : Nat
  baseDn : Dn ρ
  ahenkOu : Dn ρ
  usersOu : Dn ρ
  rolesOu : Dn ρ
  groupsOu : Dn ρ
  agentGroupsOu : Dn ρ

structure UserSpec where
  uid : String
  cn : String
  sn : String
  mail : String
  liderPrivilege : List String

/-- A group to seed.  `extra` holds its other attributes. -/
structure GroupSpec (ρ : Type) where
  dn : Dn ρ
  cn : String
  objectClass : List String
  member : List (Dn ρ)
  extra : List (String × List String) := []
  extra_keys : ∀ k ∈ extra.map Prod.fst, k ∉ ["dn", "objectClass", "cn", "member"] := by decide

variable (cfg : ProvisionerConfig ρ)

def legacyAgentGroupsOu : Dn ρ := b.rdn .ou "Agent" :: b.rdn .ou "Groups" :: cfg.baseDn

def userDn (uid : String) : Dn ρ := b.rdn .uid uid :: cfg.usersOu

def roleDn (cn : String) : Dn ρ := b.rdn .cn cn :: cfg.rolesOu

def groupDn (cn : String) : Dn ρ := b.rdn .cn cn :: cfg.groupsOu

def agentGroupDn (cn : String) : Dn ρ := b.rdn .cn cn :: cfg.agentGroupsOu

def agentDn (cn : String) : Dn ρ := b.rdn .cn cn :: cfg.ahenkOu

def agentOwnerDn : Dn ρ := userDn b cfg cfg.liderAdminUid

/-- `range(1, N + 1)`. -/
def ProvisionerConfig.indices : List Nat := (List.range cfg.agentCount.toNat).map (· + 1)

def defaultOperatorTemplates : List UserSpec :=
  [⟨cfg.liderAdminUid, "Lider Admin", "Admin", "admin@liderahenk.org", ["ROLE_ADMIN", "ROLE_USER"]⟩,
    ⟨"ops-operator", "Ops Operator", "Operator", "ops-operator@liderahenk.org", ["ROLE_USER"]⟩,
    ⟨"policy-operator", "Policy Operator", "Operator", "policy-operator@liderahenk.org", ["ROLE_USER"]⟩]

def operatorSpecs : List UserSpec :=
  (List.range cfg.operatorCount).map fun index =>
    match (defaultOperatorTemplates cfg)[index]? with
    | some spec => spec
    | none =>
      let sequence := numbered (index + 1)
      let uid := "operator-" ++ sequence
      ⟨uid, "Operator " ++ sequence, "Operator", uid ++ "@liderahenk.org", ["ROLE_USER"]⟩

def directoryUserSpecs : List UserSpec :=
  (List.range cfg.directoryUserCount).map fun index =>
    let archetype := directoryUserArchetypes.getD (index % directoryUserArchetypes.length) ""
    let ordinal := numbered (index / directoryUserArchetypes.length + 1)
    let uid := "user-" ++ archetype ++ "-" ++ ordinal
    ⟨uid, archetype.capitalize ++ " User " ++ ordinal, archetype.capitalize, uid ++ "@liderahenk.org", ["ROLE_USER"]⟩

def roundRobinMembers (memberDns : List (Dn ρ)) (bucketCount : Nat) : List (List (Dn ρ)) :=
  memberDns.zipIdx.foldl (fun buckets m => buckets.modify (m.2 % bucketCount) (· ++ [m.1])) (List.replicate bucketCount [])

/-- A user group with those members. -/
def userGroupSpec (index : Nat) (member : List (Dn ρ)) : GroupSpec ρ where
  dn := groupDn b cfg (userGroupName index)
  cn := userGroupName index
  objectClass := ["groupOfNames", "top"]
  member := member

def userGroupSpecs : List (GroupSpec ρ) :=
  let defaultMember := (((operatorSpecs cfg).map (fun spec => userDn b cfg spec.uid)).head?).getD (agentOwnerDn b cfg)
  let buckets := roundRobinMembers ((directoryUserSpecs cfg).map (fun spec => userDn b cfg spec.uid)) cfg.userGroupCount
  (List.range cfg.userGroupCount).map fun index =>
    let bucket := buckets.getD index []
    userGroupSpec b cfg index (if bucket.isEmpty then [defaultMember] else bucket)

def agentDns : List (Dn ρ) := cfg.indices.map (fun index => agentDn b cfg (ahenkId index))

/-- An endpoint group with those members. -/
def endpointGroupSpec (index : Nat) (member : List (Dn ρ)) : GroupSpec ρ where
  dn := agentGroupDn b cfg (endpointGroupName index)
  cn := endpointGroupName index
  objectClass := ["groupOfNames", "pardusDeviceGroup", "top"]
  member := member
  extra := [("liderGroupType", ["AHENK"])]

def endpointGroupSpecs : List (GroupSpec ρ) :=
  let buckets := roundRobinMembers (agentDns b cfg) cfg.endpointGroupCount
  (List.range cfg.endpointGroupCount).filterMap fun index =>
    let bucket := buckets.getD index []
    if bucket.isEmpty then none else some (endpointGroupSpec b cfg index bucket)

/-- The group `DomainAdmins`. -/
def adminGroupSpec : GroupSpec ρ :=
  let operators := (operatorSpecs cfg).map (fun spec => userDn b cfg spec.uid)
  { dn := groupDn b cfg "DomainAdmins"
    cn := "DomainAdmins"
    objectClass := ["groupOfNames", "pardusLider", "top"]
    member := if operators.isEmpty then [agentOwnerDn b cfg] else operators
    extra := [("liderPrivilege", ["ROLE_DOMAIN_ADMIN"]), ("liderGroupType", ["USER"])] }

/-! ## The steps -/

def seedUserAttrs (spec : UserSpec) (salt : String) : AttrList ρ :=
  [("objectClass", ["inetOrgPerson", "organizationalPerson", "person", "pardusAccount", "pardusLider", "top"].map .text),
    ("uid", [.text spec.uid]), ("cn", [.text spec.cn]), ("sn", [.text spec.sn]),
    ("userPassword", [.ssha cfg.seededUserPass salt]), ("mail", [.text spec.mail]),
    ("liderPrivilege", spec.liderPrivilege.map .text)]

def ensureSeedUser (spec : UserSpec) (salt : String) : Provision b Seeded :=
  addEntry b (userDn b cfg spec.uid) (seedUserAttrs cfg spec salt) (.seedUserFailed (userDn b cfg spec.uid))

/-- The other attributes of a group that have a value, without empty values. -/
def GroupSpec.extraMultiValueAttrs {ρ : Type} (spec : GroupSpec ρ) : AttrList ρ :=
  spec.extra.filterMap fun (key, value) =>
    let normalized := value.filter (· ≠ "")
    if normalized.isEmpty then none else some (key, normalized.map .text)

def GroupSpec.attrs {ρ : Type} (spec : GroupSpec ρ) : AttrList ρ :=
  [("objectClass", spec.objectClass.map .text), ("cn", [.text spec.cn]), ("member", spec.member.map .dn)] ++
    spec.extraMultiValueAttrs

def GroupSpec.changes {ρ : Type} (spec : GroupSpec ρ) : AttrList ρ :=
  ("member", spec.member.map .dn) :: spec.extraMultiValueAttrs

def ensureGroupEntry (spec : GroupSpec ρ) : Provision b Seeded := do
  let result ← send b (.add spec.dn spec.attrs)
  if result = 0 then pure .created
  else if result ≠ 68 then Prog.raise (.seedGroupFailed spec.dn result)
  else do
    let result ← send b (.modify spec.dn spec.changes)
    if result ≠ 0 then Prog.raise (.seedGroupUpdateFailed spec.dn result)
    else pure .updated

/-- `salts i` is the salt of the run's hash number `i`. -/
def ensureSeededDirectoryIdentity (salts : Nat → String) : Provision b Unit :=
  let users := operatorSpecs cfg ++ directoryUserSpecs cfg
  let groups := userGroupSpecs b cfg
  if users.isEmpty ∧ groups.isEmpty then pure ()
  else do
    Prog.forEach (users.zipIdx.map (fun spec => ensureSeedUser b cfg spec.1 (salts spec.2)))
    Prog.forEach (groups.map (ensureGroupEntry b))

def ensureSeededEndpointGroups : Provision b Unit :=
  let groups := endpointGroupSpecs b cfg
  if groups.isEmpty then pure ()
  else Prog.forEach (groups.map (ensureGroupEntry b))

def ensureUserTree : Provision b Unit := requireBaseEntry b cfg.usersOu "user-root"

def ensureOuAhenkler : Provision b Unit := requireBaseEntry b cfg.ahenkOu "agent-root"

def ensureGroupTree : Provision b Unit := do
  requireBaseEntry b cfg.groupsOu "user-group-root"
  requireBaseEntry b cfg.agentGroupsOu "agent-group-root"

/-- The attributes of the role `liderahenk`. -/
def roleAttrs : AttrList ρ :=
  [("objectClass", [.text "sudoRole", .text "top"]), ("cn", [.text "liderahenk"]),
    ("description", [.text "LiderAhenk test agent role group"]),
    ("sudoUser", cfg.indices.map (fun i => .text (ahenkId i))),
    ("sudoHost", cfg.indices.map (fun i => .text (ahenkId i ++ "-host"))), ("sudoCommand", [.text "ALL"])]

def ensureRolesOu : Provision b Unit := do
  requireBaseEntry b cfg.rolesOu "role-root"
  requireBaseEntry b cfg.groupsOu "user-group-root"
  let _ ← addEntry b (roleDn b cfg "liderahenk") (roleAttrs cfg) .roleFailed
  let _ ← ensureGroupEntry b (adminGroupSpec b cfg)

def registerXmppIdempotent (username : String) : Provision b Seeded := do
  let statusCode ← send b (.register username cfg.xmppPass)
  if statusCode = 200 then pure .created
  else if statusCode = 409 then pure .exists
  else Prog.raise (.xmppFailed username statusCode)

def agentAttrs (index : Nat) : AttrList ρ :=
  [("objectClass", [.text "pardusDevice", .text "device"]), ("cn", [.text (ahenkId index)]),
    ("uid", [.text (ahenkId index)]), ("userPassword", [.text cfg.xmppPass]), ("owner", [.dn (agentOwnerDn b cfg)])]

def registerLdapIdempotent (index : Nat) : Provision b Seeded :=
  addEntry b (agentDn b cfg (ahenkId index)) (agentAttrs b cfg index) (.ldapFailed (agentDn b cfg (ahenkId index)))

/-- One turn of the agents' loop of `main`. -/
def registerAgent (index : Nat) : Provision b Seeded := do
  let _ ← registerXmppIdempotent b cfg (ahenkId index)
  registerLdapIdempotent b cfg index

/-- One child of the legacy root: deleted where its name is taken, else moved.  A refusal is only recorded. -/
def migrateChild (childDn : Dn ρ) : Provision b Nat := do
  let taken ← entryExists b (childDn.take 1 ++ cfg.agentGroupsOu)
  if taken then send b (.delete childDn) else send b (.modifyDn childDn cfg.agentGroupsOu)

def legacyChildren : Provision b (List (Dn ρ)) :=
  Prog.look (fun s => s.directory.children (legacyAgentGroupsOu b cfg))

def migrateLegacyAgentGroupRoot : Provision b Unit :=
  if legacyAgentGroupsOu b cfg = cfg.agentGroupsOu then pure ()
  else do
    let found ← entryExists b (legacyAgentGroupsOu b cfg)
    if !found then pure ()
    else do
      let childDns ← legacyChildren b cfg
      Prog.forEach (childDns.map (migrateChild b cfg))
      let rest ← legacyChildren b cfg
      if rest.isEmpty then do
        let _ ← send b (.delete (legacyAgentGroupsOu b cfg))
      else pure ()

/-- The entries below the agents' root that are devices. -/
def deviceCount (s : Stores ρ) : Nat :=
  (s.directory.entries.filter (fun e => decide (cfg.ahenkOu <:+ e.1) && b.isDevice e.2)).length

def verifyRegistrations : Provision b Nat := do
  let count ← Prog.look (deviceCount b cfg)
  if (count : Int) ≠ cfg.agentCount then Prog.raise (.countMismatch count cfg.agentCount)
  else pure count

/-- One run. -/
def provision (salts : Nat → String) : Provision b Unit := do
  ensureUserTree b cfg
  ensureOuAhenkler b cfg
  ensureGroupTree b cfg
  ensureSeededDirectoryIdentity b cfg salts
  ensureRolesOu b cfg
  Prog.forEach (cfg.indices.map (registerAgent b cfg))
  ensureSeededEndpointGroups b cfg
  migrateLegacyAgentGroupRoot b cfg
  let _ ← verifyRegistrations b cfg

end

/-! ## A small platform -/

def NamingAttr.text : NamingAttr → String
  | .cn => "cn"
  | .uid => "uid"
  | .ou => "ou"

theorem NamingAttr.text_injective (a b : NamingAttr) (h : a.text = b.text) : a = b := by
  revert h
  cases a <;> cases b <;> decide

/-- Servers that compare names as they stand and take every entry with a class. -/
def sampleBackend : Backend (String × String) where
  rdn a v := (a.text, v)
  rdn_attr h := NamingAttr.text_injective _ _ (congrArg Prod.fst h)
  rdn_name _ _ h := congrArg Prod.snd h
  valid _ e := !(e "objectClass").isEmpty
  valid_unsalted _ e := by
    unfold unsaltedAttrs
    cases e "objectClass" <;> rfl
  isDevice e := (e "objectClass").any (fun v => v = .text "device")
  isDevice_unsalted e := by
    unfold unsaltedAttrs
    rw [List.any_map]
    refine congrArg (e "objectClass").any (funext fun v => ?_)
    cases v <;> simp [LdapValue.unsalted]
  registers _ _ := true

def sampleBase : Dn (String × String) := [("dc", "liderahenk"), ("dc", "org")]

/-- One operator, one user group and two endpoint groups. -/
def sampleProvisioner (n : Int) : ProvisionerConfig (String × String) where
  agentCount := n
  xmppPass := "secret"
  liderAdminUid := "lider-admin"
  seededUserPass := "secret"
  operatorCount := 1
  directoryUserCount := 1
  userGroupCount := 1
  endpointGroupCount := 2
  baseDn := sampleBase
  ahenkOu := ("ou", "Ahenkler") :: sampleBase
  usersOu := ("ou", "users") :: sampleBase
  rolesOu := ("ou", "Roles") :: sampleBase
  groupsOu := ("ou", "Groups") :: sampleBase
  agentGroupsOu := ("ou", "AgentGroups") :: sampleBase

def unitAttrs (name : String) : LdapAttrs (String × String) :=
  attributesOf [("objectClass", [.text "organizationalUnit"]), ("ou", [.text name])]

/-- The roots that `ldap-init` creates. -/
def initRoots : Stores (String × String) where
  directory := {
    base := sampleBase
    entries := [(sampleBase, attributesOf [("objectClass", [.text "dcObject"])]),
      (("ou", "users") :: sampleBase, unitAttrs "users"), (("ou", "Groups") :: sampleBase, unitAttrs "Groups"),
      (("ou", "AgentGroups") :: sampleBase, unitAttrs "AgentGroups"), (("ou", "Roles") :: sampleBase, unitAttrs "Roles"),
      (("ou", "Ahenkler") :: sampleBase, unitAttrs "Ahenkler")]
    nodup := by decide
    closed := by decide }
  accounts _ := none

/-- The roots with a legacy root that has one child. -/
def legacyRoots : Stores (String × String) :=
  let legacy := legacyAgentGroupsOu sampleBackend (sampleProvisioner 0)
  { initRoots with
    directory := (initRoots.directory.add legacy (unitAttrs "Agent")).add (("cn", "lab") :: legacy)
      (attributesOf [("objectClass", [.text "groupOfNames"]), ("member", [.dn sampleBase])]) }

end Lider
