import LiderPlatform.PyInts
import LiderPlatform.PyPaths
/-!
# TopologyProfile — a topology and the environment it exports (`platform/topology/profile_loader.py`)

A runtime profile and the environment select a profile file; environment variables override its defaults by the rules
of `topology-profile-contract.yaml`; the result is exported as environment variables again.  A selected name may lead
to a file outside the profiles' directory, and it is the profile's own name that is exported: `resolve_exported_iff` says
when resolving once more, in the exported environment, changes nothing.
-/
namespace Py

/-! ## Stripping -/

section
variable (p : Char → Bool)

theorem head?_dropBoth (cs : Text) : ∀ c ∈ ((cs.dropWhile p).rdropWhile p).head?, p c = false := by
  intro c hc
  have hprefix : (cs.dropWhile p).rdropWhile p <+: cs.dropWhile p := List.rdropWhile_prefix p _
  obtain ⟨rest, hrest⟩ := hprefix
  have hhead : (cs.dropWhile p).head? = some c := by rw [← hrest, List.head?_append, hc]; rfl
  have := List.head?_dropWhile_not p cs
  rw [hhead] at this
  simpa using this

theorem getLast?_dropBoth (cs : Text) : ∀ c ∈ ((cs.dropWhile p).rdropWhile p).getLast?, p c = false := by
  intro c hc
  have hne : (cs.dropWhile p).rdropWhile p ≠ [] := by
    intro hnil
    rw [hnil] at hc
    cases hc
  have hlast := List.rdropWhile_last_not p (cs.dropWhile p) hne
  rw [List.getLast?_eq_some_getLast hne, Option.mem_def, Option.some.injEq] at hc
  rw [hc] at hlast
  simpa using hlast

end

/-- `str.strip()` of a string. -/
def stripText (s : String) : String := String.ofList (strip s.toList)

@[simp] theorem stripText_stripText (s : String) : stripText (stripText s) = stripText s := by
  have h : strip (strip s.toList) = strip s.toList :=
    dropBoth_eq_self isSpace (head?_dropBoth isSpace s.toList) (getLast?_dropBoth isSpace s.toList)
  rw [stripText, stripText, String.toList_ofList, h]

end Py

namespace Lider

open Py

/-! ## The contract and the profile files -/

inductive CountTarget where
  | operators | directoryUsers | userGroups | endpointGroups
deriving DecidableEq

inductive TextTarget where
  | policyPack | sessionPack | ldapBindMode
deriving DecidableEq

/-- A rule of `override_env`: its type, its target, and the least value of an integer. -/
inductive OverrideRule where
  | int (target : CountTarget) (min : Int)
  | string (target : TextTarget)
deriving DecidableEq

structure TopologyContract where
  runtimeDefaults : List (String × String)
  overrideEnv : List (String × OverrideRule)

/-- `topology-profile-contract.yaml`. -/
def topologyContract : TopologyContract where
  runtimeDefaults := [("dev-fast", "dev-fast"), ("dev-fidelity", "dev-fidelity")]
  overrideEnv :=
    [("OPERATOR_COUNT", .int .operators 1), ("DIRECTORY_USER_COUNT", .int .directoryUsers 1),
      ("USER_GROUP_COUNT", .int .userGroups 1), ("ENDPOINT_GROUP_COUNT", .int .endpointGroups 1),
      ("POLICY_PACK", .string .policyPack), ("SESSION_PACK", .string .sessionPack),
      ("LIDER_LDAP_BIND_MODE", .string .ldapBindMode)]

/-- A count with the roles or archetypes that go with it. -/
structure SeedGroup where
  count : Int
  kinds : List String
deriving DecidableEq

structure TopologyProfile where
  name : String
  runtimeProfile : String
  ldapBindMode : Option String
  operators : SeedGroup
  directoryUsers : SeedGroup
  userGroups : SeedGroup
  endpointGroups : SeedGroup
  policyPack : String
  sessionPack : String
deriving DecidableEq

/-- `resolved`, but for the `env` that is derived from the rest. -/
structure Topology where
  name : String
  runtimeProfile : String
  managedEndpointCount : Int
  operators : SeedGroup
  directoryUsers : SeedGroup
  userGroups : SeedGroup
  endpointGroups : SeedGroup
  policyPack : String
  sessionPack : String
  ldapBindMode : String
deriving DecidableEq

/-- What `resolve_topology_profile` returns. -/
structure ResolvedTopology where
  topology : Topology
  env : List (String × String)
deriving DecidableEq

/-- What the resolution raises. -/
inductive TopologyError where
  | noDefault (runtimeProfile : String)
  | notFound (selectedName : String)
  | wrongRuntime (selectedName found expected : String)
  | notInteger (name value : String)
  | belowMinimum (name : String) (min parsed : Int)
  | blank (name : String)
  | tooManyDigits (value : Int)
deriving DecidableEq

abbrev Environment := String → Option String

/-- `env.update(exported)`. -/
def Environment.update (env : Environment) (exported : List (String × String)) : Environment :=
  fun name => (exported.lookup name).or (env name)

/-! ## The resolution -/

def Topology.count (t : Topology) : CountTarget → Int
  | .operators => t.operators.count
  | .directoryUsers => t.directoryUsers.count
  | .userGroups => t.userGroups.count
  | .endpointGroups => t.endpointGroups.count

def Topology.setCount (t : Topology) (value : Int) : CountTarget → Topology
  | .operators => { t with operators := { t.operators with count := value } }
  | .directoryUsers => { t with directoryUsers := { t.directoryUsers with count := value } }
  | .userGroups => { t with userGroups := { t.userGroups with count := value } }
  | .endpointGroups => { t with endpointGroups := { t.endpointGroups with count := value } }

def Topology.packText (t : Topology) : TextTarget → String
  | .policyPack => t.policyPack
  | .sessionPack => t.sessionPack
  | .ldapBindMode => t.ldapBindMode

def Topology.setText (t : Topology) (value : String) : TextTarget → Topology
  | .policyPack => { t with policyPack := value }
  | .sessionPack => { t with sessionPack := value }
  | .ldapBindMode => { t with ldapBindMode := value }

/-- `resolved`, before the overrides. -/
def TopologyProfile.seed (profile : TopologyProfile) (runtimeProfile : String) (expectedAgents : Int) : Topology where
  name := profile.name
  runtimeProfile := runtimeProfile
  managedEndpointCount := expectedAgents
  operators := profile.operators
  directoryUsers := profile.directoryUsers
  userGroups := profile.userGroups
  endpointGroups := profile.endpointGroups
  policyPack := profile.policyPack
  sessionPack := profile.sessionPack
  ldapBindMode := profile.ldapBindMode.getD "authenticated-user"

/-- The profile files: the directory of the profiles, and what is found at a path. -/
structure ProfileFiles where
  profilesDir : PurePath
  find : PurePath → Option TopologyProfile

def ProfileFiles.profilePath (files : ProfileFiles) (profileName : String) : PurePath :=
  files.profilesDir.join (profileName.toList ++ ".yaml".toList)

/-- The profile that a name selects. -/
def ProfileFiles.select (files : ProfileFiles) (profileName : String) : Option TopologyProfile :=
  files.find (files.profilePath profileName)

section
variable (it : IntText)

/-- `str` of an integer that is exported. -/
def exportedText (value : Int) : Except TopologyError String :=
  match strInt it value with
  | .ok text => .ok (String.ofList text)
  | .error _ => .error (.tooManyDigits value)

/-- The `env` of a resolved topology. -/
def Topology.env (t : Topology) : Except TopologyError (List (String × String)) := do
  let operatorCount ← exportedText it t.operators.count
  let directoryUserCount ← exportedText it t.directoryUsers.count
  let userGroupCount ← exportedText it t.userGroups.count
  let endpointGroupCount ← exportedText it t.endpointGroups.count
  return [("TOPOLOGY_PROFILE", t.name), ("OPERATOR_COUNT", operatorCount), ("DIRECTORY_USER_COUNT", directoryUserCount),
    ("USER_GROUP_COUNT", userGroupCount), ("ENDPOINT_GROUP_COUNT", endpointGroupCount), ("POLICY_PACK", t.policyPack),
    ("SESSION_PACK", t.sessionPack), ("LIDER_LDAP_BIND_MODE", t.ldapBindMode)]

def intOverride (name value : String) (minimum : Int) : Except TopologyError Int :=
  match parseInt it value.toList with
  | none => .error (.notInteger name value)
  | some parsed => if parsed < minimum then .error (.belowMinimum name minimum parsed) else .ok parsed

/-- The body of the loop over `override_env`. -/
def applyOverride (env : Environment) (resolved : Topology) (entry : String × OverrideRule) :
    Except TopologyError Topology :=
  match env entry.1 with
  | none => .ok resolved
  | some rawValue =>
    match entry.2 with
    | .int target min => do
      let value ← intOverride it entry.1 rawValue min
      return resolved.setCount value target
    | .string target =>
      if stripText rawValue = "" then .error (.blank entry.1) else .ok (resolved.setText (stripText rawValue) target)

variable (contract : TopologyContract) (files : ProfileFiles)

def selectedName (runtimeProfile : String) (env : Environment) : Except TopologyError String :=
  let fallback := match contract.runtimeDefaults.lookup runtimeProfile with
    | some name => .ok name
    | none => .error (.noDefault runtimeProfile)
  match env "TOPOLOGY_PROFILE" with
  | none => fallback
  | some name => if name = "" then fallback else .ok name

def resolveTopologyProfile (runtimeProfile : String) (expectedAgents : Int) (env : Environment) :
    Except TopologyError ResolvedTopology := do
  let selected ← selectedName contract runtimeProfile env
  match files.select selected with
  | none => .error (.notFound selected)
  | some profile =>
    if profile.runtimeProfile ≠ runtimeProfile then
      .error (.wrongRuntime selected profile.runtimeProfile runtimeProfile)
    else do
      let resolved ← contract.overrideEnv.foldlM (applyOverride it env) (profile.seed runtimeProfile expectedAgents)
      let exported ← resolved.env it
      return ⟨resolved, exported⟩

/-- The script's own environment with the variables `_runtime_env` sets first. -/
def bootstrapEnv (profile agentCount projectName : String) (osEnviron : Environment) : Environment :=
  osEnviron.update [("AHENK_COUNT", agentCount), ("PLATFORM_RUNTIME_PROFILE", profile), ("PROJECT_NAME", projectName)]

def runtimeEnv (profile : String) (expectedAgents : Int) (projectName : String) (osEnviron : Environment) :
    Except TopologyError (Environment × ResolvedTopology) := do
  let agentCount ← exportedText it expectedAgents
  let env := bootstrapEnv profile agentCount projectName osEnviron
  let topology ← resolveTopologyProfile it contract files profile expectedAgents env
  return (env.update topology.env, topology)

end

/-! ## Counts and texts that can be exported -/

/-- A text that a string override spells: not blank, and without blanks around it. -/
def PlainText (s : String) : Prop := s ≠ "" ∧ stripText s = s

/-- A profile file as the contract wants it. -/
structure TopologyProfile.WellFormed (p : TopologyProfile) : Prop where
  counts : 1 ≤ p.operators.count ∧ 1 ≤ p.directoryUsers.count ∧ 1 ≤ p.userGroups.count ∧ 1 ≤ p.endpointGroups.count
  packs : PlainText p.policyPack ∧ PlainText p.sessionPack
  bindMode : ∀ mode ∈ p.ldapBindMode, PlainText mode

/-- The profile files: each is well formed, and named by its stem. -/
structure ProfileDirectory extends ProfileFiles where
  wellFormed : ∀ path profile, find path = some profile → profile.WellFormed
  named : ∀ path profile, find path = some profile → profile.name = String.ofList path.stem

/-- Profiles that differ in their defaults alone. -/
structure TopologyProfile.SameRoles (p q : TopologyProfile) : Prop where
  runtimeProfile : p.runtimeProfile = q.runtimeProfile
  operators : p.operators.kinds = q.operators.kinds
  directoryUsers : p.directoryUsers.kinds = q.directoryUsers.kinds
  userGroups : p.userGroups.kinds = q.userGroups.kinds
  endpointGroups : p.endpointGroups.kinds = q.endpointGroups.kinds

/-- Under the own name of the profile that a name selects, the profiles' directory has the profile again, or one that
differs in its defaults alone. -/
def ProfileFiles.FoundAgain (files : ProfileFiles) (selected : String) : Prop :=
  ∀ profile, files.select selected = some profile →
    ∃ profile', files.select profile.name = some profile' ∧ profile.SameRoles profile'

def Topology.Exportable (t : Topology) : Prop :=
  (∀ target, 1 ≤ t.count target) ∧ ∀ target, PlainText (t.packText target)

/-- Two topologies that agree in all that the overrides leave alone. -/
structure Topology.SameBase (t u : Topology) : Prop where
  name : t.name = u.name
  runtimeProfile : t.runtimeProfile = u.runtimeProfile
  managedEndpointCount : t.managedEndpointCount = u.managedEndpointCount
  operators : t.operators.kinds = u.operators.kinds
  directoryUsers : t.directoryUsers.kinds = u.directoryUsers.kinds
  userGroups : t.userGroups.kinds = u.userGroups.kinds
  endpointGroups : t.endpointGroups.kinds = u.endpointGroups.kinds

theorem Topology.SameBase.refl (t : Topology) : t.SameBase t := ⟨rfl, rfl, rfl, rfl, rfl, rfl, rfl⟩

theorem Topology.SameBase.trans {t u v : Topology} (h : t.SameBase u) (h' : u.SameBase v) : t.SameBase v where
  name := h.name.trans h'.name
  runtimeProfile := h.runtimeProfile.trans h'.runtimeProfile
  managedEndpointCount := h.managedEndpointCount.trans h'.managedEndpointCount
  operators := h.operators.trans h'.operators
  directoryUsers := h.directoryUsers.trans h'.directoryUsers
  userGroups := h.userGroups.trans h'.userGroups
  endpointGroups := h.endpointGroups.trans h'.endpointGroups

@[simp] theorem count_setCount (t : Topology) (value : Int) (target target' : CountTarget) :
    (t.setCount value target).count target' = if target' = target then value else t.count target' := by
  cases target <;> cases target' <;> rfl

@[simp] theorem packText_setCount (t : Topology) (value : Int) (target : CountTarget) (target' : TextTarget) :
    (t.setCount value target).packText target' = t.packText target' := by
  cases target <;> cases target' <;> rfl

@[simp] theorem count_setText (t : Topology) (value : String) (target : TextTarget) (target' : CountTarget) :
    (t.setText value target).count target' = t.count target' := by
  cases target <;> cases target' <;> rfl

@[simp] theorem packText_setText (t : Topology) (value : String) (target target' : TextTarget) :
    (t.setText value target).packText target' = if target' = target then value else t.packText target' := by
  cases target <;> cases target' <;> rfl

theorem sameBase_setCount (t : Topology) (value : Int) (target : CountTarget) : t.SameBase (t.setCount value target) := by
  cases target <;> exact ⟨rfl, rfl, rfl, rfl, rfl, rfl, rfl⟩

theorem sameBase_setText (t : Topology) (value : String) (target : TextTarget) : t.SameBase (t.setText value target) := by
  cases target <;> exact ⟨rfl, rfl, rfl, rfl, rfl, rfl, rfl⟩

theorem TopologyProfile.seed_exportable {p : TopologyProfile} (h : p.WellFormed) (runtimeProfile : String)
    (expectedAgents : Int) : (p.seed runtimeProfile expectedAgents).Exportable := by
  obtain ⟨hops, husers, hugroups, hegroups⟩ := h.counts
  refine ⟨fun target => ?_, fun target => ?_⟩
  · cases target with
    | operators => exact hops
    | directoryUsers => exact husers
    | userGroups => exact hugroups
    | endpointGroups => exact hegroups
  · cases target with
    | policyPack => exact h.packs.1
    | sessionPack => exact h.packs.2
    | ldapBindMode =>
      show PlainText (p.ldapBindMode.getD "authenticated-user")
      cases hmode : p.ldapBindMode with
      | none => exact ⟨by decide, by decide⟩
      | some mode => exact h.bindMode mode hmode

/-! ## Names and paths -/

/-- The name of the file that a profile's name leads to. -/
theorem name_profilePath (files : ProfileFiles) (profileName : String) :
    (files.profilePath profileName).name = lastPart profileName.toList ++ ".yaml".toList := by
  have hlast : lastPart (profileName.toList ++ ".yaml".toList) = lastPart profileName.toList ++ ".yaml".toList :=
    lastPart_append _ (by decide)
  rw [ProfileFiles.profilePath, PurePath.name_join]
  · exact hlast
  · rw [hlast]
    exact List.append_ne_nil_of_right_ne_nil _ (by decide)
  · rw [hlast]
    intro hdot
    simpa using congrArg List.length hdot

theorem stem_profilePath (files : ProfileFiles) (profileName : String) : (files.profilePath profileName).stem =
    if lastPart profileName.toList = [] then ".yaml".toList else lastPart profileName.toList :=
  PurePath.stem_of_name (name_profilePath files profileName) (by decide) (by decide)

/-- **A profile's own name has no slash, and is not empty.** -/
theorem ProfileDirectory.name_of_select (dir : ProfileDirectory) {selected : String} {profile : TopologyProfile}
    (h : dir.select selected = some profile) : '/' ∉ profile.name.toList ∧ profile.name ≠ "" := by
  have hname : profile.name.toList =
      if lastPart selected.toList = [] then ".yaml".toList else lastPart selected.toList := by
    rw [dir.named _ _ h, String.toList_ofList, stem_profilePath]
  split at hname
  · exact ⟨by rw [hname]; decide, fun hempty => by rw [hempty] at hname; cases hname⟩
  · rename_i hne
    exact ⟨by rw [hname]; exact slash_not_mem_lastPart _, fun hempty => hne (by rw [← hname, hempty]; rfl)⟩

/-- A name without slashes selects the profile of that name. -/
theorem ProfileDirectory.name_of_plain (dir : ProfileDirectory) {selected : String} {profile : TopologyProfile}
    (h : dir.select selected = some profile) (hplain : '/' ∉ selected.toList) (hne : selected ≠ "") :
    profile.name = selected := by
  have hlast : lastPart selected.toList = selected.toList := lastPart_eq_self hplain
  rw [dir.named _ _ h, stem_profilePath, hlast, if_neg (by simpa using hne), String.ofList_toList]

/-- **A name without slashes selects a profile that is found again.** -/
theorem ProfileDirectory.foundAgain_of_plain (dir : ProfileDirectory) {selected : String}
    (hplain : '/' ∉ selected.toList) (hne : selected ≠ "") : dir.FoundAgain selected := by
  intro profile h
  exact ⟨profile, by rw [dir.name_of_plain h hplain hne, h], ⟨rfl, rfl, rfl, rfl, rfl⟩⟩

/-! ## Overrides -/

section
variable (it : IntText)

theorem le_of_intOverride {name value : String} {minimum parsed : Int}
    (h : intOverride it name value minimum = .ok parsed) : minimum ≤ parsed := by
  unfold intOverride at h
  split at h
  · cases h
  · split at h
    · cases h
    · cases h
      omega

theorem exportedText_eq_ok {value : Int} {text : String} (h : exportedText it value = .ok text) :
    parseInt it text.toList = some value := by
  unfold exportedText at h
  split at h
  · rename_i digits hdigits
    cases h
    rw [String.toList_ofList]
    exact parseInt_of_strInt it hdigits
  · cases h

/-- A count that is exported is read back. -/
theorem intOverride_exportedText (name : String) {minimum value : Int} {text : String}
    (htext : exportedText it value = .ok text) (h : minimum ≤ value) : intOverride it name text minimum = .ok value := by
  simp only [intOverride, exportedText_eq_ok it htext]
  exact if_neg (by omega)

/-- The integer rules all have the minimum 1. -/
def AtLeastOne (rules : List (String × OverrideRule)) : Prop :=
  ∀ entry ∈ rules, ∀ target min, entry.2 = .int target min → min = 1

/-- **An override sets its target to something that can be exported**, and nothing else. -/
theorem applyOverride_ok {env : Environment} {t u : Topology} {entry : String × OverrideRule}
    (hmin : ∀ target min, entry.2 = .int target min → min = 1) (h : applyOverride it env t entry = .ok u) :
    t.SameBase u ∧ (t.Exportable → u.Exportable) := by
  unfold applyOverride at h
  split at h
  · cases h
    exact ⟨.refl t, id⟩
  · split at h
    · rename_i target min hrule
      cases hvalue : intOverride it entry.1 _ min with
      | error e => rw [hvalue] at h; cases h
      | ok value =>
        rw [hvalue] at h
        cases h
        have hone : 1 ≤ value := hmin target min hrule ▸ le_of_intOverride it hvalue
        refine ⟨sameBase_setCount t value target, fun ht => ⟨fun target' => ?_, fun target' => ?_⟩⟩
        · rw [count_setCount]
          split
          · exact hone
          · exact ht.1 target'
        · rw [packText_setCount]
          exact ht.2 target'
    · split at h
      · cases h
      · rename_i target hrule hblank
        cases h
        refine ⟨sameBase_setText t _ target, fun ht => ⟨fun target' => ?_, fun target' => ?_⟩⟩
        · rw [count_setText]
          exact ht.1 target'
        · rw [packText_setText]
          split
          · exact ⟨hblank, stripText_stripText _⟩
          · exact ht.2 target'

theorem foldlM_applyOverride_ok (env : Environment) : ∀ (rules : List (String × OverrideRule)) (t u : Topology),
    AtLeastOne rules → rules.foldlM (applyOverride it env) t = .ok u →
      t.SameBase u ∧ (t.Exportable → u.Exportable)
  | [], t, u, _, h => by
    cases h
    exact ⟨.refl t, id⟩
  | entry :: rules, t, u, hmin, h => by
    rw [List.foldlM_cons] at h
    obtain ⟨middle, hstep, h⟩ := bind_eq_ok h
    obtain ⟨hbase, hexp⟩ := applyOverride_ok it (hmin entry List.mem_cons_self) hstep
    obtain ⟨hbases, hexps⟩ := foldlM_applyOverride_ok env rules middle u
      (fun entry' hentry => hmin entry' (List.mem_cons_of_mem _ hentry)) h
    exact ⟨hbase.trans hbases, fun ht => hexps (hexp ht)⟩

/-- A text is what a topology exports for the target of a rule. -/
def OverrideRule.Exports (t : Topology) (text : String) : OverrideRule → Prop
  | .int target _ => exportedText it (t.count target) = .ok text
  | .string target => t.packText target = text

/-- `u` with the target of a rule as `t` has it. -/
def OverrideRule.copy (t u : Topology) : OverrideRule → Topology
  | .int target _ => u.setCount (t.count target) target
  | .string target => u.setText (t.packText target) target

/-- **An exported value overrides with itself.** -/
theorem applyOverride_exported {env : Environment} {t : Topology} (ht : t.Exportable) (u : Topology)
    {entry : String × OverrideRule} (hmin : ∀ target min, entry.2 = .int target min → min = 1)
    (henv : ∃ text, env entry.1 = some text ∧ entry.2.Exports it t text) :
    applyOverride it env u entry = .ok (entry.2.copy t u) := by
  obtain ⟨name, rule⟩ := entry
  obtain ⟨text, henv, hexports⟩ := henv
  simp only [applyOverride, henv]
  cases rule with
  | int target min =>
    have hle : min ≤ t.count target := (hmin target min rfl).symm ▸ ht.1 target
    simp only [intOverride_exportedText it name hexports hle]
    rfl
  | string target =>
    obtain rfl := hexports
    obtain ⟨hne, hstrip⟩ := ht.2 target
    simp only [hstrip, if_neg hne]
    rfl

theorem foldlM_applyOverride_exported {env : Environment} {t : Topology} (ht : t.Exportable) :
    ∀ (rules : List (String × OverrideRule)) (u : Topology), AtLeastOne rules →
      (∀ entry ∈ rules, ∃ text, env entry.1 = some text ∧ entry.2.Exports it t text) →
      rules.foldlM (applyOverride it env) u = .ok (rules.foldl (fun u entry => entry.2.copy t u) u)
  | [], u, _, _ => rfl
  | entry :: rules, u, hmin, henv => by
    rw [List.foldlM_cons, applyOverride_exported it ht u (hmin entry List.mem_cons_self)
      (henv entry List.mem_cons_self)]
    exact foldlM_applyOverride_exported ht rules (entry.2.copy t u)
      (fun entry' hentry => hmin entry' (List.mem_cons_of_mem _ hentry))
      (fun entry' hentry => henv entry' (List.mem_cons_of_mem _ hentry))

/-! ## The contract of the repository -/

theorem topologyContract_atLeastOne : AtLeastOne topologyContract.overrideEnv := by
  intro entry hentry target min hrule
  simp only [topologyContract, List.mem_cons, List.not_mem_nil, or_false] at hentry
  rcases hentry with rfl | rfl | rfl | rfl | rfl | rfl | rfl <;> cases hrule <;> rfl

/-- The exported environment names the profile, and every target of the contract. -/
theorem update_env_exported (env : Environment) {t : Topology} {exported : List (String × String)}
    (h : t.env it = .ok exported) : env.update exported "TOPOLOGY_PROFILE" = some t.name ∧
      ∀ entry ∈ topologyContract.overrideEnv,
        ∃ text, env.update exported entry.1 = some text ∧ entry.2.Exports it t text := by
  unfold Topology.env at h
  obtain ⟨operatorCount, hoperators, h⟩ := bind_eq_ok h
  obtain ⟨directoryUserCount, husers, h⟩ := bind_eq_ok h
  obtain ⟨userGroupCount, hugroups, h⟩ := bind_eq_ok h
  obtain ⟨endpointGroupCount, hegroups, h⟩ := bind_eq_ok h
  cases h
  refine ⟨rfl, fun entry hentry => ?_⟩
  simp only [topologyContract, List.mem_cons, List.not_mem_nil, or_false] at hentry
  rcases hentry with rfl | rfl | rfl | rfl | rfl | rfl | rfl
  · exact ⟨operatorCount, rfl, hoperators⟩
  · exact ⟨directoryUserCount, rfl, husers⟩
  · exact ⟨userGroupCount, rfl, hugroups⟩
  · exact ⟨endpointGroupCount, rfl, hegroups⟩
  · exact ⟨t.policyPack, rfl, rfl⟩
  · exact ⟨t.sessionPack, rfl, rfl⟩
  · exact ⟨t.ldapBindMode, rfl, rfl⟩

/-- The rules of the contract set all that two topologies of one base can differ in. -/
theorem copy_all {t u : Topology} (h : u.SameBase t) :
    topologyContract.overrideEnv.foldl (fun u entry => entry.2.copy t u) u = t := by
  obtain ⟨hname, hruntime, hmanaged, hops, husers, hugroups, hegroups⟩ := h
  obtain ⟨name, runtimeProfile, managed, ⟨_, _⟩, ⟨_, _⟩, ⟨_, _⟩, ⟨_, _⟩, _, _, _⟩ := t
  obtain ⟨name', runtimeProfile', managed', ⟨_, _⟩, ⟨_, _⟩, ⟨_, _⟩, ⟨_, _⟩, _, _, _⟩ := u
  simp only at hname hruntime hmanaged hops husers hugroups hegroups
  subst hname hruntime hmanaged hops husers hugroups hegroups
  rfl

theorem resolve_ok_iff (contract : TopologyContract) (files : ProfileFiles) (runtimeProfile : String)
    (expectedAgents : Int) (env : Environment) (resolved : ResolvedTopology) :
    resolveTopologyProfile it contract files runtimeProfile expectedAgents env = .ok resolved ↔
      ∃ selected profile, selectedName contract runtimeProfile env = .ok selected ∧ files.select selected = some profile ∧
        profile.runtimeProfile = runtimeProfile ∧
        contract.overrideEnv.foldlM (applyOverride it env) (profile.seed runtimeProfile expectedAgents) =
          .ok resolved.topology ∧ resolved.topology.env it = .ok resolved.env := by
  unfold resolveTopologyProfile
  constructor
  · intro h
    obtain ⟨selected, hselected, h⟩ := bind_eq_ok h
    cases hfile : files.select selected with
    | none => rw [hfile] at h; cases h
    | some profile =>
      simp only [hfile] at h
      split at h
      · cases h
      · rename_i hruntime
        obtain ⟨topology, hfold, h⟩ := bind_eq_ok h
        obtain ⟨exported, henv, h⟩ := bind_eq_ok h
        cases h
        exact ⟨selected, profile, hselected, hfile, not_not.1 hruntime, hfold, henv⟩
  · rintro ⟨selected, profile, hselected, hfile, hruntime, hfold, henv⟩
    rw [hselected]
    change (match files.select selected with | none => _ | some profile => _) = _
    simp only [hfile]
    rw [if_neg (not_not.2 hruntime), hfold]
    change ((resolved.topology.env it).bind _) = _
    rw [henv]
    rfl

/-- **Resolving again in the exported environment yields the same topology, exactly when the selected profile is found
again under its own name**, or one with its roles. -/
theorem resolve_update_env_iff (dir : ProfileDirectory) {runtimeProfile : String} {expectedAgents : Int}
    {env : Environment} {resolved : ResolvedTopology}
    (h : resolveTopologyProfile it topologyContract dir.toProfileFiles runtimeProfile expectedAgents env = .ok resolved) :
    resolveTopologyProfile it topologyContract dir.toProfileFiles runtimeProfile expectedAgents
        (env.update resolved.env) = .ok resolved ↔
      ∃ selected, selectedName topologyContract runtimeProfile env = .ok selected ∧ dir.FoundAgain selected := by
  obtain ⟨selected, profile, hselected, hfile, hruntime, hfold, henv⟩ := (resolve_ok_iff it _ _ _ _ _ _).1 h
  obtain ⟨hbase, hexportable⟩ := foldlM_applyOverride_ok it env _ _ _ topologyContract_atLeastOne hfold
  obtain ⟨hprofile, htargets⟩ := update_env_exported it env henv
  obtain ⟨hslash, hne⟩ := dir.name_of_select hfile
  have hname : resolved.topology.name = profile.name := hbase.name.symm
  have hagain : selectedName topologyContract runtimeProfile (env.update resolved.env) = .ok profile.name := by
    simp only [selectedName, hprofile, hname, if_neg hne]
  constructor
  · intro hresolved
    obtain ⟨selected', profile', hselected', hfile', hruntime', hfold', -⟩ := (resolve_ok_iff it _ _ _ _ _ _).1 hresolved
    obtain rfl := Except.ok.inj (hagain.symm.trans hselected')
    obtain ⟨hbase', -⟩ := foldlM_applyOverride_ok it _ _ _ _ topologyContract_atLeastOne hfold'
    refine ⟨selected, hselected, fun profile'' hfile'' => ?_⟩
    obtain rfl := Option.some.inj (hfile.symm.trans hfile'')
    exact ⟨profile', hfile', hruntime.trans hruntime'.symm, hbase.operators.trans hbase'.operators.symm,
      hbase.directoryUsers.trans hbase'.directoryUsers.symm, hbase.userGroups.trans hbase'.userGroups.symm,
      hbase.endpointGroups.trans hbase'.endpointGroups.symm⟩
  · rintro ⟨selected', hselected', hfound⟩
    obtain rfl := Except.ok.inj (hselected.symm.trans hselected')
    obtain ⟨profile', hfile', hroles⟩ := hfound profile hfile
    have hbase' : (profile'.seed runtimeProfile expectedAgents).SameBase resolved.topology :=
      { name := (dir.name_of_plain hfile' hslash hne).trans hname.symm
        runtimeProfile := hbase.runtimeProfile
        managedEndpointCount := hbase.managedEndpointCount
        operators := hroles.operators.symm.trans hbase.operators
        directoryUsers := hroles.directoryUsers.symm.trans hbase.directoryUsers
        userGroups := hroles.userGroups.symm.trans hbase.userGroups
        endpointGroups := hroles.endpointGroups.symm.trans hbase.endpointGroups }
    have hseed := profile.seed_exportable (dir.wellFormed _ _ hfile) runtimeProfile expectedAgents
    refine (resolve_ok_iff it _ _ _ _ _ _).2 ⟨profile.name, profile', hagain, hfile',
      hroles.runtimeProfile.symm.trans hruntime, ?_, henv⟩
    rw [foldlM_applyOverride_exported it (hexportable hseed) _ _ topologyContract_atLeastOne htargets, copy_all hbase']

theorem selectedName_bootstrapEnv (runtimeProfile profile agentCount projectName : String) (osEnviron : Environment) :
    selectedName topologyContract runtimeProfile (bootstrapEnv profile agentCount projectName osEnviron) =
      selectedName topologyContract runtimeProfile osEnviron := rfl

/-- A topology resolves to itself in the environment it exports, and in the one that the bootstrap script hands on,
exactly when the selected profile is found again under its own name; one selected by a name without slashes always is. -/
theorem resolve_exported_iff (dir : ProfileDirectory) (runtimeProfile : String) (expectedAgents : Int) :
    (∀ env resolved,
      resolveTopologyProfile it topologyContract dir.toProfileFiles runtimeProfile expectedAgents env = .ok resolved →
      (resolveTopologyProfile it topologyContract dir.toProfileFiles runtimeProfile expectedAgents
          (env.update resolved.env) = .ok resolved ↔
        ∃ selected, selectedName topologyContract runtimeProfile env = .ok selected ∧ dir.FoundAgain selected)) ∧
    (∀ projectName osEnviron env resolved,
      runtimeEnv it topologyContract dir.toProfileFiles runtimeProfile expectedAgents projectName osEnviron =
        .ok (env, resolved) →
      (resolveTopologyProfile it topologyContract dir.toProfileFiles runtimeProfile expectedAgents env = .ok resolved ↔
        ∃ selected, selectedName topologyContract runtimeProfile osEnviron = .ok selected ∧ dir.FoundAgain selected)) ∧
    ∀ selected : String, '/' ∉ selected.toList → selected ≠ "" → dir.FoundAgain selected := by
  refine ⟨fun env resolved h => resolve_update_env_iff it dir h, fun projectName osEnviron env resolved h => ?_,
    fun selected => dir.foundAgain_of_plain⟩
  unfold runtimeEnv at h
  obtain ⟨agentCount, -, h⟩ := bind_eq_ok h
  obtain ⟨resolved', hresolve, h⟩ := bind_eq_ok h
  cases h
  rw [resolve_update_env_iff it dir hresolve, selectedName_bootstrapEnv]

end

/-- `profiles/dev-fast.yaml`. -/
def devFastProfile : TopologyProfile where
  name := "dev-fast"
  runtimeProfile := "dev-fast"
  ldapBindMode := some "service-account"
  operators := ⟨2, ["platform-admin", "ops-operator"]⟩
  directoryUsers := ⟨8, ["standard", "privileged", "restricted"]⟩
  userGroups := ⟨3, ["standard", "privileged", "restricted"]⟩
  endpointGroups := ⟨2, ["standard", "restricted"]⟩
  policyPack := "baseline-fast"
  sessionPack := "login-basic"

theorem devFastProfile_wellFormed : devFastProfile.WellFormed where
  counts := by decide
  packs := ⟨⟨by decide, by decide⟩, by decide, by decide⟩
  bindMode := fun mode hmode => by cases hmode; exact ⟨by decide, by decide⟩

/-- `profiles/custom/lab.yaml`, a profile of one's own. -/
def labProfile : TopologyProfile := { devFastProfile with name := "lab" }

/-- A directory with the two profiles. -/
def sampleDirectory : ProfileDirectory where
  profilesDir := PurePath.parse "/platform/topology/profiles".toList
  find path :=
    if path = PurePath.parse "/platform/topology/profiles/dev-fast.yaml".toList then some devFastProfile
    else if path = PurePath.parse "/platform/topology/profiles/custom/lab.yaml".toList then some labProfile
    else none
  wellFormed path profile h := by
    split at h
    · cases h
      exact devFastProfile_wellFormed
    · split at h
      · cases h
        exact ⟨devFastProfile_wellFormed.counts, devFastProfile_wellFormed.packs, devFastProfile_wellFormed.bindMode⟩
      · cases h
  named path profile h := by
    split at h
    · rename_i hpath
      cases h
      rw [hpath]
      decide
    · split at h
      · rename_i hpath
        cases h
        rw [hpath]
        decide
      · cases h

/-- An environment whose overrides have blanks, a sign and an underscore. -/
def overridingEnviron : Environment
  | "OPERATOR_COUNT" => some " +1_0 "
  | "POLICY_PACK" => some "\tbaseline-standard\n"
  | _ => none

def overriddenTopology : ResolvedTopology where
  topology := ((devFastProfile.seed "dev-fast" 5).setCount 10 .operators).setText "baseline-standard" .policyPack
  env := [("TOPOLOGY_PROFILE", "dev-fast"), ("OPERATOR_COUNT", "10"), ("DIRECTORY_USER_COUNT", "8"),
    ("USER_GROUP_COUNT", "3"), ("ENDPOINT_GROUP_COUNT", "2"), ("POLICY_PACK", "baseline-standard"),
    ("SESSION_PACK", "login-basic"), ("LIDER_LDAP_BIND_MODE", "service-account")]

theorem resolve_exported_devFast :
    resolveTopologyProfile asciiIntText topologyContract sampleDirectory.toProfileFiles "dev-fast" 5
        (overridingEnviron.update overriddenTopology.env) = .ok overriddenTopology ∧
      resolveTopologyProfile asciiIntText topologyContract sampleDirectory.toProfileFiles "dev-fast" 5
        ((bootstrapEnv "dev-fast" "5" "liderahenk-test" overridingEnviron).update overriddenTopology.env) =
        .ok overriddenTopology := by
  obtain ⟨hresolve, hruntime, hplain⟩ := resolve_exported_iff asciiIntText sampleDirectory "dev-fast" 5
  have hfound : ∃ selected, selectedName topologyContract "dev-fast" overridingEnviron = .ok selected ∧
      sampleDirectory.FoundAgain selected := ⟨"dev-fast", rfl, hplain "dev-fast" (by decide) (by decide)⟩
  exact ⟨(hresolve overridingEnviron overriddenTopology rfl).2 hfound,
    (hruntime "liderahenk-test" overridingEnviron _ overriddenTopology rfl).2 hfound⟩

/-- An environment that selects the profile below the profiles' directory. -/
def nestedEnviron : Environment
  | "TOPOLOGY_PROFILE" => some "custom/lab"
  | _ => none

def nestedTopology : ResolvedTopology where
  topology := labProfile.seed "dev-fast" 5
  env := [("TOPOLOGY_PROFILE", "lab"), ("OPERATOR_COUNT", "2"), ("DIRECTORY_USER_COUNT", "8"),
    ("USER_GROUP_COUNT", "3"), ("ENDPOINT_GROUP_COUNT", "2"), ("POLICY_PACK", "baseline-fast"),
    ("SESSION_PACK", "login-basic"), ("LIDER_LDAP_BIND_MODE", "service-account")]

/-- The nested profile is selected by its path and exported by its name, under which there is no file. -/
theorem nestedProfile_notFound :
    resolveTopologyProfile asciiIntText topologyContract sampleDirectory.toProfileFiles "dev-fast" 5 nestedEnviron =
        .ok nestedTopology ∧
      resolveTopologyProfile asciiIntText topologyContract sampleDirectory.toProfileFiles "dev-fast" 5
        (nestedEnviron.update nestedTopology.env) = .error (.notFound "lab") :=
  ⟨rfl, rfl⟩

end Lider
