import LiderPlatform.ProvisionerSteps
/-!
# SeedIdentities — the names of the seeded entries (`services/provisioner/provision.py`)

The provisioner makes the DNs of its entries from counts: users by archetype and ordinal, groups by archetype or
number, agents by number.  An entry that exists is skipped, so two entries of one DN would be one.
`seededDns_distinct`: no two are, as texts.
-/
namespace Lider

open Py Ldap

/-! ## DNs as texts -/

/-- A directory that keeps the components of names as the provisioner writes them. -/
def textBackend : Backend String where
  rdn a v := a.text ++ "=" ++ v
  rdn_attr {a b v w} h := by
    have hhead := congrArg (·.toList.head?) h
    revert hhead
    cases a <;> cases b <;> simp [NamingAttr.text]
  rdn_name _ _ h := (String.append_right_inj _).1 h
  valid _ _ := true
  valid_unsalted _ _ := rfl
  isDevice _ := true
  isDevice_unsalted _ := rfl
  registers _ _ := true

def dnText : Dn String → String
  | [] => ""
  | [component] => component
  | component :: rest => component ++ "," ++ dnText rest

theorem dnText_cons (c : String) : ∀ (rest : Dn String), ∃ tail : Text,
    (dnText (c :: rest)).toList = c.toList ++ tail ∧ ∀ x ∈ tail.head?, x = ','
  | [] => ⟨[], by rw [dnText, List.append_nil], fun _ h => by cases h⟩
  | d :: rest => ⟨',' :: (dnText (d :: rest)).toList, by simp [dnText], fun x h => by cases h; rfl⟩

/-- The first component of a text ends at its first comma. -/
theorem dnText_inj_of_no_comma {c c' : String} {rest rest' : Dn String} (hc : ',' ∉ c.toList) (hc' : ',' ∉ c'.toList)
    (h : dnText (c :: rest) = dnText (c' :: rest')) : c = c' := by
  have hcut : ∀ {c : String} {rest : Dn String}, ',' ∉ c.toList →
      (dnText (c :: rest)).toList.takeWhile (· != ',') = c.toList := by
    intro c rest hc
    obtain ⟨tail, htext, hhead⟩ := dnText_cons c rest
    have hkeep : ∀ x ∈ c.toList, (x != ',') = true := fun x hx => bne_iff_ne.2 (fun heq => hc (heq ▸ hx))
    rw [htext, List.takeWhile_append_of_pos hkeep]
    cases tail with
    | nil => simp
    | cons x tail =>
      obtain rfl := hhead x rfl
      simp
  exact String.ext (by rw [← hcut hc, h, hcut hc'])

theorem dnText_inj_of_same_rest {c c' : String} : ∀ {rest : Dn String},
    dnText (c :: rest) = dnText (c' :: rest) → c = c'
  | [], h => h
  | _ :: _, h => by simpa [dnText, String.append_left_inj] using h

/-! ## The uids -/

theorem numbered_no_dash (n : Nat) : '-' ∉ (numbered n).toList := fun h =>
  absurd (isDigit_numbered n '-' h) (by decide)

def operatorUid (cfg : ProvisionerConfig String) : Nat → String
  | 0 => cfg.liderAdminUid
  | 1 => "ops-operator"
  | 2 => "policy-operator"
  | index => "operator-" ++ numbered (index + 1)

theorem operatorSpecs_uid (cfg : ProvisionerConfig String) :
    (operatorSpecs cfg).map UserSpec.uid = (List.range cfg.operatorCount).map (operatorUid cfg) := by
  rw [operatorSpecs, List.map_map]
  refine List.map_congr_left (fun index _ => ?_)
  match index with
  | 0 => rfl
  | 1 => rfl
  | 2 => rfl
  | index + 3 => simp [defaultOperatorTemplates, operatorUid]

def userArchetype (index : Nat) : String := directoryUserArchetypes.getD (index % directoryUserArchetypes.length) ""

def directoryUserUid (index : Nat) : String :=
  "user-" ++ userArchetype index ++ "-" ++ numbered (index / directoryUserArchetypes.length + 1)

theorem directoryUserSpecs_uid {ρ : Type} (cfg : ProvisionerConfig ρ) :
    (directoryUserSpecs cfg).map UserSpec.uid = (List.range cfg.directoryUserCount).map directoryUserUid := by
  rw [directoryUserSpecs, List.map_map]
  rfl

theorem userArchetype_mem (index : Nat) : userArchetype index ∈ directoryUserArchetypes := by
  have h : index % directoryUserArchetypes.length < directoryUserArchetypes.length := Nat.mod_lt _ (by decide)
  rw [userArchetype, List.getD_eq_getElem?_getD, List.getElem?_eq_getElem h]
  exact List.getElem_mem h

/-- **Archetype and ordinal give the index back.** -/
theorem directoryUserUid_injective {i j : Nat} (h : directoryUserUid i = directoryUserUid j) : i = j := by
  have hdash : ∀ k, '-' ∉ (userArchetype k).toList := fun k =>
    (by decide : ∀ a ∈ directoryUserArchetypes, '-' ∉ a.toList) _ (userArchetype_mem k)
  have hl := congrArg String.toList h
  have hseparator : "-".toList = ['-'] := rfl
  simp only [directoryUserUid, String.toList_append, List.append_assoc, hseparator, List.singleton_append] at hl
  have hrest := List.append_cancel_left hl
  obtain ⟨harchetype, -, hordinal⟩ := (List.append_cons_inj_of_notMem (hdash i) (numbered_no_dash _)).1 hrest
  have hlen : directoryUserArchetypes.length = 4 := rfl
  have hlt : ∀ k, k % directoryUserArchetypes.length < directoryUserArchetypes.length :=
    fun k => Nat.mod_lt k (by decide)
  have hget : ∀ k, directoryUserArchetypes[k % directoryUserArchetypes.length]? = some (userArchetype k) := by
    intro k
    rw [userArchetype, List.getD_eq_getElem?_getD, List.getElem?_eq_getElem (hlt k), Option.getD_some]
  have hmod : i % directoryUserArchetypes.length = j % directoryUserArchetypes.length := by
    have heq : userArchetype i = userArchetype j := String.toList_injective harchetype
    exact (List.getElem?_inj (hlt i) (by decide)).1 (by rw [hget i, hget j, heq])
  have hdiv : i / directoryUserArchetypes.length + 1 = j / directoryUserArchetypes.length + 1 :=
    numbered_injective (String.toList_injective hordinal)
  rw [hlen] at hmod hdiv
  omega

/-- The uids that the provisioner makes up itself, for whatever counts. -/
inductive GeneratedUid : String → Prop
  | opsOperator : GeneratedUid "ops-operator"
  | policyOperator : GeneratedUid "policy-operator"
  | operator (n : Nat) : GeneratedUid ("operator-" ++ numbered n)
  | user (index : Nat) : GeneratedUid (directoryUserUid index)

theorem operatorUid_generated (cfg : ProvisionerConfig String) {index : Nat} (h : index ≠ 0) :
    GeneratedUid (operatorUid cfg index) := by
  match index with
  | 0 => exact absurd rfl h
  | 1 => exact .opsOperator
  | 2 => exact .policyOperator
  | index + 3 => exact .operator _

theorem operatorUid_injective {cfg : ProvisionerConfig String} (hadmin : ¬ GeneratedUid cfg.liderAdminUid) {i j : Nat}
    (h : operatorUid cfg i = operatorUid cfg j) : i = j := by
  have hletters : ∀ n, ("operator-" ++ numbered n).toList.take 3 = ['o', 'p', 'e'] := by simp
  have hgenerated : ∀ {index}, operatorUid cfg 0 = operatorUid cfg (index + 1) → False := fun {index} heq =>
    hadmin (show GeneratedUid (operatorUid cfg 0) from heq ▸ operatorUid_generated cfg (Nat.succ_ne_zero index))
  -- a template differs from a numbered uid in its first three letters
  have htemplate : ∀ {k n} (template : String), template.toList.take 3 ≠ ['o', 'p', 'e'] →
      operatorUid cfg k = template → operatorUid cfg k ≠ operatorUid cfg (n + 3) := by
    rintro k n template hthree hk heq
    have := hletters (n + 3 + 1)
    rw [← show operatorUid cfg (n + 3) = "operator-" ++ numbered (n + 3 + 1) from rfl, ← heq, hk] at this
    exact hthree this
  match i, j with
  | 0, 0 => rfl
  | 0, _ + 1 => exact absurd h hgenerated
  | _ + 1, 0 => exact absurd h.symm hgenerated
  | 1, 1 => rfl
  | 2, 2 => rfl
  | 1, 2 => exact absurd (show "ops-operator" = "policy-operator" from h) (by decide)
  | 2, 1 => exact absurd (show "policy-operator" = "ops-operator" from h) (by decide)
  | 1, _ + 3 => exact absurd h (htemplate "ops-operator" (by decide) rfl)
  | 2, _ + 3 => exact absurd h (htemplate "policy-operator" (by decide) rfl)
  | _ + 3, 1 => exact absurd h.symm (htemplate "ops-operator" (by decide) rfl)
  | _ + 3, 2 => exact absurd h.symm (htemplate "policy-operator" (by decide) rfl)
  | i + 3, j + 3 =>
    have := numbered_injective ((String.append_right_inj _).1 (show "operator-" ++ _ = "operator-" ++ _ from h))
    omega

theorem head?_operatorUid (cfg : ProvisionerConfig String) :
    ∀ index, (operatorUid cfg (index + 1)).toList.head? ≠ some 'u'
  | 0 => show "ops-operator".toList.head? ≠ some 'u' by decide
  | 1 => show "policy-operator".toList.head? ≠ some 'u' by decide
  | index + 2 => by simp [operatorUid]

theorem operatorUid_ne_user {cfg : ProvisionerConfig String} (hadmin : ¬ GeneratedUid cfg.liderAdminUid) (i j : Nat) :
    operatorUid cfg i ≠ directoryUserUid j := by
  have hhead : (directoryUserUid j).toList.head? = some 'u' := by simp [directoryUserUid]
  intro h
  cases i with
  | zero => exact hadmin (show GeneratedUid (operatorUid cfg 0) from h ▸ .user j)
  | succ index => exact head?_operatorUid cfg index (h ▸ hhead)

theorem userUids_nodup {cfg : ProvisionerConfig String} (hadmin : ¬ GeneratedUid cfg.liderAdminUid) :
    ((operatorSpecs cfg ++ directoryUserSpecs cfg).map UserSpec.uid).Nodup := by
  rw [List.map_append, operatorSpecs_uid, directoryUserSpecs_uid, List.nodup_append]
  refine ⟨List.nodup_range.map_on (fun _ _ _ _ h => operatorUid_injective hadmin h),
    List.nodup_range.map_on (fun _ _ _ _ h => directoryUserUid_injective h), fun u hu v hv h => ?_⟩
  obtain ⟨i, -, rfl⟩ := List.mem_map.1 hu
  obtain ⟨j, -, rfl⟩ := List.mem_map.1 hv
  exact operatorUid_ne_user hadmin i j h

/-! ## The names under `cn` -/

theorem seedName_no_comma {v : String} (h : SeedName v) : ',' ∉ v.toList := by
  have hnumber : ∀ n, ',' ∉ (numbered n).toList := fun n hm => absurd (isDigit_numbered n ',' hm) (by decide)
  have hword : ∀ {head : String} {archetypes : List String} (i : Nat), ',' ∉ head.toList →
      (∀ a ∈ archetypes, ',' ∉ a.toList) → ',' ∉ (archetypeName head archetypes i).toList := by
    intro head archetypes i hhead harchetypes
    unfold archetypeName
    split
    · rename_i archetype hi
      simp [hhead, harchetypes archetype (List.mem_of_getElem? hi)]
    · simp [hhead, hnumber]
  cases h with
  | role => decide
  | admins => decide
  | userGroup index => exact hword index (by decide) (by decide)
  | endpointGroup index => exact hword index (by decide) (by decide)
  | agent n =>
    have heq : ahenkId n = "ahenk-" ++ numbered n := rfl
    simp [heq, hnumber]

theorem name_of_dnText {v w : String} (hv : SeedName v) (hw : SeedName w) {rest rest' : Dn String}
    (h : dnText (textBackend.rdn .cn v :: rest) = dnText (textBackend.rdn .cn w :: rest')) : v = w := by
  have hfree : ∀ {u : String}, SeedName u → ',' ∉ (textBackend.rdn .cn u).toList := by
    intro u hu
    have := seedName_no_comma hu
    simp [textBackend, NamingAttr.text, this]
  exact textBackend.rdn_name hv hw (dnText_inj_of_no_comma (hfree hv) (hfree hw) h)

/-! ## All entries -/

/-- The DNs of the users, the groups and the agents that a run seeds. -/
def seededDns (cfg : ProvisionerConfig String) : List (Dn String) :=
  (operatorSpecs cfg ++ directoryUserSpecs cfg).map (fun spec => userDn textBackend cfg spec.uid) ++
    ((groupSpecs textBackend cfg).map GroupSpec.dn ++ agentDns textBackend cfg)

theorem userDn_text_inj {cfg : ProvisionerConfig String} {u v : String}
    (h : dnText (userDn textBackend cfg u) = dnText (userDn textBackend cfg v)) : u = v :=
  (String.append_right_inj _).1 (dnText_inj_of_same_rest h)

/-- A name under `cn` and one under `uid` differ in their first letter. -/
theorem userDn_text_ne (cfg : ProvisionerConfig String) (u v : String) (rest : Dn String) :
    dnText (userDn textBackend cfg u) ≠ dnText (textBackend.rdn .cn v :: rest) := by
  intro h
  obtain ⟨tail, htext, -⟩ := dnText_cons (textBackend.rdn .uid u) cfg.usersOu
  obtain ⟨tail', htext', -⟩ := dnText_cons (textBackend.rdn .cn v) rest
  have hl := congrArg (·.toList.head?) h
  simp only [userDn, htext, htext'] at hl
  simp [textBackend, NamingAttr.text] at hl

theorem group_ne_agent {cfg : ProvisionerConfig String} {g : GroupSpec String} (hg : g ∈ groupSpecs textBackend cfg)
    (n : Nat) : g.cn ≠ ahenkId n := by
  have hagent : (ahenkId n).toList.head? = some 'a' := by rw [show ahenkId n = "ahenk-" ++ numbered n from rfl]; simp
  intro h
  rw [← h] at hagent
  simp only [groupSpecs, List.mem_append, List.mem_singleton] at hg
  rcases hg with (hg | rfl) | hg
  · obtain ⟨index, -, rfl⟩ := List.mem_map.1 hg
    obtain ⟨name, hname⟩ := head_archetypeName "ug-" userGroupArchetypes index
    rw [show (userGroupSpec textBackend cfg index _).cn = "ug-" ++ name from hname] at hagent
    simp at hagent
  · exact absurd hagent (by simp [adminGroupSpec])
  · obtain ⟨index, hindex⟩ := cn_of_mem_endpointGroupSpecs textBackend cfg hg
    obtain ⟨name, hname⟩ := head_archetypeName "eg-" endpointGroupArchetypes index
    rw [hindex, show endpointGroupName index = "eg-" ++ name from hname] at hagent
    simp at hagent

/-- **No two seeded entries have one DN.** -/
theorem seededDns_distinct (cfg : ProvisionerConfig String) (hadmin : ¬ GeneratedUid cfg.liderAdminUid) :
    ((seededDns cfg).map dnText).Nodup := by
  have husers : ((operatorSpecs cfg ++ directoryUserSpecs cfg).map
      (fun spec => dnText (userDn textBackend cfg spec.uid))).Nodup := by
    refine List.pairwise_map.2 ((List.pairwise_map.1 (userUids_nodup hadmin)).imp (fun hne h => hne ?_))
    exact userDn_text_inj h
  have hgroups : ((groupSpecs textBackend cfg).map (fun g => dnText g.dn)).Nodup := by
    refine List.pairwise_map.2 ((groupSpecs_names textBackend cfg).imp_of_mem (fun hg hg' hne h => hne ?_))
    obtain ⟨hname, root, hdn⟩ := named_of_mem_groupSpecs textBackend cfg hg
    obtain ⟨hname', root', hdn'⟩ := named_of_mem_groupSpecs textBackend cfg hg'
    rw [hdn, hdn'] at h
    exact name_of_dnText hname hname' h
  have hagents : (cfg.indices.map (fun i => dnText (agentDn textBackend cfg (ahenkId i)))).Nodup := by
    have hindices : cfg.indices.Nodup := List.nodup_range.map_on (fun _ _ _ _ h => Nat.succ.inj h)
    refine hindices.map_on (fun i _ j _ h => ?_)
    exact ahenkId_injective i j (name_of_dnText (.agent i) (.agent j) h)
  have hsplit : (seededDns cfg).map dnText =
      (operatorSpecs cfg ++ directoryUserSpecs cfg).map (fun spec => dnText (userDn textBackend cfg spec.uid)) ++
        ((groupSpecs textBackend cfg).map (fun g => dnText g.dn) ++
          cfg.indices.map (fun i => dnText (agentDn textBackend cfg (ahenkId i)))) := by
    simp [seededDns, agentDns, Function.comp_def]
  rw [hsplit, List.nodup_append, List.nodup_append]
  refine ⟨husers, ⟨hgroups, hagents, fun t ht t' ht' h => ?_⟩, fun t ht t' ht' h => ?_⟩
  · obtain ⟨g, hg, rfl⟩ := List.mem_map.1 ht
    obtain ⟨i, -, rfl⟩ := List.mem_map.1 ht'
    obtain ⟨hname, root, hdn⟩ := named_of_mem_groupSpecs textBackend cfg hg
    simp only [hdn] at h
    exact group_ne_agent hg i (name_of_dnText hname (.agent i) h)
  · obtain ⟨spec, -, rfl⟩ := List.mem_map.1 ht
    rcases List.mem_append.1 ht' with ht' | ht'
    · obtain ⟨g, hg, rfl⟩ := List.mem_map.1 ht'
      obtain ⟨-, root, hdn⟩ := named_of_mem_groupSpecs textBackend cfg hg
      simp only [hdn] at h
      exact userDn_text_ne cfg spec.uid g.cn root h
    · obtain ⟨i, -, rfl⟩ := List.mem_map.1 ht'
      exact userDn_text_ne cfg spec.uid (ahenkId i) cfg.ahenkOu h

def sampleSeed : ProvisionerConfig String where
  agentCount := 5
  xmppPass := "secret"
  liderAdminUid := "lider-admin"
  seededUserPass := "secret"
  operatorCount := 4
  directoryUserCount := 6
  userGroupCount := 4
  endpointGroupCount := 2
  baseDn := ["dc=liderahenk", "dc=org"]
  ahenkOu := ["ou=Ahenkler", "dc=liderahenk", "dc=org"]
  usersOu := ["ou=users", "dc=liderahenk", "dc=org"]
  rolesOu := ["ou=Roles", "dc=liderahenk", "dc=org"]
  groupsOu := ["ou=users", "dc=liderahenk", "dc=org"]
  agentGroupsOu := ["ou=AgentGroups", "dc=liderahenk", "dc=org"]

/-- The admin's uid starts with another letter than the uids that the provisioner makes up. -/
theorem seededDns_distinct_sample : ((seededDns sampleSeed).map dnText).Nodup :=
  seededDns_distinct sampleSeed (fun h => by
    have hfirst : ∀ {uid : String}, GeneratedUid uid → uid.toList.head? ≠ some 'l' := by
      rintro uid (_ | _ | _ | _)
      · decide
      · decide
      · simp
      · simp [directoryUserUid]
    exact hfirst h (by decide))

end Lider
