import LiderPlatform.ProvisionerRecovery
/-!
# ProvisionerScaleUp — a run with more agents after a run with fewer

The groups of the second run are those of a fresh run with as many agents (`group_after`, `group_absent_after`): an
update sets the members, and the other attributes do not depend on the number of agents.  The role is added once and
never changed, so it keeps the agents of the first run (`role_after`, `role_kept`), and the two runs agree exactly where
the number of agents did not grow.
-/
namespace Lider

open Ldap Restart

/-! ## The members of a bucket -/

section
variable {ρ : Type}

/-- **A bucket that has a member keeps one** when there are more members. -/
theorem bucket_grows {ms ms' : List (Dn ρ)} (h : ms <+: ms') {n i : Nat} (hi : i < n)
    (hne : (roundRobinMembers ms n).getD i [] ≠ []) : (roundRobinMembers ms' n).getD i [] ≠ [] := by
  have hlen := h.length_le
  rw [roundRobinMembers_eq_deal, RoundRobin.getD_deal _ hi, Ne, RoundRobin.hand_eq_nil_iff _ hi] at hne ⊢
  omega

end

/-! ## What the groups are for -/

/-- The groups that a run can have. -/
inductive GroupKind where
  | user (index : Nat)
  | admins
  | endpoint (index : Nat)

def GroupKind.name : GroupKind → String
  | .user index => userGroupName index
  | .admins => "DomainAdmins"
  | .endpoint index => endpointGroupName index

theorem GroupKind.seedName : ∀ kind : GroupKind, SeedName kind.name
  | .user index => .userGroup index
  | .admins => .admins
  | .endpoint index => .endpointGroup index

theorem GroupKind.name_injective {kind kind' : GroupKind} (h : kind.name = kind'.name) : kind = kind' := by
  cases kind with
  | user i =>
    cases kind' with
    | user j => rw [userGroupName_injective h]
    | admins => exact absurd h (userGroupName_ne i 0).2.1
    | endpoint j => exact absurd h (userGroupName_ne i j).1
  | admins =>
    cases kind' with
    | user j => exact absurd h.symm (userGroupName_ne j 0).2.1
    | admins => rfl
    | endpoint j => exact absurd h.symm (userGroupName_ne 0 j).2.2
  | endpoint i =>
    cases kind' with
    | user j => exact absurd h.symm (userGroupName_ne j i).1
    | admins => exact absurd h (userGroupName_ne 0 i).2.2
    | endpoint j => rw [endpointGroupName_injective h]

/-- The other names of a run are none of these. -/
theorem GroupKind.name_ne (kind : GroupKind) (n : Nat) :
    kind.name ≠ "liderahenk" ∧ kind.name ≠ ahenkId n ∧ ahenkId n ≠ "liderahenk" := by
  have hahenk : (ahenkId n).toList.head? = some 'a' := by rw [toList_ahenkId]; rfl
  have hkind : ∃ c ∈ ['u', 'D', 'e'], kind.name.toList.head? = some c := by
    cases kind with
    | user i =>
      obtain ⟨u, hu⟩ := head_archetypeName "ug-" userGroupArchetypes i
      exact ⟨'u', by decide, by rw [show GroupKind.name (.user i) = "ug-" ++ u from hu]; simp⟩
    | admins => exact ⟨'D', by decide, by decide⟩
    | endpoint i =>
      obtain ⟨e, he⟩ := head_archetypeName "eg-" endpointGroupArchetypes i
      exact ⟨'e', by decide, by rw [show GroupKind.name (.endpoint i) = "eg-" ++ e from he]; simp⟩
  obtain ⟨c, hc, hhead⟩ := hkind
  refine ⟨fun h => ?_, fun h => ?_, fun h => ?_⟩
  · rw [h, show ("liderahenk" : String).toList.head? = some 'l' by decide, Option.some.injEq] at hhead
    rw [← hhead] at hc
    revert hc
    decide
  · rw [h, hahenk, Option.some.injEq] at hhead
    rw [← hhead] at hc
    revert hc
    decide
  · rw [h] at hahenk
    revert hahenk
    decide

section
variable {ρ : Type} (b : Backend ρ) (cfg : ProvisionerConfig ρ)

/-- The group of a kind with those members. -/
def GroupKind.spec (kind : GroupKind) (member : List (Dn ρ)) : GroupSpec ρ :=
  match kind with
  | .user index => userGroupSpec b cfg index member
  | .admins => { adminGroupSpec b cfg with member := member }
  | .endpoint index => endpointGroupSpec b cfg index member

def GroupKind.dn (kind : GroupKind) : Dn ρ := (kind.spec b cfg []).dn

theorem GroupKind.spec_dn (kind : GroupKind) (member : List (Dn ρ)) : (kind.spec b cfg member).dn = kind.dn b cfg := by
  cases kind <;> rfl

theorem GroupKind.spec_member (kind : GroupKind) (member member' : List (Dn ρ)) :
    { kind.spec b cfg member with member := member' } = kind.spec b cfg member' := by
  cases kind <;> rfl

theorem GroupKind.dn_eq (kind : GroupKind) : ∃ root, kind.dn b cfg = b.rdn .cn kind.name :: root := by
  cases kind with
  | user index => exact ⟨cfg.groupsOu, rfl⟩
  | admins => exact ⟨cfg.groupsOu, rfl⟩
  | endpoint index => exact ⟨cfg.agentGroupsOu, rfl⟩

theorem GroupKind.dn_injective {kind kind' : GroupKind} (h : kind.dn b cfg = kind'.dn b cfg) : kind = kind' := by
  obtain ⟨root, hdn⟩ := kind.dn_eq b cfg
  obtain ⟨root', hdn'⟩ := kind'.dn_eq b cfg
  rw [hdn, hdn'] at h
  exact GroupKind.name_injective (name_of_dn b kind.seedName kind'.seedName h)

theorem kind_of_mem {spec : GroupSpec ρ} (h : spec ∈ groupSpecs b cfg) :
    ∃ kind : GroupKind, spec = kind.spec b cfg spec.member := by
  rcases List.mem_append.1 h with h | h
  · rcases List.mem_append.1 h with h | h
    · obtain ⟨index, -, rfl⟩ := List.mem_map.1 h
      exact ⟨.user index, rfl⟩
    · rw [List.mem_singleton.1 h]
      exact ⟨.admins, rfl⟩
  · obtain ⟨index, -, hindex⟩ := List.mem_filterMap.1 h
    simp only at hindex
    split at hindex
    · cases hindex
    · cases hindex
      exact ⟨.endpoint index, rfl⟩

end

/-! ## What a run writes where -/

section
variable {ρ : Type} [DecidableEq ρ] {b : Backend ρ} {cfg : ProvisionerConfig ρ} {salts : Nat → String}

/-- The name under `cn` of what a step adds. -/
def SeedStep.name? {ρ : Type} : SeedStep ρ → Option String
  | .role => some "liderahenk"
  | .group spec => some spec.cn
  | .agent index => some (ahenkId index)
  | _ => none

/-- The write can put that entry there. -/
def StoreWrite.Adds {ρ : Type} (d : Dn ρ) : StoreWrite ρ → Prop
  | .add dn _ => d = dn
  | .modifyDn _ _ => True
  | _ => False

theorem not_mem_apply {s : Stores ρ} {d : Dn ρ} {w : StoreWrite ρ} (hw : ¬ w.Adds d) (hd : d ∉ s.directory.dns) :
    d ∉ (b.apply s w).directory.dns := by
  cases w with
  | add dn attrs =>
    simp only [Backend.apply]
    split
    · exact Directory.not_mem_add hd hw _
    · exact hd
  | modify dn changes =>
    simp only [Backend.apply]
    split
    · rwa [Directory.dns_modify]
    · exact hd
  | delete dn =>
    simp only [Backend.apply]
    split
    · intro hmem
      by_cases hleaf : s.directory.IsLeaf dn
      · rw [Directory.dns_delete hleaf] at hmem
        exact hd (List.mem_filter.1 hmem).1
      · rw [Directory.delete_of_not_leaf hleaf] at hmem
        exact hd hmem
    · exact hd
  | modifyDn dn newSuperior => exact absurd trivial hw
  | register user password =>
    simp only [Backend.apply]
    split <;> exact hd

omit [DecidableEq ρ] in
theorem dn_of_adds {step : SeedStep ρ} {w : StoreWrite ρ} (hw : w ∈ step.writes b cfg) {d : Dn ρ} (h : w.Adds d) :
    d = step.dn b cfg := by
  cases step with
  | root dn label => cases hw
  | user spec salt =>
    rw [List.mem_singleton.1 hw] at h
    exact h
  | group spec =>
    rcases List.mem_pair.1 hw with rfl | rfl
    · exact h
    · exact h.elim
  | role =>
    rw [List.mem_singleton.1 hw] at h
    exact h
  | agent index =>
    rcases List.mem_pair.1 hw with rfl | rfl
    · exact h.elim
    · exact h

omit [DecidableEq ρ] in
theorem group_of_step {spec : GroupSpec ρ} (h : .group spec ∈ seedSteps b cfg salts) : spec ∈ groupSpecs b cfg := by
  rw [← groups_of_seedSteps b cfg salts]
  exact List.mem_filterMap.2 ⟨_, h, rfl⟩

omit [DecidableEq ρ] in
/-- **A step that writes a seeded name is the step of that name.** -/
theorem name?_of_dn {step : SeedStep ρ} (hstep : step ∈ seedSteps b cfg salts) {w : StoreWrite ρ}
    (hw : w ∈ step.writes b cfg) {v : String} (hv : SeedName v) {root : Dn ρ}
    (h : b.rdn .cn v :: root = step.dn b cfg) : step.name? = some v := by
  cases step with
  | root dn label => cases hw
  | user spec salt => exact absurd (b.rdn_attr (List.cons.inj h).1) (by decide)
  | group spec =>
    obtain ⟨kind, hkind⟩ := kind_of_mem b cfg (group_of_step hstep)
    obtain ⟨root', hdn⟩ := kind.dn_eq b cfg
    have hname : spec.cn = kind.name := by rw [hkind]; cases kind <;> rfl
    rw [show SeedStep.dn b cfg (.group spec) = spec.dn from rfl, hkind, kind.spec_dn, hdn] at h
    rw [name_of_dn b hv kind.seedName h, ← hname]
    rfl
  | role =>
    rw [name_of_dn b hv .role h]
    rfl
  | agent index =>
    rw [name_of_dn b hv (.agent index) h]
    rfl

omit [DecidableEq ρ] in
/-- Only the step of the role writes its entry. -/
theorem role_of_write {step : SeedStep ρ} (hstep : step ∈ seedSteps b cfg salts) {w : StoreWrite ρ}
    (hw : w ∈ step.writes b cfg) (h : roleDn b cfg "liderahenk" = step.dn b cfg) : step = .role := by
  have hname := name?_of_dn hstep hw .role h
  cases step with
  | group spec =>
    obtain ⟨kind, hkind⟩ := kind_of_mem b cfg (group_of_step hstep)
    have hcn : spec.cn = kind.name := by rw [hkind]; cases kind <;> rfl
    exact absurd (hcn.symm.trans (Option.some.inj hname)) (kind.name_ne 0).1
  | agent index => exact absurd (Option.some.inj hname) (GroupKind.admins.name_ne index).2.2
  | role => rfl
  | root dn label => cases hname
  | user spec salt => cases hname

omit [DecidableEq ρ] in
/-- Only the step of a group writes its entry. -/
theorem group_of_write {step : SeedStep ρ} (hstep : step ∈ seedSteps b cfg salts) {w : StoreWrite ρ}
    (hw : w ∈ step.writes b cfg) {kind : GroupKind} (h : kind.dn b cfg = step.dn b cfg) :
    ∃ member, step = .group (kind.spec b cfg member) := by
  obtain ⟨root, hdn⟩ := kind.dn_eq b cfg
  have hname := name?_of_dn hstep hw kind.seedName (hdn ▸ h)
  cases step with
  | group spec =>
    obtain ⟨kind', hkind⟩ := kind_of_mem b cfg (group_of_step hstep)
    rw [show SeedStep.dn b cfg (.group spec) = spec.dn from rfl, hkind, kind'.spec_dn] at h
    rw [hkind, ← GroupKind.dn_injective b cfg h]
    exact ⟨_, rfl⟩
  | agent index => exact absurd (Option.some.inj hname).symm (kind.name_ne index).2.1
  | role => exact absurd (Option.some.inj hname).symm (kind.name_ne 0).1
  | root dn label => cases hname
  | user spec salt => cases hname

/-! ## What a run leaves -/

/-- The loop over the steps of a run. -/
def seed (b : Backend ρ) (cfg : ProvisionerConfig ρ) (salts : Nat → String) : Provision b Unit :=
  Prog.forEach ((seedSteps b cfg salts).map (SeedStep.run b cfg))

/-- What every write of the seed keeps, the seed keeps. -/
theorem seed_keeps {I : Stores ρ → Prop}
    (hkeep : ∀ step ∈ seedSteps b cfg salts, ∀ w ∈ step.writes b cfg, ∀ s, I s → I (b.apply s w)) {s : Stores ρ}
    (hs : I s) : I ((seed b cfg salts).final s) :=
  (redoable_seed b cfg salts).emits.keeps (fun s w ⟨step, hstep, hw⟩ h => hkeep step hstep w hw s h) s hs

/-- Without a legacy root a run leaves what its seed leaves. -/
theorem final_provision (cfg : ProvisionerConfig ρ) {s : Stores ρ} (hlegacy : legacyAgentGroupsOu b cfg ∉ s.directory.dns)
    (hok : (provision b cfg salts s).1 = .ok ()) :
    (seed b cfg salts s).1 = .ok () ∧ (provision b cfg salts).final s = (seed b cfg salts).final s ∧
      legacyAgentGroupsOu b cfg ∉ ((provision b cfg salts).final s).directory.dns := by
  have hgone : legacyAgentGroupsOu b cfg ∉ ((seed b cfg salts).final s).directory.dns := by
    refine seed_keeps (I := fun s => legacyAgentGroupsOu b cfg ∉ s.directory.dns) (fun step hstep w hw s hs => ?_) hlegacy
    refine not_mem_apply (fun hadds => ?_) hs
    have hdn := dn_of_adds hw hadds
    cases step with
    | root dn label => cases hw
    | user spec salt => exact absurd (b.rdn_attr (List.cons.inj hdn).1) (by decide)
    | role => exact absurd (b.rdn_attr (List.cons.inj hdn).1) (by decide)
    | agent index => exact absurd (b.rdn_attr (List.cons.inj hdn).1) (by decide)
    | group spec =>
      obtain ⟨kind, hkind⟩ := kind_of_mem b cfg (group_of_step hstep)
      obtain ⟨root, hroot⟩ := kind.dn_eq b cfg
      rw [show SeedStep.dn b cfg (.group spec) = spec.dn from rfl, hkind, kind.spec_dn, hroot] at hdn
      exact absurd (b.rdn_attr (List.cons.inj hdn).1) (by decide)
  have hidle : migrateLegacyAgentGroupRoot b cfg ((seed b cfg salts).final s) = (.ok (), []) := by
    by_cases hne : legacyAgentGroupsOu b cfg = cfg.agentGroupsOu
    · unfold migrateLegacyAgentGroupRoot
      rw [if_pos hne]
      rfl
    · exact migrate_eq_of_not_found hne hgone
  have hsplit := provision_eq b cfg salts
  change provision b cfg salts = seed b cfg salts >>= fun _ => _ at hsplit
  rw [hsplit] at hok ⊢
  obtain ⟨u, hseed, hrest⟩ := Prog.ok_of_bind hok
  have hout : (migrateLegacyAgentGroupRoot b cfg ((seed b cfg salts).final s)).1 = .ok () := by rw [hidle]
  have hfinal : (seed b cfg salts >>= fun _ => migrateLegacyAgentGroupRoot b cfg >>= fun _ =>
      verifyRegistrations b cfg >>= fun _ => (pure () : Provision b Unit)).final s = (seed b cfg salts).final s := by
    rw [Prog.final_bind_ok hseed, Prog.final_bind_ok hout]
    have hstay : (migrateLegacyAgentGroupRoot b cfg).final ((seed b cfg salts).final s) = (seed b cfg salts).final s := by
      unfold Prog.final at hidle ⊢
      rw [hidle]
      rfl
    rw [hstay]
    unfold Prog.final
    rw [verify_no_writes]
    rfl
  exact ⟨hseed, hfinal, by rw [hfinal]; exact hgone⟩

theorem find?_of_apply {s : Stores ρ} {d : Dn ρ} {e : LdapAttrs ρ} {w : StoreWrite ρ} (htouches : ¬ w.Touches d)
    (hadds : ¬ w.Adds d) (h : (b.apply s w).directory.find? d = some e) : s.directory.find? d = some e := by
  by_cases hd : d ∈ s.directory.dns
  · obtain ⟨e', he'⟩ := (Directory.mem_dns_iff _ _).1 hd
    have := find?_apply (b := b) htouches he'
    rw [h, Option.some.injEq] at this
    rwa [this]
  · exact absurd ((Directory.mem_dns_iff _ _).2 ⟨e, h⟩) (not_mem_apply hadds hd)

omit [DecidableEq ρ] in
theorem not_touches_of_ne {step : SeedStep ρ} {w : StoreWrite ρ} (hw : w ∈ step.writes b cfg) {d : Dn ρ}
    (hne : d ≠ step.dn b cfg) : ¬ w.Touches d ∧ ¬ w.Adds d := by
  refine ⟨fun h => hne ?_, fun h => hne (dn_of_adds hw h)⟩
  obtain ⟨spec, rfl, hdn⟩ := touches_of_mem_writes hw h
  exact hdn

/-- A group, where it is there, has its attributes with some members. -/
def GroupShaped (b : Backend ρ) (cfg : ProvisionerConfig ρ) (kind : GroupKind) (s : Stores ρ) : Prop :=
  ∀ e, s.directory.find? (kind.dn b cfg) = some e → ∃ member, e = attributesOf (kind.spec b cfg member).attrs

theorem groupShaped_apply {step : SeedStep ρ} (hstep : step ∈ seedSteps b cfg salts) {w : StoreWrite ρ}
    (hw : w ∈ step.writes b cfg) {kind : GroupKind} {s : Stores ρ} (hs : GroupShaped b cfg kind s) :
    GroupShaped b cfg kind (b.apply s w) := by
  intro e he
  by_cases hdn : kind.dn b cfg = step.dn b cfg
  · obtain ⟨member, rfl⟩ := group_of_write hstep hw hdn
    have hspec := kind.spec_dn b cfg member
    rcases List.mem_pair.1 hw with rfl | rfl
    · by_cases h0 : b.reply s (.add (kind.spec b cfg member).dn (kind.spec b cfg member).attrs) = 0
      · have hnew := apply_add h0
        rw [hspec] at hnew he
        rw [hnew, Option.some.injEq] at he
        exact ⟨member, he.symm⟩
      · rw [apply_add_refused h0] at he
        exact hs e he
    · by_cases h0 : b.reply s (.modify (kind.spec b cfg member).dn (kind.spec b cfg member).changes) = 0
      · cases hold : s.directory.find? (kind.spec b cfg member).dn with
        | none =>
          simp only [Backend.reply, hold] at h0
          cases h0
        | some old =>
          have hnew := apply_modify hold h0
          rw [hspec] at hnew he hold
          rw [hnew, Option.some.injEq] at he
          obtain ⟨member', rfl⟩ := hs old hold
          refine ⟨member, ?_⟩
          rw [← he, ← kind.spec_member b cfg member member']
          exact replaceAttrs_attrs _ _
      · rw [apply_modify_refused h0] at he
        exact hs e he
  · obtain ⟨htouches, hadds⟩ := not_touches_of_ne hw hdn
    exact hs e (find?_of_apply htouches hadds he)

omit [DecidableEq ρ] in
theorem step_of_group {spec : GroupSpec ρ} (h : spec ∈ groupSpecs b cfg) : .group spec ∈ seedSteps b cfg salts := by
  rw [← groups_of_seedSteps b cfg salts] at h
  obtain ⟨step, hstep, hspec⟩ := List.mem_filterMap.1 h
  cases step with
  | group spec' => rwa [← Option.some.inj hspec]
  | _ => cases hspec

/-- **A group of the run** has the attributes of a new one after the run. -/
theorem group_after {s : Stores ρ} {kind : GroupKind} (hs : GroupShaped b cfg kind s)
    (hok : (seed b cfg salts s).1 = .ok ()) {member : List (Dn ρ)} (hmem : kind.spec b cfg member ∈ groupSpecs b cfg) :
    ((seed b cfg salts).final s).directory.find? (kind.dn b cfg) =
      some (attributesOf (kind.spec b cfg member).attrs) := by
  obtain ⟨e, he, hsame, -⟩ := (redoable_seed b cfg salts).ends s () hok _ (step_of_group hmem)
  have hshaped : GroupShaped b cfg kind ((seed b cfg salts).final s) :=
    seed_keeps (fun step hstep w hw s hs => groupShaped_apply hstep hw hs) hs
  rw [kind.spec_dn] at he
  obtain ⟨member', rfl⟩ := hshaped e he
  have hattrs := replaceAttrs_attrs (kind.spec b cfg member) member'
  rw [kind.spec_member] at hattrs
  rw [← hattrs, hsame]
  exact he

/-- A group that the run does not have stays absent. -/
theorem group_absent_after (cfg : ProvisionerConfig ρ) (salts : Nat → String) {s : Stores ρ} {kind : GroupKind}
    (hs : kind.dn b cfg ∉ s.directory.dns)
    (hnot : ∀ member, kind.spec b cfg member ∉ groupSpecs b cfg) :
    kind.dn b cfg ∉ ((seed b cfg salts).final s).directory.dns := by
  refine seed_keeps (I := fun s => kind.dn b cfg ∉ s.directory.dns) (fun step hstep w hw s hs => ?_) hs
  refine not_mem_apply (fun hadds => ?_) hs
  obtain ⟨member, rfl⟩ := group_of_write hstep hw (dn_of_adds hw hadds)
  exact hnot member (group_of_step hstep)

/-! ## The role -/

/-- The role, where it is there, has the agents of the run, at least one. -/
def RoleShaped (b : Backend ρ) (cfg : ProvisionerConfig ρ) (s : Stores ρ) : Prop :=
  ∀ e, s.directory.find? (roleDn b cfg "liderahenk") = some e → e = attributesOf (roleAttrs cfg) ∧ cfg.indices ≠ []

theorem roleShaped_apply {step : SeedStep ρ} (hstep : step ∈ seedSteps b cfg salts) {w : StoreWrite ρ}
    (hw : w ∈ step.writes b cfg) {s : Stores ρ} (hs : RoleShaped b cfg s) : RoleShaped b cfg (b.apply s w) := by
  intro e he
  by_cases hdn : roleDn b cfg "liderahenk" = step.dn b cfg
  · have hrole := role_of_write hstep hw hdn
    subst hrole
    rw [List.mem_singleton.1 hw] at he
    by_cases h0 : b.reply s (.add (roleDn b cfg "liderahenk") (roleAttrs cfg)) = 0
    · rw [apply_add h0, Option.some.injEq] at he
      refine ⟨he.symm, fun hnil => ?_⟩
      -- The server refuses an attribute without values.
      have hvalues := (of_reply_add h0).2.1
      simp [roleAttrs, hnil] at hvalues
    · rw [apply_add_refused h0] at he
      exact hs e he
  · obtain ⟨htouches, hadds⟩ := not_touches_of_ne hw hdn
    exact hs e (find?_of_apply htouches hadds he)

/-- **A run that adds the role** gives it its agents. -/
theorem role_after (cfg : ProvisionerConfig ρ) {s : Stores ρ} (hs : roleDn b cfg "liderahenk" ∉ s.directory.dns)
    (hok : (seed b cfg salts s).1 = .ok ()) : cfg.indices ≠ [] ∧
    ((seed b cfg salts).final s).directory.find? (roleDn b cfg "liderahenk") = some (attributesOf (roleAttrs cfg)) := by
  have hholds := (redoable_seed b cfg salts).ends s () hok .role (by simp [seedSteps])
  obtain ⟨e, he⟩ := (Directory.mem_dns_iff _ _).1 hholds
  have hshaped : RoleShaped b cfg ((seed b cfg salts).final s) :=
    seed_keeps (fun step hstep w hw s hs => roleShaped_apply hstep hw hs)
      (fun e he => absurd ((Directory.mem_dns_iff _ _).2 ⟨e, he⟩) hs)
  obtain ⟨rfl, hne⟩ := hshaped e he
  exact ⟨hne, he⟩

/-- **A later run leaves the role as it is.** -/
theorem role_kept (cfg : ProvisionerConfig ρ) (salts : Nat → String) {s : Stores ρ} {e : LdapAttrs ρ}
    (he : s.directory.find? (roleDn b cfg "liderahenk") = some e) :
    ((seed b cfg salts).final s).directory.find? (roleDn b cfg "liderahenk") = some e := by
  refine seed_keeps (I := fun s => s.directory.find? (roleDn b cfg "liderahenk") = some e)
    (fun step hstep w hw s hs => find?_apply (fun htouches => ?_) hs) he
  obtain ⟨spec, rfl, hdn⟩ := touches_of_mem_writes hw htouches
  cases role_of_write hstep hw hdn

/-! ## Two runs and a fresh one -/

/-- The environment with another number of agents. -/
def ProvisionerConfig.scaledTo {ρ : Type} (cfg : ProvisionerConfig ρ) (n : Int) : ProvisionerConfig ρ :=
  { cfg with agentCount := n }

variable (b cfg) in
/-- A directory without the role, the groups and a legacy root, as `ldap-init` leaves it. -/
structure Unseeded (s : Stores ρ) : Prop where
  role : roleDn b cfg "liderahenk" ∉ s.directory.dns
  groups : ∀ kind : GroupKind, kind.dn b cfg ∉ s.directory.dns
  legacy : legacyAgentGroupsOu b cfg ∉ s.directory.dns

variable (b cfg) in
/-- Two directories have the same role binding and the same groups. -/
structure SeedsAgree (d d' : Stores ρ) : Prop where
  role : ∀ key ∈ ["sudoUser", "sudoHost"],
    (d.directory.find? (roleDn b cfg "liderahenk")).map (fun e => e key) =
      (d'.directory.find? (roleDn b cfg "liderahenk")).map (fun e => e key)
  admins : d.directory.find? (groupDn b cfg "DomainAdmins") = d'.directory.find? (groupDn b cfg "DomainAdmins")
  userGroups : ∀ i < cfg.userGroupCount, d.directory.find? (groupDn b cfg (userGroupName i)) =
    d'.directory.find? (groupDn b cfg (userGroupName i))
  endpointGroups : ∀ i < cfg.endpointGroupCount, d.directory.find? (agentGroupDn b cfg (endpointGroupName i)) =
    d'.directory.find? (agentGroupDn b cfg (endpointGroupName i))

omit [DecidableEq ρ] in
theorem indices_grow {n m : Int} (h : n ≤ m) : (cfg.scaledTo n).indices <+: (cfg.scaledTo m).indices := by
  obtain ⟨k, hk⟩ := Nat.exists_eq_add_of_le (Int.toNat_le_toNat h)
  show (List.range n.toNat).map _ <+: (List.range m.toNat).map _
  rw [hk, List.range_add, List.map_append]
  exact List.prefix_append _ _

omit [DecidableEq ρ] in
/-- A group of a run with fewer agents is one of a run with more. -/
theorem groups_grow {n m : Int} (h : n ≤ m) {kind : GroupKind} {member : List (Dn ρ)}
    (hmem : kind.spec b cfg member ∈ groupSpecs b (cfg.scaledTo n)) :
    ∃ member', kind.spec b cfg member' ∈ groupSpecs b (cfg.scaledTo m) := by
  rcases List.mem_append.1 hmem with hmem | hmem
  · exact ⟨member, List.mem_append_left _ hmem⟩
  · obtain ⟨index, hindex, hspec⟩ := List.mem_filterMap.1 hmem
    have hlt : index < cfg.endpointGroupCount := List.mem_range.1 hindex
    simp only at hspec
    split at hspec
    · cases hspec
    · rename_i hne
      have hkind : kind = .endpoint index := by
        refine GroupKind.dn_injective b cfg ?_
        rw [← kind.spec_dn b cfg member, ← Option.some.inj hspec]
        rfl
      subst hkind
      have hgrown : (roundRobinMembers (agentDns b (cfg.scaledTo m)) cfg.endpointGroupCount).getD index [] ≠ [] :=
        bucket_grows ((indices_grow h).map _) hlt (fun hnil => hne (List.isEmpty_iff.2 hnil))
      refine ⟨(roundRobinMembers (agentDns b (cfg.scaledTo m)) cfg.endpointGroupCount).getD index [],
        List.mem_append_right _ (List.mem_filterMap.2 ⟨index, hindex, ?_⟩)⟩
      exact if_neg (fun hempty => hgrown (List.isEmpty_iff.1 hempty))

/-- The end of a run with fewer agents, then of one with more. -/
def twoRuns (b : Backend ρ) (cfg : ProvisionerConfig ρ) (n m : Int) (salts salts' : Nat → String) (s : Stores ρ) :
    Stores ρ :=
  (provision b (cfg.scaledTo m) salts').final ((provision b (cfg.scaledTo n) salts).final s)

section
variable {s : Stores ρ} (hs : Unseeded b cfg s) {n m : Int} {salts' freshSalts : Nat → String}
  (hfirst : (provision b (cfg.scaledTo n) salts s).1 = .ok ())
  (hsecond : (provision b (cfg.scaledTo m) salts' ((provision b (cfg.scaledTo n) salts).final s)).1 = .ok ())
  (hfresh : (provision b (cfg.scaledTo m) freshSalts s).1 = .ok ())
include hs hfirst hsecond hfresh

/-- **Every group ends as after a fresh run.** -/
theorem groups_agree (hle : n ≤ m) (kind : GroupKind) :
    (twoRuns b cfg n m salts salts' s).directory.find? (kind.dn b cfg) =
      ((provision b (cfg.scaledTo m) freshSalts).final s).directory.find? (kind.dn b cfg) := by
  have hspec : ∀ k : Int, kind.spec b (cfg.scaledTo k) = kind.spec b cfg := fun k => by cases kind <;> rfl
  have hdn : ∀ k : Int, kind.dn b (cfg.scaledTo k) = kind.dn b cfg := fun k => by cases kind <;> rfl
  have hshaped : ∀ {k k' : Int} {d : Stores ρ}, GroupShaped b (cfg.scaledTo k) kind d →
      GroupShaped b (cfg.scaledTo k') kind d := by
    intro k k' d hd e he
    rw [hdn] at he
    obtain ⟨member, rfl⟩ := hd e (by rw [hdn]; exact he)
    exact ⟨member, by rw [hspec, hspec]⟩
  have hstart : GroupShaped b (cfg.scaledTo n) kind s := fun e he =>
    absurd ((Directory.mem_dns_iff _ _).2 ⟨e, he⟩) (by rw [hdn]; exact hs.groups kind)
  obtain ⟨hseed, hend, hgone⟩ := final_provision (cfg.scaledTo n) hs.legacy hfirst
  obtain ⟨hseed', hend', -⟩ := final_provision (cfg.scaledTo m) hgone hsecond
  obtain ⟨hseedFresh, hendFresh, -⟩ := final_provision (cfg.scaledTo m) hs.legacy hfresh
  unfold twoRuns
  rw [hend', hendFresh]
  by_cases hmem : ∃ member, kind.spec b cfg member ∈ groupSpecs b (cfg.scaledTo m)
  · obtain ⟨member, hmem⟩ := hmem
    rw [← hspec m] at hmem
    have hmiddle : GroupShaped b (cfg.scaledTo n) kind ((provision b (cfg.scaledTo n) salts).final s) := by
      rw [hend]
      exact seed_keeps (fun step hstep w hw s hs => groupShaped_apply hstep hw hs) hstart
    have h2 := group_after (hshaped hmiddle) hseed' hmem
    have h3 := group_after (hshaped hstart) hseedFresh hmem
    rw [hdn] at h2 h3
    rw [h2, h3]
  · have hnone : ∀ {d : Stores ρ}, kind.dn b cfg ∉ d.directory.dns → d.directory.find? (kind.dn b cfg) = none := by
      intro d hd
      rw [Option.eq_none_iff_forall_ne_some]
      exact fun e he => hd ((Directory.mem_dns_iff _ _).2 ⟨e, he⟩)
    have hnot : ∀ member, kind.spec b (cfg.scaledTo m) member ∉ groupSpecs b (cfg.scaledTo m) := fun member hin =>
      hmem ⟨member, hspec m ▸ hin⟩
    have hnotFirst : ∀ member, kind.spec b (cfg.scaledTo n) member ∉ groupSpecs b (cfg.scaledTo n) := fun member hin =>
      hmem (groups_grow hle (hspec n ▸ hin))
    have h1 := group_absent_after (cfg.scaledTo n) salts (by rw [hdn]; exact hs.groups kind) hnotFirst
    rw [← hend] at h1
    have h2 := group_absent_after (cfg.scaledTo m) salts' (by rw [hdn] at h1 ⊢; exact h1) hnot
    have h3 := group_absent_after (cfg.scaledTo m) freshSalts (by rw [hdn]; exact hs.groups kind) hnot
    rw [hdn] at h2 h3
    rw [hnone h2, hnone h3]

/-- **The role ends with the agents of the first run**, in a fresh run with all agents. -/
theorem role_of_first : (cfg.scaledTo n).indices ≠ [] ∧
    (twoRuns b cfg n m salts salts' s).directory.find? (roleDn b cfg "liderahenk") =
      some (attributesOf (roleAttrs (cfg.scaledTo n))) ∧
    ((provision b (cfg.scaledTo m) freshSalts).final s).directory.find? (roleDn b cfg "liderahenk") =
      some (attributesOf (roleAttrs (cfg.scaledTo m))) := by
  obtain ⟨hseed, hend, hgone⟩ := final_provision (cfg.scaledTo n) hs.legacy hfirst
  obtain ⟨hseed', hend', -⟩ := final_provision (cfg.scaledTo m) hgone hsecond
  obtain ⟨hseedFresh, hendFresh, -⟩ := final_provision (cfg.scaledTo m) hs.legacy hfresh
  obtain ⟨hne, hrole⟩ := role_after (cfg.scaledTo n) hs.role hseed
  refine ⟨hne, ?_, ?_⟩
  · unfold twoRuns
    rw [hend', hend]
    exact role_kept (cfg.scaledTo m) salts' hrole
  · rw [hendFresh]
    exact (role_after (cfg.scaledTo m) hs.role hseedFresh).2

/-- Runs that agree on the role have as many agents. -/
theorem eq_of_agree (hle : n ≤ m)
    (h : SeedsAgree b cfg (twoRuns b cfg n m salts salts' s) ((provision b (cfg.scaledTo m) freshSalts).final s)) :
    n = m := by
  obtain ⟨hne, hrole, hrole'⟩ := role_of_first hs hfirst hsecond hfresh
  have hpos : 0 < n.toNat := by
    by_contra h
    have hzero : n.toNat = 0 := by omega
    refine hne ?_
    show (List.range n.toNat).map _ = []
    rw [hzero]
    rfl
  have husers := h.role "sudoUser" (by decide)
  rw [hrole, hrole', Option.map_some, Option.map_some, Option.some.injEq] at husers
  have hlen : ((cfg.scaledTo n).indices.map (fun i => LdapValue.text (ρ := ρ) (ahenkId i))).length =
      ((cfg.scaledTo m).indices.map (fun i => LdapValue.text (ρ := ρ) (ahenkId i))).length := congrArg List.length husers
  simp only [List.length_map, ProvisionerConfig.indices, List.length_range, ProvisionerConfig.scaledTo] at hlen
  omega

/-- **Scale-up**: two runs leave the role binding and the groups of a fresh run exactly where the number of agents did
not grow. -/
theorem scaleUp_agrees_iff (hle : n ≤ m) :
    SeedsAgree b cfg (twoRuns b cfg n m salts salts' s) ((provision b (cfg.scaledTo m) freshSalts).final s) ↔ n = m := by
  have hgroups := groups_agree hs hfirst hsecond hfresh hle
  constructor
  · exact eq_of_agree hs hfirst hsecond hfresh hle
  · rintro rfl
    obtain ⟨-, hrole, hrole'⟩ := role_of_first hs hfirst hsecond hfresh
    exact ⟨fun key _ => by rw [hrole, hrole'], hgroups .admins, fun i _ => hgroups (.user i),
      fun i _ => hgroups (.endpoint i)⟩

end

end

/-! ## Runs on the small platform -/

theorem initRoots_unseeded : Unseeded sampleBackend (sampleProvisioner 0) initRoots where
  role := by decide
  groups kind hmem := by
    obtain ⟨root, hdn⟩ := kind.dn_eq sampleBackend (sampleProvisioner 0)
    have hheads : ∀ d ∈ initRoots.directory.dns, d.head?.map Prod.fst ≠ some "cn" := by decide
    refine hheads _ hmem ?_
    rw [hdn]
    rfl
  legacy := by decide

theorem sampleRuns_ok :
    (provision sampleBackend ((sampleProvisioner 0).scaledTo 1) (fun _ => "a") initRoots).1 = .ok () ∧
    (provision sampleBackend ((sampleProvisioner 0).scaledTo 2) (fun _ => "a") initRoots).1 = .ok () ∧
    (provision sampleBackend ((sampleProvisioner 0).scaledTo 2) (fun _ => "b")
      ((provision sampleBackend ((sampleProvisioner 0).scaledTo 1) (fun _ => "a")).final initRoots)).1 = .ok () ∧
    (provision sampleBackend ((sampleProvisioner 0).scaledTo 2) (fun _ => "b")
      ((provision sampleBackend ((sampleProvisioner 0).scaledTo 2) (fun _ => "a")).final initRoots)).1 = .ok () := by
  refine ⟨?_, ?_, ?_, ?_⟩ <;> decide +kernel

/-- Two agents after one: the role keeps the first agent only. -/
theorem grownRun_disagrees : Unseeded sampleBackend (sampleProvisioner 0) initRoots ∧ (1 : Int) ≤ 2 ∧
    (provision sampleBackend ((sampleProvisioner 0).scaledTo 1) (fun _ => "a") initRoots).1 = .ok () ∧
    (provision sampleBackend ((sampleProvisioner 0).scaledTo 2) (fun _ => "b")
      ((provision sampleBackend ((sampleProvisioner 0).scaledTo 1) (fun _ => "a")).final initRoots)).1 = .ok () ∧
    (provision sampleBackend ((sampleProvisioner 0).scaledTo 2) (fun _ => "a") initRoots).1 = .ok () ∧
    ¬ SeedsAgree sampleBackend (sampleProvisioner 0)
      (twoRuns sampleBackend (sampleProvisioner 0) 1 2 (fun _ => "a") (fun _ => "b") initRoots)
      ((provision sampleBackend ((sampleProvisioner 0).scaledTo 2) (fun _ => "a")).final initRoots) := by
  obtain ⟨hone, htwo, hgrown, -⟩ := sampleRuns_ok
  refine ⟨initRoots_unseeded, by decide, hone, hgrown, htwo, fun h => ?_⟩
  exact absurd (eq_of_agree initRoots_unseeded hone hgrown htwo (by decide) h) (by decide)

/-- Two agents twice: the entries agree, other salts notwithstanding. -/
theorem sameRun_agrees : Unseeded sampleBackend (sampleProvisioner 0) initRoots ∧
    (provision sampleBackend ((sampleProvisioner 0).scaledTo 2) (fun _ => "b")
      ((provision sampleBackend ((sampleProvisioner 0).scaledTo 2) (fun _ => "a")).final initRoots)).1 = .ok () ∧
    SeedsAgree sampleBackend (sampleProvisioner 0)
      (twoRuns sampleBackend (sampleProvisioner 0) 2 2 (fun _ => "a") (fun _ => "b") initRoots)
      ((provision sampleBackend ((sampleProvisioner 0).scaledTo 2) (fun _ => "a")).final initRoots) := by
  obtain ⟨-, htwo, -, hsame⟩ := sampleRuns_ok
  exact ⟨initRoots_unseeded, hsame, (scaleUp_agrees_iff initRoots_unseeded htwo hsame htwo (by decide)).2 rfl⟩

end Lider
