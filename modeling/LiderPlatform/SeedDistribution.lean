import LiderPlatform.SeedIdentities
/-!
# SeedDistribution — the members of the seeded groups (`services/provisioner/provision.py`)

`_round_robin_members` deals the directory users to the user groups and the agents to the endpoint groups.  A user
group that gets none takes a default member, an endpoint group that gets none is not seeded.  `seedDistribution`: either
way the groups share the seeds out.
-/
namespace Lider

open Py Ldap

/-! ## Sharing out -/

/-- The seeds among the members of the group in place `i`; none where no group is. -/
def shareOf (seeds : List String) (groups : List (List String)) (i : Nat) : List String :=
  (groups.getD i []).filter (· ∈ seeds)

/-- Groups, as lists of members, that share the seeds out over so many buckets. -/
structure SharesOut (seeds : List String) (bucketCount : Nat) (groups : List (List String)) : Prop where
  once : ∀ seed ∈ seeds, ∃! i : Nat, ∃ members, groups[i]? = some members ∧ seed ∈ members
  balanced : ∀ i < bucketCount, ∀ j < bucketCount, (shareOf seeds groups i).length ≤ (shareOf seeds groups j).length + 1
  ordered : ∀ members ∈ groups, members.Sublist seeds ∨ ∃ default, default ∉ seeds ∧ members = [default]
  inhabited : ∀ members ∈ groups, members ≠ []

/-- What each place of the groups holds: its hand, or a default where the hand is empty. -/
def Dealt (seeds : List String) (bucketCount : Nat) (groups : List (List String)) : Prop :=
  ∀ (i : Nat) members, groups[i]? = some members → i < bucketCount ∧
    (members ≠ [] ∧ members = RoundRobin.hand seeds bucketCount i ∨
      RoundRobin.hand seeds bucketCount i = [] ∧ ∃ default, default ∉ seeds ∧ members = [default])

section
variable {seeds : List String} {bucketCount : Nat} {groups : List (List String)}

theorem shareOf_eq_hand (hdealt : Dealt seeds bucketCount groups) {i : Nat}
    (hall : RoundRobin.hand seeds bucketCount i ≠ [] → groups[i]? = some (RoundRobin.hand seeds bucketCount i)) :
    shareOf seeds groups i = RoundRobin.hand seeds bucketCount i := by
  have hown : (RoundRobin.hand seeds bucketCount i).filter (· ∈ seeds) = RoundRobin.hand seeds bucketCount i :=
    List.filter_eq_self.2 (fun seed h =>
      decide_eq_true ((RoundRobin.hand_sublist seeds bucketCount i).subset h))
  rw [shareOf, List.getD_eq_getElem?_getD]
  cases hg : groups[i]? with
  | none =>
    have hnil : RoundRobin.hand seeds bucketCount i = [] := by
      by_contra hne
      rw [hall hne] at hg
      cases hg
    rw [hnil]
    rfl
  | some members =>
    obtain ⟨-, ⟨-, rfl⟩ | ⟨hnil, default, hdefault, rfl⟩⟩ := hdealt i members hg
    · exact hown
    · rw [hnil]
      simp [hdefault]

/-- **Dealt groups share out** pairwise distinct seeds. -/
theorem sharesOut_of_dealt (hnodup : seeds.Nodup) (hcount : 0 < bucketCount) (hdealt : Dealt seeds bucketCount groups)
    (hall : ∀ i < bucketCount, RoundRobin.hand seeds bucketCount i ≠ [] →
      groups[i]? = some (RoundRobin.hand seeds bucketCount i)) : SharesOut seeds bucketCount groups where
  once seed hseed := by
    obtain ⟨i, ⟨hi, hmem⟩, honly⟩ := RoundRobin.existsUnique_hand hnodup hcount hseed
    refine ⟨i, ⟨_, hall i hi (List.ne_nil_of_mem hmem), hmem⟩, ?_⟩
    rintro j ⟨members, hj, hin⟩
    obtain ⟨hlt, ⟨-, rfl⟩ | ⟨-, default, hdefault, rfl⟩⟩ := hdealt j members hj
    · exact honly j ⟨hlt, hin⟩
    · exact absurd (List.mem_singleton.1 hin ▸ hseed) hdefault
  balanced i hi j hj := by
    rw [shareOf_eq_hand hdealt (hall i hi), shareOf_eq_hand hdealt (hall j hj)]
    exact RoundRobin.length_hand_le seeds hi hj
  ordered members hmem := by
    obtain ⟨i, hi⟩ := List.mem_iff_getElem?.1 hmem
    obtain ⟨-, ⟨-, rfl⟩ | ⟨-, hdefault⟩⟩ := hdealt i members hi
    · exact .inl (RoundRobin.hand_sublist seeds bucketCount i)
    · exact .inr hdefault
  inhabited members hmem := by
    obtain ⟨i, hi⟩ := List.mem_iff_getElem?.1 hmem
    obtain ⟨-, ⟨hne, -⟩ | ⟨-, default, -, rfl⟩⟩ := hdealt i members hi
    · exact hne
    · exact List.cons_ne_nil _ _

end

/-! ## The two families -/

/-- The DNs of the directory users, and of the agents. -/
def userTexts (cfg : ProvisionerConfig String) : List String :=
  (directoryUserSpecs cfg).map (fun spec => dnText (userDn textBackend cfg spec.uid))

def agentTexts (cfg : ProvisionerConfig String) : List String := (agentDns textBackend cfg).map dnText

def GroupSpec.memberTexts (g : GroupSpec String) : List String := g.member.map dnText

section
variable {cfg : ProvisionerConfig String}

theorem map_bucket (dns : List (Dn String)) {k i : Nat} (hi : i < k) :
    ((roundRobinMembers dns k).getD i []).map dnText = RoundRobin.hand (dns.map dnText) k i := by
  rw [roundRobinMembers_eq_deal, RoundRobin.getD_deal dns hi, RoundRobin.map_hand]

theorem userTexts_nodup : (userTexts cfg).Nodup := by
  have huids : ((directoryUserSpecs cfg).map UserSpec.uid).Nodup := by
    rw [directoryUserSpecs_uid]
    exact List.nodup_range.map_on (fun _ _ _ _ h => directoryUserUid_injective h)
  exact List.pairwise_map.2 ((List.pairwise_map.1 huids).imp (fun hne h => hne (userDn_text_inj h)))

theorem agentTexts_eq :
    agentTexts cfg = (List.range cfg.agentCount.toNat).map (fun i => dnText (agentDn textBackend cfg (ahenkId (i + 1)))) := by
  simp [agentTexts, agentDns, ProvisionerConfig.indices, Function.comp_def]

theorem agentTexts_nodup : (agentTexts cfg).Nodup := by
  rw [agentTexts_eq]
  refine List.nodup_range.map_on (fun i _ j _ h => ?_)
  have := ahenkId_injective _ _ ((String.append_right_inj _).1 (dnText_inj_of_same_rest h))
  omega

/-- The default member of a user group is the admin, whether or not an operator is seeded. -/
theorem userGroupSpecs_default :
    (((operatorSpecs cfg).map (fun spec => userDn textBackend cfg spec.uid)).head?).getD (agentOwnerDn textBackend cfg) =
      userDn textBackend cfg cfg.liderAdminUid := by
  have huids := operatorSpecs_uid cfg
  cases hops : operatorSpecs cfg with
  | nil => rfl
  | cons op ops =>
    rw [hops] at huids
    have hfirst : some op.uid = some cfg.liderAdminUid := by
      cases hcount : cfg.operatorCount with
      | zero => simp [hcount] at huids
      | succ n =>
        rw [hcount, List.range_succ_eq_map] at huids
        simpa [operatorUid] using congrArg List.head? huids
    simp [Option.some.inj hfirst]

theorem getElem?_userGroups (cfg : ProvisionerConfig String) (i : Nat) :
    ((userGroupSpecs textBackend cfg).map GroupSpec.memberTexts)[i]? =
      if i < cfg.userGroupCount then
        let bucket := RoundRobin.hand (userTexts cfg) cfg.userGroupCount i
        some (if bucket.isEmpty then [dnText (userDn textBackend cfg cfg.liderAdminUid)] else bucket)
      else none := by
  rw [userGroupSpecs, userGroupSpecs_default, List.map_map, List.getElem?_map]
  by_cases hi : i < cfg.userGroupCount
  · have hbucket := map_bucket ((directoryUserSpecs cfg).map (fun spec => userDn textBackend cfg spec.uid)) hi
    have hseeds : userTexts cfg =
        ((directoryUserSpecs cfg).map (fun spec => userDn textBackend cfg spec.uid)).map dnText := by
      rw [List.map_map]
      rfl
    have hmap : ∀ bucket : List (Dn String),
        (if bucket.isEmpty then [userDn textBackend cfg cfg.liderAdminUid] else bucket).map dnText =
          if (bucket.map dnText).isEmpty then [dnText (userDn textBackend cfg cfg.liderAdminUid)]
          else bucket.map dnText := by
      intro bucket
      cases bucket <;> rfl
    rw [List.getElem?_range hi, if_pos hi, hseeds, ← hbucket, Option.map_some]
    exact congrArg some (hmap _)
  · rw [if_neg hi, List.getElem?_eq_none (by rw [List.length_range]; omega), Option.map_none]

/-- The endpoint group in a place, unless it would be empty. -/
def endpointGroupAt (cfg : ProvisionerConfig String) (index : Nat) : Option (GroupSpec String) :=
  let bucket := (roundRobinMembers (agentDns textBackend cfg) cfg.endpointGroupCount).getD index []
  if bucket.isEmpty then none else some (endpointGroupSpec textBackend cfg index bucket)

theorem endpointGroupSpecs_eq (cfg : ProvisionerConfig String) :
    endpointGroupSpecs textBackend cfg = (List.range cfg.endpointGroupCount).filterMap (endpointGroupAt cfg) := rfl

theorem endpointGroups_eq (cfg : ProvisionerConfig String) :
    (endpointGroupSpecs textBackend cfg).map GroupSpec.memberTexts =
      (List.range (min cfg.endpointGroupCount cfg.agentCount.toNat)).map
        (RoundRobin.hand (agentTexts cfg) cfg.endpointGroupCount) := by
  have hlength : (agentTexts cfg).length = cfg.agentCount.toNat := by rw [agentTexts_eq]; simp
  have hempty : ∀ i < cfg.endpointGroupCount,
      (((roundRobinMembers (agentDns textBackend cfg) cfg.endpointGroupCount).getD i []).isEmpty ↔
        cfg.agentCount.toNat ≤ i) := by
    intro i hi
    rw [← hlength, ← RoundRobin.hand_eq_nil_iff (agentTexts cfg) hi, agentTexts, ← map_bucket _ hi, List.map_eq_nil_iff,
      List.isEmpty_iff]
  have hcut : cfg.endpointGroupCount =
      min cfg.endpointGroupCount cfg.agentCount.toNat + (cfg.endpointGroupCount - cfg.agentCount.toNat) := by omega
  have hdealt : ∀ i < min cfg.endpointGroupCount cfg.agentCount.toNat,
      (endpointGroupAt cfg i).map GroupSpec.memberTexts =
        some (RoundRobin.hand (agentTexts cfg) cfg.endpointGroupCount i) := by
    intro i hi
    have hne := mt (hempty i (by omega)).1 (by omega)
    rw [endpointGroupAt, if_neg hne, agentTexts, ← map_bucket _ (by omega)]
    rfl
  have hleft : ∀ i < cfg.endpointGroupCount - cfg.agentCount.toNat,
      endpointGroupAt cfg (min cfg.endpointGroupCount cfg.agentCount.toNat + i) = none := by
    intro i hi
    exact if_pos ((hempty _ (by omega)).2 (by omega))
  have hnone : ((List.range (cfg.endpointGroupCount - cfg.agentCount.toNat)).map
      (min cfg.endpointGroupCount cfg.agentCount.toNat + ·)).filterMap
        (fun i => (endpointGroupAt cfg i).map GroupSpec.memberTexts) = [] := by
    rw [List.filterMap_map, List.filterMap_eq_nil_iff]
    intro i hi
    rw [Function.comp_apply, hleft i (List.mem_range.1 hi), Option.map_none]
  rw [endpointGroupSpecs_eq, List.map_filterMap]
  conv_lhs => rw [hcut]
  rw [List.range_add, List.filterMap_append, hnone, List.append_nil]
  exact (List.filterMap_congr (fun i hi => hdealt i (List.mem_range.1 hi))).trans
    (congrFun List.filterMap_eq_map' _)

theorem admin_notMem_userTexts (hadmin : ∀ index, cfg.liderAdminUid ≠ directoryUserUid index) :
    dnText (userDn textBackend cfg cfg.liderAdminUid) ∉ userTexts cfg := by
  intro h
  obtain ⟨spec, hspec, heq⟩ := List.mem_map.1 h
  have huid := List.mem_map_of_mem (f := UserSpec.uid) hspec
  rw [directoryUserSpecs_uid] at huid
  obtain ⟨index, -, hindex⟩ := List.mem_map.1 huid
  exact hadmin index ((userDn_text_inj heq).symm.trans hindex.symm)

/-- **The user groups share the directory users out.** -/
theorem userGroups_shareOut (hadmin : ∀ index, cfg.liderAdminUid ≠ directoryUserUid index)
    (hcount : 1 ≤ cfg.userGroupCount) :
    SharesOut (userTexts cfg) cfg.userGroupCount ((userGroupSpecs textBackend cfg).map GroupSpec.memberTexts) := by
  refine sharesOut_of_dealt userTexts_nodup hcount (fun i members h => ?_) (fun i hi hne => ?_)
  · rw [getElem?_userGroups] at h
    split at h
    · rename_i hi
      refine ⟨hi, ?_⟩
      obtain rfl := (Option.some.inj h).symm
      split
      · rename_i hempty
        exact .inr ⟨List.isEmpty_iff.1 hempty, _, admin_notMem_userTexts hadmin, rfl⟩
      · rename_i hne
        exact .inl ⟨fun hnil => hne (List.isEmpty_iff.2 hnil), rfl⟩
    · cases h
  · rw [getElem?_userGroups, if_pos hi]
    exact congrArg some (if_neg (fun hempty => hne (List.isEmpty_iff.1 hempty)))

/-- **The endpoint groups share the agents out**: the group in a place is the hand of that place. -/
theorem endpointGroups_shareOut (hcount : 1 ≤ cfg.endpointGroupCount) :
    SharesOut (agentTexts cfg) cfg.endpointGroupCount ((endpointGroupSpecs textBackend cfg).map GroupSpec.memberTexts) := by
  have hlength : (agentTexts cfg).length = cfg.agentCount.toNat := by rw [agentTexts_eq]; simp
  have hne : ∀ i < cfg.endpointGroupCount,
      (RoundRobin.hand (agentTexts cfg) cfg.endpointGroupCount i ≠ [] ↔ i < cfg.agentCount.toNat) := by
    intro i hi
    rw [Ne, RoundRobin.hand_eq_nil_iff _ hi, hlength, not_le]
  rw [endpointGroups_eq]
  refine sharesOut_of_dealt agentTexts_nodup hcount (fun i members h => ?_) (fun i hi hhand => ?_)
  · rw [List.getElem?_map, Option.map_eq_some_iff] at h
    obtain ⟨j, hj, rfl⟩ := h
    obtain ⟨hlt, rfl⟩ := List.getElem?_eq_some_iff.1 hj
    rw [List.length_range] at hlt
    rw [List.getElem_range]
    exact ⟨by omega, .inl ⟨(hne i (by omega)).2 (by omega), rfl⟩⟩
  · have := (hne i hi).1 hhand
    rw [List.getElem?_map, List.getElem?_range (by omega), Option.map_some]

end

/-- **The seeded groups share out what they are for.**  As many user groups as are asked for are seeded, and as many
endpoint groups as have an agent. -/
theorem seedDistribution (cfg : ProvisionerConfig String)
    (hadmin : ∀ index, cfg.liderAdminUid ≠ directoryUserUid index) (husers : 1 ≤ cfg.userGroupCount)
    (hendpoints : 1 ≤ cfg.endpointGroupCount) :
    SharesOut (userTexts cfg) cfg.userGroupCount ((userGroupSpecs textBackend cfg).map GroupSpec.memberTexts) ∧
      SharesOut (agentTexts cfg) cfg.endpointGroupCount
        ((endpointGroupSpecs textBackend cfg).map GroupSpec.memberTexts) ∧
      (∀ g ∈ endpointGroupSpecs textBackend cfg, g.memberTexts.Sublist (agentTexts cfg)) ∧
      (userGroupSpecs textBackend cfg).length = cfg.userGroupCount ∧
      (endpointGroupSpecs textBackend cfg).length = min cfg.endpointGroupCount cfg.agentCount.toNat := by
  refine ⟨userGroups_shareOut hadmin husers, endpointGroups_shareOut hendpoints, fun g hg => ?_, ?_, ?_⟩
  · have hmem := List.mem_map_of_mem (f := GroupSpec.memberTexts) hg
    rw [endpointGroups_eq] at hmem
    obtain ⟨i, -, heq⟩ := List.mem_map.1 hmem
    exact heq ▸ RoundRobin.hand_sublist _ _ i
  · simp [userGroupSpecs]
  · have hlength := congrArg List.length (endpointGroups_eq cfg)
    simpa using hlength

theorem seedDistribution_sample :
    SharesOut (userTexts sampleSeed) 4 ((userGroupSpecs textBackend sampleSeed).map GroupSpec.memberTexts) ∧
      SharesOut (agentTexts sampleSeed) 2 ((endpointGroupSpecs textBackend sampleSeed).map GroupSpec.memberTexts) ∧
      (∀ g ∈ endpointGroupSpecs textBackend sampleSeed, g.memberTexts.Sublist (agentTexts sampleSeed)) ∧
      (userGroupSpecs textBackend sampleSeed).length = 4 ∧ (endpointGroupSpecs textBackend sampleSeed).length = 2 :=
  seedDistribution sampleSeed (fun index h => by
    have hfirst : (directoryUserUid index).toList.head? = some 'u' := by simp [directoryUserUid]
    rw [← h] at hfirst
    exact absurd hfirst (by decide)) (by decide) (by decide)

end Lider
