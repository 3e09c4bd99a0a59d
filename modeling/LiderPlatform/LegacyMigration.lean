import LiderPlatform.ProvisionerRecovery
/-!
# LegacyMigration — the legacy group root where the server refuses what it likes (`services/provisioner/provision.py`)

`migrate_legacy_agent_group_root` moves each child of the legacy root, or deletes it where its name is taken below the
new one; a refusal is noted and the next child is tried.  Here any of the operations may be refused.
`legacyMigration_law`: no child is lost, and nothing outside is touched.
-/
namespace Lider

open Ldap Restart

/-! ## The migration -/

inductive MigrationAction where
  | deleteLegacyDuplicate
  | moveToAgentGroupRoot
  | deleteLegacyRoot
deriving DecidableEq

structure MigrationFailure (ρ : Type) where
  dn : Dn ρ
  action : MigrationAction
  result : Nat

/-- The variables of the migration, with the stores and the number of operations sent. -/
structure MigrationFrame (ρ : Type) where
  stores : Stores ρ
  operations : Nat
  moved : Nat
  deletedDuplicates : Nat
  failures : List (MigrationFailure ρ)

def MigrationFrame.initial {ρ : Type} (s : Stores ρ) : MigrationFrame ρ := ⟨s, 0, 0, 0, []⟩

section
variable {ρ : Type} [DecidableEq ρ] (b : Backend ρ) (cfg : ProvisionerConfig ρ) (refusal : Nat → Nat)

/-- The `k`-th operation is refused with the code `refusal k`, unless that is 0; then the server does it if it can. -/
def MigrationFrame.send (fr : MigrationFrame ρ) (w : StoreWrite ρ) : MigrationFrame ρ :=
  { fr with
    stores := if refusal fr.operations = 0 then b.apply fr.stores w else fr.stores
    operations := fr.operations + 1 }

/-- `conn.result["result"]` after that operation. -/
def MigrationFrame.result (fr : MigrationFrame ρ) (w : StoreWrite ρ) : Nat :=
  if refusal fr.operations = 0 then b.reply fr.stores w else refusal fr.operations

/-- The body of the loop over the children. -/
def tryMigrateChild (fr : MigrationFrame ρ) (childDn : Dn ρ) : MigrationFrame ρ :=
  if childDn.take 1 ++ cfg.agentGroupsOu ∈ fr.stores.directory.dns then
    let result := fr.result b refusal (.delete childDn)
    let fr := fr.send b refusal (.delete childDn)
    if result = 0 then { fr with deletedDuplicates := fr.deletedDuplicates + 1 }
    else { fr with failures := fr.failures ++ [⟨childDn, .deleteLegacyDuplicate, result⟩] }
  else
    let result := fr.result b refusal (.modifyDn childDn cfg.agentGroupsOu)
    let fr := fr.send b refusal (.modifyDn childDn cfg.agentGroupsOu)
    if result = 0 then { fr with moved := fr.moved + 1 }
    else { fr with failures := fr.failures ++ [⟨childDn, .moveToAgentGroupRoot, result⟩] }

/-- The loop over the children. -/
def tryMigrateChildren (s : Stores ρ) : MigrationFrame ρ :=
  (s.directory.children (legacyAgentGroupsOu b cfg)).foldl (tryMigrateChild b cfg refusal) (.initial s)

/-- What follows the loop. -/
def tryDeleteLegacyRoot (fr : MigrationFrame ρ) : MigrationFrame ρ :=
  if (fr.stores.directory.children (legacyAgentGroupsOu b cfg)).isEmpty then
    let result := fr.result b refusal (.delete (legacyAgentGroupsOu b cfg))
    let fr := fr.send b refusal (.delete (legacyAgentGroupsOu b cfg))
    if result = 0 then fr
    else { fr with failures := fr.failures ++ [⟨legacyAgentGroupsOu b cfg, .deleteLegacyRoot, result⟩] }
  else fr

/-- `migrate_legacy_agent_group_root`. -/
def tryMigrateLegacyAgentGroupRoot (s : Stores ρ) : MigrationFrame ρ :=
  if legacyAgentGroupsOu b cfg = cfg.agentGroupsOu then .initial s
  else if legacyAgentGroupsOu b cfg ∉ s.directory.dns then .initial s
  else tryDeleteLegacyRoot b cfg refusal (tryMigrateChildren b cfg refusal s)

/-! ## The law -/

def MigrationFrame.Lists (fr : MigrationFrame ρ) (c : Dn ρ) : Prop := ∃ f ∈ fr.failures, f.dn = c

end

section
variable {ρ : Type} [DecidableEq ρ] {b : Backend ρ} {cfg : ProvisionerConfig ρ} {refusal : Nat → Nat}

/-! ## One operation -/

/-- From `s` to `t` nothing outside the legacy root was lost or changed, and nothing came but below the new root. -/
structure Careful (b : Backend ρ) (cfg : ProvisionerConfig ρ) (s t : Stores ρ) : Prop where
  keeps : ∀ d e, ¬ legacyAgentGroupsOu b cfg <:+ d → s.directory.find? d = some e → t.directory.find? d = some e
  brings : ∀ d ∈ t.directory.dns, d ∈ s.directory.dns ∨ cfg.agentGroupsOu <:+ d
  accounts : t.accounts = s.accounts

theorem Careful.refl (s : Stores ρ) : Careful b cfg s s := ⟨fun _ _ _ h => h, fun _ h => .inl h, rfl⟩

theorem Careful.trans {s t u : Stores ρ} (h : Careful b cfg s t) (h' : Careful b cfg t u) : Careful b cfg s u where
  keeps d e hd hfind := h'.keeps d e hd (h.keeps d e hd hfind)
  brings d hd := by
    rcases h'.brings d hd with hd | hd
    · exact h.brings d hd
    · exact .inr hd
  accounts := h'.accounts.trans h.accounts

theorem Careful.mem {s t : Stores ρ} (h : Careful b cfg s t) {d : Dn ρ} (hout : ¬ legacyAgentGroupsOu b cfg <:+ d)
    (hd : d ∈ s.directory.dns) : d ∈ t.directory.dns := by
  obtain ⟨e, he⟩ := (Directory.mem_dns_iff _ _).1 hd
  exact (Directory.mem_dns_iff _ _).2 ⟨e, h.keeps d e hout he⟩

/-- A delete at or below the legacy root. -/
theorem careful_delete (s : Stores ρ) {c : Dn ρ} (hc : legacyAgentGroupsOu b cfg <:+ c) :
    Careful b cfg s { s with directory := s.directory.delete c } where
  keeps _ _ hd hfind := Directory.find?_delete hfind (fun heq => hd (heq ▸ hc))
  brings _ hd := .inl (Directory.mem_of_mem_delete hd)
  accounts := rfl

theorem careful_move {s : Stores ρ} {c : Dn ρ} (hc : legacyAgentGroupsOu b cfg <:+ c)
    (hmove : s.directory.CanMove c cfg.agentGroupsOu) :
    Careful b cfg s { s with directory := s.directory.move c cfg.agentGroupsOu } where
  keeps _ _ hd hfind := Directory.find?_move hfind (fun hcd => hd (hc.trans hcd))
  brings d hd := by
    rcases Directory.mem_dns_move hmove hd with ⟨hold, -⟩ | ⟨x, rfl⟩
    · exact .inl hold
    · exact .inr ((List.suffix_append _ _).trans (List.suffix_append x _))
  accounts := rfl

/-- An operation that did not return 0 changed nothing. -/
theorem send_failed (fr : MigrationFrame ρ) {w : StoreWrite ρ} (hw : ∀ user password, w ≠ .register user password)
    (h : fr.result b refusal w ≠ 0) : (fr.send b refusal w).stores = fr.stores := by
  unfold MigrationFrame.result at h
  unfold MigrationFrame.send
  split
  · rename_i hzero
    rw [if_pos hzero] at h
    cases w with
    | register user password => exact absurd rfl (hw user password)
    | add dn attrs => exact if_neg h
    | modify dn changes => exact if_neg h
    | delete dn => exact if_neg h
    | modifyDn dn newSuperior => exact if_neg h
  · rfl

theorem send_delete {fr : MigrationFrame ρ} {c : Dn ρ} (h : fr.result b refusal (.delete c) = 0) :
    c ∈ fr.stores.directory.dns ∧ fr.stores.directory.IsLeaf c ∧
      (fr.send b refusal (.delete c)).stores = { fr.stores with directory := fr.stores.directory.delete c } := by
  unfold MigrationFrame.result at h
  by_cases hzero : refusal fr.operations = 0
  · rw [if_pos hzero] at h
    have hmem : c ∈ fr.stores.directory.dns := by
      by_contra hmem
      simp [Backend.reply, hmem] at h
    have hleaf : fr.stores.directory.IsLeaf c := by
      by_contra hleaf
      simp [Backend.reply, hmem, hleaf] at h
    refine ⟨hmem, hleaf, ?_⟩
    rw [MigrationFrame.send, if_pos hzero, apply_delete hmem hleaf]
  · rw [if_neg hzero] at h
    exact absurd h hzero

theorem send_modifyDn {fr : MigrationFrame ρ} {c p : Dn ρ} (h : fr.result b refusal (.modifyDn c p) = 0) :
    fr.stores.directory.CanMove c p ∧
      (fr.send b refusal (.modifyDn c p)).stores = { fr.stores with directory := fr.stores.directory.move c p } := by
  unfold MigrationFrame.result at h
  by_cases hzero : refusal fr.operations = 0
  · rw [if_pos hzero] at h
    have hmove : fr.stores.directory.CanMove c p := by
      by_contra hmove
      simp only [Backend.reply, if_neg hmove] at h
      split at h
      · cases h
      · split at h <;> cases h
    refine ⟨hmove, ?_⟩
    rw [MigrationFrame.send, if_pos hzero, apply_modifyDn hmove]
  · rw [if_neg hzero] at h
    exact absurd h hzero

/-! ## One child -/

/-- What the migration of the child `c` can end in. -/
structure ChildTried (b : Backend ρ) (cfg : ProvisionerConfig ρ) (c : Dn ρ) (fr fr' : MigrationFrame ρ) : Prop where
  careful : Careful b cfg fr.stores fr'.stores
  root : legacyAgentGroupsOu b cfg ∈ fr'.stores.directory.dns
  outcome : (fr'.failures = fr.failures ∧ c.take 1 ++ cfg.agentGroupsOu ∈ fr'.stores.directory.dns ∧
      fr'.stores.directory.children (legacyAgentGroupsOu b cfg) =
        (fr.stores.directory.children (legacyAgentGroupsOu b cfg)).filter (· ≠ c)) ∨
    (fr'.stores = fr.stores ∧ ∃ f, f.dn = c ∧ fr'.failures = fr.failures ++ [f])

variable (refusal : Nat → Nat) (hne : legacyAgentGroupsOu b cfg ≠ cfg.agentGroupsOu)
  (hapart : ¬ legacyAgentGroupsOu b cfg <:+ cfg.agentGroupsOu ∧ ¬ cfg.agentGroupsOu <:+ legacyAgentGroupsOu b cfg)

omit [DecidableEq ρ] in
include hapart in
/-- No name is at or below both roots. -/
theorem not_below_both {d : Dn ρ} (hnew : cfg.agentGroupsOu <:+ d) : ¬ legacyAgentGroupsOu b cfg <:+ d := fun hlegacy => by
  rcases List.suffix_or_suffix_of_suffix hlegacy hnew with h | h
  · exact hapart.1 h
  · exact hapart.2 h

/-- An operation that failed is noted, and nothing else happens. -/
theorem ChildTried.noted {fr fr' : MigrationFrame ρ} {c : Dn ρ}
    (hroot : legacyAgentGroupsOu b cfg ∈ fr.stores.directory.dns) (hstores : fr'.stores = fr.stores)
    (hnoted : ∃ f, f.dn = c ∧ fr'.failures = fr.failures ++ [f]) : ChildTried b cfg c fr fr' where
  careful := hstores ▸ .refl _
  root := hstores ▸ hroot
  outcome := .inr ⟨hstores, hnoted⟩

include hapart in
theorem ChildTried.deleted {fr fr' : MigrationFrame ρ} {c : Dn ρ}
    (hroot : legacyAgentGroupsOu b cfg ∈ fr.stores.directory.dns) (hchild : IsChild b cfg c)
    (htaken : c.take 1 ++ cfg.agentGroupsOu ∈ fr.stores.directory.dns) (hleaf : fr.stores.directory.IsLeaf c)
    (hstores : fr'.stores = { fr.stores with directory := fr.stores.directory.delete c })
    (hfailures : fr'.failures = fr.failures) : ChildTried b cfg c fr fr' := by
  have hcareful : Careful b cfg fr.stores fr'.stores := hstores ▸ careful_delete fr.stores hchild.above
  have hne' : legacyAgentGroupsOu b cfg ≠ c := fun heq => hchild.not_suffix (heq ▸ List.suffix_refl _)
  refine ⟨hcareful, ?_, .inl ⟨hfailures, hcareful.mem (not_below_both hapart (List.suffix_append _ _)) htaken, ?_⟩⟩
  · rw [hstores, Directory.dns_delete hleaf]
    exact List.mem_filter.2 ⟨hroot, by simpa using hne'⟩
  · rw [hstores]
    exact Directory.children_delete hleaf _

include hne in
theorem ChildTried.moved {fr fr' : MigrationFrame ρ} {c : Dn ρ}
    (hroot : legacyAgentGroupsOu b cfg ∈ fr.stores.directory.dns) (hchild : IsChild b cfg c)
    (hmove : fr.stores.directory.CanMove c cfg.agentGroupsOu)
    (hstores : fr'.stores = { fr.stores with directory := fr.stores.directory.move c cfg.agentGroupsOu })
    (hfailures : fr'.failures = fr.failures) : ChildTried b cfg c fr fr' := by
  refine ⟨hstores ▸ careful_move hchild.above hmove, ?_, .inl ⟨hfailures, ?_, ?_⟩⟩
  · rw [hstores, Directory.dns_move hmove]
    exact List.mem_map.2 ⟨_, hroot, Directory.rename_of_not hchild.not_suffix _⟩
  · rw [hstores, Directory.dns_move hmove]
    exact List.mem_map.2 ⟨c, hmove.mem, Directory.rename_append c _ []⟩
  · rw [hstores]
    exact Directory.children_move hmove hroot hne hchild.not_suffix

include hne hapart in
/-- **A child is taken below the new root, deleted as a duplicate, or noted.** -/
theorem tryMigrateChild_tried {fr : MigrationFrame ρ} (hroot : legacyAgentGroupsOu b cfg ∈ fr.stores.directory.dns)
    {c : Dn ρ} (hc : c ∈ fr.stores.directory.children (legacyAgentGroupsOu b cfg)) :
    ChildTried b cfg c fr (tryMigrateChild b cfg refusal fr c) := by
  have hchild := (isChild_of_mem hc).2
  unfold tryMigrateChild
  by_cases htaken : c.take 1 ++ cfg.agentGroupsOu ∈ fr.stores.directory.dns
  · rw [if_pos htaken]
    by_cases hresult : fr.result b refusal (.delete c) = 0
    · obtain ⟨-, hleaf, hstores⟩ := send_delete hresult
      simp only [if_pos hresult]
      exact .deleted hapart hroot hchild htaken hleaf hstores rfl
    · simp only [if_neg hresult]
      exact .noted hroot (send_failed fr (fun _ _ heq => by cases heq) hresult) ⟨_, rfl, rfl⟩
  · rw [if_neg htaken]
    by_cases hresult : fr.result b refusal (.modifyDn c cfg.agentGroupsOu) = 0
    · obtain ⟨hmove, hstores⟩ := send_modifyDn hresult
      simp only [if_pos hresult]
      exact .moved hne hroot hchild hmove hstores rfl
    · simp only [if_neg hresult]
      exact .noted hroot (send_failed fr (fun _ _ heq => by cases heq) hresult) ⟨_, rfl, rfl⟩

/-! ## The loop -/

/-- The children `done` have been tried and `rest` are to come. -/
structure Tried (b : Backend ρ) (cfg : ProvisionerConfig ρ) (s : Stores ρ) (fr : MigrationFrame ρ)
    (done rest : List (Dn ρ)) : Prop where
  careful : Careful b cfg s fr.stores
  root : legacyAgentGroupsOu b cfg ∈ fr.stores.directory.dns
  pending : ∀ c ∈ rest, c ∈ fr.stores.directory.children (legacyAgentGroupsOu b cfg)
  left : ∀ c ∈ fr.stores.directory.children (legacyAgentGroupsOu b cfg), c ∈ rest ∨ fr.Lists c
  tried : ∀ c ∈ done, c.take 1 ++ cfg.agentGroupsOu ∈ fr.stores.directory.dns ∨
    (c ∈ fr.stores.directory.children (legacyAgentGroupsOu b cfg) ∧ fr.Lists c)

omit [DecidableEq ρ] in
theorem MigrationFrame.Lists.mono {fr fr' : MigrationFrame ρ} {c : Dn ρ} (h : fr.Lists c)
    (hsub : fr.failures ⊆ fr'.failures) : fr'.Lists c := by
  obtain ⟨f, hf, hdn⟩ := h
  exact ⟨f, hsub hf, hdn⟩

include hapart in
/-- The step where the child is taken away. -/
theorem Tried.taken {s : Stores ρ} {fr fr' : MigrationFrame ρ} {done rest : List (Dn ρ)} {c : Dn ρ}
    (h : Tried b cfg s fr done (c :: rest)) (hc : c ∉ rest) (hcareful : Careful b cfg fr.stores fr'.stores)
    (hroot : legacyAgentGroupsOu b cfg ∈ fr'.stores.directory.dns) (hfailures : fr'.failures = fr.failures)
    (htarget : c.take 1 ++ cfg.agentGroupsOu ∈ fr'.stores.directory.dns)
    (hchildren : fr'.stores.directory.children (legacyAgentGroupsOu b cfg) =
      (fr.stores.directory.children (legacyAgentGroupsOu b cfg)).filter (· ≠ c)) :
    Tried b cfg s fr' (done ++ [c]) rest := by
  have hsub : fr.failures ⊆ fr'.failures := by rw [hfailures]; exact List.Subset.refl _
  have hmem : ∀ d, d ∈ fr'.stores.directory.children (legacyAgentGroupsOu b cfg) ↔
      d ∈ fr.stores.directory.children (legacyAgentGroupsOu b cfg) ∧ d ≠ c := by
    intro d
    rw [hchildren, List.mem_filter, decide_eq_true_eq]
  refine ⟨h.careful.trans hcareful, hroot, fun d hd => ?_, fun d hd => ?_, fun d hd => ?_⟩
  · exact (hmem d).2 ⟨h.pending d (List.mem_cons_of_mem _ hd), fun heq => hc (heq ▸ hd)⟩
  · obtain ⟨hold, hdc⟩ := (hmem d).1 hd
    rcases h.left d hold with hin | hlists
    · exact .inl ((List.mem_cons.1 hin).resolve_left hdc)
    · exact .inr (hlists.mono hsub)
  · by_cases hdc : d = c
    · exact .inl (hdc ▸ htarget)
    · have hd : d ∈ done := (List.mem_append.1 hd).resolve_right (fun hin => hdc (List.mem_singleton.1 hin))
      rcases h.tried d hd with htaken | ⟨hold, hlists⟩
      · exact .inl (hcareful.mem (not_below_both hapart (List.suffix_append _ _)) htaken)
      · exact .inr ⟨(hmem d).2 ⟨hold, hdc⟩, hlists.mono hsub⟩

/-- The step where the child is noted. -/
theorem Tried.noted {s : Stores ρ} {fr fr' : MigrationFrame ρ} {done rest : List (Dn ρ)} {c : Dn ρ}
    (h : Tried b cfg s fr done (c :: rest)) (hstores : fr'.stores = fr.stores) (hsub : fr.failures ⊆ fr'.failures)
    (hlists : fr'.Lists c) : Tried b cfg s fr' (done ++ [c]) rest where
  careful := hstores ▸ h.careful
  root := hstores ▸ h.root
  pending d hd := hstores ▸ h.pending d (List.mem_cons_of_mem _ hd)
  left d hd := by
    rw [hstores] at hd
    rcases h.left d hd with hin | hold
    · rcases List.mem_cons.1 hin with rfl | hin
      · exact .inr hlists
      · exact .inl hin
    · exact .inr (hold.mono hsub)
  tried d hd := by
    rw [hstores]
    rcases List.mem_append.1 hd with hd | hd
    · exact (h.tried d hd).imp_right (fun hold => ⟨hold.1, hold.2.mono hsub⟩)
    · obtain rfl := List.mem_singleton.1 hd
      exact .inr ⟨h.pending d List.mem_cons_self, hlists⟩

include hne hapart in
theorem Tried.step {s : Stores ρ} {fr : MigrationFrame ρ} {done rest : List (Dn ρ)} {c : Dn ρ}
    (h : Tried b cfg s fr done (c :: rest)) (hc : c ∉ rest) :
    Tried b cfg s (tryMigrateChild b cfg refusal fr c) (done ++ [c]) rest := by
  obtain ⟨hcareful, hroot, houtcome⟩ :=
    tryMigrateChild_tried refusal hne hapart h.root (h.pending c List.mem_cons_self)
  rcases houtcome with ⟨hfailures, htarget, hchildren⟩ | ⟨hstores, f, hf, hfailures⟩
  · exact h.taken hapart hc hcareful hroot hfailures htarget hchildren
  · refine h.noted hstores ?_ ⟨f, ?_, hf⟩
    · rw [hfailures]
      exact List.subset_append_left _ _
    · rw [hfailures]
      exact List.mem_append_right _ List.mem_cons_self

include hne hapart in
theorem Tried.foldl {s : Stores ρ} : ∀ (rest : List (Dn ρ)) (fr : MigrationFrame ρ) (done : List (Dn ρ)),
    rest.Nodup → Tried b cfg s fr done rest →
      Tried b cfg s (rest.foldl (tryMigrateChild b cfg refusal) fr) (done ++ rest) []
  | [], fr, done, _, h => by rwa [List.append_nil]
  | c :: rest, fr, done, hnodup, h => by
    obtain ⟨hc, hnodup⟩ := List.nodup_cons.1 hnodup
    have htail := Tried.foldl rest _ _ hnodup (h.step refusal hne hapart hc)
    rwa [List.append_assoc] at htail

theorem tryMigrate_eq_initial {s : Stores ρ}
    (h : legacyAgentGroupsOu b cfg = cfg.agentGroupsOu ∨ legacyAgentGroupsOu b cfg ∉ s.directory.dns) :
    tryMigrateLegacyAgentGroupRoot b cfg refusal s = .initial s := by
  unfold tryMigrateLegacyAgentGroupRoot
  by_cases heq : legacyAgentGroupsOu b cfg = cfg.agentGroupsOu
  · rw [if_pos heq]
  · rw [if_neg heq, if_pos (h.resolve_left heq)]

end

/-! ## The migration of a run -/

section
variable {ρ : Type} [DecidableEq ρ] (b : Backend ρ) (cfg : ProvisionerConfig ρ)

theorem stores_tryMigrateChild (fr : MigrationFrame ρ) (c : Dn ρ) :
    (tryMigrateChild b cfg (fun _ => 0) fr c).stores = b.apply fr.stores (migrateWrite cfg fr.stores c) := by
  unfold tryMigrateChild migrateWrite
  by_cases htaken : c.take 1 ++ cfg.agentGroupsOu ∈ fr.stores.directory.dns
  · rw [if_pos htaken, if_pos htaken]
    dsimp only
    split <;> rfl
  · rw [if_neg htaken, if_neg htaken]
    dsimp only
    split <;> rfl

theorem stores_foldl_tryMigrateChild : ∀ (rest : List (Dn ρ)) (fr : MigrationFrame ρ),
    (rest.foldl (tryMigrateChild b cfg (fun _ => 0)) fr).stores = (migrateLoop b cfg rest).final fr.stores
  | [], _ => rfl
  | c :: rest, fr => by
    rw [List.foldl_cons, stores_foldl_tryMigrateChild rest, stores_tryMigrateChild, final_migrateLoop_cons]

/-- **Where nothing is refused without a reason this is the migration of a provisioner's run.** -/
theorem tryMigrate_unhindered (s : Stores ρ) :
    (tryMigrateLegacyAgentGroupRoot b cfg (fun _ => 0) s).stores = (migrateLegacyAgentGroupRoot b cfg).final s := by
  by_cases hne : legacyAgentGroupsOu b cfg = cfg.agentGroupsOu
  · rw [tryMigrate_eq_initial _ (.inl hne), migrateLegacyAgentGroupRoot, if_pos hne]
    rfl
  by_cases hroot : legacyAgentGroupsOu b cfg ∈ s.directory.dns
  swap
  · rw [tryMigrate_eq_initial _ (.inr hroot), final_migrate_of_not_found hne hroot]
    rfl
  have hloop : (tryMigrateChildren b cfg (fun _ => 0) s).stores =
      (migrateLoop b cfg (s.directory.children (legacyAgentGroupsOu b cfg))).final s :=
    stores_foldl_tryMigrateChild b cfg _ _
  have htail : (migrateLegacyAgentGroupRoot b cfg).final s = (migrateTail b cfg).final
      ((migrateLoop b cfg (s.directory.children (legacyAgentGroupsOu b cfg))).final s) := by
    rw [← Prog.final_bind_ok (migrateLoop_ok _ s) (fun _ => migrateTail b cfg)]
    unfold Prog.final
    rw [migrate_eq hne hroot]
  rw [tryMigrateLegacyAgentGroupRoot, if_neg hne, if_neg (not_not_intro hroot), htail, ← hloop]
  unfold tryDeleteLegacyRoot Prog.final
  rw [migrateTail_eq]
  by_cases hleaf : (tryMigrateChildren b cfg (fun _ => 0) s).stores.directory.IsLeaf (legacyAgentGroupsOu b cfg)
  · rw [if_pos (List.isEmpty_iff.2 hleaf), if_pos hleaf]
    dsimp only
    split <;> rfl
  · rw [if_neg (fun h => hleaf (List.isEmpty_iff.1 h)), if_neg hleaf]
    rfl

end

end Lider
