import LiderPlatform.ProvisionerSalts
/-!
# ProvisionerRecovery — a run that dies and is made again

After a stop anywhere in a run, a second run that returns ends as the first would have ended.  In the migration every
child of the legacy root is either gone or stuck (it may not be deleted or moved), and both last (`Midway`).  So where
the migration has begun, the work of every step of the seed is still there, or its root is gone with a child
(`seed_kept`), and then no second run returns.  Salts differ between runs, so the states are compared without them.
-/
namespace Lider

open Ldap Restart

section
variable {ρ : Type} [DecidableEq ρ] {b : Backend ρ} {cfg : ProvisionerConfig ρ}

/-! ## Deleting and moving -/

theorem apply_delete {s : Stores ρ} {c : Dn ρ} (hmem : c ∈ s.directory.dns) (hleaf : s.directory.IsLeaf c) :
    b.apply s (.delete c) = { s with directory := s.directory.delete c } := by
  have hreply : b.reply s (.delete c) = 0 := by
    simp only [Backend.reply, not_true_eq_false, hmem, if_false, if_pos hleaf]
  simp only [Backend.apply, if_pos hreply]

theorem apply_delete_refused {s : Stores ρ} {c : Dn ρ} (h : c ∈ s.directory.dns → ¬ s.directory.IsLeaf c) :
    b.apply s (.delete c) = s := by
  have hreply : b.reply s (.delete c) ≠ 0 := by
    by_cases hmem : c ∈ s.directory.dns
    · simp only [Backend.reply, not_true_eq_false, hmem, if_false, if_neg (h hmem)]
      decide
    · simp only [Backend.reply, not_false_eq_true, hmem, if_true]
      decide
  simp only [Backend.apply, if_neg hreply]

/-- A delete brings nothing. -/
theorem mem_of_apply_delete {s : Stores ρ} {c d : Dn ρ} (hd : d ∈ (b.apply s (.delete c)).directory.dns) :
    d ∈ s.directory.dns := by
  by_cases h : c ∈ s.directory.dns ∧ s.directory.IsLeaf c
  · rw [apply_delete h.1 h.2] at hd
    exact Directory.mem_of_mem_delete hd
  · rwa [apply_delete_refused (fun hmem hleaf => h ⟨hmem, hleaf⟩)] at hd

theorem apply_modifyDn {s : Stores ρ} {c p : Dn ρ} (h : s.directory.CanMove c p) :
    b.apply s (.modifyDn c p) = { s with directory := s.directory.move c p } := by
  have hreply : b.reply s (.modifyDn c p) = 0 := by
    simp only [Backend.reply, not_true_eq_false, h.mem, if_false, if_neg h.free, if_pos h]
  simp only [Backend.apply, if_pos hreply]

theorem apply_modifyDn_refused {s : Stores ρ} {c p : Dn ρ} (h : ¬ s.directory.CanMove c p) :
    b.apply s (.modifyDn c p) = s := by
  have hreply : b.reply s (.modifyDn c p) ≠ 0 := by
    simp only [Backend.reply, if_neg h]
    split
    · decide
    · split <;> decide
  simp only [Backend.apply, if_neg hreply]

/-! ## Migrating one child -/

/-- The write of a child's migration. -/
def migrateWrite (cfg : ProvisionerConfig ρ) (s : Stores ρ) (c : Dn ρ) : StoreWrite ρ :=
  if c.take 1 ++ cfg.agentGroupsOu ∈ s.directory.dns then .delete c else .modifyDn c cfg.agentGroupsOu

theorem migrateChild_eq (c : Dn ρ) (s : Stores ρ) :
    migrateChild b cfg c s = (.ok (b.reply s (migrateWrite cfg s c)), [migrateWrite cfg s c]) := by
  show (entryExists b (c.take 1 ++ cfg.agentGroupsOu) >>= _) s = _
  rw [Prog.bind_ok (a := decide (c.take 1 ++ cfg.agentGroupsOu ∈ s.directory.dns)) rfl]
  unfold migrateWrite
  by_cases h : c.take 1 ++ cfg.agentGroupsOu ∈ s.directory.dns
  · simp only [h, decide_true, if_true]
    rfl
  · simp only [h, decide_false, if_false, Bool.false_eq_true]
    rfl

theorem final_migrateChild (c : Dn ρ) (s : Stores ρ) :
    (migrateChild b cfg c).final s = b.apply s (migrateWrite cfg s c) := by
  unfold Prog.final
  rw [migrateChild_eq]
  rfl

omit [DecidableEq ρ] in
/-- A child's name is right below the legacy root. -/
structure IsChild (b : Backend ρ) (cfg : ProvisionerConfig ρ) (c : Dn ρ) : Prop where
  ne_nil : c ≠ []
  tail_eq : c.tail = legacyAgentGroupsOu b cfg

theorem isChild_of_mem {s : Stores ρ} {c : Dn ρ} (h : c ∈ s.directory.children (legacyAgentGroupsOu b cfg)) :
    c ∈ s.directory.dns ∧ IsChild b cfg c := by
  obtain ⟨hmem, hne, htail⟩ := (Directory.mem_children _ _ _).1 h
  exact ⟨hmem, hne, htail⟩

omit [DecidableEq ρ] in
theorem IsChild.length {c : Dn ρ} (h : IsChild b cfg c) : c.length = (legacyAgentGroupsOu b cfg).length + 1 := by
  rw [← h.tail_eq, List.length_tail]
  have := List.length_pos_iff.2 h.ne_nil
  omega

omit [DecidableEq ρ] in
theorem IsChild.above {c : Dn ρ} (h : IsChild b cfg c) : legacyAgentGroupsOu b cfg <:+ c := by
  rw [← h.tail_eq]
  exact List.tail_suffix c

omit [DecidableEq ρ] in
theorem IsChild.not_suffix {c : Dn ρ} (h : IsChild b cfg c) : ¬ c <:+ legacyAgentGroupsOu b cfg := fun hc => by
  have := hc.length_le
  rw [h.length] at this
  omega

/-- The migration changes names below the child only. -/
theorem suffix_of_touches (s : Stores ρ) {c d : Dn ρ} (h : (migrateWrite cfg s c).Touches d) : c <:+ d := by
  unfold migrateWrite at h
  split at h
  · rw [show d = c from h]
  · exact h

theorem not_removes_migrateWrite {s : Stores ρ} {c d : Dn ρ} (h : ¬ c <:+ d) : ¬ (migrateWrite cfg s c).Removes d :=
  fun hr => h (suffix_of_touches s (touches_of_removes hr))

/-- The migration can work: both roots are there. -/
structure Migrating (b : Backend ρ) (cfg : ProvisionerConfig ρ) (s : Stores ρ) : Prop where
  found : legacyAgentGroupsOu b cfg ∈ s.directory.dns
  root : cfg.agentGroupsOu ∈ s.directory.dns

/-- The migration of the child is refused: its name is taken and it has entries below it, or the root of the agent
groups is the child or below it. -/
def Stuck (cfg : ProvisionerConfig ρ) (s : Stores ρ) (c : Dn ρ) : Prop :=
  (c.take 1 ++ cfg.agentGroupsOu ∈ s.directory.dns ∧ ¬ s.directory.IsLeaf c) ∨ c <:+ cfg.agentGroupsOu

/-- A child whose name is taken and that is stuck has entries below it. -/
theorem Stuck.not_leaf {s : Stores ρ} {c : Dn ρ} (h : Stuck cfg s c) (hc : IsChild b cfg c) (hmem : c ∈ s.directory.dns)
    (htaken : c.take 1 ++ cfg.agentGroupsOu ∈ s.directory.dns) : ¬ s.directory.IsLeaf c := by
  rcases h with h | h
  · exact h.2
  · refine (Directory.not_isLeaf_iff _ _).2 (s.directory.child_of_suffix hmem htaken (h.trans (List.suffix_append _ _)) ?_)
    intro heq
    have hlen := h.length_le
    have htotal := congrArg List.length heq
    have hpos := List.length_pos_iff.2 hc.ne_nil
    rw [List.length_append, List.length_take] at htotal
    omega

theorem Stuck.apply {s : Stores ρ} {c : Dn ρ} (h : Stuck cfg s c) (hc : IsChild b cfg c) :
    b.apply s (migrateWrite cfg s c) = s := by
  unfold migrateWrite
  by_cases htaken : c.take 1 ++ cfg.agentGroupsOu ∈ s.directory.dns
  · rw [if_pos htaken]
    exact apply_delete_refused (fun hmem => h.not_leaf hc hmem htaken)
  · rw [if_neg htaken]
    exact apply_modifyDn_refused (fun hmove => h.elim (fun h => htaken h.1) hmove.apart)

/-- A child that the migration took away: nothing has its name or a name below it. -/
structure Gone (b : Backend ρ) (cfg : ProvisionerConfig ρ) (s : Stores ρ) (c : Dn ρ) : Prop where
  child : IsChild b cfg c
  apart : ¬ c <:+ cfg.agentGroupsOu
  empty : ∀ d ∈ s.directory.dns, ¬ c <:+ d

variable (hne : legacyAgentGroupsOu b cfg ≠ cfg.agentGroupsOu)
include hne

/-- **A child is stuck or gone.** -/
theorem migrate_child {s : Stores ρ} (hs : Migrating b cfg s) {c : Dn ρ}
    (hc : c ∈ s.directory.children (legacyAgentGroupsOu b cfg)) :
    Stuck cfg s c ∨ ((b.apply s (migrateWrite cfg s c)).directory.children (legacyAgentGroupsOu b cfg) =
      (s.directory.children (legacyAgentGroupsOu b cfg)).filter (· ≠ c) ∧
        Gone b cfg (b.apply s (migrateWrite cfg s c)) c) := by
  obtain ⟨hmem, hchild⟩ := isChild_of_mem hc
  by_cases hbelow : c <:+ cfg.agentGroupsOu
  · exact Or.inl (Or.inr hbelow)
  by_cases htaken : c.take 1 ++ cfg.agentGroupsOu ∈ s.directory.dns
  · by_cases hleaf : s.directory.IsLeaf c
    · right
      unfold migrateWrite
      rw [if_pos htaken, apply_delete hmem hleaf]
      exact ⟨Directory.children_delete hleaf _, hchild, hbelow, Directory.not_below_delete hleaf hmem⟩
    · exact Or.inl (Or.inl ⟨htaken, hleaf⟩)
  · right
    have hmove : s.directory.CanMove c cfg.agentGroupsOu := ⟨hmem, hchild.ne_nil, hs.root, htaken, hbelow⟩
    unfold migrateWrite
    rw [if_neg htaken, apply_modifyDn hmove]
    exact ⟨Directory.children_move hmove hs.found hne hchild.not_suffix, hchild, hbelow, Directory.not_below_move hmove⟩

omit hne in
theorem Migrating.apply {s : Stores ρ} (hs : Migrating b cfg s) {c : Dn ρ} (hc : IsChild b cfg c) :
    Migrating b cfg (b.apply s (migrateWrite cfg s c)) := by
  by_cases hbelow : c <:+ cfg.agentGroupsOu
  · rwa [(show Stuck cfg s c from Or.inr hbelow).apply hc]
  · exact ⟨mem_apply (not_removes_migrateWrite hc.not_suffix) hs.found,
      mem_apply (not_removes_migrateWrite hbelow) hs.root⟩

/-- **A stuck child stays stuck** while others are migrated. -/
theorem Stuck.keep {s : Stores ρ} {c c' : Dn ρ} (h : Stuck cfg s c') (hc : IsChild b cfg c) (hc' : IsChild b cfg c')
    (hcc : c ≠ c') : Stuck cfg (b.apply s (migrateWrite cfg s c)) c' := by
  by_cases hbelow : c <:+ cfg.agentGroupsOu
  · rwa [(show Stuck cfg s c from Or.inr hbelow).apply hc]
  refine h.imp_left (fun ⟨htaken, hleaf⟩ => ⟨?_, ?_⟩)
  · refine mem_apply (not_removes_migrateWrite (fun hsuffix => ?_)) htaken
    cases c' with
    | nil => exact hc'.ne_nil rfl
    | cons r c' =>
      rcases List.suffix_cons_iff.1 hsuffix with heq | hsuffix
      · refine hne ?_
        rw [← hc.tail_eq, heq]
        rfl
      · exact hbelow hsuffix
  · obtain ⟨e, he, hene, hetail⟩ := (Directory.not_isLeaf_iff _ _).1 hleaf
    refine (Directory.not_isLeaf_iff _ _).2 ⟨e, mem_apply (not_removes_migrateWrite (fun hsuffix => ?_)) he, hene, hetail⟩
    have hlen := hc.length
    have hlen' := hc'.length
    cases e with
    | nil => exact hene rfl
    | cons r e =>
      rw [List.tail_cons] at hetail
      subst hetail
      rcases List.suffix_cons_iff.1 hsuffix with heq | hsuffix
      · rw [heq, List.length_cons] at hlen
        omega
      · exact hcc (hsuffix.eq_of_length (by omega))

/-- **A child that is gone stays gone.** -/
theorem Gone.keep {s : Stores ρ} (hs : Migrating b cfg s) {c' : Dn ρ} (h : Gone b cfg s c') (c : Dn ρ) :
    Gone b cfg (b.apply s (migrateWrite cfg s c)) c' := by
  refine ⟨h.child, h.apart, ?_⟩
  unfold migrateWrite
  by_cases htaken : c.take 1 ++ cfg.agentGroupsOu ∈ s.directory.dns
  · rw [if_pos htaken]
    exact fun d hd => h.empty d (mem_of_apply_delete hd)
  · rw [if_neg htaken]
    by_cases hmove : s.directory.CanMove c cfg.agentGroupsOu
    · rw [apply_modifyDn hmove]
      intro d hd hsuffix
      rcases Directory.mem_dns_move hmove hd with ⟨hold, -⟩ | ⟨x, rfl⟩
      · exact h.empty d hold hsuffix
      · -- What was moved lies at its new name, and that is neither below the gone child nor above it.
        obtain ⟨r, t, rfl⟩ := List.exists_cons_of_ne_nil hmove.ne_nil
        obtain ⟨r', t', rfl⟩ := List.exists_cons_of_ne_nil h.child.ne_nil
        have htail : t' = legacyAgentGroupsOu b cfg := h.child.tail_eq
        rcases List.suffix_or_suffix_of_suffix hsuffix (List.suffix_append x _) with hsuffix | hsuffix
        · rcases List.suffix_cons_iff.1 hsuffix with heq | hsuffix
          · exact hne (htail ▸ (List.cons.inj heq).2)
          · exact h.apart hsuffix
        · rcases List.suffix_cons_iff.1 hsuffix with heq | hsuffix
          · exact hne (htail ▸ (List.cons.inj heq).2.symm)
          · exact hmove.not_suffix_target hs.found (htail ▸ hsuffix)
    · rw [apply_modifyDn_refused hmove]
      exact h.empty

/-- A child's migration changes nothing, or takes the child away. -/
theorem apply_or_gone {s : Stores ρ} (hs : Migrating b cfg s) {c : Dn ρ} (hc : IsChild b cfg c) :
    b.apply s (migrateWrite cfg s c) = s ∨ Gone b cfg (b.apply s (migrateWrite cfg s c)) c := by
  by_cases hmem : c ∈ s.directory.dns
  · rcases migrate_child hne hs ((Directory.mem_children _ _ _).2 ⟨hmem, hc.ne_nil, hc.tail_eq⟩) with h | h
    · exact Or.inl (h.apply hc)
    · exact Or.inr h.2
  · left
    unfold migrateWrite
    split
    · exact apply_delete_refused (fun h => absurd h hmem)
    · exact apply_modifyDn_refused (fun h => hmem h.mem)

/-! ## The loop over the children -/

omit hne in
/-- Some children are stuck, and the others are to come. -/
structure Midway (b : Backend ρ) (cfg : ProvisionerConfig ρ) (s : Stores ρ) (stuck rest : List (Dn ρ)) : Prop where
  migrating : Migrating b cfg s
  children : s.directory.children (legacyAgentGroupsOu b cfg) = stuck ++ rest
  stuck : ∀ c ∈ stuck, Stuck cfg s c

theorem Midway.step {s : Stores ρ} {stuck rest : List (Dn ρ)} {c : Dn ρ} (h : Midway b cfg s stuck (c :: rest)) :
    ∃ stuck', Midway b cfg (b.apply s (migrateWrite cfg s c)) stuck' rest := by
  have hmem : ∀ c' ∈ stuck ++ c :: rest, IsChild b cfg c' := fun c' hc' =>
    (isChild_of_mem (by rw [h.children]; exact hc')).2
  have hc : c ∈ stuck ++ c :: rest := List.mem_append_right _ List.mem_cons_self
  have hnodup : (stuck ++ c :: rest).Nodup := h.children ▸ s.directory.nodup_children _
  rcases migrate_child hne h.migrating (h.children ▸ hc) with hstuck | ⟨hgone, -⟩
  · refine ⟨stuck ++ [c], ?_⟩
    rw [hstuck.apply (hmem c hc)]
    refine ⟨h.migrating, by rw [h.children]; simp, fun c' hc' => ?_⟩
    rcases List.mem_append.1 hc' with hc' | hc'
    · exact h.stuck c' hc'
    · rwa [List.mem_singleton.1 hc']
  · have hout : c ∉ stuck ∧ c ∉ rest := by
      rw [List.nodup_append] at hnodup
      exact ⟨fun hin => hnodup.2.2 c hin c List.mem_cons_self rfl, (List.nodup_cons.1 hnodup.2.1).1⟩
    have hall : ∀ l : List (Dn ρ), c ∉ l → l.filter (· ≠ c) = l := fun l hl =>
      List.filter_eq_self.2 (fun d hd => decide_eq_true (fun heq => hl (heq ▸ hd)))
    refine ⟨stuck, h.migrating.apply (hmem c hc), ?_, fun c' hc' => ?_⟩
    · rw [hgone, h.children, List.filter_append, List.filter_cons_of_neg (by simp), hall stuck hout.1, hall rest hout.2]
    · refine (h.stuck c' hc').keep hne (hmem c hc) (hmem c' (List.mem_append_left _ hc')) (fun heq => ?_)
      exact hout.1 (heq ▸ hc')

/-- The loop over the children. -/
def migrateLoop (b : Backend ρ) (cfg : ProvisionerConfig ρ) (childDns : List (Dn ρ)) : Provision b Unit :=
  Prog.forEach (childDns.map (migrateChild b cfg))

omit hne in
theorem migrateLoop_cons (c : Dn ρ) (rest : List (Dn ρ)) (s : Stores ρ) :
    migrateLoop b cfg (c :: rest) s =
      ((migrateLoop b cfg rest (b.apply s (migrateWrite cfg s c))).1,
        migrateWrite cfg s c :: (migrateLoop b cfg rest (b.apply s (migrateWrite cfg s c))).2) := by
  show (migrateChild b cfg c >>= fun _ => migrateLoop b cfg rest) s = _
  rw [Prog.bind_ok (by rw [migrateChild_eq]), final_migrateChild, migrateChild_eq]
  rfl

omit hne in
theorem final_migrateLoop_cons (c : Dn ρ) (rest : List (Dn ρ)) (s : Stores ρ) :
    (migrateLoop b cfg (c :: rest)).final s = (migrateLoop b cfg rest).final (b.apply s (migrateWrite cfg s c)) := by
  unfold Prog.final
  rw [migrateLoop_cons]
  rfl

omit hne in
theorem migrateLoop_ok (childDns : List (Dn ρ)) (s : Stores ρ) : (migrateLoop b cfg childDns s).1 = .ok () := by
  refine Prog.forEach_ok _ (fun p hp s => ?_) s
  obtain ⟨c, -, rfl⟩ := List.mem_map.1 hp
  rw [migrateChild_eq]
  exact ⟨_, rfl⟩

omit hne in
/-- Migrating stuck children again changes nothing. -/
theorem final_migrateLoop_stuck {s : Stores ρ} (rest : List (Dn ρ)) : ∀ (stuck : List (Dn ρ)),
    (∀ c ∈ stuck, IsChild b cfg c ∧ Stuck cfg s c) →
    (migrateLoop b cfg (stuck ++ rest)).final s = (migrateLoop b cfg rest).final s
  | [], _ => rfl
  | c :: stuck, h => by
    obtain ⟨hc, hstuck⟩ := h c List.mem_cons_self
    rw [List.cons_append, final_migrateLoop_cons, hstuck.apply hc]
    exact final_migrateLoop_stuck rest stuck (fun c' hc' => h c' (List.mem_cons_of_mem _ hc'))

/-- **After a stop in the loop** the children that are left bring the directory to the same end. -/
theorem Midway.stop : ∀ (rest : List (Dn ρ)) (s : Stores ρ) (stuck : List (Dn ρ)), Midway b cfg s stuck rest →
    ∀ ws, ws <+: (migrateLoop b cfg rest s).2 → ∃ stuck' rest', Midway b cfg (ws.foldl b.apply s) stuck' rest' ∧
      (migrateLoop b cfg rest').final (ws.foldl b.apply s) = (migrateLoop b cfg rest).final s
  | [], s, stuck, h, ws, hws => by
    rw [List.prefix_nil.1 hws]
    exact ⟨stuck, [], h, rfl⟩
  | c :: rest, s, stuck, h, ws, hws => by
    rw [migrateLoop_cons] at hws
    rcases List.prefix_cons_iff.1 hws with rfl | ⟨ws', rfl, hws'⟩
    · exact ⟨stuck, c :: rest, h, rfl⟩
    · obtain ⟨stuck', hstep⟩ := h.step hne
      rw [List.foldl_cons, final_migrateLoop_cons]
      exact Midway.stop rest _ stuck' hstep ws' hws'

/-! ## The whole migration -/

/-- The end of the migration: the legacy root goes where it has no children left. -/
def migrateTail (b : Backend ρ) (cfg : ProvisionerConfig ρ) : Provision b Unit := do
  let rest ← legacyChildren b cfg
  if rest.isEmpty then do
    let _ ← send b (.delete (legacyAgentGroupsOu b cfg))
  else pure ()

omit hne in
theorem migrateTail_eq (s : Stores ρ) : migrateTail b cfg s =
    (.ok (), if s.directory.IsLeaf (legacyAgentGroupsOu b cfg) then [.delete (legacyAgentGroupsOu b cfg)] else []) := by
  show (legacyChildren b cfg >>= _) s = _
  rw [Prog.bind_ok (a := s.directory.children (legacyAgentGroupsOu b cfg)) rfl]
  unfold Directory.IsLeaf
  by_cases h : s.directory.children (legacyAgentGroupsOu b cfg) = []
  · simp only [h, List.isEmpty_nil, if_true]
    rfl
  · simp only [List.isEmpty_iff, h, if_false]
    rfl

theorem migrate_eq {s : Stores ρ} (hfound : legacyAgentGroupsOu b cfg ∈ s.directory.dns) :
    migrateLegacyAgentGroupRoot b cfg s =
      (migrateLoop b cfg (s.directory.children (legacyAgentGroupsOu b cfg)) >>= fun _ => migrateTail b cfg) s := by
  unfold migrateLegacyAgentGroupRoot
  rw [if_neg hne]
  have hexists : (entryExists b (legacyAgentGroupsOu b cfg) s).1 = .ok true := congrArg Except.ok (decide_eq_true hfound)
  rw [Prog.bind_ok hexists]
  rfl

theorem migrate_eq_of_not_found {s : Stores ρ} (hfound : legacyAgentGroupsOu b cfg ∉ s.directory.dns) :
    migrateLegacyAgentGroupRoot b cfg s = (.ok (), []) := by
  unfold migrateLegacyAgentGroupRoot
  rw [if_neg hne]
  have hexists : (entryExists b (legacyAgentGroupsOu b cfg) s).1 = .ok false :=
    congrArg Except.ok (decide_eq_false hfound)
  rw [Prog.bind_ok hexists]
  rfl

theorem final_migrate_of_not_found {s : Stores ρ} (hfound : legacyAgentGroupsOu b cfg ∉ s.directory.dns) :
    (migrateLegacyAgentGroupRoot b cfg).final s = s := by
  unfold Prog.final
  rw [migrate_eq_of_not_found hne hfound]
  rfl

theorem migrate_ok (s : Stores ρ) : (migrateLegacyAgentGroupRoot b cfg s).1 = .ok () := by
  by_cases hfound : legacyAgentGroupsOu b cfg ∈ s.directory.dns
  · rw [migrate_eq hne hfound, Prog.bind_ok (migrateLoop_ok _ s), migrateTail_eq]
  · rw [migrate_eq_of_not_found hne hfound]

/-- A migration that goes on from halfway ends as the first one. -/
theorem Midway.migrate {s c : Stores ρ} (hs : legacyAgentGroupsOu b cfg ∈ s.directory.dns) {stuck rest : List (Dn ρ)}
    (h : Midway b cfg c stuck rest)
    (hloop : (migrateLoop b cfg rest).final c =
      (migrateLoop b cfg (s.directory.children (legacyAgentGroupsOu b cfg))).final s) :
    (migrateLegacyAgentGroupRoot b cfg).final c = (migrateLegacyAgentGroupRoot b cfg).final s := by
  have hfinal : ∀ {s : Stores ρ}, legacyAgentGroupsOu b cfg ∈ s.directory.dns →
      (migrateLegacyAgentGroupRoot b cfg).final s = (migrateTail b cfg).final
        ((migrateLoop b cfg (s.directory.children (legacyAgentGroupsOu b cfg))).final s) := by
    intro s hs
    rw [← Prog.final_bind_ok (migrateLoop_ok _ s) (fun _ => migrateTail b cfg)]
    unfold Prog.final
    rw [migrate_eq hne hs]
  have hstuck : ∀ c' ∈ stuck, IsChild b cfg c' ∧ Stuck cfg c c' := fun c' hc' =>
    ⟨(isChild_of_mem (by rw [h.children]; exact List.mem_append_left _ hc')).2, h.stuck c' hc'⟩
  rw [hfinal hs, hfinal h.migrating.found, h.children, final_migrateLoop_stuck _ _ hstuck, hloop]

omit hne in
/-- The legacy root is gone once it was deleted. -/
theorem not_mem_delete {s : Stores ρ} {d : Dn ρ} (hleaf : s.directory.IsLeaf d) (hd : d ∈ s.directory.dns) :
    d ∉ (b.apply s (.delete d)).directory.dns := by
  rw [apply_delete hd hleaf, Directory.dns_delete hleaf]
  simp

/-- **The migration can be made again after any stop.** -/
theorem recoverable_migrate {s : Stores ρ} (hroot : cfg.agentGroupsOu ∈ s.directory.dns) :
    (migrateLegacyAgentGroupRoot b cfg).Recoverable s := by
  by_cases hfound : legacyAgentGroupsOu b cfg ∈ s.directory.dns
  swap
  · exact Prog.recoverable_of_no_writes (by rw [migrate_eq_of_not_found hne hfound])
  intro ws hws
  refine ⟨by rw [migrate_ok hne, migrate_ok hne], ?_⟩
  have hstart : Midway b cfg s [] (s.directory.children (legacyAgentGroupsOu b cfg)) :=
    ⟨⟨hfound, hroot⟩, rfl, fun c hc => by cases hc⟩
  rw [migrate_eq hne hfound, Prog.bind_ok (migrateLoop_ok _ s)] at hws
  have hinside : ∀ ws, ws <+: (migrateLoop b cfg (s.directory.children (legacyAgentGroupsOu b cfg)) s).2 →
      (migrateLegacyAgentGroupRoot b cfg).final (ws.foldl b.apply s) = (migrateLegacyAgentGroupRoot b cfg).final s := by
    intro ws hws
    obtain ⟨stuck, rest, hmid, hloop⟩ := Midway.stop hne _ s [] hstart ws hws
    exact hmid.migrate hne hfound hloop
  rcases Prog.stop_append hws with hws | ⟨vs, hvs, rfl⟩
  · exact hinside ws hws
  · rw [migrateTail_eq] at hvs
    have hend : ((migrateLoop b cfg (s.directory.children (legacyAgentGroupsOu b cfg)) s).2 ++ vs).foldl b.apply s =
        vs.foldl b.apply ((migrateLoop b cfg (s.directory.children (legacyAgentGroupsOu b cfg))).final s) :=
      List.foldl_append
    split at hvs
    · rename_i hleaf
      rcases List.prefix_cons_iff.1 hvs with rfl | ⟨vs', rfl, hvs'⟩
      · rw [List.append_nil]
        exact hinside _ (List.prefix_refl _)
      · -- The whole migration was made, and the legacy root is gone.
        have hlast : vs' = [] := List.prefix_nil.1 hvs'
        subst hlast
        obtain ⟨stuck, rest, hmid, -⟩ := Midway.stop hne _ s [] hstart _ (List.prefix_refl _)
        have hgone := not_mem_delete (b := b) hleaf hmid.migrating.found
        have hsame : ((migrateLoop b cfg (s.directory.children (legacyAgentGroupsOu b cfg)) s).2 ++
            [StoreWrite.delete (legacyAgentGroupsOu b cfg)]).foldl b.apply s =
              (migrateLegacyAgentGroupRoot b cfg).final s := by
          unfold Prog.final
          rw [migrate_eq hne hfound, Prog.bind_ok (migrateLoop_ok _ s), migrateTail_eq, if_pos hleaf]
        rw [← hsame, hend]
        exact final_migrate_of_not_found hne hgone
    · rw [List.prefix_nil.1 hvs, List.append_nil]
      exact hinside _ (List.prefix_refl _)

omit hne in
/-- What each child's migration keeps, a stop in the loop keeps. -/
theorem migrateLoop_keeps {K : Stores ρ → Prop}
    (hK : ∀ s, Migrating b cfg s → ∀ c, IsChild b cfg c → K s → K (b.apply s (migrateWrite cfg s c))) :
    ∀ (rest : List (Dn ρ)) (s : Stores ρ), Migrating b cfg s → (∀ c ∈ rest, IsChild b cfg c) → K s →
      ∀ ws, ws <+: (migrateLoop b cfg rest s).2 → K (ws.foldl b.apply s)
  | [], s, _, _, hs, ws, hws => by
    rw [List.prefix_nil.1 hws]
    exact hs
  | c :: rest, s, hm, hrest, hs, ws, hws => by
    rw [migrateLoop_cons] at hws
    rcases List.prefix_cons_iff.1 hws with rfl | ⟨ws', rfl, hws'⟩
    · exact hs
    · have hc := hrest c List.mem_cons_self
      exact migrateLoop_keeps hK rest _ (hm.apply hc) (fun c' hc' => hrest c' (List.mem_cons_of_mem _ hc'))
        (hK s hm c hc hs) ws' hws'

/-- What each write of the migration keeps, a stop in it keeps. -/
theorem migrate_keeps {K : Stores ρ → Prop}
    (hK : ∀ s, Migrating b cfg s → ∀ c, IsChild b cfg c → K s → K (b.apply s (migrateWrite cfg s c)))
    (htail : ∀ s, K s → K (b.apply s (.delete (legacyAgentGroupsOu b cfg)))) {s : Stores ρ}
    (hroot : cfg.agentGroupsOu ∈ s.directory.dns) (hs : K s) {ws : List (StoreWrite ρ)}
    (hws : ws <+: (migrateLegacyAgentGroupRoot b cfg s).2) : K (ws.foldl b.apply s) := by
  by_cases hfound : legacyAgentGroupsOu b cfg ∈ s.directory.dns
  · have hloop := migrateLoop_keeps hK (s.directory.children (legacyAgentGroupsOu b cfg)) s ⟨hfound, hroot⟩
      (fun c hc => (isChild_of_mem hc).2) hs
    rw [migrate_eq hne hfound, Prog.bind_ok (migrateLoop_ok _ s)] at hws
    rcases Prog.stop_append hws with hws | ⟨vs, hvs, rfl⟩
    · exact hloop ws hws
    · rw [List.foldl_append]
      have hend := hloop _ (List.prefix_refl _)
      rw [migrateTail_eq] at hvs
      split at hvs
      · rcases List.prefix_cons_iff.1 hvs with rfl | ⟨vs', rfl, hvs'⟩
        · exact hend
        · rw [List.prefix_nil.1 hvs']
          exact htail _ hend
      · rw [List.prefix_nil.1 hvs]
        exact hend
  · rw [migrate_eq_of_not_found hne hfound, List.prefix_nil] at hws
    subst hws
    exact hs

end

/-! ## The seed under the migration -/

section
variable {ρ : Type} [DecidableEq ρ] (b : Backend ρ) (cfg : ProvisionerConfig ρ)

/-- The roots that the run requires. -/
def ProvisionerConfig.roots {ρ : Type} (cfg : ProvisionerConfig ρ) : List (Dn ρ) :=
  [cfg.usersOu, cfg.ahenkOu, cfg.groupsOu, cfg.agentGroupsOu, cfg.rolesOu]

/-- The root that a step needs. -/
def SeedStep.rootDn : SeedStep ρ → Dn ρ
  | .root dn _ => dn
  | step => (step.dn b cfg).tail

/-- What the migration leaves of a step's work: all of it, or its root is gone. -/
def SeedStep.Kept (step : SeedStep ρ) (s : Stores ρ) : Prop :=
  step.Holds b cfg s ∨ ∃ c, Gone b cfg s c ∧ c <:+ step.rootDn b cfg

variable {b cfg} {salts : Nat → String}

omit [DecidableEq ρ] in
/-- A step is about a root, or about an entry of the seed right below one. -/
theorem named_of_mem {step : SeedStep ρ} (hstep : step ∈ seedSteps b cfg salts) :
    step.rootDn b cfg ∈ cfg.roots ∧ (step.dn b cfg = step.rootDn b cfg ∨
      ∃ a v, a ≠ NamingAttr.ou ∧ step.dn b cfg = b.rdn a v :: step.rootDn b cfg) := by
  have husers : cfg.usersOu ∈ cfg.roots := by simp [ProvisionerConfig.roots]
  have hahenk : cfg.ahenkOu ∈ cfg.roots := by simp [ProvisionerConfig.roots]
  have hgroups : cfg.groupsOu ∈ cfg.roots := by simp [ProvisionerConfig.roots]
  have hagentGroups : cfg.agentGroupsOu ∈ cfg.roots := by simp [ProvisionerConfig.roots]
  have hroles : cfg.rolesOu ∈ cfg.roots := by simp [ProvisionerConfig.roots]
  have hgroup : ∀ {spec : GroupSpec ρ} {v : String} {root : Dn ρ}, spec.dn = b.rdn .cn v :: root → root ∈ cfg.roots →
      spec.dn.tail ∈ cfg.roots ∧
        (spec.dn = spec.dn.tail ∨ ∃ a v, a ≠ NamingAttr.ou ∧ spec.dn = b.rdn a v :: spec.dn.tail) := by
    intro spec v root hdn hroot
    rw [hdn]
    exact ⟨hroot, Or.inr ⟨.cn, v, by decide, rfl⟩⟩
  simp only [seedSteps, List.mem_append, List.mem_map, List.mem_cons, List.not_mem_nil, or_false] at hstep
  rcases hstep with ((((hroot | ⟨u, -, rfl⟩) | ⟨g, hg, rfl⟩) | hrole) | ⟨i, -, rfl⟩) | ⟨g, hg, rfl⟩
  · rcases hroot with rfl | rfl | rfl | rfl
    · exact ⟨husers, Or.inl rfl⟩
    · exact ⟨hahenk, Or.inl rfl⟩
    · exact ⟨hgroups, Or.inl rfl⟩
    · exact ⟨hagentGroups, Or.inl rfl⟩
  · exact ⟨husers, Or.inr ⟨.uid, _, by decide, rfl⟩⟩
  · obtain ⟨i, hi⟩ := dn_of_mem_userGroupSpecs b cfg hg
    exact hgroup hi hgroups
  · rcases hrole with rfl | rfl | rfl | rfl
    · exact ⟨hroles, Or.inl rfl⟩
    · exact ⟨hgroups, Or.inl rfl⟩
    · exact ⟨hroles, Or.inr ⟨.cn, _, by decide, rfl⟩⟩
    · exact hgroup (show (adminGroupSpec b cfg).dn = groupDn b cfg "DomainAdmins" from rfl) hgroups
  · exact ⟨hahenk, Or.inr ⟨.cn, _, by decide, rfl⟩⟩
  · obtain ⟨i, hi⟩ := dn_of_mem_endpointGroupSpecs b cfg hg
    exact hgroup hi hagentGroups

omit [DecidableEq ρ] in
/-- No step is about the legacy root. -/
theorem dn_ne_legacy (hroots : legacyAgentGroupsOu b cfg ∉ cfg.roots) {step : SeedStep ρ}
    (hstep : step ∈ seedSteps b cfg salts) : step.dn b cfg ≠ legacyAgentGroupsOu b cfg := by
  obtain ⟨hroot, heq | ⟨a, v, ha, heq⟩⟩ := named_of_mem hstep
  · rw [heq]
    exact fun h => hroots (h ▸ hroot)
  · rw [heq]
    exact fun h => ha (b.rdn_attr (List.cons.inj h).1)

/-- **A child's migration leaves a step's work, or takes its root away.** -/
theorem SeedStep.Kept.migrate (hne : legacyAgentGroupsOu b cfg ≠ cfg.agentGroupsOu)
    (hroots : legacyAgentGroupsOu b cfg ∉ cfg.roots) {step : SeedStep ρ} (hstep : step ∈ seedSteps b cfg salts)
    {s : Stores ρ} (hs : Migrating b cfg s) {c : Dn ρ} (hc : IsChild b cfg c) (h : step.Kept b cfg s) :
    step.Kept b cfg (b.apply s (migrateWrite cfg s c)) := by
  rcases h with h | ⟨c', hgone, hsuffix⟩
  · rcases apply_or_gone hne hs hc with heq | hgone
    · rw [heq]
      exact Or.inl h
    · by_cases hbelow : c <:+ step.dn b cfg
      · refine Or.inr ⟨c, hgone, ?_⟩
        obtain ⟨hroot, heq | ⟨a, v, -, heq⟩⟩ := named_of_mem hstep
        · rwa [heq] at hbelow
        · rw [heq] at hbelow
          refine (List.suffix_cons_iff.1 hbelow).resolve_left (fun heq => hroots ?_)
          rwa [← hc.tail_eq, heq]
      · refine Or.inl (step.keeps (W := (· = migrateWrite cfg s c)) (fun w hw hr => ?_) (fun spec hspec w hw ht => ?_) s _
          rfl h)
        · exact not_removes_migrateWrite hbelow (hw ▸ hr)
        · subst hspec
          exact hbelow (suffix_of_touches s (hw ▸ ht))
  · exact Or.inr ⟨c', hgone.keep hne hs c, hsuffix⟩

theorem SeedStep.Kept.delete {step : SeedStep ρ} {d : Dn ρ} (hd : step.dn b cfg ≠ d) {s : Stores ρ}
    (h : step.Kept b cfg s) : step.Kept b cfg (b.apply s (.delete d)) := by
  refine h.imp (fun h => ?_) (fun ⟨c, hgone, hsuffix⟩ => ?_)
  · refine step.keeps (W := (· = .delete d)) (fun w hw hr => ?_) (fun spec hspec w hw ht => ?_) s _ rfl h
    · subst hw
      exact hd hr
    · subst hw
      subst hspec
      exact hd ht
  · exact ⟨c, ⟨hgone.child, hgone.apart, fun d hd => hgone.empty d (mem_of_apply_delete hd)⟩, hsuffix⟩

/-- **After a stop in the migration** every step's work is there, but where its root is gone. -/
theorem seed_kept (hne : legacyAgentGroupsOu b cfg ≠ cfg.agentGroupsOu) (hroots : legacyAgentGroupsOu b cfg ∉ cfg.roots)
    {s : Stores ρ} (hs : ∀ step ∈ seedSteps b cfg salts, step.Holds b cfg s) {ws : List (StoreWrite ρ)}
    (hws : ws <+: (migrateLegacyAgentGroupRoot b cfg s).2) {step : SeedStep ρ} (hstep : step ∈ seedSteps b cfg salts) :
    step.Kept b cfg (ws.foldl b.apply s) :=
  migrate_keeps hne (fun _ hm _ hc h => h.migrate hne hroots hstep hm hc) (fun _ h => h.delete (dn_ne_legacy hroots hstep))
    (hs (.root cfg.agentGroupsOu "agent-group-root") (by simp [seedSteps])) (Or.inl (hs step hstep)) hws

/-! ## A step that returns found its root -/

theorem SeedStep.Holds.mem {step : SeedStep ρ} {s : Stores ρ} (h : step.Holds b cfg s) :
    step.dn b cfg ∈ s.directory.dns := by
  cases step with
  | group spec =>
    obtain ⟨e, he, -⟩ := h
    exact (Directory.mem_dns_iff _ _).2 ⟨e, he⟩
  | agent index => exact h.2
  | root dn label => exact h
  | user spec salt => exact h
  | role => exact h

theorem dns_apply_of_root_missing {step : SeedStep ρ} {w : StoreWrite ρ} (hw : w ∈ step.writes b cfg) {s : Stores ρ}
    (hroot : step.rootDn b cfg ∉ s.directory.dns) : (b.apply s w).directory.dns = s.directory.dns := by
  have hadd : ∀ {dn : Dn ρ} (attrs : AttrList ρ), dn.tail ∉ s.directory.dns →
      (b.apply s (.add dn attrs)).directory.dns = s.directory.dns := by
    intro dn attrs htail
    rw [apply_add_refused (fun h => htail (of_reply_add h).1.2.2)]
  cases step with
  | root dn label => cases hw
  | user spec salt =>
    rw [List.mem_singleton.1 hw]
    exact hadd _ hroot
  | group spec =>
    rcases List.mem_pair.1 hw with rfl | rfl
    · exact hadd _ hroot
    · simp only [Backend.apply]
      split
      · exact Directory.dns_modify _ _ _
      · rfl
  | role =>
    rw [List.mem_singleton.1 hw]
    exact hadd _ hroot
  | agent index =>
    rcases List.mem_pair.1 hw with rfl | rfl
    · simp only [Backend.apply]
      split <;> rfl
    · exact hadd _ hroot

/-- **A step that returns found its root there**, or its entry. -/
theorem root_of_ok {step : SeedStep ρ} {s : Stores ρ} {u : Unit} (hok : (step.run b cfg s).1 = .ok u) :
    step.rootDn b cfg ∈ s.directory.dns ∨ step.dn b cfg ∈ s.directory.dns := by
  by_cases hroot : step.rootDn b cfg ∈ s.directory.dns
  · exact Or.inl hroot
  · right
    have hrun := redoable_step b cfg step
    have hsame := hrun.emits.keeps (K := fun t => t.directory.dns = s.directory.dns)
      (fun t w hw ht => (dns_apply_of_root_missing hw (ht ▸ hroot)).trans ht) s rfl
    rw [← hsame]
    exact (hrun.ends s u hok).mem

omit [DecidableEq ρ] in
theorem rootDn_suffix (step : SeedStep ρ) : step.rootDn b cfg <:+ step.dn b cfg := by
  cases step with
  | root dn label => exact List.suffix_refl _
  | group spec => exact List.tail_suffix spec.dn
  | user spec salt => exact List.suffix_cons _ _
  | role => exact List.suffix_cons _ _
  | agent index => exact List.suffix_cons _ _

/-- A step whose root is gone does not return. -/
theorem not_gone_of_ok {step : SeedStep ρ} {s : Stores ρ} {u : Unit} (hok : (step.run b cfg s).1 = .ok u) {c : Dn ρ}
    (hgone : Gone b cfg s c) : ¬ c <:+ step.rootDn b cfg := by
  intro hsuffix
  rcases root_of_ok hok with h | h
  · exact hgone.empty _ h hsuffix
  · exact hgone.empty _ h (hsuffix.trans (rootDn_suffix step))

/-! ## The whole run -/

variable (b cfg) in
/-- The legacy root is none of the roots that the run requires, unless it is the root of the agent groups. -/
def LegacyApart : Prop := legacyAgentGroupsOu b cfg = cfg.agentGroupsOu ∨ legacyAgentGroupsOu b cfg ∉ cfg.roots

variable (b cfg) in
/-- No root lies below the legacy root either. -/
def RootsApart : Prop :=
  legacyAgentGroupsOu b cfg = cfg.agentGroupsOu ∨ ∀ root ∈ cfg.roots, ¬ legacyAgentGroupsOu b cfg <:+ root

omit [DecidableEq ρ] in
theorem RootsApart.legacyApart (h : RootsApart b cfg) : LegacyApart b cfg :=
  h.imp_right (fun h hmem => h _ hmem (List.suffix_refl _))

theorem verify_no_writes (s : Stores ρ) :
    ((verifyRegistrations b cfg >>= fun _ => (pure () : Provision b Unit)) s).2 = [] := by
  have hverify : ∀ s, (verifyRegistrations b cfg s).2 = [] := by
    intro s
    show (((Prog.look (deviceCount b cfg) : Provision b Nat) >>= _) s).2 = _
    rw [Prog.bind_ok (a := deviceCount b cfg s) rfl]
    split <;> rfl
  cases hout : (verifyRegistrations b cfg s).1 with
  | ok a =>
    rw [Prog.bind_ok hout, hverify]
    rfl
  | error e => rw [Prog.bind_error hout, hverify]

/-- Nothing is migrated where the legacy root is the root of the agent groups. -/
theorem migrate_same (h : legacyAgentGroupsOu b cfg = cfg.agentGroupsOu) (s : Stores ρ) :
    migrateLegacyAgentGroupRoot b cfg s = (.ok (), []) := by
  unfold migrateLegacyAgentGroupRoot
  rw [if_pos h]
  rfl

/-- **The seed is still done after a stop in the migration**, if no root lies below the legacy root or the seed can be
made again. -/
theorem seed_holds (hlegacy : LegacyApart b cfg) {s : Stores ρ} (hs : ∀ step ∈ seedSteps b cfg salts, step.Holds b cfg s)
    {ws : List (StoreWrite ρ)} (hws : ws <+: (migrateLegacyAgentGroupRoot b cfg s).2)
    (hend : RootsApart b cfg ∨ ∃ u, (Prog.forEach ((seedSteps b cfg salts).map (SeedStep.run b cfg))
      (ws.foldl b.apply s)).1 = .ok u) : ∀ step ∈ seedSteps b cfg salts, step.Holds b cfg (ws.foldl b.apply s) := by
  by_cases hne : legacyAgentGroupsOu b cfg = cfg.agentGroupsOu
  · rw [migrate_same hne, List.prefix_nil] at hws
    subst hws
    exact hs
  have hkept : ∀ step ∈ seedSteps b cfg salts, step.Kept b cfg (ws.foldl b.apply s) := fun step hstep =>
    seed_kept hne (hlegacy.resolve_left hne) hs hws hstep
  rcases hend with hapart | ⟨u, hok⟩
  · intro step hstep
    refine (hkept step hstep).resolve_right (fun ⟨c, hgone, hsuffix⟩ => ?_)
    exact hapart.resolve_left hne _ (named_of_mem hstep).1 (hgone.child.above.trans hsuffix)
  · exact Prog.forEach_holds _ (fun step _ h => (redoable_step b cfg step).done _ h) (fun step hstep a ha =>
      (hkept step hstep).resolve_right (fun ⟨c, hgone, hsuffix⟩ => not_gone_of_ok ha hgone hsuffix)) u hok

/-- **A run that is made again ends as it would have ended**, if no root lies below the legacy root or the second run
returns. -/
theorem sameEnd_provision (hlegacy : LegacyApart b cfg) (salts : Nat → String) (s : Stores ρ) {ws : List (StoreWrite ρ)}
    (hws : ws <+: (provision b cfg salts s).2)
    (hend : RootsApart b cfg ∨ (provision b cfg salts (ws.foldl b.apply s)).1 = .ok ()) :
    (provision b cfg salts).SameEnd (ws.foldl b.apply s) s := by
  rw [provision_eq] at hws hend ⊢
  have hseed := redoable_seed b cfg salts
  have hverify : ∀ s, (verifyRegistrations b cfg >>= fun _ => (pure () : Provision b Unit)).Recoverable s := fun s =>
    Prog.recoverable_of_no_writes (verify_no_writes s)
  -- The migration's writes are all the writes after the seed.
  have hwrites : ∀ s, ((migrateLegacyAgentGroupRoot b cfg >>= fun _ =>
      verifyRegistrations b cfg >>= fun _ => (pure () : Provision b Unit)) s).2 =
      (migrateLegacyAgentGroupRoot b cfg s).2 := by
    intro s
    cases hout : (migrateLegacyAgentGroupRoot b cfg s).1 with
    | ok a => rw [Prog.bind_ok hout, verify_no_writes, List.append_nil]
    | error e => rw [Prog.bind_error hout]
  have hmigrate : ∀ s, cfg.agentGroupsOu ∈ s.directory.dns → (migrateLegacyAgentGroupRoot b cfg).Recoverable s := by
    intro s hroot
    by_cases hne : legacyAgentGroupsOu b cfg = cfg.agentGroupsOu
    · exact Prog.recoverable_of_no_writes (by rw [migrate_same hne])
    · exact recoverable_migrate hne hroot
  refine Prog.sameEnd_bind (hseed.recoverable s) (fun u hu => ?_) hws (fun u hu vs hvs hcut => ?_)
  · have hroot : cfg.agentGroupsOu ∈ Directory.dns (Stores.directory _) :=
      hseed.ends s u hu (.root cfg.agentGroupsOu "agent-group-root") (by simp [seedSteps])
    refine Prog.recoverable_bind (hmigrate _ hroot) (fun _ _ => hverify _) (fun a ha ws hws => ?_)
    rw [verify_no_writes, List.prefix_nil] at hws
    subst hws
    exact (hmigrate _ hroot).done ha
  · rw [hwrites] at hvs
    refine hseed.done _ (seed_holds hlegacy (hseed.ends s u hu) hvs (hend.imp_right (fun hok => ?_)))
    rw [hcut] at hok
    obtain ⟨a, ha, -⟩ := Prog.ok_of_bind hok
    exact ⟨a, ha⟩

/-- **A run can be made again after any stop**, whether or not it returns, if no root lies below the legacy root. -/
theorem recoverable_provision (hroots : RootsApart b cfg) (salts : Nat → String) (s : Stores ρ) :
    (provision b cfg salts).Recoverable s := fun _ hws =>
  sameEnd_provision hroots.legacyApart salts s hws (Or.inl hroots)

/-- What a run leaves that dies after its first `k` writes. -/
def diedAfter (b : Backend ρ) (cfg : ProvisionerConfig ρ) (salts : Nat → String) (k : Nat) (s : Stores ρ) : Stores ρ :=
  ((provision b cfg salts s).2.take k).foldl b.apply s

/-- Without the salts, that is what the run with empty salts leaves. -/
theorem diedAfter_unsalted (salts : Nat → String) (k : Nat) (s : Stores ρ) : (diedAfter b cfg salts k s).unsalted =
    ((provision b cfg (fun _ => "") s.unsalted).2.take k).foldl b.apply s.unsalted := by
  rw [mirrors_provision b cfg salts s, ← List.map_take]
  exact Prog.foldl_mirror (apply_unsalted b) _ s

/-- **Crash recovery**: where a run dies after any of its writes and is made again to its end, the accounts and the
directory are those of a single run, but for the salts. -/
theorem provision_recovers (b : Backend ρ) (cfg : ProvisionerConfig ρ) (hlegacy : LegacyApart b cfg) (s : Stores ρ)
    (salts rerunSalts singleSalts : Nat → String) (k : Nat)
    (hrerun : (provision b cfg rerunSalts (diedAfter b cfg salts k s)).1 = .ok ()) :
    (provision b cfg singleSalts s).1 = .ok () ∧
      ((provision b cfg rerunSalts).final (diedAfter b cfg salts k s)).unsalted =
        ((provision b cfg singleSalts).final s).unsalted := by
  have hsingle := mirrors_provision b cfg singleSalts
  have hagain := mirrors_provision b cfg rerunSalts
  have hok : (provision b cfg (fun _ => "") (diedAfter b cfg salts k s).unsalted).1 = .ok () := by
    rw [hagain]
    exact hrerun
  rw [diedAfter_unsalted] at hok
  obtain ⟨hout, hfinal⟩ := sameEnd_provision hlegacy (fun _ => "") s.unsalted (List.take_prefix k _) (Or.inr hok)
  rw [← diedAfter_unsalted] at hfinal
  constructor
  · rw [hok] at hout
    obtain ⟨u, hu⟩ := Prog.map_ok_iff.1 hout.symm
    rw [hsingle] at hu
    exact hu
  · rw [← hagain.final (apply_unsalted b), ← hsingle.final (apply_unsalted b), hfinal]

/-- A run of two agents that dies between the move of the legacy child and the end of the legacy root. -/
theorem sampleRun_recovers : LegacyApart sampleBackend (sampleProvisioner 2) ∧
    (provision sampleBackend (sampleProvisioner 2) (fun _ => "b")
      (diedAfter sampleBackend (sampleProvisioner 2) (fun _ => "a") 12 legacyRoots)).1 = .ok () ∧
    (provision sampleBackend (sampleProvisioner 2) (fun _ => "c") legacyRoots).1 = .ok () ∧
    ((provision sampleBackend (sampleProvisioner 2) (fun _ => "b")).final
        (diedAfter sampleBackend (sampleProvisioner 2) (fun _ => "a") 12 legacyRoots)).unsalted =
      ((provision sampleBackend (sampleProvisioner 2) (fun _ => "c")).final legacyRoots).unsalted := by
  have hlegacy : LegacyApart sampleBackend (sampleProvisioner 2) := Or.inr (by decide)
  have hrerun : (provision sampleBackend (sampleProvisioner 2) (fun _ => "b")
      (diedAfter sampleBackend (sampleProvisioner 2) (fun _ => "a") 12 legacyRoots)).1 = .ok () := by
    decide +kernel
  exact ⟨hlegacy, hrerun, provision_recovers sampleBackend (sampleProvisioner 2) hlegacy legacyRoots _ _ _ 12 hrerun⟩

end

end Lider
