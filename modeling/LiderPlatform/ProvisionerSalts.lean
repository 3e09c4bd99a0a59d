import LiderPlatform.ProvisionerSteps
/-!
# ProvisionerSalts — runs that differ in their salts

The servers answer the same with and without the salts of the hashed passwords (`reply_unsalted`), so a run without
salts does what the run does (`mirrors_provision`).
-/
namespace Lider

open Ldap Restart

variable {ρ : Type}

def unsaltedList (attrs : AttrList ρ) : AttrList ρ := attrs.map (fun a => (a.1, a.2.map LdapValue.unsalted))

def Stores.unsalted (s : Stores ρ) : Stores ρ := { s with directory := s.directory.map unsaltedAttrs }

def StoreWrite.unsalted : StoreWrite ρ → StoreWrite ρ
  | .add dn attrs => .add dn (unsaltedList attrs)
  | .modify dn changes => .modify dn (unsaltedList changes)
  | w => w

theorem lookup_unsaltedList (attrs : AttrList ρ) (k : String) :
    (unsaltedList attrs).lookup k = (attrs.lookup k).map (List.map LdapValue.unsalted) := by
  unfold unsaltedList
  induction attrs with
  | nil => rfl
  | cons a attrs ih =>
    rw [List.map_cons, List.lookup_cons, List.lookup_cons]
    cases k == a.1
    · exact ih
    · rfl

theorem attributesOf_unsaltedList (attrs : AttrList ρ) :
    attributesOf (unsaltedList attrs) = unsaltedAttrs (attributesOf attrs) := by
  funext k
  show ((unsaltedList attrs).lookup k).getD [] = ((attrs.lookup k).getD []).map LdapValue.unsalted
  rw [lookup_unsaltedList]
  cases attrs.lookup k <;> rfl

theorem replaceAttrs_unsaltedList (changes : AttrList ρ) (e : LdapAttrs ρ) :
    replaceAttrs (unsaltedList changes) (unsaltedAttrs e) = unsaltedAttrs (replaceAttrs changes e) := by
  funext k
  show ((unsaltedList changes).lookup k).getD ((e k).map LdapValue.unsalted) =
    ((changes.lookup k).getD (e k)).map LdapValue.unsalted
  rw [lookup_unsaltedList]
  cases changes.lookup k <;> rfl

theorem any_isEmpty_unsaltedList (attrs : AttrList ρ) :
    (unsaltedList attrs).any (fun a => a.2.isEmpty) = attrs.any (fun a => a.2.isEmpty) := by
  unfold unsaltedList
  rw [List.any_map]
  refine congrArg attrs.any (funext fun a => ?_)
  cases ha : a.2 <;> simp [ha]

variable [DecidableEq ρ] (b : Backend ρ) (cfg : ProvisionerConfig ρ)

/-- **A server answers the same without salts.** -/
theorem reply_unsalted (s : Stores ρ) (w : StoreWrite ρ) : b.reply s.unsalted w.unsalted = b.reply s w := by
  cases w with
  | add dn attrs =>
    simp only [StoreWrite.unsalted, Backend.reply, Stores.unsalted, Directory.dns_map, Directory.canAdd_map,
      any_isEmpty_unsaltedList, attributesOf_unsaltedList, b.valid_unsalted]
  | modify dn changes =>
    simp only [StoreWrite.unsalted, Backend.reply, Stores.unsalted, Directory.find?_map]
    cases s.directory.find? dn with
    | none => rfl
    | some e => simp only [Option.map_some, replaceAttrs_unsaltedList, b.valid_unsalted]
  | delete dn =>
    simp only [StoreWrite.unsalted, Backend.reply, Stores.unsalted, Directory.dns_map, Directory.isLeaf_map]
  | modifyDn dn newSuperior =>
    simp only [StoreWrite.unsalted, Backend.reply, Stores.unsalted, Directory.dns_map, Directory.canMove_map]
  | register user password => rfl

/-- **What a write leaves, without salts.** -/
theorem apply_unsalted (s : Stores ρ) (w : StoreWrite ρ) : (b.apply s w).unsalted = b.apply s.unsalted w.unsalted := by
  have hreply := reply_unsalted b s w
  cases w with
  | add dn attrs =>
    simp only [StoreWrite.unsalted] at hreply ⊢
    simp only [Backend.apply, hreply]
    split
    · simp only [Stores.unsalted, attributesOf_unsaltedList, Directory.map_add]
    · rfl
  | modify dn changes =>
    simp only [StoreWrite.unsalted] at hreply ⊢
    simp only [Backend.apply, hreply]
    split
    · simp only [Stores.unsalted]
      rw [Directory.map_modify _ _ _ (fun e => (replaceAttrs_unsaltedList changes e).symm)]
    · rfl
  | delete dn =>
    simp only [StoreWrite.unsalted] at hreply ⊢
    simp only [Backend.apply, hreply]
    split
    · simp only [Stores.unsalted, Directory.map_delete]
    · rfl
  | modifyDn dn newSuperior =>
    simp only [StoreWrite.unsalted] at hreply ⊢
    simp only [Backend.apply, hreply]
    split
    · simp only [Stores.unsalted, Directory.map_move]
    · rfl
  | register user password =>
    simp only [StoreWrite.unsalted] at hreply ⊢
    simp only [Backend.apply, hreply]
    split <;> rfl

/-! ## The programs -/

/-- The second program does on states without salts what the first does. -/
abbrev Unsalted {α : Type} (p p' : Provision b α) : Prop := Prog.Mirrors Stores.unsalted StoreWrite.unsalted p p'

variable {b} in
theorem Unsalted.bind {α β : Type} {p p' : Provision b α} {next next' : α → Provision b β} (hp : Unsalted b p p')
    (hnext : ∀ a, Unsalted b (next a) (next' a)) : Unsalted b (p >>= next) (p' >>= next') :=
  Prog.Mirrors.bind (apply_unsalted b) hp hnext

theorem unsalted_send (w : StoreWrite ρ) : Unsalted b (send b w) (send b w.unsalted) :=
  Prog.mirrors_perform (reply_unsalted b) w

theorem unsalted_entryExists (dn : Dn ρ) : Unsalted b (entryExists b dn) (entryExists b dn) :=
  Prog.mirrors_look (fun s => by simp only [Stores.unsalted, Directory.dns_map])

theorem unsalted_addEntry (dn : Dn ρ) (attrs : AttrList ρ) (failed : Nat → ProvisionError ρ) :
    Unsalted b (addEntry b dn attrs failed) (addEntry b dn (unsaltedList attrs) failed) := by
  refine Unsalted.bind (unsalted_send b (.add dn attrs)) (fun result => ?_)
  split
  · exact Prog.mirrors_pure _
  · split
    · exact Prog.mirrors_pure _
    · exact Prog.mirrors_raise _

omit [DecidableEq ρ] in
/-- A group has no salts. -/
theorem unsaltedList_changes (spec : GroupSpec ρ) : unsaltedList spec.changes = spec.changes := by
  unfold GroupSpec.changes unsaltedList GroupSpec.extraMultiValueAttrs
  rw [List.map_cons, List.map_filterMap]
  congr 1
  · simp [LdapValue.unsalted, Function.comp_def]
  · refine congrArg (fun f => spec.extra.filterMap f) (funext fun a => ?_)
    simp only
    split
    · rfl
    · simp [LdapValue.unsalted, Function.comp_def]

omit [DecidableEq ρ] in
theorem unsaltedList_attrs (spec : GroupSpec ρ) : unsaltedList spec.attrs = spec.attrs := by
  have hchanges := unsaltedList_changes spec
  unfold GroupSpec.changes unsaltedList at hchanges
  rw [List.map_cons, List.cons.injEq] at hchanges
  unfold GroupSpec.attrs unsaltedList
  rw [List.map_append, hchanges.2]
  simp [LdapValue.unsalted, Function.comp_def]

theorem unsalted_ensureGroupEntry (spec : GroupSpec ρ) :
    Unsalted b (ensureGroupEntry b spec) (ensureGroupEntry b spec) := by
  have hadd := unsalted_send b (.add spec.dn spec.attrs)
  have hmodify := unsalted_send b (.modify spec.dn spec.changes)
  rw [show (StoreWrite.add spec.dn spec.attrs).unsalted = .add spec.dn (unsaltedList spec.attrs) from rfl,
    unsaltedList_attrs] at hadd
  rw [show (StoreWrite.modify spec.dn spec.changes).unsalted = .modify spec.dn (unsaltedList spec.changes) from rfl,
    unsaltedList_changes] at hmodify
  refine Unsalted.bind hadd (fun result => ?_)
  split
  · exact Prog.mirrors_pure _
  · split
    · exact Prog.mirrors_raise _
    · refine Unsalted.bind hmodify (fun result => ?_)
      split
      · exact Prog.mirrors_raise _
      · exact Prog.mirrors_pure _

/-- The step with the empty salt. -/
def SeedStep.unsalted : SeedStep ρ → SeedStep ρ
  | .user spec _ => .user spec ""
  | step => step

theorem unsalted_step (step : SeedStep ρ) : Unsalted b (step.run b cfg) (step.unsalted.run b cfg) := by
  have hdiscard : ∀ {p p' : Provision b Seeded}, Unsalted b p p' →
      Unsalted b (p >>= fun _ => (pure () : Provision b Unit)) (p' >>= fun _ => (pure () : Provision b Unit)) :=
    fun hp => Unsalted.bind hp (fun _ => Prog.mirrors_pure ())
  cases step with
  | root dn label =>
    refine Unsalted.bind (unsalted_entryExists b dn) (fun found => ?_)
    split
    · exact Prog.mirrors_pure _
    · exact Prog.mirrors_raise _
  | user spec salt =>
    have huser := unsalted_addEntry b (userDn b cfg spec.uid) (seedUserAttrs cfg spec salt)
      (.seedUserFailed (userDn b cfg spec.uid))
    rw [show unsaltedList (seedUserAttrs cfg spec salt) = seedUserAttrs cfg spec "" by
      simp [unsaltedList, seedUserAttrs, LdapValue.unsalted, Function.comp_def]] at huser
    exact hdiscard huser
  | group spec => exact hdiscard (unsalted_ensureGroupEntry b spec)
  | role =>
    have hrole := unsalted_addEntry b (roleDn b cfg "liderahenk") (roleAttrs cfg) .roleFailed
    rw [show unsaltedList (roleAttrs cfg) = roleAttrs cfg by
      simp [unsaltedList, roleAttrs, LdapValue.unsalted, Function.comp_def]] at hrole
    exact hdiscard hrole
  | agent index =>
    have hagent := unsalted_addEntry b (agentDn b cfg (ahenkId index)) (agentAttrs b cfg index)
      (.ldapFailed (agentDn b cfg (ahenkId index)))
    rw [show unsaltedList (agentAttrs b cfg index) = agentAttrs b cfg index by
      simp [unsaltedList, agentAttrs, LdapValue.unsalted]] at hagent
    refine hdiscard (Unsalted.bind (Unsalted.bind (unsalted_send b (.register (ahenkId index) cfg.xmppPass))
      (fun statusCode => ?_)) (fun _ => hagent))
    split
    · exact Prog.mirrors_pure _
    · split
      · exact Prog.mirrors_pure _
      · exact Prog.mirrors_raise _

theorem unsalted_migrate : Unsalted b (migrateLegacyAgentGroupRoot b cfg) (migrateLegacyAgentGroupRoot b cfg) := by
  have hchildren : Unsalted b (legacyChildren b cfg) (legacyChildren b cfg) :=
    Prog.mirrors_look (fun s => by simp only [Stores.unsalted, Directory.children_map])
  unfold migrateLegacyAgentGroupRoot
  split
  · exact Prog.mirrors_pure _
  · refine Unsalted.bind (unsalted_entryExists b _) (fun found => ?_)
    split
    · exact Prog.mirrors_pure _
    · refine Unsalted.bind hchildren (fun childDns => Unsalted.bind ?_ (fun _ => Unsalted.bind hchildren (fun rest => ?_)))
      · refine Prog.mirrors_forEach (apply_unsalted b) childDns (fun c _ => ?_)
        refine Unsalted.bind (unsalted_entryExists b _) (fun taken => ?_)
        split
        · exact unsalted_send b (.delete c)
        · exact unsalted_send b (.modifyDn c cfg.agentGroupsOu)
      · split
        · exact Unsalted.bind (unsalted_send b (.delete _)) (fun _ => Prog.mirrors_pure _)
        · exact Prog.mirrors_pure _

theorem deviceCount_unsalted (s : Stores ρ) : deviceCount b cfg s.unsalted = deviceCount b cfg s := by
  unfold deviceCount
  show ((s.directory.entries.map _).filter _).length = _
  rw [List.filter_map, List.length_map]
  simp only [Function.comp_def, b.isDevice_unsalted]

theorem unsalted_verify : Unsalted b (verifyRegistrations b cfg) (verifyRegistrations b cfg) := by
  refine Unsalted.bind (Prog.mirrors_look (deviceCount_unsalted b cfg)) (fun count => ?_)
  split
  · exact Prog.mirrors_raise _
  · exact Prog.mirrors_pure _

omit [DecidableEq ρ] in
theorem seedSteps_unsalted (salts : Nat → String) :
    seedSteps b cfg (fun _ => "") = (seedSteps b cfg salts).map SeedStep.unsalted := by
  simp [seedSteps, SeedStep.unsalted, Function.comp_def]

/-- **A run without salts does what the run does.** -/
theorem mirrors_provision (salts : Nat → String) : Unsalted b (provision b cfg salts) (provision b cfg (fun _ => "")) := by
  rw [provision_eq, provision_eq, seedSteps_unsalted b cfg salts, List.map_map]
  refine Unsalted.bind (Prog.mirrors_forEach (apply_unsalted b) _ (fun step _ => unsalted_step b cfg step)) (fun _ => ?_)
  exact Unsalted.bind (unsalted_migrate b cfg) (fun _ =>
    Unsalted.bind (unsalted_verify b cfg) (fun _ => Prog.mirrors_pure ()))

end Lider
