import LiderPlatform.Provisioner
import LiderPlatform.RoundRobin
/-!
# ProvisionerSteps — a run as a list of steps

Before the migration a run is one loop over steps (`provision_eq`), each of which can be made again
(`redoable_step`): it adds an entry or skips it, or brings a group to its values.  What a step leaves, no later write of
the run takes away, since the groups have different names (`seedSteps_keep`).
-/
namespace Lider

open Ldap Restart

/-! ## The names of the groups -/

theorem numbered_injective {m n : Nat} (h : numbered m = numbered n) : m = n :=
  ahenkId_injective m n (congrArg ("ahenk-" ++ ·) h)

theorem isDigit_numbered (n : Nat) : ∀ c ∈ (numbered n).toList, c.isDigit = true := by
  intro c hc
  rw [numbered, String.toList_ofList, List.leftpad, List.mem_append] at hc
  rcases hc with hc | hc
  · rw [List.eq_of_mem_replicate hc]
    rfl
  · exact Nat.isDigit_of_mem_toDigits (by decide) (by decide) hc

/-- An archetype is a word, so its name is not a number. -/
theorem archetypeName_injective (head : String) {archetypes : List String} (hnodup : archetypes.Nodup)
    (hwords : ∀ a ∈ archetypes, a.toList.all Char.isDigit = false) {i j : Nat}
    (h : archetypeName head archetypes i = archetypeName head archetypes j) : i = j := by
  have hword : ∀ {a : String} {n : Nat}, a ∈ archetypes → a ≠ numbered n := by
    rintro a n ha rfl
    have hword := hwords _ ha
    rw [List.all_eq_true.2 (isDigit_numbered n)] at hword
    cases hword
  unfold archetypeName at h
  cases hi : archetypes[i]? with
  | some a =>
    cases hj : archetypes[j]? with
    | some a' =>
      rw [hi, hj] at h
      have ha : a = a' := String.append_right_inj head |>.1 h
      obtain ⟨hilt, hia⟩ := List.getElem?_eq_some_iff.1 hi
      obtain ⟨hjlt, hja⟩ := List.getElem?_eq_some_iff.1 hj
      exact hnodup.getElem_inj_iff.1 (show archetypes[i] = archetypes[j] by rw [hia, hja, ha])
    | none =>
      rw [hi, hj] at h
      exact absurd (String.append_right_inj head |>.1 h) (hword (List.mem_of_getElem? hi))
  | none =>
    cases hj : archetypes[j]? with
    | some a' =>
      rw [hi, hj] at h
      exact absurd (String.append_right_inj head |>.1 h).symm (hword (List.mem_of_getElem? hj))
    | none =>
      rw [hi, hj] at h
      have := numbered_injective (String.append_right_inj head |>.1 h)
      omega

theorem userGroupName_injective {i j : Nat} (h : userGroupName i = userGroupName j) : i = j :=
  archetypeName_injective "ug-" (by decide) (by decide) h

theorem endpointGroupName_injective {i j : Nat} (h : endpointGroupName i = endpointGroupName j) : i = j :=
  archetypeName_injective "eg-" (by decide) (by decide) h

theorem head_archetypeName (head : String) (archetypes : List String) (i : Nat) :
    ∃ name : String, archetypeName head archetypes i = head ++ name := by
  unfold archetypeName
  split
  · exact ⟨_, rfl⟩
  · exact ⟨_, rfl⟩

theorem userGroupName_ne (i j : Nat) : userGroupName i ≠ endpointGroupName j ∧ userGroupName i ≠ "DomainAdmins" ∧
    endpointGroupName j ≠ "DomainAdmins" := by
  obtain ⟨u, hu⟩ := head_archetypeName "ug-" userGroupArchetypes i
  obtain ⟨e, he⟩ := head_archetypeName "eg-" endpointGroupArchetypes j
  rw [show userGroupName i = "ug-" ++ u from hu, show endpointGroupName j = "eg-" ++ e from he]
  refine ⟨fun h => ?_, fun h => ?_, fun h => ?_⟩ <;> simpa using congrArg (·.toList.head?) h

/-! ## What a write leaves -/

section
variable {ρ : Type} [DecidableEq ρ] {b : Backend ρ}

/-- The write can change that entry. -/
def StoreWrite.Touches {ρ : Type} (d : Dn ρ) : StoreWrite ρ → Prop
  | .add _ _ => False
  | .modify dn _ => d = dn
  | .delete dn => d = dn
  | .modifyDn dn _ => dn <:+ d
  | .register _ _ => False

/-- The write can take that entry away. -/
def StoreWrite.Removes {ρ : Type} (d : Dn ρ) : StoreWrite ρ → Prop
  | .modify _ _ => False
  | w => w.Touches d

theorem touches_of_removes {ρ : Type} {w : StoreWrite ρ} {d : Dn ρ} (h : w.Removes d) : w.Touches d := by
  cases w with
  | modify dn changes => exact h.elim
  | _ => exact h

theorem find?_apply {s : Stores ρ} {d : Dn ρ} {e : LdapAttrs ρ} {w : StoreWrite ρ} (hw : ¬ w.Touches d)
    (hfind : s.directory.find? d = some e) : (b.apply s w).directory.find? d = some e := by
  cases w with
  | add dn attrs =>
    simp only [Backend.apply]
    split
    · exact Directory.find?_add hfind _ _
    · exact hfind
  | modify dn changes =>
    simp only [Backend.apply]
    split
    · exact Directory.find?_modify hfind hw _
    · exact hfind
  | delete dn =>
    simp only [Backend.apply]
    split
    · exact Directory.find?_delete hfind hw
    · exact hfind
  | modifyDn dn newSuperior =>
    simp only [Backend.apply]
    split
    · exact Directory.find?_move hfind hw
    · exact hfind
  | register user password =>
    simp only [Backend.apply]
    split <;> exact hfind

theorem mem_apply {s : Stores ρ} {d : Dn ρ} {w : StoreWrite ρ} (hw : ¬ w.Removes d) (hd : d ∈ s.directory.dns) :
    d ∈ (b.apply s w).directory.dns := by
  cases w with
  | modify dn changes =>
    simp only [Backend.apply]
    split
    · rwa [Directory.dns_modify]
    · exact hd
  | _ =>
    obtain ⟨e, he⟩ := (Directory.mem_dns_iff _ _).1 hd
    exact (Directory.mem_dns_iff _ _).2 ⟨e, find?_apply hw he⟩

theorem accounts_apply {s : Stores ρ} {user : String} (w : StoreWrite ρ) (h : (s.accounts user).isSome = true) :
    ((b.apply s w).accounts user).isSome = true := by
  cases w with
  | register user' password =>
    simp only [Backend.apply]
    split
    · show (if user = user' then some password else s.accounts user).isSome = true
      split
      · rfl
      · exact h
    · exact h
  | _ =>
    simp only [Backend.apply]
    split <;> exact h

/-- **An add is refused as existing exactly where the entry exists.** -/
theorem reply_add_eq_68 (s : Stores ρ) (dn : Dn ρ) (attrs : AttrList ρ) :
    b.reply s (.add dn attrs) = 68 ↔ dn ∈ s.directory.dns := by
  simp only [Backend.reply]
  split
  · simp [*]
  · rename_i h
    split
    · simp [h]
    · split
      · simp [h]
      · split <;> simp [h]

theorem of_reply_add {s : Stores ρ} {dn : Dn ρ} {attrs : AttrList ρ} (h : b.reply s (.add dn attrs) = 0) :
    s.directory.CanAdd dn ∧ attrs.any (fun a => a.2.isEmpty) = false ∧ b.valid dn (attributesOf attrs) = true := by
  simp only [Backend.reply] at h
  split at h
  · cases h
  · split at h
    · cases h
    · rename_i hadd
      split at h
      · cases h
      · rename_i hvalues
        split at h
        · rename_i hvalid
          exact ⟨not_not.1 hadd, Bool.eq_false_of_not_eq_true hvalues, hvalid⟩
        · cases h

theorem apply_add {s : Stores ρ} {dn : Dn ρ} {attrs : AttrList ρ} (h : b.reply s (.add dn attrs) = 0) :
    (b.apply s (.add dn attrs)).directory.find? dn = some (attributesOf attrs) := by
  simp only [Backend.apply, if_pos h]
  exact Directory.find?_add_self (of_reply_add h).1 _

theorem apply_add_refused {s : Stores ρ} {dn : Dn ρ} {attrs : AttrList ρ} (h : b.reply s (.add dn attrs) ≠ 0) :
    b.apply s (.add dn attrs) = s := by
  simp only [Backend.apply, if_neg h]

theorem apply_add_exists {s : Stores ρ} {dn : Dn ρ} (hdn : dn ∈ s.directory.dns) (attrs : AttrList ρ) :
    b.apply s (.add dn attrs) = s :=
  apply_add_refused (by rw [(reply_add_eq_68 s dn attrs).2 hdn]; decide)

/-! ## One step -/

/-- A step of the seed. -/
inductive SeedStep (ρ : Type) where
  | root (dn : Dn ρ) (label : String)
  | user (spec : UserSpec) (salt : String)
  | group (spec : GroupSpec ρ)
  | role
  | agent (index : Nat)

variable (b) (cfg : ProvisionerConfig ρ)

def SeedStep.run : SeedStep ρ → Provision b Unit
  | .root dn label => requireBaseEntry b dn label
  | .user spec salt => do let _ ← ensureSeedUser b cfg spec salt
  | .group spec => do let _ ← ensureGroupEntry b spec
  | .role => do let _ ← addEntry b (roleDn b cfg "liderahenk") (roleAttrs cfg) .roleFailed
  | .agent index => do let _ ← registerAgent b cfg index

/-- The entry a step is about. -/
def SeedStep.dn : SeedStep ρ → Dn ρ
  | .root dn _ => dn
  | .user spec _ => userDn b cfg spec.uid
  | .group spec => spec.dn
  | .role => roleDn b cfg "liderahenk"
  | .agent index => agentDn b cfg (ahenkId index)

/-- What the step leaves. -/
def SeedStep.Holds (step : SeedStep ρ) (s : Stores ρ) : Prop :=
  match step with
  | .group spec => ∃ e, s.directory.find? spec.dn = some e ∧ replaceAttrs spec.changes e = e ∧ b.valid spec.dn e = true
  | .agent index => (s.accounts (ahenkId index)).isSome = true ∧ agentDn b cfg (ahenkId index) ∈ s.directory.dns
  | step => step.dn b cfg ∈ s.directory.dns

/-- The writes a step can make. -/
def SeedStep.writes : SeedStep ρ → List (StoreWrite ρ)
  | .root _ _ => []
  | .user spec salt => [.add (userDn b cfg spec.uid) (seedUserAttrs cfg spec salt)]
  | .group spec => [.add spec.dn spec.attrs, .modify spec.dn spec.changes]
  | .role => [.add (roleDn b cfg "liderahenk") (roleAttrs cfg)]
  | .agent index =>
    [.register (ahenkId index) cfg.xmppPass, .add (agentDn b cfg (ahenkId index)) (agentAttrs b cfg index)]

variable {b} {cfg}

theorem redoable_requireBaseEntry (dn : Dn ρ) (label : String) (W : StoreWrite ρ → Prop) :
    Prog.Redoable (requireBaseEntry b dn label) (fun s => dn ∈ s.directory.dns) W := by
  have heq : ∀ s, requireBaseEntry b dn label s =
      (if dn ∈ s.directory.dns then .ok () else .error (.rootMissing label dn), []) := by
    intro s
    show (entryExists b dn >>= _) s = _
    rw [Prog.bind_ok (a := decide (dn ∈ s.directory.dns)) rfl]
    by_cases h : dn ∈ s.directory.dns
    · simp only [h, decide_true, if_true]
      rfl
    · simp only [h, decide_false, if_false, Bool.false_eq_true]
      rfl
  refine Prog.redoable_of_no_writes (fun s => by rw [heq]) (fun s => ?_)
  rw [heq]
  by_cases h : dn ∈ s.directory.dns <;> simp [h]

theorem addEntry_eq (dn : Dn ρ) (attrs : AttrList ρ) (failed : Nat → ProvisionError ρ) (s : Stores ρ) :
    addEntry b dn attrs failed s =
      (if b.reply s (.add dn attrs) = 0 then .ok .created
        else if b.reply s (.add dn attrs) = 68 then .ok .exists
        else .error (failed (b.reply s (.add dn attrs))), [.add dn attrs]) := by
  show (send b (.add dn attrs) >>= _) s = _
  rw [Prog.bind_ok (a := b.reply s (.add dn attrs)) rfl]
  by_cases h0 : b.reply s (.add dn attrs) = 0
  · simp only [h0, if_true]
    rfl
  · by_cases h68 : b.reply s (.add dn attrs) = 68
    · simp only [h68, if_true, if_neg (show ¬ (68 : Nat) = 0 by decide)]
      rfl
    · simp only [if_neg h0, if_neg h68]
      rfl

/-- **An entry that is added where it does not exist can be added again.** -/
theorem redoable_addEntry (dn : Dn ρ) (attrs : AttrList ρ) (failed : Nat → ProvisionError ρ) :
    Prog.Redoable (addEntry b dn attrs failed) (fun s => dn ∈ s.directory.dns) (· = .add dn attrs) := by
  refine Prog.redoable_of_write (fun s => by rw [addEntry_eq]) (fun s hs => ?_) (fun s a ha => ?_) (fun s e he => ?_)
  · refine ⟨⟨.exists, ?_⟩, apply_add_exists hs attrs⟩
    rw [addEntry_eq, (reply_add_eq_68 s dn attrs).2 hs]
    rfl
  · rw [addEntry_eq] at ha
    by_cases h0 : b.reply s (.add dn attrs) = 0
    · exact (Directory.mem_dns_iff _ _).2 ⟨_, apply_add h0⟩
    · by_cases h68 : b.reply s (.add dn attrs) = 68
      · rw [apply_add_refused h0]
        exact (reply_add_eq_68 s dn attrs).1 h68
      · simp only [if_neg h0, if_neg h68] at ha
        cases ha
  · refine apply_add_refused (fun h0 => ?_)
    rw [addEntry_eq, if_pos h0] at he
    cases he

theorem registerXmpp_eq (username : String) (s : Stores ρ) :
    registerXmppIdempotent b cfg username s =
      (if (s.accounts username).isSome then .ok .exists
        else if b.registers username cfg.xmppPass then .ok .created
        else .error (.xmppFailed username 400), [.register username cfg.xmppPass]) := by
  show (send b (.register username cfg.xmppPass) >>= _) s = _
  have hsend : ∀ n, b.reply s (.register username cfg.xmppPass) = n →
      (send b (.register username cfg.xmppPass) s).1 = .ok n := fun n hn => congrArg Except.ok hn
  by_cases hsome : (s.accounts username).isSome
  · rw [Prog.bind_ok (hsend 409 (by simp only [Backend.reply, if_pos hsome])), if_pos hsome]
    rfl
  · by_cases hregisters : b.registers username cfg.xmppPass
    · rw [Prog.bind_ok (hsend 200 (by simp only [Backend.reply, if_neg hsome, if_pos hregisters])), if_neg hsome,
        if_pos hregisters]
      rfl
    · rw [Prog.bind_ok (hsend 400 (by simp only [Backend.reply, if_neg hsome, if_neg hregisters])), if_neg hsome,
        if_neg hregisters]
      rfl

theorem redoable_registerXmpp (cfg : ProvisionerConfig ρ) (username : String) :
    Prog.Redoable (registerXmppIdempotent b cfg username) (fun s => (s.accounts username).isSome = true)
      (· = .register username cfg.xmppPass) := by
  refine Prog.redoable_of_write (fun s => by rw [registerXmpp_eq]) (fun s hs => ?_) (fun s a ha => ?_) (fun s e he => ?_)
  · refine ⟨⟨.exists, by rw [registerXmpp_eq, if_pos hs]⟩, ?_⟩
    simp only [Backend.apply, Backend.reply, if_pos hs]
    rfl
  · rw [registerXmpp_eq] at ha
    by_cases hsome : (s.accounts username).isSome
    · exact accounts_apply _ hsome
    · by_cases hregisters : b.registers username cfg.xmppPass
      · simp [Backend.apply, Backend.reply, hsome, hregisters]
      · simp only [if_neg hsome, if_neg hregisters] at ha
        cases ha
  · rw [registerXmpp_eq] at he
    by_cases hsome : (s.accounts username).isSome
    · rw [if_pos hsome] at he
      cases he
    · by_cases hregisters : b.registers username cfg.xmppPass
      · rw [if_neg hsome, if_pos hregisters] at he
        cases he
      · simp [Backend.apply, Backend.reply, hsome, hregisters]

/-! ## A group -/

theorem replaceAttrs_idem {ρ : Type} (changes : AttrList ρ) (e : LdapAttrs ρ) :
    replaceAttrs changes (replaceAttrs changes e) = replaceAttrs changes e := by
  funext k
  unfold replaceAttrs
  cases changes.lookup k <;> rfl

theorem lookup_extra_eq_none {ρ : Type} (spec : GroupSpec ρ) {key : String}
    (hkey : key ∈ ["dn", "objectClass", "cn", "member"]) : spec.extraMultiValueAttrs.lookup key = none := by
  refine List.lookup_eq_none_iff.2 (fun a ha => ?_)
  obtain ⟨p, hp, hpa⟩ := List.mem_filterMap.1 ha
  have hkeys := spec.extra_keys p.1 (List.mem_map_of_mem hp)
  have hpk : a.1 = p.1 := by
    revert hpa
    simp only
    split
    · intro h; cases h
    · intro h; cases h; rfl
  have hne : key ≠ p.1 := fun h => hkeys (h ▸ hkey)
  simpa [hpk] using hne

/-- An update of a group with other members gives the attributes of a new group. -/
theorem replaceAttrs_attrs {ρ : Type} (spec : GroupSpec ρ) (member : List (Dn ρ)) :
    replaceAttrs spec.changes (attributesOf { spec with member := member }.attrs) = attributesOf spec.attrs := by
  have hextra : { spec with member := member }.extraMultiValueAttrs = spec.extraMultiValueAttrs := rfl
  funext k
  unfold replaceAttrs attributesOf GroupSpec.changes GroupSpec.attrs
  rw [hextra]
  by_cases hclass : k = "objectClass"
  · subst hclass
    simp [List.lookup_cons, lookup_extra_eq_none]
  · by_cases hcn : k = "cn"
    · subst hcn
      simp [List.lookup_cons, lookup_extra_eq_none]
    · by_cases hmember : k = "member"
      · subst hmember
        simp [List.lookup_cons]
      · have h1 : (k == "objectClass") = false := by simpa using hclass
        have h2 : (k == "cn") = false := by simpa using hcn
        have h3 : (k == "member") = false := by simpa using hmember
        simp only [List.cons_append, List.nil_append, List.lookup_cons, h1, h2, h3]
        cases spec.extraMultiValueAttrs.lookup k <;> rfl

theorem reply_modify {s : Stores ρ} {dn : Dn ρ} {e : LdapAttrs ρ} (hfind : s.directory.find? dn = some e)
    (changes : AttrList ρ) :
    b.reply s (.modify dn changes) = if b.valid dn (replaceAttrs changes e) then 0 else 65 := by
  simp only [Backend.reply, hfind]

theorem apply_modify {s : Stores ρ} {dn : Dn ρ} {e : LdapAttrs ρ} {changes : AttrList ρ}
    (hfind : s.directory.find? dn = some e) (h : b.reply s (.modify dn changes) = 0) :
    (b.apply s (.modify dn changes)).directory.find? dn = some (replaceAttrs changes e) := by
  simp only [Backend.apply, if_pos h]
  exact Directory.find?_modify_self hfind _

theorem apply_modify_refused {s : Stores ρ} {dn : Dn ρ} {changes : AttrList ρ}
    (h : b.reply s (.modify dn changes) ≠ 0) : b.apply s (.modify dn changes) = s := by
  simp only [Backend.apply, if_neg h]

theorem valid_of_reply_modify {s : Stores ρ} {dn : Dn ρ} {e : LdapAttrs ρ} {changes : AttrList ρ}
    (hfind : s.directory.find? dn = some e) (h : b.reply s (.modify dn changes) = 0) :
    b.valid dn (replaceAttrs changes e) = true := by
  rw [reply_modify hfind] at h
  by_contra hvalid
  rw [if_neg hvalid] at h
  cases h

/-- An update of a group that has its values changes nothing. -/
theorem apply_modify_same {s : Stores ρ} {dn : Dn ρ} {e : LdapAttrs ρ} {changes : AttrList ρ}
    (hfind : s.directory.find? dn = some e) (hsame : replaceAttrs changes e = e) (hvalid : b.valid dn e = true) :
    b.reply s (.modify dn changes) = 0 ∧ b.apply s (.modify dn changes) = s := by
  have hreply : b.reply s (.modify dn changes) = 0 := by
    rw [reply_modify hfind, hsame, if_pos hvalid]
  refine ⟨hreply, ?_⟩
  simp only [Backend.apply, if_pos hreply]
  rw [Directory.modify_eq_self hfind hsame]

theorem ensureGroupEntry_new {spec : GroupSpec ρ} {s : Stores ρ} (h : spec.dn ∉ s.directory.dns) :
    ensureGroupEntry b spec s =
      (if b.reply s (.add spec.dn spec.attrs) = 0 then .ok .created
        else .error (.seedGroupFailed spec.dn (b.reply s (.add spec.dn spec.attrs))), [.add spec.dn spec.attrs]) := by
  show (send b (.add spec.dn spec.attrs) >>= _) s = _
  rw [Prog.bind_ok (a := b.reply s (.add spec.dn spec.attrs)) rfl]
  have h68 : b.reply s (.add spec.dn spec.attrs) ≠ 68 := fun h68 => h ((reply_add_eq_68 _ _ _).1 h68)
  by_cases h0 : b.reply s (.add spec.dn spec.attrs) = 0
  · simp only [h0, if_true]
    rfl
  · simp only [if_neg h0, if_pos h68]
    rfl

theorem ensureGroupEntry_old {spec : GroupSpec ρ} {s : Stores ρ} (h : spec.dn ∈ s.directory.dns) :
    ensureGroupEntry b spec s =
      (if b.reply s (.modify spec.dn spec.changes) = 0 then .ok .updated
        else .error (.seedGroupUpdateFailed spec.dn (b.reply s (.modify spec.dn spec.changes))),
        [.add spec.dn spec.attrs, .modify spec.dn spec.changes]) := by
  show (send b (.add spec.dn spec.attrs) >>= _) s = _
  have hadd : (send b (.add spec.dn spec.attrs) s).1 = .ok 68 := congrArg Except.ok ((reply_add_eq_68 _ _ _).2 h)
  have hfinal : (send b (.add spec.dn spec.attrs)).final s = s := apply_add_exists h spec.attrs
  rw [Prog.bind_ok hadd, hfinal]
  show ((send b (.modify spec.dn spec.changes) >>= _) s |>.1, _ ++ ((send b (.modify spec.dn spec.changes) >>= _) s).2) = _
  rw [Prog.bind_ok (a := b.reply s (.modify spec.dn spec.changes)) rfl]
  by_cases h0 : b.reply s (.modify spec.dn spec.changes) = 0
  · simp only [h0, if_true]
    rfl
  · have hne : b.reply s (.modify spec.dn spec.changes) ≠ 0 := h0
    simp only [if_neg h0, if_pos hne]
    rfl

theorem final_ensureGroupEntry_new {spec : GroupSpec ρ} {s : Stores ρ} (h : spec.dn ∉ s.directory.dns) :
    (ensureGroupEntry b spec).final s = b.apply s (.add spec.dn spec.attrs) := by
  unfold Prog.final
  rw [ensureGroupEntry_new h]
  rfl

theorem final_ensureGroupEntry_old {spec : GroupSpec ρ} {s : Stores ρ} (h : spec.dn ∈ s.directory.dns) :
    (ensureGroupEntry b spec).final s = b.apply s (.modify spec.dn spec.changes) := by
  unfold Prog.final
  rw [ensureGroupEntry_old h, List.foldl_cons, apply_add_exists h]
  rfl

/-- The entry of a group after its step. -/
theorem find?_of_ensureGroupEntry {spec : GroupSpec ρ} {s : Stores ρ} {a : Seeded}
    (ha : (ensureGroupEntry b spec s).1 = .ok a) :
    (spec.dn ∉ s.directory.dns ∧ b.reply s (.add spec.dn spec.attrs) = 0 ∧
      ((ensureGroupEntry b spec).final s).directory.find? spec.dn = some (attributesOf spec.attrs)) ∨
    ∃ e, s.directory.find? spec.dn = some e ∧ b.valid spec.dn (replaceAttrs spec.changes e) = true ∧
      ((ensureGroupEntry b spec).final s).directory.find? spec.dn = some (replaceAttrs spec.changes e) := by
  by_cases h : spec.dn ∈ s.directory.dns
  · right
    obtain ⟨e, he⟩ := (Directory.mem_dns_iff _ _).1 h
    rw [ensureGroupEntry_old h] at ha
    have h0 : b.reply s (.modify spec.dn spec.changes) = 0 := by
      by_contra h0
      rw [if_neg h0] at ha
      cases ha
    refine ⟨e, he, valid_of_reply_modify he h0, ?_⟩
    rw [final_ensureGroupEntry_old h]
    exact apply_modify he h0
  · left
    rw [ensureGroupEntry_new h] at ha
    have h0 : b.reply s (.add spec.dn spec.attrs) = 0 := by
      by_contra h0
      rw [if_neg h0] at ha
      cases ha
    refine ⟨h, h0, ?_⟩
    rw [final_ensureGroupEntry_new h]
    exact apply_add h0

/-- **Bringing a group to its values can be done again.** -/
theorem redoable_ensureGroupEntry (spec : GroupSpec ρ) :
    Prog.Redoable (ensureGroupEntry b spec) (SeedStep.Holds b cfg (.group spec))
      (fun w => w ∈ [StoreWrite.add spec.dn spec.attrs, .modify spec.dn spec.changes]) := by
  have hdone : ∀ s, SeedStep.Holds b cfg (.group spec) s → (ensureGroupEntry b spec).Done s := by
    rintro s ⟨e, he, hsame, hvalid⟩
    have h : spec.dn ∈ s.directory.dns := (Directory.mem_dns_iff _ _).2 ⟨e, he⟩
    obtain ⟨h0, happly⟩ := apply_modify_same he hsame hvalid
    refine ⟨⟨.updated, by rw [ensureGroupEntry_old h, if_pos h0]⟩, ?_⟩
    rw [final_ensureGroupEntry_old h]
    exact happly
  have hends : ∀ s a, (ensureGroupEntry b spec s).1 = .ok a →
      SeedStep.Holds b cfg (.group spec) ((ensureGroupEntry b spec).final s) := by
    intro s a ha
    rcases find?_of_ensureGroupEntry ha with ⟨-, h0, hfind⟩ | ⟨e, -, hvalid, hfind⟩
    · exact ⟨_, hfind, replaceAttrs_attrs spec spec.member, (of_reply_add h0).2.2⟩
    · exact ⟨_, hfind, replaceAttrs_idem _ _, hvalid⟩
  refine ⟨fun s => Prog.recoverable_of_stops hdone (fun ws hws => ?_), hdone, hends, fun s w hw => ?_⟩
  · by_cases h : spec.dn ∈ s.directory.dns
    · -- The add is refused, so the update is all that changes anything.
      have hout := ensureGroupEntry_old (b := b) h
      rw [hout] at hws
      rcases List.prefix_cons_iff.1 hws with rfl | ⟨ws', rfl, hws'⟩
      · exact Or.inl rfl
      · rw [List.foldl_cons, apply_add_exists h]
        rcases List.prefix_cons_iff.1 hws' with rfl | ⟨ws'', rfl, hws''⟩
        · exact Or.inl rfl
        · rw [List.prefix_nil.1 hws'']
          by_cases h0 : b.reply s (.modify spec.dn spec.changes) = 0
          · have ha : (ensureGroupEntry b spec s).1 = .ok .updated := by rw [hout, if_pos h0]
            exact Or.inr ⟨⟨_, ha⟩, hends s _ ha, (final_ensureGroupEntry_old h).symm⟩
          · exact Or.inl (apply_modify_refused h0)
    · have hout := ensureGroupEntry_new (b := b) h
      rw [hout] at hws
      rcases List.prefix_cons_iff.1 hws with rfl | ⟨ws', rfl, hws'⟩
      · exact Or.inl rfl
      · rw [List.prefix_nil.1 hws']
        by_cases h0 : b.reply s (.add spec.dn spec.attrs) = 0
        · have ha : (ensureGroupEntry b spec s).1 = .ok .created := by rw [hout, if_pos h0]
          exact Or.inr ⟨⟨_, ha⟩, hends s _ ha, (final_ensureGroupEntry_new h).symm⟩
        · exact Or.inl (apply_add_refused h0)
  · by_cases h : spec.dn ∈ s.directory.dns
    · rw [ensureGroupEntry_old h] at hw
      exact hw
    · rw [ensureGroupEntry_new h] at hw
      exact List.mem_cons.2 (Or.inl (List.mem_singleton.1 hw))

theorem redoable_registerAgent (index : Nat) :
    Prog.Redoable (registerAgent b cfg index) (SeedStep.Holds b cfg (.agent index))
      (fun w => w ∈ SeedStep.writes b cfg (.agent index)) := by
  refine ((redoable_registerXmpp cfg (ahenkId index)).bind
    (redoable_addEntry (b := b) (agentDn b cfg (ahenkId index)) (agentAttrs b cfg index)
      (.ldapFailed (agentDn b cfg (ahenkId index)))) (fun s w _ hs => accounts_apply w hs)).mono
    (fun s => Iff.rfl) (fun w hw => ?_)
  rcases hw with rfl | rfl
  · exact List.mem_cons_self
  · exact List.mem_cons_of_mem _ List.mem_cons_self

variable (b cfg) in
/-- **Every step of the seed can be made again.** -/
theorem redoable_step (step : SeedStep ρ) :
    Prog.Redoable (step.run b cfg) (step.Holds b cfg) (fun w => w ∈ step.writes b cfg) := by
  have hone : ∀ {w w' : StoreWrite ρ}, w = w' → w ∈ [w'] := fun h => List.mem_singleton.2 h
  cases step with
  | root dn label => exact redoable_requireBaseEntry dn label _
  | user spec salt => exact (redoable_addEntry _ _ _).discard.mono (fun _ => Iff.rfl) (fun _ => hone)
  | group spec => exact (redoable_ensureGroupEntry spec).discard
  | role => exact (redoable_addEntry _ _ _).discard.mono (fun _ => Iff.rfl) (fun _ => hone)
  | agent index => exact (redoable_registerAgent index).discard

/-- What a step leaves stays under writes that leave its entry. -/
theorem SeedStep.keeps (step : SeedStep ρ) {W : StoreWrite ρ → Prop}
    (hremoves : ∀ w, W w → ¬ w.Removes (step.dn b cfg))
    (htouches : ∀ spec, step = .group spec → ∀ w, W w → ¬ w.Touches spec.dn) :
    Prog.Keeps b.apply W (step.Holds b cfg) := by
  intro s w hw hs
  cases step with
  | group spec =>
    obtain ⟨e, he, hsame, hvalid⟩ := hs
    exact ⟨e, find?_apply (htouches spec rfl w hw) he, hsame, hvalid⟩
  | agent index => exact ⟨accounts_apply w hs.1, mem_apply (hremoves w hw) hs.2⟩
  | root dn label => exact mem_apply (hremoves w hw) hs
  | user spec salt => exact mem_apply (hremoves w hw) hs
  | role => exact mem_apply (hremoves w hw) hs

omit [DecidableEq ρ] in
/-- The seed takes nothing away, and only a group's own step changes it. -/
theorem not_removes_of_mem_writes {step : SeedStep ρ} {w : StoreWrite ρ} (hw : w ∈ step.writes b cfg) (d : Dn ρ) :
    ¬ w.Removes d := by
  cases step with
  | root dn label => cases hw
  | user spec salt =>
    rw [List.mem_singleton.1 hw]
    exact id
  | group spec =>
    rcases List.mem_pair.1 hw with rfl | rfl <;> exact id
  | role =>
    rw [List.mem_singleton.1 hw]
    exact id
  | agent index =>
    rcases List.mem_pair.1 hw with rfl | rfl <;> exact id

omit [DecidableEq ρ] in
theorem touches_of_mem_writes {step : SeedStep ρ} {w : StoreWrite ρ} (hw : w ∈ step.writes b cfg) {d : Dn ρ}
    (htouches : w.Touches d) : ∃ spec, step = .group spec ∧ d = spec.dn := by
  cases step with
  | root dn label => cases hw
  | user spec salt =>
    rw [List.mem_singleton.1 hw] at htouches
    exact htouches.elim
  | group spec =>
    rcases List.mem_pair.1 hw with rfl | rfl
    · exact htouches.elim
    · exact ⟨spec, rfl, htouches⟩
  | role =>
    rw [List.mem_singleton.1 hw] at htouches
    exact htouches.elim
  | agent index =>
    rcases List.mem_pair.1 hw with rfl | rfl <;> exact htouches.elim

/-! ## A run as a loop over steps -/

variable (b cfg)

/-- The steps of the seed, in order. -/
def seedSteps (salts : Nat → String) : List (SeedStep ρ) :=
  [.root cfg.usersOu "user-root", .root cfg.ahenkOu "agent-root", .root cfg.groupsOu "user-group-root",
    .root cfg.agentGroupsOu "agent-group-root"] ++
  (operatorSpecs cfg ++ directoryUserSpecs cfg).zipIdx.map (fun spec => .user spec.1 (salts spec.2)) ++
  (userGroupSpecs b cfg).map .group ++
  [.root cfg.rolesOu "role-root", .root cfg.groupsOu "user-group-root", .role, .group (adminGroupSpec b cfg)] ++
  cfg.indices.map .agent ++
  (endpointGroupSpecs b cfg).map .group

theorem forEach_discard {α ι : Type} (p : ι → Provision b α) (is : List ι) :
    Prog.forEach (is.map (fun i => p i >>= fun _ => (pure () : Provision b Unit))) = Prog.forEach (is.map p) := by
  induction is with
  | nil => rfl
  | cons i is ih =>
    show (p i >>= fun _ => (pure () : Provision b Unit)) >>= (fun _ => Prog.forEach (is.map _)) = p i >>= fun _ => _
    rw [Prog.bind_assoc, ih]
    rfl

theorem ensureSeededDirectoryIdentity_eq (salts : Nat → String) :
    ensureSeededDirectoryIdentity b cfg salts =
      Prog.forEach ((operatorSpecs cfg ++ directoryUserSpecs cfg).zipIdx.map
        (fun spec => ensureSeedUser b cfg spec.1 (salts spec.2))) >>= fun _ =>
      Prog.forEach ((userGroupSpecs b cfg).map (ensureGroupEntry b)) := by
  unfold ensureSeededDirectoryIdentity
  simp only
  split
  · rename_i h
    rw [List.isEmpty_iff.1 h.1, List.isEmpty_iff.1 h.2]
    rfl
  · rfl

theorem ensureSeededEndpointGroups_eq :
    ensureSeededEndpointGroups b cfg = Prog.forEach ((endpointGroupSpecs b cfg).map (ensureGroupEntry b)) := by
  unfold ensureSeededEndpointGroups
  simp only
  split
  · rename_i h
    rw [List.isEmpty_iff.1 h]
    rfl
  · rfl

/-- **A run is the loop over its steps, the migration and the count.** -/
theorem provision_eq (salts : Nat → String) :
    provision b cfg salts = Prog.forEach ((seedSteps b cfg salts).map (SeedStep.run b cfg)) >>= fun _ =>
      migrateLegacyAgentGroupRoot b cfg >>= fun _ => verifyRegistrations b cfg >>= fun _ => pure () := by
  have hcons : ∀ (p : Provision b Unit) (ps : List (Provision b Unit)),
      Prog.forEach (p :: ps) = p >>= fun _ => Prog.forEach ps := fun _ _ => rfl
  have hnil : Prog.forEach ([] : List (Provision b Unit)) = pure () := rfl
  unfold provision seedSteps
  simp only [List.map_append, List.map_map, List.map_cons, List.map_nil, Prog.forEach_append, hcons, hnil,
    Prog.bind_assoc, Prog.pure_bind, ensureSeededDirectoryIdentity_eq, ensureSeededEndpointGroups_eq, ensureGroupTree,
    ensureRolesOu, Function.comp_def, SeedStep.run, forEach_discard]
  rfl

/-! ## The groups of a run -/

omit [DecidableEq ρ] in
theorem roundRobinMembers_eq_deal (dns : List (Dn ρ)) (k : Nat) : roundRobinMembers dns k = RoundRobin.deal dns k := rfl

omit [DecidableEq ρ] in
theorem name_of_dn {v w : String} {o o' : Dn ρ} (hv : SeedName v) (hw : SeedName w)
    (h : b.rdn .cn v :: o = b.rdn .cn w :: o') : v = w :=
  b.rdn_name hv hw (List.cons.inj h).1

omit [DecidableEq ρ] in
theorem dn_of_mem_userGroupSpecs {spec : GroupSpec ρ} (h : spec ∈ userGroupSpecs b cfg) :
    ∃ index, spec.dn = groupDn b cfg (userGroupName index) := by
  obtain ⟨index, -, rfl⟩ := List.mem_map.1 h
  exact ⟨index, rfl⟩

omit [DecidableEq ρ] in
theorem dn_of_mem_endpointGroupSpecs {spec : GroupSpec ρ} (h : spec ∈ endpointGroupSpecs b cfg) :
    ∃ index, spec.dn = agentGroupDn b cfg (endpointGroupName index) := by
  obtain ⟨index, -, hindex⟩ := List.mem_filterMap.1 h
  simp only at hindex
  split at hindex
  · cases hindex
  · cases hindex
    exact ⟨index, rfl⟩

/-- The groups of a run, in the order of their steps. -/
def groupSpecs : List (GroupSpec ρ) := userGroupSpecs b cfg ++ [adminGroupSpec b cfg] ++ endpointGroupSpecs b cfg

omit [DecidableEq ρ] in
/-- A group is named by its `cn`. -/
theorem named_of_mem_groupSpecs {g : GroupSpec ρ} (h : g ∈ groupSpecs b cfg) :
    SeedName g.cn ∧ ∃ root, g.dn = b.rdn .cn g.cn :: root := by
  simp only [groupSpecs, List.mem_append, List.mem_singleton] at h
  rcases h with (h | rfl) | h
  · obtain ⟨index, -, rfl⟩ := List.mem_map.1 h
    exact ⟨.userGroup index, _, rfl⟩
  · exact ⟨.admins, _, rfl⟩
  · obtain ⟨index, -, hindex⟩ := List.mem_filterMap.1 h
    simp only at hindex
    split at hindex
    · cases hindex
    · cases hindex
      exact ⟨.endpointGroup index, _, rfl⟩

omit [DecidableEq ρ] in
theorem cn_of_mem_endpointGroupSpecs {spec : GroupSpec ρ} (h : spec ∈ endpointGroupSpecs b cfg) :
    ∃ index, spec.cn = endpointGroupName index := by
  obtain ⟨index, -, hindex⟩ := List.mem_filterMap.1 h
  simp only at hindex
  split at hindex
  · cases hindex
  · cases hindex
    exact ⟨index, rfl⟩

omit [DecidableEq ρ] in
/-- **No two groups have one name.** -/
theorem groupSpecs_names : (groupSpecs b cfg).Pairwise (fun g g' => g.cn ≠ g'.cn) := by
  have huser : (userGroupSpecs b cfg).Pairwise (fun g g' => g.cn ≠ g'.cn) :=
    List.pairwise_map.2 (List.nodup_range.imp (fun hne h => hne (userGroupName_injective h)))
  have hendpoint : (endpointGroupSpecs b cfg).Pairwise (fun g g' => g.cn ≠ g'.cn) := by
    refine List.pairwise_filterMap.2 (List.nodup_range.imp (fun {i j} hne g hg g' hg' h => hne ?_))
    simp only at hg hg'
    split at hg
    · cases hg
    · split at hg'
      · cases hg'
      · cases hg
        cases hg'
        exact endpointGroupName_injective h
  unfold groupSpecs
  rw [List.pairwise_append, List.pairwise_append]
  refine ⟨⟨huser, List.pairwise_singleton _ _, fun g hg g' hg' h => ?_⟩, hendpoint, fun g hg g' hg' h => ?_⟩
  · obtain ⟨i, -, rfl⟩ := List.mem_map.1 hg
    rw [List.mem_singleton.1 hg'] at h
    exact (userGroupName_ne i 0).2.1 h
  · obtain ⟨j, hj⟩ := cn_of_mem_endpointGroupSpecs b cfg hg'
    rcases List.mem_append.1 hg with hg | hg
    · obtain ⟨i, -, rfl⟩ := List.mem_map.1 hg
      exact (userGroupName_ne i j).1 (h.trans hj)
    · rw [List.mem_singleton.1 hg] at h
      exact (userGroupName_ne 0 j).2.2 (h.trans hj).symm

omit [DecidableEq ρ] in
theorem groupSpecs_distinct : (groupSpecs b cfg).Pairwise (fun g g' => g.dn ≠ g'.dn) := by
  refine (groupSpecs_names b cfg).imp_of_mem (fun hg hg' hne h => hne ?_)
  obtain ⟨hname, root, hdn⟩ := named_of_mem_groupSpecs b cfg hg
  obtain ⟨hname', root', hdn'⟩ := named_of_mem_groupSpecs b cfg hg'
  rw [hdn, hdn'] at h
  exact name_of_dn b hname hname' h

/-- The group of a step. -/
def SeedStep.group? {ρ : Type} : SeedStep ρ → Option (GroupSpec ρ)
  | .group spec => some spec
  | _ => none

omit [DecidableEq ρ] in
theorem groups_of_seedSteps (salts : Nat → String) :
    (seedSteps b cfg salts).filterMap SeedStep.group? = groupSpecs b cfg := by
  have hgroups : ∀ specs : List (GroupSpec ρ), (specs.map SeedStep.group).filterMap SeedStep.group? = specs := by
    intro specs
    rw [List.filterMap_map]
    exact List.filterMap_some
  have hnone : ∀ {ι : Type} (f : ι → SeedStep ρ) (is : List ι), (∀ i, (f i).group? = none) →
      (is.map f).filterMap SeedStep.group? = [] := by
    intro ι f is hf
    rw [List.filterMap_map]
    exact List.filterMap_eq_nil_iff.2 (fun i _ => hf i)
  unfold seedSteps groupSpecs
  simp only [List.filterMap_append, hgroups]
  rw [hnone _ _ (fun _ => rfl), hnone _ _ (fun _ => rfl)]
  simp [List.filterMap_cons, SeedStep.group?]

/-- **What a step leaves, the later steps keep.** -/
theorem seedSteps_keep (salts : Nat → String) : (seedSteps b cfg salts).Pairwise
    (fun step later => Prog.Keeps b.apply (fun w => w ∈ later.writes b cfg) (step.Holds b cfg)) := by
  have hdistinct := groupSpecs_distinct b cfg
  rw [← groups_of_seedSteps b cfg salts, List.pairwise_filterMap] at hdistinct
  refine hdistinct.imp (fun {step later} h => ?_)
  refine step.keeps (fun w hw => not_removes_of_mem_writes hw _) (fun spec hspec w hw htouches => ?_)
  obtain ⟨spec', hspec', hdn⟩ := touches_of_mem_writes hw htouches
  subst hspec
  subst hspec'
  exact h spec rfl spec' rfl hdn

/-- **The seed can be made again.** -/
theorem redoable_seed (salts : Nat → String) :
    Prog.Redoable (Prog.forEach ((seedSteps b cfg salts).map (SeedStep.run b cfg)))
      (fun s => ∀ step ∈ seedSteps b cfg salts, step.Holds b cfg s)
      (fun w => ∃ step ∈ seedSteps b cfg salts, w ∈ step.writes b cfg) :=
  Prog.redoable_forEach _ (fun step _ => redoable_step b cfg step) (seedSteps_keep b cfg salts)

end

end Lider
