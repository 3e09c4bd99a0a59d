import LiderPlatform.Collector
import LiderPlatform.PySorted
/-!
# AgentIndex — who an ahenk container is (`services/ahenk/entrypoint.sh`)

A container without `AGENT_INDEX` asks docker for the project's ahenk containers, sorts them by container number and
takes its place in that list.  The answer is what exists at that moment, so two containers that look at different times
can take the same place (`replacedSibling_sameIndex`).  As long as a container that looks finds the others where they
found themselves, no two running containers have the same index (`runningIndices_distinct`).
-/
namespace Lider

open Py

/-! ## The entrypoint -/

/-- One entry of docker's answer. -/
structure ContainerItem where
  id : Option Text
  labels : Option (List (String × Text))

/-- `int(raw)` of a decimal text; of another text a parameter. -/
def intOfText (otherInt : Text → Option Int) (raw : Text) : Option Int :=
  if raw ≠ [] ∧ raw.all Char.isDigit then some (Nat.ofDigitChars 10 raw 0) else otherInt raw

section
variable (otherInt : Text → Option Int)

def containerNumber (item : ContainerItem) : Int :=
  let raw := ((item.labels.getD []).lookup "com.docker.compose.container-number").getD ['0']
  (intOfText otherInt raw).getD 0

/-- The script in the entrypoint: the place, from 1, of the container that `HOSTNAME` begins the id of. -/
def rankedIndex (hostname : Text) (containers : List ContainerItem) : Option Nat :=
  let containerId := strip hostname
  if containerId = [] then none
  else ((sortedBy (containerNumber otherInt) containers).findIdx? (fun item =>
    containerId.isPrefixOf (strip (item.id.getD [])))).map (· + 1)

/-- `CONTAINER_NUM`: the last piece of the host name, between hyphens, that is a number; else 1. -/
def hostnameIndex (hostname : Text) : Nat :=
  (((hostname.splitOn '-').filter (fun piece => piece ≠ [] ∧ piece.all Char.isDigit)).getLast?.map
    (fun piece => Nat.ofDigitChars 10 piece 0)).getD 1

/-- The resolution of `AGENT_INDEX`, with docker's answer when the socket answers. -/
def agentIndex (agentIndexEnv : Option Nat) (hostname : Text) (answer : Option (List ContainerItem)) : Nat :=
  agentIndexEnv.getD ((answer.bind (rankedIndex otherInt hostname)).getD (hostnameIndex hostname))

end

/-! ## The containers of the service -/

def hexDigits : Text := "0123456789abcdef".toList

/-- A container id: 64 hexadecimal digits. -/
abbrev ContainerId := {text : Text // text.length = 64 ∧ ∀ c ∈ text, c ∈ hexDigits}

structure Container where
  id : ContainerId
  number : Nat
deriving DecidableEq

/-- Docker names the host after the first digits of the id. -/
def Container.hostname (c : Container) : Text := c.id.val.take 12

/-- What docker answers about a container. -/
def Container.item (c : Container) : ContainerItem :=
  ⟨some c.id.val, some [("com.docker.compose.container-number", Nat.toDigits 10 c.number)]⟩

/-- A container is stopped, has been started, or runs with an index it took from an answer. -/
inductive RunState where
  | stopped
  | started
  | running (index : Nat) (seen : List Container)
deriving DecidableEq

structure Deployed where
  container : Container
  state : RunState
deriving DecidableEq

/-- The ahenk containers that exist. -/
abbrev Deployment := List Deployed

def Deployment.containers (s : Deployment) : List Container := s.map Deployed.container

inductive DeployAction where
  | create (c : Container)
  | remove (id : ContainerId)
  | stop (id : ContainerId)
  | start (id : ContainerId)
  /-- The entrypoint of a started container, with docker's answer. -/
  | look (id : ContainerId) (answer : List Container)

/-- The state of one container set. -/
def Deployment.setState (s : Deployment) (id : ContainerId) (state : Deployed → RunState) : Deployment :=
  s.map (fun d => if d.container.id = id then { d with state := state d } else d)

def Deployed.index (otherInt : Text → Option Int) (answer : List Container) (d : Deployed) : Nat :=
  agentIndex otherInt none d.container.hostname (some (answer.map Container.item))

/-- One step, when it can happen: compose gives a new container a number of its own, docker an id of its own; docker
answers with the containers that exist, in its order. -/
def DeployAction.step (otherInt : Text → Option Int) (s : Deployment) : DeployAction → Option Deployment
  | .create c =>
    if ∀ d ∈ s, d.container.number ≠ c.number ∧ d.container.id ≠ c.id then some (s ++ [⟨c, .stopped⟩]) else none
  | .remove id => some (s.filter (fun d => d.container.id ≠ id))
  | .stop id => some (s.setState id (fun _ => .stopped))
  | .start id => some (s.setState id (fun d => if d.state = .stopped then .started else d.state))
  | .look id answer =>
    if answer.Perm s.containers then
      some (s.setState id (fun d => if d.state = .started then .running (d.index otherInt answer) answer else d.state))
    else none

def deploymentRun (otherInt : Text → Option Int) : List DeployAction → Deployment → Option Deployment
  | [], s => some s
  | a :: as, s => (a.step otherInt s).bind (deploymentRun otherInt as)

/-- No two running containers have the same index. -/
def IndicesDistinct (s : Deployment) : Prop :=
  ∀ d ∈ s, ∀ d' ∈ s, ∀ i seen seen', d.state = .running i seen → d'.state = .running i seen' → d = d'

/-- A running container is where it was when it looked: as many containers have a lower number. -/
def Deployed.PlaceKept (s : Deployment) (d : Deployed) : Prop :=
  match d.state with
  | .running _ seen => rank Container.number s.containers d.container.number =
      rank Container.number seen d.container.number
  | _ => True

instance (s : Deployment) : DecidablePred (Deployed.PlaceKept s)
  | ⟨_, .stopped⟩ | ⟨_, .started⟩ => inferInstanceAs (Decidable True)
  | ⟨c, .running _ seen⟩ =>
    inferInstanceAs (Decidable (rank Container.number s.containers c.number = rank Container.number seen c.number))

/-- Short ids tell the containers apart, and every running one is where it was when it looked. -/
def PlacesKept (s : Deployment) : Prop :=
  (s.containers.map Container.hostname).Nodup ∧ ∀ d ∈ s, d.PlaceKept s

instance (s : Deployment) : Decidable (PlacesKept s) := inferInstanceAs (Decidable (_ ∧ _))

def DeployAction.InPlace (s : Deployment) : DeployAction → Prop
  | .look .. => PlacesKept s
  | _ => True

instance (s : Deployment) : DecidablePred (DeployAction.InPlace s)
  | .look .. => inferInstanceAs (Decidable (PlacesKept s))
  | .create _ | .remove _ | .stop _ | .start _ => inferInstanceAs (Decidable True)

/-- Whenever a container looks, the places are kept. -/
def LooksInPlace (otherInt : Text → Option Int) : List DeployAction → Deployment → Prop
  | [], _ => True
  | a :: as, s => a.InPlace s ∧ ∀ s' ∈ a.step otherInt s, LooksInPlace otherInt as s'

instance decidableLooksInPlace (otherInt : Text → Option Int) : ∀ (as : List DeployAction) (s : Deployment),
    Decidable (LooksInPlace otherInt as s)
  | [], _ => inferInstanceAs (Decidable True)
  | a :: as, s =>
    have := decidableLooksInPlace otherInt as
    inferInstanceAs (Decidable (a.InPlace s ∧ ∀ s' ∈ a.step otherInt s, LooksInPlace otherInt as s'))

/-! ## What a container reads off an answer -/

theorem isSpace_hexDigits : ∀ c ∈ hexDigits, isSpace c = false := by decide

theorem strip_eq_self {cs : Text} (h : ∀ c ∈ cs, isSpace c = false) : strip cs = cs := by
  have hdrop : cs.dropWhile isSpace = cs := by
    cases cs with
    | nil => rfl
    | cons c cs => simp [h c List.mem_cons_self]
  rw [strip, hdrop, List.rdropWhile_eq_self_iff]
  intro hne
  simp [h _ (List.getLast_mem hne)]

theorem ContainerId.strip_eq (id : ContainerId) : strip id.val = id.val :=
  strip_eq_self (fun c hc => isSpace_hexDigits c (id.property.2 c hc))

theorem Container.strip_hostname (c : Container) : strip c.hostname = c.hostname :=
  strip_eq_self (fun ch hc => isSpace_hexDigits ch (c.id.property.2 ch (List.mem_of_mem_take hc)))

theorem Container.hostname_ne_nil (c : Container) : c.hostname ≠ [] := by
  intro h
  have hlen := congrArg List.length h
  simp [Container.hostname, c.id.property.1] at hlen

/-- A host name begins the ids of the containers with that host name. -/
theorem Container.isPrefixOf_iff (c c' : Container) : c.hostname.isPrefixOf c'.id.val = true ↔ c'.hostname = c.hostname := by
  have hlen : c.hostname.length = 12 := by simp [Container.hostname, c.id.property.1]
  rw [List.isPrefixOf_iff_prefix, List.prefix_iff_eq_take, hlen, Container.hostname]
  exact eq_comm

section
variable (otherInt : Text → Option Int)

theorem containerNumber_item (c : Container) : containerNumber otherInt c.item = c.number := by
  have hdigits : Nat.toDigits 10 c.number ≠ [] ∧ (Nat.toDigits 10 c.number).all Char.isDigit = true :=
    ⟨by rcases toDigits_head c.number with h | ⟨ch, cs, h, -⟩ <;> rw [h] <;> simp,
      List.all_eq_true.2 (fun _ hc => Nat.isDigit_of_mem_toDigits (by decide) (by decide) hc)⟩
  show (intOfText otherInt (Nat.toDigits 10 c.number)).getD 0 = c.number
  rw [intOfText, if_pos hdigits, Nat.ofDigitChars_toDigits (by decide) (by decide)]
  rfl

theorem rank_items (answer : List Container) (n : Nat) :
    rank (containerNumber otherInt) (answer.map Container.item) n = rank Container.number answer n := by
  rw [rank, rank, List.countP_map]
  congr 1
  funext c
  simp [containerNumber_item]

/-- **A container finds itself at its rank among the numbers.** -/
theorem rankedIndex_item {answer : List Container} {c : Container} (hc : c ∈ answer)
    (hnumbers : (answer.map Container.number).Nodup) (hhost : (answer.map Container.hostname).Nodup) :
    rankedIndex otherInt c.hostname (answer.map Container.item) = some (rank Container.number answer c.number + 1) := by
  have hkeys : ((answer.map Container.item).map (containerNumber otherInt)).Nodup := by
    have hmap : (answer.map Container.item).map (containerNumber otherInt) =
        (answer.map Container.number).map (Int.ofNat) := by
      rw [List.map_map, List.map_map]
      exact List.map_congr_left (fun c _ => containerNumber_item otherInt c)
    rw [hmap]
    exact hnumbers.map (fun a b h => by simpa using h)
  have hself : c.hostname.isPrefixOf (strip (c.item.id.getD [])) = true := by
    show c.hostname.isPrefixOf (strip c.id.val) = true
    rw [ContainerId.strip_eq, Container.isPrefixOf_iff]
  have honly : ∀ item ∈ answer.map Container.item, c.hostname.isPrefixOf (strip (item.id.getD [])) = true →
      item = c.item := by
    intro item hitem hprefix
    obtain ⟨c', hc', rfl⟩ := List.mem_map.1 hitem
    have hhost' : c'.hostname = c.hostname := by
      rw [← Container.isPrefixOf_iff, ← ContainerId.strip_eq c'.id]
      exact hprefix
    rw [List.inj_on_of_nodup_map hhost hc' hc hhost']
  rw [rankedIndex, Container.strip_hostname, if_neg c.hostname_ne_nil,
    findIdx_sortedBy (List.mem_map_of_mem hc) hkeys hself honly, containerNumber_item, rank_items]
  rfl

/-! ## Steps -/

/-- Numbers and ids tell the containers apart, and an index is the rank in the answer it was taken from. -/
structure Deployment.Sound (s : Deployment) : Prop where
  numbers : (s.containers.map Container.number).Nodup
  ids : (s.containers.map Container.id).Nodup
  indices : ∀ d ∈ s, ∀ i seen, d.state = .running i seen → i = rank Container.number seen d.container.number + 1

theorem containers_setState (s : Deployment) (id : ContainerId) (state : Deployed → RunState) :
    (s.setState id state).containers = s.containers := by
  rw [Deployment.containers, Deployment.setState, List.map_map]
  refine List.map_congr_left (fun d _ => ?_)
  show (if d.container.id = id then { d with state := state d } else d).container = d.container
  split <;> rfl

/-- What a container set to a state was. -/
theorem mem_setState {s : Deployment} {id : ContainerId} {state : Deployed → RunState} {d : Deployed}
    (hd : d ∈ s.setState id state) :
    ∃ d₀ ∈ s, d.container = d₀.container ∧
      d.state = if d₀.container.id = id then state d₀ else d₀.state := by
  obtain ⟨d₀, hd₀, rfl⟩ := List.mem_map.1 hd
  refine ⟨d₀, hd₀, ?_⟩
  by_cases h : d₀.container.id = id <;> simp [h]

/-- Containers are known by their ids. -/
theorem Deployment.Sound.ext {s : Deployment} (h : s.Sound) {d d' : Deployed} (hd : d ∈ s) (hd' : d' ∈ s)
    (hc : d.container = d'.container) : d = d' := by
  have hnodup : (s.map (fun d => d.container.id)).Nodup := by
    have := h.ids
    rwa [Deployment.containers, List.map_map] at this
  exact List.inj_on_of_nodup_map hnodup hd hd' (congrArg Container.id hc)

/-- A step that starts nothing new keeps what is sound: the containers are some of those before, with their states, or
are not running. -/
theorem Deployment.Sound.of_subset {s s' : Deployment} (h : s.Sound)
    (hsub : s'.containers.Sublist s.containers)
    (hstates : ∀ d ∈ s', (∃ d₀ ∈ s, d = d₀) ∨ ∀ i seen, d.state ≠ .running i seen) : s'.Sound where
  numbers := h.numbers.sublist (hsub.map _)
  ids := h.ids.sublist (hsub.map _)
  indices d hd i seen hrun := by
    rcases hstates d hd with ⟨d₀, hd₀, rfl⟩ | hno
    · exact h.indices d hd₀ i seen hrun
    · exact absurd hrun (hno i seen)

theorem IndicesDistinct.of_subset {s s' : Deployment} (h : IndicesDistinct s)
    (hstates : ∀ d ∈ s', (∃ d₀ ∈ s, d = d₀) ∨ ∀ i seen, d.state ≠ .running i seen) : IndicesDistinct s' := by
  intro d hd d' hd' i seen seen' hrun hrun'
  rcases hstates d hd with ⟨d₀, hd₀, rfl⟩ | hno
  · rcases hstates d' hd' with ⟨d₁, hd₁, rfl⟩ | hno'
    · exact h d hd₀ d' hd₁ i seen seen' hrun hrun'
    · exact absurd hrun' (hno' i seen')
  · exact absurd hrun (hno i seen)

theorem Deployment.Sound.create {s : Deployment} (h : s.Sound) {c : Container}
    (hnew : ∀ d ∈ s, d.container.number ≠ c.number ∧ d.container.id ≠ c.id) :
    Deployment.Sound (s ++ [⟨c, .stopped⟩]) where
  numbers := by
    rw [Deployment.containers, List.map_append, List.map_append]
    refine List.Nodup.append h.numbers (List.nodup_singleton _) (fun n hn hm => ?_)
    obtain ⟨c', hc', rfl⟩ := List.mem_map.1 hn
    obtain ⟨d, hd, rfl⟩ := List.mem_map.1 hc'
    exact (hnew d hd).1 (by simpa using hm)
  ids := by
    rw [Deployment.containers, List.map_append, List.map_append]
    refine List.Nodup.append h.ids (List.nodup_singleton _) (fun n hn hm => ?_)
    obtain ⟨c', hc', rfl⟩ := List.mem_map.1 hn
    obtain ⟨d, hd, rfl⟩ := List.mem_map.1 hc'
    exact (hnew d hd).2 (by simpa using hm)
  indices d hd i seen hrun := by
    rcases List.mem_append.1 hd with hd | hd
    · exact h.indices d hd i seen hrun
    · rw [List.mem_singleton] at hd
      rw [hd] at hrun
      cases hrun

/-- A state that is not running, or the one before. -/
theorem setState_states {s : Deployment} (id : ContainerId) (state : Deployed → RunState)
    (hstate : ∀ d ∈ s, state d = d.state ∨ ∀ i seen, state d ≠ .running i seen) :
    ∀ d ∈ s.setState id state, (∃ d₀ ∈ s, d = d₀) ∨ ∀ i seen, d.state ≠ .running i seen := by
  rintro ⟨c, st⟩ hd
  obtain ⟨d₀, hd₀, rfl, rfl⟩ := mem_setState hd
  by_cases hid : d₀.container.id = id
  · rcases hstate d₀ hd₀ with h | h
    · exact Or.inl ⟨d₀, hd₀, by simp [hid, h]⟩
    · exact Or.inr (by simpa [hid] using h)
  · exact Or.inl ⟨d₀, hd₀, by simp [hid]⟩

/-- The index a started container takes. -/
theorem index_eq {s : Deployment} (hs : s.Sound) (hhost : (s.containers.map Container.hostname).Nodup)
    {answer : List Container} (hperm : answer.Perm s.containers) {d : Deployed} (hd : d ∈ s) :
    d.index otherInt answer = rank Container.number answer d.container.number + 1 := by
  have hmem : d.container ∈ answer := hperm.mem_iff.2 (List.mem_map_of_mem hd)
  have hranked := rankedIndex_item otherInt hmem ((hperm.map _).nodup_iff.2 hs.numbers)
    ((hperm.map _).nodup_iff.2 hhost)
  simp [Deployed.index, agentIndex, hranked]

/-- **A look at kept places gives an index that no other running container has.** -/
theorem look_keeps {s : Deployment} (hs : s.Sound) (hplaces : PlacesKept s) (id : ContainerId)
    {answer : List Container} (hperm : answer.Perm s.containers) :
    let s' := s.setState id (fun d => if d.state = .started then .running (d.index otherInt answer) answer else d.state)
    s'.Sound ∧ IndicesDistinct s' := by
  intro s'
  have hcontainers : s'.containers = s.containers := containers_setState s id _
  -- Every running container's index is its rank among the containers that exist now.
  have hnow : ∀ d ∈ s', ∀ i seen, d.state = .running i seen →
      i = rank Container.number seen d.container.number + 1 ∧
        i = rank Container.number s.containers d.container.number + 1 := by
    intro d hd i seen hrun
    obtain ⟨d₀, hd₀, hc, hstate⟩ := mem_setState hd
    rw [hc]
    rw [hrun] at hstate
    have hold : d₀.state = .running i seen → i = rank Container.number seen d₀.container.number + 1 ∧
        i = rank Container.number s.containers d₀.container.number + 1 := by
      intro h
      have hplace := hplaces.2 d₀ hd₀
      rw [Deployed.PlaceKept, h] at hplace
      exact ⟨hs.indices d₀ hd₀ i seen h, by rw [hplace]; exact hs.indices d₀ hd₀ i seen h⟩
    by_cases hid : d₀.container.id = id
    · rw [if_pos hid] at hstate
      by_cases hst : d₀.state = .started
      · rw [if_pos hst] at hstate
        cases hstate
        rw [index_eq otherInt hs hplaces.1 hperm hd₀]
        exact ⟨rfl, by rw [rank_perm hperm]⟩
      · rw [if_neg hst] at hstate
        exact hold hstate.symm
    · rw [if_neg hid] at hstate
      exact hold hstate.symm
  have hsound : s'.Sound :=
    ⟨by rw [hcontainers]; exact hs.numbers, by rw [hcontainers]; exact hs.ids,
      fun d hd i seen hrun => (hnow d hd i seen hrun).1⟩
  refine ⟨hsound, fun d hd d' hd' i seen seen' hrun hrun' => ?_⟩
  have hrank := (hnow d hd i seen hrun).2.symm.trans (hnow d' hd' i seen' hrun').2
  have hmem : d.container ∈ s.containers := hcontainers ▸ List.mem_map_of_mem hd
  have hmem' : d'.container ∈ s.containers := hcontainers ▸ List.mem_map_of_mem hd'
  have hnumber : d.container.number = d'.container.number := by
    rcases lt_trichotomy d.container.number d'.container.number with h | h | h
    · have := rank_lt hmem h
      omega
    · exact h
    · have := rank_lt hmem' h
      omega
  exact hsound.ext hd hd' (List.inj_on_of_nodup_map hs.numbers hmem hmem' hnumber)

/-- **What one step keeps.** -/
theorem step_keeps {s s' : Deployment} {a : DeployAction} (hstep : a.step otherInt s = some s') (hs : s.Sound)
    (hdistinct : IndicesDistinct s) (hlook : a.InPlace s) :
    s'.Sound ∧ IndicesDistinct s' := by
  cases a with
  | create c =>
    simp only [DeployAction.step, Option.ite_none_right_eq_some, Option.some.injEq] at hstep
    obtain ⟨hnew, rfl⟩ := hstep
    refine ⟨hs.create hnew, hdistinct.of_subset (fun d hd => ?_)⟩
    rcases List.mem_append.1 hd with hd | hd
    · exact Or.inl ⟨d, hd, rfl⟩
    · rw [List.mem_singleton] at hd
      exact Or.inr (by rw [hd]; nofun)
  | remove id =>
    cases hstep
    have hstates : ∀ d ∈ s.filter (fun d => d.container.id ≠ id),
        (∃ d₀ ∈ s, d = d₀) ∨ ∀ i seen, d.state ≠ .running i seen :=
      fun d hd => Or.inl ⟨d, (List.mem_filter.1 hd).1, rfl⟩
    exact ⟨hs.of_subset (List.filter_sublist.map _) hstates, hdistinct.of_subset hstates⟩
  | stop id =>
    cases hstep
    have hstates := setState_states id (fun _ => .stopped) (fun (d : Deployed) (_ : d ∈ s) => Or.inr nofun)
    exact ⟨hs.of_subset (by rw [containers_setState]) hstates, hdistinct.of_subset hstates⟩
  | start id =>
    cases hstep
    have hstates := setState_states id (fun d => if d.state = .stopped then .started else d.state)
      (fun (d : Deployed) (_ : d ∈ s) => by
        by_cases h : d.state = .stopped
        · exact Or.inr (by simp [h])
        · exact Or.inl (by simp [h]))
    exact ⟨hs.of_subset (by rw [containers_setState]) hstates, hdistinct.of_subset hstates⟩
  | look id answer =>
    simp only [DeployAction.step, Option.ite_none_right_eq_some, Option.some.injEq] at hstep
    obtain ⟨hperm, rfl⟩ := hstep
    exact look_keeps otherInt hs hlook id hperm

/-- What a run keeps. -/
theorem run_keeps : ∀ (as : List DeployAction) (s s' : Deployment), s.Sound → IndicesDistinct s →
    LooksInPlace otherInt as s → deploymentRun otherInt as s = some s' → s'.Sound ∧ IndicesDistinct s'
  | [], s, s', hs, hdistinct, _, hrun => by
    cases hrun
    exact ⟨hs, hdistinct⟩
  | a :: as, s, s', hs, hdistinct, hlooks, hrun => by
    rw [deploymentRun, Option.bind_eq_some_iff] at hrun
    obtain ⟨s₁, hstep, hrun⟩ := hrun
    obtain ⟨hs₁, hdistinct₁⟩ := step_keeps otherInt hstep hs hdistinct hlooks.1
    exact run_keeps as s₁ s' hs₁ hdistinct₁ (hlooks.2 s₁ hstep) hrun

end

/-- **In a run whose looks are taken at kept places, no two running containers ever have the same index**, nor the same
agent id. -/
theorem runningIndices_distinct (otherInt : Text → Option Int) (actions : List DeployAction) (s : Deployment)
    (hrun : deploymentRun otherInt actions [] = some s) (hlooks : LooksInPlace otherInt actions []) :
    ∀ d ∈ s, ∀ d' ∈ s, ∀ i i' seen seen', d.state = .running i seen → d'.state = .running i' seen' → d ≠ d' →
      i ≠ i' ∧ ahenkId i ≠ ahenkId i' := by
  have hempty : Deployment.Sound [] := ⟨List.nodup_nil, List.nodup_nil, nofun⟩
  have h := (run_keeps otherInt actions [] s hempty nofun hlooks hrun).2
  intro d hd d' hd' i i' seen seen' hi hi' hne
  have hindex : i ≠ i' := fun heq => hne (h d hd d' hd' i seen seen' hi (heq ▸ hi'))
  exact ⟨hindex, fun hid => hindex (ahenkId_injective _ _ hid)⟩

/-! ## A sibling replaced -/

def sampleId (digit : Char) (h : digit ∈ hexDigits) : ContainerId :=
  ⟨List.replicate 64 digit, List.length_replicate, fun _ hc => List.eq_of_mem_replicate hc ▸ h⟩

def sibling1 : Container := ⟨sampleId '1' (by decide), 1⟩
def sibling2 : Container := ⟨sampleId '2' (by decide), 2⟩
def sibling3 : Container := ⟨sampleId '3' (by decide), 3⟩

/-- Two containers that start and look. -/
def twoSiblings : List DeployAction :=
  [.create sibling1, .create sibling2, .start sibling1.id, .start sibling2.id, .look sibling1.id [sibling2, sibling1],
    .look sibling2.id [sibling2, sibling1]]

theorem twoSiblings_distinct : ∃ s, deploymentRun (fun _ => none) twoSiblings [] = some s ∧
    ∀ d ∈ s, ∀ d' ∈ s, ∀ i i' seen seen', d.state = .running i seen → d'.state = .running i' seen' → d ≠ d' →
      i ≠ i' ∧ ahenkId i ≠ ahenkId i' := by
  have hrun : (deploymentRun (fun _ => none) twoSiblings []).isSome = true := by decide +kernel
  have hlooks : LooksInPlace (fun _ => none) twoSiblings [] := by decide +kernel
  obtain ⟨s, hs⟩ := Option.isSome_iff_exists.1 hrun
  exact ⟨s, hs, runningIndices_distinct (fun _ => none) twoSiblings s hs hlooks⟩

/-- The first of them is removed, and a third one is created, started, and looks. -/
def replacedSibling : List DeployAction :=
  twoSiblings ++ [.remove sibling1.id, .create sibling3, .start sibling3.id, .look sibling3.id [sibling3, sibling2]]

/-- **The second and the third container both run as `ahenk-002`.** -/
theorem replacedSibling_sameIndex : deploymentRun (fun _ => none) replacedSibling [] =
    some [⟨sibling2, .running 2 [sibling2, sibling1]⟩, ⟨sibling3, .running 2 [sibling3, sibling2]⟩] := by
  decide +kernel

end Lider
