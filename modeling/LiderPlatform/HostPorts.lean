import LiderPlatform.PyInts
import LiderPlatform.AgentIdentity
/-!
# HostPorts — the host ports a compose stack declares (`bootstrap_runtime.py`)

Before the first compose phase the bootstrap script collects the host ports of all services.  It takes a short mapping
`[HOST:]PUBLISHED:TARGET[/PROTOCOL]` apart at every colon, and an IPv6 host holds colons of its own.
`hostPorts_iff` says which mappings are read as they are written, and for which stacks none is lost; a port is read
by `int`, up to the interpreter's limit of digits.
-/
namespace Lider

open Py

/-! ## The script -/

structure HostBinding where
  host : String
  port : Int
deriving DecidableEq

structure ComposeService where
  name : String
  ports : Option (List Json)

/-- A compose file as it is read; the lists are `none` when the keys are missing or empty. -/
structure ComposeFile where
  path : String
  services : Option (List ComposeService)

structure DeclaredBinding where
  service : String
  host : String
  port : Int
  source : String
deriving DecidableEq

def DeclaredBinding.key (b : DeclaredBinding) : String × String × Int := (b.service, b.host, b.port)

section
variable (repr : Json → String) (it : IntText)

def parseHostPortBinding : Json → Except IntError (Option HostBinding)
  | .obj mapping =>
    let published := Dict.get mapping "published"
    if published.isNone then .ok none
    else do
      let host := pyStr repr ((Dict.get mapping "host_ip").orElse ((Dict.get mapping "hostIp").orElse
        ((Dict.get mapping "host").orElse (.str "0.0.0.0"))))
      let port ← intOfJson it published
      return some ⟨host, port⟩
  | .str text =>
    match (splitHead '/' text.toList).splitOn ':' with
    | [] => .ok none
    | [_] => .ok none
    | [published, _] => do
      let port ← intOfJson it (.str (String.ofList published))
      return some ⟨"0.0.0.0", port⟩
    | host :: published :: _ => do
      let port ← intOfJson it (.str (String.ofList published))
      return some ⟨String.ofList host, port⟩
  | _ => .ok none

/-- The body of the innermost loop; `seen` holds the keys of `bindings`. -/
def declareBinding (bindings : List DeclaredBinding) (item : String × String × Json) :
    Except IntError (List DeclaredBinding) := do
  let (source, service, portMapping) := item
  match ← parseHostPortBinding repr it portMapping with
  | none => return bindings
  | some binding =>
    let declared : DeclaredBinding := ⟨service, binding.host, binding.port, source⟩
    if declared.key ∈ bindings.map DeclaredBinding.key then return bindings else return bindings ++ [declared]

/-- The port mappings of a stack in the order of the loops, each with its file and service. -/
def portMappings (stack : List ComposeFile) : List (String × String × Json) :=
  stack.flatMap (fun composeFile => (composeFile.services.getD []).flatMap (fun service =>
    (service.ports.getD []).map (fun portMapping => (composeFile.path, service.name, portMapping))))

def declaredHostPortBindings (stack : List ComposeFile) : Except IntError (List DeclaredBinding) :=
  (portMappings stack).foldlM (declareBinding repr it) []

/-! ## What is collected -/

/-- What an item of the loops declares. -/
def Declares (item : String × String × Json) (key : String × String × Int) : Prop :=
  ∃ binding, parseHostPortBinding repr it item.2.2 = .ok (some binding) ∧
    key = (item.2.1, binding.host, binding.port)

theorem declareBinding_ok {bindings bindings' : List DeclaredBinding} {item : String × String × Json}
    (h : declareBinding repr it bindings item = .ok bindings') :
    (∃ r, parseHostPortBinding repr it item.2.2 = .ok r) ∧
      ((bindings.map DeclaredBinding.key).Nodup → (bindings'.map DeclaredBinding.key).Nodup) ∧
      ∀ key, key ∈ bindings'.map DeclaredBinding.key ↔
        key ∈ bindings.map DeclaredBinding.key ∨ Declares repr it item key := by
  obtain ⟨source, service, portMapping⟩ := item
  unfold declareBinding at h
  unfold Declares
  cases hp : parseHostPortBinding repr it portMapping with
  | error e => simp only [hp] at h; cases h
  | ok r =>
    refine ⟨⟨r, rfl⟩, ?_⟩
    cases r with
    | none =>
      simp only [hp] at h
      cases h
      simp
    | some binding =>
      simp only [hp] at h
      change (if _ then _ else _) = _ at h
      split at h
      · rename_i hseen
        cases h
        refine ⟨id, fun key => ⟨Or.inl, fun hk => ?_⟩⟩
        rcases hk with hk | ⟨b, hb, rfl⟩
        · exact hk
        · cases hb
          exact hseen
      · rename_i hnew
        cases h
        refine ⟨fun hnd => ?_, fun key => ?_⟩
        · rw [List.map_append, List.map_singleton, List.nodup_append]
          refine ⟨hnd, List.nodup_singleton _, fun k hk k' hk' heq => ?_⟩
          rw [List.mem_singleton.1 hk'] at heq
          exact hnew (heq ▸ hk)
        · rw [List.map_append, List.mem_append, List.map_singleton, List.mem_singleton]
          refine or_congr Iff.rfl ⟨fun hk => ⟨binding, rfl, hk⟩, ?_⟩
          rintro ⟨b, hb, rfl⟩
          cases hb
          rfl

/-- **A collection that succeeds has every declared key once.** -/
theorem foldlM_declareBinding_ok : ∀ (items : List (String × String × Json)) (bindings bindings' : List DeclaredBinding),
    items.foldlM (declareBinding repr it) bindings = .ok bindings' →
      (∀ item ∈ items, ∃ r, parseHostPortBinding repr it item.2.2 = .ok r) ∧
      ((bindings.map DeclaredBinding.key).Nodup → (bindings'.map DeclaredBinding.key).Nodup) ∧
      ∀ key, key ∈ bindings'.map DeclaredBinding.key ↔
        key ∈ bindings.map DeclaredBinding.key ∨ ∃ item ∈ items, Declares repr it item key
  | [], bindings, bindings', h => by
    cases h
    simp
  | item :: items, bindings, bindings', h => by
    rw [List.foldlM_cons] at h
    obtain ⟨middle, hd, h⟩ := bind_eq_ok h
    obtain ⟨hp, hnd, hkeys⟩ := declareBinding_ok repr it hd
    obtain ⟨hps, hnds, hkeyss⟩ := foldlM_declareBinding_ok items middle bindings' h
    refine ⟨List.forall_mem_cons.2 ⟨hp, hps⟩, fun h0 => hnds (hnd h0), fun key => ?_⟩
    rw [hkeyss, hkeys, or_assoc, List.exists_mem_cons_iff]

/-- Mappings that are all read are all collected. -/
theorem foldlM_declareBinding_total : ∀ (items : List (String × String × Json)) (bindings : List DeclaredBinding),
    (∀ item ∈ items, ∃ r, parseHostPortBinding repr it item.2.2 = .ok r) →
      ∃ bindings', items.foldlM (declareBinding repr it) bindings = .ok bindings'
  | [], bindings, _ => ⟨bindings, rfl⟩
  | (source, service, portMapping) :: items, bindings, h => by
    obtain ⟨r, hr⟩ := h _ List.mem_cons_self
    have hstep : ∃ middle, declareBinding repr it bindings (source, service, portMapping) = .ok middle := by
      unfold declareBinding
      simp only at hr
      simp only [hr]
      cases r with
      | none => exact ⟨bindings, rfl⟩
      | some binding =>
        by_cases hseen : (service, binding.host, binding.port) ∈ bindings.map DeclaredBinding.key
        · exact ⟨bindings, if_pos hseen⟩
        · exact ⟨_, if_neg hseen⟩
    obtain ⟨middle, hmiddle⟩ := hstep
    obtain ⟨bindings', hb⟩ := foldlM_declareBinding_total items middle (fun x hx => h x (List.mem_cons_of_mem _ hx))
    exact ⟨bindings', by rw [List.foldlM_cons, hmiddle]; exact hb⟩

end

/-! ## The short syntax -/

/-- A decimal port, as it is written. -/
abbrev PortText := {text : Text // text ≠ [] ∧ ∀ c ∈ text, c.isDigit = true}

def PortText.port (p : PortText) : Int := (Nat.ofDigitChars 10 p.val 0 : Nat)

/-- The host of a short mapping: none, an IPv4 address or a name, or an IPv6 address. -/
inductive ShortHost where
  | absent
  | plain (name : {text : Text // ':' ∉ text ∧ '/' ∉ text ∧ '[' ∉ text})
  | ipv6 (address : {text : Text // ':' ∈ text ∧ '/' ∉ text ∧ '[' ∉ text})

structure ShortMapping where
  host : ShortHost
  published : PortText
  target : PortText
  protocol : Option Text

def ShortMapping.IsIPv6 (m : ShortMapping) : Prop := ∃ address, m.host = .ipv6 address

/-- The published port is one that `int` converts: it has no more digits than the limit. -/
def ShortMapping.PortFits (it : IntText) (m : ShortMapping) : Prop :=
  it.maxStrDigits.allows m.published.val.length = true

/-- `[HOST:]`. -/
def ShortHost.text : ShortHost → Text
  | .absent => []
  | .plain name => name.val ++ [':']
  | .ipv6 address => '[' :: (address.val ++ [']', ':'])

/-- `[HOST:]PUBLISHED:TARGET`. -/
def ShortMapping.ports (m : ShortMapping) : Text := m.host.text ++ (m.published.val ++ ':' :: m.target.val)

/-- A mapping as the compose file has it. -/
def ShortMapping.text (m : ShortMapping) : Text :=
  m.ports ++ match m.protocol with
    | none => []
    | some protocol => '/' :: protocol

/-- The host a mapping binds; `bracketed` is whether an IPv6 address is spelled with its brackets. -/
def ShortMapping.hostText (bracketed : Bool) (m : ShortMapping) : String :=
  match m.host with
  | .absent => "0.0.0.0"
  | .plain name => String.ofList name.val
  | .ipv6 address => String.ofList (if bracketed then '[' :: (address.val ++ [']']) else address.val)

structure ShortService where
  name : String
  mappings : List ShortMapping

structure ShortFile where
  path : String
  services : List ShortService

def ShortFile.composeFile (file : ShortFile) : ComposeFile :=
  ⟨file.path, some (file.services.map (fun service =>
    ⟨service.name, some (service.mappings.map (fun m => .str (String.ofList m.text)))⟩))⟩

/-- A mapping of a stack, with its service. -/
def InStack (stack : List ShortFile) (service : String) (m : ShortMapping) : Prop :=
  ∃ file ∈ stack, ∃ s ∈ file.services, s.name = service ∧ m ∈ s.mappings

section
variable (repr : Json → String) (it : IntText) (bracketed : Bool)

/-- The mapping is read as it is written. -/
def ReadsMapping (m : ShortMapping) : Prop :=
  parseHostPortBinding repr it (.str (String.ofList m.text)) =
    .ok (some ⟨m.hostText bracketed, m.published.port⟩)

/-- Each service's host ports are listed, each once, and nothing else is. -/
def ListsStack (stack : List ShortFile) : Prop :=
  ∃ bindings, declaredHostPortBindings repr it (stack.map ShortFile.composeFile) = .ok bindings ∧
    (bindings.map DeclaredBinding.key).Nodup ∧
    ∀ key, key ∈ bindings.map DeclaredBinding.key ↔
      ∃ service m, InStack stack service m ∧ key = (service, m.hostText bracketed, m.published.port)

theorem intOfJson_portText (p : PortText) : intOfJson it (.str (String.ofList p.val)) =
    if it.maxStrDigits.allows p.val.length then .ok p.port else .error .valueError := by
  simp only [intOfJson, String.toList_ofList, parseInt_of_isDigit it p.property.1 p.property.2]
  by_cases hallows : it.maxStrDigits.allows p.val.length = true
  · simp only [hallows, if_true]
    rfl
  · simp only [hallows, if_false, Bool.false_eq_true]

theorem not_mem_portText (p : PortText) {c : Char} (hc : c.isDigit = false) : c ∉ p.val := by
  intro hm
  have := p.property.2 c hm
  rw [hc] at this
  cases this

theorem slash_not_mem_ports (m : ShortMapping) : '/' ∉ m.ports := by
  have hpub : '/' ∉ m.published.val := not_mem_portText m.published (by decide)
  have htgt : '/' ∉ m.target.val := not_mem_portText m.target (by decide)
  unfold ShortMapping.ports
  cases m.host with
  | absent => simp [ShortHost.text, hpub, htgt]
  | plain name => simp [ShortHost.text, hpub, htgt, name.property.2.1]
  | ipv6 address => simp [ShortHost.text, hpub, htgt, address.property.2.1]

/-- The protocol is cut off first. -/
theorem splitHead_text (m : ShortMapping) : splitHead '/' m.text = m.ports := by
  have hfree : ∀ c ∈ m.ports, (c != '/') = true := by
    intro c hc
    rw [bne_iff_ne]
    rintro rfl
    exact slash_not_mem_ports m hc
  unfold ShortMapping.text splitHead
  cases m.protocol with
  | none => rw [List.append_nil, List.takeWhile_eq_self_iff.2 hfree]
  | some protocol => rw [List.takeWhile_append_of_pos hfree, List.takeWhile_cons_of_neg (by simp), List.append_nil]

theorem splitOn_published (m : ShortMapping) :
    (m.published.val ++ ':' :: m.target.val).splitOn ':' = [m.published.val, m.target.val] := by
  rw [List.splitOn_append_cons_self_of_not_mem (not_mem_portText m.published (by decide)),
    List.splitOn_eq_singleton (not_mem_portText m.target (by decide))]

/-- **A host without colons is read, and so is its absence**; what is left to `int` is the published port. -/
theorem parse_of_not_ipv6 {m : ShortMapping} (h : ¬ m.IsIPv6) :
    parseHostPortBinding repr it (.str (String.ofList m.text)) =
      if it.maxStrDigits.allows m.published.val.length then .ok (some ⟨m.hostText bracketed, m.published.port⟩)
      else .error .valueError := by
  simp only [parseHostPortBinding, String.toList_ofList, splitHead_text, ShortMapping.ports, ShortMapping.hostText]
  cases hhost : m.host with
  | absent =>
    simp only [ShortHost.text, List.nil_append, splitOn_published, intOfJson_portText]
    split <;> rfl
  | plain name =>
    simp only [ShortHost.text, List.append_assoc, List.singleton_append,
      List.splitOn_append_cons_self_of_not_mem name.property.1, splitOn_published, intOfJson_portText]
    split <;> rfl
  | ipv6 address => exact absurd ⟨address, hhost⟩ h

/-- **An IPv6 host is cut at its first colon**: what is left of it begins with the bracket. -/
theorem parse_ipv6 {m : ShortMapping} (h : m.IsIPv6) {r : Option HostBinding}
    (hr : parseHostPortBinding repr it (.str (String.ofList m.text)) = .ok r) :
    ∃ rest port, ':' ∉ rest ∧ r = some ⟨String.ofList ('[' :: rest), port⟩ := by
  obtain ⟨address, hhost⟩ := h
  obtain ⟨rest, after, hsplit, hrest⟩ := List.eq_append_cons_of_mem address.property.1
  have hports : m.ports =
      ('[' :: rest) ++ ':' :: ((after ++ [']']) ++ ':' :: (m.published.val ++ ':' :: m.target.val)) := by
    rw [ShortMapping.ports, hhost, ShortHost.text, hsplit]
    simp
  have hpieces : m.ports.splitOn ':' =
      ('[' :: rest) :: ((after ++ [']']).splitOn ':' ++ [m.published.val, m.target.val]) := by
    rw [hports, List.splitOn_append_cons_self_of_not_mem (by simp [hrest]), List.splitOn_append_cons_self,
      splitOn_published]
  obtain ⟨second, third, hsecond⟩ : ∃ second third, (after ++ [']']).splitOn ':' = second :: third :=
    List.exists_cons_of_ne_nil (List.splitOn_ne_nil _ _)
  obtain ⟨third, fourth, hthird⟩ : ∃ third' fourth, third ++ [m.published.val, m.target.val] = third' :: fourth :=
    List.exists_cons_of_ne_nil (by simp)
  simp only [parseHostPortBinding, String.toList_ofList, splitHead_text, hpieces, hsecond, List.cons_append, hthird] at hr
  cases hport : intOfJson it (.str (String.ofList second)) with
  | error e => rw [hport] at hr; cases hr
  | ok port =>
    rw [hport] at hr
    cases hr
    exact ⟨rest, port, hrest, rfl⟩

/-- What is left of an IPv6 host is the host of no mapping. -/
theorem hostText_ne_cut (m : ShortMapping) {rest : Text} (hrest : ':' ∉ rest) :
    m.hostText bracketed ≠ String.ofList ('[' :: rest) := by
  intro heq
  have hl : (m.hostText bracketed).toList = '[' :: rest := by rw [heq, String.toList_ofList]
  unfold ShortMapping.hostText at hl
  cases hhost : m.host with
  | absent =>
    rw [hhost] at hl
    have hhead := congrArg List.head? hl
    simp at hhead
  | plain name =>
    rw [hhost, String.toList_ofList] at hl
    exact name.property.2.2 (hl ▸ List.mem_cons_self)
  | ipv6 address =>
    rw [hhost, String.toList_ofList] at hl
    have hcolon : ':' ∈ '[' :: rest := by
      rw [← hl]
      cases bracketed <;> simp [address.property.1]
    rcases List.mem_cons.1 hcolon with h | h
    · exact absurd h (by decide)
    · exact hrest h

theorem readsMapping_iff (m : ShortMapping) : ReadsMapping repr it bracketed m ↔ ¬ m.IsIPv6 ∧ m.PortFits it := by
  constructor
  · intro hreads
    have hplain : ¬ m.IsIPv6 := by
      intro hipv6
      obtain ⟨rest, port, hrest, hr⟩ := parse_ipv6 repr it hipv6 hreads
      exact hostText_ne_cut bracketed m hrest (congrArg HostBinding.host (Option.some.inj hr))
    refine ⟨hplain, ?_⟩
    rw [ReadsMapping, parse_of_not_ipv6 repr it bracketed hplain] at hreads
    by_contra hrefused
    rw [ShortMapping.PortFits] at hrefused
    rw [if_neg hrefused] at hreads
    cases hreads
  · rintro ⟨hplain, hfits⟩
    rw [ShortMapping.PortFits] at hfits
    rw [ReadsMapping, parse_of_not_ipv6 repr it bracketed hplain, if_pos hfits]

/-! ## Stacks -/

theorem portMappings_composeFile (stack : List ShortFile) : portMappings (stack.map ShortFile.composeFile) =
    stack.flatMap (fun file => file.services.flatMap (fun s =>
      s.mappings.map (fun m => (file.path, s.name, .str (String.ofList m.text))))) := by
  simp only [portMappings, ShortFile.composeFile, List.flatMap_map, Option.getD_some, List.map_map]
  rfl

theorem mem_portMappings_iff (stack : List ShortFile) (service : String) (portMapping : Json) :
    (∃ source, (source, service, portMapping) ∈ portMappings (stack.map ShortFile.composeFile)) ↔
      ∃ m, InStack stack service m ∧ portMapping = .str (String.ofList m.text) := by
  simp only [portMappings_composeFile, List.mem_flatMap, List.mem_map, InStack, Prod.mk.injEq]
  constructor
  · rintro ⟨source, file, hfile, s, hs, m, hm, rfl, rfl, rfl⟩
    exact ⟨m, ⟨file, hfile, s, hs, rfl, hm⟩, rfl⟩
  · rintro ⟨m, ⟨file, hfile, s, hs, rfl, hm⟩, rfl⟩
    exact ⟨file.path, file, hfile, s, hs, m, hm, rfl, rfl, rfl⟩

/-- A stack is listed exactly when none of its hosts is an IPv6 address and `int` converts all its ports. -/
theorem listsStack_iff (stack : List ShortFile) : ListsStack repr it bracketed stack ↔
    ∀ service m, InStack stack service m → ¬ m.IsIPv6 ∧ m.PortFits it := by
  constructor
  · rintro ⟨bindings, hok, -, hkeys⟩ service m hm
    obtain ⟨hreads, -, hdeclared⟩ := foldlM_declareBinding_ok repr it _ _ _ hok
    obtain ⟨source, hitem⟩ := (mem_portMappings_iff stack service _).2 ⟨m, hm, rfl⟩
    obtain ⟨r, hr⟩ := hreads _ hitem
    have hplain : ¬ m.IsIPv6 := by
      intro hipv6
      obtain ⟨rest, port, hrest, rfl⟩ := parse_ipv6 repr it hipv6 hr
      obtain ⟨service', m', -, heq⟩ := (hkeys _).1 ((hdeclared _).2 (Or.inr ⟨_, hitem, _, hr, rfl⟩))
      exact hostText_ne_cut bracketed m' hrest (congrArg (fun key => key.2.1) heq).symm
    refine ⟨hplain, ?_⟩
    rw [parse_of_not_ipv6 repr it bracketed hplain] at hr
    by_contra hrefused
    rw [ShortMapping.PortFits] at hrefused
    rw [if_neg hrefused] at hr
    cases hr
  · intro hplain
    have hread : ∀ item ∈ portMappings (stack.map ShortFile.composeFile), ∃ m, InStack stack item.2.1 m ∧
        parseHostPortBinding repr it item.2.2 = .ok (some ⟨m.hostText bracketed, m.published.port⟩) := by
      rintro ⟨source, service, portMapping⟩ hitem
      obtain ⟨m, hm, rfl⟩ := (mem_portMappings_iff stack service portMapping).1 ⟨source, hitem⟩
      exact ⟨m, hm, (readsMapping_iff repr it bracketed m).2 (hplain service m hm)⟩
    obtain ⟨bindings, hok⟩ := foldlM_declareBinding_total repr it (portMappings (stack.map ShortFile.composeFile)) []
      (fun item hitem => let ⟨_, _, hr⟩ := hread item hitem; ⟨_, hr⟩)
    obtain ⟨-, hnd, hdeclared⟩ := foldlM_declareBinding_ok repr it _ _ _ hok
    refine ⟨bindings, hok, hnd List.nodup_nil, fun key => ?_⟩
    rw [hdeclared]
    constructor
    · rintro (h | ⟨item, hitem, binding, hb, rfl⟩)
      · cases h
      · obtain ⟨m, hm, hr⟩ := hread item hitem
        rw [hr] at hb
        cases hb
        exact ⟨_, m, hm, rfl⟩
    · rintro ⟨service, m, hm, rfl⟩
      obtain ⟨source, hitem⟩ := (mem_portMappings_iff stack service _).2 ⟨m, hm, rfl⟩
      exact Or.inr ⟨_, hitem, _, (readsMapping_iff repr it bracketed m).2 (hplain service m hm), rfl⟩

end

/-- **A mapping is read as it is written, and a stack is listed whole, exactly without IPv6 hosts** (and with ports
that `int` converts). -/
theorem hostPorts_iff (repr : Json → String) (it : IntText) (bracketed : Bool) :
    (∀ m, ReadsMapping repr it bracketed m ↔ ¬ m.IsIPv6 ∧ m.PortFits it) ∧
    ∀ stack, ListsStack repr it bracketed stack ↔
      ∀ service m, InStack stack service m → ¬ m.IsIPv6 ∧ m.PortFits it :=
  ⟨readsMapping_iff repr it bracketed, listsStack_iff repr it bracketed⟩

/-- `[::1]:8080:80`. -/
def loopbackMapping : ShortMapping where
  host := .ipv6 ⟨[':', ':', '1'], by decide⟩
  published := ⟨['8', '0', '8', '0'], by decide⟩
  target := ⟨['8', '0'], by decide⟩
  protocol := none

/-- The loopback mapping is not read: the script raises a `ValueError`. -/
theorem loopbackMapping_raises : ¬ ∀ (repr : Json → String) (bracketed : Bool) (m : ShortMapping),
    m.PortFits asciiIntText → ReadsMapping repr asciiIntText bracketed m := by
  intro h
  have hreads := h (fun _ => "") true loopbackMapping rfl
  have hraises : parseHostPortBinding (fun _ => "") asciiIntText (.str (String.ofList loopbackMapping.text)) =
      .error .valueError := rfl
  rw [ReadsMapping, hraises] at hreads
  cases hreads

end Lider
