import LiderPlatform.ConsoleRouter
/-!
# ConsoleNavigation — where navigations of the console end (`services/liderui/patches/src/router/index.js`)

Redirections lead down from any page to the dashboard and from there to the login page, whatever happens to the session
meanwhile, so a navigation ends.  It ends at a page that the session permits, and at the one asked for exactly when that
is permitted.  Nobody, not even an administrator, opens a page of a feature that is switched off.
-/
namespace Lider.Console

section
variable (uiDisabledFeatures : Option String)

/-- The page is open to the session: its features are on and, if it asks for a user, the user has signed in and has one
of the roles of the page whose feature is on; an administrator has them all. -/
structure Permitted (session : Session) (matched : List RouteRecord) : Prop where
  features : ∀ record ∈ matched, ∀ feature, record.meta_.feature = some feature → feature ≠ "" →
    isFeatureEnabled uiDisabledFeatures (some feature) = true
  signedIn : (∃ record ∈ matched, record.meta_.requiresAuth = true) → ∃ token, session.authToken = some token ∧ token ≠ ""
  role : (∃ record ∈ matched, record.meta_.requiresAuth = true) →
    (∀ record ∈ matched, ∀ role ∈ record.meta_.roles, role = "") ∨
      ∃ record ∈ matched, ∃ role ∈ record.meta_.roles, role ≠ "" ∧ isRoleEnabled uiDisabledFeatures role = true ∧
        ("ROLE_ADMIN" ∈ session.userRole ∨ role ∈ session.userRole)

variable {uiDisabledFeatures}

theorem hasAnyRole_iff {session : Session} {requiredRoles : List String} (hne : requiredRoles ≠ []) :
    hasAnyRole uiDisabledFeatures session requiredRoles = true ↔ ∃ role ∈ requiredRoles,
      isRoleEnabled uiDisabledFeatures role = true ∧ ("ROLE_ADMIN" ∈ session.userRole ∨ role ∈ session.userRole) := by
  unfold hasAnyRole
  rw [if_neg (by simpa using hne)]
  cases hon : requiredRoles.filter (isRoleEnabled uiDisabledFeatures) with
  | nil =>
    have hoff : ∀ role ∈ requiredRoles, isRoleEnabled uiDisabledFeatures role = false := by
      simpa [List.filter_eq_nil_iff] using hon
    simp only [List.isEmpty_nil, if_true, Bool.false_eq_true, false_iff, not_exists, not_and]
    exact fun role hrole henabled => absurd henabled (by simp [hoff role hrole])
  | cons first others =>
    have hmem : ∀ role, role ∈ first :: others ↔ role ∈ requiredRoles ∧ isRoleEnabled uiDisabledFeatures role = true :=
      fun role => by rw [← hon, List.mem_filter]
    simp only [List.isEmpty_cons, Bool.false_eq_true, if_false]
    by_cases hadmin : "ROLE_ADMIN" ∈ session.userRole
    · have hfirst := (hmem first).1 List.mem_cons_self
      rw [if_pos (by simpa using hadmin)]
      exact ⟨fun _ => ⟨first, hfirst.1, hfirst.2, .inl hadmin⟩, fun _ => rfl⟩
    · rw [if_neg (by simpa using hadmin), List.any_eq_true]
      constructor
      · rintro ⟨role, hrole, hhas⟩
        exact ⟨role, ((hmem role).1 hrole).1, ((hmem role).1 hrole).2, .inr (by simpa using hhas)⟩
      · rintro ⟨role, hrole, henabled, hhas⟩
        exact ⟨role, (hmem role).2 ⟨hrole, henabled⟩, by simpa using hhas.resolve_left hadmin⟩

theorem mem_requiredRoles {matched : List RouteRecord} {role : String} :
    role ∈ requiredRoles matched ↔ (∃ record ∈ matched, role ∈ record.meta_.roles) ∧ role ≠ "" := by
  simp [requiredRoles, List.mem_flatMap]

theorem requiredRoles_eq_nil_iff {matched : List RouteRecord} :
    requiredRoles matched = [] ↔ ∀ record ∈ matched, ∀ role ∈ record.meta_.roles, role = "" := by
  rw [List.eq_nil_iff_forall_not_mem]
  constructor
  · intro h record hrecord role hrole
    exact Decidable.byContradiction (fun hne => h role (mem_requiredRoles.2 ⟨⟨record, hrecord, hrole⟩, hne⟩))
  · intro h role hrole
    obtain ⟨⟨record, hrecord, hin⟩, hne⟩ := mem_requiredRoles.1 hrole
    exact hne (h record hrecord role hin)

theorem hasDisabledFeature_eq_false_iff {matched : List RouteRecord} :
    hasDisabledFeature uiDisabledFeatures matched = false ↔ ∀ record ∈ matched, ∀ feature,
      record.meta_.feature = some feature → feature ≠ "" → isFeatureEnabled uiDisabledFeatures (some feature) = true := by
  simp only [hasDisabledFeature, List.any_eq_false, Bool.and_eq_true, Bool.not_eq_true', not_and, Bool.not_eq_false,
    Option.any_eq_true, decide_eq_true_eq, forall_exists_index, and_imp]
  refine forall₂_congr (fun record _ => forall_congr' (fun feature => forall₂_congr (fun hfeature _ => ?_)))
  rw [hfeature]

theorem signedIn_iff {session : Session} : (session.authToken ≠ none ∧ session.authToken ≠ some "") ↔
    ∃ token, session.authToken = some token ∧ token ≠ "" := by
  cases session.authToken <;> simp

/-- **The guard lets a navigation pass exactly when the page is permitted.** -/
theorem beforeEach_proceed_iff {session : Session} {matched : List RouteRecord} :
    beforeEach uiDisabledFeatures session matched = .proceed ↔ Permitted uiDisabledFeatures session matched := by
  have hauth : matched.any (fun record => record.meta_.requiresAuth) = true ↔
      ∃ record ∈ matched, record.meta_.requiresAuth = true := List.any_eq_true
  unfold beforeEach
  cases hfeature : hasDisabledFeature uiDisabledFeatures matched with
  | true =>
    rw [if_pos rfl]
    refine iff_of_false nofun (fun h => ?_)
    rw [hasDisabledFeature_eq_false_iff.2 h.features] at hfeature
    exact nomatch hfeature
  | false =>
    have hfeatures := hasDisabledFeature_eq_false_iff.1 hfeature
    rw [if_neg Bool.false_ne_true]
    by_cases ha : matched.any (fun record => record.meta_.requiresAuth) = true
    · rw [if_pos ha]
      by_cases ht : session.authToken ≠ none ∧ session.authToken ≠ some ""
      · rw [if_pos ht]
        by_cases hnone : requiredRoles matched = []
        · rw [hnone, List.length_nil, if_neg (Nat.lt_irrefl 0)]
          exact iff_of_true rfl ⟨hfeatures, fun _ => signedIn_iff.1 ht, fun _ => .inl (requiredRoles_eq_nil_iff.1 hnone)⟩
        · rw [if_pos (List.length_pos_iff.2 hnone)]
          have hrole := @hasAnyRole_iff uiDisabledFeatures session _ hnone
          cases hany : hasAnyRole uiDisabledFeatures session (requiredRoles matched) with
          | true =>
            obtain ⟨role, hmem, henabled, hhas⟩ := hrole.1 hany
            obtain ⟨⟨record, hrecord, hin⟩, hne⟩ := mem_requiredRoles.1 hmem
            exact iff_of_true rfl ⟨hfeatures, fun _ => signedIn_iff.1 ht,
              fun _ => .inr ⟨record, hrecord, role, hin, hne, henabled, hhas⟩⟩
          | false =>
            refine iff_of_false nofun (fun h => ?_)
            rcases h.role (hauth.1 ha) with hblank | ⟨record, hrecord, role, hin, hne, henabled, hhas⟩
            · exact hnone (requiredRoles_eq_nil_iff.2 hblank)
            · rw [hrole.2 ⟨role, mem_requiredRoles.2 ⟨⟨record, hrecord, hin⟩, hne⟩, henabled, hhas⟩] at hany
              exact nomatch hany
      · rw [if_neg ht]
        exact iff_of_false nofun (fun h => ht (signedIn_iff.2 (h.signedIn (hauth.1 ha))))
    · rw [if_neg ha]
      exact iff_of_true rfl ⟨hfeatures, fun h => absurd (hauth.2 h) ha, fun h => absurd (hauth.2 h) ha⟩

/-! ## The table -/

theorem featureGate_path (record : RouteRecord) (feature : String) :
    (featureGate uiDisabledFeatures record feature).path = record.path := by
  unfold featureGate
  split <;> rfl

theorem featureGate_redirect (record : RouteRecord) (feature : String) (h : record.redirect = none) :
    (featureGate uiDisabledFeatures record feature).redirect ∈ [none, some "/dashboard"] := by
  unfold featureGate
  split <;> simp [h]

theorem getLast_of_mem_chains {table : List Route} {matched : List RouteRecord} (h : matched ∈ chains table) :
    ∃ route ∈ table, ∃ record ∈ route.record :: route.children, matched.getLast? = some record := by
  simp only [chains, List.mem_flatMap, List.mem_append, List.mem_map, List.mem_singleton] at h
  obtain ⟨route, hroute, ⟨child, hchild, rfl⟩ | rfl⟩ := h
  · exact ⟨route, hroute, child, List.mem_cons_of_mem _ hchild, rfl⟩
  · exact ⟨route, hroute, route.record, List.mem_cons_self, rfl⟩

/-- The table redirects to the dashboard and to the root. -/
theorem redirect_mem {matched : List RouteRecord} (h : matched ∈ chains (routes uiDisabledFeatures)) :
    matched.getLast?.bind RouteRecord.redirect ∈ [none, some "/dashboard", some "/"] := by
  have hgate : ∀ record feature, record.redirect = none →
      (featureGate uiDisabledFeatures record feature).redirect ∈ [none, some "/dashboard", some "/"] :=
    fun record feature hnone => by
      have := @featureGate_redirect uiDisabledFeatures record feature hnone
      simp only [List.mem_cons, List.not_mem_nil, or_false] at this ⊢
      exact this.imp_right .inl
  have hpage : ∀ path roles, (page path roles).redirect ∈ [none, some "/dashboard", some "/"] :=
    fun _ _ => List.mem_cons_self
  have hall : ∀ route ∈ routes uiDisabledFeatures, ∀ record ∈ route.record :: route.children,
      record.redirect ∈ [none, some "/dashboard", some "/"] := by
    simp only [routes, List.forall_mem_cons, hpage, hgate _ _ (show remoteAccess.redirect = none from rfl),
      hgate _ _ (show systemMonitoringDefinitions.redirect = none from rfl), dashboard, List.not_mem_nil, false_implies,
      implies_true, and_true, true_and]
    exact ⟨by decide, by decide, by decide, by decide, by decide⟩
  obtain ⟨route, hroute, record, hrecord, hlast⟩ := getLast_of_mem_chains h
  rw [hlast, Option.bind_some]
  exact hall route hroute record hrecord

variable (m : Matcher (routes uiDisabledFeatures))

theorem resolve_dashboard : m.resolve "/dashboard" = [dashboards, dashboard] := by
  refine m.literal _ _ ?_
  simp [chains, routes, pathOf, featureGate_path, remoteAccess, dashboards, dashboard, page]

theorem resolve_login : m.resolve "/login" = [authLayout, login] := by
  refine m.literal _ _ ?_
  simp [chains, routes, pathOf, featureGate_path, remoteAccess, systemMonitoringDefinitions, dashboards, dashboard, page,
    authLayout, login, guestPage]

theorem resolve_root : m.resolve "/" = [dashboards] := by
  refine m.literal _ _ ?_
  simp [chains, routes, pathOf, featureGate_path, remoteAccess, systemMonitoringDefinitions, dashboards, dashboard, page]

/-! ## Navigations -/

/-- The guard sends a navigation to the dashboard or to the login page. -/
theorem beforeEach_redirect {session : Session} {matched : List RouteRecord} {target : String}
    (h : beforeEach uiDisabledFeatures session matched = .redirect target) : target = "/dashboard" ∨ target = "/login" := by
  unfold beforeEach at h
  repeat' split at h
  all_goals cases h
  all_goals simp

/-- From the dashboard the guard sends only to the login page. -/
theorem beforeEach_dashboard {session : Session} {target : String}
    (h : beforeEach uiDisabledFeatures session [dashboards, dashboard] = .redirect target) : target = "/login" := by
  unfold beforeEach at h
  have hfeature : hasDisabledFeature uiDisabledFeatures [dashboards, dashboard] = false := rfl
  have hroles : requiredRoles [dashboards, dashboard] = [] := by decide
  rw [hfeature, hroles, List.length_nil, if_neg Bool.false_ne_true, if_neg (Nat.lt_irrefl 0)] at h
  repeat' split at h
  all_goals cases h
  rfl

theorem permitted_login (session : Session) : Permitted uiDisabledFeatures session [authLayout, login] := by
  constructor <;> simp [authLayout, login, guestPage]

/-- A matcher that knows the paths of the table, letter by letter. -/
def literalMatcher (table : List Route) : Matcher table where
  resolve path := ((chains table).find? (fun matched => pathOf matched = some path)).getD []
  sameLocation here path := here = path
  known path := by
    cases h : (chains table).find? (fun matched => pathOf matched = some path) with
    | none => exact .inl rfl
    | some matched => exact .inr (List.mem_of_find?_eq_some h)
  literal path matched h := by rw [h]; rfl

/-! A console without two of its features, an administrator, and somebody who manages users. -/

def sampleDisabled : Option String := some "remote-access, conky"

def sampleMatcher : Matcher (routes sampleDisabled) := literalMatcher (routes sampleDisabled)

def administrator : Session := ⟨some "t", some ["ROLE_ADMIN"]⟩

def userManager : Session := ⟨some "t", some ["ROLE_USERS"]⟩

/-- The administrator asks for a page that is switched off and for one that is not, and signs out. -/
def sampleVisit : List (String × (Nat → Session)) :=
  [("/remote-access", fun _ => administrator), ("/computer", fun _ => administrator), ("/policy", fun _ => ⟨none, none⟩)]

variable (sessions : Nat → Session) (from_ : Option String)

/-- A navigation ends where it was, or at one of `pages`, without a redirection, that the session permits which the last
call of the guard found; that call is one of `first` to `last`. -/
def Settled (pages : List String) (first last : Nat) : Option Landing → Prop
  | some (.entered path call) => Permitted uiDisabledFeatures (sessions call) (m.resolve path) ∧ path ∈ pages ∧
      (m.resolve path).getLast?.bind RouteRecord.redirect = none ∧ first ≤ call ∧ call ≤ last
  | some .stayed => True
  | none => False

theorem Settled.mono {pages pages' : List String} {first last first' last' : Nat} {result : Option Landing}
    (h : Settled m sessions pages first last result) (hpages : ∀ path ∈ pages, path ∈ pages') (hfirst : first' ≤ first)
    (hlast : last ≤ last') : Settled m sessions pages' first' last' result := by
  cases result with
  | none => exact h
  | some landing =>
    cases landing with
    | stayed => trivial
    | entered path call => exact ⟨h.1, hpages _ h.2.1, h.2.2.1, Nat.le_trans hfirst h.2.2.2.1,
        Nat.le_trans h.2.2.2.2 hlast⟩

theorem navigate_redirect {path target : String}
    (hredirect : (m.resolve path).getLast?.bind RouteRecord.redirect = some target) (fuel call : Nat) :
    navigate uiDisabledFeatures m sessions from_ (fuel + 1) call path =
      navigate uiDisabledFeatures m sessions from_ fuel call target := by
  rw [navigate, hredirect]

section
variable {path : String} (hredirect : (m.resolve path).getLast?.bind RouteRecord.redirect = none)
include hredirect

/-- At a page without a redirection of its own, where the router is already. -/
theorem navigate_stayed (hsame : from_.any (fun here => m.sameLocation here path) = true) (fuel call : Nat) :
    navigate uiDisabledFeatures m sessions from_ (fuel + 1) call path = some .stayed := by
  rw [navigate, hredirect]
  exact if_pos hsame

variable (hsame : from_.any (fun here => m.sameLocation here path) = false)
include hsame

theorem navigate_entered {call : Nat} (hnext : beforeEach uiDisabledFeatures (sessions call) (m.resolve path) = .proceed)
    (fuel : Nat) : navigate uiDisabledFeatures m sessions from_ (fuel + 1) call path = some (.entered path call) := by
  rw [navigate, hredirect, hsame]
  simp only [hnext, Bool.false_eq_true, if_false]

theorem navigate_sent {call : Nat} {target : String}
    (hnext : beforeEach uiDisabledFeatures (sessions call) (m.resolve path) = .redirect target) (fuel : Nat) :
    navigate uiDisabledFeatures m sessions from_ (fuel + 1) call path =
      navigate uiDisabledFeatures m sessions from_ fuel (call + 1) target := by
  rw [navigate, hredirect, hsame]
  simp only [hnext, Bool.false_eq_true, if_false]

end

/-- A page without a redirection settles if the navigations settle that the guard may send it on. -/
theorem settled_page {path : String} {pages : List String} {fuel call last : Nat} (hlast : call ≤ last)
    (hredirect : (m.resolve path).getLast?.bind RouteRecord.redirect = none)
    (hguard : ∀ target, beforeEach uiDisabledFeatures (sessions call) (m.resolve path) = .redirect target →
      Settled m sessions pages (call + 1) last (navigate uiDisabledFeatures m sessions from_ fuel (call + 1) target)) :
    Settled m sessions (path :: pages) call last (navigate uiDisabledFeatures m sessions from_ (fuel + 1) call path) := by
  cases hsame : from_.any (fun here => m.sameLocation here path) with
  | true =>
    rw [navigate_stayed m sessions from_ hredirect hsame]
    trivial
  | false =>
    cases hnext : beforeEach uiDisabledFeatures (sessions call) (m.resolve path) with
    | proceed =>
      rw [navigate_entered m sessions from_ hredirect hsame hnext]
      exact ⟨beforeEach_proceed_iff.1 hnext, List.mem_cons_self, hredirect, Nat.le_refl _, hlast⟩
    | redirect target =>
      rw [navigate_sent m sessions from_ hredirect hsame hnext]
      exact (hguard target hnext).mono m sessions (fun _ => List.mem_cons_of_mem _) (Nat.le_succ _) (Nat.le_refl _)

theorem settled_login (fuel call : Nat) :
    Settled m sessions ["/login"] call call (navigate uiDisabledFeatures m sessions from_ (fuel + 1) call "/login") := by
  refine settled_page m sessions from_ (Nat.le_refl _) (by rw [resolve_login]; rfl) (fun target htarget => ?_)
  rw [resolve_login, beforeEach_proceed_iff.2 (permitted_login _)] at htarget
  exact nomatch htarget

theorem settled_dashboard (fuel call : Nat) : Settled m sessions ["/dashboard", "/login"] call (call + 1)
    (navigate uiDisabledFeatures m sessions from_ (fuel + 2) call "/dashboard") := by
  refine settled_page m sessions from_ (Nat.le_succ _) (by rw [resolve_dashboard]; rfl) (fun target htarget => ?_)
  rw [resolve_dashboard] at htarget
  obtain rfl := beforeEach_dashboard htarget
  exact settled_login m sessions from_ fuel (call + 1)

/-- **Every navigation settles**, after at most two redirections of the table and at most three calls of the guard. -/
theorem settled_navigate (fuel call : Nat) (path : String) : Settled m sessions [path, "/dashboard", "/login"] call (call + 2)
    (navigate uiDisabledFeatures m sessions from_ (fuel + 4) call path) := by
  have hdashboard : ∀ k, Settled m sessions [path, "/dashboard", "/login"] call (call + 2)
      (navigate uiDisabledFeatures m sessions from_ (k + 2) call "/dashboard") := fun k =>
    (settled_dashboard m sessions from_ k call).mono m sessions (fun _ => List.mem_cons_of_mem _) (Nat.le_refl _) (by omega)
  have hredirect : (m.resolve path).getLast?.bind RouteRecord.redirect ∈ [none, some "/dashboard", some "/"] := by
    rcases m.known path with hnone | hchain
    · rw [hnone]
      exact List.mem_cons_self
    · exact redirect_mem hchain
  simp only [List.mem_cons, List.not_mem_nil, or_false] at hredirect
  rcases hredirect with hpage | hto | hroot
  · refine settled_page m sessions from_ (by omega) hpage (fun target htarget => ?_)
    rcases beforeEach_redirect htarget with rfl | rfl
    · exact (settled_dashboard m sessions from_ (fuel + 1) (call + 1)).mono m sessions (fun _ h => h) (Nat.le_refl _) (by omega)
    · exact (settled_login m sessions from_ (fuel + 2) (call + 1)).mono m sessions (fun _ => List.mem_cons_of_mem _)
        (Nat.le_refl _) (by omega)
  · rw [navigate_redirect m sessions from_ hto]
    exact hdashboard (fuel + 1)
  · rw [navigate_redirect m sessions from_ hroot, navigate_redirect m sessions from_ (by rw [resolve_root]; rfl)]
    exact hdashboard fuel

/-- The token is dropped while a navigation is sent to the dashboard: it goes on to the login page. -/
theorem policy_settled : navigate sampleDisabled sampleMatcher (fun call => if call = 0 then userManager else ⟨none, none⟩)
      none 4 0 "/policy" = some (.entered "/login" 2) ∧
    Settled sampleMatcher (fun call => if call = 0 then userManager else ⟨none, none⟩) ["/policy", "/dashboard", "/login"]
      0 2 (some (.entered "/login" 2)) := by
  have hlanding : navigate sampleDisabled sampleMatcher (fun call => if call = 0 then userManager else ⟨none, none⟩)
      none 4 0 "/policy" = some (.entered "/login" 2) := by rfl
  refine ⟨hlanding, ?_⟩
  rw [← hlanding]
  exact settled_navigate sampleMatcher _ none 0 0 "/policy"

/-- **The page asked for is entered exactly when it is permitted**: by the session that the first call of the guard finds,
unless the page redirects or the router is there. -/
theorem entered_iff (fuel : Nat) (path : String) :
    navigate uiDisabledFeatures m sessions from_ (fuel + 4) 0 path = some (.entered path 0) ↔
      (m.resolve path).getLast?.bind RouteRecord.redirect = none ∧
        from_.any (fun here => m.sameLocation here path) = false ∧
        Permitted uiDisabledFeatures (sessions 0) (m.resolve path) := by
  constructor
  · intro h
    have hsettled := settled_navigate m sessions from_ fuel 0 path
    rw [h] at hsettled
    obtain ⟨hpermitted, -, hredirect, -⟩ := hsettled
    refine ⟨hredirect, ?_, hpermitted⟩
    cases hsame : from_.any (fun here => m.sameLocation here path) with
    | false => rfl
    | true =>
      rw [navigate_stayed m sessions from_ hredirect hsame] at h
      cases h
  · rintro ⟨hredirect, hsame, hpermitted⟩
    exact navigate_entered m sessions from_ hredirect hsame (beforeEach_proceed_iff.2 hpermitted) _

/-- Somebody who manages users opens their page at once, and not the page of the policies. -/
theorem userManager_entered :
    navigate sampleDisabled sampleMatcher (fun _ => userManager) none 4 0 "/user" = some (.entered "/user" 0) ∧
      navigate sampleDisabled sampleMatcher (fun _ => userManager) none 4 0 "/policy" ≠ some (.entered "/policy" 0) := by
  have huser : sampleMatcher.resolve "/user" = [dashboards, page "/user" ["ROLE_USERS"]] := by rfl
  have hpolicy : sampleMatcher.resolve "/policy" = [dashboards, page "/policy" ["ROLE_POLICY"]] := by rfl
  refine ⟨(entered_iff sampleMatcher _ none 0 "/user").2 ⟨by rw [huser]; rfl, rfl, ?_⟩, fun h => ?_⟩
  · rw [huser]
    constructor <;> simp [userManager, dashboards, page, Session.userRole]
    decide
  · obtain ⟨-, -, hpermitted⟩ := (entered_iff sampleMatcher _ none 0 "/policy").1 h
    rw [hpolicy] at hpermitted
    have hrole := hpermitted.role ⟨_, List.mem_cons_of_mem _ List.mem_cons_self, rfl⟩
    simp [userManager, dashboards, page, Session.userRole] at hrole

/-! ## Whole visits -/

/-- The router with the page shown, and the pages entered so far, each with the session that opened it. -/
structure Visit where
  page : Option String
  entered : List (String × Session)

/-- One navigation, with the sessions that the calls of the guard find. -/
def Visit.push (v : Visit) (asked : String × (Nat → Session)) : Visit :=
  match navigate uiDisabledFeatures m asked.2 v.page 4 0 asked.1 with
  | some (.entered path call) => ⟨some path, v.entered ++ [(path, asked.2 call)]⟩
  | _ => v

def visit (asked : List (String × (Nat → Session))) : Visit := asked.foldl (Visit.push m) ⟨none, []⟩

/-- The pages entered were permitted when they were, and the page shown is the last of them. -/
structure Visit.Sound (v : Visit) : Prop where
  permitted : ∀ e ∈ v.entered, Permitted uiDisabledFeatures e.2 (m.resolve e.1)
  shown : v.page = v.entered.getLast?.map Prod.fst

theorem Visit.Sound.push {v : Visit} (h : v.Sound m) (asked : String × (Nat → Session)) : (v.push m asked).Sound m := by
  have hsettled := settled_navigate m asked.2 v.page 0 0 asked.1
  unfold Visit.push
  rw [Nat.zero_add] at hsettled
  revert hsettled
  cases navigate uiDisabledFeatures m asked.2 v.page 4 0 asked.1 with
  | none => exact fun hnone => absurd hnone id
  | some landing =>
    cases landing with
    | stayed => exact fun _ => h
    | entered path call =>
      rintro ⟨hpermitted, -⟩
      refine ⟨fun e he => ?_, by simp⟩
      rcases List.mem_append.1 he with he | he
      · exact h.permitted e he
      · obtain rfl := List.mem_singleton.1 he
        exact hpermitted

/-- **Every page that is ever shown was permitted when it was entered**, in every visit, whatever is asked for and however
the session changes between the calls of the guard. -/
theorem visit_sound (asked : List (String × (Nat → Session))) : (visit m asked).Sound m := by
  have hall : ∀ (asked : List (String × (Nat → Session))) (v : Visit), v.Sound m → (asked.foldl (Visit.push m) v).Sound m := by
    intro asked
    induction asked with
    | nil => exact fun v h => h
    | cons a asked ih => exact fun v h => ih _ (h.push m a)
  exact hall asked _ ⟨fun e he => (nomatch he), rfl⟩

theorem sampleVisit_sound :
    ((visit sampleMatcher sampleVisit).entered.map Prod.fst = ["/dashboard", "/computer", "/login"] ∧
      (visit sampleMatcher sampleVisit).page = some "/login") ∧
    ∀ e ∈ (visit sampleMatcher sampleVisit).entered,
      Permitted sampleDisabled e.2 (sampleMatcher.resolve e.1) :=
  ⟨by decide, (visit_sound sampleMatcher sampleVisit).permitted⟩

end

end Lider.Console
