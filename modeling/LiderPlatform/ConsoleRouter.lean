import Mathlib.Logic.Basic
/-!
# ConsoleRouter — the routes of the console and their guard (`services/liderui/patches/src/router/index.js`)

A feature may be switched off for the whole console; its routes are then replaced when the table is built, and its roles
permit nothing.  The guard runs before every navigation and sends it elsewhere when a matched record asks for a feature,
a token or a role that is not there.  How the router matches a path with the table is a `Matcher`.
-/
namespace Lider.Console

/-! ## Features (`services/FeatureFlags.js`) -/

/-- What `String.prototype.trim` removes: white space and line terminators. -/
def isJsSpace (c : Char) : Bool :=
  (0x09 ≤ c.toNat && c.toNat ≤ 0x0D) || c.toNat ∈ [0x20, 0xA0, 0x1680, 0x2028, 0x2029, 0x202F, 0x205F, 0x3000, 0xFEFF] ||
    (0x2000 ≤ c.toNat && c.toNat ≤ 0x200A)

/-- `s.trim()`. -/
def trim (s : String) : String :=
  String.ofList ((s.toList.dropWhile isJsSpace).reverse.dropWhile isJsSpace).reverse

/-- `s.split(",")`. -/
def splitCommas (s : String) : List String := (s.toList.splitOn ',').map String.ofList

/-- `disabledFeatures`, from `UI_DISABLED_FEATURES` if the page sets it. -/
def disabledFeatures (uiDisabledFeatures : Option String) : List String :=
  ((splitCommas (uiDisabledFeatures.getD "")).map trim).filter (fun value => value ≠ "")

def roleFeatureMap : List (String × String) :=
  [("ROLE_AD_SYNC", "ad"), ("ROLE_CONKY_DEFINITION", "conky"), ("ROLE_DEVICE_MANAGEMENT", "usb"),
    ("ROLE_LOGIN_MANAGER", "ldap-login"), ("ROLE_MANAGE_ROOT", "manage-root"), ("ROLE_REMOTE_ACCESS", "remote-access"),
    ("ROLE_SEND_MESSAGE", "conky"), ("ROLE_SERVICE_MANAGEMENT", "service-management"),
    ("ROLE_SESSION_POWER", "session-power"), ("ROLE_USB_RULE", "usb"), ("ROLE_FILE_TRANSFER", "file-transfer")]

section
variable (uiDisabledFeatures : Option String)

/-- `isFeatureEnabled`. -/
def isFeatureEnabled (feature : Option String) : Bool :=
  !(disabledFeatures uiDisabledFeatures).contains (trim (feature.getD ""))

/-- `isRoleEnabled`. -/
def isRoleEnabled (role : String) : Bool :=
  match roleFeatureMap.lookup role with
  | some feature => isFeatureEnabled uiDisabledFeatures (some feature)
  | none => true

/-! ## Roles (`services/Roles/RoleManagement.js`) -/

/-- What the browser holds: `auth_token` of its storage, and the privileges of the user in the store. -/
structure Session where
  authToken : Option String
  priviliges : Option (List String)

/-- `getUserRole`. -/
def Session.userRole (session : Session) : List String := session.priviliges.getD []

/-- `hasAnyRole`, with the administrator's override. -/
def hasAnyRole (session : Session) (requiredRoles : List String) : Bool :=
  if requiredRoles.isEmpty then true
  else
    let enabledRoles := requiredRoles.filter (isRoleEnabled uiDisabledFeatures)
    if enabledRoles.isEmpty then false
    else if session.userRole.contains "ROLE_ADMIN" then true
    else enabledRoles.any (fun role => session.userRole.contains role)

/-! ## Routes -/

structure Meta where
  requiresAuth : Bool
  feature : Option String
  roles : List String

structure RouteRecord where
  path : String
  redirect : Option String
  meta_ : Meta

/-- A route of the table with its children. -/
structure Route where
  record : RouteRecord
  children : List RouteRecord

/-- A page with a view for users with one of the roles. -/
def page (path : String) (roles : List String) : RouteRecord := ⟨path, none, ⟨true, none, roles⟩⟩

/-- A page that anyone may open. -/
def guestPage (path : String) : RouteRecord := ⟨path, none, ⟨false, none, []⟩⟩

/-- `featureGate`. -/
def featureGate (record : RouteRecord) (feature : String) : RouteRecord :=
  if isFeatureEnabled uiDisabledFeatures (some feature) then record
  else ⟨record.path, some "/dashboard", ⟨true, none, []⟩⟩

def remoteAccess : RouteRecord := ⟨"/remote-access", none, ⟨true, some "remote-access", ["ROLE_REMOTE_ACCESS"]⟩⟩

def systemMonitoringDefinitions : RouteRecord :=
  ⟨"/settings/system-monitoring-definitions", none, ⟨true, some "conky", ["ROLE_CONKY_DEFINITION"]⟩⟩

/-- The parent of the pages, which has no `meta`. -/
def dashboards : RouteRecord := ⟨"/", some "/dashboard", ⟨false, none, []⟩⟩

/-- The parent of the pages for guests. -/
def authLayout : RouteRecord := ⟨"/", some "/", ⟨false, none, []⟩⟩

def dashboard : RouteRecord := page "/dashboard" []

def login : RouteRecord := guestPage "/login"

def routes : List Route :=
  [⟨featureGate uiDisabledFeatures remoteAccess "remote-access", []⟩,
    ⟨dashboards,
      [dashboard,
        page "/computer" ["ROLE_COMPUTERS"],
        page "/user" ["ROLE_USERS"],
        page "/reports/agent" ["ROLE_AGENT_INFO"],
        page "/reports/task" ["ROLE_EXECUTED_TASK"],
        page "/reports/logs" ["ROLE_OPERATION_LOG"],
        page "/reports/scheduled" ["ROLE_SCHEDULE_TASK_REPORT"],
        page "/reports/session" ["ROLE_USER_SESSION_REPORT"],
        page "/settings/server-settings" ["ROLE_SERVER_SETTINGS"],
        featureGate uiDisabledFeatures systemMonitoringDefinitions "conky",
        page "/settings/script-definitions" ["ROLE_SCRIPT_DEFINITION"],
        page "/settings/registration-templates" ["ROLE_REGISTRATION_TEMPLATE"],
        page "/settings/console-user-settings" ["ROLE_CONSOLE_ACCESS_SETTINGS"],
        page "/settings/server-informations" ["ROLE_SERVER_INFORMATION"],
        page "/user-profile" ["ROLE_USER"],
        page "/policy" ["ROLE_POLICY"]]⟩,
    ⟨authLayout, [login, guestPage "/forgot-password", guestPage "/forgot-password/id/:uuid"]⟩]

/-- The records that can match together: a record of the table, or one with a child of its. -/
def chains (table : List Route) : List (List RouteRecord) :=
  table.flatMap (fun route => route.children.map (fun child => [route.record, child]) ++ [[route.record]])

def pathOf (matched : List RouteRecord) : Option String := matched.getLast?.map RouteRecord.path

/-- The router's matching of paths: a path leads to records that can match together, if to any; the path of a record
leads to the first such record.  `sameLocation` is the router's test for a navigation to where it is. -/
structure Matcher (table : List Route) where
  resolve : String → List RouteRecord
  sameLocation : String → String → Bool
  known : ∀ path, resolve path = [] ∨ resolve path ∈ chains table
  literal : ∀ path matched, (chains table).find? (fun matched => pathOf matched = some path) = some matched →
    resolve path = matched

/-! ## Navigation -/

inductive Next where
  | proceed
  | redirect (path : String)

def hasDisabledFeature (matched : List RouteRecord) : Bool :=
  matched.any (fun record =>
    record.meta_.feature.any (fun feature => feature ≠ "") && !isFeatureEnabled uiDisabledFeatures record.meta_.feature)

def requiredRoles (matched : List RouteRecord) : List String :=
  (matched.flatMap (fun record => record.meta_.roles)).filter (fun role => role ≠ "")

/-- `router.beforeEach`. -/
def beforeEach (session : Session) (matched : List RouteRecord) : Next :=
  if hasDisabledFeature uiDisabledFeatures matched then .redirect "/dashboard"
  else if matched.any (fun record => record.meta_.requiresAuth) then
    if session.authToken ≠ none ∧ session.authToken ≠ some "" then
      if 0 < (requiredRoles matched).length then
        if !hasAnyRole uiDisabledFeatures session (requiredRoles matched) then .redirect "/dashboard" else .proceed
      else .proceed
    else .redirect "/login"
  else .proceed

/-- Where a navigation ends: at a page that the guard let pass, at its `call`-th call, or at the page it started from. -/
inductive Landing where
  | entered (path : String) (call : Nat)
  | stayed

/-- A navigation of the router from the page `from_`, as its documentation has it: a record's own redirection comes first;
a navigation to where the router is ends; then the guard decides, with the session that it finds at its `call`-th call,
and a redirection of its is a navigation of its own. -/
def navigate (m : Matcher (routes uiDisabledFeatures)) (sessions : Nat → Session) (from_ : Option String) :
    Nat → Nat → String → Option Landing
  | 0, _, _ => none
  | fuel + 1, call, path =>
    match (m.resolve path).getLast?.bind RouteRecord.redirect with
    | some target => navigate m sessions from_ fuel call target
    | none =>
      if from_.any (fun here => m.sameLocation here path) then some .stayed
      else
        match beforeEach uiDisabledFeatures (sessions call) (m.resolve path) with
        | .proceed => some (.entered path call)
        | .redirect target => navigate m sessions from_ fuel (call + 1) target

end

end Lider.Console
