import LiderPlatform.PyBlocks
import LiderPlatform.PyJsonLoads
import Mathlib.Logic.Function.Basic
/-!
# EjabberdExporter — the request counters of the metrics exporter (`services/ejabberd-exporter/exporter.py`)

`api_call` counts a call as a success once the body is decoded, and then parses it: a body that is not JSON is counted
again, as an error.  `apiCalls_accounted_iff` says that nothing else goes wrong with the counters.
-/
namespace Lider

open Py

/-! ## A call -/

/-- A value of `API_STATS`. -/
structure EndpointStats where
  success : Nat
  error : Nat
  lastDuration : ℚ
  lastSuccess : ℚ
  lastStatus : Int

def EndpointStats.initial : EndpointStats := ⟨0, 0, 0, 0, 0⟩

/-- What the `try` block of `api_call` may raise: an `HTTPError` with its code, or another exception. -/
inductive UrlError where
  | httpError (code : Int)
  | other

def UrlError.status : UrlError → Int
  | .httpError code => code
  | .other => 0

/-- A response: its status, if it has one, and what reading its body gives. -/
structure UrlResponse where
  status : Option Int
  body : Except UrlError ByteArray

/-- One invocation: the endpoint, what `urlopen` gives, and the readings of the clock. -/
structure ExporterCall where
  endpoint : String
  urlopen : Except UrlError UrlResponse
  started : ℚ
  answered : ℚ
  finished : ℚ

def decodeUtf8 (body : ByteArray) : Except UrlError Text :=
  match body.utf8Decode? with
  | none => .error .other
  | some text => .ok text.toList

section
variable (nt : NumText)

/-- The `try` block, up to the decoded body. -/
def ExporterCall.fetch (c : ExporterCall) : Except UrlError (Option Int × Text) := do
  let resp ← c.urlopen
  let bytes ← resp.body
  let body ← decodeUtf8 bytes
  return (resp.status, body)

/-- The `try` block: the success is counted before the body is parsed. -/
def ExporterCall.attempt (c : ExporterCall) : Block EndpointStats UrlError (Option Json) := do
  let fetched ← Block.ofExcept c.fetch
  Block.assign (fun stats => { stats with success := stats.success + 1 })
  Block.assign (fun stats => { stats with lastSuccess := c.answered })
  Block.assign (fun stats => { stats with lastStatus := fetched.1.getD 200 })
  let value ← Block.ofExcept ((loads nt fetched.2).mapError (fun _ => UrlError.other))
  return some value

/-- `api_call`, over the counters of its endpoint; `none` is the `None` of the `except` clauses. -/
def apiCall (c : ExporterCall) : Block EndpointStats UrlError (Option Json) := do
  let result ← Block.tryExcept (c.attempt nt) (fun exc => do
    Block.assign (fun stats => { stats with error := stats.error + 1 })
    Block.assign (fun stats => { stats with lastStatus := exc.status })
    return none)
  Block.assign (fun stats => { stats with lastDuration := c.finished - c.started })
  return result

/-- The exporter: `API_STATS`, and what the calls made so far returned. -/
structure Exporter where
  stats : String → EndpointStats
  returned : List (String × Option Json)

def Exporter.initial : Exporter := ⟨fun _ => .initial, []⟩

def Exporter.call (s : Exporter) (c : ExporterCall) : Exporter :=
  let r := apiCall nt c (s.stats c.endpoint)
  { stats := Function.update s.stats c.endpoint r.2
    returned := s.returned ++ [(c.endpoint, match r.1 with
      | .ok value => value
      | .error _ => none)] }

def Exporter.run (calls : List ExporterCall) : Exporter := calls.foldl (Exporter.call nt) .initial

/-- The body of the response is text that `loads` refuses: no JSON document, or an integer of too many digits in it. -/
def ExporterCall.Garbled (c : ExporterCall) : Prop :=
  ∃ status body e, c.fetch = .ok (status, body) ∧ loads nt body = .error e

end

def Exporter.answers (s : Exporter) (endpoint : String) : List (Option Json) :=
  (s.returned.filter (fun r => r.1 = endpoint)).map Prod.snd

def Exporter.Accounted (s : Exporter) : Prop :=
  ∀ endpoint, (s.stats endpoint).success + (s.stats endpoint).error = (s.answers endpoint).length ∧
    (s.stats endpoint).success = (s.answers endpoint).countP Option.isSome

/-- The timestamp of an endpoint moves only on a call of it that returned a parsed body. -/
def Exporter.Advances (s s' : Exporter) : Prop :=
  ∀ endpoint, (s'.stats endpoint).lastSuccess ≠ (s.stats endpoint).lastSuccess →
    ∃ value, s'.returned = s.returned ++ [(endpoint, some value)]

/-- The accounts are right after every call, and every call moves timestamps rightly. -/
structure AccountingLaw (nt : NumText) (calls : List ExporterCall) : Prop where
  accounted : ∀ done, done <+: calls → (Exporter.run nt done).Accounted
  advances : ∀ done c, done ++ [c] <+: calls → (Exporter.run nt done).Advances (Exporter.run nt (done ++ [c]))

/-! ## What one call does -/

section
variable (nt : NumText)

theorem apiCall_of_error {c : ExporterCall} {exc : UrlError} {stats stats' : EndpointStats}
    (h : c.attempt nt stats = (.error exc, stats')) :
    apiCall nt c stats = (.ok none, { stats' with
      error := stats'.error + 1
      lastStatus := exc.status
      lastDuration := c.finished - c.started }) := by
  unfold apiCall
  rw [Block.bind_of_ok ((Block.tryExcept_of_error h _).trans rfl)]
  rfl

theorem apiCall_of_ok {c : ExporterCall} {value : Json} {stats stats' : EndpointStats}
    (h : c.attempt nt stats = (.ok (some value), stats')) :
    apiCall nt c stats = (.ok (some value), { stats' with lastDuration := c.finished - c.started }) := by
  unfold apiCall
  rw [Block.bind_of_ok (Block.tryExcept_of_ok h _)]
  rfl

/-- The three ways an attempt ends: it fetches no body, the body is JSON, or it is not. -/
theorem attempt_cases (c : ExporterCall) (stats : EndpointStats) :
    ((∃ exc, c.attempt nt stats = (.error exc, stats)) ∧ ¬ c.Garbled nt) ∨
    ((∃ value status, c.attempt nt stats = (.ok (some value), { stats with
        success := stats.success + 1
        lastSuccess := c.answered
        lastStatus := status })) ∧ ¬ c.Garbled nt) ∨
    ((∃ status, c.attempt nt stats = (.error .other, { stats with
        success := stats.success + 1
        lastSuccess := c.answered
        lastStatus := status })) ∧ c.Garbled nt) := by
  unfold ExporterCall.attempt ExporterCall.Garbled
  cases hf : c.fetch with
  | error exc => exact .inl ⟨⟨exc, rfl⟩, fun ⟨_, _, _, h, _⟩ => nomatch h⟩
  | ok fetched =>
    obtain ⟨status, body⟩ := fetched
    cases hl : loads nt body with
    | ok value =>
      refine .inr (.inl ⟨⟨value, status.getD 200, ?_⟩, ?_⟩)
      · refine (Block.bind_of_ok rfl _).trans ?_
        simp only [hl]
        rfl
      · rintro ⟨status', body', e, h, he⟩
        cases h
        rw [hl] at he
        cases he
    | error e =>
      refine .inr (.inr ⟨⟨status.getD 200, ?_⟩, status, body, e, rfl, hl⟩)
      refine (Block.bind_of_ok rfl _).trans ?_
      simp only [hl]
      rfl

/-! ## What it does to the accounts -/

variable {nt}

theorem call_of_apiCall {s : Exporter} {c : ExporterCall} {answer : Option Json} {stats' : EndpointStats}
    (h : apiCall nt c (s.stats c.endpoint) = (.ok answer, stats')) :
    s.call nt c = ⟨Function.update s.stats c.endpoint stats', s.returned ++ [(c.endpoint, answer)]⟩ := by
  rw [Exporter.call, h]

theorem answers_append (s : Exporter) (stats : String → EndpointStats) (endpoint : String) (answer : Option Json)
    (e : String) : (Exporter.mk stats (s.returned ++ [(endpoint, answer)])).answers e =
      s.answers e ++ if endpoint = e then [answer] else [] := by
  unfold Exporter.answers
  rw [List.filter_append, List.map_append]
  by_cases h : endpoint = e <;> simp [h]

/-- The accounts after a call that counts `ok` successes and `failed` errors. -/
theorem accounted_call_iff {s : Exporter} (hs : s.Accounted) {c : ExporterCall} {answer : Option Json}
    {stats' : EndpointStats} (h : apiCall nt c (s.stats c.endpoint) = (.ok answer, stats')) (ok failed : Nat)
    (hok : stats'.success = (s.stats c.endpoint).success + ok)
    (hfailed : stats'.error = (s.stats c.endpoint).error + failed) :
    (s.call nt c).Accounted ↔ ok + failed = 1 ∧ ok = if answer.isSome then 1 else 0 := by
  have hself := hs c.endpoint
  rw [call_of_apiCall h]
  unfold Exporter.Accounted
  constructor
  · intro hafter
    have hafter := hafter c.endpoint
    rw [answers_append, if_pos rfl] at hafter
    simp only [Function.update_self, List.length_append, List.length_singleton, List.countP_append,
      List.countP_singleton, hok, hfailed] at hafter
    exact ⟨by have := hself.1; omega, by have := hself.2; omega⟩
  · rintro ⟨hone, hanswer⟩ e
    rw [answers_append]
    by_cases he : e = c.endpoint
    · subst he
      rw [if_pos rfl]
      simp only [Function.update_self, List.length_append, List.length_singleton, List.countP_append,
        List.countP_singleton, hok, hfailed]
      exact ⟨by have := hself.1; omega, by have := hself.2; omega⟩
    · rw [if_neg (Ne.symm he), List.append_nil]
      simp only [Function.update_of_ne he]
      exact hs e

/-- A call that leaves the timestamp of its endpoint, or returns a parsed body, moves timestamps rightly. -/
theorem advances_call {s : Exporter} {c : ExporterCall} {answer : Option Json} {stats' : EndpointStats}
    (h : apiCall nt c (s.stats c.endpoint) = (.ok answer, stats'))
    (hmoves : stats'.lastSuccess = (s.stats c.endpoint).lastSuccess ∨ ∃ value, answer = some value) :
    s.Advances (s.call nt c) := by
  intro e hmoved
  rw [call_of_apiCall h] at hmoved ⊢
  by_cases he : e = c.endpoint
  · subst he
    simp only [Function.update_self] at hmoved
    obtain ⟨value, rfl⟩ := hmoves.resolve_left hmoved
    exact ⟨value, rfl⟩
  · simp only [Function.update_of_ne he] at hmoved
    exact absurd rfl hmoved

/-- **A call whose body is not garbled keeps the accounts**, and moves the timestamp only for a parsed body. -/
theorem call_keeps_accounts {s : Exporter} (hs : s.Accounted) {c : ExporterCall} (hc : ¬ c.Garbled nt) :
    (s.call nt c).Accounted ∧ s.Advances (s.call nt c) := by
  rcases attempt_cases nt c (s.stats c.endpoint) with ⟨⟨exc, h⟩, -⟩ | ⟨⟨value, status, h⟩, -⟩ | ⟨-, h⟩
  · have hcall := apiCall_of_error nt h
    exact ⟨(accounted_call_iff hs hcall 0 1 rfl rfl).2 (by simp), advances_call hcall (.inl rfl)⟩
  · have hcall := apiCall_of_ok nt h
    exact ⟨(accounted_call_iff hs hcall 1 0 rfl rfl).2 (by simp), advances_call hcall (.inr ⟨value, rfl⟩)⟩
  · exact absurd h hc

/-- **A garbled body is counted twice.** -/
theorem not_accounted_of_garbled {s : Exporter} (hs : s.Accounted) {c : ExporterCall} (hc : c.Garbled nt) :
    ¬ (s.call nt c).Accounted := by
  rcases attempt_cases nt c (s.stats c.endpoint) with ⟨-, h⟩ | ⟨-, h⟩ | ⟨⟨status, h⟩, -⟩
  · exact absurd hc h
  · exact absurd hc h
  · intro hafter
    have hone := (accounted_call_iff hs (apiCall_of_error nt h) 1 1 rfl rfl).1 hafter
    exact absurd hone.1 (by decide)

/-! ## Runs -/

theorem run_append (done : List ExporterCall) (c : ExporterCall) :
    Exporter.run nt (done ++ [c]) = (Exporter.run nt done).call nt c := by
  rw [Exporter.run, List.foldl_append]
  rfl

theorem accounted_initial : Exporter.initial.Accounted := fun _ => ⟨rfl, rfl⟩

/-- By induction on the calls made: none of them was garbled, so each kept the accounts. -/
theorem run_accounted {done : List ExporterCall} (h : ∀ c ∈ done, ¬ c.Garbled nt) : (Exporter.run nt done).Accounted := by
  induction done using List.reverseRecOn with
  | nil => exact accounted_initial
  | append_singleton done c ih =>
    rw [run_append]
    have hdone := ih (fun c' hc' => h c' (List.mem_append_left _ hc'))
    exact (call_keeps_accounts hdone (h c (List.mem_append_right _ List.mem_cons_self))).1

end

/-- **The counters account for every call, after every call, exactly when no body is text that is not JSON.** -/
theorem apiCalls_accounted_iff (nt : NumText) (calls : List ExporterCall) :
    AccountingLaw nt calls ↔ ∀ c ∈ calls, ¬ c.Garbled nt := by
  constructor
  · intro h c hc hgarbled
    obtain ⟨done, rest, rfl⟩ := List.append_of_mem hc
    have hafter := h.accounted (done ++ [c]) ⟨rest, by simp⟩
    rw [run_append] at hafter
    exact not_accounted_of_garbled (h.accounted done ⟨c :: rest, rfl⟩) hgarbled hafter
  · intro h
    refine ⟨fun done hdone => run_accounted (fun c hc => h c (hdone.subset hc)), fun done c hdone => ?_⟩
    have hmem : ∀ c' ∈ done ++ [c], ¬ c'.Garbled nt := fun c' hc' => h c' (hdone.subset hc')
    rw [run_append]
    exact (call_keeps_accounts (run_accounted (fun c' hc' => hmem c' (List.mem_append_left _ hc')))
      (hmem c (List.mem_append_right _ List.mem_cons_self))).2

/-- A response `502 Bad Gateway` sent with status 200. -/
def gatewayPage : ExporterCall where
  endpoint := "connected_users_number"
  urlopen := .ok ⟨some 200, .ok "Bad Gateway".toByteArray⟩
  started := 1
  answered := 2
  finished := 3

/-- **One page that is not JSON makes one call a success and an error.** -/
theorem gatewayPage_unaccounted : ¬ ∀ (nt : NumText) (calls : List ExporterCall), AccountingLaw nt calls := by
  intro h
  have hgarbled : gatewayPage.Garbled .bits := ⟨some 200, "Bad Gateway".toList, _, by rfl, by rfl⟩
  exact not_accounted_of_garbled accounted_initial hgarbled ((h .bits [gatewayPage]).accounted [gatewayPage] List.prefix_rfl)

end Lider
