import LiderPlatform.PyGenerators
/-!
# RuntimeDb — connections to the runtime database (`platform_runtime/runtime_db.py`)

`RuntimeDbAdapter.connect` tries its hosts in turn and hands out the first connection that opens.  The `except` around the
attempt stands around the `yield` too: an exception of the caller's block is taken for a failed attempt, and the loop goes
on to the next host.  `connect_correct_iff` says for which blocks that does not matter, where closing a connection raises
nothing.
-/
namespace Lider

open Py

/-! ## Connecting -/

/-- The exceptions a block over `connect` may end with; `E` are those that connecting or the block itself raise. -/
inductive DbError (E : Type) where
  | outside (e : E)
  | unableToConnect (message : String)
  | generatorExit
  | contextlib (message : String)
deriving DecidableEq

def dbErrors {E : Type} : GenErrors (DbError E) where
  generatorExit := .generatorExit
  ignoredExit := .contextlib "generator ignored GeneratorExit"
  didntYield := .contextlib "generator didn't yield"
  didntStop := .contextlib "generator didn't stop"
  didntStopAfterThrow := .contextlib "generator didn't stop after throw()"

/-- What happens to the connections, each known by the place of its host in the list; `closed` is a `close()` that
returned. -/
inductive DbEvent where
  | opened (host : Nat)
  | ran (host : Nat)
  | closed (host : Nat)
deriving DecidableEq

/-- A candidate host, with the outcomes of `pymysql.connect` on it and of `close()` on the connection. -/
structure DbHost (E : Type) where
  host : String
  port : Nat
  connects : Except E Unit
  closes : Except E Unit

section
variable {E : Type} (isException : E → Bool) (str : E → String)

/-- Whether `except Exception` catches it. -/
def DbError.caught : DbError E → Bool
  | .outside e => isException e
  | .generatorExit => false
  | _ => true

/-- `str(exc)`. -/
def DbError.message : DbError E → String
  | .outside e => str e
  | .unableToConnect message => message
  | .generatorExit => ""
  | .contextlib message => message

def unableToConnect (lastError : Option (DbError E)) : DbError E :=
  .unableToConnect ("Unable to connect to MariaDB runtime state: " ++
    match lastError with
    | none => "None"
    | some e => e.message str)

/-- The loop of `connect`, from the `k`-th host on. -/
def connectFrom : Nat → List (DbHost E) → Option (DbError E) → List DbEvent → Gen (List DbEvent) (DbError E) Nat
  | _, [], lastError, log => .raise (unableToConnect str lastError) log
  | k, h :: hosts, _, log =>
    match h.connects with
    | .error e =>
      if isException e then connectFrom (k + 1) hosts (some (.outside e)) log else .raise (.outside e) log
    | .ok () => .wait k (log ++ [.opened k])
      (fun log =>
        match h.closes with
        | .ok () => .stop (log ++ [.closed k])
        -- the `return` is given up for the exception of `close()`
        | .error e =>
          if isException e then connectFrom (k + 1) hosts (some (.outside e)) log else .raise (.outside e) log)
      (fun exc log =>
        -- `finally` closes the connection before the `except` around it sees the exception
        match h.closes with
        | .ok () =>
          if exc.caught isException then connectFrom (k + 1) hosts (some exc) (log ++ [.closed k])
          else .raise exc (log ++ [.closed k])
        | .error e =>
          if isException e then connectFrom (k + 1) hosts (some (.outside e)) log else .raise (.outside e) log)

/-- `RuntimeDbAdapter.connect`. -/
def connect (hosts : List (DbHost E)) (log : List DbEvent) : Gen (List DbEvent) (DbError E) Nat :=
  connectFrom isException str 0 hosts none log

variable {α : Type} [DecidableEq E]

/-- `with adapter.connect() as connection: body`, with what happened to the connections. -/
def withConnect (hosts : List (DbHost E)) (body : Nat → Except E α) : Except (DbError E) (Option α) × List DbEvent :=
  Gen.withBlock dbErrors (connect isException str hosts)
    (fun connection log => ((body connection).mapError .outside, log ++ [.ran connection])) []

/-! ## What a block over `connect` should do -/

/-- The host from the `k`-th on whose connection is handed out: the first that connects, unless something that is no
`Exception` ends the loop before. -/
def firstConnected : Nat → List (DbHost E) → Option Nat
  | _, [] => none
  | k, h :: hosts =>
    match h.connects with
    | .error e => if isException e then firstConnected (k + 1) hosts else none
    | .ok () => some k

def DbHost.Fails (h : DbHost E) : Prop := ∃ e, h.connects = .error e ∧ isException e = true

/-- `close()` on a connection that is open raises nothing. -/
def DbHost.ClosesQuietly (h : DbHost E) : Prop := h.closes = .ok ()

structure ConnectCorrect (hosts : List (DbHost E)) (body : Nat → Except E α)
    (run : Except (DbError E) (Option α) × List DbEvent) : Prop where
  runs : run.2.filterMap (fun event => match event with | .ran k => some k | _ => none) =
    (firstConnected isException 0 hosts).toList
  propagates : ∀ k e, DbEvent.ran k ∈ run.2 → body k = .error e → run.1 = .error (.outside e)
  closes : ∀ k, DbEvent.opened k ∈ run.2 → DbEvent.closed k ∈ run.2
  unable : (∃ message, run.1 = .error (.unableToConnect message)) ↔ ∀ h ∈ hosts, h.Fails isException

/-! ## The loop from any host on -/

/-- The generator at its `yield` on the `k`-th host, where closing raises nothing. -/
def waiting (k : Nat) (hosts : List (DbHost E)) (log : List DbEvent) : Gen (List DbEvent) (DbError E) Nat :=
  .wait k (log ++ [.opened k]) (fun log => .stop (log ++ [.closed k]))
    (fun exc log =>
      if exc.caught isException then connectFrom isException str (k + 1) hosts (some exc) (log ++ [.closed k])
      else .raise exc (log ++ [.closed k]))

omit [DecidableEq E] in
/-- **The loop raises without opening a connection, or waits at the first host that connects.** -/
theorem connectFrom_cases : ∀ (hosts : List (DbHost E)) (k : Nat) (lastError : Option (DbError E)) (log : List DbEvent),
    (∀ h ∈ hosts, h.ClosesQuietly) →
    (firstConnected isException k hosts = none ∧ ∃ exc, connectFrom isException str k hosts lastError log = .raise exc log ∧
        (((∃ message, exc = .unableToConnect message) ∧ ∀ h ∈ hosts, h.Fails isException) ∨
          ((∃ e, exc = .outside e ∧ isException e = false) ∧ ¬ ∀ h ∈ hosts, h.Fails isException))) ∨
      ∃ j rest, firstConnected isException k hosts = some j ∧ (¬ ∀ h ∈ hosts, h.Fails isException) ∧
        (∀ h ∈ rest, h.ClosesQuietly) ∧
        connectFrom isException str k hosts lastError log = waiting isException str j rest log
  | [], k, lastError, log, _ =>
    Or.inl ⟨rfl, _, rfl, Or.inl ⟨⟨_, rfl⟩, fun h hh => (nomatch hh)⟩⟩
  | h :: hosts, k, lastError, log, hclose => by
    have ih := connectFrom_cases hosts (k + 1)
    obtain ⟨hh, hclose⟩ := List.forall_mem_cons.mp hclose
    rw [connectFrom, firstConnected]
    cases hc : h.connects with
    | ok u =>
      refine Or.inr ⟨k, hosts, rfl, fun hall => ?_, hclose, ?_⟩
      · obtain ⟨e, he, -⟩ := hall h List.mem_cons_self
        rw [hc] at he
        cases he
      · rw [DbHost.ClosesQuietly] at hh
        simp only [hh]
        rfl
    | error e =>
      cases hexc : isException e with
      | false =>
        refine Or.inl ⟨by simp [hexc], .outside e, by simp [hexc], Or.inr ⟨⟨e, rfl, hexc⟩, fun hall => ?_⟩⟩
        obtain ⟨e', he', hexc'⟩ := hall h List.mem_cons_self
        rw [hc] at he'
        cases he'
        rw [hexc] at hexc'
        cases hexc'
      | true =>
        have hfails : (∀ h' ∈ h :: hosts, h'.Fails isException) ↔ ∀ h' ∈ hosts, h'.Fails isException := by
          rw [List.forall_mem_cons]
          exact and_iff_right ⟨e, hc, hexc⟩
        simp only [hexc, if_true, hfails]
        exact ih (some (.outside e)) log hclose

/-! ## The block -/

/-- The body ends in a way that does not reach the loop as a failed attempt. -/
def BodyPassesThrough (hosts : List (DbHost E)) (body : Nat → Except E α) : Prop :=
  ∀ k e, firstConnected isException 0 hosts = some k → body k = .error e → isException e = false

/-- What a block does whose body raises what the loop catches: it raises another exception, once the connections are
closed. -/
theorem withConnect_swallowed (hosts : List (DbHost E)) (body : Nat → Except E α) {k : Nat} {e : E}
    (hclose : ∀ h ∈ hosts, h.ClosesQuietly) (hk : firstConnected isException 0 hosts = some k) (hbody : body k = .error e)
    (he : isException e = true) :
    DbEvent.ran k ∈ (withConnect isException str hosts body).2 ∧
      (withConnect isException str hosts body).1 ≠ .error (.outside e) := by
  rcases connectFrom_cases isException str hosts 0 none [] hclose with ⟨hnone, -⟩ | ⟨j, rest, hj, -, hrest, hwait⟩
  · rw [hnone] at hk
    cases hk
  obtain rfl : k = j := Option.some.inj (hk.symm.trans hj)
  have hran : (body k).mapError DbError.outside = .error (.outside e) := by rw [hbody]; rfl
  have hcaught : (DbError.outside e).caught isException = true := he
  rcases connectFrom_cases isException str rest (k + 1) (some (.outside e)) [.opened k, .ran k, .closed k] hrest with
    ⟨-, exc, hraise, hexc⟩ | ⟨j, rest', -, -, -, hwait'⟩
  · have hrun : withConnect isException str hosts body = (.error exc, [.opened k, .ran k, .closed k]) :=
      Gen.withBlock_passed dbErrors hwait (by simp only [hran]; rfl) (by simp only [hcaught, if_true]; exact hraise)
    rw [hrun]
    refine ⟨by simp, ?_⟩
    rcases hexc with ⟨⟨message, rfl⟩, -⟩ | ⟨⟨e', rfl, he'⟩, -⟩
    · simp
    · simp only [ne_eq, Except.error.injEq, DbError.outside.injEq]
      rintro rfl
      rw [he] at he'
      cases he'
  · have hrun : withConnect isException str hosts body =
        (.error (.contextlib "generator didn't stop after throw()"),
          [.opened k, .ran k, .closed k, .opened j, .closed j]) := by
      refine Gen.withBlock_waiting dbErrors hwait (by simp only [hran]; rfl) ((if_pos hcaught).trans hwait') ?_
      rfl
    rw [hrun]
    exact ⟨by simp, by simp⟩

omit [DecidableEq E] in
/-- A block that opens one connection, runs its body on it and closes it is right when it ends as the body does. -/
theorem connectCorrect_single {hosts : List (DbHost E)} {body : Nat → Except E α} {k : Nat}
    {result : Except (DbError E) (Option α)} (hk : firstConnected isException 0 hosts = some k)
    (hfails : ¬ ∀ h ∈ hosts, h.Fails isException) (hraises : ∀ e, body k = .error e → result = .error (.outside e))
    (hnot : ∀ message, result ≠ .error (.unableToConnect message)) :
    ConnectCorrect isException hosts body (result, [.opened k, .ran k, .closed k]) where
  runs := by rw [hk]; rfl
  propagates := by
    intro j e hj hbody
    obtain rfl : j = k := by simpa using hj
    exact hraises e hbody
  closes := by
    intro j hj
    obtain rfl : j = k := by simpa using hj
    simp
  unable := iff_of_false (fun ⟨message, h⟩ => hnot message h) hfails

/-- **A block over `connect` behaves exactly when its body, on the first host that connects, returns or raises what is
no `Exception`.** -/
theorem connect_correct_iff (hosts : List (DbHost E)) (body : Nat → Except E α)
    (hclose : ∀ h ∈ hosts, h.ClosesQuietly) :
    ConnectCorrect isException hosts body (withConnect isException str hosts body) ↔
      BodyPassesThrough isException hosts body := by
  constructor
  · intro hcorrect k e hk hbody
    cases he : isException e with
    | false => rfl
    | true =>
      obtain ⟨hran, hne⟩ := withConnect_swallowed isException str hosts body hclose hk hbody he
      exact absurd (hcorrect.propagates k e hran hbody) hne
  · intro hpass
    rcases connectFrom_cases isException str hosts 0 none [] hclose with
      ⟨hnone, exc, hraise, hexc⟩ | ⟨k, rest, hk, hfails, -, hwait⟩
    · have hrun : withConnect isException str hosts body = (.error exc, []) := Gen.withBlock_raise dbErrors hraise
      rw [hrun]
      refine ⟨by rw [hnone]; rfl, fun k e h => (nomatch h), fun k h => (nomatch h), ?_⟩
      rcases hexc with ⟨⟨message, rfl⟩, hall⟩ | ⟨⟨e, rfl, -⟩, hnot⟩
      · exact iff_of_true ⟨message, rfl⟩ hall
      · exact iff_of_false (fun ⟨message, h⟩ => by cases h) hnot
    · cases hbody : body k with
      | ok a =>
        have hran : (body k).mapError DbError.outside = .ok a := by rw [hbody]; rfl
        have hrun : withConnect isException str hosts body = (.ok (some a), [.opened k, .ran k, .closed k]) :=
          Gen.withBlock_ok dbErrors hwait (by simp only [hran]; rfl) rfl
        rw [hrun]
        refine connectCorrect_single isException hk hfails (fun e hraised => ?_) (fun message h => by cases h)
        rw [hbody] at hraised
        cases hraised
      | error e =>
        have hran : (body k).mapError DbError.outside = .error (.outside e) := by rw [hbody]; rfl
        have hcaught : (DbError.outside e).caught isException = false := hpass k e hk hbody
        have hrun : withConnect isException str hosts body =
            (.error (.outside e), [.opened k, .ran k, .closed k]) :=
          Gen.withBlock_passed dbErrors hwait (by simp only [hran]; rfl)
            (by simp only [hcaught, Bool.false_eq_true, if_false]; rfl)
        rw [hrun]
        refine connectCorrect_single isException hk hfails (fun e' hraised => ?_) (fun message h => by cases h)
        rw [hbody] at hraised
        cases hraised
        rfl

end

/-! ## Blocks over three hosts -/

/-- Nothing listens on the first host. -/
def threeHosts : List (DbHost String) :=
  [⟨"127.0.0.1", 3306, .error "OperationalError", .ok ()⟩, ⟨"172.18.0.2", 3306, .ok (), .ok ()⟩,
    ⟨"172.18.0.3", 3306, .ok (), .ok ()⟩]

theorem threeHosts_closeQuietly : ∀ h ∈ threeHosts, h.ClosesQuietly := by
  simp [threeHosts, DbHost.ClosesQuietly]

/-- A query that the user interrupts. -/
def interrupted (_connection : Nat) : Except String Unit := .error "KeyboardInterrupt"

/-- The interrupted block is right: it ends with the interrupt, on the second host. -/
theorem interrupted_correct :
    ConnectCorrect (· ≠ "KeyboardInterrupt") threeHosts interrupted
        (withConnect (· ≠ "KeyboardInterrupt") id threeHosts interrupted) ∧
      withConnect (· ≠ "KeyboardInterrupt") id threeHosts interrupted =
        (.error (.outside "KeyboardInterrupt"), [.opened 1, .ran 1, .closed 1]) := by
  refine ⟨(connect_correct_iff _ id threeHosts interrupted threeHosts_closeQuietly).mpr ?_, rfl⟩
  rintro k e - hbody
  cases hbody
  rfl

def failingQuery (_connection : Nat) : Except String Unit := .error "ProgrammingError"

/-- **The error of the query is replaced by one of the protocol.** -/
theorem failingQuery_lost : ¬ ConnectCorrect (fun _ => true) threeHosts failingQuery
    (withConnect (fun _ => true) id threeHosts failingQuery) := by
  intro h
  obtain ⟨hran, hne⟩ := withConnect_swallowed (fun _ => true) id threeHosts failingQuery (k := 1)
    threeHosts_closeQuietly rfl rfl rfl
  exact hne (h.propagates 1 "ProgrammingError" hran rfl)

end Lider
