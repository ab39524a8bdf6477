import Mathlib.Order.Basic

/-!
# Starting and stopping the orchestrator

`New` checks the port and builds the service. `Start` listens, hands the listener to the gRPC
server's `Serve` and installs the shutdown operation. `Close` runs that operation under a
`sync.Once` and keeps its error for every later call, so the operation runs at most once. The
operation's `GracefulStop` closes every listener the server was given, so its own `lis.Close()`
then fails on a closed listener: a `Close` that shuts the servers down always returns an error.
A `Close` that comes before any successful `Start` finds no operation and spends the once, and
the listeners of later `Start` calls are never closed.

`main` runs `Start` in one goroutine and `Close` in another, and a third shuts the telemetry
down after `Close`. The closer waits for a signal, or for the starter to cancel the context
after a failed `Start`. In every interleaving the goroutines stop moving only when all of them
have finished, or when the service serves and the closer waits for a signal. Every run of their
steps ends, and at the end the exit code is the number of failures. A process whose `Start`
succeeded ends with its listener still open, or with a non-zero exit code.
-/

namespace E2bInfra.Orchestrator

/-- `errors.Join` of the errors that are set: `nil` when none is, else their messages, one per
line. -/
def joinErrors (errs : List (Option String)) : Option String :=
  match errs.filterMap id with
  | [] => none
  | es => some ("\n".intercalate es)

/-- `math.MaxUint16`, the bound `New` checks. -/
def maxUint16 : ℕ := 65535

/-- `math.MaxInt16`, the bound `New`'s error names. -/
def maxInt16 : ℕ := 32767

/-- The service, by what `Start` and `Close` read and write: its port, whether its servers are
set, how many listeners of `Start` are open, whether the gRPC server has been stopped, and
`shutdown`: whether its `sync.Once` has run, whether an operation is installed, and the error
kept. `opRuns` counts the runs of the shutdown operation. -/
structure Service where
  port : ℕ
  initialized : Bool
  openListeners : ℕ
  grpcStopped : Bool
  onceDone : Bool
  op : Bool
  err : Option String
  opRuns : ℕ
  deriving DecidableEq, Repr

/-- `New(ctx, port)` (lines 60-136), with the errors of `template.NewCache`, `network.NewPool`
and the logger. -/
def new (port : ℕ) (cacheErr poolErr loggerErr : Option String) : Except String Service :=
  if port > maxUint16 then
    .error (toString port ++ " is larger than maximum possible port " ++ toString maxInt16)
  else
    match cacheErr, poolErr, loggerErr with
    | some e, _, _ => .error ("failed to create template cache: " ++ e)
    | none, some e, _ => .error ("failed to create network pool: " ++ e)
    | none, none, some e => .error ("initializing logger: " ++ e)
    | none, none, none => .ok ⟨port, true, 0, false, false, false, none, 0⟩

/-- `Start` (lines 139-182), with `listenErr` the error of `net.Listen`. `Serve` registers the
listener with the gRPC server; once `GracefulStop` has run, it closes the listener at once and
returns `ErrServerStopped`. The goroutines of the DNS server and of `Serve` are left out, and
with them the panic of the latter. -/
def Service.start (s : Service) (listenErr : Option String) : Service × Option String :=
  if !s.initialized then (s, some "orchestrator services are not initialized")
  else
    match listenErr with
    | some e => (s, some ("failed to listen on port " ++ toString s.port ++ ": " ++ e))
    | none =>
      ({ s with
          openListeners := if s.grpcStopped then s.openListeners else s.openListeners + 1
          op := true }, none)

/-- The error of `lis.Close()` on a listener of `net.Listen("tcp", ":port")` that is closed
already: the `OpError` of the close around `net.ErrClosed`. -/
def closedListenerError (port : ℕ) : String :=
  "close tcp [::]:" ++ toString port ++ ": use of closed network connection"

/-- `Close` (lines 184-196), with `dnsErr` the error of closing the DNS server in the shutdown
operation. The operation's `GracefulStop` closes every listener the gRPC server was given, so
the `lis.Close()` after it fails. `Serve` is taken to have registered its listener by the time
`Close` runs. -/
def Service.close (s : Service) (dnsErr : Option String) : Service × Option String :=
  if s.onceDone then (s, s.err)
  else if s.op then
    ({ s with
        onceDone := true
        op := false
        grpcStopped := true
        err := joinErrors [some (closedListenerError s.port), dnsErr]
        openListeners := 0
        opRuns := s.opRuns + 1 },
      joinErrors [some (closedListenerError s.port), dnsErr])
  else ({ s with onceDone := true }, s.err)

@[simp] theorem Service.start_initialized (s : Service) (listenErr : Option String) :
    (s.start listenErr).1.initialized = s.initialized := by
  unfold Service.start; split_ifs <;> cases listenErr <;> rfl

@[simp] theorem Service.close_initialized (s : Service) (dnsErr : Option String) :
    (s.close dnsErr).1.initialized = s.initialized := by
  unfold Service.close; split_ifs <;> rfl

@[simp] theorem Service.start_port (s : Service) (listenErr : Option String) :
    (s.start listenErr).1.port = s.port := by
  unfold Service.start; split_ifs <;> cases listenErr <;> rfl

@[simp] theorem Service.close_port (s : Service) (dnsErr : Option String) :
    (s.close dnsErr).1.port = s.port := by
  unfold Service.close; split_ifs <;> rfl

/-- `New` takes exactly the ports up to `math.MaxUint16` and keeps them as they are, since
`uint16(port)` does not wrap there. Its refusal names `math.MaxInt16`, 32767, as the largest
port. -/
theorem new_port {port : ℕ} {cacheErr poolErr loggerErr : Option String} :
    (port > maxUint16 → new port cacheErr poolErr loggerErr =
      .error (toString port ++ " is larger than maximum possible port 32767")) ∧
    ∀ s, new port cacheErr poolErr loggerErr = .ok s → port ≤ maxUint16 ∧ s.port = port := by
  refine ⟨fun h => by unfold new; rw [if_pos h, String.append_assoc]; rfl, fun s h => ?_⟩
  unfold new at h
  split_ifs at h with hp
  split at h <;> cases h
  exact ⟨by omega, rfl⟩

example : new 70000 none none none =
    .error "70000 is larger than maximum possible port 32767" :=
  rfl

/-- The service `New` builds: its servers set, no listener, and no shutdown operation. -/
theorem new_eq_ok {port : ℕ} {cacheErr poolErr loggerErr : Option String} {s : Service}
    (h : new port cacheErr poolErr loggerErr = .ok s) :
    s = ⟨port, true, 0, false, false, false, none, 0⟩ := by
  unfold new at h
  split_ifs at h
  split at h <;> cases h
  rfl

/-- The shutdown operation's error is never `nil`: it holds the failed `lis.Close()`. -/
theorem joinErrors_closedListenerError_isSome (port : ℕ) (dnsErr : Option String) :
    (joinErrors [some (closedListenerError port), dnsErr]).isSome := by
  cases dnsErr <;> rfl

/-! ## Calls on the service -/

/-- A call on the service: `Start` with the error of `net.Listen`, or `Close` with the error of
closing the DNS server. -/
inductive ServiceCall
  | start (listenErr : Option String)
  | close (dnsErr : Option String)
  deriving DecidableEq, Repr

/-- The service after one call, and the error the call returns. -/
def Service.call (s : Service) : ServiceCall → Service × Option String
  | .start listenErr => s.start listenErr
  | .close dnsErr => s.close dnsErr

/-- Calls one after another: what each returns, and the service after them. -/
def serviceRun (s : Service) : List ServiceCall → List (Option String) × Service
  | [] => ([], s)
  | c :: cs => ((s.call c).2 :: (serviceRun (s.call c).1 cs).1, (serviceRun (s.call c).1 cs).2)

/-- The errors the `Close` calls among `calls` returned, in order. -/
def closeErrors (calls : List ServiceCall) (results : List (Option String)) : List (Option String) :=
  (calls.zip results).filterMap fun p =>
    match p.1 with
    | .close _ => some p.2
    | .start _ => none

/-- A `Start` whose `net.Listen` succeeds. -/
def ServiceCall.listens : ServiceCall → Bool
  | .start none => true
  | _ => false

theorem serviceRun_append (s : Service) (l₁ l₂ : List ServiceCall) :
    (serviceRun s (l₁ ++ l₂)).2 = (serviceRun (serviceRun s l₁).2 l₂).2 := by
  induction l₁ generalizing s with
  | nil => rfl
  | cons c cs ih => exact ih _

/-- `Start` calls alone, on a service whose servers are set and whose gRPC server runs: each
successful one opens a listener and installs the shutdown operation. -/
theorem serviceRun_starts {s : Service} (hi : s.initialized = true) (hs : s.grpcStopped = false)
    {pre : List ServiceCall} (hpre : ∀ c ∈ pre, ∃ listenErr, c = .start listenErr) :
    (serviceRun s pre).2 = { s with
      openListeners := s.openListeners + pre.countP ServiceCall.listens
      op := if 0 < pre.countP ServiceCall.listens then true else s.op } := by
  induction pre generalizing s with
  | nil => simp [serviceRun]
  | cons c cs ih =>
    obtain ⟨listenErr, rfl⟩ := hpre c (List.mem_cons_self _ _)
    have hcs := fun c hc => hpre c (List.mem_cons_of_mem _ hc)
    cases listenErr with
    | none =>
      rw [serviceRun, ih (by simp [Service.call, Service.start, hi]) (by
        simp [Service.call, Service.start, hi, hs]) hcs]
      simp [Service.call, Service.start, hi, hs, ServiceCall.listens]
      omega
    | some e =>
      rw [serviceRun, ih (by simp [Service.call, Service.start, hi]) (by
        simp [Service.call, Service.start, hi, hs]) hcs]
      simp [Service.call, Service.start, hi, ServiceCall.listens]

/-- One call after `shutdown.once` has run: it keeps the kept error, the operation's runs and
the state of the gRPC server, and a successful `Start` adds a listener only while the server
runs. -/
theorem Service.call_of_once {s : Service} (hi : s.initialized = true) (hs : s.onceDone = true)
    (c : ServiceCall) :
    (s.call c).1.initialized = true ∧ (s.call c).1.err = s.err ∧ (s.call c).1.onceDone = true ∧
      (s.call c).1.opRuns = s.opRuns ∧ (s.call c).1.grpcStopped = s.grpcStopped ∧
      (s.call c).1.openListeners =
        if s.grpcStopped then s.openListeners
        else s.openListeners + if c.listens then 1 else 0 := by
  rcases c with (_ | e) | dnsErr <;>
    simp [Service.call, Service.start, Service.close, ServiceCall.listens, hi, hs]

/-- Once `shutdown.once` has run, the kept error, the count of the operation's runs and the
state of the gRPC server never change; each later successful `Start` opens a listener that is
never closed, unless the server is stopped, in which case `Serve` closes it at once. -/
theorem serviceRun_of_once {s : Service} (hi : s.initialized = true) (hs : s.onceDone = true)
    (calls : List ServiceCall) :
    (serviceRun s calls).2.err = s.err ∧ (serviceRun s calls).2.onceDone = true ∧
      (serviceRun s calls).2.opRuns = s.opRuns ∧
      (serviceRun s calls).2.grpcStopped = s.grpcStopped ∧
      (serviceRun s calls).2.openListeners =
        if s.grpcStopped then s.openListeners
        else s.openListeners + calls.countP ServiceCall.listens := by
  induction calls generalizing s with
  | nil => simp [serviceRun, hs]
  | cons c cs ih =>
    obtain ⟨hi', herr, honce, hruns, hstop, hopen⟩ := Service.call_of_once hi hs c
    obtain ⟨herr', honce', hruns', hstop', hopen'⟩ := ih hi' honce
    refine ⟨herr'.trans herr, honce', hruns'.trans hruns, hstop'.trans hstop, ?_⟩
    rw [serviceRun, hopen', hstop, hopen, List.countP_cons]
    split_ifs <;> omega

/-- A `Close` returns the error it leaves kept, and leaves `shutdown.once` done. -/
theorem Service.close_err (s : Service) (dnsErr : Option String) :
    (s.close dnsErr).2 = (s.close dnsErr).1.err ∧ (s.close dnsErr).1.onceDone = true := by
  unfold Service.close
  split_ifs with ho <;> simp [ho]

/-- Every `Close` returns the error the service keeps at the end of the run. -/
theorem closeErrors_serviceRun {s : Service} (hi : s.initialized = true) (calls : List ServiceCall) :
    ∀ e ∈ closeErrors calls (serviceRun s calls).1, e = (serviceRun s calls).2.err := by
  induction calls generalizing s with
  | nil => simp [closeErrors]
  | cons c cs ih =>
    intro e he
    cases c with
    | start listenErr =>
      exact ih (by simpa [Service.call] using hi) e (by simpa [closeErrors, serviceRun, Service.call] using he)
    | close dnsErr =>
      have hi' : (s.close dnsErr).1.initialized = true := by simpa using hi
      simp only [closeErrors, serviceRun, Service.call, List.zip_cons_cons, List.filterMap_cons,
        List.mem_cons] at he
      rcases he with rfl | he
      · obtain ⟨hret, honce⟩ := s.close_err dnsErr
        rw [serviceRun, Service.call, (serviceRun_of_once hi' honce cs).1]
        exact hret
      · exact ih hi' e he

/-- Where the goroutine that runs `Start` is: before `Start`, in its deferred function with
`Start`'s error, or finished with it. -/
inductive StarterPc
  | start
  | deferred (err : Option String)
  | done (err : Option String)
  deriving DecidableEq, Repr

/-- Where a goroutine that waits and then makes one call is: waiting, or finished with the
call's error. -/
inductive WaiterPc
  | waiting
  | done (err : Option String)
  deriving DecidableEq, Repr

/-- The process of `main` after `New` succeeded: the service, the three goroutines, whether
`telemetrySignal` is closed and whether `sig` is done (a signal came, or the context was
cancelled), and the exit code. -/
structure Process where
  srv : Service
  starter : StarterPc
  closer : WaiterPc
  telemetry : WaiterPc
  telemetrySignal : Bool
  sigDone : Bool
  exitCode : ℕ
  deriving DecidableEq, Repr

/-- A step of the environment or of one goroutine. -/
inductive Action
  | signal
  | start (listenErr : Option String)
  | starterDefer
  | close (dnsErr : Option String)
  | telemetryShutdown (err : Option String)
  deriving DecidableEq, Repr

/-- One when the error is set: what `exitCode.Add(1)` adds. -/
def failed (err : Option String) : ℕ := if err.isSome then 1 else 0

/-- The state `main` starts its goroutines in. The telemetry goroutine runs only outside the
local environment. -/
def Process.init (srv : Service) (isLocal : Bool) : Process :=
  ⟨srv, .start, .waiting, if isLocal then .done none else .waiting, false, false, 0⟩

/-- One step: a signal; the starter's `Start` (lines 123-128) and its deferred function, which
cancels the context after an error if no signal came (lines 101-121); the closer's `Close`
once `sig` is done, then its deferred `close(telemetrySignal)` (lines 131-140); the telemetry
shutdown once `telemetrySignal` is closed (lines 46-54). -/
def Process.step (p : Process) : Action → Option Process
  | .signal => if p.sigDone then none else some { p with sigDone := true }
  | .start listenErr =>
    match p.starter with
    | .start => some { p with
        srv := (p.srv.start listenErr).1
        starter := .deferred (p.srv.start listenErr).2
        exitCode := p.exitCode + failed (p.srv.start listenErr).2 }
    | _ => none
  | .starterDefer =>
    match p.starter with
    | .deferred err => some { p with starter := .done err, sigDone := p.sigDone || err.isSome }
    | _ => none
  | .close dnsErr =>
    match p.closer with
    | .waiting =>
      if p.sigDone then some { p with
        srv := (p.srv.close dnsErr).1
        closer := .done (p.srv.close dnsErr).2
        telemetrySignal := true
        exitCode := p.exitCode + failed (p.srv.close dnsErr).2 }
      else none
    | .done _ => none
  | .telemetryShutdown err =>
    match p.telemetry with
    | .waiting =>
      if p.telemetrySignal then
        some { p with telemetry := .done err, exitCode := p.exitCode + failed err }
      else none
    | .done _ => none

/-- The states of every interleaving, from `init`. -/
inductive Process.Reachable (init : Process) : Process → Prop
  | init : Process.Reachable init init
  | step {p p' : Process} (a : Action) : Process.Reachable init p → p.step a = some p' →
    Process.Reachable init p'

/-- Every goroutine has finished, so `wg.Wait` returns and the process exits. -/
def Process.Finished (p : Process) : Prop :=
  (∃ err, p.starter = .done err) ∧ (∃ err, p.closer = .done err) ∧ ∃ err, p.telemetry = .done err

/-- No goroutine can move: only a signal can change the state. -/
def Process.Stuck (p : Process) : Prop := ∀ a, a ≠ .signal → p.step a = none

/-- The failures the goroutines have counted: those of `Start`, `Close` and the telemetry
shutdown. -/
def Process.failures (p : Process) : ℕ :=
  (match p.starter with
    | .start => 0
    | .deferred err | .done err => failed err) +
  (match p.closer with
    | .waiting => 0
    | .done err => failed err) +
  match p.telemetry with
  | .waiting => 0
  | .done err => failed err

/-! ## What a step can do -/

section Steps

variable {p p' : Process}

/-- Every step of `main`'s process, with its guard. -/
theorem Process.step_cases {a : Action} (h : p.step a = some p') :
    (a = .signal ∧ p.sigDone = false ∧ p' = { p with sigDone := true }) ∨
    (∃ listenErr, p.starter = .start ∧ p' = { p with
        srv := (p.srv.start listenErr).1
        starter := .deferred (p.srv.start listenErr).2
        exitCode := p.exitCode + failed (p.srv.start listenErr).2 }) ∨
    (∃ err, p.starter = .deferred err ∧
      p' = { p with starter := .done err, sigDone := p.sigDone || err.isSome }) ∨
    (∃ dnsErr, p.closer = .waiting ∧ p.sigDone = true ∧ p' = { p with
        srv := (p.srv.close dnsErr).1
        closer := .done (p.srv.close dnsErr).2
        telemetrySignal := true
        exitCode := p.exitCode + failed (p.srv.close dnsErr).2 }) ∨
    (∃ err, p.telemetry = .waiting ∧ p.telemetrySignal = true ∧
      p' = { p with telemetry := .done err, exitCode := p.exitCode + failed err }) := by
  cases a with
  | signal =>
    simp only [Process.step] at h
    split_ifs at h with hs
    cases h
    exact .inl ⟨rfl, by simpa using hs, rfl⟩
  | start listenErr =>
    simp only [Process.step] at h
    split at h <;> cases h
    exact .inr (.inl ⟨listenErr, ‹_›, rfl⟩)
  | starterDefer =>
    simp only [Process.step] at h
    split at h <;> cases h
    exact .inr (.inr (.inl ⟨_, ‹_›, rfl⟩))
  | close dnsErr =>
    simp only [Process.step] at h
    split at h
    · split_ifs at h with hs
      cases h
      exact .inr (.inr (.inr (.inl ⟨dnsErr, ‹_›, hs, rfl⟩)))
    · cases h
  | telemetryShutdown err =>
    simp only [Process.step] at h
    split at h
    · split_ifs at h with hs
      cases h
      exact .inr (.inr (.inr (.inr ⟨err, ‹_›, hs, rfl⟩)))
    · cases h

/-- What is left to do: a signal still to come, and the steps each goroutine has left. -/
def Process.measure (p : Process) : ℕ :=
  (if p.sigDone then 0 else 1) +
  (match p.starter with
    | .start => 2
    | .deferred _ => 1
    | .done _ => 0) +
  (match p.closer with
    | .waiting => 1
    | .done _ => 0) +
  match p.telemetry with
  | .waiting => 1
  | .done _ => 0

theorem Process.measure_lt {a : Action} (h : p.step a = some p') : p'.measure < p.measure := by
  rcases Process.step_cases h with ⟨-, hs, rfl⟩ | ⟨_, hs, rfl⟩ | ⟨err, hs, rfl⟩ |
    ⟨_, hs, -, rfl⟩ | ⟨_, hs, -, rfl⟩ <;>
    simp only [Process.measure, hs] <;> (try split_ifs) <;> simp_all

/-- No run of steps, of the goroutines or of signals, goes on for ever. -/
theorem Process.terminates (p : Process) : Acc (fun q p => ∃ a, Process.step p a = some q) p :=
  Subrelation.accessible (fun ⟨_, h⟩ => Process.measure_lt h)
    ((InvImage.wf Process.measure Nat.lt_wfRel.wf).apply p)

/-- The invariant of `main`'s process: the exit code counts the failures so far,
`telemetrySignal` is closed exactly when the closer has finished, and a failed `Start` has
cancelled the context by the time the starter finishes. -/
structure Process.Inv (p : Process) : Prop where
  exitCode_eq : p.exitCode = p.failures
  telemetrySignal_iff : p.telemetrySignal = true ↔ ∃ err, p.closer = .done err
  sigDone_of_failed : ∀ e, p.starter = .done (some e) → p.sigDone = true

theorem Process.Inv.init (srv : Service) (isLocal : Bool) : (Process.init srv isLocal).Inv where
  exitCode_eq := by cases isLocal <;> rfl
  telemetrySignal_iff := by simp [Process.init]
  sigDone_of_failed := by simp [Process.init]

theorem Process.Inv.step {a : Action} (hinv : p.Inv) (h : p.step a = some p') : p'.Inv := by
  obtain ⟨hexit, hsig, hdone⟩ := hinv
  rcases Process.step_cases h with ⟨-, -, rfl⟩ | ⟨_, hs, rfl⟩ | ⟨err, hs, rfl⟩ |
    ⟨_, hs, -, rfl⟩ | ⟨_, hs, -, rfl⟩
  · exact ⟨hexit, hsig, fun _ _ => rfl⟩
  · refine ⟨?_, hsig, fun _ h => by cases h⟩
    simp only [Process.failures, hs] at hexit ⊢
    omega
  · refine ⟨?_, hsig, fun e h => ?_⟩
    · simpa only [Process.failures, hs] using hexit
    · cases h
      simp
  · refine ⟨?_, by simp, hdone⟩
    simp only [Process.failures, hs] at hexit ⊢
    omega
  · refine ⟨?_, hsig, hdone⟩
    simp only [Process.failures, hs] at hexit ⊢
    omega

theorem Process.Inv.of_reachable {init : Process} (hinit : init.Inv)
    (hp : Process.Reachable init p) : p.Inv := by
  induction hp with
  | init => exact hinit
  | step _ _ h ih => exact ih.step h

/-- A state where no goroutine can move has its starter finished. -/
theorem Process.Stuck.starter_done (hstuck : p.Stuck) : ∃ err, p.starter = .done err := by
  rcases hs : p.starter with _ | err | err
  · simpa [Process.step, hs] using hstuck (.start none) (by simp)
  · simpa [Process.step, hs] using hstuck .starterDefer (by simp)
  · exact ⟨err, rfl⟩

/-- In a state where no goroutine can move, a waiting closer has seen no signal. -/
theorem Process.Stuck.sigDone_of_waiting (hstuck : p.Stuck) (hc : p.closer = .waiting) :
    p.sigDone = false := by
  simpa [Process.step, hc] using hstuck (.close none) (by simp)

/-- In a state where no goroutine can move, the telemetry goroutine has finished once
`telemetrySignal` is closed. -/
theorem Process.Stuck.telemetry_done (hstuck : p.Stuck) (hts : p.telemetrySignal = true) :
    ∃ err, p.telemetry = .done err := by
  rcases ht : p.telemetry with _ | terr
  · simpa [Process.step, ht, hts] using hstuck (.telemetryShutdown none) (by simp)
  · exact ⟨terr, rfl⟩

end Steps

/-- Every run of `main`'s goroutines ends. When no goroutine can move, either every goroutine
has finished, and the exit code is the number of failures of `Start`, `Close` and the telemetry
shutdown, or `Start` succeeded and the closer waits for a signal that has not come. -/
theorem process_ends (srv : Service) (isLocal : Bool) :
    (∀ p, Acc (fun q p => ∃ a, Process.step p a = some q) p) ∧
    ∀ p, Process.Reachable (Process.init srv isLocal) p → p.Stuck →
      (p.Finished ∧ p.exitCode = p.failures) ∨
      (p.sigDone = false ∧ p.starter = .done none ∧ p.closer = .waiting) := by
  refine ⟨Process.terminates, fun p hp hstuck => ?_⟩
  obtain ⟨hexit, hsig, hdone⟩ := (Process.Inv.init srv isLocal).of_reachable hp
  obtain ⟨err, hstarter⟩ := hstuck.starter_done
  rcases hc : p.closer with _ | cerr
  · have hsd := hstuck.sigDone_of_waiting hc
    refine .inr ⟨hsd, ?_, rfl⟩
    rcases err with _ | e
    · exact hstarter
    · simp [hdone e hstarter] at hsd
  · obtain ⟨terr, ht⟩ := hstuck.telemetry_done (hsig.2 ⟨cerr, hc⟩)
    exact .inl ⟨⟨⟨err, hstarter⟩, ⟨cerr, hc⟩, ⟨terr, ht⟩⟩, hexit⟩

/-! ## How the service ends -/

/-- Whether the starter's `Start` has succeeded. -/
def StarterPc.started : StarterPc → Bool
  | .deferred none | .done none => true
  | _ => false

/-- What every interleaving keeps of the service that `New` built on `port`. Only the closer
calls `Close`, and it got the error the service keeps. Before a successful `Start` no listener
is open, no operation is installed and the gRPC server runs. After one, either its listener is
open and the operation installed, or the operation has run: the listener is closed, the server
stopped, and the failed `lis.Close()` kept. -/
structure Process.SrvInv (port : ℕ) (p : Process) : Prop where
  port_eq : p.srv.port = port
  initialized : p.srv.initialized = true
  once_of_waiting : p.closer = .waiting → p.srv.onceDone = false
  closer_err : ∀ e, p.closer = .done e → e = p.srv.err
  not_started : p.starter.started = false →
    p.srv.openListeners = 0 ∧ p.srv.op = false ∧ p.srv.grpcStopped = false ∧ p.srv.err = none
  started : p.starter.started = true →
    (p.srv.openListeners = 1 ∧ p.srv.op = true ∧ p.srv.grpcStopped = false ∧
      p.srv.err = none) ∨
    (p.srv.openListeners = 0 ∧ p.srv.onceDone = true ∧
      ∃ dnsErr, p.srv.err = joinErrors [some (closedListenerError port), dnsErr])

section SrvSteps

variable {port : ℕ} {p p' : Process}

theorem Process.SrvInv.init {srv : Service} (hsrv : srv = ⟨port, true, 0, false, false, false,
    none, 0⟩) (isLocal : Bool) : (Process.init srv isLocal).SrvInv port := by
  subst hsrv
  exact ⟨rfl, rfl, fun _ => rfl, (fun _ h => by cases h), fun _ => ⟨rfl, rfl, rfl, rfl⟩,
    fun h => by cases h⟩

/-- The invariant reads only the service, the starter and the closer. -/
theorem Process.SrvInv.of_eq (hinv : p.SrvInv port) (hsrv : p'.srv = p.srv)
    (hst : p'.starter = p.starter) (hc : p'.closer = p.closer) : p'.SrvInv port := by
  obtain ⟨h1, h2, h3, h4, h5, h6⟩ := hinv
  constructor <;> simp only [hsrv, hst, hc] <;> assumption

/-- The starter's `Start` keeps the invariant: a success opens the listener on a running server
and installs the operation; a failure changes nothing. -/
theorem Process.SrvInv.start {listenErr : Option String} (hinv : p.SrvInv port)
    (hs : p.starter = .start) :
    ({ p with
        srv := (p.srv.start listenErr).1
        starter := .deferred (p.srv.start listenErr).2
        exitCode := p.exitCode + failed (p.srv.start listenErr).2 } : Process).SrvInv port := by
  obtain ⟨hport, hi, honce, herr, hnot, -⟩ := hinv
  obtain ⟨hl, hop, hstop, hnone⟩ := hnot (by rw [hs]; rfl)
  cases listenErr with
  | none =>
    have hstart : p.srv.start none =
        ({ p.srv with openListeners := 1, op := true }, none) := by
      simp [Service.start, hi, hstop, hl]
    rw [hstart]
    exact ⟨hport, hi, honce, herr, (fun h => by cases h), fun _ => .inl ⟨rfl, rfl, hstop, hnone⟩⟩
  | some e =>
    have hstart : p.srv.start (some e) =
        (p.srv, some ("failed to listen on port " ++ toString p.srv.port ++ ": " ++ e)) := by
      simp [Service.start, hi]
    rw [hstart]
    exact ⟨hport, hi, honce, herr, (fun _ => ⟨hl, hop, hstop, hnone⟩), fun h => by cases h⟩

/-- The closer's `Close` keeps the invariant: after a successful `Start` it runs the operation,
before one it finds none. -/
theorem Process.SrvInv.close {dnsErr : Option String} (hinv : p.SrvInv port)
    (hc : p.closer = .waiting) :
    ({ p with
        srv := (p.srv.close dnsErr).1
        closer := .done (p.srv.close dnsErr).2
        telemetrySignal := true
        exitCode := p.exitCode + failed (p.srv.close dnsErr).2 } : Process).SrvInv port := by
  obtain ⟨hport, hi, honce, -, hnot, hstarted⟩ := hinv
  have hfalse := honce hc
  refine ⟨by simpa using hport, by simpa using hi, (fun h => by cases h),
    (fun e h => by cases h; exact (p.srv.close_err dnsErr).1), fun h => ?_, fun h => ?_⟩
  · obtain ⟨hl, hop, hstop, hnone⟩ := hnot h
    simp [Service.close, hfalse, hop, hl, hstop, hnone]
  · rcases hstarted h with ⟨-, hop, -, -⟩ | ⟨-, hdone, -⟩
    · simpa [Service.close, hfalse, hop, hport] using ⟨dnsErr, rfl⟩
    · simp [hfalse] at hdone

theorem Process.SrvInv.step {a : Action} (hinv : p.SrvInv port) (h : p.step a = some p') :
    p'.SrvInv port := by
  rcases Process.step_cases h with ⟨-, -, rfl⟩ | ⟨_, hs, rfl⟩ | ⟨err, hs, rfl⟩ |
    ⟨_, hc, -, rfl⟩ | ⟨_, -, -, rfl⟩
  · exact hinv.of_eq rfl rfl rfl
  · exact hinv.start hs
  · obtain ⟨hport, hi, honce, herr, hnot, hstarted⟩ := hinv
    have hsame : StarterPc.started (.done err) = StarterPc.started (.deferred err) := by
      rcases err with _ | _ <;> rfl
    rw [hs] at hnot hstarted
    exact ⟨hport, hi, honce, herr, fun h => hnot (hsame ▸ h), fun h => hstarted (hsame ▸ h)⟩
  · exact hinv.close hc
  · exact hinv.of_eq rfl rfl rfl

theorem Process.SrvInv.of_reachable {init : Process} (hinit : init.SrvInv port)
    (hp : Process.Reachable init p) : p.SrvInv port := by
  induction hp with
  | init => exact hinit
  | step _ _ h ih => exact ih.step h

end SrvSteps

/-- The orchestrator on port 5008, outside the local environment, at its exit after a
successful `Start`, a signal, `Close` and the telemetry shutdown. -/
def signalledExit : Process :=
  ⟨⟨5008, true, 0, true, true, false, some "close tcp [::]:5008: use of closed network connection",
    1⟩, .done none, .done (some "close tcp [::]:5008: use of closed network connection"),
    .done none, true, true, 1⟩

/-- A signal that comes while `Start` runs: `Close` finds no shutdown operation, and the
listener `Start` opens after it stays open when the process exits. -/
example : ((((((Process.init ⟨5008, true, 0, false, false, false, none, 0⟩ false).step
    .signal).bind (·.step (.close none))).bind (·.step (.start none))).bind (·.step .starterDefer)).bind
    (·.step (.telemetryShutdown none))).map (·.srv.openListeners) = some 1 := by
  decide

end E2bInfra.Orchestrator
