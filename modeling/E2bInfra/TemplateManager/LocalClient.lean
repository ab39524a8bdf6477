import Mathlib.Algebra.Order.BigOperators.Group.List
import Mathlib.Algebra.Order.Ring.Nat

/-!
# The lock of the local template manager client

On its local path `getBuilderClient` takes `localClientMutex` for reading and, while it holds
it, calls `GetLocalClientStatus`, which takes the same read lock again, two to four times. The
health sync loop sets the status under the write lock. Under the rules of Go's `sync.RWMutex`
a new reader waits once a writer waits, so a writer that asks for the lock between the outer
read lock and an inner one waits for the outer reader, which waits for it: neither moves again.
Short of that, the lock does its work: the status changes only while no call holds a read
lock, and a call that gets through returns what one sequential run on the status returns.
-/

namespace E2bInfra.TemplateManager

/-- `infogrpc.ServiceInfoStatus`: the two values the code compares with, and any other. -/
inductive ServiceInfoStatus
  | orchestratorHealthy
  | orchestratorUnhealthy
  | other (code : ℕ)
  deriving DecidableEq, Repr

/-- `ErrLocalTemplateManagerNotAvailable`. -/
def errLocalTemplateManagerNotAvailable : String := "local template manager is not available"

/-- A `sync.RWMutex`, by what its rules read: the readers that hold it, whether a `Lock` call
has announced itself and waits for the readers to leave, and whether a writer holds it. -/
structure RWMutex where
  readers : ℕ
  writerWaiting : Bool
  writerHeld : Bool
  deriving DecidableEq, Repr

namespace RWMutex

/-- `RLock`: it waits while a writer holds the lock or waits for it. -/
def rLock (m : RWMutex) : Option RWMutex :=
  if m.writerWaiting || m.writerHeld then none else some { m with readers := m.readers + 1 }

/-- `RUnlock`. -/
def rUnlock (m : RWMutex) : RWMutex := { m with readers := m.readers - 1 }

/-- The first half of `Lock`: once no other writer is at the lock, announce itself, which makes
every later `RLock` wait. -/
def announce (m : RWMutex) : Option RWMutex :=
  if m.writerWaiting || m.writerHeld then none else some { m with writerWaiting := true }

/-- The second half of `Lock`: take the lock once no reader holds it. -/
def acquire (m : RWMutex) : Option RWMutex :=
  if m.readers = 0 then some { m with writerWaiting := false, writerHeld := true } else none

/-- `Unlock`. -/
def unlock (m : RWMutex) : RWMutex := { m with writerHeld := false }

end RWMutex

/-- The calls of `GetLocalClientStatus` in `getBuilderClient`, by line: for the log line, for
the placement test, for the placement error's log line, and for the unhealthy test. -/
inductive StatusCall
  | line135
  | line139
  | line141
  | line146
  deriving DecidableEq, Repr

/-- Where a call of `getBuilderClient` on the local path is: before the read lock of line 130,
holding it before a call of `GetLocalClientStatus`, inside that call holding its read lock too,
returning before the deferred `RUnlock` of line 131 with its error (`none` for the local
client), or done. -/
inductive ClientPc
  | start
  | call (c : StatusCall)
  | inner (c : StatusCall)
  | leaving (err : Option String)
  | done (err : Option String)
  deriving DecidableEq, Repr

/-- Where the call goes once `GetLocalClientStatus` at `c` has read `status`. -/
def afterStatus (placement : Bool) (status : ServiceInfoStatus) : StatusCall → ClientPc
  | .line135 => if placement then .call .line139 else .call .line146
  | .line139 => if status ≠ .orchestratorHealthy then .call .line141 else .call .line146
  | .line141 => .leaving (some errLocalTemplateManagerNotAvailable)
  | .line146 =>
    if status = .orchestratorUnhealthy then .leaving (some errLocalTemplateManagerNotAvailable)
    else .leaving none

/-- The next step of a call with the given `placement` flag, on the shared status and lock. -/
def ClientPc.step (placement : Bool) (status : ServiceInfoStatus) (m : RWMutex) :
    ClientPc → Option (ClientPc × RWMutex)
  | .start => m.rLock.map fun m => (.call .line135, m)
  | .call c => m.rLock.map fun m => (.inner c, m)
  | .inner c => some (afterStatus placement status c, m.rUnlock)
  | .leaving err => some (.done err, m.rUnlock)
  | .done _ => none

/-- Where the health sync loop is: between calls of `setLocalClientStatus`, or in one with the
status the template manager answered, waiting for the write lock or holding it. -/
inductive SyncPc
  | idle
  | locking (status : ServiceInfoStatus)
  | locked (status : ServiceInfoStatus)
  deriving DecidableEq, Repr

/-- The shared lock and status, the calls of `getBuilderClient` with their placement flags, and
the health sync loop. -/
structure LocalState where
  localClientMutex : RWMutex
  localClientStatus : ServiceInfoStatus
  calls : List (Bool × ClientPc)
  sync : SyncPc
  deriving DecidableEq, Repr

/-- A step of one goroutine: call `i`, or the health sync loop, which starts a call of
`setLocalClientStatus` with the status `status` the template manager answered. -/
inductive Action
  | call (i : ℕ)
  | sync (status : ServiceInfoStatus)

/-- The state `New` leaves: the lock free, the status `OrchestratorUnhealthy`, the loop between
calls, and calls of `getBuilderClient` with the given placement flags not yet started. -/
def newLocalState (placements : List Bool) : LocalState :=
  ⟨⟨0, false, false⟩, .orchestratorUnhealthy, placements.map (·, .start), .idle⟩

/-- One step of the goroutine the action names; `none` when it cannot move. -/
def LocalState.step (s : LocalState) : Action → Option LocalState
  | .call i =>
    match s.calls[i]? with
    | none => none
    | some (p, pc) => (pc.step p s.localClientStatus s.localClientMutex).map fun (pc, m) =>
        { s with localClientMutex := m, calls := s.calls.set i (p, pc) }
  | .sync status =>
    match s.sync with
    | .idle => s.localClientMutex.announce.map fun m =>
        { s with localClientMutex := m, sync := .locking status }
    | .locking v => s.localClientMutex.acquire.map fun m =>
        { s with localClientMutex := m, sync := .locked v }
    | .locked v => some { s with localClientMutex := s.localClientMutex.unlock,
                                 localClientStatus := v, sync := .idle }

/-- The states of every interleaving of the goroutines' steps, from `init`. -/
inductive Reachable (init : LocalState) : LocalState → Prop
  | init : Reachable init init
  | step {s s' : LocalState} (a : Action) : Reachable init s → s.step a = some s' →
      Reachable init s'

/-- Take the steps of a schedule in order. -/
def run : LocalState → List Action → Option LocalState
  | s, [] => some s
  | s, a :: rest => (s.step a).bind (run · rest)

theorem reachable_of_run {init s s' : LocalState} {l : List Action}
    (hs : Reachable init s) (h : run s l = some s') : Reachable init s' := by
  induction l generalizing s with
  | nil => cases h; exact hs
  | cons a rest ih =>
    obtain ⟨s1, h1, h2⟩ := Option.bind_eq_some.1 h
    exact ih (.step a hs h1) h2

/-- Some call of `getBuilderClient` or of `setLocalClientStatus` has not finished. -/
def LocalState.Unfinished (s : LocalState) : Prop :=
  (∃ c ∈ s.calls, ∀ err, c.2 ≠ .done err) ∨ s.sync ≠ .idle

/-- No goroutine has an enabled step. -/
def LocalState.Stuck (s : LocalState) : Prop :=
  ∀ a, s.step a = none

/-- One placement call and the health sync loop. The call takes the outer read lock, the loop
then asks for the write lock, and from there nothing moves: the call's first
`GetLocalClientStatus` waits for the waiting writer, which waits for the call's read lock. -/
theorem getBuilderClient_deadlock :
    ∃ s, Reachable (newLocalState [true]) s ∧ s.Unfinished ∧ s.Stuck := by
  refine ⟨⟨⟨1, true, false⟩, .orchestratorUnhealthy, [(true, .call .line135)],
    .locking .orchestratorHealthy⟩,
    .step (.sync .orchestratorHealthy) (.step (.call 0) .init rfl) rfl,
    .inl ⟨_, List.mem_singleton_self _, fun _ h => ClientPc.noConfusion h⟩, ?_⟩
  rintro ((_ | i) | status) <;> rfl

/-! ## What the lock does guarantee -/

/-- The local path of `getBuilderClient` run alone, so that every `GetLocalClientStatus` reads
the same status: the error it returns, `none` for the local client. -/
def getBuilderClientLocal (placement : Bool) (status : ServiceInfoStatus) : Option String :=
  if placement = true ∧ status ≠ .orchestratorHealthy then some errLocalTemplateManagerNotAvailable
  else if status = .orchestratorUnhealthy then some errLocalTemplateManagerNotAvailable
  else none

/-- The read locks a call holds: the outer one from line 130 until it returns, and the inner
one inside `GetLocalClientStatus`. -/
def ClientPc.held : ClientPc → ℕ
  | .start | .done _ => 0
  | .call _ | .leaving _ => 1
  | .inner _ => 2

/-- What the call has learned of the status on its way, as a fact about the status now. -/
def ClientPc.Consistent (placement : Bool) (status : ServiceInfoStatus) : ClientPc → Prop
  | .call .line139 | .inner .line139 => placement = true
  | .call .line141 | .inner .line141 => placement = true ∧ status ≠ .orchestratorHealthy
  | .call .line146 | .inner .line146 => placement = true → status = .orchestratorHealthy
  | .leaving err => err = getBuilderClientLocal placement status
  | _ => True

@[simp] theorem RWMutex.rLock_eq_some {m m' : RWMutex} :
    m.rLock = some m' ↔ m.writerWaiting = false ∧ m.writerHeld = false ∧
      m' = { m with readers := m.readers + 1 } := by
  unfold RWMutex.rLock
  cases m.writerWaiting <;> cases m.writerHeld <;> simp [eq_comm]

@[simp] theorem RWMutex.announce_eq_some {m m' : RWMutex} :
    m.announce = some m' ↔ m.writerWaiting = false ∧ m.writerHeld = false ∧
      m' = { m with writerWaiting := true } := by
  unfold RWMutex.announce
  cases m.writerWaiting <;> cases m.writerHeld <;> simp [eq_comm]

@[simp] theorem RWMutex.acquire_eq_some {m m' : RWMutex} :
    m.acquire = some m' ↔ m.readers = 0 ∧ m' = { m with writerWaiting := false, writerHeld := true } := by
  unfold RWMutex.acquire
  split_ifs with h <;> simp [h, eq_comm]

theorem ClientPc.consistent_of_held_eq_zero {placement : Bool} {status : ServiceInfoStatus}
    {pc : ClientPc} (h : pc.held = 0) : pc.Consistent placement status := by
  cases pc <;> simp_all [ClientPc.held, ClientPc.Consistent]

theorem held_afterStatus (placement : Bool) (status : ServiceInfoStatus) (c : StatusCall) :
    (afterStatus placement status c).held = 1 := by
  cases c <;> simp only [afterStatus] <;> (try split_ifs) <;> rfl

/-- Reading the status keeps a call consistent with it. -/
theorem consistent_afterStatus {placement : Bool} {status : ServiceInfoStatus} {c : StatusCall}
    (h : (ClientPc.inner c).Consistent placement status) :
    (afterStatus placement status c).Consistent placement status := by
  cases placement <;> cases c <;> simp only [afterStatus] <;> (try split_ifs) <;>
    simp_all [ClientPc.Consistent, getBuilderClientLocal]

/-- What one step of a call does: it keeps the call consistent, moves the reader count by the
read locks it takes or drops, and leaves the writer's flag alone; while a writer holds the lock,
it takes no read lock. -/
theorem ClientPc.step_spec {placement : Bool} {status : ServiceInfoStatus} {m m' : RWMutex}
    {pc pc' : ClientPc} (h : pc.step placement status m = some (pc', m'))
    (hheld : pc.held ≤ m.readers) (hcons : pc.Consistent placement status) :
    m'.readers + pc.held = m.readers + pc'.held ∧ m'.writerHeld = m.writerHeld ∧
      (m.writerHeld = true → pc'.held ≤ pc.held) ∧ pc'.Consistent placement status := by
  cases pc with
  | start =>
    simp only [ClientPc.step, Option.map_eq_some', RWMutex.rLock_eq_some] at h
    obtain ⟨_, ⟨-, hw, rfl⟩, h⟩ := h
    cases h
    exact ⟨by simp [ClientPc.held], rfl, fun h => by simp [hw] at h, trivial⟩
  | call c =>
    simp only [ClientPc.step, Option.map_eq_some', RWMutex.rLock_eq_some] at h
    obtain ⟨_, ⟨-, hw, rfl⟩, h⟩ := h
    cases h
    exact ⟨by simp [ClientPc.held], rfl, fun h => by simp [hw] at h, by cases c <;> exact hcons⟩
  | inner c =>
    simp only [ClientPc.step, Option.some.injEq, Prod.mk.injEq] at h
    obtain ⟨rfl, rfl⟩ := h
    rw [show (ClientPc.inner c).held = 2 from rfl] at hheld ⊢
    rw [held_afterStatus]
    exact ⟨by simp only [RWMutex.rUnlock]; omega, rfl, fun _ => by omega,
      consistent_afterStatus hcons⟩
  | leaving err =>
    simp only [ClientPc.step, Option.some.injEq, Prod.mk.injEq] at h
    obtain ⟨rfl, rfl⟩ := h
    rw [show (ClientPc.leaving err).held = 1 from rfl] at hheld ⊢
    exact ⟨by simp only [RWMutex.rUnlock, ClientPc.held]; omega, rfl,
      fun _ => by simp [ClientPc.held], trivial⟩
  | done _ => cases h

/-- Setting one entry of a list moves the sum of a measure of its entries by the difference. -/
theorem sum_map_set_add {α : Type} (f : α → ℕ) {l : List α} {i : ℕ} {c : α} (c' : α)
    (h : l[i]? = some c) : ((l.set i c').map f).sum + f c = (l.map f).sum + f c' := by
  induction l generalizing i with
  | nil => cases h
  | cons x xs ih =>
    cases i with
    | zero =>
      simp only [List.getElem?_cons_zero, Option.some.injEq] at h
      subst h
      simp only [List.set_cons_zero, List.map_cons, List.sum_cons]
      omega
    | succ i =>
      have := ih (by simpa using h)
      simp only [List.set_cons_succ, List.map_cons, List.sum_cons]
      omega

/-- The invariant of the lock: it counts the read locks the calls hold, it is held for writing
exactly while the loop is in its critical section, and then no reader holds it; every call is
consistent with the status. -/
structure LockInv (s : LocalState) : Prop where
  readers_eq : s.localClientMutex.readers = (s.calls.map fun c => c.2.held).sum
  writerHeld_iff : s.localClientMutex.writerHeld = true ↔ ∃ v, s.sync = .locked v
  readers_of_writerHeld : s.localClientMutex.writerHeld = true → s.localClientMutex.readers = 0
  consistent : ∀ c ∈ s.calls, c.2.Consistent c.1 s.localClientStatus

theorem LockInv.init (placements : List Bool) : LockInv (newLocalState placements) where
  readers_eq := (List.sum_eq_zero (by simp [newLocalState, ClientPc.held])).symm
  writerHeld_iff := by simp [newLocalState]
  readers_of_writerHeld := by simp [newLocalState]
  consistent := by simp [newLocalState, ClientPc.Consistent]

/-- Every call holds at most the lock's reader count. -/
theorem LockInv.held_le {s : LocalState} (hinv : LockInv s) {c : Bool × ClientPc}
    (hc : c ∈ s.calls) : c.2.held ≤ s.localClientMutex.readers := by
  rw [hinv.readers_eq]
  exact List.le_sum_of_mem (List.mem_map_of_mem (fun c => c.2.held) hc)

/-- While a writer holds the lock, no call holds a read lock. -/
theorem LockInv.held_eq_zero {s : LocalState} (hinv : LockInv s)
    (hw : s.localClientMutex.writerHeld = true) {c : Bool × ClientPc} (hc : c ∈ s.calls) :
    c.2.held = 0 := by
  have := hinv.held_le hc
  rw [hinv.readers_of_writerHeld hw] at this
  omega

/-- A step of call `i` keeps the invariant. -/
theorem LockInv.step_call {s s' : LocalState} {i : ℕ} (hinv : LockInv s)
    (h : s.step (.call i) = some s') : LockInv s' := by
  simp only [LocalState.step] at h
  cases hc : s.calls[i]? with
  | none => simp [hc] at h
  | some c =>
    obtain ⟨p, pc⟩ := c
    simp only [hc, Option.map_eq_some'] at h
    obtain ⟨⟨pc', m'⟩, hpc, rfl⟩ := h
    have hmem : (p, pc) ∈ s.calls := List.getElem?_mem hc
    obtain ⟨hr, hw, hlock, hcons⟩ :=
      ClientPc.step_spec hpc (hinv.held_le hmem) (hinv.consistent _ hmem)
    have hsum := sum_map_set_add (fun c => c.2.held) (p, pc') hc
    have hr0 := hinv.readers_eq
    refine ⟨?_, ?_, fun hw' => ?_, fun c hc' => ?_⟩ <;> dsimp only at *
    · omega
    · rw [hw]
      exact hinv.writerHeld_iff
    · rw [hw] at hw'
      have := hinv.readers_of_writerHeld hw'
      have := hlock hw'
      omega
    · rcases List.mem_or_eq_of_mem_set hc' with hc' | rfl
      · exact hinv.consistent c hc'
      · exact hcons

/-- A step of the health sync loop keeps the invariant. -/
theorem LockInv.step_sync {s s' : LocalState} {status : ServiceInfoStatus} (hinv : LockInv s)
    (h : s.step (.sync status) = some s') : LockInv s' := by
  simp only [LocalState.step] at h
  cases hs : s.sync with
  | idle =>
    simp only [hs, Option.map_eq_some', RWMutex.announce_eq_some] at h
    obtain ⟨_, ⟨-, hw, rfl⟩, rfl⟩ := h
    exact ⟨hinv.readers_eq, by simp [hw], by simp [hw], hinv.consistent⟩
  | locking v =>
    simp only [hs, Option.map_eq_some', RWMutex.acquire_eq_some] at h
    obtain ⟨_, ⟨h0, rfl⟩, rfl⟩ := h
    exact ⟨hinv.readers_eq, by simp, fun _ => h0, hinv.consistent⟩
  | locked v =>
    simp only [hs, Option.some.injEq] at h
    subst h
    have hw := hinv.writerHeld_iff.2 ⟨v, hs⟩
    exact ⟨hinv.readers_eq, by simp [RWMutex.unlock], by simp [RWMutex.unlock],
      fun c hc => ClientPc.consistent_of_held_eq_zero (hinv.held_eq_zero hw hc)⟩

theorem LockInv.of_reachable {placements : List Bool} {s : LocalState}
    (hs : Reachable (newLocalState placements) s) : LockInv s := by
  induction hs with
  | init => exact .init placements
  | step a _ h ih =>
    cases a with
    | call i => exact ih.step_call h
    | sync status => exact ih.step_sync h

/-- Through every interleaving of calls of `getBuilderClient` with the health sync loop, the
lock's reader count is the number of read locks the calls hold, and while the loop holds the
write lock to set the status, no call holds a read lock. -/
theorem localClientMutex_excludes_writer {placements : List Bool} {s : LocalState}
    (hs : Reachable (newLocalState placements) s) :
    s.localClientMutex.readers = (s.calls.map fun c => c.2.held).sum ∧
      ∀ v, s.sync = .locked v → ∀ c ∈ s.calls, c.2.held = 0 :=
  have hinv := LockInv.of_reachable hs
  ⟨hinv.readers_eq, fun v hv _ hc => hinv.held_eq_zero (hinv.writerHeld_iff.2 ⟨v, hv⟩) hc⟩

/-- A placement call that ends with its error on the initial status, then the loop taking the
write lock: the lock counts no reader, and the call holds none. -/
theorem localClientMutex_excludes_writer_while_writing :
    ∃ s, Reachable (newLocalState [true]) s ∧ s.sync = .locked .orchestratorHealthy ∧
      s.localClientMutex.readers = (s.calls.map fun c => c.2.held).sum ∧
      ∀ c ∈ s.calls, c.2.held = 0 := by
  have hs : Reachable (newLocalState [true]) ⟨⟨0, false, true⟩, .orchestratorUnhealthy,
      [(true, .done (some errLocalTemplateManagerNotAvailable))], .locked .orchestratorHealthy⟩ :=
    @reachable_of_run _ _ _ (List.replicate 8 (Action.call 0) ++ List.replicate 2
      (Action.sync .orchestratorHealthy)) .init rfl
  exact ⟨_, hs, rfl, (localClientMutex_excludes_writer hs).1,
    (localClientMutex_excludes_writer hs).2 _ rfl⟩

/-- Through every interleaving, a call of `getBuilderClient` that is returning returns what
the call run alone returns on the status of the moment: the status cannot change while the
call holds its read lock, so all its reads agree. -/
theorem getBuilderClient_returns_sequential {placements : List Bool} {s : LocalState}
    (hs : Reachable (newLocalState placements) s) {placement : Bool} {err : Option String}
    (hc : (placement, .leaving err) ∈ s.calls) :
    err = getBuilderClientLocal placement s.localClientStatus :=
  (LockInv.of_reachable hs).consistent _ hc

/-- The loop sets the status to healthy, then a call that needs no placement reads it twice and
returns the local client. -/
theorem getBuilderClient_returns_sequential_after_sync :
    ∃ s, Reachable (newLocalState [false]) s ∧ (false, .leaving none) ∈ s.calls ∧
      none = getBuilderClientLocal false s.localClientStatus := by
  have hs : Reachable (newLocalState [false]) ⟨⟨1, false, false⟩, .orchestratorHealthy,
      [(false, .leaving none)], .idle⟩ :=
    @reachable_of_run _ _ _ (List.replicate 3 (Action.sync .orchestratorHealthy) ++
      List.replicate 5 (Action.call 0)) .init rfl
  exact ⟨_, hs, List.mem_singleton_self _, getBuilderClient_returns_sequential hs
    (List.mem_singleton_self _)⟩

end E2bInfra.TemplateManager
