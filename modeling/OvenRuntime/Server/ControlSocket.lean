/-
  OvenRuntime.Server.ControlSocket
  ────────────────────────────────
  Who owns the control socket.

  Any number of processes, each with a `UnixControlServer` on one path, call
  `start` and `stop`; their system calls interleave in any order.  Any of the calls
  may raise, and a process may die at any point: the kernel drops its lock and its
  sockets then, and leaves the path as it is.

  A `stop` that has given the lock back and cannot close the lock file believes that
  it still has it, and the next one removes whatever socket is at the path.
  `control_socket_owned` is what holds in every history in which this does not
  happen.
-/
import Mathlib.Logic.Function.Basic
import OvenRuntime.Lib.TransitionSystem

namespace OvenRuntime

open TransitionSystem

/-! ## §1. `start` and `stop`. -/

/-- What is at the path of the socket. -/
inductive PathEntry where
  | absent
  /-- A socket, by the process whose server has bound it, and its mode. -/
  | socket (process mode : Nat)
  /-- Something else.  `path.exists()` does not find a link that leads nowhere. -/
  | other (found : Bool)
  deriving DecidableEq, Repr

/-- The lock file, by the process that holds `flock` on it, and the path. -/
structure ControlFiles where
  lock : Option Nat
  path : PathEntry

/-- The system call that `start` or `stop` is about to make. -/
inductive ControlPc where
  /-- Neither of them runs. -/
  | idle
  -- `start`
  | directory
  | openLock
  | flock
  | staleExists
  | staleStat
  | staleUnlink
  /-- `start_unix_server` first removes a socket that is there, … -/
  | removeSocket
  /-- … then it binds its own. -/
  | bind
  | chmodSocket
  | checkMode
  -- `stop`
  | closeServer
  | stopExists
  | stopStat
  | stopUnlink
  /-- `flock` gives the lock back, … -/
  | unlock
  /-- … then the lock file is closed, and `_lock_fd` is `None`. -/
  | closeLock
  deriving DecidableEq, Repr

/-- The kernel drops the lock of a process. -/
def ControlFiles.dropLock (files : ControlFiles) (p : Nat) : ControlFiles :=
  { files with lock := if files.lock = some p then none else files.lock }

/-- The state of one `UnixControlServer`. -/
structure UnixControlServer where
  pc : ControlPc := .idle
  /-- `_server` accepts connections. -/
  server : Bool := false
  /-- `_lock_fd` is not `None`. -/
  lock_fd : Bool := false

/-- How a system call ends. -/
inductive SystemCall where
  | returns
  /-- It returns, and the file it is about has this mode after it. -/
  | mode (mode : Nat)
  /-- `Server.close` returns, and has removed the socket (Python 3.13). -/
  | cleans
  | raises
  deriving DecidableEq, Repr

namespace UnixControlServer

/-- What was raised leaves `start` or `stop`. -/
def raised (u : UnixControlServer) : UnixControlServer := { u with pc := .idle }

/-- The call of `stop`, also in the handler of `start`. -/
def stop (u : UnixControlServer) : UnixControlServer := { u with pc := .closeServer }

/-- The next system call of the process `p`. -/
def step (p : Nat) (u : UnixControlServer) (files : ControlFiles) (call : SystemCall) :
    Option (ControlFiles × UnixControlServer) :=
  match u.pc, call with
  | .directory, .returns => some (files, { u with pc := .openLock })
  -- `_acquire_owner_lock`
  | .openLock, .returns => some (files, { u with pc := .flock })
  | .flock, .returns =>
      if files.lock = none then
        some ({ files with lock := some p }, { u with lock_fd := true, pc := .staleExists })
      else some (files, u.raised)
  -- `_remove_stale_socket`
  | .staleExists, .returns =>
      match files.path with
      | .absent | .other false => some (files, { u with pc := .removeSocket })
      | .socket _ _ | .other true => some (files, { u with pc := .staleStat })
  | .staleStat, .returns =>
      match files.path with
      | .socket _ _ => some (files, { u with pc := .staleUnlink })
      | .absent | .other _ => some (files, u.raised)
  | .staleUnlink, .returns =>
      match files.path with
      | .absent => some (files, u.raised)
      | .socket _ _ | .other _ =>
          some ({ files with path := .absent }, { u with pc := .removeSocket })
  | .directory, .raises | .openLock, .raises | .flock, .raises => some (files, u.raised)
  | .staleExists, .raises | .staleStat, .raises | .staleUnlink, .raises => some (files, u.raised)
  -- `start_unix_server`: what the removal raises is logged
  | .removeSocket, .returns =>
      match files.path with
      | .socket _ _ => some ({ files with path := .absent }, { u with pc := .bind })
      | .absent | .other _ => some (files, { u with pc := .bind })
  | .removeSocket, .raises => some (files, { u with pc := .bind })
  | .bind, .mode mode =>
      match files.path with
      | .absent =>
          some ({ files with path := .socket p mode }, { u with server := true, pc := .chmodSocket })
      | .socket _ _ | .other _ => some (files, u.stop)
  | .chmodSocket, .mode mode =>
      match files.path with
      | .socket q _ => some ({ files with path := .socket q mode }, { u with pc := .checkMode })
      | .other true => some (files, { u with pc := .checkMode })
      | .absent | .other false => some (files, u.stop)
  | .checkMode, .mode mode =>
      match files.path with
      | .socket _ actual_mode =>
          if actual_mode = 0o600 then some (files, { u with pc := .idle }) else some (files, u.stop)
      | .other true =>
          if mode = 0o600 then some (files, { u with pc := .idle }) else some (files, u.stop)
      | .absent | .other false => some (files, u.stop)
  | .bind, .raises | .chmodSocket, .raises | .checkMode, .raises => some (files, u.stop)
  -- `stop`: `owns_path` is `lock_fd`, which stays until `closeLock`
  | .closeServer, .returns =>
      some (files, { u with server := false, pc := if u.lock_fd then .stopExists else .idle })
  | .closeServer, .cleans =>
      match u.server, files.path with
      | true, .socket q mode =>
          some ({ files with path := if q = p then .absent else .socket q mode },
            { u with server := false, pc := if u.lock_fd then .stopExists else .idle })
      | _, _ => none
  | .closeServer, .raises => some (files, { u with server := false, pc := .idle })
  | .stopExists, .returns =>
      match files.path with
      | .absent | .other false => some (files, { u with pc := .unlock })
      | .socket _ _ | .other true => some (files, { u with pc := .stopStat })
  | .stopStat, .returns =>
      match files.path with
      | .socket _ _ => some (files, { u with pc := .stopUnlink })
      | .other _ => some (files, { u with pc := .unlock })
      | .absent => some (files, u.raised)
  | .stopUnlink, .returns =>
      match files.path with
      | .absent => some (files, u.raised)
      | .socket _ _ | .other _ => some ({ files with path := .absent }, { u with pc := .unlock })
  | .unlock, .returns => some (files.dropLock p, { u with pc := .closeLock })
  | .closeLock, .returns => some (files, { u with lock_fd := false, pc := .idle })
  | .stopExists, .raises | .stopStat, .raises | .stopUnlink, .raises | .unlock, .raises
  | .closeLock, .raises => some (files, u.raised)
  | _, _ => none

end UnixControlServer

/-! ## §2. The processes. -/

/-- The files, and the processes by number. -/
structure ControlHost where
  files : ControlFiles
  processes : Nat → UnixControlServer

inductive ControlEvent where
  | start (p : Nat)
  | stop (p : Nat)
  | call (p : Nat) (call : SystemCall)
  /-- The process dies; another may get its number. -/
  | dies (p : Nat)

/-- The process that acts. -/
def ControlEvent.process : ControlEvent → Nat
  | .start p | .stop p | .call p _ | .dies p => p

/-- Set the state of one process. -/
def ControlHost.set (s : ControlHost) (files : ControlFiles) (p : Nat) (u : UnixControlServer) :
    ControlHost :=
  { files := files, processes := Function.update s.processes p u }

/-- One step of the host. -/
def ControlHost.next (s : ControlHost) : ControlEvent → Option ControlHost
  | .start p =>
      if (s.processes p).pc = .idle then
        some (s.set s.files p { s.processes p with pc := .directory })
      else none
  | .stop p =>
      if (s.processes p).pc = .idle then some (s.set s.files p (s.processes p).stop) else none
  | .call p call => ((s.processes p).step p s.files call).map fun r => s.set r.1 p r.2
  | .dies p => some (s.set (s.files.dropLock p) p {})

/-- The processes of one host, over whatever is at the path. -/
def controlHost : System ControlHost ControlEvent where
  init s := s.files.lock = none ∧ s.processes = fun _ => {}
  step s e s' := s.next e = some s'

@[simp] theorem ControlHost.set_files (s : ControlHost) (files : ControlFiles) (p : Nat)
    (u : UnixControlServer) : (s.set files p u).files = files := rfl

@[simp] theorem ControlHost.set_self (s : ControlHost) (files : ControlFiles) (p : Nat)
    (u : UnixControlServer) : (s.set files p u).processes p = u := by
  simp [ControlHost.set]

theorem ControlHost.set_other (s : ControlHost) (files : ControlFiles) {p q : Nat}
    (u : UnixControlServer) (h : q ≠ p) : (s.set files p u).processes q = s.processes q := by
  simp [ControlHost.set, Function.update_of_ne h]

/-! ## §3. What one process relies on. -/

/-- The calls that are made under the lock. -/
def ControlPc.owning : ControlPc → Bool
  | .staleExists | .staleStat | .staleUnlink | .removeSocket | .bind | .chmodSocket
  | .checkMode => true
  | .stopExists | .stopStat | .stopUnlink | .unlock => true
  | .idle | .directory | .openLock | .flock | .closeServer | .closeLock => false

/-- The calls that are made with a server that has gone through `start`. -/
def ControlPc.ready : ControlPc → Bool
  | .idle | .directory | .openLock | .flock => true
  | _ => false

/-- The calls between which a server accepts connections. -/
def ControlPc.serving : ControlPc → Bool
  | .chmodSocket | .checkMode | .closeServer => true
  | pc => pc.ready

/-- The lock has been taken and not given back. -/
def UnixControlServer.locked (u : UnixControlServer) : Bool :=
  u.lock_fd && decide (u.pc ≠ .closeLock)

/-- **One process and the files.** -/
structure UnixControlServer.Owns (p : Nat) (u : UnixControlServer) (files : ControlFiles) :
    Prop where
  lock : u.locked = true ↔ files.lock = some p
  owning : u.pc.owning = true → u.lock_fd = true
  /-- What is about to be removed is a socket. -/
  unlinking : u.pc = .staleUnlink ∨ u.pc = .stopUnlink → ∃ q mode, files.path = .socket q mode
  /-- A server has the lock, and its socket is at the path. -/
  server : u.server = true → u.lock_fd = true ∧ u.pc.serving = true ∧
    ∃ mode, files.path = .socket p mode ∧ (u.pc.ready = true → mode = 0o600)
  chmod : u.pc = .chmodSocket ∨ u.pc = .checkMode → u.server = true

theorem ControlFiles.dropLock_self {files : ControlFiles} {p : Nat} (h : files.lock = some p) :
    files.dropLock p = { files with lock := none } := by
  rw [ControlFiles.dropLock, if_pos h]

theorem ControlFiles.dropLock_other {files : ControlFiles} {p : Nat} (h : files.lock ≠ some p) :
    files.dropLock p = files := by
  rw [ControlFiles.dropLock, if_neg h]

namespace UnixControlServer

variable {p q : Nat} {u u' : UnixControlServer} {files files' : ControlFiles} {call : SystemCall}

theorem locked_eq (hpc : u.pc ≠ .closeLock) : u.locked = u.lock_fd := by
  unfold locked
  rw [decide_eq_true hpc, Bool.and_true]

/-- A process that has done nothing yet relies on nothing. -/
theorem Owns.fresh (h : files.lock ≠ some p) : Owns p {} files := by
  refine ⟨?_, ?_, ?_, ?_, ?_⟩
  · simpa [locked] using h
  · simp [ControlPc.owning]
  · simp
  · simp
  · simp

/-- A call under the lock is made with the lock. -/
theorem Owns.holds (h : u.Owns p files) (hpc : u.pc.owning = true) : files.lock = some p := by
  have hne : u.pc ≠ .closeLock := by
    intro heq
    rw [heq] at hpc
    cases hpc
  rw [← h.lock, locked_eq hne]
  exact h.owning hpc

/-- So is a server that accepts connections. -/
theorem Owns.holds_of_server (h : u.Owns p files) (hs : u.server = true) :
    files.lock = some p := by
  obtain ⟨hfd, hpc, -⟩ := h.server hs
  have hne : u.pc ≠ .closeLock := by
    intro heq
    rw [heq] at hpc
    cases hpc
  rw [← h.lock, locked_eq hne]
  exact hfd

/-- What one call does to the files: nothing, or it takes or gives back the lock, or
it changes the path under the lock, unless that leads to something else. -/
inductive Touches (p : Nat) (u u' : UnixControlServer) (files : ControlFiles) :
    ControlFiles → Prop
  | nothing : Touches p u u' files files
  | locks : files.lock = none → Touches p u u' files { files with lock := some p }
  | unlocks : files.lock = some p → Touches p u u' files { files with lock := none }
  | path {path : PathEntry} : files.lock = some p → (∀ found, files.path ≠ .other found) →
      Touches p u u' files { files with path := path }

/-- **What the other processes see of a call.** -/
theorem Owns.touches (h : u.Owns p files) (hst : u.step p files call = some (files', u')) :
    Touches p u u' files files' := by
  have hunlink : u.pc = .staleUnlink ∨ u.pc = .stopUnlink → ∀ found, files.path ≠ .other found := by
    intro hpc found heq
    obtain ⟨q, mode, hpath⟩ := h.unlinking hpc
    cases heq.symm.trans hpath
  have howning : u.pc.owning = true → files.lock = some p := h.holds
  have hserver : u.server = true → files.lock = some p := h.holds_of_server
  -- by the call and how it ends
  obtain ⟨pc, server, lock_fd⟩ := u
  cases pc <;> cases call <;> simp only [step, reduceCtorEq] at hst
  all_goals (try split at hst)
  all_goals (try split at hst)
  all_goals (try cases hst)
  all_goals first
    | exact .nothing
    | exact .locks ‹_›
    | exact ControlFiles.dropLock_self (howning rfl) ▸ .unlocks (howning rfl)
    | exact .path (howning rfl) (hunlink (.inl rfl))
    | exact .path (howning rfl) (hunlink (.inr rfl))
    | exact .path (howning rfl) (fun found hother => by simp_all)
    | exact .path (hserver rfl) (fun found hother => by simp_all)

/-- **A call keeps what its process relies on**, unless it fails to close the lock file. -/
theorem Owns.step (h : u.Owns p files) (hst : u.step p files call = some (files', u'))
    (hcloses : u.pc = .closeLock → call ≠ .raises) : u'.Owns p files' := by
  obtain ⟨hlock, howning, hunlink, hserver, hchmod⟩ := h
  -- by the call and how it ends; a field is then about one entry of the path
  obtain ⟨pc, server, lock_fd⟩ := u
  cases pc <;> cases call <;> simp only [UnixControlServer.step, reduceCtorEq] at hst
  all_goals (try split at hst)
  all_goals (try split at hst)
  all_goals (try cases hst)
  all_goals
    refine ⟨?_, ?_, ?_, ?_, ?_⟩ <;>
      simp_all [ControlPc.owning, ControlPc.serving, ControlPc.ready, raised, stop, locked,
        ControlFiles.dropLock]

/-- **A call of another process leaves it alone.** -/
theorem Owns.touched {v : UnixControlServer} (hq : v.Owns q files) (hne : q ≠ p)
    (ht : Touches p u u' files files') : v.Owns q files' := by
  have hp_ne : some p ≠ some q := fun heq => hne (Option.some_inj.mp heq).symm
  cases ht with
  | nothing => exact hq
  | locks hnone =>
      -- nobody had the lock
      have hno : ¬ v.locked = true := by
        rw [hq.lock, hnone]
        exact Option.some_ne_none q ∘ Eq.symm
      refine ⟨?_, hq.owning, hq.unlinking, hq.server, hq.chmod⟩
      exact ⟨fun hlock => absurd hlock hno, fun heq => absurd heq hp_ne⟩
  | unlocks hlock =>
      have hno : ¬ v.locked = true := by
        rw [hq.lock, hlock]
        exact hp_ne
      refine ⟨?_, hq.owning, hq.unlinking, hq.server, hq.chmod⟩
      exact ⟨fun hlock => absurd hlock hno, fun heq => by cases heq⟩
  | path hlock =>
      have hno : files.lock ≠ some q := by
        rw [hlock]
        exact hp_ne
      refine ⟨hq.lock, hq.owning, ?_, ?_, hq.chmod⟩
      · intro hpc
        refine absurd (hq.holds ?_) hno
        rcases hpc with hpc | hpc
        · rw [hpc]
          rfl
        · rw [hpc]
          rfl
      · intro hserver
        exact absurd (hq.holds_of_server hserver) hno

end UnixControlServer

/-! ## §4. Every history. -/

section Host

variable {s s' : ControlHost} {e : ControlEvent} {es : List ControlEvent}

/-- **What all processes rely on.** -/
def HostOwned (s : ControlHost) : Prop := ∀ p, (s.processes p).Owns p s.files

/-- Steps of one process that leave its own reliance and what the others see. -/
theorem HostOwned.set {p : Nat} {u : UnixControlServer} {files : ControlFiles} (h : HostOwned s)
    (hu : u.Owns p files) (ht : UnixControlServer.Touches p (s.processes p) u s.files files) :
    HostOwned (s.set files p u) := by
  intro q
  rw [ControlHost.set_files]
  by_cases hq : q = p
  · rw [hq, ControlHost.set_self]
    exact hu
  · rw [ControlHost.set_other s files u hq]
    exact (h q).touched hq ht

/-- The step is no lock file that cannot be closed. -/
def ControlHost.Closes (s : ControlHost) (e : ControlEvent) : Prop :=
  ∀ p, (s.processes p).pc = .closeLock → e ≠ .call p .raises

theorem HostOwned.next (h : HostOwned s) (hcloses : s.Closes e) (hst : s.next e = some s') :
    HostOwned s' := by
  cases e with
  | start p =>
      simp only [ControlHost.next] at hst
      split at hst
      · next hidle =>
          cases hst
          -- a server that is started again keeps its socket
          refine h.set ?_ .nothing
          obtain ⟨hlock, -, -, hserver, -⟩ := h p
          refine ⟨?_, ?_, ?_, ?_, ?_⟩
          · rw [← hlock, UnixControlServer.locked_eq (by simp),
              UnixControlServer.locked_eq (by simp [hidle])]
          · simp [ControlPc.owning]
          · simp
          · intro hs
            obtain ⟨hfd, -, mode, hpath, hmode⟩ := hserver hs
            exact ⟨hfd, rfl, mode, hpath, fun _ => hmode (by rw [hidle]; rfl)⟩
          · simp
      · cases hst
  | stop p =>
      simp only [ControlHost.next] at hst
      split at hst
      · next hidle =>
          cases hst
          refine h.set ?_ .nothing
          obtain ⟨hlock, -, -, hserver, -⟩ := h p
          refine ⟨?_, ?_, ?_, ?_, ?_⟩
          · rw [← hlock, UnixControlServer.locked_eq (by simp [UnixControlServer.stop]),
              UnixControlServer.locked_eq (by simp [hidle])]
            rfl
          · simp [UnixControlServer.stop, ControlPc.owning]
          · simp [UnixControlServer.stop]
          · intro hs
            obtain ⟨hfd, -, mode, hpath, -⟩ := hserver hs
            exact ⟨hfd, rfl, mode, hpath, fun hready => by cases hready⟩
          · simp [UnixControlServer.stop]
      · cases hst
  | call p call =>
      obtain ⟨⟨files, u⟩, hcall, rfl⟩ := Option.map_eq_some_iff.mp hst
      refine h.set ((h p).step hcall fun hpc heq => ?_) ((h p).touches hcall)
      exact hcloses p hpc (heq ▸ rfl)
  | dies p =>
      cases hst
      -- the kernel gives the lock back, if the process had it
      by_cases hlock : s.files.lock = some p
      · rw [ControlFiles.dropLock_self hlock]
        exact h.set (.fresh (by simp)) (.unlocks hlock)
      · rw [ControlFiles.dropLock_other hlock]
        exact h.set (.fresh hlock) .nothing

theorem HostOwned.run (h : Run controlHost es s)
    (hcloses : EveryStep controlHost (fun _ s e _ => s.Closes e) es s) : HostOwned s := by
  refine EveryStep.invariant HostOwned ?_ ?_ h hcloses
  · rintro s ⟨hlock, hprocesses⟩ p
    rw [hprocesses]
    exact .fresh (by simp [hlock])
  · intro _ s e s' hinv hclose hst
    exact hinv.next hclose hst

/-- A step that changes the path is a call of the process that has the lock. -/
theorem HostOwned.path_changes (h : HostOwned s) (hst : s.next e = some s')
    (hne : s'.files.path ≠ s.files.path) :
    (∀ found, s.files.path ≠ .other found) ∧ s.files.lock = some e.process := by
  cases e with
  | start p | stop p =>
      simp only [ControlHost.next] at hst
      split at hst
      · cases hst
        exact absurd rfl hne
      · cases hst
  | dies p =>
      cases hst
      exact absurd rfl hne
  | call p call =>
      obtain ⟨⟨files, u⟩, hcall, rfl⟩ := Option.map_eq_some_iff.mp hst
      have htouches := (h p).touches hcall
      rw [ControlHost.set_files] at hne
      generalize hfiles : files = files' at htouches hne
      cases htouches with
      | nothing => exact absurd rfl hne
      | locks => exact absurd rfl hne
      | unlocks => exact absurd rfl hne
      | path hlock hother => exact ⟨hother, hlock⟩

/-! ## §5. Taking over. -/

/-- Carry out some calls of one process, if it makes them. -/
def UnixControlServer.steps (p : Nat) :
    UnixControlServer → ControlFiles → List SystemCall → Option (ControlFiles × UnixControlServer)
  | u, files, [] => some (files, u)
  | u, files, call :: calls => (u.step p files call).bind fun r => r.2.steps p r.1 calls

/-- The host carries them out. -/
theorem ControlHost.calls_path {p : Nat} {calls : List SystemCall}
    {r : ControlFiles × UnixControlServer} (h : (s.processes p).steps p s.files calls = some r) :
    ∃ s', Path controlHost s (calls.map (ControlEvent.call p)) s' ∧ s'.processes p = r.2 := by
  induction calls generalizing s with
  | nil =>
      cases h
      exact ⟨s, .nil _, rfl⟩
  | cons call calls ih =>
      obtain ⟨⟨files, u⟩, hcall, hrest⟩ := Option.bind_eq_some_iff.mp h
      have hset : ((s.set files p u).processes p).steps p (s.set files p u).files calls = some r := by
        rw [ControlHost.set_self, ControlHost.set_files]
        exact hrest
      obtain ⟨s', hpath, hlast⟩ := ih hset
      exact ⟨s', .cons (Option.map_eq_some_iff.mpr ⟨(files, u), hcall, rfl⟩) hpath, hlast⟩

/-- The calls of a `start` over an absent or a stale socket, when none raises. -/
def startCalls : PathEntry → List SystemCall
  | .socket _ _ =>
      [.returns, .returns, .returns, .returns, .returns, .returns, .returns,
       .mode 0o755, .mode 0o600, .mode 0o600]
  | _ =>
      [.returns, .returns, .returns, .returns, .returns, .mode 0o755, .mode 0o600, .mode 0o600]

/-- A `start` none of whose calls raises. -/
def startEvents (p : Nat) (path : PathEntry) : List ControlEvent :=
  .start p :: (startCalls path).map (ControlEvent.call p)

/-- With the lock free, they end with a server that accepts connections. -/
theorem startCalls_steps (p : Nat) {files : ControlFiles} (hlock : files.lock = none)
    (hother : ∀ found, files.path ≠ .other found) (server : Bool) :
    ∃ files', UnixControlServer.steps p { pc := .directory, server := server, lock_fd := false }
        files (startCalls files.path) =
      some (files', { pc := .idle, server := true, lock_fd := true }) := by
  obtain ⟨lock, path⟩ := files
  cases hlock
  cases path with
  | absent => exact ⟨_, rfl⟩
  | socket q mode => exact ⟨_, rfl⟩
  | other found => exact absurd rfl (hother found)

/-- **With the lock free, a `start` goes through.** -/
theorem HostOwned.start_goes_through {p : Nat} (h : HostOwned s) (hidle : (s.processes p).pc = .idle)
    (hlock : s.files.lock = none) (hother : ∀ found, s.files.path ≠ .other found) :
    ∃ s', Path controlHost s (startEvents p s.files.path) s' ∧
      (s'.processes p).server = true ∧ (s'.processes p).pc = .idle := by
  have hfd : (s.processes p).lock_fd = false := by
    rw [Bool.eq_false_iff]
    rw [← UnixControlServer.locked_eq (by simp [hidle]), ne_eq, (h p).lock, hlock]
    exact Option.some_ne_none p ∘ Eq.symm
  -- the process as `start` leaves it to its first call
  have hnext : s.next (.start p) = some (s.set s.files p { s.processes p with pc := .directory }) :=
    if_pos hidle
  obtain ⟨files', hsteps⟩ := startCalls_steps p hlock hother (s.processes p).server
  have hset : ((s.set s.files p { s.processes p with pc := .directory }).processes p).steps p
      s.files (startCalls s.files.path) =
        some (files', { pc := .idle, server := true, lock_fd := true }) := by
    have hu : { s.processes p with pc := .directory } =
        ({ pc := .directory, server := (s.processes p).server, lock_fd := false } :
          UnixControlServer) := by rw [← hfd]
    rw [ControlHost.set_self, hu]
    exact hsteps
  obtain ⟨s', hpath, hlast⟩ := ControlHost.calls_path hset
  refine ⟨s', .cons hnext hpath, ?_, ?_⟩
  · rw [hlast]
  · rw [hlast]

/-! ## §6. Every history. -/

/-- **One owner of the control socket.**  In every history of processes that start,
stop and die over one path, in which no process gives the lock back and then fails to
close the lock file:

  • a server that accepts connections has the lock, and the path leads to its
    socket; there is at most one;
  • once `start` has returned, the socket is for its owner only;
  • what is at the path changes by a process that has no other server beside it, and
    only if it is absent or a socket;
  • with the lock free and nothing else at the path, a `start` goes through. -/
theorem control_socket_owned (h : Run controlHost es s)
    (hcloses : EveryStep controlHost (fun _ s₁ e _ => s₁.Closes e) es s) :
    (∀ p, (s.processes p).server = true →
      s.files.lock = some p ∧ ∃ mode, s.files.path = .socket p mode) ∧
    (∀ p q, (s.processes p).server = true → (s.processes q).server = true → p = q) ∧
    (∀ p, (s.processes p).server = true → (s.processes p).pc = .idle →
      s.files.path = .socket p 0o600) ∧
    EveryStep controlHost (fun _ s₁ e s₂ => s₂.files.path ≠ s₁.files.path →
      (∀ found, s₁.files.path ≠ .other found) ∧
        ∀ q, (s₁.processes q).server = true → q = e.process) es s ∧
    (∀ p, (s.processes p).pc = .idle → s.files.lock = none →
      (∀ found, s.files.path ≠ .other found) →
      ∃ s', Path controlHost s (startEvents p s.files.path) s' ∧
        (s'.processes p).server = true ∧ (s'.processes p).pc = .idle) := by
  have howned := HostOwned.run h hcloses
  have hlock : ∀ {s : ControlHost} {p : Nat}, HostOwned s → (s.processes p).server = true →
      s.files.lock = some p := fun howned hserver => (howned _).holds_of_server hserver
  refine ⟨?_, ?_, ?_, ?_, ?_⟩
  · intro p hserver
    obtain ⟨-, -, mode, hpath, -⟩ := (howned p).server hserver
    exact ⟨hlock howned hserver, mode, hpath⟩
  · intro p q hp hq
    exact Option.some_inj.mp ((hlock howned hp).symm.trans (hlock howned hq))
  · intro p hserver hidle
    obtain ⟨-, -, mode, hpath, hmode⟩ := (howned p).server hserver
    rw [hpath, hmode (by rw [hidle]; rfl)]
  · intro es₁ e es₂ s₁ s₂ hes hrun hst hpath hne
    have howned₁ := HostOwned.run hrun (hcloses.before hes hst hpath)
    obtain ⟨hother, hacts⟩ := howned₁.path_changes hst hne
    exact ⟨hother, fun q hserver => Option.some_inj.mp ((hlock howned₁ hserver).symm.trans hacts)⟩
  · intro p hidle hfree hother
    exact howned.start_goes_through hidle hfree hother

end Host

/-- Carry out some steps, if the host can. -/
def ControlHost.replay : ControlHost → List ControlEvent → Option ControlHost
  | s, [] => some s
  | s, e :: es => (s.next e).bind fun s' => s'.replay es

theorem ControlHost.replay_path {s s' : ControlHost} {es : List ControlEvent}
    (h : s.replay es = some s') : Path controlHost s es s' := by
  induction es generalizing s with
  | nil =>
      cases h
      exact .nil _
  | cons e es ih =>
      obtain ⟨s₁, hnext, hrest⟩ := Option.bind_eq_some_iff.mp h
      exact .cons hnext (ih hrest)

/-- A `stop` of a server with its socket, none of whose calls raises. -/
def stopEvents (p : Nat) : List ControlEvent :=
  .stop p :: (List.replicate 6 SystemCall.returns).map (ControlEvent.call p)

/-- A second process is refused, the first one dies, and the second takes over; it stops,
and a third one starts. -/
def takeOverEvents : List ControlEvent :=
  startEvents 0 .absent ++ [.start 1, .call 1 .returns, .call 1 .returns, .call 1 .returns, .dies 0] ++
    startEvents 1 (.socket 0 0o600) ++ stopEvents 1 ++ startEvents 2 .absent

/-- No call raises. -/
def ControlEvent.isQuiet : ControlEvent → Bool
  | .call _ .raises => false
  | _ => true

theorem closes_of_isQuiet {s : ControlHost} {e : ControlEvent} (h : e.isQuiet = true) :
    s.Closes e := by
  rintro p - rfl
  cases h

theorem control_socket_owned_takeover : ∃ s, Run controlHost takeOverEvents s ∧
    s.files.lock = some 2 ∧ s.files.path = .socket 2 0o600 := by
  have htest : ((⟨⟨none, .absent⟩, fun _ => {}⟩ : ControlHost).replay takeOverEvents).map
      (fun s => (s.processes 2).server && decide ((s.processes 2).pc = .idle)) = some true := by
    decide
  obtain ⟨s, hreplay, hserves⟩ := Option.map_eq_some_iff.mp htest
  rw [Bool.and_eq_true, decide_eq_true_eq] at hserves
  have hrun : Run controlHost takeOverEvents s :=
    ⟨_, ⟨rfl, rfl⟩, ControlHost.replay_path hreplay⟩
  have hquiet : ∀ e ∈ takeOverEvents, e.isQuiet = true := by decide
  have hcloses : EveryStep controlHost (fun _ s₁ e _ => s₁.Closes e) takeOverEvents s := by
    intro es₁ e es₂ s₁ s₂ hes _ _ _
    exact closes_of_isQuiet (hquiet e (by rw [hes]; exact List.mem_append_right _ (by simp)))
  obtain ⟨howner, -, hmode, -, -⟩ := control_socket_owned hrun hcloses
  exact ⟨s, hrun, (howner 2 hserves.1).1, hmode 2 hserves.1 hserves.2⟩

/-- The first process cannot close the lock file and stops once more, beside a server
that has the lock: it removes that one's socket. -/
example : (((⟨⟨none, .absent⟩, fun _ => {}⟩ : ControlHost).replay (startEvents 0 .absent ++
    [.stop 0, .call 0 .returns, .call 0 .returns, .call 0 .returns, .call 0 .returns,
      .call 0 .returns, .call 0 .raises] ++ startEvents 1 .absent ++
    [.stop 0, .call 0 .returns, .call 0 .returns, .call 0 .returns, .call 0 .returns])).map
      fun s => ((s.processes 1).server, s.files.lock, s.files.path)) =
    some (true, some 1, .absent) := by
  decide

end OvenRuntime
