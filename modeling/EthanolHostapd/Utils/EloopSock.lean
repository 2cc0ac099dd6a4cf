import EthanolHostapd.Containers.KeyedList
import EthanolHostapd.Traces.Run
import Mathlib.Tactic

/-!
# The descriptors of the event loop

`utils/eloop.c`, built with `CONFIG_ELOOP_EPOLL`.  A registered descriptor is in one of three tables, and
its handler is also stored in `fd_table`, under the descriptor as an index, where the dispatcher finds it.
The size of `fd_table` is at least doubled when a descriptor is not below it, once for a registration.

A run is a sequence of registrations, of waits for events and of single steps of the dispatcher; what a
handler registers comes between two such steps.  The state records every access to `fd_table` with the size
that it had, and what each registration that returned an error has done to the tables.
-/

namespace Ethanol

/-- `INT_MAX`. -/
def eloopIntMax : ℕ := 2 ^ 31 - 1

/-- `eloop_event_type`. -/
inductive EloopEventType
  | read
  | write
  | exception
  deriving DecidableEq

/-- `struct eloop_sock`. -/
structure EloopSock where
  sock : ℕ
  eloopData : UInt64
  userData : UInt64
  handler : UInt64
  deriving DecidableEq

/-- `struct eloop_sock_table`.  The count is the length of the list. -/
structure EloopSockTable where
  table : List EloopSock
  changed : Bool

/-- What is registered: the entries of the three tables and `eloop.count`. -/
abbrev Registered : Type := (EloopEventType → List EloopSock) × ℤ

/-- The fields of `struct eloop_data` about descriptors. -/
structure EloopSocks where
  maxSock : ℕ
  count : ℤ
  maxFd : ℕ
  /-- The entries that were stored and not cleared since.  The memory of the other ones may be anything. -/
  fdTable : ℕ → Option EloopSock
  epollMaxEventNum : ℤ
  /-- `readers`, `writers` and `exceptions`. -/
  table : EloopEventType → EloopSockTable
  /-- The descriptors added to the epoll instance.  The kernel forgets those that are closed. -/
  epoll : List ℕ
  /-- What `epoll_wait` has reported and the dispatcher has not come to. -/
  events : List ℕ
  /-- The indices that were used, each with `max_fd`. -/
  accesses : List (ℕ × ℕ)
  /-- What was registered before and after the registrations that failed. -/
  failed : List (Registered × Registered)
  /-- No call has failed so far. -/
  succeeded : Bool

/-- How the calls in a registration come out. -/
structure AddSockOutcome where
  /-- `os_realloc_array`, for `fd_table`, for `epoll_events` and for the table. -/
  fdTable : Bool
  epollEvents : Bool
  table : Bool
  /-- `epoll_ctl`. -/
  epollCtl : Bool

namespace EloopSocks

/-- `eloop_init`. -/
def init : EloopSocks where
  maxSock := 0
  count := 0
  maxFd := 0
  fdTable := fun _ => none
  epollMaxEventNum := 0
  table := fun _ => ⟨[], false⟩
  epoll := []
  events := []
  accesses := []
  failed := []
  succeeded := true

/-- The entries of the tables and the count. -/
def registered (eloop : EloopSocks) : Registered := (fun type => (eloop.table type).table, eloop.count)

/-- The size of `fd_table` after it was made to grow, if need be. -/
def nextFd (eloop : EloopSocks) (newMaxSock : ℕ) : ℕ :=
  if newMaxSock < eloop.maxFd then eloop.maxFd
  else if eloop.maxFd = 0 then 16 else eloop.maxFd * 2

/-- The number of `epoll_events` after they were made to grow, if need be. -/
def nextEpollEvents (eloop : EloopSocks) : ℤ :=
  if eloop.count + 1 ≤ eloop.epollMaxEventNum then eloop.epollMaxEventNum
  else if eloop.epollMaxEventNum = 0 then 8 else eloop.epollMaxEventNum * 2

/-- A doubled size that `int` cannot hold is negative, which `os_realloc_array` refuses. -/
def growsFd (eloop : EloopSocks) (newMaxSock : ℕ) (out : AddSockOutcome) : Bool :=
  newMaxSock < eloop.maxFd || (out.fdTable && eloop.nextFd newMaxSock ≤ eloopIntMax)

/-- The same for `epoll_events`. -/
def growsEpollEvents (eloop : EloopSocks) (out : AddSockOutcome) : Bool :=
  eloop.count + 1 ≤ eloop.epollMaxEventNum || (out.epollEvents && eloop.nextEpollEvents ≤ eloopIntMax)

/-- An access to `fd_table`. -/
def access (eloop : EloopSocks) (fd : ℕ) : EloopSocks :=
  { eloop with accesses := (fd, eloop.maxFd) :: eloop.accesses }

/-- The state of `eloop_sock_table_add_sock` when it calls `eloop_sock_queue`: what had to grow has grown, and
the entry is in its table. -/
def added (eloop : EloopSocks) (type : EloopEventType) (sock : EloopSock) : EloopSocks :=
  { eloop with
    maxFd := eloop.nextFd (max sock.sock eloop.maxSock)
    epollMaxEventNum := eloop.nextEpollEvents
    table := Function.update eloop.table type ⟨(eloop.table type).table ++ [sock], true⟩
    maxSock := max sock.sock eloop.maxSock
    count := eloop.count + 1 }

/-- `eloop_sock_table_add_sock`. -/
def eloopSockTableAddSock (eloop : EloopSocks) (type : EloopEventType) (sock : EloopSock)
    (out : AddSockOutcome) : EloopSocks × ℤ :=
  let newMaxSock := max sock.sock eloop.maxSock
  if eloop.growsFd newMaxSock out = false then (eloop, -1)
  else if eloop.growsEpollEvents out = false then ({ eloop with maxFd := eloop.nextFd newMaxSock }, -1)
  else if out.table = false then
    ({ eloop with maxFd := eloop.nextFd newMaxSock, epollMaxEventNum := eloop.nextEpollEvents }, -1)
  else
    let eloop := eloop.added type sock
    if out.epollCtl = false then (eloop, -1)
    else
      let eloop := eloop.access sock.sock
      ({ eloop with
        epoll := sock.sock :: eloop.epoll
        fdTable := Function.update eloop.fdTable sock.sock (some sock) }, 0)

/-- `eloop_sock_table_remove_sock`. -/
def eloopSockTableRemoveSock (eloop : EloopSocks) (type : EloopEventType) (sock : ℕ) (epollCtl : Bool) :
    EloopSocks :=
  match KeyedList.find (·.sock) sock (eloop.table type).table with
  | none => eloop
  | some _ =>
    let eloop := { eloop with
      table := Function.update eloop.table type
        ⟨KeyedList.remove (·.sock) sock (eloop.table type).table, true⟩
      count := eloop.count - 1 }
    if epollCtl = false then { eloop with succeeded := false }
    else
      let eloop := eloop.access sock
      { eloop with
        epoll := eloop.epoll.filter (· ≠ sock)
        fdTable := Function.update eloop.fdTable sock none }

/-- `eloop_register_sock`, with the record of a failure. -/
def eloopRegisterSock (eloop : EloopSocks) (type : EloopEventType) (sock : EloopSock) (out : AddSockOutcome) :
    EloopSocks :=
  let (eloop', ret) := eloop.eloopSockTableAddSock type sock out
  if ret < 0 then
    { eloop' with failed := (eloop.registered, eloop'.registered) :: eloop'.failed, succeeded := false }
  else eloop'

/-- Whether one of the three tables has changed since the wait. -/
def changed (eloop : EloopSocks) : Bool :=
  (eloop.table .read).changed || (eloop.table .write).changed || (eloop.table .exception).changed

/-- `epoll_wait` in `eloop_run`. -/
def epollWait (eloop : EloopSocks) (events : List ℕ) : EloopSocks :=
  { eloop with
    table := fun type => { eloop.table type with changed := false }
    events := events }

/-- One iteration of `eloop_sock_table_dispatch`.  If there is a handler it is called. -/
def eloopSockTableDispatch (eloop : EloopSocks) : EloopSocks :=
  match eloop.events with
  | [] => eloop
  | fd :: events => if eloop.changed then { eloop with events := [] } else { eloop.access fd with events := events }

end EloopSocks

/-- What happens in the event loop. -/
inductive EloopSockCall
  | registerSock (type : EloopEventType) (sock : EloopSock) (out : AddSockOutcome)
  | unregisterSock (type : EloopEventType) (sock : ℕ) (epollCtl : Bool)
  | epollWait (events : List ℕ)
  | dispatch

namespace EloopSocks

/-- The state after a call.  Only descriptors that were added are reported. -/
def next (eloop : EloopSocks) : EloopSockCall → Option EloopSocks
  | .registerSock type sock out => some (eloop.eloopRegisterSock type sock out)
  | .unregisterSock type sock epollCtl => some (eloop.eloopSockTableRemoveSock type sock epollCtl)
  | .epollWait events => if ∀ fd ∈ events, fd ∈ eloop.epoll then some (eloop.epollWait events) else none
  | .dispatch => some eloop.eloopSockTableDispatch

/-! ## What should hold -/

/-- All accesses were inside of `fd_table`, a registration that failed has not changed what is registered,
and if none has failed then every stored handler is registered for its descriptor. -/
structure Safe (eloop : EloopSocks) : Prop where
  accesses : ∀ access ∈ eloop.accesses, access.1 < access.2
  failed : ∀ registered ∈ eloop.failed, registered.1 = registered.2
  stored : eloop.succeeded = true → ∀ fd sock, eloop.fdTable fd = some sock →
    sock.sock = fd ∧ ∃ type, sock ∈ (eloop.table type).table

/-- A registration for which there is memory is not refused by `epoll_ctl`, and the descriptor is below the size
that `fd_table` has after it was made to grow once. -/
def Fits (eloop : EloopSocks) : EloopSockCall → Prop
  | .registerSock _ sock out =>
    eloop.growsFd (max sock.sock eloop.maxSock) out = true → eloop.growsEpollEvents out = true →
      out.table = true → out.epollCtl = true ∧ sock.sock < eloop.nextFd (max sock.sock eloop.maxSock)
  | _ => True

/-- The parts of it that speak of the past. -/
def Inside (eloop : EloopSocks) : Prop :=
  (∀ access ∈ eloop.accesses, access.1 < access.2) ∧ ∀ registered ∈ eloop.failed, registered.1 = registered.2

/-- All descriptors are indices of `fd_table`. -/
structure Bounded (eloop : EloopSocks) : Prop where
  table : ∀ type, ∀ sock ∈ (eloop.table type).table, sock.sock < eloop.maxFd
  epoll : ∀ fd ∈ eloop.epoll, fd < eloop.maxFd
  events : ∀ fd ∈ eloop.events, fd < eloop.maxFd

/-- What is known in every state. -/
structure Sound (eloop : EloopSocks) : Prop where
  stored : eloop.succeeded = true → ∀ fd sock, eloop.fdTable fd = some sock →
    sock.sock = fd ∧ ∃ type, sock ∈ (eloop.table type).table
  bounded : eloop.Inside → eloop.Bounded

lemma Sound.safe_iff {eloop : EloopSocks} (h : eloop.Sound) : eloop.Safe ↔ eloop.Inside :=
  ⟨fun hsafe => ⟨hsafe.accesses, hsafe.failed⟩, fun hinside => ⟨hinside.1, hinside.2, h.stored⟩⟩

lemma sound_init : init.Sound := ⟨by simp [init], fun _ => ⟨by simp [init], by simp [init], by simp [init]⟩⟩

/-! ## Single calls -/

section Calls

variable {eloop : EloopSocks} {type : EloopEventType} {sock : EloopSock} {out : AddSockOutcome}

lemma maxFd_le_nextFd (newMaxSock : ℕ) : eloop.maxFd ≤ eloop.nextFd newMaxSock := by
  unfold nextFd
  split_ifs <;> omega

/-- A registration fails for lack of memory, or in `epoll_ctl`, or it succeeds. -/
lemma eloopSockTableAddSock_cases (eloop : EloopSocks) (type : EloopEventType) (sock : EloopSock)
    (out : AddSockOutcome) :
    (∃ maxFd epollMaxEventNum, eloop.maxFd ≤ maxFd ∧
        ¬ (eloop.growsFd (max sock.sock eloop.maxSock) out = true ∧ eloop.growsEpollEvents out = true ∧
          out.table = true) ∧
        eloop.eloopSockTableAddSock type sock out = ({ eloop with maxFd, epollMaxEventNum }, -1)) ∨
      (eloop.growsFd (max sock.sock eloop.maxSock) out = true ∧ eloop.growsEpollEvents out = true ∧
        out.table = true) ∧
        (out.epollCtl = false ∧ eloop.eloopSockTableAddSock type sock out = (eloop.added type sock, -1) ∨
          out.epollCtl = true ∧ eloop.eloopSockTableAddSock type sock out =
            ({ (eloop.added type sock).access sock.sock with
              epoll := sock.sock :: eloop.epoll
              fdTable := Function.update eloop.fdTable sock.sock (some sock) }, 0)) := by
  have hle : eloop.maxFd ≤ eloop.nextFd (max sock.sock eloop.maxSock) := maxFd_le_nextFd _
  unfold eloopSockTableAddSock
  dsimp only
  split_ifs with hfd hevents htable hctl
  · exact Or.inl ⟨eloop.maxFd, eloop.epollMaxEventNum, le_rfl, by simp [hfd], rfl⟩
  · exact Or.inl ⟨_, eloop.epollMaxEventNum, hle, by simp [hevents], rfl⟩
  · exact Or.inl ⟨_, _, hle, by simp [htable], rfl⟩
  · exact Or.inr ⟨by simpa [hfd, hevents] using htable, Or.inl ⟨hctl, rfl⟩⟩
  · exact Or.inr ⟨by simpa [hfd, hevents] using htable, Or.inr ⟨by simpa using hctl, rfl⟩⟩

lemma Bounded.mono {eloop' : EloopSocks} (h : eloop.Bounded) (hle : eloop.maxFd ≤ eloop'.maxFd)
    (htable : ∀ type, ∀ sock ∈ (eloop'.table type).table, sock ∈ (eloop.table type).table)
    (hepoll : ∀ fd ∈ eloop'.epoll, fd ∈ eloop.epoll) (hevents : ∀ fd ∈ eloop'.events, fd ∈ eloop.events ∨ fd ∈ eloop.epoll) :
    eloop'.Bounded where
  table type sock hsock := (h.table type sock (htable type sock hsock)).trans_le hle
  epoll fd hfd := (h.epoll fd (hepoll fd hfd)).trans_le hle
  events fd hfd := by
    rcases hevents fd hfd with hfd | hfd
    · exact (h.events fd hfd).trans_le hle
    · exact (h.epoll fd hfd).trans_le hle

/-- What a call does to the invariant, and to the parts of the property that speak of the past. -/
structure Kept (eloop eloop' : EloopSocks) (ok : Prop) : Prop where
  sound : eloop'.Sound
  inside_iff : eloop'.Inside ↔ eloop.Inside ∧ ok

lemma kept_of_iff {eloop' : EloopSocks} {ok : Prop} (hiff : eloop'.Inside ↔ eloop.Inside ∧ ok)
    (hstored : eloop'.succeeded = true → ∀ fd sock, eloop'.fdTable fd = some sock →
      sock.sock = fd ∧ ∃ type, sock ∈ (eloop'.table type).table)
    (hbounded : eloop.Inside → ok → eloop'.Bounded) : Kept eloop eloop' ok :=
  ⟨⟨hstored, fun hinside => hbounded (hiff.mp hinside).1 (hiff.mp hinside).2⟩, hiff⟩

/-- A registration that fails leaves a record. -/
lemma inside_failed (eloop : EloopSocks) {eloop' : EloopSocks} {before after : Registered}
    (haccesses : eloop'.accesses = eloop.accesses) (hfailed : eloop'.failed = (before, after) :: eloop.failed) :
    eloop'.Inside ↔ eloop.Inside ∧ before = after := by
  unfold Inside
  rw [haccesses, hfailed, List.forall_mem_cons]
  tauto

/-- An access leaves a record. -/
lemma inside_access (eloop : EloopSocks) {eloop' : EloopSocks} {fd maxFd : ℕ} (haccesses : eloop'.accesses = (fd, maxFd) :: eloop.accesses)
    (hfailed : eloop'.failed = eloop.failed) : eloop'.Inside ↔ eloop.Inside ∧ fd < maxFd := by
  unfold Inside
  rw [haccesses, hfailed, List.forall_mem_cons]
  tauto

lemma Sound.registerSock (h : eloop.Sound) (type : EloopEventType) (sock : EloopSock) (out : AddSockOutcome) :
    Kept eloop (eloop.eloopRegisterSock type sock out) (eloop.Fits (.registerSock type sock out)) := by
  unfold eloopRegisterSock
  obtain ⟨maxFd, epollMaxEventNum, hle, hmemory, hadd⟩ | ⟨hmemory, ⟨hctl, hadd⟩ | ⟨hctl, hadd⟩⟩ :=
    eloop.eloopSockTableAddSock_cases type sock out
  · -- there is no memory, and what is registered has not changed
    have hfits : eloop.Fits (.registerSock type sock out) :=
      fun hfd hevents htable => absurd ⟨hfd, hevents, htable⟩ hmemory
    rw [hadd]
    dsimp only
    rw [if_pos (by decide)]
    refine kept_of_iff ?_ (by simp) fun hinside _ => ?_
    · refine Iff.trans (b := eloop.Inside ∧ eloop.registered = eloop.registered) (inside_failed eloop rfl rfl) ?_
      exact and_congr_right fun _ => iff_of_true rfl hfits
    · exact (h.bounded hinside).mono hle (fun _ _ hsock => hsock) (fun _ hfd => hfd) fun _ hfd => Or.inl hfd
  · -- `epoll_ctl` has refused, but the entry is in the table
    have hne : eloop.registered ≠ (eloop.added type sock).registered := by
      intro heq
      have hcount : eloop.count = eloop.count + 1 := congrArg Prod.snd heq
      omega
    have hfits : ¬ eloop.Fits (.registerSock type sock out) := by
      intro hfits
      have hctl' := (hfits hmemory.1 hmemory.2.1 hmemory.2.2).1
      simp [hctl] at hctl'
    have hinside : ∀ eloop' : EloopSocks, eloop'.accesses = eloop.accesses →
        eloop'.failed = (eloop.registered, (eloop.added type sock).registered) :: eloop.failed → ¬ eloop'.Inside :=
      fun eloop' haccesses hfailed h' => hne ((inside_failed eloop haccesses hfailed).mp h').2
    rw [hadd]
    dsimp only
    rw [if_pos (by decide)]
    exact ⟨⟨by simp, fun h' => absurd h' (hinside _ rfl rfl)⟩,
      iff_of_false (hinside _ rfl rfl) fun h' => hfits h'.2⟩
  · -- the entry is stored
    have hfits : eloop.Fits (.registerSock type sock out) ↔
        sock.sock < eloop.nextFd (max sock.sock eloop.maxSock) :=
      ⟨fun hfits => (hfits hmemory.1 hmemory.2.1 hmemory.2.2).2, fun hlt _ _ _ => ⟨hctl, hlt⟩⟩
    rw [hadd]
    dsimp only
    rw [if_neg (by decide), hfits]
    refine kept_of_iff (inside_access eloop rfl rfl) (fun hsucceeded fd sock' hstored => ?_) fun hbefore hlt => ?_
    · dsimp only at hstored
      by_cases hfd : fd = sock.sock
      · subst hfd
        rw [Function.update_self] at hstored
        obtain rfl := Option.some.inj hstored
        refine ⟨rfl, type, ?_⟩
        simp [access, added]
      · rw [Function.update_of_ne hfd] at hstored
        obtain ⟨heq, type', hmem⟩ := h.stored hsucceeded fd sock' hstored
        refine ⟨heq, type', ?_⟩
        by_cases htype : type' = type
        · subst htype
          simp [access, added, hmem]
        · simp [access, added, htype, hmem]
    · have hbounded := h.bounded hbefore
      have hle : eloop.maxFd ≤ eloop.nextFd (max sock.sock eloop.maxSock) := maxFd_le_nextFd _
      refine ⟨fun type' sock' hmem => ?_, fun fd hfd => ?_, fun fd hfd => ?_⟩
      · by_cases htype : type' = type
        · subst htype
          have hmem' : sock' ∈ (eloop.table type').table ∨ sock' = sock := by simpa [access, added] using hmem
          rcases hmem' with hmem' | rfl
          · exact (hbounded.table type' sock' hmem').trans_le hle
          · exact hlt
        · exact (hbounded.table type' sock' (by simpa [access, added, htype] using hmem)).trans_le hle
      · rcases List.mem_cons.mp hfd with rfl | hfd
        · exact hlt
        · exact (hbounded.epoll fd hfd).trans_le hle
      · exact (hbounded.events fd hfd).trans_le hle

lemma Sound.unregisterSock (h : eloop.Sound) (type : EloopEventType) (sock : ℕ) (epollCtl : Bool) :
    Kept eloop (eloop.eloopSockTableRemoveSock type sock epollCtl) True := by
  unfold eloopSockTableRemoveSock
  cases hfind : KeyedList.find (·.sock) sock (eloop.table type).table with
  | none => exact kept_of_iff (by simp) h.stored fun hinside _ => h.bounded hinside
  | some found =>
    have htable : ∀ type', ∀ s ∈ (Function.update eloop.table type
        ⟨KeyedList.remove (·.sock) sock (eloop.table type).table, true⟩ type').table, s ∈ (eloop.table type').table := by
      intro type' s hs
      by_cases htype : type' = type
      · subst htype
        rw [Function.update_self] at hs
        exact (KeyedList.remove_sublist _ _).subset hs
      · rwa [Function.update_of_ne htype] at hs
    dsimp only
    split_ifs with hctl
    · refine kept_of_iff (by simp [Inside]) (by simp) fun hinside _ => ?_
      exact (h.bounded hinside).mono le_rfl htable (fun _ hfd => hfd) fun _ hfd => Or.inl hfd
    · -- the descriptor is in one of the tables, so it is below the size of `fd_table`
      have hsock : eloop.Inside → sock < eloop.maxFd := by
        intro hinside
        have hlt := (h.bounded hinside).table type found (KeyedList.mem_of_find hfind)
        rwa [KeyedList.key_of_find hfind] at hlt
      refine kept_of_iff ?_ (fun hsucceeded fd s hstored => ?_) fun hinside _ => ?_
      · refine Iff.trans (b := eloop.Inside ∧ sock < eloop.maxFd) (inside_access eloop rfl rfl) ?_
        exact and_congr_right fun hinside => iff_of_true (hsock hinside) trivial
      · dsimp only [access] at hstored
        by_cases hfd : fd = sock
        · subst hfd
          simp at hstored
        · rw [Function.update_of_ne hfd] at hstored
          obtain ⟨rfl, type', hmem⟩ := h.stored hsucceeded fd s hstored
          refine ⟨rfl, type', ?_⟩
          by_cases htype : type' = type
          · subst htype
            simpa [access] using KeyedList.mem_remove_of_ne hmem hfd
          · simpa [access, htype] using hmem
      · refine (h.bounded hinside).mono le_rfl htable (fun fd hfd => ?_) fun _ hfd => Or.inl hfd
        exact (List.mem_filter.mp hfd).1

lemma Sound.epollWait (h : eloop.Sound) {events : List ℕ} (hevents : ∀ fd ∈ events, fd ∈ eloop.epoll) :
    Kept eloop (eloop.epollWait events) True := by
  refine kept_of_iff (by simp [Inside, EloopSocks.epollWait]) h.stored fun hinside _ => ?_
  exact (h.bounded hinside).mono le_rfl (fun _ _ hsock => hsock) (fun _ hfd => hfd) fun fd hfd => Or.inr (hevents fd hfd)

lemma Sound.dispatch (h : eloop.Sound) : Kept eloop eloop.eloopSockTableDispatch True := by
  unfold eloopSockTableDispatch
  split
  · exact kept_of_iff (by simp) h.stored fun hinside _ => h.bounded hinside
  · rename_i fd events hevents
    split_ifs
    · refine kept_of_iff (by simp [Inside]) h.stored fun hinside _ => ?_
      exact (h.bounded hinside).mono le_rfl (fun _ _ hsock => hsock) (fun _ hfd => hfd) (by simp)
    · refine kept_of_iff ?_ h.stored fun hinside _ => ?_
      · refine Iff.trans (b := eloop.Inside ∧ fd < eloop.maxFd) (inside_access eloop rfl rfl) ?_
        refine and_congr_right fun hinside => iff_of_true ((h.bounded hinside).events fd ?_) trivial
        rw [hevents]
        exact List.mem_cons_self
      · refine (h.bounded hinside).mono le_rfl (fun _ _ hsock => hsock) (fun _ hfd => hfd) fun fd' hfd => Or.inl ?_
        rw [hevents]
        exact List.mem_cons_of_mem _ hfd

lemma Sound.next {eloop' : EloopSocks} {call : EloopSockCall} (h : eloop.Sound) (hnext : eloop.next call = some eloop') :
    Kept eloop eloop' (eloop.Fits call) := by
  cases call with
  | registerSock type sock out =>
    obtain rfl := Option.some.inj hnext
    exact h.registerSock type sock out
  | unregisterSock type sock epollCtl =>
    obtain rfl := Option.some.inj hnext
    exact h.unregisterSock type sock epollCtl
  | epollWait events =>
    simp only [EloopSocks.next] at hnext
    split_ifs at hnext with hevents
    obtain rfl := Option.some.inj hnext
    exact h.epollWait hevents
  | dispatch =>
    obtain rfl := Option.some.inj hnext
    exact h.dispatch

end Calls

/-! ## Runs -/

/-- A run is safe if and only if all its registrations fit. -/
theorem run_safe_iff {calls : List EloopSockCall} {eloop : EloopSocks}
    (hrun : Trace.Run EloopSocks.next init calls eloop) :
    eloop.Safe ↔ Trace.RunWith EloopSocks.next Fits init calls eloop := by
  have hsound : eloop.Sound := hrun.invariant sound_init fun _ _ _ h hnext => (h.next hnext).sound
  rw [hsound.safe_iff]
  refine hrun.iff_runWith (J := Sound) ⟨by simp [init], by simp [init]⟩ sound_init fun _ _ _ h hnext => ?_
  exact ⟨(h.next hnext).sound, (h.next hnext).inside_iff⟩

/-- A handler. -/
def someSock (sock : ℕ) : EloopSock := ⟨sock, 0, 0, 1⟩

theorem run_safe_iff_three :
    ∃ eloop, Trace.Run EloopSocks.next init
        [.registerSock .read (someSock 3) ⟨true, true, true, true⟩, .epollWait [3], .dispatch,
          .unregisterSock .read 3 true] eloop ∧
      (eloop.Safe ↔ Trace.RunWith EloopSocks.next Fits init
        [.registerSock .read (someSock 3) ⟨true, true, true, true⟩, .epollWait [3], .dispatch,
          .unregisterSock .read 3 true] eloop) := by
  have hexec : (Trace.exec EloopSocks.next init
      [.registerSock .read (someSock 3) ⟨true, true, true, true⟩, .epollWait [3], .dispatch,
        .unregisterSock .read 3 true]).isSome = true := by decide +kernel
  obtain ⟨eloop, heloop⟩ := Option.isSome_iff_exists.mp hexec
  have hrun := Trace.run_iff_exec.mpr heloop
  exact ⟨eloop, hrun, run_safe_iff hrun⟩

/-- The first descriptor to be registered is 100, and a descriptor is registered for reading and for writing. -/
theorem sparse_not_safe :
    (∃ eloop, Trace.Run EloopSocks.next init
        [.registerSock .read (someSock 100) ⟨true, true, true, true⟩] eloop ∧ ¬ eloop.Safe) ∧
      ∃ eloop, Trace.Run EloopSocks.next init
        [.registerSock .read (someSock 5) ⟨true, true, true, true⟩,
          .registerSock .write (someSock 5) ⟨true, true, true, false⟩] eloop ∧ ¬ eloop.Safe := by
  constructor
  · refine ⟨_, Trace.run_iff_exec.mpr rfl, fun hsafe => ?_⟩
    exact absurd (hsafe.accesses (100, 16) (by decide +kernel)) (by decide)
  · refine ⟨_, Trace.run_iff_exec.mpr rfl, fun hsafe => ?_⟩
    have hfailed := hsafe.failed _ List.mem_cons_self
    exact absurd (congrArg Prod.snd hfailed) (by decide +kernel)

end EloopSocks

end Ethanol
