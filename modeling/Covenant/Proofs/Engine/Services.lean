import Covenant.Proofs.Engine.Ledger
import Covenant.Proofs.Session.Course

/-!
# The services of a scripted engine

A scripted engine tells its services by the sessions that they belong to. It
counts the sessions that were ever started, so shutting a service down neither
frees its port nor forgets its session: the entry stays where it is and is only
marked.

What there is to say about the services is said by a history of what happened to
them (`Occurrence`): a service was started, or a session was told to shut down.
From the history come the services in the order of their starts, each with whether
it still runs (`services`), and what the engine keeps is just this (`Serves`).
Each call preserves it (`Serves.take`), whatever fails on the way.

A run of a session is a start, what happens then, and a shutdown that nothing
keeps from happening. So a run on an engine without running services leaves none
(`SessionRun.quiet_after`), and `services_of_steps` says both of any calls and of
any runs.
-/

namespace Covenant

/-! ## What calls do to the services -/

/-- **The same services**: the sessions are the same, and so is what was shut
down. -/
structure Ledger.SameServices (l l' : Ledger) : Prop where
  /-- The sessions are the same. -/
  sessions : l'.sessions = l.sessions
  /-- The notes are the same. -/
  shutdowns : l'.shutdowns = l.shutdowns

theorem Ledger.SameServices.refl (l : Ledger) : l.SameServices l := ⟨rfl, rfl⟩

theorem Ledger.SameServices.trans {l l' l'' : Ledger} (h : l.SameServices l')
    (h' : l'.SameServices l'') : l.SameServices l'' :=
  ⟨h'.sessions.trans h.sessions, h'.shutdowns.trans h.shutdowns⟩

namespace Script

/-- Starting a service for a name puts the session in under that name. -/
theorem start_name_cases (s : Script) (name : String) (is : List Interaction)
    (options : PactOptions) (l : Ledger) :
    (∃ e, (s.start (.str name) is options l).outcome = .error e
        ∧ (s.start (.str name) is options l).state = l)
      ∨ ∃ h, (s.start (.str name) is options l).outcome = .ok h ∧ h.id = name
        ∧ (s.start (.str name) is options l).state
          = { l with sessions := l.sessions.put name ⟨h, is, options, true⟩ } := by
  refine (s.start_cases (.str name) is options l).imp id ?_
  rintro ⟨port, h, -, hhandle, hstarted, hstate⟩
  obtain rfl := id_of_handleOf hhandle
  exact ⟨h, hstarted, rfl, hstate⟩

/-- **A start without a port of its own** is refused by the script, or counts up from
the base port. -/
theorem start_of_unset {s : Script} {b : Int} (hbase : s.basePort = .int b) {options : PactOptions}
    (hport : options.port = none) (name : String) (is : List Interaction) (l : Ledger) :
    (∃ x, s.startError = some x ∧ (s.start (.str name) is options l).outcome = .error (.raised x))
      ∨ s.startError = none ∧ ∃ h, (s.start (.str name) is options l).outcome = .ok h
        ∧ h.port = b + l.sessions.length := by
  have hnext : s.nextPort options l = .ok (.int (b + l.sessions.length)) := by
    unfold nextPort
    rw [hport, hbase]
    rfl
  unfold start
  cases herror : s.startError with
  | some x => exact .inl ⟨x, rfl, rfl⟩
  | none =>
    dsimp only
    rw [hnext]
    exact .inr ⟨rfl, _, rfl, rfl⟩

theorem sameServices_write (s : Script) (id : Value) (options : PactOptions) (l : Ledger) :
    l.SameServices (s.write id options l).state := by
  unfold write
  split
  · exact .refl l
  · split
    · exact .refl l
    · unfold writeNoted
      split <;> exact ⟨rfl, rfl⟩

theorem sameServices_report (s : Script) (id : Value) (l : Ledger) :
    l.SameServices (s.report id l).state := by
  rw [state_report]
  exact .refl l

/-- **Shutting a service down** is noted, and the session is marked if it is known. -/
theorem state_shutdown (s : Script) (id : Value) (l : Ledger) :
    (s.shutdown id l).state = { l with
      shutdowns := l.shutdowns ++ [id]
      sessions := (served? l id).elim l.sessions fun served =>
        l.sessions.put served.handle.id { served with running := false } } := by
  unfold shutdown
  dsimp only
  cases served? l id <;> (split; rfl; split <;> rfl)

end Script

/-! ## Calls -/

/-- **A call about a service.** -/
inductive ServiceCall where
  /-- A service is started for a session. -/
  | start (session : String) (interactions : List Interaction) (options : PactOptions)
  /-- The engine is asked for its report. -/
  | report (session : Value)
  /-- The contract of a session is written. -/
  | write (session : Value) (options : PactOptions)
  /-- A service is shut down. -/
  | shutdown (session : Value)

/-- **A call and the script** that the engine has at the time. -/
structure ServiceStep where
  /-- The script. -/
  script : Script
  /-- The call. -/
  call : ServiceCall

/-- **What happened to the services.** -/
inductive Occurrence where
  /-- One was started, with a handle. -/
  | started (handle : ServerHandle)
  /-- A session was told to shut down. -/
  | shutDown (session : Value)

namespace Occurrence

/-- The handle that was handed out. -/
def handle? : Occurrence → Option ServerHandle
  | .started h => some h
  | .shutDown _ => none

/-- Whether it stops the service of a session. -/
def stops (name : String) : Occurrence → Bool
  | .shutDown (.str n) => n == name
  | _ => false

end Occurrence

namespace ServiceStep

/-- The engine's record after a call. -/
def take (step : ServiceStep) (l : Ledger) : Ledger :=
  match step.call with
  | .start name is options => (step.script.start (.str name) is options l).state
  | .report id => (step.script.report id l).state
  | .write id options => (step.script.write id options l).state
  | .shutdown id => (step.script.shutdown id l).state

/-- What happens to the services in a call: a start that fails is none. -/
def occurrence? (step : ServiceStep) (l : Ledger) : Option Occurrence :=
  match step.call with
  | .start name is options =>
    (step.script.start (.str name) is options l).outcome.toOption.map .started
  | .shutdown id => some (.shutDown id)
  | _ => none

/-- The session that a call tells to shut down. -/
def shutdown? (step : ServiceStep) : Option Value :=
  match step.call with
  | .shutdown id => some id
  | _ => none

/-- The engine's record after calls. -/
def takeAll (steps : List ServiceStep) (l : Ledger) : Ledger :=
  steps.foldl (fun l step => step.take l) l

/-- **What happens to the services in calls.** -/
def occurrences : List ServiceStep → Ledger → List Occurrence
  | [], _ => []
  | step :: rest, l => (step.occurrence? l).toList ++ occurrences rest (step.take l)

/-- A call under a base port that starts no service at a port of its own. -/
def Counts (b : Int) (step : ServiceStep) : Prop :=
  step.script.basePort = .int b
    ∧ ∀ name is options, step.call = .start name is options → options.port = none

end ServiceStep

/-! ## Histories -/

/-- The handles that were handed out, in order. -/
def handlesIn (history : List Occurrence) : List ServerHandle :=
  history.filterMap Occurrence.handle?

/-- **The services of a history** in the order of their starts, each with whether it
still runs: no session of its name was told to shut down since. -/
def services : List Occurrence → List (ServerHandle × Bool)
  | [] => []
  | .started h :: rest => (h, !rest.any (Occurrence.stops h.id)) :: services rest
  | .shutDown _ :: rest => services rest

/-- The names of the services that still run, in the order of their starts. -/
def namesRunning (history : List Occurrence) : List String :=
  ((services history).filter Prod.snd).map fun e => e.1.id

/-- The services of a history are those whose handles were handed out. -/
theorem map_fst_services (history : List Occurrence) :
    (services history).map Prod.fst = handlesIn history := by
  induction history with
  | nil => rfl
  | cons o rest ih =>
    cases o with
    | started h => exact congrArg (h :: ·) ih
    | shutDown id => exact ih

/-- **One more occurrence** may stop services, and may be the start of one. -/
theorem services_concat (history : List Occurrence) (o : Occurrence) :
    services (history ++ [o]) = (services history).map (fun e => (e.1, e.2 && !o.stops e.1.id))
      ++ o.handle?.toList.map fun h => (h, true) := by
  induction history with
  | nil => cases o <;> rfl
  | cons o' rest ih =>
    cases o' with
    | started h =>
      rw [List.cons_append, services, ih, services, List.map_cons, List.cons_append]
      simp
    | shutDown id => exact ih

theorem services_started (history : List Occurrence) (h : ServerHandle) :
    services (history ++ [.started h]) = services history ++ [(h, true)] := by
  rw [services_concat]
  refine congrArg (· ++ [(h, true)]) ((List.map_congr_left fun e _ => ?_).trans (List.map_id _))
  exact congrArg (Prod.mk e.1) (Bool.and_true _)

theorem services_shutDown (history : List Occurrence) (id : Value) :
    services (history ++ [.shutDown id])
      = (services history).map fun e => (e.1, e.2 && !(Occurrence.shutDown id).stops e.1.id) := by
  rw [services_concat]
  exact List.append_nil _

theorem handlesIn_started (history : List Occurrence) (h : ServerHandle) :
    handlesIn (history ++ [.started h]) = handlesIn history ++ [h] :=
  List.filterMap_append

theorem handlesIn_shutDown (history : List Occurrence) (id : Value) :
    handlesIn (history ++ [.shutDown id]) = handlesIn history :=
  List.filterMap_append.trans (List.append_nil _)

/-! ## The invariant -/

/-- **The engine serves a history**: it keeps the services of the history under the
names of their sessions, and they count up from the base port. -/
structure Serves (b : Int) (history : List Occurrence) (l : Ledger) : Prop where
  /-- The services. -/
  services : l.sessions.map (fun e => (e.2.handle, e.2.running)) = Covenant.services history
  /-- Their names. -/
  keys : ∀ e ∈ l.sessions, e.1 = e.2.handle.id
  /-- Their ports. -/
  ports : ∀ (k : Nat) h, (handlesIn history)[k]? = some h → h.port = b + k

namespace Serves

variable {b : Int} {history : List Occurrence} {l l' : Ledger}

/-- The names under which the services are kept. -/
theorem keys_eq (h : Serves b history l) :
    l.sessions.keys = (handlesIn history).map ServerHandle.id := by
  rw [← map_fst_services, ← h.services, List.map_map, List.map_map]
  exact List.map_congr_left h.keys

/-- **What runs** are the services that were started and not shut down since. -/
theorem running_eq (h : Serves b history l) : l.running = namesRunning history := by
  unfold namesRunning Ledger.running
  rw [← h.services, List.filter_map, List.map_map]
  exact List.map_congr_left fun e he => h.keys e (List.mem_filter.mp he).1

/-- There are as many sessions as handles were handed out. -/
theorem length_sessions (h : Serves b history l) : l.sessions.length = (handlesIn history).length := by
  rw [← map_fst_services, ← h.services, List.length_map, List.length_map]

theorem congr (h : Serves b history l) (hsame : l.SameServices l') : Serves b history l' :=
  ⟨hsame.sessions ▸ h.services, hsame.sessions ▸ h.keys, h.ports⟩

/-- **A service that was started** comes last, with the next port. -/
theorem started (h : Serves b history l) {handle : ServerHandle} {is : List Interaction}
    {options : PactOptions} (hnew : handle.id ∉ (handlesIn history).map ServerHandle.id)
    (hport : handle.port = b + l.sessions.length) :
    Serves b (history ++ [.started handle])
      { l with sessions := l.sessions.put handle.id ⟨handle, is, options, true⟩ } := by
  have hput : l.sessions.put handle.id ⟨handle, is, options, true⟩
      = l.sessions ++ [(handle.id, ⟨handle, is, options, true⟩)] :=
    Entries.put_of_not_mem _ (h.keys_eq ▸ hnew)
  refine ⟨?_, fun e he => ?_, fun k x hk => ?_⟩
  · dsimp only
    rw [hput, List.map_append, h.services, services_started]
    rfl
  · dsimp only at he
    rw [hput] at he
    obtain he | he := List.mem_append.mp he
    · exact h.keys e he
    · rw [List.mem_singleton.mp he]
  · rw [handlesIn_started, List.getElem?_append] at hk
    split at hk
    · exact h.ports k x hk
    · rename_i hge
      rw [List.getElem?_singleton] at hk
      split at hk
      · obtain rfl := Option.some.inj hk
        rw [hport, h.length_sessions]
        omega
      · cases hk

/-- What is marked when a session is told to shut down. -/
theorem sessions_shutdown (h : Serves b history l)
    (hnodup : ((handlesIn history).map ServerHandle.id).Nodup) (id : Value) :
    ((Script.served? l id).elim l.sessions fun served =>
        l.sessions.put served.handle.id { served with running := false })
      = l.sessions.map fun e => (e.1,
        { e.2 with running := e.2.running && !(Occurrence.shutDown id).stops e.1 }) := by
  have hkept : ∀ e : String × ServedSession, (Occurrence.shutDown id).stops e.1 = false →
      (e.1, { e.2 with running := e.2.running && !(Occurrence.shutDown id).stops e.1 }) = e := by
    intro e hstops
    rw [hstops]
    exact congrArg (fun r => (e.1, { e.2 with running := r })) (Bool.and_true _)
  by_cases htext : ∃ name, id = .str name
  · obtain ⟨name, rfl⟩ := htext
    have hput : ((Script.served? l (.str name)).elim l.sessions fun served =>
          l.sessions.put served.handle.id { served with running := false })
        = (l.sessions.get? name).elim l.sessions fun served =>
          l.sessions.put name { served with running := false } := by
      show (l.sessions.get? name).elim _ _ = _
      cases hserved : l.sessions.get? name with
      | none => rfl
      | some served =>
        obtain ⟨_, _, hsessions, -⟩ := List.lookup_eq_some_iff.mp hserved
        have hid : name = served.handle.id := h.keys (name, served) (by simp [hsessions])
        exact congrArg (fun n => l.sessions.put n { served with running := false }) hid.symm
    refine hput.trans ((Entries.elim_put_eq_map (h.keys_eq ▸ hnodup) name
      fun served => { served with running := false }).trans (List.map_congr_left fun e _ => ?_))
    by_cases hname : e.1 = name
    · simp [Occurrence.stops, hname]
    · have hstops : (name == e.1) = false := by simpa using fun heq => hname heq.symm
      rw [if_neg (by simpa using hname)]
      exact (hkept e hstops).symm
  · have hnone : Script.served? l id = none ∧ ∀ n, (Occurrence.shutDown id).stops n = false := by
      cases id with
      | str name => exact absurd ⟨name, rfl⟩ htext
      | _ => exact ⟨rfl, fun _ => rfl⟩
    rw [hnone.1]
    exact ((List.map_congr_left fun e _ => hkept e (hnone.2 e.1)).trans (List.map_id _)).symm

/-- **A session that is told to shut down** is marked, where it is one. -/
theorem shutDown (h : Serves b history l) (hnodup : ((handlesIn history).map ServerHandle.id).Nodup)
    (s : Script) (id : Value) :
    Serves b (history ++ [.shutDown id]) (s.shutdown id l).state := by
  rw [Script.state_shutdown, h.sessions_shutdown hnodup]
  refine ⟨?_, fun e he => ?_, (handlesIn_shutDown history id).symm ▸ h.ports⟩
  · rw [services_shutDown, ← h.services, List.map_map, List.map_map]
    refine List.map_congr_left fun e he => ?_
    show (e.2.handle, e.2.running && !(Occurrence.shutDown id).stops e.1) = _
    rw [h.keys e he]
    rfl
  · obtain ⟨e', he', rfl⟩ := List.mem_map.mp he
    exact h.keys e' he'

/-- **The step**: a call whose start, if it is one, is that of a new session. -/
theorem take (h : Serves b history l) {step : ServiceStep} (hcounts : step.Counts b)
    (hnodup : ((handlesIn (history ++ (step.occurrence? l).toList)).map ServerHandle.id).Nodup) :
    Serves b (history ++ (step.occurrence? l).toList) (step.take l) := by
  obtain ⟨s, call⟩ := step
  obtain ⟨hbase, hunset⟩ := hcounts
  cases call with
  | start name is options =>
    have hoccurrence : ServiceStep.occurrence? ⟨s, .start name is options⟩ l
        = (s.start (.str name) is options l).outcome.toOption.map .started := rfl
    show Serves b _ (s.start (.str name) is options l).state
    rw [hoccurrence] at hnodup ⊢
    obtain ⟨e, houtcome, hstate⟩ | ⟨handle, houtcome, rfl, hstate⟩ :=
      s.start_name_cases name is options l
    · rw [houtcome, hstate]
      exact (List.append_nil history).symm ▸ h
    · rw [houtcome] at hnodup ⊢
      rw [hstate]
      obtain ⟨x, -, hrefused⟩ | ⟨-, handle', houtcome', hport⟩ :=
        Script.start_of_unset hbase (hunset _ _ _ rfl) handle.id is l
      · exact nomatch houtcome.symm.trans hrefused
      · obtain rfl : handle = handle' := Except.ok.inj (houtcome.symm.trans houtcome')
        refine h.started (fun hmem => ?_) hport
        -- its name is new, or the names would not be distinct
        change ((handlesIn (history ++ [.started handle])).map ServerHandle.id).Nodup at hnodup
        rw [handlesIn_started, List.map_append, List.nodup_append] at hnodup
        exact hnodup.2.2 handle.id hmem handle.id List.mem_cons_self rfl
  | report id =>
    rw [show ServiceStep.occurrence? ⟨s, .report id⟩ l = none from rfl, Option.toList_none,
      List.append_nil]
    exact h.congr (s.sameServices_report id l)
  | write id options =>
    rw [show ServiceStep.occurrence? ⟨s, .write id options⟩ l = none from rfl, Option.toList_none,
      List.append_nil]
    exact h.congr (s.sameServices_write id options l)
  | shutdown id =>
    rw [show (ServiceStep.occurrence? ⟨s, .shutdown id⟩ l).toList = [.shutDown id] from rfl,
      handlesIn_shutDown] at hnodup
    exact h.shutDown hnodup s id

/-- **The run**: calls that start each session once at most. -/
theorem takeAll (h : Serves b history l) {steps : List ServiceStep}
    (hcounts : ∀ step ∈ steps, step.Counts b)
    (hnodup : ((handlesIn (history ++ ServiceStep.occurrences steps l)).map
      ServerHandle.id).Nodup) :
    Serves b (history ++ ServiceStep.occurrences steps l) (ServiceStep.takeAll steps l) := by
  induction steps generalizing history l with
  | nil => exact (List.append_nil history).symm ▸ h
  | cons step rest ih =>
    rw [ServiceStep.occurrences, ← List.append_assoc] at hnodup ⊢
    have hbefore : ((handlesIn (history ++ (step.occurrence? l).toList)).map
        ServerHandle.id).Nodup := by
      refine hnodup.sublist (List.Sublist.map _ ?_)
      exact (List.sublist_append_left _ _).filterMap _
    exact ih (h.take (hcounts step List.mem_cons_self) hbefore)
      (fun step hstep => hcounts step (List.mem_cons_of_mem _ hstep)) hnodup

/-- A new engine serves a history in which nothing happened. -/
theorem new (b : Int) (files : FileSystem) : Serves b [] (.new files) :=
  ⟨rfl, fun _ he => (nomatch he), fun _ _ hk => nomatch hk⟩

theorem nodup_ports (h : Serves b history l) :
    ((handlesIn history).map ServerHandle.port).Nodup := by
  rw [List.Nodup, List.pairwise_map, List.pairwise_iff_getElem]
  intro i j hi hj hij
  rw [h.ports i _ (List.getElem?_eq_getElem hi), h.ports j _ (List.getElem?_eq_getElem hj)]
  omega

end Serves

/-- **Every shutdown is noted**, in the order of the calls. -/
theorem shutdowns_takeAll (steps : List ServiceStep) (l : Ledger) :
    (ServiceStep.takeAll steps l).shutdowns = l.shutdowns ++ steps.filterMap ServiceStep.shutdown? := by
  induction steps generalizing l with
  | nil => exact (List.append_nil _).symm
  | cons step rest ih =>
    have hstep : (step.take l).shutdowns = l.shutdowns ++ step.shutdown?.toList := by
      obtain ⟨s, call⟩ := step
      cases call with
      | start name is options =>
        obtain ⟨e, -, hstate⟩ | ⟨handle, -, -, hstate⟩ := s.start_name_cases name is options l
        · exact (congrArg Ledger.shutdowns hstate).trans (List.append_nil _).symm
        · exact (congrArg Ledger.shutdowns hstate).trans (List.append_nil _).symm
      | report id => exact (s.sameServices_report id l).shutdowns.trans (List.append_nil _).symm
      | write id options =>
        exact (s.sameServices_write id options l).shutdowns.trans (List.append_nil _).symm
      | shutdown id => exact congrArg Ledger.shutdowns (s.state_shutdown id l)
    show (ServiceStep.takeAll rest (step.take l)).shutdowns = _
    rw [ih, hstep, List.append_assoc, List.filterMap_cons]
    cases step.shutdown? <;> rfl

/-! ## Runs of sessions -/

/-- **A session to be run**: the script that the engine has at the time, and the test. -/
structure SessionRun where
  /-- The script. -/
  script : Script
  /-- The session. -/
  session : Session
  /-- The test. -/
  test : TestFunction Ledger

namespace SessionRun

/-- The engine's record after a run. -/
def after (r : SessionRun) (l : Ledger) : Ledger :=
  (r.session.run r.script.engine r.test l).engine

/-- The engine's record after runs, one after the other. -/
def afterEach (runs : List SessionRun) (l : Ledger) : Ledger :=
  runs.foldl (fun l r => r.after l) l

/-- **A run of a session that was not run yet**, with a name, whose test leaves the
services alone. -/
structure Apart (r : SessionRun) : Prop where
  /-- The session was not run. -/
  idle : r.session.state = .idle
  /-- The session goes by a name. -/
  named : ∃ name, r.session.id = .str name
  /-- The test leaves the services alone. -/
  test : ∀ h l, Ledger.SameServices l (r.test h l).2

/-- **Between the start and the shutdown** nothing happens to the services. -/
theorem sameServices_of_course {s : Script} {session : Session} {test : TestFunction Ledger}
    {l l' : Ledger} {o : Except Failure SessionResult} {t : List Event} {q : SessionState}
    (htest : ∀ h l, Ledger.SameServices l (test h l).2)
    (h : Session.Course s.engine session test l o t q l') :
    (Session.started s.engine session l).state.SameServices l' := by
  have hreported : ∀ handle, (Session.started s.engine session l).state.SameServices
      (Session.reported s.engine session test l handle).state :=
    fun handle => (htest handle _).trans (s.sameServices_report session.id _)
  have hwritten : ∀ handle, (Session.started s.engine session l).state.SameServices
      (Session.written s.engine session test l handle).state :=
    fun handle => (hreported handle).trans (s.sameServices_write session.id session.options _)
  cases h with
  | startEnded => exact .refl _
  | startFailed => exact .refl _
  | testEnded => exact htest _ _
  | reportEnded => exact hreported _
  | ruled => exact hreported _
  | writeEnded => exact hwritten _
  | writeFailed => exact hwritten _
  | clean => exact hwritten _

theorem running_eq_nil_iff {l : Ledger} :
    l.running = [] ↔ ∀ e ∈ l.sessions, e.2.running = false := by
  unfold Ledger.running
  rw [List.map_eq_nil_iff, List.filter_eq_nil_iff]
  simp

/-- Where no session runs, none runs after one is marked as shut down. -/
theorem not_running_of_marked {sessions : Entries String ServedSession}
    (h : ∀ e ∈ sessions, e.2.running = false) (marked : Option ServedSession) :
    ∀ e ∈ marked.elim sessions fun served =>
      sessions.put served.handle.id { served with running := false }, e.2.running = false := by
  intro e he
  cases marked with
  | none => exact h e he
  | some served =>
    obtain hmarked | hold := Entries.mem_of_mem_put he
    · rw [hmarked]
    · exact h e hold

/-- **The step**: a run on an engine without running services leaves none, and notes
one shutdown, whatever comes of it. -/
theorem quiet_after {r : SessionRun} (h : r.Apart) {l : Ledger} (hquiet : l.running = []) :
    (r.after l).running = [] ∧ (r.after l).shutdowns = l.shutdowns ++ [r.session.id] := by
  obtain ⟨s, session, test⟩ := r
  obtain ⟨hidle, ⟨name, hname⟩, htest⟩ := h
  obtain ⟨es, hrun, -⟩ := Session.run_of_idle s.engine session test l hidle
  have hsame := sameServices_of_course htest (Session.course_body s.engine hidle test l)
  have hafter : after ⟨s, session, test⟩ l
      = (s.shutdown (.str name) (Session.body s.engine session test l).engine).state := by
    show (session.run s.engine test l).engine = _
    rw [hrun, ← hname]
    rfl
  generalize (Session.body s.engine session test l).engine = l' at hsame hafter
  rw [hafter, Script.state_shutdown, hname]
  have hstarted : (Session.started s.engine session l).state
      = (s.start (.str name) session.interactions session.options l).state :=
    congrArg (fun id => (s.start id session.interactions session.options l).state) hname
  rw [hstarted] at hsame
  rw [running_eq_nil_iff] at hquiet ⊢
  obtain ⟨e, -, hstate⟩ | ⟨handle, -, rfl, hstate⟩ :=
    s.start_name_cases name session.interactions session.options l
  · -- nothing was started, so nothing runs that did not run before
    rw [hstate] at hsame
    refine ⟨?_, congrArg (· ++ _) hsame.shutdowns⟩
    dsimp only
    rw [hsame.sessions]
    exact not_running_of_marked hquiet (Script.served? l' (.str name))
  · -- what was started takes the place of what goes by the same name, and is marked
    rw [hstate] at hsame
    refine ⟨?_, congrArg (· ++ _) hsame.shutdowns⟩
    have hserved : Script.served? l' (.str handle.id)
        = some ⟨handle, session.interactions, session.options, true⟩ := by
      show l'.sessions.get? handle.id = _
      rw [hsame.sessions]
      exact Entries.get?_put_self _ _ _
    dsimp only
    rw [hserved, hsame.sessions, Option.elim_some, Entries.put_put]
    exact not_running_of_marked hquiet
      (some ⟨handle, session.interactions, session.options, true⟩)

/-- **The run**: any runs, one after the other. -/
theorem quiet_afterEach {runs : List SessionRun} (h : ∀ r ∈ runs, r.Apart) {l : Ledger}
    (hquiet : l.running = []) :
    (afterEach runs l).running = []
      ∧ (afterEach runs l).shutdowns = l.shutdowns ++ runs.map fun r => r.session.id := by
  induction runs generalizing l with
  | nil => exact ⟨hquiet, (List.append_nil _).symm⟩
  | cons r rest ih =>
    obtain ⟨hafter, hnoted⟩ := quiet_after (h r List.mem_cons_self) hquiet
    obtain ⟨hrest, hshutdowns⟩ := ih (fun r hr => h r (List.mem_cons_of_mem _ hr)) hafter
    refine ⟨hrest, hshutdowns.trans ?_⟩
    rw [hnoted, List.append_assoc]
    rfl

end SessionRun

/-- **What becomes of the services of an engine.** After any calls that start no
session twice, each start succeeds unless the script refuses it, and the services
have the ports that follow the base port one by one, so that no two of them ever
share one; what runs are the services that were started and not shut down since, in
the order of their starts; and every shutdown is noted. After any runs of sessions,
whatever came of them, nothing runs, and every session was shut down once, in the
order of the runs. -/
theorem services_of_steps (files : FileSystem) :
    (∀ (b : Int) (steps : List ServiceStep), (∀ step ∈ steps, step.Counts b) →
      ∀ history, ServiceStep.occurrences steps (.new files) = history →
        ((handlesIn history).map ServerHandle.id).Nodup →
          (∀ step ∈ steps, ∀ name is options l, step.call = .start name is options →
            ((∃ h, (step.script.start (.str name) is options l).outcome = .ok h)
              ↔ step.script.startError = none))
          ∧ (∀ (k : Nat) h, (handlesIn history)[k]? = some h → h.port = b + k)
          ∧ ((handlesIn history).map ServerHandle.port).Nodup
          ∧ (ServiceStep.takeAll steps (.new files)).running = namesRunning history
          ∧ (ServiceStep.takeAll steps (.new files)).shutdowns
            = steps.filterMap ServiceStep.shutdown?)
      ∧ ∀ runs : List SessionRun, (∀ r ∈ runs, r.Apart) →
        (SessionRun.afterEach runs (.new files)).running = []
          ∧ (SessionRun.afterEach runs (.new files)).shutdowns
            = runs.map fun r => r.session.id := by
  refine ⟨?_, fun runs hruns => SessionRun.quiet_afterEach hruns rfl⟩
  rintro b steps hcounts history rfl hnodup
  have hserves := (Serves.new b files).takeAll hcounts hnodup
  refine ⟨?_, hserves.ports, hserves.nodup_ports, hserves.running_eq, shutdowns_takeAll steps _⟩
  intro step hstep name is options l hcall
  obtain ⟨hbase, hunset⟩ := hcounts step hstep
  obtain ⟨x, herror, hrefused⟩ | ⟨herror, handle, hstarted, -⟩ :=
    Script.start_of_unset hbase (hunset name is options hcall) name is l
  · refine iff_of_false ?_ fun hnone => nomatch herror.symm.trans hnone
    rintro ⟨h, hok⟩
    exact nomatch hok.symm.trans hrefused
  · exact iff_of_true ⟨handle, hstarted⟩ herror

/-- The options of a contract without a port. -/
def portless : PactOptions := ⟨.ofText "pacts", "worker", "orders", false, none, "3.0.0"⟩

/-- A script that refuses to start services. -/
def Script.refusing : Script := { Script.faultless with startError := some (.mk "OSError" true none none) }

/-- Two services, the first of them shut down before the second is started; between
them a start that is refused, and a shutdown of what was never started. -/
def overlappingCalls : List ServiceStep :=
  [⟨.faultless, .start "a" [] portless⟩, ⟨.refusing, .start "b" [] portless⟩,
    ⟨.faultless, .shutdown (.str "a")⟩, ⟨.faultless, .start "c" [] portless⟩,
    ⟨.faultless, .shutdown (.str "x")⟩]

/-- Two runs: of one the service does not start, of the other it cannot be shut down
cleanly. -/
def troubledRuns : List SessionRun :=
  [⟨.refusing, .new (.str "s1") [] portless ⟨false⟩, fun _ l => (.ok .null, l)⟩,
    ⟨{ Script.faultless with shutdownError := some (.mk "OSError" true none none) },
      .new (.str "s2") [] portless ⟨false⟩, fun _ l => (.ok .null, l)⟩]

/-- The second service has a port of its own and runs on, and after the runs nothing
does. -/
theorem services_of_steps_overlapping :
    (∀ step ∈ overlappingCalls, step.Counts 19201)
      ∧ ((handlesIn (ServiceStep.occurrences overlappingCalls (.new .empty))).map ServerHandle.id).Nodup
      ∧ (handlesIn (ServiceStep.occurrences overlappingCalls (.new .empty))).map ServerHandle.port
        = [19201, 19202]
      ∧ (ServiceStep.takeAll overlappingCalls (.new .empty)).running = ["c"]
      ∧ (ServiceStep.takeAll overlappingCalls (.new .empty)).shutdowns = [.str "a", .str "x"]
      ∧ (∀ r ∈ troubledRuns, r.Apart)
      ∧ (SessionRun.afterEach troubledRuns (.new .empty)).running = []
      ∧ (SessionRun.afterEach troubledRuns (.new .empty)).shutdowns = [.str "s1", .str "s2"] := by
  have hcounts : ∀ step ∈ overlappingCalls, step.Counts 19201 := by
    have hbase : ∀ step ∈ overlappingCalls, step.script.basePort = .int 19201 := by
      simp [overlappingCalls, Script.refusing, Script.faultless, Script.defaultBasePort]
    have hunset : ∀ step ∈ overlappingCalls, ∀ name is options, step.call = .start name is options →
        options.port = none := by
      simp [overlappingCalls, portless]
    exact fun step hstep => ⟨hbase step hstep, hunset step hstep⟩
  have hnodup : ((handlesIn (ServiceStep.occurrences overlappingCalls (.new .empty))).map
      ServerHandle.id).Nodup := by decide +kernel
  have hruns : ∀ r ∈ troubledRuns, r.Apart := by
    have heach : ∀ r ∈ troubledRuns, r.session.state = .idle ∧ (∃ name, r.session.id = .str name)
        ∧ ∀ h l, (r.test h l).2 = l := by
      simp [troubledRuns, Session.new]
    intro r hr
    obtain ⟨hidle, hnamed, htest⟩ := heach r hr
    exact ⟨hidle, hnamed, fun h l => (htest h l).symm ▸ .refl l⟩
  obtain ⟨hcalls, hsessions⟩ := services_of_steps .empty
  obtain ⟨-, -, -, hrunning, hshutdowns⟩ := hcalls 19201 overlappingCalls hcounts _ rfl hnodup
  obtain ⟨hquiet, hnoted⟩ := hsessions troubledRuns hruns
  exact ⟨hcounts, hnodup, by decide +kernel, hrunning.trans (by decide +kernel), hshutdowns, hruns,
    hquiet, hnoted⟩

end Covenant
