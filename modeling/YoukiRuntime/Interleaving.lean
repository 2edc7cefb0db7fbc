import YoukiRuntime.Tasks

/-!
# Interleaved runs of the runtime

One `YoukiCliRuntime` shared by any number of tasks. A step either starts a new call or
lets one running task do its next action: an external call, ending in any of the ways the
source allows; taking a guard, when the `RwLock` grants it (a writer needs the lock free, a
reader needs no writer); dropping a guard; or its map operation, on the registry as it is
when the step happens. Tasks are never removed: a returned task stays at its last program
point.

Callers are bound by two rules, which `Request.Allowed` states. `Uuid::new_v4` never
returns a UUID twice, and no call is given an identifier whose `create_container` has not
yet returned it: a call on an identifier waits until no create of it is running, and a
create never makes an identifier some earlier call was given.

The system also keeps what the callers have seen (`drawn`, `given`) and a log of every map
operation with the task that did it; neither affects any step.

`Sys.schedule` runs a given interleaving, and what it reaches is reachable
(`Reachable.schedule`), so a concrete interleaving can be evaluated rather than built step
by step.
-/

namespace YoukiRuntime

/-- The state of one `tokio::sync::RwLock`: whether a writer holds it, and how many
readers. -/
structure LockState where
  writer : Bool
  readers : Nat

/-- The lock grants a guard of this kind now. -/
def LockState.Grants (s : LockState) : Access → Prop
  | .read => s.writer = false
  | .write => s.writer = false ∧ s.readers = 0

/-- The lock after it granted a guard. -/
def LockState.take (s : LockState) : Access → LockState
  | .read => { s with readers := s.readers + 1 }
  | .write => { s with writer := true }

/-- The lock after a guard of it was dropped. -/
def LockState.drop (s : LockState) : Access → LockState
  | .read => { s with readers := s.readers - 1 }
  | .write => { s with writer := false }

/-- A call made to the runtime. -/
inductive Request
  | initNode (nodeId : NodeId)
  | createContainer (config : ContainerConfig) (options : CreateContainerOptions) (uuid : Uuid)
  | stopContainer (id : ContainerId)
  | removeContainer (id : ContainerId)
  | getContainerStatus (id : ContainerId)
  | listContainers (nodeId : NodeId)

/-- The task a call starts as; a create computes its identifier and bundle path first. -/
def Request.start (cfg : YoukiCliConfig) : Request → Task
  | .initNode n => .initNode n .createDir
  | .createContainer config options uuid =>
    .createContainer (formatContainerId config.name uuid) options.nodeId
      (cfg.bundlePath options.nodeId (formatContainerId config.name uuid)) .createDir
  | .stopContainer id => .stopContainer id .sigterm
  | .removeContainer id => .removeContainer id .delete
  | .getContainerStatus id => .getContainerStatus id .query
  | .listContainers n => .listContainers n .lock

/-- The UUID a call draws. -/
def Request.drawn : Request → List Uuid
  | .createContainer _ _ uuid => [uuid]
  | _ => []

/-- The identifier a call is given. -/
def Request.given : Request → List ContainerId
  | .stopContainer id | .removeContainer id | .getContainerStatus id => [id]
  | _ => []

/-- A create of `id` that has not returned. -/
def Task.CreateRunning (id : ContainerId) : Task → Prop
  | .createContainer id' _ _ pc => id' = id ∧ pc ≠ .done ∧ pc ≠ .failed
  | _ => False

/-- The runtime, the tasks running on it, and what the callers have seen. -/
structure Sys where
  registry : Registry
  locks : Lock → LockState
  tasks : List Task
  drawn : List Uuid
  given : List ContainerId
  log : List (Nat × MapOp)

/-- What the callers may do in `s`: a create draws a fresh UUID and makes an identifier no
earlier call was given; a call given an identifier waits until no create of it runs. -/
def Request.Allowed (s : Sys) : Request → Prop
  | .createContainer config _ uuid =>
    uuid ∉ s.drawn ∧ formatContainerId config.name uuid ∉ s.given
  | .stopContainer id | .removeContainer id | .getContainerStatus id =>
    ∀ t ∈ s.tasks, ¬t.CreateRunning id
  | _ => True

/-- The runtime with no call running, its registry `r` and both locks free. -/
def Sys.idle (r : Registry) : Sys :=
  ⟨r, fun _ => ⟨false, 0⟩, [], [], [], []⟩

/-- The runtime as `YoukiCliRuntime::new` makes it. -/
def Sys.init : Sys := Sys.idle .empty

/-- `s` after a call starts. -/
def Sys.spawn (cfg : YoukiCliConfig) (s : Sys) (req : Request) : Sys :=
  { s with tasks := s.tasks ++ [req.start cfg], drawn := s.drawn ++ req.drawn,
           given := s.given ++ req.given }

/-- `s` with task `i` moved to `t`. -/
def Sys.setTask (s : Sys) (i : Nat) (t : Task) : Sys :=
  { s with tasks := s.tasks.set i t }

/-- `s` with lock `l` in state `ls`. -/
def Sys.setLock (s : Sys) (l : Lock) (ls : LockState) : Sys :=
  { s with locks := Function.update s.locks l ls }

/-- Moving a task replaces it in the task list. -/
@[simp] theorem Sys.tasks_setTask (s : Sys) (i : Nat) (t : Task) :
    (s.setTask i t).tasks = s.tasks.set i t := rfl
/-- Moving a task leaves the registry alone. -/
@[simp] theorem Sys.registry_setTask (s : Sys) (i : Nat) (t : Task) :
    (s.setTask i t).registry = s.registry := rfl
/-- Moving a task leaves the locks alone. -/
@[simp] theorem Sys.locks_setTask (s : Sys) (i : Nat) (t : Task) :
    (s.setTask i t).locks = s.locks := rfl
/-- Changing a lock leaves the tasks alone. -/
@[simp] theorem Sys.tasks_setLock (s : Sys) (l : Lock) (ls : LockState) :
    (s.setLock l ls).tasks = s.tasks := rfl
/-- Changing a lock leaves the registry alone. -/
@[simp] theorem Sys.registry_setLock (s : Sys) (l : Lock) (ls : LockState) :
    (s.setLock l ls).registry = s.registry := rfl
/-- A call that starts adds its task at the end. -/
@[simp] theorem Sys.tasks_spawn (cfg : YoukiCliConfig) (s : Sys) (req : Request) :
    (s.spawn cfg req).tasks = s.tasks ++ [req.start cfg] := rfl
/-- A call that starts leaves the registry alone. -/
@[simp] theorem Sys.registry_spawn (cfg : YoukiCliConfig) (s : Sys) (req : Request) :
    (s.spawn cfg req).registry = s.registry := rfl
/-- A call that starts leaves the locks alone. -/
@[simp] theorem Sys.locks_spawn (cfg : YoukiCliConfig) (s : Sys) (req : Request) :
    (s.spawn cfg req).locks = s.locks := rfl

/-- One step of the runtime. -/
inductive Step (cfg : YoukiCliConfig) : Sys → Sys → Prop
  | spawn {s : Sys} (req : Request) (h : req.Allowed s) : Step cfg s (s.spawn cfg req)
  | call {s : Sys} {i : Nat} {t t' : Task} {e : External} {next : List Task}
      (hi : s.tasks[i]? = some t) (h : t.action = .call e next) (ht : t' ∈ next) :
      Step cfg s (s.setTask i t')
  | acquire {s : Sys} {i : Nat} {t t' : Task} {l : Lock} {a : Access}
      (hi : s.tasks[i]? = some t) (h : t.action = .acquire l a t') (hg : (s.locks l).Grants a) :
      Step cfg s ((s.setTask i t').setLock l ((s.locks l).take a))
  | release {s : Sys} {i : Nat} {t t' : Task} {l : Lock} {a : Access}
      (hi : s.tasks[i]? = some t) (h : t.action = .release l a t') :
      Step cfg s ((s.setTask i t').setLock l ((s.locks l).drop a))
  | map {s : Sys} {i : Nat} {t : Task} {op : MapOp} {next : Registry → Task}
      (hi : s.tasks[i]? = some t) (h : t.action = .map op next) :
      Step cfg s { s with registry := op.apply s.registry, tasks := s.tasks.set i (next s.registry),
                          log := s.log ++ [(i, op)] }

/-- The states some interleaving reaches from `Sys.init`. -/
inductive Reachable (cfg : YoukiCliConfig) : Sys → Prop
  | init : Reachable cfg Sys.init
  | step {s s' : Sys} : Reachable cfg s → Step cfg s s' → Reachable cfg s'

/-! ### Running a schedule

An interleaving can also be computed: a schedule says which call starts or which task goes
on, and `Sys.schedule` runs it, failing where a choice is not a step. Each step it takes is
a `Step` (`Sys.step_of_choose`), so what it reaches is reachable. -/

/-- Whether a lock grants an access is decided on its state. -/
instance (s : LockState) : (a : Access) → Decidable (s.Grants a)
  | .read => inferInstanceAs (Decidable (s.writer = false))
  | .write => inferInstanceAs (Decidable (s.writer = false ∧ s.readers = 0))

/-- Whether a task is a create of `id` still running is decided on its program point. -/
instance (id : ContainerId) : (t : Task) → Decidable (t.CreateRunning id)
  | .createContainer id' _ _ pc =>
    inferInstanceAs (Decidable (id' = id ∧ pc ≠ .done ∧ pc ≠ .failed))
  | .initNode .. | .stopContainer .. | .removeContainer .. | .getContainerStatus ..
  | .listContainers .. => inferInstanceAs (Decidable False)

/-- Whether the callers may make a call is decided on the state. -/
instance (s : Sys) : (req : Request) → Decidable (req.Allowed s)
  | .createContainer config _ uuid =>
    inferInstanceAs (Decidable (uuid ∉ s.drawn ∧ formatContainerId config.name uuid ∉ s.given))
  | .stopContainer id | .removeContainer id | .getContainerStatus id =>
    inferInstanceAs (Decidable (∀ t ∈ s.tasks, ¬t.CreateRunning id))
  | .initNode _ | .listContainers _ => inferInstanceAs (Decidable True)

/-- A choice of the scheduler: start a call, or let task `i` go on, the `k`-th way when its
next action is an external call. -/
inductive Choice
  | spawn (req : Request)
  | advance (i k : Nat)

/-- The state after a choice, when the choice is a step. -/
def Sys.choose (cfg : YoukiCliConfig) (s : Sys) : Choice → Option Sys
  | .spawn req => if req.Allowed s then some (s.spawn cfg req) else none
  | .advance i k =>
    match s.tasks[i]? with
    | none => none
    | some t =>
      match t.action with
      | .call _ next => next[k]?.map (s.setTask i)
      | .acquire l a t' =>
        if (s.locks l).Grants a then some ((s.setTask i t').setLock l ((s.locks l).take a))
        else none
      | .release l a t' => some ((s.setTask i t').setLock l ((s.locks l).drop a))
      | .map op next =>
        some { s with registry := op.apply s.registry, tasks := s.tasks.set i (next s.registry),
                      log := s.log ++ [(i, op)] }
      | .finish => none

/-- The state after a schedule, when each of its choices is a step. -/
def Sys.schedule (cfg : YoukiCliConfig) (s : Sys) : List Choice → Option Sys
  | [] => some s
  | c :: cs => (s.choose cfg c).bind fun s' => s'.schedule cfg cs

/-- Every choice the scheduler takes is a step. -/
theorem Sys.step_of_choose {cfg : YoukiCliConfig} {s s' : Sys} {c : Choice}
    (h : s.choose cfg c = some s') : Step cfg s s' := by
  cases c with
  | spawn req =>
    simp only [Sys.choose] at h
    split_ifs at h with ha
    exact Option.some_inj.1 h ▸ .spawn req ha
  | advance i k =>
    simp only [Sys.choose] at h
    split at h
    · cases h
    rename_i t hi
    split at h
    · obtain ⟨t', ht', rfl⟩ := Option.map_eq_some'.1 h
      exact .call hi ‹_› (List.getElem?_mem ht')
    · split_ifs at h with hg
      exact Option.some_inj.1 h ▸ .acquire hi ‹_› hg
    all_goals cases h
    · exact .release hi ‹_›
    · exact .map hi ‹_›

/-- What a schedule reaches from a reachable state is reachable. -/
theorem Reachable.schedule {cfg : YoukiCliConfig} {s : Sys} (h : Reachable cfg s) :
    ∀ {cs : List Choice} {s' : Sys}, s.schedule cfg cs = some s' → Reachable cfg s' := by
  intro cs
  induction cs generalizing s with
  | nil => intro s' hs; cases hs; exact h
  | cons c cs ih =>
    intro s' hs
    obtain ⟨s₁, h₁, hs'⟩ := Option.bind_eq_some.1 hs
    exact ih (h.step (Sys.step_of_choose h₁)) hs'

end YoukiRuntime
