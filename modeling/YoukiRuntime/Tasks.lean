import YoukiRuntime.Lifecycle

/-!
# The operations as concurrent tasks

Each `ContainerRuntime` operation of `YoukiCliRuntime` is an `async fn` that several tokio
tasks may run at once against the same runtime. Here an operation in progress is a
`Task`: the operation, its arguments, and a program point saying which step it does next.
`Task.action` is the program text: at every point, the one thing the source does there.

* `call`: an external operation the task awaits (the filesystem, the image manager, a
  youki command, a sleep), with every way the source can go on after it;
* `acquire` and `release`: taking a guard of `containers` or `containers_by_node` with
  `read()` or `write()`, and dropping it, where the guard's scope ends in the source;
* `map`: the one map operation done under a guard, which may read the map;
* `finish`: the operation has returned.

Program points are placed at every `.await` of the source and at every guard drop, so
every interleaving of the source is an interleaving of these steps. What a step returns to
the caller is left out: the registry and the locks are what tasks share.

`Task.guards` lists the guards a task holds at each program point. `Task.bracketed_action`
shows it is the right list: calls and map operations keep it, `acquire` adds its guard and
`release` drops one the task holds, and every map operation runs under a guard of its own
map.
-/

namespace YoukiRuntime

/-- The two registry locks of `YoukiCliRuntime`. -/
inductive Lock
  | containers
  | containersByNode
  deriving DecidableEq

/-- How a guard was taken: `read()` or `write()`. -/
inductive Access
  | read
  | write
  deriving DecidableEq

/-- What a task can wait on outside the registry. -/
inductive External
  | fs
  | image
  | youki
  | sleep
  deriving DecidableEq

/-- A map operation done under a guard: the writes the operations make, and their reads. -/
inductive MapOp
  | ensureNode (nodeId : NodeId)
  | insert (id : ContainerId) (state : ContainerState)
  | push (nodeId : NodeId) (id : ContainerId)
  | markStopped (id : ContainerId)
  | take (id : ContainerId)
  | retain (nodeId : NodeId) (id : ContainerId)
  | get (id : ContainerId)
  | listed (nodeId : NodeId)
  deriving DecidableEq

/-- The map this operation works on. -/
def MapOp.lock : MapOp → Lock
  | .insert .. | .markStopped _ | .take _ | .get _ => .containers
  | .ensureNode _ | .push .. | .retain .. | .listed _ => .containersByNode

/-- Whether the operation only reads. -/
def MapOp.isRead : MapOp → Bool
  | .get _ | .listed _ => true
  | _ => false

/-- The registry after the operation. -/
def MapOp.apply : MapOp → Registry → Registry
  | .ensureNode n, r => r.ensureNode n
  | .insert id st, r => r.insertContainer id st
  | .push n id, r => r.pushToNode n id
  | .markStopped id, r => r.markStopped id
  | .take id, r => (r.takeContainer id).2
  | .retain n id, r => r.retainOnNode n id
  | .get _, r => r
  | .listed _, r => r

/-! ### Program points -/

/-- `init_node`: each program point names the step done next. -/
inductive InitNodePc
  | createDir | lock | entry | unlock | done | failed

/-- `create_container`. -/
inductive CreatePc
  | createDir | pull | rootfsExists | removeStale | link | build | youkiCreate | youkiStart
  | track | insert | unlockTrack | index | push | unlockIndex | done | failed
  deriving DecidableEq

/-- `stop_container`. -/
inductive StopPc
  | sigterm | poll | sleep | sigkill | lock | mark | unlock | done | failed

/-- `remove_container`; from `cleanup` on, the task holds the entry it removed. -/
inductive RemovePc
  | delete | lock | take
  | cleanup (state : ContainerState) | removeDir (state : ContainerState)
  | lockIndex (state : ContainerState) | retain (state : ContainerState)
  | unlockIndex | unlock | done | failed

/-- `get_container_status`. -/
inductive StatusPc
  | query | lock | get | unlock | done

/-- `list_containers`; `status id pc rest` is inside `get_container_status(id)`, with
`rest` still to query. -/
inductive ListPc
  | lock | read | unlock (ids : List ContainerId)
  | status (id : ContainerId) (pc : StatusPc) (rest : List ContainerId)
  | done

/-- The next status query of `list_containers`, if any is left. -/
def ListPc.next : List ContainerId → ListPc
  | [] => .done
  | id :: rest => .status id .query rest

/-- An operation in progress. -/
inductive Task
  | initNode (nodeId : NodeId) (pc : InitNodePc)
  | createContainer (id : ContainerId) (nodeId : NodeId) (bundlePath : String) (pc : CreatePc)
  | stopContainer (id : ContainerId) (pc : StopPc)
  | removeContainer (id : ContainerId) (pc : RemovePc)
  | getContainerStatus (id : ContainerId) (pc : StatusPc)
  | listContainers (nodeId : NodeId) (pc : ListPc)

/-- What a task does next. -/
inductive Action
  | call (e : External) (next : List Task)
  | acquire (l : Lock) (a : Access) (next : Task)
  | release (l : Lock) (a : Access) (next : Task)
  | map (op : MapOp) (next : Registry → Task)
  | finish

/-! ### The program text -/

/-- `init_node`: `create_dir_all` of the node's bundle directory, then `or_insert_with` on
the node's entry under the write guard, dropped at the return. -/
def initNodeStep (n : NodeId) : InitNodePc → Action
  | .createDir => .call .fs [.initNode n .lock, .initNode n .failed]
  | .lock => .acquire .containersByNode .write (.initNode n .entry)
  | .entry => .map (.ensureNode n) fun _ => .initNode n .unlock
  | .unlock => .release .containersByNode .write (.initNode n .done)
  | .done | .failed => .finish

/-- `create_container`: the bundle, the image, the rootfs link, `config.json`, `youki
create` and `youki start`, any of which may fail the call; then the two map updates, each
under a guard that is a temporary of its own statement. -/
def createContainerStep (id : ContainerId) (n : NodeId) (bp : String) : CreatePc → Action
  | .createDir => .call .fs [.createContainer id n bp .pull, .createContainer id n bp .failed]
  | .pull =>
    .call .image [.createContainer id n bp .rootfsExists, .createContainer id n bp .failed]
  | .rootfsExists =>
    .call .fs [.createContainer id n bp .removeStale, .createContainer id n bp .link]
  | .removeStale => .call .fs [.createContainer id n bp .link]
  | .link => .call .fs [.createContainer id n bp .build, .createContainer id n bp .failed]
  | .build => .call .fs [.createContainer id n bp .youkiCreate, .createContainer id n bp .failed]
  | .youkiCreate =>
    .call .youki [.createContainer id n bp .youkiStart, .createContainer id n bp .failed]
  | .youkiStart => .call .youki [.createContainer id n bp .track, .createContainer id n bp .failed]
  | .track => .acquire .containers .write (.createContainer id n bp .insert)
  | .insert =>
    .map (.insert id (startedState id n bp)) fun _ => .createContainer id n bp .unlockTrack
  | .unlockTrack => .release .containers .write (.createContainer id n bp .index)
  | .index => .acquire .containersByNode .write (.createContainer id n bp .push)
  | .push => .map (.push n id) fun _ => .createContainer id n bp .unlockIndex
  | .unlockIndex => .release .containersByNode .write (.createContainer id n bp .done)
  | .done | .failed => .finish

/-- `stop_container`: `SIGTERM`, then the polling loop, which leaves for the update when the
container is stopped or gone, sends `SIGKILL` first past the deadline, sleeps while it
runs, and fails the call on any other error; then `get_mut` under a write guard that is a
temporary of the `if let`. -/
def stopContainerStep (id : ContainerId) : StopPc → Action
  | .sigterm => .call .youki [.stopContainer id .poll]
  | .poll => .call .youki [.stopContainer id .lock, .stopContainer id .sigkill,
      .stopContainer id .sleep, .stopContainer id .failed]
  | .sleep => .call .sleep [.stopContainer id .poll]
  | .sigkill => .call .youki [.stopContainer id .lock]
  | .lock => .acquire .containers .write (.stopContainer id .mark)
  | .mark => .map (.markStopped id) fun _ => .stopContainer id .unlock
  | .unlock => .release .containers .write (.stopContainer id .done)
  | .done | .failed => .finish

/-- `remove_container`: `youki delete --force`, then `remove` under a write guard that is a
temporary of the `if let` scrutinee, so it is held through the whole block: through
`cleanup_bundle` (`exists`, then `remove_dir_all` when the bundle exists) and through the
`retain` under the guard of `containers_by_node`, dropped at the end of the block. -/
def removeContainerStep (id : ContainerId) : RemovePc → Action
  | .delete => .call .youki [.removeContainer id .lock, .removeContainer id .failed]
  | .lock => .acquire .containers .write (.removeContainer id .take)
  | .take => .map (.take id) fun r =>
      match r.containers.get id with
      | some st => .removeContainer id (.cleanup st)
      | none => .removeContainer id .unlock
  | .cleanup st =>
    .call .fs [.removeContainer id (.removeDir st), .removeContainer id (.lockIndex st)]
  | .removeDir st => .call .fs [.removeContainer id (.lockIndex st)]
  | .lockIndex st => .acquire .containersByNode .write (.removeContainer id (.retain st))
  | .retain st => .map (.retain st.nodeId id) fun _ => .removeContainer id .unlockIndex
  | .unlockIndex => .release .containersByNode .write (.removeContainer id .unlock)
  | .unlock => .release .containers .write (.removeContainer id .done)
  | .done | .failed => .finish

/-- `get_container_status(id)` inside a task: `resume` places it in the task, `after` is
where the task goes once the status is known. `youki state` answers the status, or fails
with not-found, which sends the query to the registry under a read guard, or fails
otherwise, which reports `unknown`. -/
def statusStep (id : ContainerId) (resume : StatusPc → Task) (after : Task) : StatusPc → Action
  | .query => .call .youki [after, resume .lock]
  | .lock => .acquire .containers .read (resume .get)
  | .get => .map (.get id) fun _ => resume .unlock
  | .unlock => .release .containers .read after
  | .done => .finish

/-- `list_containers`: the node's list cloned under a read guard, dropped explicitly before
the status queries, one `get_container_status` per identifier. -/
def listContainersStep (n : NodeId) : ListPc → Action
  | .lock => .acquire .containersByNode .read (.listContainers n .read)
  | .read => .map (.listed n) fun r => .listContainers n (.unlock (r.listed n))
  | .unlock ids => .release .containersByNode .read (.listContainers n (ListPc.next ids))
  | .status id pc rest =>
    statusStep id (fun pc => .listContainers n (.status id pc rest))
      (.listContainers n (ListPc.next rest)) pc
  | .done => .finish

/-- What a task does next. -/
def Task.action : Task → Action
  | .initNode n pc => initNodeStep n pc
  | .createContainer id n bp pc => createContainerStep id n bp pc
  | .stopContainer id pc => stopContainerStep id pc
  | .removeContainer id pc => removeContainerStep id pc
  | .getContainerStatus id pc =>
    statusStep id (.getContainerStatus id) (.getContainerStatus id .done) pc
  | .listContainers n pc => listContainersStep n pc

/-! ### Held guards -/

/-- The guards a task holds at a program point, oldest first. -/
def Task.guards : Task → List (Lock × Access)
  | .initNode _ .entry | .initNode _ .unlock => [(.containersByNode, .write)]
  | .createContainer _ _ _ .insert | .createContainer _ _ _ .unlockTrack => [(.containers, .write)]
  | .createContainer _ _ _ .push | .createContainer _ _ _ .unlockIndex =>
    [(.containersByNode, .write)]
  | .stopContainer _ .mark | .stopContainer _ .unlock => [(.containers, .write)]
  | .removeContainer _ .take | .removeContainer _ (.cleanup _) | .removeContainer _ (.removeDir _)
  | .removeContainer _ (.lockIndex _) | .removeContainer _ .unlock => [(.containers, .write)]
  | .removeContainer _ (.retain _) | .removeContainer _ .unlockIndex =>
    [(.containers, .write), (.containersByNode, .write)]
  | .getContainerStatus _ .get | .getContainerStatus _ .unlock => [(.containers, .read)]
  | .listContainers _ .read | .listContainers _ (.unlock _) => [(.containersByNode, .read)]
  | .listContainers _ (.status _ .get _) | .listContainers _ (.status _ .unlock _) =>
    [(.containers, .read)]
  | _ => []

/-- Between two status queries `list_containers` holds no guard. -/
@[simp] theorem guards_listContainers_next (n : NodeId) (ids : List ContainerId) :
    (Task.listContainers n (ListPc.next ids)).guards = [] := by
  cases ids <;> rfl

/-- What an action does to the guards `g` its task holds: a call keeps them, `acquire` adds
one, `release` drops the last one taken, a map operation keeps them and runs under a guard
of its own map (a write guard unless it only reads), and a task returns holding none. -/
def Action.Bracketed (g : List (Lock × Access)) : Action → Prop
  | .call _ next => ∀ t ∈ next, t.guards = g
  | .acquire l a t => t.guards = g ++ [(l, a)]
  | .release l a t => g = t.guards ++ [(l, a)]
  | .map op next =>
    (∀ r, (next r).guards = g) ∧
      ((op.lock, .write) ∈ g ∨ op.isRead ∧ (op.lock, .read) ∈ g)
  | .finish => g = []

/-- **`Task.guards` is what the program text holds**: at every program point of every
operation, the next action agrees with the guards listed before and after it. -/
theorem Task.bracketed_action (t : Task) : t.action.Bracketed t.guards := by
  -- once the program text is unfolded, every obligation is a computation on program points
  cases t with
  | removeContainer id pc =>
    cases pc <;> simp only [Task.action, removeContainerStep, Action.Bracketed,
      List.forall_mem_cons, List.not_mem_nil, false_implies, implies_true, and_true]
    case take => exact ⟨fun r => by cases r.containers.get id <;> rfl, .inl (.head _)⟩
    case retain => exact ⟨fun _ => rfl, .inl (.tail _ (.head _))⟩
    all_goals first | rfl | exact ⟨rfl, rfl⟩
  | listContainers n pc =>
    rcases pc with _ | _ | ids | ⟨id, pc, rest⟩ | _ <;> try cases pc
    all_goals simp only [Task.action, listContainersStep, statusStep, Action.Bracketed,
      List.forall_mem_cons, List.not_mem_nil, false_implies, implies_true, and_true,
      guards_listContainers_next]
    all_goals first | rfl | exact ⟨rfl, rfl⟩ | exact ⟨fun _ => rfl, .inr ⟨rfl, .head _⟩⟩
  | initNode _ pc | createContainer _ _ _ pc | stopContainer _ pc | getContainerStatus _ pc =>
    cases pc <;> simp only [Task.action, initNodeStep, createContainerStep, stopContainerStep,
      statusStep, Action.Bracketed, List.forall_mem_cons, List.not_mem_nil, false_implies,
      implies_true, and_true]
    all_goals first
      | rfl
      | exact ⟨rfl, rfl⟩
      | exact ⟨rfl, rfl, rfl, rfl⟩
      | exact ⟨fun _ => rfl, .inl (.head _)⟩
      | exact ⟨fun _ => rfl, .inr ⟨rfl, .head _⟩⟩

end YoukiRuntime
