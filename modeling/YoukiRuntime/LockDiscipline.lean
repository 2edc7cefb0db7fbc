import Mathlib.Logic.Relation
import YoukiRuntime.Interleaving

/-!
# What the tasks do while holding a guard

The registry's locks are meant to guard the map operations alone: a task holding a guard
of `containers` or `containers_by_node` should make no filesystem call and no youki call,
and should not wait for the other lock. `Task.Confined` says this of one program point;
since every interleaving moves a task through its own program points only, it is a
property of the program text, and `Task.guards` says which guards a task holds there.

`init_node`, `create_container` (whose guards are temporaries of single statements),
`stop_container`, `get_container_status` and `list_containers` (which drops its guard
before the status queries) keep to it at every program point. `remove_container` does not:
the write guard of `containers` is a temporary of the `if let` scrutinee, so it lives
through the whole block, across `cleanup_bundle` and across the wait for
`containers_by_node`.

## Main results

* `confined_of_not_removeContainer`: every program point of the five other operations is
  confined.
* `removeContainer_confined_iff`: `remove_container` is confined everywhere but at the
  three points of the block.
* `removeContainer_holds_guard`: from every registry holding an entry for the identifier,
  a run of `remove_container` reaches each of those three points, holding the write guard
  of `containers`.
-/

namespace YoukiRuntime

/-- Whether an action leaves the registry: an external call, or taking a guard. -/
def Action.leavesRegistry : Action → Bool
  | .call .. | .acquire .. => true
  | _ => false

/-- At this program point the task keeps its critical section to the map operation: while
it holds a guard, its next action is neither an external call nor taking a guard. -/
def Task.Confined (t : Task) : Prop :=
  t.guards ≠ [] → t.action.leavesRegistry = false

/-- Confinement is decided at each program point. -/
instance (t : Task) : Decidable t.Confined :=
  inferInstanceAs (Decidable (_ → _))

/-- **The other operations keep their critical sections to the map operation.** -/
theorem confined_of_not_removeContainer {t : Task} (h : ∀ id pc, t ≠ .removeContainer id pc) :
    t.Confined := by
  cases t with
  | removeContainer id pc => exact absurd rfl (h id pc)
  -- at each program point either no guard is held or the next action stays in the registry,
  -- both computations on the program point
  | listContainers n pc =>
    rcases pc with _ | _ | ids | ⟨id, pc, rest⟩ | _ <;> try cases pc
    all_goals first | exact fun _ => rfl | exact fun h => absurd rfl h
  | initNode _ pc | createContainer _ _ _ pc | stopContainer _ pc | getContainerStatus _ pc =>
    cases pc <;> first | exact fun _ => rfl | exact fun h => absurd rfl h

/-- `remove_container` leaves its critical section at exactly the three points of the
`if let` block before the `retain`. -/
theorem removeContainer_confined_iff (id : ContainerId) (pc : RemovePc) :
    (Task.removeContainer id pc).Confined ↔
      ∀ st, pc ≠ .cleanup st ∧ pc ≠ .removeDir st ∧ pc ≠ .lockIndex st := by
  cases pc
  case cleanup st | removeDir st | lockIndex st =>
    -- the write guard is held and the next action is a call or a wait
    exact iff_of_false (fun h => nomatch h (List.cons_ne_nil _ _)) fun h => by simpa using h st
  all_goals refine iff_of_true ?_ fun _ => ⟨nofun, nofun, nofun⟩
  all_goals first | exact fun _ => rfl | exact fun h => absurd rfl h

/-! ### A run of `remove_container` -/

section

variable (cfg : YoukiCliConfig) {s : Sys} {t t' : Task}

/-- A lone task makes its external call. -/
theorem Step.call_single (hs : s.tasks = [t]) {e : External} {next : List Task}
    (h : t.action = .call e next) (ht : t' ∈ next) :
    ∃ s', Step cfg s s' ∧ s'.tasks = [t'] ∧ s'.registry = s.registry ∧ s'.locks = s.locks :=
  ⟨_, .call (i := 0) (by simp [hs]) h ht, by simp [hs], rfl, rfl⟩

/-- A lone task takes a guard the lock grants. -/
theorem Step.acquire_single (hs : s.tasks = [t]) {l : Lock} {a : Access}
    (h : t.action = .acquire l a t') (hg : (s.locks l).Grants a) :
    ∃ s', Step cfg s s' ∧ s'.tasks = [t'] ∧ s'.registry = s.registry :=
  ⟨_, .acquire (i := 0) (by simp [hs]) h hg, by simp [hs], rfl⟩

/-- A lone task makes its map operation. -/
theorem Step.map_single (hs : s.tasks = [t]) {op : MapOp} {next : Registry → Task}
    (h : t.action = .map op next) :
    ∃ s', Step cfg s s' ∧ s'.tasks = [next s.registry] ∧ s'.registry = op.apply s.registry :=
  ⟨_, .map (i := 0) (by simp [hs]) h, by simp [hs], rfl⟩

end

/-- **`remove_container` holds the write guard of `containers` outside its map
operation**: from every registry with an entry for `id`, with `youki delete` succeeding and
the bundle found, a run of `remove_container(id)` alone reaches the `exists` check and the
`remove_dir_all` of `cleanup_bundle`, and the wait for `containers_by_node`, each time
holding the write guard of `containers`. -/
theorem removeContainer_holds_guard (cfg : YoukiCliConfig) {r : Registry} {id : ContainerId}
    {st : ContainerState} (h : r.containers.get id = some st) :
    ∀ pc ∈ [RemovePc.cleanup st, .removeDir st, .lockIndex st],
      (∃ s, Relation.ReflTransGen (Step cfg) (Sys.idle r) s ∧
          s.tasks = [.removeContainer id pc]) ∧
        (Task.removeContainer id pc).guards = [(.containers, .write)] ∧
        ¬(Task.removeContainer id pc).Confined := by
  have r₁ : Relation.ReflTransGen (Step cfg) (Sys.idle r)
      ((Sys.idle r).spawn cfg (.removeContainer id)) :=
    .single (.spawn _ (by simp [Request.Allowed, Sys.idle]))
  -- `youki delete` succeeds, the task takes the write guard of `containers`, `remove` finds
  -- the entry, `exists` finds the bundle, and `remove_dir_all` ends
  obtain ⟨s₂, h₂, e₂, g₂, l₂⟩ := Step.call_single cfg
    (s := (Sys.idle r).spawn cfg (.removeContainer id)) rfl rfl
    (List.mem_cons_self (Task.removeContainer id .lock) _)
  obtain ⟨s₃, h₃, e₃, g₃⟩ := Step.acquire_single cfg e₂ rfl
    (by rw [l₂]; exact ⟨rfl, rfl⟩)
  obtain ⟨s₄, h₄, e₄, -⟩ := Step.map_single cfg e₃ rfl
  replace e₄ : s₄.tasks = [.removeContainer id (.cleanup st)] := by
    rw [e₄, g₃, g₂]
    simp [Sys.idle, h]
  obtain ⟨s₅, h₅, e₅, -⟩ := Step.call_single cfg e₄ rfl (List.mem_cons_self _ _)
  obtain ⟨s₆, h₆, e₆, -⟩ := Step.call_single cfg e₅ rfl (List.mem_cons_self _ _)
  have r₄ := ((r₁.tail h₂).tail h₃).tail h₄
  have hnot : ∀ pc,
      (∃ st', pc = RemovePc.cleanup st' ∨ pc = .removeDir st' ∨ pc = .lockIndex st') →
      ¬(Task.removeContainer id pc).Confined := by
    rintro pc ⟨st', hpc⟩ hc
    have := (removeContainer_confined_iff id pc).1 hc st'
    tauto
  simp only [List.mem_cons, List.mem_singleton, List.not_mem_nil, or_false]
  rintro pc (rfl | rfl | rfl)
  · exact ⟨⟨_, r₄, e₄⟩, rfl, hnot _ ⟨st, .inl rfl⟩⟩
  · exact ⟨⟨_, r₄.tail h₅, e₅⟩, rfl, hnot _ ⟨st, .inr (.inl rfl)⟩⟩
  · exact ⟨⟨_, (r₄.tail h₅).tail h₆, e₆⟩, rfl, hnot _ ⟨st, .inr (.inr rfl)⟩⟩

/-- The entry `create_container` records for `web` on a node. -/
def sampleEntry : ContainerState :=
  startedState (formatContainerId "web" (sampleUuid 2)) (sampleUuid 1)
    (YoukiCliConfig.default.bundlePath (sampleUuid 1) (formatContainerId "web" (sampleUuid 2)))

/-- The registry right after that `create_container` returned. -/
def sampleRegistry : Registry :=
  (Registry.empty.insertContainer sampleEntry.id sampleEntry).pushToNode (sampleUuid 1)
    sampleEntry.id

/-- The three points where `remove_container` keeps the write guard across a call are
reached in a run from the registry `create_container` leaves for `web`. -/
theorem sampleRemove_holds_guard :
    sampleRegistry.containers.get sampleEntry.id = some sampleEntry ∧
      ∀ pc ∈ [RemovePc.cleanup sampleEntry, .removeDir sampleEntry, .lockIndex sampleEntry],
        (∃ s, Relation.ReflTransGen (Step .default) (Sys.idle sampleRegistry) s ∧
          s.tasks = [.removeContainer sampleEntry.id pc]) ∧
        (Task.removeContainer sampleEntry.id pc).guards = [(.containers, .write)] ∧
        ¬(Task.removeContainer sampleEntry.id pc).Confined :=
  ⟨by simp [sampleRegistry], removeContainer_holds_guard .default (by simp [sampleRegistry])⟩

end YoukiRuntime
