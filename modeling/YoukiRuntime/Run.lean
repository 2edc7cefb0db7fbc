import YoukiRuntime.Lifecycle
import Mathlib.Data.List.Nodup

/-!
# Runs of the runtime

A run is a sequence of calls of the `ContainerRuntime` interface on one runtime, each
with what the outside world answered during it. `Run r h` says that the calls of the
history `h`, made one after the other from the empty registry `with_config` builds, leave
the registry `r`; every entry of `h` pairs a call with what it returned.

The only assumption a run carries is the one of `Uuid::new_v4`: every `create_container`
draws a fresh UUID, `(uuidsOf h).Nodup`.

The history predicates say, in terms of calls and returns only, what the registry should
hold: `LiveIn h id` (some `create_container` returned `Ok(id)` and no later
`remove_container(id)` returned `Ok`) and `StoppedSinceCreate h id` (a
`stop_container(id)` returned `Ok` after that create). Each has a lemma saying how one more
call changes it (`liveIn_snoc`, `stoppedSinceCreate_snoc`).
-/

namespace YoukiRuntime

/-- One call of the `ContainerRuntime` interface, with what the outside world answers
during it. -/
inductive Call
  | initNode (nodeId : NodeId) (mkdir : Except String Unit)
  | createContainer (config : ContainerConfig) (options : CreateContainerOptions) (uuid : Uuid)
      (env : CreateEnv)
  | stopContainer (id : ContainerId) (env : StopEnv) (calledAt : Nat)
  | removeContainer (id : ContainerId) (delete : ExecOutcome)
  | getContainerStatus (id : ContainerId) (state : ExecOutcome)
  | listContainers (nodeId : NodeId) (answer : Nat → ExecOutcome)

/-- What a call returned. -/
inductive Returned
  | unit (result : Result Unit)
  | containerId (result : Result ContainerId)
  | status (result : Result ContainerStatus)
  | statuses (result : Result (List ContainerStatus))

section

variable (cfg : YoukiCliConfig) (decode : String → Except String YoukiState)
  (render : OrchestrationError → String)

/-- A call on the registry `r`: what it returns, and the registry after it. -/
def Call.exec : Call → Registry → Returned × Registry
  | .initNode n mkdir, r => Prod.map .unit id (YoukiRuntime.initNode r n mkdir)
  | .createContainer config options uuid env, r =>
    Prod.map .containerId id (YoukiRuntime.createContainer cfg r config options uuid env)
  | .stopContainer i env calledAt, r =>
    Prod.map .unit id (YoukiRuntime.stopContainer cfg decode r i env calledAt)
  | .removeContainer i delete, r => Prod.map .unit id (YoukiRuntime.removeContainer r i delete)
  | .getContainerStatus i state, r =>
    (.status (YoukiRuntime.getContainerStatus decode r i state), r)
  | .listContainers n answer, r =>
    (.statuses (YoukiRuntime.listContainers decode render r n answer), r)

/-- `Run r h`: from the empty registry, the calls of `h` leave the registry `r`. -/
inductive Run : Registry → List (Call × Returned) → Prop
  | init : Run .empty []
  | call {r : Registry} {h : List (Call × Returned)} (c : Call) :
      Run r h → Run (c.exec cfg decode render r).2 (h ++ [(c, (c.exec cfg decode render r).1)])

end

/-! ### Histories -/

/-- The UUID a `create_container` call drew. -/
def Call.uuid? : Call → Option Uuid
  | .createContainer _ _ uuid _ => some uuid
  | _ => none

/-- The UUIDs drawn along a history, in order. -/
def uuidsOf (h : List (Call × Returned)) : List Uuid :=
  h.filterMap (·.1.uuid?)

/-- The identifier a `create_container` returned with `Ok`, with the node it is on. -/
def createdOn? : Call × Returned → Option (ContainerId × NodeId)
  | (.createContainer _ options _ _, .containerId (.ok id)) => some (id, options.nodeId)
  | _ => none

/-- The identifiers successful `create_container` calls returned, in order. -/
def createdIds (h : List (Call × Returned)) : List ContainerId :=
  (h.filterMap createdOn?).map Prod.fst

/-- The identifiers successful `create_container` calls on node `n` returned, in order. -/
def createdOn (h : List (Call × Returned)) (n : NodeId) : List ContainerId :=
  ((h.filterMap createdOn?).filter (·.2 = n)).map Prod.fst

/-- `p` is a `create_container` call that returned `Ok(id)`. -/
def IsCreatedOk (id : ContainerId) (p : Call × Returned) : Prop :=
  ∃ config options uuid env, p = (.createContainer config options uuid env, .containerId (.ok id))

/-- `p` is a `remove_container(id)` call that returned `Ok`. -/
def IsRemovedOk (id : ContainerId) (p : Call × Returned) : Prop :=
  ∃ delete, p = (.removeContainer id delete, .unit (.ok ()))

/-- `p` is a `stop_container(id)` call that returned `Ok`. -/
def IsStoppedOk (id : ContainerId) (p : Call × Returned) : Prop :=
  ∃ env calledAt, p = (.stopContainer id env calledAt, .unit (.ok ()))

/-- Some `create_container` of the history returned `Ok(id)`. -/
def CreatedIn (h : List (Call × Returned)) (id : ContainerId) : Prop :=
  ∃ p ∈ h, IsCreatedOk id p

/-- Some `create_container` returned `Ok(id)`, and no later `remove_container(id)`
returned `Ok`. -/
def LiveIn (h : List (Call × Returned)) (id : ContainerId) : Prop :=
  ∃ pre p post, h = pre ++ p :: post ∧ IsCreatedOk id p ∧ ∀ q ∈ post, ¬ IsRemovedOk id q

/-- Some `stop_container(id)` returned `Ok` after a `create_container` that returned
`Ok(id)`. -/
def StoppedSinceCreate (h : List (Call × Returned)) (id : ContainerId) : Prop :=
  ∃ pre p post, h = pre ++ p :: post ∧ IsCreatedOk id p ∧ ∃ q ∈ post, IsStoppedOk id q

/-- A call returned `Ok(id)` from a create exactly when `createdOn?` reads `id` from it. -/
theorem isCreatedOk_iff {id : ContainerId} {p : Call × Returned} :
    IsCreatedOk id p ↔ ∃ n, createdOn? p = some (id, n) := by
  obtain ⟨c, ret⟩ := p
  constructor
  · rintro ⟨config, options, uuid, env, h⟩
    cases h
    exact ⟨options.nodeId, rfl⟩
  · rintro ⟨n, h⟩
    cases c <;> cases ret <;> simp only [createdOn?, reduceCtorEq] at h
    rename_i config options uuid env res
    cases res <;> simp only [createdOn?, reduceCtorEq, Option.some.injEq, Prod.mk.injEq] at h
    exact ⟨config, options, uuid, env, by rw [h.1]⟩

/-- The identifiers successful creates returned are those created in the history. -/
theorem mem_createdIds {h : List (Call × Returned)} {id : ContainerId} :
    id ∈ createdIds h ↔ CreatedIn h id := by
  simp only [createdIds, List.mem_map, List.mem_filterMap, CreatedIn, isCreatedOk_iff]
  constructor
  · rintro ⟨⟨id', n⟩, ⟨p, hp, hc⟩, rfl⟩
    exact ⟨p, hp, n, hc⟩
  · rintro ⟨p, hp, n, hc⟩
    exact ⟨(id, n), ⟨p, hp, hc⟩, rfl⟩

/-- A live identifier was created. -/
theorem LiveIn.createdIn {h : List (Call × Returned)} {id : ContainerId} (hl : LiveIn h id) :
    CreatedIn h id := by
  obtain ⟨pre, p, post, rfl, hc, -⟩ := hl
  exact ⟨p, by simp, hc⟩

/-- An identifier stopped since its creation was created. -/
theorem StoppedSinceCreate.createdIn {h : List (Call × Returned)} {id : ContainerId}
    (hs : StoppedSinceCreate h id) : CreatedIn h id := by
  obtain ⟨pre, p, post, rfl, hc, -⟩ := hs
  exact ⟨p, by simp, hc⟩

/-- Where an entry of a history that grew by one call can sit. -/
theorem append_singleton_eq_append_cons {α : Type} {h pre post : List α} {p x : α} :
    h ++ [p] = pre ++ x :: post ↔
      (pre = h ∧ x = p ∧ post = []) ∨
        ∃ post', post = post' ++ [p] ∧ h = pre ++ x :: post' := by
  constructor
  · intro he
    rcases List.eq_nil_or_concat post with rfl | ⟨post', y, rfl⟩
    · obtain ⟨h1, h2⟩ := List.append_inj' he rfl
      simp_all
    · have he' : h ++ [p] = (pre ++ x :: post') ++ [y] := by simpa using he
      obtain ⟨h1, h2⟩ := List.append_inj' he' rfl
      simp_all
  · rintro (⟨rfl, rfl, rfl⟩ | ⟨post', rfl, rfl⟩) <;> simp

/-- An identifier is live after one more call when it was live and the call did not remove
it, or the call created it. -/
theorem liveIn_snoc {h : List (Call × Returned)} {p : Call × Returned} {id : ContainerId} :
    LiveIn (h ++ [p]) id ↔ (LiveIn h id ∧ ¬ IsRemovedOk id p) ∨ IsCreatedOk id p := by
  constructor
  · rintro ⟨pre, x, post, he, hc, hr⟩
    rcases append_singleton_eq_append_cons.1 he with ⟨-, rfl, -⟩ | ⟨post', rfl, rfl⟩
    · exact .inr hc
    · exact .inl ⟨⟨pre, x, post', rfl, hc, fun q hq => hr q (by simp [hq])⟩,
        hr p (by simp)⟩
  · rintro (⟨⟨pre, x, post, rfl, hc, hr⟩, hp⟩ | hc)
    · refine ⟨pre, x, post ++ [p], by simp, hc, fun q hq => ?_⟩
      rcases List.mem_append.1 hq with hq | hq
      · exact hr q hq
      · rwa [List.mem_singleton.1 hq]
    · exact ⟨h, p, [], rfl, hc, by simp⟩

/-- An identifier is stopped since its creation after one more call when it already was, or
it was created and the call stopped it. -/
theorem stoppedSinceCreate_snoc {h : List (Call × Returned)} {p : Call × Returned}
    {id : ContainerId} :
    StoppedSinceCreate (h ++ [p]) id ↔
      StoppedSinceCreate h id ∨ (CreatedIn h id ∧ IsStoppedOk id p) := by
  constructor
  · rintro ⟨pre, x, post, he, hc, q, hq, hs⟩
    rcases append_singleton_eq_append_cons.1 he with ⟨-, -, rfl⟩ | ⟨post', rfl, rfl⟩
    · simp at hq
    · rcases List.mem_append.1 hq with hq | hq
      · exact .inl ⟨pre, x, post', rfl, hc, q, hq, hs⟩
      · rw [List.mem_singleton.1 hq] at hs
        exact .inr ⟨⟨x, by simp, hc⟩, hs⟩
  · rintro (⟨pre, x, post, rfl, hc, q, hq, hs⟩ | ⟨⟨x, hx, hc⟩, hs⟩)
    · exact ⟨pre, x, post ++ [p], by simp, hc, q, by simp [hq], hs⟩
    · obtain ⟨pre, post, rfl⟩ := List.append_of_mem hx
      exact ⟨pre, x, post ++ [p], by simp, hc, p, by simp, hs⟩

/-- The UUIDs drawn along two histories one after the other. -/
@[simp] theorem uuidsOf_append (h h' : List (Call × Returned)) :
    uuidsOf (h ++ h') = uuidsOf h ++ uuidsOf h' := List.filterMap_append _ _ _
/-- The identifiers created along two histories one after the other. -/
@[simp] theorem createdIds_append (h h' : List (Call × Returned)) :
    createdIds (h ++ h') = createdIds h ++ createdIds h' := by simp [createdIds]
/-- The identifiers created on a node along two histories one after the other. -/
@[simp] theorem createdOn_append (h h' : List (Call × Returned)) (n : NodeId) :
    createdOn (h ++ h') n = createdOn h n ++ createdOn h' n := by simp [createdOn]

/-- An identifier created on a node was created. -/
theorem mem_createdIds_of_mem_createdOn {h : List (Call × Returned)} {n : NodeId}
    {id : ContainerId} (hid : id ∈ createdOn h n) : id ∈ createdIds h := by
  simp only [createdOn, createdIds, List.mem_map, List.mem_filter] at hid ⊢
  obtain ⟨x, ⟨hx, -⟩, rfl⟩ := hid
  exact ⟨x, hx, rfl⟩

/-! ### The run invariant -/

/-- What every reachable registry satisfies, with respect to the history that reached it:
the registry invariant in counting form; every identifier created is distinct and carries
a UUID the history drew; an entry exists exactly for the live identifiers, and its status
records whether it was stopped since its creation; each node lists its live identifiers in
creation order. -/
structure RunInv (r : Registry) (h : List (Call × Returned)) : Prop where
  indexed : r.Indexed
  nodup : (createdIds h).Nodup
  drawn : ∀ id ∈ createdIds h,
    ∃ name, ∃ uuid ∈ uuidsOf h, id = formatContainerId name uuid
  live : ∀ id, (r.containers.get id).isSome ↔ LiveIn h id
  status : ∀ id st, r.containers.get id = some st →
    (st.status = "stopped" ↔ StoppedSinceCreate h id) ∧
      (st.status = "stopped" ∨ st.status = "running")
  listed : ∀ n, r.listed n = (createdOn h n).filter fun id => (r.containers.get id).isSome

/-- The empty registry and the empty history satisfy the run invariant. -/
theorem runInv_empty : RunInv .empty [] where
  indexed := Registry.indexed_empty
  nodup := List.nodup_nil
  drawn := by simp [createdIds]
  live id := by simp [Registry.empty, LiveIn]
  status := by simp [Registry.empty]
  listed := by simp [Registry.listed, Registry.empty, createdOn]

/-- A call that creates, removes and stops nothing. -/
structure Quiet (p : Call × Returned) : Prop where
  not_created : createdOn? p = none
  not_removed : ∀ id, ¬ IsRemovedOk id p
  not_stopped : ∀ id, ¬ IsStoppedOk id p

/-- A quiet call creates nothing. -/
theorem Quiet.not_createdOk {p : Call × Returned} (hq : Quiet p) (id : ContainerId) :
    ¬ IsCreatedOk id p := by
  simp [isCreatedOk_iff, hq.not_created]

/-- A quiet call keeps the invariant when it leaves the entries and the node lists as they
were (`init_node` adds an empty list, which nothing observes). -/
theorem RunInv.quiet {r r' : Registry} {h : List (Call × Returned)} {p : Call × Returned}
    (hi : RunInv r h) (hq : Quiet p) (hidx : r'.Indexed) (hc : r'.containers = r.containers)
    (hl : ∀ n, r'.listed n = r.listed n) : RunInv r' (h ++ [p]) := by
  have hids : createdIds [p] = [] := by simp [createdIds, hq.not_created]
  have hon : ∀ n, createdOn [p] n = [] := by simp [createdOn, hq.not_created]
  refine ⟨hidx, by simpa [hids] using hi.nodup, fun id hid => ?_, fun id => ?_,
    fun id st hst => ?_, fun n => ?_⟩
  · obtain ⟨name, uuid, hu, he⟩ := hi.drawn id (by simpa [hids] using hid)
    exact ⟨name, uuid, by simp [hu], he⟩
  · simp only [hc, hi.live, liveIn_snoc, hq.not_removed, hq.not_createdOk, not_false_eq_true,
      and_true, or_false]
  · rw [hc] at hst
    simpa only [stoppedSinceCreate_snoc, hq.not_stopped, and_false, or_false] using
      hi.status id st hst
  · rw [hl, hi.listed, hc, createdOn_append, hon, List.append_nil]

/-- A successful `create_container` keeps the invariant when its UUID is fresh. -/
theorem RunInv.createOk {r : Registry} {h : List (Call × Returned)} (hi : RunInv r h)
    {config : ContainerConfig} {options : CreateContainerOptions} {uuid : Uuid} (env : CreateEnv)
    (bundlePath : String) {id : ContainerId} (hid : id = formatContainerId config.name uuid)
    (hfresh : uuid ∉ uuidsOf h) :
    RunInv ((r.insertContainer id (startedState id options.nodeId bundlePath)).pushToNode
        options.nodeId id)
      (h ++ [(.createContainer config options uuid env, .containerId (.ok id))]) := by
  set st := startedState id options.nodeId bundlePath
  set p : Call × Returned := (.createContainer config options uuid env, .containerId (.ok id))
  have hnew : id ∉ createdIds h := fun hmem => by
    obtain ⟨name, u, hu, he⟩ := hi.drawn id hmem
    exact hfresh (formatContainerId_inj_uuid (hid.symm.trans he) ▸ hu)
  have hnone : r.containers.get id = none := by
    rw [← Option.not_isSome_iff_eq_none, hi.live]
    exact fun hl => hnew (mem_createdIds.2 hl.createdIn)
  have hcreated : ∀ k, IsCreatedOk k p ↔ k = id := fun k => by simp [p, IsCreatedOk, eq_comm]
  have hsingle : createdIds [p] = [id] := rfl
  have hget : ∀ k, ((r.insertContainer id st).pushToNode options.nodeId id).containers.get k =
      if k = id then some st else r.containers.get k := fun k => by simp
  refine ⟨hi.indexed.track hnone rfl, ?_, fun k hk => ?_, fun k => ?_, fun k st' hst => ?_,
    fun m => ?_⟩
  · rw [createdIds_append, hsingle]
    exact List.nodup_append.2 ⟨hi.nodup, List.nodup_singleton _, List.disjoint_singleton.2 hnew⟩
  · rw [createdIds_append, hsingle, List.mem_append, List.mem_singleton] at hk
    rcases hk with hk | rfl
    · obtain ⟨name, u, hu, he⟩ := hi.drawn k hk
      exact ⟨name, u, by simp [hu], he⟩
    · exact ⟨config.name, uuid, by simp [p, uuidsOf, Call.uuid?], hid⟩
  · by_cases hki : k = id
    · simp [hget, hki, liveIn_snoc, hcreated]
    · simp [hget, hki, liveIn_snoc, hcreated, hi.live, p, IsRemovedOk]
  · rw [hget] at hst
    by_cases hki : k = id
    · rw [if_pos hki, Option.some.injEq] at hst
      subst hst hki
      have : ¬ StoppedSinceCreate h k := fun hs => hnew (mem_createdIds.2 hs.createdIn)
      simp [st, startedState, stoppedSinceCreate_snoc, this, p, IsStoppedOk]
    · rw [if_neg hki] at hst
      simpa [stoppedSinceCreate_snoc, p, IsStoppedOk] using hi.status k st' hst
  · have hkeep : ∀ k ∈ createdOn h m, k ≠ id := fun k hk hki =>
      hnew (hki ▸ mem_createdIds_of_mem_createdOn hk)
    have hold : ((createdOn h m).filter fun k =>
        (((r.insertContainer id st).pushToNode options.nodeId id).containers.get k).isSome) =
        r.listed m := by
      rw [hi.listed m]
      exact List.filter_congr fun k hk => by simp [hget, hkeep k hk]
    have hon : createdOn [p] m = if options.nodeId = m then [id] else [] := by
      by_cases hm : options.nodeId = m <;> simp [p, createdOn, createdOn?, hm]
    rw [Registry.listed_pushToNode, createdOn_append, hon, List.filter_append, hold]
    by_cases hm : m = options.nodeId
    · subst hm
      simp [hget]
    · simp [hm, Ne.symm hm]

/-- A successful `stop_container` keeps the invariant. -/
theorem RunInv.stopOk {r : Registry} {h : List (Call × Returned)} (hi : RunInv r h)
    (id : ContainerId) (env : StopEnv) (calledAt : Nat) :
    RunInv (r.markStopped id) (h ++ [(.stopContainer id env calledAt, .unit (.ok ()))]) := by
  have hq : createdOn? (Call.stopContainer id env calledAt, Returned.unit (.ok ())) = none := rfl
  have hids : createdIds [(Call.stopContainer id env calledAt, Returned.unit (.ok ()))] = [] := by
    simp [createdIds, hq]
  have hpres : ∀ k, ((r.markStopped id).containers.get k).isSome = (r.containers.get k).isSome :=
    fun k => by by_cases hk : k = id <;> simp [hk]
  refine ⟨hi.indexed.markStopped id, by simpa [hids] using hi.nodup, fun k hk => ?_,
    fun k => ?_, fun k st hst => ?_, fun m => ?_⟩
  · obtain ⟨name, u, hu, he⟩ := hi.drawn k (by simpa [hids] using hk)
    exact ⟨name, u, by simp [hu], he⟩
  · rw [hpres, hi.live]
    simp [liveIn_snoc, IsRemovedOk, isCreatedOk_iff, hq]
  · by_cases hki : k = id
    · subst hki
      simp only [Registry.get_containers_markStopped, if_true, Option.map_eq_some'] at hst
      obtain ⟨st0, hst0, rfl⟩ := hst
      have hc : CreatedIn h k := (LiveIn.createdIn ((hi.live k).1 (by simp [hst0])))
      simp [stoppedSinceCreate_snoc, hc, IsStoppedOk]
    · simp only [Registry.get_containers_markStopped, if_neg hki] at hst
      simpa [stoppedSinceCreate_snoc, IsStoppedOk, Ne.symm hki] using hi.status k st hst
  · have hon :
        createdOn [(Call.stopContainer id env calledAt, Returned.unit (.ok ()))] m = [] := by
      simp [createdOn, hq]
    rw [Registry.listed_markStopped, hi.listed, createdOn_append, hon, List.append_nil]
    exact List.filter_congr fun k _ => by rw [hpres]

/-- A successful `remove_container` keeps the invariant. -/
theorem RunInv.removeOk {r : Registry} {h : List (Call × Returned)} (hi : RunInv r h)
    (id : ContainerId) (delete : ExecOutcome) :
    RunInv (r.forget id) (h ++ [(.removeContainer id delete, .unit (.ok ()))]) := by
  have hq : createdOn? (Call.removeContainer id delete, Returned.unit (.ok ())) = none := rfl
  have hids : createdIds [(Call.removeContainer id delete, Returned.unit (.ok ()))] = [] := by
    simp [createdIds, hq]
  refine ⟨hi.indexed.forget id, by simpa [hids] using hi.nodup, fun k hk => ?_, fun k => ?_,
    fun k st hst => ?_, fun m => ?_⟩
  · obtain ⟨name, u, hu, he⟩ := hi.drawn k (by simpa [hids] using hk)
    exact ⟨name, u, by simp [hu], he⟩
  · by_cases hki : k = id
    · simp [hki, liveIn_snoc, IsRemovedOk, isCreatedOk_iff, hq]
    · simp [hki, Ne.symm hki, hi.live, liveIn_snoc, IsRemovedOk, isCreatedOk_iff, hq]
  · have hki : k ≠ id := by rintro rfl; simp at hst
    simp only [Registry.get_containers_forget, if_neg hki] at hst
    simpa [stoppedSinceCreate_snoc, IsStoppedOk] using hi.status k st hst
  · have hon : createdOn [(Call.removeContainer id delete, Returned.unit (.ok ()))] m = [] := by
      simp [createdOn, hq]
    rw [hi.indexed.listed_forget, hi.listed, List.filter_filter, createdOn_append, hon,
      List.append_nil]
    exact List.filter_congr fun k _ => by by_cases hki : k = id <;> simp [hki]

section

variable (cfg : YoukiCliConfig) (decode : String → Except String YoukiState)
  (render : OrchestrationError → String)

/-- **Every call keeps the run invariant**, whatever the world answers during it, provided
a `create_container` draws a fresh UUID. -/
theorem RunInv.call {r : Registry} {h : List (Call × Returned)} (hi : RunInv r h) (c : Call)
    (hfresh : (uuidsOf (h ++ [(c, (c.exec cfg decode render r).1)])).Nodup) :
    RunInv (c.exec cfg decode render r).2 (h ++ [(c, (c.exec cfg decode render r).1)]) := by
  have quiet : ∀ {p : Call × Returned}, createdOn? p = none → (∀ id, ¬ IsRemovedOk id p) →
      (∀ id, ¬ IsStoppedOk id p) → RunInv r (h ++ [p]) := fun hc hr hs =>
    hi.quiet ⟨hc, hr, hs⟩ hi.indexed rfl fun _ => rfl
  cases c with
  | initNode n mkdir =>
    rcases initNode_eq r n mkdir with he | ⟨e, he⟩ <;> simp only [Call.exec, he, Prod.map, id]
    · exact hi.quiet ⟨rfl, by simp [IsRemovedOk], by simp [IsStoppedOk]⟩
        (hi.indexed.ensureNode n) rfl (by simp)
    · exact quiet rfl (by simp [IsRemovedOk]) (by simp [IsStoppedOk])
  | createContainer config options uuid env =>
    rcases createContainer_eq cfg r config options uuid env with he | ⟨e, he⟩ <;>
      simp only [Call.exec, he, Prod.map, id] at hfresh ⊢
    · rw [uuidsOf_append, List.nodup_append] at hfresh
      exact hi.createOk env _ rfl (List.disjoint_singleton.1 hfresh.2.2)
    · exact quiet rfl (by simp [IsRemovedOk]) (by simp [IsStoppedOk])
  | stopContainer i env calledAt =>
    rcases stopContainer_eq cfg decode r i env calledAt with he | ⟨e, he⟩ <;>
      simp only [Call.exec, he, Prod.map, id]
    · exact hi.stopOk i env calledAt
    · exact quiet rfl (by simp [IsRemovedOk]) (by simp [IsStoppedOk])
  | removeContainer i delete =>
    rcases removeContainer_eq r i delete with he | ⟨e, he⟩ <;>
      simp only [Call.exec, he, Prod.map, id]
    · exact hi.removeOk i delete
    · exact quiet rfl (by simp [IsRemovedOk]) (by simp [IsStoppedOk])
  | getContainerStatus i state => exact quiet rfl (by simp [IsRemovedOk]) (by simp [IsStoppedOk])
  | listContainers n answer => exact quiet rfl (by simp [IsRemovedOk]) (by simp [IsStoppedOk])

/-- The run invariant holds in every reachable state whose history drew distinct UUIDs. -/
theorem Run.runInv {r : Registry} {h : List (Call × Returned)} (hrun : Run cfg decode render r h)
    (hfresh : (uuidsOf h).Nodup) : RunInv r h := by
  induction hrun with
  | init => exact runInv_empty
  | call c _ ih =>
    rw [uuidsOf_append] at hfresh
    exact (ih (List.nodup_append.1 hfresh).1).call cfg decode render c
      (by rwa [uuidsOf_append])

/-- **The registry stays consistent over every run**: in every state reachable from
construction by any sequence of calls, under any answers of youki, the image manager, the
bundle builder and the filesystem, with each `Uuid::new_v4` fresh, every entry is stored
under its own identifier, and the node index and the primary map agree in both directions,
each identifier listed exactly once, under its own node. -/
theorem reachable_registry_consistent {r : Registry} {h : List (Call × Returned)}
    (hrun : Run cfg decode render r h) (hfresh : (uuidsOf h).Nodup) : r.Consistent :=
  (hrun.runInv cfg decode render hfresh).indexed.consistent

section

variable (cfg : YoukiCliConfig) (decode : String → Except String YoukiState)
  (render : OrchestrationError → String)

/-- The registry and the history after `calls`, made one after the other on `acc`. -/
def runCalls (acc : Registry × List (Call × Returned)) (calls : List Call) :
    Registry × List (Call × Returned) :=
  calls.foldl (fun acc c =>
    let ret := c.exec cfg decode render acc.1
    (ret.2, acc.2 ++ [(c, ret.1)])) acc

/-- Every sequence of calls is a run. -/
theorem run_runCalls {acc : Registry × List (Call × Returned)}
    (h : Run cfg decode render acc.1 acc.2) (calls : List Call) :
    Run cfg decode render (runCalls cfg decode render acc calls).1
      (runCalls cfg decode render acc calls).2 := by
  induction calls generalizing acc with
  | nil => exact h
  | cons c calls ih => exact ih (Run.call c h)

end

/-- A `create_container` of a container named `name` on the node `sampleUuid 1`, during
which every external step succeeds. -/
def sampleCreate (name : String) (uuid : Uuid) : Call :=
  .createContainer ⟨name, "nginx:latest", ⟨0.5, 256⟩⟩ ⟨sampleUuid 1⟩ uuid
    ⟨.ok (), .ok "/var/lib/orchestrator/images/nginx/rootfs", .ok (), fun _ => .ok (),
      .finished ⟨true, "", ""⟩, .finished ⟨true, "", ""⟩⟩

/-- A reading of the output of `youki state` whose status is the whole output. -/
def sampleDecode (output : String) : Except String YoukiState := .ok ⟨output⟩

/-- A `stop_container` of `id` whose first `youki state` answers `stopped`. -/
def sampleStop (id : ContainerId) : Call :=
  .stopContainer id ⟨0, fun _ => .finished ⟨true, "stopped", ""⟩, fun _ => 0, fun _ => 0, 0⟩ 0

/-- A `remove_container` of `id` whose `youki delete --force` succeeds. -/
def sampleRemove (id : ContainerId) : Call :=
  .removeContainer id (.finished ⟨true, "", ""⟩)

/-- Three creates on one node, then a stop of the first and a remove of the second, on a
runtime with the default configuration. -/
def sampleRun : Registry × List (Call × Returned) :=
  runCalls .default sampleDecode (fun _ => "") (.empty, [])
    [sampleCreate "web" (sampleUuid 2), sampleCreate "api" (sampleUuid 3),
      sampleCreate "db" (sampleUuid 4), sampleStop (formatContainerId "web" (sampleUuid 2)),
      sampleRemove (formatContainerId "api" (sampleUuid 3))]

/-- The sample run is a run, and its UUIDs are fresh. -/
theorem sampleRun_run :
    Run .default sampleDecode (fun _ => "") sampleRun.1 sampleRun.2 ∧
      (uuidsOf sampleRun.2).Nodup :=
  ⟨run_runCalls _ _ _ Run.init _, by decide⟩

/-- The sample run, with two creates on one node, a stop and a remove, ends in a consistent
registry. -/
theorem sampleRun_consistent :
    Run .default sampleDecode (fun _ => "") sampleRun.1 sampleRun.2 ∧
      (uuidsOf sampleRun.2).Nodup ∧ sampleRun.1.Consistent :=
  have ⟨hrun, hfresh⟩ := sampleRun_run
  ⟨hrun, hfresh, reachable_registry_consistent _ _ _ hrun hfresh⟩

/-- **The registry mirrors the calls that returned**: along every run with fresh UUIDs, the
identifiers returned by successful creates are pairwise distinct, whatever the names; an
identifier has an entry exactly when a create returned it and no later remove of it
returned `Ok`; and the entry's status is `stopped` when a stop of it returned `Ok` since
that create, `running` otherwise. -/
theorem reachable_registry_mirrors_history {r : Registry} {h : List (Call × Returned)}
    (hrun : Run cfg decode render r h) (hfresh : (uuidsOf h).Nodup) :
    (createdIds h).Nodup ∧
      ∀ id, ((r.containers.get id).isSome ↔ LiveIn h id) ∧
        ∀ st, r.containers.get id = some st →
          (StoppedSinceCreate h id → st.status = "stopped") ∧
            (¬ StoppedSinceCreate h id → st.status = "running") := by
  have hi := hrun.runInv cfg decode render hfresh
  refine ⟨hi.nodup, fun id => ⟨hi.live id, fun st hst => ?_⟩⟩
  obtain ⟨hiff, hval⟩ := hi.status id st hst
  exact ⟨hiff.2, fun hn => hval.resolve_left (hn ∘ hiff.1)⟩

/-- The registry the sample run ends in mirrors the calls of the run. -/
theorem sampleRun_mirrors_history :
    Run .default sampleDecode (fun _ => "") sampleRun.1 sampleRun.2 ∧
      (uuidsOf sampleRun.2).Nodup ∧
      ((createdIds sampleRun.2).Nodup ∧
        ∀ id, ((sampleRun.1.containers.get id).isSome ↔ LiveIn sampleRun.2 id) ∧
          ∀ st, sampleRun.1.containers.get id = some st →
            (StoppedSinceCreate sampleRun.2 id → st.status = "stopped") ∧
              (¬ StoppedSinceCreate sampleRun.2 id → st.status = "running")) :=
  have ⟨hrun, hfresh⟩ := sampleRun_run
  ⟨hrun, hfresh, reachable_registry_mirrors_history _ _ _ hrun hfresh⟩

/-- The creates on one node are a subsequence of all creates. -/
theorem createdOn_sublist_createdIds (h : List (Call × Returned)) (n : NodeId) :
    (createdOn h n).Sublist (createdIds h) :=
  (List.filter_sublist _).map _

/-- **`list_containers` reports every live container of the node, once, in creation
order**: along every run with fresh UUIDs it returns `Ok`, with one record per identifier a
create on the node returned and no remove has since removed, in the order of the creates;
whatever youki answers, a record for a failed status query is `unknown` and carries the
error instead of being dropped. -/
theorem list_containers_reports_live {r : Registry} {h : List (Call × Returned)}
    (hrun : Run cfg decode render r h) (hfresh : (uuidsOf h).Nodup) (n : NodeId)
    (answer : Nat → ExecOutcome) :
    ∃ statuses, listContainers decode render r n answer = .ok statuses ∧
      (statuses.map (·.id)).Nodup ∧ (statuses.map (·.id)).Sublist (createdOn h n) ∧
      (∀ id, id ∈ statuses.map (·.id) ↔ id ∈ createdOn h n ∧ LiveIn h id) ∧
      ∀ i (hi : i < statuses.length),
        (∀ e, youkiState decode statuses[i].id (answer i) = .error e →
          (∀ x, e ≠ .containerNotFound x) →
          statuses[i].state = "unknown" ∧ statuses[i].errorMessage = some e.toString) ∧
        (∀ x, youkiState decode statuses[i].id (answer i) = .error (.containerNotFound x) →
          r.containers.get statuses[i].id = none →
          statuses[i].state = "unknown" ∧ statuses[i].errorMessage =
            some (render (.runtimeError ("Container not found: " ++ statuses[i].id)))) := by
  have inv := hrun.runInv cfg decode render hfresh
  set statuses := (r.listed n).enum.map fun (i, id) => statusRecord decode render r id (answer i)
  have hids : statuses.map (·.id) = r.listed n := by
    simp only [statuses, List.map_map, Function.comp_def, statusRecord_id]
    exact List.enum_map_snd _
  have hat : ∀ i (hi : i < statuses.length),
      statuses[i] = statusRecord decode render r statuses[i].id (answer i) := fun i hi => by
    simp [statuses, List.getElem_enum]
  refine ⟨statuses, rfl, ?_, ?_, fun id => ?_,
    fun i hi => ⟨fun e he hnf => ?_, fun x he hn => ?_⟩⟩
  · rw [hids, inv.listed]
    exact ((createdOn_sublist_createdIds h n).nodup inv.nodup).filter _
  · rw [hids, inv.listed]
    exact List.filter_sublist _
  · rw [hids, inv.listed, List.mem_filter, inv.live]
  · rw [hat i hi, statusRecord_of_error render r he hnf]
    exact ⟨rfl, rfl⟩
  · rw [hat i hi, statusRecord_of_notFound render he hn]
    exact ⟨rfl, rfl⟩

/-- Listing the node of the sample run, every status query timing out, reports its live
containers. -/
theorem sampleRun_lists_live :
    Run .default sampleDecode (fun _ => "") sampleRun.1 sampleRun.2 ∧
      (uuidsOf sampleRun.2).Nodup ∧
      ∃ statuses, listContainers sampleDecode (fun _ => "") sampleRun.1 (sampleUuid 1)
          (fun _ => .timedOut) = .ok statuses ∧
        (statuses.map (·.id)).Nodup ∧
        (statuses.map (·.id)).Sublist (createdOn sampleRun.2 (sampleUuid 1)) ∧
        (∀ id, id ∈ statuses.map (·.id) ↔
          id ∈ createdOn sampleRun.2 (sampleUuid 1) ∧ LiveIn sampleRun.2 id) ∧
        ∀ i (hi : i < statuses.length),
          (∀ e, youkiState sampleDecode statuses[i].id .timedOut = .error e →
            (∀ x, e ≠ .containerNotFound x) →
            statuses[i].state = "unknown" ∧ statuses[i].errorMessage = some e.toString) ∧
          (∀ x, youkiState sampleDecode statuses[i].id .timedOut =
              .error (.containerNotFound x) →
            sampleRun.1.containers.get statuses[i].id = none →
            statuses[i].state = "unknown" ∧ statuses[i].errorMessage =
              some ((fun _ => "") (OrchestrationError.runtimeError
                ("Container not found: " ++ statuses[i].id)))) :=
  have ⟨hrun, hfresh⟩ := sampleRun_run
  ⟨hrun, hfresh, list_containers_reports_live _ _ _ hrun hfresh _ _⟩

end

end YoukiRuntime
