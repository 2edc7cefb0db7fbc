import YoukiRuntime.Types

/-!
# The container registry

`YoukiCliRuntime` keeps two maps under their own `RwLock`s: `containers`, from container
identifier to `ContainerState`, and `containers_by_node`, from node identifier to the
`Vec` of its container identifiers. A `HashMap` is modelled by its content, the value
`get` returns under each key; iteration order is never observed by the runtime.

Each map statement of the source is one definition here (`Registry.pushToNode` is
`entry(node).or_default().push(id)`, and so on), so that the lifecycle operations and
the await-level tasks of `YoukiRuntime.Tasks` are built from the same steps.

`Registry.Consistent` is the registry invariant: every entry is stored under its own
identifier, and the node index and the primary map agree in both directions, each
identifier listed exactly once, under its own node. The preservation lemmas at the end
cover the compound updates of `create_container` and `remove_container`.
-/

namespace YoukiRuntime

/-- A `std::collections::HashMap`, by its content. -/
@[ext] structure HashMap (K V : Type) where
  get : K → Option V

namespace HashMap

variable {K V : Type}

/-- `HashMap::new`. -/
def empty : HashMap K V := ⟨fun _ => none⟩

/-- A new map has no entries. -/
@[simp] theorem get_empty (k : K) : (empty : HashMap K V).get k = none := rfl

/-- `HashMap::retain`: the entries on which `p` holds. -/
def retain (m : HashMap K V) (p : K → V → Bool) : HashMap K V :=
  ⟨fun k => (m.get k).filter (p k)⟩

/-- `retain` keeps an entry exactly when the predicate holds of it. -/
@[simp] theorem get_retain (m : HashMap K V) (p : K → V → Bool) (k : K) :
    (m.retain p).get k = (m.get k).filter (p k) := rfl

variable [DecidableEq K]

/-- `HashMap::insert`. -/
def insert (m : HashMap K V) (k : K) (v : V) : HashMap K V :=
  ⟨Function.update m.get k (some v)⟩

/-- `HashMap::remove`: the value that was there, and the map without it. -/
def remove (m : HashMap K V) (k : K) : Option V × HashMap K V :=
  (m.get k, ⟨Function.update m.get k none⟩)

/-- `if let Some(v) = m.get_mut(&k) { *v = f(v) }`. -/
def modify (m : HashMap K V) (k : K) (f : V → V) : HashMap K V :=
  ⟨Function.update m.get k ((m.get k).map f)⟩

/-- `m.entry(k).or_insert(v)`. -/
def orInsert (m : HashMap K V) (k : K) (v : V) : HashMap K V :=
  ⟨Function.update m.get k (some ((m.get k).getD v))⟩

/-- `insert` sets its key and leaves the other keys alone. -/
@[simp] theorem get_insert (m : HashMap K V) (k k' : K) (v : V) :
    (m.insert k v).get k' = if k' = k then some v else m.get k' :=
  Function.update_apply _ _ _ _

/-- `remove` clears its key and leaves the other keys alone. -/
@[simp] theorem get_remove (m : HashMap K V) (k k' : K) :
    (m.remove k).2.get k' = if k' = k then none else m.get k' :=
  Function.update_apply _ _ _ _

/-- `remove` returns the value its key had. -/
@[simp] theorem fst_remove (m : HashMap K V) (k : K) : (m.remove k).1 = m.get k := rfl

/-- `modify` maps the value at its key, if any, and leaves the other keys alone. -/
@[simp] theorem get_modify (m : HashMap K V) (k k' : K) (f : V → V) :
    (m.modify k f).get k' = if k' = k then (m.get k).map f else m.get k' :=
  Function.update_apply _ _ _ _

/-- `or_insert` gives its key the value it had, or the default, and leaves the other keys
alone. -/
@[simp] theorem get_orInsert (m : HashMap K V) (k k' : K) (v : V) :
    (m.orInsert k v).get k' = if k' = k then some ((m.get k).getD v) else m.get k' :=
  Function.update_apply _ _ _ _

end HashMap

/-- Writing back the element a list already has at a position changes nothing. -/
theorem set_self_of_getElem? {α : Type} {l : List α} {i : Nat} {a : α}
    (h : l[i]? = some a) : l.set i a = l := by
  refine List.ext_getElem? fun j => ?_
  rw [List.getElem?_set]
  split
  · subst_vars
    rw [h, if_pos (List.getElem?_eq_some_iff.1 h).1]
  · rfl

/-- The two maps of a `YoukiCliRuntime`. -/
@[ext] structure Registry where
  containers : HashMap ContainerId ContainerState
  containersByNode : HashMap NodeId (List ContainerId)

namespace Registry

/-- The registry `with_config` starts from. -/
def empty : Registry := ⟨.empty, .empty⟩

/-- `by_node.entry(node_id).or_insert_with(Vec::new)` (`init_node`). -/
def ensureNode (r : Registry) (n : NodeId) : Registry :=
  { r with containersByNode := r.containersByNode.orInsert n [] }

/-- `containers.insert(container_id, state)` (`create_container`). -/
def insertContainer (r : Registry) (id : ContainerId) (st : ContainerState) : Registry :=
  { r with containers := r.containers.insert id st }

/-- `containers_by_node.entry(node_id).or_default().push(id)` (`create_container`). -/
def pushToNode (r : Registry) (n : NodeId) (id : ContainerId) : Registry :=
  { r with containersByNode := (r.containersByNode.orInsert n []).modify n (· ++ [id]) }

/-- `containers.get_mut(id)`, then `status = "stopped"` (`stop_container`). -/
def markStopped (r : Registry) (id : ContainerId) : Registry :=
  { r with containers := r.containers.modify id fun st => { st with status := "stopped" } }

/-- `containers.remove(id)` (`remove_container`). -/
def takeContainer (r : Registry) (id : ContainerId) : Option ContainerState × Registry :=
  ((r.containers.remove id).1, { r with containers := (r.containers.remove id).2 })

/-- `by_node.get_mut(node_id)`, then `retain(|x| x != id)` (`remove_container`). -/
def retainOnNode (r : Registry) (n : NodeId) (id : ContainerId) : Registry :=
  { r with containersByNode := r.containersByNode.modify n (·.filter (· != id)) }

/-- The registry side of a successful `remove_container`: `containers.remove(id)`, and when
it found an entry, `retain` on that entry's node list. -/
def forget (r : Registry) (id : ContainerId) : Registry :=
  match (r.takeContainer id).1 with
  | none => (r.takeContainer id).2
  | some st => (r.takeContainer id).2.retainOnNode st.nodeId id

/-- `init_node` does not touch the container map. -/
@[simp] theorem containers_ensureNode (r : Registry) (n : NodeId) :
    (r.ensureNode n).containers = r.containers := rfl
/-- Inserting an entry does not touch the node lists. -/
@[simp] theorem containersByNode_insertContainer (r : Registry) (id) (st : ContainerState) :
    (r.insertContainer id st).containersByNode = r.containersByNode := rfl
/-- Listing an identifier does not touch the container map. -/
@[simp] theorem containers_pushToNode (r : Registry) (n : NodeId) (id) :
    (r.pushToNode n id).containers = r.containers := rfl
/-- Marking an entry stopped does not touch the node lists. -/
@[simp] theorem containersByNode_markStopped (r : Registry) (id) :
    (r.markStopped id).containersByNode = r.containersByNode := rfl
/-- Taking an entry out does not touch the node lists. -/
@[simp] theorem containersByNode_takeContainer (r : Registry) (id) :
    (r.takeContainer id).2.containersByNode = r.containersByNode := rfl
/-- Unlisting an identifier does not touch the container map. -/
@[simp] theorem containers_retainOnNode (r : Registry) (n : NodeId) (id) :
    (r.retainOnNode n id).containers = r.containers := rfl

/-- Inserting an entry sets that identifier's entry only. -/
@[simp] theorem get_containers_insertContainer (r : Registry) (id k) (st : ContainerState) :
    (r.insertContainer id st).containers.get k = if k = id then some st else r.containers.get k :=
  HashMap.get_insert _ _ _ _
/-- Listing an identifier under a node appends it to that node's list, creating the list if
needed. -/
@[simp] theorem get_containersByNode_pushToNode (r : Registry) (n m : NodeId) (id) :
    (r.pushToNode n id).containersByNode.get m =
      if m = n then some ((r.containersByNode.get n).getD [] ++ [id])
      else r.containersByNode.get m := by
  by_cases h : m = n <;> simp [pushToNode, h]
/-- `init_node` gives its node an empty list when it has none, and touches no other node. -/
@[simp] theorem get_containersByNode_ensureNode (r : Registry) (n m : NodeId) :
    (r.ensureNode n).containersByNode.get m =
      if m = n then some ((r.containersByNode.get n).getD []) else r.containersByNode.get m :=
  HashMap.get_orInsert _ _ _ _
/-- Marking an entry stopped changes only that entry's status. -/
@[simp] theorem get_containers_markStopped (r : Registry) (id k) :
    (r.markStopped id).containers.get k =
      if k = id then (r.containers.get id).map fun st => { st with status := "stopped" }
      else r.containers.get k :=
  HashMap.get_modify _ _ _ _
/-- Taking an entry out returns the entry that was there. -/
@[simp] theorem fst_takeContainer (r : Registry) (id) :
    (r.takeContainer id).1 = r.containers.get id := rfl
/-- Taking an entry out clears that identifier only. -/
@[simp] theorem get_containers_takeContainer (r : Registry) (id k) :
    (r.takeContainer id).2.containers.get k = if k = id then none else r.containers.get k :=
  HashMap.get_remove _ _ _
/-- Unlisting an identifier filters it out of that node's list only. -/
@[simp] theorem get_containersByNode_retainOnNode (r : Registry) (n m : NodeId) (id) :
    (r.retainOnNode n id).containersByNode.get m =
      if m = n then (r.containersByNode.get n).map (·.filter (· != id))
      else r.containersByNode.get m :=
  HashMap.get_modify _ _ _ _

/-- Forgetting an identifier that has no entry changes nothing. -/
theorem forget_of_none {r : Registry} {id : ContainerId} (h : r.containers.get id = none) :
    r.forget id = r := by
  simp only [forget, fst_takeContainer, h]
  ext1
  · ext1
    funext k
    by_cases hk : k = id <;> simp [hk, h]
  · rfl

/-- Forgetting an identifier that has an entry takes it out and unlists it from the entry's
node. -/
theorem forget_of_some {r : Registry} {id : ContainerId} {st : ContainerState}
    (h : r.containers.get id = some st) :
    r.forget id = ((r.takeContainer id).2).retainOnNode st.nodeId id := by
  simp only [forget, fst_takeContainer, h]

/-- Forgetting an identifier clears its entry and no other. -/
@[simp] theorem get_containers_forget (r : Registry) (id k : ContainerId) :
    (r.forget id).containers.get k = if k = id then none else r.containers.get k := by
  cases h : r.containers.get id <;> simp [forget, h]

/-- Marking an entry stopped twice is marking it once. -/
theorem markStopped_markStopped (r : Registry) (id : ContainerId) :
    (r.markStopped id).markStopped id = r.markStopped id := by
  ext1
  · ext1
    funext k
    by_cases hk : k = id <;> cases h : r.containers.get id <;> simp [hk, h]
  · rfl

/-! ### The registry invariant -/

/-- The registry invariant: every entry is stored under its own identifier; every
identifier listed under a node is an entry of that node; and every entry is listed
exactly once under its own node and under no other. -/
structure Consistent (r : Registry) : Prop where
  id_eq : ∀ k st, r.containers.get k = some st → st.id = k
  listed_live : ∀ n l, r.containersByNode.get n = some l → ∀ id ∈ l,
    ∃ st, r.containers.get id = some st ∧ st.nodeId = n
  live_listed : ∀ id st, r.containers.get id = some st →
    (∃ l, r.containersByNode.get st.nodeId = some l ∧ l.count id = 1) ∧
      ∀ n l, r.containersByNode.get n = some l → id ∈ l → n = st.nodeId

/-- The identifiers listed under a node, none when the node has no entry. -/
def listed (r : Registry) (n : NodeId) : List ContainerId :=
  (r.containersByNode.get n).getD []

/-- The node an identifier's entry belongs to, if it has an entry. -/
def nodeOf (r : Registry) (id : ContainerId) : Option NodeId :=
  (r.containers.get id).map (·.nodeId)

/-- The registry invariant in counting form, the form the preservation proofs use: the
number of times `id` is listed under `n` is one when `id`'s entry belongs to `n`, and zero
otherwise. -/
structure Indexed (r : Registry) : Prop where
  id_eq : ∀ k st, r.containers.get k = some st → st.id = k
  count_listed : ∀ n id, (r.listed n).count id = if r.nodeOf id = some n then 1 else 0
  node_present : ∀ id n, r.nodeOf id = some n → (r.containersByNode.get n).isSome

/-- `init_node` lists nothing new. -/
@[simp] theorem listed_ensureNode (r : Registry) (n m : NodeId) :
    (r.ensureNode n).listed m = r.listed m := by
  by_cases h : m = n <;> simp [listed, h]
/-- Listing an identifier under a node appends it there and nowhere else. -/
@[simp] theorem listed_pushToNode (r : Registry) (n m : NodeId) (id) :
    (r.pushToNode n id).listed m = if m = n then r.listed n ++ [id] else r.listed m := by
  by_cases h : m = n <;> simp [listed, h]
/-- Unlisting an identifier from a node removes it there and nowhere else. -/
@[simp] theorem listed_retainOnNode (r : Registry) (n m : NodeId) (id) :
    (r.retainOnNode n id).listed m =
      if m = n then (r.listed n).filter (· != id) else r.listed m := by
  by_cases h : m = n <;> cases hn : r.containersByNode.get n <;> simp [listed, h, hn]
/-- Inserting an entry lists nothing. -/
@[simp] theorem listed_insertContainer (r : Registry) (id) (st : ContainerState) (m : NodeId) :
    (r.insertContainer id st).listed m = r.listed m := rfl
/-- Marking an entry stopped does not change what is listed. -/
@[simp] theorem listed_markStopped (r : Registry) (id) (m : NodeId) :
    (r.markStopped id).listed m = r.listed m := rfl
/-- Taking an entry out does not unlist it. -/
@[simp] theorem listed_takeContainer (r : Registry) (id) (m : NodeId) :
    (r.takeContainer id).2.listed m = r.listed m := rfl

/-- Inserting an entry sets that identifier's node only. -/
@[simp] theorem nodeOf_insertContainer (r : Registry) (id k) (st : ContainerState) :
    (r.insertContainer id st).nodeOf k = if k = id then some st.nodeId else r.nodeOf k := by
  by_cases h : k = id <;> simp [nodeOf, h]
/-- Marking an entry stopped keeps its node. -/
@[simp] theorem nodeOf_markStopped (r : Registry) (id k) :
    (r.markStopped id).nodeOf k = r.nodeOf k := by
  by_cases h : k = id <;> simp [nodeOf, h, Option.map_map, Function.comp_def]
/-- Taking an entry out clears that identifier's node only. -/
@[simp] theorem nodeOf_takeContainer (r : Registry) (id k) :
    (r.takeContainer id).2.nodeOf k = if k = id then none else r.nodeOf k := by
  by_cases h : k = id <;> simp [nodeOf, h]
/-- `init_node` changes no entry's node. -/
@[simp] theorem nodeOf_ensureNode (r : Registry) (n : NodeId) (k) :
    (r.ensureNode n).nodeOf k = r.nodeOf k := rfl
/-- Listing an identifier changes no entry's node. -/
@[simp] theorem nodeOf_pushToNode (r : Registry) (n : NodeId) (id k) :
    (r.pushToNode n id).nodeOf k = r.nodeOf k := rfl
/-- Unlisting an identifier changes no entry's node. -/
@[simp] theorem nodeOf_retainOnNode (r : Registry) (n : NodeId) (id k) :
    (r.retainOnNode n id).nodeOf k = r.nodeOf k := rfl

/-- The counting form implies the invariant as `Consistent` states it. -/
theorem Indexed.consistent {r : Registry} (h : r.Indexed) : r.Consistent := by
  have hcount := h.count_listed
  simp only [listed, nodeOf] at hcount
  refine ⟨h.id_eq, fun n l hl id hid => ?_, fun id st hst => ⟨?_, fun n l hl hid => ?_⟩⟩
  · have hc := hcount n id
    rw [hl, Option.getD_some] at hc
    have hpos := List.count_pos_iff.2 hid
    split_ifs at hc with hn
    · exact Option.map_eq_some'.1 hn
    · omega
  · obtain ⟨l, hl⟩ :=
      Option.isSome_iff_exists.1 (h.node_present id st.nodeId (by simp [nodeOf, hst]))
    exact ⟨l, hl, by simpa [hl, hst] using hcount st.nodeId id⟩
  · have hc := hcount n id
    simp only [hl, Option.getD_some, hst, Option.map_some'] at hc
    have hpos := List.count_pos_iff.2 hid
    by_contra hn
    simp [Ne.symm hn] at hc
    omega

/-- The registry `with_config` starts from satisfies the invariant. -/
theorem indexed_empty : empty.Indexed :=
  ⟨by simp [empty], by simp [empty, listed, nodeOf], by simp [empty, nodeOf]⟩

/-- `init_node` keeps the invariant. -/
theorem Indexed.ensureNode {r : Registry} (h : r.Indexed) (n : NodeId) :
    (r.ensureNode n).Indexed := by
  refine ⟨h.id_eq, by simpa using h.count_listed, fun id m hm => ?_⟩
  have := h.node_present id m (by simpa using hm)
  by_cases hmn : m = n <;> simp_all

/-- `stop_container`'s update keeps the invariant. -/
theorem Indexed.markStopped {r : Registry} (h : r.Indexed) (id : ContainerId) :
    (r.markStopped id).Indexed := by
  refine ⟨fun k st hk => ?_, by simpa using h.count_listed, by simpa using h.node_present⟩
  by_cases hki : k = id
  · subst hki
    simp only [get_containers_markStopped, if_true, Option.map_eq_some'] at hk
    obtain ⟨st', hst', rfl⟩ := hk
    exact h.id_eq k st' hst'
  · exact h.id_eq k st (by simpa [hki] using hk)

/-- The two map steps of a successful `create_container`, for an identifier with no
entry yet: insert the entry, then list it under its node. -/
theorem Indexed.track {r : Registry} (h : r.Indexed) {id : ContainerId} {st : ContainerState}
    (hfresh : r.containers.get id = none) (hid : st.id = id) :
    ((r.insertContainer id st).pushToNode st.nodeId id).Indexed := by
  have hzero : ∀ m, (r.listed m).count id = 0 := fun m => by
    simpa [nodeOf, hfresh] using h.count_listed m id
  refine ⟨fun k st' hk => ?_, fun m k => ?_, fun k m hm => ?_⟩
  · by_cases hki : k = id
    · simp_all
    · exact h.id_eq k st' (by simpa [hki] using hk)
  · by_cases hki : k = id <;> by_cases hm : m = st.nodeId <;>
      simp [hki, hm, List.count_append, List.count_singleton', hzero, h.count_listed, eq_comm]
  · by_cases hm' : m = st.nodeId
    · simp [hm']
    · have hk : r.nodeOf k = some m := by
        by_cases hki : k = id <;> simp_all
      simpa [hm'] using h.node_present k m hk

/-- The two map steps of a successful `remove_container` that found an entry: remove the
entry, then drop the identifier from its node's list. -/
theorem Indexed.untrack {r : Registry} (h : r.Indexed) {id : ContainerId} {st : ContainerState}
    (hst : r.containers.get id = some st) :
    (((r.takeContainer id).2).retainOnNode st.nodeId id).Indexed := by
  have hnode : r.nodeOf id = some st.nodeId := by simp [nodeOf, hst]
  refine ⟨fun k st' hk => ?_, fun m k => ?_, fun k m hm => ?_⟩
  · by_cases hki : k = id
    · simp [hki] at hk
    · exact h.id_eq k st' (by simpa [hki] using hk)
  · by_cases hki : k = id
    · subst hki
      by_cases hm : m = st.nodeId
      · simp [hm, List.count_eq_zero]
      · simpa [hm, hnode, Ne.symm hm] using h.count_listed m k
    · by_cases hm : m = st.nodeId <;>
        simp [hki, hm, List.count_filter, h.count_listed]
  · by_cases hki : k = id
    · simp [hki] at hm
    · have := h.node_present k m (by simpa [hki] using hm)
      by_cases hm' : m = st.nodeId <;> simp_all

/-- Under the invariant, an identifier is listed only under its entry's node. -/
theorem Indexed.not_mem_listed {r : Registry} (h : r.Indexed) {id : ContainerId} {n : NodeId}
    (hn : r.nodeOf id ≠ some n) : id ∉ r.listed n := by
  rw [← List.count_eq_zero, h.count_listed, if_neg hn]

/-- Under the invariant, forgetting an identifier unlists it from every node and changes no
other list. -/
theorem Indexed.listed_forget {r : Registry} (h : r.Indexed) (id : ContainerId) (m : NodeId) :
    (r.forget id).listed m = (r.listed m).filter (· != id) := by
  have hkeep : ∀ n, r.nodeOf id ≠ some n → (r.listed n).filter (· != id) = r.listed n :=
    fun n hn => List.filter_eq_self.2 fun k hk => by
      have := h.not_mem_listed hn
      simpa using fun hki : k = id => this (hki ▸ hk)
  cases hid : r.containers.get id with
  | none => rw [forget_of_none hid, hkeep m (by simp [nodeOf, hid])]
  | some st =>
    rw [forget_of_some hid, listed_retainOnNode, listed_takeContainer]
    split_ifs with hm
    · subst hm; rfl
    · exact (hkeep m (by simpa [nodeOf, hid] using Ne.symm hm)).symm

/-- `remove_container`'s update keeps the invariant. -/
theorem Indexed.forget {r : Registry} (h : r.Indexed) (id : ContainerId) :
    (r.forget id).Indexed := by
  cases hid : r.containers.get id with
  | none => rwa [forget_of_none hid]
  | some st => rw [forget_of_some hid]; exact h.untrack hid

end Registry

end YoukiRuntime
