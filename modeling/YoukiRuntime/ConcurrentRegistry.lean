import YoukiRuntime.Interleaving

/-!
# The registry under interleaving

`create_container` and `remove_container` each update the two maps in two separate map
operations, taking and dropping the guards between them, so other tasks can run between
the two. This module shows what every interleaving still keeps.

For the registry only a little of a task matters: its `Role`. A create is `creating` its
identifier until its `insert`, has `inserted` it until its `push`, and has `created` it
after; a remove is `removing` until its `remove`, `holding` the entry it removed until its
`retain`, and has `removed` it after. `Task.roles_action` says once, from the program text,
how each action moves a task's role.

The invariant `RegistryInv` counts: for every identifier and node, the copies listed under
the node plus the creates about to push it there equal one if its entry belongs to the node,
plus the removes about to retain it there. With no task between its two map operations,
this is the counting form `Registry.Indexed` of the registry invariant.

## Main results

* `RegistryInv.map`, `Sys.Inv.spawn`: every map operation and every call the callers may
  make keeps the invariant, whatever the other tasks are doing.
* `Reachable.inv`: every reachable state satisfies it.
* `interleaved_registry_safe`: in every reachable state no push is lost, no taken entry
  comes back, and the registry invariant holds when no create or remove is between its two
  map operations.
-/

namespace YoukiRuntime

/-- What the registry invariant needs to know of a task. -/
inductive Role
  | idle
  | creating (id : ContainerId)
  | inserted (id : ContainerId) (nodeId : NodeId)
  | created (id : ContainerId)
  | abandoned (id : ContainerId)
  | removing (id : ContainerId)
  | holding (id : ContainerId) (nodeId : NodeId)
  | removed (id : ContainerId)
  | calling (id : ContainerId)
  deriving DecidableEq

/-- The role of a task at its program point. -/
def Task.role : Task → Role
  | .initNode .. | .listContainers .. => .idle
  | .createContainer id n _ pc =>
    match pc with
    | .unlockTrack | .index | .push => .inserted id n
    | .unlockIndex | .done => .created id
    | .failed => .abandoned id
    | _ => .creating id
  | .stopContainer id _ | .getContainerStatus id _ => .calling id
  | .removeContainer id pc =>
    match pc with
    | .delete | .lock | .take => .removing id
    | .cleanup st | .removeDir st | .lockIndex st | .retain st => .holding id st.nodeId
    | _ => .removed id

/-- A role of a create of `id`. -/
def Role.isCreateOf (id : ContainerId) : Role → Bool
  | .creating id' | .inserted id' _ | .created id' | .abandoned id' => id' == id
  | _ => false

/-- A role of a remove of `id`. -/
def Role.isRemoveOf (id : ContainerId) : Role → Bool
  | .removing id' | .holding id' _ | .removed id' => id' == id
  | _ => false

/-- A role of a call given `id`. -/
def Role.isCallOn (id : ContainerId) : Role → Bool
  | .calling id' => id' == id
  | ρ => ρ.isRemoveOf id

/-- How an action that touches no map can move a role: a create or a remove may fail. -/
def Role.Quiet (ρ ρ' : Role) : Prop :=
  ρ' = ρ ∨ (∃ id, ρ = .creating id ∧ ρ' = .abandoned id) ∨
    (∃ id, ρ = .removing id ∧ ρ' = .removed id)

/-- How a map operation on registry `r` moves the role of the task doing it. -/
def MapOp.Moves : MapOp → Registry → Role → Role → Prop
  | .insert id st, _, ρ, ρ' => ρ = .creating id ∧ ρ' = .inserted id st.nodeId ∧ st.id = id
  | .push n id, _, ρ, ρ' => ρ = .inserted id n ∧ ρ' = .created id
  | .take id, r, ρ, ρ' => ρ = .removing id ∧
    ρ' = match r.containers.get id with
      | some st => .holding id st.nodeId
      | none => .removed id
  | .retain n id, _, ρ, ρ' => ρ = .holding id n ∧ ρ' = .removed id
  | _, _, ρ, ρ' => ρ' = ρ

/-- How an action moves the role `ρ` of its task. -/
def Action.RoleMoves (ρ : Role) : Action → Prop
  | .call _ next => ∀ t ∈ next, Role.Quiet ρ t.role
  | .acquire _ _ t | .release _ _ t => t.role = ρ
  | .map op next => ∀ r, op.Moves r ρ (next r).role
  | .finish => True

/-- **Every action moves its task's role as `Action.RoleMoves` says.** -/
theorem Task.roles_action (t : Task) : t.action.RoleMoves t.role := by
  cases t with
  | removeContainer id pc =>
    cases pc <;> simp [Task.action, removeContainerStep, Action.RoleMoves, Task.role,
      MapOp.Moves, Role.Quiet]
    intro r
    cases r.containers.get id <;> rfl
  | listContainers n pc =>
    rcases pc with _ | _ | ids | ⟨id, pc, rest⟩ | _ <;> try cases pc
    all_goals simp [Task.action, listContainersStep, statusStep, Action.RoleMoves, Task.role,
      MapOp.Moves, Role.Quiet]
  | initNode _ pc | createContainer _ _ _ pc | stopContainer _ pc | getContainerStatus _ pc =>
    cases pc <;> simp [Task.action, initNodeStep, createContainerStep, stopContainerStep,
      statusStep, Action.RoleMoves, Task.role, MapOp.Moves, Role.Quiet, startedState]

/-- A move keeps what kind of task it is and the identifier it works on. -/
def Role.SameKind (ρ ρ' : Role) : Prop :=
  ∀ id, ρ'.isCreateOf id = ρ.isCreateOf id ∧ ρ'.isRemoveOf id = ρ.isRemoveOf id ∧
    ρ'.isCallOn id = ρ.isCallOn id

/-- A quiet move keeps the kind of task and its identifier. -/
theorem Role.Quiet.sameKind {ρ ρ' : Role} (h : Role.Quiet ρ ρ') : ρ.SameKind ρ' := by
  rcases h with rfl | ⟨id, rfl, rfl⟩ | ⟨id, rfl, rfl⟩ <;>
    simp [Role.SameKind, Role.isCreateOf, Role.isRemoveOf, Role.isCallOn]

/-- A map operation's move keeps the kind of task and its identifier. -/
theorem MapOp.Moves.sameKind {op : MapOp} {r : Registry} {ρ ρ' : Role} (h : op.Moves r ρ ρ') :
    ρ.SameKind ρ' := by
  cases op with
  | take id =>
    obtain ⟨rfl, rfl⟩ := h
    cases r.containers.get id <;>
      simp [Role.SameKind, Role.isCreateOf, Role.isRemoveOf, Role.isCallOn]
  | insert =>
    obtain ⟨rfl, rfl, -⟩ := h
    simp [Role.SameKind, Role.isCreateOf, Role.isRemoveOf, Role.isCallOn]
  | push | retain =>
    obtain ⟨rfl, rfl⟩ := h
    simp [Role.SameKind, Role.isCreateOf, Role.isRemoveOf, Role.isCallOn]
  | _ => cases h; simp [Role.SameKind]

/-! ### Counting in a list with one element replaced -/

section

variable {α : Type} {l : List α} {i : Nat} {a : α}

/-- Replacing the element `a` at a position by `b` trades `a`'s contribution to a count for
`b`'s. -/
theorem countP_set_add (hi : l[i]? = some a) (p : α → Bool) (b : α) :
    (l.set i b).countP p + (if p a then 1 else 0) = l.countP p + (if p b then 1 else 0) := by
  obtain ⟨hlt, rfl⟩ := List.getElem?_eq_some_iff.1 hi
  have := List.boole_getElem_le_countP p l i hlt
  rw [List.countP_set p l i b hlt]
  omega

/-- `countP_set_add` for the occurrences of one value. -/
theorem count_set_add [DecidableEq α] (hi : l[i]? = some a) (b x : α) :
    (l.set i b).count x + (if a = x then 1 else 0) = l.count x + (if b = x then 1 else 0) := by
  simpa [List.count] using countP_set_add hi (· == x) b

/-- Replacing an element by one the predicate treats alike keeps the count. -/
theorem countP_set_of_eq (hi : l[i]? = some a) {p : α → Bool} {b : α} (hp : p b = p a) :
    (l.set i b).countP p = l.countP p := by
  have := countP_set_add hi p b
  rw [hp] at this
  omega

/-- A value that satisfies a predicate occurs no more often than the elements satisfying it.
-/
theorem count_le_countP [DecidableEq α] {p : α → Bool} {x : α} (hx : p x) (l : List α) :
    l.count x ≤ l.countP p := by
  rw [List.count]
  exact List.countP_mono_left fun y _ hy => by simp at hy; exact hy ▸ hx

/-- An element found at a position occurs in the list. -/
theorem count_pos_of_getElem? [DecidableEq α] (hi : l[i]? = some a) : 0 < l.count a :=
  List.count_pos_iff.2 (List.getElem?_mem hi)

/-- An element found at a position that satisfies a predicate makes its count positive. -/
theorem countP_pos_of_getElem? (hi : l[i]? = some a) {p : α → Bool} (hp : p a) :
    0 < l.countP p :=
  List.countP_pos_iff.2 ⟨a, List.getElem?_mem hi, hp⟩

/-- An entry of a log with one more entry, not the new one, was in the log before. -/
theorem mem_of_mem_append_ne {β : Type} {l : List (β × α)} {j k : β} {b : α}
    (h : (j, a) ∈ l ++ [(k, b)]) (hne : a ≠ b) : (j, a) ∈ l := by
  simpa [hne] using h

end

/-! ### Counting in the node lists -/

/-- Listing an identifier under a node adds one occurrence, of that identifier under that
node. -/
theorem count_listed_pushToNode (r : Registry) (n₀ m : NodeId) (id₀ id : ContainerId) :
    ((r.pushToNode n₀ id₀).listed m).count id =
      (r.listed m).count id + if m = n₀ ∧ id = id₀ then 1 else 0 := by
  rw [Registry.listed_pushToNode]
  by_cases hm : m = n₀ <;> by_cases hid : id₀ = id <;> simp [hm, hid, List.count_singleton]
  exact fun h => hid h.symm

/-- Unlisting an identifier from a node removes all its occurrences there and changes no
other count. -/
theorem count_listed_retainOnNode (r : Registry) (n₀ m : NodeId) (id₀ id : ContainerId) :
    ((r.retainOnNode n₀ id₀).listed m).count id =
      if m = n₀ ∧ id = id₀ then 0 else (r.listed m).count id := by
  rw [Registry.listed_retainOnNode]
  by_cases hm : m = n₀ <;> by_cases hid : id = id₀ <;>
    simp [hm, hid, List.count_filter, bne_iff_ne]
  subst hid
  exact List.count_eq_zero.2 (by simp)

/-! ### The invariant -/

/-- The registry invariant under interleaving, for the registry `r`, the roles `rs` of the
tasks in order, the log of map operations, and what the callers have seen. -/
structure RegistryInv (r : Registry) (rs : List Role) (log : List (Nat × MapOp))
    (drawn : List Uuid) (given : List ContainerId) : Prop where
  /-- Copies listed plus pushes to come: one for the entry's node, plus retains to come. -/
  count_listed : ∀ n id, (r.listed n).count id + rs.count (.inserted id n) =
    (if r.nodeOf id = some n then 1 else 0) + rs.count (.holding id n)
  id_eq : ∀ k st, r.containers.get k = some st → st.id = k
  /-- A removed entry has no entry left, one remove holding it, and no create pushing it. -/
  holding : ∀ id n, 0 < rs.count (.holding id n) →
    r.nodeOf id = none ∧ rs.count (.holding id n) = 1 ∧ rs.count (.inserted id n) = 0
  creating : ∀ id, 0 < rs.count (.creating id) → r.nodeOf id = none
  entry : ∀ id, r.nodeOf id ≠ none → 0 < rs.countP (Role.isCreateOf id)
  create_unique : ∀ id, rs.countP (Role.isCreateOf id) ≤ 1
  /-- A remove of `id` runs only once its create has done both its map operations. -/
  remove_after : ∀ id, 0 < rs.countP (Role.isRemoveOf id) →
    rs.count (.creating id) = 0 ∧ ∀ n, rs.count (.inserted id n) = 0
  drawn : ∀ id, 0 < rs.countP (Role.isCreateOf id) →
    ∃ name u, id = formatContainerId name u ∧ u ∈ drawn
  given : ∀ id, 0 < rs.countP (Role.isCallOn id) → id ∈ given
  taken : ∀ j id, (j, .take id) ∈ log →
    r.containers.get id = none ∧ 0 < rs.countP (Role.isRemoveOf id)
  pushed : ∀ j n id, (j, .push n id) ∈ log → (∀ k, (k, .retain n id) ∉ log) →
    id ∈ r.listed n

section

variable {r : Registry} {rs rs' : List Role} {log : List (Nat × MapOp)} {d : List Uuid}
  {g : List ContainerId}

/-- Moving roles without touching the registry keeps the invariant when the pending updates
stay, no create goes back before its `insert`, and no task changes kind. -/
theorem RegistryInv.of_roles (h : RegistryInv r rs log d g)
    (hpend : ∀ id n, rs'.count (.inserted id n) = rs.count (.inserted id n) ∧
      rs'.count (.holding id n) = rs.count (.holding id n))
    (hcreat : ∀ id, rs'.count (.creating id) ≤ rs.count (.creating id))
    (hkind : ∀ id, rs'.countP (Role.isCreateOf id) = rs.countP (Role.isCreateOf id) ∧
      rs'.countP (Role.isRemoveOf id) = rs.countP (Role.isRemoveOf id) ∧
      rs'.countP (Role.isCallOn id) = rs.countP (Role.isCallOn id)) :
    RegistryInv r rs' log d g where
  count_listed n id := by rw [(hpend id n).1, (hpend id n).2]; exact h.count_listed n id
  id_eq := h.id_eq
  holding id n hc := by
    rw [(hpend id n).1, (hpend id n).2] at *
    exact h.holding id n hc
  creating id hc := h.creating id (by have := hcreat id; omega)
  entry id hn := (hkind id).1 ▸ h.entry id hn
  create_unique id := (hkind id).1 ▸ h.create_unique id
  remove_after id hc := by
    obtain ⟨h₁, h₂⟩ := h.remove_after id ((hkind id).2.1 ▸ hc)
    exact ⟨by have := hcreat id; omega, fun n => (hpend id n).1 ▸ h₂ n⟩
  drawn id hc := h.drawn id ((hkind id).1 ▸ hc)
  given id hc := h.given id ((hkind id).2.2 ▸ hc)
  taken j id hj := (hkind id).2.1 ▸ h.taken j id hj
  pushed := h.pushed

/-- One more operation that is no push, on a registry with the same node lists. -/
theorem RegistryInv.pushed_append (h : RegistryInv r rs log d g) {op : MapOp}
    (hop : ∀ n id, MapOp.push n id ≠ op) {i j : Nat} {n : NodeId} {id : ContainerId}
    (hj : (j, .push n id) ∈ log ++ [(i, op)])
    (hret : ∀ k, (k, .retain n id) ∉ log ++ [(i, op)]) : id ∈ r.listed n :=
  h.pushed j n id (mem_of_mem_append_ne hj (hop n id)) fun k hk =>
    hret k (List.mem_append_left _ hk)

variable {i : Nat} {ρ ρ' : Role}

/-- A move that keeps the kind of a task keeps the number of creates, removes and calls on
every identifier. -/
theorem countP_kind_set (hi : rs[i]? = some ρ) (hk : ρ.SameKind ρ') (id : ContainerId) :
    (rs.set i ρ').countP (Role.isCreateOf id) = rs.countP (Role.isCreateOf id) ∧
      (rs.set i ρ').countP (Role.isRemoveOf id) = rs.countP (Role.isRemoveOf id) ∧
      (rs.set i ρ').countP (Role.isCallOn id) = rs.countP (Role.isCallOn id) :=
  ⟨countP_set_of_eq hi (hk id).1, countP_set_of_eq hi (hk id).2.1,
    countP_set_of_eq hi (hk id).2.2⟩

/-- A step that touches no map keeps the invariant. -/
theorem RegistryInv.quiet (h : RegistryInv r rs log d g) (hi : rs[i]? = some ρ)
    (hq : Role.Quiet ρ ρ') : RegistryInv r (rs.set i ρ') log d g := by
  have hk := countP_kind_set hi hq.sameKind
  rcases hq with rfl | ⟨id₀, rfl, rfl⟩ | ⟨id₀, rfl, rfl⟩
  · rwa [set_self_of_getElem? hi]
  · -- a create fails before its `insert`
    refine h.of_roles (fun id n => ⟨?_, ?_⟩) (fun id => ?_) hk
    · simpa using count_set_add hi (.abandoned id₀) (.inserted id n)
    · simpa using count_set_add hi (.abandoned id₀) (.holding id n)
    · have := count_set_add hi (.abandoned id₀) (.creating id)
      simp only [reduceCtorEq, if_false, Nat.add_zero] at this
      omega
  · -- a remove fails before its `remove`
    refine h.of_roles (fun id n => ⟨?_, ?_⟩) (fun id => ?_) hk
    · simpa using count_set_add hi (.removed id₀) (.inserted id n)
    · simpa using count_set_add hi (.removed id₀) (.holding id n)
    · simpa using (count_set_add hi (.removed id₀) (.creating id)).le

/-! ### The map operations -/

variable {id₀ : ContainerId}

/-- A create's `insert`. -/
theorem RegistryInv.insert (h : RegistryInv r rs log d g) (hi : rs[i]? = some (.creating id₀))
    {st : ContainerState} (hst : st.id = id₀) :
    RegistryInv (r.insertContainer id₀ st) (rs.set i (.inserted id₀ st.nodeId))
      (log ++ [(i, .insert id₀ st)]) d g := by
  have hc := count_pos_of_getElem? hi
  have hnode := h.creating id₀ hc
  have hnorem : rs.countP (Role.isRemoveOf id₀) = 0 := by
    by_contra hne
    have := (h.remove_after id₀ (Nat.pos_of_ne_zero hne)).1
    omega
  have hone : rs.count (.creating id₀) ≤ 1 :=
    (count_le_countP (by simp [Role.isCreateOf]) rs).trans (h.create_unique id₀)
  have hk := countP_kind_set hi (show Role.SameKind _ (.inserted id₀ st.nodeId) by
    simp [Role.SameKind, Role.isCreateOf, Role.isRemoveOf, Role.isCallOn])
  have hins (id n) := count_set_add hi (.inserted id₀ st.nodeId) (.inserted id n)
  have hhold (id n) := count_set_add hi (.inserted id₀ st.nodeId) (.holding id n)
  have hcre (id) := count_set_add hi (.inserted id₀ st.nodeId) (.creating id)
  simp only [reduceCtorEq, if_false, Nat.add_zero, Role.inserted.injEq, Role.creating.injEq]
    at hins hhold hcre
  constructor
  · intro n id
    have h₀ := h.count_listed n id
    rw [Registry.listed_insertContainer, Registry.nodeOf_insertContainer, hins, hhold]
    rcases eq_or_ne id id₀ with rfl | hid
    · rw [hnode] at h₀
      by_cases hn : st.nodeId = n <;> simp [hn] at h₀ ⊢ <;> omega
    · simpa [hid, Ne.symm hid] using h₀
  · intro k st' hk'
    rw [Registry.get_containers_insertContainer] at hk'
    split_ifs at hk' with hkid
    · cases hk'
      rw [hkid, hst]
    · exact h.id_eq k st' hk'
  · intro id n hpos
    rw [hhold] at hpos ⊢
    have hid : id ≠ id₀ := by
      rintro rfl
      simpa [Role.isRemoveOf] using List.countP_eq_zero.1 hnorem _ (List.count_pos_iff.1 hpos)
    obtain ⟨h₁, h₂, h₃⟩ := h.holding id n hpos
    exact ⟨by simp [hid, h₁], h₂, by simp [hins, Ne.symm hid, h₃]⟩
  · intro id hpos
    have h₁ := hcre id
    rcases eq_or_ne id id₀ with rfl | hid
    · simp at h₁
      omega
    · simp only [Ne.symm hid, if_false, Nat.add_zero] at h₁
      simpa [hid] using h.creating id (h₁ ▸ hpos)
  · intro id hn
    rw [(hk id).1]
    rcases eq_or_ne id id₀ with rfl | hid
    · exact countP_pos_of_getElem? hi (by simp [Role.isCreateOf])
    · exact h.entry id (by simpa [hid] using hn)
  · exact fun id => (hk id).1 ▸ h.create_unique id
  · intro id hpos
    rw [(hk id).2.1] at hpos
    have hid : id ≠ id₀ := by rintro rfl; omega
    obtain ⟨h₁, h₂⟩ := h.remove_after id hpos
    have h₃ := hcre id
    simp only [Ne.symm hid, if_false, Nat.add_zero] at h₃
    exact ⟨h₃.trans h₁, fun n => by simp [hins, Ne.symm hid, h₂ n]⟩
  · exact fun id hpos => h.drawn id ((hk id).1 ▸ hpos)
  · exact fun id hpos => h.given id ((hk id).2.2 ▸ hpos)
  · intro j id hj
    obtain ⟨h₁, h₂⟩ := h.taken j id (mem_of_mem_append_ne hj nofun)
    have hid : id ≠ id₀ := by rintro rfl; omega
    exact ⟨by simp [hid, h₁], (hk id).2.1 ▸ h₂⟩
  · exact fun j n id hj hret => h.pushed_append (fun _ _ => by simp) hj hret

/-- A create's `push`. -/
theorem RegistryInv.push (h : RegistryInv r rs log d g) {n₀ : NodeId}
    (hi : rs[i]? = some (.inserted id₀ n₀)) :
    RegistryInv (r.pushToNode n₀ id₀) (rs.set i (.created id₀))
      (log ++ [(i, .push n₀ id₀)]) d g := by
  have hk := countP_kind_set hi (show Role.SameKind _ (.created id₀) by
    simp [Role.SameKind, Role.isCreateOf, Role.isRemoveOf, Role.isCallOn])
  have hins (id n) := count_set_add hi (.created id₀) (.inserted id n)
  have hhold (id n) := count_set_add hi (.created id₀) (.holding id n)
  have hcre (id) := count_set_add hi (.created id₀) (.creating id)
  simp only [reduceCtorEq, if_false, Nat.add_zero, Role.inserted.injEq] at hins hhold hcre
  have hins_le (id n) :
      (rs.set i (.created id₀)).count (.inserted id n) ≤ rs.count (.inserted id n) := by
    have := hins id n
    omega
  constructor
  · intro m id
    have h₀ := h.count_listed m id
    have h₁ := hins id m
    rw [count_listed_pushToNode, Registry.nodeOf_pushToNode, hhold]
    by_cases hc : m = n₀ ∧ id = id₀
    · obtain ⟨rfl, rfl⟩ := hc
      simp only [and_self, if_true] at h₁ ⊢
      omega
    · rw [if_neg hc]
      rw [if_neg fun h' => hc ⟨h'.2.symm, h'.1.symm⟩] at h₁
      omega
  · exact h.id_eq
  · intro id n hpos
    rw [hhold] at hpos ⊢
    obtain ⟨h₁, h₂, h₃⟩ := h.holding id n hpos
    exact ⟨h₁, h₂, by have := hins_le id n; omega⟩
  · exact fun id hpos => h.creating id (hcre id ▸ hpos)
  · exact fun id hn => (hk id).1 ▸ h.entry id hn
  · exact fun id => (hk id).1 ▸ h.create_unique id
  · intro id hpos
    obtain ⟨h₁, h₂⟩ := h.remove_after id ((hk id).2.1 ▸ hpos)
    exact ⟨hcre id ▸ h₁, fun n => by have := hins_le id n; have := h₂ n; omega⟩
  · exact fun id hpos => h.drawn id ((hk id).1 ▸ hpos)
  · exact fun id hpos => h.given id ((hk id).2.2 ▸ hpos)
  · exact fun j id hj => (hk id).2.1 ▸ h.taken j id (mem_of_mem_append_ne hj nofun)
  · intro j n id hj hret
    rw [Registry.listed_pushToNode]
    simp only [List.mem_append, List.mem_singleton, Prod.mk.injEq, MapOp.push.injEq] at hj
    rcases hj with hj | ⟨-, rfl, rfl⟩
    · have := h.pushed j n id hj fun k hk => hret k (List.mem_append_left _ hk)
      split_ifs with hn
      · subst hn; exact List.mem_append_left _ this
      · exact this
    · simp

/-- Logging a `remove` that found nothing: the entry is absent and a remove of it exists. -/
theorem RegistryInv.log_take (h : RegistryInv r rs log d g) (hnone : r.containers.get id₀ = none)
    (hrem : 0 < rs.countP (Role.isRemoveOf id₀)) (j : Nat) :
    RegistryInv r rs (log ++ [(j, .take id₀)]) d g :=
  { h with
    taken := fun j' id hj => by
      simp only [List.mem_append, List.mem_singleton, Prod.mk.injEq, MapOp.take.injEq] at hj
      rcases hj with hj | ⟨-, rfl⟩
      · exact h.taken j' id hj
      · exact ⟨hnone, hrem⟩
    pushed := fun _ _ _ hj hret => h.pushed_append (fun _ _ => by simp) hj hret }

/-- A remove's `remove`. -/
theorem RegistryInv.take (h : RegistryInv r rs log d g) (hi : rs[i]? = some (.removing id₀)) :
    RegistryInv (r.takeContainer id₀).2
      (rs.set i (match r.containers.get id₀ with
        | some st => .holding id₀ st.nodeId
        | none => .removed id₀)) (log ++ [(i, .take id₀)]) d g := by
  have hrem : 0 < rs.countP (Role.isRemoveOf id₀) :=
    countP_pos_of_getElem? hi (by simp [Role.isRemoveOf])
  obtain ⟨-, hins₀⟩ := h.remove_after id₀ hrem
  cases hget : r.containers.get id₀ with
  | none =>
    -- nothing to remove: only the log moves
    have hr : (r.takeContainer id₀).2 = r := by
      simpa [Registry.forget, hget] using Registry.forget_of_none hget
    rw [hr]
    refine (h.quiet hi (.inr (.inr ⟨id₀, rfl, rfl⟩))).log_take hget ?_ i
    rwa [(countP_kind_set hi (Role.Quiet.sameKind (.inr (.inr ⟨id₀, rfl, rfl⟩))) id₀).2.1]
  | some st =>
    have hnode : r.nodeOf id₀ = some st.nodeId := by simp [Registry.nodeOf, hget]
    have hk := countP_kind_set hi (show Role.SameKind _ (.holding id₀ st.nodeId) by
      simp [Role.SameKind, Role.isCreateOf, Role.isRemoveOf, Role.isCallOn])
    have hins (id n) := count_set_add hi (.holding id₀ st.nodeId) (.inserted id n)
    have hhold (id n) := count_set_add hi (.holding id₀ st.nodeId) (.holding id n)
    have hcre (id) := count_set_add hi (.holding id₀ st.nodeId) (.creating id)
    simp only [reduceCtorEq, if_false, Nat.add_zero, Role.holding.injEq] at hins hhold hcre
    have hhold₀ (n) : rs.count (.holding id₀ n) = 0 := by
      by_contra hne
      have := (h.holding id₀ n (Nat.pos_of_ne_zero hne)).1
      rw [hnode] at this
      cases this
    constructor
    · intro m id
      have h₀ := h.count_listed m id
      rw [Registry.listed_takeContainer, Registry.nodeOf_takeContainer, hins, hhold]
      rcases eq_or_ne id id₀ with rfl | hid
      · rw [hnode, hhold₀] at h₀
        by_cases hm : st.nodeId = m <;> simp [hm, hhold₀] at h₀ ⊢ <;> omega
      · simpa [hid, Ne.symm hid] using h₀
    · intro k st' hk'
      rw [Registry.get_containers_takeContainer] at hk'
      split_ifs at hk'
      exact h.id_eq k st' hk'
    · intro id n hpos
      rw [hhold] at hpos ⊢
      rcases eq_or_ne id id₀ with rfl | hid
      · simp only [hhold₀, true_and, Nat.zero_add] at hpos ⊢
        split_ifs at hpos ⊢ with hn
        · exact ⟨by simp, rfl, by rw [hins]; exact hins₀ n⟩
        · omega
      · obtain ⟨h₁, h₂, h₃⟩ := h.holding id n (by simpa [Ne.symm hid] using hpos)
        exact ⟨by simp [hid, h₁], by simpa [Ne.symm hid] using h₂, by rw [hins]; exact h₃⟩
    · intro id hpos
      rw [Registry.nodeOf_takeContainer]
      split_ifs
      · rfl
      · exact h.creating id (hcre id ▸ hpos)
    · intro id hn
      rw [Registry.nodeOf_takeContainer] at hn
      split_ifs at hn
      · exact absurd rfl hn
      · exact (hk id).1 ▸ h.entry id hn
    · exact fun id => (hk id).1 ▸ h.create_unique id
    · intro id hpos
      obtain ⟨h₁, h₂⟩ := h.remove_after id ((hk id).2.1 ▸ hpos)
      exact ⟨hcre id ▸ h₁, fun n => (hins id n).symm ▸ h₂ n⟩
    · exact fun id hpos => h.drawn id ((hk id).1 ▸ hpos)
    · exact fun id hpos => h.given id ((hk id).2.2 ▸ hpos)
    · intro j id hj
      rw [(hk id).2.1, Registry.get_containers_takeContainer]
      simp only [List.mem_append, List.mem_singleton, Prod.mk.injEq, MapOp.take.injEq] at hj
      rcases hj with hj | ⟨-, rfl⟩
      · obtain ⟨h₁, h₂⟩ := h.taken j id hj
        exact ⟨by split_ifs <;> simp [h₁], h₂⟩
      · exact ⟨by simp, hrem⟩
    · exact fun j n id hj hret => h.pushed_append (fun _ _ => by simp) hj hret

/-- A remove's `retain`. -/
theorem RegistryInv.retain (h : RegistryInv r rs log d g) {n₀ : NodeId}
    (hi : rs[i]? = some (.holding id₀ n₀)) :
    RegistryInv (r.retainOnNode n₀ id₀) (rs.set i (.removed id₀))
      (log ++ [(i, .retain n₀ id₀)]) d g := by
  obtain ⟨hnode, hone, hins₀⟩ := h.holding id₀ n₀ (count_pos_of_getElem? hi)
  have hk := countP_kind_set hi (show Role.SameKind _ (.removed id₀) by
    simp [Role.SameKind, Role.isCreateOf, Role.isRemoveOf, Role.isCallOn])
  have hins (id n) := count_set_add hi (.removed id₀) (.inserted id n)
  have hhold (id n) := count_set_add hi (.removed id₀) (.holding id n)
  have hcre (id) := count_set_add hi (.removed id₀) (.creating id)
  simp only [reduceCtorEq, if_false, Nat.add_zero, Role.holding.injEq] at hins hhold hcre
  constructor
  · intro m id
    have h₀ := h.count_listed m id
    have h₁ := hhold id m
    rw [count_listed_retainOnNode, Registry.nodeOf_retainOnNode, hins]
    by_cases hc : m = n₀ ∧ id = id₀
    · obtain ⟨rfl, rfl⟩ := hc
      simp only [and_self, if_true, hnode, reduceCtorEq, if_false] at h₀ h₁ ⊢
      omega
    · rw [if_neg hc]
      rw [if_neg fun h' => hc ⟨h'.2.symm, h'.1.symm⟩] at h₁
      omega
  · exact h.id_eq
  · intro id n hpos
    have h₁ := hhold id n
    by_cases hc : id₀ = id ∧ n₀ = n
    · obtain ⟨rfl, rfl⟩ := hc
      simp only [and_self, if_true] at h₁
      omega
    · rw [if_neg hc, Nat.add_zero] at h₁
      rw [h₁] at hpos ⊢
      obtain ⟨h₂, h₃, h₄⟩ := h.holding id n hpos
      exact ⟨h₂, h₃, hins id n ▸ h₄⟩
  · exact fun id hpos => h.creating id (hcre id ▸ hpos)
  · exact fun id hn => (hk id).1 ▸ h.entry id hn
  · exact fun id => (hk id).1 ▸ h.create_unique id
  · intro id hpos
    obtain ⟨h₁, h₂⟩ := h.remove_after id ((hk id).2.1 ▸ hpos)
    exact ⟨hcre id ▸ h₁, fun n => (hins id n).symm ▸ h₂ n⟩
  · exact fun id hpos => h.drawn id ((hk id).1 ▸ hpos)
  · exact fun id hpos => h.given id ((hk id).2.2 ▸ hpos)
  · exact fun j id hj => (hk id).2.1 ▸ h.taken j id (mem_of_mem_append_ne hj nofun)
  · intro j n id hj hret
    replace hj := mem_of_mem_append_ne hj nofun
    have hne : ¬(n = n₀ ∧ id = id₀) := by
      rintro ⟨rfl, rfl⟩
      exact hret i (by simp)
    have := h.pushed j n id hj fun k hk => hret k (List.mem_append_left _ hk)
    rw [Registry.listed_retainOnNode]
    split_ifs with hn
    · subst hn
      simpa [List.mem_filter, this] using fun h' => hne ⟨rfl, h'⟩
    · exact this

/-- A map operation that leaves the node lists and the nodes of the entries as they are,
and keeps every entry's identifier, keeps the invariant. -/
theorem RegistryInv.frame (h : RegistryInv r rs log d g) (r' : Registry) (op : MapOp)
    (hl : ∀ m, r'.listed m = r.listed m) (hn : ∀ k, r'.nodeOf k = r.nodeOf k)
    (hid : ∀ k st, r'.containers.get k = some st → st.id = k)
    (htake : ∀ id, MapOp.take id ≠ op) (hpush : ∀ n id, MapOp.push n id ≠ op) (j : Nat) :
    RegistryInv r' rs (log ++ [(j, op)]) d g := by
  have hnone (k) (hk : r.containers.get k = none) : r'.containers.get k = none := by
    simpa [Registry.nodeOf, hk] using hn k
  constructor
  · exact fun m id => hl m ▸ hn id ▸ h.count_listed m id
  · exact hid
  · exact fun id n hpos => hn id ▸ h.holding id n hpos
  · exact fun id hpos => hn id ▸ h.creating id hpos
  · exact fun id hne => h.entry id (hn id ▸ hne)
  · exact h.create_unique
  · exact h.remove_after
  · exact h.drawn
  · exact h.given
  · intro j' id hj
    obtain ⟨h₁, h₂⟩ := h.taken j' id (mem_of_mem_append_ne hj (htake id))
    exact ⟨hnone id h₁, h₂⟩
  · exact fun j' n id hj hret => hl n ▸ h.pushed_append hpush hj hret

/-- **Every map operation keeps the invariant**, whatever the other tasks are doing. -/
theorem RegistryInv.map (h : RegistryInv r rs log d g) {op : MapOp} (hi : rs[i]? = some ρ)
    (hm : op.Moves r ρ ρ') : RegistryInv (op.apply r) (rs.set i ρ') (log ++ [(i, op)]) d g := by
  cases op with
  | insert id st => obtain ⟨rfl, rfl, hst⟩ := hm; exact h.insert hi hst
  | push n id => obtain ⟨rfl, rfl⟩ := hm; exact h.push hi
  | take id => obtain ⟨rfl, rfl⟩ := hm; exact h.take hi
  | retain n id => obtain ⟨rfl, rfl⟩ := hm; exact h.retain hi
  | ensureNode n =>
    cases hm
    rw [set_self_of_getElem? hi]
    exact h.frame (r.ensureNode n) (.ensureNode n) (Registry.listed_ensureNode r n)
      (fun _ => rfl) h.id_eq (fun _ => by simp) (fun _ _ => by simp) i
  | markStopped id =>
    cases hm
    rw [set_self_of_getElem? hi]
    refine h.frame (r.markStopped id) (.markStopped id) (fun _ => rfl)
      (Registry.nodeOf_markStopped r id) (fun k st hk => ?_) (fun _ => by simp)
      (fun _ _ => by simp) i
    simp only [MapOp.apply, Registry.get_containers_markStopped] at hk
    split_ifs at hk with hkid
    · obtain ⟨st', hst', rfl⟩ := Option.map_eq_some'.1 hk
      exact (h.id_eq _ _ hst').trans hkid.symm
    · exact h.id_eq k st hk
  | get id | listed n =>
    cases hm
    rw [set_self_of_getElem? hi]
    exact h.frame r _ (fun _ => rfl) (fun _ => rfl) h.id_eq (fun _ => by simp)
      (fun _ _ => by simp) i

/-! ### Starting a call -/

/-- A new task of role `ρ`, between no two map operations, keeps the invariant when a new
create is the first task of its identifier and made it from a drawn UUID, a new remove's
create has done both its map operations, and a new call was given its identifier. -/
theorem RegistryInv.spawn (h : RegistryInv r rs log d g) {d' : List Uuid} {g' : List ContainerId}
    (hd : d ⊆ d') (hg : g ⊆ g') (hins : ∀ id n, ρ ≠ .inserted id n)
    (hhold : ∀ id n, ρ ≠ .holding id n)
    (hcreate : ∀ id, ρ.isCreateOf id → rs.countP (Role.isCreateOf id) = 0 ∧
      rs.countP (Role.isRemoveOf id) = 0 ∧ ∃ name u, id = formatContainerId name u ∧ u ∈ d')
    (hremove : ∀ id, ρ.isRemoveOf id →
      rs.count (.creating id) = 0 ∧ ∀ n, rs.count (.inserted id n) = 0)
    (hcall : ∀ id, ρ.isCallOn id → id ∈ g') :
    RegistryInv r (rs ++ [ρ]) log d' g' := by
  have hcount (x : Role) : (rs ++ [ρ]).count x = rs.count x + if ρ = x then 1 else 0 := by
    simp [List.count_singleton]
  have hcountP (p : Role → Bool) :
      (rs ++ [ρ]).countP p = rs.countP p + if p ρ then 1 else 0 := by
    simp [List.countP_singleton]
  have hfresh (id) (hc : ρ.isCreateOf id) : r.nodeOf id = none := by
    by_contra hn
    have := h.entry id hn
    have := (hcreate id hc).1
    omega
  constructor
  · intro n id
    rw [hcount, hcount, if_neg (hins id n), if_neg (hhold id n)]
    exact h.count_listed n id
  · exact h.id_eq
  · intro id n hpos
    simp only [hcount, if_neg (hhold id n), if_neg (hins id n), Nat.add_zero] at hpos ⊢
    exact h.holding id n hpos
  · intro id hpos
    rw [hcount] at hpos
    split_ifs at hpos with hρ
    · subst hρ
      exact hfresh id (by simp [Role.isCreateOf])
    · exact h.creating id (by omega)
  · intro id hn
    have := h.entry id hn
    rw [hcountP]
    omega
  · intro id
    rw [hcountP]
    split_ifs with hc
    · have := (hcreate id hc).1
      omega
    · exact h.create_unique id
  · intro id hpos
    rw [hcountP] at hpos
    have hrs : rs.count (.creating id) = 0 ∧ ∀ n, rs.count (.inserted id n) = 0 := by
      by_cases hr : ρ.isRemoveOf id
      · exact hremove id hr
      · rw [if_neg hr, Nat.add_zero] at hpos
        exact h.remove_after id hpos
    refine ⟨?_, fun n => by rw [hcount, if_neg (hins id n)]; exact hrs.2 n⟩
    rw [hcount, hrs.1, if_neg]
    rintro rfl
    have := (hcreate id (by simp [Role.isCreateOf])).2.1
    simp [Role.isRemoveOf, this] at hpos
  · intro id hpos
    rw [hcountP] at hpos
    by_cases hc : ρ.isCreateOf id
    · exact (hcreate id hc).2.2
    · rw [if_neg hc, Nat.add_zero] at hpos
      obtain ⟨name, u, rfl, hu⟩ := h.drawn id hpos
      exact ⟨name, u, rfl, hd hu⟩
  · intro id hpos
    rw [hcountP] at hpos
    by_cases hc : ρ.isCallOn id
    · exact hcall id hc
    · rw [if_neg hc, Nat.add_zero] at hpos
      exact hg (h.given id hpos)
  · intro j id hj
    obtain ⟨h₁, h₂⟩ := h.taken j id hj
    exact ⟨h₁, by rw [hcountP]; omega⟩
  · exact h.pushed

end

/-- A create whose identifier is still to be inserted or pushed has not returned. -/
theorem Task.createRunning_of_role {t : Task} {id : ContainerId}
    (h : t.role = .creating id ∨ ∃ n, t.role = .inserted id n) : t.CreateRunning id := by
  cases t with
  | createContainer id' n' bp pc => cases pc <;> simp_all [Task.role, Task.CreateRunning]
  | removeContainer _ pc => cases pc <;> simp_all [Task.role]
  | _ => simp_all [Task.role]

/-- A remove is a call on its identifier. -/
theorem Role.isCallOn_of_isRemoveOf {ρ : Role} {id : ContainerId} (h : ρ.isRemoveOf id) :
    ρ.isCallOn id := by
  cases ρ <;> simp_all [Role.isRemoveOf, Role.isCallOn]

/-! ### Runs -/

/-- `RegistryInv` of a state of the runtime. -/
def Sys.Inv (s : Sys) : Prop :=
  RegistryInv s.registry (s.tasks.map Task.role) s.log s.drawn s.given

section

variable {cfg : YoukiCliConfig} {s s' : Sys}

/-- A call the callers may make keeps the invariant. -/
theorem Sys.Inv.spawn (h : s.Inv) {req : Request} (hreq : req.Allowed s) :
    (s.spawn cfg req).Inv := by
  unfold Sys.Inv at h ⊢
  simp only [Sys.spawn, List.map_append, List.map_singleton]
  refine h.spawn (List.subset_append_left _ _) (List.subset_append_left _ _) ?_ ?_ ?_ ?_ ?_ <;>
    cases req
  all_goals simp only [Request.start, Task.role, Role.isCreateOf, Role.isRemoveOf, Role.isCallOn,
    Request.drawn, Request.given, ne_eq, reduceCtorEq, not_false_eq_true, implies_true,
    Bool.false_eq_true, false_implies, beq_iff_eq, List.mem_append, List.mem_singleton, true_or,
    or_true, forall_eq']
  case createContainer config options uuid =>
    obtain ⟨hu, hid⟩ := hreq
    refine ⟨Nat.eq_zero_of_not_pos fun hpos => ?_, Nat.eq_zero_of_not_pos fun hpos => ?_,
      config.name, uuid, rfl, Or.inr rfl⟩
    · obtain ⟨name, u, heq, hmem⟩ := h.drawn _ hpos
      exact hu (formatContainerId_inj_uuid heq ▸ hmem)
    · exact hid (h.given _ (lt_of_lt_of_le hpos
        (List.countP_mono_left fun _ _ => Role.isCallOn_of_isRemoveOf)))
  case removeContainer id =>
    refine ⟨List.count_eq_zero.2 fun hm => ?_, fun n => List.count_eq_zero.2 fun hm => ?_⟩
    · obtain ⟨t, ht, hrole⟩ := List.mem_map.1 hm
      exact hreq t ht (Task.createRunning_of_role (Or.inl hrole))
    · obtain ⟨t, ht, hrole⟩ := List.mem_map.1 hm
      exact hreq t ht (Task.createRunning_of_role (Or.inr ⟨n, hrole⟩))

/-- **Every step keeps the invariant.** -/
theorem Step.inv (hs : Step cfg s s') (h : s.Inv) : s'.Inv := by
  cases hs with
  | spawn req hreq => exact h.spawn hreq
  | @call i t t' e next hi hact ht =>
    have hq := t.roles_action
    rw [hact] at hq
    simpa [Sys.Inv, List.map_set] using h.quiet (i := i) (by simp [hi]) (hq t' ht)
  | @acquire i t t' l a hi hact _ | @release i t t' l a hi hact =>
    have hq := t.roles_action
    rw [hact] at hq
    simpa [Sys.Inv, List.map_set] using h.quiet (i := i) (by simp [hi]) (Or.inl hq)
  | @map i t op next hi hact =>
    have hq := t.roles_action
    rw [hact] at hq
    simpa [Sys.Inv, List.map_set] using h.map (i := i) (by simp [hi]) (hq s.registry)

/-- The state before any call satisfies the invariant. -/
theorem Sys.inv_init : Sys.init.Inv := by
  constructor <;> simp [Sys.init, Sys.idle, Registry.empty, Registry.listed, Registry.nodeOf]

/-- **Every reachable state satisfies the invariant.** -/
theorem Reachable.inv (h : Reachable cfg s) : s.Inv := by
  induction h with
  | init => exact Sys.inv_init
  | step _ hs ih => exact hs.inv ih

end

/-! ### What every interleaving keeps -/

/-- A create or a remove between its first and its last map operation. -/
def Task.midUpdate : Task → Bool
  | .createContainer _ _ _ .unlockTrack | .createContainer _ _ _ .index
  | .createContainer _ _ _ .push => true
  | .removeContainer _ (.cleanup _) | .removeContainer _ (.removeDir _)
  | .removeContainer _ (.lockIndex _) | .removeContainer _ (.retain _) => true
  | _ => false

/-- A task with no update in progress holds no identifier inserted but not listed, or taken
out but still listed. -/
theorem Task.role_of_not_midUpdate {t : Task} (h : t.midUpdate = false) (id : ContainerId)
    (n : NodeId) : t.role ≠ .inserted id n ∧ t.role ≠ .holding id n := by
  cases t with
  | createContainer _ _ _ pc => cases pc <;> simp_all [Task.midUpdate, Task.role]
  | removeContainer _ pc => cases pc <;> simp_all [Task.midUpdate, Task.role]
  | _ => simp [Task.role]

/-- With no update pending, the invariant is the counting form of the registry invariant. -/
theorem RegistryInv.indexed {r : Registry} {rs : List Role} {log : List (Nat × MapOp)}
    {d : List Uuid} {g : List ContainerId} (h : RegistryInv r rs log d g)
    (hq : ∀ id n, rs.count (.inserted id n) = 0 ∧ rs.count (.holding id n) = 0) :
    r.Indexed := by
  have hc (n id) : (r.listed n).count id = if r.nodeOf id = some n then 1 else 0 := by
    simpa [(hq id n).1, (hq id n).2] using h.count_listed n id
  refine ⟨h.id_eq, hc, fun id n hn => ?_⟩
  have := hc n id
  rw [if_pos hn] at this
  cases hget : r.containersByNode.get n with
  | none => simp [Registry.listed, hget] at this
  | some => rfl

/-- **The registry under any interleaving.** In every reachable state: an identifier a
create pushed under a node is listed there unless a remove retained it away, so no push is
lost; an identifier a remove took has no entry, so no later `get_mut` of a racing stop
brings it back; and when no create or remove is between its two map operations, the
registry invariant holds. -/
theorem interleaved_registry_safe (cfg : YoukiCliConfig) {s : Sys} (h : Reachable cfg s) :
    (∀ i n id, (i, MapOp.push n id) ∈ s.log → (∀ j, (j, MapOp.retain n id) ∉ s.log) →
      id ∈ s.registry.listed n) ∧
    (∀ i id, (i, MapOp.take id) ∈ s.log → s.registry.containers.get id = none) ∧
    ((∀ t ∈ s.tasks, t.midUpdate = false) → s.registry.Consistent) := by
  have hinv := h.inv
  refine ⟨hinv.pushed, fun i id hi => (hinv.taken i id hi).1, fun hq => ?_⟩
  -- no task is between its two map operations, so no update is pending
  refine (hinv.indexed fun id n => ?_).consistent
  simp only [List.count_eq_zero, List.mem_map, not_exists, not_and]
  exact ⟨fun t ht => (Task.role_of_not_midUpdate (hq t ht) id n).1,
    fun t ht => (Task.role_of_not_midUpdate (hq t ht) id n).2⟩

/-- A create of a container named `name` on the node `sampleUuid 1`. -/
def sampleCreateRequest (name : String) (uuid : Uuid) : Request :=
  .createContainer ⟨name, "nginx:latest", ⟨0.5, 256⟩⟩ ⟨sampleUuid 1⟩ uuid

/-- Two creates on one node race: `web` runs up to its push and holds the guard of
`containers_by_node`, `api` inserts its entry meanwhile and waits for that guard; both
push, then a remove of `web` takes its entry and is between its two map operations. -/
def racingSchedule : List Choice :=
  [.spawn (sampleCreateRequest "web" (sampleUuid 2)),
    .spawn (sampleCreateRequest "api" (sampleUuid 3))] ++
  List.replicate 12 (.advance 0 0) ++ List.replicate 11 (.advance 1 0) ++
  List.replicate 2 (.advance 0 0) ++ List.replicate 3 (.advance 1 0) ++
  [.spawn (.removeContainer (formatContainerId "web" (sampleUuid 2)))] ++
  List.replicate 3 (.advance 2 0)

/-- In the state `racingSchedule` reaches, with the remove in flight: both pushes are
listed, and the entry the remove took is gone. -/
theorem racing_creates_registry_safe :
    ∃ s, Reachable YoukiCliConfig.default s ∧ (∃ t ∈ s.tasks, t.midUpdate = true) ∧
      formatContainerId "web" (sampleUuid 2) ∈ s.registry.listed (sampleUuid 1) ∧
      formatContainerId "api" (sampleUuid 3) ∈ s.registry.listed (sampleUuid 1) ∧
      s.registry.containers.get (formatContainerId "web" (sampleUuid 2)) = none := by
  obtain ⟨s, hrun, hweb, hapi, hretain, htake, hmid⟩ :
      ∃ s, Sys.init.schedule .default racingSchedule = some s ∧
        (0, MapOp.push (sampleUuid 1) (formatContainerId "web" (sampleUuid 2))) ∈ s.log ∧
        (1, MapOp.push (sampleUuid 1) (formatContainerId "api" (sampleUuid 3))) ∈ s.log ∧
        (∀ e ∈ s.log, e.2 ≠ .retain (sampleUuid 1) (formatContainerId "web" (sampleUuid 2)) ∧
          e.2 ≠ .retain (sampleUuid 1) (formatContainerId "api" (sampleUuid 3))) ∧
        (2, MapOp.take (formatContainerId "web" (sampleUuid 2))) ∈ s.log ∧
        ∃ t ∈ s.tasks, t.midUpdate = true :=
    ⟨_, rfl, by decide⟩
  have hreach := Reachable.init.schedule hrun
  have hsafe := interleaved_registry_safe YoukiCliConfig.default hreach
  exact ⟨s, hreach, hmid, hsafe.1 0 _ _ hweb fun _ hj => (hretain _ hj).1 rfl,
    hsafe.1 1 _ _ hapi fun _ hj => (hretain _ hj).2 rfl, hsafe.2.1 2 _ htake⟩

end YoukiRuntime
