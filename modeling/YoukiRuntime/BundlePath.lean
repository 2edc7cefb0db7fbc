import YoukiRuntime.Types

/-!
# Where bundles live

`create_container` creates its bundle at `bundle_path(node_id, container_id)`, that is
`bundle_root.join(node_id).join(container_id)`, with `container_id = "{name}-{uuid}"`;
`remove_container` deletes that directory with `remove_dir_all`. Nothing checks the name.

A name without `/` makes the container id a single plain part, so the bundle lies strictly
below `bundle_root/<node_id>`, and bundles of different containers are disjoint. A name
with `/` breaks both: an absolute name makes `Path::join` drop the root altogether, and a
name that spells out another container's bundle puts the new bundle inside it.

## Main results

* `bundlePath_strictDescendant`: for a name without `/`, the bundle is strictly below
  `bundle_root/<node_id>`.
* `bundlePath_not_prefix`: for names without `/`, the bundle of one container is neither
  equal to nor an ancestor of the bundle of another.
* `unsanitized_name_bundlePaths`: the name `/tmp/x` puts the bundle outside the bundle
  root, and a name ending in another container's bundle path and `/sub` puts the bundle
  inside that container's.
-/

namespace YoukiRuntime

/-! ### Plain parts -/

/-- A part of three or more characters without a slash is plain. -/
theorem isPlainPart_of_length {c : List Char} (hc : '/' ∉ c) (hlen : 3 ≤ c.length) :
    IsPlainPart c := by
  refine ⟨hc, ?_, ?_, ?_⟩ <;> rintro rfl <;> simp at hlen

/-- A UUID's rendering is a plain part. -/
theorem Uuid.isPlainPart_toString (u : Uuid) : IsPlainPart u.toString.data :=
  isPlainPart_of_length u.slash_not_mem_toString (by rw [u.length_toString_data]; omega)

/-- The id of a container whose name has no slash is a plain part. -/
theorem isPlainPart_formatContainerId {name : String} (hn : '/' ∉ name.data) (u : Uuid) :
    IsPlainPart (formatContainerId name u).data :=
  isPlainPart_of_length (slash_not_mem_formatContainerId hn u)
    (by simp [formatContainerId, u.length_toString_data])

/-- Joining an absolute path replaces the base. -/
theorem joinPath_of_absolute (base : String) {p : String} (hp : p.data.head? = some '/') :
    joinPath base p = p :=
  if_pos hp

/-- A path that resolves to the base's parts and one more lies strictly below the base. -/
theorem isStrictDescendant_of_normalize {p base : String} {c : List Char}
    (h : normalize p = ((normalize base).1, (normalize base).2 ++ [c])) :
    IsStrictDescendant p base := by
  rw [IsStrictDescendant, h]
  exact ⟨rfl, ⟨[c], rfl⟩, fun h' => by simpa using congrArg List.length h'⟩

/-! ### Bundles of well-named containers -/

/-- The resolved bundle path of a container whose id is a plain part: the bundle root, the
node, the container. -/
theorem normalize_bundlePath (cfg : YoukiCliConfig) (nodeId : NodeId) {id : ContainerId}
    (hid : IsPlainPart id.data) :
    normalize (cfg.bundlePath nodeId id) =
      ((normalize cfg.bundleRoot).1,
        (normalize cfg.bundleRoot).2 ++ [nodeId.toString.data, id.data]) := by
  simp [YoukiCliConfig.bundlePath, normalize_joinPath_plain _ hid,
    normalize_joinPath_plain _ nodeId.isPlainPart_toString]

/-- **For a name without `/`, the bundle is strictly below `bundle_root/<node_id>`.** -/
theorem bundlePath_strictDescendant (cfg : YoukiCliConfig) (nodeId : NodeId) {name : String}
    (hn : '/' ∉ name.data) (u : Uuid) :
    IsStrictDescendant (cfg.bundlePath nodeId (formatContainerId name u))
      (joinPath cfg.bundleRoot nodeId.toString) :=
  isStrictDescendant_of_normalize (normalize_joinPath_plain _ (isPlainPart_formatContainerId hn u))

/-- **Bundles of different containers are disjoint**: when both ids are plain parts, the
bundle of one is neither equal to nor an ancestor of the bundle of the other, so
`remove_dir_all` on one never reaches the other. -/
theorem bundlePath_not_prefix (cfg : YoukiCliConfig) {nodeId nodeId' : NodeId}
    {id id' : ContainerId} (hid : IsPlainPart id.data) (hid' : IsPlainPart id'.data)
    (hne : (nodeId, id) ≠ (nodeId', id')) :
    ¬(normalize (cfg.bundlePath nodeId id)).2 <+: (normalize (cfg.bundlePath nodeId' id')).2 := by
  rw [normalize_bundlePath _ _ hid, normalize_bundlePath _ _ hid']
  intro h
  have heq := h.eq_of_length (by simp)
  simp only [List.append_cancel_left_eq, List.cons.injEq, and_true] at heq
  exact hne (Prod.ext (Uuid.toString_injective (String.ext heq.1)) (String.ext heq.2))

/-! ### Bundles of badly named containers -/

section

variable {p : String}

/-- Appending to an absolute path keeps it absolute. -/
theorem head?_append_of_absolute (hp : p.data.head? = some '/') (t : String) :
    (p ++ t).data.head? = some '/' := by
  simp [List.head?_append, hp]

/-- Joining anything onto an absolute path keeps it absolute. -/
theorem head?_joinPath (hp : p.data.head? = some '/') (c : String) :
    (joinPath p c).data.head? = some '/' := by
  unfold joinPath
  split_ifs with hc
  · exact hc
  · exact head?_append_of_absolute (head?_append_of_absolute hp _) _
  · exact head?_append_of_absolute hp _

/-- An absolute container id is its own bundle path: both joins are replaced by it. -/
theorem bundlePath_of_absolute (cfg : YoukiCliConfig) (nodeId : NodeId)
    (hp : p.data.head? = some '/') : cfg.bundlePath nodeId p = p := by
  simp only [YoukiCliConfig.bundlePath, joinPath_of_absolute _ hp]

end

/-- **An unchecked name moves the bundle**: with the default configuration, a container
named `/tmp/x` gets its bundle at `/tmp/x-<uuid>`, outside `bundle_root/<node_id>`; and a
container named after the bundle of a container `web` followed by `/sub` gets its bundle
strictly inside that of `web`, which `remove_container` of `web` deletes. -/
theorem unsanitized_name_bundlePaths (nodeId u u' : Uuid) :
    ¬IsStrictDescendant (YoukiCliConfig.default.bundlePath nodeId (formatContainerId "/tmp/x" u))
        (joinPath YoukiCliConfig.default.bundleRoot nodeId.toString) ∧
      IsStrictDescendant
        (YoukiCliConfig.default.bundlePath nodeId (formatContainerId
          (YoukiCliConfig.default.bundlePath nodeId (formatContainerId "web" u) ++ "/sub") u'))
        (YoukiCliConfig.default.bundlePath nodeId (formatContainerId "web" u)) := by
  constructor
  · have hx : formatContainerId "/tmp/x" u = "/tmp" ++ "/" ++ formatContainerId "x" u := by
      simp only [formatContainerId, String.append_assoc]; rfl
    have htmp : normalize "/tmp" = (true, ["tmp".data]) := by decide
    have hroot : normalize YoukiCliConfig.default.bundleRoot =
        (true, ["var".data, "lib".data, "orchestrator".data, "bundles".data]) := by decide
    rw [hx, bundlePath_of_absolute _ _ (head?_append_of_absolute (by decide) _), IsStrictDescendant,
      normalize_append_plain (by decide) (isPlainPart_formatContainerId (by decide) u),
      normalize_joinPath_plain _ nodeId.isPlainPart_toString, htmp, hroot]
    rintro ⟨-, hpre, -⟩
    simpa using hpre.length_le
  · set web := YoukiCliConfig.default.bundlePath nodeId (formatContainerId "web" u)
    have hweb : web.data.head? = some '/' := head?_joinPath (head?_joinPath (by decide) _) _
    have hx : formatContainerId (web ++ "/sub") u' = web ++ "/" ++ formatContainerId "sub" u' := by
      simp only [formatContainerId, String.append_assoc]; rfl
    rw [hx, bundlePath_of_absolute _ _
      (head?_append_of_absolute (head?_append_of_absolute hweb _) _)]
    exact isStrictDescendant_of_normalize
      (normalize_append_plain (by simp [← List.head?_eq_none_iff, hweb])
        (isPlainPart_formatContainerId (by decide) u'))

end YoukiRuntime
