import YoukiRuntime.Json
import YoukiRuntime.Text
import YoukiRuntime.Youki

/-!
# The `logs` command

`orch logs <workload>` takes a workload by name or by identifier. `find_workload_id` first
asks `Uuid::parse_str`: a reference it accepts, in any of its forms, is taken as the
identifier as it stands, without a request. Any other reference is looked up in the listing
of `/api/v1/workloads`, among the workloads whose name is the reference or whose identifier
starts with it: none is `WorkloadNotFound`, one gives its identifier, more are ambiguous.

`execute` then lists the workload's instances, keeps those whose identifier starts with
`--instance`, and shows each, cutting identifiers to their first 8 bytes and container
identifiers to their first 12 with `&s[..n]`, which panics when the cut is past the end or
inside a character.

`ApiClient` and `CliError` are not among the sources. The answer of the server to a path is
a parameter; `get` reads the body of an answer with the derived `Deserialize` of its type.
`CliError` has the two constructors `find_workload_id` calls, and the errors of a failed
request and of a body that does not decode, which `?` passes on. The text `execute` prints
is left out: its outcome says which of its ends it reached and with which instances.
`findWorkloadId_eq_ok` says once exactly when a reference resolves, and to what.

## Main results

* `printed_id_resolves_to_itself`: `parse_str` reads an identifier as the API prints it back
  to the same UUID, so such a reference resolves to itself, with no request and whether or
  not a workload has that identifier.
* `displayCutsOk_of_runtime_ids`: the cuts never panic on the identifiers the runtime makes,
  UUIDs and the container identifiers of `create_container` for ASCII names; and there is a
  name that makes the 12-byte cut of its container identifiers panic for every UUID.
-/

namespace YoukiRuntime

namespace LogsCommand

/-- `WorkloadResponse` of `logs.rs`: the fields of a listed workload. -/
structure WorkloadResponse where
  id : String
  name : String
  deriving DecidableEq

/-- `InstanceResponse` of `logs.rs`. -/
structure InstanceResponse where
  id : String
  nodeId : String
  status : String
  containerIds : List String
  deriving DecidableEq

open Json in
/-- The derived `Deserialize` of `WorkloadResponse`. -/
def WorkloadResponse.fromJson (j : Json) : Except DecodeError WorkloadResponse := do
  let e ← objectEntries "struct WorkloadResponse" j
  let id ← required decodeString e "id"
  let name ← required decodeString e "name"
  pure ⟨id, name⟩

open Json in
/-- The derived `Deserialize` of `InstanceResponse`. -/
def InstanceResponse.fromJson (j : Json) : Except DecodeError InstanceResponse := do
  let e ← objectEntries "struct InstanceResponse" j
  let id ← required decodeString e "id"
  let nodeId ← required decodeString e "node_id"
  let status ← required decodeString e "status"
  let containerIds ← required (decodeVec decodeString) e "container_ids"
  pure ⟨id, nodeId, status, containerIds⟩

/-- `LogsArgs`, by the fields `execute` reads; `instanceFilter` is the field `instance`,
`--instance`. `lines` and `timestamps` are only printed. -/
structure LogsArgs where
  workload : String
  follow : Bool
  instanceFilter : Option String
  container : Option String

end LogsCommand

open LogsCommand

/-- `CliError`, by the constructors the commands produce or pass on. -/
inductive CliError
  /-- `CliError::WorkloadNotFound`. -/
  | workloadNotFound (reference : String)
  /-- `CliError::invalid_argument`. -/
  | invalidArgument (message : String)
  /-- The error of a request that fails. -/
  | request (message : String)
  /-- The error of a body that does not decode. -/
  | decode (err : DecodeError)
  deriving DecidableEq

/-- `ApiClient::get`, on the server's answer: the body read by `dec`. -/
def clientGet {α : Type} (answer : Except CliError Json) (dec : Decoder α) :
    Except CliError α :=
  answer >>= fun body => (dec body).mapError .decode

/-- The filter of `find_workload_id`: the name is the reference, or the identifier starts
with it. -/
def refersTo (nameOrId : String) (w : WorkloadResponse) : Bool :=
  w.name == nameOrId || strStartsWith w.id nameOrId

/-- The message of an ambiguous reference. -/
def ambiguousMessage (nameOrId : String) (count : Nat) : String :=
  "Ambiguous workload reference '" ++ nameOrId ++ "', matches " ++ toString count ++
    " workloads. Use full ID."

/-- `find_workload_id`, with `listing` what `client.get("/api/v1/workloads")` returns. -/
def findWorkloadId (listing : Except CliError (List WorkloadResponse)) (nameOrId : String) :
    Except CliError String :=
  if (Uuid.parseStr nameOrId).isSome then .ok nameOrId
  else do
    let workloads ← listing
    match workloads.filter (refersTo nameOrId) with
    | [] => .error (.workloadNotFound nameOrId)
    | [w] => .ok w.id
    | matching => .error (.invalidArgument (ambiguousMessage nameOrId matching.length))

/-- What a reference resolves to: a reference `parse_str` accepts is its own result;
any other resolves exactly when the listing succeeds and one workload matches it, to that
workload's identifier. -/
theorem findWorkloadId_eq_ok {listing : Except CliError (List WorkloadResponse)}
    {nameOrId id : String} :
    findWorkloadId listing nameOrId = .ok id ↔
      (Uuid.parseStr nameOrId).isSome ∧ id = nameOrId ∨
      (Uuid.parseStr nameOrId).isNone ∧ ∃ workloads w, listing = .ok workloads ∧
        workloads.filter (refersTo nameOrId) = [w] ∧ w.id = id := by
  unfold findWorkloadId
  cases Uuid.parseStr nameOrId with
  | some u => simp [eq_comm]
  | none =>
    cases listing with
    | error e => simp [bind, Except.bind]
    | ok workloads =>
      simp only [Option.isSome_none, Option.isNone_none, Bool.false_eq_true, ↓reduceIte,
        false_and, false_or, true_and, Except.ok.injEq, exists_and_left, exists_eq_left', bind,
        Except.bind]
      rcases hf : workloads.filter (refersTo nameOrId) with _ | ⟨w, _ | ⟨w', rest⟩⟩ <;>
        simp [hf]

/-- **An identifier as printed resolves to itself.** -/
theorem printed_id_resolves_to_itself (u : Uuid)
    (listing : Except CliError (List WorkloadResponse)) :
    Uuid.parseStr u.toString = some u ∧ findWorkloadId listing u.toString = .ok u.toString :=
  ⟨u.parseStr_toString, by simp [findWorkloadId, u.parseStr_toString]⟩

/-! ### `execute` -/

/-- The first `n` bytes of a text in UTF-8, or `none` when they end inside a character or
the text is shorter. -/
def takeBytes : List Char → Nat → Option (List Char)
  | _, 0 => some []
  | [], _ + 1 => none
  | c :: cs, n + 1 =>
    if c.utf8Size ≤ n + 1 then (takeBytes cs (n + 1 - c.utf8Size)).map (c :: ·) else none

/-- `&s[..n]`, `none` where it panics. -/
def sliceTo (s : String) (n : Nat) : Option String :=
  (takeBytes s.data n).map String.mk

/-- The containers of an instance `execute` shows: all when following, and otherwise those
whose identifier contains `--container`, if given. -/
def shownContainers (follow : Bool) (container : Option String) (containerIds : List String) :
    List String :=
  if follow then containerIds
  else containerIds.filter fun c => container.isNone || (container.map (strContains c)).getD false

/-- The cuts of the display loops of `execute` all succeed: the instance identifier to 8
bytes, the node identifier to 8 bytes when following, and each container identifier shown
to 12 bytes. -/
def displayCutsOk (follow : Bool) (container : Option String)
    (instances : List InstanceResponse) : Bool :=
  instances.all fun i =>
    (sliceTo i.id 8).isSome && (!follow || (sliceTo i.nodeId 8).isSome) &&
      (shownContainers follow container i.containerIds).all fun c => (sliceTo c 12).isSome

/-- How `logs::execute` returns `Ok`: with no instances, with none matching `--instance`,
or having shown the instances kept. -/
inductive LogsOutcome
  | noInstances
  | noMatch (filter : String)
  | shown (instances : List InstanceResponse)

/-- The path of a workload's instances. -/
def instancesPath (workloadId : String) : String :=
  "/api/v1/workloads/" ++ workloadId ++ "/instances"

/-- `logs::execute`, with `answer` the server's answer to each path: `none` where it panics.
-/
def logsExecute (args : LogsArgs) (answer : String → Except CliError Json) :
    Option (Except CliError LogsOutcome) :=
  let listing := clientGet (answer "/api/v1/workloads") (Json.decodeVec WorkloadResponse.fromJson)
  match findWorkloadId listing args.workload with
  | .error e => some (.error e)
  | .ok workloadId =>
    match clientGet (answer (instancesPath workloadId))
        (Json.decodeVec InstanceResponse.fromJson) with
    | .error e => some (.error e)
    | .ok instances =>
      if instances.isEmpty then some (.ok .noInstances)
      else
        let instances := match args.instanceFilter with
          | some filter => instances.filter fun i => strStartsWith i.id filter
          | none => instances
        if instances.isEmpty then some (.ok (.noMatch (args.instanceFilter.getD "")))
        else if displayCutsOk args.follow args.container instances then
          some (.ok (.shown instances))
        else none

/-! ### The cuts of the display -/

/-- An ASCII character is one byte. -/
theorem utf8Size_of_lt {c : Char} (h : c.toNat < 128) : c.utf8Size = 1 := by
  have hv : c.val ≤ 127 := UInt32.le_def.2 (BitVec.le_def.2 (Nat.le_of_lt_succ h))
  simp [Char.utf8Size, hv]

/-- On ASCII text a byte is a character: the first `n` bytes are the first `n` characters. -/
theorem takeBytes_of_ascii {cs : List Char} (h : ∀ c ∈ cs, c.toNat < 128) {n : Nat}
    (hn : n ≤ cs.length) : takeBytes cs n = some (cs.take n) := by
  induction cs generalizing n with
  | nil => simp at hn; subst hn; rfl
  | cons c cs ih =>
    cases n with
    | zero => rfl
    | succ n =>
      simp only [List.mem_cons, forall_eq_or_imp] at h
      have hrest := ih h.2 (show n ≤ cs.length by simp at hn; omega)
      simp [takeBytes, utf8Size_of_lt h.1, hrest]

/-- Cutting ASCII text within its length never falls inside a character. -/
theorem sliceTo_isSome_of_ascii {s : String} (h : ∀ c ∈ s.data, c.toNat < 128) {n : Nat}
    (hn : n ≤ s.length) : (sliceTo s n).isSome = true := by
  simp [sliceTo, takeBytes_of_ascii h hn]

/-- The hex digits are ASCII. -/
theorem ascii_digitChar : ∀ n < 16, (Nat.digitChar n).toNat < 128 := by
  decide

/-- A UUID's rendering is ASCII. -/
theorem Uuid.ascii_of_mem_toString {u : Uuid} {c : Char} (h : c ∈ u.toString.data) :
    c.toNat < 128 := by
  by_cases hc : c = '-'
  · subst hc; decide
  · have hf : c ∈ u.toString.data.filter (· != '-') := List.mem_filter.2 ⟨h, by simpa using hc⟩
    simp only [u.filter_toString, hexBytes, List.mem_flatMap, byteHex, List.mem_cons,
      List.not_mem_nil, or_false] at hf
    obtain ⟨b, -, rfl | rfl⟩ := hf
    · exact ascii_digitChar _ (Nat.div_lt_of_lt_mul (UInt8.toNat_lt_size b))
    · exact ascii_digitChar _ (Nat.mod_lt _ (by decide))

/-- The containers shown are containers of the instance. -/
theorem mem_shownContainers {follow : Bool} {container : Option String}
    {containerIds : List String} {c : String}
    (h : c ∈ shownContainers follow container containerIds) : c ∈ containerIds := by
  unfold shownContainers at h
  split_ifs at h
  · exact h
  · exact (List.mem_filter.1 h).1

/-- A UUID's rendering can be cut anywhere within its 36 characters. -/
theorem Uuid.sliceTo_toString (u : Uuid) {n : Nat} (hn : n ≤ 36) :
    (sliceTo u.toString n).isSome = true :=
  sliceTo_isSome_of_ascii (fun _ => Uuid.ascii_of_mem_toString) (u.length_toString ▸ hn)

/-- The identifier `create_container` gives a container with an ASCII name can be cut at
12 bytes. -/
theorem sliceTo_formatContainerId {name : String} (hname : ∀ ch ∈ name.data, ch.toNat < 128)
    (u : Uuid) : (sliceTo (formatContainerId name u) 12).isSome = true := by
  refine sliceTo_isSome_of_ascii (fun ch hch => ?_) ?_
  · simp only [formatContainerId, String.data_append, List.mem_append] at hch
    rcases hch with (hch | hch) | hch
    · exact hname ch hch
    · simp at hch; subst hch; decide
    · exact Uuid.ascii_of_mem_toString hch
  · simp only [formatContainerId, String.length_append, u.length_toString]
    omega

/-- The name `cafés-déjà` puts the twelfth byte of every container identifier made from it
inside `à`. -/
theorem sliceTo_formatContainerId_cafe (u : Uuid) :
    sliceTo (formatContainerId "cafés-déjà" u) 12 = none :=
  rfl

/-- **The display cuts hold on the runtime's identifiers, and only there.** Instances whose
identifiers and node identifiers are UUIDs as the API renders them, and whose containers
have the identifiers `create_container` gives containers with ASCII names, are shown
without a panic, whatever the flags. A name that is not ASCII can put the twelfth byte of
the identifier inside a character, and the cut then panics, whatever the UUID. -/
theorem displayCutsOk_of_runtime_ids :
    (∀ (follow : Bool) (container : Option String) (instances : List InstanceResponse),
      (∀ i ∈ instances, ∃ u v : Uuid, i.id = u.toString ∧ i.nodeId = v.toString) →
      (∀ i ∈ instances, ∀ c ∈ i.containerIds,
        ∃ name u, c = formatContainerId name u ∧ ∀ ch ∈ name.data, ch.toNat < 128) →
      displayCutsOk follow container instances = true) ∧
    ∃ name : String, ∀ u : Uuid, sliceTo (formatContainerId name u) 12 = none := by
  refine ⟨fun follow container instances hids hcontainers => ?_,
    ⟨_, sliceTo_formatContainerId_cafe⟩⟩
  refine List.all_eq_true.2 fun i hi => ?_
  obtain ⟨u, v, hu, hv⟩ := hids i hi
  have hcs : (shownContainers follow container i.containerIds).all
      (fun c => (sliceTo c 12).isSome) = true := List.all_eq_true.2 fun c hc => by
    obtain ⟨name, w, rfl, hname⟩ := hcontainers i hi c (mem_shownContainers hc)
    exact sliceTo_formatContainerId hname w
  simp [hu, hv, Uuid.sliceTo_toString, hcs]

/-- An instance with the identifiers the runtime gives displays without a failed cut. -/
theorem displayCutsOk_of_sample :
    displayCutsOk false none
      [⟨(sampleUuid 1).toString, (sampleUuid 2).toString, "Running",
        [formatContainerId "web" (sampleUuid 3)]⟩] = true :=
  displayCutsOk_of_runtime_ids.1 _ _ _
    (fun _ hi => by simp at hi; subst hi; exact ⟨_, _, rfl, rfl⟩)
    (fun _ hi c hc => by
      simp at hi; subst hi; simp at hc; subst hc; exact ⟨"web", _, rfl, by decide⟩)

end YoukiRuntime
