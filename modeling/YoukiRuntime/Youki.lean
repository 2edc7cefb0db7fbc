import YoukiRuntime.Types
import Mathlib.Data.List.Infix

/-!
# Running youki

Every external command goes through `exec_youki`, which runs the binary under
`tokio::time::timeout(command_timeout, ...)`. Its outcome is the environment's choice: the
process finishes with some exit status and output, outlives the timeout, or cannot be
spawned. The five command wrappers then classify a failed exit by substrings of its
stderr; `youki state` also decodes its stdout with `serde_json`, which the model takes as
a parameter `decode`.

`ReportsGone` is the answer of a runtime that no longer knows the container: the command
ran, failed, and its stderr says `not exist` or `not found`. `youkiState_of_reportsGone`
and `youkiDelete_of_reportsGone` are what `stop_container` and `remove_container` rely on
for their idempotence.

`youki_kill` reads other substrings, `not running` and `no such process`:
`teardown_notFound_disagree` says, over every stderr text, where it parts from
`youki_state` and `youki_delete`.
-/

namespace YoukiRuntime

/-- `std::process::Output`, by what the runtime reads; the byte streams are kept as the
text `String::from_utf8_lossy` makes of them. -/
structure Output where
  success : Bool
  stdout : String
  stderr : String

/-- How one run of the youki binary under `tokio::time::timeout` ends. -/
inductive ExecOutcome
  | finished (output : Output)
  | timedOut
  | spawnFailed (err : String)

/-- `str::contains` with a string pattern. -/
def strContains (s pat : String) : Bool :=
  decide (pat.data <:+: s.data)

/-- `exec_youki`: the process output, `Timeout` with the command line, or `Io`. -/
def execYouki (args : List String) : ExecOutcome → Except YoukiCliError Output
  | .finished output => .ok output
  | .timedOut => .error (.timeout ("youki " ++ " ".intercalate args))
  | .spawnFailed err => .error (.io err)

/-- `youki_create`: `youki create <id> --bundle <path>`. -/
def youkiCreate (id bundlePath : String) (outcome : ExecOutcome) :
    Except YoukiCliError Unit :=
  (execYouki ["create", id, "--bundle", bundlePath] outcome).bind fun output =>
    if !output.success then .error (.commandFailed "create" output.stderr) else .ok ()

/-- `youki_start`: `youki start <id>`. -/
def youkiStart (id : String) (outcome : ExecOutcome) : Except YoukiCliError Unit :=
  (execYouki ["start", id] outcome).bind fun output =>
    if !output.success then .error (.commandFailed "start" output.stderr) else .ok ()

/-- `youki_kill`: `youki kill <id> <signal>`; a process already gone is not an error. -/
def youkiKill (id signal : String) (outcome : ExecOutcome) : Except YoukiCliError Unit :=
  (execYouki ["kill", id, signal] outcome).bind fun output =>
    if !output.success then
      if !strContains output.stderr "not running" &&
          !strContains output.stderr "no such process" then
        .error (.commandFailed ("kill " ++ signal) output.stderr)
      else .ok ()
    else .ok ()

/-- The arguments of `youki_delete`. -/
def deleteArgs (id : String) (force : Bool) : List String :=
  if force then ["delete", "--force", id] else ["delete", id]

/-- `youki_delete`: `youki delete [--force] <id>`; a container already gone is not an error. -/
def youkiDelete (id : String) (force : Bool) (outcome : ExecOutcome) :
    Except YoukiCliError Unit :=
  (execYouki (deleteArgs id force) outcome).bind fun output =>
    if !output.success then
      if !strContains output.stderr "not exist" && !strContains output.stderr "not found" then
        .error (.commandFailed "delete" output.stderr)
      else .ok ()
    else .ok ()

/-- `youki_state`: `youki state <id>`, decoded; a container youki does not know is
`ContainerNotFound`. -/
def youkiState (decode : String → Except String YoukiState) (id : String)
    (outcome : ExecOutcome) : Except YoukiCliError YoukiState :=
  (execYouki ["state", id] outcome).bind fun output =>
    if !output.success then
      if strContains output.stderr "not exist" || strContains output.stderr "not found" then
        .error (.containerNotFound id)
      else .error (.commandFailed "state" output.stderr)
    else (decode output.stdout).mapError .invalidState

/-- youki ran, failed, and said on stderr that the container does not exist. -/
def ReportsGone (outcome : ExecOutcome) : Prop :=
  ∃ output, outcome = .finished output ∧ output.success = false ∧
    (strContains output.stderr "not exist" = true ∨ strContains output.stderr "not found" = true)

/-! ### What each command reads in a failed run -/

section

variable {output : Output} (hs : output.success = false) (id : String)
include hs

/-- A failed `youki state` is read as not-found exactly when stderr says `not exist` or `not
found`. -/
theorem youkiState_eq_notFound_iff (decode : String → Except String YoukiState) :
    youkiState decode id (.finished output) = .error (.containerNotFound id) ↔
      strContains output.stderr "not exist" ∨ strContains output.stderr "not found" := by
  cases h₁ : strContains output.stderr "not exist" <;>
    cases h₂ : strContains output.stderr "not found" <;>
    simp [youkiState, execYouki, Except.bind, hs, h₁, h₂]

/-- A failed `youki delete` is read as success exactly when stderr says `not exist` or `not
found`. -/
theorem youkiDelete_eq_ok_iff (force : Bool) :
    youkiDelete id force (.finished output) = .ok () ↔
      strContains output.stderr "not exist" ∨ strContains output.stderr "not found" := by
  cases h₁ : strContains output.stderr "not exist" <;>
    cases h₂ : strContains output.stderr "not found" <;>
    simp [youkiDelete, execYouki, Except.bind, hs, h₁, h₂]

/-- A failed `youki kill` is read as success exactly when stderr says `not running` or `no
such process`. -/
theorem youkiKill_eq_ok_iff (signal : String) :
    youkiKill id signal (.finished output) = .ok () ↔
      strContains output.stderr "not running" ∨ strContains output.stderr "no such process" := by
  cases h₁ : strContains output.stderr "not running" <;>
    cases h₂ : strContains output.stderr "no such process" <;>
    simp [youkiKill, execYouki, Except.bind, hs, h₁, h₂]

end

/-- `youki state` reads a gone container as not-found. -/
theorem youkiState_of_reportsGone (decode : String → Except String YoukiState)
    {outcome : ExecOutcome} (h : ReportsGone outcome) (id : String) :
    youkiState decode id outcome = .error (.containerNotFound id) := by
  obtain ⟨output, rfl, hs, hg⟩ := h
  exact (youkiState_eq_notFound_iff hs id decode).2 hg

/-- `youki delete` reads a gone container as success, with or without `--force`. -/
theorem youkiDelete_of_reportsGone {outcome : ExecOutcome} (h : ReportsGone outcome)
    (id : String) (force : Bool) : youkiDelete id force outcome = .ok () := by
  obtain ⟨output, rfl, hs, hg⟩ := h
  exact (youkiDelete_eq_ok_iff hs id force).2 hg

/-- **`youki_kill` does not read youki's not-found answer**: on every failed run,
`youki_delete` succeeds, with or without `--force`, exactly on the stderr texts that
`youki_state` reads as `ContainerNotFound`; `youki_kill` succeeds only on texts saying
`not running` or `no such process`. So on `container does not exist`, which `youki_state`
reads as `ContainerNotFound`, `youki_kill` fails for every signal. -/
theorem teardown_notFound_disagree (decode : String → Except String YoukiState) (id : String) :
    (∀ output : Output, output.success = false → ∀ force,
      youkiDelete id force (.finished output) = .ok () ↔
        youkiState decode id (.finished output) = .error (.containerNotFound id)) ∧
    (∀ output : Output, output.success = false → ∀ signal,
      youkiKill id signal (.finished output) = .ok () ↔
        strContains output.stderr "not running" ∨
          strContains output.stderr "no such process") ∧
    ∀ stdout signal,
      youkiState decode id (.finished ⟨false, stdout, "container does not exist"⟩) =
          .error (.containerNotFound id) ∧
        youkiKill id signal (.finished ⟨false, stdout, "container does not exist"⟩) =
          .error (.commandFailed ("kill " ++ signal) "container does not exist") := by
  refine ⟨fun output hs force => ?_, fun output hs signal => youkiKill_eq_ok_iff hs id signal,
    fun stdout signal => ⟨?_, ?_⟩⟩
  · rw [youkiDelete_eq_ok_iff hs, youkiState_eq_notFound_iff hs]
  · exact (youkiState_eq_notFound_iff rfl id decode).2
      (.inl (show strContains "container does not exist" "not exist" by decide))
  · have hrun : strContains "container does not exist" "not running" = false := by decide
    have hproc : strContains "container does not exist" "no such process" = false := by decide
    simp [youkiKill, execYouki, Except.bind, hrun, hproc]

end YoukiRuntime
