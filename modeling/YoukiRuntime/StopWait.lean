import YoukiRuntime.Lifecycle

/-!
# The wait of `stop_container`

`stop_container` sends `SIGTERM`, sets its deadline `stop_timeout` after that, and polls
`youki state` until the container is reported stopped or gone, a query fails, or the
deadline has passed, in which case it sends `SIGKILL`. Between two queries it sleeps
100 ms, and a sleep never ends early.

`WaitLog` describes every wait once: rounds that found the container still up before the
deadline, each followed by a sleep, then one final round. `pollState_waitLog` shows the
loop only produces such logs, for every answer youki gives and every duration of its
commands; the facts of `stop_wait_bounded` then follow from the shape alone.

## Main results

* `stop_wait_bounded`: at most `⌈stop_timeout / 100 ms⌉ + 1` state queries, at most one
  `SIGKILL`, sent only after a query past the deadline found the container not stopped,
  and nothing at all after a query that found it stopped or gone.
* `stop_returns_within`: with every youki command bounded by `command_timeout` and every
  sleep exactly 100 ms, `stop_container` returns within
  `stop_timeout + 100 ms + 3 * command_timeout`.
* `stop_not_within_constant`: no bound `stop_timeout + 100 ms + ε` with `ε` independent of
  `command_timeout` holds.
-/

namespace YoukiRuntime

/-- The answer to a final query: the container is stopped, or the query failed. -/
def EndsWait (answer : Except YoukiCliError YoukiState) : Prop :=
  (∃ st, answer = .ok st ∧ st.status = "stopped") ∨ ∃ e, answer = .error e

/-- The log of a wait whose first query starts at `now`. -/
inductive WaitLog (deadline : Nat) : Nat → List StopStep → Prop
  | done {now clock : Nat} {answer : Except YoukiCliError YoukiState} :
      now ≤ clock → EndsWait answer → WaitLog deadline now [.state answer clock]
  | kill {now clock : Nat} {st : YoukiState} :
      now ≤ clock → st.status ≠ "stopped" → deadline ≤ clock →
      WaitLog deadline now [.state (.ok st) clock, .kill "SIGKILL"]
  | sleep {now clock : Nat} {st : YoukiState} {rest : List StopStep} :
      now ≤ clock → st.status ≠ "stopped" → clock < deadline →
      WaitLog deadline (clock + pollInterval) rest →
      WaitLog deadline now (.state (.ok st) clock :: .sleep :: rest)

/-- Whether a step is a `youki state` query. -/
def StopStep.isState : StopStep → Bool
  | .state _ _ => true
  | _ => false

/-- Whether a step is `youki kill` with the given signal. -/
def StopStep.isKill (signal : String) : StopStep → Bool
  | .kill s => s == signal
  | _ => false

/-- A wait log for a first query at `now` is one for any earlier start. -/
theorem WaitLog.mono {deadline now now' : Nat} {log : List StopStep}
    (h : WaitLog deadline now log) (hle : now' ≤ now) : WaitLog deadline now' log := by
  cases h with
  | done h₁ h₂ => exact .done (by omega) h₂
  | kill h₁ h₂ h₃ => exact .kill (by omega) h₂ h₃
  | sleep h₁ h₂ h₃ h₄ => exact .sleep (by omega) h₂ h₃ h₄

/-! ### One round of the loop -/

section

variable {decode : String → Except String YoukiState} {id : ContainerId} {deadline : Nat}
  {env : StopEnv} {i now : Nat} {st : YoukiState}

/-- A query that finds the container stopped ends the wait, stopped. -/
theorem pollState_of_stopped (h : youkiState decode id (env.state i) = .ok st)
    (hs : st.status = "stopped") :
    pollState decode id deadline env i now =
      ⟨.stopped, [.state (.ok st) (now + env.stateTime i)], now + env.stateTime i⟩ := by
  rw [pollState.eq_1]
  simp only [h, hs, if_true]

/-- A query at or past the deadline that finds the container running sends `SIGKILL` and
ends the wait. -/
theorem pollState_of_deadline (h : youkiState decode id (env.state i) = .ok st)
    (hs : st.status ≠ "stopped") (hd : deadline ≤ now + env.stateTime i) :
    pollState decode id deadline env i now =
      ⟨.killed, [.state (.ok st) (now + env.stateTime i), .kill "SIGKILL"],
        now + env.stateTime i + env.sigkillTime⟩ := by
  rw [pollState.eq_1]
  simp only [h, hs, if_false, if_pos hd]

/-- A query before the deadline that finds the container running sleeps and polls again. -/
theorem pollState_of_running (h : youkiState decode id (env.state i) = .ok st)
    (hs : st.status ≠ "stopped") (hd : ¬deadline ≤ now + env.stateTime i) :
    pollState decode id deadline env i now =
      let rest := pollState decode id deadline env (i + 1)
        (now + env.stateTime i + pollInterval + env.sleepExtra i)
      ⟨rest.exit, .state (.ok st) (now + env.stateTime i) :: .sleep :: rest.log,
        rest.clock⟩ := by
  rw [pollState.eq_1]
  simp only [h, hs, if_false, if_neg hd]

/-- A failed query ends the wait with that query, however it failed. -/
theorem pollState_of_error {e : YoukiCliError} (h : youkiState decode id (env.state i) = .error e) :
    (pollState decode id deadline env i now).log = [.state (.error e) (now + env.stateTime i)] ∧
      (pollState decode id deadline env i now).clock = now + env.stateTime i := by
  rw [pollState.eq_1, h]
  cases e <;> exact ⟨rfl, rfl⟩

end

/-! ### The shape of every wait -/

section

variable (decode : String → Except String YoukiState) (id : ContainerId) (deadline : Nat)
  (env : StopEnv)

/-- **Every wait has the shape of `WaitLog`**, whatever youki answers and however long its
commands and the sleeps take. -/
theorem pollState_waitLog (i now : Nat) :
    WaitLog deadline now (pollState decode id deadline env i now).log := by
  induction i, now using pollState.induct decode id deadline env with
  | case1 i now _ st hst hstop =>
    rw [pollState_of_stopped hst hstop]
    exact .done (by omega) (.inl ⟨st, rfl, hstop⟩)
  | case2 i now _ _ st hst hstop hdl =>
    rw [pollState_of_deadline hst hstop hdl]
    exact .kill (by omega) hstop hdl
  | case3 i now _ _ st hst hstop hdl ih =>
    rw [pollState_of_running hst hstop hdl]
    exact .sleep (by omega) hstop (by omega) (ih.mono (by omega))
  | case4 i now _ x hst =>
    rw [(pollState_of_error hst).1]
    exact .done (by omega) (.inr ⟨_, rfl⟩)
  | case5 i now _ e _ hst =>
    rw [(pollState_of_error hst).1]
    exact .done (by omega) (.inr ⟨_, rfl⟩)

/-- With every youki command taking at most `C` and every sleep exactly 100 ms, a wait whose
first query starts at most 100 ms after the deadline ends at most `2 * C` later: a round that
sleeps started its query before the deadline, and the last round makes at most two
commands. -/
theorem pollState_clock_le {C : Nat} (hstate : ∀ i, env.stateTime i ≤ C)
    (hkill : env.sigkillTime ≤ C) (hsleep : ∀ i, env.sleepExtra i = 0) (i now : Nat)
    (hnow : now ≤ deadline + pollInterval) :
    (pollState decode id deadline env i now).clock ≤ deadline + pollInterval + 2 * C := by
  induction i, now using pollState.induct decode id deadline env with
  | case1 i now _ st hst hstop =>
    rw [pollState_of_stopped hst hstop]
    have := hstate i
    dsimp only
    omega
  | case2 i now _ _ st hst hstop hdl =>
    rw [pollState_of_deadline hst hstop hdl]
    have := hstate i
    dsimp only
    omega
  | case3 i now _ _ st hst hstop hdl ih =>
    rw [pollState_of_running hst hstop hdl]
    exact ih (by rw [hsleep i]; omega)
  | case4 i now _ x hst =>
    rw [(pollState_of_error hst).2]
    have := hstate i
    omega
  | case5 i now _ e _ hst =>
    rw [(pollState_of_error hst).2]
    have := hstate i
    omega

end

/-! ### What the shape of a wait implies -/

section

variable {deadline now : Nat} {log : List StopStep}

/-- A wait makes at most `⌈(deadline - now) / 100 ms⌉ + 1` queries. -/
theorem WaitLog.queries_le (h : WaitLog deadline now log) :
    (log.filter StopStep.isState).length ≤
      (deadline - now + pollInterval - 1) / pollInterval + 1 := by
  induction h with
  | done => simp [StopStep.isState]
  | kill => simp [StopStep.isState]
  | sleep h₁ _ h₃ _ ih =>
    simp only [List.filter_cons, StopStep.isState, if_true, Bool.false_eq_true, if_false,
      List.length_cons, pollInterval] at ih ⊢
    omega

/-- A wait sends `SIGKILL` at most once. -/
theorem WaitLog.countP_sigkill (h : WaitLog deadline now log) :
    log.countP (StopStep.isKill "SIGKILL") ≤ 1 := by
  induction h with
  | done => simp [StopStep.isKill]
  | kill => simp [StopStep.isKill]
  | sleep _ _ _ _ ih => simpa [StopStep.isKill] using ih

/-- A `SIGKILL` is the last step, right after a query at or past the deadline that found the
container not stopped. -/
theorem WaitLog.sigkill_last (h : WaitLog deadline now log) (hk : .kill "SIGKILL" ∈ log) :
    ∃ pre st clock, log = pre ++ [.state (.ok st) clock, .kill "SIGKILL"] ∧
      st.status ≠ "stopped" ∧ deadline ≤ clock := by
  induction h with
  | done => simp at hk
  | @kill _ clock st _ h₂ h₃ => exact ⟨[], st, clock, rfl, h₂, h₃⟩
  | @sleep _ clock st rest _ _ _ _ ih =>
    obtain ⟨pre, st', clock', rfl, h₂, h₃⟩ := ih (by simpa using hk)
    exact ⟨.state (.ok st) clock :: .sleep :: pre, st', clock', rfl, h₂, h₃⟩

/-- Nothing follows a query whose answer ends the wait. -/
theorem WaitLog.ends_last (h : WaitLog deadline now log) {pre post : List StopStep}
    {answer : Except YoukiCliError YoukiState} {clock : Nat}
    (he : log = pre ++ .state answer clock :: post) (hend : EndsWait answer) : post = [] := by
  induction h generalizing pre with
  | done =>
    rcases pre with _ | ⟨x, pre⟩
    · simp only [List.nil_append, List.cons.injEq] at he
      exact he.2.symm
    · simp at he
  | kill _ h₂ =>
    rcases pre with _ | ⟨x, _ | ⟨y, pre⟩⟩
    · simp only [List.nil_append, List.cons.injEq, StopStep.state.injEq] at he
      obtain ⟨⟨rfl, -⟩, -⟩ := he
      rcases hend with ⟨st', h', h''⟩ | ⟨e, h'⟩ <;> cases h'
      exact absurd h'' h₂
    · simp at he
    · simp at he
  | sleep _ h₂ _ _ ih =>
    rcases pre with _ | ⟨x, _ | ⟨y, pre⟩⟩
    · simp only [List.nil_append, List.cons.injEq, StopStep.state.injEq] at he
      obtain ⟨⟨rfl, -⟩, -⟩ := he
      rcases hend with ⟨st', h', h''⟩ | ⟨e, h'⟩ <;> cases h'
      exact absurd h'' h₂
    · simp at he
    · simp only [List.cons_append, List.cons.injEq] at he
      exact ih he.2.2

end

/-! ### `stop_container` -/

/-- **The wait of `stop_container` is bounded**: for every sequence of answers and every
duration of the youki commands and of the sleeps, it makes at most
`⌈stop_timeout / 100 ms⌉ + 1` state queries and sends `SIGKILL` at most once, as its last
step, right after a query at or past the deadline found the container not stopped; a query
that finds the container stopped, or fails (not found among the failures), is the last
step. -/
theorem stop_wait_bounded (cfg : YoukiCliConfig) (decode : String → Except String YoukiState)
    (id : ContainerId) (env : StopEnv) (calledAt : Nat) :
    let log := (stopAndWait cfg decode id env calledAt).log
    (log.filter StopStep.isState).length ≤
        (cfg.stopTimeout + pollInterval - 1) / pollInterval + 1 ∧
      log.countP (StopStep.isKill "SIGKILL") ≤ 1 ∧
      (.kill "SIGKILL" ∈ log → ∃ pre st clock,
        log = pre ++ [.state (.ok st) clock, .kill "SIGKILL"] ∧ st.status ≠ "stopped" ∧
          calledAt + env.sigtermTime + cfg.stopTimeout ≤ clock) ∧
      ∀ pre answer clock post, log = pre ++ .state answer clock :: post → EndsWait answer →
        post = [] := by
  have hw := pollState_waitLog decode id (calledAt + env.sigtermTime + cfg.stopTimeout) env 0
    (calledAt + env.sigtermTime)
  refine ⟨?_, ?_, ?_, ?_⟩
  · simpa [stopAndWait, StopStep.isState] using hw.queries_le
  · simpa [stopAndWait, StopStep.isKill] using hw.countP_sigkill
  · intro hk
    obtain ⟨pre, st, clock, hlog, hst, hdl⟩ := hw.sigkill_last (by simpa [stopAndWait] using hk)
    exact ⟨.kill "SIGTERM" :: pre, st, clock, by simp [stopAndWait, hlog], hst, hdl⟩
  · intro pre answer clock post hlog hend
    rcases pre with _ | ⟨x, pre⟩
    · simp [stopAndWait] at hlog
    · simp only [stopAndWait, List.cons_append, List.cons.injEq] at hlog
      exact hw.ends_last hlog.2 hend

/-- **`stop_container` returns within `stop_timeout + 100 ms + 3 * command_timeout`** of its
call when every youki command ends within `command_timeout`, as `exec_youki` enforces, and
every sleep lasts 100 ms: one command before the deadline is set and two after the last
round that could sleep. -/
theorem stop_returns_within (cfg : YoukiCliConfig) (decode : String → Except String YoukiState)
    (id : ContainerId) (env : StopEnv) (calledAt : Nat)
    (hterm : env.sigtermTime ≤ cfg.commandTimeout)
    (hstate : ∀ i, env.stateTime i ≤ cfg.commandTimeout)
    (hkill : env.sigkillTime ≤ cfg.commandTimeout) (hsleep : ∀ i, env.sleepExtra i = 0) :
    (stopAndWait cfg decode id env calledAt).clock ≤
      calledAt + cfg.stopTimeout + pollInterval + 3 * cfg.commandTimeout := by
  have := pollState_clock_le decode id (calledAt + env.sigtermTime + cfg.stopTimeout) env hstate
    hkill hsleep 0 (calledAt + env.sigtermTime) (by omega)
  simp only [stopAndWait]
  omega

/-- A container reported `running` forever, every youki command taking the whole
`command_timeout`. -/
def runningForever (cfg : YoukiCliConfig) : StopEnv where
  sigtermTime := cfg.commandTimeout
  state _ := .finished ⟨true, "running", ""⟩
  stateTime _ := cfg.commandTimeout
  sleepExtra _ := 0
  sigkillTime := cfg.commandTimeout

/-- Stopping a container that never stops, every command taking the whole `command_timeout`,
still returns within the bound. -/
theorem runningForever_returns_within :
    (stopAndWait .default (fun _ => .ok ⟨"running"⟩) "web-0" (runningForever .default)
        0).clock ≤
      0 + YoukiCliConfig.default.stopTimeout + pollInterval +
        3 * YoukiCliConfig.default.commandTimeout :=
  stop_returns_within _ _ _ _ _ le_rfl (fun _ => le_rfl) le_rfl (fun _ => rfl)

/-- **No bound independent of `command_timeout` holds**: a `SIGTERM` that takes the whole
`command_timeout` delays the deadline itself, so for every `ε` some call with a long enough
`command_timeout` returns later than `stop_timeout + 100 ms + ε`. -/
theorem stop_not_within_constant :
    ¬∃ ε, ∀ (cfg : YoukiCliConfig) (decode : String → Except String YoukiState)
      (id : ContainerId) (env : StopEnv) (calledAt : Nat),
      env.sigtermTime ≤ cfg.commandTimeout → (∀ i, env.stateTime i ≤ cfg.commandTimeout) →
      env.sigkillTime ≤ cfg.commandTimeout → (∀ i, env.sleepExtra i = 0) →
      (stopAndWait cfg decode id env calledAt).clock ≤
        calledAt + cfg.stopTimeout + pollInterval + ε := by
  rintro ⟨ε, h⟩
  let cfg : YoukiCliConfig :=
    { YoukiCliConfig.default with commandTimeout := 10 * second + pollInterval + ε + 1 }
  let env : StopEnv :=
    { sigtermTime := cfg.commandTimeout, state := fun _ => .finished ⟨false, "", "not found"⟩,
      stateTime := fun _ => 0, sleepExtra := fun _ => 0, sigkillTime := 0 }
  have hgone : ReportsGone (env.state 0) := ⟨_, rfl, rfl, .inr (by decide)⟩
  have hclock :
      (stopAndWait cfg (fun _ => .error "") "c" env 0).clock = 0 + cfg.commandTimeout + 0 :=
    (pollState_of_error (youkiState_of_reportsGone _ hgone "c")).2
  have := h cfg (fun _ => .error "") "c" env 0 le_rfl (fun _ => Nat.zero_le _) (Nat.zero_le _)
    (fun _ => rfl)
  rw [hclock] at this
  simp only [cfg, YoukiCliConfig.default] at this
  omega

end YoukiRuntime
