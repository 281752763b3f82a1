import Mathlib

/-!
`Vm::Run`, `Vm::VCpuThreadFunc` and `Vm::RequestStop` of vmm/vm.cpp. `Run` sets
`running_`, starts one thread per vCPU and returns `exit_code_` once they have all joined.
Each thread loops while `running_` holds, calls `RunOnce` and acts on the exit action it
returns: `kContinue` and `kHalt` go round again, `kShutdown` calls `RequestStop` and
returns, `kError` stores 1 into `exit_code_`, then calls `RequestStop` and returns.

`running_` and `exit_code_` are atomics (vm.h, which declares them, is not in the tree),
so each test, store and load is one step of the thread that makes it. A thread is at one
of four places of `VCpuThreadFunc`; what `RunOnce` returns is up to the hypervisor, so the
step names it. `RequestStop` is also called from other threads (the ACPI shutdown callback,
the runtime's `stop` command), so it is a step of its own. Cancelling the vCPUs only makes
an in-flight `RunOnce` return sooner, and `exit_count` only feeds the log; both are left
out, as is the console input thread, which `Run` does not join.
-/

namespace Tenbox.Vmm

inductive VCpuExitAction where
  | kContinue
  | kHalt
  | kShutdown
  | kError
  deriving DecidableEq, Repr

-- Where a thread is in `VCpuThreadFunc`: at the `while (running_)` test, past it and in
-- `RunOnce`, between `exit_code_.store(1)` and `RequestStop()`, or returned.
inductive Pc where
  | loop
  | runOnce
  | stopping
  | exited
  deriving DecidableEq, Repr

structure VmState (cpuCount : Nat) where
  running : Bool
  exitCode : Int
  pc : Fin cpuCount → Pc

inductive VmStep (cpuCount : Nat) where
  | test (vcpu : Fin cpuCount)
  | runOnce (vcpu : Fin cpuCount) (action : VCpuExitAction)
  | stop (vcpu : Fin cpuCount)
  | requestStop
  deriving DecidableEq

variable {cpuCount : Nat}

namespace VmState

def setPc (state : VmState cpuCount) (vcpu : Fin cpuCount) (pc : Pc) : VmState cpuCount :=
  { state with pc := Function.update state.pc vcpu pc }

-- `RequestStop` as far as the threads see it: `running_ = false`.
def requestStop (state : VmState cpuCount) : VmState cpuCount := { state with running := false }

-- `running_ = true` and one thread per vCPU at the top of its loop; `exitCode` is what
-- `exit_code_` held before.
def startRun (exitCode : Int) : VmState cpuCount := ⟨true, exitCode, fun _ => .loop⟩

-- One step of the thread a step names, or `none` if that thread is elsewhere.
def step (state : VmState cpuCount) : VmStep cpuCount → Option (VmState cpuCount)
  | .test vcpu =>
    if state.pc vcpu = .loop then some (state.setPc vcpu (if state.running then .runOnce else .exited))
    else none
  | .runOnce vcpu action =>
    if state.pc vcpu = .runOnce then
      some (match action with
        | .kContinue | .kHalt => state.setPc vcpu .loop
        | .kShutdown => state.requestStop.setPc vcpu .exited
        | .kError => { state with exitCode := 1 }.setPc vcpu .stopping)
    else none
  | .stop vcpu => if state.pc vcpu = .stopping then some (state.requestStop.setPc vcpu .exited) else none
  | .requestStop => some state.requestStop

def run (state : VmState cpuCount) : List (VmStep cpuCount) → Option (VmState cpuCount)
  | [] => some state
  | step :: rest => (state.step step).bind (·.run rest)

-- `Run`'s joins have returned.
def Joined (state : VmState cpuCount) : Prop := ∀ vcpu, state.pc vcpu = .exited

instance (state : VmState cpuCount) : Decidable state.Joined := inferInstanceAs (Decidable (∀ _, _))

@[simp] theorem running_setPc (state : VmState cpuCount) (vcpu : Fin cpuCount) (pc : Pc) :
    (state.setPc vcpu pc).running = state.running := rfl

@[simp] theorem exitCode_setPc (state : VmState cpuCount) (vcpu : Fin cpuCount) (pc : Pc) :
    (state.setPc vcpu pc).exitCode = state.exitCode := rfl

@[simp] theorem pc_setPc (state : VmState cpuCount) (vcpu other : Fin cpuCount) (pc : Pc) :
    (state.setPc vcpu pc).pc other = if other = vcpu then pc else state.pc other :=
  Function.update_apply _ _ _ _

@[simp] theorem running_requestStop (state : VmState cpuCount) : state.requestStop.running = false := rfl

@[simp] theorem exitCode_requestStop (state : VmState cpuCount) : state.requestStop.exitCode = state.exitCode := rfl

@[simp] theorem pc_requestStop (state : VmState cpuCount) : state.requestStop.pc = state.pc := rfl

end VmState

namespace VmStep

def thread : VmStep cpuCount → Option (Fin cpuCount)
  | .test vcpu | .runOnce vcpu _ | .stop vcpu => some vcpu
  | .requestStop => none

def isError : VmStep cpuCount → Bool
  | .runOnce _ .kError => true
  | _ => false

def callsRunOnce (vcpu : Fin cpuCount) : VmStep cpuCount → Bool
  | .runOnce other _ => other = vcpu
  | _ => false

end VmStep

-- The most steps a thread can still take once `running_` is false.
def Pc.stepsLeft : Pc → Nat
  | .loop => 1
  | .runOnce => 2
  | .stopping => 1
  | .exited => 0

theorem Pc.stepsLeft_le_two (pc : Pc) : pc.stepsLeft ≤ 2 := by
  cases pc <;> decide

open VmState

section Steps
variable {state next : VmState cpuCount} {step : VmStep cpuCount}

-- What a step can do, guards included.
theorem step_eq_some (stepped : state.step step = some next) :
    (∃ vcpu, step = .test vcpu ∧ state.pc vcpu = .loop ∧
        next = state.setPc vcpu (if state.running then .runOnce else .exited)) ∨
    (∃ vcpu, (step = .runOnce vcpu .kContinue ∨ step = .runOnce vcpu .kHalt) ∧ state.pc vcpu = .runOnce ∧
        next = state.setPc vcpu .loop) ∨
    (∃ vcpu, step = .runOnce vcpu .kShutdown ∧ state.pc vcpu = .runOnce ∧
        next = state.requestStop.setPc vcpu .exited) ∨
    (∃ vcpu, step = .runOnce vcpu .kError ∧ state.pc vcpu = .runOnce ∧
        next = { state with exitCode := 1 }.setPc vcpu .stopping) ∨
    (∃ vcpu, step = .stop vcpu ∧ state.pc vcpu = .stopping ∧ next = state.requestStop.setPc vcpu .exited) ∨
    (step = .requestStop ∧ next = state.requestStop) := by
  cases step with
  | test vcpu =>
    simp only [VmState.step, Option.ite_none_right_eq_some, Option.some.injEq] at stepped
    exact .inl ⟨vcpu, rfl, stepped.1, stepped.2.symm⟩
  | runOnce vcpu action =>
    simp only [VmState.step, Option.ite_none_right_eq_some, Option.some.injEq] at stepped
    obtain ⟨at_run, rfl⟩ := stepped
    cases action
    · exact .inr (.inl ⟨vcpu, .inl rfl, at_run, rfl⟩)
    · exact .inr (.inl ⟨vcpu, .inr rfl, at_run, rfl⟩)
    · exact .inr (.inr (.inl ⟨vcpu, rfl, at_run, rfl⟩))
    · exact .inr (.inr (.inr (.inl ⟨vcpu, rfl, at_run, rfl⟩)))
  | stop vcpu =>
    simp only [VmState.step, Option.ite_none_right_eq_some, Option.some.injEq] at stepped
    exact .inr (.inr (.inr (.inr (.inl ⟨vcpu, rfl, stepped.1, stepped.2.symm⟩))))
  | requestStop => exact .inr (.inr (.inr (.inr (.inr ⟨rfl, (Option.some.inj stepped).symm⟩))))

theorem exitCode_step (stepped : state.step step = some next) :
    next.exitCode = if step.isError then 1 else state.exitCode := by
  rcases step_eq_some stepped with ⟨_, rfl, -, rfl⟩ | ⟨_, rfl | rfl, -, rfl⟩ | ⟨_, rfl, -, rfl⟩ |
    ⟨_, rfl, -, rfl⟩ | ⟨_, rfl, -, rfl⟩ | ⟨rfl, rfl⟩ <;> rfl

theorem running_step (stopped : state.running = false) (stepped : state.step step = some next) :
    next.running = false := by
  rcases step_eq_some stepped with ⟨_, rfl, -, rfl⟩ | ⟨_, rfl | rfl, -, rfl⟩ | ⟨_, rfl, -, rfl⟩ |
    ⟨_, rfl, -, rfl⟩ | ⟨_, rfl, -, rfl⟩ | ⟨rfl, rfl⟩ <;> simp [stopped]

-- Once `running_` is false, each step of a thread uses up one of the steps it has left,
-- and a `RunOnce` call can only be its first.
theorem stepsLeft_step (stopped : state.running = false) (stepped : state.step step = some next)
    (vcpu : Fin cpuCount) :
    (if step.thread = some vcpu then 1 else 0) + (next.pc vcpu).stepsLeft ≤ (state.pc vcpu).stepsLeft := by
  rcases step_eq_some stepped with ⟨other, rfl, at_pc, rfl⟩ | ⟨other, rfl | rfl, at_pc, rfl⟩ |
    ⟨other, rfl, at_pc, rfl⟩ | ⟨other, rfl, at_pc, rfl⟩ | ⟨other, rfl, at_pc, rfl⟩ | ⟨rfl, rfl⟩
  iterate 6
    by_cases same : vcpu = other
    · subst same; simp [VmStep.thread, Pc.stepsLeft, stopped, at_pc]
    · simp [VmStep.thread, same, Ne.symm same]
  simp [VmStep.thread]

theorem runOnce_step (stopped : state.running = false) (stepped : state.step step = some next)
    (vcpu : Fin cpuCount) :
    (if step.callsRunOnce vcpu then 1 else 0) + (if next.pc vcpu = .runOnce then 1 else 0) ≤
      if state.pc vcpu = .runOnce then 1 else 0 := by
  rcases step_eq_some stepped with ⟨other, rfl, at_pc, rfl⟩ | ⟨other, rfl | rfl, at_pc, rfl⟩ |
    ⟨other, rfl, at_pc, rfl⟩ | ⟨other, rfl, at_pc, rfl⟩ | ⟨other, rfl, at_pc, rfl⟩ | ⟨rfl, rfl⟩
  iterate 6
    by_cases same : vcpu = other
    · subst same; simp [VmStep.callsRunOnce, stopped, at_pc]
    · simp [VmStep.callsRunOnce, same, Ne.symm same]
  simp [VmStep.callsRunOnce]

end Steps

section Runs

theorem run_preserves (P : VmState cpuCount → Prop)
    (preserved : ∀ {state next : VmState cpuCount} {step}, P state → state.step step = some next → P next) :
    ∀ {state final : VmState cpuCount} (steps : List (VmStep cpuCount)), P state → state.run steps = some final → P final
  | _, _, [], holds, ran => Option.some.inj ran ▸ holds
  | state, _, step :: rest, holds, ran => by
    obtain ⟨next, stepped, ran⟩ := Option.bind_eq_some.mp ran
    exact run_preserves P preserved rest (preserved holds stepped) ran

-- A count of the steps of a run is bounded by a measure that pays for each counted step.
theorem countP_add_le_of_run (P : VmState cpuCount → Prop) (measure : VmState cpuCount → Nat)
    (counted : VmStep cpuCount → Bool)
    (preserved : ∀ {state next : VmState cpuCount} {step}, P state → state.step step = some next → P next)
    (pays : ∀ {state next : VmState cpuCount} {step}, P state → state.step step = some next →
      (if counted step then 1 else 0) + measure next ≤ measure state) :
    ∀ {state final : VmState cpuCount} (steps : List (VmStep cpuCount)), P state → state.run steps = some final →
      steps.countP counted + measure final ≤ measure state
  | _, _, [], _, ran => by cases Option.some.inj ran; simp
  | state, _, step :: rest, holds, ran => by
    obtain ⟨next, stepped, ran⟩ := Option.bind_eq_some.mp ran
    have rest_paid := countP_add_le_of_run P measure counted preserved pays rest (preserved holds stepped) ran
    have step_paid := pays holds stepped
    rw [List.countP_cons]
    split_ifs at step_paid ⊢ <;> omega

/-- What `Run` returns: over any run, from any state, `exit_code_` is 1 if some vCPU's
`RunOnce` returned `kError` and otherwise what it held before, whatever the interleaving and
whatever shutdowns and stops come before or after; a later `kShutdown` does not clear an
error. -/
theorem exitCode_records_error :
    ∀ {state final : VmState cpuCount} (steps : List (VmStep cpuCount)), state.run steps = some final →
      final.exitCode = if steps.any VmStep.isError then 1 else state.exitCode
  | _, _, [], ran => by cases Option.some.inj ran; rfl
  | state, _, step :: rest, ran => by
    obtain ⟨next, stepped, ran⟩ := Option.bind_eq_some.mp ran
    rw [exitCode_records_error rest ran, exitCode_step stepped, List.any_cons]
    cases step.isError <;> simp

-- Two vCPUs: vCPU 1 shuts down, then vCPU 0 hits an error.
def errorRun : List (VmStep 2) :=
  [.test 0, .test 1, .runOnce 1 .kShutdown, .runOnce 0 .kError, .stop 0]

theorem exitCode_records_error_after_shutdown :
    ∃ final, (startRun 0 : VmState 2).run errorRun = some final ∧ final.Joined ∧
      final.exitCode = if errorRun.any VmStep.isError then 1 else 0 := by
  obtain ⟨final, ran⟩ := Option.isSome_iff_exists.mp (by decide : ((startRun 0 : VmState 2).run errorRun).isSome)
  exact ⟨final, ran, by cases ran; decide, exitCode_records_error errorRun ran⟩

theorem stopped_run {state final : VmState cpuCount} (steps : List (VmStep cpuCount))
    (stopped : state.running = false) (ran : state.run steps = some final) :
    final.running = false ∧ ∀ vcpu,
      steps.countP (·.thread = some vcpu) + (final.pc vcpu).stepsLeft ≤ (state.pc vcpu).stepsLeft ∧
      steps.countP (VmStep.callsRunOnce vcpu) ≤ 1 := by
  have preserved : ∀ {state next : VmState cpuCount} {step}, state.running = false → state.step step = some next →
      next.running = false := fun stopped stepped => running_step stopped stepped
  refine ⟨run_preserves _ preserved steps stopped ran, fun vcpu => ⟨?_, ?_⟩⟩
  · exact countP_add_le_of_run _ (fun state => (state.pc vcpu).stepsLeft) _ preserved
      (fun stopped stepped => by simpa using stepsLeft_step stopped stepped vcpu) steps stopped ran
  · have paid := countP_add_le_of_run _ (fun state => if state.pc vcpu = .runOnce then 1 else 0) _ preserved
      (fun stopped stepped => runOnce_step stopped stepped vcpu) steps stopped ran
    dsimp only at paid
    split_ifs at paid <;> omega

-- From `Run`'s start, a thread that has returned has seen `running_` false or made it so,
-- and nothing sets it again; a thread between the store and `RequestStop` has stored 1.
structure VmState.Stopping (state : VmState cpuCount) : Prop where
  exited : ∀ vcpu, state.pc vcpu = .exited → state.running = false
  stored : ∀ vcpu, state.pc vcpu = .stopping → state.exitCode = 1

theorem stopping_startRun (exitCode : Int) : (startRun exitCode : VmState cpuCount).Stopping :=
  ⟨fun _ => nofun, fun _ => nofun⟩

theorem VmState.Stopping.setPc {state : VmState cpuCount} (holds : state.Stopping) (vcpu : Fin cpuCount) {pc : Pc}
    (exits : pc = .exited → state.running = false) (stores : pc = .stopping → state.exitCode = 1) :
    (state.setPc vcpu pc).Stopping := by
  constructor <;> intro other at_pc <;> by_cases same : other = vcpu
  · subst same; exact exits (by simpa using at_pc)
  · exact holds.exited other (by simpa [same] using at_pc)
  · subst same; exact stores (by simpa using at_pc)
  · exact holds.stored other (by simpa [same] using at_pc)

theorem VmState.Stopping.requestStop {state : VmState cpuCount} (holds : state.Stopping) : state.requestStop.Stopping :=
  ⟨fun _ _ => rfl, holds.stored⟩

theorem stopping_step {state next : VmState cpuCount} {step : VmStep cpuCount} (holds : state.Stopping)
    (stepped : state.step step = some next) : next.Stopping := by
  rcases step_eq_some stepped with ⟨other, rfl, -, rfl⟩ | ⟨other, rfl | rfl, -, rfl⟩ | ⟨other, rfl, -, rfl⟩ |
    ⟨other, rfl, -, rfl⟩ | ⟨other, rfl, -, rfl⟩ | ⟨rfl, rfl⟩
  · exact holds.setPc other (by cases state.running <;> simp) (by cases state.running <;> simp)
  · exact holds.setPc other nofun nofun
  · exact holds.setPc other nofun nofun
  · exact holds.requestStop.setPc other (fun _ => rfl) nofun
  · have stored : VmState.Stopping { state with exitCode := 1 } := ⟨holds.exited, fun _ _ => rfl⟩
    exact stored.setPc other nofun fun _ => rfl
  · exact holds.requestStop.setPc other (fun _ => rfl) nofun
  · exact holds.requestStop

/-- From `Run`'s start, once one vCPU thread has returned, after `kShutdown`, after `kError`
or after finding `running_` false, `running_` is false for good: however the threads are
scheduled from then on, every vCPU thread takes at most two more steps, at most one of them
a call of `RunOnce`. -/
theorem vcpu_exit_stops_every_vcpu {exitCode : Int} {steps more : List (VmStep cpuCount)}
    {state final : VmState cpuCount} (started : (startRun exitCode).run steps = some state) {vcpu : Fin cpuCount}
    (returned : state.pc vcpu = .exited) (ran : state.run more = some final) (other : Fin cpuCount) :
    more.countP (·.thread = some other) ≤ 2 ∧ more.countP (VmStep.callsRunOnce other) ≤ 1 := by
  have reached := run_preserves _ stopping_step steps (stopping_startRun exitCode) started
  obtain ⟨-, bound⟩ := stopped_run more (reached.exited vcpu returned) ran
  exact ⟨by have := (bound other).1; have := (state.pc other).stepsLeft_le_two; omega, (bound other).2⟩

-- vCPU 1 shuts down while vCPU 0 is still in `RunOnce`.
def shutdownRun : List (VmStep 2) := [.test 0, .test 1, .runOnce 1 .kShutdown]

def afterShutdown : List (VmStep 2) := [.runOnce 0 .kError, .stop 0]

theorem vcpu_exit_stops_every_vcpu_after_shutdown :
    ∃ state final, (startRun 0 : VmState 2).run shutdownRun = some state ∧ state.pc 1 = .exited ∧
      state.run afterShutdown = some final ∧ final.Joined ∧
      ∀ other, afterShutdown.countP (·.thread = some other) ≤ 2 ∧
        afterShutdown.countP (VmStep.callsRunOnce other) ≤ 1 := by
  obtain ⟨state, started⟩ := Option.isSome_iff_exists.mp (by decide : ((startRun 0 : VmState 2).run shutdownRun).isSome)
  obtain ⟨final, ran⟩ := Option.isSome_iff_exists.mp (by cases started; decide : (state.run afterShutdown).isSome)
  have returned : state.pc 1 = .exited := by cases started; decide
  exact ⟨state, final, started, returned, ran, by cases started; cases ran; decide,
    vcpu_exit_stops_every_vcpu started returned ran⟩

end Runs

end Tenbox.Vmm
