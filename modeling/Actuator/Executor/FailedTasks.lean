import Actuator.Executor.TaskOrder

/-!
# A history without its failures

The tasks of an executor follow each other on the same GLOBAL variables, and some
of them fail. Had these never been given to the executor, the others would have
returned what they returned, and would have left the same variables
(`failed_jobs_omitted`). What a failed task has sent stays in the mailbox, so
this is about tasks that do not listen; the failed ones may do anything.
-/

namespace Actuator.Executor

open Actuator.Lib Actuator.Core Actuator.Parser

variable {D : Type} [CxxDouble D] {cfg : ExecutorConfig}

/-- The job returned a success. -/
def Job.succeeded (entry : Job D × Except Exn (ExecutionResult D)) : Bool :=
  match entry.2 with
  | .ok result => result.success
  | .error _ => false

/-- A job that fails leaves the variables as it found them. -/
theorem Job.execute_failed (rollback : cfg.enableRollback = true) (job : Job D) (s : ExecState D)
    (failed : Job.succeeded (job, (job.execute cfg s).1) = false) : SameGlobals (job.execute cfg s).2 s := by
  obtain ⟨result, s', run, restored, -⟩ :=
    executeTaskInternal_rolls_back cfg rollback job.env job.task job.behavior job.elapsedMs s
  have ran : job.execute cfg s = (.ok result, s') := run
  rw [ran] at failed ⊢
  intro name other
  rw [restored failed]
  exact find?_announced_other job.task s.vm.globalVars other

/-- By induction on the history, in which the failed jobs are skipped on the one side only. -/
theorem executeJobs_omit (rollback : cfg.enableRollback = true) (jobs : List (Job D)) {s t : ExecState D}
    (same : SameGlobals s t)
    (alone : ∀ entry ∈ (executeJobs cfg jobs s).1, Job.succeeded entry = true → entry.1.Alone) :
    (executeJobs cfg (((executeJobs cfg jobs s).1.filter Job.succeeded).map Prod.fst) t).1 =
      (executeJobs cfg jobs s).1.filter Job.succeeded ∧
    SameGlobals (executeJobs cfg (((executeJobs cfg jobs s).1.filter Job.succeeded).map Prod.fst) t).2
      (executeJobs cfg jobs s).2 := by
  induction jobs generalizing s t with
  | nil => exact ⟨rfl, (jobs_commuting cfg).equivalence.symm same⟩
  | cons job jobs ih =>
    have split : executeJobs cfg (job :: jobs) s =
        ((job, (job.execute cfg s).1) :: (executeJobs cfg jobs (job.execute cfg s).2).1,
          (executeJobs cfg jobs (job.execute cfg s).2).2) := rfl
    rw [split] at alone ⊢
    obtain ⟨first, later⟩ := List.forall_mem_cons.1 alone
    cases ends : Job.succeeded (job, (job.execute cfg s).1) with
    | true =>
      have calm := first ends
      have outcome : (job.execute cfg s).1 = (job.execute cfg t).1 :=
        (calm.execute_congr fun name other _ => same name other).1
      have related : SameGlobals (job.execute cfg s).2 (job.execute cfg t).2 :=
        (jobs_commuting cfg).congr calm same
      obtain ⟨results, left⟩ := ih related later
      rw [List.filter_cons_of_pos ends, List.map_cons]
      refine ⟨?_, left⟩
      show (job, (job.execute cfg t).1) :: (executeJobs cfg _ (job.execute cfg t).2).1 = _
      rw [results, outcome]
    | false =>
      rw [List.filter_cons_of_neg (by rw [ends]; decide)]
      have undone := Job.execute_failed rollback job s ends
      exact ih ((jobs_commuting cfg).equivalence.trans undone same) later

/-- Without the jobs that fail, a history of jobs is the same: the others return the same, and leave the same variables. -/
theorem failed_jobs_omitted (cfg : ExecutorConfig) (rollback : cfg.enableRollback = true) (jobs : List (Job D))
    (s : ExecState D) (alone : ∀ entry ∈ (executeJobs cfg jobs s).1, Job.succeeded entry = true → entry.1.Alone) :
    (executeJobs cfg (((executeJobs cfg jobs s).1.filter Job.succeeded).map Prod.fst) s).1 =
      (executeJobs cfg jobs s).1.filter Job.succeeded ∧
    SameGlobals (executeJobs cfg (((executeJobs cfg jobs s).1.filter Job.succeeded).map Prod.fst) s).2
      (executeJobs cfg jobs s).2 :=
  executeJobs_omit rollback jobs ((jobs_commuting cfg).equivalence.refl s) alone

/-! ## A division by zero between two assignments -/

/-- The tree in the middle assigns a variable, too, before it fails. -/
def brokenHistory : List (Job FixedPoint) := [sampleJob markTree, sampleJob divisionTree, sampleJob gainTree]

theorem failed_jobs_omitted_sample :
    (executeJobs {} brokenHistory {}).1.map Job.succeeded = [true, false, true] ∧
      SameGlobals (executeJobs {} (((executeJobs {} brokenHistory {}).1.filter Job.succeeded).map Prod.fst) {}).2
        (executeJobs {} brokenHistory {}).2 := by
  have outcomes : (executeJobs {} brokenHistory {}).1.map Job.succeeded = [true, false, true] := by decide
  refine ⟨outcomes, (failed_jobs_omitted {} rfl brokenHistory {} ?_).2⟩
  have entries : (executeJobs {} brokenHistory {}).1 = [(sampleJob markTree, _), (sampleJob divisionTree, _),
    (sampleJob gainTree, _)] := rfl
  intro entry mem succeeds
  rw [entries] at mem outcomes
  simp only [List.mem_cons, List.not_mem_nil, or_false] at mem
  rcases mem with rfl | rfl | rfl
  · exact markTree_assigns.alone
  · rw [List.map_cons, List.map_cons, succeeds] at outcomes
    cases (List.cons.inj (List.cons.inj outcomes).2).1
  · exact gainTree_assigns.alone

end Actuator.Executor
