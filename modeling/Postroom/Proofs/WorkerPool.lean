import Mathlib.Data.List.Perm.Basic
import Postroom.WorkerPool

namespace Postroom.WorkerPool

/-!
# What a worker pool completes

Jobs are started in the order in which they were handed in, and each fatal job
that is started takes one worker. So a job finds a worker exactly when fewer
fatal jobs than workers stand before it, and once no worker can move, the jobs
that were completed can be told from the queue alone. Neither who takes which
job nor when the jobs are handed in makes a difference.
-/

/-! ## The completable jobs of a queue -/

/-- Fatal jobs in front take their workers away from the jobs behind. -/
theorem completable_append
    (alive : Nat)
    (jobs later : List Job) :
    completable alive (jobs ++ later) =
      completable alive jobs ++
        completable (alive - jobs.countP Job.isFatal) later := by
  induction jobs generalizing alive with
  | nil =>
      simp
  | cons job rest inductionHypothesis =>
      cases alive with
      | zero =>
          simp
      | succ alive =>
          cases fatal : job.isFatal with
          | true =>
              simp [completable, fatal, inductionHypothesis]
          | false =>
              simp [completable, fatal, inductionHypothesis]

/-- A single job is completed when a worker is left and the job is harmless. -/
theorem completable_single
    (alive : Nat)
    (job : Job) :
    completable (alive + 1) [job] = if job.isFatal then [] else [job] := by
  simp [completable]

/-- Only queued jobs can be completed, in the order of the queue. -/
theorem completable_sublist
    (alive : Nat)
    (jobs : List Job) :
    (completable alive jobs).Sublist jobs := by
  induction jobs generalizing alive with
  | nil =>
      simp
  | cons job rest inductionHypothesis =>
      cases alive with
      | zero =>
          simp
      | succ alive =>
          cases fatal : job.isFatal with
          | true =>
              simpa [completable, fatal] using
                (inductionHypothesis alive).cons job
          | false =>
              simpa [completable, fatal] using
                inductionHypothesis (alive + 1)

/-- Without fatal jobs, one worker completes everything. -/
theorem completable_of_harmless
    {alive : Nat}
    {jobs : List Job}
    (staffed : 0 < alive)
    (harmless : ∀ job ∈ jobs, job.isFatal = false) :
    completable alive jobs = jobs := by
  obtain ⟨others, rfl⟩ := Nat.exists_eq_add_of_lt staffed
  induction jobs with
  | nil =>
      simp
  | cons job rest inductionHypothesis =>
      obtain ⟨first, behind⟩ := List.forall_mem_cons.1 harmless
      have rest := inductionHypothesis behind
      simp_all [completable]

/-- A harmless job can be completed when fewer fatal jobs than workers precede it. -/
theorem mem_completable_iff
    {alive : Nat}
    {before behind : List Job}
    {job : Job}
    (distinct : (before ++ job :: behind).Nodup)
    (harmless : job.isFatal = false) :
    job ∈ completable alive (before ++ job :: behind) ↔
      before.countP Job.isFatal < alive := by
  have elsewhere : job ∉ before := by
    intro member
    exact
      (List.nodup_append.1 distinct).2.2 job member job
        List.mem_cons_self rfl
  have notBefore : job ∉ completable alive before :=
    fun member => elsewhere ((completable_sublist _ _).mem member)
  rw [completable_append, List.mem_append]
  cases left : alive - before.countP Job.isFatal with
  | zero =>
      simp [notBefore]
      omega
  | succ others =>
      simp [completable, harmless]
      omega

/-! ## Moves -/

/-- Whether a worker is gone or will be gone when it has run its job. -/
def Worker.isLost : Worker → Bool
  | .waiting =>
      false
  | .running job =>
      job.isFatal
  | .gone =>
      true

/-- The job that a worker is going to complete. -/
def Worker.harmless? : Worker → Option Job
  | .running job =>
      if job.isFatal then none else some job
  | .waiting | .gone =>
      none

/-- Whether a worker is running a job. -/
def Worker.isBusy : Worker → Bool
  | .running _ =>
      true
  | .waiting | .gone =>
      false

namespace Pool

/-- The jobs that workers are going to complete. -/
def inHand (pool : Pool) : List Job :=
  pool.workers.filterMap Worker.harmless?

/-- How many moves are left: each job is taken and finished. -/
def effort (pool : Pool) : Nat :=
  2 * pool.queue.length + pool.workers.countP Worker.isBusy

/-- What a possible move does, between the workers that it leaves alone. -/
inductive Moves : Pool → Move → Pool → Prop where
  | takes
      {job : Job}
      {rest : List Job}
      {before behind : List Worker}
      {started completed : List Job} :
      Moves
        ⟨job :: rest, before ++ .waiting :: behind, started, completed⟩
        (.take before.length)
        ⟨rest, before ++ .running job :: behind, started ++ [job], completed⟩
  | fails
      {job : Job}
      {queue : List Job}
      {before behind : List Worker}
      {started completed : List Job}
      (fatal : job.isFatal = true) :
      Moves
        ⟨queue, before ++ .running job :: behind, started, completed⟩
        (.finish before.length)
        ⟨queue, before ++ .gone :: behind, started, completed⟩
  | finishes
      {job : Job}
      {queue : List Job}
      {before behind : List Worker}
      {started completed : List Job}
      (harmless : job.isFatal = false) :
      Moves
        ⟨queue, before ++ .running job :: behind, started, completed⟩
        (.finish before.length)
        ⟨queue, before ++ .waiting :: behind, started, completed ++ [job]⟩

/-- The moves that are possible are those of the three kinds. -/
theorem step?_eq_some_iff
    {pool later : Pool}
    {move : Move} :
    pool.step? move = some later ↔ Moves pool move later := by
  obtain ⟨queue, workers, started, completed⟩ := pool
  -- One worker is replaced, between those before and those behind it.
  have between
      {number : Nat}
      {worker : Worker}
      (found : workers[number]? = some worker)
      (next : Worker) :
      ∃ before behind,
        workers = before ++ worker :: behind ∧
          before.length = number ∧
          workers.set number next = before ++ next :: behind := by
    obtain ⟨inside, rfl⟩ := List.getElem?_eq_some_iff.1 found
    exact List.exists_of_set inside
  constructor
  · intro possible
    cases move with
    | take number =>
        simp only [step?] at possible
        split at possible
        · rename_i job rest found
          obtain ⟨before, behind, rfl, rfl, replaced⟩ :=
            between found (.running job)
          obtain rfl := Option.some.inj possible
          simpa only [setWorker, replaced] using Moves.takes
        · cases possible
    | finish number =>
        simp only [step?] at possible
        split at possible
        · rename_i job found
          split at possible
          · rename_i fatal
            obtain ⟨before, behind, rfl, rfl, replaced⟩ :=
              between found .gone
            obtain rfl := Option.some.inj possible
            simpa only [setWorker, replaced] using Moves.fails fatal
          · rename_i harmless
            obtain ⟨before, behind, rfl, rfl, replaced⟩ :=
              between found .waiting
            obtain rfl := Option.some.inj possible
            simpa only [setWorker, replaced] using
              Moves.finishes (Bool.not_eq_true _ ▸ harmless)
        · cases possible
  · intro moves
    cases moves <;> simp [step?, setWorker, *]

/-- Every move is one less to make. -/
theorem Moves.effort
    {pool later : Pool}
    {move : Move}
    (moved : Moves pool move later) :
    later.effort + 1 = pool.effort := by
  cases moved <;>
    simp only [Pool.effort, List.countP_append, List.countP_cons,
      List.length_cons, Worker.isBusy, Bool.false_eq_true, ↓reduceIte] <;>
    omega

/-- A run makes some of the moves that are left. -/
theorem length_add_effort
    {pool later : Pool}
    {moves : List Move}
    (reached : pool.run? moves = some later) :
    moves.length + later.effort = pool.effort := by
  induction moves generalizing pool with
  | nil =>
      obtain rfl := Option.some.inj reached
      exact Nat.zero_add _
  | cons move moves inductionHypothesis =>
      rw [run?_cons] at reached
      obtain ⟨middle, moved, behind⟩ := Option.bind_eq_some_iff.1 reached
      have first := (step?_eq_some_iff.1 moved).effort
      have others := inductionHypothesis behind
      rw [List.length_cons]
      omega

/-- The workers of every pool come to a stop. -/
theorem exists_run?_isStuck (pool : Pool) :
    ∃ moves later, pool.run? moves = some later ∧ later.IsStuck := by
  induction size : pool.effort generalizing pool with
  | zero =>
      refine ⟨[], pool, rfl, fun move => ?_⟩
      rw [Option.eq_none_iff_forall_ne_some]
      intro later moved
      have less := (step?_eq_some_iff.1 moved).effort
      omega
  | succ effort inductionHypothesis =>
      by_cases stuck : pool.IsStuck
      · exact ⟨[], pool, rfl, stuck⟩
      · obtain ⟨move, possible⟩ := Classical.not_forall.1 stuck
        obtain ⟨middle, moved⟩ := Option.ne_none_iff_exists'.1 possible
        have less := (step?_eq_some_iff.1 moved).effort
        obtain ⟨moves, later, reached, stops⟩ :=
          inductionHypothesis middle (by omega)
        exact ⟨move :: moves, later, by simp [moved, reached], stops⟩

/-- Nobody can move when all who are not gone wait in front of an empty queue. -/
theorem isStuck_iff {pool : Pool} :
    pool.IsStuck ↔
      ∀ worker ∈ pool.workers,
        worker = .gone ∨ worker = .waiting ∧ pool.queue = [] := by
  obtain ⟨queue, workers, started, completed⟩ := pool
  constructor
  · intro stuck worker member
    obtain ⟨before, behind, rfl⟩ := List.append_of_mem member
    have impossible {move : Move} {later : Pool} :
        ¬ Moves ⟨queue, before ++ worker :: behind, started, completed⟩
          move later := by
      intro moves
      have possible := step?_eq_some_iff.2 moves
      rw [stuck move] at possible
      cases possible
    cases worker with
    | gone =>
        exact Or.inl rfl
    | running job =>
        cases fatal : job.isFatal with
        | true =>
            exact absurd (.fails fatal) impossible
        | false =>
            exact absurd (.finishes fatal) impossible
    | waiting =>
        cases queue with
        | nil =>
            exact Or.inr ⟨rfl, rfl⟩
        | cons job rest =>
            exact absurd .takes impossible
  · intro idle move
    rw [Option.eq_none_iff_forall_ne_some]
    intro later possible
    cases step?_eq_some_iff.1 possible with
    | takes =>
        have waits := idle _ (List.mem_append_right _ List.mem_cons_self)
        simp at waits
    | fails | finishes =>
        have busy := idle _ (List.mem_append_right _ List.mem_cons_self)
        simp at busy

/-- Then nobody is going to complete anything. -/
theorem inHand_of_isStuck
    {pool : Pool}
    (stuck : pool.IsStuck) :
    pool.inHand = [] := by
  rw [inHand, List.filterMap_eq_nil_iff]
  intro worker member
  rcases isStuck_iff.1 stuck worker member with rfl | ⟨rfl, _⟩ <;> rfl

/-! ## What holds of a pool behind any events -/

/-- What holds of a pool to which some jobs were handed in. -/
structure Standing
    (size : Nat)
    (jobs : List Job)
    (pool : Pool) : Prop where
  staffed :
    pool.workers.length = size
  /-- The jobs are started and queued in order; the rest found nobody left. -/
  inOrder :
    ∃ dropped,
      pool.started ++ pool.queue ++ dropped = jobs ∧
        (dropped ≠ [] → ∀ worker ∈ pool.workers, worker = .gone)
  /-- Each fatal job that was started takes one worker. -/
  lost :
    pool.workers.countP Worker.isLost = pool.started.countP Job.isFatal
  /-- The started jobs that can be completed are completed or in hand. -/
  placed :
    (pool.completed ++ pool.inHand).Perm (completable size pool.started)
  /-- Each job is taken once and finished once. -/
  bounded :
    pool.effort ≤ 2 * jobs.length

theorem standing_start
    (size : Nat)
    (queue : List Job) :
    Standing (workerCount size) queue (start size queue) where
  staffed :=
    List.length_replicate ..
  inOrder :=
    ⟨[], by simp [start], fun absent => absurd rfl absent⟩
  lost := by
    simp [start, Worker.isLost, List.countP_replicate]
  placed := by
    simp [start, inHand, Worker.harmless?]
  bounded := by
    simp [start, effort, List.countP_replicate, Worker.isBusy]

namespace Standing

variable
  {size : Nat}
  {jobs : List Job}
  {pool later : Pool}
  (standing : Standing size jobs pool)

include standing

/-- A job that is handed in is queued, or nobody is left. -/
theorem afterExecute (job : Job) :
    Standing size (jobs ++ [job]) (pool.execute job) := by
  obtain ⟨dropped, rfl, nobody⟩ := standing.inOrder
  have bounded := standing.bounded
  unfold Pool.execute
  split
  · rename_i gone
    exact
      { standing with
        inOrder := ⟨dropped ++ [job], by simp, fun _ => gone⟩
        bounded := by
          rw [List.length_append]
          omega }
  · rename_i somebody
    obtain rfl : dropped = [] :=
      Classical.not_not.1 (mt nobody somebody)
    exact
      { standing with
        inOrder := ⟨[], by simp, fun absent => absurd rfl absent⟩
        bounded := by
          simp only [effort, List.length_append] at bounded ⊢
          omega }

/-- As long as somebody moves, no job is dropped. -/
theorem inOrder_of_moves
    {move : Move}
    (moved : Moves pool move later) :
    pool.started ++ pool.queue = jobs := by
  obtain ⟨dropped, rfl, nobody⟩ := standing.inOrder
  have none : dropped = [] := by
    by_contra inhabited
    cases moved with
    | takes | fails | finishes =>
        have gone :=
          nobody inhabited _ (List.mem_append_right _ List.mem_cons_self)
        cases gone
  rw [none, List.append_nil]

/-- While a worker waits, fewer fatal jobs than workers were started. -/
theorem countP_started_lt
    (waits : .waiting ∈ pool.workers) :
    pool.started.countP Job.isFatal < size := by
  rw [← standing.lost, ← standing.staffed]
  refine Nat.lt_of_le_of_ne List.countP_le_length ?_
  intro allLost
  cases List.countP_eq_length.1 allLost _ waits

/-- Whoever moves, the pool stands by its jobs. -/
theorem afterMove
    {move : Move}
    (moved : Moves pool move later) :
    Standing size jobs later := by
  have inOrder := standing.inOrder_of_moves moved
  have staffed := standing.staffed
  have lost := standing.lost
  have placed := standing.placed
  have bounded : later.effort ≤ 2 * jobs.length := by
    have less := moved.effort
    have total := standing.bounded
    omega
  cases moved with
  | takes =>
      rename_i job rest before behind started completed
      have fewer : started.countP Job.isFatal < size :=
        standing.countP_started_lt
          (List.mem_append_right _ List.mem_cons_self)
      obtain ⟨others, left⟩ :=
        Nat.exists_eq_add_one.2 (Nat.sub_pos_of_lt fewer)
      constructor
      · simpa using staffed
      · exact ⟨[], by simpa using inOrder, fun absent => absurd rfl absent⟩
      · cases fatal : job.isFatal <;>
          simp [Worker.isLost, fatal] at lost ⊢ <;>
          omega
      · rw [completable_append, left, completable_single]
        cases fatal : job.isFatal with
        | true =>
            simpa [inHand, List.filterMap_cons, Worker.harmless?, fatal]
              using placed
        | false =>
            simp only [inHand, List.filterMap_append, List.filterMap_cons,
              Worker.harmless?, fatal, Bool.false_eq_true, ↓reduceIte,
              ← List.append_assoc] at placed ⊢
            exact
              (List.perm_middle.trans (placed.cons job)).trans
                (List.perm_append_singleton job _).symm
      · exact bounded
  | fails fatal =>
      constructor
      · simpa using staffed
      · exact ⟨[], by simpa using inOrder, fun absent => absurd rfl absent⟩
      · simpa [List.countP_cons, Worker.isLost, fatal] using lost
      · simpa [inHand, List.filterMap_cons, Worker.harmless?, fatal]
          using placed
      · exact bounded
  | finishes harmless =>
      constructor
      · simpa using staffed
      · exact ⟨[], by simpa using inOrder, fun absent => absurd rfl absent⟩
      · simpa [List.countP_cons, Worker.isLost, harmless] using lost
      · simp only [inHand, List.filterMap_append, List.filterMap_cons,
          Worker.harmless?, harmless, Bool.false_eq_true, ↓reduceIte,
          List.append_assoc, List.cons_append, List.nil_append] at placed ⊢
        refine List.Perm.trans ?_ placed
        exact List.perm_middle.symm.append_left _
      · exact bounded

/-- Whatever happens, the pool stands by its jobs. -/
theorem afterEvents
    {events : List Event}
    (reached : pool.after? events = some later) :
    Standing size (jobs ++ handedIn events) later := by
  induction events generalizing jobs pool with
  | nil =>
      obtain rfl := Option.some.inj reached
      simpa using standing
  | cons event events inductionHypothesis =>
      rw [after?_cons] at reached
      obtain ⟨middle, happened, behind⟩ := Option.bind_eq_some_iff.1 reached
      cases event with
      | execute job =>
          obtain rfl := Option.some.inj happened
          simpa using
            inductionHypothesis (standing.afterExecute job) behind
      | move move =>
          have moved := step?_eq_some_iff.1 happened
          simpa using inductionHypothesis (standing.afterMove moved) behind

/-- Jobs are started in the order in which they were handed in. -/
theorem started_prefix : pool.started <+: jobs := by
  obtain ⟨dropped, rfl, _⟩ := standing.inOrder
  exact ⟨pool.queue ++ dropped, (List.append_assoc ..).symm⟩

section Stuck

variable (stuck : pool.IsStuck)

include stuck

/-- In the end the jobs that were not started find no worker left. -/
theorem completable_started_of_isStuck :
    completable size pool.started = completable size jobs := by
  obtain ⟨dropped, rfl, nobody⟩ := standing.inOrder
  have idle := isStuck_iff.1 stuck
  rw [List.append_assoc, completable_append]
  by_cases gone : ∀ worker ∈ pool.workers, worker = .gone
  · have lost : pool.started.countP Job.isFatal = size := by
      rw [← standing.lost, ← standing.staffed, List.countP_eq_length]
      intro worker member
      rw [gone worker member]
      rfl
    simp [lost]
  · obtain rfl : dropped = [] :=
      Classical.not_not.1 (mt nobody gone)
    obtain ⟨worker, member, left⟩ :
        ∃ worker ∈ pool.workers, worker ≠ .gone := by
      simpa using gone
    obtain ⟨_, empty⟩ := (idle worker member).resolve_left left
    simp [empty]

/-- In the end the completed jobs are those that find a worker. -/
theorem completed_perm : pool.completed.Perm (completable size jobs) := by
  have placed := standing.placed
  rwa [inHand_of_isStuck stuck, List.append_nil,
    standing.completable_started_of_isStuck stuck] at placed

end Stuck

end Standing

end Pool

/-- What a pool has done when none of its workers can move any more. -/
structure IsDone
    (size : Nat)
    (jobs : List Job)
    (pool : Pool) : Prop where
  /-- Those who are not gone have found the queue empty. -/
  idle :
    ∀ worker ∈ pool.workers,
      worker = .gone ∨ worker = .waiting ∧ pool.queue = []
  /-- The completed jobs can be told from the queue alone. -/
  completed :
    pool.completed.Perm (completable (workerCount size) jobs)
  /-- A harmless job is completed when fewer fatal jobs than workers precede it. -/
  completes :
    jobs.Nodup →
    ∀ before job behind,
      jobs = before ++ job :: behind →
      job.isFatal = false →
      (job ∈ pool.completed ↔
        before.countP Job.isFatal < workerCount size)
  /-- Without fatal jobs, all jobs are completed. -/
  all :
    (∀ job ∈ jobs, job.isFatal = false) →
    pool.completed.Perm jobs

/-- What a pool does with the jobs that were handed in. -/
structure Serves
    (size : Nat)
    (jobs : List Job)
    (pool : Pool) : Prop where
  /-- Jobs are started in the order in which they were handed in, each once. -/
  inOrder :
    pool.started <+: jobs
  /-- When no more jobs come, the workers come to a stop. -/
  stops :
    ∃ moves later, pool.run? moves = some later ∧ later.IsStuck
  /-- They make two moves for each job at most. -/
  bounded :
    ∀ moves later,
      pool.run? moves = some later →
      moves.length ≤ 2 * jobs.length
  done :
    pool.IsStuck → IsDone size jobs pool

/-- A pool behind any events serves the jobs that were queued or handed in. -/
theorem serves_of_after?
    {size : Nat}
    {queue : List Job}
    {events : List Event}
    {pool : Pool}
    (reached : (Pool.start size queue).after? events = some pool) :
    Serves size (queue ++ handedIn events) pool := by
  have standing := (Pool.standing_start size queue).afterEvents reached
  refine ⟨standing.started_prefix, pool.exists_run?_isStuck, ?_, ?_⟩
  · intro moves later run
    have total := Pool.length_add_effort run
    have bounded := standing.bounded
    omega
  · intro stuck
    have completed := standing.completed_perm stuck
    refine ⟨Pool.isStuck_iff.1 stuck, completed, ?_, ?_⟩
    · intro distinct before job behind shape harmless
      rw [completed.mem_iff]
      rw [shape] at distinct ⊢
      exact mem_completable_iff distinct harmless
    · intro harmless
      have staffed : 0 < workerCount size :=
        Nat.lt_of_lt_of_le Nat.one_pos (Nat.le_max_right _ _)
      rwa [completable_of_harmless staffed harmless] at completed

/--
Whoever moves when, jobs are started in order and each once, and the workers
come to a stop behind the last job. Then a harmless job is completed exactly
when fewer fatal jobs than workers precede it. So which jobs are completed
depends on the jobs alone, and without fatal jobs all of them are.
-/
theorem completes_while_workers_are_left
    (size : Nat)
    (queue : List Job)
    (events : List Event)
    (pool : Pool)
    (reached : (Pool.start size queue).after? events = some pool) :
    let jobs := queue ++ handedIn events
    Serves size jobs pool ∧
      ∀ queue' events' pool',
        (Pool.start size queue').after? events' = some pool' →
        queue' ++ handedIn events' = jobs →
        pool.IsStuck →
        pool'.IsStuck →
        pool'.completed.Perm pool.completed := by
  intro jobs
  have serves : Serves size jobs pool :=
    serves_of_after? reached
  refine ⟨serves, ?_⟩
  intro queue' events' pool' reached' same stuck stuck'
  have serves' : Serves size jobs pool' :=
    same ▸ serves_of_after? reached'
  exact
    (serves'.done stuck').completed.trans
      (serves.done stuck).completed.symm

/-- Two workers, one of which is lost while the other completes a job. -/
theorem completes_while_workers_are_left_of_two :
    let queue : List Job := [⟨0, true⟩, ⟨1, false⟩]
    let events : List Event :=
      [.move (.take 1), .move (.take 0), .execute ⟨2, true⟩,
        .move (.finish 1), .move (.finish 0), .execute ⟨3, false⟩,
        .move (.take 0), .move (.finish 0), .execute ⟨4, false⟩]
    let jobs : List Job :=
      [⟨0, true⟩, ⟨1, false⟩, ⟨2, true⟩, ⟨3, false⟩, ⟨4, false⟩]
    let pool : Pool :=
      ⟨[⟨3, false⟩], [.gone, .gone],
        [⟨0, true⟩, ⟨1, false⟩, ⟨2, true⟩], [⟨1, false⟩]⟩
    (Pool.start 2 queue).after? events = some pool ∧
      queue ++ handedIn events = jobs ∧
      pool.IsStuck ∧
      jobs.Nodup ∧
      ⟨1, false⟩ ∈ pool.completed ∧
      ⟨3, false⟩ ∉ pool.completed := by
  intro queue events jobs pool
  have reached : (Pool.start 2 queue).after? events = some pool := by
    decide
  have stuck : pool.IsStuck :=
    Pool.isStuck_iff.2 (by decide)
  have distinct : jobs.Nodup := by
    decide
  have serves : Serves 2 jobs pool :=
    (completes_while_workers_are_left 2 queue events pool reached).1
  have completes := (serves.done stuck).completes distinct
  refine ⟨reached, rfl, stuck, distinct, ?_, ?_⟩
  · exact (completes [_] _ _ rfl rfl).2 (by decide)
  · exact mt (completes [_, _, _] _ _ rfl rfl).1 (by decide)

end Postroom.WorkerPool
