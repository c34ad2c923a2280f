namespace Postroom

/-!
# Worker pools

Workers take jobs from one queue in order, and jobs are handed in at its end
at any time. A job that fails beyond repair takes its worker with it; once no
worker is left, the rest of the queue stays where it is and further jobs are
dropped. Which worker moves next is not determined, so a run is a list of
events, each of which has to be possible; how many jobs are completed in the
end can be told from the queue alone.
-/

namespace WorkerPool

/-- A queued job. -/
structure Job where
  number : Nat
  /-- Whether the job takes its worker with it. -/
  isFatal : Bool
  deriving Repr, DecidableEq

/-- What a worker is doing. -/
inductive Worker where
  | waiting
  | running (job : Job)
  | gone
  deriving Repr, DecidableEq

/-- Workers with their queue, and what they have done. -/
structure Pool where
  queue : List Job
  workers : List Worker
  /-- The jobs that were started, first one first. -/
  started : List Job
  /-- The jobs that were completed, in the order of their completion. -/
  completed : List Job
  deriving Repr, DecidableEq

/-- A step of one worker. -/
inductive Move where
  | take (worker : Nat)
  | finish (worker : Nat)
  deriving Repr, DecidableEq

/-- What happens at a pool: a job is handed in, or a worker moves. -/
inductive Event where
  | execute (job : Job)
  | move (move : Move)
  deriving Repr, DecidableEq

/-- The job that an event hands in. -/
def Event.job? : Event → Option Job
  | .execute job =>
      some job
  | .move _ =>
      none

/-- The jobs that some events hand in, first one first. -/
def handedIn (events : List Event) : List Job :=
  events.filterMap Event.job?

/-- A pool has at least one worker. -/
def workerCount (size : Nat) : Nat :=
  max size 1

/-- A new pool in front of some jobs. -/
def Pool.start
    (size : Nat)
    (queue : List Job) :
    Pool :=
  ⟨queue, List.replicate (workerCount size) .waiting, [], []⟩

/-- Let a worker do something else. -/
def Pool.setWorker
    (pool : Pool)
    (number : Nat)
    (worker : Worker) :
    Pool :=
  { pool with workers := pool.workers.set number worker }

/-- The pool after a move, if the move is possible. -/
def Pool.step? (pool : Pool) : Move → Option Pool
  | .take number =>
      match pool.workers[number]?, pool.queue with
      | some .waiting, job :: rest =>
          some { pool.setWorker number (.running job) with
            queue := rest
            started := pool.started ++ [job] }
      | _, _ =>
          none
  | .finish number =>
      match pool.workers[number]? with
      | some (.running job) =>
          if job.isFatal then
            some (pool.setWorker number .gone)
          else
            some { pool.setWorker number .waiting with
              completed := pool.completed ++ [job] }
      | _ =>
          none

/-- The pool after some moves, if all of them are possible. -/
def Pool.run?
    (pool : Pool)
    (moves : List Move) :
    Option Pool :=
  moves.foldlM Pool.step? pool

/-- Hand a job in; when all workers are gone, it is dropped. -/
def Pool.execute
    (pool : Pool)
    (job : Job) :
    Pool :=
  if ∀ worker ∈ pool.workers, worker = .gone then
    pool
  else
    { pool with queue := pool.queue ++ [job] }

/-- The pool after an event, if the event is possible. -/
def Pool.next? (pool : Pool) : Event → Option Pool
  | .execute job =>
      some (pool.execute job)
  | .move move =>
      pool.step? move

/-- The pool after some events, if all of them are possible. -/
def Pool.after?
    (pool : Pool)
    (events : List Event) :
    Option Pool :=
  events.foldlM Pool.next? pool

/-- Whether no worker can move. -/
def Pool.IsStuck (pool : Pool) : Prop :=
  ∀ move, pool.step? move = none

/-- The jobs that some workers complete before they are all gone. -/
def completable : Nat → List Job → List Job
  | 0, _ =>
      []
  | _, [] =>
      []
  | alive + 1, job :: rest =>
      if job.isFatal then
        completable alive rest
      else
        job :: completable (alive + 1) rest

@[simp] theorem completable_no_workers (jobs : List Job) :
    completable 0 jobs = [] := by
  simp [completable]

@[simp] theorem completable_no_jobs (alive : Nat) :
    completable alive [] = [] := by
  cases alive <;> rfl

@[simp] theorem run?_nil (pool : Pool) :
    pool.run? [] = some pool :=
  rfl

@[simp] theorem run?_cons
    (pool : Pool)
    (move : Move)
    (moves : List Move) :
    pool.run? (move :: moves) =
      (pool.step? move).bind fun next => next.run? moves :=
  rfl

@[simp] theorem after?_nil (pool : Pool) :
    pool.after? [] = some pool :=
  rfl

@[simp] theorem after?_cons
    (pool : Pool)
    (event : Event)
    (events : List Event) :
    pool.after? (event :: events) =
      (pool.next? event).bind fun next => next.after? events :=
  rfl

@[simp] theorem handedIn_nil :
    handedIn [] = [] :=
  rfl

@[simp] theorem handedIn_cons_execute
    (job : Job)
    (events : List Event) :
    handedIn (.execute job :: events) = job :: handedIn events :=
  rfl

@[simp] theorem handedIn_cons_move
    (move : Move)
    (events : List Event) :
    handedIn (.move move :: events) = handedIn events :=
  rfl

end WorkerPool

end Postroom
