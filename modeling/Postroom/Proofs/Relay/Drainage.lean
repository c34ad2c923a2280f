import Mathlib.Data.List.Perm.Basic
import Postroom.Relay.Crew

namespace Postroom.Relay

/-!
# Draining the relay queue

A crew is shut down by one shutdown job per consumer behind the mail. Every
move of a consumer moves one job out of the queue or one email out of a hand,
and nothing is lost on the way. So whichever consumer moves next, the crew goes
on until every email is relayed and every consumer has ended. A single consumer
relays what stands before the first shutdown job.
-/

namespace Consumer

/-- The email that a consumer is relaying. -/
def email? : Consumer → Option Email
  | .relaying email =>
      some email
  | _ =>
      none

@[simp] theorem email?_waiting :
    waiting.email? = none :=
  rfl

@[simp] theorem email?_relaying (email : Email) :
    (relaying email).email? = some email :=
  rfl

@[simp] theorem email?_ended :
    ended.email? = none :=
  rfl

/-- The job that a consumer is busy with or was ended by. -/
def job? : Consumer → Option Job
  | .waiting =>
      none
  | .relaying email =>
      some (.deliver email)
  | .ended =>
      some .shutdown

end Consumer

/-- The job that a move hands to a consumer, as the consumer behaves behind it. -/
def Move.job? (later : Crew) : Move → Option Job
  | .take number =>
      later.consumers[number]?.bind Consumer.job?
  | .finish _ =>
      none

namespace Crew

/-- The emails that are still queued, first one first. -/
def queued (crew : Crew) : List Email :=
  crew.queue.filterMap Job.email?

/-- The emails that consumers are relaying. -/
def inHand (crew : Crew) : List Email :=
  crew.consumers.filterMap Consumer.email?

/-- The jobs that some moves hand to consumers, first one first. -/
def taken (crew : Crew) : List Move → List Job
  | [] =>
      []
  | move :: moves =>
      match crew.step? move with
      | none =>
          []
      | some later =>
          (move.job? later).toList ++ later.taken moves

/-- How many moves are left: each email is taken and finished, each shutdown taken. -/
def effort (crew : Crew) : Nat :=
  2 * crew.queued.length + crew.inHand.length + crew.queue.count .shutdown

/-- What a possible move does, between the consumers that it leaves alone. -/
inductive Moves : Crew → Move → Crew → Prop where
  | takes
      {email : Email}
      {rest : List Job}
      {before behind : List Consumer}
      {relayed : List Email} :
      Moves
        ⟨.deliver email :: rest, before ++ .waiting :: behind, relayed⟩
        (.take before.length)
        ⟨rest, before ++ .relaying email :: behind, relayed⟩
  | ends
      {rest : List Job}
      {before behind : List Consumer}
      {relayed : List Email} :
      Moves
        ⟨.shutdown :: rest, before ++ .waiting :: behind, relayed⟩
        (.take before.length)
        ⟨rest, before ++ .ended :: behind, relayed⟩
  | finishes
      {email : Email}
      {queue : List Job}
      {before behind : List Consumer}
      {relayed : List Email} :
      Moves
        ⟨queue, before ++ .relaying email :: behind, relayed⟩
        (.finish before.length)
        ⟨queue, before ++ .waiting :: behind, relayed ++ [email]⟩

/-- The moves that are possible are those of the three kinds. -/
theorem step?_eq_some_iff
    {crew later : Crew}
    {move : Move} :
    crew.step? move = some later ↔ Moves crew move later := by
  obtain ⟨queue, consumers, relayed⟩ := crew
  -- One consumer is replaced, between those before and those behind it.
  have between
      {number : Nat}
      {consumer : Consumer}
      (found : consumers[number]? = some consumer)
      (next : Consumer) :
      ∃ before behind,
        consumers = before ++ consumer :: behind ∧
          before.length = number ∧
          consumers.set number next = before ++ next :: behind := by
    obtain ⟨inside, rfl⟩ := List.getElem?_eq_some_iff.1 found
    exact List.exists_of_set inside
  constructor
  · intro possible
    cases move with
    | take number =>
        simp only [step?] at possible
        split at possible
        · rename_i email rest found
          obtain ⟨before, behind, rfl, rfl, replaced⟩ :=
            between found (.relaying email)
          obtain rfl := Option.some.inj possible
          simpa only [setConsumer, replaced] using Moves.takes
        · rename_i rest found
          obtain ⟨before, behind, rfl, rfl, replaced⟩ := between found .ended
          obtain rfl := Option.some.inj possible
          simpa only [setConsumer, replaced] using Moves.ends
        · cases possible
    | finish number =>
        simp only [step?] at possible
        split at possible
        · rename_i email found
          obtain ⟨before, behind, rfl, rfl, replaced⟩ :=
            between found .waiting
          obtain rfl := Option.some.inj possible
          simpa only [setConsumer, replaced] using Moves.finishes
        · cases possible
  · intro moves
    cases moves <;> simp [step?, setConsumer]

/-- What a run of a crew keeps account of. -/
structure Accounts
    (start : Crew)
    (moves : List Move)
    (crew : Crew) : Prop where
  /-- Every email is relayed, in one hand, or queued. -/
  emails :
    (crew.relayed ++ crew.inHand ++ crew.queued).Perm
      (start.relayed ++ start.inHand ++ start.queued)
  /-- Jobs are taken from the front of the queue. -/
  queue :
    start.taken moves ++ crew.queue = start.queue
  /-- Each shutdown job that was taken has ended one consumer. -/
  ended :
    crew.consumers.count .ended =
      start.consumers.count .ended + (start.taken moves).count .shutdown
  size :
    crew.consumers.length = start.consumers.length
  effort :
    moves.length + crew.effort = start.effort

theorem accounts_nil (crew : Crew) : Accounts crew [] crew where
  emails :=
    List.Perm.refl _
  queue :=
    rfl
  ended :=
    rfl
  size :=
    rfl
  effort :=
    Nat.zero_add _

/-- The accounts of one move. -/
theorem Moves.accounts
    {crew later : Crew}
    {move : Move}
    (moved : Moves crew move later) :
    Accounts crew [move] later := by
  have taken : crew.taken [move] = (move.job? later).toList := by
    rw [Crew.taken, step?_eq_some_iff.2 moved]
    exact List.append_nil _
  cases moved with
  | takes =>
      rename_i email rest before behind relayed
      constructor
      · simp only [inHand, queued, List.filterMap_append,
          List.filterMap_cons, Consumer.email?_relaying,
          Consumer.email?_waiting, Job.email?_deliver, List.append_assoc,
          List.cons_append]
        exact (List.perm_middle.symm.append_left _).append_left _
      · simp [taken, Move.job?, Consumer.job?]
      · simp [taken, Move.job?, Consumer.job?]
      · simp
      · simp [effort, queued, inHand, List.filterMap_cons]
        omega
  | ends =>
      rename_i rest before behind relayed
      constructor
      · simp [inHand, queued, List.filterMap_cons]
      · simp [taken, Move.job?, Consumer.job?]
      · simp [taken, Move.job?, Consumer.job?]
        omega
      · simp
      · simp [effort, queued, inHand, List.filterMap_cons]
        omega
  | finishes =>
      rename_i email queue before behind relayed
      constructor
      · simp only [inHand, queued, List.filterMap_append,
          List.filterMap_cons, Consumer.email?_relaying,
          Consumer.email?_waiting, List.append_assoc, List.cons_append,
          List.nil_append]
        exact List.perm_middle.symm.append_left _
      · simp [taken, Move.job?]
      · simp [taken, Move.job?]
      · simp
      · simp [effort, queued, inHand, List.filterMap_cons]
        omega

/-- The accounts of a move and of the run behind it add up. -/
theorem Accounts.cons
    {start middle crew : Crew}
    {move : Move}
    {moves : List Move}
    (moved : Moves start move middle)
    (later : Accounts middle moves crew) :
    Accounts start (move :: moves) crew := by
  have first := moved.accounts
  have taken :
      start.taken (move :: moves) =
        start.taken [move] ++ middle.taken moves := by
    simp [Crew.taken, step?_eq_some_iff.2 moved]
  constructor
  · exact later.emails.trans first.emails
  · rw [taken, List.append_assoc, later.queue, first.queue]
  · rw [later.ended, first.ended, taken, List.count_append, Nat.add_assoc]
  · exact later.size.trans first.size
  · have total := first.effort
    rw [← later.effort] at total
    simp only [List.length_cons, List.length_nil] at total ⊢
    omega

/-- Whatever moves are made, the accounts are kept. -/
theorem accounts_of_run?
    {start crew : Crew}
    {moves : List Move}
    (reached : start.run? moves = some crew) :
    Accounts start moves crew := by
  induction moves generalizing start with
  | nil =>
      obtain rfl := Option.some.inj reached
      exact accounts_nil start
  | cons move moves inductionHypothesis =>
      rw [run?_cons] at reached
      obtain ⟨middle, moved, later⟩ := Option.bind_eq_some_iff.1 reached
      exact
        (inductionHypothesis later).cons (step?_eq_some_iff.1 moved)

/-- As many shutdown jobs are queued as consumers have not ended. -/
def Balanced (crew : Crew) : Prop :=
  crew.consumers.count .ended + crew.queue.count .shutdown =
    crew.consumers.length

/-- A crew with a shutdown job for each consumer goes on until all have ended. -/
theorem exists_step?_of_not_ended
    {crew : Crew}
    (balanced : crew.Balanced)
    {consumer : Consumer}
    (member : consumer ∈ crew.consumers)
    (goesOn : consumer ≠ .ended) :
    ∃ move later, crew.step? move = some later := by
  obtain ⟨queue, consumers, relayed⟩ := crew
  obtain ⟨before, behind, rfl⟩ := List.append_of_mem member
  cases consumer with
  | ended =>
      exact absurd rfl goesOn
  | relaying email =>
      exact ⟨_, _, step?_eq_some_iff.2 .finishes⟩
  | waiting =>
      cases queue with
      | nil =>
          -- Without a shutdown job in the queue, all consumers have ended.
          have fewBefore := @List.count_le_length _ _ Consumer.ended before
          have fewBehind := @List.count_le_length _ _ Consumer.ended behind
          simp [Balanced] at balanced
          omega
      | cons job rest =>
          cases job with
          | deliver email =>
              exact ⟨_, _, step?_eq_some_iff.2 .takes⟩
          | shutdown =>
              exact ⟨_, _, step?_eq_some_iff.2 .ends⟩

/-- An ended consumer makes no move. -/
theorem isStuck_of_ended
    {crew : Crew}
    (ended : ∀ consumer ∈ crew.consumers, consumer = .ended) :
    crew.IsStuck := by
  intro move
  cases possible : crew.step? move with
  | none =>
      rfl
  | some later =>
      cases step?_eq_some_iff.1 possible with
      | takes | ends | finishes =>
          have idle := ended _ (List.mem_append_right _ List.mem_cons_self)
          cases idle

theorem isStuck_iff
    {crew : Crew}
    (balanced : crew.Balanced) :
    crew.IsStuck ↔ ∀ consumer ∈ crew.consumers, consumer = .ended := by
  refine ⟨?_, isStuck_of_ended⟩
  intro stuck consumer member
  by_contra goesOn
  obtain ⟨move, later, possible⟩ :=
    exists_step?_of_not_ended balanced member goesOn
  rw [stuck move] at possible
  cases possible

/-- A crew in front of some mail, with one shutdown job per consumer behind it. -/
def closing
    (size : Nat)
    (emails : List Email) :
    Crew :=
  start size (emails.map .deliver ++ List.replicate size .shutdown)

/-- At first all mail is queued. -/
theorem queued_closing (size : Nat) (emails : List Email) :
    (closing size emails).queued = emails := by
  simp [closing, start, queued, List.filterMap_append,
    List.filterMap_map, Function.comp_def]

theorem inHand_closing (size : Nat) (emails : List Email) :
    (closing size emails).inHand = [] :=
  List.filterMap_replicate_of_none rfl

theorem count_shutdown_closing (size : Nat) (emails : List Email) :
    (closing size emails).queue.count .shutdown = size := by
  have none : (emails.map Job.deliver).count .shutdown = 0 := by
    simp [List.count_eq_zero]
  simp [closing, start, none]

theorem effort_closing (size : Nat) (emails : List Email) :
    (closing size emails).effort = 2 * emails.length + size := by
  rw [effort, queued_closing, inHand_closing, count_shutdown_closing]
  rfl

/-- The queue of a closing crew ends with a shutdown job as long as it lasts. -/
theorem queue_eq_nil_of_closing
    {size : Nat}
    {emails : List Email}
    {taken queue : List Job}
    (inhabited : 0 < size)
    (shape : taken ++ queue = (closing size emails).queue)
    (none : queue.count .shutdown = 0) :
    queue = [] := by
  by_contra nonempty
  have shutdowns : List.replicate size Job.shutdown ≠ [] := by
    simpa using Nat.ne_of_gt inhabited
  have last : queue.getLast? = some .shutdown := by
    rw [← List.getLast?_append_of_ne_nil taken nonempty, shape, closing,
      start, List.getLast?_append_of_ne_nil _ shutdowns,
      List.getLast?_replicate, if_neg (Nat.ne_of_gt inhabited)]
  exact List.count_eq_zero.1 none (List.mem_of_getLast? last)

/-- What holds of a closing crew behind some moves. -/
structure Drains
    (size : Nat)
    (emails : List Email)
    (moves : List Move)
    (crew : Crew) : Prop where
  /-- Every email is relayed, in one hand, or queued. -/
  placed :
    (crew.relayed ++ crew.inHand ++ crew.queued).Perm emails
  /-- The jobs that were taken, in their order, stood in front of those left. -/
  inOrder :
    (closing size emails).taken moves ++ crew.queue =
      emails.map .deliver ++ List.replicate size .shutdown
  staffed :
    crew.consumers.length = size
  /-- Each shutdown job that was taken has ended one consumer. -/
  ended :
    crew.consumers.count .ended =
      ((closing size emails).taken moves).count .shutdown
  /-- Some move is possible until every consumer has ended. -/
  goesOn :
    (∃ consumer ∈ crew.consumers, consumer ≠ .ended) →
      ∃ move later, crew.step? move = some later
  bounded :
    moves.length ≤ 2 * emails.length + size
  done :
    crew.IsStuck →
      crew.relayed.Perm emails ∧
        crew.consumers = List.replicate size .ended ∧
        crew.queue = []

/-- Whatever its consumers do, a closing crew drains its queue. -/
theorem drains_of_run?
    {size : Nat}
    {emails : List Email}
    {moves : List Move}
    {crew : Crew}
    (inhabited : 0 < size)
    (reached : (closing size emails).run? moves = some crew) :
    Drains size emails moves crew := by
  have accounts := accounts_of_run? reached
  have placed : (crew.relayed ++ crew.inHand ++ crew.queued).Perm emails := by
    have kept := accounts.emails
    rw [queued_closing, inHand_closing] at kept
    exact kept
  have staffed : crew.consumers.length = size :=
    accounts.size.trans (List.length_replicate ..)
  have ended :
      crew.consumers.count .ended =
        ((closing size emails).taken moves).count .shutdown := by
    have none : (closing size emails).consumers.count .ended = 0 := by
      simp [closing, start, List.count_replicate]
    rw [accounts.ended, none, Nat.zero_add]
  have balanced : crew.Balanced := by
    have shutdowns := congrArg (List.count .shutdown) accounts.queue
    rw [List.count_append, count_shutdown_closing] at shutdowns
    rw [Balanced, ended, staffed, shutdowns]
  constructor
  · exact placed
  · exact accounts.queue
  · exact staffed
  · exact ended
  · rintro ⟨consumer, member, notEnded⟩
    exact exists_step?_of_not_ended balanced member notEnded
  · have total := accounts.effort
    rw [effort_closing] at total
    omega
  · intro stuck
    have allEnded := (isStuck_iff balanced).1 stuck
    have consumers : crew.consumers = List.replicate size .ended :=
      List.eq_replicate_iff.2 ⟨staffed, allEnded⟩
    have none : crew.queue.count .shutdown = 0 := by
      rw [Balanced, consumers, List.count_replicate_self,
        List.length_replicate] at balanced
      omega
    have empty : crew.queue = [] :=
      queue_eq_nil_of_closing inhabited accounts.queue none
    have idle : crew.inHand = [] := by
      rw [inHand, consumers]
      exact List.filterMap_replicate_of_none rfl
    refine ⟨?_, consumers, empty⟩
    simpa [idle, queued, empty] using placed

section Single

variable
  {relayed : List Email}
  {move : Move}
  {later : Crew}

/-- A single consumer that waits takes the first job, if there is one. -/
theorem step?_waiting
    {queue : List Job}
    (moved : step? ⟨queue, [.waiting], relayed⟩ move = some later) :
    ∃ job rest,
      queue = job :: rest ∧
        later = ⟨rest, [job.email?.elim .ended .relaying], relayed⟩ := by
  rcases move with _ | _ <;> rename_i number <;> cases number <;>
    rcases queue with _ | ⟨_ | _, rest⟩ <;>
    simp_all [step?, setConsumer]

/-- A single consumer that is relaying finishes its email. -/
theorem step?_relaying
    {queue : List Job}
    {email : Email}
    (moved : step? ⟨queue, [.relaying email], relayed⟩ move = some later) :
    later = ⟨queue, [.waiting], relayed ++ [email]⟩ := by
  rcases move with _ | _ <;> rename_i number <;> cases number <;>
    simp_all [step?, setConsumer]

/-- A crew that is stuck stays as it is. -/
theorem eq_of_isStuck
    {crew later : Crew}
    {moves : List Move}
    (stuck : crew.IsStuck)
    (reached : crew.run? moves = some later) :
    later = crew := by
  cases moves with
  | nil =>
      exact (Option.some.inj reached).symm
  | cons move moves =>
      rw [run?_cons, stuck move] at reached
      cases reached

/-- A single consumer relays the mail in front of the first shutdown job. -/
theorem relayed_of_single
    {jobs : List Job}
    {moves : List Move}
    {crew : Crew}
    (reached : run? ⟨jobs, [.waiting], relayed⟩ moves = some crew)
    (stuck : crew.IsStuck) :
    crew.relayed =
        relayed ++
          (jobs.takeWhile (· != .shutdown)).filterMap Job.email? ∧
      crew.queue = (jobs.dropWhile (· != .shutdown)).tail := by
  -- Each job takes one move or two, so the moves go along with the jobs.
  induction jobs generalizing relayed moves with
  | nil =>
      have idle : IsStuck ⟨[], [.waiting], relayed⟩ := by
        intro move
        rw [Option.eq_none_iff_forall_ne_some]
        intro later moved
        obtain ⟨job, rest, absent, _⟩ := step?_waiting moved
        cases absent
      obtain rfl := eq_of_isStuck idle reached
      simp
  | cons job rest inductionHypothesis =>
      cases moves with
      | nil =>
          obtain rfl := Option.some.inj reached
          cases job <;> cases stuck (.take 0)
      | cons move moves =>
          rw [run?_cons] at reached
          obtain ⟨middle, moved, reached⟩ :=
            Option.bind_eq_some_iff.1 reached
          obtain ⟨_, _, same, rfl⟩ := step?_waiting moved
          obtain ⟨rfl, rfl⟩ := List.cons.inj same
          cases job with
          | shutdown =>
              have ended : IsStuck ⟨rest, [.ended], relayed⟩ :=
                isStuck_of_ended (by simp)
              obtain rfl := eq_of_isStuck ended reached
              simp
          | deliver email =>
              cases moves with
              | nil =>
                  obtain rfl := Option.some.inj reached
                  cases stuck (.finish 0)
              | cons next moves =>
                  rw [run?_cons] at reached
                  obtain ⟨_, finished, reached⟩ :=
                    Option.bind_eq_some_iff.1 reached
                  obtain rfl := step?_relaying finished
                  simpa using inductionHypothesis reached

end Single

end Crew

namespace Router

/-- A consumer dispatches the mail before the first shutdown job and leaves the rest. -/
theorem run_eq_dispatches
    {State : Type}
    (router : Router)
    (outbound : Outbound State)
    (state : State)
    (jobs : List Job) :
    let mail := (jobs.takeWhile (· != .shutdown)).filterMap Job.email?
    let dispatches := router.dispatches outbound state mail
    let shift := router.run outbound state jobs
    shift.outcomes = dispatches.map Dispatch.outcome ∧
      shift.attempts = dispatches.flatMap Dispatch.attempts ∧
      shift.left = (jobs.dropWhile (· != .shutdown)).tail := by
  induction jobs generalizing state with
  | nil =>
      exact ⟨rfl, rfl, rfl⟩
  | cons job rest inductionHypothesis =>
      cases job with
      | shutdown =>
          exact ⟨rfl, rfl, rfl⟩
      | deliver email =>
          obtain ⟨outcomes, attempts, left⟩ :=
            inductionHypothesis (router.dispatch outbound state email).state
          refine ⟨?_, ?_, ?_⟩
          · exact congrArg (List.cons _) outcomes
          · exact congrArg (List.append _) attempts
          · exact left

end Router

/--
Mail that is queued before its shutdown jobs is relayed, each email once,
whichever consumer moves when. A single consumer in front of any queue relays
exactly the mail before the first shutdown job, in order, and takes no job
behind that one.
-/
theorem mail_before_shutdown_is_relayed :
    (∀ size emails moves crew,
      0 < size →
      (Crew.closing size emails).run? moves = some crew →
      crew.Drains size emails moves) ∧
    ∀ jobs : List Job,
      let mail := (jobs.takeWhile (· != .shutdown)).filterMap Job.email?
      let left := (jobs.dropWhile (· != .shutdown)).tail
      (∀ {State : Type}
        (router : Router)
        (outbound : Outbound State)
        (state : State),
        let dispatches := router.dispatches outbound state mail
        let shift := router.run outbound state jobs
        shift.outcomes = dispatches.map Dispatch.outcome ∧
          shift.attempts = dispatches.flatMap Dispatch.attempts ∧
          shift.left = left) ∧
        ∀ moves crew,
          (Crew.start 1 jobs).run? moves = some crew →
          crew.IsStuck →
          crew.relayed = mail ∧ crew.queue = left := by
  refine ⟨fun _ _ _ _ => Crew.drains_of_run?, ?_⟩
  intro jobs mail left
  refine ⟨fun router outbound state => ?_, ?_⟩
  · exact router.run_eq_dispatches outbound state jobs
  · intro moves crew reached stuck
    simpa using Crew.relayed_of_single reached stuck

/-- Two consumers, one of which ends while the other is still relaying. -/
theorem mail_before_shutdown_is_relayed_by_two :
    let first : Email := ⟨[⟨"bob", "home.org"⟩], "ann@home.org", "s", "1"⟩
    let second : Email := ⟨[⟨"bob", "home.org"⟩], "ann@home.org", "s", "2"⟩
    let moves : List Move :=
      [.take 0, .take 1, .finish 1, .take 1, .finish 0, .take 0]
    let crew : Crew := ⟨[], [.ended, .ended], [second, first]⟩
    (Crew.closing 2 [first, second]).run? moves = some crew ∧
      crew.IsStuck ∧
      crew.relayed.Perm [first, second] := by
  intro first second moves crew
  have reached :
      (Crew.closing 2 [first, second]).run? moves = some crew := by
    decide
  have stuck : crew.IsStuck :=
    Crew.isStuck_of_ended (by decide)
  have drains :=
    mail_before_shutdown_is_relayed.1 2 [first, second] moves crew
      (by decide) reached
  exact ⟨reached, stuck, (drains.done stuck).1⟩

end Postroom.Relay
