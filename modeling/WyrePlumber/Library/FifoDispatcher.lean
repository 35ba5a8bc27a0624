import WyrePlumber.Library.Machine
import Mathlib.Data.List.Perm.Basic
import Mathlib.Data.List.Nodup
import Mathlib.Data.List.Pairwise

/-!
# A first-in first-out dispatcher

Callers submit tasks; one dispatcher takes the head of the queue at a time, woken
by a source that at most one caller schedules; a cancellation finishes everything
that is queued.  The invariant has three parts: how tasks are numbered, where each
submitted task is, and that a queued task always has a wakeup ahead of it.
-/

set_option autoImplicit false

namespace FifoDispatcher

open LabelledMachine

universe u

/-- What the dispatcher reads of a task: its identity and its order within an
epoch. -/
class Ticketed (Task : Type u) where
  key : Task → Nat
  epoch : Task → Nat
  order : Task → Nat

inductive Stage (Task : Type u) where
  | idle
  | taken (task : Task)
  | decided (task : Task)
  | finished

structure Dispatcher (Task : Type u) where
  issued : Nat
  epoch : Nat
  order : Nat
  queue : List Task
  stage : Stage Task
  done : List Nat
  scheduled : Bool
  wakeups : Nat
  alive : Bool

inductive Action (Task : Type u) where
  | submit (task : Task)
  | skip
  | openEpoch
  | cancel
  | wake
  | run
  | pass
  | finish
  | rearm
  | shutdown

inductive Report (Task : Type u) where
  | submitted (task : Task)
  | ran (task : Task)
  | finished (key : Nat)

variable {Task : Type u}

def Stage.held : Stage Task → List Task
  | .taken task | .decided task => [task]
  | .idle | .finished => []

def Stage.busy : Stage Task → Bool
  | .idle => false
  | _ => true

def schedule (dispatcher : Dispatcher Task) : Dispatcher Task :=
  if dispatcher.scheduled || !dispatcher.alive || dispatcher.queue.isEmpty then dispatcher
  else { dispatcher with scheduled := true, wakeups := dispatcher.wakeups + 1 }

/-- A task is finished at most once. -/
def complete (dispatcher : Dispatcher Task) (key : Nat) :
    Dispatcher Task × List (Report Task) :=
  if key ∈ dispatcher.done then (dispatcher, [])
  else ({ dispatcher with done := key :: dispatcher.done }, [.finished key])

def completeAll : List Nat → Dispatcher Task → Dispatcher Task × List (Report Task)
  | [], dispatcher => (dispatcher, [])
  | key :: rest, dispatcher =>
      let first := complete dispatcher key
      let later := completeAll rest first.1
      (later.1, first.2 ++ later.2)

variable [Ticketed Task]

def step (dispatcher : Dispatcher Task) :
    Action Task → Option (Dispatcher Task × List (Report Task))
  | .submit task =>
      if dispatcher.alive = true ∧ Ticketed.key task = dispatcher.issued ∧
          Ticketed.epoch task = dispatcher.epoch ∧
          Ticketed.order task = dispatcher.order + 1 then
        some (schedule { dispatcher with
          issued := dispatcher.issued + 1, order := dispatcher.order + 1,
          queue := dispatcher.queue ++ [task] }, [.submitted task])
      else none
  | .skip => some ({ dispatcher with issued := dispatcher.issued + 1 }, [])
  | .openEpoch => some ({ dispatcher with epoch := dispatcher.epoch + 1, order := 0 }, [])
  | .cancel =>
      some (completeAll (dispatcher.queue.map Ticketed.key) { dispatcher with queue := [] })
  | .wake =>
      match dispatcher.stage with
      | .idle =>
          if dispatcher.wakeups = 0 ∨ dispatcher.alive = false then none
          else
            match dispatcher.queue with
            | [] => some ({ dispatcher with
                wakeups := dispatcher.wakeups - 1, scheduled := false }, [])
            | task :: rest => some ({ dispatcher with
                wakeups := dispatcher.wakeups - 1, queue := rest,
                stage := .taken task }, [])
      | _ => none
  | .run =>
      match dispatcher.stage with
      | .taken task => some ({ dispatcher with stage := .decided task }, [.ran task])
      | _ => none
  | .pass =>
      match dispatcher.stage with
      | .taken task => some ({ dispatcher with stage := .decided task }, [])
      | _ => none
  | .finish =>
      match dispatcher.stage with
      | .decided task =>
          some (complete { dispatcher with stage := .finished } (Ticketed.key task))
      | _ => none
  | .rearm =>
      match dispatcher.stage with
      | .finished =>
          some (schedule { dispatcher with stage := .idle, scheduled := false }, [])
      | _ => none
  | .shutdown =>
      match dispatcher.stage, dispatcher.queue with
      | .idle, [] => some ({ dispatcher with alive := false }, [])
      | _, _ => none

def machine : Machine (Dispatcher Task) (Action Task) (Report Task) where
  initial dispatcher := dispatcher.order = 0 ∧ dispatcher.queue = [] ∧
    dispatcher.stage = .idle ∧ dispatcher.done = [] ∧ dispatcher.scheduled = false
  step := step

/-! ## The log -/

@[simp] def Report.submission? : Report Task → Option Task
  | .submitted task => some task
  | _ => none

@[simp] def Report.execution? : Report Task → Option Task
  | .ran task => some task
  | _ => none

@[simp] def Report.completion? : Report Task → Option Nat
  | .finished key => some key
  | _ => none

def submissions (reported : List (Report Task)) : List Task :=
  reported.filterMap Report.submission?

def executions (reported : List (Report Task)) : List Task :=
  reported.filterMap Report.execution?

def completions (reported : List (Report Task)) : List Nat :=
  reported.filterMap Report.completion?

section Log

omit [Ticketed Task]

@[simp] theorem submissions_nil : submissions ([] : List (Report Task)) = [] := rfl

@[simp] theorem executions_nil : executions ([] : List (Report Task)) = [] := rfl

@[simp] theorem completions_nil : completions ([] : List (Report Task)) = [] := rfl

@[simp] theorem submissions_cons (report : Report Task) (rest : List (Report Task)) :
    submissions (report :: rest) = report.submission?.toList ++ submissions rest := by
  cases report <;> rfl

@[simp] theorem executions_cons (report : Report Task) (rest : List (Report Task)) :
    executions (report :: rest) = report.execution?.toList ++ executions rest := by
  cases report <;> rfl

@[simp] theorem completions_cons (report : Report Task) (rest : List (Report Task)) :
    completions (report :: rest) = report.completion?.toList ++ completions rest := by
  cases report <;> rfl

@[simp] theorem submissions_append (reported observed : List (Report Task)) :
    submissions (reported ++ observed) = submissions reported ++ submissions observed := by
  simp [submissions]

@[simp] theorem executions_append (reported observed : List (Report Task)) :
    executions (reported ++ observed) = executions reported ++ executions observed := by
  simp [executions]

@[simp] theorem completions_append (reported observed : List (Report Task)) :
    completions (reported ++ observed) = completions reported ++ completions observed := by
  simp [completions]

@[simp] theorem submissions_finished (keys : List Nat) :
    submissions (keys.map .finished : List (Report Task)) = [] := by
  simp [submissions, List.filterMap_map, Function.comp_def]

@[simp] theorem executions_finished (keys : List Nat) :
    executions (keys.map .finished : List (Report Task)) = [] := by
  simp [executions, List.filterMap_map, Function.comp_def]

@[simp] theorem completions_finished (keys : List Nat) :
    completions (keys.map .finished : List (Report Task)) = keys := by
  simp [completions, List.filterMap_map, Function.comp_def]

end Log

/-! ## Numbering -/

def ofEpoch (epoch : Nat) (tasks : List Task) : List Task :=
  tasks.filter fun task => Ticketed.epoch task = epoch

/-- Keys grow with every submission; within an epoch the orders count from one. -/
structure Numbering (issued epoch order : Nat) (submitted : List Task) : Prop where
  keys : (submitted.map Ticketed.key).Pairwise (· < ·)
  bounded : ∀ task ∈ submitted,
    Ticketed.key task < issued ∧ Ticketed.epoch task ≤ epoch
  current : (ofEpoch epoch submitted).length = order
  orders : ∀ other, (ofEpoch other submitted).map Ticketed.order =
    List.range' 1 (ofEpoch other submitted).length

theorem Numbering.skip {issued epoch order : Nat} {submitted : List Task}
    (numbering : Numbering issued epoch order submitted) :
    Numbering (issued + 1) epoch order submitted where
  keys := numbering.keys
  bounded := by
    intro task member
    obtain ⟨below, atMost⟩ := numbering.bounded task member
    exact ⟨Nat.lt_succ_of_lt below, atMost⟩
  current := numbering.current
  orders := numbering.orders

theorem Numbering.openEpoch {issued epoch order : Nat} {submitted : List Task}
    (numbering : Numbering issued epoch order submitted) :
    Numbering issued (epoch + 1) 0 submitted where
  keys := numbering.keys
  bounded := by
    intro task member
    obtain ⟨below, atMost⟩ := numbering.bounded task member
    exact ⟨below, Nat.le_succ_of_le atMost⟩
  current := by
    rw [List.length_eq_zero_iff, ofEpoch, List.filter_eq_nil_iff]
    intro task member
    have atMost := (numbering.bounded task member).2
    simp only [decide_eq_true_eq]
    omega
  orders := numbering.orders

theorem Numbering.submit {issued epoch order : Nat} {submitted : List Task} {task : Task}
    (numbering : Numbering issued epoch order submitted)
    (key : Ticketed.key task = issued) (inEpoch : Ticketed.epoch task = epoch)
    (next : Ticketed.order task = order + 1) :
    Numbering (issued + 1) epoch (order + 1) (submitted ++ [task]) where
  keys := by
    rw [List.map_append, List.pairwise_append]
    refine ⟨numbering.keys, List.pairwise_singleton _ _, ?_⟩
    intro earlier before later now
    obtain ⟨other, member, rfl⟩ := List.mem_map.mp before
    rw [List.map_singleton, List.mem_singleton] at now
    rw [now, key]
    exact (numbering.bounded other member).1
  bounded := by
    intro other member
    rcases List.mem_append.mp member with before | now
    · obtain ⟨below, atMost⟩ := numbering.bounded other before
      exact ⟨Nat.lt_succ_of_lt below, atMost⟩
    · rw [List.mem_singleton.mp now, key, inEpoch]
      exact ⟨Nat.lt_succ_self _, Nat.le_refl _⟩
  current := by
    have one : ofEpoch epoch [task] = [task] := by
      simp [ofEpoch, inEpoch]
    have split : ofEpoch epoch (submitted ++ [task]) =
        ofEpoch epoch submitted ++ ofEpoch epoch [task] := by
      simp [ofEpoch]
    rw [split, one, List.length_append, numbering.current]
    rfl
  orders := by
    intro other
    have split : ofEpoch other (submitted ++ [task]) =
        ofEpoch other submitted ++ ofEpoch other [task] := by
      simp [ofEpoch]
    rw [split]
    by_cases same : other = epoch
    · subst same
      have one : ofEpoch other [task] = [task] := by
        simp [ofEpoch, inEpoch]
      rw [one, List.map_append, List.length_append, numbering.orders, numbering.current,
        List.map_singleton, next, List.length_singleton, List.range'_concat]
      simp [Nat.add_comm]
    · have none : ofEpoch other [task] = [] := by
        simp [ofEpoch, inEpoch, Ne.symm same]
      rw [none, List.append_nil]
      exact numbering.orders other

/-! ## Where each task is -/

/-- Every submitted task is finished, held or queued, once; the queue is the tail
of the submissions, and what ran comes before the task that may run next. -/
structure Accounts (dispatcher : Dispatcher Task) (reported : List (Report Task)) :
    Prop where
  done : ∀ key, key ∈ dispatcher.done ↔ key ∈ completions reported
  placed : (completions reported ++
    (dispatcher.stage.held ++ dispatcher.queue).map Ticketed.key).Perm
      ((submissions reported).map Ticketed.key)
  tail : ∃ past, submissions reported = past ++ dispatcher.queue ∧
    (executions reported).Sublist past ∧
    ∀ task, dispatcher.stage = .taken task →
      ∃ front back, past = front ++ task :: back ∧ (executions reported).Sublist front

/-- Nothing is queued without a wakeup or a busy dispatcher ahead of it. -/
structure Wakeups (dispatcher : Dispatcher Task) : Prop where
  ahead : dispatcher.queue ≠ [] →
    dispatcher.wakeups ≠ 0 ∨ dispatcher.stage.busy = true
  scheduled : dispatcher.scheduled = true →
    dispatcher.wakeups ≠ 0 ∨ dispatcher.stage.busy = true
  alive : dispatcher.alive = false →
    dispatcher.queue = [] ∧ dispatcher.stage.busy = false

structure Sound (dispatcher : Dispatcher Task) (reported : List (Report Task)) : Prop where
  numbering : Numbering dispatcher.issued dispatcher.epoch dispatcher.order
    (submissions reported)
  accounts : Accounts dispatcher reported
  wakeups : Wakeups dispatcher

theorem sound_initial {dispatcher : Dispatcher Task} (initial : machine.initial dispatcher) :
    Sound dispatcher [] := by
  obtain ⟨order, queue, stage, done, scheduled⟩ := initial
  refine ⟨?_, ?_, ?_⟩
  · constructor <;> simp [submissions, ofEpoch, order]
  · constructor <;> simp [submissions, completions, executions, queue, stage, done, Stage.held]
  · constructor <;> simp [queue, stage, scheduled, Stage.busy]

omit [Ticketed Task] in
theorem schedule_frame (dispatcher : Dispatcher Task) :
    ∃ scheduled wakeups, schedule dispatcher =
      { dispatcher with scheduled := scheduled, wakeups := wakeups } := by
  unfold schedule
  split
  · exact ⟨_, _, rfl⟩
  · exact ⟨_, _, rfl⟩

omit [Ticketed Task] in
/-- Scheduling is what puts a wakeup ahead of the queue. -/
theorem schedule_wakeups {dispatcher : Dispatcher Task}
    (scheduled : dispatcher.scheduled = true →
      dispatcher.wakeups ≠ 0 ∨ dispatcher.stage.busy = true)
    (alive : dispatcher.alive = true) : Wakeups (schedule dispatcher) := by
  unfold schedule
  split
  · rename_i nothing
    refine ⟨?_, scheduled, ?_⟩
    · intro queued
      refine scheduled ?_
      simpa [alive, queued] using nothing
    · intro stopped
      rw [alive] at stopped
      cases stopped
  · refine ⟨?_, ?_, ?_⟩
    · intro _
      exact .inl (Nat.succ_ne_zero _)
    · intro _
      exact .inl (Nat.succ_ne_zero _)
    · intro stopped
      rw [alive] at stopped
      cases stopped

omit [Ticketed Task] in
/-- Tasks that are not finished yet are all finished now. -/
theorem completeAll_fresh (keys : List Nat) (dispatcher : Dispatcher Task)
    (distinct : keys.Nodup) (fresh : ∀ key ∈ keys, key ∉ dispatcher.done) :
    ∃ done, completeAll keys dispatcher =
        ({ dispatcher with done := done }, keys.map .finished) ∧
      ∀ key, key ∈ done ↔ key ∈ keys ∨ key ∈ dispatcher.done := by
  induction keys generalizing dispatcher with
  | nil => exact ⟨dispatcher.done, rfl, by simp⟩
  | cons key rest inductionHypothesis =>
      rw [List.nodup_cons] at distinct
      have unfinished : key ∉ dispatcher.done := fresh key List.mem_cons_self
      obtain ⟨done, later, members⟩ := inductionHypothesis
        { dispatcher with done := key :: dispatcher.done } distinct.2 (by
          intro other member
          have old := fresh other (List.mem_cons_of_mem _ member)
          have different : other ≠ key := by
            rintro rfl
            exact distinct.1 member
          simp [different, old])
      refine ⟨done, ?_, ?_⟩
      · simp only [completeAll, complete, unfinished, if_false, later]
        rfl
      · intro other
        rw [members]
        simp only [List.mem_cons]
        tauto

/-! ## Every step keeps the invariant -/

theorem Sound.keys_nodup {dispatcher : Dispatcher Task} {reported : List (Report Task)}
    (sound : Sound dispatcher reported) :
    ((submissions reported).map Ticketed.key).Nodup :=
  sound.numbering.keys.imp Nat.ne_of_lt

/-- A task is in one place only. -/
theorem Sound.placed_nodup {dispatcher : Dispatcher Task} {reported : List (Report Task)}
    (sound : Sound dispatcher reported) :
    (completions reported ++
      (dispatcher.stage.held ++ dispatcher.queue).map Ticketed.key).Nodup :=
  sound.accounts.placed.nodup_iff.mpr sound.keys_nodup

theorem Sound.pending_unfinished {dispatcher : Dispatcher Task}
    {reported : List (Report Task)} (sound : Sound dispatcher reported) {task : Task}
    (pending : task ∈ dispatcher.stage.held ++ dispatcher.queue) :
    Ticketed.key task ∉ completions reported := by
  intro finished
  have apart := (List.nodup_append.mp sound.placed_nodup).2.2
  exact apart _ finished _ (List.mem_map_of_mem pending) rfl

theorem Accounts.schedule {dispatcher : Dispatcher Task} {reported : List (Report Task)}
    (accounts : Accounts dispatcher reported) :
    Accounts (schedule dispatcher) reported := by
  obtain ⟨scheduled, wakeups, frame⟩ := schedule_frame dispatcher
  rw [frame]
  exact ⟨accounts.done, accounts.placed, accounts.tail⟩

theorem Accounts.submit {dispatcher : Dispatcher Task} {reported : List (Report Task)}
    (accounts : Accounts dispatcher reported) (task : Task) (issued order : Nat) :
    Accounts { dispatcher with
      issued := issued, order := order, queue := dispatcher.queue ++ [task] }
      (reported ++ [.submitted task]) where
  done := by
    intro key
    simpa using accounts.done key
  placed := by
    have grown := accounts.placed.append_right [Ticketed.key task]
    simpa using grown
  tail := by
    obtain ⟨past, split, ran, taken⟩ := accounts.tail
    refine ⟨past, ?_, ?_, ?_⟩
    · simp [split]
    · simpa using ran
    · simpa using taken

theorem Sound.submit {dispatcher : Dispatcher Task} {reported : List (Report Task)}
    {task : Task} (sound : Sound dispatcher reported) (alive : dispatcher.alive = true)
    (key : Ticketed.key task = dispatcher.issued)
    (epoch : Ticketed.epoch task = dispatcher.epoch)
    (order : Ticketed.order task = dispatcher.order + 1) :
    Sound (schedule { dispatcher with
        issued := dispatcher.issued + 1, order := dispatcher.order + 1,
        queue := dispatcher.queue ++ [task] })
      (reported ++ [.submitted task]) := by
  refine ⟨?_, ?_, ?_⟩
  · obtain ⟨scheduled, wakeups, frame⟩ := schedule_frame { dispatcher with
      issued := dispatcher.issued + 1, order := dispatcher.order + 1,
      queue := dispatcher.queue ++ [task] }
    rw [frame, submissions_append]
    exact sound.numbering.submit key epoch order
  · exact (sound.accounts.submit task _ _).schedule
  · exact schedule_wakeups sound.wakeups.scheduled alive

theorem Sound.cancel {dispatcher : Dispatcher Task} {reported : List (Report Task)}
    (sound : Sound dispatcher reported) :
    Sound (completeAll (dispatcher.queue.map Ticketed.key)
        { dispatcher with queue := [] }).1
      (reported ++ (completeAll (dispatcher.queue.map Ticketed.key)
        { dispatcher with queue := [] }).2) := by
  have distinct : (dispatcher.queue.map Ticketed.key).Nodup := by
    have pending := (List.nodup_append.mp sound.placed_nodup).2.1
    rw [List.map_append] at pending
    exact (List.nodup_append.mp pending).2.1
  have fresh : ∀ key ∈ dispatcher.queue.map Ticketed.key, key ∉ dispatcher.done := by
    intro key member
    obtain ⟨task, queued, rfl⟩ := List.mem_map.mp member
    rw [sound.accounts.done]
    exact sound.pending_unfinished (List.mem_append_right _ queued)
  obtain ⟨done, finished, members⟩ := completeAll_fresh
    (dispatcher.queue.map Ticketed.key) { dispatcher with queue := [] } distinct fresh
  rw [finished]
  refine ⟨?_, ⟨?_, ?_, ?_⟩, ⟨?_, ?_, ?_⟩⟩
  · rw [submissions_append, submissions_finished, List.append_nil]
    exact sound.numbering
  · intro key
    rw [members, completions_append, completions_finished, List.mem_append, or_comm,
      ← sound.accounts.done]
  · rw [submissions_append, submissions_finished, completions_append,
      completions_finished, List.append_nil, List.append_nil, List.append_assoc]
    refine List.Perm.trans ?_ sound.accounts.placed
    rw [List.map_append]
    exact List.Perm.append_left _ List.perm_append_comm
  · obtain ⟨past, split, ran, taken⟩ := sound.accounts.tail
    refine ⟨past ++ dispatcher.queue, ?_, ?_, ?_⟩
    · rw [submissions_append, submissions_finished, List.append_nil, List.append_nil]
      exact split
    · rw [executions_append, executions_finished, List.append_nil]
      exact ran.trans (List.sublist_append_left _ _)
    · intro task atStage
      obtain ⟨front, back, rfl, before⟩ := taken task atStage
      rw [executions_append, executions_finished, List.append_nil]
      exact ⟨front, back ++ dispatcher.queue, by simp, before⟩
  · intro queued
    exact absurd rfl queued
  · exact sound.wakeups.scheduled
  · intro stopped
    exact ⟨rfl, (sound.wakeups.alive stopped).2⟩

/-- Taking the head of the queue. -/
theorem Sound.take {dispatcher : Dispatcher Task} {reported : List (Report Task)}
    {task : Task} {rest : List Task} (sound : Sound dispatcher reported)
    (alive : dispatcher.alive = true) (idle : dispatcher.stage = .idle)
    (queued : dispatcher.queue = task :: rest) (wakeups : Nat) :
    Sound { dispatcher with wakeups := wakeups, queue := rest, stage := .taken task }
      reported := by
  refine ⟨sound.numbering, ⟨sound.accounts.done, ?_, ?_⟩, ⟨?_, ?_, ?_⟩⟩
  · have placed := sound.accounts.placed
    rw [idle, queued] at placed
    exact placed
  · obtain ⟨past, split, ran, _⟩ := sound.accounts.tail
    refine ⟨past ++ [task], ?_, ?_, ?_⟩
    · rw [split, queued]
      simp
    · exact ran.trans (List.sublist_append_left _ _)
    · intro other atStage
      cases atStage
      exact ⟨past, [], rfl, ran⟩
  · intro _
    exact .inr rfl
  · intro _
    exact .inr rfl
  · intro stopped
    rw [alive] at stopped
    cases stopped

/-- The decision about a taken task, with or without running it. -/
theorem Sound.decide {dispatcher : Dispatcher Task} {reported observed : List (Report Task)}
    {task : Task} (sound : Sound dispatcher reported)
    (taken : dispatcher.stage = .taken task)
    (choice : observed = [.ran task] ∨ observed = []) :
    Sound { dispatcher with stage := .decided task } (reported ++ observed) := by
  have noSubmission : submissions observed = [] := by
    rcases choice with rfl | rfl <;> rfl
  have noCompletion : completions observed = [] := by
    rcases choice with rfl | rfl <;> rfl
  obtain ⟨past, split, ran, before⟩ := sound.accounts.tail
  obtain ⟨front, back, rfl, earlier⟩ := before task taken
  have alive : dispatcher.alive = true := by
    cases alive : dispatcher.alive with
    | true => rfl
    | false =>
        have idle := (sound.wakeups.alive alive).2
        rw [taken] at idle
        cases idle
  refine ⟨?_, ⟨?_, ?_, ?_⟩, ⟨?_, ?_, ?_⟩⟩
  · rw [submissions_append, noSubmission, List.append_nil]
    exact sound.numbering
  · intro key
    rw [completions_append, noCompletion, List.append_nil]
    exact sound.accounts.done key
  · have placed := sound.accounts.placed
    rw [taken] at placed
    rw [completions_append, noCompletion, submissions_append, noSubmission,
      List.append_nil, List.append_nil]
    exact placed
  · refine ⟨front ++ task :: back, ?_, ?_, ?_⟩
    · rw [submissions_append, noSubmission, List.append_nil]
      exact split
    · rw [executions_append]
      rcases choice with rfl | rfl
      · refine List.Sublist.append earlier ?_
        exact List.singleton_sublist.mpr List.mem_cons_self
      · simpa using ran
    · intro other atStage
      cases atStage
  · intro _
    exact .inr rfl
  · intro _
    exact .inr rfl
  · intro stopped
    rw [alive] at stopped
    cases stopped

theorem Sound.finish {dispatcher : Dispatcher Task} {reported : List (Report Task)}
    {task : Task} (sound : Sound dispatcher reported)
    (decided : dispatcher.stage = .decided task) :
    Sound (complete { dispatcher with stage := .finished } (Ticketed.key task)).1
      (reported ++
        (complete { dispatcher with stage := .finished } (Ticketed.key task)).2) := by
  have unfinished : Ticketed.key task ∉ dispatcher.done := by
    rw [sound.accounts.done]
    refine sound.pending_unfinished ?_
    rw [decided]
    exact List.mem_cons_self
  have alive : dispatcher.alive = true := by
    cases alive : dispatcher.alive with
    | true => rfl
    | false =>
        have idle := (sound.wakeups.alive alive).2
        rw [decided] at idle
        cases idle
  simp only [complete, unfinished, if_false]
  refine ⟨?_, ⟨?_, ?_, ?_⟩, ⟨?_, ?_, ?_⟩⟩
  · simpa using sound.numbering
  · intro key
    rw [completions_append, List.mem_append, ← sound.accounts.done, List.mem_cons]
    simp [or_comm]
  · have placed := sound.accounts.placed
    rw [decided] at placed
    simpa [Stage.held] using placed
  · obtain ⟨past, split, ran, _⟩ := sound.accounts.tail
    refine ⟨past, ?_, ?_, ?_⟩
    · simpa using split
    · simpa using ran
    · intro other atStage
      cases atStage
  · intro _
    exact .inr rfl
  · intro _
    exact .inr rfl
  · intro stopped
    rw [alive] at stopped
    cases stopped

theorem Sound.rearm {dispatcher : Dispatcher Task} {reported : List (Report Task)}
    (sound : Sound dispatcher reported) (finished : dispatcher.stage = .finished) :
    Sound (FifoDispatcher.schedule { dispatcher with stage := .idle, scheduled := false })
      reported := by
  have alive : dispatcher.alive = true := by
    cases alive : dispatcher.alive with
    | true => rfl
    | false =>
        have idle := (sound.wakeups.alive alive).2
        rw [finished] at idle
        cases idle
  have accounts : Accounts { dispatcher with stage := .idle, scheduled := false }
      reported := by
    refine ⟨sound.accounts.done, ?_, ?_⟩
    · have placed := sound.accounts.placed
      rw [finished] at placed
      exact placed
    · obtain ⟨past, split, ran, _⟩ := sound.accounts.tail
      refine ⟨past, split, ran, ?_⟩
      intro task atStage
      cases atStage
  refine ⟨?_, accounts.schedule, ?_⟩
  · obtain ⟨scheduled, wakeups, frame⟩ := schedule_frame
      { dispatcher with stage := .idle, scheduled := false }
    rw [frame]
    exact sound.numbering
  · refine schedule_wakeups ?_ alive
    intro scheduled
    cases scheduled

theorem Sound.step {dispatcher next : Dispatcher Task}
    {reported observed : List (Report Task)} {action : Action Task}
    (sound : Sound dispatcher reported)
    (taken : FifoDispatcher.step dispatcher action = some (next, observed)) :
    Sound next (reported ++ observed) := by
  cases action with
  | submit task =>
      simp only [FifoDispatcher.step] at taken
      split at taken
      · rename_i accepted
        obtain ⟨alive, key, epoch, order⟩ := accepted
        cases taken
        exact sound.submit alive key epoch order
      · cases taken
  | skip =>
      cases taken
      rw [List.append_nil]
      exact ⟨sound.numbering.skip, ⟨sound.accounts.done, sound.accounts.placed,
        sound.accounts.tail⟩, ⟨sound.wakeups.ahead, sound.wakeups.scheduled,
        sound.wakeups.alive⟩⟩
  | openEpoch =>
      cases taken
      rw [List.append_nil]
      exact ⟨sound.numbering.openEpoch, ⟨sound.accounts.done, sound.accounts.placed,
        sound.accounts.tail⟩, ⟨sound.wakeups.ahead, sound.wakeups.scheduled,
        sound.wakeups.alive⟩⟩
  | cancel =>
      have cancelled := sound.cancel
      simp only [FifoDispatcher.step, Option.some.injEq] at taken
      rw [taken] at cancelled
      exact cancelled
  | wake =>
      simp only [FifoDispatcher.step] at taken
      split at taken
      · rename_i idle
        split at taken
        · cases taken
        · rename_i ready
          simp only [not_or, Bool.not_eq_false] at ready
          split at taken
          · rename_i empty
            cases taken
            rw [List.append_nil]
            refine ⟨sound.numbering, ⟨sound.accounts.done, sound.accounts.placed,
              sound.accounts.tail⟩, ⟨?_, ?_, ?_⟩⟩
            · intro queued
              exact absurd empty queued
            · intro scheduled
              cases scheduled
            · intro stopped
              exact sound.wakeups.alive stopped
          · rename_i task rest queued
            cases taken
            rw [List.append_nil]
            exact sound.take ready.2 idle queued _
      · cases taken
  | run =>
      simp only [FifoDispatcher.step] at taken
      split at taken
      · rename_i task atStage
        cases taken
        exact sound.decide atStage (.inl rfl)
      · cases taken
  | pass =>
      simp only [FifoDispatcher.step] at taken
      split at taken
      · rename_i task atStage
        cases taken
        exact sound.decide atStage (.inr rfl)
      · cases taken
  | finish =>
      simp only [FifoDispatcher.step] at taken
      split at taken
      · rename_i task atStage
        have finished := sound.finish atStage
        rw [Option.some.inj taken] at finished
        exact finished
      · cases taken
  | rearm =>
      simp only [FifoDispatcher.step] at taken
      split at taken
      · rename_i atStage
        cases taken
        rw [List.append_nil]
        exact sound.rearm atStage
      · cases taken
  | shutdown =>
      simp only [FifoDispatcher.step] at taken
      split at taken
      · rename_i idle empty
        cases taken
        rw [List.append_nil]
        refine ⟨sound.numbering, ⟨sound.accounts.done, sound.accounts.placed,
          sound.accounts.tail⟩, ⟨sound.wakeups.ahead, sound.wakeups.scheduled, ?_⟩⟩
        intro _
        refine ⟨empty, ?_⟩
        rw [idle]
        rfl
      · cases taken

theorem sound_of_run
    {history : List (Transition (Dispatcher Task) (Action Task) (Report Task))}
    {dispatcher : Dispatcher Task} (run : Run machine history dispatcher) :
    Sound dispatcher (log history) := by
  refine run.invariant Sound ?_ ?_
  · intro dispatcher initial
    exact sound_initial initial
  · intro dispatcher reported action next observed sound taken
    exact sound.step taken

/-! ## What follows for runs -/

/-- Tasks run in the order of their submission, each at most once. -/
theorem Sound.ran_sublist {dispatcher : Dispatcher Task} {reported : List (Report Task)}
    (sound : Sound dispatcher reported) :
    (executions reported).Sublist (submissions reported) := by
  obtain ⟨past, split, ran, _⟩ := sound.accounts.tail
  rw [split]
  exact ran.trans (List.sublist_append_left _ _)

theorem Sound.ran_keys {dispatcher : Dispatcher Task} {reported : List (Report Task)}
    (sound : Sound dispatcher reported) :
    ((executions reported).map Ticketed.key).Pairwise (· < ·) :=
  sound.numbering.keys.sublist (sound.ran_sublist.map Ticketed.key)

/-- Within an epoch the orders of what ran increase. -/
theorem Sound.ran_orders {dispatcher : Dispatcher Task} {reported : List (Report Task)}
    (sound : Sound dispatcher reported) (epoch : Nat) :
    ((ofEpoch epoch (executions reported)).map Ticketed.order).Pairwise (· < ·) := by
  have within : (ofEpoch epoch (executions reported)).Sublist
      (ofEpoch epoch (submissions reported)) :=
    sound.ran_sublist.filter _
  refine List.Pairwise.sublist (within.map Ticketed.order) ?_
  rw [sound.numbering.orders epoch]
  exact List.pairwise_lt_range'

theorem Sound.completions_nodup {dispatcher : Dispatcher Task}
    {reported : List (Report Task)} (sound : Sound dispatcher reported) :
    (completions reported).Nodup :=
  (List.nodup_append.mp sound.placed_nodup).1

omit [Ticketed Task] in
theorem complete_executions (dispatcher : Dispatcher Task) (key : Nat) :
    executions (complete dispatcher key).2 = [] := by
  unfold complete
  split <;> rfl

omit [Ticketed Task] in
theorem completeAll_executions (keys : List Nat) (dispatcher : Dispatcher Task) :
    executions (completeAll keys dispatcher).2 = [] := by
  induction keys generalizing dispatcher with
  | nil => rfl
  | cons key rest inductionHypothesis =>
      simp only [completeAll, executions_append, complete_executions, inductionHypothesis,
        List.append_nil]

/-- Only the dispatcher's own step runs a task, and it reports nothing else. -/
theorem ran_of_step {dispatcher next : Dispatcher Task} {action : Action Task}
    {observed : List (Report Task)} {task : Task}
    (taken : step dispatcher action = some (next, observed))
    (ran : task ∈ executions observed) :
    dispatcher.stage = .taken task ∧ observed = [.ran task] := by
  cases action with
  | run =>
      simp only [step] at taken
      split at taken
      · rename_i current atStage
        cases taken
        obtain rfl : task = current := by
          simpa using ran
        exact ⟨atStage, rfl⟩
      · cases taken
  | cancel =>
      have reported : _ = observed := congrArg Prod.snd (Option.some.inj taken)
      rw [← reported, completeAll_executions] at ran
      cases ran
  | finish =>
      simp only [step] at taken
      split at taken
      · have reported : _ = observed := congrArg Prod.snd (Option.some.inj taken)
        rw [← reported, complete_executions] at ran
        cases ran
      · cases taken
  | wake =>
      simp only [step] at taken
      split at taken
      · split at taken
        · cases taken
        · split at taken <;> cases taken <;> cases ran
      · cases taken
  | submit | pass | rearm | shutdown =>
      simp only [step] at taken
      split at taken
      · cases taken
        simp at ran
      · cases taken
  | skip | openEpoch =>
      cases taken
      cases ran

/-- A finished task does not run any more. -/
theorem run_before_finish
    {history : List (Transition (Dispatcher Task) (Action Task) (Report Task))}
    {dispatcher : Dispatcher Task} (run : Run machine history dispatcher)
    {before after : List (Report Task)} {task : Task}
    (split : log history = before ++ .ran task :: after) :
    Ticketed.key task ∉ completions before := by
  obtain ⟨earlier, transition, later, front, back, inHistory, observed, rfl, _⟩ :=
    log_split split
  obtain ⟨shorter, taken⟩ := run.of_split inHistory
  have ran : task ∈ executions transition.observed := by
    simp [observed]
  obtain ⟨atStage, single⟩ := ran_of_step taken ran
  have first : front = [] := by
    have lengths := congrArg List.length (observed.symm.trans single)
    rw [← List.length_eq_zero_iff]
    simp at lengths
    omega
  rw [first, List.append_nil]
  refine (sound_of_run shorter).pending_unfinished ?_
  rw [atStage]
  exact List.mem_cons_self

end FifoDispatcher
