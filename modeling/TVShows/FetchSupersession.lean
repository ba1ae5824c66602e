import Mathlib.Data.List.Count
import Mathlib.Data.List.Nodup
import TVShows.Networking
import TVShows.TransitionRun

/-! One `NetworkingService` under any number of calls. A call cancels the stored
task and starts its own; `URLSession` runs each task's handler once, off the
main queue, and the handler's block waits its turn on the main queue. `cancel`
reaches only a task that has not finished, so an outcome that is already on its
way is delivered after the newer call. The endpoint is a constant that parses,
which leaves out the branch for an invalid URL. -/

namespace TVShows

open TransitionRun

variable {Data : Type}

inductive TaskState (Data : Type)
  | running
  | cancelled
  | finished (outcome : TaskOutcome Data)
  | handled

/-- Tasks are numbered by the call of `fetchTVShows` that started them; blocks
and completions carry that number. -/
structure NetworkingService (Data : Type) where
  task : Option Nat
  tasks : List (TaskState Data)
  mainQueue : List (Nat × TaskOutcome Data)
  completions : List (Nat × TVShowsModel)

inductive ServiceEvent (Data : Type)
  | fetchTVShows
  | taskFinishes (i : Nat) (outcome : TaskOutcome Data)
  | handlerRuns (i : Nat)
  | mainBlockRuns

namespace NetworkingService

def initial (Data : Type) : NetworkingService Data :=
  ⟨none, [], [], []⟩

/-- `task?.cancel()`; a task that has finished is not affected. -/
def cancelTask (self : NetworkingService Data) : List (TaskState Data) :=
  match self.task with
  | none => self.tasks
  | some i =>
    match self.tasks[i]? with
    | some .running => self.tasks.set i .cancelled
    | _ => self.tasks

def fetchTVShows (self : NetworkingService Data) : NetworkingService Data :=
  { self with task := some self.tasks.length, tasks := self.cancelTask ++ [.running] }

def taskFinishes (self : NetworkingService Data) (i : Nat) (outcome : TaskOutcome Data) :
    Option (NetworkingService Data) :=
  match self.tasks[i]? with
  | some .running => some { self with tasks := self.tasks.set i (.finished outcome) }
  | _ => none

def handlerRuns (self : NetworkingService Data) (i : Nat) : Option (NetworkingService Data) :=
  match self.tasks[i]? with
  | some (.finished outcome) =>
    some { self with
      tasks := self.tasks.set i .handled, mainQueue := self.mainQueue ++ [(i, outcome)] }
  | some .cancelled =>
    some { self with
      tasks := self.tasks.set i .handled, mainQueue := self.mainQueue ++ [(i, .cancelled Data)] }
  | _ => none

def mainBlockRuns (self : NetworkingService Data)
    (decode : Data → Except SwiftError (List TVShow)) : Option (NetworkingService Data) :=
  match self.mainQueue with
  | [] => none
  | (i, outcome) :: rest =>
    match fetchCompletion decode outcome with
    | none => some { self with mainQueue := rest }
    | some response =>
      some { self with mainQueue := rest, completions := self.completions ++ [(i, response)] }

def step (decode : Data → Except SwiftError (List TVShow)) (self : NetworkingService Data) :
    ServiceEvent Data → Option (NetworkingService Data)
  | .fetchTVShows => some self.fetchTVShows
  | .taskFinishes i outcome => self.taskFinishes i outcome
  | .handlerRuns i => self.handlerRuns i
  | .mainBlockRuns => self.mainBlockRuns decode

end NetworkingService

def ServiceStep (decode : Data → Except SwiftError (List TVShow)) (s : NetworkingService Data)
    (event : ServiceEvent Data) (s' : NetworkingService Data) : Prop :=
  s.step decode event = some s'

def TaskOutcome.Cancelled (outcome : TaskOutcome Data) : Prop :=
  ∃ error, outcome.error = some error ∧ error.code = NSURLErrorCancelled

/-- No outcome but a cancellation is on its way: neither finished and waiting
for its handler nor queued for the main queue. -/
def NetworkingService.Settled (s : NetworkingService Data) : Prop :=
  (∀ (i : Nat) (outcome : TaskOutcome Data),
      s.tasks[i]? = some (.finished outcome) → outcome.Cancelled) ∧
    ∀ i outcome, (i, outcome) ∈ s.mainQueue → outcome.Cancelled

def NetworkingService.delivered (s : NetworkingService Data) (i : Nat) : Nat :=
  s.mainQueue.countP (fun block => block.1 == i) +
    s.completions.countP (fun completion => completion.1 == i)

inductive ServiceChange (decode : Data → Except SwiftError (List TVShow))
    (s : NetworkingService Data) : NetworkingService Data → Prop
  | fetched : ServiceChange decode s s.fetchTVShows
  | finished (i : Nat) (outcome : TaskOutcome Data) : s.tasks[i]? = some .running →
      ServiceChange decode s { s with tasks := s.tasks.set i (.finished outcome) }
  | handled (i : Nat) (outcome : TaskOutcome Data) :
      s.tasks[i]? = some (.finished outcome) ∨
        s.tasks[i]? = some .cancelled ∧ outcome = .cancelled Data →
      ServiceChange decode s
        { s with tasks := s.tasks.set i .handled, mainQueue := s.mainQueue ++ [(i, outcome)] }
  | dropped (i : Nat) (outcome : TaskOutcome Data) (rest : List (Nat × TaskOutcome Data)) :
      s.mainQueue = (i, outcome) :: rest → fetchCompletion decode outcome = none →
      ServiceChange decode s { s with mainQueue := rest }
  | completed (i : Nat) (outcome : TaskOutcome Data) (rest : List (Nat × TaskOutcome Data))
      (response : TVShowsModel) :
      s.mainQueue = (i, outcome) :: rest → fetchCompletion decode outcome = some response →
      ServiceChange decode s
        { s with mainQueue := rest, completions := s.completions ++ [(i, response)] }

section Steps
variable {decode : Data → Except SwiftError (List TVShow)} {s s' : NetworkingService Data}

theorem ServiceStep.change {event : ServiceEvent Data} (h : ServiceStep decode s event s') :
    ServiceChange decode s s' := by
  unfold ServiceStep at h
  cases event with
  | fetchTVShows => exact Option.some.inj h ▸ .fetched
  | taskFinishes i outcome =>
    simp only [NetworkingService.step, NetworkingService.taskFinishes] at h
    split at h
    · rename_i hrunning
      exact Option.some.inj h ▸ .finished i outcome hrunning
    · cases h
  | handlerRuns i =>
    simp only [NetworkingService.step, NetworkingService.handlerRuns] at h
    split at h
    · rename_i outcome hfinished
      exact Option.some.inj h ▸ .handled i outcome (.inl hfinished)
    · rename_i hcancelled
      exact Option.some.inj h ▸ .handled i _ (.inr ⟨hcancelled, rfl⟩)
    · cases h
  | mainBlockRuns =>
    simp only [NetworkingService.step, NetworkingService.mainBlockRuns] at h
    split at h
    · cases h
    · rename_i i outcome rest hqueue
      split at h
      · rename_i hnone
        exact Option.some.inj h ▸ .dropped i outcome rest hqueue hnone
      · rename_i response hsome
        exact Option.some.inj h ▸ .completed i outcome rest response hqueue hsome

theorem cancelTask_length (s : NetworkingService Data) :
    s.cancelTask.length = s.tasks.length := by
  unfold NetworkingService.cancelTask
  split
  · rfl
  · split <;> simp

theorem cancelTask_getElem? (s : NetworkingService Data) (i : Nat) :
    (s.cancelTask[i]? = s.tasks[i]? ∧ (s.task = some i → s.tasks[i]? ≠ some .running)) ∨
      (s.task = some i ∧ s.tasks[i]? = some .running ∧ s.cancelTask[i]? = some .cancelled) := by
  unfold NetworkingService.cancelTask
  cases htask : s.task with
  | none => exact .inl ⟨rfl, fun h => by cases h⟩
  | some j =>
    by_cases hrunning : s.tasks[j]? = some .running
    · have hlt := (List.getElem?_eq_some_iff.mp hrunning).1
      simp only [hrunning]
      by_cases hij : j = i
      · exact .inr ⟨by rw [hij], hij ▸ hrunning, by rw [← hij, List.getElem?_set_self hlt]⟩
      · exact .inl ⟨List.getElem?_set_ne hij, fun h => absurd (Option.some.inj h) hij⟩
    · refine .inl ⟨?_, fun h => Option.some.inj h ▸ hrunning⟩
      dsimp only
      split
      · contradiction
      · rfl

theorem fetchTVShows_tasks (s : NetworkingService Data) {i : Nat} (h : i < s.tasks.length) :
    s.fetchTVShows.tasks[i]? = s.cancelTask[i]? := by
  rw [NetworkingService.fetchTVShows,
    List.getElem?_append_left (by rw [cancelTask_length]; exact h)]

theorem fetchTVShows_task_iff {i : Nat} {state : TaskState Data} (h : i < s.tasks.length)
    (hrunning : state ≠ .running) (hcancelled : state ≠ .cancelled) :
    s.fetchTVShows.tasks[i]? = some state ↔ s.tasks[i]? = some state := by
  rw [fetchTVShows_tasks s h]
  cases cancelTask_getElem? s i with
  | inl hsame => rw [hsame.1]
  | inr hstored =>
    rw [hstored.2.1, hstored.2.2]
    refine iff_of_false (fun heq => ?_) fun heq => ?_
    · exact hcancelled (Option.some.inj heq).symm
    · exact hrunning (Option.some.inj heq).symm

theorem running_of_fetchTVShows {i : Nat} (h : i < s.tasks.length)
    (hrunning : s.fetchTVShows.tasks[i]? = some .running) :
    s.tasks[i]? = some .running ∧ s.task ≠ some i := by
  rw [fetchTVShows_tasks s h] at hrunning
  cases cancelTask_getElem? s i with
  | inl hsame =>
    have hold := hsame.1.symm.trans hrunning
    exact ⟨hold, fun hstored => hsame.2 hstored hold⟩
  | inr hstored =>
    rw [hstored.2.2] at hrunning
    cases hrunning

end Steps

structure ServiceInvariant (s : NetworkingService Data) : Prop where
  runningIsStored : ∀ i, s.tasks[i]? = some .running → s.task = some i
  deliveredOnce : ∀ i, s.delivered i ≤ 1
  deliveredAfter : ∀ i, s.tasks[i]? ≠ some .handled → s.delivered i = 0

namespace ServiceInvariant
variable {decode : Data → Except SwiftError (List TVShow)} {s s' : NetworkingService Data}

theorem initial : ServiceInvariant (NetworkingService.initial Data) where
  runningIsStored i h := by cases h
  deliveredOnce i := Nat.zero_le 1
  deliveredAfter i _ := rfl

theorem fetched (inv : ServiceInvariant s) : ServiceInvariant s.fetchTVShows := by
  have hdelivered : ∀ i, s.fetchTVShows.delivered i = s.delivered i := fun _ => rfl
  refine ⟨fun i hi => ?_, inv.deliveredOnce, fun i hi => ?_⟩
  · have hlt : i < s.fetchTVShows.tasks.length := (List.getElem?_eq_some_iff.mp hi).1
    simp only [NetworkingService.fetchTVShows, List.length_append, cancelTask_length,
      List.length_singleton] at hlt
    by_cases hold : i < s.tasks.length
    · obtain ⟨hrunning, hother⟩ := running_of_fetchTVShows hold hi
      exact absurd (inv.runningIsStored i hrunning) hother
    · have hnew : s.tasks.length = i := by omega
      rw [NetworkingService.fetchTVShows, hnew]
  · rw [hdelivered]
    refine inv.deliveredAfter i fun hhandled => hi ?_
    have hlt := (List.getElem?_eq_some_iff.mp hhandled).1
    exact (fetchTVShows_task_iff hlt (by simp) (by simp)).mpr hhandled

theorem change (inv : ServiceInvariant s) (h : ServiceChange decode s s') :
    ServiceInvariant s' := by
  cases h with
  | fetched => exact inv.fetched
  | finished i outcome hrunning =>
    have hlt := (List.getElem?_eq_some_iff.mp hrunning).1
    refine ⟨fun j hj => ?_, inv.deliveredOnce, fun j hj => ?_⟩
    · by_cases hij : i = j
      · rw [← hij]
        exact inv.runningIsStored i hrunning
      · exact inv.runningIsStored j (by rwa [List.getElem?_set_ne hij] at hj)
    · refine inv.deliveredAfter j fun hhandled => ?_
      by_cases hij : i = j
      · rw [hij, hhandled] at hrunning
        cases hrunning
      · exact hj (by rwa [List.getElem?_set_ne hij])
  | handled i outcome hstate =>
    have hnot : s.tasks[i]? ≠ some .handled := by
      intro hhandled
      rw [hhandled] at hstate
      simp at hstate
    have hlt : i < s.tasks.length := by
      by_contra hge
      rw [List.getElem?_eq_none (Nat.le_of_not_lt hge)] at hstate
      simp at hstate
    have hzero := inv.deliveredAfter i hnot
    refine ⟨fun j hj => ?_, fun j => ?_, fun j hj => ?_⟩
    · by_cases hij : i = j
      · rw [← hij, List.getElem?_set_self hlt] at hj
        cases hj
      · exact inv.runningIsStored j (by rwa [List.getElem?_set_ne hij] at hj)
    · have hone := inv.deliveredOnce j
      simp only [NetworkingService.delivered, List.countP_append, List.countP_singleton,
        beq_iff_eq] at hzero hone ⊢
      split_ifs with hij
      · rw [← hij]
        omega
      · omega
    · have hne : i ≠ j := by
        intro hij
        rw [← hij, List.getElem?_set_self hlt] at hj
        exact hj rfl
      have hold := inv.deliveredAfter j (by rwa [List.getElem?_set_ne hne] at hj)
      simp only [NetworkingService.delivered, List.countP_append, List.countP_singleton,
        beq_iff_eq, if_neg hne] at hold ⊢
      omega
  | dropped i outcome rest hqueue hnone =>
    have hle : ∀ j, ({ s with mainQueue := rest } : NetworkingService Data).delivered j ≤
        s.delivered j := by
      intro j
      simp only [NetworkingService.delivered, hqueue, List.countP_cons]
      omega
    refine ⟨inv.runningIsStored, fun j => Nat.le_trans (hle j) (inv.deliveredOnce j),
      fun j hj => ?_⟩
    have hzero := inv.deliveredAfter j hj
    have hj := hle j
    omega
  | completed i outcome rest response hqueue hsome =>
    have hsame : ∀ j, ({ s with mainQueue := rest, completions := s.completions ++ [(i, response)] }
        : NetworkingService Data).delivered j = s.delivered j := by
      intro j
      simp only [NetworkingService.delivered, hqueue, List.countP_cons, List.countP_append,
        List.countP_nil]
      omega
    exact ⟨inv.runningIsStored, fun j => hsame j ▸ inv.deliveredOnce j,
      fun j hj => hsame j ▸ inv.deliveredAfter j hj⟩

theorem reachable (h : Reachable (· = NetworkingService.initial Data) (ServiceStep decode) s) :
    ServiceInvariant s :=
  h.invariant (fun _ hstart => hstart ▸ ServiceInvariant.initial)
    fun _ _ _ inv hstep => inv.change hstep.change

theorem completions_nodup (inv : ServiceInvariant s) : (s.completions.map Prod.fst).Nodup := by
  rw [List.nodup_iff_count_le_one]
  intro i
  have hone := inv.deliveredOnce i
  have hcount : (s.completions.map Prod.fst).count i =
      s.completions.countP (fun completion => completion.1 == i) := by
    rw [List.count, List.countP_map]
    rfl
  simp only [NetworkingService.delivered] at hone
  omega

theorem queued (inv : ServiceInvariant s) {i : Nat} {outcome : TaskOutcome Data}
    (h : (i, outcome) ∈ s.mainQueue) :
    i < s.tasks.length ∧ ∀ response, (i, response) ∉ s.completions := by
  have hpos : 0 < s.mainQueue.countP (fun block => block.1 == i) :=
    List.countP_pos_iff.mpr ⟨(i, outcome), h, beq_self_eq_true i⟩
  have hone := inv.deliveredOnce i
  simp only [NetworkingService.delivered] at hone
  refine ⟨?_, fun response hmem => ?_⟩
  · by_contra hge
    have hnone : s.tasks[i]? ≠ some .handled := by
      rw [List.getElem?_eq_none (Nat.le_of_not_lt hge)]
      exact fun h => by cases h
    have hzero := inv.deliveredAfter i hnone
    simp only [NetworkingService.delivered] at hzero
    omega
  · have hdone : 0 < s.completions.countP (fun completion => completion.1 == i) :=
      List.countP_pos_iff.mpr ⟨(i, response), hmem, beq_self_eq_true i⟩
    omega

theorem finished (inv : ServiceInvariant s) {i : Nat} {outcome : TaskOutcome Data}
    (h : s.tasks[i]? = some (.finished outcome)) (response : TVShowsModel) :
    (i, response) ∉ s.completions := by
  intro hmem
  have hnot : s.tasks[i]? ≠ some .handled := by
    rw [h]
    exact fun h => by cases h
  have hzero := inv.deliveredAfter i hnot
  have hdone : 0 < s.completions.countP (fun completion => completion.1 == i) :=
    List.countP_pos_iff.mpr ⟨(i, response), hmem, beq_self_eq_true i⟩
  simp only [NetworkingService.delivered] at hzero
  omega

end ServiceInvariant

structure Superseded (n : Nat) (s : NetworkingService Data) : Prop where
  made : n ≤ s.tasks.length
  notRunning : ∀ i < n, s.tasks[i]? ≠ some .running
  finished : ∀ i < n, ∀ outcome, s.tasks[i]? = some (.finished outcome) → outcome.Cancelled
  queued : ∀ i < n, ∀ outcome, (i, outcome) ∈ s.mainQueue → outcome.Cancelled

def NoStaleCompletion (n : Nat) (s s' : NetworkingService Data) : Prop :=
  ∀ i < n, ∀ response, (i, response) ∈ s'.completions → (i, response) ∈ s.completions

namespace Superseded
variable {decode : Data → Except SwiftError (List TVShow)} {s s' : NetworkingService Data} {n : Nat}

theorem fetch (h : Superseded n s) : Superseded n s.fetchTVShows := by
  have hearlier : ∀ i < n, i < s.tasks.length := fun i hi => Nat.lt_of_lt_of_le hi h.made
  refine ⟨?_, fun i hi hrunning => ?_, fun i hi outcome hfinished => ?_, h.queued⟩
  · have hmade := h.made
    simp only [NetworkingService.fetchTVShows, List.length_append, cancelTask_length]
    omega
  · exact h.notRunning i hi (running_of_fetchTVShows (hearlier i hi) hrunning).1
  · have hold := (fetchTVShows_task_iff (hearlier i hi) (by simp) (by simp)).mp hfinished
    exact h.finished i hi outcome hold

theorem change (h : Superseded n s) (hchange : ServiceChange decode s s') : Superseded n s' := by
  cases hchange with
  | fetched => exact h.fetch
  | finished i outcome hrunning =>
    have hold : ∀ j < n, (s.tasks.set i (.finished outcome))[j]? = s.tasks[j]? := by
      intro j hj
      refine List.getElem?_set_ne fun hij => ?_
      exact h.notRunning j hj (hij ▸ hrunning)
    refine ⟨by simpa using h.made, fun j hj => ?_, fun j hj => ?_, h.queued⟩
    · rw [hold j hj]
      exact h.notRunning j hj
    · rw [hold j hj]
      exact h.finished j hj
  | handled i outcome hstate =>
    have hcases : ∀ j : Nat, (s.tasks.set i .handled)[j]? = s.tasks[j]? ∨
        (s.tasks.set i .handled)[j]? = some .handled ∨ (s.tasks.set i .handled)[j]? = none := by
      intro j
      by_cases hij : i = j
      · rw [hij, List.getElem?_set_self']
        cases s.tasks[j]? <;> simp
      · exact .inl (List.getElem?_set_ne hij)
    refine ⟨by simpa using h.made, fun j hj hrunning => ?_, fun j hj o ho => ?_,
      fun j hj o ho => ?_⟩
    · obtain hsame | hhandled | hnone := hcases j
      · exact h.notRunning j hj (hsame.symm.trans hrunning)
      · simp [hhandled] at hrunning
      · simp [hnone] at hrunning
    · obtain hsame | hhandled | hnone := hcases j
      · exact h.finished j hj o (hsame.symm.trans ho)
      · simp [hhandled] at ho
      · simp [hnone] at ho
    · cases List.mem_append.mp ho with
      | inl hmem => exact h.queued j hj o hmem
      | inr hmem =>
        have hpair : j = i ∧ o = outcome := by simpa using hmem
        rw [hpair.2]
        cases hstate with
        | inl hfinished => exact h.finished i (hpair.1 ▸ hj) outcome hfinished
        | inr hcancelled => exact hcancelled.2 ▸ ⟨_, rfl, rfl⟩
  | dropped i outcome rest hqueue hnone =>
    refine ⟨h.made, h.notRunning, h.finished, fun j hj o ho => h.queued j hj o ?_⟩
    rw [hqueue]
    exact List.mem_cons_of_mem _ ho
  | completed i outcome rest response hqueue hsome =>
    refine ⟨h.made, h.notRunning, h.finished, fun j hj o ho => h.queued j hj o ?_⟩
    rw [hqueue]
    exact List.mem_cons_of_mem _ ho

theorem noStaleCompletion (h : Superseded n s) (hchange : ServiceChange decode s s') :
    NoStaleCompletion n s s' := by
  intro i hi response hmem
  cases hchange with
  | completed j outcome rest response' hqueue hsome =>
    cases List.mem_append.mp hmem with
    | inl hold => exact hold
    | inr hnew =>
      have hpair : i = j ∧ response = response' := by simpa using hnew
      have hcancelled := h.queued i hi outcome (by simp [hqueue, hpair.1])
      have hnone := (fetchCompletion_eq_none_iff decode outcome).mpr hcancelled
      rw [hnone] at hsome
      cases hsome
  | _ => exact hmem

theorem run {events : List (ServiceEvent Data)} (h : Superseded n s)
    (hrun : Run (ServiceStep decode) s events s') : NoStaleCompletion n s s' :=
  hrun.increases (fun _ _ _ hs hstep => hs.change hstep.change) (fun _ _ _ _ hmem => hmem)
    (fun _ _ _ hst htu i hi response hmem => hst i hi response (htu i hi response hmem))
    (fun _ _ _ hs hstep => hs.noStaleCompletion hstep.change) h

theorem of_settled (inv : ServiceInvariant s) (h : s.Settled) :
    Superseded s.tasks.length s.fetchTVShows := by
  refine ⟨?_, fun i hi hrunning => ?_, fun i hi outcome hfinished => ?_,
    fun i _ outcome hmem => h.2 i outcome hmem⟩
  · simp [NetworkingService.fetchTVShows, cancelTask_length]
  · obtain ⟨hold, hother⟩ := running_of_fetchTVShows hi hrunning
    exact hother (inv.runningIsStored i hold)
  · exact h.1 i outcome ((fetchTVShows_task_iff hi (by simp) (by simp)).mp hfinished)

end Superseded

section Delivery
variable {decode : Data → Except SwiftError (List TVShow)} {s : NetworkingService Data}

theorem mainQueue_delivers (decode : Data → Except SwiftError (List TVShow)) {i : Nat}
    {outcome : TaskOutcome Data} {response : TVShowsModel}
    (h : (i, outcome) ∈ s.mainQueue) (hsome : fetchCompletion decode outcome = some response) :
    ∃ events s', Run (ServiceStep decode) s events s' ∧ (i, response) ∈ s'.completions := by
  generalize hqueue : s.mainQueue = queue at h
  induction queue generalizing s with
  | nil => cases h
  | cons block rest ih =>
    obtain ⟨j, o⟩ := block
    cases List.mem_cons.mp h with
    | inl hhead =>
      obtain ⟨rfl, rfl⟩ := Prod.mk.inj hhead
      have hstep : ServiceStep decode s .mainBlockRuns
          { s with mainQueue := rest, completions := s.completions ++ [(i, response)] } := by
        simp only [ServiceStep, NetworkingService.step, NetworkingService.mainBlockRuns, hqueue,
          hsome]
      exact ⟨_, _, .single hstep, by simp⟩
    | inr htail =>
      have hstep : ∃ s', ServiceStep decode s .mainBlockRuns s' ∧ s'.mainQueue = rest := by
        cases hcompletion : fetchCompletion decode o with
        | none =>
          exact ⟨{ s with mainQueue := rest }, by
            simp only [ServiceStep, NetworkingService.step, NetworkingService.mainBlockRuns, hqueue,
              hcompletion], rfl⟩
        | some other =>
          exact ⟨{ s with mainQueue := rest, completions := s.completions ++ [(j, other)] }, by
            simp only [ServiceStep, NetworkingService.step, NetworkingService.mainBlockRuns, hqueue,
              hcompletion], rfl⟩
      obtain ⟨s', hs', hrest⟩ := hstep
      obtain ⟨events, s'', hrun, hmem⟩ := ih hrest htail
      exact ⟨_, s'', .cons hs' hrun, hmem⟩

theorem stale_of_not_settled (decode : Data → Except SwiftError (List TVShow))
    (inv : ServiceInvariant s) (h : ¬ s.Settled) :
    ∃ events s', Run (ServiceStep decode) s.fetchTVShows events s' ∧
      ¬ NoStaleCompletion s.tasks.length s s' := by
  have hsome : ∀ outcome : TaskOutcome Data, ¬ outcome.Cancelled →
      ∃ response, fetchCompletion decode outcome = some response := by
    intro outcome hnot
    rw [← Option.ne_none_iff_exists']
    exact fun hnone => hnot ((fetchCompletion_eq_none_iff decode outcome).mp hnone)
  rw [NetworkingService.Settled, not_and_or] at h
  cases h with
  | inl hfinished =>
    -- the call cannot cancel a task that has finished: its handler still runs
    simp only [not_forall] at hfinished
    obtain ⟨i, outcome, htask, hnot⟩ := hfinished
    obtain ⟨response, hresponse⟩ := hsome outcome hnot
    have hlt := (List.getElem?_eq_some_iff.mp htask).1
    have hstill : s.fetchTVShows.tasks[i]? = some (.finished outcome) :=
      (fetchTVShows_task_iff hlt (by simp) (by simp)).mpr htask
    have hhandler : ServiceStep decode s.fetchTVShows (.handlerRuns i)
        { s.fetchTVShows with
          tasks := s.fetchTVShows.tasks.set i .handled
          mainQueue := s.fetchTVShows.mainQueue ++ [(i, outcome)] } := by
      simp only [ServiceStep, NetworkingService.step, NetworkingService.handlerRuns, hstill]
    obtain ⟨events, s', hrun, hmem⟩ := mainQueue_delivers decode (i := i)
      (s := { s.fetchTVShows with
        tasks := s.fetchTVShows.tasks.set i .handled
        mainQueue := s.fetchTVShows.mainQueue ++ [(i, outcome)] }) (by simp) hresponse
    exact ⟨_, s', .cons hhandler hrun,
      fun hstale => inv.finished htask response (hstale i hlt response hmem)⟩
  | inr hqueued =>
    simp only [not_forall] at hqueued
    obtain ⟨i, outcome, hmem, hnot⟩ := hqueued
    obtain ⟨response, hresponse⟩ := hsome outcome hnot
    have hcall := inv.queued hmem
    obtain ⟨events, s', hrun, hdone⟩ :=
      mainQueue_delivers decode (s := s.fetchTVShows) hmem hresponse
    exact ⟨events, s', hrun, fun hstale => hcall.2 response (hstale i hcall.1 response hdone)⟩

def SettledCall (s : NetworkingService Data) : ServiceEvent Data → Prop
  | .fetchTVShows => s.Settled
  | _ => True

theorem tasks_length_of_not_fetch {event : ServiceEvent Data} {s' : NetworkingService Data}
    (h : ServiceStep decode s event s') (hevent : event ≠ .fetchTVShows) :
    s'.tasks.length = s.tasks.length := by
  unfold ServiceStep at h
  cases event with
  | fetchTVShows => exact absurd rfl hevent
  | taskFinishes i outcome =>
    simp only [NetworkingService.step, NetworkingService.taskFinishes] at h
    split at h
    · rw [← Option.some.inj h, List.length_set]
    · cases h
  | handlerRuns i =>
    simp only [NetworkingService.step, NetworkingService.handlerRuns] at h
    split at h
    · rw [← Option.some.inj h, List.length_set]
    · rw [← Option.some.inj h, List.length_set]
    · cases h
  | mainBlockRuns =>
    simp only [NetworkingService.step, NetworkingService.mainBlockRuns] at h
    split at h
    · cases h
    · split at h
      · rw [← Option.some.inj h]
      · rw [← Option.some.inj h]

theorem settledRun_superseded
    (h : Reachable (· = NetworkingService.initial Data)
      (guarded SettledCall (ServiceStep decode)) s) :
    ServiceInvariant s ∧ Superseded (s.tasks.length - 1) s := by
  refine h.invariant (P := fun s => ServiceInvariant s ∧ Superseded (s.tasks.length - 1) s) ?_ ?_
  · intro s hstart
    subst hstart
    exact ⟨ServiceInvariant.initial, Nat.zero_le _, fun i hi => absurd hi (Nat.not_lt_zero i),
      fun i hi => absurd hi (Nat.not_lt_zero i), fun i hi => absurd hi (Nat.not_lt_zero i)⟩
  · intro s event s' hs hstep
    obtain ⟨inv, hsuperseded⟩ := hs
    refine ⟨inv.change hstep.2.change, ?_⟩
    by_cases hevent : event = .fetchTVShows
    · subst hevent
      obtain rfl := Option.some.inj hstep.2
      have hlength : s.fetchTVShows.tasks.length - 1 = s.tasks.length := by
        simp [NetworkingService.fetchTVShows, cancelTask_length]
      rw [hlength]
      exact Superseded.of_settled inv hstep.1
    · rw [tasks_length_of_not_fetch hstep.2 hevent]
      exact hsuperseded.change hstep.2.change

/-- Every call completes at most once. While calls are made only in settled
states, no step completes any call but the newest; and a single call keeps all
earlier ones from completing, whatever happens next, exactly when it is made in
a settled state. -/
theorem newer_fetch_supersedes_iff
    (h : Reachable (· = NetworkingService.initial Data) (ServiceStep decode) s) :
    (s.completions.map Prod.fst).Nodup ∧
      (Reachable (· = NetworkingService.initial Data) (guarded SettledCall (ServiceStep decode)) s →
        ∀ event s', ServiceStep decode s event s' → NoStaleCompletion (s.tasks.length - 1) s s') ∧
      ((∀ events s', Run (ServiceStep decode) s.fetchTVShows events s' →
        NoStaleCompletion s.tasks.length s s') ↔ s.Settled) := by
  have inv := ServiceInvariant.reachable h
  refine ⟨inv.completions_nodup, fun hcalls event s' hstep => ?_, fun hnone => ?_,
    fun hsettled events s' hrun => ?_⟩
  · exact (settledRun_superseded hcalls).2.noStaleCompletion hstep.change
  · by_contra hnot
    obtain ⟨events, s', hrun, hstale⟩ := stale_of_not_settled decode inv hnot
    exact hstale (hnone events s' hrun)
  · exact (Superseded.of_settled inv hsettled).run hrun

end Delivery

theorem newer_fetch_supersedes_iff_second :
    (NetworkingService.initial (List TVShow)).fetchTVShows.tasks.length = 1 ∧
      ∀ events s', Run (ServiceStep .ok)
          (NetworkingService.initial (List TVShow)).fetchTVShows.fetchTVShows events s' →
        NoStaleCompletion 1 (NetworkingService.initial (List TVShow)).fetchTVShows s' := by
  have hstart : Reachable (· = NetworkingService.initial (List TVShow)) (ServiceStep .ok)
      (NetworkingService.initial (List TVShow)) := .start rfl
  have hsettled : (NetworkingService.initial (List TVShow)).fetchTVShows.Settled := by
    refine ⟨fun i outcome hfinished => ?_, fun i outcome hmem => (nomatch hmem)⟩
    cases i with
    | zero => cases hfinished
    | succ i => cases hfinished
  exact ⟨rfl, (newer_fetch_supersedes_iff (hstart.next (e := .fetchTVShows) rfl)).2.2.mpr hsettled⟩

/-- The first fetch finishes and queues its block, the second is called, and
then the block of the first runs: its list arrives after the newer call. -/
theorem stale_list_after_newer_fetch :
    ∃ s s' : NetworkingService (List TVShow),
      exec (NetworkingService.step .ok) (.initial (List TVShow))
        [.fetchTVShows, .taskFinishes 0 ⟨some [.bare (some 1)], some (.http 200), none⟩,
          .handlerRuns 0] = some s ∧
      exec (NetworkingService.step .ok) s.fetchTVShows [.mainBlockRuns] = some s' ∧
      s.tasks.length = 1 ∧ s.completions = [] ∧
      s'.completions = [(0, ⟨some [.bare (some 1)], none⟩)] ∧
      ¬ NoStaleCompletion s.tasks.length s s' := by
  refine ⟨_, _, rfl, rfl, rfl, rfl, rfl, fun hnone => ?_⟩
  have hold := hnone 0 Nat.one_pos ⟨some [.bare (some 1)], none⟩ List.mem_cons_self
  cases hold

end TVShows
