import TVShows.FetchOutcome
import TVShows.FetchSupersession
import TVShows.ShowsScreenRuns

/-! The Shows screen together with the service it owns. The screen calls the
service in `viewDidLoad` and when a retry dialog is answered with Retry, and
the block of a finished task runs `update`; between a call and its block lie the
task, its handler and the main queue, each with its own delay. A retry dialog
only comes out of a delivered error, so the screen never calls the service while
anything of an earlier call is left. -/

namespace TVShows

open TransitionRun

variable {Data : Type}

structure ShowsSystem (Data : Type) where
  service : NetworkingService Data
  screen : ShowsScreen
  realm : Realm

/-- `screen` is a user action or a change of the store; how a fetch ends is up to the service. -/
inductive SystemEvent (Data : Type)
  | taskFinishes (i : Nat) (outcome : TaskOutcome Data)
  | handlerRuns (i : Nat)
  | mainBlockRuns
  | screen (event : ShowsEvent)

namespace ShowsEvent

def endsFetch : ShowsEvent → Bool
  | fetchEnds _ => true
  | fetchDropped => true
  | _ => false

def retries (screen : ShowsScreen) : ShowsEvent → Bool
  | answerAlert i true => (screen.alerts[i]?).any Alert.isRetry
  | _ => false

def response? : ShowsEvent → Option TVShowsModel
  | fetchEnds response => some response
  | _ => none

end ShowsEvent

namespace ShowsSystem

def viewDidLoad (realm : Realm) : ShowsSystem Data where
  service := (NetworkingService.initial Data).fetchTVShows
  screen := ShowsScreen.initial.viewDidLoad
  realm := realm

/-- The block in front of the main queue, with the callback of `loadShows`. -/
def mainBlockRuns (self : ShowsSystem Data) (decode : Data → Except SwiftError (List TVShow)) :
    Option (ShowsSystem Data) :=
  match self.service.mainQueue with
  | [] => none
  | (_, outcome) :: _ => (self.service.mainBlockRuns decode).map fun service =>
    { self with service := service, screen := self.screen.afterFetch decode outcome }

def screenEvent (self : ShowsSystem Data) (event : ShowsEvent) : Except Trap (ShowsSystem Data) :=
  (event.handle (self.screen, self.realm)).map fun state =>
    { service := if event.retries self.screen then self.service.fetchTVShows else self.service
      screen := state.1
      realm := state.2 }

def step (decode : Data → Except SwiftError (List TVShow)) (self : ShowsSystem Data) :
    SystemEvent Data → Option (ShowsSystem Data)
  | .taskFinishes i outcome => (self.service.taskFinishes i outcome).map fun service =>
    { self with service := service }
  | .handlerRuns i => (self.service.handlerRuns i).map fun service => { self with service := service }
  | .mainBlockRuns => self.mainBlockRuns decode
  | .screen event => if event.endsFetch then none else (self.screenEvent event).toOption

end ShowsSystem

def SystemEvent.Possible (s : ShowsSystem Data) : SystemEvent Data → Prop
  | screen event => event.Possible s.screen
  | _ => True

def SystemStep (decode : Data → Except SwiftError (List TVShow)) (s : ShowsSystem Data)
    (event : SystemEvent Data) (s' : ShowsSystem Data) : Prop :=
  event.Possible s ∧ s.step decode event = some s'

def SystemStarted (s : ShowsSystem Data) : Prop :=
  ∃ realm, s = ShowsSystem.viewDidLoad realm

def TaskState.isHandled : TaskState Data → Bool
  | handled => true
  | _ => false

/-- Tasks whose handler has not run, and blocks that wait on the main queue. -/
def NetworkingService.undelivered (s : NetworkingService Data) : Nat :=
  s.tasks.countP (fun state => !state.isHandled) + s.mainQueue.length

def TVShowsModel.screenState (response : TVShowsModel) : ScreenState :=
  match response.error with
  | some error => .error error
  | none =>
    match response.tvShows with
    | none => .empty
    | some tvShows => if tvShows.isEmpty then .empty else .populated tvShows

theorem update_screenState (screen : ShowsScreen) (response : TVShowsModel) :
    (screen.update response).screenState = response.screenState := by
  unfold ShowsScreen.update TVShowsModel.screenState
  cases response.error with
  | some error => rfl
  | none =>
    cases response.tvShows with
    | none => rfl
    | some tvShows => cases tvShows <;> rfl

section Undelivered
variable {s : NetworkingService Data}

theorem undelivered_set {i : Nat} {old : TaskState Data} (new : TaskState Data)
    (h : s.tasks[i]? = some old) :
    (s.tasks.set i new).countP (fun state => !state.isHandled) +
        (if old.isHandled then 0 else 1) =
      s.tasks.countP (fun state => !state.isHandled) + (if new.isHandled then 0 else 1) := by
  obtain ⟨hlt, hold⟩ := List.getElem?_eq_some_iff.mp h
  have hset := List.countP_set (p := fun state : TaskState Data => !state.isHandled)
    (a := new) hlt
  have hle := List.boole_getElem_le_countP (p := fun state : TaskState Data => !state.isHandled) hlt
  simp only [hold] at hset hle
  rw [hset]
  cases holdHandled : old.isHandled <;> cases new.isHandled <;>
    simp only [holdHandled, Bool.not_true, Bool.not_false, Bool.false_eq_true, if_true, if_false]
      at hle ⊢ <;> omega

theorem undelivered_fetchTVShows (s : NetworkingService Data) :
    s.fetchTVShows.undelivered = s.undelivered + 1 := by
  have hcancel : s.cancelTask.countP (fun state => !state.isHandled) =
      s.tasks.countP (fun state => !state.isHandled) := by
    unfold NetworkingService.cancelTask
    split
    · rfl
    · split
      · rename_i hrunning
        have hset := undelivered_set TaskState.cancelled hrunning
        exact Nat.add_right_cancel hset
      · rfl
  simp only [NetworkingService.undelivered, NetworkingService.fetchTVShows, List.countP_append,
    hcancel, List.countP_singleton]
  simp only [TaskState.isHandled, Bool.not_false, if_true]
  omega

theorem of_undelivered (h : s.undelivered = 0) :
    s.mainQueue = [] ∧
      ∀ (i : Nat) (state : TaskState Data), s.tasks[i]? = some state → state.isHandled = true := by
  obtain ⟨htasks, hqueue⟩ := Nat.add_eq_zero_iff.mp h
  refine ⟨List.eq_nil_of_length_eq_zero hqueue, fun i state hi => ?_⟩
  have hstate := List.countP_eq_zero.mp htasks state (List.mem_of_getElem? hi)
  simpa using hstate

theorem cancelTask_of_undelivered (h : s.undelivered = 0) : s.cancelTask = s.tasks := by
  unfold NetworkingService.cancelTask
  split
  · rfl
  · split
    · rename_i hrunning
      cases (of_undelivered h).2 _ _ hrunning
    · rfl

theorem mem_of_undelivered (h : 0 < s.undelivered) :
    (∃ (i : Nat) (state : TaskState Data), s.tasks[i]? = some state ∧ state.isHandled = false) ∨
      s.mainQueue ≠ [] := by
  by_cases hqueue : s.mainQueue = []
  · have hpos : 0 < s.tasks.countP (fun state => !TaskState.isHandled state) := by
      simpa [NetworkingService.undelivered, hqueue] using h
    obtain ⟨(state : TaskState Data), hmem, hstate⟩ := List.countP_pos_iff.mp hpos
    obtain ⟨i, hi⟩ := List.mem_iff_getElem?.mp hmem
    exact .inl ⟨i, state, hi, by simpa using hstate⟩
  · exact .inr hqueue

end Undelivered

inductive SystemChange (decode : Data → Except SwiftError (List TVShow)) (s : ShowsSystem Data) :
    List ShowsEvent → ShowsSystem Data → Prop
  | finished (i : Nat) (outcome : TaskOutcome Data) : s.service.tasks[i]? = some .running →
      SystemChange decode s [] { s with
        service := { s.service with tasks := s.service.tasks.set i (.finished outcome) } }
  | handled (i : Nat) (outcome : TaskOutcome Data) :
      s.service.tasks[i]? = some (.finished outcome) ∨
        s.service.tasks[i]? = some .cancelled ∧ outcome = .cancelled Data →
      SystemChange decode s [] { s with
        service := { s.service with
          tasks := s.service.tasks.set i .handled
          mainQueue := s.service.mainQueue ++ [(i, outcome)] } }
  | dropped (i : Nat) (outcome : TaskOutcome Data) (rest : List (Nat × TaskOutcome Data)) :
      s.service.mainQueue = (i, outcome) :: rest → fetchCompletion decode outcome = none →
      SystemChange decode s [.fetchDropped] { s with
        service := { s.service with mainQueue := rest }
        screen := s.screen.fetchDropped }
  | completed (i : Nat) (outcome : TaskOutcome Data) (rest : List (Nat × TaskOutcome Data))
      (response : TVShowsModel) :
      s.service.mainQueue = (i, outcome) :: rest → fetchCompletion decode outcome = some response →
      SystemChange decode s [.fetchEnds response] { s with
        service := { s.service with
          mainQueue := rest
          completions := s.service.completions ++ [(i, response)] }
        screen := s.screen.fetchEnds response }
  | user (event : ShowsEvent) (state : ShowsScreen × Realm) : event.endsFetch = false →
      ShowsStep (s.screen, s.realm) event state →
      SystemChange decode s [event]
        { service := if event.retries s.screen then s.service.fetchTVShows else s.service
          screen := state.1
          realm := state.2 }

theorem toOption_eq_some {α β : Type*} {x : Except α β} {b : β} (h : x.toOption = some b) :
    x = .ok b := by
  cases x with
  | error e => cases h
  | ok a => exact congrArg Except.ok (Option.some.inj h)

section Steps
variable {decode : Data → Except SwiftError (List TVShow)} {s s' : ShowsSystem Data}

theorem SystemStep.change {event : SystemEvent Data} (h : SystemStep decode s event s') :
    ∃ events, SystemChange decode s events s' := by
  obtain ⟨hpossible, hstep⟩ := h
  cases event with
  | taskFinishes i outcome =>
    obtain ⟨service, hservice, rfl⟩ := Option.map_eq_some_iff.mp hstep
    unfold NetworkingService.taskFinishes at hservice
    split at hservice
    · rename_i hrunning
      exact Option.some.inj hservice ▸ ⟨[], .finished i outcome hrunning⟩
    · cases hservice
  | handlerRuns i =>
    obtain ⟨service, hservice, rfl⟩ := Option.map_eq_some_iff.mp hstep
    unfold NetworkingService.handlerRuns at hservice
    split at hservice
    · rename_i outcome hfinished
      exact Option.some.inj hservice ▸ ⟨[], .handled i outcome (.inl hfinished)⟩
    · rename_i hcancelled
      exact Option.some.inj hservice ▸ ⟨[], .handled i _ (.inr ⟨hcancelled, rfl⟩)⟩
    · cases hservice
  | mainBlockRuns =>
    simp only [ShowsSystem.step, ShowsSystem.mainBlockRuns] at hstep
    split at hstep
    · cases hstep
    · rename_i i outcome rest hqueue
      obtain ⟨service, hservice, rfl⟩ := Option.map_eq_some_iff.mp hstep
      simp only [NetworkingService.mainBlockRuns, hqueue] at hservice
      cases hcompletion : fetchCompletion decode outcome with
      | none =>
        simp only [hcompletion, Option.some.injEq] at hservice
        simp only [ShowsScreen.afterFetch, hcompletion]
        exact hservice ▸ ⟨_, .dropped i outcome rest hqueue hcompletion⟩
      | some response =>
        simp only [hcompletion, Option.some.injEq] at hservice
        simp only [ShowsScreen.afterFetch, hcompletion]
        exact hservice ▸ ⟨_, .completed i outcome rest response hqueue hcompletion⟩
  | screen event =>
    simp only [ShowsSystem.step] at hstep
    split at hstep
    · cases hstep
    · rename_i hends
      obtain ⟨state, hstate, rfl⟩ := map_eq_ok (toOption_eq_some hstep)
      exact ⟨[event], .user event state (by simpa using hends) ⟨hpossible, hstate⟩⟩

end Steps

structure UserEffect (screen : ShowsScreen) (retries : Bool) (screen' : ShowsScreen) : Prop where
  state : screen'.screenState = screen.screenState
  fetches : screen'.fetches = screen.fetches + if retries then 1 else 0
  dialogs : screen'.retryDialogs + (if retries then 1 else 0) ≤ screen.retryDialogs
  messages : ∀ message, Alert.retry message ∈ screen'.alerts → Alert.retry message ∈ screen.alerts

namespace UserEffect
variable {screen screen' : ShowsScreen} {realm realm' : Realm}

theorem refl (screen : ShowsScreen) : UserEffect screen false screen :=
  ⟨rfl, rfl, Nat.le_refl _, fun _ h => h⟩

theorem answered {i : Nat} {alert : Alert} (h : screen.alerts[i]? = some alert) :
    UserEffect screen false { screen with alerts := screen.alerts.eraseIdx i } ∧
      (alert.isRetry = true →
        UserEffect screen true { screen with alerts := screen.alerts.eraseIdx i }.loadShows) := by
  obtain ⟨hi, halert⟩ := List.getElem?_eq_some_iff.mp h
  have hperm := (List.getElem_cons_eraseIdx_perm hi).countP_eq Alert.isRetry
  rw [halert, List.countP_cons] at hperm
  have hmem : ∀ message, Alert.retry message ∈ screen.alerts.eraseIdx i →
      Alert.retry message ∈ screen.alerts := fun _ => List.mem_of_mem_eraseIdx
  refine ⟨⟨rfl, rfl, ?_, hmem⟩, fun hretry => ⟨rfl, rfl, ?_, hmem⟩⟩
  · simp only [ShowsScreen.retryDialogs, Bool.false_eq_true, if_false]
    omega
  · rw [hretry] at hperm
    exact Nat.le_of_eq hperm

theorem of_tapRowAction {row : Nat} (h : screen.tapRowAction realm row = .ok (screen', realm')) :
    UserEffect screen false screen' := by
  unfold ShowsScreen.tapRowAction at h
  split at h
  · exact (Prod.mk.inj (Except.ok.inj h)).1 ▸ refl screen
  · obtain ⟨_, -, hpair⟩ := map_eq_ok h
    exact (Prod.mk.inj hpair).1 ▸ refl screen
  · obtain rfl := (Prod.mk.inj (Except.ok.inj h)).1
    refine ⟨rfl, rfl, ?_, fun message hmem => ?_⟩
    · simp [ShowsScreen.unfavoriteAction, ShowsScreen.retryDialogs, Alert.isRetry]
    · simpa [ShowsScreen.unfavoriteAction] using hmem

theorem of_answerAlert {i : Nat} {confirmed : Bool}
    (h : screen.answerAlert realm i confirmed = .ok (screen', realm')) :
    UserEffect screen ((ShowsEvent.answerAlert i confirmed).retries screen) screen' := by
  unfold ShowsScreen.answerAlert at h
  cases halert : screen.alerts[i]? with
  | none =>
    simp only [halert, Except.ok.injEq, Prod.mk.injEq] at h
    have hretries : (ShowsEvent.answerAlert i confirmed).retries screen = false := by
      cases confirmed <;> simp [ShowsEvent.retries, halert]
    rw [hretries, ← h.1]
    exact refl screen
  | some alert =>
    cases confirmed with
    | false =>
      simp only [halert, Bool.false_eq_true, if_false, Except.ok.injEq, Prod.mk.injEq] at h
      exact h.1 ▸ (answered halert).1
    | true =>
      simp only [ShowsEvent.retries, halert, Option.any_some]
      cases alert with
      | retry message =>
        simp only [halert, if_true, Except.ok.injEq, Prod.mk.injEq] at h
        exact h.1 ▸ (answered halert).2 rfl
      | confirmDelete row =>
        simp only [halert, if_true] at h
        obtain ⟨_, -, hpair⟩ := map_eq_ok h
        exact (Prod.mk.inj hpair).1 ▸ (answered halert).1

theorem of_step {event : ShowsEvent} {state state' : ShowsScreen × Realm}
    (hends : event.endsFetch = false) (h : ShowsStep state event state') :
    UserEffect state.1 (event.retries state.1) state'.1 := by
  have hok := h.2
  cases event with
  | fetchEnds response => cases hends
  | fetchDropped => cases hends
  | answerAlert i confirmed => exact of_answerAlert hok
  | cellForRow row =>
    obtain ⟨_, -, hsame⟩ := map_eq_ok hok
    exact hsame ▸ refl state.1
  | selectRow row =>
    obtain ⟨screen, hselect, hstate⟩ := map_eq_ok hok
    unfold ShowsScreen.didSelectRowAt at hselect
    split at hselect
    · obtain rfl := Except.ok.inj hselect
      exact hstate ▸ ⟨rfl, rfl, Nat.le_refl _, fun _ h => h⟩
    · cases hselect
  | swipeRow row =>
    obtain ⟨screen, hswipe, hstate⟩ := map_eq_ok hok
    unfold ShowsScreen.editActionsForRowAt at hswipe
    split at hswipe
    · obtain rfl := Except.ok.inj hswipe
      exact hstate ▸ ⟨rfl, rfl, Nat.le_refl _, fun _ h => h⟩
    · cases hswipe
  | tapRowAction row => exact of_tapRowAction hok
  | storeChanged realm => exact Except.ok.inj hok ▸ refl state.1

end UserEffect

def shownState (completions : List (Nat × TVShowsModel)) : ScreenState :=
  (completions.getLast?.map fun completion => completion.2.screenState).getD .empty

/-- Only the newest call has anything left to deliver, and it was made because
every earlier call delivered an error. -/
structure FetchingInvariant (s : ShowsSystem Data) : Prop where
  screen : ShowsInvariant s.screen
  counter : s.screen.fetches = s.service.undelivered
  newest : ∀ (i : Nat) (state : TaskState Data), s.service.tasks[i]? = some state →
    state.isHandled = false → i + 1 = s.service.tasks.length
  uncancelled : ∀ i : Nat, s.service.tasks[i]? ≠ some TaskState.cancelled
  queued : ∀ block ∈ s.service.mainQueue, block.1 + 1 = s.service.tasks.length
  numbered : s.service.completions.map Prod.fst = List.range s.service.completions.length
  calls : s.service.tasks.length = s.service.completions.length + s.service.undelivered ∨
    s.service.tasks.length = s.service.completions.length + 1 ∧
      s.service.undelivered = 0 ∧ s.screen.retryDialogs = 0
  asking : 0 < s.service.undelivered + s.screen.retryDialogs →
    ∀ completion ∈ s.service.completions, completion.2.error ≠ none
  failed : ∀ completion ∈ s.service.completions.dropLast, completion.2.error ≠ none
  shown : s.screen.screenState = shownState s.service.completions
  dialog : ∀ message, Alert.retry message ∈ s.screen.alerts →
    ∃ error, s.screen.screenState = .error error ∧ message = ShowsScreen.errorMessage error

namespace FetchingInvariant
variable {decode : Data → Except SwiftError (List TVShow)} {s s' : ShowsSystem Data}

theorem undelivered_le (inv : FetchingInvariant s) :
    s.service.undelivered + s.screen.retryDialogs ≤ 1 :=
  inv.counter ▸ inv.screen.oneFetchOrDialog

theorem viewDidLoad (realm : Realm) :
    FetchingInvariant (ShowsSystem.viewDidLoad realm : ShowsSystem Data) where
  screen := ShowsInvariant.viewDidLoad
  counter := rfl
  newest i state h _ := by
    cases i with
    | zero => rfl
    | succ i => cases h
  uncancelled i h := by
    cases i with
    | zero => cases h
    | succ i => cases h
  queued block h := by cases h
  numbered := rfl
  calls := .inl rfl
  asking _ completion h := by cases h
  failed completion h := by cases h
  shown := rfl
  dialog message h := by cases h

theorem finished (inv : FetchingInvariant s) {i : Nat} (outcome : TaskOutcome Data)
    (hrunning : s.service.tasks[i]? = some .running) :
    FetchingInvariant { s with
      service := { s.service with tasks := s.service.tasks.set i (.finished outcome) } } := by
  have hset := undelivered_set (TaskState.finished outcome) hrunning
  have hcount := Nat.add_right_cancel hset
  have hkept : ({ s.service with tasks := s.service.tasks.set i (.finished outcome) } :
      NetworkingService Data).undelivered = s.service.undelivered := by
    simp only [NetworkingService.undelivered, hcount]
  have hlt := (List.getElem?_eq_some_iff.mp hrunning).1
  refine ⟨inv.screen, hkept ▸ inv.counter, fun j state hj hstate => ?_, fun j hj => ?_, ?_,
    inv.numbered, ?_, ?_, inv.failed, inv.shown, inv.dialog⟩
  · rw [List.length_set]
    by_cases hij : i = j
    · exact hij ▸ inv.newest i .running hrunning rfl
    · exact inv.newest j state (by rwa [List.getElem?_set_ne hij] at hj) hstate
  · by_cases hij : i = j
    · rw [← hij, List.getElem?_set_self hlt] at hj
      cases hj
    · exact inv.uncancelled j (by rwa [List.getElem?_set_ne hij] at hj)
  · simpa using inv.queued
  · simpa [hkept] using inv.calls
  · simpa [hkept] using inv.asking

theorem handled (inv : FetchingInvariant s) {i : Nat} {outcome : TaskOutcome Data}
    (hi : s.service.tasks[i]? = some (.finished outcome)) :
    FetchingInvariant { s with
      service := { s.service with
        tasks := s.service.tasks.set i .handled
        mainQueue := s.service.mainQueue ++ [(i, outcome)] } } := by
  have hset : _ + 1 = _ + 0 := undelivered_set TaskState.handled hi
  have hkept : ({ s.service with
      tasks := s.service.tasks.set i .handled
      mainQueue := s.service.mainQueue ++ [(i, outcome)] } :
      NetworkingService Data).undelivered = s.service.undelivered := by
    simp only [NetworkingService.undelivered, List.length_append, List.length_singleton]
    omega
  have hlt := (List.getElem?_eq_some_iff.mp hi).1
  refine ⟨inv.screen, hkept ▸ inv.counter, fun j state' hj hstate' => ?_, fun j hj => ?_,
    fun block hblock => ?_, inv.numbered, ?_, ?_, inv.failed, inv.shown, inv.dialog⟩
  · rw [List.length_set]
    by_cases hij : i = j
    · exact hij ▸ inv.newest i (.finished outcome) hi rfl
    · exact inv.newest j state' (by rwa [List.getElem?_set_ne hij] at hj) hstate'
  · by_cases hij : i = j
    · rw [← hij, List.getElem?_set_self hlt] at hj
      cases hj
    · exact inv.uncancelled j (by rwa [List.getElem?_set_ne hij] at hj)
  · rw [List.length_set]
    cases List.mem_append.mp hblock with
    | inl hold => exact inv.queued block hold
    | inr hnew =>
      obtain rfl := List.mem_singleton.mp hnew
      exact inv.newest i (.finished outcome) hi rfl
  · simpa [hkept] using inv.calls
  · simpa [hkept] using inv.asking

theorem head (inv : FetchingInvariant s) {i : Nat} {outcome : TaskOutcome Data}
    {rest : List (Nat × TaskOutcome Data)} (hqueue : s.service.mainQueue = (i, outcome) :: rest) :
    rest = [] ∧ s.service.undelivered = 1 ∧ s.screen.retryDialogs = 0 ∧ s.screen.fetches = 1 ∧
      i = s.service.completions.length ∧
      s.service.tasks.length = s.service.completions.length + 1 ∧
      ({ s.service with mainQueue := rest } : NetworkingService Data).undelivered = 0 := by
  have hone := inv.undelivered_le
  have hcounter := inv.counter
  have hnewest : i + 1 = s.service.tasks.length := inv.queued (i, outcome) (by simp [hqueue])
  have hcount : s.service.undelivered =
      ({ s.service with mainQueue := rest } : NetworkingService Data).undelivered + 1 := by
    simp only [NetworkingService.undelivered, hqueue, List.length_cons]
    omega
  have hrest : rest.length ≤
      ({ s.service with mainQueue := rest } : NetworkingService Data).undelivered :=
    Nat.le_add_left _ _
  have hcalls := inv.calls
  refine ⟨List.eq_nil_of_length_eq_zero ?_, ?_, ?_, ?_, ?_, ?_, ?_⟩ <;> omega

theorem dropped (inv : FetchingInvariant s) {i : Nat} {outcome : TaskOutcome Data}
    {rest : List (Nat × TaskOutcome Data)} (hqueue : s.service.mainQueue = (i, outcome) :: rest) :
    FetchingInvariant { s with
      service := { s.service with mainQueue := rest }
      screen := s.screen.fetchDropped } := by
  obtain ⟨hrest, -, hdialogs, hfetches, -, hcalls, hzero⟩ := inv.head hqueue
  have hnone : s.screen.fetchDropped.retryDialogs = 0 := hdialogs
  refine ⟨inv.screen.fetchDropped, ?_, inv.newest, inv.uncancelled, ?_, inv.numbered,
    .inr ⟨hcalls, hzero, hnone⟩, fun hpos => ?_, inv.failed, inv.shown, inv.dialog⟩
  · rw [hzero]
    simp [ShowsScreen.fetchDropped, hfetches]
  · simp [hrest]
  · rw [hzero, hnone] at hpos
    exact absurd hpos (Nat.lt_irrefl 0)

end FetchingInvariant

theorem fetchEnds_alerts (screen : ShowsScreen) (response : TVShowsModel) :
    (screen.fetchEnds response).alerts = screen.alerts ++
      (response.error.map fun error => Alert.retry (ShowsScreen.errorMessage error)).toList := by
  unfold ShowsScreen.fetchEnds ShowsScreen.update
  cases response.error with
  | some error => rfl
  | none =>
    cases response.tvShows with
    | none => simp [ShowsScreen.setScreenState, ShowsScreen.reloadData]
    | some tvShows =>
      cases tvShows <;> simp [ShowsScreen.setScreenState, ShowsScreen.reloadData]

theorem fetchEnds_retryDialogs (screen : ShowsScreen) (response : TVShowsModel) :
    (screen.fetchEnds response).retryDialogs =
      screen.retryDialogs + if response.error = none then 0 else 1 := by
  rw [ShowsScreen.retryDialogs, fetchEnds_alerts, List.countP_append]
  cases response.error with
  | none => rfl
  | some error => rfl

theorem fetchEnds_fetches (screen : ShowsScreen) (response : TVShowsModel) :
    (screen.fetchEnds response).fetches = screen.fetches - 1 := by
  unfold ShowsScreen.fetchEnds ShowsScreen.update
  cases response.error with
  | some error => rfl
  | none =>
    cases response.tvShows with
    | none => rfl
    | some tvShows => cases tvShows <;> rfl

theorem shownState_append (completions : List (Nat × TVShowsModel))
    (completion : Nat × TVShowsModel) :
    shownState (completions ++ [completion]) = completion.2.screenState := by
  simp [shownState]

namespace FetchingInvariant
variable {decode : Data → Except SwiftError (List TVShow)} {s s' : ShowsSystem Data}

theorem completed (inv : FetchingInvariant s) {i : Nat} {outcome : TaskOutcome Data}
    {rest : List (Nat × TaskOutcome Data)} (response : TVShowsModel)
    (hqueue : s.service.mainQueue = (i, outcome) :: rest) :
    FetchingInvariant { s with
      service := { s.service with
        mainQueue := rest
        completions := s.service.completions ++ [(i, response)] }
      screen := s.screen.fetchEnds response } := by
  obtain ⟨hrest, hone, hdialogs, hfetches, hi, hcalls, hzero⟩ := inv.head hqueue
  have hafter : ({ s.service with
      mainQueue := rest
      completions := s.service.completions ++ [(i, response)] } :
      NetworkingService Data).undelivered = 0 := hzero
  have herrors := inv.asking (by omega)
  have hnoRetry : ∀ message, Alert.retry message ∉ s.screen.alerts := fun message hmem =>
    List.countP_eq_zero.mp hdialogs _ hmem rfl
  have hstate : (s.screen.fetchEnds response).screenState = response.screenState :=
    update_screenState _ response
  have halerts := fetchEnds_alerts s.screen response
  refine ⟨inv.screen.fetchEnds (by omega) response, ?_, inv.newest, inv.uncancelled, ?_, ?_, ?_,
    fun hpos completion hmem => ?_, fun completion hmem => ?_, ?_, fun message hmem => ?_⟩
  · rw [hafter, fetchEnds_fetches, hfetches]
  · simp [hrest]
  · simp [inv.numbered, hi, List.range_succ]
  · rw [hafter]
    exact .inl (by simp [hcalls])
  · rw [hafter, fetchEnds_retryDialogs, hdialogs] at hpos
    cases List.mem_append.mp hmem with
    | inl hold => exact herrors completion hold
    | inr hnew =>
      obtain rfl := List.mem_singleton.mp hnew
      intro (hnone : response.error = none)
      simp [hnone] at hpos
  · rw [List.dropLast_concat] at hmem
    exact herrors completion hmem
  · rw [shownState_append]
    exact hstate
  · rw [halerts] at hmem
    cases List.mem_append.mp hmem with
    | inl hold => exact absurd hold (hnoRetry message)
    | inr hnew =>
      cases herror : response.error with
      | none => simp [herror] at hnew
      | some error =>
        refine ⟨error, ?_, by simpa [herror] using hnew⟩
        rw [hstate, TVShowsModel.screenState, herror]

theorem user (inv : FetchingInvariant s) {event : ShowsEvent} {state : ShowsScreen × Realm}
    (hends : event.endsFetch = false) (hstep : ShowsStep (s.screen, s.realm) event state) :
    FetchingInvariant
      { service := if event.retries s.screen then s.service.fetchTVShows else s.service
        screen := state.1
        realm := state.2 } := by
  have hscreen : ShowsInvariant state.1 := inv.screen.step hstep
  have heffect := UserEffect.of_step hends hstep
  have hdialog : ∀ message, Alert.retry message ∈ state.1.alerts →
      ∃ error, state.1.screenState = .error error ∧
        message = ShowsScreen.errorMessage error := by
    intro message hmem
    rw [heffect.state]
    exact inv.dialog message (heffect.messages message hmem)
  have hfetches := heffect.fetches
  have hdialogs := heffect.dialogs
  cases hretries : event.retries s.screen with
  | false =>
    simp only [hretries, Bool.false_eq_true, if_false, Nat.add_zero] at hfetches hdialogs ⊢
    refine ⟨hscreen, hfetches.trans inv.counter, inv.newest, inv.uncancelled, inv.queued,
      inv.numbered, ?_, fun hpos => inv.asking (Nat.lt_of_lt_of_le hpos ?_), inv.failed,
      heffect.state.trans inv.shown, hdialog⟩
    · cases inv.calls with
      | inl hcalls => exact .inl hcalls
      | inr hover => exact .inr ⟨hover.1, hover.2.1, Nat.eq_zero_of_le_zero (hover.2.2 ▸ hdialogs)⟩
    · exact Nat.add_le_add_left hdialogs _
  | true =>
    simp only [hretries, if_true] at hfetches hdialogs ⊢
    have hone := inv.undelivered_le
    have hzero : s.service.undelivered = 0 := by omega
    have hcalls := inv.calls
    obtain ⟨hqueue, hhandled⟩ := of_undelivered hzero
    have htasks : s.service.fetchTVShows.tasks = s.service.tasks ++ [.running] := by
      rw [NetworkingService.fetchTVShows, cancelTask_of_undelivered hzero]
    have hundelivered := undelivered_fetchTVShows s.service
    have hlength : s.service.fetchTVShows.tasks.length = s.service.tasks.length + 1 := by
      rw [htasks, List.length_append, List.length_singleton]
    have hcounter : state.1.fetches = s.service.fetchTVShows.undelivered := by
      rw [hfetches, inv.counter, hundelivered]
    refine ⟨hscreen, hcounter, fun i task hi htask => ?_, fun i hi => ?_, fun block hblock => ?_,
      inv.numbered, .inl ?_, fun _ => inv.asking (by omega), inv.failed,
      heffect.state.trans inv.shown, hdialog⟩
    · rw [hlength]
      have hlt := (List.getElem?_eq_some_iff.mp hi).1
      rw [hlength] at hlt
      by_cases hold : i < s.service.tasks.length
      · rw [htasks, List.getElem?_append_left hold] at hi
        rw [hhandled i task hi] at htask
        cases htask
      · omega
    · have hlt := (List.getElem?_eq_some_iff.mp hi).1
      rw [hlength] at hlt
      by_cases hold : i < s.service.tasks.length
      · rw [htasks, List.getElem?_append_left hold] at hi
        exact inv.uncancelled i hi
      · obtain rfl : i = s.service.tasks.length := by omega
        simp [htasks] at hi
    · have hnone : block ∈ s.service.mainQueue := hblock
      rw [hqueue] at hnone
      cases hnone
    · rw [hlength, hundelivered]
      have hkept : s.service.fetchTVShows.completions = s.service.completions := rfl
      rw [hkept]
      omega

theorem of_change (inv : FetchingInvariant s) {events : List ShowsEvent}
    (h : SystemChange decode s events s') : FetchingInvariant s' := by
  cases h with
  | finished i outcome hrunning => exact inv.finished outcome hrunning
  | handled i outcome hstate =>
    cases hstate with
    | inl hfinished => exact inv.handled hfinished
    | inr hcancelled => exact absurd hcancelled.1 (inv.uncancelled i)
  | dropped i outcome rest hqueue hnone => exact inv.dropped hqueue
  | completed i outcome rest response hqueue hsome => exact inv.completed response hqueue
  | user event state hends hstep => exact inv.user hends hstep

theorem step (inv : FetchingInvariant s) {event : SystemEvent Data}
    (h : SystemStep decode s event s') : FetchingInvariant s' := by
  obtain ⟨events, hchange⟩ := h.change
  exact inv.of_change hchange

theorem reachable (h : Reachable SystemStarted (SystemStep decode) s) : FetchingInvariant s := by
  refine h.invariant ?_ fun _ _ _ inv hstep => inv.step hstep
  rintro _ ⟨realm, rfl⟩
  exact viewDidLoad realm

end FetchingInvariant

end TVShows
