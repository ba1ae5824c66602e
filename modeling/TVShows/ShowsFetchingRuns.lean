import TVShows.ShowsFetching

/-! Runs of the Shows screen with its service: they are runs of the screen alone
and runs of the service alone, a call is never superseded, the screen shows the
last response, and a screen that is left without a pending piece or a retry
dialog stays as it is for good. -/

namespace TVShows

open TransitionRun

variable {Data : Type} {decode : Data → Except SwiftError (List TVShow)} {s s' : ShowsSystem Data}

theorem reachable_systemEvent (h : Reachable SystemStarted (SystemStep decode) s)
    (event : SystemEvent Data) (hpossible : event.Possible s)
    (hstep : s.step decode event = some s') : Reachable SystemStarted (SystemStep decode) s' :=
  h.next ⟨hpossible, hstep⟩

theorem reachable_retried : ∃ failed retried loaded : ShowsSystem (List TVShow),
    (Reachable SystemStarted (SystemStep .ok) failed ∧ failed.screen.currentTVShows = [] ∧
      (ShowsEvent.answerAlert 0 true).retries failed.screen = true) ∧
    (Reachable SystemStarted (SystemStep .ok) retried ∧ retried.service.tasks.length = 2 ∧
      retried.service.completions.length = 1) ∧
    Reachable SystemStarted (SystemStep .ok) loaded ∧ loaded.service.completions.length = 2 ∧
      loaded.screen.currentTVShows = [.bare (some 1)] := by
  have hstart : Reachable SystemStarted (SystemStep .ok)
      (ShowsSystem.viewDidLoad Realm.empty : ShowsSystem (List TVShow)) := .start ⟨_, rfl⟩
  have hfinished := reachable_systemEvent hstart
    (.taskFinishes 0 ⟨none, none, some (.nsError "NSURLErrorDomain" (-1009))⟩) trivial rfl
  have hhandled := reachable_systemEvent hfinished (.handlerRuns 0) trivial rfl
  have hfailed := reachable_systemEvent hhandled .mainBlockRuns trivial rfl
  have hretried := reachable_systemEvent hfailed (.screen (.answerAlert 0 true)) Nat.one_pos rfl
  have hfinished' := reachable_systemEvent hretried
    (.taskFinishes 1 ⟨some [.bare (some 1)], some (.http 200), none⟩) trivial rfl
  have hhandled' := reachable_systemEvent hfinished' (.handlerRuns 1) trivial rfl
  have hloaded := reachable_systemEvent hhandled' .mainBlockRuns trivial rfl
  exact ⟨_, _, _, ⟨hfailed, rfl, rfl⟩, ⟨hretried, rfl, rfl⟩, hloaded, rfl, rfl⟩

def BringsResponses (s : ShowsSystem Data) (events : List ShowsEvent) (s' : ShowsSystem Data) :
    Prop :=
  ∃ new, s'.service.completions = s.service.completions ++ new ∧
    new.map Prod.snd = events.filterMap ShowsEvent.response?

theorem BringsResponses.append {s t u : ShowsSystem Data} {es fs : List ShowsEvent}
    (h : BringsResponses s es t) (k : BringsResponses t fs u) : BringsResponses s (es ++ fs) u := by
  obtain ⟨new, hnew, hresponses⟩ := h
  obtain ⟨new', hnew', hresponses'⟩ := k
  refine ⟨new ++ new', ?_, ?_⟩
  · rw [hnew', hnew, List.append_assoc]
  · rw [List.map_append, hresponses, hresponses', List.filterMap_append]

theorem BringsResponses.of_completions {event : ShowsEvent}
    (hevent : event.response? = none)
    (h : s'.service.completions = s.service.completions) : BringsResponses s [event] s' :=
  ⟨[], by simp [h], by simp [hevent]⟩

theorem SystemStep.service {event : SystemEvent Data} (h : SystemStep decode s event s') :
    ∃ events, Run (ServiceStep decode) s.service events s'.service := by
  obtain ⟨-, hstep⟩ := h
  cases event with
  | taskFinishes i outcome =>
    obtain ⟨service, hservice, rfl⟩ := Option.map_eq_some_iff.mp hstep
    exact ⟨[.taskFinishes i outcome], .single hservice⟩
  | handlerRuns i =>
    obtain ⟨service, hservice, rfl⟩ := Option.map_eq_some_iff.mp hstep
    exact ⟨[.handlerRuns i], .single hservice⟩
  | mainBlockRuns =>
    simp only [ShowsSystem.step, ShowsSystem.mainBlockRuns] at hstep
    split at hstep
    · cases hstep
    · obtain ⟨service, hservice, rfl⟩ := Option.map_eq_some_iff.mp hstep
      exact ⟨[.mainBlockRuns], .single hservice⟩
  | screen event =>
    simp only [ShowsSystem.step] at hstep
    split at hstep
    · cases hstep
    · obtain ⟨state, -, rfl⟩ := map_eq_ok (toOption_eq_some hstep)
      cases hretries : event.retries s.screen with
      | false => exact ⟨[], by simpa using Run.nil s.service⟩
      | true => exact ⟨[.fetchTVShows], by simpa using Run.single rfl⟩

theorem SystemChange.screen {events : List ShowsEvent} (inv : FetchingInvariant s)
    (h : SystemChange decode s events s') :
    Run ShowsStep (s.screen, s.realm) events (s'.screen, s'.realm) ∧
      BringsResponses s events s' := by
  cases h with
  | finished i outcome hrunning => exact ⟨.nil _, [], by simp, rfl⟩
  | handled i outcome hstate => exact ⟨.nil _, [], by simp, rfl⟩
  | dropped i outcome rest hqueue hnone =>
    have hflight := (inv.head hqueue).2.2.2.1
    have hpossible : 0 < s.screen.fetches := by omega
    exact ⟨.single ⟨hpossible, rfl⟩, .of_completions rfl rfl⟩
  | completed i outcome rest response hqueue hsome =>
    have hflight := (inv.head hqueue).2.2.2.1
    have hpossible : 0 < s.screen.fetches := by omega
    exact ⟨.single ⟨hpossible, rfl⟩, [(i, response)], rfl, rfl⟩
  | user event state hends hstep =>
    refine ⟨.single hstep, .of_completions ?_ ?_⟩
    · cases event <;> first | rfl | cases hends
    · cases event.retries s.screen <;> rfl

theorem FetchingInvariant.run_screen (inv : FetchingInvariant s) {events : List (SystemEvent Data)}
    (h : Run (SystemStep decode) s events s') :
    ∃ screenEvents, Run ShowsStep (s.screen, s.realm) screenEvents (s'.screen, s'.realm) ∧
      BringsResponses s screenEvents s' := by
  refine h.refine (P := FetchingInvariant) (f := fun s => (s.screen, s.realm))
    (H := BringsResponses) (fun _ _ _ inv hstep => inv.step hstep) (fun s => ⟨[], by simp, rfl⟩)
    (fun _ _ _ _ _ hst htu => hst.append htu) (fun s event t inv hstep => ?_) inv
  obtain ⟨screenEvents, hchange⟩ := hstep.change
  exact ⟨screenEvents, hchange.screen inv⟩

/-- The state is that of a run of the screen alone and of a run of the service
alone, and the screen received the completions of the service in their order. -/
def RefinesScreenAndService (decode : Data → Except SwiftError (List TVShow))
    (s : ShowsSystem Data) : Prop :=
  ∃ realm screenEvents serviceEvents,
    Run ShowsStep (ShowsScreen.initial.viewDidLoad, realm) screenEvents (s.screen, s.realm) ∧
    Run (ServiceStep decode) (NetworkingService.initial Data) serviceEvents s.service ∧
    s.service.completions.map Prod.snd = screenEvents.filterMap ShowsEvent.response? ∧
    s.screen.fetches = s.service.undelivered

theorem fetching_refines_screen_and_service (h : Reachable SystemStarted (SystemStep decode) s) :
    RefinesScreenAndService decode s := by
  have hcounter := (FetchingInvariant.reachable h).counter
  obtain ⟨_, events, ⟨realm, rfl⟩, hrun⟩ := h
  have inv : FetchingInvariant (ShowsSystem.viewDidLoad realm : ShowsSystem Data) :=
    FetchingInvariant.viewDidLoad realm
  obtain ⟨screenEvents, hscreen, new, hnew, hresponses⟩ := inv.run_screen hrun
  have hservice : ∃ serviceEvents, Run (ServiceStep decode)
      (NetworkingService.initial Data).fetchTVShows serviceEvents s.service ∧ True :=
    hrun.refine (P := fun _ => True) (f := ShowsSystem.service) (H := fun _ _ _ => True)
      (fun _ _ _ _ _ => trivial) (fun _ => trivial) (fun _ _ _ _ _ _ _ => trivial)
      (fun _ _ _ _ hstep => by
        obtain ⟨serviceEvents, hsteps⟩ := hstep.service
        exact ⟨serviceEvents, hsteps, trivial⟩) trivial
  obtain ⟨serviceEvents, hserviceRun, -⟩ := hservice
  refine ⟨realm, screenEvents, .fetchTVShows :: serviceEvents, hscreen, .cons rfl hserviceRun,
    ?_, hcounter⟩
  rw [hnew, List.map_append, hresponses]
  rfl

theorem fetching_refines_screen_and_service_retried : ∃ s : ShowsSystem (List TVShow),
    s.service.completions.length = 2 ∧ s.screen.currentTVShows = [.bare (some 1)] ∧
      RefinesScreenAndService .ok s := by
  obtain ⟨_, _, loaded, -, -, hreachable, htwice, hlist⟩ := reachable_retried
  exact ⟨loaded, htwice, hlist, fetching_refines_screen_and_service hreachable⟩

namespace FetchingInvariant

theorem run_completions (inv : FetchingInvariant s) {events : List (SystemEvent Data)}
    (h : Run (SystemStep decode) s events s') :
    ∃ new, s'.service.completions = s.service.completions ++ new := by
  obtain ⟨_, -, new, hnew, -⟩ := inv.run_screen h
  exact ⟨new, hnew⟩

theorem run_inv (inv : FetchingInvariant s) {events : List (SystemEvent Data)}
    (h : Run (SystemStep decode) s events s') : FetchingInvariant s' :=
  h.preserves (fun _ _ _ inv hstep => inv.step hstep) inv

theorem noStaleCompletion (inv : FetchingInvariant s) {events : List (SystemEvent Data)}
    (h : Run (SystemStep decode) s events s') :
    NoStaleCompletion s.service.completions.length s.service s'.service := by
  obtain ⟨new, hnew⟩ := inv.run_completions h
  have hnumbered := (inv.run_inv h).numbered
  rw [hnew, List.map_append, List.length_append, List.range_eq_range', ← List.range'_append_1,
    ← List.range_eq_range', inv.numbered] at hnumbered
  have htail := List.append_cancel_left hnumbered
  intro i hi response hmem
  rw [hnew] at hmem
  cases List.mem_append.mp hmem with
  | inl hold => exact hold
  | inr hadded =>
    have hnumber : i ∈ new.map Prod.fst := List.mem_map_of_mem hadded
    rw [htail, List.mem_range'_1] at hnumber
    omega

end FetchingInvariant

theorem dialog_of_retries {screen : ShowsScreen} {event : ShowsEvent}
    (h : event.retries screen = true) : 0 < screen.retryDialogs := by
  cases event with
  | answerAlert i confirmed =>
    cases confirmed with
    | false => cases h
    | true =>
      cases halert : screen.alerts[i]? with
      | none => simp [ShowsEvent.retries, halert] at h
      | some alert =>
        have hretry : alert.isRetry = true := by simpa [ShowsEvent.retries, halert] using h
        exact List.countP_pos_iff.mpr ⟨alert, List.mem_of_getElem? halert, hretry⟩
  | _ => cases h

structure NewestCallOnly (decode : Data → Except SwiftError (List TVShow)) (s : ShowsSystem Data) :
    Prop where
  calledWhenIdle : ∀ event : ShowsEvent, event.retries s.screen = true →
    s.service.undelivered = 0 ∧ s.service.Settled ∧ s.service.cancelTask = s.service.tasks
  nothingCancelled : ∀ i : Nat, s.service.tasks[i]? ≠ some TaskState.cancelled
  inOrder : s.service.completions.map Prod.fst = List.range s.service.completions.length
  noStale : ∀ events s', Run (SystemStep decode) s events s' →
    NoStaleCompletion (s.service.tasks.length - 1) s.service s'.service

/-- The screen calls the service only when nothing of an earlier call is left,
so `cancel` never reaches a running task, responses arrive once per call in the
order of the calls, and no response arrives after a newer call. -/
theorem screen_never_supersedes_fetch (h : Reachable SystemStarted (SystemStep decode) s) :
    NewestCallOnly decode s := by
  have inv := FetchingInvariant.reachable h
  have hone := inv.undelivered_le
  have hcalls := inv.calls
  refine ⟨fun event hretries => ?_, inv.uncancelled, inv.numbered, fun events s' hrun => ?_⟩
  · have hdialog := dialog_of_retries hretries
    have hzero : s.service.undelivered = 0 := by omega
    obtain ⟨hqueue, hhandled⟩ := of_undelivered hzero
    refine ⟨hzero, ⟨fun i outcome hfinished => ?_, fun i outcome hmem => ?_⟩,
      cancelTask_of_undelivered hzero⟩
    · cases hhandled i _ hfinished
    · rw [hqueue] at hmem
      cases hmem
  · intro i hi response hmem
    exact inv.noStaleCompletion hrun i (by omega) response hmem

theorem screen_never_supersedes_fetch_retried : ∃ failed retried : ShowsSystem (List TVShow),
    (ShowsEvent.answerAlert 0 true).retries failed.screen = true ∧ NewestCallOnly .ok failed ∧
      retried.service.tasks.length = 2 ∧ retried.service.completions.length = 1 ∧
      NewestCallOnly .ok retried := by
  obtain ⟨failed, retried, _, ⟨hfailed, -, hdialog⟩, ⟨hretried, hcalls, hone⟩, -⟩ :=
    reachable_retried
  exact ⟨failed, retried, hdialog, screen_never_supersedes_fetch hfailed, hcalls, hone,
    screen_never_supersedes_fetch hretried⟩

structure ShowsLastResponse (s : ShowsSystem Data) : Prop where
  state : s.screen.screenState = shownState s.service.completions
  list : s.screen.currentTVShows = (shownState s.service.completions).tvShows
  rows : s.screen.rowCount = (shownState s.service.completions).tvShows.length
  dialog : ∀ message, Alert.retry message ∈ s.screen.alerts →
    ∃ error, shownState s.service.completions = .error error ∧
      message = ShowsScreen.errorMessage error
  failedBefore : ∀ completion ∈ s.service.completions.dropLast, completion.2.error ≠ none
  everyCall : s.service.tasks.length ≤ s.service.completions.length + 1

theorem screen_shows_last_response (h : Reachable SystemStarted (SystemStep decode) s) :
    ShowsLastResponse s := by
  have inv := FetchingInvariant.reachable h
  have hcalls := inv.calls
  have hone := inv.undelivered_le
  have hlist : s.screen.currentTVShows = (shownState s.service.completions).tvShows := by
    rw [inv.screen.list, inv.shown]
  refine ⟨inv.shown, hlist, by rw [inv.screen.count, hlist], fun message hmem => ?_, inv.failed,
    by omega⟩
  exact inv.shown ▸ inv.dialog message hmem

theorem reachable_of_exec {realm : Realm} {events : List (SystemEvent Data)}
    (h : exec (ShowsSystem.step decode) (ShowsSystem.viewDidLoad realm) events = some s)
    (hservice : ∀ event ∈ events, ∀ e, event ≠ SystemEvent.screen e) :
    Reachable SystemStarted (SystemStep decode) s := by
  have hpossible : ∀ event ∈ events, ∀ u : ShowsSystem Data, event.Possible u := by
    intro event hmem u
    cases event with
    | screen e => exact absurd rfl (hservice _ hmem e)
    | _ => trivial
  exact ⟨_, events, ⟨realm, rfl⟩, (run_of_exec h).guarded_of_forall
    fun event hmem u => hpossible event hmem u⟩

theorem screen_shows_last_response_retried : ∃ s : ShowsSystem (List TVShow),
    s.service.completions.length = 2 ∧ s.screen.currentTVShows = [.bare (some 1)] ∧
      ShowsLastResponse s := by
  obtain ⟨_, _, loaded, -, -, hreachable, htwice, hlist⟩ := reachable_retried
  exact ⟨loaded, htwice, hlist, screen_shows_last_response hreachable⟩

def ShowsSystem.Over (s : ShowsSystem Data) : Prop :=
  s.service.undelivered = 0 ∧ s.screen.retryDialogs = 0

theorem over_step (hover : s.Over) {event : SystemEvent Data}
    (h : SystemStep decode s event s') :
    s'.Over ∧ s'.service = s.service ∧ s'.screen.screenState = s.screen.screenState := by
  obtain ⟨hqueue, hhandled⟩ := of_undelivered hover.1
  obtain ⟨events, hchange⟩ := h.change
  cases hchange with
  | finished i outcome hrunning => cases hhandled i _ hrunning
  | handled i outcome hstate =>
    cases hstate with
    | inl hfinished => cases hhandled i _ hfinished
    | inr hcancelled => cases hhandled i _ hcancelled.1
  | dropped i outcome rest hhead hnone => cases hqueue.symm.trans hhead
  | completed i outcome rest response hhead hsome => cases hqueue.symm.trans hhead
  | user event state hends hstep =>
    have heffect := UserEffect.of_step hends hstep
    have hretries : event.retries s.screen = false := by
      by_contra hretries
      have hdialog := dialog_of_retries (by simpa using hretries)
      have hnone := hover.2
      omega
    have hdialogs := heffect.dialogs
    rw [hretries] at hdialogs ⊢
    exact ⟨⟨hover.1, Nat.eq_zero_of_le_zero (hover.2 ▸ hdialogs)⟩, rfl, heffect.state⟩

section Enabled

theorem step_taskFinishes (decode : Data → Except SwiftError (List TVShow)) {i : Nat}
    (outcome : TaskOutcome Data) (h : s.service.tasks[i]? = some .running) :
    SystemStep decode s (.taskFinishes i outcome) { s with
      service := { s.service with tasks := s.service.tasks.set i (.finished outcome) } } := by
  refine ⟨trivial, ?_⟩
  simp only [ShowsSystem.step, NetworkingService.taskFinishes, h, Option.map_some]

theorem step_handlerRuns (decode : Data → Except SwiftError (List TVShow)) {i : Nat}
    {outcome : TaskOutcome Data} (h : s.service.tasks[i]? = some (.finished outcome)) :
    SystemStep decode s (.handlerRuns i) { s with
      service := { s.service with
        tasks := s.service.tasks.set i .handled
        mainQueue := s.service.mainQueue ++ [(i, outcome)] } } := by
  refine ⟨trivial, ?_⟩
  simp only [ShowsSystem.step, NetworkingService.handlerRuns, h, Option.map_some]

theorem step_mainBlockRuns (decode : Data → Except SwiftError (List TVShow))
    (h : s.service.mainQueue ≠ []) :
    ∃ s', SystemStep decode s .mainBlockRuns s' ∧
      s'.service.mainQueue = s.service.mainQueue.tail ∧ s'.realm = s.realm ∧
      ∀ block response, s.service.mainQueue.head? = some block →
        fetchCompletion decode block.2 = some response →
        s'.screen = s.screen.fetchEnds response := by
  cases hqueue : s.service.mainQueue with
  | nil => exact absurd hqueue h
  | cons block rest =>
    obtain ⟨i, outcome⟩ := block
    simp only [SystemStep, SystemEvent.Possible, ShowsSystem.step, ShowsSystem.mainBlockRuns,
      NetworkingService.mainBlockRuns, hqueue, true_and]
    cases hcompletion : fetchCompletion decode outcome with
    | none =>
      refine ⟨_, rfl, rfl, rfl, fun block response hblock hsome => ?_⟩
      obtain rfl := Option.some.inj hblock
      cases hcompletion.symm.trans hsome
    | some response =>
      refine ⟨_, rfl, rfl, rfl, fun block response' hblock hsome => ?_⟩
      obtain rfl := Option.some.inj hblock
      obtain rfl := Option.some.inj (hcompletion.symm.trans hsome)
      simp only [ShowsScreen.afterFetch, hcompletion]

theorem step_retry (decode : Data → Except SwiftError (List TVShow))
    (h : 0 < s.screen.retryDialogs) :
    ∃ event s', SystemStep decode s (.screen event) s' ∧
      s'.service = s.service.fetchTVShows ∧ s'.realm = s.realm := by
  obtain ⟨alert, hmem, hretry⟩ := List.countP_pos_iff.mp h
  obtain ⟨i, hi⟩ := List.mem_iff_getElem?.mp hmem
  cases alert with
  | confirmDelete row => cases hretry
  | retry message =>
    have hlt := (List.getElem?_eq_some_iff.mp hi).1
    refine ⟨.answerAlert i true, ⟨s.service.fetchTVShows,
      { s.screen with alerts := s.screen.alerts.eraseIdx i }.loadShows, s.realm⟩, ⟨hlt, ?_⟩, rfl, rfl⟩
    simp [ShowsSystem.step, ShowsEvent.endsFetch, ShowsSystem.screenEvent, ShowsEvent.handle,
      ShowsScreen.answerAlert, ShowsEvent.retries, hi, Alert.isRetry, Except.map, Except.toOption]

end Enabled

def ShowsSystem.Frozen (decode : Data → Except SwiftError (List TVShow)) (s : ShowsSystem Data) :
    Prop :=
  ∀ events s', Run (SystemStep decode) s events s' →
    s'.service = s.service ∧ s'.screen.screenState = s.screen.screenState ∧
      s'.screen.currentTVShows = s.screen.currentTVShows

theorem over_run (inv : FetchingInvariant s) (hover : s.Over) : s.Frozen decode := by
  intro events s' hrun
  have hkept := hrun.preserves
    (P := fun t => t.Over ∧ t.service = s.service ∧ t.screen.screenState = s.screen.screenState)
    (fun t event u ht hstep => by
      obtain ⟨hu, hservice, hstate⟩ := over_step ht.1 hstep
      exact ⟨hu, hservice.trans ht.2.1, hstate.trans ht.2.2⟩) ⟨hover, rfl, rfl⟩
  have hlist := (inv.run_inv hrun).screen.list
  exact ⟨hkept.2.1, hkept.2.2, by rw [hlist, hkept.2.2, inv.screen.list]⟩

theorem service_moves (decode : Data → Except SwiftError (List TVShow))
    (inv : FetchingInvariant s) (h : ¬ s.Over) :
    ∃ event s', SystemStep decode s event s' ∧ s'.service ≠ s.service := by
  by_cases hdelivered : s.service.undelivered = 0
  · have hdialog : 0 < s.screen.retryDialogs := Nat.pos_of_ne_zero fun hnone =>
      h ⟨hdelivered, hnone⟩
    obtain ⟨event, s', hstep, hservice, -⟩ := step_retry decode hdialog
    refine ⟨_, s', hstep, fun hsame => ?_⟩
    have hcount := undelivered_fetchTVShows s.service
    rw [← hservice, hsame] at hcount
    omega
  · cases mem_of_undelivered (Nat.pos_of_ne_zero hdelivered) with
    | inl hpending =>
      obtain ⟨i, state, hi, hstate⟩ := hpending
      obtain ⟨hlt, hget⟩ := List.getElem?_eq_some_iff.mp hi
      cases state with
      | handled => cases hstate
      | cancelled => exact absurd hi (inv.uncancelled i)
      | running =>
        refine ⟨_, _, step_taskFinishes decode ⟨none, none, none⟩ hi, fun hsame => ?_⟩
        have htasks := congrArg (fun service => service.tasks[i]?) hsame
        simp [hget, hlt] at htasks
      | finished outcome =>
        refine ⟨_, _, step_handlerRuns decode hi, fun hsame => ?_⟩
        have htasks := congrArg (fun service => service.tasks[i]?) hsame
        simp [hget, hlt] at htasks
    | inr hqueue =>
      obtain ⟨s', hstep, htail, -⟩ := step_mainBlockRuns decode hqueue
      refine ⟨_, s', hstep, fun hsame => ?_⟩
      have hlength := congrArg (fun service => service.mainQueue.length) hsame
      have hpos := List.length_pos_iff.mpr hqueue
      simp only [htail, List.length_tail] at hlength
      omega

/-- The screen is left for good exactly when nothing of a call is outstanding and
no retry dialog is up: after a list, and just as well after an empty answer, an
error with the cancellation code or a dialog that was dismissed. -/
theorem screen_frozen_iff (h : Reachable SystemStarted (SystemStep decode) s) :
    s.Frozen decode ↔ s.Over := by
  have inv := FetchingInvariant.reachable h
  refine ⟨fun hfrozen => ?_, over_run inv⟩
  by_contra hover
  obtain ⟨event, s', hstep, hmoved⟩ := service_moves decode inv hover
  exact hmoved (hfrozen [event] s' (.single hstep)).1

theorem screen_frozen_iff_dropped :
    ∃ s : ShowsSystem (List TVShow),
      exec (ShowsSystem.step .ok) (ShowsSystem.viewDidLoad Realm.empty)
        [.taskFinishes 0 (.cancelled (List TVShow)), .handlerRuns 0, .mainBlockRuns] = some s ∧
      s.screen.screenState = .empty ∧ s.Over ∧ (s.Frozen .ok ↔ s.Over) := by
  obtain ⟨s, hexec, hstate, hover⟩ : ∃ s, exec (ShowsSystem.step .ok)
      (ShowsSystem.viewDidLoad Realm.empty : ShowsSystem (List TVShow))
      [.taskFinishes 0 (.cancelled (List TVShow)), .handlerRuns 0, .mainBlockRuns] = some s ∧
      s.screen.screenState = .empty ∧ s.Over := ⟨_, rfl, rfl, rfl, rfl⟩
  exact ⟨s, hexec, hstate, hover, screen_frozen_iff (reachable_of_exec hexec (by simp))⟩

def ShowsSystem.OnItsWay (s : ShowsSystem Data) (outcome : TaskOutcome Data) : Prop :=
  ∃ i : Nat, s.service.tasks[i]? = some (.finished outcome) ∨ (i, outcome) ∈ s.service.mainQueue

def ShowsSystem.CanStillShow (decode : Data → Except SwiftError (List TVShow))
    (s : ShowsSystem Data) (tvShows : List TVShow) : Prop :=
  s.screen.screenState = .populated tvShows ∨ 0 < s.screen.retryDialogs ∨
    (∃ i : Nat, s.service.tasks[i]? = some TaskState.running) ∨
    ∃ outcome response, s.OnItsWay outcome ∧ fetchCompletion decode outcome = some response ∧
      (response.error ≠ none ∨ response.screenState = .populated tvShows)

section Recovery
variable {tvShows : List TVShow}

namespace FetchingInvariant

theorem list_iff (inv : FetchingInvariant s) (hne : tvShows ≠ []) :
    s.screen.currentTVShows = tvShows ↔ s.screen.screenState = .populated tvShows := by
  rw [inv.screen.list]
  cases hstate : s.screen.screenState with
  | populated shown => simp [ScreenState.tvShows]
  | empty => simp [ScreenState.tvShows, hne.symm]
  | loading => simp [ScreenState.tvShows, hne.symm]
  | error error => simp [ScreenState.tvShows, hne.symm]

theorem delivers (inv : FetchingInvariant s) {outcome : TaskOutcome Data} {response : TVShowsModel}
    (hway : s.OnItsWay outcome) (hresponse : fetchCompletion decode outcome = some response) :
    ∃ events s', Run (SystemStep decode) s events s' ∧
      s'.screen = s.screen.fetchEnds response := by
  have hqueued : ∀ {t : ShowsSystem Data} {i : Nat}, FetchingInvariant t →
      (i, outcome) ∈ t.service.mainQueue → ∃ t', SystemStep decode t .mainBlockRuns t' ∧
        t'.screen = t.screen.fetchEnds response := by
    intro t i ht hmem
    obtain ⟨t', hstep, -, -, hshown⟩ := step_mainBlockRuns decode (List.ne_nil_of_mem hmem)
    refine ⟨t', hstep, hshown (i, outcome) response ?_ hresponse⟩
    cases hqueue : t.service.mainQueue with
    | nil => simp [hqueue] at hmem
    | cons block rest =>
      obtain rfl := (ht.head hqueue).1
      simpa [hqueue, eq_comm] using hmem
  obtain ⟨i, hfinished | hmem⟩ := hway
  · have hstep := step_handlerRuns decode hfinished
    obtain ⟨t, hblock, hshown⟩ := hqueued (inv.step hstep) (i := i) (by simp)
    exact ⟨_, t, .cons hstep (.single hblock), hshown⟩
  · obtain ⟨t, hblock, hshown⟩ := hqueued inv hmem
    exact ⟨_, t, .single hblock, hshown⟩

theorem delivers_body (inv : FetchingInvariant s) {data : Data}
    (hdecode : decode data = .ok tvShows) (hne : tvShows ≠ []) {i : Nat}
    (hrunning : s.service.tasks[i]? = some .running) :
    ∃ events s', Run (SystemStep decode) s events s' ∧
      s'.screen.screenState = .populated tvShows := by
  obtain ⟨hlt, -⟩ := List.getElem?_eq_some_iff.mp hrunning
  have hstep := step_taskFinishes decode ⟨some data, some (.http 200), none⟩ hrunning
  have hresponse : fetchCompletion decode ⟨some data, some (.http 200), none⟩ =
      some ⟨some tvShows, none⟩ := by
    simp [fetchCompletion, hdecode]
  obtain ⟨events, s', hrun, hshown⟩ :=
    (inv.step hstep).delivers ⟨i, .inl (by simp [hlt])⟩ hresponse
  refine ⟨_, s', .cons hstep hrun, ?_⟩
  rw [hshown]
  exact (fetchEnds_list s.screen tvShows).1.trans (if_neg hne)

theorem delivers_retry (inv : FetchingInvariant s) {data : Data}
    (hdecode : decode data = .ok tvShows) (hne : tvShows ≠ [])
    (hdialog : 0 < s.screen.retryDialogs) :
    ∃ events s', Run (SystemStep decode) s events s' ∧
      s'.screen.screenState = .populated tvShows := by
  obtain ⟨event, t, hstep, hservice, -⟩ := step_retry decode hdialog
  have hrunning : t.service.tasks[s.service.tasks.length]? = some .running := by
    rw [hservice, NetworkingService.fetchTVShows, ← cancelTask_length s.service]
    simp
  obtain ⟨events, s', hrun, hshown⟩ := (inv.step hstep).delivers_body hdecode hne hrunning
  exact ⟨_, s', .cons hstep hrun, hshown⟩

theorem canStillShow_of_kept (hafter : s'.CanStillShow decode tvShows)
    (hstate : s'.screen.screenState = s.screen.screenState)
    (hdialogs : s'.screen.retryDialogs ≤ s.screen.retryDialogs)
    (hrunning : ∀ i : Nat, s'.service.tasks[i]? = some TaskState.running →
      s.service.tasks[i]? = some TaskState.running)
    (hways : ∀ outcome, s'.OnItsWay outcome → s.OnItsWay outcome) :
    s.CanStillShow decode tvShows := by
  obtain hshown | hdialog | ⟨i, hi⟩ | ⟨outcome, response, hway, hresponse⟩ := hafter
  · exact .inl (hstate ▸ hshown)
  · exact .inr (.inl (Nat.lt_of_lt_of_le hdialog hdialogs))
  · exact .inr (.inr (.inl ⟨i, hrunning i hi⟩))
  · exact .inr (.inr (.inr ⟨outcome, response, hways outcome hway, hresponse⟩))

theorem canStillShow_of_step (inv : FetchingInvariant s) {event : SystemEvent Data}
    (h : SystemStep decode s event s') (hafter : s'.CanStillShow decode tvShows) :
    s.CanStillShow decode tvShows := by
  obtain ⟨events, hchange⟩ := h.change
  cases hchange with
  | finished i outcome hrunning => exact .inr (.inr (.inl ⟨i, hrunning⟩))
  | handled i outcome hstate =>
    have hfinished : s.service.tasks[i]? = some (.finished outcome) := by
      cases hstate with
      | inl hfinished => exact hfinished
      | inr hcancelled => exact absurd hcancelled.1 (inv.uncancelled i)
    have hset : ∀ (j : Nat) (state : TaskState Data), state ≠ .handled →
        (s.service.tasks.set i .handled)[j]? = some state → s.service.tasks[j]? = some state := by
      intro j state hne hj
      by_cases hij : i = j
      · rw [← hij, List.getElem?_set_self (List.getElem?_eq_some_iff.mp hfinished).1] at hj
        exact absurd (Option.some.inj hj).symm hne
      · rwa [List.getElem?_set_ne hij] at hj
    refine canStillShow_of_kept hafter rfl (Nat.le_refl _) (fun j hj => hset j _ (by simp) hj) ?_
    rintro o ⟨j, hj | hmem⟩
    · exact ⟨j, .inl (hset j _ (by simp) hj)⟩
    · cases List.mem_append.mp hmem with
      | inl hold => exact ⟨j, .inr hold⟩
      | inr hnew =>
        obtain ⟨rfl, rfl⟩ := Prod.mk.inj (List.mem_singleton.mp hnew)
        exact ⟨j, .inl hfinished⟩
  | dropped i outcome rest hqueue hnone =>
    obtain ⟨hrest, -⟩ := inv.head hqueue
    refine canStillShow_of_kept hafter rfl (Nat.le_refl _) (fun _ hj => hj) ?_
    rintro o ⟨j, hj | hmem⟩
    · exact ⟨j, .inl hj⟩
    · simp [hrest] at hmem
  | completed i outcome rest response hqueue hsome =>
    obtain ⟨hrest, -, hdialogs, -⟩ := inv.head hqueue
    have hway : s.OnItsWay outcome := ⟨i, .inr (by simp [hqueue])⟩
    have hstate : (s.screen.fetchEnds response).screenState = response.screenState :=
      update_screenState _ response
    obtain hshown | hdialog | hrunning | ⟨o, response', ⟨j, hlater⟩, hresponse⟩ := hafter
    · exact .inr (.inr (.inr ⟨outcome, response, hway, hsome, .inr (hstate ▸ hshown)⟩))
    · refine .inr (.inr (.inr ⟨outcome, response, hway, hsome, .inl fun hnone => ?_⟩))
      rw [fetchEnds_retryDialogs, hdialogs, if_pos hnone] at hdialog
      exact absurd hdialog (Nat.lt_irrefl 0)
    · exact .inr (.inr (.inl hrunning))
    · refine .inr (.inr (.inr ⟨o, response', ⟨j, ?_⟩, hresponse⟩))
      cases hlater with
      | inl hj => exact .inl hj
      | inr hmem => simp [hrest] at hmem
  | user event state hends hstep =>
    have heffect := UserEffect.of_step hends hstep
    cases hretries : event.retries s.screen with
    | true => exact .inr (.inl (dialog_of_retries hretries))
    | false =>
      rw [hretries] at hafter
      have hdialogs := Nat.le_trans (Nat.le_add_right _ _) heffect.dialogs
      exact canStillShow_of_kept hafter heffect.state hdialogs (fun _ hj => hj) fun _ hway => hway

theorem canStillShow_of_run (inv : FetchingInvariant s) {events : List (SystemEvent Data)}
    (h : Run (SystemStep decode) s events s') (hafter : s'.CanStillShow decode tvShows) :
    s.CanStillShow decode tvShows := by
  induction h with
  | nil s => exact hafter
  | cons hstep _ ih => exact inv.canStillShow_of_step hstep (ih (inv.step hstep) hafter)

end FetchingInvariant

/-- From a reachable state some run still shows a given nonempty list, which some
body decodes to, exactly when it is there already, a retry dialog or a running
task is left, or the outcome on its way brings that list or an error. -/
theorem list_still_comes_iff (h : Reachable SystemStarted (SystemStep decode) s) {data : Data}
    (hdecode : decode data = .ok tvShows) (hne : tvShows ≠ []) :
    (∃ events s', Run (SystemStep decode) s events s' ∧ s'.screen.currentTVShows = tvShows) ↔
      s.CanStillShow decode tvShows := by
  have inv := FetchingInvariant.reachable h
  have hlist : ∀ {events : List (SystemEvent Data)} {t : ShowsSystem Data},
      Run (SystemStep decode) s events t →
      (t.screen.currentTVShows = tvShows ↔ t.screen.screenState = .populated tvShows) :=
    fun hrun => (inv.run_inv hrun).list_iff hne
  constructor
  · rintro ⟨events, s', hrun, hshown⟩
    exact inv.canStillShow_of_run hrun (.inl ((hlist hrun).mp hshown))
  · intro hcan
    obtain hshown | hdialog | ⟨i, hrunning⟩ | ⟨outcome, response, hway, hsome, hresponse⟩ := hcan
    · exact ⟨[], s, .nil s, (hlist (.nil s)).mpr hshown⟩
    · obtain ⟨events, s', hrun, hshown⟩ := inv.delivers_retry hdecode hne hdialog
      exact ⟨events, s', hrun, (hlist hrun).mpr hshown⟩
    · obtain ⟨events, s', hrun, hshown⟩ := inv.delivers_body hdecode hne hrunning
      exact ⟨events, s', hrun, (hlist hrun).mpr hshown⟩
    · obtain ⟨events, t, hrun, hscreen⟩ := inv.delivers hway hsome
      cases hresponse with
      | inr hpopulated =>
        have hstate : t.screen.screenState = response.screenState :=
          hscreen ▸ update_screenState _ response
        exact ⟨events, t, hrun, (hlist hrun).mpr (hstate.trans hpopulated)⟩
      | inl herror =>
        have hdialog : 0 < t.screen.retryDialogs := by
          rw [hscreen, fetchEnds_retryDialogs, if_neg herror]
          omega
        obtain ⟨more, s', hmore, hshown⟩ :=
          (inv.run_inv hrun).delivers_retry hdecode hne hdialog
        have hall := hrun.append hmore
        exact ⟨_, s', hall, (hlist hall).mpr hshown⟩

theorem list_still_comes_iff_failed : ∃ failed : ShowsSystem (List TVShow),
    failed.screen.currentTVShows = [] ∧
      ∃ events s', Run (SystemStep .ok) failed events s' ∧
        s'.screen.currentTVShows = [.bare (some 1)] := by
  obtain ⟨failed, _, _, ⟨hreachable, hnone, hretries⟩, -⟩ := reachable_retried
  have hdecode : (Except.ok [.bare (some 1)] : Except SwiftError (List TVShow)) =
      .ok [.bare (some 1)] := rfl
  have hdialog := dialog_of_retries hretries
  exact ⟨failed, hnone,
    (list_still_comes_iff hreachable hdecode (by simp)).mpr (.inr (.inl hdialog))⟩

end Recovery

end TVShows
