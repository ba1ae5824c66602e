import TVShows.ShowsScreen
import TVShows.TransitionRun

/-! Runs of the Shows screen from its one `viewDidLoad`. Only `viewDidLoad` and
Retry start a fetch, and a retry dialog comes only out of a fetch that failed;
so a fetch and a retry dialog never coexist and neither survives the list. The
list is therefore final once it is there, and with it every row index. -/

namespace TVShows

open TransitionRun

inductive ShowsEvent
  | fetchEnds (response : TVShowsModel)
  | fetchDropped
  | answerAlert (i : Nat) (confirmed : Bool)
  | cellForRow (row : Nat)
  | selectRow (row : Nat)
  | swipeRow (row : Nat)
  | tapRowAction (row : Nat)
  | storeChanged (realm : Realm)

/-- When the event can happen: a fetch is in flight, the alert is pending, the
row is below the count the table was given, an action was returned for it. The
store may change behind the screen at any time. -/
def ShowsEvent.Possible (screen : ShowsScreen) : ShowsEvent → Prop
  | fetchEnds _ => 0 < screen.fetches
  | fetchDropped => 0 < screen.fetches
  | answerAlert i _ => i < screen.alerts.length
  | cellForRow row => row < screen.rowCount
  | selectRow row => row < screen.rowCount
  | swipeRow row => row < screen.rowCount
  | tapRowAction row => screen.rowActions row ≠ none
  | storeChanged _ => True

def ShowsEvent.handle (state : ShowsScreen × Realm) : ShowsEvent → Except Trap (ShowsScreen × Realm)
  | fetchEnds response => .ok (state.1.fetchEnds response, state.2)
  | fetchDropped => .ok (state.1.fetchDropped, state.2)
  | answerAlert i confirmed => state.1.answerAlert state.2 i confirmed
  | cellForRow row => (state.1.cellForRowAt row).map fun _ => state
  | selectRow row => (state.1.didSelectRowAt row).map fun screen => (screen, state.2)
  | swipeRow row =>
    (state.1.editActionsForRowAt state.2 row).map fun screen => (screen, state.2)
  | tapRowAction row => state.1.tapRowAction state.2 row
  | storeChanged realm => .ok (state.1, realm)

def ShowsStep (state : ShowsScreen × Realm) (event : ShowsEvent) (state' : ShowsScreen × Realm) :
    Prop :=
  event.Possible state.1 ∧ event.handle state = .ok state'

def ShowsStarted (state : ShowsScreen × Realm) : Prop :=
  state.1 = ShowsScreen.initial.viewDidLoad

def ScreenState.tvShows : ScreenState → List TVShow
  | populated tvShows => tvShows
  | _ => []

def Alert.isRetry : Alert → Bool
  | retry _ => true
  | confirmDelete _ => false

def ShowsScreen.retryDialogs (self : ShowsScreen) : Nat :=
  self.alerts.countP Alert.isRetry

structure ShowsInvariant (screen : ShowsScreen) : Prop where
  oneFetchOrDialog : screen.fetches + screen.retryDialogs ≤ 1
  settled : ∀ tvShows, screen.screenState = .populated tvShows →
    screen.fetches = 0 ∧ screen.retryDialogs = 0
  list : screen.currentTVShows = screen.screenState.tvShows
  count : screen.rowCount = screen.currentTVShows.length
  actions : ∀ row, screen.rowActions row ≠ none → row < screen.currentTVShows.length
  captured : ∀ row, Alert.confirmDelete row ∈ screen.alerts → row < screen.currentTVShows.length

namespace ShowsInvariant

theorem viewDidLoad : ShowsInvariant ShowsScreen.initial.viewDidLoad where
  oneFetchOrDialog := by decide
  settled tvShows h := by cases h
  list := rfl
  count := rfl
  actions row h := absurd rfl h
  captured row h := by cases h

theorem of_fetching {screen : ShowsScreen} (inv : ShowsInvariant screen) (h : 0 < screen.fetches) :
    screen.currentTVShows = [] ∧ screen.fetches = 1 ∧ screen.retryDialogs = 0 := by
  have hone := inv.oneFetchOrDialog
  refine ⟨?_, by omega, by omega⟩
  rw [inv.list]
  cases hstate : screen.screenState with
  | populated tvShows =>
    have hzero := (inv.settled tvShows hstate).1
    omega
  | empty => rfl
  | loading => rfl
  | error error => rfl

theorem fetchEnds {screen : ShowsScreen} (inv : ShowsInvariant screen) (h : 0 < screen.fetches)
    (response : TVShowsModel) : ShowsInvariant (screen.fetchEnds response) := by
  obtain ⟨hlist, hone, hnone⟩ := inv.of_fetching h
  have hrow : ∀ row, screen.rowActions row = none := by
    intro row
    by_contra hne
    have hlt := inv.actions row hne
    simp [hlist] at hlt
  have hcaptured : ∀ row, Alert.confirmDelete row ∉ screen.alerts := by
    intro row hmem
    have hlt := inv.captured row hmem
    simp [hlist] at hlt
  have hkeep : ∀ state : ScreenState, (∀ error, state ≠ .error error) →
      ShowsInvariant ({ screen with fetches := screen.fetches - 1 }.setScreenState state) := by
    intro state hstate
    cases state with
    | error error => exact absurd rfl (hstate error)
    | _ =>
      refine ⟨?_, fun _ _ => ⟨?_, hnone⟩, rfl, rfl, fun row hne => absurd (hrow row) hne,
        fun row hmem => absurd hmem (hcaptured row)⟩ <;>
        simp only [ShowsScreen.setScreenState, ShowsScreen.reloadData, ShowsScreen.retryDialogs]
          at hnone ⊢ <;> omega
  unfold ShowsScreen.fetchEnds ShowsScreen.update
  split
  · refine ⟨?_, fun _ hstate => (by cases hstate), rfl, rfl, fun row hne => absurd (hrow row) hne,
      fun row hmem => ?_⟩
    · simp only [ShowsScreen.setScreenState, ShowsScreen.reloadData, ShowsScreen.retryDialogs,
        List.countP_append, List.countP_singleton, Alert.isRetry] at hnone ⊢
      simp [hone, hnone]
    · cases List.mem_append.mp hmem with
      | inl hmem => exact absurd hmem (hcaptured row)
      | inr hmem => simp at hmem
  · split
    · exact hkeep .empty fun error h => by cases h
    · split
      · exact hkeep .empty fun error h => by cases h
      · exact hkeep (.populated _) fun error h => by cases h

theorem fetchDropped {screen : ShowsScreen} (inv : ShowsInvariant screen) :
    ShowsInvariant screen.fetchDropped := by
  have hone := inv.oneFetchOrDialog
  refine ⟨?_, fun tvShows hstate => ?_, inv.list, inv.count, inv.actions, inv.captured⟩
  · simp only [ShowsScreen.fetchDropped, ShowsScreen.retryDialogs] at hone ⊢
    omega
  · obtain ⟨hfetches, hdialogs⟩ := inv.settled tvShows hstate
    simp only [ShowsScreen.fetchDropped, ShowsScreen.retryDialogs] at hdialogs ⊢
    exact ⟨by omega, hdialogs⟩

theorem answered {screen : ShowsScreen} (inv : ShowsInvariant screen) {i : Nat} {alert : Alert}
    (h : screen.alerts[i]? = some alert) :
    ShowsInvariant { screen with alerts := screen.alerts.eraseIdx i } ∧
      (alert.isRetry = true →
        ShowsInvariant { screen with alerts := screen.alerts.eraseIdx i }.loadShows) := by
  obtain ⟨hi, halert⟩ := List.getElem?_eq_some_iff.mp h
  have hcount : (screen.alerts.eraseIdx i).countP Alert.isRetry +
      (if alert.isRetry then 1 else 0) = screen.retryDialogs := by
    have hperm := List.getElem_cons_eraseIdx_perm hi
    rw [halert] at hperm
    have hc := hperm.countP_eq Alert.isRetry
    rw [List.countP_cons] at hc
    exact hc
  have hone := inv.oneFetchOrDialog
  have hmem : ∀ a, a ∈ screen.alerts.eraseIdx i → a ∈ screen.alerts := fun a ha =>
    List.mem_of_mem_eraseIdx ha
  refine ⟨⟨?_, fun tvShows hstate => ?_, inv.list, inv.count, inv.actions,
    fun row hrow => inv.captured row (hmem _ hrow)⟩, fun hretry =>
    ⟨?_, fun tvShows hstate => ?_, inv.list, inv.count, inv.actions,
      fun row hrow => inv.captured row (hmem _ hrow)⟩⟩
  · simp only [ShowsScreen.retryDialogs] at hcount hone ⊢
    omega
  · obtain ⟨hfetches, hdialogs⟩ := inv.settled tvShows hstate
    simp only [ShowsScreen.retryDialogs] at hcount hdialogs ⊢
    exact ⟨hfetches, by omega⟩
  · simp only [ShowsScreen.retryDialogs, ShowsScreen.loadShows, hretry, if_true] at hcount hone ⊢
    omega
  · obtain ⟨hfetches, hdialogs⟩ := inv.settled tvShows hstate
    simp only [hretry, if_true, hdialogs] at hcount
    omega

end ShowsInvariant

theorem setFavoriteStatusAt_no_index_trap {screen : ShowsScreen} {realm : Realm} {row : Nat}
    {favorite : Bool} (h : row < screen.currentTVShows.length) :
    screen.setFavoriteStatusAt realm row favorite ≠ .error .indexOutOfRange := by
  intro he
  rw [ShowsScreen.setFavoriteStatusAt, index_of_lt h] at he
  have htrap := (setFavoriteStatus_eq_error_iff.mp he).2.2
  cases htrap

inductive ShowsChange (screen : ShowsScreen) : ShowsScreen → Prop
  | nothing : ShowsChange screen screen
  | fetchEnds (response : TVShowsModel) : 0 < screen.fetches →
      ShowsChange screen (screen.fetchEnds response)
  | fetchDropped : ShowsChange screen screen.fetchDropped
  | selected (tvShow : Option TVShow) : ShowsChange screen { screen with tvShow := tvShow }
  | swiped (row : Nat) (action : RowAction) : row < screen.currentTVShows.length →
      ShowsChange screen
        { screen with rowActions := Function.update screen.rowActions row (some action) }
  | asked (row : Nat) : screen.rowActions row ≠ none →
      ShowsChange screen (screen.unfavoriteAction row)
  | answered (i : Nat) (alert : Alert) : screen.alerts[i]? = some alert →
      ShowsChange screen { screen with alerts := screen.alerts.eraseIdx i }
  | retried (i : Nat) (message : String) : screen.alerts[i]? = some (.retry message) →
      ShowsChange screen { screen with alerts := screen.alerts.eraseIdx i }.loadShows

theorem ShowsChange.of_didSelectRowAt {screen screen' : ShowsScreen} {row : Nat}
    (h : screen.didSelectRowAt row = .ok screen') : ShowsChange screen screen' := by
  unfold ShowsScreen.didSelectRowAt at h
  split at h
  · exact Except.ok.inj h ▸ .selected _
  · cases h

theorem ShowsChange.of_editActionsForRowAt {screen screen' : ShowsScreen} {realm : Realm}
    {row : Nat} (h : screen.editActionsForRowAt realm row = .ok screen') :
    ShowsChange screen screen' := by
  unfold ShowsScreen.editActionsForRowAt at h
  cases hshow : index screen.currentTVShows row with
  | error trap => simp [hshow] at h
  | ok tvShow =>
    simp only [hshow, Except.ok.injEq] at h
    have hlt := (List.getElem?_eq_some_iff.mp (index_eq_ok hshow)).1
    exact h ▸ .swiped row _ hlt

theorem ShowsChange.of_tapRowAction {screen screen' : ShowsScreen} {realm realm' : Realm}
    {row : Nat} (h : screen.tapRowAction realm row = .ok (screen', realm')) :
    ShowsChange screen screen' := by
  unfold ShowsScreen.tapRowAction at h
  cases haction : screen.rowActions row with
  | none =>
    simp only [haction, Except.ok.injEq, Prod.mk.injEq] at h
    exact h.1 ▸ .nothing
  | some action =>
    cases action with
    | favorite =>
      simp only [haction] at h
      obtain ⟨realm'', -, hstate⟩ := map_eq_ok h
      exact (Prod.mk.inj hstate).1 ▸ .nothing
    | unfavorite =>
      simp only [haction, Except.ok.injEq, Prod.mk.injEq] at h
      exact h.1 ▸ .asked row (by simp [haction])

theorem ShowsChange.of_answerAlert {screen screen' : ShowsScreen} {realm realm' : Realm}
    {i : Nat} {confirmed : Bool}
    (h : screen.answerAlert realm i confirmed = .ok (screen', realm')) :
    ShowsChange screen screen' := by
  unfold ShowsScreen.answerAlert at h
  cases halert : screen.alerts[i]? with
  | none =>
    simp only [halert, Except.ok.injEq, Prod.mk.injEq] at h
    exact h.1 ▸ .nothing
  | some alert =>
    cases confirmed with
    | false =>
      simp only [halert, Bool.false_eq_true, if_false, Except.ok.injEq, Prod.mk.injEq] at h
      exact h.1 ▸ .answered i alert halert
    | true =>
      cases alert with
      | retry message =>
        simp only [halert, if_true, Except.ok.injEq, Prod.mk.injEq] at h
        exact h.1 ▸ .retried i message halert
      | confirmDelete row =>
        simp only [halert, if_true] at h
        obtain ⟨realm'', -, hstate⟩ := map_eq_ok h
        exact (Prod.mk.inj hstate).1 ▸ .answered i _ halert

theorem ShowsStep.change {state state' : ShowsScreen × Realm} {event : ShowsEvent}
    (h : ShowsStep state event state') : ShowsChange state.1 state'.1 := by
  obtain ⟨hpossible, hok⟩ := h
  cases event with
  | fetchEnds response => exact Except.ok.inj hok ▸ .fetchEnds response hpossible
  | fetchDropped => exact Except.ok.inj hok ▸ .fetchDropped
  | answerAlert i confirmed => exact .of_answerAlert hok
  | cellForRow row =>
    obtain ⟨_, -, hsame⟩ := map_eq_ok hok
    exact hsame ▸ .nothing
  | selectRow row =>
    obtain ⟨screen, hselect, hstate⟩ := map_eq_ok hok
    exact hstate ▸ .of_didSelectRowAt hselect
  | swipeRow row =>
    obtain ⟨screen, hswipe, hstate⟩ := map_eq_ok hok
    exact hstate ▸ .of_editActionsForRowAt hswipe
  | tapRowAction row => exact .of_tapRowAction hok
  | storeChanged realm => exact Except.ok.inj hok ▸ .nothing

namespace ShowsInvariant

theorem asked {screen : ShowsScreen} (inv : ShowsInvariant screen) {row : Nat}
    (h : screen.rowActions row ≠ none) : ShowsInvariant (screen.unfavoriteAction row) := by
  have hretry : (screen.unfavoriteAction row).retryDialogs = screen.retryDialogs := by
    simp [ShowsScreen.unfavoriteAction, ShowsScreen.retryDialogs, Alert.isRetry]
  refine ⟨?_, fun tvShows hstate => ?_, inv.list, inv.count, inv.actions, fun r hr => ?_⟩
  · rw [hretry]
    exact inv.oneFetchOrDialog
  · rw [hretry]
    exact inv.settled tvShows hstate
  · cases List.mem_append.mp hr with
    | inl hr => exact inv.captured r hr
    | inr hr =>
      have hrow : r = row := by simpa using hr
      exact hrow ▸ inv.actions row h

theorem swiped {screen : ShowsScreen} (inv : ShowsInvariant screen) {row : Nat}
    (action : RowAction) (hlt : row < screen.currentTVShows.length) :
    ShowsInvariant
      { screen with rowActions := Function.update screen.rowActions row (some action) } := by
  refine ⟨inv.oneFetchOrDialog, inv.settled, inv.list, inv.count, fun r hr => ?_, inv.captured⟩
  by_cases hrow : r = row
  · exact hrow ▸ hlt
  · have hold : screen.rowActions r ≠ none := by simpa [Function.update_of_ne hrow] using hr
    exact inv.actions r hold

theorem change {screen screen' : ShowsScreen} (inv : ShowsInvariant screen)
    (h : ShowsChange screen screen') : ShowsInvariant screen' := by
  cases h with
  | nothing => exact inv
  | fetchEnds response hflight => exact inv.fetchEnds hflight response
  | fetchDropped => exact inv.fetchDropped
  | selected tvShow => exact { inv with }
  | swiped row action hlt => exact inv.swiped action hlt
  | asked row haction => exact inv.asked haction
  | answered i alert halert => exact (inv.answered halert).1
  | retried i message halert => exact (inv.answered halert).2 rfl

theorem step {state state' : ShowsScreen × Realm} {event : ShowsEvent}
    (inv : ShowsInvariant state.1) (h : ShowsStep state event state') : ShowsInvariant state'.1 :=
  inv.change h.change

theorem reachable {state : ShowsScreen × Realm} (h : Reachable ShowsStarted ShowsStep state) :
    ShowsInvariant state.1 :=
  h.invariant (P := fun state => ShowsInvariant state.1)
    (fun _ hstart => hstart ▸ ShowsInvariant.viewDidLoad) fun _ _ _ => ShowsInvariant.step

theorem change_populated {screen screen' : ShowsScreen} (inv : ShowsInvariant screen)
    {tvShows : List TVShow} (hstate : screen.screenState = .populated tvShows)
    (h : ShowsChange screen screen') : screen'.screenState = .populated tvShows := by
  cases h with
  | fetchEnds response hflight =>
    have hzero := (inv.settled tvShows hstate).1
    omega
  | _ => exact hstate

theorem run_populated {state state' : ShowsScreen × Realm} {events : List ShowsEvent}
    (inv : ShowsInvariant state.1) {tvShows : List TVShow}
    (hstate : state.1.screenState = .populated tvShows) (h : Run ShowsStep state events state') :
    state'.1.screenState = .populated tvShows ∧ state'.1.currentTVShows = tvShows := by
  have hend := h.preserves
    (P := fun state => ShowsInvariant state.1 ∧ state.1.screenState = .populated tvShows)
    (fun _ _ _ hs hstep => ⟨hs.1.step hstep, hs.1.change_populated hs.2 hstep.change⟩) ⟨inv, hstate⟩
  exact ⟨hend.2, by rw [hend.1.list, hend.2]; rfl⟩

theorem run_list {state state' : ShowsScreen × Realm} {events : List ShowsEvent} {row : Nat}
    (inv : ShowsInvariant state.1) (hrow : row < state.1.currentTVShows.length)
    (h : Run ShowsStep state events state') :
    state'.1.currentTVShows = state.1.currentTVShows := by
  have hlist := inv.list
  cases hstate : state.1.screenState with
  | populated tvShows =>
    rw [(inv.run_populated hstate h).2, hlist, hstate]
    rfl
  | _ =>
    rw [hlist, hstate] at hrow
    exact absurd hrow (Nat.not_lt_zero row)

theorem no_index_trap {screen : ShowsScreen} (inv : ShowsInvariant screen) (realm : Realm)
    {event : ShowsEvent} (h : event.Possible screen) :
    event.handle (screen, realm) ≠ .error .indexOutOfRange := by
  intro he
  have hcount := inv.count
  cases event with
  | fetchEnds response => cases he
  | fetchDropped => cases he
  | storeChanged realm' => cases he
  | cellForRow row =>
    have hlt : row < screen.currentTVShows.length := hcount ▸ h
    have herror := map_eq_error_iff.mp he
    rw [ShowsScreen.cellForRowAt, index_of_lt hlt] at herror
    cases herror
  | selectRow row =>
    have hlt : row < screen.currentTVShows.length := hcount ▸ h
    have herror := map_eq_error_iff.mp he
    simp [ShowsScreen.didSelectRowAt, index_of_lt hlt] at herror
  | swipeRow row =>
    have hlt : row < screen.currentTVShows.length := hcount ▸ h
    have herror := map_eq_error_iff.mp he
    simp [ShowsScreen.editActionsForRowAt, index_of_lt hlt] at herror
  | tapRowAction row =>
    simp only [ShowsEvent.handle, ShowsScreen.tapRowAction] at he
    cases haction : screen.rowActions row with
    | none => simp [haction] at he
    | some action =>
      cases action with
      | unfavorite => simp [haction] at he
      | favorite =>
        simp only [haction] at he
        exact setFavoriteStatusAt_no_index_trap (inv.actions row h) (map_eq_error_iff.mp he)
  | answerAlert i confirmed =>
    simp only [ShowsEvent.handle, ShowsScreen.answerAlert, List.getElem?_eq_getElem h] at he
    have hmem : screen.alerts[i] ∈ screen.alerts := List.getElem_mem h
    cases confirmed with
    | false => simp at he
    | true =>
      cases halert : screen.alerts[i] with
      | retry message => simp [halert] at he
      | confirmDelete row =>
        have hlt := inv.captured row (halert ▸ hmem)
        simp only [halert, if_true] at he
        exact setFavoriteStatusAt_no_index_trap hlt (map_eq_error_iff.mp he)

end ShowsInvariant

/-- What holds of the screen for its whole life: a fetch and a retry dialog
exclude each other and end with the list, the list is the one the screen state
carries and never changes again, and every row that a callback or a pending
confirmation holds is a row of it. -/
structure RowIndicesValid (state : ShowsScreen × Realm) : Prop where
  oneFetchOrDialog : state.1.fetches + state.1.retryDialogs ≤ 1
  settled : ∀ tvShows, state.1.screenState = .populated tvShows →
    state.1.fetches = 0 ∧ state.1.retryDialogs = 0
  list : state.1.currentTVShows = state.1.screenState.tvShows
  populated : ∀ tvShows state', tvShows ≠ [] →
    ShowsStep state (.fetchEnds ⟨some tvShows, none⟩) state' →
      state'.1.screenState = .populated tvShows ∧ state'.1.rowCount = tvShows.length
  final : ∀ tvShows, state.1.screenState = .populated tvShows → ∀ events state',
    Run ShowsStep state events state' →
      state'.1.screenState = .populated tvShows ∧ state'.1.currentTVShows = tvShows
  denotes : ∀ row < state.1.currentTVShows.length, ∀ events state',
    Run ShowsStep state events state' →
      state'.1.currentTVShows[row]? = state.1.currentTVShows[row]?
  count : state.1.rowCount = state.1.currentTVShows.length
  actions : ∀ row, state.1.rowActions row ≠ none → row < state.1.currentTVShows.length
  captured : ∀ row, Alert.confirmDelete row ∈ state.1.alerts → row < state.1.currentTVShows.length
  noIndexTrap : ∀ event : ShowsEvent, event.Possible state.1 →
    event.handle state ≠ .error .indexOutOfRange

theorem fetchEnds_populated {state state' : ShowsScreen × Realm} {tvShows : List TVShow}
    (hne : tvShows ≠ []) (h : ShowsStep state (.fetchEnds ⟨some tvShows, none⟩) state') :
    state'.1.screenState = .populated tvShows ∧ state'.1.rowCount = tvShows.length := by
  obtain rfl := Except.ok.inj h.2
  cases tvShows with
  | nil => exact absurd rfl hne
  | cons tvShow rest => exact ⟨rfl, rfl⟩

theorem row_indices_stay_valid {state : ShowsScreen × Realm}
    (h : Reachable ShowsStarted ShowsStep state) : RowIndicesValid state := by
  have inv := ShowsInvariant.reachable h
  exact ⟨inv.oneFetchOrDialog, inv.settled, inv.list,
    fun _ _ hne hstep => fetchEnds_populated hne hstep,
    fun _ hstate _ _ hrun => inv.run_populated hstate hrun,
    fun _ hrow _ _ hrun => by rw [inv.run_list hrow hrun], inv.count, inv.actions, inv.captured,
    fun _ hpossible => inv.no_index_trap state.2 hpossible⟩

theorem row_indices_stay_valid_one : ∃ state : ShowsScreen × Realm,
    state.1.screenState = .populated [.bare (some 1)] ∧ state.1.rowCount = 1 ∧
      RowIndicesValid state := by
  have hstart : ShowsStarted (ShowsScreen.initial.viewDidLoad, Realm.empty) := rfl
  have hfetch : ShowsStep (ShowsScreen.initial.viewDidLoad, Realm.empty)
      (.fetchEnds ⟨some [.bare (some 1)], none⟩)
      (ShowsScreen.initial.viewDidLoad.fetchEnds ⟨some [.bare (some 1)], none⟩, Realm.empty) :=
    ⟨Nat.one_pos, rfl⟩
  exact ⟨_, rfl, rfl, row_indices_stay_valid ((Reachable.start hstart).next hfetch)⟩

end TVShows
