import TVShows.DuplicateSave
import TVShows.FavoritesAgree
import TVShows.ShowsFetching

/-! The Shows screen inside the app, and what can stop the app. A run of the app
is for the Shows screen a run in which no fetch ends and the store changes behind
it, so its row indices stay valid and its list stays the one that was fetched.
That leaves one way to stop: a Favorite action whose show has been saved since. -/

namespace TVShows

open TransitionRun

def NoFetchEnds (_ : ShowsScreen × Realm) (events : List ShowsEvent) (_ : ShowsScreen × Realm) :
    Prop :=
  ∀ event ∈ events, event.endsFetch = false

section Projection
variable {app app' : App}

theorem viewWillAppear_realm (app : App) : app.viewWillAppear.realm = app.realm := by
  unfold App.viewWillAppear
  split <;> rfl

theorem shows_step {event : AppEvent} (h : AdmittedStep app event app') :
    ∃ events, Run ShowsStep (app.shows, app.realm) events (app'.shows, app'.realm) ∧
      NoFetchEnds (app.shows, app.realm) events (app'.shows, app'.realm) := by
  have hstore : app'.shows = app.shows →
      ∃ events, Run ShowsStep (app.shows, app.realm) events (app'.shows, app'.realm) ∧
        NoFetchEnds (app.shows, app.realm) events (app'.shows, app'.realm) := by
    intro hshows
    rw [hshows]
    refine ⟨[.storeChanged app'.realm], .single ⟨trivial, rfl⟩, fun event hmem => ?_⟩
    obtain rfl := List.mem_singleton.mp hmem
    rfl
  have hscreen : ∀ event : ShowsEvent, event.endsFetch = false →
      ShowsStep (app.shows, app.realm) event (app'.shows, app'.realm) →
      ∃ events, Run ShowsStep (app.shows, app.realm) events (app'.shows, app'.realm) ∧
        NoFetchEnds (app.shows, app.realm) events (app'.shows, app'.realm) := by
    intro event hends hstep
    refine ⟨[event], .single hstep, fun e hmem => ?_⟩
    obtain rfl := List.mem_singleton.mp hmem
    exact hends
  obtain ⟨hadmitted, hstep⟩ := h
  cases event with
  | showsCell row =>
    obtain ⟨_, -, rfl⟩ := map_eq_ok hstep
    exact hstore rfl
  | swipeShowsRow row =>
    obtain ⟨shows, hshows, rfl⟩ := map_eq_ok hstep
    exact hscreen (.swipeRow row) rfl ⟨hadmitted.2.2, congrArg (Except.map _) hshows⟩
  | tapShowsAction row =>
    obtain ⟨result, hresult, rfl⟩ := map_eq_ok hstep
    exact hscreen (.tapRowAction row) rfl ⟨hadmitted.2.2, hresult⟩
  | answerShowsAlert i confirmed =>
    obtain ⟨result, hresult, rfl⟩ := map_eq_ok hstep
    exact hscreen (.answerAlert i confirmed) rfl ⟨hadmitted, hresult⟩
  | selectShowsRow row =>
    obtain ⟨shows, hshows, rfl⟩ := map_eq_ok hstep
    exact hscreen (.selectRow row) rfl ⟨hadmitted.2.2, congrArg (Except.map _) hshows⟩
  | favoritesCell row =>
    obtain ⟨_, -, rfl⟩ := map_eq_ok hstep
    exact hstore rfl
  | tapFavoritesDelete row => exact hstore (Except.ok.inj hstep ▸ rfl)
  | answerFavoritesAlert i confirmed =>
    obtain ⟨_, -, rfl⟩ := map_eq_ok hstep
    exact hstore rfl
  | selectFavoritesRow row =>
    obtain ⟨_, -, rfl⟩ := map_eq_ok hstep
    exact hstore rfl
  | toggleFavorite =>
    simp only [AppStep, App.handle, App.toggleFavorite] at hstep
    split at hstep
    · exact hstore (Except.ok.inj hstep ▸ rfl)
    · obtain ⟨_, -, rfl⟩ := map_eq_ok hstep
      exact hstore rfl
  | popDetail => exact hstore (Except.ok.inj hstep ▸ viewWillAppear_shows _)
  | switchTab => exact hstore (Except.ok.inj hstep ▸ viewWillAppear_shows _)

theorem shows_run {events : List AppEvent} (h : Run AdmittedStep app events app') :
    ∃ screenEvents, Run ShowsStep (app.shows, app.realm) screenEvents (app'.shows, app'.realm) ∧
      NoFetchEnds (app.shows, app.realm) screenEvents (app'.shows, app'.realm) := by
  have hrefine := h.refine (P := fun _ => True) (f := fun app => (app.shows, app.realm))
    (H := fun app events app' => NoFetchEnds (app.shows, app.realm) events (app'.shows, app'.realm))
    (fun _ _ _ _ _ => trivial) (fun _ _ hmem => absurd hmem List.not_mem_nil)
    (fun _ _ _ _ _ hst htu event hmem => (List.mem_append.mp hmem).elim (hst event) (htu event))
    (fun _ _ _ _ hstep => shows_step hstep) trivial
  exact hrefine

end Projection

theorem shows_started (tvShows : List TVShow) (realm : Realm) :
    Reachable ShowsStarted ShowsStep ((App.launch tvShows realm).shows, realm) := by
  have hstart : ShowsStarted (ShowsScreen.initial.viewDidLoad, realm) := rfl
  exact (Reachable.start hstart).next (e := .fetchEnds ⟨some tvShows, none⟩) ⟨Nat.one_pos, rfl⟩

theorem shows_invariant {app : App} (h : Reachable Launched AdmittedStep app) :
    ShowsInvariant app.shows := by
  obtain ⟨_, events, ⟨tvShows, realm, rfl⟩, hrun⟩ := h
  obtain ⟨screenEvents, hscreen, -⟩ := shows_run hrun
  have hinv := ShowsInvariant.reachable (shows_started tvShows realm)
  exact hscreen.preserves (P := fun state => ShowsInvariant state.1)
    (fun _ _ _ => ShowsInvariant.step) hinv

theorem shows_list {tvShows : List TVShow} {realm : Realm} {events : List AppEvent} {app : App}
    (h : Run AdmittedStep (App.launch tvShows realm) events app) :
    app.shows.currentTVShows = tvShows := by
  obtain ⟨screenEvents, hscreen, hends⟩ := shows_run h
  have hinv := ShowsInvariant.reachable (shows_started tvShows realm)
  have hguarded : Run (guarded (fun _ event => event.endsFetch = false) ShowsStep) _ _ _ :=
    hscreen.guarded_of_forall fun event hmem _ => hends event hmem
  have hkept := hguarded.preserves
    (P := fun state => ShowsInvariant state.1 ∧
      state.1.screenState = (App.launch tvShows realm).shows.screenState)
    (fun _ _ _ hs hstep => ⟨hs.1.step hstep.2,
      (UserEffect.of_step hstep.1 hstep.2).state.trans hs.2⟩) ⟨hinv, rfl⟩
  have hlaunched : (App.launch tvShows realm).shows.screenState.tvShows = tvShows := by
    cases tvShows <;> rfl
  rw [hkept.1.list, hkept.2, hlaunched]

/-- A row action that was kept since a swipe saves whatever the store holds by now. -/
def StaleTap (app : App) (event : AppEvent) (trap : Trap) : Prop :=
  ∃ row t, event = .tapShowsAction row ∧ app.shows.rowActions row = some .favorite ∧
    app.shows.currentTVShows[row]? = some t ∧ t.isFavorite app.realm = true ∧
      trap = .duplicatePrimaryKey (t.id.getD 0)

theorem setFavoriteStatusAt_eq_error {screen : ShowsScreen} {realm : Realm} {row : Nat}
    {favorite : Bool} {trap : Trap}
    (h : screen.setFavoriteStatusAt realm row favorite = .error trap) :
    trap = .indexOutOfRange ∨ favorite = true ∧ ∃ t, screen.currentTVShows[row]? = some t ∧
      t.isFavorite realm = true ∧ trap = .duplicatePrimaryKey (t.id.getD 0) := by
  unfold ShowsScreen.setFavoriteStatusAt at h
  split at h
  · rename_i t hrow
    obtain ⟨hfavorite, hstored, htrap⟩ := setFavoriteStatus_eq_error_iff.mp h
    exact .inr ⟨hfavorite, t, index_eq_ok hrow, hstored, htrap⟩
  · rename_i trap' hindex
    exact .inl (Except.error.inj h ▸ index_eq_error hindex)

theorem tapRowAction_eq_error {screen : ShowsScreen} {realm : Realm} {row : Nat} {trap : Trap}
    (h : screen.tapRowAction realm row = .error trap) :
    trap = .indexOutOfRange ∨ screen.rowActions row = some .favorite ∧
      ∃ t, screen.currentTVShows[row]? = some t ∧ t.isFavorite realm = true ∧
        trap = .duplicatePrimaryKey (t.id.getD 0) := by
  unfold ShowsScreen.tapRowAction at h
  split at h
  · cases h
  · rename_i haction
    cases setFavoriteStatusAt_eq_error (map_eq_error_iff.mp h) with
    | inl hindex => exact .inl hindex
    | inr hstored => exact .inr ⟨haction, hstored.2⟩
  · cases h

theorem answerAlert_eq_error {screen : ShowsScreen} {realm : Realm} {i : Nat} {confirmed : Bool}
    {trap : Trap} (h : screen.answerAlert realm i confirmed = .error trap) :
    trap = .indexOutOfRange := by
  unfold ShowsScreen.answerAlert at h
  split at h
  · cases h
  · dsimp only at h
    split at h
    · split at h
      · cases h
      · cases setFavoriteStatusAt_eq_error (map_eq_error_iff.mp h) with
        | inl hindex => exact hindex
        | inr hstored => exact absurd hstored.1 (by simp)
    · cases h

section Traps
variable {app : App} {event : AppEvent} {trap : Trap}

theorem staleTap_of_shows (hinv : ShowsInvariant app.shows) (showsEvent : ShowsEvent)
    (hpossible : showsEvent.Possible app.shows)
    (herror : showsEvent.handle (app.shows, app.realm) = .error trap)
    (hcases : trap = .indexOutOfRange ∨ StaleTap app event trap) : StaleTap app event trap := by
  refine hcases.resolve_left fun hindex => ?_
  exact hinv.no_index_trap app.realm hpossible (hindex ▸ herror)

theorem staleTap_of_trap (inv : AppInvariant app) (hinv : ShowsInvariant app.shows)
    (hadmitted : app.Admitted event) (h : app.handle event = .error trap) :
    StaleTap app event trap := by
  have hfavorites : app.ListVisible .favorites → StaleTap app event trap := by
    intro hvisible
    obtain ⟨app', hok⟩ := favorites_no_trap inv hvisible hadmitted
    rw [AppStep, h] at hok
    cases hok
  cases event with
  | showsCell row =>
    have herror := map_eq_error_iff.mp h
    exact staleTap_of_shows hinv (.cellForRow row) hadmitted.2
      (map_eq_error_iff.mpr herror) (.inl (index_eq_error herror))
  | swipeShowsRow row =>
    have herror := map_eq_error_iff.mp h
    exact staleTap_of_shows hinv (.swipeRow row) hadmitted.2.2
      (map_eq_error_iff.mpr herror) (.inl (editActionsForRowAt_eq_error herror))
  | tapShowsAction row =>
    have herror := map_eq_error_iff.mp h
    refine staleTap_of_shows hinv (.tapRowAction row) hadmitted.2.2 herror ?_
    refine (tapRowAction_eq_error herror).imp_right ?_
    rintro ⟨haction, t, hrow, hstored, htrap⟩
    exact ⟨row, t, rfl, haction, hrow, hstored, htrap⟩
  | answerShowsAlert i confirmed =>
    have herror := map_eq_error_iff.mp h
    exact staleTap_of_shows hinv (.answerAlert i confirmed) hadmitted herror
      (.inl (answerAlert_eq_error herror))
  | selectShowsRow row =>
    have herror := map_eq_error_iff.mp h
    exact staleTap_of_shows hinv (.selectRow row) hadmitted.2.2
      (map_eq_error_iff.mpr herror) (.inl (didSelectRowAt_eq_error herror))
  | favoritesCell row => exact hfavorites hadmitted.1
  | tapFavoritesDelete row => cases h
  | answerFavoritesAlert i confirmed =>
    exact hfavorites (inv.favorites_answer (List.getElem?_eq_getElem hadmitted)).1
  | selectFavoritesRow row => exact hfavorites hadmitted.2.1
  | toggleFavorite =>
    simp only [App.handle, App.toggleFavorite] at h
    split at h
    · cases h
    · rename_i detail details hstack
      obtain ⟨realm', hok⟩ := toggleFavorite_ok detail app.realm
      have herror := map_eq_error_iff.mp h
      rw [hok] at herror
      cases herror
  | popDetail => cases h
  | switchTab => cases h

theorem trap_of_staleTap (h : StaleTap app event trap) : app.handle event = .error trap := by
  obtain ⟨row, t, rfl, haction, hrow, hstored, rfl⟩ := h
  refine map_eq_error_iff.mpr ?_
  simp only [ShowsScreen.tapRowAction, haction]
  exact map_eq_error_iff.mpr (setFavoriteStatusAt_duplicate_iff.mpr ⟨rfl, t, hrow, hstored, rfl⟩)

/-- In a reachable state an event that UIKit admits stops the app exactly when it
taps a Favorite action whose show is in the store by now; no row is ever out of
range, no object invalidated and no table update inconsistent. -/
theorem app_traps_iff_stale_tap (h : Reachable Launched AdmittedStep app)
    (hadmitted : app.Admitted event) : app.handle event = .error trap ↔ StaleTap app event trap :=
  ⟨staleTap_of_trap (AppInvariant.reachable h) (shows_invariant h) hadmitted, trap_of_staleTap⟩

theorem app_traps_iff_stale_tap_second : ∃ app,
    app.handle (.tapShowsAction 0) = .error (.duplicatePrimaryKey 7) ∧
      (app.handle (.tapShowsAction 0) = .error (.duplicatePrimaryKey 7) ↔
        StaleTap app (.tapShowsAction 0) (.duplicatePrimaryKey 7)) := by
  have hlaunch : Launched (App.launch [.bare (some 7)] Realm.empty) := ⟨_, _, rfl⟩
  have hswipe := reachable_event (.start hlaunch) (.swipeShowsRow 0)
    ⟨⟨rfl, rfl⟩, ⟨rfl, rfl⟩, Nat.one_pos⟩ rfl
  have htap := reachable_event hswipe (.tapShowsAction 0)
    ⟨⟨rfl, rfl⟩, ⟨rfl, rfl⟩, Option.some_ne_none RowAction.favorite⟩ rfl
  exact ⟨_, rfl, app_traps_iff_stale_tap htap
    ⟨⟨rfl, rfl⟩, ⟨rfl, rfl⟩, Option.some_ne_none RowAction.favorite⟩⟩

end Traps

end TVShows
