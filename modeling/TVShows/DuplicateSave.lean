import TVShows.App

/-! Saving a key twice. A row's Favorite action is chosen when the row is
swiped and saves whenever it is tapped; nothing asks for the status in between.
Every other way to save asks right before it, so a tap on an action whose show
has been saved since is the only step that meets a key that is taken. -/

namespace TVShows

open TransitionRun

def NoDuplicateSave (app : App) (event : AppEvent) : Prop :=
  ∀ key, app.handle event ≠ .error (.duplicatePrimaryKey key)

def FreshTap (app : App) (event : AppEvent) : Prop :=
  ∀ row t, event = .tapShowsAction row → app.shows.rowActions row = some .favorite →
    app.shows.currentTVShows[row]? = some t → t.isFavorite app.realm = false

theorem setFavoriteStatusAt_duplicate_iff {screen : ShowsScreen} {realm : Realm} {row : Nat}
    {favorite : Bool} {key : Int} :
    screen.setFavoriteStatusAt realm row favorite = .error (.duplicatePrimaryKey key) ↔
      favorite = true ∧ ∃ t, screen.currentTVShows[row]? = some t ∧ t.isFavorite realm = true ∧
        key = t.id.getD 0 := by
  unfold ShowsScreen.setFavoriteStatusAt index
  cases screen.currentTVShows[row]? with
  | none => simp
  | some t => simp [setFavoriteStatus_eq_error_iff]

theorem editActionsForRowAt_eq_error {screen : ShowsScreen} {realm : Realm} {row : Nat}
    {trap : Trap} (h : screen.editActionsForRowAt realm row = .error trap) :
    trap = .indexOutOfRange := by
  unfold ShowsScreen.editActionsForRowAt at h
  split at h
  · cases h
  · rename_i trap' htrap
    rw [← Except.error.inj h, index_eq_error htrap]

theorem didSelectRowAt_eq_error {screen : ShowsScreen} {row : Nat} {trap : Trap}
    (h : screen.didSelectRowAt row = .error trap) : trap = .indexOutOfRange := by
  unfold ShowsScreen.didSelectRowAt at h
  split at h
  · cases h
  · rename_i trap' htrap
    rw [← Except.error.inj h, index_eq_error htrap]

theorem record_ne_duplicate (screen : FavoritesScreen) (realm : Realm) (row : Nat) (key : Int) :
    screen.record realm row ≠ .error (.duplicatePrimaryKey key) := by
  unfold FavoritesScreen.record index Realm.read
  split
  · split <;> simp
  · rename_i trap htrap
    split at htrap
    · cases htrap
    · simp [← Except.error.inj htrap]

theorem removeFavorite_ne_duplicate (screen : FavoritesScreen) (realm : Realm) (row : Nat)
    (key : Int) : screen.removeFavorite realm row ≠ .error (.duplicatePrimaryKey key) := by
  unfold FavoritesScreen.removeFavorite
  split
  · rename_i trap htrap
    rw [index_eq_error htrap]
    simp
  · dsimp only
    split <;> simp

theorem noDuplicateSave_of_not_tap (app : App) {event : AppEvent}
    (hevent : ∀ row, event ≠ .tapShowsAction row) : NoDuplicateSave app event := by
  intro key h
  cases event with
  | tapShowsAction row => exact hevent row rfl
  | showsCell row => simpa using index_eq_error (map_eq_error_iff.mp h)
  | swipeShowsRow row => simpa using editActionsForRowAt_eq_error (map_eq_error_iff.mp h)
  | answerShowsAlert i confirmed =>
    have herror := map_eq_error_iff.mp h
    unfold ShowsScreen.answerAlert at herror
    split at herror
    · cases herror
    · dsimp only at herror
      split at herror
      · split at herror
        · cases herror
        · have hdelete := map_eq_error_iff.mp herror
          rw [ShowsScreen.deleteConfirmed, setFavoriteStatusAt_duplicate_iff] at hdelete
          simp at hdelete
      · cases herror
  | selectShowsRow row => simpa using didSelectRowAt_eq_error (map_eq_error_iff.mp h)
  | favoritesCell row => exact record_ne_duplicate _ _ _ _ (map_eq_error_iff.mp h)
  | tapFavoritesDelete row => cases h
  | answerFavoritesAlert i confirmed =>
    have herror := map_eq_error_iff.mp h
    unfold FavoritesScreen.answerAlert at herror
    split at herror
    · cases herror
    · dsimp only at herror
      split at herror
      · exact removeFavorite_ne_duplicate _ _ _ _ herror
      · cases herror
  | selectFavoritesRow row =>
    exact record_ne_duplicate _ _ _ _ (map_eq_error_iff.mp (map_eq_error_iff.mp h))
  | toggleFavorite =>
    simp only [App.handle, App.toggleFavorite] at h
    split at h
    · cases h
    · rename_i detail details hstack
      obtain ⟨realm', hok⟩ := toggleFavorite_ok detail app.realm
      have herror := map_eq_error_iff.mp h
      rw [hok] at herror
      cases herror
  | popDetail => cases h
  | switchTab => cases h

theorem noDuplicateSave_tap_iff (app : App) (row : Nat) :
    NoDuplicateSave app (.tapShowsAction row) ↔ FreshTap app (.tapShowsAction row) := by
  simp only [NoDuplicateSave, FreshTap, App.handle, ne_eq, map_eq_error_iff,
    ShowsScreen.tapRowAction, AppEvent.tapShowsAction.injEq]
  cases haction : app.shows.rowActions row with
  | none =>
    refine ⟨fun _ r t hr hfavorite => ?_, fun _ key h => by cases h⟩
    subst hr
    simp [haction] at hfavorite
  | some action =>
    cases action with
    | unfavorite =>
      refine ⟨fun _ r t hr hfavorite => ?_, fun _ key h => by cases h⟩
      subst hr
      simp [haction] at hfavorite
    | favorite =>
      -- the closure saves without asking, so only a stored key stops it
      simp only [map_eq_error_iff, ShowsScreen.favoriteAction, setFavoriteStatusAt_duplicate_iff]
      refine ⟨fun hnone r t hr _ hrow => ?_, fun hfresh key h => ?_⟩
      · subst hr
        by_contra hstored
        exact hnone _ ⟨trivial, t, hrow, by simpa using hstored, rfl⟩
      · obtain ⟨-, t, hrow, hstored, -⟩ := h
        simp [hfresh row t rfl haction hrow] at hstored

theorem noDuplicateSave_iff_freshTap (app : App) (event : AppEvent) :
    NoDuplicateSave app event ↔ FreshTap app event := by
  by_cases hevent : ∃ row, event = .tapShowsAction row
  · obtain ⟨row, rfl⟩ := hevent
    exact noDuplicateSave_tap_iff app row
  · have hother : ∀ row, event ≠ .tapShowsAction row := fun row h => hevent ⟨row, h⟩
    exact iff_of_true (noDuplicateSave_of_not_tap app hother)
      fun row t h => absurd h (hother row)

section Offers
variable {app app' : App}

theorem viewWillAppear_shows (app : App) : app.viewWillAppear.shows = app.shows := by
  unfold App.viewWillAppear
  split <;> rfl

theorem tapRowAction_kept {self screen : ShowsScreen} {realm realm' : Realm} {row : Nat}
    (h : self.tapRowAction realm row = .ok (screen, realm')) :
    screen.currentTVShows = self.currentTVShows ∧ screen.rowActions = self.rowActions := by
  unfold ShowsScreen.tapRowAction at h
  split at h
  · exact (Prod.mk.inj (Except.ok.inj h)).1 ▸ ⟨rfl, rfl⟩
  · obtain ⟨_, -, hpair⟩ := map_eq_ok h
    exact (Prod.mk.inj hpair).1 ▸ ⟨rfl, rfl⟩
  · exact (Prod.mk.inj (Except.ok.inj h)).1 ▸ ⟨rfl, rfl⟩

theorem answerAlert_kept {self screen : ShowsScreen} {realm realm' : Realm} {i : Nat}
    {confirmed : Bool} (h : self.answerAlert realm i confirmed = .ok (screen, realm')) :
    screen.currentTVShows = self.currentTVShows ∧ screen.rowActions = self.rowActions := by
  unfold ShowsScreen.answerAlert at h
  split at h
  · exact (Prod.mk.inj (Except.ok.inj h)).1 ▸ ⟨rfl, rfl⟩
  · dsimp only at h
    split at h
    · split at h
      · exact (Prod.mk.inj (Except.ok.inj h)).1 ▸ ⟨rfl, rfl⟩
      · obtain ⟨_, -, hpair⟩ := map_eq_ok h
        exact (Prod.mk.inj hpair).1 ▸ ⟨rfl, rfl⟩
    · exact (Prod.mk.inj (Except.ok.inj h)).1 ▸ ⟨rfl, rfl⟩

theorem swipe_offers {row : Nat} (h : AppStep app (.swipeShowsRow row) app') :
    ∃ t, app.shows.currentTVShows[row]? = some t ∧
      app'.shows.currentTVShows = app.shows.currentTVShows ∧
      app'.shows.rowActions = Function.update app.shows.rowActions row
        (some (if t.isFavorite app.realm then .unfavorite else .favorite)) := by
  obtain ⟨shows, hshows, rfl⟩ := map_eq_ok h
  unfold ShowsScreen.editActionsForRowAt at hshows
  split at hshows
  · rename_i t hrow
    obtain rfl := Except.ok.inj hshows
    exact ⟨t, index_eq_ok hrow, rfl, rfl⟩
  · cases hshows

theorem shows_kept {event : AppEvent} (h : AppStep app event app')
    (hevent : ∀ row, event ≠ .swipeShowsRow row) :
    app'.shows.currentTVShows = app.shows.currentTVShows ∧
      app'.shows.rowActions = app.shows.rowActions := by
  cases event with
  | swipeShowsRow row => exact absurd rfl (hevent row)
  | tapShowsAction row =>
    obtain ⟨result, hresult, rfl⟩ := map_eq_ok h
    exact tapRowAction_kept hresult
  | answerShowsAlert i confirmed =>
    obtain ⟨result, hresult, rfl⟩ := map_eq_ok h
    exact answerAlert_kept hresult
  | selectShowsRow row =>
    obtain ⟨shows, hshows, rfl⟩ := map_eq_ok h
    unfold ShowsScreen.didSelectRowAt at hshows
    split at hshows
    · obtain rfl := Except.ok.inj hshows
      exact ⟨rfl, rfl⟩
    · cases hshows
  | tapFavoritesDelete row =>
    obtain rfl := Except.ok.inj h
    exact ⟨rfl, rfl⟩
  | toggleFavorite =>
    simp only [AppStep, App.handle, App.toggleFavorite] at h
    split at h
    · obtain rfl := Except.ok.inj h
      exact ⟨rfl, rfl⟩
    · obtain ⟨_, -, rfl⟩ := map_eq_ok h
      exact ⟨rfl, rfl⟩
  | popDetail =>
    obtain rfl := Except.ok.inj h
    rw [App.popDetail, viewWillAppear_shows]
    exact ⟨rfl, rfl⟩
  | switchTab =>
    obtain rfl := Except.ok.inj h
    rw [App.switchTab, viewWillAppear_shows]
    exact ⟨rfl, rfl⟩
  | _ =>
    obtain ⟨_, -, rfl⟩ := map_eq_ok h
    exact ⟨rfl, rfl⟩

/-- The last swipe of the row found the show there and not stored. -/
def OfferedFresh (launched : App) (events : List AppEvent) (row : Nat) (t : TVShow) : Prop :=
  ∃ done rest before, events = done ++ .swipeShowsRow row :: rest ∧
    (∀ event ∈ rest, event ≠ .swipeShowsRow row) ∧ Run AppStep launched done before ∧
    before.shows.currentTVShows[row]? = some t ∧ t.isFavorite before.realm = false

theorem OfferedFresh.snoc {launched : App} {events : List AppEvent} {row : Nat} {t : TVShow}
    {event : AppEvent} (h : OfferedFresh launched events row t)
    (hevent : event ≠ .swipeShowsRow row) : OfferedFresh launched (events ++ [event]) row t := by
  obtain ⟨done, rest, before, rfl, hrest, hbefore⟩ := h
  refine ⟨done, rest ++ [event], before, by simp, fun later hlater => ?_, hbefore⟩
  cases List.mem_append.mp hlater with
  | inl hold => exact hrest later hold
  | inr hlast => exact List.mem_singleton.mp hlast ▸ hevent

theorem favorite_offered {launched : App} (hlaunch : ∀ row, launched.shows.rowActions row = none)
    {events : List AppEvent} (h : Run AppStep launched events app) {row : Nat}
    (hkept : app.shows.rowActions row = some .favorite) :
    ∃ t, app.shows.currentTVShows[row]? = some t ∧ OfferedFresh launched events row t := by
  refine h.recorded (P := fun events u => ∀ row, u.shows.rowActions row = some .favorite →
    ∃ t, u.shows.currentTVShows[row]? = some t ∧ OfferedFresh launched events row t)
    (fun row hfavorite => ?_) (fun ds u event v hrun hu hstep row hfavorite => ?_) row hkept
  · rw [hlaunch row] at hfavorite
    cases hfavorite
  · by_cases hswipe : ∃ swiped, event = .swipeShowsRow swiped
    · obtain ⟨swiped, rfl⟩ := hswipe
      obtain ⟨t, hrow, hlist, hactions⟩ := swipe_offers hstep
      rw [hactions] at hfavorite
      by_cases hsame : row = swiped
      · subst hsame
        rw [Function.update_self] at hfavorite
        refine ⟨t, hlist ▸ hrow, ds, [], u, rfl, by simp, hrun, hrow, ?_⟩
        cases hstored : t.isFavorite u.realm with
        | false => rfl
        | true => simp [hstored] at hfavorite
      · rw [Function.update_of_ne hsame] at hfavorite
        obtain ⟨kept, hkept, hoffered⟩ := hu row hfavorite
        exact ⟨kept, hlist ▸ hkept, hoffered.snoc (by simp [Ne.symm hsame])⟩
    · have hother : ∀ row, event ≠ .swipeShowsRow row := fun row heq => hswipe ⟨row, heq⟩
      obtain ⟨hlist, hactions⟩ := shows_kept hstep hother
      rw [hactions] at hfavorite
      obtain ⟨kept, hkept, hoffered⟩ := hu row hfavorite
      exact ⟨kept, hlist ▸ hkept, hoffered.snoc (hother row)⟩

end Offers

/-- Whatever the shows, the store and the steps, no step saves a key twice
exactly when every Favorite action that is tapped finds its show not stored. The
actions that a row keeps were offered for shows that were not stored then. -/
theorem favoriting_never_duplicates_iff (tvShows : List TVShow) (realm : Realm)
    (events : List AppEvent) :
    (Along AppStep NoDuplicateSave (App.launch tvShows realm) events ↔
      Along AppStep FreshTap (App.launch tvShows realm) events) ∧
    ∀ app row, Run AppStep (App.launch tvShows realm) events app →
      app.shows.rowActions row = some .favorite →
        ∃ t, app.shows.currentTVShows[row]? = some t ∧
          OfferedFresh (App.launch tvShows realm) events row t := by
  refine ⟨along_congr (P := fun _ => True) (fun _ _ _ _ _ => trivial)
    (fun app event _ => noDuplicateSave_iff_freshTap app event) trivial events,
    fun app row hrun hkept => favorite_offered (fun row => ?_) hrun hkept⟩
  cases tvShows <;> rfl

/-- One swipe and two taps on the action it returned. -/
theorem second_tap_saves_twice :
    ¬ Along AppStep NoDuplicateSave (App.launch [.bare (some 7)] Realm.empty)
      [.swipeShowsRow 0, .tapShowsAction 0, .tapShowsAction 0] := by
  intro h
  have hsecond := ((h.2 _ rfl).2 _ rfl).1 7
  exact hsecond rfl

end TVShows
