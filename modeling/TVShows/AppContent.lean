import TVShows.AppStore

/-! What the app stores and shows, traced back to where it came from. A record
is only ever made from a show, a show on a detail screen is a row of the fetched
list or was built from a record, and building a show from a record and saving it
again is the identity; so every record in the store, and every field of every
detail screen in either tab, is that of one fetched show or of one record that
was stored before the app was launched. -/

namespace TVShows

open LiveTable TransitionRun

def FromSource (tvShows : List TVShow) (stored : List TVShowStore) (record : TVShowStore) : Prop :=
  record ∈ stored ∨ ∃ t ∈ tvShows, record = t.storeObject

structure DetailScreen.ShowsRecord (screen : DetailScreen) (record : TVShowStore) : Prop where
  tvShow : ∃ t, screen.tvShow = some t ∧ t.storeObject = record
  title : screen.title = record.name
  poster : screen.poster = record.imageOriginal
  summary : screen.summary = record.summary
  rating : screen.rating = record.ratingAverage
  imdbButtonTitle : screen.imdbButtonTitle = "IMDb: " ++ record.imbd
  imdbButtonHidden : screen.imdbButtonHidden = record.imbd.isEmpty
  openIMDBAction : screen.openIMDBAction =
    if screen.imdbButtonHidden then .errorMessage "Oops, something went wrong"
    else .page "https://www.imdb.com/title" record.imbd

namespace DetailScreen

theorem ShowsRecord.toggleFavoriteButton {self : DetailScreen} {record : TVShowStore}
    (h : self.ShowsRecord record) (realm : Realm) :
    (self.toggleFavoriteButton realm).ShowsRecord record := by
  obtain ⟨t, ht, hrecord⟩ := h.tvShow
  have haction := h.openIMDBAction
  rw [DetailScreen.openIMDBAction, ht] at haction
  simp only [DetailScreen.toggleFavoriteButton, ht]
  exact ⟨⟨t, rfl, hrecord⟩, h.title, h.poster, h.summary, h.rating, h.imdbButtonTitle,
    h.imdbButtonHidden, haction⟩

theorem opened_showsRecord (t : TVShow) (realm : Realm) :
    (((segue (some t)).viewDidLoad realm).viewWillAppear realm).ShowsRecord t.storeObject := by
  have hloaded : ((segue (some t)).prepareScreen realm
      (t.screenArguments realm)).ShowsRecord t.storeObject := by
    refine ⟨⟨t, ?_, rfl⟩, rfl, rfl, rfl, rfl, rfl, rfl, ?_⟩
    · exact toggleFavoriteButton_tvShow _ realm
    · exact openIMDBAction_eq (toggleFavoriteButton_tvShow _ realm)
  exact hloaded.toggleFavoriteButton realm

end DetailScreen

structure AppContent (tvShows : List TVShow) (stored : List TVShowStore) (app : App) : Prop where
  list : app.shows.currentTVShows = tvShows
  records : ∀ record ∈ app.realm.records, FromSource tvShows stored record
  details : ∀ tab, ∀ detail ∈ app.navigation tab,
    ∃ record, FromSource tvShows stored record ∧ detail.ShowsRecord record
  oneDetail : ∀ tab, (app.navigation tab).length ≤ 1

namespace AppContent
variable {tvShows : List TVShow} {stored : List TVShowStore} {app app' : App} {event : AppEvent}

theorem setStack (h : AppContent tvShows stored app) {tab : Tab} {details : List DetailScreen}
    (hnavigation : app'.navigation = Function.update app.navigation tab details)
    (hlist : app'.shows.currentTVShows = tvShows)
    (hrecords : ∀ record ∈ app'.realm.records, FromSource tvShows stored record)
    (hdetails : ∀ detail ∈ details,
      ∃ record, FromSource tvShows stored record ∧ detail.ShowsRecord record)
    (hone : details.length ≤ 1) : AppContent tvShows stored app' := by
  refine ⟨hlist, hrecords, fun other detail hmem => ?_, fun other => ?_⟩
  · rw [hnavigation] at hmem
    by_cases hother : other = tab
    · subst hother
      rw [Function.update_self] at hmem
      exact hdetails detail hmem
    · rw [Function.update_of_ne hother] at hmem
      exact h.details other detail hmem
  · rw [hnavigation]
    by_cases hother : other = tab
    · subst hother
      rwa [Function.update_self]
    · rw [Function.update_of_ne hother]
      exact h.oneDetail other

theorem refreshed (h : AppContent tvShows stored app) {top : DetailScreen}
    {rest : List DetailScreen} (hstack : app.navigation app.tab = top :: rest) (realm : Realm)
    (hnavigation : app'.navigation =
      Function.update app.navigation app.tab (top.toggleFavoriteButton realm :: rest))
    (hlist : app'.shows.currentTVShows = tvShows)
    (hrecords : ∀ record ∈ app'.realm.records, FromSource tvShows stored record) :
    AppContent tvShows stored app' := by
  have hdetails := h.details app.tab
  have hone := h.oneDetail app.tab
  rw [hstack] at hdetails hone
  refine h.setStack hnavigation hlist hrecords (fun detail hmem => ?_) hone
  cases List.mem_cons.mp hmem with
  | inl htop =>
    obtain ⟨record, hsource, hshown⟩ := hdetails top List.mem_cons_self
    exact ⟨record, hsource, htop ▸ hshown.toggleFavoriteButton realm⟩
  | inr hrest => exact hdetails detail (List.mem_cons_of_mem _ hrest)

theorem viewWillAppear (h : AppContent tvShows stored app) :
    AppContent tvShows stored app.viewWillAppear := by
  unfold App.viewWillAppear
  split
  · rename_i detail details hstack
    exact h.refreshed hstack app.realm rfl h.list h.records
  · exact h
  · exact ⟨h.list, h.records, h.details, h.oneDetail⟩

theorem save_source (h : AppContent tvShows stored app) {t : TVShow}
    (hcommand : app.command event = some (.save t)) :
    FromSource tvShows stored t.storeObject := by
  cases event with
  | tapShowsAction row =>
    simp only [App.command] at hcommand
    split at hcommand
    · obtain ⟨u, hrow, hsave⟩ := Option.map_eq_some_iff.mp hcommand
      obtain rfl := StoreCommand.save.inj hsave
      exact .inr ⟨u, h.list ▸ List.mem_of_getElem? hrow, rfl⟩
    · cases hcommand
  | answerShowsAlert i confirmed =>
    cases confirmed with
    | false => cases hcommand
    | true =>
      simp only [App.command] at hcommand
      split at hcommand
      · obtain ⟨_, -, hremove⟩ := Option.map_eq_some_iff.mp hcommand
        cases hremove
      · cases hcommand
  | answerFavoritesAlert i confirmed =>
    cases confirmed with
    | false => cases hcommand
    | true =>
      simp only [App.command] at hcommand
      split at hcommand
      · obtain ⟨_, -, hremove⟩ := Option.map_eq_some_iff.mp hcommand
        cases hremove
      · cases hcommand
  | toggleFavorite =>
    simp only [App.command, Option.bind_eq_some_iff] at hcommand
    obtain ⟨u, ⟨detail, hhead, hu⟩, hsave⟩ := hcommand
    unfold TVShow.toggleCommand at hsave
    split at hsave
    · obtain ⟨_, -, hremove⟩ := Option.map_eq_some_iff.mp hsave
      cases hremove
    · obtain rfl := StoreCommand.save.inj (Option.some.inj hsave)
      obtain ⟨record, hsource, hshown⟩ := h.details app.tab detail (List.mem_of_mem_head? hhead)
      obtain ⟨v, hv, hrecord⟩ := hshown.tvShow
      obtain rfl := Option.some.inj (hu.symm.trans hv)
      exact hrecord ▸ hsource
  | _ => cases hcommand

theorem records_step (h : AppContent tvShows stored app) (inv : AppInvariant app)
    (hstep : AdmittedStep app event app') :
    ∀ record ∈ app'.realm.records, FromSource tvShows stored record := by
  intro record hmem
  rw [records_of_step inv hstep] at hmem
  cases hcommand : app.command event with
  | none => exact h.records record (by simpa [hcommand] using hmem)
  | some command =>
    simp only [hcommand, Option.toList_some, List.foldl_cons, List.foldl_nil] at hmem
    cases command with
    | save t =>
      cases List.mem_append.mp hmem with
      | inl hold => exact h.records record hold
      | inr hnew => exact List.mem_singleton.mp hnew ▸ h.save_source hcommand
    | remove key => exact h.records record (mem_of_mem_removeKey hmem)

theorem opened {shows : ShowsScreen} {favorites : FavoritesScreen} {tab : Tab} {t : TVShow}
    (h : AppContent tvShows stored app) (hlist : shows.currentTVShows = tvShows)
    (hvisible : app.ListVisible tab) (hsource : FromSource tvShows stored t.storeObject) :
    AppContent tvShows stored
      ({ app with shows := shows, favorites := favorites }.pushDetail tab (some t)) := by
  refine h.setStack rfl hlist h.records (fun detail hmem => ?_) ?_
  · rw [hvisible.2, List.mem_singleton] at hmem
    exact ⟨t.storeObject, hsource, hmem ▸ DetailScreen.opened_showsRecord t app.realm⟩
  · rw [hvisible.2]
    exact Nat.le_refl 1

theorem toggled (h : AppContent tvShows stored app) (hstep : AppStep app .toggleFavorite app')
    (hrecords : ∀ record ∈ app'.realm.records, FromSource tvShows stored record) :
    AppContent tvShows stored app' := by
  simp only [AppStep, App.handle, App.toggleFavorite] at hstep
  split at hstep
  · obtain rfl := Except.ok.inj hstep
    exact h
  · rename_i top rest hstack
    obtain ⟨result, hok, rfl⟩ := map_eq_ok hstep
    obtain ⟨realm', htoggle⟩ := toggleFavorite_ok top app.realm
    rw [htoggle] at hok
    obtain rfl := Except.ok.inj hok
    exact h.refreshed hstack realm' rfl h.list hrecords

theorem step (h : AppContent tvShows stored app) (inv : AppInvariant app)
    (hlist : app'.shows.currentTVShows = tvShows) (hstep : AdmittedStep app event app') :
    AppContent tvShows stored app' := by
  have hrecords := h.records_step inv hstep
  obtain ⟨hadmitted, hok⟩ := hstep
  have hkept : app'.navigation = app.navigation → AppContent tvShows stored app' := by
    intro hnavigation
    exact ⟨hlist, hrecords, hnavigation ▸ h.details, hnavigation ▸ h.oneDetail⟩
  cases event with
  | showsCell row =>
    obtain ⟨_, -, rfl⟩ := map_eq_ok hok
    exact h
  | swipeShowsRow row =>
    obtain ⟨_, -, rfl⟩ := map_eq_ok hok
    exact hkept rfl
  | tapShowsAction row =>
    obtain ⟨_, -, rfl⟩ := map_eq_ok hok
    exact hkept rfl
  | answerShowsAlert i confirmed =>
    obtain ⟨_, -, rfl⟩ := map_eq_ok hok
    exact hkept rfl
  | favoritesCell row =>
    obtain ⟨_, -, rfl⟩ := map_eq_ok hok
    exact h
  | tapFavoritesDelete row =>
    obtain rfl := Except.ok.inj hok
    exact hkept rfl
  | answerFavoritesAlert i confirmed =>
    obtain ⟨_, -, rfl⟩ := map_eq_ok hok
    exact hkept rfl
  | selectShowsRow row =>
    obtain ⟨shows, hshows, rfl⟩ := map_eq_ok hok
    unfold ShowsScreen.didSelectRowAt at hshows
    split at hshows
    · rename_i t hrow
      obtain rfl := Except.ok.inj hshows
      have hmem : t ∈ tvShows := h.list ▸ List.mem_of_getElem? (index_eq_ok hrow)
      exact h.opened h.list hadmitted.2.1 (.inr ⟨t, hmem, rfl⟩)
    · cases hshows
  | selectFavoritesRow row =>
    obtain ⟨favorites, hfavorites, rfl⟩ := map_eq_ok hok
    obtain ⟨record, hrecord, rfl⟩ := map_eq_ok hfavorites
    have hstored : record ∈ app.realm.records := by
      unfold FavoritesScreen.record at hrecord
      split at hrecord
      · obtain ⟨r, hr, -, rfl⟩ := read_eq_ok_iff.mp hrecord
        exact List.mem_map_of_mem hr
      · cases hrecord
    exact h.opened h.list hadmitted.2.1 (h.records record hstored)
  | toggleFavorite => exact h.toggled hok hrecords
  | popDetail =>
    obtain rfl := Except.ok.inj hok
    refine viewWillAppear (h.setStack rfl h.list h.records (fun detail hmem => ?_) ?_)
    · exact h.details app.tab detail (List.mem_of_mem_tail hmem)
    · rw [List.length_tail]
      exact Nat.le_trans (Nat.sub_le _ _) (h.oneDetail app.tab)
  | switchTab =>
    obtain rfl := Except.ok.inj hok
    exact viewWillAppear ⟨h.list, h.records, h.details, h.oneDetail⟩

theorem launch (tvShows : List TVShow) (realm : Realm) :
    AppContent tvShows realm.records (App.launch tvShows realm) where
  list := shows_list (.nil _)
  records record hmem := .inl hmem
  details tab detail hmem := by cases hmem
  oneDetail tab := Nat.zero_le 1

end AppContent

theorem content_of_run {tvShows : List TVShow} {realm : Realm} {events : List AppEvent} {app : App}
    (h : Run AdmittedStep (App.launch tvShows realm) events app) :
    AppContent tvShows realm.records app := by
  have hall := h.recorded
    (P := fun _ app => AppInvariant app ∧ AppContent tvShows realm.records app)
    ⟨AppInvariant.launch tvShows realm, AppContent.launch tvShows realm⟩
    (fun _ _ _ _ hrun hs hstep => ⟨hs.1.of_change (hs.1.change hstep.1 hstep.2),
      hs.2.step hs.1 (shows_list (hrun.snoc hstep)) hstep⟩)
  exact hall.2

/-- In every state that the app reaches from its launch, the store holds nothing
but records stored at launch and records of fetched shows, every detail screen in
either tab shows all fields of one of these, and the IMDb button is hidden just
when its action would be the error message. -/
theorem content_comes_from_source {tvShows : List TVShow} {realm : Realm}
    {events : List AppEvent} {app : App}
    (h : Run AdmittedStep (App.launch tvShows realm) events app) :
    AppContent tvShows realm.records app :=
  content_of_run h

theorem content_comes_from_source_favorite : ∃ app,
    app.navigation .favorites ≠ [] ∧
      AppContent [.bare (some 7)] Realm.empty.records app := by
  have hrun : ∃ app, Run AdmittedStep (App.launch [.bare (some 7)] Realm.empty)
      [.swipeShowsRow 0, .tapShowsAction 0, .switchTab, .selectFavoritesRow 0] app ∧
      app.navigation .favorites ≠ [] :=
    ⟨_, .cons ⟨⟨⟨rfl, rfl⟩, ⟨rfl, rfl⟩, Nat.one_pos⟩, rfl⟩ <|
      .cons ⟨⟨⟨rfl, rfl⟩, ⟨rfl, rfl⟩, Option.some_ne_none RowAction.favorite⟩, rfl⟩ <|
      .cons ⟨⟨rfl, rfl⟩, rfl⟩ <|
      .single ⟨⟨⟨rfl, rfl⟩, ⟨rfl, rfl⟩, Nat.one_pos⟩, rfl⟩, List.cons_ne_nil _ _⟩
  obtain ⟨app, hrun, hdetail⟩ := hrun
  exact ⟨app, hdetail, content_comes_from_source hrun⟩

end TVShows
