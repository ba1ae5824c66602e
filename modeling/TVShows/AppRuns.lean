import TVShows.App

/-! Runs of the app as UIKit lets them happen. A step only changes the screen
that is visible, shows or answers one sheet on it, or brings another screen in
front; a screen that comes in front is refreshed first. Hence the visible screen
is always the one that the store asks for, while hidden screens may be behind. -/

namespace TVShows

open TransitionRun

abbrev AdmittedStep : App → AppEvent → App → Prop :=
  guarded App.Admitted AppStep

theorem reachable_event {app app' : App} (h : Reachable Launched AdmittedStep app)
    (event : AppEvent) (hadmitted : app.Admitted event) (hstep : app.handle event = .ok app') :
    Reachable Launched AdmittedStep app' :=
  h.next ⟨hadmitted, hstep⟩

namespace DetailScreen

def Current (self : DetailScreen) (realm : Realm) : Prop :=
  self.toggleFavoriteButton realm = self

theorem toggleFavoriteButton_current (self : DetailScreen) (realm : Realm) :
    (self.toggleFavoriteButton realm).Current realm := by
  unfold Current
  cases h : self.tvShow with
  | none => simp [toggleFavoriteButton, h]
  | some tvShow => simp [toggleFavoriteButton, h]

theorem Current.button {self : DetailScreen} {realm : Realm} (h : self.Current realm) {t : TVShow}
    (ht : self.tvShow = some t) :
    self.rightBarButtonItem = some (if t.isFavorite realm then .trash else .add) := by
  rw [← h]
  simp only [toggleFavoriteButton, ht]

end DetailScreen

namespace ShowsScreen

theorem tapRowAction_alerts {self screen : ShowsScreen} {realm realm' : Realm} {row : Nat}
    (h : self.tapRowAction realm row = .ok (screen, realm')) :
    screen.alerts.length ≤ self.alerts.length + 1 := by
  unfold tapRowAction at h
  split at h
  · simp [← (Prod.mk.inj (Except.ok.inj h)).1]
  · obtain ⟨_, -, hpair⟩ := map_eq_ok h
    simp [← (Prod.mk.inj hpair).1]
  · simp [← (Prod.mk.inj (Except.ok.inj h)).1, unfavoriteAction]

theorem answerAlert_alerts {self screen : ShowsScreen} {realm realm' : Realm} {i : Nat}
    {confirmed : Bool} (h : self.answerAlert realm i confirmed = .ok (screen, realm')) :
    screen.alerts.length ≤ self.alerts.length := by
  have hanswered := List.length_eraseIdx_le self.alerts i
  unfold answerAlert at h
  split at h
  · simp [← (Prod.mk.inj (Except.ok.inj h)).1]
  · dsimp only at h
    split at h
    · split at h
      · simpa [← (Prod.mk.inj (Except.ok.inj h)).1, loadShows] using hanswered
      · obtain ⟨_, -, hpair⟩ := map_eq_ok h
        simpa [← (Prod.mk.inj hpair).1] using hanswered
    · simpa [← (Prod.mk.inj (Except.ok.inj h)).1] using hanswered

end ShowsScreen

theorem App.ListVisible.no_detail {app : App} {tab : Tab} (h : app.ListVisible tab)
    (detail : DetailScreen) : ¬ app.DetailVisible detail := by
  simp [App.DetailVisible, h.1, h.2]

structure AppInvariant (app : App) : Prop where
  oneSheet : app.shows.alerts.length + app.favorites.alerts.length ≤ 1
  showsSheet : app.shows.alerts ≠ [] → app.ListVisible .shows
  favoritesSheet : ∀ row ∈ app.favorites.alerts,
    app.ListVisible .favorites ∧ row < app.favorites.rowCount
  fresh : app.ListVisible .favorites → app.favorites.Fresh app.realm
  current : ∀ detail, app.DetailVisible detail → detail.Current app.realm
  hasShow : ∀ tab, ∀ detail ∈ app.navigation tab, detail.tvShow ≠ none

inductive AppChange (app : App) : App → Prop
  | same : AppChange app app
  | showsList (shows : ShowsScreen) (realm : Realm) : app.ListVisible .shows →
      shows.alerts.length ≤ 1 → AppChange app { app with shows := shows, realm := realm }
  | askDelete (row : Nat) : app.NoSheet → app.ListVisible .favorites →
      row < app.favorites.rowCount →
      AppChange app { app with favorites := app.favorites.unfavoriteAction row }
  | answered (favorites : FavoritesScreen) (realm : Realm) : app.ListVisible .favorites →
      favorites.alerts = [] → favorites.Fresh realm →
      AppChange app { app with favorites := favorites, realm := realm }
  | opened (shows : ShowsScreen) (favorites : FavoritesScreen) (tab : Tab) (t : TVShow) :
      app.ListVisible tab → shows.alerts = [] → favorites.alerts = [] →
      AppChange app ({ app with shows := shows, favorites := favorites }.pushDetail tab (some t))
  | toggled (detail : DetailScreen) (details : List DetailScreen) (realm : Realm) : app.NoSheet →
      app.navigation app.tab = detail :: details →
      AppChange app { app with
        realm := realm
        navigation := Function.update app.navigation app.tab
          (detail.toggleFavoriteButton realm :: details) }
  | revealed (tab : Tab) (navigation : Tab → List DetailScreen) : app.NoSheet →
      (∀ tab, ∀ detail ∈ navigation tab, detail ∈ app.navigation tab) →
      AppChange app { app with tab := tab, navigation := navigation }.viewWillAppear

namespace AppInvariant

section
variable {app app' : App} {event : AppEvent}

theorem favorites_no_sheet (inv : AppInvariant app) (h : app.ListVisible .shows) :
    app.favorites.alerts = [] := by
  cases halerts : app.favorites.alerts with
  | nil => rfl
  | cons row rows =>
    have hvisible := (inv.favoritesSheet row (by simp [halerts])).1
    exact absurd (h.1.symm.trans hvisible.1) (by decide)

theorem shows_no_sheet (inv : AppInvariant app) (h : app.ListVisible .favorites) :
    app.shows.alerts = [] := by
  by_contra halerts
  exact absurd ((inv.showsSheet halerts).1.symm.trans h.1) (by decide)

theorem noSheet_of_detail (inv : AppInvariant app) (h : app.navigation app.tab ≠ []) :
    app.NoSheet := by
  constructor
  · by_contra halerts
    have hvisible := inv.showsSheet halerts
    rw [hvisible.1] at h
    exact h hvisible.2
  · cases halerts : app.favorites.alerts with
    | nil => rfl
    | cons row rows =>
      have hvisible := (inv.favoritesSheet row (by simp [halerts])).1
      rw [hvisible.1] at h
      exact absurd hvisible.2 h

theorem favorites_answer (inv : AppInvariant app) {i row : Nat}
    (h : app.favorites.alerts[i]? = some row) :
    app.ListVisible .favorites ∧ row < app.favorites.rowCount ∧
      app.favorites.alerts.eraseIdx i = [] := by
  have hmem := inv.favoritesSheet row (List.mem_of_getElem? h)
  have hlength : app.favorites.alerts.length ≤ 1 := by
    have hone := inv.oneSheet
    omega
  obtain ⟨hlt, -⟩ := List.getElem?_eq_some_iff.mp h
  refine ⟨hmem.1, hmem.2, List.eq_nil_of_length_eq_zero ?_⟩
  rw [List.length_eraseIdx_of_lt hlt]
  omega

end

section Steps
variable {app app' : App} {event : AppEvent}

theorem detail_front {shows : ShowsScreen} {favorites : FavoritesScreen} {realm : Realm}
    {detail : DetailScreen} {details : List DetailScreen}
    (hshows : shows.alerts = []) (hfavorites : favorites.alerts = [])
    (hcurrent : detail.Current realm) (hshow : detail.tvShow ≠ none)
    (hdetails : ∀ d ∈ details, d.tvShow ≠ none)
    (hstacks : ∀ tab, ∀ d ∈ app.navigation tab, d.tvShow ≠ none) :
    AppInvariant { app with
      shows := shows
      favorites := favorites
      realm := realm
      navigation := Function.update app.navigation app.tab (detail :: details) } where
  oneSheet := by simp [hshows, hfavorites]
  showsSheet h := absurd hshows h
  favoritesSheet := by simp [hfavorites]
  fresh h := by
    have hstack := h.2
    rw [← h.1] at hstack
    simp at hstack
  current top htop := by
    obtain rfl : detail = top := by simpa [App.DetailVisible] using htop
    exact hcurrent
  hasShow tab top htop := by
    by_cases htab : tab = app.tab
    · subst htab
      simp only [Function.update_self, List.mem_cons] at htop
      cases htop with
      | inl heq => exact heq ▸ hshow
      | inr hmem => exact hdetails top hmem
    · simp only [Function.update_of_ne htab] at htop
      exact hstacks tab top htop

theorem viewWillAppear (hsheet : app.NoSheet)
    (hshow : ∀ tab, ∀ detail ∈ app.navigation tab, detail.tvShow ≠ none) :
    AppInvariant app.viewWillAppear := by
  cases hstack : app.navigation app.tab with
  | cons detail details =>
    have hfront : app.viewWillAppear = { app with
        navigation := Function.update app.navigation app.tab
          (detail.viewWillAppear app.realm :: details) } := by
      simp [App.viewWillAppear, hstack]
    have hall := hshow app.tab
    simp only [hstack, List.forall_mem_cons] at hall
    rw [hfront]
    exact detail_front hsheet.1 hsheet.2 (detail.toggleFavoriteButton_current app.realm)
      (by simpa using hall.1) hall.2 hshow
  | nil =>
    have hnone : ∀ detail, (app.navigation app.tab).head? ≠ some detail := by simp [hstack]
    cases htab : app.tab with
    | shows =>
      have hfront : app.viewWillAppear = app := by
        unfold App.viewWillAppear
        simp only [htab] at hstack ⊢
        rw [hstack]
      rw [hfront]
      refine ⟨by simp [hsheet.1, hsheet.2], fun h => absurd hsheet.1 h, by simp [hsheet.2],
        fun h => ?_, fun detail h => absurd h (hnone detail), hshow⟩
      exact absurd (h.1.symm.trans htab) (by decide)
    | favorites =>
      have hfront : app.viewWillAppear =
          { app with favorites := app.favorites.viewWillAppear app.realm } := by
        unfold App.viewWillAppear
        simp only [htab] at hstack ⊢
        rw [hstack]
      have hkept : (app.favorites.viewWillAppear app.realm).alerts = [] := hsheet.2
      rw [hfront]
      exact ⟨by simp [hsheet.1, hkept], fun h => absurd hsheet.1 h, by simp [hkept],
        fun _ => FavoritesScreen.Fresh.loadShows app.favorites app.realm,
        fun detail h => absurd h (hnone detail), hshow⟩

theorem of_change (inv : AppInvariant app) (h : AppChange app app') : AppInvariant app' := by
  cases h with
  | same => exact inv
  | showsList shows realm hvisible halerts =>
    have hfavorites := inv.favorites_no_sheet hvisible
    refine ⟨by simpa [hfavorites] using halerts, fun _ => hvisible, by simp [hfavorites],
      fun h => ?_, fun detail h => absurd h (App.ListVisible.no_detail hvisible detail),
      inv.hasShow⟩
    exact absurd (hvisible.1.symm.trans h.1) (by decide)
  | askDelete row hsheet hvisible hrow =>
    have halerts : (app.favorites.unfavoriteAction row).alerts = [row] := by
      simp [FavoritesScreen.unfavoriteAction, hsheet.2]
    refine ⟨by simp [hsheet.1, halerts], fun h => absurd hsheet.1 h, ?_, fun h => ?_,
      inv.current, inv.hasShow⟩
    · intro asked hasked
      obtain rfl : asked = row := by simpa [halerts] using hasked
      exact ⟨hvisible, hrow⟩
    · exact ⟨(inv.fresh h).objects, (inv.fresh h).count⟩
  | answered favorites realm hvisible halerts hfresh =>
    have hshows := inv.shows_no_sheet hvisible
    exact ⟨by simp [hshows, halerts], fun h => absurd hshows h, by simp [halerts],
      fun _ => hfresh, fun detail h => absurd h (App.ListVisible.no_detail hvisible detail),
      inv.hasShow⟩
  | opened shows favorites tab t hvisible hshows hfavorites =>
    obtain ⟨rfl, hstack⟩ := hvisible
    refine detail_front hshows hfavorites (DetailScreen.toggleFavoriteButton_current _ _) ?_
      (inv.hasShow _) inv.hasShow
    simp [DetailScreen.segue]
  | toggled detail details realm hsheet hstack =>
    have hall := inv.hasShow app.tab
    simp only [hstack, List.forall_mem_cons] at hall
    exact detail_front hsheet.1 hsheet.2 (detail.toggleFavoriteButton_current realm)
      (by simpa using hall.1) hall.2 inv.hasShow
  | revealed tab navigation hsheet hstacks =>
    exact viewWillAppear hsheet fun t detail h => inv.hasShow t detail (hstacks t detail h)

theorem change (inv : AppInvariant app) (hadmitted : app.Admitted event)
    (h : AppStep app event app') : AppChange app app' := by
  unfold AppStep at h
  cases event with
  | showsCell row =>
    obtain ⟨_, -, rfl⟩ := map_eq_ok h
    exact .same
  | swipeShowsRow row =>
    obtain ⟨shows, hshows, rfl⟩ := map_eq_ok h
    have halerts : shows.alerts = [] := by
      unfold ShowsScreen.editActionsForRowAt at hshows
      split at hshows
      · exact Except.ok.inj hshows ▸ hadmitted.1.1
      · cases hshows
    exact .showsList shows app.realm hadmitted.2.1 (by simp [halerts])
  | tapShowsAction row =>
    obtain ⟨⟨shows, realm⟩, hshows, rfl⟩ := map_eq_ok h
    have halerts := ShowsScreen.tapRowAction_alerts hshows
    rw [hadmitted.1.1] at halerts
    exact .showsList shows realm hadmitted.2.1 halerts
  | answerShowsAlert i confirmed =>
    obtain ⟨⟨shows, realm⟩, hshows, rfl⟩ := map_eq_ok h
    have hsome : app.shows.alerts ≠ [] := List.ne_nil_of_length_pos (Nat.zero_lt_of_lt hadmitted)
    have halerts := ShowsScreen.answerAlert_alerts hshows
    have hone := inv.oneSheet
    exact .showsList shows realm (inv.showsSheet hsome) (by omega)
  | selectShowsRow row =>
    obtain ⟨shows, hshows, rfl⟩ := map_eq_ok h
    unfold ShowsScreen.didSelectRowAt at hshows
    split at hshows
    · obtain rfl := Except.ok.inj hshows
      exact .opened _ app.favorites .shows _ hadmitted.2.1 hadmitted.1.1 hadmitted.1.2
    · cases hshows
  | favoritesCell row =>
    obtain ⟨_, -, rfl⟩ := map_eq_ok h
    exact .same
  | tapFavoritesDelete row =>
    obtain rfl := Except.ok.inj h
    exact .askDelete row hadmitted.1 hadmitted.2.1 hadmitted.2.2
  | answerFavoritesAlert i confirmed =>
    obtain ⟨⟨favorites, realm⟩, hfavorites, rfl⟩ := map_eq_ok h
    have hrow := List.getElem?_eq_getElem (l := app.favorites.alerts) hadmitted
    obtain ⟨hvisible, hlt, hnone⟩ := inv.favorites_answer hrow
    have hfresh : app.favorites.Fresh app.realm := inv.fresh hvisible
    have hanswered : ({ app.favorites with alerts := [] }).Fresh app.realm :=
      ⟨hfresh.objects, hfresh.count⟩
    simp only [FavoritesScreen.answerAlert, hrow, hnone] at hfavorites
    cases confirmed with
    | false =>
      obtain ⟨rfl, rfl⟩ := Prod.mk.inj (Except.ok.inj hfavorites)
      exact .answered _ app.realm hvisible rfl hanswered
    | true =>
      obtain ⟨object, record, screen', -, -, hremove, hafter, hkept⟩ := hanswered.removeFavorite hlt
      rw [if_pos rfl, hremove] at hfavorites
      obtain ⟨rfl, rfl⟩ := Prod.mk.inj (Except.ok.inj hfavorites)
      exact .answered _ _ hvisible hkept hafter
  | selectFavoritesRow row =>
    obtain ⟨favorites, hfavorites, rfl⟩ := map_eq_ok h
    obtain ⟨record, -, rfl⟩ := map_eq_ok hfavorites
    exact .opened app.shows _ .favorites _ hadmitted.2.1 hadmitted.1.1 hadmitted.1.2
  | toggleFavorite =>
    simp only [App.handle, App.toggleFavorite] at h
    split at h
    · exact absurd ‹_› hadmitted.2
    · rename_i detail details hstack
      obtain ⟨result, hok, rfl⟩ := map_eq_ok h
      obtain ⟨realm', htoggle⟩ := toggleFavorite_ok detail app.realm
      rw [htoggle] at hok
      obtain rfl := Except.ok.inj hok
      exact .toggled detail details realm' hadmitted.1 hstack
  | popDetail =>
    obtain rfl := Except.ok.inj h
    refine .revealed app.tab _ hadmitted.1 fun tab detail hmem => ?_
    by_cases htab : tab = app.tab
    · subst htab
      rw [Function.update_self] at hmem
      exact List.mem_of_mem_tail hmem
    · rwa [Function.update_of_ne htab] at hmem
  | switchTab =>
    obtain rfl := Except.ok.inj h
    exact .revealed app.tab.other app.navigation hadmitted fun _ _ hmem => hmem

theorem launch (tvShows : List TVShow) (realm : Realm) :
    AppInvariant (App.launch tvShows realm) := by
  have halerts : (App.launch tvShows realm).shows.alerts = [] := by
    cases tvShows <;> rfl
  have hfavorites : (App.launch tvShows realm).favorites.alerts = [] := rfl
  exact ⟨by simp [halerts, hfavorites], fun h => absurd halerts h,
    by simp [hfavorites], fun h => (by cases h.1),
    by simp [App.DetailVisible, App.launch], by simp [App.launch]⟩

theorem reachable (h : Reachable Launched AdmittedStep app) : AppInvariant app := by
  refine h.invariant ?_ fun _ _ _ inv hstep => inv.of_change (inv.change hstep.1 hstep.2)
  rintro _ ⟨tvShows, realm, rfl⟩
  exact launch tvShows realm

end Steps

end AppInvariant

end TVShows
