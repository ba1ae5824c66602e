import Mathlib.Data.List.Perm.Basic
import TVShows.AppRuns

/-! The Favorites list and the store. Whenever the list is visible it holds one
live object for each stored record, so rows can be read, chosen and deleted; a
confirmed deletion takes out the record that was in the row when it was asked
for, because nothing but the answer happens while the sheet is up. -/

namespace TVShows

open TransitionRun

structure FavoritesAgree (app : App) : Prop where
  records : ∃ records : List TVShowStore,
    app.favorites.favorites.map app.realm.read = records.map Except.ok ∧
      (records.map TVShowStore.id).Nodup ∧
      ∀ key, key ∈ records.map TVShowStore.id ↔ (app.realm.lookup key).isSome
  count : app.favorites.rowCount = app.favorites.favorites.length
  captured : ∀ row ∈ app.favorites.alerts, row < app.favorites.favorites.length
  noTrap : ∀ event, app.Admitted event → ∃ app', AppStep app event app'
  asksFirst : ∀ row, app.Admitted (.tapFavoritesDelete row) → ∃ asked app',
    AdmittedStep app (.tapFavoritesDelete row) asked ∧ asked.favorites.alerts = [row] ∧
      AdmittedStep asked (.answerFavoritesAlert 0 true) app'
  removesAsked : ∀ row asked events waiting i app',
    AdmittedStep app (.tapFavoritesDelete row) asked → Run AdmittedStep asked events waiting →
    (∀ event ∈ events, ∀ j confirmed, event ≠ .answerFavoritesAlert j confirmed) →
    AdmittedStep waiting (.answerFavoritesAlert i true) app' →
      ∃ record, app.favorites.record app.realm row = .ok record ∧
        app'.favorites.favorites = app.favorites.favorites.eraseIdx row ∧
        app'.realm.lookup = Function.update app.realm.lookup record.id none

theorem FavoritesScreen.Fresh.records {screen : FavoritesScreen} {realm : Realm}
    (fresh : screen.Fresh realm) : ∃ records : List TVShowStore,
      screen.favorites.map realm.read = records.map Except.ok ∧
        (records.map TVShowStore.id).Nodup ∧
        ∀ key, key ∈ records.map TVShowStore.id ↔ (realm.lookup key).isSome := by
  have hcomp : Relation.Comp (· = List.map LiveTable.Row.handle ·) List.Perm
      screen.favorites realm.rows := by
    rw [List.eq_map_comp_perm]
    exact fresh.objects
  obtain ⟨rows, hrows, hperm⟩ := hcomp
  refine ⟨rows.map LiveTable.Row.value, ?_, ?_, fun key => ?_⟩
  · rw [hrows, List.map_map, List.map_map]
    refine List.map_congr_left fun row hrow => ?_
    exact read_eq_ok_iff.mpr ⟨row, hperm.mem_iff.mp hrow, rfl, rfl⟩
  · rw [List.map_map]
    exact (hperm.map _).nodup_iff.mpr realm.keys_nodup
  · rw [List.map_map, List.mem_map, Option.isSome_iff_exists]
    constructor
    · rintro ⟨row, hrow, rfl⟩
      exact ⟨row.value, LiveTable.Table.lookup_of_mem (hperm.mem_iff.mp hrow)⟩
    · rintro ⟨record, hrecord⟩
      obtain ⟨row, hrow, rfl, hkey⟩ := LiveTable.Table.lookup_eq_some_iff.mp hrecord
      exact ⟨row, hperm.mem_iff.mpr hrow, hkey⟩

section Steps
variable {app app' : App}

theorem sheet_blocks {event : AppEvent} (inv : AppInvariant app)
    (halerts : app.favorites.alerts ≠ []) (h : AdmittedStep app event app')
    (hevent : ∀ i confirmed, event ≠ .answerFavoritesAlert i confirmed) : app' = app := by
  obtain ⟨hadmitted, hstep⟩ := h
  cases event with
  | showsCell row =>
    obtain ⟨_, -, rfl⟩ := map_eq_ok hstep
    rfl
  | favoritesCell row =>
    obtain ⟨_, -, rfl⟩ := map_eq_ok hstep
    rfl
  | answerShowsAlert i confirmed =>
    have hi : i < app.shows.alerts.length := hadmitted
    have hone := inv.oneSheet
    have hpos := List.length_pos_of_ne_nil halerts
    omega
  | answerFavoritesAlert i confirmed => exact absurd rfl (hevent i confirmed)
  | swipeShowsRow row => exact absurd hadmitted.1.2 halerts
  | tapShowsAction row => exact absurd hadmitted.1.2 halerts
  | selectShowsRow row => exact absurd hadmitted.1.2 halerts
  | tapFavoritesDelete row => exact absurd hadmitted.1.2 halerts
  | selectFavoritesRow row => exact absurd hadmitted.1.2 halerts
  | toggleFavorite => exact absurd hadmitted.1.2 halerts
  | popDetail => exact absurd hadmitted.1.2 halerts
  | switchTab => exact absurd hadmitted.2 halerts

theorem sheet_blocks_run {events : List AppEvent} (inv : AppInvariant app)
    (halerts : app.favorites.alerts ≠ []) (h : Run AdmittedStep app events app')
    (hevents : ∀ event ∈ events, ∀ i confirmed, event ≠ .answerFavoritesAlert i confirmed) :
    app' = app := by
  induction h with
  | nil s => rfl
  | cons hstep _ ih =>
    obtain rfl := sheet_blocks inv halerts hstep (hevents _ (by simp))
    exact ih inv halerts fun event hmem => hevents event (by simp [hmem])

theorem answer_removes (inv : AppInvariant app) {i row : Nat}
    (hrow : app.favorites.alerts[i]? = some row)
    (h : AppStep app (.answerFavoritesAlert i true) app') :
    ∃ record, app.favorites.record app.realm row = .ok record ∧
      app'.favorites.favorites = app.favorites.favorites.eraseIdx row ∧
      app'.realm.lookup = Function.update app.realm.lookup record.id none := by
  obtain ⟨hvisible, hlt, -⟩ := inv.favorites_answer hrow
  have hfresh : ({ app.favorites with
      alerts := app.favorites.alerts.eraseIdx i }).Fresh app.realm :=
    ⟨(inv.fresh hvisible).objects, (inv.fresh hvisible).count⟩
  obtain ⟨result, hok, rfl⟩ := map_eq_ok h
  simp only [FavoritesScreen.answerAlert, hrow, if_true, FavoritesScreen.removeFavorite] at hok
  have hindex := index_of_lt (hfresh.count ▸ hlt)
  obtain ⟨record, hread⟩ := hfresh.read (List.getElem_mem (hfresh.count ▸ hlt))
  refine ⟨record, ?_, ?_⟩
  · rw [FavoritesScreen.record, hindex]
    exact hread
  · rw [hindex] at hok
    dsimp only at hok
    split_ifs at hok
    obtain rfl := Except.ok.inj hok
    exact ⟨rfl, deleteFavorite_lookup hread⟩

theorem favorites_no_trap {event : AppEvent} (inv : AppInvariant app)
    (hvisible : app.ListVisible .favorites) (hadmitted : app.Admitted event) :
    ∃ app', AppStep app event app' := by
  have hfresh := inv.fresh hvisible
  have hshows : ¬ app.ListVisible .shows := fun h => absurd (hvisible.1.symm.trans h.1) (by decide)
  have hstack : app.navigation app.tab = [] := hvisible.1 ▸ hvisible.2
  cases event with
  | showsCell row => exact absurd hadmitted.1 hshows
  | swipeShowsRow row => exact absurd hadmitted.2.1 hshows
  | tapShowsAction row => exact absurd hadmitted.2.1 hshows
  | selectShowsRow row => exact absurd hadmitted.2.1 hshows
  | answerShowsAlert i confirmed =>
    have hnone := inv.shows_no_sheet hvisible
    have hi : i < app.shows.alerts.length := hadmitted
    simp [hnone] at hi
  | favoritesCell row =>
    obtain ⟨_, record, -, -, hrecord⟩ := hfresh.record hadmitted.2
    refine ⟨app, ?_⟩
    simp only [AppStep, App.handle, FavoritesScreen.cellForRowAt, hrecord, Except.map]
  | selectFavoritesRow row =>
    obtain ⟨_, record, -, -, hrecord⟩ := hfresh.record hadmitted.2.2
    have hselect : app.favorites.didSelectRowAt app.realm row =
        .ok { app.favorites with tvShow := some record.buildTVShowModel } := by
      simp only [FavoritesScreen.didSelectRowAt, hrecord, Except.map]
    exact ⟨_, congrArg (Except.map _) hselect⟩
  | tapFavoritesDelete row => exact ⟨_, rfl⟩
  | answerFavoritesAlert i confirmed =>
    have hrow := List.getElem?_eq_getElem (l := app.favorites.alerts) hadmitted
    obtain ⟨-, hlt, -⟩ := inv.favorites_answer hrow
    have hanswered : ({ app.favorites with
        alerts := app.favorites.alerts.eraseIdx i }).Fresh app.realm :=
      ⟨hfresh.objects, hfresh.count⟩
    obtain ⟨_, _, screen', -, -, hremove, -⟩ := hanswered.removeFavorite hlt
    have hanswer : ∃ result, app.favorites.answerAlert app.realm i confirmed = .ok result := by
      simp only [FavoritesScreen.answerAlert, hrow, hremove]
      cases confirmed with
      | true => exact ⟨_, rfl⟩
      | false => exact ⟨_, rfl⟩
    obtain ⟨result, hok⟩ := hanswer
    exact ⟨_, congrArg (Except.map _) hok⟩
  | toggleFavorite => exact absurd hstack hadmitted.2
  | popDetail => exact ⟨_, rfl⟩
  | switchTab => exact ⟨_, rfl⟩

theorem asks_first (inv : AppInvariant app) (hvisible : app.ListVisible .favorites) {row : Nat}
    (hadmitted : app.Admitted (.tapFavoritesDelete row)) : ∃ asked app',
      AdmittedStep app (.tapFavoritesDelete row) asked ∧ asked.favorites.alerts = [row] ∧
        AdmittedStep asked (.answerFavoritesAlert 0 true) app' := by
  have hnosheet : app.favorites.alerts = [] := hadmitted.1.2
  have hask : AdmittedStep app (.tapFavoritesDelete row)
      { app with favorites := app.favorites.unfavoriteAction row } := ⟨hadmitted, rfl⟩
  have halerts : (app.favorites.unfavoriteAction row).alerts = [row] := by
    simp [FavoritesScreen.unfavoriteAction, hnosheet]
  have hanswer : ({ app with favorites := app.favorites.unfavoriteAction row } : App).Admitted
      (.answerFavoritesAlert 0 true) := by
    show 0 < (app.favorites.unfavoriteAction row).alerts.length
    rw [halerts]
    exact Nat.one_pos
  have hinv := inv.of_change (inv.change hask.1 hask.2)
  obtain ⟨app', hstep⟩ := favorites_no_trap hinv hvisible hanswer
  exact ⟨_, app', hask, halerts, hanswer, hstep⟩

theorem asked_row_removed (inv : AppInvariant app) {asked waiting : App} {row i : Nat}
    {events : List AppEvent} (hask : AdmittedStep app (.tapFavoritesDelete row) asked)
    (hwait : Run AdmittedStep asked events waiting)
    (hevents : ∀ event ∈ events, ∀ j confirmed, event ≠ .answerFavoritesAlert j confirmed)
    (hanswer : AdmittedStep waiting (.answerFavoritesAlert i true) app') :
    ∃ record, app.favorites.record app.realm row = .ok record ∧
      app'.favorites.favorites = app.favorites.favorites.eraseIdx row ∧
      app'.realm.lookup = Function.update app.realm.lookup record.id none := by
  have hinv := inv.of_change (inv.change hask.1 hask.2)
  have hnosheet : app.favorites.alerts = [] := hask.1.1.2
  obtain rfl := Except.ok.inj hask.2
  have halerts : (app.favorites.unfavoriteAction row).alerts = [row] := by
    simp [FavoritesScreen.unfavoriteAction, hnosheet]
  obtain rfl := sheet_blocks_run hinv (by simp [halerts]) hwait hevents
  have hi : i < (app.favorites.unfavoriteAction row).alerts.length := hanswer.1
  rw [halerts, List.length_singleton] at hi
  obtain rfl : i = 0 := by omega
  exact answer_removes hinv (by simp [halerts]) hanswer.2

end Steps

theorem visible_favorites_agree {app : App} (h : Reachable Launched AdmittedStep app)
    (hvisible : app.ListVisible .favorites) : FavoritesAgree app := by
  have inv := AppInvariant.reachable h
  have hfresh := inv.fresh hvisible
  exact
    { records := hfresh.records
      count := hfresh.count
      captured := fun row hrow => hfresh.count ▸ (inv.favoritesSheet row hrow).2
      noTrap := fun _ hadmitted => favorites_no_trap inv hvisible hadmitted
      asksFirst := fun _ hadmitted => asks_first inv hvisible hadmitted
      removesAsked := fun _ _ _ _ _ _ hask hwait hevents hanswer =>
        asked_row_removed inv hask hwait hevents hanswer }

theorem visible_favorites_agree_deleted : ∃ app asked app' record,
    FavoritesAgree app ∧ AdmittedStep app (.tapFavoritesDelete 0) asked ∧
      AdmittedStep asked (.answerFavoritesAlert 0 true) app' ∧
      app.favorites.record app.realm 0 = .ok record ∧ record.id = 7 ∧
      app'.favorites.favorites = app.favorites.favorites.eraseIdx 0 ∧
      app'.realm.lookup 7 = none := by
  have hlaunch : Launched (App.launch [.bare (some 7)] Realm.empty) := ⟨_, _, rfl⟩
  have hswipe := reachable_event (.start hlaunch) (.swipeShowsRow 0)
    ⟨⟨rfl, rfl⟩, ⟨rfl, rfl⟩, Nat.one_pos⟩ rfl
  have htap := reachable_event hswipe (.tapShowsAction 0)
    ⟨⟨rfl, rfl⟩, ⟨rfl, rfl⟩, Option.some_ne_none RowAction.favorite⟩ rfl
  have hswitch := reachable_event htap .switchTab ⟨rfl, rfl⟩ rfl
  have hagree := visible_favorites_agree hswitch ⟨rfl, rfl⟩
  obtain ⟨asked, app', hask, -, hanswer⟩ :=
    hagree.asksFirst 0 ⟨⟨rfl, rfl⟩, ⟨rfl, rfl⟩, Nat.one_pos⟩
  obtain ⟨record, hrecord, hrows, hlookup⟩ :=
    hagree.removesAsked 0 asked [] asked 0 app' hask (.nil asked) (by simp) hanswer
  have hid : record.id = 7 := by
    cases hrecord
    rfl
  refine ⟨_, asked, app', record, hagree, hask, hanswer, hrecord, hid, hrows, ?_⟩
  rw [hlookup, ← hid, Function.update_self]

end TVShows
