import TVShows.AppTraps
import TVShows.LiveValues
import TVShows.StoredCopy

/-! The store of the app as a list of records. Each step gives the store one
command at most: a save appends the record of a show, a removal moves the last
record into the gap. The commands of a run are read off its events, the store is
their fold, and the Favorites list shows that fold whenever it comes in front. -/

namespace TVShows

open LiveTable TransitionRun

inductive StoreCommand
  | save (tvShow : TVShow)
  | remove (key : Int)
deriving DecidableEq, Repr

def StoreCommand.apply (records : List TVShowStore) : StoreCommand → List TVShowStore
  | save tvShow => records ++ [tvShow.storeObject]
  | remove key => removeKey TVShowStore.id key records

def Realm.records (realm : Realm) : List TVShowStore :=
  Table.values realm

def TVShow.toggleCommand (self : TVShow) (realm : Realm) : Option StoreCommand :=
  if self.isFavorite realm then self.id.map .remove else some (.save self)

namespace App

/-- What the event asks of the store, whether or not it changes anything. -/
def command (self : App) : AppEvent → Option StoreCommand
  | .tapShowsAction row =>
    match self.shows.rowActions row with
    | some .favorite => self.shows.currentTVShows[row]?.map .save
    | _ => none
  | .answerShowsAlert i true =>
    match self.shows.alerts[i]? with
    | some (.confirmDelete row) => (self.shows.currentTVShows[row]?.bind TVShow.id).map .remove
    | _ => none
  | .answerFavoritesAlert i true =>
    match self.favorites.alerts[i]? with
    | some row => ((self.favorites.record self.realm row).toOption.map TVShowStore.id).map .remove
    | none => none
  | .toggleFavorite =>
    ((self.navigation self.tab).head?.bind DetailScreen.tvShow).bind fun tvShow =>
      tvShow.toggleCommand self.realm
  | _ => none

/-- The commands of a run; the events after a trap do not happen. -/
def commands : App → List AppEvent → List StoreCommand
  | _, [] => []
  | self, event :: events =>
    (self.command event).toList ++
      match self.handle event with
      | .ok app => app.commands events
      | .error _ => []

end App

section Records
variable {t : TVShow} {realm realm' : Realm}

theorem saveShow_records (h : t.saveShow realm = .ok realm') :
    realm'.records = realm.records ++ [t.storeObject] := by
  unfold TVShow.saveShow TVShowStore.saveShow Realm.add at h
  split_ifs at h with fresh
  exact Except.ok.inj h ▸ Table.values_insert fresh

theorem deleteShow_records (realm : Realm) (showID : Int) :
    (TVShowStore.deleteShow realm showID).records =
      removeKey TVShowStore.id showID realm.records := by
  unfold TVShowStore.deleteShow
  cases hobject : realm.objectForPrimaryKey showID with
  | none =>
    have hnone : realm.lookup showID = none := by
      simpa [Realm.objectForPrimaryKey, Table.lookup] using hobject
    refine (removeKey_of_absent fun record hrecord hkey => ?_).symm
    rw [← hkey, Table.mem_values.mp hrecord] at hnone
    cases hnone
  | some object =>
    obtain ⟨row, hrow, rfl, rfl⟩ := objectForPrimaryKey_eq_some_iff.mp hobject
    exact Table.values_delete hrow

theorem deleteFavorite_records {object : Accessor} {record : TVShowStore}
    (h : realm.read object = .ok record) :
    (TVShowStore.deleteFavorite realm object).records =
      removeKey TVShowStore.id record.id realm.records := by
  rw [← deleteShow_eq_deleteFavorite h]
  exact deleteShow_records realm record.id

def TVShow.statusCommand (self : TVShow) (favorite : Bool) : Option StoreCommand :=
  if favorite then some (.save self) else self.id.map .remove

theorem setFavoriteStatus_records {favorite : Bool}
    (h : t.setFavoriteStatus realm favorite = .ok realm') :
    realm'.records = (t.statusCommand favorite).toList.foldl StoreCommand.apply realm.records := by
  cases favorite with
  | true => exact saveShow_records h
  | false =>
    obtain rfl := Except.ok.inj h
    cases hid : t.id with
    | none => simp [TVShow.deleteShow, TVShow.statusCommand, hid]
    | some id =>
      simp only [TVShow.deleteShow, TVShow.statusCommand, hid]
      exact deleteShow_records realm id

theorem toggleCommand_eq (t : TVShow) (realm : Realm) :
    t.toggleCommand realm = t.statusCommand (!t.isFavorite realm) := by
  unfold TVShow.toggleCommand TVShow.statusCommand
  cases t.isFavorite realm <;> rfl

end Records

section Steps
variable {app app' : App} {event : AppEvent}

theorem setFavoriteStatusAt_ok {screen : ShowsScreen} {realm realm' : Realm} {row : Nat}
    {favorite : Bool} (h : screen.setFavoriteStatusAt realm row favorite = .ok realm') :
    ∃ t, screen.currentTVShows[row]? = some t ∧ t.setFavoriteStatus realm favorite = .ok realm' := by
  unfold ShowsScreen.setFavoriteStatusAt at h
  split at h
  · exact ⟨_, index_eq_ok ‹_›, h⟩
  · cases h

theorem records_of_tapRowAction {row : Nat} {shows : ShowsScreen} {realm' : Realm}
    (h : app.shows.tapRowAction app.realm row = .ok (shows, realm')) :
    realm'.records =
      (app.command (.tapShowsAction row)).toList.foldl StoreCommand.apply app.realm.records := by
  unfold ShowsScreen.tapRowAction at h
  simp only [App.command]
  split at h
  · rename_i hnone
    simp only [hnone]
    exact (Prod.mk.inj (Except.ok.inj h)).2 ▸ rfl
  · rename_i hfavorite
    obtain ⟨_, hsaved, hpair⟩ := map_eq_ok h
    obtain ⟨t, hrow, hok⟩ := setFavoriteStatusAt_ok hsaved
    simp only [hfavorite, hrow]
    exact (Prod.mk.inj hpair).2 ▸ setFavoriteStatus_records hok
  · rename_i hunfavorite
    simp only [hunfavorite]
    exact (Prod.mk.inj (Except.ok.inj h)).2 ▸ rfl

theorem records_of_answerShowsAlert {i : Nat} {confirmed : Bool} {shows : ShowsScreen}
    {realm' : Realm} (h : app.shows.answerAlert app.realm i confirmed = .ok (shows, realm')) :
    realm'.records =
      (app.command (.answerShowsAlert i confirmed)).toList.foldl StoreCommand.apply
        app.realm.records := by
  unfold ShowsScreen.answerAlert at h
  cases halert : app.shows.alerts[i]? with
  | none =>
    simp only [halert, Except.ok.injEq, Prod.mk.injEq] at h
    cases confirmed <;> simp [App.command, halert, h.2]
  | some alert =>
    cases confirmed with
    | false =>
      simp only [halert, Bool.false_eq_true, if_false, Except.ok.injEq, Prod.mk.injEq] at h
      simp [App.command, h.2]
    | true =>
      cases alert with
      | retry message =>
        simp only [halert, if_true, Except.ok.injEq, Prod.mk.injEq] at h
        simp [App.command, halert, h.2]
      | confirmDelete row =>
        simp only [halert, if_true] at h
        obtain ⟨_, hdeleted, hpair⟩ := map_eq_ok h
        obtain ⟨t, hrow, hok⟩ := setFavoriteStatusAt_ok hdeleted
        obtain rfl := (Prod.mk.inj hpair).2
        have hrow' : app.shows.currentTVShows[row]? = some t := hrow
        simp only [App.command, halert, hrow', Option.bind_some]
        exact setFavoriteStatus_records hok

theorem records_of_answerFavoritesAlert {i : Nat} {confirmed : Bool} {favorites : FavoritesScreen}
    {realm' : Realm} (inv : AppInvariant app) (hi : i < app.favorites.alerts.length)
    (h : app.favorites.answerAlert app.realm i confirmed = .ok (favorites, realm')) :
    realm'.records =
      (app.command (.answerFavoritesAlert i confirmed)).toList.foldl StoreCommand.apply
        app.realm.records := by
  have hrow := List.getElem?_eq_getElem hi
  obtain ⟨hvisible, hlt, -⟩ := inv.favorites_answer hrow
  obtain ⟨_, record, -, -, hrecord⟩ := (inv.fresh hvisible).record hlt
  have hanswered : ({ app.favorites with
      alerts := app.favorites.alerts.eraseIdx i }).Fresh app.realm :=
    ⟨(inv.fresh hvisible).objects, (inv.fresh hvisible).count⟩
  obtain ⟨object, record', _, hobject, hread, hremove, -⟩ := hanswered.removeFavorite hlt
  have hsame : record' = record := by
    have hindex : app.favorites.record app.realm app.favorites.alerts[i] = .ok record' := by
      have hobject' : app.favorites.favorites[app.favorites.alerts[i]]? = some object := hobject
      simp only [FavoritesScreen.record, index, hobject', hread]
    exact Except.ok.inj (hindex.symm.trans hrecord)
  simp only [FavoritesScreen.answerAlert, hrow] at h
  cases confirmed with
  | false =>
    simp only [Bool.false_eq_true, if_false, Except.ok.injEq, Prod.mk.injEq] at h
    simp [App.command, h.2]
  | true =>
    rw [if_pos rfl, hremove] at h
    obtain rfl := (Prod.mk.inj (Except.ok.inj h)).2
    simp only [App.command, hrow, hrecord]
    exact hsame ▸ deleteFavorite_records hread

theorem records_of_toggleFavorite (h : AppStep app .toggleFavorite app') :
    app'.realm.records =
      (app.command .toggleFavorite).toList.foldl StoreCommand.apply app.realm.records := by
  simp only [AppStep, App.handle, App.toggleFavorite] at h
  simp only [App.command]
  cases hstack : app.navigation app.tab with
  | nil =>
    simp only [hstack, Except.ok.injEq] at h
    simp [h]
  | cons detail details =>
    simp only [hstack] at h
    obtain ⟨⟨detail', realm'⟩, hok, rfl⟩ := map_eq_ok h
    unfold DetailScreen.toggleFavorite at hok
    simp only [List.head?_cons, Option.bind_some]
    cases ht : detail.tvShow with
    | none =>
      simp only [ht, Except.ok.injEq, Prod.mk.injEq] at hok
      simp [hok.2]
    | some t =>
      simp only [ht] at hok
      split at hok
      · rename_i realm'' htoggle
        obtain rfl := (Prod.mk.inj (Except.ok.inj hok)).2
        rw [Option.bind_some, toggleCommand_eq]
        exact setFavoriteStatus_records htoggle
      · cases hok

theorem records_of_step (inv : AppInvariant app) (h : AdmittedStep app event app') :
    app'.realm.records =
      (app.command event).toList.foldl StoreCommand.apply app.realm.records := by
  obtain ⟨hadmitted, hstep⟩ := h
  cases event with
  | showsCell row =>
    obtain ⟨_, -, rfl⟩ := map_eq_ok hstep
    rfl
  | swipeShowsRow row =>
    obtain ⟨_, -, rfl⟩ := map_eq_ok hstep
    rfl
  | tapShowsAction row =>
    obtain ⟨⟨shows, realm⟩, hresult, rfl⟩ := map_eq_ok hstep
    exact records_of_tapRowAction hresult
  | answerShowsAlert i confirmed =>
    obtain ⟨⟨shows, realm⟩, hresult, rfl⟩ := map_eq_ok hstep
    exact records_of_answerShowsAlert hresult
  | selectShowsRow row =>
    obtain ⟨_, -, rfl⟩ := map_eq_ok hstep
    rfl
  | favoritesCell row =>
    obtain ⟨_, -, rfl⟩ := map_eq_ok hstep
    rfl
  | tapFavoritesDelete row =>
    obtain rfl := Except.ok.inj hstep
    rfl
  | answerFavoritesAlert i confirmed =>
    obtain ⟨⟨favorites, realm⟩, hresult, rfl⟩ := map_eq_ok hstep
    exact records_of_answerFavoritesAlert inv hadmitted hresult
  | selectFavoritesRow row =>
    obtain ⟨_, -, rfl⟩ := map_eq_ok hstep
    rfl
  | toggleFavorite => exact records_of_toggleFavorite hstep
  | popDetail =>
    obtain rfl := Except.ok.inj hstep
    exact congrArg Realm.records (viewWillAppear_realm _)
  | switchTab =>
    obtain rfl := Except.ok.inj hstep
    exact congrArg Realm.records (viewWillAppear_realm _)

theorem records_of_run {events : List AppEvent} (inv : AppInvariant app)
    (h : Run AdmittedStep app events app') :
    app'.realm.records = (app.commands events).foldl StoreCommand.apply app.realm.records := by
  induction h with
  | nil app => rfl
  | cons hstep _ ih =>
    have hrest := ih (inv.of_change (inv.change hstep.1 hstep.2))
    have hhandle := hstep.2
    rw [AppStep] at hhandle
    rw [hrest, records_of_step inv hstep, App.commands, hhandle, List.foldl_append]

end Steps

theorem read_handles (realm : Realm) :
    realm.handles.map realm.read = realm.records.map Except.ok := by
  rw [Table.handles, Realm.records, Table.values, List.map_map, List.map_map]
  exact List.map_congr_left fun row hrow => read_eq_ok_iff.mpr ⟨row, hrow, rfl, rfl⟩

def ListsRecords (app : App) (records : List TVShowStore) : Prop :=
  app.favorites.favorites.map app.realm.read = records.map Except.ok ∧
    app.favorites.rowCount = records.length

theorem viewWillAppear_lists {app : App} (hvisible : app.viewWillAppear.ListVisible .favorites) :
    ListsRecords app.viewWillAppear app.realm.records := by
  have hfront : app.viewWillAppear =
      { app with favorites := app.favorites.viewWillAppear app.realm } := by
    unfold App.viewWillAppear at hvisible ⊢
    split at hvisible
    · rename_i detail details hstack
      obtain ⟨htab, hnone⟩ := hvisible
      have htab' : app.tab = .favorites := htab
      rw [← htab'] at hnone
      simp at hnone
    · rename_i hshows
      exact absurd (hshows.symm.trans hvisible.1) (by decide)
    · rfl
  rw [hfront]
  have hread := read_handles app.realm
  have hlength := congrArg List.length hread
  simp only [List.length_map] at hlength
  simp only [ListsRecords, FavoritesScreen.viewWillAppear, FavoritesScreen.loadShows,
    getSavedShows_eq]
  exact ⟨hread, hlength⟩

structure StoreIsFold (app : App) (events : List AppEvent) (app' : App) : Prop where
  records : app'.realm.records =
    (app.commands events).foldl StoreCommand.apply app.realm.records
  shown : ∀ event shown, event = .switchTab ∨ event = .popDetail →
    AdmittedStep app' event shown → shown.ListVisible .favorites →
      ListsRecords shown ((app.commands events).foldl StoreCommand.apply app.realm.records)

/-- From any reachable state the store after a run is the fold of the commands
that the events of the run ask for: a Favorite or add tap appends the record of
its show, a confirmed deletion or trash tap moves the last record over the one
it takes out, and no other event changes a record or the order. -/
theorem store_is_fold_of_commands {app app' : App} {events : List AppEvent}
    (h : Reachable Launched AdmittedStep app) (hrun : Run AdmittedStep app events app') :
    StoreIsFold app events app' := by
  have hrecords := records_of_run (AppInvariant.reachable h) hrun
  refine ⟨hrecords, fun event shown hevent hstep hvisible => ?_⟩
  rw [← hrecords]
  cases hevent with
  | inl hswitch =>
    subst hswitch
    obtain rfl := Except.ok.inj hstep.2
    exact viewWillAppear_lists hvisible
  | inr hpop =>
    subst hpop
    obtain rfl := Except.ok.inj hstep.2
    exact viewWillAppear_lists hvisible

theorem store_is_fold_of_commands_three :
    ∃ app, StoreIsFold (App.launch [.bare (some 7), .bare (some 8)] Realm.empty)
      [.swipeShowsRow 0, .tapShowsAction 0, .swipeShowsRow 1, .tapShowsAction 1,
        .selectShowsRow 0, .toggleFavorite] app ∧
      app.realm.records = [(TVShow.bare (some 8)).storeObject] := by
  have hlaunch : Launched (App.launch [.bare (some 7), .bare (some 8)] Realm.empty) := ⟨_, _, rfl⟩
  refine ⟨_, store_is_fold_of_commands (.start hlaunch)
    (.cons ⟨⟨⟨rfl, rfl⟩, ⟨rfl, rfl⟩, Nat.two_pos⟩, rfl⟩ <|
      .cons ⟨⟨⟨rfl, rfl⟩, ⟨rfl, rfl⟩, Option.some_ne_none RowAction.favorite⟩, rfl⟩ <|
      .cons ⟨⟨⟨rfl, rfl⟩, ⟨rfl, rfl⟩, Nat.one_lt_two⟩, rfl⟩ <|
      .cons ⟨⟨⟨rfl, rfl⟩, ⟨rfl, rfl⟩, Option.some_ne_none RowAction.favorite⟩, rfl⟩ <|
      .cons ⟨⟨⟨rfl, rfl⟩, ⟨rfl, rfl⟩, Nat.two_pos⟩, rfl⟩ <|
      .single ⟨⟨⟨rfl, rfl⟩, List.cons_ne_nil _ _⟩, rfl⟩), rfl⟩

end TVShows
