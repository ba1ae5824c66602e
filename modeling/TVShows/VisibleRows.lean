import TVShows.AppTraps
import TVShows.PosterAccounting
import TVShows.RowRendering

/-! The cells behind the rows of the two tables. A row that comes into view is
given a new cell, or one that no row uses any more and that was prepared for
reuse, and its data source loads the cell. A reload takes the cells of a table
back, a deleted row shifts the rows below it. However cells go from row to row,
a visible row has a cell of its own, with the title of its own show. -/

namespace TVShows

open TransitionRun

structure RowCell where
  cell : Nat
  reused : Bool
deriving DecidableEq, Repr

/-- The app with the cells of its tables, numbered in the order they are made. -/
structure Tables (URL Data UIImage : Type) where
  app : App
  loader : PosterLoader URL Data UIImage
  rows : Tab → Nat → Option RowCell
  made : Nat

inductive TablesEvent (Data : Type)
  | app (event : AppEvent)
  | cellForRowAt (tab : Tab) (row : Nat) (rowCell : RowCell)
  | endDisplaying (tab : Tab) (row : Nat)
  | loader (event : PosterEvent Data)

def App.cellForRowAt (self : App) : Tab → Nat → Except Trap CellContent
  | .shows, row => (self.shows.cellForRowAt row).map .tvShow
  | .favorites, row => (self.favorites.cellForRowAt self.realm row).map .tvShowStore

def App.rowCount (self : App) : Tab → Nat
  | .shows => self.shows.rowCount
  | .favorites => self.favorites.rowCount

def deleteRows (row : Nat) (rows : Nat → Option RowCell) (i : Nat) : Option RowCell :=
  if i < row then rows i else rows (i + 1)

variable {URL Data UIImage : Type}

namespace Tables

def launch (tvShows : List TVShow) (realm : Realm) (cache : URL → Option (CachedURLResponse Data)) :
    Tables URL Data UIImage where
  app := App.launch tvShows realm
  loader := .initial cache
  rows := fun _ _ => none
  made := 0

/-- The cells after an event of the app: `deleteRows` when a deletion is
confirmed, and `reloadData` when the Favorites list appears. -/
def rowsAfter (self : Tables URL Data UIImage) (event : AppEvent) (app : App) :
    Tab → Nat → Option RowCell :=
  match event with
  | .answerFavoritesAlert i true =>
    match self.app.favorites.alerts[i]? with
    | some row => Function.update self.rows .favorites (deleteRows row (self.rows .favorites))
    | none => self.rows
  | .popDetail | .switchTab =>
    match app.tab, app.navigation .favorites with
    | .favorites, [] => Function.update self.rows .favorites fun _ => none
    | _, _ => self.rows
  | _ => self.rows

def loadRow (parse : String → Option URL) (self : Tables URL Data UIImage) (tab : Tab) (row : Nat)
    (rowCell : RowCell) (content : CellContent) : Tables URL Data UIImage :=
  let dequeued :=
    if rowCell.reused then self.loader.prepareForReuse rowCell.cell else self.loader
  { self with
    loader := dequeued.load parse rowCell.cell content
    rows := Function.update self.rows tab
      (Function.update (self.rows tab) row (some rowCell))
    made := if rowCell.reused then self.made else self.made + 1 }

def step [DecidableEq URL] (parse : String → Option URL) (decode : Data → Option UIImage)
    (self : Tables URL Data UIImage) : TablesEvent Data → Option (Tables URL Data UIImage)
  | .app event => (self.app.handle event).toOption.map fun app =>
    { self with app := app, rows := self.rowsAfter event app }
  | .cellForRowAt tab row rowCell => (self.app.cellForRowAt tab row).toOption.map fun content =>
    self.loadRow parse tab row rowCell content
  | .endDisplaying tab row => some { self with
    rows := Function.update self.rows tab (Function.update (self.rows tab) row none) }
  | .loader event => (self.loader.handle parse decode event).map fun loader =>
    { self with loader := loader }

/-- A cell that a table may hand out: the next new one, or one that no row uses. -/
def Offers (self : Tables URL Data UIImage) (rowCell : RowCell) : Prop :=
  if rowCell.reused then
    rowCell.cell < self.made ∧
      ∀ tab row other, self.rows tab row = some other → other.cell ≠ rowCell.cell
  else rowCell.cell = self.made

def Possible (self : Tables URL Data UIImage) : TablesEvent Data → Prop
  | .app event => self.app.Admitted event
  | .cellForRowAt tab row rowCell => self.app.ListVisible tab ∧ row < self.app.rowCount tab ∧
      self.rows tab row = none ∧ self.Offers rowCell
  | .endDisplaying _ _ => True
  | .loader event => event.internal = true ∨ ∃ i url, event = .loadImage (.imageView i) url

end Tables

abbrev TablesStep [DecidableEq URL] (parse : String → Option URL) (decode : Data → Option UIImage) :
    Tables URL Data UIImage → TablesEvent Data → Tables URL Data UIImage → Prop :=
  guarded Tables.Possible fun s event s' => s.step parse decode event = some s'

def TablesStarted (s : Tables URL Data UIImage) : Prop :=
  ∃ tvShows realm cache, s = Tables.launch tvShows realm cache

/-- The title of a row: a show without a name leaves what the cell had, the
label of the xib in a new cell and nothing in a reused one. -/
def CellContent.title (reused : Bool) : CellContent → String
  | .tvShow t => t.name.getD (if reused then "" else "Label")
  | .tvShowStore record => record.name

def Tables.titleOf (s : Tables URL Data UIImage) (cell : Nat) : String :=
  (s.loader.views.cells cell).showTitleLabel

structure RowsInvariant (s : Tables URL Data UIImage) : Prop where
  reachable : Reachable Launched AdmittedStep s.app
  made : ∀ tab row rowCell, s.rows tab row = some rowCell → rowCell.cell < s.made
  new : ∀ cell, s.made ≤ cell → s.titleOf cell = "Label"
  distinct : ∀ tab row rowCell tab' row' rowCell', s.rows tab row = some rowCell →
    s.rows tab' row' = some rowCell' → rowCell.cell = rowCell'.cell → tab = tab' ∧ row = row'
  shows : ∀ row rowCell, s.rows .shows row = some rowCell → ∃ content,
    s.app.cellForRowAt .shows row = .ok content ∧
      s.titleOf rowCell.cell = content.title rowCell.reused
  favorites : s.app.ListVisible .favorites → ∀ row rowCell, s.rows .favorites row = some rowCell →
    ∃ content, s.app.cellForRowAt .favorites row = .ok content ∧
      s.titleOf rowCell.cell = content.title rowCell.reused

def rowBefore (row i : Nat) : Nat :=
  if i < row then i else i + 1

theorem rowBefore_injective (row : Nat) : Function.Injective (rowBefore row) := by
  intro i j h
  unfold rowBefore at h
  split_ifs at h <;> omega

theorem deleteRows_eq (row : Nat) (rows : Nat → Option RowCell) (i : Nat) :
    deleteRows row rows i = rows (rowBefore row i) := by
  unfold deleteRows rowBefore
  split_ifs <;> rfl

section App
variable {app app' : App} {event : AppEvent}

theorem list_of_step (h : Reachable Launched AdmittedStep app)
    (hstep : AdmittedStep app event app') :
    app'.shows.currentTVShows = app.shows.currentTVShows := by
  obtain ⟨_, events, ⟨tvShows, realm, rfl⟩, hrun⟩ := h
  rw [shows_list hrun, shows_list (hrun.snoc hstep)]

theorem read_delete_of_ne (realm : Realm) {object other : Accessor} (h : other ≠ object) :
    (TVShowStore.deleteFavorite realm object).read other = realm.read other := by
  have hrow : (TVShowStore.deleteFavorite realm object).row? other = realm.row? other := by
    refine Option.ext fun row => ?_
    rw [LiveTable.Table.row?_eq_some_iff, LiveTable.Table.row?_eq_some_iff,
      TVShowStore.deleteFavorite, LiveTable.Table.mem_rows_delete]
    constructor
    · rintro ⟨⟨hmem, -⟩, hhandle⟩
      exact ⟨hmem, hhandle⟩
    · rintro ⟨hmem, hhandle⟩
      exact ⟨⟨hmem, hhandle ▸ h⟩, hhandle⟩
  unfold Realm.read
  rw [hrow]

theorem cellForRowAt_removed (inv : AppInvariant app) {i row : Nat}
    (hrow : app.favorites.alerts[i]? = some row)
    (h : AppStep app (.answerFavoritesAlert i true) app') (j : Nat) :
    app'.cellForRowAt .favorites j =
      app.cellForRowAt .favorites (rowBefore row j) := by
  obtain ⟨hvisible, hlt, -⟩ := inv.favorites_answer hrow
  have hfresh := inv.fresh hvisible
  have hindex := index_of_lt (hfresh.count ▸ hlt)
  obtain ⟨result, hok, rfl⟩ := map_eq_ok h
  simp only [FavoritesScreen.answerAlert, hrow, if_true, FavoritesScreen.removeFavorite,
    hindex] at hok
  split_ifs at hok with hcount
  obtain rfl := Except.ok.inj hok
  have hlength : row < app.favorites.favorites.length := hfresh.count ▸ hlt
  have hget : (app.favorites.favorites.eraseIdx row)[j]? =
      app.favorites.favorites[rowBefore row j]? := by
    rw [List.getElem?_eraseIdx, rowBefore]
    split_ifs <;> rfl
  simp only [App.cellForRowAt, FavoritesScreen.cellForRowAt, FavoritesScreen.record, index, hget]
  cases hobject : app.favorites.favorites[rowBefore row j]? with
  | none => rfl
  | some object =>
    have hnodup := hfresh.objects.nodup_iff.mpr app.realm.handles_nodup
    have hother : object ≠ app.favorites.favorites[row] := by
      intro heq
      obtain ⟨hbefore, hget⟩ := List.getElem?_eq_some_iff.mp hobject
      have hposition := (List.Nodup.getElem_inj_iff hnodup).mp (hget.trans heq)
      unfold rowBefore at hposition
      split_ifs at hposition <;> omega
    simp only [read_delete_of_ne _ hother]

end App

section Rows
variable {s : Tables URL Data UIImage} {event : AppEvent} {app' : App}

theorem rowsAfter_cases (s : Tables URL Data UIImage) (event : AppEvent) (app' : App) :
    s.rowsAfter event app' = s.rows ∨
      s.rowsAfter event app' = Function.update s.rows .favorites (fun _ => none) ∨
      ∃ row, s.rowsAfter event app' =
        Function.update s.rows .favorites (deleteRows row (s.rows .favorites)) := by
  unfold Tables.rowsAfter
  split
  · split
    · exact .inr (.inr ⟨_, rfl⟩)
    · exact .inl rfl
  · split
    · exact .inr (.inl rfl)
    · exact .inl rfl
  · split
    · exact .inr (.inl rfl)
    · exact .inl rfl
  · exact .inl rfl

theorem rowsAfter_eq_some (s : Tables URL Data UIImage) (event : AppEvent) (app' : App) :
    ∃ before : Tab → Nat → Nat, (∀ tab, Function.Injective (before tab)) ∧
      (∀ row, before .shows row = row) ∧ ∀ tab row rowCell,
        s.rowsAfter event app' tab row = some rowCell →
          s.rows tab (before tab row) = some rowCell := by
  obtain hrows | hrows | ⟨deleted, hrows⟩ := rowsAfter_cases s event app'
  · exact ⟨fun _ row => row, fun _ => Function.injective_id, fun _ => rfl, fun _ _ _ h => hrows ▸ h⟩
  · refine ⟨fun _ row => row, fun _ => Function.injective_id, fun _ => rfl, ?_⟩
    intro tab row rowCell h
    rw [hrows] at h
    by_cases htab : tab = .favorites
    · subst htab
      rw [Function.update_self] at h
      cases h
    · rwa [Function.update_of_ne htab] at h
  · refine ⟨fun tab row => if tab = .favorites then rowBefore deleted row else row, fun tab => ?_,
      fun _ => rfl, fun tab row rowCell h => ?_⟩
    · cases tab with
      | shows => exact Function.injective_id
      | favorites => exact rowBefore_injective deleted
    · rw [hrows] at h
      cases tab with
      | shows => exact h
      | favorites => exact deleteRows_eq deleted (s.rows .favorites) row ▸ h

theorem favorites_rowsAfter (inv : AppInvariant s.app) (h : AdmittedStep s.app event app')
    (hvisible : app'.ListVisible .favorites) {row : Nat} {rowCell : RowCell}
    (hrow : s.rowsAfter event app' .favorites row = some rowCell) :
    ∃ before, s.app.ListVisible .favorites ∧ s.rows .favorites before = some rowCell ∧
      app'.cellForRowAt .favorites row = s.app.cellForRowAt .favorites before := by
  obtain ⟨hadmitted, hstep⟩ := h
  have hnotShows : app'.tab = s.app.tab → ¬ s.app.ListVisible .shows := fun htab hshows =>
    absurd ((hshows.1.symm.trans htab.symm).trans hvisible.1) (by decide)
  cases event with
  | showsCell i =>
    obtain ⟨_, -, rfl⟩ := map_eq_ok hstep
    exact ⟨row, hvisible, hrow, rfl⟩
  | swipeShowsRow i =>
    obtain ⟨_, -, rfl⟩ := map_eq_ok hstep
    exact ⟨row, hvisible, hrow, rfl⟩
  | tapShowsAction i =>
    obtain ⟨_, -, rfl⟩ := map_eq_ok hstep
    exact absurd hadmitted.2.1 (hnotShows rfl)
  | answerShowsAlert i confirmed =>
    obtain ⟨_, -, rfl⟩ := map_eq_ok hstep
    have hsome := List.ne_nil_of_length_pos (Nat.zero_lt_of_lt hadmitted)
    exact absurd (inv.showsSheet hsome) (hnotShows rfl)
  | selectShowsRow i =>
    obtain ⟨_, -, rfl⟩ := map_eq_ok hstep
    exact absurd hadmitted.2.1 (hnotShows rfl)
  | favoritesCell i =>
    obtain ⟨_, -, rfl⟩ := map_eq_ok hstep
    exact ⟨row, hvisible, hrow, rfl⟩
  | tapFavoritesDelete i =>
    obtain rfl := Except.ok.inj hstep
    exact ⟨row, hvisible, hrow, rfl⟩
  | answerFavoritesAlert i confirmed =>
    have hasked := List.getElem?_eq_getElem (l := s.app.favorites.alerts) hadmitted
    cases confirmed with
    | false =>
      obtain ⟨result, hok, rfl⟩ := map_eq_ok hstep
      simp only [FavoritesScreen.answerAlert, hasked] at hok
      obtain rfl := Except.ok.inj hok
      exact ⟨row, hvisible, hrow, rfl⟩
    | true =>
      have hbefore := (inv.favorites_answer hasked).1
      simp only [Tables.rowsAfter, hasked, Function.update_self, deleteRows_eq] at hrow
      exact ⟨_, hbefore, hrow, cellForRowAt_removed inv hasked hstep row⟩
  | selectFavoritesRow i =>
    obtain ⟨_, -, rfl⟩ := map_eq_ok hstep
    have hnone := hvisible.2
    simp [App.pushDetail] at hnone
  | toggleFavorite =>
    simp only [AppStep, App.handle, App.toggleFavorite] at hstep
    split at hstep
    · exact absurd ‹_› hadmitted.2
    · obtain ⟨_, -, rfl⟩ := map_eq_ok hstep
      have hnone := hvisible.2
      have htab : s.app.tab = .favorites := hvisible.1
      simp [htab] at hnone
  | popDetail => simp [Tables.rowsAfter, hvisible.1, hvisible.2] at hrow
  | switchTab => simp [Tables.rowsAfter, hvisible.1, hvisible.2] at hrow

end Rows

theorem setRow_eq_some {rows : Tab → Nat → Option RowCell} {tab tab' : Tab} {row row' : Nat}
    {entry : Option RowCell} {rowCell : RowCell}
    (h : Function.update rows tab (Function.update (rows tab) row entry) tab' row' = some rowCell) :
    (tab' = tab ∧ row' = row ∧ entry = some rowCell) ∨ rows tab' row' = some rowCell := by
  by_cases htab : tab' = tab
  · subst htab
    rw [Function.update_self] at h
    by_cases hrow : row' = row
    · subst hrow
      rw [Function.update_self] at h
      exact .inl ⟨rfl, rfl, h⟩
    · rw [Function.update_of_ne hrow] at h
      exact .inr h
  · rw [Function.update_of_ne htab] at h
    exact .inr h

section Titles
variable {s : Tables URL Data UIImage} {rowCell : RowCell}

theorem prepareForReuse_title (loader : PosterLoader URL Data UIImage) (i cell : Nat) :
    ((loader.prepareForReuse i).views.cells cell).showTitleLabel =
      if cell = i then "" else (loader.views.cells cell).showTitleLabel := by
  simp only [PosterLoader.prepareForReuse, PosterViews.showTitleLabel_setShown]
  by_cases hcell : cell = i
  · rw [hcell, if_pos rfl, PosterViews.showTitleLabel_setTitle]
  · rw [if_neg hcell, PosterViews.showTitleLabel_setTitle_of_ne _ _ hcell]

theorem titleOf_loadRow (parse : String → Option URL) (s : Tables URL Data UIImage) (tab : Tab)
    (row : Nat) (content : CellContent)
    (hnew : rowCell.reused = false → s.titleOf rowCell.cell = "Label") :
    (s.loadRow parse tab row rowCell content).titleOf rowCell.cell =
      content.title rowCell.reused := by
  unfold Tables.titleOf at hnew ⊢
  cases content with
  | tvShow t =>
    simp only [Tables.loadRow, PosterLoader.load, loadTVShow_title, CellContent.title]
    cases hreused : rowCell.reused with
    | true => simp [prepareForReuse_title]
    | false => simp [hnew hreused]
  | tvShowStore record =>
    simp only [Tables.loadRow, PosterLoader.load, loadTVShowStore_title, CellContent.title]

theorem titleOf_loadRow_of_ne (parse : String → Option URL) (s : Tables URL Data UIImage)
    (tab : Tab) (row : Nat) (content : CellContent) {cell : Nat} (h : cell ≠ rowCell.cell) :
    (s.loadRow parse tab row rowCell content).titleOf cell = s.titleOf cell := by
  simp only [Tables.titleOf, Tables.loadRow, load_title_of_ne content h]
  split_ifs
  · rw [prepareForReuse_title, if_neg h]
  · rfl

end Titles

namespace RowsInvariant
variable {parse : String → Option URL} {decode : Data → Option UIImage}
  {s s' : Tables URL Data UIImage}

theorem launch (tvShows : List TVShow) (realm : Realm)
    (cache : URL → Option (CachedURLResponse Data)) :
    RowsInvariant (Tables.launch tvShows realm cache : Tables URL Data UIImage) where
  reachable := .start ⟨tvShows, realm, rfl⟩
  made _ _ _ h := nomatch h
  new _ _ := rfl
  distinct _ _ _ _ _ _ h := nomatch h
  shows _ _ h := nomatch h
  favorites _ _ _ h := nomatch h

theorem app (hs : RowsInvariant s) {event : AppEvent} {app' : App}
    (h : AdmittedStep s.app event app') :
    RowsInvariant { s with app := app', rows := s.rowsAfter event app' } := by
  obtain ⟨before, hinjective, hshows, hbefore⟩ := rowsAfter_eq_some s event app'
  refine ⟨hs.reachable.next h, fun tab row rowCell hrow => hs.made _ _ _ (hbefore _ _ _ hrow),
    hs.new, fun tab row rowCell tab' row' rowCell' hrow hrow' hcell => ?_,
    fun row rowCell hrow => ?_, fun hvisible row rowCell hrow => ?_⟩
  · obtain ⟨rfl, hsame⟩ :=
      hs.distinct _ _ _ _ _ _ (hbefore _ _ _ hrow) (hbefore _ _ _ hrow') hcell
    exact ⟨rfl, hinjective tab hsame⟩
  · have hrow' := hbefore _ _ _ hrow
    rw [hshows row] at hrow'
    obtain ⟨content, hcontent, htitle⟩ := hs.shows row rowCell hrow'
    refine ⟨content, ?_, htitle⟩
    simp only [App.cellForRowAt, ShowsScreen.cellForRowAt] at hcontent ⊢
    rw [list_of_step hs.reachable h]
    exact hcontent
  · obtain ⟨earlier, hearlier, hrow', hsame⟩ :=
      favorites_rowsAfter (AppInvariant.reachable hs.reachable) h hvisible hrow
    obtain ⟨content, hcontent, htitle⟩ := hs.favorites hearlier earlier rowCell hrow'
    exact ⟨content, hsame.trans hcontent, htitle⟩

theorem endDisplaying (hs : RowsInvariant s) (tab : Tab) (row : Nat) :
    RowsInvariant { s with
      rows := Function.update s.rows tab (Function.update (s.rows tab) row none) } := by
  have hkept : ∀ tab' row' rowCell,
      Function.update s.rows tab (Function.update (s.rows tab) row none) tab' row' =
        some rowCell → s.rows tab' row' = some rowCell := by
    intro tab' row' rowCell h
    obtain ⟨-, -, hnone⟩ | hold := setRow_eq_some h
    · cases hnone
    · exact hold
  exact ⟨hs.reachable, fun _ _ _ h => hs.made _ _ _ (hkept _ _ _ h), hs.new,
    fun _ _ _ _ _ _ h h' => hs.distinct _ _ _ _ _ _ (hkept _ _ _ h) (hkept _ _ _ h'),
    fun _ _ h => hs.shows _ _ (hkept _ _ _ h),
    fun hvisible _ _ h => hs.favorites hvisible _ _ (hkept _ _ _ h)⟩

theorem unused_of_offers (hs : RowsInvariant s) {rowCell : RowCell} (h : s.Offers rowCell)
    (tab : Tab) (row : Nat) (other : RowCell) (hother : s.rows tab row = some other) :
    other.cell ≠ rowCell.cell := by
  intro hcell
  unfold Tables.Offers at h
  split_ifs at h
  · exact h.2 tab row other hother hcell
  · have hmade := hs.made tab row other hother
    omega

theorem new_of_offers (hs : RowsInvariant s) {rowCell : RowCell} (h : s.Offers rowCell)
    (hreused : rowCell.reused = false) : s.titleOf rowCell.cell = "Label" := by
  rw [Tables.Offers, if_neg (by simp [hreused])] at h
  exact hs.new _ (Nat.le_of_eq h.symm)

theorem loadRow (hs : RowsInvariant s) {tab : Tab} {row : Nat} {rowCell : RowCell}
    {content : CellContent} (hoffers : s.Offers rowCell)
    (hcontent : s.app.cellForRowAt tab row = .ok content) :
    RowsInvariant (s.loadRow parse tab row rowCell content) := by
  have hunused := hs.unused_of_offers hoffers
  obtain ⟨hgrown, hbelow⟩ : s.made ≤ (s.loadRow parse tab row rowCell content).made ∧
      rowCell.cell < (s.loadRow parse tab row rowCell content).made := by
    unfold Tables.Offers at hoffers
    simp only [Tables.loadRow]
    split_ifs at hoffers ⊢ <;> omega
  have hrows : ∀ tab' row' other,
      (s.loadRow parse tab row rowCell content).rows tab' row' = some other →
        (tab' = tab ∧ row' = row ∧ other = rowCell) ∨ s.rows tab' row' = some other := by
    intro tab' row' other h
    obtain ⟨htab, hrow, hentry⟩ | hold := setRow_eq_some h
    · exact .inl ⟨htab, hrow, (Option.some.inj hentry).symm⟩
    · exact .inr hold
  have htitle := titleOf_loadRow parse s tab row content (hs.new_of_offers hoffers)
  refine ⟨hs.reachable, fun tab' row' other h => ?_, fun cell hcell => ?_,
    fun tab₁ row₁ cell₁ tab₂ row₂ cell₂ h₁ h₂ hcell => ?_, fun row' other h => ?_,
    fun hvisible row' other h => ?_⟩
  · obtain ⟨rfl, rfl, rfl⟩ | hold := hrows _ _ _ h
    · exact hbelow
    · exact Nat.lt_of_lt_of_le (hs.made _ _ _ hold) hgrown
  · have hne : cell ≠ rowCell.cell := Nat.ne_of_gt (Nat.lt_of_lt_of_le hbelow hcell)
    exact (titleOf_loadRow_of_ne parse s tab row content hne).trans
      (hs.new cell (Nat.le_trans hgrown hcell))
  · obtain ⟨rfl, rfl, rfl⟩ | hold₁ := hrows _ _ _ h₁
    · obtain ⟨rfl, rfl, rfl⟩ | hold₂ := hrows _ _ _ h₂
      · exact ⟨rfl, rfl⟩
      · exact absurd hcell.symm (hunused _ _ _ hold₂)
    · obtain ⟨rfl, rfl, rfl⟩ | hold₂ := hrows _ _ _ h₂
      · exact absurd hcell (hunused _ _ _ hold₁)
      · exact hs.distinct _ _ _ _ _ _ hold₁ hold₂ hcell
  · obtain ⟨rfl, rfl, rfl⟩ | hold := hrows _ _ _ h
    · exact ⟨content, hcontent, htitle⟩
    · obtain ⟨earlier, hearlier, hsame⟩ := hs.shows row' other hold
      refine ⟨earlier, hearlier, Eq.trans ?_ hsame⟩
      exact titleOf_loadRow_of_ne parse s tab row content (hunused _ _ _ hold)
  · obtain ⟨rfl, rfl, rfl⟩ | hold := hrows _ _ _ h
    · exact ⟨content, hcontent, htitle⟩
    · obtain ⟨earlier, hearlier, hsame⟩ := hs.favorites hvisible row' other hold
      refine ⟨earlier, hearlier, Eq.trans ?_ hsame⟩
      exact titleOf_loadRow_of_ne parse s tab row content (hunused _ _ _ hold)

variable [DecidableEq URL]

theorem loader (hs : RowsInvariant s) {event : PosterEvent Data}
    {loader' : PosterLoader URL Data UIImage}
    (hevent : event.internal = true ∨ ∃ i url, event = .loadImage (.imageView i) url)
    (h : PosterStep parse decode s.loader event loader') :
    RowsInvariant { s with loader := loader' } := by
  have hkept : ∀ cell, (loader'.views.cells cell).showTitleLabel = s.titleOf cell := by
    intro cell
    refine title_step h (fun hload => ?_) (fun hprepare => ?_)
    · obtain hinternal | ⟨i, url, rfl⟩ := hevent
      · cases event <;> first | exact hload | cases hinternal
      · cases hload
    · subst hprepare
      obtain hinternal | ⟨i, url, heq⟩ := hevent
      · cases hinternal
      · cases heq
  refine ⟨hs.reachable, hs.made, fun cell hcell => (hkept cell).trans (hs.new cell hcell),
    hs.distinct, fun row rowCell hrow => ?_, fun hvisible row rowCell hrow => ?_⟩
  · obtain ⟨content, hcontent, htitle⟩ := hs.shows row rowCell hrow
    exact ⟨content, hcontent, (hkept _).trans htitle⟩
  · obtain ⟨content, hcontent, htitle⟩ := hs.favorites hvisible row rowCell hrow
    exact ⟨content, hcontent, (hkept _).trans htitle⟩

theorem step (hs : RowsInvariant s) {event : TablesEvent Data}
    (h : TablesStep parse decode s event s') : RowsInvariant s' := by
  obtain ⟨hpossible, hstep⟩ := h
  cases event with
  | app event =>
    obtain ⟨app', hok, rfl⟩ := Option.map_eq_some_iff.mp hstep
    exact hs.app ⟨hpossible, toOption_eq_some hok⟩
  | cellForRowAt tab row rowCell =>
    obtain ⟨content, hok, rfl⟩ := Option.map_eq_some_iff.mp hstep
    exact hs.loadRow hpossible.2.2.2 (toOption_eq_some hok)
  | endDisplaying tab row =>
    obtain rfl := Option.some.inj hstep
    exact hs.endDisplaying tab row
  | loader event =>
    obtain ⟨loader', hok, rfl⟩ := Option.map_eq_some_iff.mp hstep
    exact hs.loader hpossible hok

theorem reachable_rows (h : Reachable TablesStarted (TablesStep parse decode) s) :
    RowsInvariant s := by
  refine h.invariant ?_ fun _ _ _ hs hstep => hs.step hstep
  rintro _ ⟨tvShows, realm, cache, rfl⟩
  exact launch tvShows realm cache

end RowsInvariant

structure VisibleRows (s : Tables URL Data UIImage) : Prop where
  titled : ∀ tab, s.app.ListVisible tab → ∀ row rowCell, s.rows tab row = some rowCell →
    ∃ content, s.app.cellForRowAt tab row = .ok content ∧
      s.titleOf rowCell.cell = content.title rowCell.reused
  ownCell : ∀ tab row rowCell tab' row' rowCell', s.rows tab row = some rowCell →
    s.rows tab' row' = some rowCell' → rowCell.cell = rowCell'.cell → tab = tab' ∧ row = row'

section Runs
variable [DecidableEq URL] {parse : String → Option URL} {decode : Data → Option UIImage}
  {s : Tables URL Data UIImage}

/-- Over all scrolling, deletions, changes of tab and late posters: visible rows
do not share cells, and no row keeps the title of a show that its cell had before. -/
theorem visible_rows_show_own_titles (h : Reachable TablesStarted (TablesStep parse decode) s) :
    VisibleRows s := by
  have hs := RowsInvariant.reachable_rows h
  refine ⟨fun tab hvisible row rowCell hrow => ?_, hs.distinct⟩
  cases tab with
  | shows => exact hs.shows row rowCell hrow
  | favorites => exact hs.favorites hvisible row rowCell hrow

theorem visible_rows_show_own_titles_reused : ∃ s : Tables String String String,
    s.rows .shows 1 = some ⟨0, true⟩ ∧ s.titleOf 0 = "B" ∧ VisibleRows s := by
  have hrun : ∃ s : Tables String String String,
      Run (TablesStep some some)
        (Tables.launch [{ TVShow.bare (some 1) with name := some "A" },
          { TVShow.bare (some 2) with name := some "B" }] Realm.empty fun _ => none)
        [.cellForRowAt .shows 0 ⟨0, false⟩, .endDisplaying .shows 0,
          .cellForRowAt .shows 1 ⟨0, true⟩] s ∧
        s.rows .shows 1 = some ⟨0, true⟩ ∧ s.titleOf 0 = "B" := by
    refine ⟨_, .cons ⟨⟨⟨rfl, rfl⟩, Nat.two_pos, rfl, rfl⟩, rfl⟩ <| .cons ⟨trivial, rfl⟩ <|
      .single ⟨⟨⟨rfl, rfl⟩, Nat.one_lt_two, rfl, Nat.one_pos, ?_⟩, rfl⟩, rfl, rfl⟩
    intro tab row other h
    cases tab with
    | favorites => cases h
    | shows =>
      cases row with
      | zero => cases h
      | succ row => cases h
  obtain ⟨s, hrun, hrow, htitle⟩ := hrun
  exact ⟨s, hrow, htitle, visible_rows_show_own_titles ⟨_, _, ⟨_, _, _, rfl⟩, hrun⟩⟩

end Runs

end TVShows
