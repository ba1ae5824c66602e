import TVShows.FavoritesScreen
import TVShows.ShowsScreen
import TVShows.TransitionRun

/-! The app after the shows were fetched: two tabs over one store, each with a
list and the detail screens pushed above it. `handle` is what the callbacks do
whenever they are called; `Admitted` is what UIKit lets happen: rows only of the
visible list and below the count it was given, and nothing but the answer while
an action sheet is up. A screen that becomes visible gets `viewWillAppear`. -/

namespace TVShows

open TransitionRun

inductive Tab
  | shows
  | favorites
deriving DecidableEq, Repr

def Tab.other : Tab → Tab
  | shows => favorites
  | favorites => shows

/-- The detail screens above a list, the top one first. -/
structure App where
  realm : Realm
  tab : Tab
  shows : ShowsScreen
  favorites : FavoritesScreen
  navigation : Tab → List DetailScreen

inductive AppEvent
  | showsCell (row : Nat)
  | swipeShowsRow (row : Nat)
  | tapShowsAction (row : Nat)
  | answerShowsAlert (i : Nat) (confirmed : Bool)
  | selectShowsRow (row : Nat)
  | favoritesCell (row : Nat)
  | tapFavoritesDelete (row : Nat)
  | answerFavoritesAlert (i : Nat) (confirmed : Bool)
  | selectFavoritesRow (row : Nat)
  | toggleFavorite
  | popDetail
  | switchTab
deriving DecidableEq, Repr

namespace App

/-- The Shows tab in front, with the list the first fetch brought. -/
def launch (tvShows : List TVShow) (realm : Realm) : App where
  realm := realm
  tab := .shows
  shows := ShowsScreen.initial.viewDidLoad.fetchEnds ⟨some tvShows, none⟩
  favorites := .initial
  navigation := fun _ => []

def viewWillAppear (self : App) : App :=
  match self.navigation self.tab, self.tab with
  | detail :: details, tab =>
    { self with
      navigation := Function.update self.navigation tab
        (detail.viewWillAppear self.realm :: details) }
  | [], .shows => self
  | [], .favorites => { self with favorites := self.favorites.viewWillAppear self.realm }

def pushDetail (self : App) (tab : Tab) (tvShow : Option TVShow) : App :=
  let detail := ((DetailScreen.segue tvShow).viewDidLoad self.realm).viewWillAppear self.realm
  { self with navigation := Function.update self.navigation tab (detail :: self.navigation tab) }

def popDetail (self : App) : App :=
  { self with
    navigation := Function.update self.navigation self.tab
      (self.navigation self.tab).tail }.viewWillAppear

def switchTab (self : App) : App :=
  { self with tab := self.tab.other }.viewWillAppear

def toggleFavorite (self : App) : Except Trap App :=
  match self.navigation self.tab with
  | [] => .ok self
  | detail :: details => (detail.toggleFavorite self.realm).map fun result =>
    { self with
      realm := result.2
      navigation := Function.update self.navigation self.tab (result.1 :: details) }

def handle (self : App) : AppEvent → Except Trap App
  | .showsCell row => (self.shows.cellForRowAt row).map fun _ => self
  | .swipeShowsRow row => (self.shows.editActionsForRowAt self.realm row).map fun shows =>
    { self with shows := shows }
  | .tapShowsAction row => (self.shows.tapRowAction self.realm row).map fun result =>
    { self with shows := result.1, realm := result.2 }
  | .answerShowsAlert i confirmed =>
    (self.shows.answerAlert self.realm i confirmed).map fun result =>
      { self with shows := result.1, realm := result.2 }
  | .selectShowsRow row => (self.shows.didSelectRowAt row).map fun shows =>
    { self with shows := shows }.pushDetail .shows shows.tvShow
  | .favoritesCell row => (self.favorites.cellForRowAt self.realm row).map fun _ => self
  | .tapFavoritesDelete row => .ok { self with favorites := self.favorites.unfavoriteAction row }
  | .answerFavoritesAlert i confirmed =>
    (self.favorites.answerAlert self.realm i confirmed).map fun result =>
      { self with favorites := result.1, realm := result.2 }
  | .selectFavoritesRow row => (self.favorites.didSelectRowAt self.realm row).map fun favorites =>
    { self with favorites := favorites }.pushDetail .favorites favorites.tvShow
  | .toggleFavorite => self.toggleFavorite
  | .popDetail => .ok self.popDetail
  | .switchTab => .ok self.switchTab

def ListVisible (self : App) (tab : Tab) : Prop :=
  self.tab = tab ∧ self.navigation tab = []

def DetailVisible (self : App) (detail : DetailScreen) : Prop :=
  (self.navigation self.tab).head? = some detail

def NoSheet (self : App) : Prop :=
  self.shows.alerts = [] ∧ self.favorites.alerts = []

def Admitted (self : App) : AppEvent → Prop
  | .showsCell row => self.ListVisible .shows ∧ row < self.shows.rowCount
  | .swipeShowsRow row => self.NoSheet ∧ self.ListVisible .shows ∧ row < self.shows.rowCount
  | .tapShowsAction row => self.NoSheet ∧ self.ListVisible .shows ∧ self.shows.rowActions row ≠ none
  | .answerShowsAlert i _ => i < self.shows.alerts.length
  | .selectShowsRow row => self.NoSheet ∧ self.ListVisible .shows ∧ row < self.shows.rowCount
  | .favoritesCell row => self.ListVisible .favorites ∧ row < self.favorites.rowCount
  | .tapFavoritesDelete row =>
    self.NoSheet ∧ self.ListVisible .favorites ∧ row < self.favorites.rowCount
  | .answerFavoritesAlert i _ => i < self.favorites.alerts.length
  | .selectFavoritesRow row =>
    self.NoSheet ∧ self.ListVisible .favorites ∧ row < self.favorites.rowCount
  | .toggleFavorite => self.NoSheet ∧ self.navigation self.tab ≠ []
  | .popDetail => self.NoSheet ∧ self.navigation self.tab ≠ []
  | .switchTab => self.NoSheet

end App

def AppStep (app : App) (event : AppEvent) (app' : App) : Prop :=
  app.handle event = .ok app'

def Launched (app : App) : Prop :=
  ∃ tvShows realm, app = App.launch tvShows realm

end TVShows
