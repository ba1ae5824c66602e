import TVShows.DetailScreen
import TVShows.Networking

/-! The Shows screen as its callbacks see it. The table remembers the row count
and the row actions that the data source and the delegate last gave it; alerts
stay pending until they are answered; `fetches` counts the calls of
`fetchTVShows` whose main-queue block has not run. The controller is alive as
long as its tab is, so the weak references are never nil. Here and in the
Favorites screen an alert can always be presented, as on an iPhone: the action
sheet has no popover source, which an iPad of regular width asks for. -/

namespace TVShows

inductive ScreenState
  | empty
  | loading
  | error (error : SwiftError)
  | populated (tvShows : List TVShow)
deriving DecidableEq, Repr

inductive RowAction
  | favorite
  | unfavorite
deriving DecidableEq, Repr

inductive Alert
  | retry (message : String)
  | confirmDelete (row : Nat)
deriving DecidableEq, Repr

structure ShowsScreen where
  screenState : ScreenState
  currentTVShows : List TVShow
  tvShow : Option TVShow
  rowCount : Nat
  rowActions : Nat → Option RowAction
  alerts : List Alert
  fetches : Nat

namespace ShowsScreen

def initial : ShowsScreen where
  screenState := .empty
  currentTVShows := []
  tvShow := none
  rowCount := 0
  rowActions := fun _ => none
  alerts := []
  fetches := 0

def errorMessage : SwiftError → String
  | .networkError networkError => networkError.getMessage
  | .nsError _ _ => NetworkError.generic.getMessage

def reloadData (self : ShowsScreen) : ShowsScreen :=
  { self with rowCount := self.currentTVShows.length }

/-- Assigning `screenState`, with its `didSet`. -/
def setScreenState (self : ShowsScreen) (screenState : ScreenState) : ShowsScreen :=
  match screenState with
  | .populated tvShows =>
    { self with screenState := screenState, currentTVShows := tvShows }.reloadData
  | .error error =>
    { self with
      screenState := screenState
      alerts := self.alerts ++ [Alert.retry (errorMessage error)]
      currentTVShows := [] }.reloadData
  | _ => { self with screenState := screenState, currentTVShows := [] }.reloadData

/-- Calling `fetchTVShows`; its completion calls `update`. -/
def loadShows (self : ShowsScreen) : ShowsScreen :=
  { self with fetches := self.fetches + 1 }

def update (self : ShowsScreen) (response : TVShowsModel) : ShowsScreen :=
  match response.error with
  | some error => self.setScreenState (.error error)
  | none =>
    match response.tvShows with
    | none => self.setScreenState .empty
    | some tvShows =>
      if tvShows.isEmpty then self.setScreenState .empty
      else self.setScreenState (.populated tvShows)

def viewDidLoad (self : ShowsScreen) : ShowsScreen :=
  self.reloadData.loadShows

def fetchEnds (self : ShowsScreen) (response : TVShowsModel) : ShowsScreen :=
  { self with fetches := self.fetches - 1 }.update response

/-- A fetch in flight ends without calling its completion. -/
def fetchDropped (self : ShowsScreen) : ShowsScreen :=
  { self with fetches := self.fetches - 1 }

def cellForRowAt (self : ShowsScreen) (row : Nat) : Except Trap TVShow :=
  index self.currentTVShows row

def didSelectRowAt (self : ShowsScreen) (row : Nat) : Except Trap ShowsScreen :=
  match index self.currentTVShows row with
  | .ok tvShow => .ok { self with tvShow := some tvShow }
  | .error trap => .error trap

/-- The table asks for a row's actions and keeps the answer. -/
def editActionsForRowAt (self : ShowsScreen) (realm : Realm) (row : Nat) :
    Except Trap ShowsScreen :=
  match index self.currentTVShows row with
  | .ok tvShow =>
    let action := if tvShow.isFavorite realm then RowAction.unfavorite else .favorite
    .ok { self with rowActions := Function.update self.rowActions row (some action) }
  | .error trap => .error trap

def setFavoriteStatusAt (self : ShowsScreen) (realm : Realm) (row : Nat) (favorite : Bool) :
    Except Trap Realm :=
  match index self.currentTVShows row with
  | .ok tvShow => tvShow.setFavoriteStatus realm favorite
  | .error trap => .error trap

/-- The closure of `buildFavoriteAction`. -/
def favoriteAction (self : ShowsScreen) (realm : Realm) (row : Nat) : Except Trap Realm :=
  self.setFavoriteStatusAt realm row true

/-- The closure of `buildUnfavoriteAction`: `showActionAlert`, the row captured. -/
def unfavoriteAction (self : ShowsScreen) (row : Nat) : ShowsScreen :=
  { self with alerts := self.alerts ++ [.confirmDelete row] }

def deleteConfirmed (self : ShowsScreen) (realm : Realm) (row : Nat) : Except Trap Realm :=
  self.setFavoriteStatusAt realm row false

def tapRowAction (self : ShowsScreen) (realm : Realm) (row : Nat) :
    Except Trap (ShowsScreen × Realm) :=
  match self.rowActions row with
  | none => .ok (self, realm)
  | some .favorite => (self.favoriteAction realm row).map fun realm' => (self, realm')
  | some .unfavorite => .ok (self.unfavoriteAction row, realm)

def answerAlert (self : ShowsScreen) (realm : Realm) (i : Nat) (confirmed : Bool) :
    Except Trap (ShowsScreen × Realm) :=
  match self.alerts[i]? with
  | none => .ok (self, realm)
  | some alert =>
    let answered := { self with alerts := self.alerts.eraseIdx i }
    if confirmed then
      match alert with
      | .retry _ => .ok (answered.loadShows, realm)
      | .confirmDelete row =>
        (answered.deleteConfirmed realm row).map fun realm' => (answered, realm')
    else .ok (answered, realm)

end ShowsScreen

end TVShows
