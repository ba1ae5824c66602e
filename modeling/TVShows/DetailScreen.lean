import TVShows.FavoriteStore

/-! The detail screen: what `viewDidLoad` puts on it, its bar button and the
IMDb action. Rendering the summary and printing the rating are left to UIKit,
and the poster to the image loader, so the screen keeps the values they get. -/

namespace TVShows

inductive SystemItem
  | add
  | trash
deriving DecidableEq, Repr

structure ScreenArguments where
  name : String
  poster : String
  summary : String
  imdb : String
  rating : Double
  isFavorite : Bool
  id : Int
deriving DecidableEq, Repr

structure DetailScreen where
  tvShow : Option TVShow
  title : String
  poster : String
  imdbButtonHidden : Bool
  imdbButtonTitle : String
  summary : String
  rating : Double
  rightBarButtonItem : Option SystemItem
deriving DecidableEq, Repr

inductive IMDBAction
  | page (base : String) (component : String)
  | errorMessage (message : String)
deriving DecidableEq, Repr

def TVShow.screenArguments (self : TVShow) (realm : Realm) : ScreenArguments where
  name := self.name.getD ""
  poster := (self.image.bind Image.original).getD ""
  summary := self.summary.getD ""
  imdb := (self.externals.bind Externals.imdb).getD ""
  rating := (self.rating.bind Rating.average).getD Double.zero
  isFavorite := self.isFavorite realm
  id := self.id.getD 0

namespace DetailScreen

/-- The screen of the storyboard, after `prepare(for:)` has set its show. -/
def segue (tvShow : Option TVShow) : DetailScreen where
  tvShow := tvShow
  title := ""
  poster := ""
  imdbButtonHidden := false
  imdbButtonTitle := "IMDb: "
  summary := ""
  rating := Double.zero
  rightBarButtonItem := none

def toggleFavoriteButton (self : DetailScreen) (realm : Realm) : DetailScreen :=
  match self.tvShow with
  | none => self
  | some tvShow =>
    { self with rightBarButtonItem := some (if tvShow.isFavorite realm then .trash else .add) }

def toggleFavorite (self : DetailScreen) (realm : Realm) : Except Trap (DetailScreen × Realm) :=
  match self.tvShow with
  | none => .ok (self, realm)
  | some tvShow =>
    match tvShow.setFavoriteStatus realm (!tvShow.isFavorite realm) with
    | .ok realm' => .ok (self.toggleFavoriteButton realm', realm')
    | .error trap => .error trap

def prepareScreen (self : DetailScreen) (realm : Realm) (arguments : ScreenArguments) :
    DetailScreen :=
  { self with
    title := arguments.name
    poster := arguments.poster
    imdbButtonHidden := arguments.imdb.isEmpty
    imdbButtonTitle := "IMDb: " ++ arguments.imdb
    summary := arguments.summary
    rating := arguments.rating }.toggleFavoriteButton realm

def viewDidLoad (self : DetailScreen) (realm : Realm) : DetailScreen :=
  match self.tvShow with
  | none => self
  | some tvShow => self.prepareScreen realm (tvShow.screenArguments realm)

def viewWillAppear (self : DetailScreen) (realm : Realm) : DetailScreen :=
  self.toggleFavoriteButton realm

def openIMDBAction (self : DetailScreen) : IMDBAction :=
  match (self.tvShow.bind TVShow.externals).bind Externals.imdb with
  | none => .errorMessage "Oops, something went wrong"
  | some imdb =>
    if imdb.isEmpty then .errorMessage "Oops, something went wrong"
    else .page "https://www.imdb.com/title" imdb

@[simp] theorem toggleFavoriteButton_tvShow (self : DetailScreen) (realm : Realm) :
    (self.toggleFavoriteButton realm).tvShow = self.tvShow := by
  unfold toggleFavoriteButton
  split <;> rfl

@[simp] theorem viewWillAppear_tvShow (self : DetailScreen) (realm : Realm) :
    (self.viewWillAppear realm).tvShow = self.tvShow :=
  self.toggleFavoriteButton_tvShow realm

@[simp] theorem viewDidLoad_tvShow (self : DetailScreen) (realm : Realm) :
    (self.viewDidLoad realm).tvShow = self.tvShow := by
  unfold viewDidLoad prepareScreen
  split
  · rfl
  · rw [toggleFavoriteButton_tvShow]

end DetailScreen

theorem toggle_ok (t : TVShow) (realm : Realm) :
    ∃ realm', t.setFavoriteStatus realm (!t.isFavorite realm) = .ok realm' := by
  cases h : t.isFavorite realm with
  | true => exact ⟨t.deleteShow realm, rfl⟩
  | false =>
    have habsent : realm.lookup (t.id.getD 0) = none := by
      rw [isFavorite_eq, TVShow.storedRecord] at h
      simpa using h
    obtain ⟨realm', hsaved, -⟩ := saveShow_of_absent habsent
    exact ⟨realm', hsaved⟩

theorem toggleFavorite_ok (screen : DetailScreen) (realm : Realm) :
    ∃ realm', screen.toggleFavorite realm = .ok (screen.toggleFavoriteButton realm', realm') := by
  unfold DetailScreen.toggleFavorite
  cases h : screen.tvShow with
  | none => exact ⟨realm, by simp only [DetailScreen.toggleFavoriteButton, h]⟩
  | some t =>
    obtain ⟨realm', hok⟩ := toggle_ok t realm
    exact ⟨realm', by simp only [hok]⟩

end TVShows
