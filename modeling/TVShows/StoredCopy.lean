import TVShows.DetailScreen

/-! A show and its stored copy. Saving forgets the genres and which fields were
missing, and nothing else: the record is the show with every missing field at
its default, and a show built from a record is saved as that record again. -/

namespace TVShows

open LiveTable

/-- The show with each stored field that is missing replaced by its default,
the nested objects present and the genres dropped. -/
def TVShow.completed (t : TVShow) : TVShow where
  id := t.id <|> some 0
  externals := some { imdb := (t.externals.bind Externals.imdb) <|> some "" }
  genres := none
  image := some
    { medium := (t.image.bind Image.medium) <|> some ""
      original := (t.image.bind Image.original) <|> some "" }
  language := t.language <|> some ""
  name := t.name <|> some ""
  premiered := t.premiered <|> some ""
  rating := some { average := (t.rating.bind Rating.average) <|> some Double.zero }
  runtime := t.runtime <|> some 0
  status := t.status <|> some ""
  summary := t.summary <|> some ""
  updated := t.updated <|> some 0
  url := t.url <|> some ""

def TVShow.storedCopy (t : TVShow) : TVShow :=
  t.storeObject.buildTVShowModel

theorem some_getD {α : Type} (x : Option α) (default : α) :
    some (x.getD default) = (x <|> some default) := by
  cases x <;> rfl

theorem storedCopy_eq_completed (t : TVShow) : t.storedCopy = t.completed := by
  simp only [TVShow.storedCopy, TVShow.storeObject, TVShowStore.buildTVShowModel, TVShow.completed,
    some_getD]

@[simp] theorem storeObject_buildTVShowModel (r : TVShowStore) :
    r.buildTVShowModel.storeObject = r := rfl

theorem storedCopy_storedCopy (t : TVShow) : t.storedCopy.storedCopy = t.storedCopy := by
  rw [TVShow.storedCopy, TVShow.storedCopy, storeObject_buildTVShowModel]

theorem screenArguments_storedCopy (t : TVShow) (realm : Realm) :
    t.storedCopy.screenArguments realm = t.screenArguments realm := by
  have hfavorite : t.storedCopy.isFavorite realm = t.isFavorite realm := rfl
  simp only [TVShow.screenArguments, hfavorite]
  rfl

theorem openIMDBAction_eq {screen : DetailScreen} {t : TVShow} (h : screen.tvShow = some t) :
    screen.openIMDBAction =
      if ((t.externals.bind Externals.imdb).getD "").isEmpty then
        .errorMessage "Oops, something went wrong"
      else .page "https://www.imdb.com/title" ((t.externals.bind Externals.imdb).getD "") := by
  have hshow : (screen.tvShow.bind TVShow.externals).bind Externals.imdb =
      t.externals.bind Externals.imdb := by rw [h, Option.bind_some]
  rw [DetailScreen.openIMDBAction, hshow]
  cases t.externals.bind Externals.imdb with
  | none => rfl
  | some imdb => rfl

theorem openIMDBAction_storedCopy (t : TVShow) :
    (DetailScreen.segue (some t.storedCopy)).openIMDBAction =
      (DetailScreen.segue (some t)).openIMDBAction := by
  have himdb : (t.storedCopy.externals.bind Externals.imdb).getD "" =
      (t.externals.bind Externals.imdb).getD "" := rfl
  have hcopy : (DetailScreen.segue (some t.storedCopy)).tvShow = some t.storedCopy := rfl
  have hshow : (DetailScreen.segue (some t)).tvShow = some t := rfl
  rw [openIMDBAction_eq hcopy, openIMDBAction_eq hshow, himdb]

theorem read_of_lookup {realm : Realm} {key : Int} {record : TVShowStore}
    (h : realm.lookup key = some record) :
    ∃ object, realm.objectForPrimaryKey key = some object ∧ realm.read object = .ok record := by
  obtain ⟨row, hrow, hvalue, hkey⟩ := Table.lookup_eq_some_iff.mp h
  refine ⟨row.handle, objectForPrimaryKey_eq_some_iff.mpr ⟨row, hrow, rfl, hvalue ▸ hkey⟩, ?_⟩
  exact read_eq_ok_iff.mpr ⟨row, hrow, rfl, hvalue⟩

theorem saveShow_read {t : TVShow} {realm : Realm} (h : realm.lookup (t.id.getD 0) = none) :
    ∃ realm' object, t.saveShow realm = .ok realm' ∧
      realm'.objectForPrimaryKey (t.id.getD 0) = some object ∧
      realm'.read object = .ok t.storeObject := by
  obtain ⟨realm', hsaved, hlookup⟩ := saveShow_of_absent h
  have hstored : realm'.lookup (t.id.getD 0) = some t.storeObject := by
    rw [hlookup, Function.update_self]
  obtain ⟨object, hfind, hread⟩ := read_of_lookup hstored
  exact ⟨realm', object, hsaved, hfind, hread⟩

/-- Unfavoriting a stored record and favoriting the show built from it writes
the record again. -/
theorem resave_read {realm : Realm} {object : Accessor} {record : TVShowStore}
    (h : realm.read object = .ok record) :
    ∃ realm' object', record.buildTVShowModel.saveShow (TVShowStore.deleteFavorite realm object) =
        .ok realm' ∧
      realm'.objectForPrimaryKey record.id = some object' ∧ realm'.read object' = .ok record := by
  have habsent : (TVShowStore.deleteFavorite realm object).lookup record.id = none := by
    rw [deleteFavorite_lookup h, Function.update_self]
  exact saveShow_read (t := record.buildTVShowModel) habsent

theorem saving_is_lossless :
    (∀ (t : TVShow) (realm : Realm), realm.lookup (t.id.getD 0) = none →
      ∃ realm' object record, t.saveShow realm = .ok realm' ∧
        realm'.objectForPrimaryKey (t.id.getD 0) = some object ∧
        realm'.read object = .ok record ∧ record.buildTVShowModel = t.completed) ∧
    (∀ (realm : Realm) (object : Accessor) (record : TVShowStore),
      realm.read object = .ok record →
      record.buildTVShowModel.setFavoriteStatus realm false =
        .ok (TVShowStore.deleteFavorite realm object) ∧
      ∃ realm' object', record.buildTVShowModel.saveShow
          (TVShowStore.deleteFavorite realm object) = .ok realm' ∧
        realm'.objectForPrimaryKey record.id = some object' ∧
        realm'.read object' = .ok record) ∧
    (∀ t : TVShow, t.storedCopy.storedCopy = t.storedCopy) ∧
    ∀ (t : TVShow) (realm : Realm),
      t.storedCopy.screenArguments realm = t.screenArguments realm ∧
      t.screenArguments realm =
        { name := t.name.getD ""
          poster := (t.image.bind Image.original).getD ""
          summary := t.summary.getD ""
          imdb := (t.externals.bind Externals.imdb).getD ""
          rating := (t.rating.bind Rating.average).getD Double.zero
          isFavorite := t.isFavorite realm
          id := t.id.getD 0 } ∧
      (DetailScreen.segue (some t.storedCopy)).openIMDBAction =
        (DetailScreen.segue (some t)).openIMDBAction ∧
      (DetailScreen.segue (some t)).openIMDBAction =
        if ((t.externals.bind Externals.imdb).getD "").isEmpty then
          .errorMessage "Oops, something went wrong"
        else .page "https://www.imdb.com/title" ((t.externals.bind Externals.imdb).getD "") := by
  refine ⟨fun t realm habsent => ?_, fun realm object record hread =>
      ⟨unfavorite_buildTVShowModel hread, resave_read hread⟩, storedCopy_storedCopy, fun t realm =>
      ⟨screenArguments_storedCopy t realm, rfl, openIMDBAction_storedCopy t, openIMDBAction_eq rfl⟩⟩
  obtain ⟨realm', object, hsaved, hfind, hread⟩ := saveShow_read habsent
  exact ⟨realm', object, t.storeObject, hsaved, hfind, hread, storedCopy_eq_completed t⟩

end TVShows
