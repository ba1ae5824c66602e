/-! The decoded show, its nested objects and the stored record, field by field.
`Int` stands for Swift's 64-bit `Int`: no show field takes part in arithmetic.
A `Double` is its bit pattern, so equality of ratings is equality of the words
that are stored. Coding keys carry the property names and are left out. -/

namespace TVShows

structure Double where
  bits : BitVec 64
deriving DecidableEq, Repr

def Double.zero : Double := ⟨0⟩

structure Externals where
  imdb : Option String
deriving DecidableEq, Repr

structure Image where
  medium : Option String
  original : Option String
deriving DecidableEq, Repr

structure Rating where
  average : Option Double
deriving DecidableEq, Repr

structure TVShow where
  id : Option Int
  externals : Option Externals
  genres : Option (List String)
  image : Option Image
  language : Option String
  name : Option String
  premiered : Option String
  rating : Option Rating
  runtime : Option Int
  status : Option String
  summary : Option String
  updated : Option Int
  url : Option String
deriving DecidableEq, Repr

def TVShow.bare (id : Option Int) : TVShow :=
  ⟨id, none, none, none, none, none, none, none, none, none, none, none, none⟩

/-- The property values of a stored object; `id` is its primary key. -/
structure TVShowStore where
  id : Int
  imbd : String
  imageMedium : String
  imageOriginal : String
  language : String
  name : String
  premiered : String
  ratingAverage : Double
  runtime : Int
  status : String
  summary : String
  updated : Int
  url : String
deriving DecidableEq, Repr

def TVShowStore.buildTVShowModel (self : TVShowStore) : TVShow where
  id := some self.id
  externals := some { imdb := some self.imbd }
  genres := none
  image := some { medium := some self.imageMedium, original := some self.imageOriginal }
  language := some self.language
  name := some self.name
  premiered := some self.premiered
  rating := some { average := some self.ratingAverage }
  runtime := some self.runtime
  status := some self.status
  summary := some self.summary
  updated := some self.updated
  url := some self.url

/-- The record that `saveShow` hands to the store, missing fields defaulted. -/
def TVShow.storeObject (self : TVShow) : TVShowStore where
  id := self.id.getD 0
  imbd := (self.externals.bind Externals.imdb).getD ""
  imageMedium := (self.image.bind Image.medium).getD ""
  imageOriginal := (self.image.bind Image.original).getD ""
  language := self.language.getD ""
  name := self.name.getD ""
  premiered := self.premiered.getD ""
  ratingAverage := (self.rating.bind Rating.average).getD Double.zero
  runtime := self.runtime.getD 0
  status := self.status.getD ""
  summary := self.summary.getD ""
  updated := self.updated.getD 0
  url := self.url.getD ""

end TVShows
