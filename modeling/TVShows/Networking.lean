import TVShows.Models

/-! Errors, responses and the block that a finished fetch runs on the main
queue. The bytes of a body are an arbitrary type and JSON decoding an arbitrary
partial function from them. -/

namespace TVShows

inductive NetworkError
  | invalidURL
  | generic
deriving DecidableEq, Repr

def NetworkError.getMessage : NetworkError → String
  | invalidURL => "The URL is invalid"
  | generic => "An error occurred while fetching data. Do you want to try again?"

/-- An error value: the app's own, or one known by the domain and code of its `NSError`. -/
inductive SwiftError
  | networkError (error : NetworkError)
  | nsError (domain : String) (code : Int)
deriving DecidableEq, Repr

/-- `(error as NSError).code`; an enum case bridges to its position. -/
def SwiftError.code : SwiftError → Int
  | networkError .invalidURL => 0
  | networkError .generic => 1
  | nsError _ code => code

def NSURLErrorCancelled : Int := -999

/-- `HTTPURLResponse` with its status code, or another kind of `URLResponse`. -/
inductive URLResponse
  | http (statusCode : Int)
  | other
deriving DecidableEq, Repr

structure TaskOutcome (Data : Type) where
  data : Option Data
  response : Option URLResponse
  error : Option SwiftError

def TaskOutcome.cancelled (Data : Type) : TaskOutcome Data where
  data := none
  response := none
  error := some (.nsError "NSURLErrorDomain" NSURLErrorCancelled)

structure TVShowsModel where
  tvShows : Option (List TVShow)
  error : Option SwiftError
deriving DecidableEq, Repr

def fireErrorCompletion (error : Option SwiftError) : TVShowsModel :=
  ⟨none, error⟩

/-- The main-queue block of `fetchTVShows`: the model it hands to
`onCompletion`, or nothing when it returns before that. -/
def fetchCompletion {Data : Type} (decode : Data → Except SwiftError (List TVShow))
    (outcome : TaskOutcome Data) : Option TVShowsModel :=
  match outcome.error with
  | some error =>
    if error.code = NSURLErrorCancelled then none
    else some (fireErrorCompletion (some error))
  | none =>
    match outcome.data with
    | none => some (fireErrorCompletion outcome.error)
    | some data =>
      match outcome.response with
      | none => some (fireErrorCompletion outcome.error)
      | some _ =>
        match decode data with
        | .ok result => some ⟨some result, none⟩
        | .error error => some (fireErrorCompletion (some error))

theorem fetchCompletion_eq_none_iff {Data : Type} (decode : Data → Except SwiftError (List TVShow))
    (outcome : TaskOutcome Data) :
    fetchCompletion decode outcome = none ↔
      ∃ error, outcome.error = some error ∧ error.code = NSURLErrorCancelled := by
  unfold fetchCompletion
  cases herror : outcome.error with
  | some error =>
    by_cases hcode : error.code = NSURLErrorCancelled <;> simp [hcode]
  | none =>
    cases outcome.data with
    | none => simp
    | some data =>
      cases outcome.response with
      | none => simp
      | some response => cases hdecode : decode data <;> simp [hdecode]

end TVShows
