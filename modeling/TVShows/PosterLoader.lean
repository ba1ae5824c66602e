import Mathlib.Logic.Function.Basic
import Mathlib.Tactic.SplitIfs
import TVShows.Networking
import TVShows.TransitionRun

/-! The two poster loaders: table cells and the image view extension load into
one shared cache. A load queues a block that looks the URL up; a hit queues the
assignment of the image on the main queue, a miss starts a download, and a
finished download may store its response and queue the assignment. URLs, bytes
and images are arbitrary types, `URL(string:)` and `UIImage(data:)` arbitrary
partial functions, and the cache keeps what is stored in it. A block of the
global queue runs as one step, so the blocks of one cell do not race for its
task between storing a download there and resuming it. -/

namespace TVShows

open TransitionRun

variable {URL Data UIImage : Type}

/-- What an image view shows. Next to a poster stands the URL it was obtained
for, which the view itself does not keep. -/
inductive Thumbnail (URL UIImage : Type)
  | unset
  | blank
  | poster (url : URL) (image : UIImage)
deriving DecidableEq, Repr

/-- The view that a loader works for: a table cell or a plain image view. -/
inductive PosterView
  | cell (i : Nat)
  | imageView (i : Nat)
deriving DecidableEq, Repr

structure LoadBlock (URL : Type) where
  view : PosterView
  url : URL
deriving DecidableEq, Repr

structure Assignment (URL UIImage : Type) where
  view : PosterView
  url : URL
  image : UIImage
deriving DecidableEq, Repr

inductive DownloadState
  | running
  | cancelled
  | completed
deriving DecidableEq, Repr

structure Download (URL : Type) where
  view : PosterView
  url : URL
  state : DownloadState
deriving DecidableEq, Repr

structure CachedURLResponse (Data : Type) where
  response : URLResponse
  data : Data
deriving DecidableEq, Repr

structure TVShowTableViewCell (URL UIImage : Type) where
  task : Option Nat
  showThumbImageView : Thumbnail URL UIImage
  showTitleLabel : String

inductive CellContent
  | tvShow (tvShow : TVShow)
  | tvShowStore (tvShowStore : TVShowStore)
deriving DecidableEq, Repr

structure PosterViews (URL UIImage : Type) where
  cells : Nat → TVShowTableViewCell URL UIImage
  imageViews : Nat → Thumbnail URL UIImage

/-- Downloads are numbered in the order they start; a cell's task is such a number. -/
structure PosterLoader (URL Data UIImage : Type) where
  cache : URL → Option (CachedURLResponse Data)
  views : PosterViews URL UIImage
  loadBlocks : List (LoadBlock URL)
  downloads : List (Download URL)
  mainQueue : List (Assignment URL UIImage)

inductive PosterEvent (Data : Type)
  | prepareForReuse (cell : Nat)
  | load (cell : Nat) (content : CellContent)
  | loadImage (view : PosterView) (url : String)
  | loadBlockRuns (i : Nat)
  | downloadCompletes (i : Nat) (outcome : TaskOutcome Data)
  | mainBlockRuns

def URLResponse.statusCode? : URLResponse → Option Int
  | http statusCode => some statusCode
  | other => none

/-- `cancel()`; a task that has completed is not affected. -/
def Download.cancel (self : Download URL) : Download URL :=
  match self.state with
  | .running => { self with state := .cancelled }
  | _ => self

/-- What the condition of the completion handlers binds when it holds. -/
def acceptedPoster (decode : Data → Option UIImage) (outcome : TaskOutcome Data) :
    Option (CachedURLResponse Data × UIImage) :=
  match outcome.data, outcome.response with
  | some data, some response =>
    if response.statusCode?.getD 500 < 300 then
      (decode data).map fun image => (⟨response, data⟩, image)
    else none
  | _, _ => none

def CellContent.requested (parse : String → Option URL) (self : CellContent) : Option URL :=
  match self with
  | .tvShow t => (t.image.bind Image.medium).bind parse
  | .tvShowStore record => if record.imageMedium.isEmpty then none else parse record.imageMedium

namespace PosterViews

def initial : PosterViews URL UIImage :=
  ⟨fun _ => ⟨none, .unset, "Label"⟩, fun _ => .unset⟩

def shown (self : PosterViews URL UIImage) : PosterView → Thumbnail URL UIImage
  | .cell i => (self.cells i).showThumbImageView
  | .imageView i => self.imageViews i

def setTask (self : PosterViews URL UIImage) (cell : Nat) (task : Nat) : PosterViews URL UIImage :=
  { self with cells := Function.update self.cells cell { self.cells cell with task := some task } }

def setTitle (self : PosterViews URL UIImage) (cell : Nat) (title : String) :
    PosterViews URL UIImage :=
  { self with
    cells := Function.update self.cells cell { self.cells cell with showTitleLabel := title } }

def setShown (self : PosterViews URL UIImage) (view : PosterView)
    (thumbnail : Thumbnail URL UIImage) : PosterViews URL UIImage :=
  match view with
  | .cell i =>
    { self with
      cells := Function.update self.cells i
        { self.cells i with showThumbImageView := thumbnail } }
  | .imageView i => { self with imageViews := Function.update self.imageViews i thumbnail }

end PosterViews

namespace PosterLoader

def initial (cache : URL → Option (CachedURLResponse Data)) : PosterLoader URL Data UIImage :=
  ⟨cache, .initial, [], [], []⟩

def prepareForReuse (self : PosterLoader URL Data UIImage) (cell : Nat) :
    PosterLoader URL Data UIImage :=
  { self with views := (self.views.setTitle cell "").setShown (.cell cell) .blank }

def cancelTask (self : PosterLoader URL Data UIImage) (cell : Nat) :
    PosterLoader URL Data UIImage :=
  match (self.views.cells cell).task with
  | none => self
  | some task => { self with downloads := self.downloads.modify task Download.cancel }

/-- A loader called on a view, up to the block that it queues. -/
def queueLoad (parse : String → Option URL) (self : PosterLoader URL Data UIImage)
    (view : PosterView) (url : String) : PosterLoader URL Data UIImage :=
  match parse url with
  | none => self
  | some imageURL => { self with loadBlocks := self.loadBlocks ++ [⟨view, imageURL⟩] }

/-- `TVShowTableViewCell.loadImage(fromURL:)`. -/
def cellLoadImage (parse : String → Option URL) (self : PosterLoader URL Data UIImage)
    (cell : Nat) (url : String) : PosterLoader URL Data UIImage :=
  self.queueLoad parse (.cell cell) url

/-- `UIImageView.loadImage(fromURL:)`. -/
def imageViewLoadImage (parse : String → Option URL) (self : PosterLoader URL Data UIImage)
    (imageView : Nat) (url : String) : PosterLoader URL Data UIImage :=
  self.queueLoad parse (.imageView imageView) url

/-- `load(tvShow:)`; it leaves the thumbnail, and the title of a show without a name. -/
def loadTVShow (parse : String → Option URL) (self : PosterLoader URL Data UIImage) (cell : Nat)
    (tvShow : TVShow) : PosterLoader URL Data UIImage :=
  let cancelled := self.cancelTask cell
  let titled := match tvShow.name with
    | some name => { cancelled with views := cancelled.views.setTitle cell name }
    | none => cancelled
  match tvShow.image.bind Image.medium with
  | some mediumImage => titled.cellLoadImage parse cell mediumImage
  | none => titled

def loadTVShowStore (parse : String → Option URL) (self : PosterLoader URL Data UIImage)
    (cell : Nat) (tvShowStore : TVShowStore) : PosterLoader URL Data UIImage :=
  let cancelled := self.cancelTask cell
  let reset := { cancelled with
    views := (cancelled.views.setTitle cell "").setShown (.cell cell) .blank }
  let titled :=
    if tvShowStore.name.isEmpty then reset
    else { reset with views := reset.views.setTitle cell tvShowStore.name }
  if tvShowStore.imageMedium.isEmpty then titled
  else titled.cellLoadImage parse cell tvShowStore.imageMedium

def load (parse : String → Option URL) (self : PosterLoader URL Data UIImage) (cell : Nat) :
    CellContent → PosterLoader URL Data UIImage
  | .tvShow tvShow => self.loadTVShow parse cell tvShow
  | .tvShowStore tvShowStore => self.loadTVShowStore parse cell tvShowStore

def cachedImage (decode : Data → Option UIImage) (self : PosterLoader URL Data UIImage)
    (url : URL) : Option UIImage :=
  (self.cache url).bind fun entry => decode entry.data

/-- The download of a miss; only the loader of the cells keeps the task. -/
def startDownload (self : PosterLoader URL Data UIImage) (block : LoadBlock URL) :
    PosterLoader URL Data UIImage :=
  let started := { self with downloads := self.downloads ++ [⟨block.view, block.url, .running⟩] }
  match block.view with
  | .cell i => { started with views := started.views.setTask i self.downloads.length }
  | .imageView _ => started

/-- A block of the global queue runs; they run in any order. -/
def runLoadBlock (decode : Data → Option UIImage) (self : PosterLoader URL Data UIImage)
    (i : Nat) : Option (PosterLoader URL Data UIImage) :=
  match self.loadBlocks[i]? with
  | none => none
  | some block =>
    let taken := { self with loadBlocks := self.loadBlocks.eraseIdx i }
    match self.cachedImage decode block.url with
    | some image =>
      some { taken with mainQueue := self.mainQueue ++ [⟨block.view, block.url, image⟩] }
    | none => some (taken.startDownload block)

section Handlers
variable [DecidableEq URL]

def completionHandler (decode : Data → Option UIImage) (self : PosterLoader URL Data UIImage)
    (download : Download URL) (outcome : TaskOutcome Data) : PosterLoader URL Data UIImage :=
  match acceptedPoster decode outcome with
  | none => self
  | some (cachedData, image) =>
    { self with
      cache := Function.update self.cache download.url (some cachedData)
      mainQueue := self.mainQueue ++ [⟨download.view, download.url, image⟩] }

/-- A download ends, once, with any outcome; a cancelled one with an error and no data. -/
def completeDownload (decode : Data → Option UIImage) (self : PosterLoader URL Data UIImage)
    (i : Nat) (outcome : TaskOutcome Data) : Option (PosterLoader URL Data UIImage) :=
  match self.downloads[i]? with
  | none => none
  | some download =>
    let ended := { self with
      downloads := self.downloads.set i { download with state := .completed } }
    match download.state with
    | .running => some (ended.completionHandler decode download outcome)
    | .cancelled =>
      if outcome.data.isNone && outcome.error.isSome then
        some (ended.completionHandler decode download outcome)
      else none
    | .completed => none

/-- The first block of the main queue runs `transition(toImage:)`. -/
def runMainBlock (self : PosterLoader URL Data UIImage) : Option (PosterLoader URL Data UIImage) :=
  match self.mainQueue with
  | [] => none
  | block :: rest =>
    some { self with
      mainQueue := rest
      views := self.views.setShown block.view (.poster block.url block.image) }

def handle (parse : String → Option URL) (decode : Data → Option UIImage)
    (self : PosterLoader URL Data UIImage) :
    PosterEvent Data → Option (PosterLoader URL Data UIImage)
  | .prepareForReuse cell => some (self.prepareForReuse cell)
  | .load cell content => some (self.load parse cell content)
  | .loadImage (.cell i) url => some (self.cellLoadImage parse i url)
  | .loadImage (.imageView i) url => some (self.imageViewLoadImage parse i url)
  | .loadBlockRuns i => self.runLoadBlock decode i
  | .downloadCompletes i outcome => self.completeDownload decode i outcome
  | .mainBlockRuns => self.runMainBlock

end Handlers

end PosterLoader

def PosterStep [DecidableEq URL] (parse : String → Option URL) (decode : Data → Option UIImage)
    (s : PosterLoader URL Data UIImage) (event : PosterEvent Data)
    (s' : PosterLoader URL Data UIImage) : Prop :=
  s.handle parse decode event = some s'

theorem acceptedPoster_eq_some_iff {decode : Data → Option UIImage} {outcome : TaskOutcome Data}
    {entry : CachedURLResponse Data} {image : UIImage} :
    acceptedPoster decode outcome = some (entry, image) ↔
      outcome.data = some entry.data ∧ outcome.response = some entry.response ∧
        (∃ statusCode, entry.response = .http statusCode ∧ statusCode < 300) ∧
        decode entry.data = some image := by
  have hstatus : ∀ response : URLResponse, response.statusCode?.getD 500 < 300 ↔
      ∃ statusCode, response = .http statusCode ∧ statusCode < 300 := by
    intro response
    cases response with
    | http statusCode => simp [URLResponse.statusCode?]
    | other => simp [URLResponse.statusCode?]
  rw [← hstatus]
  unfold acceptedPoster
  cases outcome.data with
  | none => simp
  | some data =>
    cases outcome.response with
    | none => simp
    | some response =>
      simp only [Option.some.injEq]
      constructor
      · intro h
        by_cases hlow : response.statusCode?.getD 500 < 300
        rotate_left
        · simp [hlow] at h
        rw [if_pos hlow] at h
        obtain ⟨decoded, hdecode, hpair⟩ := Option.map_eq_some_iff.mp h
        obtain ⟨rfl, rfl⟩ := Prod.mk.inj hpair
        exact ⟨rfl, rfl, hlow, hdecode⟩
      · rintro ⟨rfl, rfl, hlow, hdecode⟩
        rw [if_pos hlow, hdecode]
        rfl

namespace PosterViews

@[simp] theorem shown_setTask (self : PosterViews URL UIImage) (cell task : Nat)
    (view : PosterView) : (self.setTask cell task).shown view = self.shown view := by
  cases view with
  | imageView i => rfl
  | cell i =>
    by_cases hi : i = cell
    · subst hi
      simp [setTask, shown]
    · simp [setTask, shown, hi]

@[simp] theorem shown_setTitle (self : PosterViews URL UIImage) (cell : Nat) (title : String)
    (view : PosterView) : (self.setTitle cell title).shown view = self.shown view := by
  cases view with
  | imageView i => rfl
  | cell i =>
    by_cases hi : i = cell
    · subst hi
      simp [setTitle, shown]
    · simp [setTitle, shown, hi]

@[simp] theorem shown_setShown (self : PosterViews URL UIImage) (view : PosterView)
    (thumbnail : Thumbnail URL UIImage) :
    (self.setShown view thumbnail).shown view = thumbnail := by
  cases view <;> simp [setShown, shown]

theorem shown_setShown_of_ne (self : PosterViews URL UIImage) {view view' : PosterView}
    (thumbnail : Thumbnail URL UIImage) (h : view' ≠ view) :
    (self.setShown view thumbnail).shown view' = self.shown view' := by
  cases view with
  | imageView i =>
    cases view' with
    | cell j => rfl
    | imageView j =>
      have hj : j ≠ i := fun e => h (e ▸ rfl)
      simp [setShown, shown, hj]
  | cell i =>
    cases view' with
    | imageView j => rfl
    | cell j =>
      have hj : j ≠ i := fun e => h (e ▸ rfl)
      simp [setShown, shown, hj]

@[simp] theorem showTitleLabel_setTask (self : PosterViews URL UIImage) (cell task i : Nat) :
    ((self.setTask cell task).cells i).showTitleLabel = (self.cells i).showTitleLabel := by
  by_cases hi : i = cell
  · subst hi
    simp [setTask]
  · simp [setTask, hi]

@[simp] theorem showTitleLabel_setTitle (self : PosterViews URL UIImage) (cell : Nat)
    (title : String) : ((self.setTitle cell title).cells cell).showTitleLabel = title := by
  simp [setTitle]

theorem showTitleLabel_setTitle_of_ne (self : PosterViews URL UIImage) {cell i : Nat}
    (title : String) (h : i ≠ cell) :
    ((self.setTitle cell title).cells i).showTitleLabel = (self.cells i).showTitleLabel := by
  simp [setTitle, h]

@[simp] theorem showTitleLabel_setShown (self : PosterViews URL UIImage) (view : PosterView)
    (thumbnail : Thumbnail URL UIImage) (i : Nat) :
    ((self.setShown view thumbnail).cells i).showTitleLabel = (self.cells i).showTitleLabel := by
  cases view with
  | imageView j => rfl
  | cell j =>
    by_cases hj : i = j
    · subst hj
      simp [setShown]
    · simp [setShown, hj]

end PosterViews

namespace PosterLoader
variable {s : PosterLoader URL Data UIImage}

theorem queueLoad_eq (parse : String → Option URL) (s : PosterLoader URL Data UIImage)
    (view : PosterView) (url : String) : s.queueLoad parse view url = { s with
      loadBlocks := s.loadBlocks ++ ((parse url).map fun url => ⟨view, url⟩).toList } := by
  unfold queueLoad
  cases parse url <;> simp

theorem cancelTask_views (s : PosterLoader URL Data UIImage) (cell : Nat) :
    (s.cancelTask cell).views = s.views := by
  unfold cancelTask
  split <;> rfl

@[simp] theorem cellLoadImage_views (parse : String → Option URL)
    (s : PosterLoader URL Data UIImage) (cell : Nat) (url : String) :
    (s.cellLoadImage parse cell url).views = s.views := by
  rw [cellLoadImage, queueLoad_eq]

theorem loadTVShow_views (parse : String → Option URL) (s : PosterLoader URL Data UIImage)
    (cell : Nat) (tvShow : TVShow) : (s.loadTVShow parse cell tvShow).views =
      match tvShow.name with
      | some name => s.views.setTitle cell name
      | none => s.views := by
  unfold loadTVShow
  cases tvShow.name <;> cases tvShow.image.bind Image.medium <;> simp [cancelTask_views]

theorem loadTVShowStore_views (parse : String → Option URL) (s : PosterLoader URL Data UIImage)
    (cell : Nat) (tvShowStore : TVShowStore) : (s.loadTVShowStore parse cell tvShowStore).views =
      let reset := (s.views.setTitle cell "").setShown (.cell cell) .blank
      if tvShowStore.name.isEmpty then reset else reset.setTitle cell tvShowStore.name := by
  simp only [loadTVShowStore]
  split_ifs <;> simp [cancelTask_views]

theorem load_eq (parse : String → Option URL) (s : PosterLoader URL Data UIImage) (cell : Nat)
    (content : CellContent) : ∃ views,
      (∀ view, view ≠ .cell cell → views.shown view = s.views.shown view) ∧
      s.load parse cell content = { s.cancelTask cell with
        views := views
        loadBlocks := s.loadBlocks ++
          ((content.requested parse).map fun url => ⟨.cell cell, url⟩).toList } := by
  have hblocks : (s.cancelTask cell).loadBlocks = s.loadBlocks := by
    unfold cancelTask
    split <;> rfl
  refine ⟨(s.load parse cell content).views, fun view hview => ?_, ?_⟩
  · cases content with
    | tvShow tvShow =>
      rw [load, loadTVShow_views]
      cases tvShow.name <;> simp
    | tvShowStore tvShowStore =>
      rw [load, loadTVShowStore_views]
      dsimp only
      split_ifs <;> simp [PosterViews.shown_setShown_of_ne _ _ hview]
  · rw [← hblocks]
    cases content with
    | tvShow tvShow =>
      simp only [load, loadTVShow, CellContent.requested]
      cases tvShow.name <;> cases tvShow.image.bind Image.medium <;>
        simp [cellLoadImage, queueLoad_eq]
    | tvShowStore tvShowStore =>
      simp only [load, loadTVShowStore, CellContent.requested]
      split_ifs <;> simp [cellLoadImage, queueLoad_eq]

theorem load_loadBlocks (parse : String → Option URL) (s : PosterLoader URL Data UIImage)
    (cell : Nat) (content : CellContent) : (s.load parse cell content).loadBlocks =
      s.loadBlocks ++ ((content.requested parse).map fun url => ⟨.cell cell, url⟩).toList := by
  obtain ⟨views, -, hload⟩ := load_eq parse s cell content
  rw [hload]

theorem cancelTask_cache {cell : Nat} : (s.cancelTask cell).cache = s.cache := by
  unfold cancelTask
  split <;> rfl

theorem cancelTask_mainQueue (s : PosterLoader URL Data UIImage) (cell : Nat) :
    (s.cancelTask cell).mainQueue = s.mainQueue := by
  unfold cancelTask
  split <;> rfl

theorem cancelTask_download {cell i : Nat} {download : Download URL}
    (h : s.downloads[i]? = some download) :
    ∃ state, (s.cancelTask cell).downloads[i]? = some ⟨download.view, download.url, state⟩ := by
  unfold cancelTask
  split
  · exact ⟨download.state, h⟩
  · rename_i task htask
    refine ⟨if task = i then download.cancel.state else download.state, ?_⟩
    rw [List.getElem?_modify, h]
    by_cases hi : task = i
    · simp [hi, Download.cancel]
      split <;> simp
    · simp [hi]

theorem mem_running_cancelTask {cell : Nat} {view : PosterView} {url : URL} :
    ⟨view, url, .running⟩ ∈ (s.cancelTask cell).downloads ↔
      ∃ i, s.downloads[i]? = some ⟨view, url, .running⟩ ∧ (s.views.cells cell).task ≠ some i := by
  have hcancel : ∀ d : Download URL, d.cancel.state ≠ .running := by
    intro d
    unfold Download.cancel
    cases hstate : d.state <;> simp [hstate]
  unfold cancelTask
  cases htask : (s.views.cells cell).task with
  | none => simp [List.mem_iff_getElem?]
  | some task =>
    simp only [List.mem_iff_getElem?, List.getElem?_modify, ne_eq, Option.some.injEq]
    refine exists_congr fun i => ?_
    by_cases hi : task = i
    · simp only [hi, if_true, not_true, and_false, iff_false]
      intro h
      obtain ⟨d, -, hd⟩ := Option.map_eq_some_iff.mp h
      exact hcancel d (by rw [hd])
    · simp [hi]

end PosterLoader

end TVShows
