import TVShows.CellReuse
import TVShows.FavoriteStore

/-! What a row shows right after it is loaded. `load(tvShowStore:)` resets the
cell before it fills it; `load(tvShow:)` sets what the show has and relies on
`prepareForReuse` for the rest. A cell that comes from its xib has not been
prepared, so its first show leaves the label of the xib when it has no name. -/

namespace TVShows

open TransitionRun

variable {URL Data UIImage : Type}

inductive CellPhase
  | fresh
  | prepared
  | loaded
deriving DecidableEq, Repr

/-- The table loads a cell once when it is fresh, and then only after preparing
it; it prepares and loads in one call on the main queue, whose blocks wait. -/
def CellPhase.next (cell : Nat) (phase : CellPhase) : PosterEvent Data → Option CellPhase
  | .prepareForReuse i => some (if i = cell then .prepared else phase)
  | .load i _ =>
    if i = cell then
      if phase = .loaded then none else some .loaded
    else some phase
  | .loadImage view _ => if view = .cell cell then none else some phase
  | .mainBlockRuns => if phase = .prepared then none else some phase
  | _ => some phase

def Thumbnail.IsBlank : Thumbnail URL UIImage → Prop
  | unset => True
  | blank => True
  | poster _ _ => False

/-- Right after a load of a cell: the title is the show's or empty, no image is
seen, and the one poster load that was started is that of the show's image. -/
structure RowShows (parse : String → Option URL) (cell : Nat) (t : TVShow)
    (before after : PosterLoader URL Data UIImage) : Prop where
  title : (after.views.cells cell).showTitleLabel = t.name.getD ""
  thumbnail : (after.views.shown (.cell cell)).IsBlank
  started : after.loadBlocks = before.loadBlocks ++
    (((t.image.bind Image.medium).bind parse).map fun url => ⟨.cell cell, url⟩).toList

structure RowDependsOnShow (parse : String → Option URL) (s : PosterLoader URL Data UIImage)
    (cell : Nat) (t : TVShow) : Prop where
  tvShow : RowShows parse cell t s (s.loadTVShow parse cell t)
  tvShowStore : ∀ realm realm' record, t.saveShow realm = .ok realm' →
    t.storedRecord realm' = some record →
    ∀ (other : PosterLoader URL Data UIImage) (i : Nat),
      RowShows parse i t other (other.loadTVShowStore parse i record)

section Loads
variable (parse : String → Option URL) (s : PosterLoader URL Data UIImage) (cell : Nat)

theorem loadTVShow_title (t : TVShow) :
    ((s.loadTVShow parse cell t).views.cells cell).showTitleLabel =
      t.name.getD (s.views.cells cell).showTitleLabel := by
  rw [PosterLoader.loadTVShow_views]
  cases t.name <;> simp

theorem loadTVShow_shown (t : TVShow) :
    (s.loadTVShow parse cell t).views.shown (.cell cell) = s.views.shown (.cell cell) := by
  rw [PosterLoader.loadTVShow_views]
  cases t.name <;> simp

theorem loadTVShowStore_title (record : TVShowStore) :
    ((s.loadTVShowStore parse cell record).views.cells cell).showTitleLabel = record.name := by
  rw [PosterLoader.loadTVShowStore_views]
  by_cases hname : record.name = ""
  · simp [hname]
  · simp [hname]

theorem loadTVShowStore_shown (record : TVShowStore) :
    (s.loadTVShowStore parse cell record).views.shown (.cell cell) = .blank := by
  rw [PosterLoader.loadTVShowStore_views]
  dsimp only
  split_ifs <;> simp

theorem requested_storeObject (hparse : parse "" = none) (t : TVShow) :
    CellContent.requested parse (.tvShowStore t.storeObject) =
      (t.image.bind Image.medium).bind parse := by
  have hmedium : t.storeObject.imageMedium = (t.image.bind Image.medium).getD "" := rfl
  simp only [CellContent.requested, hmedium]
  cases t.image.bind Image.medium with
  | none => rfl
  | some medium =>
    by_cases hempty : medium = ""
    · simp [hempty, hparse]
    · simp [hempty]

theorem rowShows_tvShowStore (hparse : parse "" = none) (t : TVShow) :
    RowShows parse cell t s (s.loadTVShowStore parse cell t.storeObject) where
  title := loadTVShowStore_title parse s cell t.storeObject
  thumbnail := by
    rw [loadTVShowStore_shown]
    trivial
  started := by
    rw [← requested_storeObject parse hparse t]
    exact PosterLoader.load_loadBlocks parse s cell (.tvShowStore t.storeObject)

theorem rowShows_storedRecord (hparse : parse "" = none) {t : TVShow} {realm realm' : Realm}
    {record : TVShowStore} (hsave : t.saveShow realm = .ok realm')
    (hrecord : t.storedRecord realm' = some record) :
    RowShows parse cell t s (s.loadTVShowStore parse cell record) := by
  rw [TVShow.storedRecord, (saveShow_eq_ok hsave).2, Function.update_self] at hrecord
  obtain rfl := Option.some.inj hrecord
  exact rowShows_tvShowStore parse s cell hparse t

theorem rowShows_tvShow_iff (t : TVShow) : RowShows parse cell t s (s.loadTVShow parse cell t) ↔
    t.name.getD (s.views.cells cell).showTitleLabel = t.name.getD "" ∧
      (s.views.shown (.cell cell)).IsBlank := by
  constructor
  · intro hrow
    have htitle := hrow.title
    have hblank := hrow.thumbnail
    rw [loadTVShow_title] at htitle
    rw [loadTVShow_shown] at hblank
    exact ⟨htitle, hblank⟩
  · rintro ⟨htitle, hblank⟩
    refine ⟨?_, ?_, PosterLoader.load_loadBlocks parse s cell (.tvShow t)⟩
    · rw [loadTVShow_title, htitle]
    · rw [loadTVShow_shown]
      exact hblank

end Loads

section Steps
variable {parse : String → Option URL} {decode : Data → Option UIImage}
  {s s' : PosterLoader URL Data UIImage} {event : PosterEvent Data} {cell : Nat}

theorem load_title_of_ne {i : Nat} (content : CellContent) (h : cell ≠ i) :
    ((s.load parse i content).views.cells cell).showTitleLabel =
      (s.views.cells cell).showTitleLabel := by
  cases content with
  | tvShow tvShow =>
    rw [PosterLoader.load, PosterLoader.loadTVShow_views]
    cases tvShow.name <;> simp [PosterViews.showTitleLabel_setTitle_of_ne _ _ h]
  | tvShowStore record =>
    rw [PosterLoader.load, PosterLoader.loadTVShowStore_views]
    dsimp only
    split_ifs <;> simp [PosterViews.showTitleLabel_setTitle_of_ne _ _ h]

theorem runLoadBlock_title {i : Nat} (h : s.runLoadBlock decode i = some s') :
    (s'.views.cells cell).showTitleLabel = (s.views.cells cell).showTitleLabel := by
  unfold PosterLoader.runLoadBlock at h
  split at h
  · cases h
  · rename_i block hblock
    dsimp only at h
    split at h
    · obtain rfl := Option.some.inj h
      rfl
    · obtain rfl := Option.some.inj h
      unfold PosterLoader.startDownload
      cases block.view <;> simp

variable [DecidableEq URL]

theorem completeDownload_views {i : Nat} {outcome : TaskOutcome Data}
    (h : s.completeDownload decode i outcome = some s') : s'.views = s.views := by
  have hhandler : ∀ (t : PosterLoader URL Data UIImage) (d : Download URL),
      (t.completionHandler decode d outcome).views = t.views := by
    intro t d
    unfold PosterLoader.completionHandler
    split <;> rfl
  unfold PosterLoader.completeDownload at h
  split at h
  · cases h
  · dsimp only at h
    split at h
    · rw [← Option.some.inj h, hhandler]
    · split at h
      · rw [← Option.some.inj h, hhandler]
      · cases h
    · cases h

theorem title_step (h : PosterStep parse decode s event s') (hload : ¬ event.Loads cell)
    (hprepare : event ≠ .prepareForReuse cell) :
    (s'.views.cells cell).showTitleLabel = (s.views.cells cell).showTitleLabel := by
  unfold PosterStep at h
  cases event with
  | prepareForReuse i =>
    obtain rfl := Option.some.inj h
    have hother : cell ≠ i := fun heq => hprepare (heq ▸ rfl)
    simp only [PosterLoader.prepareForReuse, PosterViews.showTitleLabel_setShown]
    exact PosterViews.showTitleLabel_setTitle_of_ne _ _ hother
  | load i content =>
    obtain rfl := Option.some.inj h
    exact load_title_of_ne content fun heq => hload heq.symm
  | loadImage view url =>
    cases view with
    | cell i =>
      obtain rfl := Option.some.inj h
      rw [PosterLoader.cellLoadImage, PosterLoader.queueLoad_eq]
    | imageView i =>
      obtain rfl := Option.some.inj h
      rw [PosterLoader.imageViewLoadImage, PosterLoader.queueLoad_eq]
  | loadBlockRuns i => exact runLoadBlock_title h
  | downloadCompletes i outcome => rw [completeDownload_views h]
  | mainBlockRuns =>
    simp only [PosterLoader.handle, PosterLoader.runMainBlock] at h
    split at h
    · cases h
    · obtain rfl := Option.some.inj h
      simp

theorem blank_step (h : PosterStep parse decode s event s') (hload : ¬ event.Loads cell)
    (hidle : event = .mainBlockRuns → ∀ url, ¬ s.Pending (.cell cell) url)
    (hblank : (s.views.shown (.cell cell)).IsBlank) : (s'.views.shown (.cell cell)).IsBlank := by
  obtain hsame | hcleared | ⟨hmain, block, rest, hqueue, hview, -⟩ := shown_step h hload
  · rw [hsame]
    exact hblank
  · rw [hcleared]
    trivial
  · refine absurd (.inr (.inr ⟨block.image, ?_⟩)) (hidle hmain block.url)
    rw [hqueue, ← hview]
    exact List.mem_cons_self

end Steps

namespace CellPhase

def Holds (cell : Nat) : CellPhase → PosterLoader URL Data UIImage → Prop
  | fresh, s => (s.views.cells cell).showTitleLabel = "Label" ∧
      (s.views.shown (.cell cell)).IsBlank ∧ ∀ url, ¬ s.Pending (.cell cell) url
  | prepared, s => (s.views.cells cell).showTitleLabel = "" ∧
      (s.views.shown (.cell cell)).IsBlank
  | loaded, _ => True

theorem holds_initial (cell : Nat) (cache : URL → Option (CachedURLResponse Data)) :
    fresh.Holds cell (.initial cache : PosterLoader URL Data UIImage) := by
  refine ⟨rfl, trivial, fun url => ?_⟩
  simp [PosterLoader.Pending, PosterLoader.initial]

theorem Holds.rowShows_iff {s : PosterLoader URL Data UIImage} {cell : Nat} {phase : CellPhase}
    (hs : phase.Holds cell s) (parse : String → Option URL) (hready : phase ≠ loaded) (t : TVShow) :
    RowShows parse cell t s (s.loadTVShow parse cell t) ↔ phase = prepared ∨ t.name ≠ none := by
  rw [rowShows_tvShow_iff]
  cases phase with
  | loaded => exact absurd rfl hready
  | prepared => exact iff_of_true ⟨by rw [hs.1], hs.2⟩ (.inl rfl)
  | fresh =>
    obtain ⟨htitle, hblank, -⟩ := hs
    rw [htitle]
    cases hname : t.name with
    | some name => exact iff_of_true ⟨rfl, hblank⟩ (.inr (by simp))
    | none =>
      -- the label of the xib is left where the title should be empty
      refine iff_of_false (fun hrow => ?_) (by simp)
      exact absurd hrow.1 (by decide)

theorem next_eq_some {cell : Nat} {phase phase' : CellPhase} {event : PosterEvent Data}
    (h : phase.next cell event = some phase') :
    event = .prepareForReuse cell ∧ phase' = prepared ∨ event.Loads cell ∧ phase' = loaded ∨
      ¬ event.Loads cell ∧ event ≠ .prepareForReuse cell ∧ phase' = phase ∧
        (event = .mainBlockRuns → phase ≠ prepared) := by
  cases event with
  | prepareForReuse i =>
    simp only [next, Option.some.injEq] at h
    by_cases hi : i = cell
    · rw [if_pos hi] at h
      exact .inl ⟨congrArg _ hi, h.symm⟩
    · rw [if_neg hi] at h
      refine .inr (.inr ⟨fun hload => hload, ?_, h.symm, fun hmain => by cases hmain⟩)
      exact fun heq => hi (PosterEvent.prepareForReuse.inj heq)
  | load i content =>
    simp only [next] at h
    by_cases hi : i = cell
    · rw [if_pos hi] at h
      split at h
      · cases h
      · exact .inr (.inl ⟨hi, (Option.some.inj h).symm⟩)
    · rw [if_neg hi] at h
      refine .inr (.inr ⟨hi, ?_, (Option.some.inj h).symm, fun hmain => by cases hmain⟩)
      exact fun heq => by cases heq
  | loadImage view url =>
    simp only [next] at h
    split at h
    · cases h
    · rename_i hview
      refine .inr (.inr ⟨?_, ?_, (Option.some.inj h).symm, fun hmain => by cases hmain⟩)
      · cases view with
        | cell i => exact fun hload => hview (congrArg _ hload)
        | imageView i => exact fun hload => hload
      · exact fun heq => by cases heq
  | mainBlockRuns =>
    simp only [next] at h
    split at h
    · cases h
    · rename_i hphase
      refine .inr (.inr ⟨fun hload => hload, ?_, (Option.some.inj h).symm, fun _ => hphase⟩)
      exact fun heq => by cases heq
  | _ =>
    refine .inr (.inr ⟨fun hload => hload, ?_, (Option.some.inj h).symm, ?_⟩)
    · exact fun heq => by cases heq
    · exact fun hmain => by cases hmain

section Runs
variable [DecidableEq URL] {parse : String → Option URL} {decode : Data → Option UIImage}
  {s s' : PosterLoader URL Data UIImage} {event : PosterEvent Data} {cell : Nat}
  {phase phase' : CellPhase}

theorem holds_step (hs : phase.Holds cell s) (hnext : phase.next cell event = some phase')
    (h : PosterStep parse decode s event s') : phase'.Holds cell s' := by
  obtain ⟨rfl, rfl⟩ | ⟨-, rfl⟩ | ⟨hload, hprepare, rfl, hmain⟩ := next_eq_some hnext
  · obtain rfl := Option.some.inj h
    refine ⟨by simp [PosterLoader.prepareForReuse], ?_⟩
    simp only [PosterLoader.prepareForReuse, PosterViews.shown_setShown]
    trivial
  · trivial
  · cases phase' with
    | fresh =>
      obtain ⟨htitle, hblank, hidle⟩ := hs
      refine ⟨(title_step h hload hprepare).trans htitle, ?_, fun url hpending => ?_⟩
      · exact blank_step h hload (fun _ => hidle) hblank
      · exact hidle url (pending_step h hload hpending)
    | prepared =>
      obtain ⟨htitle, hblank⟩ := hs
      refine ⟨(title_step h hload hprepare).trans htitle, ?_⟩
      exact blank_step h hload (fun heq => absurd rfl (hmain heq)) hblank
    | loaded => trivial

theorem holds_run {events : List (PosterEvent Data)} {cache : URL → Option (CachedURLResponse Data)}
    (h : Run (PosterStep parse decode) (.initial cache) events s)
    (hphase : exec (next cell) fresh events = some phase) : phase.Holds cell s := by
  refine h.monitored (I := Holds cell) ?_ hphase (holds_initial cell cache)
  exact fun _ _ _ _ _ hs hnext hstep => holds_step hs hnext hstep

end Runs

end CellPhase

/-- Whatever happened to a cell before it is loaded, the load shows its show and
nothing else, as the load of the stored record does, exactly when the cell was
prepared for reuse or the show has a name. -/
theorem rows_depend_on_show_iff [DecidableEq URL] (parse : String → Option URL)
    (hparse : parse "" = none) (decode : Data → Option UIImage)
    (cache : URL → Option (CachedURLResponse Data)) (events : List (PosterEvent Data))
    (s : PosterLoader URL Data UIImage) (cell : Nat) (phase : CellPhase)
    (hrun : Run (PosterStep parse decode) (.initial cache) events s)
    (hphase : exec (CellPhase.next cell) .fresh events = some phase) (hready : phase ≠ .loaded)
    (t : TVShow) : RowDependsOnShow parse s cell t ↔ phase = .prepared ∨ t.name ≠ none := by
  rw [← (CellPhase.holds_run hrun hphase).rowShows_iff parse hready t]
  refine ⟨RowDependsOnShow.tvShow, fun hrow => ⟨hrow, ?_⟩⟩
  intro realm realm' record hsave hrecord other i
  exact rowShows_storedRecord parse other i hparse hsave hrecord

def parseNonempty (string : String) : Option String :=
  if string = "" then none else some string

theorem rows_depend_on_show_iff_recycled :
    ∃ s : PosterLoader String String String,
      exec (PosterLoader.handle parseNonempty some) (.initial fun url => some ⟨.http 200, url⟩)
        [.load 0 (.tvShow (showWithPoster 1 "a")), .loadBlockRuns 0, .mainBlockRuns,
          .prepareForReuse 0] = some s ∧
      RowDependsOnShow parseNonempty s 0 (.bare (some 7)) := by
  obtain ⟨s, hexec⟩ : ∃ s : PosterLoader String String String,
      exec (PosterLoader.handle parseNonempty some) (.initial fun url => some ⟨.http 200, url⟩)
        [.load 0 (.tvShow (showWithPoster 1 "a")), .loadBlockRuns 0, .mainBlockRuns,
          .prepareForReuse 0] = some s := ⟨_, rfl⟩
  exact ⟨s, hexec, (rows_depend_on_show_iff parseNonempty rfl some _ _ s 0 .prepared
    (run_of_exec hexec) rfl (by decide) (.bare (some 7))).mpr (.inl rfl)⟩

/-- The first show of a cell has no name: the row says "Label", where the row of
the stored record is empty. -/
theorem nameless_first_row_keeps_label :
    exec (CellPhase.next 0) .fresh ([] : List (PosterEvent String)) = some .fresh ∧
      (((PosterLoader.initial fun _ => none : PosterLoader String String String).loadTVShow
        parseNonempty 0 (.bare (some 7))).views.cells 0).showTitleLabel = "Label" ∧
      (((PosterLoader.initial fun _ => none : PosterLoader String String String).loadTVShowStore
        parseNonempty 0 (TVShow.bare (some 7)).storeObject).views.cells 0).showTitleLabel = "" ∧
      ¬ RowDependsOnShow parseNonempty
        (PosterLoader.initial fun _ => none : PosterLoader String String String) 0
        (.bare (some 7)) := by
  refine ⟨rfl, rfl, rfl, fun hrow => ?_⟩
  have htitle : "Label" = "" := hrow.tvShow.title
  exact absurd htitle (by decide)

end TVShows
