import TVShows.LoaderChange

/-! Reuse of a table cell. A load cancels only the download that the cell keeps
as its task; blocks that wait on the global queue or on the main queue, and
downloads whose task was overwritten, still bring their poster to the cell. -/

namespace TVShows

open TransitionRun

variable {URL Data UIImage : Type}

def PosterEvent.Loads (cell : Nat) : PosterEvent Data → Prop
  | .load i _ => i = cell
  | .loadImage (.cell i) _ => i = cell
  | _ => False

namespace PosterLoader

def Pending (s : PosterLoader URL Data UIImage) (view : PosterView) (url : URL) : Prop :=
  ⟨view, url⟩ ∈ s.loadBlocks ∨ ⟨view, url, .running⟩ ∈ s.downloads ∨
    ∃ image, ⟨view, url, image⟩ ∈ s.mainQueue

/-- Work for a cell that cancelling its task does not reach. -/
def PendingBesidesTask (s : PosterLoader URL Data UIImage) (cell : Nat) (url : URL) : Prop :=
  ⟨.cell cell, url⟩ ∈ s.loadBlocks ∨
    (∃ i, s.downloads[i]? = some ⟨.cell cell, url, .running⟩ ∧
      (s.views.cells cell).task ≠ some i) ∨
    ∃ image, ⟨.cell cell, url, image⟩ ∈ s.mainQueue

/-- Whatever the cell still waits for, its task apart, is the poster of the new load. -/
def CleanLoad (parse : String → Option URL) (s : PosterLoader URL Data UIImage) (cell : Nat)
    (content : CellContent) : Prop :=
  ∀ url, s.PendingBesidesTask cell url → content.requested parse = some url

end PosterLoader

theorem pending_load {parse : String → Option URL} {s : PosterLoader URL Data UIImage} {cell : Nat}
    {url : URL} (content : CellContent) :
    (s.load parse cell content).Pending (.cell cell) url ↔
      content.requested parse = some url ∨ s.PendingBesidesTask cell url := by
  obtain ⟨views, -, hload⟩ := PosterLoader.load_eq parse s cell content
  rw [hload]
  simp only [PosterLoader.Pending, PosterLoader.PendingBesidesTask,
    PosterLoader.cancelTask_mainQueue, PosterLoader.mem_running_cancelTask, List.mem_append,
    Option.mem_toList, Option.map_eq_some_iff,
    LoadBlock.mk.injEq, true_and, exists_eq_right]
  rw [or_assoc, or_left_comm]

theorem loadBlock_of_queued {loadBlocks : List (LoadBlock URL)} {block : LoadBlock URL}
    {view : PosterView} {requested : Option URL} (hview : view ≠ block.view)
    (h : block ∈ loadBlocks ++ (requested.map fun url => ⟨view, url⟩).toList) :
    block ∈ loadBlocks := by
  refine (List.mem_append.mp h).resolve_right fun hnew => ?_
  obtain ⟨url, -, rfl⟩ := Option.map_eq_some_iff.mp (Option.mem_toList.mp hnew)
  exact hview rfl

theorem running_of_completed {downloads : List (Download URL)} {i : Nat}
    {ended download : Download URL} (hended : ended.state = .completed)
    (hrunning : download.state = .running) (h : download ∈ downloads.set i ended) :
    download ∈ downloads := by
  cases List.mem_or_eq_of_mem_set h with
  | inl hold => exact hold
  | inr heq =>
    rw [heq, hended] at hrunning
    cases hrunning

section Steps
variable [DecidableEq URL] {parse : String → Option URL} {decode : Data → Option UIImage}
  {s s' : PosterLoader URL Data UIImage} {event : PosterEvent Data} {cell : Nat} {url : URL}

abbrev StepUntilLoad (parse : String → Option URL) (decode : Data → Option UIImage) (cell : Nat) :
    PosterLoader URL Data UIImage → PosterEvent Data → PosterLoader URL Data UIImage → Prop :=
  guarded (fun _ event => ¬ event.Loads cell) (PosterStep parse decode)

theorem pending_step (h : PosterStep parse decode s event s') (hevent : ¬ event.Loads cell)
    (hpending : s'.Pending (.cell cell) url) : s.Pending (.cell cell) url := by
  cases h.change with
  | prepared i => exact hpending
  | loaded i content views hviews =>
    have hview : PosterView.cell i ≠ .cell cell := fun heq => hevent (PosterView.cell.inj heq)
    obtain hblock | hdownload | hqueued := hpending
    · exact .inl (loadBlock_of_queued hview hblock)
    · obtain ⟨j, hj, -⟩ := PosterLoader.mem_running_cancelTask.mp hdownload
      exact .inr (.inl (List.mem_of_getElem? hj))
    · exact .inr (.inr (PosterLoader.cancelTask_mainQueue s i ▸ hqueued))
  | queued view string =>
    have hview : view ≠ .cell cell := by
      intro heq
      subst heq
      exact hevent rfl
    obtain hblock | hrest := hpending
    · exact .inl (loadBlock_of_queued hview hblock)
    · exact .inr hrest
  | hit i view u image hblock hcached =>
    obtain hleft | hdownload | ⟨picture, hqueued⟩ := hpending
    · exact .inl (List.mem_of_mem_eraseIdx hleft)
    · exact .inr (.inl hdownload)
    · cases List.mem_append.mp hqueued with
      | inl hold => exact .inr (.inr ⟨picture, hold⟩)
      | inr hnew =>
        cases List.mem_singleton.mp hnew
        exact .inl (List.mem_of_getElem? hblock)
  | missed i view u views hblock hcached hviews =>
    obtain hleft | hdownload | hqueued := hpending
    · exact .inl (List.mem_of_mem_eraseIdx hleft)
    · cases List.mem_append.mp hdownload with
      | inl hold => exact .inr (.inl hold)
      | inr hnew =>
        cases List.mem_singleton.mp hnew
        exact .inl (List.mem_of_getElem? hblock)
    · exact .inr (.inr hqueued)
  | stored i outcome view u entry image hd haccepted =>
    obtain hblock | hdownload | ⟨picture, hqueued⟩ := hpending
    · exact .inl hblock
    · exact .inr (.inl (running_of_completed rfl rfl hdownload))
    · cases List.mem_append.mp hqueued with
      | inl hold => exact .inr (.inr ⟨picture, hold⟩)
      | inr hnew =>
        cases List.mem_singleton.mp hnew
        exact .inr (.inl (List.mem_of_getElem? hd))
  | rejected i outcome d hd haccepted =>
    obtain hblock | hdownload | hqueued := hpending
    · exact .inl hblock
    · exact .inr (.inl (running_of_completed rfl rfl hdownload))
    · exact .inr (.inr hqueued)
  | assigned block rest hqueue =>
    obtain hblock | hdownload | ⟨picture, hqueued⟩ := hpending
    · exact .inl hblock
    · exact .inr (.inl hdownload)
    · refine .inr (.inr ⟨picture, ?_⟩)
      rw [hqueue]
      exact List.mem_cons_of_mem _ hqueued

theorem shown_step (h : PosterStep parse decode s event s') (hevent : ¬ event.Loads cell) :
    s'.views.shown (.cell cell) = s.views.shown (.cell cell) ∨
      s'.views.shown (.cell cell) = .blank ∨
      event = .mainBlockRuns ∧ ∃ block rest, s.mainQueue = block :: rest ∧
        block.view = .cell cell ∧ s'.views.shown (.cell cell) = .poster block.url block.image := by
  cases h.change with
  | prepared i =>
    simp only [PosterLoader.prepareForReuse]
    by_cases hi : i = cell
    · subst hi
      exact .inr (.inl (PosterViews.shown_setShown ..))
    · left
      rw [PosterViews.shown_setShown_of_ne _ _ (fun heq => hi (PosterView.cell.inj heq).symm),
        PosterViews.shown_setTitle]
  | loaded i content views hviews =>
    exact .inl (hviews _ fun heq => hevent (PosterView.cell.inj heq).symm)
  | missed i view u views hblock hcached hviews => exact .inl (hviews _)
  | assigned block rest hqueue =>
    by_cases hview : block.view = .cell cell
    · refine .inr (.inr ⟨rfl, block, rest, hqueue, hview, ?_⟩)
      rw [← hview]
      exact PosterViews.shown_setShown ..
    · exact .inl (PosterViews.shown_setShown_of_ne _ _ (Ne.symm hview))
  | _ => exact .inl rfl

theorem pending_run {events : List (PosterEvent Data)}
    (h : Run (StepUntilLoad parse decode cell) s events s')
    (hpending : s'.Pending (.cell cell) url) : s.Pending (.cell cell) url := by
  induction h with
  | nil s => exact hpending
  | cons hstep _ ih => exact pending_step hstep.2 hstep.1 (ih hpending)

end Steps

def showWithPoster (id : Int) (medium : String) : TVShow :=
  { TVShow.bare (some id) with image := some ⟨some medium, none⟩ }

end TVShows
