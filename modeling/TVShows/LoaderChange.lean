import TVShows.PosterLoader

/-! What one step of the poster loaders can do, and what the main queue does
with the blocks it holds. -/

namespace TVShows

open TransitionRun

variable {URL Data UIImage : Type} [DecidableEq URL]

/-- The state that each event leaves; views that are not named show what they showed. -/
inductive LoaderChange (parse : String → Option URL) (decode : Data → Option UIImage)
    (s : PosterLoader URL Data UIImage) : PosterEvent Data → PosterLoader URL Data UIImage → Prop
  | prepared (cell : Nat) :
      LoaderChange parse decode s (.prepareForReuse cell) (s.prepareForReuse cell)
  | loaded (cell : Nat) (content : CellContent) (views : PosterViews URL UIImage) :
      (∀ view, view ≠ .cell cell → views.shown view = s.views.shown view) →
      LoaderChange parse decode s (.load cell content) { s.cancelTask cell with
        views := views
        loadBlocks := s.loadBlocks ++
          ((content.requested parse).map fun url => ⟨.cell cell, url⟩).toList }
  | queued (view : PosterView) (url : String) :
      LoaderChange parse decode s (.loadImage view url) { s with
        loadBlocks := s.loadBlocks ++ ((parse url).map fun url => ⟨view, url⟩).toList }
  | hit (i : Nat) (view : PosterView) (url : URL) (image : UIImage) :
      s.loadBlocks[i]? = some ⟨view, url⟩ → s.cachedImage decode url = some image →
      LoaderChange parse decode s (.loadBlockRuns i) { s with
        loadBlocks := s.loadBlocks.eraseIdx i
        mainQueue := s.mainQueue ++ [⟨view, url, image⟩] }
  | missed (i : Nat) (view : PosterView) (url : URL) (views : PosterViews URL UIImage) :
      s.loadBlocks[i]? = some ⟨view, url⟩ → s.cachedImage decode url = none →
      (∀ view, views.shown view = s.views.shown view) →
      LoaderChange parse decode s (.loadBlockRuns i) { s with
        views := views
        loadBlocks := s.loadBlocks.eraseIdx i
        downloads := s.downloads ++ [⟨view, url, .running⟩] }
  | stored (i : Nat) (outcome : TaskOutcome Data) (view : PosterView) (url : URL)
      (entry : CachedURLResponse Data) (image : UIImage) :
      s.downloads[i]? = some ⟨view, url, .running⟩ →
      acceptedPoster decode outcome = some (entry, image) →
      LoaderChange parse decode s (.downloadCompletes i outcome) { s with
        cache := Function.update s.cache url (some entry)
        downloads := s.downloads.set i ⟨view, url, .completed⟩
        mainQueue := s.mainQueue ++ [⟨view, url, image⟩] }
  | rejected (i : Nat) (outcome : TaskOutcome Data) (download : Download URL) :
      s.downloads[i]? = some download → acceptedPoster decode outcome = none →
      LoaderChange parse decode s (.downloadCompletes i outcome) { s with
        downloads := s.downloads.set i { download with state := .completed } }
  | assigned (block : Assignment URL UIImage) (rest : List (Assignment URL UIImage)) :
      s.mainQueue = block :: rest →
      LoaderChange parse decode s .mainBlockRuns { s with
        mainQueue := rest
        views := s.views.setShown block.view (.poster block.url block.image) }

section Steps
variable {parse : String → Option URL} {decode : Data → Option UIImage}
  {s s' : PosterLoader URL Data UIImage} {event : PosterEvent Data}

theorem change_of_runLoadBlock {i : Nat} (h : s.runLoadBlock decode i = some s') :
    LoaderChange parse decode s (.loadBlockRuns i) s' := by
  unfold PosterLoader.runLoadBlock at h
  cases hblock : s.loadBlocks[i]? with
  | none => simp [hblock] at h
  | some block =>
    obtain ⟨view, url⟩ := block
    simp only [hblock] at h
    cases hcached : s.cachedImage decode url with
    | some image =>
      simp only [hcached, Option.some.injEq] at h
      exact h ▸ .hit i view url image hblock hcached
    | none =>
      simp only [hcached, Option.some.injEq, PosterLoader.startDownload] at h
      cases view with
      | imageView j => exact h ▸ .missed i _ url s.views hblock hcached fun _ => rfl
      | cell j =>
        exact h ▸ .missed i _ url _ hblock hcached fun view =>
          PosterViews.shown_setTask s.views j _ view

theorem change_of_completeDownload {i : Nat} {outcome : TaskOutcome Data}
    (h : s.completeDownload decode i outcome = some s') :
    LoaderChange parse decode s (.downloadCompletes i outcome) s' := by
  unfold PosterLoader.completeDownload at h
  cases hdownload : s.downloads[i]? with
  | none => simp [hdownload] at h
  | some download =>
    simp only [hdownload] at h
    cases haccepted : acceptedPoster decode outcome with
    | none =>
      simp only [PosterLoader.completionHandler, haccepted] at h
      split at h
      · exact Option.some.inj h ▸ .rejected i outcome download hdownload haccepted
      · split at h
        · exact Option.some.inj h ▸ .rejected i outcome download hdownload haccepted
        · cases h
      · cases h
    | some accepted =>
      obtain ⟨entry, image⟩ := accepted
      have hdata := (acceptedPoster_eq_some_iff.mp haccepted).1
      simp only [PosterLoader.completionHandler, haccepted] at h
      split at h
      · rename_i hrunning
        obtain ⟨view, url, state⟩ := download
        obtain rfl : state = .running := hrunning
        exact Option.some.inj h ▸ .stored i outcome view url entry image hdownload haccepted
      · simp [hdata] at h
      · cases h

theorem PosterStep.change (h : PosterStep parse decode s event s') :
    LoaderChange parse decode s event s' := by
  unfold PosterStep at h
  cases event with
  | prepareForReuse cell => exact Option.some.inj h ▸ .prepared cell
  | load cell content =>
    obtain ⟨views, hviews, hload⟩ := PosterLoader.load_eq parse s cell content
    obtain rfl := Option.some.inj h
    exact hload ▸ .loaded cell content views hviews
  | loadImage view url =>
    have hqueue : s.handle parse decode (.loadImage view url) =
        some (s.queueLoad parse view url) := by cases view <;> rfl
    rw [hqueue, PosterLoader.queueLoad_eq] at h
    exact Option.some.inj h ▸ .queued view url
  | loadBlockRuns i => exact change_of_runLoadBlock h
  | downloadCompletes i outcome => exact change_of_completeDownload h
  | mainBlockRuns =>
    simp only [PosterLoader.handle, PosterLoader.runMainBlock] at h
    split at h
    · cases h
    · rename_i block rest hqueue
      exact Option.some.inj h ▸ .assigned block rest hqueue

theorem lookup_hit (parse : String → Option URL) {i : Nat} {block : LoadBlock URL}
    {image : UIImage} (hblock : s.loadBlocks[i]? = some block)
    (hcached : s.cachedImage decode block.url = some image) :
    ∃ s', PosterStep parse decode s (.loadBlockRuns i) s' ∧ s'.downloads = s.downloads ∧
      ⟨block.view, block.url, image⟩ ∈ s'.mainQueue := by
  refine ⟨{ s with
    loadBlocks := s.loadBlocks.eraseIdx i
    mainQueue := s.mainQueue ++ [⟨block.view, block.url, image⟩] }, ?_, rfl, by simp⟩
  simp only [PosterStep, PosterLoader.handle, PosterLoader.runLoadBlock, hblock, hcached]

theorem lookup_miss (parse : String → Option URL) {i : Nat} {block : LoadBlock URL}
    (hblock : s.loadBlocks[i]? = some block)
    (hcached : s.cachedImage decode block.url = none) :
    ∃ s', PosterStep parse decode s (.loadBlockRuns i) s' ∧
      s'.downloads = s.downloads ++ [⟨block.view, block.url, .running⟩] := by
  refine ⟨({ s with loadBlocks := s.loadBlocks.eraseIdx i }).startDownload block, ?_, ?_⟩
  · simp only [PosterStep, PosterLoader.handle, PosterLoader.runLoadBlock, hblock, hcached]
  · unfold PosterLoader.startDownload
    cases hview : block.view <;> rfl

theorem download_accepted (parse : String → Option URL) {i : Nat} {download : Download URL}
    {outcome : TaskOutcome Data} {entry : CachedURLResponse Data} {image : UIImage}
    (hi : s.downloads[i]? = some download) (hrunning : download.state = .running)
    (haccepted : acceptedPoster decode outcome = some (entry, image)) :
    ∃ s', PosterStep parse decode s (.downloadCompletes i outcome) s' ∧
      s'.cache download.url = some entry ∧
      ⟨download.view, download.url, image⟩ ∈ s'.mainQueue := by
  refine ⟨{ s with
    cache := Function.update s.cache download.url (some entry)
    downloads := s.downloads.set i { download with state := .completed }
    mainQueue := s.mainQueue ++ [⟨download.view, download.url, image⟩] }, ?_, by simp, by simp⟩
  simp only [PosterStep, PosterLoader.handle, PosterLoader.completeDownload, hi, hrunning,
    PosterLoader.completionHandler, haccepted]

theorem run_mainQueue (parse : String → Option URL) (decode : Data → Option UIImage)
    {s : PosterLoader URL Data UIImage} (blocks : List (Assignment URL UIImage))
    {block : Assignment URL UIImage} {rest : List (Assignment URL UIImage)}
    (h : s.mainQueue = blocks ++ block :: rest) :
    ∃ s', Run (PosterStep parse decode) s (List.replicate blocks.length .mainBlockRuns) s' ∧
      s'.mainQueue = block :: rest := by
  induction blocks generalizing s with
  | nil => exact ⟨s, .nil s, h⟩
  | cons first blocks ih =>
    let next := { s with
      mainQueue := blocks ++ block :: rest
      views := s.views.setShown first.view (.poster first.url first.image) }
    have hstep : PosterStep parse decode s .mainBlockRuns next := by
      simp only [PosterStep, PosterLoader.handle, PosterLoader.runMainBlock, h, List.cons_append,
        next]
    obtain ⟨s', hrun, hqueue⟩ := ih (s := next) rfl
    exact ⟨s', .cons hstep hrun, hqueue⟩

end Steps

end TVShows
