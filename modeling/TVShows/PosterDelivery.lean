import TVShows.PosterAccounting
import TVShows.PosterCache
import TVShows.RowRendering

/-! What the loaders bring to a view. A poster on a screen was asked for, for that
view and that URL, and its image was decoded from a response to the URL; and a
poster that the cache holds reaches its cell without the network, so that the
rows of saved shows keep their posters offline. -/

namespace TVShows

open TransitionRun

variable {URL Data UIImage : Type} [DecidableEq URL]

def Asked (parse : String → Option URL) (events : List (PosterEvent Data)) (block : LoadBlock URL) :
    Prop :=
  ∃ event ∈ events, event.request? parse = some block

def ImageOf (decode : Data → Option UIImage) (cache : URL → Option (CachedURLResponse Data))
    (events : List (PosterEvent Data)) (s : PosterLoader URL Data UIImage) (url : URL)
    (image : UIImage) : Prop :=
  ∃ entry, decode entry.data = some image ∧
    (cache url = some entry ∨ Downloaded decode events s url entry)

structure PostersHaveSources (parse : String → Option URL) (decode : Data → Option UIImage)
    (cache : URL → Option (CachedURLResponse Data)) (events : List (PosterEvent Data))
    (s : PosterLoader URL Data UIImage) : Prop where
  outstanding : ∀ block ∈ s.outstanding, Asked parse events block
  assigning : ∀ block ∈ s.mainQueue, ImageOf decode cache events s block.url block.image
  shown : ∀ view url image, s.views.shown view = .poster url image →
    Asked parse events ⟨view, url⟩ ∧ ImageOf decode cache events s url image

section Steps
variable {parse : String → Option URL} {decode : Data → Option UIImage}
  {cache : URL → Option (CachedURLResponse Data)} {events : List (PosterEvent Data)}
  {s s' : PosterLoader URL Data UIImage} {event : PosterEvent Data}

omit [DecidableEq URL] in
theorem Asked.snoc {block : LoadBlock URL} (h : Asked parse events block)
    (event : PosterEvent Data) : Asked parse (events ++ [event]) block := by
  obtain ⟨earlier, hmem, hrequest⟩ := h
  exact ⟨earlier, List.mem_append_left _ hmem, hrequest⟩

theorem ImageOf.snoc {url : URL} {image : UIImage} (h : ImageOf decode cache events s url image)
    (hstep : PosterStep parse decode s event s') :
    ImageOf decode cache (events ++ [event]) s' url image := by
  obtain ⟨entry, hdecode, hfirst | hlater⟩ := h
  · exact ⟨entry, hdecode, .inl hfirst⟩
  · obtain ⟨i, download, outcome, statusCode, hmem, hi, hurl, hrest⟩ := hlater
    obtain ⟨state, hi'⟩ := hstep.download hi
    exact ⟨entry, hdecode, .inr ⟨i, _, outcome, statusCode, List.mem_append_left _ hmem, hi', hurl,
      hrest⟩⟩

theorem asked_of_outstanding (h : Run (PosterStep parse decode) (.initial cache) events s)
    {block : LoadBlock URL} (hmem : block ∈ s.outstanding) : Asked parse events block := by
  have hstart : (PosterLoader.initial cache : PosterLoader URL Data UIImage).outstanding = 0 := rfl
  have hbalance := run_balance h
  rw [hstart, zero_add] at hbalance
  have hrequested : block ∈ (events.filterMap (PosterEvent.request? parse) : Multiset _) := by
    rw [hbalance]
    exact Multiset.mem_add.mpr (.inr hmem)
  obtain ⟨event, hevent, hrequest⟩ := List.mem_filterMap.mp (Multiset.mem_coe.mp hrequested)
  exact ⟨event, hevent, hrequest⟩

omit [DecidableEq URL] in
theorem mem_outstanding_of_mainQueue {block : Assignment URL UIImage} (h : block ∈ s.mainQueue) :
    block.block ∈ s.outstanding := by
  simp only [PosterLoader.outstanding, Multiset.mem_add, Multiset.mem_coe]
  exact .inr (List.mem_map_of_mem h)

theorem PosterStep.assigning (h : PosterStep parse decode s event s')
    (hrun : Run (PosterStep parse decode) (.initial cache) events s)
    (hs : ∀ block ∈ s.mainQueue, ImageOf decode cache events s block.url block.image)
    {block : Assignment URL UIImage} (hmem : block ∈ s'.mainQueue) :
    ImageOf decode cache (events ++ [event]) s' block.url block.image := by
  have hstep := h
  have hold : block ∈ s.mainQueue → ImageOf decode cache (events ++ [event]) s' block.url
      block.image := fun hold => (hs block hold).snoc hstep
  have hwritten (url : URL) (entry : CachedURLResponse Data) (hentry : s'.cache url = some entry) :
      cache url = some entry ∨ Downloaded decode (events ++ [event]) s' url entry :=
    run_written (hrun.snoc hstep) hentry
  cases h.change with
  | loaded cell content views hviews =>
    exact hold (PosterLoader.cancelTask_mainQueue s cell ▸ hmem)
  | hit i view url image hblock hcached =>
    cases List.mem_append.mp hmem with
    | inl hearlier => exact hold hearlier
    | inr hnew =>
      obtain rfl := List.mem_singleton.mp hnew
      obtain ⟨entry, hentry, hdecode⟩ := Option.bind_eq_some_iff.mp hcached
      have hsource : ImageOf decode cache events s url image :=
        ⟨entry, hdecode, run_written hrun hentry⟩
      exact hsource.snoc hstep
  | stored i outcome view url entry image hdownload haccepted =>
    cases List.mem_append.mp hmem with
    | inl hearlier => exact hold hearlier
    | inr hnew =>
      obtain rfl := List.mem_singleton.mp hnew
      exact ⟨entry, (acceptedPoster_eq_some_iff.mp haccepted).2.2.2, hwritten url entry (by simp)⟩
  | assigned first rest hqueue =>
    refine hold ?_
    rw [hqueue]
    exact List.mem_cons_of_mem _ hmem
  | _ => exact hold hmem

omit [DecidableEq URL] in
theorem setShown_poster {views : PosterViews URL UIImage} {target view : PosterView}
    {thumbnail : Thumbnail URL UIImage} {url : URL} {image : UIImage}
    (h : (views.setShown target thumbnail).shown view = .poster url image) :
    views.shown view = .poster url image ∨ view = target ∧ thumbnail = .poster url image := by
  by_cases hview : view = target
  · subst hview
    rw [PosterViews.shown_setShown] at h
    exact .inr ⟨rfl, h⟩
  · rw [PosterViews.shown_setShown_of_ne _ _ hview] at h
    exact .inl h

theorem PosterStep.shown (h : PosterStep parse decode s event s') {view : PosterView} {url : URL}
    {image : UIImage} (hshown : s'.views.shown view = .poster url image) :
    s.views.shown view = .poster url image ∨ ⟨view, url, image⟩ ∈ s.mainQueue := by
  have hstep := h
  cases h.change with
  | prepared cell =>
    simp only [PosterLoader.prepareForReuse] at hshown
    obtain hsame | ⟨-, hblank⟩ := setShown_poster hshown
    · rw [PosterViews.shown_setTitle] at hsame
      exact .inl hsame
    · cases hblank
  | loaded cell content views hviews =>
    by_cases hview : view = .cell cell
    · subst hview
      rw [← Option.some.inj hstep] at hshown
      cases content with
      | tvShow t =>
        rw [PosterLoader.load, loadTVShow_shown] at hshown
        exact .inl hshown
      | tvShowStore record =>
        rw [PosterLoader.load, loadTVShowStore_shown] at hshown
        cases hshown
    · exact .inl (hviews view hview ▸ hshown)
  | missed i target u views hblock hcached hviews => exact .inl (hviews view ▸ hshown)
  | assigned block rest hqueue =>
    obtain hsame | ⟨rfl, hposter⟩ := setShown_poster hshown
    · exact .inl hsame
    · obtain ⟨rfl, rfl⟩ := Thumbnail.poster.inj hposter
      rw [hqueue]
      exact .inr List.mem_cons_self
  | _ => exact .inl hshown

end Steps

section Sources
variable {parse : String → Option URL} {decode : Data → Option UIImage}
  {cache : URL → Option (CachedURLResponse Data)} {events : List (PosterEvent Data)}
  {s : PosterLoader URL Data UIImage}

def ImagesHaveSources (parse : String → Option URL) (decode : Data → Option UIImage)
    (cache : URL → Option (CachedURLResponse Data)) (events : List (PosterEvent Data))
    (s : PosterLoader URL Data UIImage) : Prop :=
  (∀ block ∈ s.mainQueue, ImageOf decode cache events s block.url block.image) ∧
    ∀ view url image, s.views.shown view = .poster url image →
      Asked parse events ⟨view, url⟩ ∧ ImageOf decode cache events s url image

theorem imagesHaveSources_of_run (h : Run (PosterStep parse decode) (.initial cache) events s) :
    ImagesHaveSources parse decode cache events s := by
  refine h.recorded (P := ImagesHaveSources parse decode cache)
    ⟨fun block hmem => (nomatch hmem), fun view url image hshown => ?_⟩ ?_
  · cases view <;> cases hshown
  · intro ds u event v hrun hu hstep
    have hstep' : PosterStep parse decode u event v := hstep
    refine ⟨fun block hmem => hstep'.assigning hrun hu.1 hmem, fun view url image hshown => ?_⟩
    cases hstep'.shown hshown with
    | inl hearlier =>
      obtain ⟨hasked, himage⟩ := hu.2 view url image hearlier
      exact ⟨hasked.snoc event, himage.snoc hstep'⟩
    | inr hqueued =>
      have hasked := asked_of_outstanding hrun (mem_outstanding_of_mainQueue hqueued)
      have himage := hu.1 _ hqueued
      exact ⟨hasked.snoc event, himage.snoc hstep'⟩

/-- In every order of the steps a view shows only a poster that was asked for,
for this view, and only an image that the cache or a response had for its URL:
no cancelled, late or failed download puts anything else there. -/
theorem posters_have_sources (h : Run (PosterStep parse decode) (.initial cache) events s) :
    PostersHaveSources parse decode cache events s :=
  have himages := imagesHaveSources_of_run h
  ⟨fun _ hmem => asked_of_outstanding h hmem, himages.1, himages.2⟩

theorem posters_have_sources_late : ∃ s : PosterLoader String String String,
    s.views.shown (.cell 0) = .poster "a" "png" ∧
      PostersHaveSources some some (fun _ => none)
        [.load 0 (.tvShow (showWithPoster 1 "a")), .load 0 (.tvShow (showWithPoster 2 "b")),
          .loadBlockRuns 0, .downloadCompletes 0 ⟨some "png", some (.http 200), none⟩,
          .mainBlockRuns] s := by
  have hrun : ∃ s : PosterLoader String String String,
      Run (PosterStep some some) (.initial fun _ => none)
        [.load 0 (.tvShow (showWithPoster 1 "a")), .load 0 (.tvShow (showWithPoster 2 "b")),
          .loadBlockRuns 0, .downloadCompletes 0 ⟨some "png", some (.http 200), none⟩,
          .mainBlockRuns] s ∧ s.views.shown (.cell 0) = .poster "a" "png" :=
    ⟨_, run_of_exec rfl, rfl⟩
  obtain ⟨s, hrun, hshown⟩ := hrun
  exact ⟨s, hshown, posters_have_sources hrun⟩

end Sources

section Cached
variable {parse : String → Option URL} {decode : Data → Option UIImage}
  {s₀ s s' : PosterLoader URL Data UIImage} {events : List (PosterEvent Data)}
  {event : PosterEvent Data} {cell : Nat} {url : URL}

/-- The row of the cell stays: it is neither loaded again nor prepared for reuse. -/
def PosterEvent.StaysOn (cell : Nat) (event : PosterEvent Data) : Prop :=
  ¬ event.Loads cell ∧ event ≠ .prepareForReuse cell

abbrev StepOnRow (parse : String → Option URL) (decode : Data → Option UIImage) (cell : Nat) :
    PosterLoader URL Data UIImage → PosterEvent Data → PosterLoader URL Data UIImage → Prop :=
  guarded (fun _ event => event.StaysOn cell) (PosterStep parse decode)

def SureToCome (decode : Data → Option UIImage) (cell : Nat) (url : URL)
    (s : PosterLoader URL Data UIImage) : Prop :=
  ⟨.cell cell, url⟩ ∈ s.loadBlocks ∧ (s.cachedImage decode url).isSome ∨
    ∃ image, ⟨.cell cell, url, image⟩ ∈ s.mainQueue

theorem sureToCome_step (h : PosterStep parse decode s event s')
    (hs : SureToCome decode cell url s) :
    SureToCome decode cell url s' ∨ ∃ image, s'.views.shown (.cell cell) = .poster url image := by
  obtain ⟨hblock, hcached⟩ | ⟨image, hqueued⟩ := hs
  · obtain hwaiting | hassigning | ⟨hmiss, -⟩ := h.waitingBlock hblock
    · exact .inl (.inl ⟨hwaiting, h.cachedImage hcached⟩)
    · exact .inl (.inr hassigning)
    · rw [hmiss] at hcached
      cases hcached
  · cases h.waitingAssignment hqueued with
    | inl hwaiting => exact .inl (.inr ⟨image, hwaiting⟩)
    | inr hshown => exact .inr ⟨image, hshown⟩

structure CachedOnRow (decode : Data → Option UIImage) (cell : Nat) (url : URL) (first : Nat)
    (s : PosterLoader URL Data UIImage) : Prop where
  cached : (s.cachedImage decode url).isSome
  own : ∀ url', s.Pending (.cell cell) url' → url' = url
  noDownload : ∀ i download, first ≤ i → s.downloads[i]? = some download →
    download.view ≠ .cell cell
  underWay : SureToCome decode cell url s ∨
    ∃ image, s.views.shown (.cell cell) = .poster url image

omit [DecidableEq URL] in
theorem CachedOnRow.own_of_assigned {first : Nat} (hs : CachedOnRow decode cell url first s)
    {block : Assignment URL UIImage} {rest : List (Assignment URL UIImage)}
    (hqueue : s.mainQueue = block :: rest) (hview : block.view = .cell cell) : block.url = url := by
  refine hs.own _ (.inr (.inr ⟨block.image, ?_⟩))
  rw [hqueue, ← hview]
  exact List.mem_cons_self

theorem shown_on_row (hload : ¬ event.Loads cell) (hprepare : event ≠ .prepareForReuse cell)
    (h : PosterStep parse decode s event s') :
    s'.views.shown (.cell cell) = s.views.shown (.cell cell) ∨
      ∃ block rest, s.mainQueue = block :: rest ∧ block.view = .cell cell ∧
        s'.views.shown (.cell cell) = .poster block.url block.image := by
  cases h.change with
  | prepared i =>
    have hne : PosterView.cell cell ≠ .cell i := fun heq =>
      hprepare (PosterView.cell.inj heq ▸ rfl)
    simp only [PosterLoader.prepareForReuse]
    rw [PosterViews.shown_setShown_of_ne _ _ hne, PosterViews.shown_setTitle]
    exact .inl rfl
  | loaded i content views hviews =>
    exact .inl (hviews _ fun heq => hload (PosterView.cell.inj heq).symm)
  | missed i view u views hblock hcached hviews => exact .inl (hviews _)
  | assigned block rest hqueue =>
    by_cases hview : block.view = .cell cell
    · refine .inr ⟨block, rest, hqueue, hview, ?_⟩
      rw [← hview]
      exact PosterViews.shown_setShown ..
    · exact .inl (PosterViews.shown_setShown_of_ne _ _ (Ne.symm hview))
  | _ => exact .inl rfl

theorem PosterStep.newDownload (h : PosterStep parse decode s event s') {i : Nat}
    {download : Download URL} (hi : s'.downloads[i]? = some download) :
    (∃ earlier, s.downloads[i]? = some earlier ∧ earlier.view = download.view) ∨
      ⟨download.view, download.url⟩ ∈ s.loadBlocks ∧ s.cachedImage decode download.url = none := by
  cases hold : s.downloads[i]? with
  | some earlier =>
    obtain ⟨state, hnext⟩ := h.download hold
    obtain rfl := Option.some.inj (hnext.symm.trans hi)
    exact .inl ⟨earlier, rfl, rfl⟩
  | none =>
    have hout := List.getElem?_eq_none_iff.mp hold
    have hlt := (List.getElem?_eq_some_iff.mp hi).1
    have hgrown : s'.downloads.length ≠ s.downloads.length := by omega
    cases h.change with
    | missed j view u views hblock hcached hviews =>
      have hlength : i = s.downloads.length := by
        rw [List.length_append, List.length_singleton] at hlt
        omega
      subst hlength
      obtain rfl : ⟨view, u, .running⟩ = download := by simpa using hi
      exact .inr ⟨List.mem_of_getElem? hblock, hcached⟩
    | loaded cell content views hviews =>
      refine absurd ?_ hgrown
      simp only [PosterLoader.cancelTask]
      split <;> simp
    | stored j outcome view u entry image hdownload haccepted =>
      exact absurd (List.length_set ..) hgrown
    | rejected j outcome ended hdownload haccepted => exact absurd (List.length_set ..) hgrown
    | _ => exact absurd rfl hgrown

theorem CachedOnRow.step {first : Nat} (hs : CachedOnRow decode cell url first s)
    (h : StepOnRow parse decode cell s event s') : CachedOnRow decode cell url first s' where
  cached := h.2.cachedImage hs.cached
  own url' hpending := hs.own url' (pending_step h.2 h.1.1 hpending)
  noDownload i download hfirst hi hview := by
    obtain ⟨earlier, hearlier, hsame⟩ | ⟨hblock, hmiss⟩ := h.2.newDownload hi
    · exact hs.noDownload i earlier hfirst hearlier (hsame.trans hview)
    · have hblock' : (⟨.cell cell, download.url⟩ : LoadBlock URL) ∈ s.loadBlocks := by
        rwa [← hview]
      have hurl := hs.own _ (.inl hblock')
      have hcached := hs.cached
      rw [← hurl, hmiss] at hcached
      cases hcached
  underWay := by
    obtain hcoming | ⟨image, hshown⟩ := hs.underWay
    · exact sureToCome_step h.2 hcoming
    · refine .inr ?_
      obtain hsame | ⟨block, rest, hqueue, hview, hposter⟩ := shown_on_row h.1.1 h.1.2 h.2
      · exact ⟨image, hsame.trans hshown⟩
      · have hurl := hs.own_of_assigned hqueue hview
        exact ⟨block.image, hurl ▸ hposter⟩

theorem cachedOnRow_load {content : CellContent} (hcached : (s.cachedImage decode url).isSome)
    (hrequested : content.requested parse = some url) (hclean : s.CleanLoad parse cell content) :
    CachedOnRow decode cell url s.downloads.length (s.load parse cell content) := by
  have hstep : PosterStep parse decode s (.load cell content) (s.load parse cell content) := rfl
  refine ⟨hstep.cachedImage hcached, fun url' hpending => ?_, fun i download hfirst hi hview => ?_,
    .inl (.inl ⟨?_, hstep.cachedImage hcached⟩)⟩
  · have hown : content.requested parse = some url' := by
      cases (pending_load content).mp hpending with
      | inl hnew => exact hnew
      | inr hleft => exact hclean url' hleft
    exact Option.some.inj (hown.symm.trans hrequested)
  · obtain ⟨earlier, hearlier, -⟩ | ⟨hblock, hmiss⟩ := hstep.newDownload hi
    · have hlt := (List.getElem?_eq_some_iff.mp hearlier).1
      omega
    · rw [hview] at hblock
      obtain rfl := Option.some.inj ((hclean _ (.inl hblock)).symm.trans hrequested)
      rw [hmiss] at hcached
      cases hcached
  · rw [PosterLoader.load_loadBlocks, hrequested]
    exact List.mem_append_right _ List.mem_cons_self

structure PosterWithoutNetwork (cell : Nat) (url : URL)
    (before after : PosterLoader URL Data UIImage) : Prop where
  noDownload : ∀ i download, before.downloads.length ≤ i → after.downloads[i]? = some download →
    download.view ≠ .cell cell
  shown : (∀ block ∈ after.loadBlocks, block.view ≠ .cell cell) →
    (∀ block ∈ after.mainQueue, block.view ≠ .cell cell) →
      ∃ image, after.views.shown (.cell cell) = .poster url image

/-- Once the cache has held the poster of a show, then after any run a row of the
show, in the list or as its stored copy among the favorites, gets the poster
without the network, whatever the other views do. -/
theorem saved_poster_needs_no_network (hparse : parse "" = none) {t : TVShow}
    (hposter : (t.image.bind Image.medium).bind parse = some url)
    (hbefore : Run (PosterStep parse decode) s₀ events s)
    (hcached : (s₀.cachedImage decode url).isSome) {content : CellContent}
    (hcontent : content = .tvShow t ∨ content = .tvShowStore t.storeObject)
    (hclean : s.CleanLoad parse cell content) {events' : List (PosterEvent Data)}
    (hafter : Run (StepOnRow parse decode cell) (s.load parse cell content) events' s') :
    PosterWithoutNetwork cell url s s' := by
  have hrequested : content.requested parse = some url := by
    cases hcontent with
    | inl hlist => rw [hlist, CellContent.requested, hposter]
    | inr hstored => rw [hstored, requested_storeObject parse hparse, hposter]
  have hstart := cachedOnRow_load (run_cachedImage hbefore hcached) hrequested hclean
  have hlast := hafter.preserves (P := CachedOnRow decode cell url s.downloads.length)
    (fun _ _ _ hs hstep => hs.step hstep) hstart
  refine ⟨hlast.noDownload, fun hblocks hqueue => ?_⟩
  obtain (⟨hwaiting, -⟩ | ⟨image, hmem⟩) | hshown := hlast.underWay
  · exact absurd rfl (hblocks _ hwaiting)
  · exact absurd rfl (hqueue _ hmem)
  · exact hshown

theorem saved_poster_needs_no_network_reused : ∃ s s' : PosterLoader String String String,
    PosterWithoutNetwork 0 "a" s s' ∧ s'.loadBlocks = [] ∧ s'.mainQueue = [] := by
  have hbefore : ∃ s : PosterLoader String String String,
      Run (PosterStep parseNonempty some) (.initial fun url => some ⟨.http 200, url⟩)
        [.prepareForReuse 0] s ∧ (∀ url, ¬ s.PendingBesidesTask 0 url) ∧
        ∃ s', Run (PosterStep parseNonempty some)
          (s.load parseNonempty 0 (.tvShowStore (showWithPoster 1 "a").storeObject))
          [.loadBlockRuns 0, .mainBlockRuns] s' ∧ s'.loadBlocks = [] ∧ s'.mainQueue = [] := by
    refine ⟨_, run_of_exec rfl, fun url hpending => ?_, _, run_of_exec rfl, rfl, rfl⟩
    simp [PosterLoader.PendingBesidesTask, PosterLoader.prepareForReuse, PosterLoader.initial]
      at hpending
  obtain ⟨s, hrun, hidle, s', hafter, hempty⟩ := hbefore
  have hnonempty : parseNonempty "" = none := rfl
  refine ⟨s, s', saved_poster_needs_no_network (t := showWithPoster 1 "a") hnonempty rfl hrun rfl
    (.inr rfl) (fun url hpending => absurd hpending (hidle url)) (hafter.guarded_of_forall ?_),
    hempty⟩
  simp [PosterEvent.StaysOn, PosterEvent.Loads]

end Cached

end TVShows
