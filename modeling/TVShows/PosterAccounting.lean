import Mathlib.Algebra.Order.Group.Multiset
import Mathlib.Tactic.Abel
import TVShows.CellReuse

/-! Accounts of the poster loads. A load that was asked for waits as a block on
the global queue, is an unfinished download or waits as an assignment on the
main queue; it leaves when its image is assigned or its download brings none. No
step loses a load or doubles one, and left alone the loaders come to an end. -/

namespace TVShows

open TransitionRun

variable {URL Data UIImage : Type}

def Download.block (self : Download URL) : LoadBlock URL :=
  ⟨self.view, self.url⟩

def Assignment.block (self : Assignment URL UIImage) : LoadBlock URL :=
  ⟨self.view, self.url⟩

def Download.unfinished (self : Download URL) : Option (LoadBlock URL) :=
  match self.state with
  | .completed => none
  | _ => some self.block

def PosterEvent.request? (parse : String → Option URL) : PosterEvent Data → Option (LoadBlock URL)
  | .load cell content => (content.requested parse).map fun url => ⟨.cell cell, url⟩
  | .loadImage view url => (parse url).map fun url => ⟨view, url⟩
  | _ => none

def PosterEvent.internal : PosterEvent Data → Bool
  | .loadBlockRuns _ => true
  | .downloadCompletes _ _ => true
  | .mainBlockRuns => true
  | _ => false

namespace PosterLoader

def unfinished (self : PosterLoader URL Data UIImage) : List (LoadBlock URL) :=
  self.downloads.filterMap Download.unfinished

def outstanding (self : PosterLoader URL Data UIImage) : Multiset (LoadBlock URL) :=
  self.loadBlocks + self.unfinished + self.mainQueue.map Assignment.block

def assigned? (self : PosterLoader URL Data UIImage) : PosterEvent Data → Option (LoadBlock URL)
  | .mainBlockRuns => self.mainQueue.head?.map Assignment.block
  | _ => none

def failed? (decode : Data → Option UIImage) (self : PosterLoader URL Data UIImage) :
    PosterEvent Data → Option (LoadBlock URL)
  | .downloadCompletes i outcome =>
    match acceptedPoster decode outcome with
    | none => self.downloads[i]?.map Download.block
    | some _ => none
  | _ => none

def work (self : PosterLoader URL Data UIImage) : Nat :=
  3 * self.loadBlocks.length + 2 * self.unfinished.length + self.mainQueue.length

end PosterLoader

section Pieces

theorem unfinished_cancel (download : Download URL) :
    download.cancel.unfinished = download.unfinished := by
  obtain ⟨view, url, state⟩ := download
  cases state <;> rfl

theorem filterMap_modify {α β : Type} (f : α → α) {g : α → Option β} (hg : ∀ a, g (f a) = g a)
    (l : List α) (i : Nat) : (l.modify i f).filterMap g = l.filterMap g := by
  induction l generalizing i with
  | nil => simp
  | cons a l ih =>
    cases i with
    | zero => simp [List.filterMap_cons, hg]
    | succ i => simp [List.filterMap_cons, ih]

theorem unfinished_set (downloads : List (Download URL)) {i : Nat} {download : Download URL}
    (hi : downloads[i]? = some download) (hstate : download.state ≠ .completed) :
    (downloads.filterMap Download.unfinished : Multiset (LoadBlock URL)) =
      {download.block} +
        ((downloads.set i { download with state := .completed }).filterMap Download.unfinished :
          Multiset (LoadBlock URL)) := by
  rw [Multiset.singleton_add]
  have hunfinished : download.unfinished = some download.block := by
    unfold Download.unfinished
    split
    · rename_i hcompleted
      exact absurd hcompleted hstate
    · rfl
  induction downloads generalizing i with
  | nil => simp at hi
  | cons first downloads ih =>
    cases i with
    | zero =>
      obtain rfl : first = download := by simpa using hi
      rw [List.set_cons_zero, List.filterMap_cons_some hunfinished,
        List.filterMap_cons_none rfl, Multiset.cons_coe]
    | succ i =>
      have hrest := ih (i := i) (by simpa using hi)
      rw [List.set_cons_succ]
      cases hfirst : first.unfinished with
      | none => rw [List.filterMap_cons_none hfirst, List.filterMap_cons_none hfirst, hrest]
      | some block =>
        rw [List.filterMap_cons_some hfirst, List.filterMap_cons_some hfirst, ← Multiset.cons_coe,
          ← Multiset.cons_coe, hrest, Multiset.cons_swap]

theorem unfinished_cancelTask (s : PosterLoader URL Data UIImage) (cell : Nat) :
    (s.cancelTask cell).unfinished = s.unfinished := by
  unfold PosterLoader.cancelTask
  split
  · rfl
  · exact filterMap_modify Download.cancel unfinished_cancel s.downloads _

theorem loadBlocks_eraseIdx {s : PosterLoader URL Data UIImage} {i : Nat} {block : LoadBlock URL}
    (hi : s.loadBlocks[i]? = some block) :
    (s.loadBlocks : Multiset (LoadBlock URL)) =
      {block} + (s.loadBlocks.eraseIdx i : Multiset _) := by
  rw [Multiset.singleton_add]
  obtain ⟨hlt, rfl⟩ := List.getElem?_eq_some_iff.mp hi
  exact (Multiset.coe_eq_coe.mpr (List.getElem_cons_eraseIdx_perm hlt)).symm

theorem eq_or_mem_eraseIdx {s : PosterLoader URL Data UIImage} {i : Nat}
    {block waiting : LoadBlock URL} (hi : s.loadBlocks[i]? = some block)
    (h : waiting ∈ s.loadBlocks) : waiting = block ∨ waiting ∈ s.loadBlocks.eraseIdx i := by
  have hmem : waiting ∈ (s.loadBlocks : Multiset _) := h
  rwa [loadBlocks_eraseIdx hi, Multiset.mem_add, Multiset.mem_singleton] at hmem

theorem work_le (s : PosterLoader URL Data UIImage) : s.work ≤ 3 * s.outstanding.card := by
  simp only [PosterLoader.work, PosterLoader.outstanding, Multiset.card_add, Multiset.coe_card,
    List.length_map]
  omega

theorem request_of_internal {event : PosterEvent Data} (parse : String → Option URL)
    (h : event.internal = true) : event.request? parse = none := by
  cases event <;> first | rfl | cases h

theorem sum_requests (parse : String → Option URL) (events : List (PosterEvent Data)) :
    (events.map fun event => ((event.request? parse).toList : Multiset (LoadBlock URL))).sum =
      (events.filterMap (PosterEvent.request? parse) : Multiset (LoadBlock URL)) := by
  induction events with
  | nil => rfl
  | cons event events ih =>
    rw [List.map_cons, List.sum_cons, ih]
    cases hrequest : event.request? parse with
    | none => rw [List.filterMap_cons_none hrequest, Option.toList_none, Multiset.coe_nil, zero_add]
    | some block =>
      rw [List.filterMap_cons_some hrequest, Option.toList_some, Multiset.coe_singleton,
        Multiset.singleton_add, Multiset.cons_coe]

end Pieces

section Places
variable [DecidableEq URL] {parse : String → Option URL} {decode : Data → Option UIImage}
  {s s' : PosterLoader URL Data UIImage} {event : PosterEvent Data} {view : PosterView} {url : URL}

theorem PosterStep.waitingBlock (h : PosterStep parse decode s event s')
    (hblock : ⟨view, url⟩ ∈ s.loadBlocks) :
    ⟨view, url⟩ ∈ s'.loadBlocks ∨ (∃ image, ⟨view, url, image⟩ ∈ s'.mainQueue) ∨
      s.cachedImage decode url = none ∧
        s'.downloads = s.downloads ++ [⟨view, url, .running⟩] := by
  cases h.change with
  | hit i v u image hi hcached =>
    cases eq_or_mem_eraseIdx hi hblock with
    | inl heq =>
      obtain ⟨rfl, rfl⟩ := LoadBlock.mk.inj heq
      exact .inr (.inl ⟨image, List.mem_append_right _ List.mem_cons_self⟩)
    | inr hrest => exact .inl hrest
  | missed i v u views hi hcached hviews =>
    cases eq_or_mem_eraseIdx hi hblock with
    | inl heq =>
      obtain ⟨rfl, rfl⟩ := LoadBlock.mk.inj heq
      exact .inr (.inr ⟨hcached, rfl⟩)
    | inr hrest => exact .inl hrest
  | loaded i content views hviews => exact .inl (List.mem_append_left _ hblock)
  | queued v string => exact .inl (List.mem_append_left _ hblock)
  | _ => exact .inl hblock

theorem PosterStep.waitingAssignment (h : PosterStep parse decode s event s') {image : UIImage}
    (hqueued : ⟨view, url, image⟩ ∈ s.mainQueue) :
    ⟨view, url, image⟩ ∈ s'.mainQueue ∨ s'.views.shown view = .poster url image := by
  cases h.change with
  | loaded i content views hviews =>
    rw [← PosterLoader.cancelTask_mainQueue s i] at hqueued
    exact .inl hqueued
  | hit i v u picture hi hcached => exact .inl (List.mem_append_left _ hqueued)
  | stored i outcome v u entry picture hi haccepted => exact .inl (List.mem_append_left _ hqueued)
  | assigned block rest hqueue =>
    rw [hqueue] at hqueued
    cases List.mem_cons.mp hqueued with
    | inl heq =>
      subst heq
      exact .inr (PosterViews.shown_setShown ..)
    | inr hrest => exact .inl hrest
  | _ => exact .inl hqueued

theorem PosterStep.unfinishedDownload (h : PosterStep parse decode s event s') {i : Nat}
    {download : Download URL} (hi : s.downloads[i]? = some download)
    (hunfinished : download.unfinished = some ⟨view, url⟩) :
    (∃ next, s'.downloads[i]? = some next ∧ next.unfinished = some ⟨view, url⟩) ∨
      (∃ image, ⟨view, url, image⟩ ∈ s'.mainQueue) ∨
      ∃ outcome, event = .downloadCompletes i outcome ∧ acceptedPoster decode outcome = none := by
  have hlt := (List.getElem?_eq_some_iff.mp hi).1
  cases h.change with
  | loaded cell content views hviews =>
    left
    simp only [PosterLoader.cancelTask]
    split
    · exact ⟨download, hi, hunfinished⟩
    · rename_i task htask
      refine ⟨if task = i then download.cancel else download, ?_, ?_⟩
      · rw [List.getElem?_modify, hi]
        by_cases htaken : task = i <;> simp [htaken]
      · by_cases htaken : task = i
        · rw [if_pos htaken, unfinished_cancel, hunfinished]
        · rw [if_neg htaken, hunfinished]
  | missed j v u views hj hcached hviews =>
    exact .inl ⟨download, (List.getElem?_append_left hlt).trans hi, hunfinished⟩
  | stored j outcome v u entry image hj haccepted =>
    by_cases hij : j = i
    · subst hij
      obtain rfl := Option.some.inj (hj.symm.trans hi)
      obtain ⟨rfl, rfl⟩ := LoadBlock.mk.inj (Option.some.inj hunfinished)
      exact .inr (.inl ⟨image, List.mem_append_right _ List.mem_cons_self⟩)
    · exact .inl ⟨download, (List.getElem?_set_ne hij).trans hi, hunfinished⟩
  | rejected j outcome ended hj haccepted =>
    by_cases hij : j = i
    · subst hij
      exact .inr (.inr ⟨outcome, rfl, haccepted⟩)
    · exact .inl ⟨download, (List.getElem?_set_ne hij).trans hi, hunfinished⟩
  | _ => exact .inl ⟨download, hi, hunfinished⟩

end Places

section Balance
variable [DecidableEq URL] (parse : String → Option URL) (decode : Data → Option UIImage)

namespace PosterLoader

def displayed (self : PosterLoader URL Data UIImage) (events : List (PosterEvent Data)) :
    Multiset (LoadBlock URL) :=
  emitted (handle parse decode) (fun s event => (s.assigned? event).toList) self events

def rejected (self : PosterLoader URL Data UIImage) (events : List (PosterEvent Data)) :
    Multiset (LoadBlock URL) :=
  emitted (handle parse decode) (fun s event => (s.failed? decode event).toList) self events

end PosterLoader

variable {parse decode} {s s' : PosterLoader URL Data UIImage} {event : PosterEvent Data}

theorem completed_download {i : Nat} {outcome : TaskOutcome Data}
    (h : PosterStep parse decode s (.downloadCompletes i outcome) s') {download : Download URL}
    (hi : s.downloads[i]? = some download) : download.state ≠ .completed := by
  intro hcompleted
  have hrefused : s.completeDownload decode i outcome = none := by
    simp only [PosterLoader.completeDownload, hi, hcompleted]
  have hstep : s.completeDownload decode i outcome = some s' := h
  rw [hrefused] at hstep
  cases hstep

open PosterLoader PosterEvent in
theorem PosterStep.balance (h : PosterStep parse decode s event s') :
    s.outstanding + (event.request? parse).toList =
      (s.assigned? event).toList + (s.failed? decode event).toList + s'.outstanding := by
  have hstep := h
  cases h.change with
  | prepared cell =>
    simp [request?, assigned?, failed?, outstanding, unfinished,
      PosterLoader.prepareForReuse]
  | loaded cell content views hviews =>
    have hunfinished := unfinished_cancelTask s cell
    unfold unfinished at hunfinished
    simp only [request?, assigned?, failed?, outstanding, unfinished, hunfinished,
      cancelTask_mainQueue, ← Multiset.coe_add, Option.toList_none, Multiset.coe_nil]
    abel
  | queued view url =>
    simp only [request?, assigned?, failed?, outstanding, unfinished, ← Multiset.coe_add,
      Option.toList_none, Multiset.coe_nil]
    abel
  | hit i view url image hblock hcached =>
    simp only [request?, assigned?, failed?, outstanding, unfinished, loadBlocks_eraseIdx hblock,
      List.map_append, List.map_cons, List.map_nil, Assignment.block, ← Multiset.coe_add,
      Option.toList_none, Multiset.coe_nil, Multiset.coe_singleton]
    abel
  | missed i view url views hblock hcached hviews =>
    simp only [request?, assigned?, failed?, outstanding, unfinished, loadBlocks_eraseIdx hblock,
      List.filterMap_append, List.filterMap_cons, List.filterMap_nil, Download.unfinished,
      Download.block, ← Multiset.coe_add, Option.toList_none, Multiset.coe_nil,
      Multiset.coe_singleton]
    abel
  | stored i outcome view url entry image hdownload haccepted =>
    have hended := unfinished_set s.downloads hdownload (completed_download hstep hdownload)
    simp only [request?, assigned?, failed?, haccepted, outstanding, unfinished, hended,
      Download.block, List.map_append, List.map_cons, List.map_nil, Assignment.block,
      ← Multiset.coe_add, Option.toList_none, Multiset.coe_nil, Multiset.coe_singleton]
    abel
  | rejected i outcome download hdownload haccepted =>
    have hended := unfinished_set s.downloads hdownload (completed_download hstep hdownload)
    simp only [request?, assigned?, failed?, haccepted, outstanding, unfinished, hdownload, hended,
      Option.map_some, Option.toList_some, Option.toList_none, Multiset.coe_nil,
      Multiset.coe_singleton]
    abel
  | assigned block rest hqueue =>
    simp only [request?, assigned?, failed?, hqueue, outstanding, unfinished, List.head?_cons,
      Option.map_some, Option.toList_some, Option.toList_none, List.map_cons, Multiset.coe_nil,
      ← Multiset.cons_coe, ← Multiset.singleton_add]
    abel

theorem PosterStep.shows_assigned (h : PosterStep parse decode s event s') {block : LoadBlock URL}
    (hassigned : s.assigned? event = some block) :
    ∃ image, s'.views.shown block.view = .poster block.url image := by
  cases h.change with
  | assigned first rest hqueue =>
    simp only [PosterLoader.assigned?, hqueue, List.head?_cons, Option.map_some,
      Option.some.injEq] at hassigned
    subst hassigned
    exact ⟨first.image, PosterViews.shown_setShown ..⟩
  | _ => cases hassigned

theorem PosterStep.work_lt (h : PosterStep parse decode s event s')
    (hinternal : event.internal = true) : s'.work < s.work := by
  have hstep := h
  cases h.change with
  | prepared cell => cases hinternal
  | loaded cell content views hviews => cases hinternal
  | queued view url => cases hinternal
  | hit i view url image hblock hcached =>
    have hlt := (List.getElem?_eq_some_iff.mp hblock).1
    simp only [PosterLoader.work, PosterLoader.unfinished, List.length_eraseIdx_of_lt hlt,
      List.length_append, List.length_singleton]
    omega
  | missed i view url views hblock hcached hviews =>
    have hlt := (List.getElem?_eq_some_iff.mp hblock).1
    simp only [PosterLoader.work, PosterLoader.unfinished, List.length_eraseIdx_of_lt hlt,
      List.filterMap_append, List.length_append, List.filterMap_cons, List.filterMap_nil,
      Download.unfinished, List.length_singleton]
    omega
  | stored i outcome view url entry image hdownload haccepted =>
    have hended := congrArg Multiset.card
      (unfinished_set s.downloads hdownload (completed_download hstep hdownload))
    simp only [Multiset.card_add, Multiset.card_singleton, Multiset.coe_card] at hended
    simp only [PosterLoader.work, PosterLoader.unfinished, hended, List.length_append,
      List.length_singleton]
    omega
  | rejected i outcome download hdownload haccepted =>
    have hended := congrArg Multiset.card
      (unfinished_set s.downloads hdownload (completed_download hstep hdownload))
    simp only [Multiset.card_add, Multiset.card_singleton, Multiset.coe_card] at hended
    simp only [PosterLoader.work, PosterLoader.unfinished, hended]
    omega
  | assigned block rest hqueue =>
    simp only [PosterLoader.work, PosterLoader.unfinished, hqueue, List.length_cons]
    omega

abbrev InternalStep (parse : String → Option URL) (decode : Data → Option UIImage) :
    PosterLoader URL Data UIImage → PosterEvent Data → PosterLoader URL Data UIImage → Prop :=
  guarded (fun _ event => event.internal = true) (PosterStep parse decode)

abbrev OfflineStep (parse : String → Option URL) (decode : Data → Option UIImage) :
    PosterLoader URL Data UIImage → PosterEvent Data → PosterLoader URL Data UIImage → Prop :=
  guarded (fun _ event => ∀ i outcome, event = .downloadCompletes i outcome →
    acceptedPoster decode outcome = none) (InternalStep parse decode)

theorem offline_step_of_outstanding (parse : String → Option URL) (decode : Data → Option UIImage)
    (h : s.outstanding ≠ 0) : ∃ event s', OfflineStep parse decode s event s' := by
  by_contra hnone
  have hrefused : ∀ event s', event.internal = true →
      (∀ i outcome, event = .downloadCompletes i outcome → acceptedPoster decode outcome = none) →
        ¬ PosterStep parse decode s event s' :=
    fun event s' hinternal hoffline hstep => hnone ⟨event, s', hoffline, hinternal, hstep⟩
  refine h ?_
  have hblocks : s.loadBlocks = [] := by
    cases hblocks : s.loadBlocks with
    | nil => rfl
    | cons block rest =>
      have hfirst : s.loadBlocks[0]? = some block := by simp [hblocks]
      cases hcached : s.cachedImage decode block.url with
      | some image =>
        obtain ⟨s', hstep, -⟩ := lookup_hit parse hfirst hcached
        exact absurd hstep (hrefused _ s' rfl (by simp))
      | none =>
        obtain ⟨s', hstep, -⟩ := lookup_miss parse hfirst hcached
        exact absurd hstep (hrefused _ s' rfl (by simp))
  have hdownloads : s.unfinished = [] := by
    refine List.filterMap_eq_nil_iff.mpr fun download hmem => ?_
    obtain ⟨i, hi⟩ := List.mem_iff_getElem?.mp hmem
    have hrejected : ∀ j outcome, (.downloadCompletes i (.cancelled Data) : PosterEvent Data) =
        .downloadCompletes j outcome → acceptedPoster decode outcome = none := by
      rintro j outcome heq
      rw [← (PosterEvent.downloadCompletes.inj heq).2]
      rfl
    have hends : s.completeDownload decode i (.cancelled Data) = none :=
      Option.eq_none_iff_forall_ne_some.mpr fun s' hstep => hrefused _ s' rfl hrejected hstep
    obtain ⟨view, url, state⟩ := download
    cases state with
    | completed => rfl
    | running => simp [PosterLoader.completeDownload, hi] at hends
    | cancelled => simp [PosterLoader.completeDownload, hi, TaskOutcome.cancelled] at hends
  have hqueue : s.mainQueue = [] := by
    have hruns : s.runMainBlock = none := Option.eq_none_iff_forall_ne_some.mpr fun s' hstep =>
      hrefused .mainBlockRuns s' rfl (by simp) hstep
    cases hqueue : s.mainQueue with
    | nil => rfl
    | cons block rest => simp [PosterLoader.runMainBlock, hqueue] at hruns
  simp [PosterLoader.outstanding, hblocks, hdownloads, hqueue]

theorem exists_offline_run (parse : String → Option URL) (decode : Data → Option UIImage)
    (s : PosterLoader URL Data UIImage) :
    ∃ events s', Run (OfflineStep parse decode) s events s' ∧ s'.outstanding = 0 := by
  refine exists_run_of_progress PosterLoader.work (fun u hleft => ?_) s
  obtain ⟨event, s', hstep⟩ := offline_step_of_outstanding parse decode hleft
  exact ⟨event, s', hstep, hstep.2.2.work_lt hstep.2.1⟩

end Balance

section Runs
variable [DecidableEq URL] {parse : String → Option URL} {decode : Data → Option UIImage}
  {s₀ s : PosterLoader URL Data UIImage} {events : List (PosterEvent Data)}

theorem run_balance (h : Run (PosterStep parse decode) s₀ events s) :
    s₀.outstanding + (events.filterMap (PosterEvent.request? parse) : Multiset (LoadBlock URL)) =
      s₀.displayed parse decode events + s₀.rejected parse decode events + s.outstanding := by
  have hbalance := Run.conserves PosterLoader.outstanding
    (fun event => ((event.request? parse).toList : Multiset _))
    (fun s event => ((s.assigned? event).toList : Multiset _) +
      ((s.failed? decode event).toList : Multiset _))
    (fun _ _ _ hstep => PosterStep.balance hstep) h
  rw [emitted_add, sum_requests] at hbalance
  exact hbalance

/-- Each load that the tables ask for from the launch on is assigned to its view
once, ends once without an image or is still under way, whatever the order of the
steps; and the step that assigns it leaves its poster on the view. -/
theorem loads_are_conserved {cache : URL → Option (CachedURLResponse Data)}
    (h : Run (PosterStep parse decode) (.initial cache) events s) :
    (events.filterMap (PosterEvent.request? parse) : Multiset (LoadBlock URL)) =
        PosterLoader.displayed parse decode (.initial cache) events +
          PosterLoader.rejected parse decode (.initial cache) events + s.outstanding ∧
      ∀ (t : PosterLoader URL Data UIImage) event t' block, PosterStep parse decode t event t' →
        t.assigned? event = some block →
          ∃ image, t'.views.shown block.view = .poster block.url image := by
  have hstart : (PosterLoader.initial cache : PosterLoader URL Data UIImage).outstanding = 0 := rfl
  have hbalance := run_balance h
  rw [hstart, zero_add] at hbalance
  exact ⟨hbalance, fun _ _ _ _ hstep hassigned => hstep.shows_assigned hassigned⟩

theorem loads_are_conserved_three : ∃ (events : List (PosterEvent String))
    (s₀ s : PosterLoader String String String),
    s₀.displayed some some events = {⟨.cell 0, "a"⟩} ∧
      s₀.rejected some some events = {⟨.cell 0, "b"⟩} ∧ s.outstanding = {⟨.cell 0, "c"⟩} ∧
      (events.filterMap (PosterEvent.request? some) : Multiset (LoadBlock String)) =
        s₀.displayed some some events + s₀.rejected some some events + s.outstanding := by
  have hrun : ∃ s : PosterLoader String String String,
      Run (PosterStep some some)
        (.initial fun url => if url = "a" then some ⟨.http 200, url⟩ else none)
        [.load 0 (.tvShow (showWithPoster 1 "a")), .loadBlockRuns 0,
          .load 0 (.tvShow (showWithPoster 2 "b")), .loadBlockRuns 0, .mainBlockRuns,
          .load 0 (.tvShow (showWithPoster 3 "c")), .downloadCompletes 0 (.cancelled String)] s ∧
        s.outstanding = {⟨.cell 0, "c"⟩} := ⟨_, run_of_exec rfl, rfl⟩
  obtain ⟨s, hrun, hleft⟩ := hrun
  exact ⟨_, _, s, rfl, rfl, hleft, (loads_are_conserved hrun).1⟩

structure ComesToRest (parse : String → Option URL) (decode : Data → Option UIImage)
    (s₀ : PosterLoader URL Data UIImage) (events : List (PosterEvent Data))
    (s : PosterLoader URL Data UIImage) : Prop where
  bounded : events.length ≤ 3 * s₀.outstanding.card
  resting : (∀ event s', ¬ InternalStep parse decode s event s') ↔ s.outstanding = 0
  settled : s.outstanding = 0 →
    s₀.outstanding = s₀.displayed parse decode events + s₀.rejected parse decode events

/-- Left alone, the loaders come to rest within three steps for each load under
way, whatever order the steps take and however the downloads end. -/
theorem loads_come_to_rest (h : Run (InternalStep parse decode) s₀ events s) :
    ComesToRest parse decode s₀ events s where
  bounded := by
    have hlength := h.length_add_le PosterLoader.work
      fun _ _ _ hstep => hstep.2.work_lt hstep.1
    have hwork := work_le s₀
    omega
  resting := by
    constructor
    · intro hstuck
      by_contra hleft
      obtain ⟨event, s', -, hstep⟩ := offline_step_of_outstanding parse decode hleft
      exact hstuck event s' hstep
    · intro hnone event s' hstep
      have hlower := hstep.2.work_lt hstep.1
      have hwork := work_le s
      rw [hnone, Multiset.card_zero] at hwork
      omega
  settled hnone := by
    have hbalance := run_balance h.of_guarded
    have hrequests : events.filterMap (PosterEvent.request? parse) = [] :=
      List.filterMap_eq_nil_iff.mpr fun event hevent =>
        request_of_internal parse (h.forall_of_guarded event hevent)
    rwa [hrequests, hnone, Multiset.coe_nil, add_zero, add_zero] at hbalance

theorem loads_come_to_rest_two : ∃ s₀ s : PosterLoader String String String,
    s₀.outstanding = {⟨.cell 0, "a"⟩, ⟨.imageView 0, "b"⟩} ∧
      ComesToRest some some s₀ [.loadBlockRuns 1, .loadBlockRuns 0,
        .downloadCompletes 0 (.cancelled String), .mainBlockRuns] s ∧ s.outstanding = 0 := by
  have hrun : ∃ s : PosterLoader String String String,
      Run (PosterStep some some)
        { PosterLoader.initial fun url => if url = "a" then some ⟨.http 200, url⟩ else none with
          loadBlocks := [⟨.cell 0, "a"⟩, ⟨.imageView 0, "b"⟩] }
        [.loadBlockRuns 1, .loadBlockRuns 0, .downloadCompletes 0 (.cancelled String),
          .mainBlockRuns] s ∧ s.outstanding = 0 := ⟨_, run_of_exec rfl, rfl⟩
  obtain ⟨s, hrun, hrest⟩ := hrun
  refine ⟨_, s, rfl, loads_come_to_rest (hrun.guarded_of_forall ?_), hrest⟩
  simp [PosterEvent.internal]

end Runs

end TVShows
