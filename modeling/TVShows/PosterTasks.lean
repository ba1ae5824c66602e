import TVShows.PosterCache
import TVShows.RowRendering

/-! The task of a cell. A cell keeps the number of one download, the last that it
started, and a load cancels that one only. A running download that is not the
newest of its cell, or that an image view started, runs until it ends by itself. -/

namespace TVShows

open TransitionRun

section LastPosition
variable {α : Type*} {l : List α} {a b : α} {k : Nat}

def IsLast (l : List α) (a : α) (k : Nat) : Prop :=
  l[k]? = some a ∧ ∀ j, k < j → l[j]? ≠ some a

theorem isLast_append_self : IsLast (l ++ [a]) a k ↔ k = l.length := by
  constructor
  · rintro ⟨hk, hlast⟩
    have hlt : k < (l ++ [a]).length := (List.getElem?_eq_some_iff.mp hk).1
    have hle : l.length ≤ k := by
      by_contra hless
      exact hlast l.length (by omega) (by simp)
    rw [List.length_append, List.length_singleton] at hlt
    omega
  · rintro rfl
    refine ⟨by simp, fun j hj hsome => ?_⟩
    have hlt := (List.getElem?_eq_some_iff.mp hsome).1
    rw [List.length_append, List.length_singleton] at hlt
    omega

theorem isLast_append_of_ne (h : b ≠ a) : IsLast (l ++ [b]) a k ↔ IsLast l a k := by
  have hget : ∀ j : Nat, (l ++ [b])[j]? = some a ↔ l[j]? = some a := by
    intro j
    obtain hlt | heq | hgt := Nat.lt_trichotomy j l.length
    · rw [List.getElem?_append_left hlt]
    · subst heq
      simp [h]
    · have hout : (l ++ [b]).length ≤ j := by
        rw [List.length_append, List.length_singleton]
        omega
      rw [List.getElem?_eq_none hout, List.getElem?_eq_none (Nat.le_of_lt hgt)]
  simp only [IsLast, hget, ne_eq]

end LastPosition

variable {URL Data UIImage : Type}

namespace PosterLoader

/-- The views that started the downloads, by their numbers. -/
def owners (self : PosterLoader URL Data UIImage) : List PosterView :=
  self.downloads.map Download.view

def TasksNewest (self : PosterLoader URL Data UIImage) : Prop :=
  ∀ cell k, (self.views.cells cell).task = some k ↔ IsLast self.owners (.cell cell) k

end PosterLoader

section Tasks

@[simp] theorem task_setTitle (views : PosterViews URL UIImage) (cell : Nat) (title : String)
    (i : Nat) : ((views.setTitle cell title).cells i).task = (views.cells i).task := by
  by_cases hi : i = cell
  · subst hi
    simp [PosterViews.setTitle]
  · simp [PosterViews.setTitle, hi]

@[simp] theorem task_setShown (views : PosterViews URL UIImage) (view : PosterView)
    (thumbnail : Thumbnail URL UIImage) (i : Nat) :
    ((views.setShown view thumbnail).cells i).task = (views.cells i).task := by
  cases view with
  | imageView j => rfl
  | cell j =>
    by_cases hj : i = j
    · subst hj
      simp [PosterViews.setShown]
    · simp [PosterViews.setShown, hj]

theorem task_load (parse : String → Option URL) (s : PosterLoader URL Data UIImage) (cell : Nat)
    (content : CellContent) (i : Nat) :
    ((s.load parse cell content).views.cells i).task = (s.views.cells i).task := by
  cases content with
  | tvShow tvShow =>
    rw [PosterLoader.load, PosterLoader.loadTVShow_views]
    cases tvShow.name <;> simp
  | tvShowStore record =>
    rw [PosterLoader.load, PosterLoader.loadTVShowStore_views]
    dsimp only
    split_ifs <;> simp

theorem cancel_view (download : Download URL) : download.cancel.view = download.view := by
  unfold Download.cancel
  split <;> rfl

theorem owners_cancelTask (s : PosterLoader URL Data UIImage) (cell : Nat) :
    (s.cancelTask cell).owners = s.owners := by
  unfold PosterLoader.cancelTask
  split
  · rfl
  · rename_i task htask
    refine List.ext_getElem? fun i => ?_
    simp only [PosterLoader.owners, List.getElem?_map, List.getElem?_modify]
    cases s.downloads[i]? with
    | none => rfl
    | some download =>
      by_cases hi : task = i
      · simp [hi, cancel_view]
      · simp [hi]

theorem owners_set {downloads : List (Download URL)} {i : Nat} {download ended : Download URL}
    (hi : downloads[i]? = some download) (hview : ended.view = download.view) :
    (downloads.set i ended).map Download.view = downloads.map Download.view := by
  obtain ⟨hlt, rfl⟩ := List.getElem?_eq_some_iff.mp hi
  have hlt' : i < (downloads.map Download.view).length := by rwa [List.length_map]
  have hget : (downloads.map Download.view)[i] = downloads[i].view := List.getElem_map ..
  rw [List.map_set, hview, ← hget, List.set_getElem_self hlt']

end Tasks

section Steps
variable [DecidableEq URL] {parse : String → Option URL} {decode : Data → Option UIImage}
  {s s' : PosterLoader URL Data UIImage} {event : PosterEvent Data}

theorem PosterStep.tasks (h : PosterStep parse decode s event s') :
    (s'.owners = s.owners ∧ ∀ i, (s'.views.cells i).task = (s.views.cells i).task) ∨
      ∃ view, s'.owners = s.owners ++ [view] ∧ ∀ i, (s'.views.cells i).task =
        if view = .cell i then some s.owners.length else (s.views.cells i).task := by
  unfold PosterStep at h
  cases event with
  | prepareForReuse cell =>
    obtain rfl := Option.some.inj h
    exact .inl ⟨rfl, fun i => by simp [PosterLoader.prepareForReuse]⟩
  | load cell content =>
    obtain rfl := Option.some.inj h
    refine .inl ⟨?_, task_load parse s cell content⟩
    obtain ⟨views, -, hload⟩ := PosterLoader.load_eq parse s cell content
    rw [hload]
    exact owners_cancelTask s cell
  | loadImage view url =>
    have hqueue : s.handle parse decode (.loadImage view url) =
        some (s.queueLoad parse view url) := by cases view <;> rfl
    rw [hqueue, PosterLoader.queueLoad_eq] at h
    obtain rfl := Option.some.inj h
    exact .inl ⟨rfl, fun _ => rfl⟩
  | loadBlockRuns i =>
    simp only [PosterLoader.handle, PosterLoader.runLoadBlock] at h
    split at h
    · cases h
    · rename_i block hblock
      split at h
      · obtain rfl := Option.some.inj h
        exact .inl ⟨rfl, fun _ => rfl⟩
      · obtain rfl := Option.some.inj h
        refine .inr ⟨block.view, ?_, fun j => ?_⟩
        · unfold PosterLoader.startDownload
          cases block.view <;> simp [PosterLoader.owners]
        · unfold PosterLoader.startDownload
          cases hview : block.view with
          | imageView n => simp
          | cell n =>
            by_cases hj : n = j
            · simp [hj, PosterViews.setTask, PosterLoader.owners]
            · simp [hj, Ne.symm hj, PosterViews.setTask]
  | downloadCompletes i outcome =>
    refine .inl ⟨?_, fun j => by rw [completeDownload_views h]⟩
    have hstep : PosterStep parse decode s (.downloadCompletes i outcome) s' := h
    cases hstep.change with
    | stored _ _ view url entry image hdownload haccepted => exact owners_set hdownload rfl
    | rejected _ _ download hdownload haccepted => exact owners_set hdownload rfl
  | mainBlockRuns =>
    simp only [PosterLoader.handle, PosterLoader.runMainBlock] at h
    split at h
    · cases h
    · obtain rfl := Option.some.inj h
      exact .inl ⟨rfl, fun i => by simp⟩

theorem PosterStep.tasksNewest (h : PosterStep parse decode s event s') (hs : s.TasksNewest) :
    s'.TasksNewest := by
  intro cell k
  obtain ⟨howners, htasks⟩ | ⟨view, howners, htasks⟩ := h.tasks
  · rw [howners, htasks]
    exact hs cell k
  · rw [howners, htasks]
    by_cases hview : view = .cell cell
    · subst hview
      rw [if_pos rfl, isLast_append_self, Option.some.injEq, eq_comm]
    · rw [if_neg hview, isLast_append_of_ne hview]
      exact hs cell k

theorem PosterStep.isLast (h : PosterStep parse decode s event s') {view : PosterView} {k : Nat}
    {download : Download URL} (hk : s.downloads[k]? = some download) (hlast : IsLast s'.owners view k) :
    IsLast s.owners view k := by
  obtain ⟨howners, -⟩ | ⟨owner, howners, -⟩ := h.tasks
  · exact howners ▸ hlast
  · rw [howners] at hlast
    by_cases hview : owner = view
    · subst hview
      have heq := isLast_append_self.mp hlast
      have hlt := (List.getElem?_eq_some_iff.mp hk).1
      rw [PosterLoader.owners, List.length_map] at heq
      omega
    · exact (isLast_append_of_ne hview).mp hlast

theorem PosterStep.cancels (h : PosterStep parse decode s event s') {k : Nat}
    {download download' : Download URL} (hk : s.downloads[k]? = some download)
    (hstate : download.state ≠ .cancelled) (hk' : s'.downloads[k]? = some download')
    (hstate' : download'.state = .cancelled) : ∃ cell, (s.views.cells cell).task = some k := by
  have hsame : s'.downloads[k]? ≠ some download := by
    intro hsame
    obtain rfl := Option.some.inj (hk'.symm.trans hsame)
    exact hstate hstate'
  have hset : ∀ i (ended : Download URL), ended.state = .completed →
      s'.downloads ≠ s.downloads.set i ended := by
    intro i ended hended hset
    rw [hset] at hk' hsame
    by_cases hi : i = k
    · subst hi
      have hlt := (List.getElem?_eq_some_iff.mp hk).1
      rw [List.getElem?_set_self hlt, Option.some.injEq] at hk'
      subst hk'
      exact absurd (hended.symm.trans hstate') (by decide)
    · exact hsame ((List.getElem?_set_ne hi).trans hk)
  cases h.change with
  | loaded cell content views hviews =>
    refine ⟨cell, ?_⟩
    by_contra htask
    refine hsame ?_
    change (s.cancelTask cell).downloads[k]? = some download
    unfold PosterLoader.cancelTask
    split
    · exact hk
    · rename_i task hcell
      have hne : task ≠ k := fun heq => htask (heq ▸ hcell)
      simp [hne, hk]
  | missed i view url views hblock hcached hviews =>
    have hlt := (List.getElem?_eq_some_iff.mp hk).1
    exact absurd ((List.getElem?_append_left hlt).trans hk) hsame
  | stored i outcome view url entry image hdownload haccepted => exact absurd rfl (hset i _ rfl)
  | rejected i outcome ended hdownload haccepted => exact absurd rfl (hset i _ rfl)
  | _ => exact absurd hk hsame

end Steps

section Runs
variable [DecidableEq URL] {parse : String → Option URL} {decode : Data → Option UIImage}
  {s₀ s : PosterLoader URL Data UIImage} {events : List (PosterEvent Data)}
  {cache : URL → Option (CachedURLResponse Data)} {k : Nat} {download : Download URL}

theorem tasksNewest_of_run (h : Run (PosterStep parse decode) (.initial cache) events s) :
    s.TasksNewest := by
  refine h.preserves (P := PosterLoader.TasksNewest)
    (fun _ _ _ hs hstep => hstep.tasksNewest hs) fun cell k => ?_
  simp [PosterLoader.initial, PosterViews.initial, PosterLoader.owners, IsLast]

theorem uncancelled_of_run (h : Run (PosterStep parse decode) s₀ events s)
    (hnewest : s₀.TasksNewest) (hk : s₀.downloads[k]? = some download)
    (hstate : download.state ≠ .cancelled) (hlast : ∀ cell, ¬ IsLast s₀.owners (.cell cell) k)
    {download' : Download URL} (hk' : s.downloads[k]? = some download') :
    download'.state ≠ .cancelled := by
  induction h generalizing download with
  | nil s =>
    obtain rfl := Option.some.inj (hk.symm.trans hk')
    exact hstate
  | cons hstep _ ih =>
    obtain ⟨state, hnext⟩ := hstep.download hk
    refine ih (hstep.tasksNewest hnewest) hnext (fun hcancelled => ?_)
      (fun cell hnow => hlast cell (hstep.isLast hk hnow)) hk'
    obtain ⟨cell, htask⟩ := hstep.cancels hk hstate hnext hcancelled
    exact hlast cell ((hnewest cell k).mp htask)

theorem load_cancels (parse : String → Option URL) (decode : Data → Option UIImage) {cell : Nat}
    (content : CellContent) (htask : (s.views.cells cell).task = some k)
    (hk : s.downloads[k]? = some download) (hrunning : download.state = .running) :
    ∃ s', PosterStep parse decode s (.load cell content) s' ∧
      s'.downloads[k]? = some { download with state := .cancelled } := by
  refine ⟨s.load parse cell content, rfl, ?_⟩
  obtain ⟨views, -, hload⟩ := PosterLoader.load_eq parse s cell content
  have hcancel : download.cancel = { download with state := .cancelled } := by
    unfold Download.cancel
    rw [hrunning]
  rw [hload, ← hcancel]
  change (s.cancelTask cell).downloads[k]? = _
  simp [PosterLoader.cancelTask, htask, hk]

/-- In any reachable state some continuation cancels a running download exactly
when it is the newest one that a cell has started: the others, and all those of
image views, can only be left to end. -/
theorem cancellable_iff_newest (h : Run (PosterStep parse decode) (.initial cache) events s)
    (hk : s.downloads[k]? = some download) (hrunning : download.state = .running) :
    (∃ events' s' download', Run (PosterStep parse decode) s events' s' ∧
      s'.downloads[k]? = some download' ∧ download'.state = .cancelled) ↔
      ∃ cell, IsLast s.owners (.cell cell) k := by
  have hnewest := tasksNewest_of_run h
  constructor
  · rintro ⟨events', s', download', hrun, hk', hcancelled⟩
    by_contra hnone
    refine uncancelled_of_run hrun hnewest hk ?_ (fun cell hlast => hnone ⟨cell, hlast⟩) hk'
      hcancelled
    rw [hrunning]
    decide
  · rintro ⟨cell, hlast⟩
    obtain ⟨s', hstep, hk'⟩ := load_cancels parse decode (.tvShow (.bare none))
      ((hnewest cell k).mpr hlast) hk hrunning
    exact ⟨_, s', _, .single hstep, hk', rfl⟩

theorem cancellable_iff_newest_leaked : ∃ s : PosterLoader String String String,
    s.downloads = [⟨.cell 0, "a", .running⟩, ⟨.cell 0, "b", .running⟩] ∧
      ((∃ events' s' download', Run (PosterStep some some) s events' s' ∧
        s'.downloads[0]? = some download' ∧ download'.state = .cancelled) ↔
        ∃ cell, IsLast s.owners (.cell cell) 0) := by
  have hrun : ∃ s : PosterLoader String String String,
      Run (PosterStep some some) (.initial fun _ => none)
        [.load 0 (.tvShow (showWithPoster 1 "a")), .load 0 (.tvShow (showWithPoster 2 "b")),
          .loadBlockRuns 0, .loadBlockRuns 0] s ∧
        s.downloads = [⟨.cell 0, "a", .running⟩, ⟨.cell 0, "b", .running⟩] :=
    ⟨_, run_of_exec rfl, rfl⟩
  obtain ⟨s, hrun, hdownloads⟩ := hrun
  exact ⟨s, hdownloads, cancellable_iff_newest hrun (by rw [hdownloads]; rfl) rfl⟩

end Runs

end TVShows
