import Mathlib.Algebra.BigOperators.Group.List.Basic
import Mathlib.Logic.Relation

/-! Finite runs of a labelled transition relation. A run lists the labels of the
steps it takes; an invariant is proved of one step and carried to every run, and
so is a simulation, or what an automaton that reads the labels knows of the
state. `Along` asks a condition of each step where it is taken, and what enters,
is held and leaves at each step balances over a run. -/

namespace TransitionRun

variable {σ τ ε : Type*}

inductive Run (step : σ → ε → σ → Prop) : σ → List ε → σ → Prop
  | nil (s : σ) : Run step s [] s
  | cons {s t u : σ} {e : ε} {es : List ε} : step s e t → Run step t es u → Run step s (e :: es) u

def Reachable (init : σ → Prop) (step : σ → ε → σ → Prop) (s : σ) : Prop :=
  ∃ s₀ es, init s₀ ∧ Run step s₀ es s

/-- The steps of `step` that also meet `good` in the state they start from. -/
def guarded (good : σ → ε → Prop) (step : σ → ε → σ → Prop) (s : σ) (e : ε) (t : σ) : Prop :=
  good s e ∧ step s e t

/-- Every step that the labels ask for, in the state where it is asked for, meets `Q`. -/
def Along (step : σ → ε → σ → Prop) (Q : σ → ε → Prop) : σ → List ε → Prop
  | _, [] => True
  | s, e :: es => Q s e ∧ ∀ t, step s e t → Along step Q t es

section Runs
variable {step : σ → ε → σ → Prop}

theorem Run.single {s t : σ} {e : ε} (h : step s e t) : Run step s [e] t :=
  .cons h (.nil t)

theorem Run.append {s t u : σ} {es fs : List ε} (h : Run step s es t) (k : Run step t fs u) :
    Run step s (es ++ fs) u := by
  induction h with
  | nil s => exact k
  | cons hs _ ih => exact .cons hs (ih k)

theorem Run.snoc {s t u : σ} {e : ε} {es : List ε} (h : Run step s es t) (k : step t e u) :
    Run step s (es ++ [e]) u :=
  h.append (.single k)

theorem Run.guarded_of_forall {good : σ → ε → Prop} {s t : σ} {es : List ε} (h : Run step s es t)
    (hgood : ∀ e ∈ es, ∀ u, good u e) : Run (guarded good step) s es t := by
  induction h with
  | nil s => exact .nil s
  | cons hs _ ih =>
    exact .cons ⟨hgood _ (by simp) _, hs⟩ (ih fun e he => hgood e (List.mem_cons_of_mem _ he))

theorem Run.of_guarded {good : σ → ε → Prop} {s t : σ} {es : List ε}
    (h : Run (guarded good step) s es t) : Run step s es t := by
  induction h with
  | nil s => exact .nil s
  | cons hs _ ih => exact .cons hs.2 ih

theorem Run.forall_of_guarded {good : ε → Prop} {s t : σ} {es : List ε}
    (h : Run (guarded (fun _ e => good e) step) s es t) : ∀ e ∈ es, good e := by
  induction h with
  | nil s => exact fun _ he => nomatch he
  | cons hs _ ih => exact List.forall_mem_cons.mpr ⟨hs.1, ih⟩

theorem Run.preserves {P : σ → Prop} (hstep : ∀ s e t, P s → step s e t → P t)
    {s t : σ} {es : List ε} (h : Run step s es t) (hs : P s) : P t := by
  induction h with
  | nil s => exact hs
  | cons he _ ih => exact ih (hstep _ _ _ hs he)

theorem Run.increases {P : σ → Prop} {R : σ → σ → Prop} (hinv : ∀ s e t, P s → step s e t → P t)
    (refl : ∀ s, R s s) (trans : ∀ s t u, R s t → R t u → R s u)
    (hstep : ∀ s e t, P s → step s e t → R s t)
    {s t : σ} {es : List ε} (h : Run step s es t) (hs : P s) : R s t := by
  induction h with
  | nil s => exact refl s
  | cons he _ ih => exact trans _ _ _ (hstep _ _ _ hs he) (ih (hinv _ _ _ hs he))

theorem Run.recorded {P : List ε → σ → Prop} {s t : σ} {es : List ε} (h : Run step s es t)
    (hnil : P [] s) (hsnoc : ∀ ds u e v, Run step s ds u → P ds u → step u e v → P (ds ++ [e]) v) :
    P es t := by
  have hrest : ∀ (u v : σ) (fs : List ε), Run step u fs v → ∀ ds, Run step s ds u → P ds u →
      P (ds ++ fs) v := by
    intro u v fs hrun
    induction hrun with
    | nil u => exact fun ds _ hds => by rwa [List.append_nil]
    | @cons u v w e fs he _ ih =>
      intro ds hpast hds
      have hlast := ih (ds ++ [e]) (hpast.snoc he) (hsnoc ds u e v hpast hds he)
      rwa [List.append_assoc] at hlast
  exact hrest s t es h [] (.nil s) hnil

theorem Reachable.start {init : σ → Prop} {s : σ} (h : init s) : Reachable init step s :=
  ⟨s, [], h, .nil s⟩

theorem Reachable.next {init : σ → Prop} {s t : σ} {e : ε} (h : Reachable init step s)
    (k : step s e t) : Reachable init step t := by
  obtain ⟨s₀, es, h₀, hr⟩ := h
  exact ⟨s₀, es ++ [e], h₀, hr.snoc k⟩

theorem Reachable.invariant {init : σ → Prop} {P : σ → Prop} (hinit : ∀ s, init s → P s)
    (hstep : ∀ s e t, P s → step s e t → P t) {s : σ} (h : Reachable init step s) : P s := by
  obtain ⟨s₀, es, h₀, hr⟩ := h
  exact hr.preserves hstep (hinit s₀ h₀)

end Runs

section AlongRuns
variable {step : σ → ε → σ → Prop} {Q Q' : σ → ε → Prop}

theorem along_congr {P : σ → Prop} (hinv : ∀ s e t, P s → step s e t → P t)
    (h : ∀ s e, P s → (Q s e ↔ Q' s e)) {s : σ} (hs : P s) (es : List ε) :
    Along step Q s es ↔ Along step Q' s es := by
  induction es generalizing s with
  | nil => exact Iff.rfl
  | cons e es ih =>
    have hrest : ∀ t, step s e t → (Along step Q t es ↔ Along step Q' t es) := fun t ht =>
      ih (hinv s e t hs ht)
    exact and_congr (h s e hs) (forall_congr' fun t => forall_congr' fun ht => hrest t ht)

theorem along_append {s : σ} {ds es : List ε} :
    Along step Q s (ds ++ es) ↔ Along step Q s ds ∧ ∀ t, Run step s ds t → Along step Q t es := by
  induction ds generalizing s with
  | nil =>
    refine ⟨fun h => ⟨trivial, fun t hrun => ?_⟩, fun h => h.2 s (.nil s)⟩
    cases hrun
    exact h
  | cons d ds ih =>
    constructor
    · rintro ⟨hd, hrest⟩
      refine ⟨⟨hd, fun t ht => (ih.mp (hrest t ht)).1⟩, fun u hrun => ?_⟩
      cases hrun with
      | cons ht hlater => exact (ih.mp (hrest _ ht)).2 u hlater
    · rintro ⟨⟨hd, hrest⟩, hlater⟩
      exact ⟨hd, fun t ht => ih.mpr ⟨hrest t ht, fun u hrun => hlater u (.cons ht hrun)⟩⟩

theorem run_of_along {P : σ → Prop} (hinv : ∀ s e t, P s → step s e t → P t)
    (henabled : ∀ s e, P s → Q s e → ∃ t, step s e t) {s : σ} (hs : P s) (es : List ε)
    (h : Along step Q s es) : ∃ t, Run step s es t := by
  induction es generalizing s with
  | nil => exact ⟨s, .nil s⟩
  | cons e es ih =>
    obtain ⟨t, ht⟩ := henabled s e hs h.1
    obtain ⟨u, hu⟩ := ih (hinv s e t hs ht) (h.2 t ht)
    exact ⟨u, .cons ht hu⟩

/-- If the steps that keep `P` are those that meet `Q'`, then `P` holds after
every prefix exactly when all steps meet `Q'`. -/
theorem throughout_iff_along {P : σ → Prop} (henabled : ∀ s e, P s → Q s e → ∃ t, step s e t)
    (hstep : ∀ s e t, P s → Q s e → step s e t → (P t ↔ Q' s e)) {s : σ} (hs : P s)
    (es : List ε) (h : Along step Q s es) :
    (∀ ds t, ds <+: es → Run step s ds t → P t) ↔ Along step Q' s es := by
  induction es generalizing s with
  | nil =>
    refine iff_of_true (fun ds t hds hrun => ?_) trivial
    obtain rfl := List.prefix_nil.mp hds
    cases hrun
    exact hs
  | cons e es ih =>
    constructor
    · intro hall
      have hafter : ∀ t, step s e t → P t := fun t ht =>
        hall [e] t (List.prefix_append [e] es) (.single ht)
      obtain ⟨t, ht⟩ := henabled s e hs h.1
      refine ⟨(hstep s e t hs h.1 ht).mp (hafter t ht), fun u hu => ?_⟩
      refine (ih (hafter u hu) (h.2 u hu)).mp fun ds v hds hrun => ?_
      exact hall (e :: ds) v (List.cons_prefix_cons.mpr ⟨rfl, hds⟩) (.cons hu hrun)
    · intro halong ds v hds hrun
      cases hrun with
      | nil => exact hs
      | cons hu hrest =>
        obtain ⟨rfl, htail⟩ := List.cons_prefix_cons.mp hds
        have hkept := (hstep _ _ _ hs h.1 hu).mpr halong.1
        exact (ih hkept (h.2 _ hu)).mpr (halong.2 _ hu) _ v htail hrest

end AlongRuns

section Execution

def exec (f : σ → ε → Option σ) : σ → List ε → Option σ
  | s, [] => some s
  | s, e :: es => (f s e).bind fun t => exec f t es

theorem run_of_exec {f : σ → ε → Option σ} {s t : σ} {es : List ε} (h : exec f s es = some t) :
    Run (fun s e t => f s e = some t) s es t := by
  induction es generalizing s with
  | nil =>
    simp only [exec, Option.some.injEq] at h
    exact h ▸ .nil s
  | cons e es ih =>
    simp only [exec, Option.bind_eq_some_iff] at h
    obtain ⟨u, hu, hr⟩ := h
    exact .cons hu (ih hr)

/-- An automaton that reads the labels of a run: what one step keeps for the
states of both, the run keeps. -/
theorem Run.monitored {step : σ → ε → σ → Prop} {f : τ → ε → Option τ} {I : τ → σ → Prop}
    (hstep : ∀ m s e m' t, I m s → f m e = some m' → step s e t → I m' t)
    {s t : σ} {es : List ε} (h : Run step s es t) {m m' : τ} (hm : exec f m es = some m')
    (hs : I m s) : I m' t := by
  induction h generalizing m with
  | nil s =>
    simp only [exec, Option.some.injEq] at hm
    exact hm ▸ hs
  | cons he _ ih =>
    simp only [exec, Option.bind_eq_some_iff] at hm
    obtain ⟨n, hn, hrest⟩ := hm
    exact ih hrest (hstep _ _ _ _ _ hs hn he)

end Execution

section Accounting
variable {M : Type*} [AddCommMonoid M] {f : σ → ε → Option σ}

def emitted (f : σ → ε → Option σ) (out : σ → ε → M) : σ → List ε → M
  | _, [] => 0
  | s, e :: es => out s e + match f s e with
    | some t => emitted f out t es
    | none => 0

theorem emitted_add (out out' : σ → ε → M) (s : σ) (es : List ε) :
    emitted f (fun s e => out s e + out' s e) s es = emitted f out s es + emitted f out' s es := by
  induction es generalizing s with
  | nil => simp [emitted]
  | cons e es ih =>
    cases hstep : f s e with
    | none => simp [emitted, hstep]
    | some t =>
      simp only [emitted, hstep, ih]
      exact add_add_add_comm ..

/-- The balance of one step, what enters is held or leaves, is the balance of a run. -/
theorem Run.conserves (held : σ → M) (entering : ε → M) (leaving : σ → ε → M)
    (hstep : ∀ s e t, f s e = some t → held s + entering e = leaving s e + held t)
    {s t : σ} {es : List ε} (h : Run (fun s e t => f s e = some t) s es t) :
    held s + (es.map entering).sum = emitted f leaving s es + held t := by
  induction h with
  | nil s => simp [emitted]
  | @cons s t u e es he _ ih =>
    calc held s + ((e :: es).map entering).sum
        = held s + entering e + (es.map entering).sum := by
          rw [List.map_cons, List.sum_cons, add_assoc]
      _ = leaving s e + (held t + (es.map entering).sum) := by rw [hstep s e t he, add_assoc]
      _ = emitted f leaving s (e :: es) + held u := by
          rw [ih, ← add_assoc, emitted, he]

end Accounting

section Termination

theorem Run.length_add_le {step : σ → ε → σ → Prop} (weight : σ → Nat)
    (hstep : ∀ s e t, step s e t → weight t < weight s) {s t : σ} {es : List ε}
    (h : Run step s es t) : es.length + weight t ≤ weight s := by
  induction h with
  | nil s => simp
  | cons he _ ih =>
    have hlower := hstep _ _ _ he
    rw [List.length_cons]
    omega

theorem exists_run_of_progress {step : σ → ε → σ → Prop} {goal : σ → Prop} (weight : σ → Nat)
    (hprogress : ∀ s, ¬ goal s → ∃ e t, step s e t ∧ weight t < weight s) (s : σ) :
    ∃ es t, Run step s es t ∧ goal t := by
  induction hweight : weight s using Nat.strongRecOn generalizing s with
  | ind n ih =>
    by_cases hgoal : goal s
    · exact ⟨[], s, .nil s, hgoal⟩
    · obtain ⟨e, t, hstep, hlower⟩ := hprogress s hgoal
      obtain ⟨es, u, hrun, hu⟩ := ih (weight t) (hweight ▸ hlower) t rfl
      exact ⟨e :: es, u, .cons hstep hrun, hu⟩

end Termination

section Simulation
variable {step : σ → ε → σ → Prop} {abstractStep : τ → ε → τ → Prop}

/-- A forward simulation of one step, under an invariant of the concrete
system, is a simulation of every run. -/
theorem Run.simulate {P : σ → Prop} {R : σ → τ → Prop}
    (hinv : ∀ s e t, P s → step s e t → P t)
    (hsim : ∀ s e t a, P s → R s a → step s e t → ∃ b, abstractStep a e b ∧ R t b)
    {s t : σ} {es : List ε} (h : Run step s es t) (hs : P s) {a : τ} (hR : R s a) :
    ∃ b, Run abstractStep a es b ∧ R t b := by
  induction h generalizing a with
  | nil s => exact ⟨a, .nil a, hR⟩
  | cons he _ ih =>
    obtain ⟨b, hab, hb⟩ := hsim _ _ _ a hs hR he
    obtain ⟨c, hbc, hc⟩ := ih (hinv _ _ _ hs he) hb
    exact ⟨c, .cons hab hbc, hc⟩

/-- A step that a run of the abstract system matches, at times the empty one,
makes every run match; `H` ties what the concrete system records to the labels. -/
theorem Run.refine {P : σ → Prop} {δ : Type*} {abstractStep : τ → δ → τ → Prop} {f : σ → τ}
    {H : σ → List δ → σ → Prop} (hinv : ∀ s e t, P s → step s e t → P t) (hnil : ∀ s, H s [] s)
    (happend : ∀ s t u ds ds', H s ds t → H t ds' u → H s (ds ++ ds') u)
    (hstep : ∀ s e t, P s → step s e t → ∃ ds, Run abstractStep (f s) ds (f t) ∧ H s ds t)
    {s t : σ} {es : List ε} (h : Run step s es t) (hs : P s) :
    ∃ ds, Run abstractStep (f s) ds (f t) ∧ H s ds t := by
  induction h with
  | nil s => exact ⟨[], .nil (f s), hnil s⟩
  | cons he _ ih =>
    obtain ⟨ds, hrun, hH⟩ := hstep _ _ _ hs he
    obtain ⟨ds', hrun', hH'⟩ := ih (hinv _ _ _ hs he)
    exact ⟨ds ++ ds', hrun.append hrun', happend _ _ _ _ _ hH hH'⟩

end Simulation

end TransitionRun
