import Viewsmith.Proofs.LoweringWork

/-!
# The order of siblings

The children of a node are lowered at the same time: whenever one of them waits for the source,
another may go on, and all of them share one store. Here any child may make its next request at any
time, so that between looking a file up and offering its bytes anything may happen to the store. An
export leaves the store alone; it is over when its place goes on.

What is left to do of a lowering in progress is again a script, `Task.rest`: the one that would
finish it in order. No step changes what comes of that script in the end (`Progress.Step.sound`),
whoever makes it, so every order that can be taken ends where the order of the siblings ends.

## Main definitions

* `Task`, `Progress`: a lowering in progress, with the store that its parts share.
* `Progress.Step`: some part of a lowering goes on.
* `Progress.Runs`: some steps in a row.

## Main statements

* `Progress.Step.sound`: what one step preserves.
* `Progress.Runs.sound`: what any number of steps preserves.
* `Outline.runs_build`: to lower the siblings in order is one of the orders.
* `Scene.lower_in_any_order`: every order ends, and with the same tree and assets.
-/

namespace Viewsmith

/-- The lowering of a part of a tree, in progress. -/
inductive Task where
  /-- The place itself is being lowered; its children wait. -/
  | own (script : Script Element) (children : List Outline)
  /-- The children are being lowered at the same time. -/
  | joining (element : Element) (children : List Task)
  | finished (element : Element)
  | failed (error : CompileError)

/-- Start to lower a part. -/
def Outline.start (source : Source) (mode : ImageFills) : Outline → Task
  | .mk site artwork children => .own (site.element source mode artwork) children

/-- Start to lower a selected root. -/
def Scene.start (s : Scene) (root : Nat) (source : Source) (mode : ImageFills) : Task :=
  match s.get? root, s.outline? root with
  | some node, some outline =>
    match node.kind.checkRoot node.name with
    | .ok () => outline.start source mode
    | .error e => .failed e
  | _, _ => .failed (.unknownNode root)

/-- A lowering in progress, the warnings so far, and the assets so far. -/
structure Progress where
  task : Task
  log : List Warning := []
  assets : Assets

namespace Progress

/-- The progress of a child is progress of its parent; the siblings wait. -/
def within (element : Element) (before after : List Task) (p : Progress) : Progress :=
  { p with task := .joining element (before ++ p.task :: after) }

/-- Some part of a lowering goes on. -/
inductive Step (source : Source) (mode : ImageFills) : Progress → Progress → Prop
  /-- A place makes its next request. -/
  | request {x x' : Script Element} {children : List Outline} {log log' : List Warning}
      {assets assets' : Assets} (h : x.step? log assets = some (x', log', assets')) :
      Step source mode ⟨.own x children, log, assets⟩ ⟨.own x' children, log', assets'⟩
  /-- A place is done, and its children are started together. -/
  | opens (e : Element) (children : List Outline) (log : List Warning) (assets : Assets) :
      Step source mode ⟨.own (.done e) children, log, assets⟩
        ⟨.joining e (children.map (Outline.start source mode)), log, assets⟩
  /-- A place cannot be lowered. -/
  | fails (error : CompileError) (children : List Outline) (log : List Warning) (assets : Assets) :
      Step source mode ⟨.own (.fail error) children, log, assets⟩ ⟨.failed error, log, assets⟩
  /-- Any one of the children goes on. -/
  | child {p p' : Progress} (e : Element) (before after : List Task) (h : Step source mode p p') :
      Step source mode (p.within e before after) (p'.within e before after)
  /-- All children are finished. -/
  | joins (e : Element) (es : List Element) (log : List Warning) (assets : Assets) :
      Step source mode ⟨.joining e (es.map .finished), log, assets⟩
        ⟨.finished (e.withChildren es), log, assets⟩
  /-- A child has failed; the others are given up. -/
  | aborts {ts : List Task} {error : CompileError} (e : Element) (log : List Warning)
      (assets : Assets) (h : .failed error ∈ ts) :
      Step source mode ⟨.joining e ts, log, assets⟩ ⟨.failed error, log, assets⟩

/-- Some number of steps in a row. -/
inductive Runs (source : Source) (mode : ImageFills) : Nat → Progress → Progress → Prop
  | here (p : Progress) : Runs source mode 0 p p
  | next {n : Nat} {p q r : Progress} (h : Runs source mode n p q) (hs : Step source mode q r) :
      Runs source mode (n + 1) p r

end Progress

namespace Task

variable {source : Source} {mode : ImageFills}

/-! ### What is left to do -/

mutual

/-- What is left to do: the script that finishes a lowering in order. -/
def rest (source : Source) (mode : ImageFills) : Task → Script Element
  | .own x children =>
    x.bind fun e => (Outline.buildAll source mode children).bind fun es => .done (e.withChildren es)
  | .joining e children => (restAll source mode children).bind fun es => .done (e.withChildren es)
  | .finished e => .done e
  | .failed e => .fail e

/-- What is left to do of several lowerings. -/
def restAll (source : Source) (mode : ImageFills) : List Task → Script (List Element)
  | [] => .done []
  | t :: ts =>
    (t.rest source mode).bind fun e => (restAll source mode ts).bind fun es => .done (e :: es)

end

/-- What is left to do at the start is everything. -/
theorem rest_start (o : Outline) :
    (o.start source mode).rest source mode = o.build source mode := by
  cases o with
  | mk site artwork children => rfl

/-- What is left to do of several parts at the start is everything. -/
theorem restAll_start (os : List Outline) :
    restAll source mode (os.map (Outline.start source mode)) = Outline.buildAll source mode os := by
  induction os with
  | nil => rfl
  | cons o os ih =>
    show ((o.start source mode).rest source mode).bind _ = (o.build source mode).bind _
    rw [rest_start, ih]

/-- Of parts that are finished nothing is left to do. -/
theorem restAll_finished (es : List Element) :
    restAll source mode (es.map .finished) = .done es := by
  induction es with
  | nil => rfl
  | cons e es ih =>
    show (restAll source mode (es.map .finished)).bind _ = _
    rw [ih]
    rfl

/-- The work of several lowerings consists of the work of the first and of the others. -/
theorem work_restAll_cons (t : Task) (ts : List Task) :
    (restAll source mode (t :: ts)).work source =
      ((t.rest source mode).work source).andThen fun e =>
        ((restAll source mode ts).work source).andThen fun es => { result := .ok (e :: es) } := by
  show ((t.rest source mode).bind _).work source = _
  simp only [Script.work_bind]
  rfl

/-- Lowerings that succeed together succeed one by one. -/
theorem exists_ok_of_mem {ts : List Task} {es : List Element}
    (h : ((restAll source mode ts).work source).result = .ok es) :
    ∀ t ∈ ts, ∃ e, ((t.rest source mode).work source).result = .ok e := by
  induction ts generalizing es with
  | nil => exact fun t ht => absurd ht List.not_mem_nil
  | cons t ts ih =>
    rw [work_restAll_cons, Work.result_andThen_eq_ok_iff] at h
    obtain ⟨e, he, htail⟩ := h
    obtain ⟨es', hes, -⟩ := Work.result_andThen_eq_ok_iff.mp htail
    exact List.forall_mem_cons.mpr ⟨⟨e, he⟩, ih hes⟩

/-- When one of several lowerings goes on and will come to the same end, then so will all
together. -/
theorem sameEnd_restAll {t t' : Task} {before after : List Task} {assets assets' : Assets}
    {es : List Element}
    (h : ((t.rest source mode).work source).SameEnd
      ((t'.rest source mode).work source) assets assets')
    (hok : ((restAll source mode (before ++ t :: after)).work source).result = .ok es) :
    ((restAll source mode (before ++ t :: after)).work source).SameEnd
      ((restAll source mode (before ++ t' :: after)).work source) assets assets' := by
  induction before generalizing es with
  | nil =>
    rw [List.nil_append, List.nil_append, work_restAll_cons, work_restAll_cons]
    exact h.andThen_left _
  | cons b before ih =>
    rw [List.cons_append, work_restAll_cons] at hok ⊢
    rw [List.cons_append, work_restAll_cons]
    obtain ⟨e, he, htail⟩ := Work.result_andThen_eq_ok_iff.mp hok
    obtain ⟨es', hes, -⟩ := Work.result_andThen_eq_ok_iff.mp htail
    exact Work.SameEnd.andThen_right he ((ih hes).andThen_left _)

/-! ### Steady lowerings -/

mutual

/-- The scripts of all places that are being lowered are steady. -/
def Steady (source : Source) (known : String → Prop) : Task → Prop
  | .own x _ => x.Steady source known
  | .joining _ children => SteadyAll source known children
  | .finished _ => True
  | .failed _ => True

/-- Several lowerings are steady. -/
def SteadyAll (source : Source) (known : String → Prop) : List Task → Prop
  | [] => True
  | t :: ts => t.Steady source known ∧ SteadyAll source known ts

end

/-- Several lowerings are steady if each of them is. -/
theorem steadyAll_iff {known : String → Prop} {ts : List Task} :
    SteadyAll source known ts ↔ ∀ t ∈ ts, t.Steady source known := by
  induction ts with
  | nil => exact ⟨fun _ t ht => absurd ht List.not_mem_nil, fun _ => trivial⟩
  | cons t ts ih => exact (and_congr_right fun _ => ih).trans List.forall_mem_cons.symm

/-- A lowering is steady at its start. -/
theorem start_steady (o : Outline) (known : String → Prop) :
    (o.start source mode).Steady source known := by
  cases o with
  | mk site artwork children => exact site.element_steady mode artwork known

mutual

/-- What others record does no harm. -/
theorem Steady.mono {known known' : String → Prop} (hk : ∀ hash, known hash → known' hash) :
    (t : Task) → t.Steady source known → t.Steady source known'
  | .own _ _, h => Script.Steady.mono h fun hash _ => hk hash
  | .joining _ children, h => SteadyAll.mono hk children h
  | .finished _, _ => trivial
  | .failed _, _ => trivial

/-- Steady lowerings stay so when more files are kept. -/
theorem SteadyAll.mono {known known' : String → Prop} (hk : ∀ hash, known hash → known' hash) :
    (ts : List Task) → SteadyAll source known ts → SteadyAll source known' ts
  | [], _ => trivial
  | t :: ts, h => ⟨Steady.mono hk t h.1, SteadyAll.mono hk ts h.2⟩

end

/-- When one of several lowerings goes on, the siblings stay steady. -/
theorem SteadyAll.replace {known known' : String → Prop} (hk : ∀ hash, known hash → known' hash)
    {before after : List Task} {t t' : Task} (h : SteadyAll source known (before ++ t :: after))
    (ht : t'.Steady source known') : SteadyAll source known' (before ++ t' :: after) := by
  rw [steadyAll_iff, List.forall_mem_append, List.forall_mem_cons] at h ⊢
  obtain ⟨hbefore, -, hafter⟩ := h
  exact ⟨fun u hu => Steady.mono hk u (hbefore u hu), ht,
    fun u hu => Steady.mono hk u (hafter u hu)⟩

end Task

/-! ### How much is left to do -/

namespace Outline

mutual

/-- The number of steps that lowering a part takes, at most. -/
def steps (source : Source) (mode : ImageFills) : Outline → Nat
  | .mk site artwork children =>
    (site.element source mode artwork).length source + (stepsAll source mode children + 2)

/-- The number of steps that lowering several parts takes, at most. -/
def stepsAll (source : Source) (mode : ImageFills) : List Outline → Nat
  | [] => 0
  | o :: os => o.steps source mode + stepsAll source mode os

end

end Outline

namespace Task

variable {source : Source} {mode : ImageFills}

mutual

/-- The number of steps that are left, at most: the requests, and for each place a step that opens
it and one that joins what is below. -/
def steps (source : Source) (mode : ImageFills) : Task → Nat
  | .own x children => x.length source + (Outline.stepsAll source mode children + 2)
  | .joining _ children => stepsAll source mode children + 1
  | .finished _ => 0
  | .failed _ => 0

/-- The number of steps that are left of several lowerings, at most. -/
def stepsAll (source : Source) (mode : ImageFills) : List Task → Nat
  | [] => 0
  | t :: ts => t.steps source mode + stepsAll source mode ts

end

/-- The number of steps of several parts at the start. -/
theorem stepsAll_start (os : List Outline) :
    stepsAll source mode (os.map (Outline.start source mode)) =
      Outline.stepsAll source mode os := by
  induction os with
  | nil => rfl
  | cons o os ih =>
    cases o with
    | mk site artwork children =>
      show _ + stepsAll source mode (os.map _) = _ + _
      rw [ih]
      rfl

/-- The number of steps of two lists of lowerings in a row. -/
theorem stepsAll_append (ts us : List Task) :
    stepsAll source mode (ts ++ us) = stepsAll source mode ts + stepsAll source mode us := by
  induction ts with
  | nil => exact (Nat.zero_add _).symm
  | cons t ts ih =>
    show t.steps source mode + stepsAll source mode (ts ++ us) = _
    rw [ih, ← Nat.add_assoc]
    rfl

end Task

namespace Progress

variable {source : Source} {mode : ImageFills}

/-! ### What a step preserves -/

/-- The store is sound, and the lowering is steady with respect to what is kept. -/
structure Sound (source : Source) (p : Progress) : Prop where
  assets : p.assets.Sound source
  steady : p.task.Steady source p.assets.Keeps

/-- Where a lowering in progress will come to. -/
def work (source : Source) (mode : ImageFills) (p : Progress) : Work Element :=
  (p.task.rest source mode).work source

/-- What a child will come to is part of what its parent will come to. -/
theorem work_within (p : Progress) (d : Element) (before after : List Task) :
    (p.within d before after).work source mode =
      ((Task.restAll source mode (before ++ p.task :: after)).work source).andThen fun es =>
        { result := .ok (d.withChildren es) } :=
  Script.work_bind _ _

/-- Step: if a lowering will succeed, then whichever part of it goes on, it comes to the same end,
and fewer steps are left. -/
theorem Step.sound {p q : Progress} (h : Step source mode p q) (hp : p.Sound source) {e : Element}
    (hok : (p.work source mode).result = .ok e) :
    q.Sound source ∧ p.assets.Extends q.assets ∧
      (p.work source mode).SameEnd (q.work source mode) p.assets q.assets ∧
      q.task.steps source mode < p.task.steps source mode := by
  induction h generalizing e with
  | request hstep =>
    obtain ⟨hsteady, hsound, hext, hend, hlt⟩ := Script.Steady.step hp.steady hp.assets hstep
    refine ⟨⟨hsound, hsteady⟩, hext, ?_, Nat.add_lt_add_right hlt _⟩
    simp only [work, Task.rest, Script.work_bind]
    exact hend.andThen_left _
  | opens d children log assets =>
    refine ⟨⟨hp.assets, ?_⟩, .refl assets, ?_, ?_⟩
    · refine Task.steadyAll_iff.mpr fun t ht => ?_
      obtain ⟨o, -, rfl⟩ := List.mem_map.mp ht
      exact Task.start_steady o _
    · simp only [work, Task.rest, Task.restAll_start]
      exact .refl _ assets
    · simp only [Task.steps, Task.stepsAll_start, Script.length]
      omega
  | fails error children log assets => cases hok
  | @child p q d before after _ ih =>
    -- the parent succeeds, so the child that goes on does, and the hypothesis applies to it
    have hmem : p.task ∈ before ++ p.task :: after := List.mem_append_right _ List.mem_cons_self
    rw [work_within] at hok
    obtain ⟨es, hes, -⟩ := Work.result_andThen_eq_ok_iff.mp hok
    obtain ⟨c, hc⟩ := Task.exists_ok_of_mem hes p.task hmem
    have hown : p.Sound source := ⟨hp.assets, Task.steadyAll_iff.mp hp.steady p.task hmem⟩
    obtain ⟨hsound, hext, hend, hlt⟩ := ih hown hc
    refine ⟨⟨hsound.assets, ?_⟩, hext, ?_, ?_⟩
    · exact Task.SteadyAll.replace hext.keeps hp.steady hsound.steady
    · rw [work_within, work_within]
      exact (Task.sameEnd_restAll hend hes).andThen_left _
    · simp only [within, Task.steps, Task.stepsAll_append, Task.stepsAll]
      omega
  | joins d es log assets =>
    refine ⟨⟨hp.assets, trivial⟩, .refl assets, ?_, Nat.succ_pos _⟩
    simp only [work, Task.rest, Task.restAll_finished]
    exact .refl _ assets
  | @aborts ts error d log assets hmem =>
    -- a parent with a failed child would fail
    simp only [work, Task.rest, Script.work_bind] at hok
    obtain ⟨es, hes, -⟩ := Work.result_andThen_eq_ok_iff.mp hok
    obtain ⟨c, hc⟩ := Task.exists_ok_of_mem hes _ hmem
    cases hc

/-- Run: a lowering that will succeed comes to the same end after any number of steps, and it can
only take so many. -/
theorem Runs.sound {n : Nat} {p q : Progress} (h : Runs source mode n p q) (hp : p.Sound source)
    {e : Element} (hok : (p.work source mode).result = .ok e) :
    q.Sound source ∧ p.assets.Extends q.assets ∧
      (p.work source mode).SameEnd (q.work source mode) p.assets q.assets ∧
      n + q.task.steps source mode ≤ p.task.steps source mode := by
  induction h with
  | here p => exact ⟨hp, .refl _, .refl _ _, Nat.le_of_eq (Nat.zero_add _)⟩
  | next _ hstep ih =>
    obtain ⟨hsound, hext, hend, hle⟩ := ih hp hok
    obtain ⟨hsound', hext', hend', hlt⟩ := hstep.sound hsound (hend.result.trans hok)
    exact ⟨hsound', hext.trans hext', hend.trans hend', by omega⟩

end Progress

/-! ### Progress -/

namespace Task

variable {source : Source} {mode : ImageFills}

/-- Whether nothing is left to do. -/
def isOver : Task → Bool
  | .finished _ => true
  | .failed _ => true
  | _ => false

/-- Lowerings that are all over are finished, or one of them has failed. -/
theorem finished_or_failed {ts : List Task} (h : ∀ t ∈ ts, t.isOver = true) :
    (∃ es : List Element, ts = es.map .finished) ∨ ∃ error, .failed error ∈ ts := by
  induction ts with
  | nil => exact Or.inl ⟨[], rfl⟩
  | cons t ts ih =>
    obtain ⟨ht, hts⟩ := List.forall_mem_cons.mp h
    cases t with
    | own x children => cases ht
    | joining e children => cases ht
    | failed error => exact Or.inr ⟨error, List.mem_cons_self⟩
    | finished e =>
      rcases ih hts with ⟨es, rfl⟩ | ⟨error, hm⟩
      · exact Or.inl ⟨e :: es, rfl⟩
      · exact Or.inr ⟨error, List.mem_cons_of_mem _ hm⟩

mutual

/-- A lowering that is not over can go on. -/
theorem exists_step (log : List Warning) (assets : Assets) :
    (t : Task) → t.isOver = false → ∃ q, Progress.Step source mode ⟨t, log, assets⟩ q
  | .own x children, _ => by
      cases x with
      | done e => exact ⟨_, .opens e children log assets⟩
      | fail error => exact ⟨_, .fails error children log assets⟩
      | font name next => exact ⟨_, .request rfl⟩
      | «recall» hash next => exact ⟨_, .request rfl⟩
      | keep hash bytes next => exact ⟨_, .request rfl⟩
      | warn w next => exact ⟨_, .request rfl⟩
  | .joining e children, _ => by
      rcases exists_step_of_children log assets children with
        hover | ⟨before, t, after, rfl, q, hstep⟩
      · rcases finished_or_failed hover with ⟨es, rfl⟩ | ⟨error, hm⟩
        · exact ⟨_, .joins e es log assets⟩
        · exact ⟨_, .aborts e log assets hm⟩
      · exact ⟨_, .child e before after hstep⟩
  | .finished _, h => by cases h
  | .failed _, h => by cases h

/-- Several lowerings are all over, or one of them can go on. -/
theorem exists_step_of_children (log : List Warning) (assets : Assets) :
    (ts : List Task) → (∀ t ∈ ts, t.isOver = true) ∨
      ∃ before t after, ts = before ++ t :: after ∧
        ∃ q, Progress.Step source mode ⟨t, log, assets⟩ q
  | [] => Or.inl fun t ht => absurd ht List.not_mem_nil
  | t :: ts => by
      by_cases ht : t.isOver = true
      · rcases exists_step_of_children log assets ts with hover | ⟨before, u, after, rfl, hstep⟩
        · exact Or.inl (List.forall_mem_cons.mpr ⟨ht, hover⟩)
        · exact Or.inr ⟨t :: before, u, after, rfl, hstep⟩
      · exact Or.inr ⟨[], t, ts, rfl, exists_step log assets t (Bool.eq_false_iff.mpr ht)⟩

end

end Task

namespace Progress

variable {source : Source} {mode : ImageFills}

/-- A lowering that will succeed and is over is finished, and leaves nothing to be recorded. -/
theorem finished_of_isOver {p : Progress} {e : Element} (hover : p.task.isOver = true)
    (hok : (p.work source mode).result = .ok e) :
    p.task = .finished e ∧ p.work source mode = { result := .ok e } := by
  obtain ⟨task, log, assets⟩ := p
  cases task with
  | own x children => cases hover
  | joining d children => cases hover
  | failed error => cases hok
  | finished d =>
    cases hok
    exact ⟨rfl, rfl⟩

/-- Any two orders that are over have come to the same tree and the same assets. -/
theorem Runs.agree {m n : Nat} {p q r : Progress} (hq : Runs source mode m p q)
    (hr : Runs source mode n p r) (hp : p.Sound source) {e : Element}
    (hok : (p.work source mode).result = .ok e) (hqo : q.task.isOver = true)
    (hro : r.task.isOver = true) :
    q.task = r.task ∧ q.assets.fonts.Perm r.assets.fonts ∧ q.assets.media.Perm r.assets.media := by
  obtain ⟨hqsound, hqext, hqend, -⟩ := hq.sound hp hok
  obtain ⟨hrsound, hrext, hrend, -⟩ := hr.sound hp hok
  obtain ⟨hqtask, hqwork⟩ := finished_of_isOver hqo (hqend.result.trans hok)
  obtain ⟨hrtask, hrwork⟩ := finished_of_isOver hro (hrend.result.trans hok)
  rw [hqwork] at hqend
  rw [hrwork] at hrend
  have hcatalog := hqext.catalog.trans hrext.catalog.symm
  refine ⟨hqtask.trans hrtask.symm, hqsound.assets.perm hrsound.assets hcatalog ?_ ?_⟩
  · intro name
    simpa using (hqend.fonts name).trans (hrend.fonts name).symm
  · intro entry
    simpa using (hqend.files entry).trans (hrend.files entry).symm

end Progress

/-! ### The order of the siblings is one of the orders -/

/-- A composed script that succeeds is performed part by part. -/
theorem Script.run_bind_eq_ok {α β : Type} {x : Script α} {f : α → Script β}
    {log log' : List Warning} {assets assets' : Assets} {b : β}
    (h : (x.bind f).run log assets = (.ok b, log', assets')) :
    ∃ a log₁ assets₁, x.run log assets = (.ok a, log₁, assets₁) ∧
      (f a).run log₁ assets₁ = (.ok b, log', assets') := by
  induction x generalizing log assets with
  | done a => exact ⟨a, log, assets, rfl, h⟩
  | fail e => cases h
  | font name next ih => exact ih h
  | «recall» hash next ih => exact ih _ h
  | keep hash bytes next ih => exact ih _ h
  | warn w next ih => exact ih h

namespace Progress

variable {source : Source} {mode : ImageFills}

/-- Runs can be put together. -/
theorem Runs.trans {m n : Nat} {p q r : Progress} (h : Runs source mode m p q)
    (h' : Runs source mode n q r) : Runs source mode (m + n) p r := by
  induction h' with
  | here q => exact h
  | next _ hstep ih => exact .next (ih h) hstep

/-- Steps of a child are steps of the parent. -/
theorem Runs.within {n : Nat} {p q : Progress} (h : Runs source mode n p q) (e : Element)
    (before after : List Task) :
    Runs source mode n (p.within e before after) (q.within e before after) := by
  induction h with
  | here p => exact .here _
  | next _ hstep ih => exact .next ih (.child e before after hstep)

/-- A step can be put before a run. -/
theorem exists_runs_of_step {p q r : Progress} (h : Step source mode p q)
    (h' : ∃ n, Runs source mode n q r) : ∃ n, Runs source mode n p r := by
  obtain ⟨n, hruns⟩ := h'
  exact ⟨0 + 1 + n, (Runs.next (.here p) h).trans hruns⟩

/-- A place makes its requests one after the other. -/
theorem runs_own (source : Source) (mode : ImageFills) {x : Script Element}
    {log log' : List Warning} {assets assets' : Assets} {e : Element} (children : List Outline)
    (h : x.run log assets = (.ok e, log', assets')) :
    ∃ n, Runs source mode n ⟨.own x children, log, assets⟩
      ⟨.own (.done e) children, log', assets'⟩ := by
  induction x generalizing log assets with
  | done a =>
    cases h
    exact ⟨0, .here _⟩
  | fail error => cases h
  | font name next ih => exact exists_runs_of_step (.request rfl) (ih h)
  | «recall» hash next ih => exact exists_runs_of_step (.request rfl) (ih _ h)
  | keep hash bytes next ih => exact exists_runs_of_step (.request rfl) (ih _ h)
  | warn w next ih => exact exists_runs_of_step (.request rfl) (ih h)

end Progress

namespace Outline

variable {source : Source} {mode : ImageFills}

open Progress in
mutual

/-- To finish each child before the next one goes on is one of the orders. -/
theorem runs_build :
    (o : Outline) → ∀ {log log' : List Warning} {assets assets' : Assets} {e : Element},
    (o.build source mode).run log assets = (.ok e, log', assets') →
      ∃ n, Runs source mode n ⟨o.start source mode, log, assets⟩ ⟨.finished e, log', assets'⟩
  | .mk site artwork children, log, log', assets, assets', e, h => by
      unfold build at h
      obtain ⟨d, log₁, assets₁, hown, h⟩ := Script.run_bind_eq_ok h
      obtain ⟨es, log₂, assets₂, hall, h⟩ := Script.run_bind_eq_ok h
      cases h
      obtain ⟨m, hrequests⟩ := runs_own source mode children hown
      obtain ⟨n, hchildren⟩ := runs_buildAll d [] children hall
      have hopens := Runs.next hrequests (.opens d children log₁ assets₁)
      exact ⟨_, .next (hopens.trans hchildren) (.joins d es log' assets')⟩

/-- The children of a node in order, some of which may be finished already. -/
theorem runs_buildAll (d : Element) (ready : List Element) :
    (os : List Outline) → ∀ {log log' : List Warning} {assets assets' : Assets} {es : List Element},
      (buildAll source mode os).run log assets = (.ok es, log', assets') →
        ∃ n, Runs source mode n
          ⟨.joining d (ready.map .finished ++ os.map (start source mode)), log, assets⟩
          ⟨.joining d ((ready ++ es).map .finished), log', assets'⟩
  | [], log, log', assets, assets', es, h => by
      cases h
      rw [List.map_append]
      exact ⟨0, .here _⟩
  | o :: os, log, log', assets, assets', es, h => by
      unfold buildAll at h
      obtain ⟨e, log₁, assets₁, hfirst, h⟩ := Script.run_bind_eq_ok h
      obtain ⟨es', log₂, assets₂, hothers, h⟩ := Script.run_bind_eq_ok h
      cases h
      obtain ⟨m, hruns⟩ := runs_build o hfirst
      obtain ⟨n, hruns'⟩ := runs_buildAll d (ready ++ [e]) os hothers
      rw [List.map_append, List.append_assoc, List.append_assoc] at hruns'
      exact ⟨_, (hruns.within d (ready.map .finished) (os.map (start source mode))).trans hruns'⟩

end

end Outline

namespace Scene

/-- **Any order.** If the lowering of a root succeeds with the siblings in order, then that is one
of the orders in which it can go on; no order goes on forever; and as long as an order has not come
to the same tree, and to the same fonts and files up to their order, it can go on. -/
theorem lower_in_any_order (s : Scene) (root : Nat) (source : Source) (mode : ImageFills)
    (catalog : Catalog) (e : Element) (log : List Warning) (assets : Assets)
    (h : (s.lower root source mode).run [] { catalog } = (.ok e, log, assets)) :
    let start : Progress := { task := s.start root source mode, assets := { catalog } }
    (∃ n, Progress.Runs source mode n start ⟨.finished e, log, assets⟩) ∧
      (∃ most, ∀ n p, Progress.Runs source mode n start p → n ≤ most) ∧
      ∀ n p, Progress.Runs source mode n start p →
        (∃ q, Progress.Step source mode p q) ∨
          p.task = .finished e ∧ p.assets.fonts.Perm assets.fonts ∧
            p.assets.media.Perm assets.media := by
  intro start
  obtain ⟨node, o, hget, houtline, hroot, hlower⟩ := outline_of_lower_ok (congrArg Prod.fst h)
  have hstart : s.start root source mode = o.start source mode := by
    unfold Scene.start
    rw [hget, houtline]
    simp only [hroot]
  have htask : start.task = o.start source mode := hstart
  rw [hlower] at h
  have hsound : start.Sound source := by
    refine ⟨Assets.sound_clear source { catalog }, ?_⟩
    rw [htask]
    exact Task.start_steady o _
  -- the end to come is read off the run in order, and every other run keeps it
  have hok : (start.work source mode).result = .ok e := by
    unfold Progress.work
    rw [htask, Task.rest_start]
    have hresult := (((Outline.build_steady mode o).of_nothing _).run hsound.assets []).1
    exact hresult.symm.trans (congrArg Prod.fst h)
  obtain ⟨m, hinorder⟩ : ∃ m, Progress.Runs source mode m start ⟨.finished e, log, assets⟩ := by
    have hruns := Outline.runs_build o h
    rwa [← hstart] at hruns
  refine ⟨⟨m, hinorder⟩, ⟨start.task.steps source mode, fun n p hruns => ?_⟩, fun n p hruns => ?_⟩
  · obtain ⟨-, -, -, hle⟩ := hruns.sound hsound hok
    exact Nat.le_trans (Nat.le_add_right n _) hle
  · cases hover : p.task.isOver with
    | false => exact Or.inl (Task.exists_step p.log p.assets p.task hover)
    | true => exact Or.inr (hruns.agree hinorder hsound hok hover rfl)

/-- Two rectangles with the same image: each may look for the file before the other has stored it.
In every order there is one record in the end. -/
theorem lower_in_any_order_shared_image :
    let s := ((({} : Scene).addRoot { kind := .frame }).addChild 0
      { kind := .rectangle, fills := .paints [.image (some "a") true] }).addChild 0
      { kind := .rectangle, fills := .paints [.image (some "a") true] }
    let source : Source :=
      { Source.none with image := fun _ => .ok (some [0x89, 0x50, 0x4E, 0x47]) }
    let start : Progress := { task := s.start 0 source .imageBackground, assets := {} }
    ∃ e, ((s.lower 0 source .imageBackground).run [] {}).1 = .ok e ∧
      ∀ n p, Progress.Runs source .imageBackground n start p →
        (∃ q, Progress.Step source .imageBackground p q) ∨
          p.task = .finished e ∧ p.assets.fonts = [] ∧
            p.assets.media = [("a", ⟨.png, "a.png", [0x89, 0x50, 0x4E, 0x47]⟩)] := by
  intro s source start
  have hok : ((s.lower 0 source .imageBackground).run [] {}).1.isOk = true := by decide +kernel
  have hfonts : ((s.lower 0 source .imageBackground).run [] {}).2.2.fonts = [] := by decide +kernel
  have hmedia : ((s.lower 0 source .imageBackground).run [] {}).2.2.media =
      [("a", ⟨.png, "a.png", [0x89, 0x50, 0x4E, 0x47]⟩)] := by decide +kernel
  rcases hrun : (s.lower 0 source .imageBackground).run [] {} with ⟨e | e, log, assets⟩
  · rw [hrun] at hok
    cases hok
  · rw [hrun] at hfonts hmedia
    refine ⟨e, rfl, fun n p hruns => ?_⟩
    have hany :=
      (lower_in_any_order s 0 source .imageBackground .builtin e log assets hrun).2.2 n p hruns
    rw [hfonts, hmedia, List.perm_nil, List.perm_singleton] at hany
    exact hany

end Scene

end Viewsmith
