import Gasometer.Proofs.Sections

/-!
# Shared caches

A sweep that is given a cache with an entry works with that cache: whatever is compiled in any of
its parts is asked of it. So all that share a cache without bound compile every source once between
them, and the cache holds it in the end. A cache that is still empty is not shared: each sweep that
is given one takes a new cache of its own.
-/
namespace Gasometer

variable {σ : Type}

namespace ArtifactCache

variable {f : String → Except Rejection String} {c c' c'' : ArtifactCache (StateM σ)}
  {asked asked' : List String} {source : String} {answer : Except CompilationError String}

/-- What a cache becomes when it is asked for these sources. -/
inductive Requests (f : String → Except Rejection String) (c : ArtifactCache (StateM σ)) :
    List String → ArtifactCache (StateM σ) → Prop
  | nil : Requests f c [] c
  | concat {asked : List String} {source : String} {answer : Except CompilationError String}
    {c' c'' : ArtifactCache (StateM σ)} (h : Requests f c asked c')
    (hserved : c'.Served f source (answer, c'')) : Requests f c (asked ++ [source]) c''

theorem Requests.one (h : c.Served f source (answer, c')) : Requests f c [source] c' :=
  .concat .nil h

theorem Requests.trans (h : Requests f c asked c') (h' : Requests f c' asked' c'') :
    Requests f c (asked ++ asked') c'' := by
  induction h' with
  | nil => rwa [List.append_nil]
  | concat _ hserved ih =>
    rw [← List.append_assoc]
    exact .concat ih hserved

theorem Requests.agrees (h : Requests f c asked c') (hc : c.Agrees f) : c'.Agrees f := by
  induction h with
  | nil => exact hc
  | concat _ hserved ih => exact hserved.agrees ih

/-- A request changes neither the compiler of a cache nor its settings. -/
theorem Served.settings_eq (h : c.Served f source (answer, c')) :
    c'.compiler = c.compiler ∧ c'.capacity = c.capacity ∧ c'.maxSize? = c.maxSize? := by
  cases h with
  | found | rejected => exact ⟨rfl, rfl, rfl⟩
  | compiled =>
    rw [store_eq]
    exact ⟨rfl, rfl, rfl⟩

theorem Requests.settings_eq (h : Requests f c asked c') :
    c'.compiler = c.compiler ∧ c'.capacity = c.capacity ∧ c'.maxSize? = c.maxSize? := by
  induction h with
  | nil => exact ⟨rfl, rfl, rfl⟩
  | concat _ hserved ih =>
    obtain ⟨hcompiler, hcapacity, hbound⟩ := hserved.settings_eq
    rw [hcompiler, hcapacity, hbound]
    exact ih

/-! Every source once. -/

def held (c : ArtifactCache (StateM σ)) : List String := c.entries.map Prod.fst

theorem mem_held : source ∈ c.held ↔ c.entries.lookup source ≠ none := by
  rw [held, ne_eq, List.lookup_eq_none_iff]
  simp only [List.mem_map, not_forall, bne_iff_ne, ne_eq, not_not]
  constructor
  · rintro ⟨entry, hentry, rfl⟩
    exact ⟨entry, hentry, rfl⟩
  · rintro ⟨entry, hentry, rfl⟩
    exact ⟨entry, hentry, rfl⟩

/-- Of some sources those that compile and are not held, each of them once. -/
def fresh (f : String → Except Rejection String) (c : ArtifactCache (StateM σ))
    (asked : List String) : List String :=
  (asked.filter fun source => (f source).isOk && !decide (source ∈ c.held)).dedup

/-- A cache without bound has compiled every source once that it did not hold. -/
structure CompiledOnce (f : String → Except Rejection String) (c : ArtifactCache (StateM σ))
    (asked : List String) (c' : ArtifactCache (StateM σ)) : Prop where
  bound : c'.maxSize? = none
  nodup : c'.held.Nodup
  holds : c'.held.Perm (c.held ++ fresh f c asked)
  compilations : c'.stats.compilations = c.stats.compilations + (fresh f c asked).length

/-- An item of a list goes to its end. -/
theorem perm_filter_concat {l : List String} (hl : l.Nodup) (h : source ∈ l) :
    (l.filter (· != source) ++ [source]).Perm l := by
  rw [← hl.erase_eq_filter]
  exact (List.perm_append_singleton ..).trans (List.perm_cons_erase h).symm

theorem mem_fresh :
    source ∈ fresh f c asked ↔ source ∈ asked ∧ (f source).isOk = true ∧ source ∉ c.held := by
  simp [fresh]

/-- A source that compiles and is not held is fresh once, also if it is asked for again. -/
theorem fresh_concat (hok : (f source).isOk = true) (h : source ∉ c.held) :
    fresh f c (asked ++ [source]) = (fresh f c asked).filter (· != source) ++ [source] := by
  rw [fresh, List.filter_append, List.filter_singleton, hok]
  simp only [h, decide_false, Bool.not_false, Bool.and_self]
  exact dedup_concat ..

/-- A source that does not compile, is held, or is fresh already, is not a fresh one more. -/
theorem fresh_concat_perm
    (h : (f source).isOk = false ∨ source ∈ c.held ∨ source ∈ fresh f c asked) :
    (fresh f c (asked ++ [source])).Perm (fresh f c asked) := by
  by_cases hmem : source ∈ fresh f c asked
  · obtain ⟨-, hok, hheld⟩ := mem_fresh.1 hmem
    rw [fresh_concat hok hheld]
    exact perm_filter_concat (List.nodup_dedup _) hmem
  · have hnot : ((f source).isOk && !decide (source ∈ c.held)) = false := by
      rcases h with h | h | h
      · simp [h]
      · simp [h]
      · exact absurd h hmem
    rw [fresh, List.filter_append, List.filter_singleton, hnot]
    simp [fresh]

/-- A cache without bound gives nothing away for a new entry. -/
theorem held_store (hbound : c.maxSize? = none) (source code : String) (elapsed : Int) :
    (c.store source code elapsed).held = c.held ++ [source] := by
  have hoverflow : c.overflow = 0 := by rw [overflow, hbound]; rfl
  rw [store_eq, hoverflow, List.drop_zero]
  simp [held]

theorem CompiledOnce.refl (hbound : c.maxSize? = none) (hnodup : c.held.Nodup) :
    CompiledOnce f c [] c :=
  ⟨hbound, hnodup, by simp [fresh], by simp [fresh]⟩

/-- One more request for a source that does not change what is held. -/
theorem CompiledOnce.keep (h : CompiledOnce f c asked c') (hbound : c''.maxSize? = c'.maxSize?)
    (hheld : c''.held.Perm c'.held) (hstats : c''.stats.compilations = c'.stats.compilations)
    (hfresh : (fresh f c (asked ++ [source])).Perm (fresh f c asked)) :
    CompiledOnce f c (asked ++ [source]) c'' where
  bound := hbound.trans h.bound
  nodup := hheld.nodup_iff.2 h.nodup
  holds := (hheld.trans h.holds).trans (hfresh.symm.append_left _)
  compilations := by rw [hstats, h.compilations, hfresh.length_eq]

/-- One more request. -/
theorem CompiledOnce.served (h : CompiledOnce f c asked c')
    (hserved : c'.Served f source (answer, c'')) : CompiledOnce f c (asked ++ [source]) c'' := by
  have hmem : source ∈ c'.held ↔ source ∈ c.held ∨ source ∈ fresh f c asked := by
    rw [h.holds.mem_iff, List.mem_append]
  cases hserved with
  | @found code hcode =>
    -- The entry that is found goes to the end.
    have hheld : source ∈ c'.held := mem_held.2 (by simp [hcode])
    have hperm := perm_filter_concat h.nodup hheld
    rw [held, List.filter_map] at hperm
    refine h.keep rfl ?_ rfl (fresh_concat_perm (.inr (hmem.1 hheld)))
    simpa [held, Function.comp_def] using hperm
  | rejected hnone hf => exact h.keep rfl (.refl _) rfl (fresh_concat_perm (.inl (by rw [hf]; rfl)))
  | @compiled code elapsed hnone hf =>
    have hheld : source ∉ c'.held := fun hheld => mem_held.1 hheld hnone
    obtain ⟨hold, hnew⟩ := not_or.1 (mt hmem.2 hheld)
    have hbound : c'.miss.maxSize? = none := h.bound
    have hentries : (c'.miss.store source code elapsed).held = c'.held ++ [source] :=
      held_store hbound source code elapsed
    have hfresh : fresh f c (asked ++ [source]) = fresh f c asked ++ [source] := by
      rw [fresh_concat (by rw [hf]; rfl) hold, List.filter_eq_self.2]
      intro other hother
      simpa using ne_of_mem_of_not_mem hother hnew
    refine ⟨?_, ?_, ?_, ?_⟩
    · rw [store_eq]
      exact hbound
    · rw [hentries, ← List.concat_eq_append]
      exact h.nodup.concat hheld
    · rw [hentries, hfresh, ← List.append_assoc]
      exact h.holds.append_right _
    · rw [store_eq, hfresh, List.length_append]
      have := h.compilations
      simp [miss]
      omega

/-- Any requests. -/
theorem Requests.compiledOnce (h : Requests f c asked c') (hbound : c.maxSize? = none)
    (hnodup : c.held.Nodup) : CompiledOnce f c asked c' := by
  induction h with
  | nil => exact .refl hbound hnodup
  | concat h hserved ih => exact ih.served hserved

end ArtifactCache

namespace Sweep
open ArtifactCache (Requests)

variable {host : Host (StateM σ)} {f : String → Except Rejection String} {desk : Desk (StateM σ)}
  {limits : LoopProgram.Limits} {steps : List Step} {r : Runner}

def sources (limits : LoopProgram.Limits) (steps : List Step) : List String :=
  steps.filterMap fun s => (LoopProgram.draft limits s).toOption.map (·.code.source)

theorem sources_append (limits : LoopProgram.Limits) (steps steps' : List Step) :
    sources limits (steps ++ steps') = sources limits steps ++ sources limits steps' :=
  List.filterMap_append ..

/-- Nothing keeps these steps from being measured. -/
structure Smooth (f : String → Except Rejection String) (limits : LoopProgram.Limits)
    (steps : List Step) (c : ArtifactCache (StateM σ)) : Prop where
  hex : AnswersHex f
  agrees : c.Agrees f
  drafted : ∀ s ∈ steps, ∃ d, LoopProgram.draft limits s = .ok d

/-- A part of a sweep that measures these steps asks the cache for their sources, and for nothing
else. If it is broken off, it has asked for the first of them. -/
def Asks {α : Type} (f : String → Except Rejection String) (limits : LoopProgram.Limits)
    (steps : List Step) (x : Sweep (StateM σ) α) (desk : Desk (StateM σ)) : Prop :=
  Comes x desk (fun _ desk' => Requests f desk.cache (sources limits steps) desk'.cache)
    fun _ desk' => ¬ Smooth f limits steps desk.cache ∧
      ∃ asked, asked <+: sources limits steps ∧ Requests f desk.cache asked desk'.cache

/-- The measurement of a step asks for the source of its program. -/
theorem runStep_asks (hhost : host.Faithful) (hf : desk.cache.compiler.Computes f) (r : Runner)
    (s : Step) : Asks f r.limits [s] (runStep host r s) desk := by
  have hsources : ∀ {d}, LoopProgram.draft r.limits s = .ok d →
      sources r.limits [s] = [d.code.source] := by
    intro d hd
    simp [sources, hd, Except.toOption]
  refine (runStep_measured hhost hf r s).imp ?_ ?_
  · rintro o desk' (⟨hdraft, hserved⟩ | ⟨result, hdraft, hserved⟩)
    · rw [hsources hdraft]
      exact .one hserved
    · rw [hsources hdraft]
      exact .one hserved
  · rintro e desk' (hdraft | ⟨hdraft, hserved, hcode⟩)
    · refine ⟨fun hsmooth => ?_, [], List.nil_prefix, .nil⟩
      obtain ⟨d, hd⟩ := hsmooth.drafted s List.mem_cons_self
      rw [hdraft] at hd
      cases hd
    · refine ⟨fun hsmooth => ?_, _, List.prefix_refl _, ?_⟩
      · obtain ⟨bytes, hbytes⟩ := hsmooth.hex.ofHex_ok (hserved.of_ok hsmooth.agrees)
        rw [hbytes] at hcode
        cases hcode
      · rw [hsources hdraft]
        exact .one hserved

/-- A part of a sweep asks for its sources after others have been asked for. -/
theorem Asks.after {α : Type} {x : Sweep (StateM σ) α} {done members : List Step}
    {desk' : Desk (StateM σ)} (h : Asks f limits members x desk')
    (hdone : Requests f desk.cache (sources limits done) desk'.cache)
    (hfront : done ++ members <+: steps) :
    Comes x desk'
      (fun _ desk'' => Requests f desk.cache (sources limits (done ++ members)) desk''.cache)
      fun _ desk'' => ¬ Smooth f limits steps desk.cache ∧
        ∃ asked, asked <+: sources limits steps ∧ Requests f desk.cache asked desk''.cache := by
  refine h.imp (fun a desk'' hmembers => ?_) ?_
  · rw [sources_append]
    exact hdone.trans hmembers
  · -- What was asked for before the part broke off goes before what the part has asked for.
    rintro e desk'' ⟨hrough, asked, hasked, hmembers⟩
    refine ⟨fun hsmooth => hrough ?_, _, ?_, hdone.trans hmembers⟩
    · exact ⟨hsmooth.hex, hdone.agrees hsmooth.agrees, fun s hs =>
        hsmooth.drafted s (hfront.subset (List.mem_append_right _ hs))⟩
    · obtain ⟨rest, rfl⟩ := hfront
      rw [sources_append, sources_append]
      exact ((List.prefix_append_right_inj _).2 hasked).trans (List.prefix_append ..)

/-- A section asks for the sources of its steps. -/
theorem runSection_asks (hhost : host.Faithful) (hf : desk.cache.compiler.Computes f) (r : Runner)
    (title : String) (steps : List Step) :
    Asks f r.limits steps (runSection host r title steps) desk := by
  refine (Comes.runSection (i := fun done _ desk' =>
    Requests f desk.cache (sources r.limits done) desk'.cache) title .nil ?_).imp ?_ fun _ _ h => h
  · intro done s os desk' hfront hdone
    have hf' : desk'.cache.compiler.Computes f := by rwa [hdone.settings_eq.1]
    exact (runStep_asks hhost hf' r s).after hdone hfront
  · rintro _ desk' ⟨os, -, h⟩
    exact h

/-- A sweep asks for the sources of the selected steps, category by category. -/
theorem run_asks (hhost : host.Faithful) (hf : desk.cache.compiler.Computes f)
    {show_ : Section → StateM σ (Except Problem Unit)}
    (hshow : ∀ report, Answers (show_ report) (· = .ok ()))
    (hsteps : selected r.profile = .ok steps) :
    Asks f r.limits ((Catalog.group steps).flatMap Prod.snd) (run host r show_) desk := by
  refine Comes.run (i := fun done _ desk' => Requests f desk.cache
    (sources r.limits (done.flatMap Prod.snd)) desk'.cache) hshow hsteps .nil ?_
  intro done category members reports desk' hfront hdone
  have hf' : desk'.cache.compiler.Computes f := by rwa [hdone.settings_eq.1]
  have hsteps' : (done ++ [(category, members)]).flatMap Prod.snd =
      done.flatMap Prod.snd ++ members := by
    rw [List.flatMap_append, List.flatMap_singleton]
  have hfront' : done.flatMap Prod.snd ++ members <+: (Catalog.group steps).flatMap Prod.snd := by
    obtain ⟨rest, hrest⟩ := hfront
    exact ⟨rest.flatMap Prod.snd, by rw [← hsteps', ← List.flatMap_append, hrest]⟩
  rw [hsteps']
  exact (runSection_asks hhost hf' r category members).after hdone hfront'

end Sweep

/-- What a runner is asked to do: to measure a step, a section or all that its profile selects. -/
inductive Job
  | step (s : Step)
  | part (title : String) (steps : List Step)
  | whole

namespace Job
open Sweep
open ArtifactCache (Requests CompiledOnce)

variable {host : Host (StateM σ)} {f : String → Except Rejection String} {desk : Desk (StateM σ)}
  {c : ArtifactCache (StateM σ)}

def perform (host : Host (StateM σ)) (r : Runner) : Job → Sweep (StateM σ) Unit
  | step s => do
    let _ ← runStep host r s
  | part title steps => do
    let _ ← runSection host r title steps
  | whole => do
    let _ ← run host r fun _ => pure (.ok ())

def steps (r : Runner) : Job → List Step
  | step s => [s]
  | part _ steps => steps
  | whole =>
    match selected r.profile with
    | .ok steps => (Catalog.group steps).flatMap Prod.snd
    | .error _ => []

def sources (r : Runner) (job : Job) : List String := Sweep.sources r.limits (job.steps r)

/-- What a job asks for: the sources of its steps, or the first of them if it is broken off. It is
never broken off if programs can be written for all of its steps. -/
structure AskedFor (r : Runner) (job : Job) (asked : List String) : Prop where
  isPrefix : asked <+: job.sources r
  all : (∀ s ∈ job.steps r, ∃ d, LoopProgram.draft r.limits s = .ok d) → asked = job.sources r

def Asked (f : String → Except Rejection String) (r : Runner) (job : Job)
    (desk desk' : Desk (StateM σ)) : Prop :=
  ∃ asked, job.AskedFor r asked ∧ Requests f desk.cache asked desk'.cache

theorem asked_of_asks {α : Type} {x : Sweep (StateM σ) α} (r : Runner) (job : Job)
    (h : Asks f r.limits (job.steps r) x desk) (hhex : AnswersHex f)
    (hcache : desk.cache.Agrees f) :
    Comes (x >>= fun _ => pure ()) desk (fun _ => Asked f r job desk)
      fun _ => Asked f r job desk := by
  have hx : Comes x desk (fun _ => Asked f r job desk) fun _ => Asked f r job desk := by
    refine h.imp (fun _ desk' h => ?_) ?_
    · exact ⟨_, ⟨List.prefix_refl _, fun _ => rfl⟩, h⟩
    · rintro e desk' ⟨hrough, asked, hasked, hrequests⟩
      exact ⟨asked, ⟨hasked, fun hdrafted => absurd ⟨hhex, hcache, hdrafted⟩ hrough⟩, hrequests⟩
  exact hx.bind fun _ desk' h => .pure h

/-- All that a job compiles is asked of its cache. -/
theorem perform_asks (hhost : host.Faithful) (hhex : AnswersHex f) (hcache : desk.cache.Agrees f)
    (r : Runner) (job : Job) :
    Comes (job.perform host r) desk (fun _ => Asked f r job desk) fun _ => Asked f r job desk := by
  have hf := hcache.computes
  cases job with
  | step s => exact asked_of_asks r (.step s) (runStep_asks hhost hf r s) hhex hcache
  | part title steps =>
    exact asked_of_asks r (.part title steps) (runSection_asks hhost hf r title steps) hhex hcache
  | whole =>
    cases hselected : selected r.profile with
    | ok steps =>
      refine asked_of_asks r .whole ?_ hhex hcache
      rw [Job.steps, hselected]
      exact run_asks hhost hf (fun _ _ => rfl) hselected
    | error e =>
      -- Nothing is selected, so nothing is measured.
      have hnone : Asked f r .whole desk desk := by
        have hsources : sources r .whole = [] := by
          rw [sources, Job.steps, hselected]
          rfl
        exact ⟨[], ⟨List.nil_prefix, fun _ => hsources.symm⟩, .nil⟩
      have hrun : Comes (run host r fun _ => pure (.ok ())) desk (fun _ => Asked f r .whole desk)
          fun _ => Asked f r .whole desk := by
        unfold run
        refine Comes.get (Comes.log ?_)
        refine Comes.attempt (fun steps hsteps => ?_) fun _ _ => hnone
        rw [hselected] at hsteps
        cases hsteps
      exact hrun.bind fun _ desk' h => .pure h

/-- Does some jobs of several runners, one after the other, which share a cache. -/
def performAll (host : Host (StateM σ)) :
    List (Runner × Job) → ArtifactCache (StateM σ) → StateM σ (ArtifactCache (StateM σ))
  | [], c => return c
  | (r, job) :: jobs, c => do
    let (_, desk) ← StateT.run (ExceptT.run (job.perform host r)) { cache := c }
    performAll host jobs desk.cache

theorem performAll_asks (hhost : host.Faithful) (hhex : AnswersHex f) (hcache : c.Agrees f)
    (jobs : List (Runner × Job)) :
    Answers (performAll host jobs c) fun c' => ∃ asked : List (List String),
      List.Forall₂ (fun j a => j.2.AskedFor j.1 a) jobs asked ∧
        Requests f c asked.flatten c' := by
  induction jobs generalizing c with
  | nil => exact fun _ => ⟨[], .nil, .nil⟩
  | cons j jobs ih =>
    obtain ⟨r, job⟩ := j
    let desk : Desk (StateM σ) := { cache := c }
    have hagrees : desk.cache.Agrees f := hcache
    have hfirst : Answers (StateT.run (ExceptT.run (job.perform host r)) desk) fun x =>
        Asked f r job desk x.2 := by
      refine (perform_asks hhost hhex hagrees r job).answers.imp ?_
      rintro ⟨_ | _, desk'⟩ h <;> exact h
    refine hfirst.bind ?_
    rintro ⟨_, desk'⟩ ⟨asked, hasked, hrequests⟩
    refine (ih (hrequests.agrees hcache)).imp ?_
    rintro c' ⟨later, hlater, hrest⟩
    exact ⟨asked :: later, .cons hasked hlater, by simpa using hrequests.trans hrest⟩

/-- A runner works with the cache that it is given if that has an entry, and otherwise with a new
one. So whatever jobs are done by runners that share a cache, it is asked for all that they compile;
and if it has no bound, they compile every source once between them that it did not hold, and it
ends up holding all of them. -/
theorem performAll_compiles_once (hhost : host.Faithful) (hhex : AnswersHex f)
    (hcache : c.Agrees f) :
    (∀ profile compiler? r desk, prepare host profile compiler? (some c) = .ok (r, desk) →
      (c.size ≠ 0 → desk.cache = c) ∧
      (c.size = 0 → ∃ compiler, (∀ given ∈ compiler?, compiler = given) ∧
        ArtifactCache.create compiler profile.cacheCapacity profile.cacheMaxSize? =
          .ok desk.cache)) ∧
    ∀ jobs, Answers (performAll host jobs c) fun c' => ∃ asked : List (List String),
      List.Forall₂ (fun j a => j.2.AskedFor j.1 a) jobs asked ∧
        Requests f c asked.flatten c' ∧ c'.Agrees f ∧
        (c.maxSize? = none → c.held.Nodup → CompiledOnce f c asked.flatten c') := by
  constructor
  · intro profile compiler? r desk h
    obtain ⟨compiler, hcompiler, hprepare⟩ := exists_prepare_some h
    obtain ⟨-, -, ⟨given, hgiven, hsize, hsame⟩ | ⟨hempty, hnew⟩⟩ := prepare_cases hprepare
    · obtain rfl : c = given := by simpa using hgiven
      exact ⟨fun _ => hsame, fun hzero => absurd hzero hsize⟩
    · exact ⟨fun hsize => absurd (hempty c rfl) hsize, fun _ => ⟨compiler, hcompiler, hnew⟩⟩
  · intro jobs
    refine (performAll_asks hhost hhex hcache jobs).imp ?_
    rintro c' ⟨asked, hasked, hrequests⟩
    exact ⟨asked, hasked, hrequests, hrequests.agrees hcache, hrequests.compiledOnce⟩

def obliging : Compiler (StateM Tape) :=
  { name := "obliging", dialect := .asm, compile := fun _ => pure (.ok "00") }

theorem obliging_computes : obliging.Computes fun _ => .ok "00" := fun _ _ => rfl

theorem answersHex_obliging : AnswersHex fun _ => .ok "00" := by
  rintro source code ⟨⟩
  exact AnswersHex.stop

def add : Step := Catalog.step "ADD" "arithmetic" [Catalog.x, Catalog.y]

theorem exists_draft_add (limits : LoopProgram.Limits) :
    ∃ d, LoopProgram.draft limits add = .ok d :=
  LoopProgram.draft_of_mem_catalog limits (by decide)

/-- The source that is written for it. -/
theorem sources_add (limits : LoopProgram.Limits) : ∃ source,
    (LoopProgram.draft limits add).toOption.map (·.code.source) = some source ∧
      Sweep.sources limits [add] = [source] := by
  obtain ⟨d, hd⟩ := exists_draft_add limits
  exact ⟨d.code.source, by rw [hd]; rfl, by simp [Sweep.sources, hd, Except.toOption]⟩

/-- Two runners that measure a step three times between them compile it once, if the cache that they
share is not empty to begin with. -/
theorem performAll_compiles_once_add :
    let shared : ArtifactCache (StateM Tape) := { compiler := obliging, entries := [("", "00")] }
    ∃ r r' desk desk',
      prepare Host.onTape {} (some obliging) (some shared) = .ok (r, desk) ∧
      prepare Host.onTape { verbose := true } (some obliging) (some shared) = .ok (r', desk') ∧
      desk.cache = shared ∧ desk'.cache = shared ∧
      AnswersHex (fun _ => .ok "00") ∧ shared.Agrees (fun _ => .ok "00") ∧
      Answers (performAll Host.onTape [(r, .step add), (r', .part "again" [add, add])] shared)
        fun c => c.stats.compilations = 1 ∧ c.held.length = 2 := by
  intro shared
  have hcache : shared.Agrees fun _ => .ok "00" := ⟨obliging_computes, by simp [shared]⟩
  obtain ⟨-, hjobs⟩ := performAll_compiles_once Host.onTape_faithful answersHex_obliging hcache
  refine ⟨_, _, _, _, rfl, rfl, rfl, rfl, answersHex_obliging, hcache, (hjobs _).imp ?_⟩
  rintro c ⟨asked, hasked, -, -, honce⟩
  obtain ⟨source, hsource, hadd⟩ := sources_add {}
  have hne : source ≠ "" := by
    rintro rfl
    revert hsource
    decide +kernel
  have hall : ∀ s ∈ [add, add], ∃ d, LoopProgram.draft {} s = .ok d := by
    simp only [List.mem_cons, List.not_mem_nil, or_false, or_self, forall_eq]
    exact exists_draft_add {}
  have htwice : Sweep.sources {} [add, add] = [source, source] := by
    rw [← List.singleton_append, sources_append, hadd]
    rfl
  cases hasked with
  | @cons _ first _ _ hfirst hasked =>
  cases hasked with
  | @cons _ second _ _ hsecond hasked =>
  cases hasked
  obtain rfl : first = [source] :=
    (hfirst.all fun s hs => hall s (List.mem_of_mem_tail hs)).trans hadd
  obtain rfl : second = [source, source] := (hsecond.all hall).trans htwice
  have hfresh : ArtifactCache.fresh (fun _ => .ok "00") shared
      [[source], [source, source]].flatten = [source] := by
    simp [ArtifactCache.fresh, ArtifactCache.held, shared, hne, Except.isOk, Except.toBool]
  have hcompiled := honce rfl (List.nodup_singleton _)
  refine ⟨by rw [hcompiled.compilations, hfresh]; rfl, ?_⟩
  rw [hcompiled.holds.length_eq, hfresh]
  rfl

/-- But a cache that is empty is not shared: both runners compile that step, and the cache that they
were given is asked for nothing. -/
theorem runStep_compiles_add_again :
    let shared : ArtifactCache (StateM Tape) := { compiler := obliging, capacity := 7 }
    obliging.Computes (fun _ => .ok "00") ∧ shared.Agrees (fun _ => .ok "00") ∧
      ∀ verbose : Bool, ∃ r desk,
        prepare Host.onTape { verbose := verbose } (some obliging) (some shared) = .ok (r, desk) ∧
        Comes (runStep Host.onTape r add) desk
          (fun _ desk' => desk'.cache.stats.compilations = 1 ∧
            ∀ asked, ¬ Requests (fun _ => .ok "00") shared asked desk'.cache)
          fun _ _ => False := by
  intro shared
  refine ⟨obliging_computes, ⟨obliging_computes, by simp [shared]⟩, fun verbose => ?_⟩
  obtain ⟨source, -, hadd⟩ := sources_add {}
  refine ⟨_, _, rfl, ?_⟩
  refine (runStep_asks Host.onTape_faithful obliging_computes _ add).imp ?_ ?_
  · intro o desk' hrequests
    have honce := hrequests.compiledOnce rfl List.nodup_nil
    refine ⟨?_, fun asked hshared => ?_⟩
    · have hcompilations := honce.compilations
      change desk'.cache.stats.compilations =
        0 + ((ArtifactCache.fresh _ _ (Sweep.sources {} [add])).length : Int) at hcompilations
      rw [hcompilations, hadd]
      rfl
    · -- A request does not change the capacity.
      have hcapacity := hrequests.settings_eq.2.1.symm.trans hshared.settings_eq.2.1
      simp [shared] at hcapacity
  · rintro e desk' ⟨hrough, -⟩
    refine hrough ⟨answersHex_obliging, ⟨obliging_computes, by simp⟩, fun s hs => ?_⟩
    rw [List.mem_singleton.1 hs]
    exact exists_draft_add _

end Job
end Gasometer
