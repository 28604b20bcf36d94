import Gasometer.Proofs.Drafts
import Gasometer.Proofs.Measurements

/-!
# Sections

A sweep over steps of the catalog comes to a section for each of their categories, in the order in
which the categories are met first. Every step has its outcome in the section of its category, and
the books of a section are those of its own outcomes, whatever was measured or skipped before.
-/
namespace Gasometer

-- The empty sum is the zero of the core library, also where Mathlib offers its own.
attribute [local instance (high)] Zero.ofOfNat0

variable {σ : Type}

/-! Groups. -/

/-- A list falls into its parts with this and with that key. -/
theorem perm_flatMap_filter {α β : Type} [DecidableEq β] (key : α → β) {keys : List β} {l : List α}
    (hkeys : keys.Nodup) (h : ∀ a ∈ l, key a ∈ keys) :
    (keys.flatMap fun k => l.filter (key · == k)).Perm l := by
  induction keys generalizing l with
  | nil =>
    cases l with
    | nil => exact .nil
    | cons a l => exact absurd (h a List.mem_cons_self) List.not_mem_nil
  | cons k ks ih =>
    rw [List.nodup_cons] at hkeys
    -- The other keys take their parts from what this key leaves.
    have hrest : ks.flatMap (fun k' => l.filter (key · == k')) =
        ks.flatMap fun k' => (l.filter fun a => !(key a == k)).filter (key · == k') := by
      refine List.flatMap_congr fun k' hk' => ?_
      rw [List.filter_filter]
      refine List.filter_congr fun a _ => ?_
      have hne : k' ≠ k := ne_of_mem_of_not_mem hk' hkeys.1
      by_cases ha : key a = k'
      · simp [ha, hne]
      · simp [ha]
    rw [List.flatMap_cons, hrest]
    refine ((ih hkeys.2 fun a ha => ?_).append_left _).trans (List.filter_append_perm _ l)
    have hmem := List.mem_filter.1 ha
    exact (List.mem_cons.1 (h a hmem.1)).resolve_left (by simpa using hmem.2)

namespace Catalog

/-- Every step is in the group of its category, as often as in the list. -/
theorem flatMap_group_perm (l : List Step) : ((group l).flatMap Prod.snd).Perm l := by
  rw [group, List.flatMap_map]
  refine perm_flatMap_filter Step.category (nodup_eraseDups _) fun s hs => ?_
  exact List.mem_eraseDups.2 (List.mem_map_of_mem hs)

end Catalog

theorem exists_of_mapM {α β ε : Type} {f : α → Except ε β} {as : List α} {bs : List β}
    (h : as.mapM f = .ok bs) : ∀ b ∈ bs, ∃ a ∈ as, f a = .ok b := by
  induction as generalizing bs with
  | nil =>
    cases h
    simp
  | cons a as ih =>
    rw [List.mapM_cons] at h
    cases hfirst : f a with
    | error e =>
      rw [hfirst] at h
      cases h
    | ok b =>
      cases hrest : as.mapM f with
      | error e =>
        rw [hfirst, hrest] at h
        cases h
      | ok rest =>
        rw [hfirst, hrest] at h
        cases h
        refine List.forall_mem_cons.2 ⟨⟨a, List.mem_cons_self, hfirst⟩, fun b' hb' => ?_⟩
        obtain ⟨a', ha', hb'⟩ := ih hrest b' hb'
        exact ⟨a', List.mem_cons_of_mem _ ha', hb'⟩

namespace Catalog

theorem mem_of_find {name : String} {s : Step} (h : find name = .ok s) : s ∈ steps := by
  unfold find at h
  dsimp only at h
  split at h
  · rename_i hs
    cases h
    exact List.mem_of_find?_eq_some hs
  · cases h

end Catalog

namespace Sweep

/-- What a profile selects is in the catalog. -/
theorem mem_catalog_of_selected {p : Profile} {steps : List Step} (h : selected p = .ok steps) :
    ∀ s ∈ steps, s ∈ Catalog.steps := by
  unfold selected at h
  extract_lets kept at h
  have hfilter : ∀ named : List Step, (∀ s ∈ named, s ∈ Catalog.steps) → kept named = .ok steps →
      ∀ s ∈ steps, s ∈ Catalog.steps := by
    intro named hnamed h
    dsimp only [kept] at h
    split at h <;> cases h
    · exact hnamed
    · exact hnamed
    · exact fun s hs => hnamed s (List.mem_of_mem_filter hs)
  split at h
  · exact hfilter _ (fun _ hs => hs) h
  · exact hfilter _ (fun _ hs => hs) h
  · rename_i names _ _
    cases hnamed : names.mapM Catalog.find with
    | error e =>
      rw [hnamed] at h
      cases h
    | ok named =>
      rw [hnamed] at h
      refine hfilter named (fun s hs => ?_) h
      obtain ⟨name, -, hfind⟩ := exists_of_mapM hnamed s hs
      exact Catalog.mem_of_find hfind

end Sweep

/-! Books. -/

namespace Tally

def results (os : List Outcome) : List ExecutionResult := os.filterMap Outcome.result?

/-- Outcome by outcome a tally sums up the results. -/
theorem foldl_after (os : List Outcome) (t : Tally) :
    os.foldl after t =
      ⟨t.gas + ((results os).map (·.gasUsed)).sum,
        t.nanos + ((results os).map (·.elapsedNanos)).sum,
        t.executions + (results os).length⟩ := by
  induction os generalizing t with
  | nil => simp [results]
  | cons o os ih =>
    rw [List.foldl_cons, ih]
    cases hresult : o.result? with
    | none => simp [results, after, hresult]
    | some result =>
      simp only [results, after, hresult, record, Option.elim_some,
        List.filterMap_cons_some hresult, List.map_cons, List.sum_cons, List.length_cons, mk.injEq]
      push_cast
      omega

/-- Every outcome has a result or is skipped. -/
theorem length_results (os : List Outcome) :
    (results os).length + (os.filter (·.skipped)).length = os.length := by
  induction os with
  | nil => rfl
  | cons o os ih =>
    cases hresult : o.result? with
    | none =>
      have hskipped : o.skipped = true := by rw [Outcome.skipped, hresult]; rfl
      rw [results, List.filterMap_cons_none hresult, List.filter_cons_of_pos hskipped,
        List.length_cons, List.length_cons, ← ih, results, Nat.add_assoc]
    | some result =>
      have hskipped : ¬ o.skipped = true := by
        rw [Outcome.skipped, hresult]
        exact Bool.false_ne_true
      rw [results, List.filterMap_cons_some hresult, List.filter_cons_of_neg hskipped,
        List.length_cons, List.length_cons, ← ih, results, Nat.add_right_comm]

end Tally

/-- The books of a section: a step is skipped if and only if its program does not compile, and the
tally is that of the outcomes that are not skipped. -/
structure Section.Balances (f : String → Except Rejection String) (limits : LoopProgram.Limits)
    (r : Section) : Prop where
  skipped : ∀ o ∈ r.outcomes, ∃ d, LoopProgram.draft limits o.step = .ok d ∧ o.code? = some d.code ∧
    (o.skipped = true ↔ ∃ rejection, f d.code.source = .error rejection)
  executions : r.cumulative.executions + r.skipped = r.outcomes.length
  gas : r.cumulative.gas = ((Tally.results r.outcomes).map (·.gasUsed)).sum
  nanos : r.cumulative.nanos = ((Tally.results r.outcomes).map (·.elapsedNanos)).sum

namespace Sweep

variable {host : Host (StateM σ)} {f : String → Except Rejection String}
  {desk desk' : Desk (StateM σ)} {limits : LoopProgram.Limits} {steps done : List Step}
  {os : List Outcome} {s : Step} {o : Outcome} {d : LoopProgram.Draft} {r : Runner}

/-- What the measurements of some steps, from an empty tally on, have come to. -/
structure Done (f : String → Except Rejection String) (limits : LoopProgram.Limits)
    (done : List Step) (os : List Outcome) (desk : Desk (StateM σ)) : Prop where
  steps : os.map (·.step) = done
  skipped : ∀ o ∈ os, ∃ d, LoopProgram.draft limits o.step = .ok d ∧ o.code? = some d.code ∧
    (o.skipped = true ↔ ∃ rejection, f d.code.source = .error rejection)
  tally : desk.tally = os.foldl Tally.after {}
  agrees : desk.cache.Agrees f

theorem Done.nil (hcache : desk.cache.Agrees f) (htally : desk.tally = {}) :
    Done f limits [] [] desk :=
  ⟨rfl, by simp, htally, hcache⟩

theorem Done.concat (h : Done f limits done os desk) (hd : LoopProgram.draft limits s = .ok d)
    (ho : Booked f d s desk o desk') : Done f limits (done ++ [s]) (os ++ [o]) desk' where
  steps := by rw [List.map_append, h.steps, List.map_singleton, ho.step]
  skipped := by
    intro o' ho'
    rcases List.mem_append.1 ho' with hold | hnew
    · exact h.skipped o' hold
    · rw [List.mem_singleton.1 hnew]
      exact ⟨d, by rw [ho.step, hd], ho.code, ho.skipped⟩
  tally := by rw [List.foldl_append, ← h.tally, ho.tally]; rfl
  agrees := ho.agrees

theorem Done.balances (h : Done f limits done os desk) (title : String) :
    Section.Balances f limits ⟨title, os, desk.tally⟩ := by
  have htally := h.tally
  rw [Tally.foldl_after] at htally
  have hlength := Tally.length_results os
  refine ⟨h.skipped, ?_, ?_, ?_⟩
  · rw [htally, Section.skipped]
    simp only [Int.zero_add]
    exact_mod_cast hlength
  · rw [htally]
    exact Int.zero_add _
  · rw [htally]
    exact Int.zero_add _

/-- A section over steps with programs has one outcome for each, in their order, and its books are
its own, whatever the tally was before. -/
theorem runSection_balances (hhost : host.Faithful) (hhex : AnswersHex f)
    (hcache : desk.cache.Agrees f) (hsteps : ∀ s ∈ steps, ∃ d, LoopProgram.draft r.limits s = .ok d)
    (title : String) :
    Comes (runSection host r title steps) desk
      (fun report desk' => report.title = title ∧ report.outcomes.map (·.step) = steps ∧
        report.Balances f r.limits ∧ desk'.cache.Agrees f) fun _ _ => False := by
  have hstart : Done f r.limits [] [] { desk with tally := {} } := .nil hcache rfl
  refine (Comes.runSection (i := Done f r.limits) title hstart ?_).imp ?_ fun _ _ h => h
  · intro done s os desk' hfront hdone
    obtain ⟨d, hd⟩ := hsteps s (hfront.subset (by simp))
    exact (runStep_booked hhost hhex hdone.agrees hd).imp (fun o desk'' ho => hdone.concat hd ho)
      fun _ _ h => h
  · rintro _ desk' ⟨os, rfl, h⟩
    exact ⟨rfl, h.steps, h.balances title, h.agrees⟩

/-- Reports on these groups of steps, all with books of their own. -/
structure Reported (f : String → Except Rejection String) (limits : LoopProgram.Limits)
    (groups : List (String × List Step)) (reports : List Section) (desk : Desk (StateM σ)) :
    Prop where
  groups : reports.map (fun r => (r.title, r.outcomes.map (·.step))) = groups
  balances : ∀ r ∈ reports, r.Balances f limits
  agrees : desk.cache.Agrees f

/-- Reports that cover these steps: one for each category, in the order in which the categories are
met first, with an outcome for each step of the category, in the order of the steps. -/
structure Covers (f : String → Except Rejection String) (limits : LoopProgram.Limits)
    (steps : List Step) (reports : List Section) : Prop where
  titles : reports.map (·.title) = (steps.map (·.category)).eraseDups
  nodup : (reports.map (·.title)).Nodup
  outcomes : ∀ r ∈ reports, r.outcomes.map (·.step) = steps.filter (·.category == r.title)
  complete : ((reports.flatMap (·.outcomes)).map (·.step)).Perm steps
  balances : ∀ r ∈ reports, r.Balances f limits

theorem Reported.concat {groups : List (String × List Step)} {reports : List Section}
    (h : Reported f limits groups reports desk) {report : Section}
    (hbalances : report.Balances f limits) (hagrees : desk'.cache.Agrees f) :
    Reported f limits (groups ++ [(report.title, report.outcomes.map (·.step))])
      (reports ++ [report]) desk' where
  groups := by rw [List.map_append, h.groups, List.map_singleton]
  balances := by
    rw [List.forall_mem_append]
    exact ⟨h.balances, by simpa using hbalances⟩
  agrees := hagrees

theorem Reported.covers {reports : List Section}
    (h : Reported f limits (Catalog.group steps) reports desk) : Covers f limits steps reports := by
  have htitles : reports.map (·.title) = (steps.map (·.category)).eraseDups := by
    rw [← Catalog.map_fst_group, ← h.groups, List.map_map]
    rfl
  refine ⟨htitles, htitles ▸ nodup_eraseDups _, fun r hr => ?_, ?_, h.balances⟩
  · refine Catalog.mem_snd_group (c := r.title) ?_
    rw [← h.groups]
    exact List.mem_map_of_mem (f := fun r : Section => (r.title, r.outcomes.map (·.step))) hr
  · have hall : (reports.flatMap (·.outcomes)).map (·.step) =
        (Catalog.group steps).flatMap Prod.snd := by
      rw [← h.groups, List.map_flatMap, List.flatMap_map]
    rw [hall]
    exact Catalog.flatMap_group_perm steps

/-- A sweep over steps of the catalog is never broken off, and its reports cover the steps. -/
theorem run_covers (hhost : host.Faithful) (hhex : AnswersHex f) (hcache : desk.cache.Agrees f)
    {show_ : Section → StateM σ (Except Problem Unit)}
    (hshow : ∀ report, Answers (show_ report) (· = .ok ()))
    (hsteps : selected r.profile = .ok steps) :
    Comes (run host r show_) desk (fun reports _ => Covers f r.limits steps reports)
      fun _ _ => False := by
  have hdraft : ∀ s ∈ steps, ∃ d, LoopProgram.draft r.limits s = .ok d := fun s hs =>
    LoopProgram.draft_of_mem_catalog r.limits (mem_catalog_of_selected hsteps s hs)
  have hstart : Reported f r.limits [] [] desk := ⟨rfl, by simp, hcache⟩
  refine (Comes.run (i := Reported f r.limits) hshow hsteps hstart ?_).imp
    (fun reports desk' h => h.covers) fun _ _ h => h
  intro done category members reports desk' hfront hdone
  have hmembers : ∀ s ∈ members, ∃ d, LoopProgram.draft r.limits s = .ok d := by
    intro s hs
    have hgroup := Catalog.mem_snd_group (hfront.subset (by simp) :
      (category, members) ∈ Catalog.group steps)
    rw [hgroup] at hs
    exact hdraft s (List.mem_of_mem_filter hs)
  refine (runSection_balances hhost hhex hdone.agrees hmembers category).imp ?_ fun _ _ h => h
  rintro report desk'' ⟨rfl, rfl, hbalances, hagrees⟩
  exact hdone.concat hbalances hagrees

def picky (source : String) : Except Rejection String :=
  if 2 ∣ source.length then .ok "00" else .error (.other "odd")

theorem answersHex_picky : AnswersHex picky := by
  intro source code h
  unfold picky at h
  split_ifs at h
  cases h
  exact AnswersHex.stop

/-- A step that is selected twice is measured twice, in the section that was met first. -/
theorem run_covers_twice :
    let compiler : Compiler (StateM Tape) :=
      { name := "solc", dialect := .yul, compile := fun source => pure (picky source) }
    let sload := Catalog.step "SLOAD" "storage" [0x54] 100
    let add := Catalog.step "ADD" "arithmetic" [Catalog.x, Catalog.y]
    ∃ r desk,
      prepare Host.onTape { steps? := some ["sload", "ADD", "SLOAD"] } (some compiler) none =
        .ok (r, desk) ∧
      selected r.profile = .ok [sload, add, sload] ∧
      Comes (run Host.onTape r fun _ => pure (.ok ())) desk
        (fun reports _ => reports.map (fun r => (r.title, r.outcomes.map (·.step))) =
          [("storage", [sload, sload]), ("arithmetic", [add])]) fun _ _ => False := by
  intro compiler sload add
  have hcomputes : compiler.Computes picky := fun _ _ => rfl
  obtain ⟨⟨r, desk⟩, hprepare⟩ : ∃ x, prepare Host.onTape
      { steps? := some ["sload", "ADD", "SLOAD"] } (some compiler) none = .ok x := ⟨_, rfl⟩
  have hcache : desk.cache.Agrees picky := prepare_agrees hcomputes (by simp) hprepare
  have hsteps : selected r.profile = .ok [sload, add, sload] := by
    rw [(prepare_cases hprepare).1]
    decide
  let quiet : Section → StateM Tape (Except Problem Unit) := fun _ => pure (.ok ())
  have hquiet : ∀ report, Answers (quiet report) (· = .ok ()) := fun _ _ => rfl
  have hcovers := run_covers Host.onTape_faithful answersHex_picky hcache hquiet hsteps
  refine ⟨r, desk, hprepare, hsteps, hcovers.imp (fun reports _ h => ?_) fun _ _ h => h⟩
  have hpairs : reports.map (fun r => (r.title, r.outcomes.map (·.step))) =
      (reports.map (·.title)).map fun title =>
        (title, [sload, add, sload].filter (·.category == title)) := by
    rw [List.map_map]
    exact List.map_congr_left fun r hr => by rw [h.outcomes r hr]; rfl
  rw [hpairs, h.titles]
  decide

end Sweep
end Gasometer
