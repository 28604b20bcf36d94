import Gasometer.Proofs.Assembler
import Gasometer.Proofs.CacheHistories
import Gasometer.Sweep

/-!
# Measurements

What comes of measuring a step: nothing if no program can be written for it, an outcome without a
result if its program does not compile, and otherwise an outcome with the result of its run.
Everything that a sweep does is put together from this.

A part of a sweep begins at a desk and comes to a result, or to a problem that breaks the sweep off,
and to the desk that it leaves behind.
-/
namespace Gasometer

variable {σ : Type}

/-- Whether the code that a compiler answers is made of pairs of hexadecimal digits. -/
def AnswersHex (f : String → Except Rejection String) : Prop :=
  ∀ source code, f source = .ok code → (∀ c ∈ code.toList, Bytes.IsHexDigit c) ∧ 2 ∣ code.length

/-- The instruction that stops is spelled so. -/
theorem AnswersHex.stop : (∀ c ∈ "00".toList, Bytes.IsHexDigit c) ∧ 2 ∣ "00".length := by
  have hdigits : ("00".toList.all fun c => (Bytes.hexValue? c).isSome) = true := by decide
  exact ⟨List.all_eq_true.1 hdigits, by decide⟩

/-- Such code spells bytes. -/
theorem AnswersHex.ofHex_ok {f : String → Except Rejection String} (hf : AnswersHex f)
    {source code : String} (h : f source = .ok code) : ∃ bytes, Bytes.ofHex code = .ok bytes := by
  obtain ⟨hdigits, k, hk⟩ := hf source code h
  obtain ⟨bytes, hbytes, -⟩ := Bytes.ofHexChars_ok hdigits (by rwa [String.length_toList])
  exact ⟨bytes, hbytes⟩

theorem Assembly.answersHex : AnswersHex Assembly.answer := by
  intro source code h
  rw [Assembly.answer] at h
  cases hcompile : Assembly.compile source with
  | error e =>
    rw [hcompile] at h
    cases h
  | ok hex =>
    rw [hcompile] at h
    cases h
    obtain ⟨bytes, -, rfl⟩ := Assembly.compile_eq_ok_iff.1 hcompile
    have hwidth : ∀ b : UInt8, (Bytes.hexByte b).length = 2 := fun b =>
      Text.length_hexDigits (by decide) b.toNat_lt
    refine ⟨fun c hc => ?_, ?_⟩
    · rw [Bytes.toHex, String.toList_ofList] at hc
      obtain ⟨b, -, hb⟩ := List.mem_flatMap.1 hc
      exact Text.isHexDigit_hexDigits 2 b.toNat c hb
    · rw [Bytes.toHex, String.length_ofList, List.length_flatMap]
      simp [hwidth]

namespace ArtifactCache

variable {f : String → Except Rejection String} {c c' : ArtifactCache (StateM σ)} {source : String}
  {answer : Except CompilationError String}

/-- Whether a cache stands in front of a compiler that computes `f`, and holds nothing else. -/
structure Agrees (c : ArtifactCache (StateM σ)) (f : String → Except Rejection String) : Prop where
  computes : c.compiler.Computes f
  codes : ∀ entry ∈ c.entries, f entry.1 = .ok entry.2

theorem Agrees.of_lookup {code : String} (hc : c.Agrees f)
    (h : c.entries.lookup source = some code) : f source = .ok code := by
  obtain ⟨front, back, hentries, -⟩ := List.lookup_eq_some_iff.1 h
  exact hc.codes (source, code) (by simp [hentries])

/-- Code that is answered is that of the compiler. -/
theorem Served.of_ok {code : String} (h : c.Served f source (.ok code, c')) (hc : c.Agrees f) :
    f source = .ok code := by
  cases h with
  | found h => exact hc.of_lookup h
  | compiled _ _ hf => exact hf

/-- An error that is answered reports a rejection. -/
theorem Served.of_error {e : CompilationError} (h : c.Served f source (.error e, c')) :
    ∃ rejection, f source = .error rejection ∧ e = rejection.toError source := by
  cases h with
  | rejected _ hf => exact ⟨_, hf, rfl⟩

/-- Whatever is asked for, a cache goes on to agree with its compiler. -/
theorem Served.agrees (h : c.Served f source (answer, c')) (hc : c.Agrees f) : c'.Agrees f := by
  cases h with
  | @found code h =>
    refine ⟨hc.computes, fun entry hentry => ?_⟩
    rcases List.mem_append.1 hentry with hold | hnew
    · exact hc.codes entry (List.mem_of_mem_filter hold)
    · rw [List.mem_singleton.1 hnew]
      exact hc.of_lookup h
  | rejected => exact ⟨hc.computes, hc.codes⟩
  | @compiled code elapsed _ hf =>
    rw [store_eq]
    refine ⟨hc.computes, fun entry hentry => ?_⟩
    rcases List.mem_append.1 (List.mem_of_mem_drop hentry) with hold | hnew
    · exact hc.codes entry hold
    · rw [List.mem_singleton.1 hnew]
      exact hf

end ArtifactCache

/-- The tally after an outcome: a step that is skipped leaves it as it is. -/
def Tally.after (t : Tally) (o : Outcome) : Tally := o.result?.elim t t.record

namespace Sweep

variable {α β : Type} {desk : Desk (StateM σ)} {host : Host (StateM σ)}
  {p p' : α → Desk (StateM σ) → Prop} {q q' : Problem → Desk (StateM σ) → Prop}
  {r : β → Desk (StateM σ) → Prop}

/-- A part of a sweep that begins at this desk comes to a result and a desk as in `p`, or to a
problem and a desk as in `q`, in every state of the world. -/
structure Comes (x : Sweep (StateM σ) α) (desk : Desk (StateM σ)) (p : α → Desk (StateM σ) → Prop)
    (q : Problem → Desk (StateM σ) → Prop) : Prop where
  answers : Answers (StateT.run (ExceptT.run x) desk) fun
    | (.ok v, desk') => p v desk'
    | (.error e, desk') => q e desk'

theorem Comes.imp {x : Sweep (StateM σ) α} (hx : Comes x desk p q)
    (hp : ∀ v desk', p v desk' → p' v desk') (hq : ∀ e desk', q e desk' → q' e desk') :
    Comes x desk p' q' := by
  refine ⟨hx.answers.imp ?_⟩
  rintro ⟨v | e, desk'⟩ h
  · exact hq _ _ h
  · exact hp _ _ h

theorem Comes.pure {v : α} (h : p v desk) : Comes (Pure.pure v) desk p q := ⟨fun _ => h⟩

/-- A problem breaks off what follows. -/
theorem Comes.bind {x : Sweep (StateM σ) α} {g : α → Sweep (StateM σ) β} (hx : Comes x desk p q)
    (h : ∀ v desk', p v desk' → Comes (g v) desk' r q) : Comes (x >>= g) desk r q := by
  constructor
  refine Answers.bind (f := fun r => StateT.run (ExceptT.bindCont g r.1) r.2) hx.answers ?_
  rintro ⟨e | v, desk'⟩ hr
  · exact fun _ => hr
  · exact (h v desk' hr).answers

theorem Comes.lift {x : StateM σ α} {g : α → Sweep (StateM σ) β} {a : α → Prop} (hx : Answers x a)
    (h : ∀ v, a v → Comes (g v) desk r q) : Comes (lift x >>= g) desk r q :=
  ⟨fun s => (h _ (hx s)).answers _⟩

/-- The log changes nothing. -/
theorem Comes.log {level : LogLevel} {message : String} {x : Sweep (StateM σ) α}
    (h : Comes x desk p q) : Comes (log host level message >>= fun _ => x) desk p q :=
  Comes.lift (a := fun _ => True) (.of_all fun _ => trivial) fun _ _ => h

theorem Comes.attempt {result : Except Problem α} {g : α → Sweep (StateM σ) β}
    (hok : ∀ v, result = .ok v → Comes (g v) desk r q)
    (herror : ∀ e, result = .error e → q e desk) : Comes (attempt result >>= g) desk r q := by
  cases result with
  | ok v => exact ⟨(hok v rfl).answers⟩
  | error e => exact ⟨fun _ => herror e rfl⟩

theorem Comes.get {g : Desk (StateM σ) → Sweep (StateM σ) β} (h : Comes (g desk) desk r q) :
    Comes (get >>= g) desk r q := ⟨h.answers⟩

theorem Comes.modify {f : Desk (StateM σ) → Desk (StateM σ)} {x : Sweep (StateM σ) α}
    (h : Comes x (f desk) p q) : Comes (modify f >>= fun _ => x) desk p q := ⟨h.answers⟩

/-- What comes to a problem comes to no result. -/
theorem Comes.false [Inhabited σ] {x : Sweep (StateM σ) α} (h : Comes x desk (fun _ _ => False) q)
    (h' : Comes x desk p fun _ _ => False) : False := by
  -- Both speak of the same run, from any state of the world.
  have hbreaks := h.answers default
  have hcomes := h'.answers default
  generalize ((StateT.run (ExceptT.run x) desk).run default).1 = result at hbreaks hcomes
  obtain ⟨e | v, desk'⟩ := result
  · exact hcomes
  · exact hbreaks

/-- A list of work, one piece after the other. The relation `i` speaks of the pieces that are done
and of their results. -/
theorem Comes.mapM {x : α → Sweep (StateM σ) β} {as : List α}
    {i : List α → List β → Desk (StateM σ) → Prop} (hnil : i [] [] desk)
    (hnext : ∀ done a bs desk', done ++ [a] <+: as → i done bs desk' →
      Comes (x a) desk' (fun b => i (done ++ [a]) (bs ++ [b])) q) :
    Comes (as.mapM x) desk (i as) q := by
  -- The induction is on what is left to do, after what is done.
  suffices h : ∀ rest done bs desk', done ++ rest = as → i done bs desk' →
      Comes (rest.mapM x) desk' (fun bs' => i as (bs ++ bs')) q by
    exact h as [] [] desk rfl hnil
  intro rest
  induction rest with
  | nil =>
    rintro done bs desk' rfl hi
    rw [List.append_nil] at *
    rw [List.mapM_nil]
    exact .pure (by rwa [List.append_nil])
  | cons a rest ih =>
    rintro done bs desk' hdone hi
    rw [List.mapM_cons]
    have hfront : done ++ [a] <+: as := ⟨rest, by rw [← hdone, List.append_assoc]; rfl⟩
    refine (hnext done a bs desk' hfront hi).bind fun b desk'' hi' => ?_
    have hdone' : (done ++ [a]) ++ rest = as := by rw [← hdone, List.append_assoc]; rfl
    refine (ih (done ++ [a]) (bs ++ [b]) desk'' hdone' hi').bind ?_
    intro bs' desk₃ hi₃
    rw [List.append_assoc] at hi₃
    exact .pure hi₃

inductive Measured (f : String → Except Rejection String) (limits : LoopProgram.Limits) (s : Step)
    (desk : Desk (StateM σ)) : Outcome → Desk (StateM σ) → Prop
  | skipped {d : LoopProgram.Draft} {e : CompilationError} {cache : ArtifactCache (StateM σ)}
    (hdraft : LoopProgram.draft limits s = .ok d)
    (hserved : desk.cache.Served f d.code.source (.error e, cache)) :
    Measured f limits s desk { step := s, code? := some d.code, error := e.text }
      { desk with cache := cache }
  | ran {d : LoopProgram.Draft} {code : String} {cache : ArtifactCache (StateM σ)}
    (result : ExecutionResult) (hdraft : LoopProgram.draft limits s = .ok d)
    (hserved : desk.cache.Served f d.code.source (.ok code, cache)) :
    Measured f limits s desk { step := s, code? := some d.code, result? := some result }
      ⟨cache, desk.tally.record result⟩

/-- What breaks the measurement of a step off: no program can be written for it, or the compiler has
answered no code. -/
inductive Unmeasured (f : String → Except Rejection String) (limits : LoopProgram.Limits) (s : Step)
    (desk : Desk (StateM σ)) : Problem → Desk (StateM σ) → Prop
  | undrafted {e : Problem} (hdraft : LoopProgram.draft limits s = .error e) :
    Unmeasured f limits s desk e desk
  | unreadable {d : LoopProgram.Draft} {code : String} {fault : Fault}
    {cache : ArtifactCache (StateM σ)} (hdraft : LoopProgram.draft limits s = .ok d)
    (hserved : desk.cache.Served f d.code.source (.ok code, cache))
    (hcode : Bytes.ofHex code = .error fault) :
    Unmeasured f limits s desk (.fault fault) { desk with cache := cache }

variable {f : String → Except Rejection String}

theorem generate_draft (host : Host (StateM σ)) (limits : LoopProgram.Limits) (s : Step) :
    Answers (LoopProgram.generate host limits s)
      (· = (LoopProgram.draft limits s).map (·.code)) := by
  unfold LoopProgram.generate
  cases LoopProgram.draft limits s with
  | error e => exact fun _ => rfl
  | ok d =>
    cases hshape : d.shape? with
    | none => simp only [hshape]; exact fun _ => rfl
    | some shape => simp only [hshape]; exact fun _ => rfl

theorem compile_served (hhost : host.Faithful) (hf : desk.cache.compiler.Computes f)
    {source : String} {g : Except CompilationError String → Sweep (StateM σ) β}
    (h : ∀ answer cache, desk.cache.Served f source (answer, cache) →
      Comes (g answer) { desk with cache := cache } r q) :
    Comes (compile host source >>= g) desk r q := by
  have hserved := ArtifactCache.get_served hhost hf source
  exact ⟨fun s => (h _ _ (hserved s)).answers _⟩

/-- What comes of measuring a step. -/
theorem runStep_measured (hhost : host.Faithful) (hf : desk.cache.compiler.Computes f)
    (r : Runner) (s : Step) :
    Comes (runStep host r s) desk (Measured f r.limits s desk) (Unmeasured f r.limits s desk) := by
  unfold runStep
  refine Comes.lift (generate_draft host r.limits s) ?_
  rintro _ rfl
  refine Comes.attempt (fun code hcode => ?_) fun e he => ?_
  · cases hdraft : LoopProgram.draft r.limits s with
    | error e =>
      rw [hdraft] at hcode
      cases hcode
    | ok d =>
      rw [hdraft] at hcode
      cases hcode
      refine compile_served hhost hf fun answer cache hserved => ?_
      cases answer with
      | error e => exact Comes.log (.pure (.skipped hdraft hserved))
      | ok code =>
        refine Comes.attempt (fun bytes _ => ?_) fun e he => ?_
        · refine Comes.lift (a := fun _ => True) (.of_all fun _ => trivial) fun reading _ => ?_
          refine Comes.modify ?_
          have hran := Measured.ran reading.result hdraft hserved
          by_cases hreason : reading.result.givenReason?.isSome = true
          · rw [if_pos hreason]
            exact Comes.log (Comes.log (.pure hran))
          · rw [if_neg hreason]
            exact Comes.log (.pure hran)
        · cases hbytes : Bytes.ofHex code with
          | ok bytes =>
            rw [hbytes] at he
            cases he
          | error fault =>
            rw [hbytes] at he
            cases he
            exact .unreadable hdraft hserved hbytes
  · cases hdraft : LoopProgram.draft r.limits s with
    | error e' =>
      rw [hdraft] at he
      cases he
      exact .undrafted hdraft
    | ok d =>
      rw [hdraft] at he
      cases he

/-- What is booked about a step with this draft. -/
structure Booked (f : String → Except Rejection String) (d : LoopProgram.Draft) (s : Step)
    (desk : Desk (StateM σ)) (o : Outcome) (desk' : Desk (StateM σ)) : Prop where
  step : o.step = s
  code : o.code? = some d.code
  skipped : o.skipped = true ↔ ∃ rejection, f d.code.source = .error rejection
  error : ∀ rejection, f d.code.source = .error rejection →
    o.error = (rejection.toError d.code.source).text
  tally : desk'.tally = desk.tally.after o
  agrees : desk'.cache.Agrees f

variable {r : Runner} {s : Step} {d : LoopProgram.Draft}

/-- A step that is skipped leaves the tally as it is. -/
theorem Booked.tally_of_skipped {o : Outcome} {desk' : Desk (StateM σ)}
    (h : Booked f d s desk o desk') (hskipped : o.skipped = true) : desk'.tally = desk.tally := by
  rw [h.tally, Tally.after, Option.isNone_iff_eq_none.1 hskipped]
  rfl

theorem Measured.booked {o : Outcome} {desk' : Desk (StateM σ)}
    (h : Measured f r.limits s desk o desk') (hcache : desk.cache.Agrees f)
    (hd : LoopProgram.draft r.limits s = .ok d) : Booked f d s desk o desk' := by
  cases h with
  | skipped hdraft hserved =>
    obtain rfl := Except.ok.inj (hdraft.symm.trans hd)
    obtain ⟨rejection, hf, rfl⟩ := hserved.of_error
    refine ⟨rfl, rfl, ⟨fun _ => ⟨rejection, hf⟩, fun _ => rfl⟩, ?_, rfl, hserved.agrees hcache⟩
    rintro rejection' hf'
    obtain rfl := Except.error.inj (hf.symm.trans hf')
    rfl
  | ran result hdraft hserved =>
    obtain rfl := Except.ok.inj (hdraft.symm.trans hd)
    have hf := hserved.of_ok hcache
    refine ⟨rfl, rfl, ⟨fun h => ?_, ?_⟩, ?_, rfl, hserved.agrees hcache⟩
    · cases h
    · rintro ⟨rejection, hf'⟩
      rw [hf] at hf'
      cases hf'
    · rintro rejection hf'
      rw [hf] at hf'
      cases hf'

/-- The measurement of a step with a program comes to an outcome, and this is booked. -/
theorem runStep_booked (hhost : host.Faithful) (hhex : AnswersHex f) (hcache : desk.cache.Agrees f)
    (hd : LoopProgram.draft r.limits s = .ok d) :
    Comes (runStep host r s) desk (Booked f d s desk) fun _ _ => False := by
  refine (runStep_measured hhost hcache.computes r s).imp (fun o desk' h => h.booked hcache hd) ?_
  rintro e desk' (hdraft | ⟨-, hserved, hcode⟩)
  · rw [hdraft] at hd
    cases hd
  · obtain ⟨bytes, hbytes⟩ := hhex.ofHex_ok (hserved.of_ok hcache)
    rw [hbytes] at hcode
    cases hcode

/-- Without a program nothing is measured, and the desk is left as it is. -/
theorem runStep_undrafted (hhost : host.Faithful) (hf : desk.cache.compiler.Computes f)
    {e : Problem} (hd : LoopProgram.draft r.limits s = .error e) :
    Comes (runStep host r s) desk (fun _ _ => False) fun e' desk' => e' = e ∧ desk' = desk := by
  refine (runStep_measured hhost hf r s).imp ?_ ?_
  · rintro o desk' (⟨hdraft, -⟩ | ⟨-, hdraft, -⟩)
    · rw [hdraft] at hd
      cases hd
    · rw [hdraft] at hd
      cases hd
  · rintro e' desk' (hdraft | ⟨hdraft, -, -⟩)
    · rw [hdraft] at hd
      exact ⟨Except.error.inj hd, rfl⟩
    · rw [hdraft] at hd
      cases hd

/-! Whole sections and sweeps. -/

/-- What holds of a section if the tally is cleared and its steps are measured. The relation `i`
speaks of the steps that are done and of their outcomes. -/
theorem Comes.runSection {steps : List Step} {i : List Step → List Outcome → Desk (StateM σ) → Prop}
    {q : Problem → Desk (StateM σ) → Prop} (title : String)
    (hnil : i [] [] { desk with tally := {} })
    (hnext : ∀ done s os desk', done ++ [s] <+: steps → i done os desk' →
      Comes (runStep host r s) desk' (fun o => i (done ++ [s]) (os ++ [o])) q) :
    Comes (runSection host r title steps) desk
      (fun report desk' => ∃ os, report = ⟨title, os, desk'.tally⟩ ∧ i steps os desk') q := by
  unfold Sweep.runSection
  refine Comes.modify ((Comes.mapM hnil hnext).bind fun os desk' h => ?_)
  exact Comes.get (Comes.log (.pure ⟨os, rfl, h⟩))

/-- What holds of a sweep over the selected steps, section by section. The relation `i` speaks of
the groups that are done and of their sections. -/
theorem Comes.run {steps : List Step}
    {i : List (String × List Step) → List Section → Desk (StateM σ) → Prop}
    {q : Problem → Desk (StateM σ) → Prop} {show_ : Section → StateM σ (Except Problem Unit)}
    (hshow : ∀ report, Answers (show_ report) (· = .ok ()))
    (hsteps : selected r.profile = .ok steps) (hnil : i [] [] desk)
    (hnext : ∀ done category members reports desk',
      done ++ [(category, members)] <+: Catalog.group steps → i done reports desk' →
        Comes (Sweep.runSection host r category members) desk'
          (fun report => i (done ++ [(category, members)]) (reports ++ [report])) q) :
    Comes (run host r show_) desk (i (Catalog.group steps)) q := by
  unfold Sweep.run
  refine Comes.get (Comes.log ?_)
  refine Comes.attempt (fun steps' hsteps' => ?_) fun e he => ?_
  · obtain rfl := Except.ok.inj (hsteps.symm.trans hsteps')
    refine (Comes.mapM (i := i) hnil ?_).bind fun reports desk' h => Comes.get (Comes.log (.pure h))
    rintro done ⟨category, members⟩ reports desk' hfront hdone
    refine (hnext done category members reports desk' hfront hdone).bind fun report desk'' h => ?_
    refine Comes.lift (hshow report) ?_
    rintro _ rfl
    refine Comes.attempt (fun _ _ => .pure h) fun e he => ?_
    cases he
  · rw [hsteps] at he
    cases he

/-! Prepared sweeps. -/

/-- What a sweep is prepared with: the cache that is given, or a new one if that is empty. -/
theorem prepare_cases {profile : Profile} {compiler : Compiler (StateM σ)}
    {cache? : Option (ArtifactCache (StateM σ))}
    (h : prepare host profile (some compiler) cache? = .ok (r, desk)) :
    r.profile = profile ∧ desk.tally = {} ∧
      ((∃ c ∈ cache?, c.size ≠ 0 ∧ desk.cache = c) ∨
        (∀ c ∈ cache?, c.size = 0) ∧
          ArtifactCache.create compiler profile.cacheCapacity profile.cacheMaxSize? =
            .ok desk.cache) := by
  unfold prepare at h
  simp only [bind, Except.bind, pure, Except.pure] at h
  cases hgiven : cache?.filter (·.size != 0) with
  | some c =>
    rw [hgiven] at h
    obtain ⟨hc, hsize⟩ := Option.filter_eq_some_iff.1 hgiven
    dsimp only at h
    split at h
    · cases h
    · split at h
      · cases h
      · cases h
        exact ⟨rfl, rfl, .inl ⟨c, hc, by simpa using hsize, rfl⟩⟩
  | none =>
    rw [hgiven] at h
    have hempty : ∀ c ∈ cache?, c.size = 0 := by simpa using Option.filter_eq_none_iff.1 hgiven
    dsimp only at h
    split at h
    · cases h
    · rename_i c hc
      split at h
      · cases h
      · split at h
        · cases h
        · cases h
          exact ⟨rfl, rfl, .inr ⟨hempty, hc⟩⟩

/-- Without a compiler a sweep is prepared as with the one that the profile chooses. -/
theorem exists_prepare_some {profile : Profile} {compiler? : Option (Compiler (StateM σ))}
    {cache? : Option (ArtifactCache (StateM σ))}
    (h : prepare host profile compiler? cache? = .ok (r, desk)) :
    ∃ compiler, (∀ given ∈ compiler?, compiler = given) ∧
      prepare host profile (some compiler) cache? = .ok (r, desk) := by
  cases compiler? with
  | some compiler => exact ⟨compiler, by simp, h⟩
  | none =>
    unfold prepare at h
    cases hchoice : (CompilerChoice.ofName profile.compiler).map (·.compiler host) with
    | error e =>
      rw [hchoice] at h
      cases h
    | ok compiler =>
      rw [hchoice] at h
      exact ⟨compiler, by simp, h⟩

/-- The cache of a sweep agrees with the compiler if the given one does. -/
theorem prepare_agrees {profile : Profile} {compiler : Compiler (StateM σ)}
    {cache? : Option (ArtifactCache (StateM σ))} (hf : compiler.Computes f)
    (hcache : ∀ c ∈ cache?, c.Agrees f)
    (h : prepare host profile (some compiler) cache? = .ok (r, desk)) : desk.cache.Agrees f := by
  obtain ⟨-, -, ⟨c, hc, -, hsame⟩ | ⟨-, hnew⟩⟩ := prepare_cases h
  · rw [hsame]
    exact hcache c hc
  · unfold ArtifactCache.create at hnew
    split_ifs at hnew
    rw [← Except.ok.inj hnew]
    exact ⟨hf, by simp⟩

end Sweep
end Gasometer
