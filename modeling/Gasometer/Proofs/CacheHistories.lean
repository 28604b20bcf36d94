import Gasometer.ArtifactCache
import Gasometer.Host.Tape
import Mathlib.Data.List.Dedup
import Mathlib.Data.List.DropRight

/-!
# Histories of a cache

A cache is asked for the code of sources and cleared, in any order. Over a compiler that always
answers the same about a source, it keeps the list of the sources that were asked for most recently,
answers what the compiler answers, and counts exactly what has happened.

A host works in a world of its own, so nothing is known of an action but what it answers in every
state of that world.
-/
namespace Gasometer

variable {σ : Type}

section Lists

variable {α : Type} {l front back : List α} {n : Nat}

/-- An item that is asked for once more goes to the end. -/
theorem dedup_concat [DecidableEq α] (l : List α) (x : α) :
    (l ++ [x]).dedup = l.dedup.filter (· != x) ++ [x] := by
  induction l with
  | nil => simp
  | cons y l ih =>
    by_cases hmem : y ∈ l
    · simp [hmem, ih]
    · by_cases hxy : y = x
      · subst hxy
        have hall : l.dedup.filter (· != y) = l.dedup :=
          List.filter_eq_self.2 fun z hz => by
            simpa using ne_of_mem_of_not_mem (List.mem_dedup.1 hz) hmem
        simp [ih, hmem, hall]
      · simp [hmem, hxy, ih]

theorem rtake_of_length_le (h : l.length ≤ n) : l.rtake n = l := by
  rw [List.rtake, Nat.sub_eq_zero_of_le h, List.drop_zero]

/-- The last items of a list are those of its back, if that is long enough. -/
theorem rtake_append (h : front = [] ∨ n ≤ back.length) :
    (front ++ back).rtake n = back.rtake n := by
  rcases h with rfl | h
  · rfl
  · have hlength : (front ++ back).length - n = front.length + (back.length - n) := by
      rw [List.length_append]
      omega
    rw [List.rtake, hlength, List.drop_append]
    simp [List.rtake]

/-- How the last items of a list change when an item goes to its end: it is among them and leaves
its place there, or it pushes out the first of them if they are too many. -/
theorem rtake_requested [DecidableEq α] (hl : l.Nodup) (hn : 0 < n) (x : α) :
    (l.filter (· != x) ++ [x]).rtake n =
      if x ∈ l.rtake n then (l.rtake n).filter (· != x) ++ [x]
      else (l.rtake n ++ [x]).drop ((l.rtake n).length + 1 - n) := by
  obtain ⟨n, rfl⟩ : ∃ i, n = i + 1 := ⟨n - 1, by omega⟩
  obtain ⟨front, back, rfl, hback, hshort⟩ : ∃ front back, l = front ++ back ∧
      l.rtake (n + 1) = back ∧ (front = [] ∨ n < back.length) := by
    refine ⟨l.take (l.length - (n + 1)), l.rtake (n + 1), (List.take_append_drop ..).symm, rfl, ?_⟩
    rw [List.rtake, List.length_drop, List.take_eq_nil_iff]
    omega
  have hle : back.length ≤ n + 1 := by
    rw [← hback, List.rtake, List.length_drop]
    omega
  rw [List.rtake_concat_succ, hback, List.filter_append]
  have hempty : front = [] → front.filter (· != x) = [] := by
    rintro rfl
    rfl
  split_ifs with hmem
  · have hlength : (back.filter (· != x)).length = back.length - 1 := by
      have hback := (List.nodup_append.1 hl).2.1
      rw [← List.length_erase_of_mem hmem, hback.erase_eq_filter]
    rw [rtake_append (hshort.imp hempty fun h => by omega), rtake_of_length_le (by omega)]
  · have hall : back.filter (· != x) = back :=
      List.filter_eq_self.2 fun y hy => by simpa using ne_of_mem_of_not_mem hy hmem
    rw [hall, rtake_append (hshort.imp hempty fun h => by omega), List.rtake, Nat.add_sub_add_right,
      List.drop_append_of_le_length (Nat.sub_le ..)]

end Lists

/-! What actions answer. -/

/-- Whether an action answers only what has this property, in every state of the world. -/
def Answers {α : Type} (x : StateM σ α) (p : α → Prop) : Prop := ∀ s, p (x.run s).1

theorem Answers.bind {α β : Type} {x : StateM σ α} {f : α → StateM σ β} {p : α → Prop}
    {q : β → Prop} (hx : Answers x p) (hf : ∀ v, p v → Answers (f v) q) : Answers (x >>= f) q :=
  fun s => hf _ (hx s) _

theorem Answers.imp {α : Type} {x : StateM σ α} {p q : α → Prop} (hx : Answers x p)
    (h : ∀ v, p v → q v) : Answers x q := fun s => h _ (hx s)

theorem Answers.of_all {α : Type} {x : StateM σ α} {p : α → Prop} (h : ∀ v, p v) : Answers x p :=
  fun _ => h _

/-- Whether an action that is timed answers as it would without the clock. -/
def Host.Faithful (host : Host (StateM σ)) : Prop :=
  ∀ {α : Type} (act : Unit → StateM σ α) (p : α → Prop),
    Answers (act ()) p → Answers (host.timed act) fun r => p r.1

theorem Host.onTape_faithful : Host.onTape.Faithful := fun _ _ h s => h s

/-- Whether a compiler always answers about a source as `f` does. -/
def Compiler.Computes (compiler : Compiler (StateM σ)) (f : String → Except Rejection String) :
    Prop :=
  ∀ source, Answers (compiler.compile source) (· = f source)

def Assembly.answer (source : String) : Except Rejection String :=
  (Assembly.compile source).mapError .report

theorem Compiler.assembler_computes :
    (Compiler.assembler : Compiler (StateM σ)).Computes Assembly.answer := fun _ _ => rfl

namespace ArtifactCache

variable {f : String → Except Rejection String} {c : ArtifactCache (StateM σ)} {source : String}

/-- What a cache does when it is asked for a source. -/
inductive Served (f : String → Except Rejection String) (c : ArtifactCache (StateM σ))
    (source : String) : Except CompilationError String × ArtifactCache (StateM σ) → Prop
  | found {code : String} (h : c.entries.lookup source = some code) :
    Served f c source (.ok code,
      { c with
        entries := c.entries.filter (·.1 != source) ++ [(source, code)]
        stats := { c.stats with hits := c.stats.hits + 1 } })
  | rejected {rejection : Rejection} (h : c.entries.lookup source = none)
    (hf : f source = .error rejection) :
    Served f c source (.error (rejection.toError source), c.miss.fail)
  | compiled {code : String} (elapsed : Int) (h : c.entries.lookup source = none)
    (hf : f source = .ok code) :
    Served f c source (.ok code, c.miss.store source code elapsed)

/-- A request is served in one of these ways. -/
theorem get_served {host : Host (StateM σ)} (hhost : host.Faithful) (hf : c.compiler.Computes f)
    (source : String) : Answers (c.get host source) (Served f c source) := by
  unfold get lookUp?
  cases hentry : c.entries.lookup source with
  | some code => exact fun _ => .found hentry
  | none =>
    refine (hhost _ _ (hf source)).bind ?_
    rintro ⟨result, elapsed⟩ rfl
    dsimp only
    cases hresult : f source with
    | error rejection =>
      exact Answers.bind (p := fun _ => True) (.of_all fun _ => trivial) fun _ _ _ =>
        .rejected hentry hresult
    | ok code =>
      refine Answers.bind (p := fun _ => True) (.of_all fun _ => trivial) fun _ _ => ?_
      exact Answers.bind (p := fun _ => True) (.of_all fun _ => trivial) fun _ _ _ =>
        .compiled elapsed hentry hresult

def overflow (c : ArtifactCache (StateM σ)) : Nat :=
  c.maxSize?.elim 0 fun bound => c.size + 1 - bound.toNat

theorem overflow_le (c : ArtifactCache (StateM σ)) : c.overflow ≤ c.size + 1 := by
  unfold overflow
  cases c.maxSize? <;> simp

theorem store_eq (c : ArtifactCache (StateM σ)) (source code : String) (elapsed : Int) :
    c.store source code elapsed =
      { c with
        entries := (c.entries ++ [(source, code)]).drop c.overflow
        stats := { c.stats with
          compilations := c.stats.compilations + 1
          compileNanos := c.stats.compileNanos + elapsed
          evictions := c.stats.evictions + c.overflow } } := by
  unfold store overflow excess size
  cases c.maxSize? <;> simp

end ArtifactCache

inductive CacheCall
  | get (source : String)
  | clear
  deriving DecidableEq, Repr

namespace CacheCall

def source? : CacheCall → Option String
  | get source => some source
  | clear => none

def sources (calls : List CacheCall) : List String := calls.filterMap source?

/-- The sources that were asked for since everything was dropped last. -/
def sinceClear (calls : List CacheCall) : List String := sources (calls.rtakeWhile (· != clear))

/-- The sources with code that were asked for since everything was dropped, each once, the one that
was asked for last at the end. -/
def recent (f : String → Except Rejection String) (calls : List CacheCall) : List String :=
  ((sinceClear calls).filter fun source => (f source).isOk).dedup

/-- The sources that a cache of this size keeps. -/
def kept (f : String → Except Rejection String) (maxSize? : Option Int) (calls : List CacheCall) :
    List String :=
  match maxSize? with
  | none => recent f calls
  | some bound => (recent f calls).rtake bound.toNat

variable {f : String → Except Rejection String} {calls : List CacheCall} {source : String}
  {maxSize? : Option Int}

theorem sources_concat_get : sources (calls ++ [get source]) = sources calls ++ [source] := by
  simp [sources, source?]

theorem sources_concat_clear : sources (calls ++ [clear]) = sources calls := by
  simp [sources, source?]

theorem sinceClear_concat_get :
    sinceClear (calls ++ [get source]) = sinceClear calls ++ [source] := by
  rw [sinceClear, List.rtakeWhile_concat_pos _ _ _ (by simp), sources_concat_get, sinceClear]

theorem sinceClear_concat_clear : sinceClear (calls ++ [clear]) = [] := by
  rw [sinceClear, List.rtakeWhile_concat_neg _ _ _ (by simp)]
  rfl

theorem nodup_recent : (recent f calls).Nodup := List.nodup_dedup _

theorem recent_concat_ok {code : String} (h : f source = .ok code) :
    recent f (calls ++ [get source]) = (recent f calls).filter (· != source) ++ [source] := by
  rw [recent, sinceClear_concat_get, List.filter_append, List.filter_singleton, h]
  exact dedup_concat ..

theorem recent_concat_error {rejection : Rejection} (h : f source = .error rejection) :
    recent f (calls ++ [get source]) = recent f calls := by
  rw [recent, sinceClear_concat_get, List.filter_append, List.filter_singleton, h, recent]
  simp [Except.isOk, Except.toBool]

theorem recent_concat_clear : recent f (calls ++ [clear]) = [] := by
  rw [recent, sinceClear_concat_clear]
  rfl

theorem nodup_kept : (kept f maxSize? calls).Nodup := by
  unfold kept
  cases maxSize? with
  | none => exact nodup_recent
  | some bound => exact nodup_recent.sublist (List.drop_sublist ..)

theorem length_filter_kept (h : source ∈ kept f maxSize? calls) :
    ((kept f maxSize? calls).filter (· != source)).length + 1 = (kept f maxSize? calls).length := by
  rw [← nodup_kept.erase_eq_filter, List.length_erase_of_mem h]
  exact Nat.sub_add_cancel (List.length_pos_of_mem h)

theorem kept_concat_error {rejection : Rejection} (h : f source = .error rejection) :
    kept f maxSize? (calls ++ [get source]) = kept f maxSize? calls := by
  simp only [kept, recent_concat_error h]

theorem kept_concat_clear : kept f maxSize? (calls ++ [clear]) = [] := by
  unfold kept
  cases maxSize? <;> simp [recent_concat_clear]

/-- A source that is kept goes to the end; any other joins at the end, and as many give way as are
too many then. -/
theorem kept_concat_ok {code : String} (h : f source = .ok code) (hsize : maxSize?.all (1 ≤ ·)) :
    kept f maxSize? (calls ++ [get source]) =
      if source ∈ kept f maxSize? calls then
        (kept f maxSize? calls).filter (· != source) ++ [source]
      else (kept f maxSize? calls ++ [source]).drop
        (maxSize?.elim 0 fun bound => (kept f maxSize? calls).length + 1 - bound.toNat) := by
  cases maxSize? with
  | none =>
    simp only [kept, recent_concat_ok h, Option.elim_none, List.drop_zero]
    split_ifs with hmem
    · rfl
    · rw [List.filter_eq_self.2 fun y hy => by simpa using ne_of_mem_of_not_mem hy hmem]
  | some bound =>
    have hbound : 1 ≤ bound := by simpa using hsize
    simp only [kept, recent_concat_ok h, Option.elim_some]
    exact rtake_requested nodup_recent (by omega) source

end CacheCall

structure CacheHistory (m : Type → Type) where
  cache : ArtifactCache m
  answers : List (Except CompilationError String) := []
  dropped : Nat := 0

namespace CacheHistory

def call {m : Type → Type} [Monad m] (host : Host m) (h : CacheHistory m) :
    CacheCall → m (CacheHistory m)
  | .get source => do
    let (answer, cache) ← h.cache.get host source
    return { h with cache := cache, answers := h.answers ++ [answer] }
  | .clear => return { h with cache := h.cache.clear, dropped := h.dropped + h.cache.size }

def calls {m : Type → Type} [Monad m] (host : Host m) (h : CacheHistory m)
    (calls : List CacheCall) : m (CacheHistory m) := calls.foldlM (call host) h

/-- What a history over a compiler that computes `f` has come to after these calls. -/
structure Reflects (f : String → Except Rejection String) (maxSize? : Option Int)
    (calls : List CacheCall) (h : CacheHistory (StateM σ)) : Prop where
  computes : h.cache.compiler.Computes f
  bound : h.cache.maxSize? = maxSize?
  answers : h.answers =
    (CacheCall.sources calls).map fun source => (f source).mapError (Rejection.toError source)
  sources : h.cache.entries.map Prod.fst = CacheCall.kept f maxSize? calls
  codes : ∀ entry ∈ h.cache.entries, f entry.1 = .ok entry.2
  requests : h.cache.stats.hits + h.cache.stats.misses = (CacheCall.sources calls).length
  misses : h.cache.stats.misses = h.cache.stats.compilations + h.cache.stats.failures
  compilations : h.cache.stats.compilations =
    h.cache.size + h.cache.stats.evictions + h.dropped

variable {f : String → Except Rejection String} {maxSize? : Option Int} {calls : List CacheCall}
  {h : CacheHistory (StateM σ)} {source : String}

/-- A source that is not kept is looked up in vain. -/
theorem Reflects.not_mem_kept (hr : h.Reflects f maxSize? calls)
    (hnone : h.cache.entries.lookup source = none) : source ∉ CacheCall.kept f maxSize? calls := by
  rw [← hr.sources]
  intro hmem
  obtain ⟨entry, hentry, rfl⟩ := List.mem_map.1 hmem
  simpa using List.lookup_eq_none_iff.1 hnone entry hentry

/-- A source that is found is kept with its code. -/
theorem Reflects.of_lookup {code : String} (hr : h.Reflects f maxSize? calls)
    (hcode : h.cache.entries.lookup source = some code) :
    source ∈ CacheCall.kept f maxSize? calls ∧ f source = .ok code := by
  obtain ⟨front, back, hentries, -⟩ := List.lookup_eq_some_iff.1 hcode
  have hmem : (source, code) ∈ h.cache.entries := by simp [hentries]
  refine ⟨?_, hr.codes _ hmem⟩
  rw [← hr.sources]
  exact List.mem_map_of_mem hmem

/-- The books after a request for a source that is found. -/
theorem Reflects.get_found {code : String} (hr : h.Reflects f maxSize? calls)
    (hsize : maxSize?.all (1 ≤ ·)) (hcode : h.cache.entries.lookup source = some code) :
    Reflects f maxSize? (calls ++ [.get source])
      { h with
        cache := { h.cache with
          entries := h.cache.entries.filter (·.1 != source) ++ [(source, code)]
          stats := { h.cache.stats with hits := h.cache.stats.hits + 1 } }
        answers := h.answers ++ [.ok code] } := by
  obtain ⟨hkept, hf⟩ := hr.of_lookup hcode
  have hsources : (h.cache.entries.filter (·.1 != source)).map Prod.fst =
      (CacheCall.kept f maxSize? calls).filter (· != source) := by
    rw [← hr.sources, List.filter_map]
    rfl
  have hlength : (h.cache.entries.filter (·.1 != source)).length + 1 = h.cache.entries.length := by
    have hfewer := CacheCall.length_filter_kept hkept
    rwa [← hsources, ← hr.sources, List.length_map, List.length_map] at hfewer
  refine ⟨hr.computes, hr.bound, ?_, ?_, ?_, ?_, ?_, ?_⟩
  · simp [CacheCall.sources_concat_get, hr.answers, hf, Except.mapError]
  · rw [CacheCall.kept_concat_ok hf hsize, if_pos hkept, ← hsources]
    simp
  · intro entry hentry
    rcases List.mem_append.1 hentry with hold | hnew
    · exact hr.codes entry (List.mem_of_mem_filter hold)
    · rw [List.mem_singleton] at hnew
      rw [hnew, hf]
  · have := hr.requests
    simp [CacheCall.sources_concat_get]
    omega
  · exact hr.misses
  · have := hr.compilations
    simp [ArtifactCache.size] at *
    omega

/-- The books after a request for a source that is rejected. -/
theorem Reflects.get_rejected {rejection : Rejection} (hr : h.Reflects f maxSize? calls)
    (hf : f source = .error rejection) :
    Reflects f maxSize? (calls ++ [.get source])
      { h with
        cache := h.cache.miss.fail
        answers := h.answers ++ [.error (rejection.toError source)] } := by
  refine ⟨hr.computes, hr.bound, ?_, ?_, ?_, ?_, ?_, ?_⟩
  · simp [CacheCall.sources_concat_get, hr.answers, hf, Except.mapError]
  · rw [CacheCall.kept_concat_error hf]
    exact hr.sources
  · exact hr.codes
  · have := hr.requests
    simp [CacheCall.sources_concat_get, ArtifactCache.fail, ArtifactCache.miss]
    omega
  · have := hr.misses
    simp [ArtifactCache.fail, ArtifactCache.miss]
    omega
  · exact hr.compilations

/-- The books after a request for a source that is compiled. -/
theorem Reflects.get_compiled {code : String} (hr : h.Reflects f maxSize? calls)
    (hsize : maxSize?.all (1 ≤ ·)) (elapsed : Int)
    (hnone : h.cache.entries.lookup source = none) (hf : f source = .ok code) :
    Reflects f maxSize? (calls ++ [.get source])
      { h with
        cache := h.cache.miss.store source code elapsed
        answers := h.answers ++ [.ok code] } := by
  rw [ArtifactCache.store_eq]
  refine ⟨hr.computes, hr.bound, ?_, ?_, ?_, ?_, ?_, ?_⟩
  · simp [CacheCall.sources_concat_get, hr.answers, hf, Except.mapError]
  · rw [CacheCall.kept_concat_ok hf hsize, if_neg (hr.not_mem_kept hnone), ← hr.sources]
    simp [ArtifactCache.overflow, ArtifactCache.size, ArtifactCache.miss, hr.bound]
  · intro entry hentry
    rcases List.mem_append.1 (List.mem_of_mem_drop hentry) with hold | hnew
    · exact hr.codes entry hold
    · rw [List.mem_singleton] at hnew
      rw [hnew, hf]
  · have := hr.requests
    simp [CacheCall.sources_concat_get, ArtifactCache.miss]
    omega
  · have := hr.misses
    simp [ArtifactCache.miss]
    omega
  · have hbooks := hr.compilations
    have hfew := h.cache.miss.overflow_le
    simp only [ArtifactCache.size, ArtifactCache.miss, List.length_drop, List.length_append,
      List.length_singleton] at *
    omega

/-- The books after everything is dropped. -/
theorem Reflects.clear (hr : h.Reflects f maxSize? calls) :
    Reflects f maxSize? (calls ++ [.clear])
      { h with cache := h.cache.clear, dropped := h.dropped + h.cache.size } := by
  refine ⟨hr.computes, hr.bound, ?_, ?_, ?_, ?_, hr.misses, ?_⟩
  · rw [CacheCall.sources_concat_clear]
    exact hr.answers
  · rw [CacheCall.kept_concat_clear]
    rfl
  · intro entry hentry
    simp [ArtifactCache.clear] at hentry
  · rw [CacheCall.sources_concat_clear]
    exact hr.requests
  · have := hr.compilations
    simp [ArtifactCache.clear, ArtifactCache.size] at *
    omega

/-- One call keeps the books. -/
theorem Reflects.call {host : Host (StateM σ)} (hhost : host.Faithful)
    (hr : h.Reflects f maxSize? calls) (hsize : maxSize?.all (1 ≤ ·)) (call : CacheCall) :
    Answers (h.call host call) (Reflects f maxSize? (calls ++ [call])) := by
  cases call with
  | clear => exact fun _ => hr.clear
  | get source =>
    refine (ArtifactCache.get_served hhost hr.computes source).bind ?_
    rintro _ (⟨hcode⟩ | ⟨hnone, hf⟩ | ⟨elapsed, hnone, hf⟩) _
    · exact hr.get_found hsize hcode
    · exact hr.get_rejected hf
    · exact hr.get_compiled hsize elapsed hnone hf

/-- A source that is rejected leaves the entries as they are. -/
theorem Reflects.get_of_error {host : Host (StateM σ)} {rejection : Rejection}
    (hr : h.Reflects f maxSize? calls) (hhost : host.Faithful)
    (hf : f source = .error rejection) :
    Answers (h.cache.get host source) fun r =>
      r.1 = .error (rejection.toError source) ∧ r.2.entries = h.cache.entries := by
  refine (ArtifactCache.get_served hhost hr.computes source).imp fun r hserved => ?_
  cases hserved with
  | found hcode =>
    obtain ⟨-, hok⟩ := hr.of_lookup hcode
    simp [hf] at hok
  | rejected _ hother =>
    rw [hf, Except.error.injEq] at hother
    subst hother
    exact ⟨rfl, rfl⟩
  | compiled _ _ hok => simp [hf] at hok

/-- A cache that was not asked for anything has empty books. -/
theorem reflects_nil {compiler : Compiler (StateM σ)} {capacity : Int}
    {c : ArtifactCache (StateM σ)} (hf : compiler.Computes f)
    (hc : ArtifactCache.create compiler capacity maxSize? = .ok c) :
    Reflects f maxSize? [] { cache := c } ∧ maxSize?.all (1 ≤ ·) := by
  unfold ArtifactCache.create at hc
  split_ifs at hc with hbound
  cases hc
  refine ⟨⟨hf, rfl, rfl, ?_, by simp, rfl, rfl, rfl⟩, ?_⟩
  · cases maxSize? <;> simp [CacheCall.kept, CacheCall.recent, CacheCall.sinceClear,
      CacheCall.sources]
  · cases maxSize? with
    | none => rfl
    | some bound => simpa using hbound

/-- Any calls keep the books. -/
theorem calls_reflect {host : Host (StateM σ)} (hhost : host.Faithful)
    (hr : h.Reflects f maxSize? []) (hsize : maxSize?.all (1 ≤ ·)) (calls : List CacheCall) :
    Answers (h.calls host calls) (Reflects f maxSize? calls) := by
  induction calls using List.reverseRecOn with
  | nil => exact fun _ => hr
  | append_singleton calls call ih =>
    rw [CacheHistory.calls, List.foldlM_append]
    refine ih.bind fun h hr => ?_
    simpa using hr.call hhost hsize call

/-- A cache that was created with a bound, or without, answers what its compiler answers, keeps the
sources that were asked for most recently, and its books are exact. A source that is rejected leaves
the entries as they are. -/
theorem calls_answered_and_kept {host : Host (StateM σ)} {compiler : Compiler (StateM σ)}
    {capacity : Int} {c : ArtifactCache (StateM σ)} (hhost : host.Faithful)
    (hf : compiler.Computes f) (hc : ArtifactCache.create compiler capacity maxSize? = .ok c)
    (calls : List CacheCall) :
    Answers (CacheHistory.calls host { cache := c } calls) fun h =>
      h.Reflects f maxSize? calls ∧
      ∀ source rejection, f source = .error rejection →
        Answers (h.cache.get host source) fun r =>
          r.1 = .error (rejection.toError source) ∧ r.2.entries = h.cache.entries := by
  obtain ⟨hr, hsize⟩ := reflects_nil hf hc
  refine (calls_reflect hhost hr hsize calls).imp fun h hr => ⟨hr, fun source rejection hf => ?_⟩
  exact hr.get_of_error hhost hf

/-- Three sources with code, one of them without bytes, and one that is rejected, in a cache for
two: the one that was not asked for again has given way. -/
theorem calls_answered_and_kept_two :
    let calls := ["PUSH 1", "", "!", "PUSH 1", "PUSH 2"].map CacheCall.get
    let c : ArtifactCache (StateM Tape) := { compiler := .assembler, maxSize? := some 2 }
    CacheCall.kept Assembly.answer (some 2) calls = ["PUSH 1", "PUSH 2"] ∧
      CacheCall.kept Assembly.answer (some 2) (calls.take 3) = ["PUSH 1", ""] ∧
      Answers (CacheHistory.calls Host.onTape { cache := c } calls) fun h =>
        h.Reflects Assembly.answer (some 2) calls ∧
        ∀ source rejection, Assembly.answer source = .error rejection →
          Answers (h.cache.get Host.onTape source) fun r =>
            r.1 = .error (rejection.toError source) ∧ r.2.entries = h.cache.entries :=
  ⟨by decide, by decide,
    calls_answered_and_kept Host.onTape_faithful Compiler.assembler_computes
      (show ArtifactCache.create Compiler.assembler 30000 (some 2) = .ok _ from rfl) _⟩

end CacheHistory
end Gasometer
