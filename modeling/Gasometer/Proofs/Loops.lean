import Gasometer.Proofs.Recursion
import Gasometer.Proofs.StraightLines

/-!
# Counted loops

A loop pushes a counter and runs its body some times in each pass. At the end of a pass the counter
is lowered by one, and unless it is zero a jump leads back to the label. In every run that ends
without a halt the passes are as many as the counter says, and each of them goes through all copies
of the body from end to end.
-/
namespace Gasometer
open Assembly

-- Powers are those of the core library, also where Mathlib offers its own.
attribute [local instance (high)] instPowNat

/-- A loop: what it runs beforehand, and its body, which leave the stack as it is, the number of
passes, which fits four bytes, and the number of copies of the body in a pass. -/
structure Loop where
  head : List Statement
  body : List Statement
  outer : Nat
  unroll : Nat
  isSegment_head : IsSegment head 0 0
  isSegment_body : IsSegment body 0 0
  span_head_lt : span head < 256
  body_ne_nil : body ≠ []
  outer_pos : 0 < outer
  outer_lt : outer < 256 ^ 4

namespace Loop

variable {l : Loop}

def prologue (l : Loop) : List Statement := l.head ++ [.push (some 4) (.number l.outer)]

def copies (l : Loop) : List Statement := (List.replicate l.unroll l.body).flatten

theorem sixteen_pos : 0 < 16 := by decide

def countdown : List Statement :=
  [.push none (.number 1), .plain (.swap ⟨0, sixteen_pos⟩), .plain (.binary .sub),
    .plain (.dup ⟨0, sixteen_pos⟩), .push none (.label "loop"), .plain .jumpi]

def pass (l : Loop) : List Statement := (.label "loop" :: l.copies) ++ countdown

def ending : List Statement := [.plain .pop, .plain .stop]

def program (l : Loop) : List Statement := l.prologue ++ (l.pass ++ ending)

def place (l : Loop) : Nat := span l.prologue

def start (l : Loop) (i : Nat) : Nat := l.place + 1 + i * span l.body

/-- The operations that a run executes, each with its place. -/
def course (l : Loop) : List (Nat × UInt8) :=
  walk 0 l.prologue ++ (List.replicate l.outer (walk l.place l.pass)).flatten ++
    walk (span (l.prologue ++ l.pass)) ending

/-! The program is possible. -/

theorem fits_outer (l : Loop) (p : List Statement) (widths : Set Nat) :
    (Target.number l.outer).Fits p widths (some 4) := by
  have hlt := l.outer_lt
  refine ⟨Int.natCast_nonneg _, ?_, ?_⟩
  · have hle : (256 : Nat) ^ 4 ≤ 2 ^ 256 := by decide
    omega
  · rintro _ ⟨⟩
    exact ⟨by decide, hlt⟩

theorem isSegment_prologue (l : Loop) : IsSegment l.prologue 0 1 :=
  l.isSegment_head.append (isSegment_push (l.fits_outer [] ∅) 0)

theorem isSegment_copies (l : Loop) : IsSegment l.copies 0 0 := l.isSegment_body.replicate _

theorem place_lt (l : Loop) : l.place < 256 ^ 2 := by
  have hlt := l.span_head_lt
  simp only [place, prologue, span_append, span_cons, span_nil, Statement.size, Statement.dataWidth]
  omega

theorem mem_program {s : Statement} : s ∈ l.program ↔
    s ∈ l.prologue ∨ s = .label "loop" ∨ s ∈ l.copies ∨ s ∈ countdown ∨ s ∈ ending := by
  simp [program, pass]

theorem labelNames_append (p q : List Statement) :
    labelNames (p ++ q) = labelNames p ++ labelNames q := by
  induction p with
  | nil => rfl
  | cons s p ih => cases s <;> simp [labelNames, ih]

theorem labelNames_of_inline {q : List Statement} (h : ∀ s ∈ q, s.IsInline) :
    labelNames q = [] := by
  induction q with
  | nil => rfl
  | cons s q ih =>
    rw [List.forall_mem_cons] at h
    cases s with
    | label => exact h.1.elim
    | plain | push => exact ih h.2

theorem labelNames_program (l : Loop) : labelNames l.program = ["loop"] := by
  simp only [program, pass, labelNames_append, List.cons_append, labelNames,
    labelNames_of_inline l.isSegment_prologue.inline,
    labelNames_of_inline l.isSegment_copies.inline]
  rfl

/-- The label is where the prologue ends. -/
theorem place?_loop (l : Loop) : place? "loop" l.program = some l.place := by
  have hnodup : (labelNames l.program).Nodup := by simp [labelNames_program]
  exact place?_append l.prologue (l.copies ++ countdown ++ ending) "loop" hnodup

theorem value_loop (l : Loop) : (Target.label "loop").value l.program = l.place := by
  rw [Target.value, l.place?_loop]
  rfl

/-- A counter that is lowered does not wrap around. -/
theorem wrap_pred {k : Nat} (hk : k < 256 ^ 4) : Word.wrap (((k + 1 : Nat) : Int) - 1) = k := by
  have hlt : 256 ^ 4 ≤ Word.ceiling.toNat := by decide
  rw [Word.wrap_of_lt] <;> omega

theorem fits_loop (l : Loop) (widths : Set Nat) :
    (Target.label "loop").Fits l.program widths none :=
  ⟨by simp, l.place, l.place?_loop, l.place_lt⟩

theorem fits_one (p : List Statement) (widths : Set Nat) : (Target.number 1).Fits p widths none :=
  ⟨by decide, by decide, by simp⟩

theorem admissible (l : Loop) (widths : Set Nat) : Admissible widths l.program := by
  refine ⟨by simp [labelNames_program], fun s hs => ?_⟩
  obtain hs | rfl | hs | hs | hs := mem_program.1 hs
  · exact (l.isSegment_prologue.inline s hs).fits _ _
  · trivial
  · exact (l.isSegment_copies.inline s hs).fits _ _
  · simp only [countdown, List.mem_cons, List.not_mem_nil, or_false] at hs
    obtain rfl | rfl | rfl | rfl | rfl | rfl := hs
    · exact fits_one l.program widths
    · trivial
    · trivial
    · trivial
    · exact l.fits_loop widths
    · trivial
  · simp only [ending, List.mem_cons, List.not_mem_nil, or_false] at hs
    obtain rfl | rfl := hs <;> trivial

/-! What a run goes through. -/

variable {P : Nat × UInt8 → Bool}

theorem countP_walk_eq_zero {place : Nat} {q : List Statement}
    (h : ∀ v, place ≤ v.1 → v.1 < place + span q → P v = false) : (walk place q).countP P = 0 := by
  rw [List.countP_eq_zero]
  intro v hv
  obtain ⟨hle, hlt⟩ := mem_walk hv
  rw [h v hle hlt]
  decide

/-- What happens only within the passes happens so many times in each of them. -/
theorem countP_course (hbefore : ∀ v, v.1 < l.place → P v = false)
    (hafter : ∀ v, l.place + span l.pass ≤ v.1 → P v = false) :
    l.course.countP P = l.outer * (walk l.place l.pass).countP P := by
  have hprologue : (walk 0 l.prologue).countP P = 0 :=
    countP_walk_eq_zero fun v _ hlt => hbefore v (by rwa [Nat.zero_add] at hlt)
  have hending : (walk (span (l.prologue ++ l.pass)) ending).countP P = 0 :=
    countP_walk_eq_zero fun v hle _ => hafter v (by rwa [span_append] at hle)
  rw [course, List.countP_append, List.countP_append, hprologue, hending, List.countP_flatten]
  simp

theorem walk_pass (l : Loop) : walk l.place l.pass =
    (l.place, Opcode.jumpdest.byte) :: (walk (l.place + 1) l.copies ++
      walk (l.place + 1 + span l.copies) countdown) := by
  rw [pass, List.cons_append, walk, walk_append]
  rfl

theorem span_pass (l : Loop) : span l.pass = 1 + span l.copies + span countdown := by
  rw [pass, span_append, span_cons]
  rfl

/-- The label is reached once in each pass. -/
theorem countP_label (l : Loop) : l.course.countP (fun v => v.1 = l.place) = l.outer := by
  have hspan := l.span_pass
  have hrest : ∀ v : Nat × UInt8, l.place < v.1 → decide (v.1 = l.place) = false :=
    fun v hv => decide_eq_false (by omega)
  rw [countP_course (fun v hv => decide_eq_false (by omega)) (fun v hv => hrest v (by omega)),
    walk_pass, List.countP_cons_of_pos (by simp), List.countP_append,
    countP_walk_eq_zero fun v hv _ => hrest v (by omega),
    countP_walk_eq_zero fun v hv _ => hrest v (by omega), Nat.mul_one]

theorem span_copies (l : Loop) : span l.copies = l.unroll * span l.body := by
  unfold copies
  induction l.unroll with
  | zero => simp
  | succ n ih =>
    rw [List.replicate_succ, List.flatten_cons, span_append, ih, Nat.succ_mul, Nat.add_comm]

/-- Whether a copy of the body begins at this place. -/
def IsStart (l : Loop) (v : Nat × UInt8) : Prop := ∃ i < l.unroll, v.1 = l.start i

instance (l : Loop) (v : Nat × UInt8) : Decidable (l.IsStart v) :=
  inferInstanceAs (Decidable (∃ i < l.unroll, v.1 = l.start i))

theorem start_succ (l : Loop) (i : Nat) : l.start (i + 1) = l.start i + span l.body := by
  rw [start, start, Nat.succ_mul, ← Nat.add_assoc]

theorem span_body_pos (l : Loop) : 0 < span l.body := by
  obtain ⟨s, q, hbody⟩ := List.exists_cons_of_ne_nil l.body_ne_nil
  rw [hbody, span_cons, Statement.size]
  omega

theorem start_le {i j : Nat} (h : i ≤ j) : l.start i ≤ l.start j :=
  Nat.add_le_add_left (Nat.mul_le_mul_right _ h) _

/-- No copy begins within another one. -/
theorem not_isStart {i : Nat} {v : Nat × UInt8} (h₁ : l.start i < v.1)
    (h₂ : v.1 < l.start (i + 1)) : ¬ l.IsStart v := by
  rintro ⟨j, -, hj⟩
  rcases Nat.lt_or_ge i j with hlt | hge
  · have hle : l.start (i + 1) ≤ l.start j := start_le hlt
    omega
  · have hle : l.start j ≤ l.start i := start_le hge
    omega

theorem countP_body {i : Nat} (hi : i < l.unroll) :
    (walk (l.start i) l.body).countP (fun v => l.IsStart v) = 1 := by
  have hend := l.start_succ i
  obtain ⟨s, q, hbody⟩ := List.exists_cons_of_ne_nil l.body_ne_nil
  have hsize : 0 < s.size := Nat.add_pos_left Nat.one_pos _
  rw [hbody, span_cons] at hend
  have hfirst : decide (l.IsStart (l.start i, s.operation)) = true :=
    decide_eq_true ⟨i, hi, rfl⟩
  rw [hbody, walk, List.countP_cons_of_pos (p := fun v => l.IsStart v) hfirst, countP_walk_eq_zero]
  intro v hle hlt
  exact decide_eq_false (not_isStart (i := i) (by omega) (by omega))

theorem countP_copies (l : Loop) {i n : Nat} (h : i + n = l.unroll) :
    (walk (l.start i) (List.replicate n l.body).flatten).countP (fun v => l.IsStart v) = n := by
  induction n generalizing i with
  | zero => rfl
  | succ n ih =>
    rw [List.replicate_succ, List.flatten_cons, walk_append, List.countP_append,
      countP_body (by omega), ← start_succ, ih (by omega), Nat.add_comm]

/-- All copies begin between the label and the end of the pass. -/
theorem IsStart.place {v : Nat × UInt8} (h : l.IsStart v) :
    l.place < v.1 ∧ v.1 < l.place + 1 + span l.copies := by
  obtain ⟨i, hi, hplace⟩ := h
  have hpos := l.span_body_pos
  have hfirst : l.start 0 ≤ l.start i := start_le (Nat.zero_le i)
  have hlast : l.start (i + 1) ≤ l.start l.unroll := start_le hi
  rw [start_succ] at hlast
  rw [start, Nat.zero_mul] at hfirst
  rw [hplace, span_copies, ← start]
  omega

/-- The body is begun once for each copy in each pass. -/
theorem countP_starts (l : Loop) : l.course.countP (fun v => l.IsStart v) = l.outer * l.unroll := by
  have hspan := l.span_pass
  have houtside : ∀ v : Nat × UInt8, v.1 ≤ l.place ∨ l.place + 1 + span l.copies ≤ v.1 →
      decide (l.IsStart v) = false := by
    refine fun v hv => decide_eq_false fun h => ?_
    have := h.place
    omega
  have hlabel : ¬ decide (l.IsStart (l.place, Opcode.jumpdest.byte)) = true := by
    simpa using houtside (l.place, Opcode.jumpdest.byte) (.inl le_rfl)
  have hcopies : (walk (l.place + 1) l.copies).countP (fun v => l.IsStart v) = l.unroll := by
    have h := l.countP_copies (Nat.zero_add l.unroll)
    rwa [start, Nat.zero_mul] at h
  have hcountdown :
      (walk (l.place + 1 + span l.copies) countdown).countP (fun v => l.IsStart v) = 0 :=
    countP_walk_eq_zero fun v hv _ => houtside v (.inr hv)
  rw [countP_course (fun v hv => houtside v (.inl hv.le))
      (fun v hv => houtside v (.inr (by omega))), walk_pass,
    List.countP_cons_of_neg (p := fun v => l.IsStart v) hlabel, List.countP_append, hcopies,
    hcountdown, Nat.add_zero]

/-- The last operation is the stop at the end. -/
theorem getLast?_course (l : Loop) :
    l.course.getLast? = some (span l.program - 1, Opcode.stop.byte) := by
  have hlast : walk (span (l.prologue ++ l.pass)) ending =
      [(span (l.prologue ++ l.pass), Opcode.pop.byte),
        (span (l.prologue ++ l.pass) + 1, Opcode.stop.byte)] := rfl
  have hspan : span l.program = span (l.prologue ++ l.pass) + 2 := by
    rw [program, ← List.append_assoc, span_append]
    rfl
  rw [course, hlast, hspan]
  simp

end Loop

namespace ComesTo

variable {rules : CreationRules} {c : Context} {b : Activity} {last : Trail}
  {visits : List (Nat × UInt8)} {items items' : List Int} {p before after : List Statement}
  {l : Loop} {k : Nat}

/-- The end of a pass lowers the counter and leads back to the label unless it is zero. -/
theorem countdown (hcode : c.code.bytes.toList = encode l.program) (hk : k < 256 ^ 4)
    (hp : l.program = before ++ (Loop.countdown ++ after))
    (h : ComesTo rules c b last (span before) [((k + 1 : Nat) : Int)] visits) :
    ComesTo rules c b last (if k = 0 then span (before ++ Loop.countdown) else l.place) [(k : Int)]
      (visits ++ walk (span before) Loop.countdown) := by
  simp only [Loop.countdown, List.cons_append, List.nil_append] at hp
  have hp₁ := hp.trans (List.append_cons ..)
  have hp₂ := hp₁.trans (List.append_cons ..)
  have hp₃ := hp₂.trans (List.append_cons ..)
  have hp₄ := hp₃.trans (List.append_cons ..)
  have hp₅ := hp₄.trans (List.append_cons ..)
  have h₁ := h.pushes hcode hp (isOperation_of_fits [] ∅ (Loop.fits_one [] ∅)) (Loop.fits_one _ ∅)
  have h₂ := advances hcode hp₁ fun hbyte => h₁.goes hbyte fun _ ha => ha.swap
  have h₃ := advances hcode hp₂ fun hbyte => h₂.goes hbyte fun _ ha => ha.sub
  have hone : ((Target.number 1).value l.program : Int) = 1 := rfl
  rw [hone, Loop.wrap_pred hk] at h₃
  have h₄ := advances hcode hp₃ fun hbyte => h₃.goes hbyte fun _ ha => ha.dup
  have h₅ := h₄.pushes hcode hp₄ ⟨by decide, by decide⟩ (l.fits_loop ∅)
  rw [l.value_loop] at h₅
  have h₆ := h₅.goes (byte_at hcode hp₅) fun _ ha => ha.jumpi
  simpa [walk, Loop.countdown, Statement.size, Statement.dataWidth, Statement.operation,
    Nat.add_assoc] using h₆

/-- A pass runs all copies of the body and lowers the counter. -/
theorem pass (hcode : c.code.bytes.toList = encode l.program) (hk : k < 256 ^ 4)
    (h : ComesTo rules c b last l.place [((k + 1 : Nat) : Int)] visits) :
    ComesTo rules c b last (if k = 0 then span (l.prologue ++ l.pass) else l.place) [(k : Int)]
      (visits ++ walk l.place l.pass) := by
  have hp : l.program = l.prologue ++ ((.label "loop" :: l.copies) ++
      (Loop.countdown ++ Loop.ending)) := by simp [Loop.program, Loop.pass]
  have hlabel := h.label hcode hp
  rw [List.cons_append, List.append_cons] at hp
  have hcopies := hlabel.keeps hcode hp l.isSegment_copies
  rw [← List.append_assoc] at hp
  have hend := hcopies.countdown hcode hk hp
  simpa [Loop.pass, walk, walk_append, Loop.place, Nat.add_assoc] using hend

/-- A counter makes so many passes. -/
theorem allPasses (hcode : c.code.bytes.toList = encode l.program) (hk : k + 1 < 256 ^ 4)
    (h : ComesTo rules c b last l.place [((k + 1 : Nat) : Int)] visits) :
    ComesTo rules c b last (span (l.prologue ++ l.pass)) [0]
      (visits ++ (List.replicate (k + 1) (walk l.place l.pass)).flatten) := by
  induction k generalizing visits with
  | zero => simpa using h.pass hcode (by decide)
  | succ k ih =>
    have hnext := ih (by omega) (by simpa using h.pass hcode (k := k + 1) (by omega))
    rw [List.replicate_succ, List.flatten_cons, ← List.append_assoc]
    exact hnext

/-- A run from the beginning goes through the whole course of the loop and stops at its end. -/
theorem loop (hcode : c.code.bytes.toList = encode l.program) (h : ComesTo rules c b last 0 [] []) :
    b.frame.context = c ∧ b.frame.status = .returned ∧ last.visits = l.course := by
  obtain ⟨k, hk⟩ : ∃ k, l.outer = k + 1 := ⟨l.outer - 1, by have := l.outer_pos; omega⟩
  have hlt := l.outer_lt
  -- The head leaves nothing on the stack, and then the counter is pushed.
  have hhead : l.program = [] ++ (l.head ++ (.push (some 4) (.number l.outer) ::
      (l.pass ++ Loop.ending))) := by simp [Loop.program, Loop.prologue]
  have h₁ := h.keeps hcode hhead l.isSegment_head
  have h₂ := h₁.pushes hcode hhead (isOperation_of_fits [] ∅ (l.fits_outer [] ∅)) (l.fits_outer _ ∅)
  have hcounter : Target.value l.program (.number l.outer) = k + 1 := hk
  rw [hcounter] at h₂
  have h₃ := h₂.allPasses hcode (by omega)
  rw [← List.append_nil [0]] at h₃
  have hpop : l.program = (l.prologue ++ l.pass) ++ .plain .pop :: [.plain .stop] := by
    simp [Loop.program, Loop.ending]
  have hstop := hpop.trans (List.append_cons ..)
  obtain ⟨top, -, h₄⟩ := h₃.segment hcode hpop (isSegment_pop 0) rfl
  obtain ⟨hcontext, hstatus, hvisits⟩ := h₄.stop (byte_at hcode hstop)
  refine ⟨hcontext, hstatus, ?_⟩
  rw [hvisits]
  simp [Loop.course, Loop.prologue, Loop.ending, walk, walk_append, hk, Statement.operation,
    Statement.size, Nat.add_assoc]

end ComesTo

/-! Observers have no influence on how a run ends. -/

theorem Round.result_congr {σ τ : Type} {r : Round σ} {r' : Round τ} (hframe : r.frame = r'.frame)
    (hfault : r.fault = r'.fault) (gas elapsed : Int) :
    r.result gas elapsed = r'.result gas elapsed := by
  unfold result
  rw [hframe, hfault]

/-- What is measured of a launch does not depend on what is observed. -/
theorem Meter.launch_result_eq {σ τ : Type} (m : Meter) (see : Observer σ) (see' : Observer τ)
    (code : Bytes) (world : World) (gasLimit : Int) (seen : σ) (seen' : τ) (gas elapsed : Int) :
    (m.launch see code world gasLimit seen).result gas elapsed =
      (m.launch see' code world gasLimit seen').result gas elapsed := by
  obtain ⟨hframe, hfault⟩ := Machine.runFor_agree {} see see'
    (2 * (m.initialGas gasLimit).toNat + Activity.allowance) (m.initialFrame code world gasLimit)
    (m.opening code world gasLimit) seen seen'
  rw [launch_eq, launch_eq]
  exact Round.result_congr hframe hfault gas elapsed

/-- A first frame that is to be called without value. -/
structure Frame.IsFresh (f : Frame) : Prop where
  status : f.status = .notStarted
  kind : f.context.kind = .messageCall
  value : f.context.value = 0
  depth : f.context.depth = 0
  pc : f.pc = 0
  items : f.stack.items = []

namespace Round

variable {σ : Type} {rules : CreationRules} {a b : Activity} {gas elapsed : Int}

/-- A run that does not end with a halt meets no fault, and its last frame was not halted. -/
theorem result_status_ne {r : Round σ} (h : (r.result gas elapsed).status ≠ .exceptionalHalt) :
    r.fault = none ∧ r.frame.haltReason? = none := by
  unfold result at h
  cases hfault : r.fault with
  | some fault => simp [hfault] at h
  | none =>
    cases hreason : r.frame.haltReason? with
    | some reason => simp [hfault, hreason] at h
    | none => exact ⟨rfl, rfl⟩

/-- A call that returns ends its run normally. -/
theorem result_status_of_returned {r : Round σ} (hfault : r.fault = none)
    (hframe : r.frame = (b.finish rules).frame) (hstatus : b.frame.status = .returned)
    (hkind : b.frame.context.kind = .messageCall) : (r.result gas elapsed).status = .normal := by
  have hended : (b.finish rules).frame.status = .succeeded := by
    simp [Activity.finish, hstatus, Activity.accept, hkind, Activity.settle, Activity.mapFrame]
  rw [result, hfault, hframe]
  simp [Frame.haltReason?, hended]

/-- A run of a loop that does not end with a halt stops at the end of the program, and its first
frame has gone through the whole course of the loop. -/
theorem Closes.loop {r : Round Trail} {l : Loop} (h : r.Closes rules .trail (a.atop [], {}))
    (hfresh : a.frame.IsFresh) (hcode : a.frame.context.code.bytes.toList = encode l.program)
    (hstatus : (r.result gas elapsed).status ≠ .exceptionalHalt) :
    (r.result gas elapsed).status = .normal ∧ r.seen.visits = l.course := by
  obtain ⟨hfault, hcalm⟩ := result_status_ne hstatus
  obtain ⟨b, seen, hwatches, hleft, hframe, hseen⟩ := h
  obtain rfl : r.seen = seen := hseen
  rw [hframe] at hcalm
  have hbegins : ComesTo rules a.frame.context b r.seen 0 [] [] := by
    refine ⟨hfresh.depth, hleft, Activity.haltReason?_of_finish hleft hcalm, _, ?_,
      hwatches.started hfresh.status hleft⟩
    rw [Activity.start_of_value_zero rules hfresh.kind hfresh.value]
    exact ⟨rfl, rfl, hfresh.pc, hfresh.items⟩
  obtain ⟨hcontext, hreturned, hvisits⟩ := hbegins.loop hcode
  have hkind : b.frame.context.kind = .messageCall := by rw [hcontext, hfresh.kind]
  exact ⟨result_status_of_returned hfault hframe hreturned hkind, hvisits⟩

end Round

/-- A launch of a loop that does not end with a halt stops at the end of the program, and its first
frame has gone through the whole course of the loop. -/
theorem Meter.launch_loop {l : Loop} (m : Meter) {code : Bytes}
    (hcode : code.toList = encode l.program) (world : World) (gasLimit elapsed : Int)
    (hstatus : ((m.launch .trail code world gasLimit {}).result (m.initialGas gasLimit)
      elapsed).status ≠ .exceptionalHalt) :
    ((m.launch .trail code world gasLimit {}).result (m.initialGas gasLimit) elapsed).status =
      .normal ∧ (m.launch .trail code world gasLimit {}).seen.visits = l.course := by
  have hbytes :
      (m.initialFrame code world gasLimit).context.code.bytes.toList = encode l.program := by
    simpa [initialFrame] using hcode
  have hfault := (Round.result_status_ne hstatus).1
  have hcloses := m.launch_closes .trail code world gasLimit {} hfault
  exact Round.Closes.loop (a := m.activity code world gasLimit) hcloses
    ⟨rfl, rfl, rfl, rfl, rfl, rfl⟩ hbytes hstatus

end Gasometer
