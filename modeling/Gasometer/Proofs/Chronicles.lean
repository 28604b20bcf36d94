import Gasometer.Proofs.Entries
import Gasometer.Proofs.Loops
import Gasometer.Proofs.Permanence
import Gasometer.Proofs.Records

/-!
# Chronicles

The chronicle of a run is a record that is kept beside the machine. It numbers the frames in the
order in which they are started. For each operation that is done it notes the entry that was due
before it: the log with the address of the frame, its operands and the bytes of its memory, or the
address of the contract that is ended. With the entry it notes the numbers of the frame and of the
frames beneath it, and of each frame that is taken away whether it has succeeded. In a run with a
normal result the first frame holds what was noted on frames that have all succeeded, in this order,
and nothing else. This needs no numbers to be sound.
-/
namespace Gasometer

/-- An entry with the numbers of its frame and of the frames beneath, the uppermost first. -/
structure Note where
  lineage : List Nat
  entry : Entry
  deriving DecidableEq

/-- What was noted of a run: the number of the next frame, the numbers of the open frames, the
uppermost first, the notes in their order, and the numbers of the frames that have succeeded. -/
structure Chronicle where
  next : Nat := 0
  open_ : List Nat := []
  notes : List Note := []
  succeeded : List Nat := []

/-- The entries that were noted on frames that are all among these, like the frames beneath. -/
def Note.entries (among : List Nat) (notes : List Note) : List Entry :=
  (notes.filter fun n => ∀ i ∈ n.lineage, i ∈ among).map Note.entry

/-- The entries of frames that have succeeded, like all the frames beneath them. -/
def Chronicle.lasting (c : Chronicle) : List Entry := Note.entries c.succeeded c.notes

namespace Chronicle

def enter (c : Chronicle) : Chronicle :=
  { c with next := c.next + 1, open_ := c.next :: c.open_ }

def add (c : Chronicle) (due : Option Entry) : Chronicle :=
  { c with notes := c.notes ++ (due.map (Note.mk c.open_)).toList }

/-- The uppermost frame is taken away, which has come to this end. -/
def exit (c : Chronicle) (status : FrameStatus) : Chronicle :=
  { c with
    open_ := c.open_.tail
    succeeded := if status = .succeeded then c.open_.head?.toList ++ c.succeeded else c.succeeded }

end Chronicle

/-- The chronicle after the next move. -/
def Machine.chronicled (rules : CreationRules) (m : Machine) (c : Chronicle) : Chronicle :=
  match m.frames with
  | [] => c
  | top :: _ =>
    let a : Activity := ⟨top, m.world, m.access⟩
    match top.status with
    | .notStarted => c.enter
    | .executing =>
      match a.nextByte? with
      | none => c
      | some byte =>
        match Exec.step byte a with
        | .ok _ _ => c.add (Entry.of? top byte)
        | .error _ _ => c
    | .returned | .halted _ | .reverted => c.exit (a.finish rules).frame.status
    | .suspended | .succeeded | .failed _ => c

variable {rules : CreationRules} {a a' b : Activity} {f g child : Frame} {child? : Option Frame}
  {below frames : List Frame} {among among' numbers : List Nat} {notes more : List Note}
  {c c' : Chronicle} {s t : Machine} {byte : UInt8}

namespace Note

theorem entries_append (among : List Nat) (notes more : List Note) :
    entries among (notes ++ more) = entries among notes ++ entries among more := by
  simp [entries]

theorem entries_congr (h : ∀ n ∈ notes, ∀ i ∈ n.lineage, i ∈ among ↔ i ∈ among') :
    entries among notes = entries among' notes := by
  unfold entries
  congr 1
  refine List.filter_congr fun n hn => ?_
  simp only [decide_eq_decide]
  exact forall₂_congr (h n hn)

theorem entries_of_forall (h : ∀ n ∈ notes, ∀ i ∈ n.lineage, i ∈ among) :
    entries among notes = notes.map Note.entry := by
  rw [entries, List.filter_eq_self.2 fun n hn => decide_eq_true (h n hn)]

/-- Nothing lasts that was noted above a frame that is not among them. -/
theorem entries_eq_nil {i : Nat} (hi : i ∉ among) (h : ∀ n ∈ notes, i ∈ n.lineage) :
    entries among notes = [] := by
  rw [entries, List.filter_eq_nil_iff.2, List.map_nil]
  intro n hn hlasts
  exact hi (of_decide_eq_true hlasts i (h n hn))

end Note

/-- Open frames with their numbers, and the notes on each of them and on the frames that it has
opened, which are no longer open. A frame keeps what was noted on frames all among these. -/
inductive Traced (among : List Nat) : List Frame → List Nat → List Note → Prop
  | ground : Traced among [] [] []
  | storey {f : Frame} {frames : List Frame} {number : Nat} {numbers : List Nat}
    {notes more : List Note} (hlower : Traced among frames numbers notes)
    (hnumbers : ∀ i ∈ numbers, i < number) (hnotes : ∀ n ∈ notes, ∀ i ∈ n.lineage, i < number)
    (hmore : ∀ n ∈ more, number :: numbers ⊆ n.lineage)
    (hkeeps : f.Keeps (Note.entries among more)) :
    Traced among (f :: frames) (number :: numbers) (notes ++ more)

namespace Traced

theorem congr (h : Traced among frames numbers notes)
    (hamong : ∀ n ∈ notes, ∀ i ∈ n.lineage, i ∈ among ↔ i ∈ among') :
    Traced among' frames numbers notes := by
  induction h with
  | ground => exact .ground
  | storey hlower hnumbers hnotes hmore hkeeps ih =>
    simp only [List.forall_mem_append] at hamong
    rw [Note.entries_congr hamong.2] at hkeeps
    exact .storey (ih hamong.1) hnumbers hnotes hmore hkeeps

/-- The notes on the only frame. -/
theorem keeps_last (h : Traced among [f] numbers notes) :
    ∃ number, numbers = [number] ∧ f.Keeps (Note.entries among notes) := by
  cases h with
  | storey hlower _ _ _ hkeeps =>
    cases hlower
    exact ⟨_, rfl, hkeeps⟩

/-- Each frame has a number, and those beneath it have lower ones. -/
theorem exists_cons (h : Traced among (f :: frames) numbers notes) :
    ∃ number lower, numbers = number :: lower ∧ ∀ i ∈ lower, i < number := by
  cases h with
  | storey _ hnumbers => exact ⟨_, _, rfl, hnumbers⟩

/-- A new frame has no notes. -/
theorem start (h : Traced among frames numbers notes) {number : Nat}
    (hnumbers : ∀ i ∈ numbers, i < number) (hnotes : ∀ n ∈ notes, ∀ i ∈ n.lineage, i < number)
    (hnew : f.effects = ([], [])) : Traced among (f :: frames) (number :: numbers) notes := by
  rw [← List.append_nil notes]
  exact h.storey hnumbers hnotes (by simp) (.of_new hnew)

/-- The uppermost frame has left an entry, or none. -/
theorem write (h : Traced among (f :: frames) numbers notes) (hamong : ∀ i ∈ numbers, i ∈ among)
    (written : Option Entry) (hkeeps : ∀ es, f.Keeps es → g.Keeps (es ++ written.toList)) :
    Traced among (g :: frames) numbers (notes ++ (written.map (Note.mk numbers)).toList) := by
  cases h with
  | @storey _ _ number numbers notes more hlower hnumbers hnotes hmore hbefore =>
    rw [List.append_assoc]
    refine .storey hlower hnumbers hnotes ?_ ?_
    · rw [List.forall_mem_append]
      refine ⟨hmore, ?_⟩
      cases written <;> simp
    · have hlast : Note.entries among (written.map (Note.mk (number :: numbers))).toList =
          written.toList := by
        rw [Note.entries_of_forall]
        · cases written <;> rfl
        · cases written with
          | none => simp
          | some entry => simpa using hamong
      rw [Note.entries_append, hlast]
      exact hkeeps _ hbefore

/-- The uppermost frame is taken away, and its notes are now on its opener. -/
theorem leave {number : Nat} {opener : Frame}
    (h : Traced among (f :: opener :: frames) (number :: numbers) notes)
    (hamong : ∀ i < number, i ∈ among ↔ i ∈ among')
    (hjoins : ∀ more es, (∀ n ∈ more, number ∈ n.lineage) → f.Keeps (Note.entries among more) →
      opener.Keeps es → g.Keeps (es ++ Note.entries among' more)) :
    Traced among' (g :: frames) numbers notes := by
  cases h with
  | @storey _ _ _ _ notes more hlower hnumbers hnotes hmore hkeeps =>
    cases hlower.congr fun n hn i hi => hamong i (hnotes n hn i hi) with
    | @storey _ _ _ _ notes' more' hlower' hnumbers' hnotes' hmore' hkeeps' =>
      rw [List.append_assoc]
      refine .storey hlower' hnumbers' hnotes' ?_ ?_
      · refine List.forall_mem_append.2 ⟨hmore', fun n hn => ?_⟩
        exact fun i hi => hmore n hn (List.mem_cons_of_mem _ hi)
      · rw [Note.entries_append]
        exact hjoins more _ (fun n hn => hmore n hn (List.mem_cons_self ..)) hkeeps hkeeps'

end Traced

theorem FrameStatus.IsLeft.ne_notStarted {status : FrameStatus} (h : status.IsLeft) :
    status ≠ .notStarted := by
  rintro rfl
  exact h

/-- A frame at work is never again a new one. -/
theorem Exec.status_ne_of_step (ha : a.frame.status = .executing)
    (h : Exec.step byte a = .ok child? a') : a'.frame.status ≠ .notStarted := by
  rcases (Local.of_ok h).status with hs | hs | hs <;> simp [hs, ha]

/-- A frame that succeeds has the effects with which its code was left. -/
theorem Activity.finish_effects (hleft : a.frame.status.IsLeft)
    (h : (a.finish rules).frame.status = .succeeded) :
    (a.finish rules).frame.effects = a.frame.effects := by
  rcases finish_ends rules hleft with ⟨failure, hfailed⟩ | hsettled
  · cases h.symm.trans hfailed
  · rw [hsettled]
    rfl

namespace Machine

theorem chronicled_start (hstatus : a.frame.status = .notStarted) :
    (a.atop below).chronicled rules c = c.enter := by
  simp [chronicled, Activity.atop, hstatus]

theorem chronicled_runOff (hstatus : a.frame.status = .executing) (hbyte : a.nextByte? = none) :
    (a.atop below).chronicled rules c = c := by
  simp [chronicled, Activity.atop, hstatus, hbyte]

theorem chronicled_step (hstatus : a.frame.status = .executing) (hbyte : a.nextByte? = some byte)
    (hstep : Exec.step byte a = .ok child? a') :
    (a.atop below).chronicled rules c = c.add (Entry.of? a.frame byte) := by
  simp [chronicled, Activity.atop, hstatus, hbyte, hstep]

theorem chronicled_halt {e : Stop} (hstatus : a.frame.status = .executing)
    (hbyte : a.nextByte? = some byte) (hstep : Exec.step byte a = .error e a') :
    (a.atop below).chronicled rules c = c := by
  simp [chronicled, Activity.atop, hstatus, hbyte, hstep]

theorem chronicled_close (hleft : a.frame.status.IsLeft) :
    (a.atop below).chronicled rules c = c.exit (a.finish rules).frame.status := by
  rcases hleft.cases with hstatus | ⟨reason, hstatus⟩ | hstatus <;>
    simp [chronicled, Activity.atop, hstatus]

end Machine

def Machine.started (m : Machine) : List Frame :=
  match m.frames with
  | [] => []
  | f :: below => if f.status = .notStarted then below else f :: below

theorem started_atop (h : a.frame.status ≠ .notStarted) :
    (a.atop below).started = a.frame :: below := if_neg h

theorem started_atop_of_new (h : a.frame.status = .notStarted) : (a.atop below).started = below :=
  if_pos h

def Frame.IsBlank (f : Frame) : Prop := f.status = .notStarted → f.effects = ([], [])

theorem Frame.isBlank_of_ne (h : f.status ≠ .notStarted) : f.IsBlank := fun hnew => absurd hnew h

/-- What was noted up to a state of the machine. -/
structure Chronicle.Follows (c : Chronicle) (m : Machine) : Prop where
  traced : Traced (c.open_ ++ c.succeeded) m.started c.open_ c.notes
  numbers : ∀ i ∈ c.open_ ++ c.succeeded, i < c.next
  lineages : ∀ n ∈ c.notes, ∀ i ∈ n.lineage, i < c.next
  apart : ∀ i ∈ c.open_, i ∉ c.succeeded
  blank : ∀ f ∈ m.frames, f.IsBlank

namespace Chronicle.Follows

theorem begin_ {m : Meter} {code : Bytes} {world : World} {gasLimit : Int} :
    ({} : Chronicle).Follows (m.opening code world gasLimit) where
  traced := .ground
  numbers := by simp
  lineages := by simp
  apart := by simp
  blank := List.forall_mem_singleton.2 fun _ => rfl

theorem traced_atop (h : c.Follows (a.atop below)) (ha : a.frame.status ≠ .notStarted) :
    Traced (c.open_ ++ c.succeeded) (a.frame :: below) c.open_ c.notes :=
  started_atop ha ▸ h.traced

theorem blank_below (h : c.Follows (a.atop below)) : ∀ f ∈ below, f.IsBlank :=
  (List.forall_mem_cons.1 h.blank).2

/-- The uppermost frame has done something that is not noted. -/
theorem top (h : c.Follows (a.atop below)) (ha : a.frame.status ≠ .notStarted)
    (hb : b.frame.status ≠ .notStarted) (heffects : b.frame.effects = a.frame.effects) :
    c.Follows (b.atop below) where
  traced := by
    have hwritten := (h.traced_atop ha).write (fun i hi => List.mem_append_left _ hi) none
      fun es hes => (List.append_nil es).symm ▸ hes.of_effects heffects
    rw [Option.map_none, Option.toList_none, List.append_nil] at hwritten
    rwa [started_atop hb]
  numbers := h.numbers
  lineages := h.lineages
  apart := h.apart
  blank := List.forall_mem_cons.2 ⟨Frame.isBlank_of_ne hb, h.blank_below⟩

/-- A frame is started, and gets a number. -/
theorem start (h : c.Follows (a.atop below)) (ha : a.frame.status = .notStarted) :
    c.enter.Follows ((a.start rules).atop below) := by
  have hstatus : (a.start rules).frame.status ≠ .notStarted := by
    rcases Activity.start_cases rules a with ⟨reason, -, hs⟩ | ⟨w, -, hs⟩ <;> rw [hs] <;> rintro ⟨⟩
  have heffects : (a.start rules).frame.effects = ([], []) := by
    rw [← h.blank a.frame (List.mem_cons_self ..) ha]
    rcases Activity.start_cases rules a with ⟨reason, -, hs⟩ | ⟨w, -, hs⟩ <;> rw [hs] <;> rfl
  have htraced := h.traced
  rw [started_atop_of_new ha] at htraced
  refine ⟨?_, ?_, ?_, ?_, ?_⟩
  · rw [started_atop hstatus]
    refine (htraced.congr fun n hn i hi => ?_).start ?_ h.lineages heffects
    · exact (or_iff_right (h.lineages n hn i hi).ne).symm.trans List.mem_cons.symm
    · exact fun i hi => h.numbers i (List.mem_append_left _ hi)
  · refine List.forall_mem_cons.2 ⟨Nat.lt_succ_self _, fun i hi => ?_⟩
    exact (h.numbers i hi).trans (Nat.lt_succ_self _)
  · exact fun n hn i hi => (h.lineages n hn i hi).trans (Nat.lt_succ_self _)
  · refine List.forall_mem_cons.2 ⟨fun hmem => ?_, h.apart⟩
    exact absurd (h.numbers _ (List.mem_append_right _ hmem)) (Nat.lt_irrefl _)
  · exact List.forall_mem_cons.2 ⟨fun _ => heffects, h.blank_below⟩

/-- An operation was executed, and has left the entry that was due. -/
theorem add (h : c.Follows (a.atop below)) (ha : a.frame.status = .executing)
    (hstep : Exec.step byte a = .ok child? a') :
    (c.add (Entry.of? a.frame byte)).Follows (a'.atop below) := by
  have hstatus := Exec.status_ne_of_step ha hstep
  refine ⟨?_, h.numbers, ?_, h.apart, ?_⟩
  · rw [started_atop hstatus]
    exact (h.traced_atop (by simp [ha])).write (fun i hi => List.mem_append_left _ hi) _
      fun es hes => Exec.keeps_of_step hstep hes
  · refine List.forall_mem_append.2 ⟨h.lineages, fun n hn i hi => ?_⟩
    obtain ⟨entry, -, rfl⟩ := Option.map_eq_some_iff.1 (Option.mem_toList.1 hn)
    exact h.numbers i (List.mem_append_left _ hi)
  · exact List.forall_mem_cons.2 ⟨Frame.isBlank_of_ne hstatus, h.blank_below⟩

/-- A frame that is opened is not started yet. -/
theorem opening (h : c.Follows (a.atop below)) (ha : a.frame.status ≠ .notStarted)
    (hchild : child = { context := child.context, gas := child.gas }) :
    c.Follows (a.opening child below) := by
  have hwaits : c.Follows ((a.mapFrame fun f => { f with status := .suspended }).atop below) :=
    h.top ha (by rintro ⟨⟩) rfl
  refine ⟨?_, h.numbers, h.lineages, h.apart, ?_⟩
  · have hnew : child.status = .notStarted := by rw [hchild]
    show Traced _ (if child.status = .notStarted then _ else _) _ _
    rw [if_pos hnew]
    exact hwaits.traced_atop (by rintro ⟨⟩)
  · refine List.forall_mem_cons.2 ⟨fun _ => ?_, hwaits.blank⟩
    rw [hchild]
    rfl

/-- The opener of a frame goes on, which has taken over what lasts of that frame. -/
theorem join {opener : Frame} {next number : Nat} {numbers succeeded succeeded' : List Nat}
    (h : Chronicle.Follows ⟨next, number :: numbers, notes, succeeded⟩
      (a.atop (opener :: below))) (ha : a.frame.status ≠ .notStarted)
    (hothers : ∀ i ≠ number, i ∈ succeeded' ↔ i ∈ succeeded)
    (hjoins : ∀ more es, (∀ n ∈ more, number ∈ n.lineage) →
      a.frame.Keeps (Note.entries (number :: numbers ++ succeeded) more) → opener.Keeps es →
      (opener.resume g).Keeps (es ++ Note.entries (numbers ++ succeeded') more))
    (w : World) (access : AccessList) :
    Chronicle.Follows ⟨next, numbers, notes, succeeded'⟩ ⟨opener.resume g :: below, w, access⟩ := by
  have htraced := h.traced_atop ha
  have hlower : ∀ i ∈ numbers, i < number := by
    obtain ⟨_, _, hcons, hlower⟩ := htraced.exists_cons
    obtain ⟨rfl, rfl⟩ := List.cons.inj hcons
    exact hlower
  have hstatus : (opener.resume g).status ≠ .notStarted := by
    rw [Frame.resume_status]
    rintro ⟨⟩
  refine ⟨?_, fun i hi => ?_, h.lineages, fun i hi hmem => ?_, ?_⟩
  · show Traced _ (if (opener.resume g).status = .notStarted then _ else _) _ _
    rw [if_neg hstatus]
    refine htraced.leave (fun i hi => ?_) hjoins
    simp [hi.ne, hothers i hi.ne]
  · by_cases heq : i = number
    · exact heq ▸ h.numbers number (List.mem_cons_self ..)
    · refine h.numbers i (List.mem_cons_of_mem _ ?_)
      simpa [hothers i heq] using hi
  · exact h.apart i (List.mem_cons_of_mem _ hi) ((hothers i (hlower i hi).ne).1 hmem)
  · exact List.forall_mem_cons.2
      ⟨Frame.isBlank_of_ne hstatus, (List.forall_mem_cons.1 h.blank_below).2⟩

/-- A frame has come to its end. If it has succeeded its number is no longer among those of open
frames, but among the others, so what was noted on it stands as before. If not, none of it does. -/
theorem exit {opener : Frame} (h : c.Follows (a.atop (opener :: below)))
    (hleft : a.frame.status.IsLeft) :
    (c.exit (a.finish rules).frame.status).Follows ((a.finish rules).leave (opener :: below)) := by
  have ha := hleft.ne_notStarted
  obtain ⟨next, numbers, notes, succeeded⟩ := c
  obtain ⟨number, numbers, rfl, hlower⟩ := (h.traced_atop ha).exists_cons
  show Chronicle.Follows ⟨next, numbers, notes, if (a.finish rules).frame.status = .succeeded
    then number :: succeeded else succeeded⟩ _
  split_ifs with hs
  · refine h.join ha (fun i hi => by simp [hi]) (fun more es hmore hkeeps hes => ?_) ..
    have hsame : Note.entries (number :: numbers ++ succeeded) more =
        Note.entries (numbers ++ number :: succeeded) more :=
      Note.entries_congr fun n _ i _ => List.perm_middle.symm.mem_iff
    rw [← hsame]
    exact hes.resume (hkeeps.of_effects (Activity.finish_effects hleft hs)) hs
  · refine h.join ha (fun i _ => Iff.rfl) (fun more es hmore hkeeps hes => ?_) ..
    have hgone : number ∉ numbers ++ succeeded := by
      rw [List.mem_append, not_or]
      exact ⟨fun hmem => (hlower _ hmem).false, h.apart number (List.mem_cons_self ..)⟩
    rw [Note.entries_eq_nil hgone hmore, List.append_nil]
    exact hes.of_effects (Frame.resume_effects hs)

/-- Chronicles are kept up. -/
theorem move (h : c.Follows s) (hmove : Move rules s t) (ht : t.frames ≠ []) :
    (s.chronicled rules c).Follows t := by
  cases hmove with
  | start below hstatus =>
    rw [Machine.chronicled_start hstatus]
    exact h.start hstatus
  | @runOff a below hstatus hbyte =>
    rw [Machine.chronicled_runOff hstatus hbyte]
    exact h.top (b := a.runOff) (by simp [hstatus]) (by rintro ⟨⟩) rfl
  | step below hstatus hbyte hstep =>
    rw [Machine.chronicled_step hstatus hbyte hstep]
    exact h.add hstatus hstep
  | open_ below hstatus hbyte hstep =>
    rw [Machine.chronicled_step hstatus hbyte hstep]
    exact (h.add hstatus hstep).opening (Exec.status_ne_of_step hstatus hstep)
      (Exec.Fresh.of_ok hstep)
  | @halt a a' byte reason below hstatus hbyte hstep =>
    have houtward := Exec.outward_of_halt hstep
    rw [Machine.chronicled_halt hstatus hbyte hstep]
    exact h.top (b := a'.mapFrame (·.halt reason)) (by simp [hstatus]) (by rintro ⟨⟩)
      (congrArg (fun o => (o.logs, o.selfDestructs)) houtward)
  | @close a below hleft =>
    cases below with
    | nil => exact absurd rfl ht
    | cons opener below =>
      rw [Machine.chronicled_close hleft]
      exact h.exit hleft

/-- A chronicle that follows a run does so as long as a frame is open. -/
theorem of_records (h : c.Follows s)
    (hrecords : Machine.Records rules (Machine.chronicled rules) (s, c) (t, c'))
    (ht : t.frames ≠ []) : c'.Follows t :=
  hrecords.holds (p := fun m c => c.Follows m) (fun h hmove ht => h.move hmove ht) h ht

/-- The only frame left is taken away. If it has succeeded, it keeps what lasts. -/
theorem keeps_lasting (h : c.Follows (a.atop [])) (hleft : a.frame.status.IsLeft)
    (hsucceeded : (a.finish rules).frame.status = .succeeded) :
    (a.finish rules).frame.Keeps (c.exit (a.finish rules).frame.status).lasting := by
  obtain ⟨number, hnumber, hkeeps⟩ := (h.traced_atop hleft.ne_notStarted).keeps_last
  rw [hnumber] at hkeeps
  rw [Chronicle.lasting, Chronicle.exit, if_pos hsucceeded, hnumber]
  exact hkeeps.of_effects (Activity.finish_effects hleft hsucceeded)

end Chronicle.Follows

namespace Meter
open Machine

/-- How a launch with a normal result has ended: its first frame has succeeded. -/
theorem ends_of_normal {σ : Type} {m : Meter} {see : Observer σ} {code : Bytes} {world : World}
    {gasLimit gas elapsed : Int} {seen : σ}
    (hnormal : ((m.launch see code world gasLimit seen).result gas elapsed).status = .normal) :
    ∃ a : Activity, Reaches {} (m.opening code world gasLimit) (a.atop []) ∧
      a.frame.status.IsLeft ∧ (a.finish {}).frame.status = .succeeded ∧
      (m.launch see code world gasLimit seen).first = (a.finish {}).frame := by
  obtain ⟨hfault, hsucceeded⟩ := Round.succeeded_of_normal hnormal
  have hends := launch_concludes m see code world gasLimit seen
  rw [Round.Concludes, hfault] at hends
  obtain ⟨a, hreach, hleft, hframe, hmachine⟩ := hends
  rw [hframe] at hsucceeded
  refine ⟨a, hreach, hleft, hsucceeded, ?_⟩
  rw [Round.first, hmachine, hframe]
  rfl

/-- Logs are neither lost nor duplicated, put in another order or leaked. A launch that has ended
with a normal result has a chronicle up to its end. The logs of its first frame are those that were
due for the operations done on frames that have succeeded, like all the frames beneath them, in the
order of the operations. The contracts that it has ended are those of such frames on which the
operation that ends one was done. -/
theorem launch_keeps_records {σ : Type} (m : Meter) (see : Observer σ) (code : Bytes)
    (world : World) (gasLimit : Int) (seen : σ) (elapsed : Int) :
    let round := m.launch see code world gasLimit seen
    let opening := m.opening code world gasLimit
    (round.result (m.initialGas gasLimit) elapsed).status = .normal →
      (∃ last c, Records {} (chronicled {}) (opening, {}) (last, c) ∧ last.frames = []) ∧
      ∀ last c, Records {} (chronicled {}) (opening, {}) (last, c) → last.frames = [] →
        round.first.logs = c.lasting.filterMap Entry.log? ∧
        ∀ x, x ∈ round.first.selfDestructs ↔ .ended x ∈ c.lasting := by
  intro round opening hnormal
  obtain ⟨a, hreach, hleft, hsucceeded, hfirst⟩ := ends_of_normal hnormal
  obtain ⟨c, hrecords⟩ : ∃ c, Records {} (chronicled {}) (opening, {}) (a.atop [], c) :=
    exists_records hreach _
  have hfollows := Chronicle.Follows.begin_.of_records hrecords (List.cons_ne_nil _ _)
  have hkeeps := hfollows.keeps_lasting hleft hsucceeded
  have hnoted : (a.atop []).chronicled {} c = c.exit (a.finish {}).frame.status :=
    chronicled_close hleft
  rw [← hnoted, ← hfirst] at hkeeps
  have hall := hrecords.tail (c := ((a.finish {}).leave [], _)) ⟨.close [] hleft, rfl⟩
  refine ⟨⟨_, _, hall, rfl⟩, fun last c' hrecords' hlast => ?_⟩
  obtain ⟨rfl, rfl⟩ := Prod.mk.inj (Records.unique hrecords' hall hlast rfl)
  exact ⟨hkeeps.logs, hkeeps.ended⟩

/-- Writes a log, calls itself twice, and writes a log after each call. The calls write a log; then
the first one ends the contract, and the second one reverts. -/
def loggingCalls : Bytes :=
  #[0x33, 0x32, 0x14, 0x60, 0x14, 0x57,
    0x58, 0x3d, 0x3d, 0xa1, 0x36, 0x60, 0x10, 0x57, 0x30, 0xff, 0x5b, 0x3d, 0x3d, 0xfd,
    0x5b, 0x60, 0x2a, 0x3d, 0x53, 0x58, 0x60, 0x02, 0x3d, 0xa1,
    0x3d, 0x3d, 0x3d, 0x3d, 0x3d, 0x30, 0x5a, 0xf1,
    0x58, 0x3d, 0x3d, 0xa1, 0x3d, 0x3d, 0x60, 0x01, 0x3d, 0x3d, 0x30, 0x5a, 0xf1,
    0x58, 0x3d, 0x3d, 0xa1]

def receiverLog (topic : Int) (data : Bytes) : Entry := .logged ⟨Fixture.receiver, [topic], data⟩

theorem launch_keeps_records_loggingCalls :
    let round := ({} : Meter).launch .blind loggingCalls (Fixture.world loggingCalls) 1000 ()
    let opening := ({} : Meter).opening loggingCalls (Fixture.world loggingCalls) 1000
    (round.result 300000 0).status = .normal ∧
      (∃ last c, (Records {} (chronicled {}) (opening, {}) (last, c) ∧ last.frames = []) ∧
        c.notes.map Note.entry = [receiverLog 25 #[0x2a, 0], receiverLog 6 #[],
          .ended Fixture.receiver, receiverLog 38 #[], receiverLog 6 #[], receiverLog 51 #[]]) ∧
      round.first.logs.map Entry.logged =
        [receiverLog 25 #[0x2a, 0], receiverLog 6 #[], receiverLog 38 #[], receiverLog 51 #[]] ∧
      ∀ x, x ∈ round.first.selfDestructs ↔ x = Fixture.receiver := by
  intro round opening
  have hnormal : (round.result 300000 0).status = .normal := by decide +kernel
  have hrun : (opening.recorded? {} (chronicled {}) 74 {}).any (fun x => x.1.frames.isEmpty &&
      decide (x.2.notes.map Note.entry = [receiverLog 25 #[0x2a, 0], receiverLog 6 #[],
        .ended Fixture.receiver, receiverLog 38 #[], receiverLog 6 #[], receiverLog 51 #[]] ∧
      x.2.lasting = [receiverLog 25 #[0x2a, 0], receiverLog 6 #[], .ended Fixture.receiver,
        receiverLog 38 #[], receiverLog 51 #[]])) = true := by decide +kernel
  obtain ⟨last, c, hrecords, hc⟩ := exists_of_recorded? hrun
  rw [Bool.and_eq_true, List.isEmpty_iff, decide_eq_true_eq] at hc
  obtain ⟨hframes, hnotes, hlasting⟩ := hc
  obtain ⟨-, hall⟩ := launch_keeps_records {} .blind loggingCalls (Fixture.world loggingCalls) 1000
    () 0 hnormal
  obtain ⟨hlogs, hended⟩ := hall last c hrecords hframes
  rw [hlasting] at hlogs hended
  refine ⟨hnormal, ⟨last, c, ⟨hrecords, hframes⟩, hnotes⟩, ?_, fun x => ?_⟩
  · rw [hlogs]
    rfl
  · rw [hended x]
    simp [receiverLog]

end Meter
end Gasometer
