import Gasometer.Proofs.Towers

/-!
# Static calls

A frame opened by a static call, or by any call of a static frame, is a static message call that
moves no value between accounts. It can open only such frames itself, and none of them changes an
account, writes to the log or ends a contract.
-/
namespace Gasometer
open World (through)

/-- A static message call that has left no trace on what is visible beneath it. -/
structure Traceless (o : Outward) (v : View) : Prop where
  kind : o.context.kind = .messageCall
  isStatic : o.context.isStatic = true
  free : o.context.value = 0 ∨ o.context.sender = o.context.address
  accounts : ∀ x, o.view.account x = v.account x
  logs : o.logs = []
  selfDestructs : o.selfDestructs = []

variable {rules : CreationRules} {o : Outward} {v : View} {kind : CallKind} {child : Frame}
  {fs below : List Frame} {ls : List Layer} {a a' b : Activity} {t : Machine} {byte : UInt8}

/-- A call from a static frame moves no value to another account, nor does a static call. -/
theorem Called.traceless (h : Called o kind child)
    (hstatic : kind = .staticcall ∨ o.context.isStatic = true) :
    Traceless (child.outward o.view) o.view := by
  obtain ⟨target, input, value, outOffset, outSize, gas, -, -, hfree, hpaid⟩ := h
  refine ⟨rfl, ?_, ?_, fun _ => rfl, rfl, rfl⟩
  · show (o.context.isStatic || kind == .staticcall) = true
    rcases hstatic with rfl | h
    · exact Bool.or_true _
    · rw [h, Bool.true_or]
  · show (if kind = .delegatecall then 0 else value) = 0 ∨
      (if kind = .delegatecall then o.context.sender else o.context.address) =
        Exec.recipientOf kind o.context.address target
    cases kind with
    | call =>
      have h : o.context.isStatic = true := hstatic.resolve_left (by decide)
      refine .inl (by_contra fun hvalue => ?_)
      rw [hpaid rfl hvalue] at h
      cases h
    | callcode => exact .inr rfl
    | delegatecall => exact .inl rfl
    | staticcall => exact .inl (hfree rfl)

namespace Traceless

theorem account_modify_id (v : View) (x y : Address) :
    (v.modify x id).account y = v.account y := by
  rw [View.account_modify]
  split_ifs with h
  · rw [h]; rfl
  · rfl

theorem started (h : Traceless o v) (rules : CreationRules) : Traceless (o.started rules) v := by
  refine { h with accounts := fun x => ?_ }
  have hview : (o.started rules).view = o.view.modify o.context.address id := by
    simp only [Outward.started, View.paid, View.claimed, h.kind, if_pos h.free]
  rw [hview, account_modify_id]
  exact h.accounts x

/-- A static frame does nothing that is seen from outside, and opens only calls. -/
theorem eq_of_deed {child? : Option Frame} {o' : Outward} (h : Traceless o v)
    (hdeed : Deed o child? o') : o' = o ∧ ∀ child ∈ child?, ∃ kind, Called o kind child := by
  have hstatic := h.isStatic
  cases hdeed with
  | works => exact ⟨rfl, by rintro child ⟨⟩⟩
  | calls hcalled => exact ⟨rfl, by rintro _ ⟨⟩; exact ⟨_, hcalled⟩⟩
  | stores _ _ hfree | records _ _ hfree | ends _ hfree =>
    rw [hfree] at hstatic
    cases hstatic
  | creates hcreated =>
    obtain ⟨place, number, code, value, gas, salt, -, -, hfree⟩ := hcreated
    rw [hfree] at hstatic
    cases hstatic

/-- The view of a static call is what its opener takes over. -/
theorem ended_view (h : Traceless o v) (output : Bytes) : (o.ended output).view = o.view := by
  simp [Outward.ended, View.deposited, View.swept, h.kind, h.selfDestructs]

theorem joined {inner : Outward} (h : Traceless o v) (hinner : Traceless inner o.view)
    (output : Bytes) : Traceless (o.joined (inner.ended output)) v where
  kind := h.kind
  isStatic := h.isStatic
  free := h.free
  accounts x := by
    show (inner.ended output).view.account x = _
    rw [hinner.ended_view, hinner.accounts, h.accounts]
  logs := by
    show o.logs ++ inner.logs = []
    rw [h.logs, hinner.logs]
    rfl
  selfDestructs := by
    show Frame.uniteAddresses o.selfDestructs inner.selfDestructs = []
    rw [h.selfDestructs, hinner.selfDestructs]
    rfl

/-- Static calls stay without a trace, whatever they and the frames that they open do. -/
theorem stable (rules : CreationRules) : Stable rules (fun _ => True) Traceless where
  start h _ := h.started rules
  deed h hdeed := by
    rw [(h.eq_of_deed hdeed).1]
    exact h
  opens h hdeed _ := by
    obtain ⟨rfl, hcalled⟩ := h.eq_of_deed hdeed
    obtain ⟨kind, hchild⟩ := hcalled _ rfl
    exact hchild.traceless (.inr h.isStatic)
  joins h hinner output := h.joined hinner output

end Traceless

/-- What is visible from a tower of static calls is what is visible from beneath it. -/
theorem Tower.traceless {frames : List Frame} {layers : List Layer}
    (h : Tower Traceless fs ls frames layers) :
    (∀ x, (through layers).account x = (through ls).account x) ∧
      ∃ upper own, frames = upper ++ fs ∧ layers = own ++ ls ∧ own.length = upper.length ∧
        ∀ f ∈ upper, f.context.kind = .messageCall ∧ f.context.isStatic = true := by
  induction h with
  | ground => exact ⟨fun _ => rfl, [], [], rfl, rfl, rfl, by simp⟩
  | @storey f l frames layers _ htop ih =>
    obtain ⟨haccounts, upper, own, hframes, hlayers, hlength, hstatic⟩ := ih
    refine ⟨fun x => (htop.accounts x).trans (haccounts x), f :: upper, l :: own, ?_, ?_, ?_, ?_⟩
    · rw [hframes]; rfl
    · rw [hlayers]; rfl
    · rw [List.length_cons, hlength, List.length_cons]
    · exact List.forall_mem_cons.2 ⟨⟨htop.kind, htop.isStatic⟩, hstatic⟩

namespace Activity

/-- The frame of this activity as it waits for one that it opened. -/
def waiting (a : Activity) : Frame := { a.frame with status := .suspended }

/-- While a frame is open that a call has opened statically, a tower of static calls stands on its
opener. -/
theorem tower_of_static (hop : Opcode.ofByte? byte = some (.call kind))
    (hstep : Exec.step byte a = .ok (some child) a')
    (hstatic : kind = .staticcall ∨ a.frame.context.isStatic = true)
    (hlife : ReachesAbove rules (below.length + 1) (a'.opening child below) t) :
    Tower Traceless (a'.waiting :: below) a'.world.layers t.frames t.world.layers := by
  obtain ⟨hsame, hcalled⟩ := Exec.called_of_step hop hstep
  have hchild := hcalled.traceless hstatic
  rw [← hsame] at hchild
  refine Tower.of_reachesAbove (s := a'.opening child below) (Traceless.stable rules) ?_
    (Nat.lt_succ_self _) hlife fun _ _ _ _ => trivial
  refine .storey .ground ?_
  show Traceless (child.outward (through (Table.empty :: a'.world.layers))) _
  rw [World.through_empty]
  exact hchild

/-- A static call that has come to its end leaves no trace. -/
theorem leave_of_traceless
    (h : Tower Traceless (a'.waiting :: below) a'.world.layers (b.frame :: a'.waiting :: below)
      b.world.layers) (hleft : b.frame.status.IsLeft) :
    let t := (b.finish rules).leave (a'.waiting :: below)
    (∀ x, t.world.account x = a'.world.account x) ∧ t.world.below = a'.world.below ∧
      t.frames.map Frame.effects = a'.frame.effects :: below.map Frame.effects := by
  obtain ⟨hlower, htop⟩ := h.of_atop le_rfl
  have hbelow : b.world.below = a'.world.top :: a'.world.below :=
    (hlower.layers_suffix.eq_of_length (by have := hlower.length; omega)).symm
  obtain ⟨l', hlayers, hgoes⟩ := resume_outward rules hleft hbelow a'.waiting
  have hresumed : ∀ o, (a'.waiting.resume (b.finish rules).frame).outward
      (through (l' :: a'.world.below)) = o → (∀ x, o.view.account x = a'.world.account x) ∧
        o.logs = a'.frame.logs ∧ o.selfDestructs = a'.frame.selfDestructs := by
    rintro _ rfl
    rcases hgoes with ⟨rfl, hsame⟩ | hjoined
    · rw [hsame]
      exact ⟨fun _ => rfl, rfl, rfl⟩
    · rw [hjoined (through a'.world.layers)]
      simp only [Outward.joined, htop.ended_view]
      refine ⟨fun x => ?_, ?_, ?_⟩
      · rw [htop.accounts, hbelow]
        rfl
      · show a'.frame.logs ++ b.outward.logs = a'.frame.logs
        rw [htop.logs, List.append_nil]
      · show Frame.uniteAddresses a'.frame.selfDestructs b.outward.selfDestructs = _
        rw [htop.selfDestructs]
        rfl
  obtain ⟨haccounts, hlogs, hended⟩ := hresumed _ rfl
  have hworld : (b.finish rules).world.close = ⟨l', a'.world.below⟩ := World.eq_of_layers hlayers
  refine ⟨?_, ?_, ?_⟩
  · show ∀ x, (b.finish rules).world.close.account x = a'.world.account x
    rw [hworld]
    exact haccounts
  · show (b.finish rules).world.close.below = a'.world.below
    rw [hworld]
  · show (a'.waiting.resume _).effects :: _ = _
    rw [show (a'.waiting.resume (b.finish rules).frame).effects = a'.frame.effects from
      Prod.ext hlogs hended]

end Activity

namespace Meter

/-- A frame that a static call opens, or any call of a static frame, leaves no trace: while it is
open, it and the frames above it are static message calls, the layers from its opener's downwards
are as they were, and every account is visible as it was; when it has come to its end, every account
is still the same from its opener's layer, and its opener has only the effects that it had. -/
theorem launch_static (m : Meter) (code : Bytes) (world : World) (gasLimit : Int) :
    ∀ a a' byte kind child below,
      Reaches {} (m.opening code world gasLimit) (Activity.atop a below) →
      a.frame.status = .executing → a.nextByte? = some byte →
      Opcode.ofByte? byte = some (.call kind) → Exec.step byte a = .ok (some child) a' →
      (kind = .staticcall ∨ a.frame.context.isStatic = true) →
      ∀ t, ReachesAbove {} (below.length + 1) (a'.opening child below) t →
        (∃ upper own, t.frames = upper ++ a'.waiting :: below ∧
          t.world.layers = own ++ a'.world.layers ∧ own.length = upper.length ∧
          (∀ f ∈ upper, f.context.kind = .messageCall ∧ f.context.isStatic = true) ∧
          ∀ x, t.world.account x = a'.world.account x) ∧
        ∀ b, t = Activity.atop b (a'.waiting :: below) → b.frame.status.IsLeft →
          let t' := (b.finish {}).leave (a'.waiting :: below)
          (∀ x, t'.world.account x = a'.world.account x) ∧ t'.world.below = a'.world.below ∧
            t'.frames.map Frame.effects = a'.frame.effects :: below.map Frame.effects := by
  intro a a' byte kind child below _ _ _ hop hstep hstatic t hlife
  have htower := Activity.tower_of_static hop hstep hstatic hlife
  obtain ⟨haccounts, upper, own, hframes, hlayers, hlength, hupper⟩ := htower.traceless
  refine ⟨⟨upper, own, hframes, hlayers, hlength, hupper, haccounts⟩, ?_⟩
  rintro b rfl hleft
  exact Activity.leave_of_traceless htower hleft

/-- The program that calls the reverting contract statically, with all its gas. -/
def staticCode : Bytes := #[0x3d, 0x3d, 0x3d, 0x3d, 0x62, 0x0d, 0xea, 0xd5, 0x5a, 0xfa]

/-- Whether the only frame of a machine is about to open a frame by a static call that is halted
within so many moves because it would change the world. -/
def haltsStatically (n : Nat) (s : Machine) : Bool :=
  match s.frames with
  | [f] =>
    let a : Activity := ⟨f, s.world, s.access⟩
    f.status == .executing && a.nextByte? == some 0xfa &&
      match Exec.step 0xfa a with
      | .ok (some child) a' =>
        ((a'.opening child []).movedAbove? {} 1 n).any fun t =>
          t.frames.map (·.status) == [.halted .illegalStateChange, .suspended]
      | _ => false
  | _ => false

theorem launch_static_reverting :
    ∃ a a' child b, Reaches {} (({} : Meter).opening staticCode (Fixture.world staticCode) 100)
        (Activity.atop a []) ∧
      Exec.step 0xfa a = .ok (some child) a' ∧
      ReachesAbove {} 1 (a'.opening child []) (Activity.atop b [a'.waiting]) ∧
      b.frame.status = .halted .illegalStateChange ∧
      let t := (b.finish {}).leave [a'.waiting]
      (∀ x, t.world.account x = a'.world.account x) ∧ t.world.below = a'.world.below ∧
        t.frames.map Frame.effects = [a'.frame.effects] := by
  have hrun : ((({} : Meter).opening staticCode (Fixture.world staticCode) 100).movedAbove? {} 0
      7).any (haltsStatically 4) = true := by decide +kernel
  obtain ⟨⟨frames, world, access⟩, hmoved, hs⟩ := (Option.any_eq_true _ _).1 hrun
  have hreach := Machine.reachesAbove_of_movedAbove? hmoved
  unfold haltsStatically at hs
  dsimp only at hs
  split at hs
  case h_2 => cases hs
  rename_i f
  rw [Bool.and_eq_true, Bool.and_eq_true, beq_iff_eq, beq_iff_eq] at hs
  obtain ⟨⟨hstatus, hbyte⟩, hs⟩ := hs
  split at hs
  case h_2 => cases hs
  rename_i child a' hstep
  obtain ⟨t, hlife, ht⟩ := (Option.any_eq_true _ _).1 hs
  replace hlife := Machine.reachesAbove_of_movedAbove? hlife
  rw [beq_iff_eq] at ht
  obtain ⟨⟨upper, own, hframes, -⟩, hleave⟩ :=
    launch_static {} staticCode (Fixture.world staticCode) 100 ⟨f, world, access⟩ a' 0xfa
      .staticcall child [] (ReachesAbove.reaches hreach) hstatus hbyte rfl hstep
    (.inl rfl) t hlife
  obtain ⟨frames, world', access'⟩ := t
  obtain rfl : frames = _ := hframes
  obtain ⟨g, rfl⟩ : ∃ g, upper = [g] := by
    have := congrArg List.length ht
    simp only [List.map_append, List.length_append, List.length_map, List.length_cons,
      List.length_nil] at this
    exact List.length_eq_one_iff.1 (by omega)
  have hhalted : g.status = .halted .illegalStateChange := (List.cons.inj ht).1
  refine ⟨_, a', child, ⟨g, world', access'⟩, ReachesAbove.reaches hreach, hstep, hlife, hhalted,
    ?_⟩
  exact hleave ⟨g, world', access'⟩ rfl (by rw [hhalted]; trivial)

end Meter
end Gasometer
