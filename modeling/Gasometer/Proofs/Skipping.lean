import Gasometer.Proofs.Drafts
import Gasometer.Proofs.Measurements

/-!
# Skipped steps

A step whose program does not compile is skipped, whatever its operands and its data are, and the
tally stays as it is. This is so for every program in assembly. A program in Yul embeds the body of
a step for which Yul has no function; if the assembler refuses this body, there is no program to
compile, and the refusal breaks the sweep off.
-/
namespace Gasometer

-- Powers are those of the core library, also where Mathlib offers its own.
attribute [local instance (high)] instPowNat

open LoopProgram

namespace Sweep

variable {σ : Type} {host : Host (StateM σ)} {f : String → Except Rejection String}
  {desk : Desk (StateM σ)} {s : Step} {op : Opcode}

/-- The measurement of a step with numbers for operands breaks off with the refusal if its body is
to be embedded and is refused. Otherwise it comes to an outcome, which is skipped if and only if the
source does not compile; the tally changes only if it is not skipped. -/
theorem runStep_skips_or_breaks (hhost : host.Faithful) (hhex : AnswersHex f)
    (hcache : desk.cache.Agrees f) (r : Runner) (hs : s.IsNumeric op) :
    (∀ e, r.limits.dialect = .yul → Refused s e →
      Comes (runStep host r s) desk (fun _ _ => False)
        fun p desk' => p = .compilation e ∧ desk' = desk) ∧
    ((r.limits.dialect = .yul → ∀ e, ¬ Refused s e) →
      ∃ d, draft r.limits s = .ok d ∧
        Comes (runStep host r s) desk (Booked f d s desk) fun _ _ => False) := by
  have hsketched := sketched_of_isNumeric hs
  refine ⟨fun e hdialect hrefused => ?_, fun hbody => ?_⟩
  · exact runStep_undrafted hhost hcache.computes
      (hsketched.draft_of_refused hdialect hs.preamble hrefused)
  · obtain ⟨d, hd⟩ := hsketched.draft hbody fun hne => absurd hs.preamble hne
    exact ⟨d, hd, runStep_booked hhost hhex hcache hd⟩

def widePush : Step := { Catalog.step "PUSH1" "stack" [] with immediate? := some 256 }

theorem isNumeric_widePush : widePush.IsNumeric (.push 0) where
  spelled := .name (by decide)
  operands := by rintro o ⟨⟩
  data := by rintro v ⟨⟩; decide
  preamble := rfl

/-- The body of this step is refused. -/
theorem refused_widePush : ∃ e, Refused widePush e := by
  have hlines : bodyLines widePush = .ok ["PUSH1 0x100", "POP"] := by decide +kernel
  have hcode : (Assembly.compile ("\n".intercalate ["PUSH1 0x100", "POP"])).isOk = false := by
    decide +kernel
  generalize hresult : Assembly.compile ("\n".intercalate ["PUSH1 0x100", "POP"]) = result at hcode
  cases result with
  | error e => exact ⟨e, rfl, _, hlines, hresult⟩
  | ok code => cases hcode

def onePass : Runner := ⟨{}, {}, { gasLimit := 30, maxUnroll := 1 }⟩

/-- So its program in assembly does not compile. -/
theorem exists_rejection_widePush {d : Draft} (hd : draft onePass.limits widePush = .ok d) :
    ∃ rejection, Assembly.answer d.code.source = .error rejection := by
  have hanswer : ((draft onePass.limits widePush).toOption.map fun d =>
      (Assembly.answer d.code.source).isOk) = some false := by decide +kernel
  rw [hd] at hanswer
  have hnot : (Assembly.answer d.code.source).isOk = false := Option.some.inj hanswer
  generalize Assembly.answer d.code.source = answer at hnot ⊢
  cases answer with
  | error rejection => exact ⟨rejection, rfl⟩
  | ok code => cases hnot

def newDesk : Desk (StateM Tape) := { cache := { compiler := .assembler } }

theorem agrees_newDesk : newDesk.cache.Agrees Assembly.answer :=
  ⟨Compiler.assembler_computes, by simp [newDesk]⟩

/-- In assembly this step is skipped. -/
theorem runStep_skips_widePush :
    AnswersHex Assembly.answer ∧ newDesk.cache.Agrees Assembly.answer ∧
      widePush.IsNumeric (.push 0) ∧
      Comes (runStep Host.onTape onePass widePush) newDesk
        (fun o desk => o.skipped = true ∧ desk.tally = newDesk.tally) fun _ _ => False := by
  obtain ⟨d, hd, hcomes⟩ := (runStep_skips_or_breaks Host.onTape_faithful Assembly.answersHex
    agrees_newDesk onePass isNumeric_widePush).2 fun hyul => absurd hyul (by decide)
  refine ⟨Assembly.answersHex, agrees_newDesk, isNumeric_widePush, ?_⟩
  refine hcomes.imp (fun o desk h => ?_) fun _ _ h => h
  have hskipped := h.skipped.2 (exists_rejection_widePush hd)
  exact ⟨hskipped, h.tally_of_skipped hskipped⟩

/-- In Yul it breaks the sweep off, although the compiler would accept every source. -/
theorem runStep_breaks_widePush :
    let compiler : Compiler (StateM Tape) :=
      { name := "solc", dialect := .yul, compile := fun _ => pure (.ok "00") }
    ∃ r desk, prepare Host.onTape {} (some compiler) none = .ok (r, desk) ∧
      AnswersHex (fun _ => .ok "00") ∧ desk.cache.Agrees (fun _ => .ok "00") ∧
      widePush.IsNumeric (.push 0) ∧
      ¬ Comes (runStep Host.onTape r widePush) desk (fun _ _ => True) fun _ _ => False := by
  intro compiler
  have hcomputes : compiler.Computes fun _ => .ok "00" := fun _ _ => rfl
  obtain ⟨e, hrefused⟩ := refused_widePush
  have hsketched := sketched_of_isNumeric isNumeric_widePush
  refine ⟨_, _, rfl, ?_, ⟨hcomputes, ?_⟩, isNumeric_widePush, fun hcomes => ?_⟩
  · rintro source code ⟨⟩
    exact AnswersHex.stop
  · simp
  · refine Comes.false
      (runStep_undrafted (e := .compilation e) Host.onTape_faithful hcomputes ?_) hcomes
    exact hsketched.draft_of_refused rfl rfl hrefused

end Sweep
end Gasometer
