import Gasometer.Compiler.Solc
import Gasometer.Host.Tape
import Gasometer.Proofs.LetterCase

/-!
# What the external compiler answers

Whatever becomes of the external program, its compiler reports an error about the source or copies
one line of the output: the first that is not blank after the first heading. The line is put into
small letters and not looked at otherwise, so the answer is code exactly if the line is.
-/
namespace Gasometer
open Bytes (IsHexDigit)

namespace Solc

/-! The line that is answered. -/

def IsHeading (line : List Char) : Prop := Text.startsWith (Text.trim line) heading = true

/-- Whether the lines of an output show this text: it is the first line after the first heading
that is not blank, without the blanks around it. -/
inductive ShowsCode : List (List Char) → List Char → Prop
  | here {l : List Char} {blanks : List (List Char)} {line : List Char} (hl : IsHeading l)
      (hblanks : ∀ x ∈ blanks, Text.trim x = []) (hline : Text.trim line ≠ [])
      (after : List (List Char)) : ShowsCode (l :: (blanks ++ line :: after)) (Text.trim line)
  | later {l : List Char} {ls : List (List Char)} {text : List Char} (hl : ¬ IsHeading l)
      (h : ShowsCode ls text) : ShowsCode (l :: ls) text

variable {ls blanks after : List (List Char)} {line text : List Char} {answer : String}

theorem not_isHeading_of_blank (h : Text.trim line = []) : ¬ IsHeading line := by
  rw [IsHeading, h]
  decide

theorem firstLine?_append (hblanks : ∀ l ∈ blanks, Text.trim l = [])
    (hline : Text.trim line ≠ []) :
    firstLine? (blanks ++ line :: after) = some (String.ofList (Text.lower (Text.trim line))) := by
  induction blanks with
  | nil =>
    rw [List.nil_append, firstLine?]
    split
    · contradiction
    · next text htext => rfl
  | cons l ls ih =>
    rw [List.cons_append, firstLine?, hblanks l (List.mem_cons_self ..)]
    exact ih fun x hx => hblanks x (List.mem_cons_of_mem l hx)

/-- The first line that is not blank, if there is one. -/
theorem firstLine?_cases (ls : List (List Char)) :
    (firstLine? ls = none ∧ ∀ l ∈ ls, Text.trim l = []) ∨
      ∃ blanks line after, ls = blanks ++ line :: after ∧
        (∀ l ∈ blanks, Text.trim l = []) ∧ Text.trim line ≠ [] := by
  induction ls with
  | nil => exact .inl ⟨rfl, by simp⟩
  | cons l ls ih =>
    by_cases hl : Text.trim l = []
    · rcases ih with ⟨hnone, hall⟩ | ⟨blanks, line, after, rfl, hblanks, hline⟩
      · refine .inl ⟨by rw [firstLine?, hl]; exact hnone, fun x hx => ?_⟩
        rcases List.mem_cons.1 hx with rfl | hx
        · exact hl
        · exact hall x hx
      · refine .inr ⟨l :: blanks, line, after, rfl, fun x hx => ?_, hline⟩
        rcases List.mem_cons.1 hx with rfl | hx
        · exact hl
        · exact hblanks x hx
    · exact .inr ⟨[], l, ls, rfl, by simp, hl⟩

theorem codeAfterHeading?_of_heading {l : List Char} (h : IsHeading l) :
    codeAfterHeading? (l :: ls) = (firstLine? ls).or (codeAfterHeading? ls) := by
  refine (if_pos h).trans ?_
  cases firstLine? ls <;> rfl

theorem codeAfterHeading?_of_not_heading {l : List Char} (h : ¬ IsHeading l) :
    codeAfterHeading? (l :: ls) = codeAfterHeading? ls := if_neg h

theorem codeAfterHeading?_of_no_heading (h : ∀ l ∈ ls, ¬ IsHeading l) :
    codeAfterHeading? ls = none := by
  induction ls with
  | nil => rfl
  | cons l ls ih =>
    rw [codeAfterHeading?_of_not_heading (h l (List.mem_cons_self ..))]
    exact ih fun x hx => h x (List.mem_cons_of_mem l hx)

/-- What is answered is a line that the output shows, in small letters. -/
theorem codeAfterHeading?_shows (h : codeAfterHeading? ls = some answer) :
    ∃ text, ShowsCode ls text ∧ answer = String.ofList (Text.lower text) := by
  induction ls with
  | nil => contradiction
  | cons l ls ih =>
    by_cases hl : IsHeading l
    · rw [codeAfterHeading?_of_heading hl] at h
      rcases firstLine?_cases ls with ⟨hnone, hall⟩ | ⟨blanks, line, after, rfl, hblanks, hline⟩
      · -- Only blank lines follow, so no other heading does.
        have hrest := codeAfterHeading?_of_no_heading fun x hx => not_isHeading_of_blank (hall x hx)
        rw [hnone, hrest] at h
        contradiction
      · rw [firstLine?_append hblanks hline] at h
        exact ⟨_, .here hl hblanks hline after, (Option.some.inj h).symm⟩
    · rw [codeAfterHeading?_of_not_heading hl] at h
      obtain ⟨text, hshows, heq⟩ := ih h
      exact ⟨text, .later hl hshows, heq⟩

/-- A line that the output shows is answered. -/
theorem ShowsCode.answered (h : ShowsCode ls text) :
    codeAfterHeading? ls = some (String.ofList (Text.lower text)) := by
  induction h with
  | here hl hblanks hline after =>
    rw [codeAfterHeading?_of_heading hl, firstLine?_append hblanks hline]
    rfl
  | later hl _ ih => rw [codeAfterHeading?_of_not_heading hl, ih]

theorem ShowsCode.ne_nil (h : ShowsCode ls text) : text ≠ [] := by
  induction h with
  | here _ _ hline _ => exact hline
  | later _ _ ih => exact ih

end Solc

/-- Whether an external program has ended well and shows this text in its output. -/
def ToolResult.Shows (result : ToolResult) (text : List Char) : Prop :=
  ∃ output errors, result = .ended 0 output errors ∧
    Solc.ShowsCode (Text.lines output.toList) text

theorem ToolResult.Shows.ne_nil {result : ToolResult} {text : List Char}
    (h : result.Shows text) : text ≠ [] := by
  obtain ⟨_, _, _, hshows⟩ := h
  exact hshows.ne_nil

namespace Solc

variable {s : Solc} {source text : String} {result : ToolResult} {shown : List Char}

/-- Whether a text is code: some bytes, each in two small hexadecimal digits, without a mark. -/
def IsCode (text : String) : Prop :=
  text ≠ "" ∧ 2 ∣ text.length ∧ ∀ c ∈ text.toList, c ∈ Text.smallHexDigits

/-- A result that shows a text is judged to be that text in small letters. -/
theorem judge_of_shows (h : result.Shows shown) :
    s.judge source result = .ok (String.ofList (Text.lower shown)) := by
  obtain ⟨output, errors, rfl, hshows⟩ := h
  have hparse : parseOutput? output = some (String.ofList (Text.lower shown)) := hshows.answered
  simp [judge, hparse]

/-- Any other result is judged to be an error about the source. -/
theorem judge_of_not_shows (h : ∀ shown, ¬ result.Shows shown) :
    ∃ e, s.judge source result = .error e ∧ e.source = source := by
  cases result with
  | missing reason => exact ⟨_, rfl, rfl⟩
  | timeout => exact ⟨_, rfl, rfl⟩
  | ended code output errors =>
    by_cases hcode : code = 0
    · subst hcode
      cases hparse : parseOutput? output with
      | none => exact ⟨_, by simp [judge, hparse]; rfl, rfl⟩
      | some answer =>
        obtain ⟨shown, hshown, -⟩ := codeAfterHeading?_shows hparse
        exact absurd ⟨output, errors, rfl, hshown⟩ (h shown)
    · exact ⟨_, by simp [judge, hcode]; rfl, rfl⟩

/-- A line in small letters is code exactly if it is made of pairs of hexadecimal digits. -/
theorem isCode_lower_iff (h : shown ≠ []) :
    IsCode (String.ofList (Text.lower shown)) ↔
      2 ∣ shown.length ∧ ∀ c ∈ shown, IsHexDigit c := by
  unfold IsCode
  rw [String.length_ofList, String.toList_ofList]
  constructor
  · rintro ⟨-, hlen, hall⟩
    have hhex := Text.hex_of_lowerFrom hall
    exact ⟨(Text.lowerFrom_hex [] hhex).1 ▸ hlen, hhex⟩
  · rintro ⟨hlen, hhex⟩
    obtain ⟨hsame, hall⟩ := Text.lowerFrom_hex [] hhex
    refine ⟨fun hempty => Text.lower_ne_nil h ?_, (hsame ▸ hlen :), hall⟩
    simpa using congrArg String.toList hempty

/-- Code can be read as bytes. -/
theorem IsCode.ofHex_ok (h : IsCode text) : ∃ bytes, Bytes.ofHex text = .ok bytes := by
  obtain ⟨-, ⟨k, hk⟩, hall⟩ := h
  have hdigits : ∀ c ∈ text.toList, Bytes.IsHexDigit c :=
    fun c hc => Text.isHexDigit_of_mem (hall c hc)
  obtain ⟨bytes, hbytes, -⟩ := Bytes.ofHexChars_ok (k := k) hdigits
    (by rwa [String.length_toList])
  exact ⟨bytes, hbytes⟩

/-- The compiler answers what is judged of the result. -/
theorem answer_compile {σ : Type} (host : Host (StateM σ)) (s : Solc) (source : String)
    (world : σ) :
    (((compiler host s).compile source).run world).1 =
      (s.judge source ((host.call ⟨s.command, source, s.timeout⟩).run world).1).mapError
        .report := by
  dsimp only [compiler]
  rw [StateT.run_bind]
  generalize (host.call ⟨s.command, source, s.timeout⟩).run world = r
  dsimp only [bind, Id.run]
  cases s.judge source r.1 <;> rfl

/-- In every world and whatever the external program does there, its compiler reports an error about
the source if no text is shown. Otherwise it answers the shown text in small letters, which is not
empty. That is code, which can be read as bytes, exactly if the shown text is made of pairs of
hexadecimal digits. -/
theorem compile_reports_or_copies {σ : Type} (host : Host (StateM σ)) (s : Solc) (source : String)
    (world : σ) :
    let result := ((host.call ⟨s.command, source, s.timeout⟩).run world).1
    let answer := (((compiler host s).compile source).run world).1
    (∃ e, answer = .error (.report e) ∧ e.source = source ∧ ∀ shown, ¬ result.Shows shown) ∨
      ∃ shown text, result.Shows shown ∧ answer = .ok text ∧
        text = String.ofList (Text.lower shown) ∧ text ≠ "" ∧
        (IsCode text ↔ 2 ∣ shown.length ∧ ∀ c ∈ shown, IsHexDigit c) ∧
        (IsCode text → ∃ bytes, Bytes.ofHex text = .ok bytes) := by
  intro result answer
  have hanswer : answer = (s.judge source result).mapError .report :=
    answer_compile host s source world
  by_cases hshows : ∃ shown, result.Shows shown
  · obtain ⟨shown, hshown⟩ := hshows
    have hne : shown ≠ [] := hshown.ne_nil
    rw [judge_of_shows hshown] at hanswer
    refine .inr ⟨shown, _, hshown, hanswer, rfl, fun hempty => ?_, isCode_lower_iff hne,
      IsCode.ofHex_ok⟩
    exact Text.lower_ne_nil hne (by simpa using congrArg String.toList hempty)
  · have hnone := not_exists.1 hshows
    have hjudge : ∃ e, s.judge source result = .error e ∧ e.source = source :=
      judge_of_not_shows hnone
    obtain ⟨e, hjudge, hsource⟩ := hjudge
    rw [hjudge] at hanswer
    exact .inl ⟨e, hanswer, hsource, hnone⟩

/-- An empty section of code is answered with the heading of the section that follows it, which is
no code and cannot be read as bytes. -/
theorem compile_copies_heading :
    let world : Tape :=
      { answer := fun _ => .ended 0 "Binary representation:\n\nText representation:\n" "" }
    (((compiler Host.onTape {}).compile "\x7b \x7d").run world).1 = .ok "text representation:" ∧
      ¬ IsCode "text representation:" ∧
      ∃ fault, Bytes.ofHex "text representation:" = .error fault := by
  refine ⟨?_, ?_, .hexText 0, by decide +kernel⟩
  · decide +kernel
  · rintro ⟨-, -, hall⟩
    exact absurd (hall 't' (by decide)) (by decide)

end Solc
end Gasometer
