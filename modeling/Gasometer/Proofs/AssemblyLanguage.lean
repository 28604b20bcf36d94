import Gasometer.Assembly.Program
import Gasometer.Proofs.Mnemonics
import Gasometer.Proofs.Numerals

/-!
# The language of assembly texts

A text is read line by line. What stands before the comment of a line says nothing, defines a label,
names an operation, or pushes a number or a label; this grammar is stated here without the reader,
which accepts exactly the lines that it allows.
-/
namespace Gasometer.Assembly
open Text (IsWord Numeral Decimal words upper)

/-- What a push puts on the stack: the place of a label, or a number. -/
inductive Target where
  | label (name : String)
  | number (value : Int)
  deriving DecidableEq

/-- What a line asks for. A push may state its width. -/
inductive Statement where
  | label (name : String)
  | plain (op : Opcode)
  | push (width? : Option Nat) (target : Target)
  deriving DecidableEq

/-! The grammar of a line. -/

/-- The line before its comment, which begins at the first `;` or `//`. -/
def uncommented : List Char → List Char
  | [] => []
  | ';' :: _ => []
  | '/' :: '/' :: _ => []
  | c :: r => c :: uncommented r

def IsLabelName : List Char → Prop
  | [] => False
  | c :: r => isNameStart c = true ∧ ∀ d ∈ r, isNamePart d = true

/-- `PUSH` in any case, alone or with a width. -/
inductive SaysPush (w : List Char) : Option Nat → Prop
  | bare (h : upper w = "PUSH".toList) : SaysPush w none
  | sized {d : List Char} {n : Nat} (h : upper w = "PUSH".toList ++ d)
      (hd : ∀ c ∈ d, c.isDigit = true) (hn : Decimal d n) : SaysPush w (some n)

inductive SaysTarget : List Char → Target → Prop
  | label (name : List Char) : SaysTarget ('@' :: name) (.label (String.ofList name))
  | number {s : List Char} {v : Int} (h : Numeral s v) : SaysTarget s (.number v)

/-- What the words of a line ask for. -/
inductive Says : List (List Char) → Option Statement → Prop
  | blank : Says [] none
  | label {name : List Char} (h : IsLabelName name) :
      Says [name ++ [':']] (some (.label (String.ofList name)))
  | plain {w : List Char} {op : Opcode} (h : Opcode.Names w op) (hop : op.width = 0) :
      Says [w] (some (.plain op))
  | push {w operand : List Char} {width? : Option Nat} {target : Target} (hw : SaysPush w width?)
      (ho : SaysTarget operand target) : Says [w, operand] (some (.push width? target))

inductive Spells : List (List Char) → List Statement → Prop
  | nil : Spells [] []
  | skip {line : List Char} {lines : List (List Char)} {p : List Statement}
      (h : Says (words (uncommented line)) none) (hr : Spells lines p) : Spells (line :: lines) p
  | cons {line : List Char} {lines : List (List Char)} {s : Statement} {p : List Statement}
      (h : Says (words (uncommented line)) (some s)) (hr : Spells lines p) :
      Spells (line :: lines) (s :: p)

/-! Reading a line. -/

theorem stripComment_eq (line : List Char) : stripComment line = Text.trim (uncommented line) := by
  have h : Text.before ['/', '/'] (Text.before [';'] line) = uncommented line := by
    fun_induction uncommented line with
    | case1 => rfl
    | case2 => simp [Text.before, Text.startsWith]
    | case3 r => simp [Text.before, Text.startsWith]
    | case4 c r hsemi hslash ih =>
      have hc : c ≠ ';' := fun hc => hsemi hc
      have hbefore : Text.before [';'] (c :: r) = c :: Text.before [';'] r := by
        simp [Text.before, Text.startsWith, Ne.symm hc]
      rw [hbefore, Text.before, if_neg, ih]
      -- A second slash would stand in the line too.
      rcases r with _ | ⟨d, r⟩
      · simp [Text.startsWith, Text.before]
      · by_cases hd : d = ';'
        · simp [Text.startsWith, Text.before, hd]
        · have hslash' : ¬ (c = '/' ∧ d = '/') := fun hc => hslash r hc.1 (by rw [hc.2])
          simp [Text.startsWith, Text.before, Ne.symm hd]
          grind
  rw [stripComment, h]

theorem labelOf?_colon {c : Char} {r : List Char} :
    labelOf? (c :: r ++ [':']) =
      if isNameStart c && r.all isNamePart then some (c :: r) else none := by
  simp [labelOf?]

theorem labelOf?_eq_some_iff {line name : List Char} :
    labelOf? line = some name ↔ line = name ++ [':'] ∧ IsLabelName name := by
  constructor
  · intro h
    rcases List.eq_nil_or_concat' line with rfl | ⟨l, d, rfl⟩
    · cases h
    by_cases hd : d = ':'
    · subst hd
      cases l with
      | nil => simp [labelOf?] at h
      | cons c r =>
        rw [labelOf?_colon] at h
        split_ifs at h with hname
        obtain rfl := Option.some.inj h
        exact ⟨rfl, by simpa [IsLabelName] using hname⟩
    · simp [labelOf?, hd] at h
  · rintro ⟨rfl, h⟩
    cases name with
    | nil => cases h
    | cons c r => rw [labelOf?_colon, if_pos (by simpa [IsLabelName] using h)]

theorem isBlank_of_isNamePart {c : Char} (h : isNamePart c = true) : Text.isBlank c = false := by
  have hnone : ∀ n ∈ Text.blankCodes, isNamePart (Char.ofNat n) = false := by decide
  refine eq_false_of_ne_true fun hblank => ?_
  obtain ⟨n, hn, rfl⟩ := Text.exists_blankCode hblank
  rw [hnone n hn] at h
  cases h

/-- A label definition is one word. -/
theorem IsLabelName.isWord {name : List Char} (h : IsLabelName name) : IsWord (name ++ [':']) := by
  refine ⟨by simp, fun c hc => ?_⟩
  rcases List.mem_append.1 hc with hc | hc
  · cases name with
    | nil => cases h
    | cons d r =>
      have hstart : isNamePart d = true := by
        have hd := h.1
        simp only [isNameStart, isNamePart, Char.isAlphanum, Bool.or_eq_true] at hd ⊢
        tauto
      rcases List.mem_cons.1 hc with rfl | hc
      · exact isBlank_of_isNamePart hstart
      · exact isBlank_of_isNamePart (h.2 c hc)
  · obtain rfl : c = ':' := by simpa using hc
    decide

inductive Operand.Means : Operand → Target → Prop
  | label (name : String) : Operand.Means (.label name) (.label name)
  | literal {text : String} {v : Int}
      (h : number (if isHexLiteral text then .sixteen else .ten) text = .ok v) :
      Operand.Means (.literal text) (.number v)

inductive WidthMeans (width : String) : Option Nat → Prop
  | missing (h : width = "") : WidthMeans width none
  | stated {n : Nat} (hne : width ≠ "") (h : number .ten width = .ok n) : WidthMeans width (some n)

/-- What an instruction asks for. Numbers have been read. -/
inductive Instruction.Means : Instruction → Statement → Prop
  | label (name : String) : Instruction.Means (.label name) (.label name)
  | plain (op : Opcode) : Instruction.Means (.plain op) (.plain op)
  | push {width : String} {operand : Operand} {width? : Option Nat} {target : Target}
      (hw : WidthMeans width width?) (ho : operand.Means target) :
      Instruction.Means (.push width operand) (.push width? target)

theorem saysPush_iff {w : List Char} {width? : Option Nat} :
    SaysPush w width? ↔ ∃ d, pushWidth? w = some d ∧ WidthMeans (String.ofList d) width? := by
  constructor
  · rintro (h | @⟨d, n, h, hd, hn⟩)
    · exact ⟨[], pushWidth?_eq_some_iff.2 ⟨h, by simp⟩, .missing rfl⟩
    · refine ⟨d, pushWidth?_eq_some_iff.2 ⟨h, hd⟩, .stated ?_ ?_⟩
      · obtain ⟨⟨-, -⟩, -⟩ := hn
        simp
      · exact (number_width_eq_ok_iff (List.all_eq_true.2 hd)).2 ⟨n, hn, rfl⟩
  · rintro ⟨d, hpush, hw⟩
    obtain ⟨h, hd⟩ := pushWidth?_eq_some_iff.1 hpush
    cases hw with
    | missing hempty =>
      obtain rfl : d = [] := by simpa using hempty
      exact .bare h
    | stated hne hn =>
      obtain ⟨n, hdecimal, heq⟩ := (number_width_eq_ok_iff (List.all_eq_true.2 hd)).1 hn
      obtain rfl := Int.ofNat_inj.1 heq
      exact .sized h hd hdecimal

theorem saysTarget_iff {operand : List Char} (h : IsWord operand) {target : Target} :
    SaysTarget operand target ↔ (Operand.ofChars operand).Means target := by
  by_cases hat : ∃ name, operand = '@' :: name
  · obtain ⟨name, rfl⟩ := hat
    have hno : ∀ v, ¬ Numeral ('@' :: name) v := by
      intro v hv
      cases hv with
      | plain h =>
        obtain ⟨⟨hc, -⟩, -⟩ := h
        exact absurd hc (by simp [show Text.digitOf? 10 '@' = none by decide])
    constructor
    · intro ht
      cases ht with
      | label => exact .label _
      | number hv => exact absurd hv (hno _)
    · intro ht
      cases ht with
      | label => exact .label name
  · have hliteral : Operand.ofChars operand = .literal (String.ofList operand) := by
      unfold Operand.ofChars
      split
      · exact absurd ⟨_, rfl⟩ hat
      · rfl
    rw [hliteral]
    constructor
    · intro ht
      cases ht with
      | label name => exact absurd ⟨name, rfl⟩ hat
      | number hv => exact .literal ((number_literal_eq_ok_iff h.2).2 hv)
    · intro ht
      cases ht with
      | literal hv => exact .number ((number_literal_eq_ok_iff h.2).1 hv)

/-- What names an operation defines no label. -/
theorem labelOf?_of_names {w : List Char} {op : Opcode} (h : Opcode.Names w op) :
    labelOf? w = none := by
  by_contra hsome
  obtain ⟨name, hname⟩ := Option.ne_none_iff_exists'.1 hsome
  obtain ⟨rfl, -⟩ := labelOf?_eq_some_iff.1 hname
  have hupper : ':' ∈ upper (name ++ [':']) := by
    rw [upper, List.flatMap_append, List.mem_append]
    exact .inr (by decide)
  exact absurd (h.isAlphanum.2 _ hupper) (by decide)

/-- The instruction of a line is what its words ask for. -/
theorem instructionOf_eq_ok_iff {n : Nat} {w : List Char} {operands : List (List Char)}
    (hw : IsWord w) (ho : ∀ o ∈ operands, IsWord o) (hlabel : operands = [] → labelOf? w = none)
    {s : Statement} :
    (∃ i, instructionOf n w operands = .ok i ∧ i.Means s) ↔ Says (w :: operands) (some s) := by
  have hmnemonic : ∀ op, Opcode.ofMnemonic (String.ofList w) = .ok op ↔ Opcode.Names w op := by
    intro op
    rw [Opcode.ofMnemonic_eq_ok_iff, String.toList_ofList, Text.trim_eq_of_words hw.words]
  constructor
  · rintro ⟨i, hi, hs⟩
    unfold instructionOf at hi
    split at hi
    · rename_i d operand hpush
      cases hi
      cases hs with
      | push hwidth htarget =>
        exact .push (saysPush_iff.2 ⟨d, hpush, hwidth⟩)
          ((saysTarget_iff (ho _ (by simp))).2 htarget)
    · cases hi
    · cases hi
    · rename_i hpush
      split at hi
      · rename_i op hop
        cases hi
        cases hs
        have hnames := (hmnemonic op).1 hop
        exact .plain hnames (hnames.width_eq_zero_iff.2 hpush)
      · cases hi
  · intro h
    cases h with
    | label hname =>
      have hsome := labelOf?_eq_some_iff.2 ⟨rfl, hname⟩
      rw [hlabel rfl] at hsome
      cases hsome
    | plain hnames hwidth =>
      have hpush := hnames.width_eq_zero_iff.1 hwidth
      refine ⟨_, ?_, .plain _⟩
      simp [instructionOf, hpush, (hmnemonic _).2 hnames]
    | push hpush htarget =>
      obtain ⟨d, hd, hwidth⟩ := saysPush_iff.1 hpush
      refine ⟨_, ?_, .push hwidth ((saysTarget_iff (ho _ (by simp))).1 htarget)⟩
      simp [instructionOf, hd]

/-- A line is read as what its words before the comment ask for. -/
theorem readLine_says (n : Nat) (line : List Char) :
    (readLine n line = .ok none ↔ Says (words (uncommented line)) none) ∧
      ∀ s, (∃ l, readLine n line = .ok (some l) ∧ l.instruction.Means s) ↔
        Says (words (uncommented line)) (some s) := by
  generalize hws : words (uncommented line) = ws
  have hwords : ∀ w ∈ ws, IsWord w := fun w hw => Text.isWord_of_mem_words (hws ▸ hw)
  cases hlabel : labelOf? (Text.trim (uncommented line)) with
  | some name =>
    have hread : readLine n line = .ok (some ⟨n, .label (String.ofList name)⟩) := by
      simp [readLine, stripComment_eq, hlabel]
    obtain ⟨htrim, hname⟩ := labelOf?_eq_some_iff.1 hlabel
    obtain rfl : ws = [name ++ [':']] := by
      rw [← hws, ← Text.words_trim, htrim, hname.isWord.words]
    have hsays : Says [name ++ [':']] (some (.label (String.ofList name))) := .label hname
    generalize hw : name ++ [':'] = w at hsays
    refine ⟨?_, fun s => ?_⟩
    · rw [hread]
      exact ⟨fun h => by simp at h, fun h => by cases h⟩
    · rw [hread]
      constructor
      · rintro ⟨i, hi, hs⟩
        cases hi
        cases hs
        exact hsays
      · intro h
        cases h with
        | label =>
          obtain rfl := List.append_cancel_right hw
          exact ⟨_, rfl, .label _⟩
        | plain hnames =>
          have hsome := labelOf?_eq_some_iff.2 ⟨hw.symm, hname⟩
          rw [labelOf?_of_names hnames] at hsome
          cases hsome
  | none =>
    cases ws with
    | nil =>
      have hread : readLine n line = .ok none := by
        simp [readLine, stripComment_eq, hlabel, Text.words_trim, hws]
      rw [hread]
      refine ⟨⟨fun _ => .blank, fun _ => rfl⟩, fun s => ⟨?_, fun h => by cases h⟩⟩
      rintro ⟨i, hi, -⟩
      simp at hi
    | cons w operands =>
      have hread : readLine n line = (instructionOf n w operands).map fun i => some ⟨n, i⟩ := by
        simp [readLine, stripComment_eq, hlabel, Text.words_trim, hws]
      have hnot : operands = [] → labelOf? w = none := by
        rintro rfl
        rw [← Text.trim_eq_of_words hws, hlabel]
      rw [hread]
      refine ⟨⟨fun h => ?_, fun h => by cases h⟩, fun s => ?_⟩
      · cases hi : instructionOf n w operands <;> simp [hi, Except.map] at h
      · rw [← instructionOf_eq_ok_iff (n := n) (hwords w (by simp))
          (fun o ho => hwords o (by simp [ho])) hnot]
        cases instructionOf n w operands <;> simp [Except.map]

/-- The statements of some lines are those that their instructions ask for. -/
theorem spells_iff {n : Nat} {lines : List (List Char)} {p : List Statement} :
    Spells lines p ↔
      ∃ ls, readLines n lines = .ok ls ∧ List.Forall₂ (fun l s => l.instruction.Means s) ls p := by
  induction lines generalizing n p with
  | nil =>
    constructor
    · rintro ⟨⟩
      exact ⟨[], rfl, .nil⟩
    · rintro ⟨ls, hls, hp⟩
      cases hls
      cases hp
      exact .nil
  | cons line lines ih =>
    obtain ⟨hblank, hsome⟩ := readLine_says n line
    constructor
    · intro h
      cases h with
      | skip hsays hr =>
        obtain ⟨ls, hls, hp⟩ := (ih (n := n + 1)).1 hr
        exact ⟨ls, by rw [readLines, hblank.2 hsays, hls], hp⟩
      | cons hsays hr =>
        obtain ⟨l, hl, hmeans⟩ := (hsome _).2 hsays
        obtain ⟨ls, hls, hp⟩ := (ih (n := n + 1)).1 hr
        exact ⟨l :: ls, by rw [readLines, hl, hls]; rfl, .cons hmeans hp⟩
    · rintro ⟨ls, hls, hp⟩
      rw [readLines] at hls
      split at hls
      · cases hls
      · rename_i hl
        exact .skip (hblank.1 hl) (ih.2 ⟨ls, hls, hp⟩)
      · rename_i l hl
        cases hrest : readLines (n + 1) lines with
        | error e => simp [hrest, Except.map] at hls
        | ok rest =>
          obtain rfl : l :: rest = ls := by simpa [hrest, Except.map] using hls
          cases hp with
          | cons hmeans hp => exact .cons ((hsome _).1 ⟨l, hl, hmeans⟩) (ih.2 ⟨rest, hrest, hp⟩)

theorem Operand.Means.unique {o : Operand} {t t' : Target} (h : o.Means t) (h' : o.Means t') :
    t = t' := by
  cases h with
  | label => cases h'; rfl
  | literal hv =>
    cases h' with
    | literal hv' =>
      rw [hv] at hv'
      cases hv'
      rfl

theorem WidthMeans.unique {width : String} {w w' : Option Nat} (h : WidthMeans width w)
    (h' : WidthMeans width w') : w = w' := by
  cases h with
  | missing hempty =>
    cases h' with
    | missing => rfl
    | stated hne => exact absurd hempty hne
  | stated hne hn =>
    cases h' with
    | missing hempty => exact absurd hempty hne
    | stated _ hn' =>
      rw [hn] at hn'
      cases hn'
      rfl

theorem Instruction.Means.unique {i : Instruction} {s s' : Statement} (h : i.Means s)
    (h' : i.Means s') : s = s' := by
  cases h with
  | label | plain => cases h'; rfl
  | push hw ho =>
    cases h' with
    | push hw' ho' => rw [hw.unique hw', ho.unique ho']

/-- A text has one reading. -/
theorem Spells.unique {lines : List (List Char)} {p p' : List Statement} (h : Spells lines p)
    (h' : Spells lines p') : p = p' := by
  obtain ⟨ls, hls, hp⟩ := (spells_iff (n := 1)).1 h
  obtain ⟨ls', hls', hp'⟩ := (spells_iff (n := 1)).1 h'
  obtain rfl := Except.ok.inj (hls.symm.trans hls')
  clear hls hls' h h'
  induction hp generalizing p' with
  | nil => cases hp'; rfl
  | cons hmeans _ ih =>
    cases hp' with
    | cons hmeans' hp' => rw [hmeans.unique hmeans', ih hp']

theorem Spells.append {lines lines' : List (List Char)} {p p' : List Statement}
    (h : Spells lines p) (h' : Spells lines' p') : Spells (lines ++ lines') (p ++ p') := by
  induction h with
  | nil => exact h'
  | skip hsays _ ih => exact .skip hsays ih
  | cons hsays _ ih => exact .cons hsays ih

end Gasometer.Assembly
