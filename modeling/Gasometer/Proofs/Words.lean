import Gasometer.Text.Blank
import Mathlib.Data.List.Basic
import Mathlib.Data.List.DropRight

/-!
# Words and lines

Words are what stands between blanks: a blank between two texts keeps their words apart, trimming
keeps the words, and a text with one word is that word and blanks. Line breaks are blanks, so the
words of a text are those of its lines.
-/
namespace Gasometer.Text

variable {s t r w : List Char} {c : Char}

def blankCodes : List Nat :=
  List.range' 9 5 ++ List.range' 0x1c 5 ++ [0x85, 0xa0, 0x1680] ++ List.range' 0x2000 11 ++
    [0x2028, 0x2029, 0x202f, 0x205f, 0x3000]

theorem exists_blankCode (h : isBlank c = true) : ∃ n ∈ blankCodes, c = Char.ofNat n := by
  refine ⟨c.toNat, ?_, (Char.ofNat_toNat c).symm⟩
  simp only [isBlank, Bool.or_eq_true, Bool.and_eq_true, decide_eq_true_eq, beq_iff_eq] at h
  simp only [blankCodes, List.mem_append, List.mem_range'_1, List.mem_cons, List.not_mem_nil,
    or_false]
  omega

/-- Characters without a blank, at least one. -/
def IsWord (w : List Char) : Prop := w ≠ [] ∧ ∀ c ∈ w, isBlank c = false

/-! Words. -/

theorem pieces_ne_nil (s : List Char) : pieces s ≠ [] := by
  cases s with
  | nil => simp [pieces]
  | cons c r =>
    unfold pieces
    split_ifs
    · simp
    · split <;> simp

/-- A blank cuts a text into two. -/
theorem pieces_append (hc : isBlank c = true) (s r : List Char) :
    pieces (s ++ c :: r) = pieces s ++ pieces r := by
  induction s with
  | nil => simp [pieces, hc]
  | cons d s ih =>
    by_cases hd : isBlank d = true
    · simp [pieces, hd, ih]
    · obtain ⟨p, ps, hp⟩ := List.exists_cons_of_ne_nil (pieces_ne_nil s)
      simp [pieces, hd, ih, hp]

theorem pieces_of_no_blank (hs : ∀ c ∈ s, isBlank c = false) : pieces s = [s] := by
  induction s with
  | nil => rfl
  | cons c r ih => simp [pieces, hs c (by simp), ih fun x hx => hs x (by simp [hx])]

@[simp] theorem words_nil : words [] = [] := by simp [words, pieces]

theorem words_append (hc : isBlank c = true) (s r : List Char) :
    words (s ++ c :: r) = words s ++ words r := by
  rw [words, pieces_append hc, List.filter_append, words, words]

theorem words_cons_blank (hc : isBlank c = true) (r : List Char) : words (c :: r) = words r :=
  (words_append hc [] r).trans (by rw [words_nil, List.nil_append])

theorem IsWord.words (h : IsWord w) : words w = [w] := by
  rw [Text.words, pieces_of_no_blank h.2]
  simp [h.1]

/-- Blanks on the left change no words. -/
theorem words_blanks_append {b : List Char} (hb : ∀ c ∈ b, isBlank c = true) (s : List Char) :
    words (b ++ s) = words s := by
  induction b with
  | nil => rfl
  | cons c b ih =>
    rw [List.cons_append, words_cons_blank (hb c (by simp)), ih fun x hx => hb x (by simp [hx])]

/-- Blanks on the right change no words. -/
theorem words_append_blanks {b : List Char} (hb : ∀ c ∈ b, isBlank c = true) (s : List Char) :
    words (s ++ b) = words s := by
  cases b with
  | nil => rw [List.append_nil]
  | cons c b =>
    have hb' : words b = [] := by
      simpa using words_blanks_append (fun x hx => hb x (List.mem_cons_of_mem c hx)) []
    rw [words_append (hb c (by simp)), hb', List.append_nil]

theorem IsWord.words_append_blank (h : IsWord w) (hc : isBlank c = true) (r : List Char) :
    Text.words (w ++ c :: r) = w :: Text.words r := by
  rw [words_append hc, h.words, List.singleton_append]

theorem isWord_of_mem_words (h : w ∈ words s) : IsWord w := by
  obtain ⟨hmem, hne⟩ := List.mem_filter.1 h
  refine ⟨by simpa using hne, ?_⟩
  clear h hne
  induction s generalizing w with
  | nil =>
    obtain rfl : w = [] := by simpa [pieces] using hmem
    simp
  | cons d s ih =>
    unfold pieces at hmem
    by_cases hd : isBlank d = true
    · rw [if_pos hd] at hmem
      rcases List.mem_cons.1 hmem with rfl | hmem
      · simp
      · exact ih hmem
    · rw [if_neg hd] at hmem
      obtain ⟨p, ps, hp⟩ := List.exists_cons_of_ne_nil (pieces_ne_nil s)
      rw [hp] at hmem ih
      rcases List.mem_cons.1 hmem with rfl | hmem
      · intro c hc
        rcases List.mem_cons.1 hc with rfl | hc
        · simpa using hd
        · exact ih (by simp) c hc
      · exact ih (by simp [hmem])

/-- A text that does not begin with a blank has a word. -/
theorem words_ne_nil (hc : isBlank c = false) (r : List Char) : words (c :: r) ≠ [] := by
  obtain ⟨p, ps, hp⟩ := List.exists_cons_of_ne_nil (pieces_ne_nil r)
  simp [words, pieces, hc, hp]

theorem words_eq_nil (h : words s = []) : ∀ c ∈ s, isBlank c = true := by
  induction s with
  | nil => simp
  | cons c r ih =>
    by_cases hc : isBlank c = true
    · rw [words_cons_blank hc] at h
      simpa [hc] using ih h
    · exact absurd h (words_ne_nil (by simpa using hc) r)

/-- A text with words is blanks, the first word, and a text with the other words. -/
theorem words_eq_cons {ws : List (List Char)} (h : words s = w :: ws) :
    ∃ b v, s = b ++ (w ++ v) ∧ (∀ c ∈ b, isBlank c = true) ∧ words v = ws := by
  obtain ⟨b, hb, hs⟩ : ∃ b, (∀ c ∈ b, isBlank c = true) ∧ s = b ++ s.dropWhile isBlank :=
    ⟨_, fun c hc => List.mem_takeWhile_imp hc, (List.takeWhile_append_dropWhile ..).symm⟩
  have hnext : ∀ c, (s.dropWhile isBlank).head? = some c → isBlank c = false := by
    intro c hc
    have hnot := List.head?_dropWhile_not isBlank s
    rw [hc] at hnot
    simpa using hnot
  generalize s.dropWhile isBlank = t at hs hnext
  subst hs
  rw [words_blanks_append hb] at h
  obtain ⟨v, hv, ht⟩ : ∃ v, (∀ c ∈ v, isBlank c = false) ∧
      t = v ++ t.dropWhile fun c => !isBlank c := by
    refine ⟨_, fun c hc => ?_, (List.takeWhile_append_dropWhile ..).symm⟩
    simpa using List.mem_takeWhile_imp hc
  have hbreak : ∀ c, (t.dropWhile fun c => !isBlank c).head? = some c → isBlank c = true := by
    intro c hc
    have hnot := List.head?_dropWhile_not (fun c => !isBlank c) t
    rw [hc] at hnot
    simpa using hnot
  generalize (t.dropWhile fun c => !isBlank c) = u at ht hbreak
  subst ht
  have hword : IsWord v := by
    refine ⟨?_, hv⟩
    rintro rfl
    cases u with
    | nil => simp at h
    | cons c u =>
      have hnot := hnext c rfl
      rw [hbreak c rfl] at hnot
      cases hnot
  cases u with
  | nil =>
    rw [List.append_nil, hword.words] at h
    cases h
    exact ⟨b, [], rfl, hb, words_nil⟩
  | cons c u =>
    have hc : isBlank c = true := hbreak c rfl
    rw [hword.words_append_blank hc] at h
    cases h
    exact ⟨b, c :: u, rfl, hb, words_cons_blank hc u⟩

/-! Trimming. -/

theorem words_trim (s : List Char) : words (trim s) = words s := by
  have hleft : words (trimLeft s) = words s := by
    conv_rhs => rw [← List.takeWhile_append_dropWhile (p := isBlank) (l := s)]
    exact (words_blanks_append (fun c hc => List.mem_takeWhile_imp hc) _).symm
  have hright : words (trimRight (trimLeft s)) = words (trimLeft s) := by
    conv_rhs => rw [← List.rdropWhile_append_rtakeWhile (p := isBlank) (l := trimLeft s)]
    exact (words_append_blanks (fun c hc => List.mem_rtakeWhile_imp hc) _).symm
  exact hright.trans hleft

/-- Blanks on both sides of a word. -/
theorem IsWord.trim {b b' : List Char} (hw : IsWord w) (hb : ∀ c ∈ b, isBlank c = true)
    (hb' : ∀ c ∈ b', isBlank c = true) : trim (b ++ (w ++ b')) = w := by
  have hkeep : ∀ {v}, IsWord v → ∀ {u}, (v ++ u).dropWhile isBlank = v ++ u := by
    rintro (_ | ⟨c, v⟩) ⟨hne, hv⟩ u
    · exact absurd rfl hne
    · exact List.dropWhile_cons_of_neg (by simp [hv c (by simp)])
  have hrev : IsWord w.reverse := ⟨by simp [hw.1], by simpa using hw.2⟩
  rw [Text.trim, trimLeft, List.dropWhile_append_of_pos hb, hkeep hw, trimRight,
    List.reverse_append, List.dropWhile_append_of_pos (by simpa using hb'),
    ← List.append_nil w.reverse, hkeep hrev, List.append_nil, List.reverse_reverse]

/-- A text with one word is that word, and blanks. -/
theorem trim_eq_of_words (h : words s = [w]) : trim s = w := by
  have hw : IsWord w := isWord_of_mem_words (s := s) (by rw [h]; simp)
  obtain ⟨b, v, rfl, hb, hv⟩ := words_eq_cons h
  exact hw.trim hb (words_eq_nil hv)

/-! Lines. -/

/-- A break ends a line, and a carriage return with a line feed after it is one break. -/
theorem lines_cons_break (hc : isLineBreak c = true) (h : ∀ t, c = '\r' → r ≠ '\n' :: t) :
    lines (c :: r) = [] :: lines r := by
  rw [lines.eq_3 c r h, if_pos hc]

/-- Any other character stands at the beginning of the first line. -/
theorem lines_cons (hc : isLineBreak c = false) (r : List Char) :
    lines (c :: r) = (c :: (lines r).headD []) :: (lines r).tail := by
  have hreturn : ∀ t, c = '\r' → r ≠ '\n' :: t := by
    rintro t rfl
    exact absurd hc (by decide)
  rw [lines.eq_3 c r hreturn, if_neg (by simp [hc])]
  cases lines r <;> rfl

theorem lines_ne_nil (h : s ≠ []) : lines s ≠ [] := by
  fun_cases lines s with
  | case1 => exact absurd rfl h
  | case2 | case3 | case4 | case5 => simp

/-- A line feed ends a line whatever stands before it. -/
theorem lines_append (l r : List Char) :
    lines (l ++ '\n' :: r) = lines (l ++ ['\n']) ++ lines r := by
  have hfeed : isLineBreak '\n' = true := by decide
  induction l using lines.induct with
  | case1 =>
    rw [List.nil_append, List.nil_append, lines_cons_break hfeed (by simp),
      lines_cons_break hfeed (by simp), lines_nil, List.singleton_append]
  | case2 l ih => simp [lines, ih]
  | case3 c l hreturn hc ih =>
    cases l with
    | nil =>
      by_cases hc' : c = '\r'
      · simp [hc', lines]
      · have hc'' : ∀ (r t : List Char), c = '\r' → r ≠ t := fun _ _ h => absurd h hc'
        rw [List.singleton_append, List.singleton_append, lines_cons_break hc fun t => hc'' _ _,
          lines_cons_break hc fun t => hc'' _ _]
        exact congrArg ([] :: ·) ih
    | cons d l =>
      have hnot : ∀ u t, c = '\r' → d :: l ++ u ≠ '\n' :: t := by
        intro u t hc' heq
        obtain ⟨rfl, -⟩ := List.cons.inj heq
        exact hreturn l hc' rfl
      rw [List.cons_append (a := c), List.cons_append (a := c), lines_cons_break hc (hnot _),
        lines_cons_break hc (hnot _), ih]
      rfl
  | case4 c l hreturn hc hl ih | case5 c l hreturn hc l' ls hl ih =>
    have hc' : isLineBreak c = false := by simpa using hc
    obtain ⟨m, ms, hm⟩ := List.exists_cons_of_ne_nil (lines_ne_nil (s := l ++ ['\n']) (by simp))
    rw [List.cons_append, List.cons_append, lines_cons hc', lines_cons hc', ih, hm]
    rfl

/-- A line feed at the end opens no line, unless there is a break before it. -/
theorem lines_feed (s : List Char) :
    lines (s ++ ['\n']) = lines s ∨ lines (s ++ ['\n']) = lines s ++ [[]] := by
  have hfeed : isLineBreak '\n' = true := by decide
  induction s using lines.induct with
  | case1 => exact .inr (by rw [List.nil_append, lines_cons_break hfeed (by simp), lines_nil]; rfl)
  | case2 r ih => simpa [lines] using ih
  | case3 c r hreturn hc ih =>
    cases r with
    | nil =>
      by_cases hc' : c = '\r'
      · simp [hc', lines, show isLineBreak '\r' = true by decide]
      · have hnot : ∀ (r t : List Char), c = '\r' → r ≠ t := fun _ _ h => absurd h hc'
        right
        rw [List.singleton_append, lines_cons_break hc fun t => hnot _ _,
          lines_cons_break hc fun t => hnot _ _, lines_cons_break hfeed (by simp), lines_nil]
        rfl
    | cons d r =>
      have hnot : ∀ u t, c = '\r' → d :: r ++ u ≠ '\n' :: t := by
        intro u t hc' heq
        obtain ⟨rfl, -⟩ := List.cons.inj heq
        exact hreturn r hc' rfl
      rw [List.cons_append, lines_cons_break hc (hnot _), lines_cons_break hc hreturn,
        List.cons_append]
      exact ih.imp (congrArg _) (congrArg _)
  | case4 c r hreturn hc hr ih | case5 c r hreturn hc l ls hr ih =>
    have hc' : isLineBreak c = false := by simpa using hc
    rw [List.cons_append, lines_cons hc', lines_cons hc']
    rcases ih with ih | ih <;> simp [ih, hr]

/-- A line without breaks. -/
theorem lines_line (hl : ∀ c ∈ s, isLineBreak c = false) : lines (s ++ ['\n']) = [s] := by
  induction s with
  | nil => simp [lines, show isLineBreak '\n' = true by decide]
  | cons c s ih =>
    rw [List.cons_append, lines_cons (hl c (by simp)), ih fun x hx => hl x (by simp [hx])]
    rfl

/-- Lines are made of the characters of their text. -/
theorem mem_of_mem_lines {l : List Char} (hl : l ∈ lines s) (hc : c ∈ l) : c ∈ s := by
  induction s using lines.induct generalizing l with
  | case1 => simp at hl
  | case2 r ih =>
    rcases List.mem_cons.1 (by simpa [lines] using hl) with rfl | hl
    · simp at hc
    · simp [ih hl hc]
  | case3 d r hreturn hd ih =>
    rw [lines_cons_break hd hreturn] at hl
    rcases List.mem_cons.1 hl with rfl | hl
    · simp at hc
    · exact List.mem_cons_of_mem _ (ih hl hc)
  | case4 d r hreturn hd hr ih =>
    rw [lines_cons (by simpa using hd), hr] at hl
    obtain rfl : l = [d] := by simpa using hl
    simp_all
  | case5 d r hreturn hd l' ls hr ih =>
    rw [lines_cons (by simpa using hd), hr] at hl
    rcases List.mem_cons.1 hl with rfl | hl
    · rcases List.mem_cons.1 hc with rfl | hc
      · simp
      · exact List.mem_cons_of_mem _ (ih (l := l') (by simp [hr]) hc)
    · exact List.mem_cons_of_mem _ (ih (l := l) (hr ▸ List.mem_cons_of_mem _ hl) hc)

/-- What stands before a text may lengthen the first of its lines. -/
theorem words_lines (p s : List Char) :
    words (p ++ (lines s).headD []) ++ (lines s).tail.flatMap words = words (p ++ s) := by
  have hflat : ∀ ls : List (List Char),
      words (ls.headD []) ++ ls.tail.flatMap words = ls.flatMap words := by
    rintro (_ | ⟨l, ls⟩) <;> simp
  induction s using lines.induct generalizing p with
  | case1 => simp
  | case2 r ih =>
    have hr := ih []
    rw [List.nil_append, List.nil_append, hflat] at hr
    rw [words_append (by decide), words_cons_blank (by decide)]
    simp [lines, hr]
  | case3 c r hreturn hc ih =>
    have hr := ih []
    rw [List.nil_append, List.nil_append, hflat] at hr
    rw [words_append (isBlank_of_isLineBreak hc), lines_cons_break hc hreturn]
    simp [hr]
  | case4 c r hreturn hc hr ih | case5 c r hreturn hc l ls hr ih =>
    rw [lines_cons (by simpa using hc)]
    simpa using ih (p ++ [c])

/-- The words of a text are those of its lines. -/
theorem flatMap_words_lines (s : List Char) : (lines s).flatMap words = words s := by
  have h := words_lines [] s
  cases hs : lines s with
  | nil => simpa [hs] using h
  | cons l ls => simpa [hs] using h

end Gasometer.Text
