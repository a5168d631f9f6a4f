import Mathlib.Logic.Basic
import Mathlib.Tactic.SplitIfs
import ProtocolHeaders.Toml.Writer

/-!
# Strings are scanned as they were written

A text is written in one of four forms: on one line or over several, between double quotes,
where characters may be escaped, or between single ones. A scanner gives the text back in every
case, as long as what stands behind the string is not a quote.
-/

namespace ProtocolHeaders.Toml

/-! ## Characters -/

/-- A piece of a string between double quotes that shows one character. -/
inductive Shows (c : Char) : List Char -> Prop where
  | letter {letter : Char} (escape : letterEscape? letter = some c) : Shows c ['\\', letter]
  | code {high low : Char} (escape : codeEscape? ['0', '0', high, low] = some c) :
      Shows c ['\\', 'u', '0', '0', high, low]
  | plain (notQuote : c ≠ '"') (notBackslash : c ≠ '\\') (visible : isControl c = false) :
      Shows c [c]

/-- A letter that escapes a character neither begins a code nor skips blanks. -/
theorem not_mem_of_letterEscape? {letter c : Char} (escape : letterEscape? letter = some c) :
    letter ∉ ['x', 'u', 'U', ' ', '\t', '\n', '\r'] := by
  intro member
  simp only [List.mem_cons, List.not_mem_nil, or_false] at member
  rcases member with rfl | rfl | rfl | rfl | rfl | rfl | rfl
  all_goals cases escape

/-- The code of a control character stands for it. -/
theorem codeEscape?_controlDigits :
    ∀ code < 128, codeEscape? (controlDigits (Char.ofNat code)) = some (Char.ofNat code) := by
  decide +kernel

/-- Control characters are among the first of all codes. -/
theorem toNat_lt_of_isControl {c : Char} (control : isControl c = true) : c.toNat < 128 := by
  simp only [isControl, Bool.or_eq_true, Bool.and_eq_true, decide_eq_true_eq, beq_iff_eq] at control
  omega

/-- A character other than a double quote is shown by what is written for it. -/
theorem shows_escapeChar {c : Char} (notQuote : c ≠ '"') : Shows c (escapeChar c) := by
  unfold escapeChar
  split_ifs with backspace tab feed carriage backslash control
  · exact .letter (by rw [backspace]; rfl)
  · exact .letter (by rw [tab]; rfl)
  · exact .letter (by rw [feed]; rfl)
  · exact .letter (by rw [carriage]; rfl)
  · exact .letter (by rw [backslash]; rfl)
  · have escape := codeEscape?_controlDigits c.toNat (toNat_lt_of_isControl control)
    rw [Char.ofNat_toNat] at escape
    exact .code escape
  · exact .plain notQuote backslash (Bool.eq_false_iff.mpr control)

/-- A piece that shows a character begins neither with a double quote nor with a line break. -/
theorem Shows.head {c : Char} {piece : List Char} (shown : Shows c piece) :
    ∃ first others, piece = first :: others ∧ first ≠ '"' ∧ isControl first = false := by
  cases shown with
  | letter escape => exact ⟨_, _, rfl, by decide, rfl⟩
  | code escape => exact ⟨_, _, rfl, by decide, rfl⟩
  | plain notQuote notBackslash visible => exact ⟨_, _, rfl, notQuote, visible⟩

/-! ## One line -/

/-- A backslash before a letter is scanned as the character that the letter stands for. -/
theorem scanBasic_letter {letter c : Char} (escape : letterEscape? letter = some c)
    (rest : List Char) : scanBasic ('\\' :: letter :: rest) = prepend c (scanBasic rest) := by
  have apart := not_mem_of_letterEscape? escape
  simp only [List.mem_cons, not_or] at apart
  obtain ⟨notX, notSmallU, notLargeU, -⟩ := apart
  rw [scanBasic.eq_6, escape]
  · rfl
  · exact fun _ _ _ same _ => notX same
  · exact fun _ _ _ _ _ same _ => notSmallU same
  · exact fun _ _ _ _ _ _ _ _ _ same _ => notLargeU same

/-- Any visible character that ends nothing and escapes nothing stands for itself. -/
theorem scanBasic_plain {c : Char} (notQuote : c ≠ '"') (notBackslash : c ≠ '\\')
    (visible : isControl c = false) (rest : List Char) :
    scanBasic (c :: rest) = prepend c (scanBasic rest) := by
  rw [scanBasic.eq_7, visible]
  · rfl
  · exact notQuote
  all_goals
    intros
    exact notBackslash ‹_›

/-- A piece that shows a character is scanned as the character. -/
theorem Shows.scanBasic {c : Char} {piece : List Char} (shown : Shows c piece)
    (rest : List Char) :
    Toml.scanBasic (piece ++ rest) = prepend c (Toml.scanBasic rest) := by
  cases shown with
  | letter escape => exact scanBasic_letter escape rest
  | code escape =>
      change ((codeEscape? _).bind fun c => prepend c (Toml.scanBasic rest)) = _
      rw [escape]
      rfl
  | plain notQuote notBackslash visible => exact scanBasic_plain notQuote notBackslash visible rest

/-- A character is shown by what is written for it on a line of its own string. -/
theorem shows_line (c : Char) :
    Shows c
      (if c = '"' then ['\\', '"'] else if c = '\n' then ['\\', 'n'] else escapeChar c) := by
  split_ifs with quote lineBreak
  · exact .letter (by rw [quote]; rfl)
  · exact .letter (by rw [lineBreak]; rfl)
  · exact shows_escapeChar quote

/-- A text that is escaped on one line is scanned as itself up to the quote. -/
theorem scanBasic_escapeLine (text rest : List Char) :
    scanBasic (escapeLine text ++ '"' :: rest) = some (text, rest) := by
  induction text with
  | nil => rfl
  | cons c others inductionHypothesis =>
      rw [escapeLine, List.append_assoc, (shows_line c).scanBasic, inductionHypothesis]
      rfl

/-- A text without control characters and single quotes stands for itself between these. -/
theorem scanLiteral_append {text : List Char} (visible : ∀ c ∈ text, isControl c = false)
    (noQuote : '\'' ∉ text) (rest : List Char) :
    scanLiteral (text ++ '\'' :: rest) = some (text, rest) := by
  induction text with
  | nil => rfl
  | cons c others inductionHypothesis =>
      obtain ⟨firstVisible, othersVisible⟩ := List.forall_mem_cons.mp visible
      obtain ⟨notQuote, othersNot⟩ := not_or.mp (mt List.mem_cons.mpr noQuote)
      have tail := inductionHypothesis othersVisible othersNot
      rw [List.cons_append, scanLiteral.eq_3, firstVisible, tail]
      · rfl
      · exact fun same => notQuote same.symm

/-! ## Several lines -/

/-- The quotes between a text and its end are given back, and no more than these. -/
theorem finalQuotes_append {quote first : Char} (behind : first ≠ quote) (rest : List Char)
    {quotes : List Char} (few : quotes ∈ [[], [quote], [quote, quote]]) :
    finalQuotes quote (quotes ++ first :: rest) = (quotes, first :: rest) := by
  simp only [List.mem_cons, List.not_mem_nil, or_false] at few
  rcases few with rfl | rfl | rfl
  · cases rest with
    | nil => exact if_neg behind
    | cons second others => exact if_neg behind
  · exact (if_pos rfl).trans (if_neg behind)
  · exact (if_pos rfl).trans (if_pos rfl)

/-- An escape by a letter is scanned over several lines as on one. -/
theorem scanBasicLines_letter {letter c : Char} (escape : letterEscape? letter = some c)
    (rest : List Char) :
    scanBasicLines .text ('\\' :: letter :: rest) = prepend c (scanBasicLines .text rest) := by
  have apart := not_mem_of_letterEscape? escape
  simp only [List.mem_cons, not_or] at apart
  obtain ⟨notX, notSmallU, notLargeU, notBlank, notTab, notBreak, notReturn, -⟩ := apart
  have notSpace : isSpace letter = false := by
    rw [isSpace, Bool.or_eq_false_iff, beq_eq_false_iff_ne, beq_eq_false_iff_ne]
    exact ⟨notBlank, notTab⟩
  -- The scanner looks at what follows a backslash and a letter, since the two may be a backslash
  -- in front of a line break; so its equations differ by whether a line break follows.
  by_cases lineBreak : ∃ others, rest = '\n' :: others
  · obtain ⟨others, rfl⟩ := lineBreak
    rw [scanBasicLines.eq_15, notSpace, if_neg (by decide), if_neg notBreak, if_neg notReturn,
      escape]
    · rfl
    · exact nofun
    · exact fun _ _ _ same _ => notX same
    · exact fun _ _ _ _ _ same _ => notSmallU same
    · exact fun _ _ _ _ _ _ _ _ _ same _ => notLargeU same
  · rw [scanBasicLines.eq_16, notSpace, if_neg (by decide), if_neg notBreak, if_neg notReturn,
      escape]
    · rfl
    · exact fun _ _ _ same _ => notX same
    · exact fun _ _ _ _ _ same _ => notSmallU same
    · exact fun _ _ _ _ _ _ _ _ _ same _ => notLargeU same
    · exact nofun
    · exact fun others same => lineBreak ⟨others, same⟩

/-- Any visible character that begins no closing quotes stands for itself. -/
theorem scanBasicLines_plain {c : Char} (notBackslash : c ≠ '\\') (visible : isControl c = false)
    {rest : List Char} (opens : ∀ others, c :: rest ≠ '"' :: '"' :: '"' :: others) :
    scanBasicLines .text (c :: rest) = prepend c (scanBasicLines .text rest) := by
  have notBreak : c ≠ '\n' := by rintro rfl; cases visible
  have notReturn : c ≠ '\r' := by rintro rfl; cases visible
  rw [scanBasicLines.eq_19, visible]
  · rfl
  · exact notBreak
  · exact fun _ same _ => notReturn same
  · rintro others rfl rfl
    exact opens others rfl
  all_goals
    intros
    exact notBackslash ‹_›

/-- A piece that shows a character is scanned as the character. -/
theorem Shows.scanBasicLines {c : Char} {piece : List Char} (shown : Shows c piece)
    (rest : List Char) :
    Toml.scanBasicLines .text (piece ++ rest) = prepend c (Toml.scanBasicLines .text rest) := by
  cases shown with
  | letter escape => exact scanBasicLines_letter escape rest
  | code escape =>
      change ((codeEscape? _).bind fun c => prepend c (Toml.scanBasicLines .text rest)) = _
      rw [escape]
      rfl
  | plain notQuote notBackslash visible =>
      refine scanBasicLines_plain notBackslash visible ?_
      intro others same
      exact notQuote (List.cons.inj same).1

/-- Only a quote that still may stand for itself is written as a quote. -/
theorem escapeLines_head {run : Nat} {c : Char} (apart : c ≠ '"' ∨ 2 ≤ run)
    (others rest behind : List Char) :
    escapeLines run (c :: others) ++ rest ≠ '"' :: behind := by
  intro same
  by_cases quote : c = '"'
  · have full : ¬run < 2 := by
      rcases apart with notQuote | full
      · exact absurd quote notQuote
      · omega
    rw [escapeLines, if_pos quote, if_neg full] at same
    cases same
  · rw [escapeLines, if_neg quote] at same
    split_ifs at same with lineBreak
    · cases same
    · obtain ⟨first, tail, written, notQuote, -⟩ := (shows_escapeChar quote).head
      rw [written] at same
      exact notQuote (List.cons.inj same).1

/-- Behind a quote, two more of them are written only at the end of a text, where they
belong to those that close it. -/
theorem escapeLines_behind_quote (run : Nat) (text rest : List Char) :
    text = [] ∨ (text = ['"'] ∧ run = 0) ∨
      ∀ others, escapeLines (run + 1) text ++ rest ≠ '"' :: '"' :: others := by
  match text with
  | [] => exact .inl rfl
  | c :: others =>
      right
      by_cases apart : c ≠ '"' ∨ 2 ≤ run + 1
      · right
        intro behind same
        exact escapeLines_head apart others rest _ same
      · obtain ⟨quote, first⟩ := not_or.mp apart
        obtain rfl : c = '"' := not_not.mp quote
        obtain rfl : run = 0 := by omega
        match others with
        | [] => exact .inl ⟨rfl, rfl⟩
        | second :: others =>
            right
            intro behind same
            exact escapeLines_head (.inr (Nat.le_refl 2)) others rest _ (List.cons.inj same).2

/-- A text that is escaped over several lines is scanned as itself up to the three quotes. -/
theorem scanBasicLines_escapeLines {first : Char} (behind : first ≠ '"') (run : Nat)
    (text rest : List Char) :
    scanBasicLines .text (escapeLines run text ++ '"' :: '"' :: '"' :: first :: rest) =
      some (text, first :: rest) := by
  have closes (quotes : List Char) (few : quotes ∈ [[], ['"'], ['"', '"']]) :
      scanBasicLines .text ('"' :: '"' :: '"' :: (quotes ++ first :: rest)) =
        some (quotes, first :: rest) :=
    congrArg some (finalQuotes_append behind rest few)
  -- For every run, since a quote that stands for itself makes it longer.
  induction text generalizing run with
  | nil => exact closes [] (by simp)
  | cons c others inductionHypothesis =>
      rw [escapeLines]
      split_ifs with quote few lineBreak
      · subst quote
        rcases escapeLines_behind_quote run others ('"' :: '"' :: '"' :: first :: rest) with
          rfl | ⟨rfl, rfl⟩ | opens
        · exact closes ['"'] (by simp)
        · exact closes ['"', '"'] (by simp)
        · rw [List.cons_append, scanBasicLines_plain (by decide) rfl, inductionHypothesis]
          · rfl
          · intro rest same
            exact opens rest (List.cons.inj same).2
      · rw [quote, List.cons_append, List.cons_append, scanBasicLines_letter rfl,
          inductionHypothesis]
        rfl
      · rw [lineBreak, List.cons_append, scanBasicLines.eq_2, inductionHypothesis]
        rfl
      · rw [List.append_assoc, (shows_escapeChar quote).scanBasicLines, inductionHypothesis]
        rfl

/-! ### Without escapes -/

/-- A run of quotes that has begun counts as one. -/
theorem le_longestRun (quote : Char) (run : Nat) (text : List Char) :
    run ≤ longestRun quote run text := by
  induction text generalizing run with
  | nil => exact Nat.le_refl run
  | cons c others inductionHypothesis =>
      rw [longestRun]
      split_ifs with isQuote
      · exact Nat.le_of_succ_le (inductionHypothesis (run + 1))
      · exact Nat.le_max_left ..

/-- Behind another character the runs begin anew. -/
theorem longestRun_tail {quote : Char} {run bound : Nat} {c : Char} {others : List Char}
    (notQuote : c ≠ quote) (short : longestRun quote run (c :: others) ≤ bound) :
    longestRun quote 0 others ≤ bound := by
  rw [longestRun, if_neg notQuote] at short
  exact (Nat.max_le.mp short).2

/-- A text whose runs are no longer than none of a quote has none. -/
theorem not_mem_of_longestRun_eq_zero {quote : Char} {run : Nat} {text : List Char}
    (noRun : longestRun quote run text = 0) : quote ∉ text := by
  induction text generalizing run with
  | nil => exact List.not_mem_nil
  | cons c others inductionHypothesis =>
      by_cases isQuote : c = quote
      · rw [longestRun, if_pos isQuote] at noRun
        have least := le_longestRun quote (run + 1) others
        omega
      · have tail := longestRun_tail isQuote (Nat.le_of_eq noRun)
        exact List.not_mem_cons_of_ne_of_not_mem (Ne.symm isQuote)
          (inductionHypothesis (Nat.le_zero.mp tail))

/-- Behind a quote, two more of them stand only at the end of a text without three in a row,
where they belong to those that close it. -/
theorem quotes_behind_quote {quote : Char} {run : Nat} {text : List Char}
    (short : longestRun quote (run + 1) text ≤ 2) (rest : List Char) :
    text = [] ∨ text = [quote] ∨ ∀ others, text ++ rest ≠ quote :: quote :: others := by
  match text with
  | [] => exact .inl rfl
  | [c] =>
      right
      by_cases isQuote : c = quote
      · exact .inl (congrArg (fun c => [c]) isQuote)
      · right
        intro others same
        exact isQuote (List.cons.inj same).1
  | c :: second :: others =>
      right
      right
      intro behind same
      obtain ⟨rfl, tail⟩ := List.cons.inj same
      obtain ⟨rfl, -⟩ := List.cons.inj tail
      rw [longestRun, if_pos rfl, longestRun, if_pos rfl] at short
      have least := le_longestRun second (run + 1 + 1 + 1) others
      omega

/-- Any visible character that begins no closing quotes stands for itself. -/
theorem scanLiteralLines_plain {c : Char} (visible : isControl c = false) {rest : List Char}
    (opens : ∀ others, c :: rest ≠ '\'' :: '\'' :: '\'' :: others) :
    scanLiteralLines (c :: rest) = prepend c (scanLiteralLines rest) := by
  rw [scanLiteralLines.eq_5, visible]
  · rfl
  · rintro rfl
    cases visible
  · rintro others rfl
    cases visible
  · rintro others rfl rfl
    exact opens others rfl

/-- A text without three quotes in a row is scanned as itself up to the three quotes. -/
theorem scanLiteralLines_append {first : Char} (behind : first ≠ '\'') {run : Nat}
    {text : List Char} (visible : ∀ c ∈ text, needsEscape c = false)
    (short : longestRun '\'' run text ≤ 2) (rest : List Char) :
    scanLiteralLines (text ++ '\'' :: '\'' :: '\'' :: first :: rest) =
      some (text, first :: rest) := by
  have closes (quotes : List Char) (few : quotes ∈ [[], ['\''], ['\'', '\'']]) :
      scanLiteralLines ('\'' :: '\'' :: '\'' :: (quotes ++ first :: rest)) =
        some (quotes, first :: rest) :=
    congrArg some (finalQuotes_append behind rest few)
  induction text generalizing run with
  | nil => exact closes [] (by simp)
  | cons c others inductionHypothesis =>
      obtain ⟨firstVisible, othersVisible⟩ := List.forall_mem_cons.mp visible
      by_cases quote : c = '\''
      · subst quote
        rw [longestRun, if_pos rfl] at short
        rcases quotes_behind_quote short ('\'' :: '\'' :: '\'' :: first :: rest) with
          rfl | rfl | opens
        · exact closes ['\''] (by simp)
        · exact closes ['\'', '\''] (by simp)
        · rw [List.cons_append, scanLiteralLines_plain rfl, inductionHypothesis othersVisible short]
          · rfl
          · intro rest same
            exact opens rest (List.cons.inj same).2
      · have tail := inductionHypothesis othersVisible (longestRun_tail quote short)
        by_cases lineBreak : c = '\n'
        · rw [lineBreak, List.cons_append, scanLiteralLines.eq_2, tail]
          rfl
        · have notControl : isControl c = false := by
            simpa [needsEscape, lineBreak] using firstVisible
          rw [List.cons_append, scanLiteralLines_plain notControl, tail]
          · rfl
          · intro rest same
            exact quote (List.cons.inj same).1

/-! ## Any of the forms -/

/-- What is escaped between quotes on one line is scanned as the text. -/
theorem scanString?_escapeLine {first : Char} (behind : first ≠ '"') (text rest : List Char) :
    scanString? ('"' :: (escapeLine text ++ '"' :: first :: rest)) =
      some (text, first :: rest) := by
  have single : ∀ others, escapeLine text ++ '"' :: first :: rest ≠ '"' :: '"' :: others := by
    intro others same
    match text with
    | [] => exact behind (List.cons.inj (List.cons.inj same).2).1
    | c :: others =>
        obtain ⟨head, tail, written, notQuote, -⟩ := (shows_line c).head
        rw [escapeLine, written] at same
        exact notQuote (List.cons.inj same).1
  rw [scanString?.eq_3, scanBasic_escapeLine]
  exact fun others same => single others same

/-- A text that is quoted as it is on one line is scanned as the text. -/
theorem scanString?_literal {first : Char} (behind : first ≠ '\'') {text : List Char}
    (visible : ∀ c ∈ text, isControl c = false) (noQuote : '\'' ∉ text) (rest : List Char) :
    scanString? ('\'' :: (text ++ '\'' :: first :: rest)) = some (text, first :: rest) := by
  have single : ∀ others, text ++ '\'' :: first :: rest ≠ '\'' :: '\'' :: others := by
    intro others same
    match text with
    | [] => exact behind (List.cons.inj (List.cons.inj same).2).1
    | c :: others =>
        obtain rfl := (List.cons.inj same).1
        exact noQuote List.mem_cons_self
  rw [scanString?.eq_4, scanLiteral_append visible noQuote]
  exact fun others same => single others same

/-- The line break that sets off a text from its opening quotes, if the text has any itself. -/
def setOff (text : List Char) : List Char :=
  if text.contains '\n' then ['\n'] else []

/-- Three quotes open several lines, and a break sets the first one off. -/
theorem openLines_eq (quote : Char) (text : List Char) :
    openLines quote text = quote :: quote :: quote :: setOff text := by
  rw [openLines, setOff]
  split_ifs
  · rfl
  · rfl

/-- No other line break than the one that sets off a text is skipped behind its quotes. -/
theorem dropFirstBreak_setOff {text written : List Char}
    (head : '\n' ∉ text -> ∃ first others, written = first :: others ∧ isControl first = false) :
    dropFirstBreak (setOff text ++ written) = written := by
  rw [setOff]
  split_ifs with breaks
  · rfl
  · obtain ⟨first, others, rfl, visible⟩ := head (mt List.contains_iff_mem.mpr breaks)
    have notBreak : first ≠ '\n' := by rintro rfl; cases visible
    have notReturn : first ≠ '\r' := by rintro rfl; cases visible
    rw [List.nil_append, dropFirstBreak, afterBreak?]
    · rfl
    · exact fun _ same => notBreak (List.cons.inj same).1
    · exact fun _ same => notReturn (List.cons.inj same).1

/-- What is escaped between three quotes is scanned as the text. -/
theorem scanString?_escapeLines {first : Char} (behind : first ≠ '"') (text rest : List Char) :
    scanString? (openLines '"' text ++ (escapeLines 0 text ++ '"' :: '"' :: '"' :: first :: rest)) =
      some (text, first :: rest) := by
  have head (noBreak : '\n' ∉ text) :
      ∃ head tail, escapeLines 0 text ++ '"' :: '"' :: '"' :: first :: rest = head :: tail ∧
        isControl head = false := by
    match text with
    | [] => exact ⟨_, _, rfl, rfl⟩
    | c :: others =>
        have notBreak : c ≠ '\n' := by rintro rfl; exact noBreak List.mem_cons_self
        by_cases quote : c = '"'
        · exact ⟨'"', _, by rw [escapeLines, if_pos quote]; rfl, rfl⟩
        · obtain ⟨head, tail, written, -, visible⟩ := (shows_escapeChar quote).head
          exact ⟨head, _, by rw [escapeLines, if_neg quote, if_neg notBreak, written]; rfl, visible⟩
  rw [openLines_eq]
  change scanBasicLines .text (dropFirstBreak (setOff text ++ _)) = _
  rw [dropFirstBreak_setOff head, scanBasicLines_escapeLines behind]

/-- A text that is quoted as it is over several lines is scanned as the text. -/
theorem scanString?_literalLines {first : Char} (behind : first ≠ '\'') {text : List Char}
    (visible : ∀ c ∈ text, needsEscape c = false) (short : longestRun '\'' 0 text ≤ 2)
    (rest : List Char) :
    scanString? (openLines '\'' text ++ (text ++ '\'' :: '\'' :: '\'' :: first :: rest)) =
      some (text, first :: rest) := by
  have head (noBreak : '\n' ∉ text) :
      ∃ head tail, text ++ '\'' :: '\'' :: '\'' :: first :: rest = head :: tail ∧
        isControl head = false := by
    match text with
    | [] => exact ⟨_, _, rfl, rfl⟩
    | c :: others =>
        have notBreak : c ≠ '\n' := by rintro rfl; exact noBreak List.mem_cons_self
        have visible := visible c List.mem_cons_self
        exact ⟨c, _, rfl, by simpa [needsEscape, notBreak] using visible⟩
  rw [openLines_eq]
  change scanLiteralLines (dropFirstBreak (setOff text ++ _)) = _
  rw [dropFirstBreak_setOff head, scanLiteralLines_append behind visible short]

/-- A text is scanned as it was written, whatever form was chosen for it. -/
theorem scanString?_writeText {first : Char} (notDouble : first ≠ '"') (notSingle : first ≠ '\'')
    (text rest : List Char) :
    scanString? (writeText text ++ first :: rest) = some (text, first :: rest) := by
  have onLine := scanString?_escapeLine notDouble text rest
  have onLines := scanString?_escapeLines notDouble text rest
  have visible (noControls : text.any needsEscape = false) :
      ∀ c ∈ text, needsEscape c = false := by
    simpa only [List.any_eq_false, Bool.not_eq_true] using noControls
  unfold writeText
  dsimp only
  split_ifs with plain literal plainLines literalLines breaks
  · simpa using onLine
  · simp only [Bool.and_eq_true, Bool.not_eq_true', decide_eq_true_eq] at literal
    obtain ⟨⟨noControls, noQuotes⟩, noBreaks⟩ := literal
    have noControl : ∀ c ∈ text, isControl c = false := by
      intro c member
      have notBreak : c ≠ '\n' := by
        rintro rfl
        exact absurd (List.contains_iff_mem.mpr member) (Bool.eq_false_iff.mp noBreaks)
      simpa [needsEscape, notBreak] using visible noControls c member
    have noQuote := not_mem_of_longestRun_eq_zero noQuotes
    simpa using scanString?_literal notSingle noControl noQuote rest
  · simpa using onLines
  · simp only [Bool.and_eq_true, Bool.not_eq_true', decide_eq_true_eq] at literalLines
    obtain ⟨noControls, short⟩ := literalLines
    simpa using scanString?_literalLines notSingle (visible noControls) short rest
  · simpa using onLines
  · simpa using onLine

end ProtocolHeaders.Toml
