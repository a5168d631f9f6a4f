import Mathlib.Data.List.Chain
import ProtocolHeaders.Header.DocComment
import ProtocolHeaders.Proofs.Text.Lines
import ProtocolHeaders.Proofs.Text.Trimming

/-!
# Comments end where they are meant to

A documentation comment consists of an opening line, one line for each line of the text from the
first that is not blank to the last, and a closing line. Whatever the text is, the only end of a
block comment in it is the one in the closing line, so the text cannot get out of its comment.
-/

namespace ProtocolHeaders.Header

open Text (isBlank onlyBlanks trimEnd)

/-! ## Texts without the end of a comment -/

/-- Nowhere in a text a star stands directly before a slash. -/
def IsTerminatorFree (text : List Char) : Prop :=
  text.IsChain fun c next => ¬ (c = '*' ∧ next = '/')

instance (text : List Char) : Decidable (IsTerminatorFree text) :=
  inferInstanceAs (Decidable (text.IsChain _))

section

variable {text front back : List Char} {c : Char}

/-- A text without the end of a comment cannot be divided at one. -/
theorem isTerminatorFree_iff :
    IsTerminatorFree text ↔ ∀ front back, text ≠ front ++ '*' :: '/' :: back := by
  rw [IsTerminatorFree, List.isChain_iff_forall_rel_of_append_cons_cons]
  constructor
  · intro free front back same
    exact free same ⟨rfl, rfl⟩
  · rintro free c next front back same ⟨rfl, rfl⟩
    exact free front back same

/-- A further character in front makes no end of a comment unless it is a star before a slash. -/
theorem isTerminatorFree_cons :
    IsTerminatorFree (c :: text) ↔
      (c = '*' → text.head? ≠ some '/') ∧ IsTerminatorFree text := by
  rw [IsTerminatorFree, List.isChain_cons]
  refine and_congr_left fun _ => ?_
  cases text with
  | nil => simp
  | cons next others => simp

/-- Two texts may be put together if no end of a comment comes about at the seam. -/
theorem IsTerminatorFree.append (frontFree : IsTerminatorFree front)
    (backFree : IsTerminatorFree back) (seam : '*' ∈ front.getLast? -> '/' ∉ back.head?) :
    IsTerminatorFree (front ++ back) := by
  refine List.isChain_append.mpr ⟨frontFree, backFree, ?_⟩
  rintro c isLast next isHead ⟨rfl, rfl⟩
  exact seam isLast isHead

/-- A text without stars has no end of a comment. -/
theorem isTerminatorFree_of_notMem (noStar : '*' ∉ text) : IsTerminatorFree text := by
  rw [isTerminatorFree_iff]
  rintro front back rfl
  exact noStar (by simp)

/-- A line break keeps a star apart from a slash. -/
theorem isTerminatorFree_flatMap_break {parts : List (List Char)}
    (free : ∀ part ∈ parts, IsTerminatorFree part) :
    IsTerminatorFree (parts.flatMap (· ++ ['\n'])) := by
  induction parts with
  | nil => exact List.isChain_nil
  | cons part others inductionHypothesis =>
      rw [List.forall_mem_cons] at free
      rw [List.flatMap_cons, List.append_assoc, List.singleton_append]
      have behind : IsTerminatorFree ('\n' :: others.flatMap (· ++ ['\n'])) :=
        isTerminatorFree_cons.mpr ⟨nofun, inductionHypothesis free.2⟩
      exact free.1.append behind (fun _ => by simp)

/-- An end of a comment between two texts without one is the only one. -/
theorem eq_of_append_terminator {content rest : List Char} (free : IsTerminatorFree content)
    (freeRest : IsTerminatorFree rest)
    (same : content ++ '*' :: '/' :: rest = front ++ '*' :: '/' :: back) : back = rest := by
  rw [isTerminatorFree_iff] at free freeRest
  rcases List.append_eq_append_iff.mp same with ⟨more, -, behind⟩ | ⟨more, inside, behind⟩
  · match more, behind with
    | [], behind => exact (List.cons.inj (List.cons.inj behind).2).2.symm
    | [_], behind => cases (List.cons.inj (List.cons.inj behind).2).1
    | _ :: _ :: more, behind =>
        exact absurd (List.cons.inj (List.cons.inj behind).2).2 (freeRest more back)
  · match more, behind with
    | [], behind => exact (List.cons.inj (List.cons.inj behind).2).2
    | [_], behind => cases (List.cons.inj (List.cons.inj behind).2).1
    | _ :: _ :: more, behind =>
        obtain ⟨isStar, behind⟩ := List.cons.inj behind
        obtain ⟨rfl, -⟩ := List.cons.inj behind
        subst isStar
        exact absurd inside (free front more)

end

/-! ## Lines of a comment -/

section

variable {text line indent : List Char} {c : Char}

/-- A text begins as before when the ends of comments in it are broken up. -/
theorem head?_breakTerminators (text : List Char) :
    (breakTerminators text).head? = text.head? := by
  fun_cases breakTerminators text <;> rfl

/-- Breaking up the ends of comments leaves none. -/
theorem isTerminatorFree_breakTerminators (text : List Char) :
    IsTerminatorFree (breakTerminators text) := by
  fun_induction breakTerminators text with
  | case1 others inductionHypothesis =>
      simp [isTerminatorFree_cons, inductionHypothesis]
  | case2 c others notTerminator inductionHypothesis =>
      rw [isTerminatorFree_cons, head?_breakTerminators]
      refine ⟨fun isStar isSlash => ?_, inductionHypothesis⟩
      obtain ⟨more, rfl⟩ := List.head?_eq_some_iff.mp isSlash
      exact notTerminator more isStar rfl
  | case3 => exact List.isChain_nil

/-- A text without the end of a comment stays as it is. -/
theorem breakTerminators_eq_self (free : IsTerminatorFree text) : breakTerminators text = text := by
  fun_induction breakTerminators text with
  | case1 others inductionHypothesis => exact absurd rfl (isTerminatorFree_iff.mp free [] others)
  | case2 c others notTerminator inductionHypothesis =>
      rw [inductionHypothesis (isTerminatorFree_cons.mp free).2]
  | case3 => rfl

/-- A text ends as before when the ends of comments in it are broken up. -/
theorem getLast?_breakTerminators (text : List Char) :
    (breakTerminators text).getLast? = text.getLast? := by
  fun_induction breakTerminators text with
  | case1 others inductionHypothesis => simp [List.getLast?_cons, inductionHypothesis]
  | case2 c others notTerminator inductionHypothesis =>
      rw [List.getLast?_cons, List.getLast?_cons, inductionHypothesis]
  | case3 => rfl

/-- Only spaces are added. -/
theorem mem_of_mem_breakTerminators (notSpace : c ≠ ' ') (listed : c ∈ breakTerminators text) :
    c ∈ text := by
  fun_induction breakTerminators text with
  | case1 others inductionHypothesis =>
      simp only [List.mem_cons, notSpace, false_or] at listed ⊢
      exact listed.imp_right (Or.imp_right inductionHypothesis)
  | case2 d others notTerminator inductionHypothesis =>
      rw [List.mem_cons] at listed ⊢
      exact listed.imp_right inductionHypothesis
  | case3 => exact listed

/-- What is shown of a line that is not blank does not end in a blank. -/
theorem exists_getLast?_docLineChars (notBlank : onlyBlanks line = false) :
    ∃ c ∈ (docLineChars line).getLast?, isBlank c = false := by
  have notNil : trimEnd line ≠ [] := by
    rw [ne_eq, Text.trimEnd_eq_nil_iff, notBlank]
    exact Bool.false_ne_true
  have isLast := List.getLast?_eq_some_getLast notNil
  refine ⟨(trimEnd line).getLast notNil, ?_, Text.isBlank_getLast?_trimEnd isLast⟩
  rw [docLineChars, getLast?_breakTerminators]
  exact isLast

/-- A line is blank in a comment if it was before. -/
theorem onlyBlanks_docLineChars (line : List Char) :
    onlyBlanks (docLineChars line) = onlyBlanks line := by
  cases blank : onlyBlanks line with
  | true =>
      rw [docLineChars, Text.trimEnd_eq_nil_iff.mpr blank]
      rfl
  | false =>
      obtain ⟨c, last, notBlank⟩ := exists_getLast?_docLineChars blank
      rw [Bool.eq_false_iff, ne_eq, Text.onlyBlanks_iff]
      intro allBlank
      rw [allBlank c (List.mem_of_getLast? last)] at notBlank
      cases notBlank

/-- The line of a comment for a line of the text, without its break. -/
def commentText (indent line : List Char) : List Char :=
  indent ++ [' ', '*'] ++ if onlyBlanks line then [] else ' ' :: docLineChars line

/-- A line of a comment is its text with a line break. -/
theorem commentLine_eq (indent line : List Char) :
    commentLine indent line = commentText indent line ++ ['\n'] := by
  rw [commentLine, commentText, onlyBlanks_docLineChars]
  split <;> simp

/-- No line of a comment ends the comment. -/
theorem isTerminatorFree_commentText (noStar : '*' ∉ indent) (line : List Char) :
    IsTerminatorFree (commentText indent line) := by
  have shown : IsTerminatorFree
      ([' ', '*'] ++ if onlyBlanks line then [] else ' ' :: docLineChars line) := by
    split
    · decide
    · exact IsTerminatorFree.append (by decide)
        (isTerminatorFree_cons.mpr ⟨nofun, isTerminatorFree_breakTerminators _⟩)
        (fun _ => by simp)
  rw [commentText, List.append_assoc]
  exact (isTerminatorFree_of_notMem noStar).append shown (fun _ => by simp)

/-- A line of a comment stays on one line. -/
theorem notMem_commentText (noBreak : '\n' ∉ indent) (oneLine : '\n' ∉ line) :
    '\n' ∉ commentText indent line := by
  have shown : '\n' ∉ docLineChars line := by
    intro listed
    have inTrimmed := mem_of_mem_breakTerminators (by decide) listed
    exact oneLine (Text.trimEnd_prefix.subset inTrimmed)
  rw [commentText]
  split <;> simp [noBreak, shown]

/-- No line of a comment ends in a blank. -/
theorem isBlank_getLast?_commentText (last : c ∈ (commentText indent line).getLast?) :
    isBlank c = false := by
  rw [commentText] at last
  split at last
  · rw [List.append_nil, List.getLast?_append] at last
    cases last
    decide
  · rename_i someText
    obtain ⟨d, isLast, notBlank⟩ := exists_getLast?_docLineChars (eq_false_of_ne_true someText)
    rw [List.getLast?_append, List.getLast?_cons, isLast] at last
    cases last
    exact notBlank

end

/-! ## Whole comments -/

/-- The lines of a comment for some lines of a text, without their breaks. -/
def commentLines (indent : List Char) (body : List (List Char)) : List (List Char) :=
  (indent ++ ['/', '*', '*']) :: body.map (commentText indent) ++ [indent ++ [' ', '*', '/']]

/-- A text is a block comment that has one line for each of some lines between its opening and
its closing line. -/
structure IsBlockComment (indent : List Char) (body : List (List Char)) (block : List Char) :
    Prop where
  opening : indent ++ ['/', '*', '*'] <+: block
  closing : ['*', '/', '\n'] <:+ block
  /-- The comment does not end before its closing line. -/
  only : ∀ front back, block = front ++ '*' :: '/' :: back -> back = ['\n']
  layout : block = (commentLines indent body).flatMap (· ++ ['\n'])
  oneLine : ∀ line ∈ commentLines indent body, '\n' ∉ line
  trimmed : ∀ line ∈ commentLines indent body, ∀ c ∈ line.getLast?, isBlank c = false

section

variable {text indent : List Char} {body : List (List Char)}

/-- The lines that are documented are those of the text, trimmed of blank ones. -/
theorem documentedLines_eq_iff :
    documentedLines text = body ↔ Text.IsTrimmed onlyBlanks (Text.lines text) body :=
  Text.rdropWhile_dropWhile_eq_iff

/-- A text has no comment if all its lines are blank. -/
theorem docCommentChars_eq_nil_iff (text indent : List Char) :
    docCommentChars text indent = [] ↔ ∀ line ∈ Text.lines text, onlyBlanks line = true := by
  rw [← Text.isTrimmed_nil_iff, ← documentedLines_eq_iff]
  cases documented : documentedLines text with
  | nil => simp [docCommentChars, documented]
  | cons line others => simp [docCommentChars, documented]

/-- A comment is its lines, each with a break behind it. -/
theorem docCommentChars_eq_flatMap (someLine : documentedLines text ≠ []) (indent : List Char) :
    docCommentChars text indent =
      (commentLines indent (documentedLines text)).flatMap (· ++ ['\n']) := by
  have shown : commentLine indent = fun line => commentText indent line ++ ['\n'] :=
    funext (commentLine_eq indent)
  rw [docCommentChars, if_neg (by simpa using someLine), commentLines]
  simp [List.flatMap_map, shown]

/-- In front of the end in the closing line a comment has none. -/
theorem isTerminatorFree_commentLines (noStar : '*' ∉ indent) (noSlash : '/' ∉ indent)
    (body : List (List Char)) :
    IsTerminatorFree
      (((indent ++ ['/', '*', '*']) :: body.map (commentText indent)).flatMap (· ++ ['\n']) ++
        (indent ++ [' '])) := by
  have starAtNoEnd : '*' ∉ indent.getLast? := fun isLast => noStar (List.mem_of_getLast? isLast)
  have lines : ∀ line ∈ (indent ++ ['/', '*', '*']) :: body.map (commentText indent),
      IsTerminatorFree line := by
    rw [List.forall_mem_cons, List.forall_mem_map]
    exact ⟨(isTerminatorFree_of_notMem noStar).append (by decide) (absurd · starAtNoEnd),
      fun line _ => isTerminatorFree_commentText noStar line⟩
  have closing : '*' ∉ indent ++ [' '] := by simp [noStar]
  refine (isTerminatorFree_flatMap_break lines).append (isTerminatorFree_of_notMem closing)
    fun _ isSlash => ?_
  have slash := List.mem_of_head? isSlash
  simp [noSlash] at slash

/-- What holds of the lines of a comment holds of its opening, of each line of the text and of its
closing. -/
theorem forall_mem_commentLines {holds : List Char -> Prop} :
    (∀ line ∈ commentLines indent body, holds line) ↔
      holds (indent ++ ['/', '*', '*']) ∧ (∀ line ∈ body, holds (commentText indent line)) ∧
        holds (indent ++ [' ', '*', '/']) := by
  rw [commentLines, List.cons_append, List.forall_mem_cons, List.forall_mem_append,
    List.forall_mem_map, List.forall_mem_singleton]

/-- What is written for lines of a text is a block comment. -/
theorem isBlockComment_commentLines (spaces : ∀ c ∈ indent, c = ' ')
    (oneLine : ∀ line ∈ body, '\n' ∉ line) :
    IsBlockComment indent body ((commentLines indent body).flatMap (· ++ ['\n'])) := by
  have noBreak : '\n' ∉ indent := fun listed => absurd (spaces _ listed) (by decide)
  have noStar : '*' ∉ indent := fun listed => absurd (spaces _ listed) (by decide)
  have noSlash : '/' ∉ indent := fun listed => absurd (spaces _ listed) (by decide)
  have free := isTerminatorFree_commentLines noStar noSlash body
  have ends : (commentLines indent body).flatMap (· ++ ['\n']) =
      ((indent ++ ['/', '*', '*']) :: body.map (commentText indent)).flatMap (· ++ ['\n']) ++
        (indent ++ [' ']) ++ '*' :: '/' :: ['\n'] := by
    simp [commentLines]
  refine ⟨?opening, ?closing, fun front back same => ?only, rfl, ?oneLine, ?trimmed⟩
  case opening =>
    rw [commentLines, List.cons_append, List.flatMap_cons, List.append_assoc]
    exact List.prefix_append _ _
  case closing =>
    rw [ends]
    exact List.suffix_append _ _
  case only =>
    exact eq_of_append_terminator free (by decide) (ends.symm.trans same)
  case oneLine =>
    rw [forall_mem_commentLines]
    exact ⟨by simp [noBreak], fun line listed => notMem_commentText noBreak (oneLine line listed),
      by simp [noBreak]⟩
  case trimmed =>
    rw [forall_mem_commentLines]
    refine ⟨?_, fun line _ c => isBlank_getLast?_commentText, ?_⟩
    · rw [List.getLast?_append]
      rintro _ ⟨⟩
      decide
    · rw [List.getLast?_append]
      rintro _ ⟨⟩
      decide

end

/-- Documentation never gets out of its comment. For every text and every indent of spaces, there
is no comment exactly if all lines of the text are blank. Otherwise it opens behind the indent,
its only end is directly in front of its final line break, and between its opening and its closing
line it has one line for each line of the text from the first that is not blank to the last. No
line of it ends in a blank. -/
theorem documentation_stays_in_comment {indent : String} (spaces : ∀ c ∈ indent.toList, c = ' ')
    (text : String) :
    (docComment text indent = "" ↔ ∀ line ∈ Text.lines text.toList, onlyBlanks line = true) ∧
      (docComment text indent ≠ "" ->
        ∃ body, Text.IsTrimmed onlyBlanks (Text.lines text.toList) body ∧
          IsBlockComment indent.toList body (docComment text indent).toList) := by
  have isEmpty_iff : docComment text indent = "" ↔
      ∀ line ∈ Text.lines text.toList, onlyBlanks line = true := by
    rw [← docCommentChars_eq_nil_iff text.toList indent.toList, docComment,
      String.ofList_eq_empty_iff]
  refine ⟨isEmpty_iff, fun notEmpty => ?_⟩
  have someLine : documentedLines text.toList ≠ [] := by
    intro isNil
    rw [documentedLines_eq_iff, Text.isTrimmed_nil_iff] at isNil
    exact notEmpty (isEmpty_iff.mpr isNil)
  have trimmed := documentedLines_eq_iff.mp (Eq.refl (documentedLines text.toList))
  refine ⟨_, trimmed, ?_⟩
  rw [docComment, String.toList_ofList, docCommentChars_eq_flatMap someLine]
  refine isBlockComment_commentLines spaces fun line listed => ?_
  exact Text.notMem_of_mem_lines (trimmed.subset listed)

/-- A text with two ends of comments, between blank lines of all kinds. -/
def globText : String := "\n**/*.rs \r\n\n*/\t\n \n"

/-- A text with an end of a comment in it stays in its comment all the same. -/
theorem glob_text_stays_in_comment :
    (∀ c ∈ "  ".toList, c = ' ') ∧ docComment globText "  " ≠ "" ∧
      ∃ body, Text.IsTrimmed onlyBlanks (Text.lines globText.toList) body ∧
        IsBlockComment "  ".toList body (docComment globText "  ").toList := by
  have spaces : ∀ c ∈ "  ".toList, c = ' ' := by simp
  have notEmpty : docComment globText "  " ≠ "" := by decide +kernel
  exact ⟨spaces, notEmpty, (documentation_stays_in_comment spaces globText).2 notEmpty⟩

end ProtocolHeaders.Header
