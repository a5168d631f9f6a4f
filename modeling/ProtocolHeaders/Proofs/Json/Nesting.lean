import ProtocolHeaders.Proofs.Json.Strings

/-!
# How deeply brackets are nested

The nesting of a text is the largest number of lists and objects that are open at once.
Brackets inside strings do not count. What a writer writes closes all that it opens, so the
nesting of a list or an object is one more than that of its members.
-/

namespace ProtocolHeaders.Json

/-- Where in a text a character stands. -/
inductive Place where
  | outside
  | string
  /-- Behind a backslash in a string. -/
  | escape
deriving Repr, DecidableEq

/-- The largest number of open brackets in a text, from a place on at which some are open. -/
def nestingFrom : Place -> Nat -> List Char -> Nat
  | _, opened, [] => opened
  | .outside, opened, c :: rest =>
      if c = '"' then nestingFrom .string opened rest
      else if c = '[' ∨ c = '\x7b' then nestingFrom .outside (opened + 1) rest
      else if c = ']' ∨ c = '\x7d' then max opened (nestingFrom .outside (opened - 1) rest)
      else nestingFrom .outside opened rest
  | .string, opened, c :: rest =>
      if c = '"' then nestingFrom .outside opened rest
      else if c = '\\' then nestingFrom .escape opened rest
      else nestingFrom .string opened rest
  | .escape, opened, _ :: rest => nestingFrom .string opened rest

/-- The largest number of lists and objects that are open at once in a text. -/
def nesting (text : List Char) : Nat :=
  nestingFrom .outside 0 text

example : nesting "[[],\"[[\\\"[\",[[]]]".toList = 3 := by decide

/-- A text closes what it opens, wherever it stands. -/
def IsBalanced (text : List Char) : Prop :=
  ∀ opened rest, nestingFrom .outside opened (text ++ rest) =
    max (opened + nesting text) (nestingFrom .outside opened rest)

/-- The brackets that are open at the start count. -/
theorem le_nestingFrom (place : Place) (opened : Nat) (text : List Char) :
    opened ≤ nestingFrom place opened text := by
  fun_induction nestingFrom place opened text <;> omega

/-- A text is balanced with a nesting if it is so from every place. -/
theorem isBalanced_of_forall {text : List Char} {depth : Nat}
    (balanced : ∀ opened rest, nestingFrom .outside opened (text ++ rest) =
      max (opened + depth) (nestingFrom .outside opened rest)) :
    IsBalanced text ∧ nesting text = depth := by
  have sameNesting : nesting text = depth := by
    have whole := balanced 0 []
    rw [List.append_nil] at whole
    rw [nesting, whole, nestingFrom]
    omega
  refine ⟨?_, sameNesting⟩
  rw [IsBalanced, sameNesting]
  exact balanced

/-- What opens nothing does not change the nesting. -/
theorem isBalanced_of_flat {text : List Char}
    (flat : ∀ opened rest, nestingFrom .outside opened (text ++ rest) =
      nestingFrom .outside opened rest) :
    IsBalanced text ∧ nesting text = 0 := by
  refine isBalanced_of_forall fun opened rest => ?_
  have := le_nestingFrom .outside opened rest
  rw [flat]
  omega

/-- Two balanced texts are balanced together, and nest as deep as the deeper one. -/
theorem IsBalanced.append {first second : List Char} (firstBalanced : IsBalanced first)
    (secondBalanced : IsBalanced second) :
    IsBalanced (first ++ second) ∧
      nesting (first ++ second) = max (nesting first) (nesting second) := by
  refine isBalanced_of_forall fun opened rest => ?_
  rw [List.append_assoc, firstBalanced, secondBalanced]
  omega

/-- Brackets around a balanced text nest it one deeper. -/
theorem IsBalanced.enclose {inner : List Char} (balanced : IsBalanced inner)
    {opener closer : Char} (opens : opener = '[' ∨ opener = '\x7b')
    (closes : closer = ']' ∨ closer = '\x7d') :
    IsBalanced (opener :: inner ++ [closer]) ∧
      nesting (opener :: inner ++ [closer]) = nesting inner + 1 := by
  refine isBalanced_of_forall fun opened rest => ?_
  have openerStep : ∀ text, nestingFrom .outside opened (opener :: text) =
      nestingFrom .outside (opened + 1) text := by
    intro text
    rcases opens with rfl | rfl <;> rfl
  have closerStep : nestingFrom .outside (opened + 1) (closer :: rest) =
      max (opened + 1) (nestingFrom .outside opened rest) := by
    rcases closes with rfl | rfl <;> rfl
  rw [List.cons_append, List.cons_append, List.append_assoc, openerStep, balanced,
    List.singleton_append, closerStep]
  omega

/-! ## Parts that open nothing -/

/-- The characters that change neither the place nor the number of open brackets. -/
def IsPlain (c : Char) : Prop :=
  c ≠ '"' ∧ ¬ (c = '[' ∨ c = '\x7b') ∧ ¬ (c = ']' ∨ c = '\x7d')

instance : DecidablePred IsPlain := fun _ => inferInstanceAs (Decidable (_ ∧ _))

/-- Plain characters do not count. -/
theorem nestingFrom_of_plain {text : List Char} (plain : ∀ c ∈ text, IsPlain c) (opened : Nat)
    (rest : List Char) :
    nestingFrom .outside opened (text ++ rest) = nestingFrom .outside opened rest := by
  induction text with
  | nil => rfl
  | cons c others inductionHypothesis =>
      obtain ⟨isPlain, othersPlain⟩ := List.forall_mem_cons.mp plain
      obtain ⟨notQuote, notOpener, notCloser⟩ := isPlain
      rw [List.cons_append, nestingFrom, if_neg notQuote, if_neg notOpener, if_neg notCloser]
      exact inductionHypothesis othersPlain

/-- A plain text is balanced without nesting. -/
theorem isBalanced_of_plain {text : List Char} (plain : ∀ c ∈ text, IsPlain c) :
    IsBalanced text ∧ nesting text = 0 :=
  isBalanced_of_flat (nestingFrom_of_plain plain)

/-- That a text is plain can be computed. -/
theorem isBalanced_of_all_plain {text : List Char}
    (plain : text.all (fun c => decide (IsPlain c)) = true) :
    IsBalanced text ∧ nesting text = 0 :=
  isBalanced_of_plain fun c member => of_decide_eq_true (List.all_eq_true.mp plain c member)

/-- An empty text is balanced without nesting. -/
theorem isBalanced_nil : IsBalanced [] ∧ nesting [] = 0 :=
  isBalanced_of_plain nofun

/-- Spaces are plain. -/
theorem isPlain_of_isSpace {c : Char} (space : isSpace c = true) : IsPlain c := by
  simp only [isSpace, Bool.or_eq_true, beq_iff_eq] at space
  rcases space with ((rfl | rfl) | rfl) | rfl <;> decide

/-- An escaped character stays inside its string. -/
theorem nestingFrom_escapeChar (c : Char) (opened : Nat) (rest : List Char) :
    nestingFrom .string opened (escapeChar c ++ rest) = nestingFrom .string opened rest := by
  rcases escapeChar_cases c with ⟨letter, code, written, isCode, -⟩ |
    ⟨written, notQuote, notBackslash, -⟩
  · rw [written]
    change nestingFrom .string opened (code ++ rest) = _
    clear written
    induction code with
    | nil => rfl
    | cons digit digits inductionHypothesis =>
        obtain ⟨isDigit, areDigits⟩ := List.forall_mem_cons.mp isCode
        rw [List.cons_append, nestingFrom, if_neg isDigit.1, if_neg isDigit.2]
        exact inductionHypothesis areDigits
  · rw [written, List.singleton_append, nestingFrom, if_neg notQuote, if_neg notBackslash]

/-- A string opens nothing, whatever stands in it. -/
theorem isBalanced_writeString (value : String) :
    IsBalanced (writeString value) ∧ nesting (writeString value) = 0 := by
  refine isBalanced_of_flat fun opened rest => ?_
  rw [writeString_append, nestingFrom, if_pos rfl]
  induction value.toList with
  | nil => rfl
  | cons c others inductionHypothesis =>
      rw [List.flatMap_cons, List.append_assoc, nestingFrom_escapeChar]
      exact inductionHypothesis

end ProtocolHeaders.Json
