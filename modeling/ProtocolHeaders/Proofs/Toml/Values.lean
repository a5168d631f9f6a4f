import ProtocolHeaders.Proofs.Toml.Keys
import ProtocolHeaders.Toml.Reader

/-!
# Values are scanned as they were written

The values that are written are texts, flags and lists of texts. Each of them begins with a
character that matters, and is given back with whatever stands behind it.
-/

namespace ProtocolHeaders.Toml

/-! ## Texts and flags -/

/-- A text begins with a quote, whatever form it has. -/
theorem writeText_head (text : List Char) :
    (∃ others, writeText text = '"' :: others) ∨ (∃ others, writeText text = '\'' :: others) := by
  unfold writeText
  dsimp only
  split_ifs
  · exact .inl ⟨_, rfl⟩
  · exact .inr ⟨_, rfl⟩
  · exact .inl ⟨_, by rw [openLines_eq]; rfl⟩
  · exact .inr ⟨_, by rw [openLines_eq]; rfl⟩
  · exact .inl ⟨_, by rw [openLines_eq]; rfl⟩
  · exact .inl ⟨_, rfl⟩

/-- A written text begins with a quote, which is visible and closes no list. -/
theorem writeText_visible (text : List Char) :
    ∃ first others, writeText text = first :: others ∧ IsVisible first ∧ first ≠ ']' := by
  rcases writeText_head text with ⟨others, written⟩ | ⟨others, written⟩
  · exact ⟨_, others, written, by decide, by decide⟩
  · exact ⟨_, others, written, by decide, by decide⟩

/-- A written text is scanned as itself if no quote follows. -/
theorem scanValue_text {first : Char} (notDouble : first ≠ '"') (notSingle : first ≠ '\'')
    (bound depth : Nat) (text : String) (rest : List Char) :
    scanValue bound depth (writeText text.toList ++ first :: rest) =
      some (.text text, first :: rest) := by
  have scanned := scanString?_writeText notDouble notSingle text.toList rest
  rcases writeText_head text.toList with ⟨others, written⟩ | ⟨others, written⟩
  · rw [written, List.cons_append] at scanned ⊢
    rw [scanValue.eq_1, scanned]
    change some (Value.text (String.ofList text.toList), _) = _
    rw [String.ofList_toList]
  · rw [written, List.cons_append] at scanned ⊢
    rw [scanValue.eq_2, scanned]
    change some (Value.text (String.ofList text.toList), _) = _
    rw [String.ofList_toList]

/-- A flag as a value. -/
def writeFlag (value : Bool) : List Char :=
  (if value then "true" else "false").toList

/-- A written flag is scanned as itself up to the end of its line. -/
theorem scanValue_flag (bound : Nat) (value : Bool) (rest : List Char) :
    scanValue bound nestingLimit (writeFlag value ++ '\n' :: rest) =
      some (.flag value, '\n' :: rest) := by
  cases value with
  | false => rfl
  | true => rfl

/-! ## Lists of texts -/

section Items

variable {item : List Char -> Option (Value × List Char)} {fuel : Nat}

/-- A list ends at its bracket. -/
theorem scanItems_end {text rest : List Char}
    (skipped : skipLines false text = some (']' :: rest)) :
    scanItems item (fuel + 1) text = some ([], rest) := by
  rw [scanItems, skipped]
  rfl

/-- Behind an item stands a comma and the others, or the item was the last one. -/
theorem scanItems_of_item {text others rest : List Char} {first : Char} {value : Value}
    (skipped : skipLines false text = some (first :: others)) (notEnd : first ≠ ']')
    (read : item (first :: others) = some (value, rest)) :
    scanItems item (fuel + 1) text =
      (skipLines false rest).bind fun behind =>
        match behind with
        | ',' :: rest => do
            let (others, rest) <- scanItems item fuel rest
            return (value :: others, rest)
        | ']' :: rest => return ([value], rest)
        | _ => none := by
  rw [scanItems, skipped, Option.bind_eq_bind, Option.bind_some]
  split
  · rename_i same
    exact absurd (List.cons.inj same).1 notEnd
  · rw [read]
    rfl

/-- An item with a comma behind it is followed by the others. -/
theorem scanItems_further {text others rest left : List Char} {first : Char} {value : Value}
    {values : List Value} (skipped : skipLines false text = some (first :: others))
    (notEnd : first ≠ ']') (read : item (first :: others) = some (value, ',' :: rest))
    (tail : scanItems item fuel rest = some (values, left)) :
    scanItems item (fuel + 1) text = some (value :: values, left) := by
  rw [scanItems_of_item skipped notEnd read, skipLines_visible (by decide), Option.bind_some]
  change ((scanItems item fuel rest).bind fun tail => some (value :: tail.1, tail.2)) = _
  rw [tail]
  rfl

/-- An item with the bracket behind it is the last one. -/
theorem scanItems_last {text others rest : List Char} {first : Char} {value : Value}
    (skipped : skipLines false text = some (first :: others)) (notEnd : first ≠ ']')
    (read : item (first :: others) = some (value, ']' :: rest)) :
    scanItems item (fuel + 1) text = some ([value], rest) := by
  rw [scanItems_of_item skipped notEnd read, skipLines_visible (by decide)]
  rfl

end Items

/-- The line of an item of a list with more than one. -/
def itemLine (item : String) : List Char :=
  "    ".toList ++ writeText item.toList ++ [',', '\n']

/-- The items of a list are scanned line by line, from the end of the line before. -/
theorem scanItems_itemLines (bound depth : Nat) {items : List String} {fuel : Nat}
    (enough : items.length < fuel) (rest : List Char) :
    scanItems (scanValue bound depth) fuel ('\n' :: (items.flatMap itemLine ++ ']' :: rest)) =
      some (items.map .text, rest) := by
  induction items generalizing fuel with
  | nil =>
      obtain _ | fuel := fuel
      · cases enough
      · exact scanItems_end rfl
  | cons item others inductionHypothesis =>
      obtain _ | fuel := fuel
      · cases enough
      have tail := inductionHypothesis (Nat.lt_of_succ_lt_succ enough)
      have read := scanValue_text (by decide : ',' ≠ '"') (by decide) bound depth item
        ('\n' :: (others.flatMap itemLine ++ ']' :: rest))
      obtain ⟨first, written, spelled, visible, notEnd⟩ := writeText_visible item.toList
      rw [spelled, List.cons_append] at read
      refine scanItems_further ?_ notEnd read tail
      have skipped := skipLines_visible visible
        (written ++ ',' :: '\n' :: (others.flatMap itemLine ++ ']' :: rest))
      rw [← skipped, List.flatMap_cons, itemLine, spelled]
      simp only [List.append_assoc, List.cons_append, List.nil_append]
      rfl

/-- Each item takes at least one character. -/
theorem length_le_flatMap_itemLine (items : List String) :
    items.length ≤ (items.flatMap itemLine).length := by
  induction items with
  | nil => exact Nat.le_refl 0
  | cons item others inductionHypothesis =>
      rw [List.flatMap_cons, List.length_append, List.length_cons]
      have filled : 1 ≤ (itemLine item).length := by simp [itemLine]
      omega

/-- A written list is longer than the number of its items. -/
theorem length_lt_writeTexts (items : List String) :
    items.length < (writeTexts items).length := by
  match items with
  | [] => decide
  | [item] => simp [writeTexts]
  | first :: second :: others =>
      have least := length_le_flatMap_itemLine (first :: second :: others)
      have whole : (writeTexts (first :: second :: others)).length =
          ((first :: second :: others).flatMap itemLine).length + 3 := by
        change ('[' :: '\n' :: ((first :: second :: others).flatMap itemLine ++ [']'])).length = _
        simp only [List.length_cons, List.length_append, List.length_nil]
      omega

/-- A list of texts is scanned as it was written, if it has fewer items than there may be. -/
theorem scanValue_texts {bound : Nat} (depth : Nat) {items : List String}
    (enough : items.length < bound) (rest : List Char) :
    scanValue bound (depth + 1) (writeTexts items ++ rest) =
      some (.list (items.map .text), rest) := by
  have listed {text : List Char}
      (scanned : scanItems (scanValue bound depth) bound text = some (items.map .text, rest)) :
      scanValue bound (depth + 1) ('[' :: text) = some (.list (items.map .text), rest) := by
    rw [scanValue, scanned]
    rfl
  obtain _ | bound := bound
  · cases enough
  match items with
  | [] => exact listed (scanItems_end rfl)
  | [item] =>
      have read := scanValue_text (by decide : ']' ≠ '"') (by decide) (bound + 1) depth item rest
      obtain ⟨first, written, spelled, visible, notEnd⟩ := writeText_visible item.toList
      rw [writeTexts, List.cons_append, List.cons_append, List.append_assoc, List.singleton_append]
      apply listed
      rw [spelled, List.cons_append] at read ⊢
      exact scanItems_last (skipLines_visible visible _) notEnd read
  | first :: second :: others =>
      have scanned := scanItems_itemLines (bound + 1) depth enough rest
      change scanValue _ _ ('[' :: '\n' ::
        ((first :: second :: others).flatMap itemLine ++ [']']) ++ rest) = _
      rw [List.cons_append, List.cons_append, List.append_assoc]
      exact listed scanned

end ProtocolHeaders.Toml
