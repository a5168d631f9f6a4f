import ProtocolHeaders.Header.Artifact
import ProtocolHeaders.Proofs.Cleanup.Survivors
import ProtocolHeaders.Proofs.Header.DeclarationTexts
import ProtocolHeaders.Proofs.Header.Tidy

/-!
# Texts that are sent

The values of string enumerations and the methods of messages are put between quotes as they are,
not escaped as the values of literal fields are. Each of them stands on one line of its header. It
is read back from there exactly if there is nothing in it to escape: no backslash and no quote. A
cleanup takes the quotes out of the values, so among these a backslash is all that does harm.
-/

namespace ProtocolHeaders.Header

open Text (isBlank)

/-! ## Quotes around a text as it is -/

section

variable {isBreak : Char -> Bool}

/-- Escaping makes no text shorter. -/
theorem length_le_length_escapeLiteralChars (text : List Char) :
    text.length ≤ (escapeLiteralChars text).length := by
  induction text with
  | nil => exact Nat.zero_le _
  | cons c others inductionHypothesis =>
      by_cases special : c = '\\' ∨ c = '"'
      · simp only [escapeLiteralChars_special special, List.length_cons]
        omega
      · simp only [escapeLiteralChars_plain special, List.length_cons]
        omega

/-- Escaping leaves a text alone exactly if there is nothing in it to escape. -/
theorem escapeLiteralChars_eq_self_iff {text : List Char} :
    escapeLiteralChars text = text ↔ ∀ c ∈ text, ¬ (c = '\\' ∨ c = '"') := by
  induction text with
  | nil => simp [escapeLiteralChars]
  | cons c others inductionHypothesis =>
      rw [List.forall_mem_cons]
      by_cases special : c = '\\' ∨ c = '"'
      · have longer := length_le_length_escapeLiteralChars others
        refine iff_of_false (fun same => ?_) fun plain => plain.1 special
        have sameLength := congrArg List.length same
        simp only [escapeLiteralChars_special special, List.length_cons] at sameLength
        omega
      · rw [escapeLiteralChars_plain special, List.cons.injEq, eq_self, true_and,
          inductionHypothesis, and_iff_right special]

/-- A quoted text stands between two quotes. -/
theorem toList_quote (text : String) : (quote text).toList = '"' :: (text.toList ++ ['"']) := by
  have mark : "\"".toList = ['"'] := by decide +kernel
  simp [quote, String.toList_append, mark]

/-- A text between quotes is read back, up to the closing quote, exactly if there is nothing in
it to escape. -/
theorem readLiteral?_quote_iff {text : String} (oneLine : ∀ c ∈ text.toList, isBreak c = false)
    (rest : List Char) :
    readLiteral? isBreak ((quote text).toList ++ rest) = some (text.toList, rest) ↔
      '\\' ∉ text.toList ∧ '"' ∉ text.toList := by
  have opened : readLiteral? isBreak ((quote text).toList ++ rest) =
      readBody? isBreak (text.toList ++ '"' :: rest) := by
    rw [toList_quote, List.cons_append, List.append_assoc]
    rfl
  have plain : (∀ c ∈ text.toList, ¬ (c = '\\' ∨ c = '"')) ↔
      '\\' ∉ text.toList ∧ '"' ∉ text.toList := by
    simp only [not_or, imp_and, forall_and, List.forall_mem_ne']
  rw [opened, ← plain, ← escapeLiteralChars_eq_self_iff]
  constructor
  · intro read
    exact (List.append_cancel_right (eq_escapeLiteralChars_of_readBody? read)).symm
  · intro same
    have read := readBody?_escapeLiteralChars oneLine rest
    rwa [same] at read

end

/-! ## Quoted texts in a header -/

/-- In a header some code begins a line, tidied where it has breaks of its own. Behind it comes a
text between quotes, and then the rest of the header. -/
def IsQuotedIn (header code text : String) (rest : List Char) : Prop :=
  ∃ front, header.toList =
    front ++ '\n' :: (tidyOpening code.toList ++ ((quote text).toList ++ rest))

/-- A break, some code behind it, and then a text between quotes. -/
def quotedLine (code text : String) : List Char :=
  '\n' :: (code.toList ++ (quote text).toList)

section

variable {code text body : String}

/-- What is quoted on a line of a text stays so when the text is made tidy. -/
theorem exists_tidyChars_eq {text : List Char} (oneLine : '\n' ∉ text)
    (front code back : List Char) :
    ∃ lines rest, tidyChars (front ++ '\n' :: (code ++ '"' :: (text ++ '"' :: back))) =
      lines ++ '\n' :: (tidyOpening code ++ '"' :: (text ++ '"' :: rest)) := by
  have isVisible : isBlank '"' = false := by decide
  have inLine : '\n' ∉ '"' :: text := by simp [oneLine]
  obtain ⟨lines, front_eq⟩ := exists_tidyFront_eq front
  obtain ⟨rest, back_eq⟩ := exists_tidyChars_eq_cons isVisible back
  -- The text is tidied by itself in front of either quote.
  have opened := tidyChars_append isVisible (front ++ '\n' :: code) (text ++ '"' :: back)
  have closed := tidyChars_append isVisible ('"' :: text) back
  rw [tidyOpening_of_notMem inLine, back_eq] at closed
  rw [tidyOpening_append_break, front_eq, ← List.cons_append, closed] at opened
  exact ⟨lines, rest, by simpa using opened⟩

/-- The body of a header stands in the text that is made tidy. -/
theorem exists_source_eq (options : Options) (includes : List String) (body : String) :
    ∃ front back, source options includes body = tidy (front ++ body ++ back) :=
  ⟨_, _, rfl⟩

/-- What is quoted on a line of the body is quoted in the header. -/
theorem exists_isQuotedIn (inBody : quotedLine code text <:+: body.toList)
    (oneLine : '\n' ∉ text.toList) (options : Options) (includes : List String) :
    ∃ rest, IsQuotedIn (source options includes body) code text rest := by
  obtain ⟨front, back, body_eq⟩ := inBody
  obtain ⟨before, behind, made⟩ := exists_source_eq options includes body
  obtain ⟨lines, rest, tidied⟩ := exists_tidyChars_eq oneLine (before.toList ++ front)
    code.toList (back ++ behind.toList)
  have whole : (before ++ body ++ behind).toList = before.toList ++ front ++
      '\n' :: (code.toList ++ '"' :: (text.toList ++ '"' :: (back ++ behind.toList))) := by
    simp [String.toList_append, ← body_eq, quotedLine, toList_quote]
  refine ⟨rest, lines, ?_⟩
  rw [made, tidy, String.toList_ofList, whole, tidied, toList_quote]
  simp

end

/-! ## Values and methods -/

/-- The code in front of the text of a value in the table of its enumeration. -/
def valueCode (enumeration : String) (value : EnumerationValue) : String :=
  "    \x7b" ++ enumeration ++ "::" ++ value.name ++ ", "

/-- The code in front of a method in its constant. -/
def constantCode (method : String) : String :=
  "inline constexpr char " ++ Messages.constantName method ++ "[] = "

/-- A break in front of lines that each end with one may go behind them, so that each line begins
with one. -/
theorem break_cons_flatMap {α : Type} (line : α -> List Char) (items : List α) :
    '\n' :: items.flatMap (fun item => line item ++ ['\n']) =
      items.flatMap (fun item => '\n' :: line item) ++ ['\n'] := by
  induction items with
  | nil => rfl
  | cons item others inductionHypothesis =>
      simp only [List.flatMap_cons, List.append_assoc, List.cons_append, List.nil_append,
        inductionHypothesis]

/-- The row of a value without its break. -/
def rowChars (enumeration : String) (value : EnumerationValue) : List Char :=
  (valueCode enumeration value ++ quote value.value).toList ++ ['\x7d', ',']

/-- The row of a value is a line. -/
theorem toList_valueRow (enumeration : String) (value : EnumerationValue) :
    (Bindings.valueRow enumeration value).toList = rowChars enumeration value ++ ['\n'] := by
  have lineEnd : "\x7d,\n".toList = ['\x7d', ','] ++ ['\n'] := by decide +kernel
  unfold Bindings.valueRow rowChars valueCode
  simp only [String.toList_append, lineEnd, List.append_assoc]

/-- In a table each row has a break in front of it. -/
theorem toList_enumerationTable (enumeration : Enumeration) :
    (Bindings.enumerationTable enumeration).toList =
      "\nJSONIFY_ENUM( ".toList ++ enumeration.name.toList ++ [',', ' ', '\x7b'] ++
        enumeration.values.flatMap (fun value => '\n' :: rowChars enumeration.name value) ++
        ['\n', '\x7d', ')', '\n'] := by
  have opened : ", \x7b\n".toList = [',', ' ', '\x7b'] ++ ['\n'] := by decide +kernel
  have closed : "\x7d)\n".toList = ['\x7d', ')', '\n'] := by decide +kernel
  have shifted := break_cons_flatMap (rowChars enumeration.name) enumeration.values
  unfold Bindings.enumerationTable
  simp only [String.toList_append, String.toList_join, List.flatMap_map, toList_valueRow, opened,
    closed]
  simp only [List.append_assoc, List.cons_append, List.nil_append] at shifted ⊢
  rw [← List.cons_append, shifted]
  simp only [List.append_assoc, List.cons_append, List.nil_append]

/-- Every value has a line in the table of its enumeration. -/
theorem quotedLine_infix_enumerationTable {enumeration : Enumeration} {value : EnumerationValue}
    (listed : value ∈ enumeration.values) :
    quotedLine (valueCode enumeration.name value) value.value <:+:
      (Bindings.enumerationTable enumeration).toList := by
  have inRow : quotedLine (valueCode enumeration.name value) value.value <:+:
      '\n' :: rowChars enumeration.name value := by
    refine ⟨[], ['\x7d', ','], ?_⟩
    unfold quotedLine rowChars
    simp only [String.toList_append, List.append_assoc, List.cons_append, List.nil_append]
  have inRows : '\n' :: rowChars enumeration.name value <:+:
      enumeration.values.flatMap fun value => '\n' :: rowChars enumeration.name value :=
    List.infix_of_mem_flatten (List.mem_map_of_mem listed)
  rw [toList_enumerationTable]
  exact inRow.trans (inRows.trans ⟨_, _, rfl⟩)

/-- The method of a message has a line in its constant. -/
theorem quotedLine_infix_methodConstant (method : String) :
    quotedLine (constantCode method) method <:+: (Messages.methodConstant method).toList := by
  have opened : "\ninline constexpr char ".toList = '\n' :: "inline constexpr char ".toList := by
    decide +kernel
  refine ⟨[], ";\n".toList, ?_⟩
  unfold quotedLine Messages.methodConstant constantCode
  simp only [String.toList_append, opened, List.append_assoc, List.cons_append, List.nil_append]

/-- Every value of an enumeration that is sent as strings has a line in the bindings. -/
theorem quotedLine_infix_bindings (options : Options) {model : Model} {enumeration : Enumeration}
    (member : enumeration ∈ model.enumerations) (isString : enumeration.isString = true)
    {value : EnumerationValue} (listed : value ∈ enumeration.values) :
    quotedLine (valueCode enumeration.name value) value.value <:+:
      (Bindings.body options model).toList := by
  have inTable := quotedLine_infix_enumerationTable listed
  have inTables := toList_infix_join (List.mem_map_of_mem (f := Bindings.enumerationTable)
    (List.mem_filter.mpr ⟨member, isString⟩))
  rw [Bindings.body, String.toList_append]
  exact (inTable.trans inTables).trans (List.prefix_append _ _).isInfix

/-- Every message has a line in the blocks of all messages if its block begins with its
constant. -/
theorem quotedLine_infix_messages {Message : Type} {method block : Message -> String}
    (begins : ∀ message, ∃ wrapper,
      block message = Messages.methodConstant (method message) ++ wrapper)
    {messages : List Message} {message : Message} (listed : message ∈ messages) :
    quotedLine (constantCode (method message)) (method message) <:+:
      (String.join (messages.map block)).toList := by
  obtain ⟨wrapper, block_eq⟩ := begins message
  have inBlock : quotedLine (constantCode (method message)) (method message) <:+:
      (block message).toList := by
    rw [block_eq, String.toList_append]
    exact (quotedLine_infix_methodConstant _).trans (List.prefix_append _ _).isInfix
  exact inBlock.trans (toList_infix_join (List.mem_map_of_mem listed))

/-! ## Reading back -/

/-- A text is quoted in a header behind some code, and from there it is read back exactly if a
condition holds. -/
def IsReadBackIff (isBreak : Char -> Bool) (header code text : String) (condition : Prop) : Prop :=
  ∃ rest, IsQuotedIn header code text rest ∧
    (readLiteral? isBreak ((quote text).toList ++ rest) = some (text.toList, rest) ↔ condition)

section

variable {isBreak : Char -> Bool} {code text body : String}

/-- A text that is quoted on a line of the body is read back from the header exactly if there is
nothing in it to escape. -/
theorem isReadBackIff_source (breaks : isBreak '\n' = true)
    (inBody : quotedLine code text <:+: body.toList)
    (oneLine : ∀ c ∈ text.toList, isBreak c = false) (options : Options)
    (includes : List String) :
    IsReadBackIff isBreak (source options includes body) code text
      ('\\' ∉ text.toList ∧ '"' ∉ text.toList) := by
  have noBreak : '\n' ∉ text.toList := by
    intro broken
    rw [oneLine _ broken] at breaks
    cases breaks
  obtain ⟨rest, quoted⟩ := exists_isQuotedIn inBody noBreak options includes
  exact ⟨rest, quoted, readLiteral?_quote_iff oneLine rest⟩

end

/-- A cleanup leaves no quote in the values of a string enumeration. -/
theorem quote_notMem_of_clean {rules : Cleanup.Rules} {model : Model} {enumeration : Enumeration}
    (member : enumeration ∈ (Cleanup.clean rules model).model.enumerations)
    (isString : enumeration.isString = true) {value : EnumerationValue}
    (listed : value ∈ enumeration.values) : '"' ∉ value.value.toList := by
  rw [Cleanup.enumerations_clean] at member
  obtain ⟨original, -, rfl⟩ := List.mem_map.mp member
  obtain ⟨before, -, rfl⟩ := List.mem_map.mp listed
  have wasString : original.isString = true := isString
  have cleaned : (Cleanup.normalizeValue original.isString before).value =
      Cleanup.withoutQuotes before.value := if_pos wasString
  intro quoted
  change '"' ∈ (Cleanup.normalizeValue original.isString before).value.toList at quoted
  rw [cleaned, Cleanup.withoutQuotes, String.toList_ofList] at quoted
  cases (List.mem_filter.mp quoted).2

/-- After a cleanup every value of a string enumeration is quoted in the bindings, and every
method is quoted in the header of its messages. A value on one line is read back exactly if it
has no backslash, and a method on one line exactly if it has neither a backslash nor a quote. -/
theorem wire_texts_read_back_iff {isBreak : Char -> Bool} (breaks : isBreak '\n' = true)
    (options : Options) (rules : Cleanup.Rules) (model : Model) :
    ∃ cleaned bindings notifications requests,
      (Cleanup.clean rules model).model = cleaned ∧
      Artifact.bindings.render options cleaned = .ok bindings ∧
      Artifact.notifications.render options cleaned = .ok notifications ∧
      Artifact.requests.render options cleaned = .ok requests ∧
      (∀ enumeration ∈ cleaned.enumerations, enumeration.isString = true →
        ∀ value ∈ enumeration.values, (∀ c ∈ value.value.toList, isBreak c = false) →
          IsReadBackIff isBreak bindings (valueCode enumeration.name value) value.value
            ('\\' ∉ value.value.toList)) ∧
      (∀ notification ∈ cleaned.notifications,
        (∀ c ∈ notification.method.toList, isBreak c = false) →
          IsReadBackIff isBreak notifications (constantCode notification.method)
            notification.method
            ('\\' ∉ notification.method.toList ∧ '"' ∉ notification.method.toList)) ∧
      ∀ request ∈ cleaned.requests, (∀ c ∈ request.method.toList, isBreak c = false) →
        IsReadBackIff isBreak requests (constantCode request.method) request.method
          ('\\' ∉ request.method.toList ∧ '"' ∉ request.method.toList) := by
  refine ⟨_, _, _, _, rfl, rfl, rfl, rfl, ?_, ?_, ?_⟩
  · intro enumeration member isString value listed oneLine
    have noQuote := quote_notMem_of_clean member isString listed
    obtain ⟨rest, quoted, readBack⟩ := isReadBackIff_source breaks
      (quotedLine_infix_bindings options member isString listed) oneLine options _
    exact ⟨rest, quoted, readBack.trans (and_iff_left noQuote)⟩
  · intro notification listed oneLine
    exact isReadBackIff_source breaks
      (quotedLine_infix_messages (fun _ => ⟨_, rfl⟩) listed) oneLine options _
  · intro request listed oneLine
    exact isReadBackIff_source breaks
      (quotedLine_infix_messages (fun _ => ⟨_, rfl⟩) listed) oneLine options _

/-- A model with a value between quotes that a cleanup takes away, and a message of each kind. -/
def sentModel : Model :=
  { enumerations :=
      [{ name := "Kind", kind := .string, values := [{ name := "file", value := "'file'" }] }]
    requests := [{ method := "textDocument/hover" }]
    notifications := [{ method := "$/cancelRequest" }] }

/-- The value and the methods of the model are read back from its headers. -/
theorem sent_model_reads_back :
    ((· == '\n') '\n') = true ∧
    ∃ bindings notifications requests,
      Artifact.bindings.render {} (Cleanup.clean .standard sentModel).model = .ok bindings ∧
      Artifact.notifications.render {} (Cleanup.clean .standard sentModel).model =
        .ok notifications ∧
      Artifact.requests.render {} (Cleanup.clean .standard sentModel).model = .ok requests ∧
      (∃ rest, IsQuotedIn bindings "    \x7bKind::File, " "file" rest ∧
        readLiteral? (· == '\n') ((quote "file").toList ++ rest) = some ("file".toList, rest)) ∧
      (∃ rest, IsQuotedIn notifications (constantCode "$/cancelRequest") "$/cancelRequest" rest ∧
        readLiteral? (· == '\n') ((quote "$/cancelRequest").toList ++ rest) =
          some ("$/cancelRequest".toList, rest)) ∧
      ∃ rest, IsQuotedIn requests (constantCode "textDocument/hover") "textDocument/hover" rest ∧
        readLiteral? (· == '\n') ((quote "textDocument/hover").toList ++ rest) =
          some ("textDocument/hover".toList, rest) := by
  have isCleaned : (Cleanup.clean .standard sentModel).model.enumerations =
      [{ name := "Kind", kind := .string, values := [{ name := "File", value := "file" }] }] := by
    decide +kernel
  obtain ⟨cleaned, bindings, notifications, requests, rfl, madeBindings, madeNotifications,
    madeRequests, values, notified, requested⟩ :=
    @wire_texts_read_back_iff (· == '\n') rfl {} .standard sentModel
  have value := values _ (isCleaned ▸ List.mem_singleton_self _) rfl _
    (List.mem_singleton_self _) (by simp)
  have notification := notified _ (List.mem_singleton_self _) (by simp)
  have request := requested _ (List.mem_singleton_self _) (by simp)
  obtain ⟨valueRest, valueQuoted, valueRead⟩ := value
  obtain ⟨notificationRest, notificationQuoted, notificationRead⟩ := notification
  obtain ⟨requestRest, requestQuoted, requestRead⟩ := request
  exact ⟨rfl, bindings, notifications, requests, madeBindings, madeNotifications, madeRequests,
    ⟨valueRest, valueQuoted, valueRead.mpr (by decide +kernel)⟩,
    ⟨notificationRest, notificationQuoted, notificationRead.mpr (by decide +kernel)⟩,
    requestRest, requestQuoted, requestRead.mpr (by decide +kernel)⟩

/-- A model with a value that ends in a backslash. -/
def driveModel : Model :=
  { enumerations :=
      [{ name := "Drive", kind := .string, values := [{ name := "c", value := "C:\\" }] }] }

/-- The backslash at the end of a value escapes the quote that is meant to end the literal, so the
value is quoted in the bindings and nowhere read back. -/
theorem backslash_value_is_not_read_back :
    ∃ bindings,
      (Cleanup.clean .standard driveModel).model.enumerations =
        [{ name := "Drive", kind := .string, values := [{ name := "C", value := "C:\\" }] }] ∧
      Artifact.bindings.render {} (Cleanup.clean .standard driveModel).model = .ok bindings ∧
      (∃ rest, IsQuotedIn bindings "    \x7bDrive::C, " "C:\\" rest) ∧
      ∀ rest, IsQuotedIn bindings "    \x7bDrive::C, " "C:\\" rest →
        readLiteral? (· == '\n') ((quote "C:\\").toList ++ rest) ≠ some ("C:\\".toList, rest) := by
  have isCleaned : (Cleanup.clean .standard driveModel).model.enumerations =
      [{ name := "Drive", kind := .string, values := [{ name := "C", value := "C:\\" }] }] := by
    decide +kernel
  have inBody := quotedLine_infix_bindings {} (isCleaned ▸ List.mem_singleton_self _) rfl
    (List.mem_singleton_self _)
  refine ⟨_, isCleaned, rfl, exists_isQuotedIn inBody (by decide +kernel) {} _,
    fun rest _ read => ?_⟩
  obtain ⟨noBackslash, -⟩ := (readLiteral?_quote_iff (by simp) rest).mp read
  exact noBackslash (by decide +kernel)

end ProtocolHeaders.Header
