import ProtocolHeaders.Log.Event
import ProtocolHeaders.Log.FieldValue
import ProtocolHeaders.Text.Blank
import ProtocolHeaders.Text.Letter
import ProtocolHeaders.Text.Segment

/-!
# Log filters

A filter is a list of directives between commas. A directive sets the level for a
target, for spans with given fields, or for everything. Directives that name no span
and no value of a field come first; among them, and among the others, the more specific
ones come first, and of two for the same thing the later one counts.
-/

namespace ProtocolHeaders.Log

/-- The least level that is shown, or none. -/
inductive Threshold where
  | off
  | atLeast (level : Level)
deriving Repr, DecidableEq, Inhabited

namespace Threshold

/-- The name of a threshold. -/
def name : Threshold -> String
  | off => "off"
  | atLeast level => level.name

/-- All thresholds, by number. -/
def all : List Threshold :=
  [.off, .atLeast .error, .atLeast .warn, .atLeast .info, .atLeast .debug, .atLeast .trace]

/-- The number that digits stand for; a plus may stand before them. -/
def number? : List Char -> Option Nat
  | '+' :: rest => Decimal.natural? rest
  | text => Decimal.natural? text

/-- The threshold with a number or a name, whose case does not count. -/
def read? (text : List Char) : Option Threshold :=
  match number? text with
  | some position => all[position]?
  | none => all.find? fun threshold => threshold.name == String.ofList (text.map Char.toLower)

end Threshold

/-- The field of a span: its name, and its value if one is asked for. -/
structure SpanField where
  name : String
  value? : Option FieldValue := none
deriving Repr, DecidableEq, Inhabited

namespace SpanField

/-- The field in a directive. -/
def text (field : SpanField) : String :=
  match field.value? with
  | some value => field.name ++ "=" ++ value.text
  | none => field.name

/-- Read a field, which must not be empty. Its value is what stands between the first
two equals signs. -/
def read? (text : List Char) : Option SpanField :=
  match Text.splitOn '=' text with
  | [[]] => none
  | name :: value :: _ => do
      return { name := String.ofList name, value? := some (<- FieldValue.read? value) }
  | name :: [] => some { name := String.ofList name }
  | [] => none

/-- Fields without a value come before others; then they compare by name and by value. -/
def compare (left right : SpanField) : Ordering :=
  (Ord.compare left.value?.isSome right.value?.isSome).then <|
    (Ord.compare left.name right.name).then <|
    match left.value?, right.value? with
    | some left, some right => left.compare right
    | _, _ => .eq

end SpanField

/-- A directive of a filter. -/
structure Directive where
  target? : Option String := none
  span? : Option String := none
  fields : List SpanField := []
  threshold : Threshold := .atLeast .trace
deriving Repr, DecidableEq, Inhabited

namespace Directive

/-! ## Reading -/

/-- The part of a directive that is being read, with the position where it began.
Positions count bytes. -/
inductive Part where
  | start
  | name (begin : Nat)
  | span (begin : Nat)
  | field (begin : Nat)
  | afterFields
  | afterSpan
  | threshold (begin : Nat)
deriving Repr, DecidableEq

/-- The characters that names may begin with. -/
def isNameStart (c : Char) : Bool :=
  c == '-' || c == ':' || c == '_' || Text.isAlphanumeric c

/-- The rest of a text from a position on, which counts bytes. -/
def dropBytes : (position : Nat) -> List Char -> List Char
  | 0, text => text
  | _, [] => []
  | position, c :: text => dropBytes (position - c.utf8Size) text

/-- The beginning of a text up to a position, which counts bytes. -/
def takeBytes : (position : Nat) -> List Char -> List Char
  | 0, _ => []
  | _, [] => []
  | position, c :: text => c :: takeBytes (position - c.utf8Size) text

/-- The characters from one position to another. -/
def slice (source : List Char) (first last : Nat) : List Char :=
  takeBytes (last - first) (dropBytes first source)

/-- The text from one position to another. -/
def sliceText (source : List Char) (first last : Nat) : String :=
  String.ofList (slice source first last)

/-- A name, unless it is empty. -/
def nonempty? (name : String) : Option String :=
  if name.isEmpty then none else some name

/-- The threshold of a directive, which is the lowest if nothing is written. -/
def thresholdOf? (text : List Char) : Option Threshold :=
  if text.isEmpty then some (.atLeast .trace) else Threshold.read? text

/-- A directive that is a single name: a threshold if it reads as one, else a target. -/
def ofName (text : List Char) : Directive :=
  if text.isEmpty then {}
  else
    match Threshold.read? text with
    | some threshold => { threshold }
    | none => { target? := some (String.ofList text) }

/-- The directive that is complete when its text ends in a part. -/
def finish? (source : List Char) (directive : Directive) : Part -> Option Directive
  | .name begin => some (ofName (dropBytes begin source))
  | .threshold begin =>
      (thresholdOf? (dropBytes begin source)).map fun threshold => { directive with threshold }
  | .afterSpan => some directive
  | _ => none

/-- Read a directive on from a position. Positions count from the first character that
is not blank, but parts are cut out of the whole text. -/
def readFrom (source : List Char) (directive : Directive) (part : Part) (position : Nat) :
    List Char -> Option Directive
  | [] => directive.finish? source part
  | c :: rest =>
      let goOn (directive : Directive) (part : Part) :=
        readFrom source directive part (position + c.utf8Size) rest
      match part with
      | .start =>
          if c = '[' then goOn directive (.span (position + 1))
          else if isNameStart c then goOn directive (.name position)
          else none
      | .name begin =>
          if c = '=' then
            goOn { directive with target? := some (sliceText source begin position) }
              (.threshold (position + 1))
          else if c = '[' then
            goOn { directive with target? := some (sliceText source begin position) }
              (.span (position + 1))
          else goOn directive part
      | .span begin =>
          if c = ']' then
            goOn { directive with span? := some (sliceText source begin position) } .afterSpan
          else if c = '\x7b' then
            goOn { directive with span? := nonempty? (sliceText source begin position) }
              (.field (position + 1))
          else goOn directive part
      | .field begin =>
          if c = '\x7d' then
            match SpanField.read? (slice source begin position) with
            | some field =>
                goOn { directive with fields := directive.fields ++ [field] } .afterFields
            | none => none
          else goOn directive part
      | .afterFields => if c = ']' then goOn directive .afterSpan else none
      | .afterSpan => if c = '=' then goOn directive (.threshold (position + 1)) else none
      | .threshold _ => goOn directive part

/-- Read a directive. -/
def read? (source : List Char) : Option Directive :=
  readFrom source {} .start 0 (Text.trim source)

/-! ## Writing and ordering -/

/-- What a directive says about spans. -/
def spanText (directive : Directive) : String :=
  if directive.span?.isNone && directive.fields.isEmpty then ""
  else
    "[" ++ directive.span?.getD "" ++
      (if directive.fields.isEmpty then ""
        else
          "\x7b" ++ String.intercalate "," (directive.fields.map SpanField.text) ++ "\x7d") ++ "]"

/-- A directive in a filter. -/
def text (directive : Directive) : String :=
  let scope := directive.target?.getD "" ++ directive.spanText
  if directive.target?.isNone && scope.isEmpty then directive.threshold.name
  else scope ++ "=" ++ directive.threshold.name

/-- Whether a directive depends on more than the target. -/
def isDynamic (directive : Directive) : Bool :=
  directive.span?.isSome || !directive.fields.isEmpty

/-- What a directive says without looking at spans, if it says something. -/
def static? (directive : Directive) : Option Directive :=
  if directive.span?.isSome || directive.fields.any (·.value?.isSome) then none
  else some directive

/-- No name comes before any name; names compare by a measure. -/
def compareNames (compare : String -> String -> Ordering) :
    (left right : Option String) -> Ordering
  | none, none => .eq
  | none, some _ => .lt
  | some _, none => .gt
  | some left, some right => compare left right

/-- Names compare by their numbers of bytes. -/
def compareLengths (left right : String) : Ordering :=
  Ord.compare left.utf8ByteSize right.utf8ByteSize

/-- Lists of fields compare by the first field that differs. -/
def compareFields (left right : List SpanField) : Ordering :=
  List.compareLex SpanField.compare left right

/-- Directives compare by how specific they are, then by their names. -/
def compare (left right : Directive) : Ordering :=
  (compareNames compareLengths left.target? right.target?).then <|
    (Ord.compare left.span?.isSome right.span?.isSome).then <|
    (Ord.compare left.fields.length right.fields.length).then <|
    (compareNames Ord.compare left.target? right.target?).then <|
    (compareNames Ord.compare left.span? right.span?).then <|
    compareFields left.fields right.fields

/-- Put a directive in front of the less specific ones, instead of one for the same. -/
def insert (directive : Directive) : List Directive -> List Directive
  | [] => [directive]
  | first :: others =>
      match compare directive first with
      | .gt => directive :: first :: others
      | .eq => directive :: others
      | .lt => first :: insert directive others

/-- Directives by how specific they are, the later of two for the same. -/
def sort (directives : List Directive) : List Directive :=
  directives.foldl (fun sorted directive => insert directive sorted) []

end Directive

/-- A filter: its static directives, then the others. -/
structure Filter where
  statics : List Directive := []
  dynamics : List Directive := []
deriving Repr, DecidableEq, Inhabited

namespace Filter

/-- The filter of directives. -/
def ofDirectives (directives : List Directive) : Filter :=
  let dynamics := directives.filter Directive.isDynamic
  { statics :=
      Directive.sort
        (directives.filter (!Directive.isDynamic ·) ++ dynamics.filterMap Directive.static?)
    dynamics := Directive.sort dynamics }

/-- The texts of the directives of a filter. -/
def directiveTexts (text : String) : List (List Char) :=
  (Text.splitOn ',' text.toList).filter (!·.isEmpty)

/-- Read a filter, unless a directive is malformed. -/
def read? (text : String) : Option Filter :=
  ((directiveTexts text).mapM Directive.read?).map ofDirectives

/-- Read a filter without its malformed directives. If none is left, errors are shown. -/
def readLeniently (text : String) : Filter :=
  match (directiveTexts text).filterMap Directive.read? with
  | [] => ofDirectives [{ threshold := .atLeast .error }]
  | directives => ofDirectives directives

/-- The level when neither the environment nor the settings name one. -/
def defaultLevel : String := "info"

/-- The filter of a run: the one of the environment if it is well written, else that of
the level. -/
def choose (environment? level? : Option String) : Filter :=
  match environment?.bind read? with
  | some filter => filter
  | none => readLeniently (level?.getD defaultLevel)

/-- A filter as a text. -/
def text (filter : Filter) : String :=
  String.intercalate "," ((filter.statics ++ filter.dynamics).map Directive.text)

/-- How much a level matters: the smaller, the more. -/
def rank : Level -> Nat
  | .error => 1
  | .warn => 2
  | .info => 3
  | .debug => 4
  | .trace => 5

/-- Whether a filter shows events of a level whatever their target. -/
def shows (filter : Filter) (level : Level) : Bool :=
  filter.statics.any fun directive =>
    directive.target?.isNone && directive.fields.isEmpty &&
      match directive.threshold with
      | .off => false
      | .atLeast least => rank level <= rank least

end Filter

end ProtocolHeaders.Log
