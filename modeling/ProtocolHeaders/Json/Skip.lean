import ProtocolHeaders.Json.Scan

/-!
# Values that do not matter

The value of a field that a record does not have is passed over. It has to be well
written, but it may be nested as deeply as it likes: the lists and objects that
are open are kept on a stack.
-/

namespace ProtocolHeaders.Json

/-- An open list or object. -/
inductive Frame where
  | list
  | object
deriving Repr, DecidableEq

namespace Frame

/-- The fault of a text that ends inside a frame. -/
def truncated : Frame -> Error
  | list => .truncated .list
  | object => .truncated .object

/-- The fault of a member that neither a comma nor the end follows. -/
def expectedCommaOrEnd : Frame -> Error
  | list => .malformed .expectedListCommaOrEnd
  | object => .malformed .expectedObjectCommaOrEnd

/-- The character that closes a frame. -/
def closer : Frame -> Char
  | list => ']'
  | object => '\x7d'

end Frame

/-- The colon between a key and its value. -/
def scanColon (text : List Char) : Except Error (List Char) :=
  match skipSpace text with
  | [] => .error (.truncated .object)
  | c :: rest => if c = ':' then .ok rest else .error (.malformed .expectedColon)

/-- A key and its colon, inside an object that is passed over. -/
def skipKey (text : List Char) : Except Error (List Char) :=
  match skipSpace text with
  | [] => .error (.truncated .object)
  | c :: rest =>
      if c = '"' then do scanColon (<- skipString rest)
      else .error (.malformed .keyNotString)

/-- A value that opens no frame. -/
def skipScalar (first : Char) (rest : List Char) : Except Error (List Char) :=
  if first = 'n' then scanWord ['u', 'l', 'l'] rest
  else if first = 't' then scanWord ['r', 'u', 'e'] rest
  else if first = 'f' then scanWord ['a', 'l', 's', 'e'] rest
  else if first = '"' then skipString rest
  else if first = '-' then do return (<- scanNumber false true rest).2
  else if first.isDigit then do return (<- scanNumber false false (first :: rest)).2
  else .error (.malformed .expectedValue)

/-- The start of the next member: in an object, what follows its key. -/
def skipToMember (frame : Frame) (text : List Char) : Except Error (List Char) :=
  match frame with
  | .list => .ok text
  | .object => skipKey text

mutual

/-- Pass over a value and then over what is left of the open frames. The first
argument bounds the number of steps. -/
def skipNested : Nat -> List Frame -> List Char -> Except Error (List Char)
  | 0, _, _ => .error (.truncated .value)
  | steps + 1, frames, text =>
      match skipSpace text with
      | [] => .error (.truncated .value)
      | first :: rest =>
          if first = '[' then skipOpened steps .list frames rest
          else if first = '\x7b' then skipOpened steps .object frames rest
          else
            match skipScalar first rest with
            | .error fault => .error fault
            | .ok rest => skipClosed steps frames rest

/-- Pass over a frame that has just been opened. -/
def skipOpened : Nat -> Frame -> List Frame -> List Char -> Except Error (List Char)
  | 0, _, _, _ => .error (.truncated .value)
  | steps + 1, frame, frames, text =>
      match skipSpace text with
      | [] => .error frame.truncated
      | first :: rest =>
          if first = frame.closer then skipClosed steps frames rest
          else
            match skipToMember frame (first :: rest) with
            | .error fault => .error fault
            | .ok rest => skipNested steps (frame :: frames) rest

/-- Pass over what follows a value in the innermost frame. -/
def skipClosed : Nat -> List Frame -> List Char -> Except Error (List Char)
  | 0, _, _ => .error (.truncated .value)
  | _ + 1, [], text => .ok text
  | steps + 1, frame :: frames, text =>
      match skipSpace text with
      | [] => .error frame.truncated
      | first :: rest =>
          if first = frame.closer then skipClosed steps frames rest
          else if first = ',' then
            match skipToMember frame rest with
            | .error fault => .error fault
            | .ok rest => skipNested steps (frame :: frames) rest
          else .error frame.expectedCommaOrEnd

end

/-- The steps that suffice for a text: every step but the last takes a character, or
two steps take one. -/
def stepsFor (text : List Char) : Nat :=
  2 * text.length + 3

/-- Pass over one value. The first argument bounds the number of steps. -/
def skipValue (steps : Nat) (text : List Char) : Except Error (List Char) :=
  skipNested steps [] text

end ProtocolHeaders.Json
