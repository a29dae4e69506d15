import Mathlib.Data.List.Basic

/-! JSON values and the reader of their text. The text is read one UTF-16 code
unit after the other; the values that are still open stand on a stack. -/

/-- A value, with a number as it was written. -/
inductive Json where
  | null
  | bool (value : Bool)
  | number (text : List UInt16)
  | string (text : List UInt16)
  | array (elements : List Json)
  | object (members : List (List UInt16 × Json))

namespace Json

/-- The member that a name means: of several with one name it is the last. -/
def member (members : List (List UInt16 × Json)) (name : List UInt16) : Option Json :=
  (members.reverse.find? fun m => m.1 = name).map Prod.snd

/-- How far the text of a number has come. -/
inductive NumberPart where
  | sign
  | zero
  | digits
  | point
  | fraction
  | exponent
  | exponentSign
  | exponentDigits

def isDigit (c : UInt16) : Bool := 48 ≤ c && c ≤ 57

/-- `e` or `E`. -/
def isExponent (c : UInt16) : Bool := c = 101 || c = 69

namespace NumberPart

def next (c : UInt16) : NumberPart → Option NumberPart
  | sign => if c = 48 then some zero else if isDigit c then some digits else none
  | zero => if c = 46 then some point else if isExponent c then some exponent else none
  | digits =>
    if isDigit c then some digits else if c = 46 then some point else if isExponent c then some exponent else none
  | point => if isDigit c then some fraction else none
  | fraction => if isDigit c then some fraction else if isExponent c then some exponent else none
  | exponent =>
    if isDigit c then some exponentDigits else if c = 43 || c = 45 then some exponentSign else none
  | exponentSign | exponentDigits => if isDigit c then some exponentDigits else none

/-- The number may end here. -/
def complete : NumberPart → Bool
  | zero | digits | fraction | exponentDigits => true
  | _ => false

end NumberPart

/-- An array or object whose end has not been read, with the name of the member being read. -/
inductive Frame where
  | array (elements : List Json)
  | object (members : List (List UInt16 × Json)) (name : List UInt16)

/-- What the next code unit belongs to. -/
inductive Mode where
  | value
  | firstElement
  | firstName
  | name
  | colon
  /-- A value has ended; with an empty stack it is the whole one. -/
  | after (whole : Json)
  | literal (rest : List UInt16) (value : Json)
  | number (part : NumberPart) (text : List UInt16)
  | string (text : List UInt16) (named : Bool)
  | escape (text : List UInt16) (named : Bool)
  | unicode (left : Nat) (code : UInt16) (text : List UInt16) (named : Bool)

structure Reader where
  mode : Mode
  stack : List Frame

namespace Reader

def isSpace (c : UInt16) : Bool := c = 32 || c = 9 || c = 10 || c = 13

/-- A value ends. -/
def deliver (value : Json) : List Frame → Reader
  | [] => ⟨.after value, []⟩
  | .array elements :: rest => ⟨.after value, .array (elements ++ [value]) :: rest⟩
  | .object members name :: rest => ⟨.after value, .object (members ++ [(name, value)]) [] :: rest⟩

/-- A string ends, which is a value or the name of a member. -/
def deliverString (text : List UInt16) (named : Bool) (stack : List Frame) : Reader :=
  if named then
    match stack with
    | .object members _ :: rest => ⟨.colon, .object members text :: rest⟩
    | _ => ⟨.colon, stack⟩
  else deliver (.string text) stack

def readValue (c : UInt16) (stack : List Frame) : Option Reader :=
  if isSpace c then some ⟨.value, stack⟩
  else if c = 34 then some ⟨.string [] false, stack⟩
  else if c = 123 then some ⟨.firstName, .object [] [] :: stack⟩
  else if c = 91 then some ⟨.firstElement, .array [] :: stack⟩
  else if c = 110 then some ⟨.literal [117, 108, 108] .null, stack⟩
  else if c = 116 then some ⟨.literal [114, 117, 101] (.bool true), stack⟩
  else if c = 102 then some ⟨.literal [97, 108, 115, 101] (.bool false), stack⟩
  else if c = 45 then some ⟨.number .sign [c], stack⟩
  else if c = 48 then some ⟨.number .zero [c], stack⟩
  else if isDigit c then some ⟨.number .digits [c], stack⟩
  else none

/-- Behind a value the enclosing one goes on or ends. -/
def readAfter (c : UInt16) (whole : Json) (stack : List Frame) : Option Reader :=
  if isSpace c then some ⟨.after whole, stack⟩
  else match stack with
    | [] => none
    | .array elements :: rest =>
      if c = 44 then some ⟨.value, stack⟩ else if c = 93 then some (deliver (.array elements) rest) else none
    | .object members _ :: rest =>
      if c = 44 then some ⟨.name, stack⟩ else if c = 125 then some (deliver (.object members) rest) else none

/-- The code unit that a letter behind a backslash means. -/
def escaped (c : UInt16) : Option UInt16 :=
  if c = 34 || c = 92 || c = 47 then some c
  else if c = 98 then some 8
  else if c = 102 then some 12
  else if c = 110 then some 10
  else if c = 114 then some 13
  else if c = 116 then some 9
  else none

def hexValue (c : UInt16) : Option UInt16 :=
  if isDigit c then some (c - 48)
  else if 97 ≤ c && c ≤ 102 then some (c - 87)
  else if 65 ≤ c && c ≤ 70 then some (c - 55)
  else none

def step (r : Reader) (c : UInt16) : Option Reader :=
  match r.mode with
  | .value => readValue c r.stack
  | .firstElement =>
    if c = 93 then some (deliver (.array []) r.stack.tail)
    else if isSpace c then some r
    else readValue c r.stack
  | .firstName =>
    if c = 125 then some (deliver (.object []) r.stack.tail)
    else if isSpace c then some r
    else if c = 34 then some { r with mode := .string [] true }
    else none
  | .name => if isSpace c then some r else if c = 34 then some { r with mode := .string [] true } else none
  | .colon => if isSpace c then some r else if c = 58 then some { r with mode := .value } else none
  | .after whole => readAfter c whole r.stack
  | .literal (d :: rest) value =>
    if c ≠ d then none
    else if rest = [] then some (deliver value r.stack)
    else some { r with mode := .literal rest value }
  | .literal [] _ => none
  | .number part text =>
    match part.next c with
    | some part => some { r with mode := .number part (text ++ [c]) }
    | none =>
      -- the code unit that ends a number is the first one behind it
      if part.complete then readAfter c (.number text) (deliver (.number text) r.stack).stack else none
  | .string text named =>
    if c = 34 then some (deliverString text named r.stack)
    else if c = 92 then some { r with mode := .escape text named }
    else if c < 32 then none
    else some { r with mode := .string (text ++ [c]) named }
  | .escape text named =>
    if c = 117 then some { r with mode := .unicode 4 0 text named }
    else (escaped c).map fun d => { r with mode := .string (text ++ [d]) named }
  | .unicode left code text named =>
    (hexValue c).map fun d =>
      if left = 1 then { r with mode := .string (text ++ [code * 16 + d]) named }
      else { r with mode := .unicode (left - 1) (code * 16 + d) text named }

/-- The value, if the text may end here. -/
def finish (r : Reader) : Option Json :=
  match r.mode, r.stack with
  | .after whole, [] => some whole
  | .number part text, [] => if part.complete then some (.number text) else none
  | _, _ => none

end Reader

/-- `JSON.parse`, where `none` is a `SyntaxError`. -/
def parse (text : List UInt16) : Option Json := (text.foldlM Reader.step ⟨.value, []⟩).bind Reader.finish

end Json
