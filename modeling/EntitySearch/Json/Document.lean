import EntitySearch.Decimal.Layout
import EntitySearch.Text.Numeral

/-!
# Writing JSON text

A document is written either without any white space, or with every element and member on a line of
its own, indented by two blanks per level.
-/

namespace EntitySearch.Json

/-- A JSON document, whose members keep their order. -/
inductive Document where
  /-- The word `null`. -/
  | null
  /-- A truth value. -/
  | boolean (value : Bool)
  /-- An integer. -/
  | integer (value : Int)
  /-- A double. -/
  | double (value : Double)
  /-- A text. -/
  | text (value : String)
  /-- An array. -/
  | list (elements : List Document)
  /-- An object. -/
  | object (members : List (String × Document))
  deriving Repr

namespace Document

/-- A document, or the word `null`. -/
def ofOption {α : Type} (write : α → Document) : Option α → Document
  | none => null
  | some value => write value

/-- A list of texts. -/
def texts (values : List String) : Document := list (values.map text)

/-- The last hexadecimal digit of a number. -/
def hexDigit (number : Nat) : Char :=
  let digit := number % 16
  if digit < 10 then Text.digitChar digit else Char.ofNat (87 + digit)

/-- A character as it stands in a string. -/
def escapedChar (char : Char) : List Char :=
  match char with
  | '"' => ['\\', '"']
  | '\\' => ['\\', '\\']
  | '\x08' => ['\\', 'b']
  | '\x0c' => ['\\', 'f']
  | '\n' => ['\\', 'n']
  | '\r' => ['\\', 'r']
  | '\t' => ['\\', 't']
  | char =>
      let code := char.toNat
      if code < 0x20 then ['\\', 'u', '0', '0', hexDigit (code / 16), hexDigit code] else [char]

/-- A text as a string. -/
def quoted (value : String) : List Char := '"' :: value.toList.flatMap escapedChar ++ ['"']

/-- Items with commas between them, each with a text before it, all with a text behind them and in
brackets. -/
def bracketed (opening closing : Char) (before behind : List Char) (items : List (List Char)) :
    List Char :=
  if items.isEmpty then [opening, closing]
  else
    let separated := List.intercalate [','] (items.map (before ++ ·))
    opening :: separated ++ behind ++ [closing]

/-- A new line, indented to a level, or nothing in a document without white space. -/
def lineBreak (pretty : Bool) (level : Nat) : List Char :=
  if pretty then '\n' :: List.replicate (2 * level) ' ' else []

mutual

/-- The document as text, the lines behind the first one indented from a level on. -/
def chars (pretty : Bool) (level : Nat) : Document → List Char
  | null => "null".toList
  | boolean value => if value then "true".toList else "false".toList
  | integer value => Text.signedNumeral value
  | double value => DoubleLayout.json.text value
  | text value => quoted value
  | list elements =>
      bracketed '[' ']' (lineBreak pretty (level + 1)) (lineBreak pretty level)
        (elementChars pretty (level + 1) elements)
  | object members =>
      bracketed '\x7b' '\x7d' (lineBreak pretty (level + 1)) (lineBreak pretty level)
        (memberChars pretty (level + 1) members)

/-- The texts of elements. -/
def elementChars (pretty : Bool) (level : Nat) : List Document → List (List Char)
  | [] => []
  | element :: elements => chars pretty level element :: elementChars pretty level elements

/-- The texts of members. -/
def memberChars (pretty : Bool) (level : Nat) : List (String × Document) → List (List Char)
  | [] => []
  | (name, value) :: members =>
      (quoted name ++ (if pretty then ": ".toList else [':']) ++ chars pretty level value) ::
        memberChars pretty level members

end

/-- The document without white space. -/
def compact (document : Document) : String := String.ofList (chars false 0 document)

/-- The document with a line for every element and member. -/
def pretty (document : Document) : String := String.ofList (chars true 0 document)

end Document

end EntitySearch.Json
