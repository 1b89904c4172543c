import EntitySearch.Json.ReadError

/-!
# Strings in JSON text

A string is read behind its opening quote up to its closing one.  Control characters must be
escaped.  Escapes of surrogates must form pairs, except in a string that is only skipped.
-/

namespace EntitySearch.Json.Quoted

/-- The value of a hexadecimal digit. -/
def hexDigit? (char : Char) : Option Nat :=
  let code := char.toNat
  if 48 ≤ code ∧ code ≤ 57 then some (code - 48)
  else if 97 ≤ code ∧ code ≤ 102 then some (code - 87)
  else if 65 ≤ code ∧ code ≤ 70 then some (code - 55)
  else none

/-- The number of four hexadecimal digits.  The text is cut short when fewer than four bytes of it
are left. -/
def readHex (text : List Char) : Except ReadError (Nat × List Char) :=
  match (text.take 4).mapM hexDigit? with
  | some [first, second, third, fourth] =>
      .ok (((first * 16 + second) * 16 + third) * 16 + fourth, text.drop 4)
  | _ =>
      let bytes := (text.take 4).foldl (fun bytes char => bytes + char.utf8Size) 0
      if bytes < 4 then .error .endOfText else .error .malformed

/-- One given character at the start of the text. -/
def expect (wanted : Char) : List Char → Except ReadError (List Char)
  | [] => .error .endOfText
  | char :: rest => if char = wanted then .ok rest else .error .malformed

/-- The code unit is the first one of a surrogate pair. -/
def isLeading (unit : Nat) : Bool := 0xD800 ≤ unit && unit ≤ 0xDBFF

/-- The code unit is the second one of a surrogate pair. -/
def isTrailing (unit : Nat) : Bool := 0xDC00 ≤ unit && unit ≤ 0xDFFF

/-- Reads the character escaped by its code units. -/
def readUnits (paired : Bool) (text : List Char) : Except ReadError (Char × List Char) := do
  let (leading, rest) ← readHex text
  if !paired then return (Char.ofNat leading, rest)
  if isTrailing leading then throw .malformed
  if !isLeading leading then return (Char.ofNat leading, rest)
  let (trailing, rest) ← readHex (← expect 'u' (← expect '\\' rest))
  if !isTrailing trailing then throw .malformed
  return (Char.ofNat ((leading - 0xD800) * 0x400 + (trailing - 0xDC00) + 0x10000), rest)

/-- Reads the character that a backslash escapes. -/
def readEscape (paired : Bool) : List Char → Except ReadError (Char × List Char)
  | [] => .error .endOfText
  | char :: rest =>
      match char with
      | '"' => .ok ('"', rest)
      | '\\' => .ok ('\\', rest)
      | '/' => .ok ('/', rest)
      | 'b' => .ok ('\x08', rest)
      | 'f' => .ok ('\x0c', rest)
      | 'n' => .ok ('\n', rest)
      | 'r' => .ok ('\r', rest)
      | 't' => .ok ('\t', rest)
      | 'u' => readUnits paired rest
      | _ => .error .malformed

/-- Reads up to the closing quote, at most a limited number of characters. -/
def readChars (paired : Bool) : Nat → List Char → Except ReadError (List Char × List Char)
  | 0, _ | _ + 1, [] => .error .endOfText
  | limit + 1, char :: rest =>
      if char = '"' then .ok ([], rest)
      else if char = '\\' then do
        let (escaped, rest) ← readEscape paired rest
        let (chars, rest) ← readChars paired limit rest
        return (escaped :: chars, rest)
      else if char.toNat < 0x20 then .error .malformed
      else do
        let (chars, rest) ← readChars paired limit rest
        return (char :: chars, rest)

/-- Reads a string behind its opening quote. -/
def read (text : List Char) : Except ReadError (String × List Char) := do
  let (chars, rest) ← readChars true (text.length + 1) text
  return (String.ofList chars, rest)

/-- Skips a string behind its opening quote; surrogates need not form pairs. -/
def skip (text : List Char) : Except ReadError (List Char) := do
  return (← readChars false (text.length + 1) text).2

end EntitySearch.Json.Quoted
