import EntitySearch.Text.Blank
import EntitySearch.Text.Numeral
import EntitySearch.Text.UnprintableTable

/-!
# Quoted text

A text between double quotes, for messages.  Quotes and backslashes have a backslash in front of
them, the common control characters have a letter, and other characters that could not be seen are
shown by their code points.
-/

namespace EntitySearch.Text

/-- A character as it stands between quotes. -/
def quotedChar (char : Char) : List Char :=
  match char with
  | '"' => ['\\', '"']
  | '\\' => ['\\', '\\']
  | '\n' => ['\\', 'n']
  | '\r' => ['\\', 'r']
  | '\t' => ['\\', 't']
  | '\x00' => ['\\', '0']
  | char =>
      if inRanges unprintableRanges char then
        "\\u\x7b".toList ++ hexNumeral char.toNat ++ ['\x7d']
      else [char]

/-- The text between quotes. -/
def quoted (text : String) : String :=
  String.ofList ('"' :: text.toList.flatMap quotedChar ++ ['"'])

end EntitySearch.Text
