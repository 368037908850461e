import Script.Text.Extending
import Script.Text.Unprintable

set_option autoImplicit false

/- Text in double quotes on one line, in which every character can be told from the others:
quotes, backslashes and all that is not seen by itself are escaped. -/
namespace Script.Text

/-- One character inside the quotes. A character that is not seen by itself and has no letter of
its own is written by its code in braces. -/
def escaped (char : Char) : List Char :=
  if char = '"' then ['\\', '"']
  else if char = '\\' then ['\\', '\\']
  else if char = '\n' then ['\\', 'n']
  else if char = '\r' then ['\\', 'r']
  else if char = '\t' then ['\\', 't']
  else if char.toNat = 0 then ['\\', '0']
  else if isExtending char || isUnprintable char then
    "\\u\x7b".toList ++ Nat.toDigits 16 char.toNat ++ ['\x7d']
  else [char]

def quoted (text : String) : String :=
  "\"" ++ String.ofList (text.toList.flatMap escaped) ++ "\""

end Script.Text
