import ShaderBuild.Text.Hex
import ShaderBuild.Text.Printable

/-! Texts between double quotes, as messages show them. -/

namespace ShaderBuild.Text

/-- The hexadecimal digits of a number, without zeros in front. -/
def hexShort (value : Nat) : List Char :=
  match (hexFixed 6 value).dropWhile (· = '0') with
  | [] => ['0']
  | digits => digits

/-- A character as it stands between double quotes. -/
def quotedChar (c : Char) : List Char :=
  if c = '\x00' then ['\\', '0']
  else if c = '\t' then ['\\', 't']
  else if c = '\r' then ['\\', 'r']
  else if c = '\n' then ['\\', 'n']
  else if c = '"' then ['\\', '"']
  else if c = '\\' then ['\\', '\\']
  else if isPlain c then [c]
  else ['\\', 'u', '\x7b'] ++ hexShort c.toNat ++ ['\x7d']

/-- A text between double quotes. -/
def quoted (text : String) : String :=
  "\"" ++ String.ofList (text.toList.flatMap quotedChar) ++ "\""

end ShaderBuild.Text
