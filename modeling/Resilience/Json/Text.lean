import Resilience.Json.Value
import Resilience.Decimal.Text
import Resilience.Text.Quoted

/-! Compact JSON text of a value: no blanks, members in their order. -/

namespace Resilience.Json

/-- Two hexadecimal digits. -/
def hexPair (n : Nat) : String := String.ofList [Nat.digitChar (n / 16), Nat.digitChar (n % 16)]

/-- A character inside a JSON string. Only quotes, backslashes and control characters are escaped. -/
def escapeChar (c : Char) : String :=
  if c = '"' then "\\\""
  else if c = '\\' then "\\\\"
  else if c = '\n' then "\\n"
  else if c = '\r' then "\\r"
  else if c = '\t' then "\\t"
  else if c.toNat = 8 then "\\b"
  else if c.toNat = 12 then "\\f"
  else if c.toNat < 32 then "\\u00" ++ hexPair c.toNat
  else c.toString

def stringText (s : String) : String := "\"" ++ String.join (s.toList.map escapeChar) ++ "\""

/-- Doubles that are not finite have no JSON text and become `null`. -/
def numberText : Number → String
  | .whole n => toString n
  | .float x => ((Binary64.ofFloat x).documentText? "+").getD "null"

mutual

def compact : Json → String
  | .null => "null"
  | .bool b => if b then "true" else "false"
  | .number n => numberText n
  | .text s => stringText s
  | .array items => "[" ++ ",".intercalate (compactItems items) ++ "]"
  | .object members => "\x7b" ++ ",".intercalate (compactMembers members) ++ "\x7d"

def compactItems : List Json → List String
  | [] => []
  | v :: items => compact v :: compactItems items

def compactMembers : List (String × Json) → List String
  | [] => []
  | (key, v) :: members => (stringText key ++ ":" ++ compact v) :: compactMembers members

end

end Resilience.Json
