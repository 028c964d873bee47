import Resilience.Decimal.Text
import Resilience.Json.Text
import Resilience.Yaml.Cursor
import Resilience.Yaml.Schema
import Resilience.Yaml.Token

/-! YAML text of a value. Members stand on lines of their own, two columns further in than their
    object. Texts are written plainly where that reads back as the same text, and else in quotes or, if
    they have several lines, as a block. -/

namespace Resilience.Yaml

/-! ### Choosing a style -/

/-- Whether a character may be written as it is. -/
def isPrintable (c : Char) : Bool :=
  let n := c.toNat
  n = 0xA || (0x20 ≤ n && n ≤ 0x7E) || (0xA0 ≤ n && n ≤ 0xD7FF) ||
    (0xE000 ≤ n && n ≤ 0xFFFD && n ≠ 0xFEFF)

/-- Whether two neighbours are related. -/
def someNeighbours (r : Char → Char → Bool) : List Char → Bool
  | a :: b :: rest => r a b || someNeighbours r (b :: rest)
  | _ => false

/-- Whether these characters start something else than a plain scalar. -/
def startsOther (cs : List Char) : Bool :=
  match cs with
  | [] => false
  | c :: rest =>
    "#,[]&*!|>'\"%@".toList.contains c || c.toNat = 0x60 || c.toNat = 0x7B || c.toNat = 0x7D ||
      ((c = '?' || c = '-') && endsWord rest) || ["---".toList, "...".toList].contains (cs.take 3)

def allowsPlain (cs : List Char) : Bool :=
  cs.all (fun c => isPrintable c && !isBreak c) && !startsOther cs &&
    cs.head? ≠ some ' ' && cs.getLast? ≠ some ' ' && cs.getLast? ≠ some ':' &&
    !someNeighbours (fun a b => (a = ':' && b = ' ') || (a = ' ' && b = '#')) cs

/-- Whether the text survives the folding of lines in single quotes. -/
def allowsSingleQuoted (cs : List Char) : Bool :=
  cs.all isPrintable &&
    !someNeighbours (fun a b => (isBreak a && b = ' ') || (a = ' ' && isBreak b)) cs

def allowsLiteral (cs : List Char) : Bool :=
  cs.all isPrintable && cs.getLast? ≠ some ' ' && !someNeighbours (fun a b => a = ' ' && isBreak b) cs

/-- Words that other readers take for truth values. -/
def truthWords : List String :=
  ["y", "Y", "yes", "Yes", "YES", "n", "N", "no", "No", "NO", "true", "True", "TRUE", "false", "False",
   "FALSE", "on", "On", "ON", "off", "Off", "OFF"]

/-- Whether a text could be taken for something else if it were written plainly. -/
def isAmbiguous (s : String) : Bool :=
  truthWords.contains s || isPadded s.toList ||
    match plainValue s with
    | .text => false
    | _ => true

def styleFor (s : String) : Style :=
  let cs := s.toList
  if cs.contains '\n' then if allowsLiteral cs then .literal else .doubleQuoted
  else if !isAmbiguous s && allowsPlain cs then .plain
  else if allowsSingleQuoted cs then .singleQuoted
  else .doubleQuoted

/-! ### Scalars -/

/-- Upper-case hexadecimal digits, `width` of them. -/
def hexDigits (width n : Nat) : List Char :=
  let digits := (Nat.toDigits 16 n).map Char.toUpper
  List.replicate (width - digits.length) '0' ++ digits

/-- A character in double quotes. -/
def escaped (c : Char) : List Char :=
  let n := c.toNat
  if c = '"' ∨ c = '\\' then ['\\', c]
  else if isPrintable c ∧ !isBreak c then [c]
  else
    '\\' ::
      match n with
      | 0x0 => ['0']
      | 0x7 => ['a']
      | 0x8 => ['b']
      | 0x9 => ['t']
      | 0xA => ['n']
      | 0xB => ['v']
      | 0xC => ['f']
      | 0xD => ['r']
      | 0x1B => ['e']
      | 0x85 => ['N']
      | 0x2028 => ['L']
      | 0x2029 => ['P']
      | _ =>
        if n ≤ 0xFF then 'x' :: hexDigits 2 n
        else if n ≤ 0xFFFF then 'u' :: hexDigits 4 n
        else 'U' :: hexDigits 8 n

/-- Indents every line that is not empty; the first counts if `fresh`. -/
def indentLines (indent : Nat) : (fresh : Bool) → List Char → List Char
  | _, [] => []
  | fresh, c :: cs =>
    if isBreak c then c :: indentLines indent true cs
    else (if fresh then List.replicate indent ' ' else []) ++ c :: indentLines indent false cs

/-- The indicators of a block scalar: its indentation if that does not show, and what becomes of the
    line breaks at its end. -/
def indicators (cs : List Char) : List Char :=
  let indentation := if cs.head?.any fun c => c = ' ' || isBreak c then ['2'] else []
  let chomp :=
    match cs.reverse with
    | [] => ['-']
    | last :: before =>
      if !isBreak last then ['-'] else if before.isEmpty || before.head?.any isBreak then ['+'] else []
  indentation ++ chomp

/-- A text as a scalar up to the end of its last line, with further lines indented. -/
def scalarText (indent : Nat) (s : String) : String :=
  let cs := s.toList
  String.ofList <|
    match styleFor s with
    | .singleQuoted =>
      let doubled := cs.flatMap fun c => if c = '\'' then [c, c] else [c]
      '\'' :: indentLines indent false (doubled ++ ['\'', '\n'])
    | .doubleQuoted => ['"'] ++ cs.flatMap escaped ++ ['"', '\n']
    | .literal =>
      ['|'] ++ indicators cs ++ ['\n'] ++ indentLines indent true cs ++
        (if cs.getLast?.any isBreak then [] else ['\n'])
    | _ => cs ++ ['\n']

/-- Infinities and what is not a number have names of their own. -/
def numberText : Json.Number → String
  | .whole n => toString n
  | .float x =>
    match Binary64.ofFloat x with
    | .notANumber => ".nan"
    | .infinite negative => Binary64.signText negative ++ ".inf"
    | x => (x.documentText? "").getD ""

/-! ### Values -/

mutual

/-- A value behind the key of a member that is indented by `indent`, with the end of its line. An array
    is written in one line. -/
def valueText (indent : Nat) : Json → String
  | .null => " null\n"
  | .bool b => if b then " true\n" else " false\n"
  | .number n => " " ++ numberText n ++ "\n"
  | .text s => " " ++ scalarText (indent + 2) s
  | .array items => " " ++ (Json.array items).compact ++ "\n"
  | .object [] => " \x7b\x7d\n"
  | .object members => "\n" ++ membersText (indent + 2) members

def membersText (indent : Nat) : List (String × Json) → String
  | [] => ""
  | (key, v) :: members =>
    String.ofList (List.replicate indent ' ') ++ key ++ ":" ++ valueText indent v ++
      membersText indent members

end

/-- The text of a document. -/
def text : Json → String
  | .object (m :: members) => membersText 0 (m :: members)
  | v => String.ofList ((valueText 0 v).toList.drop 1)

end Resilience.Yaml
