import Resilience.Yaml.Cursor
import Resilience.Yaml.Token

/-! Reading scalars. Plain and quoted scalars fold their lines; a block scalar keeps its lines or folds
    them, according to its indicator. Every reader is given a cursor on the first character of the
    scalar and returns the one behind it. Fuel for the length of the text is enough, because every step
    takes a character. -/

namespace Resilience.Yaml

/-- The space inside a scalar: blanks within a line, or line breaks, the first apart. -/
inductive Gap
  | blanks (cs : List Char)
  | breaks (first more : List Char)
deriving DecidableEq

namespace Gap

/-- What a gap stands for: a single line break is a space, and of several the first does not count. -/
def folded : Gap → List Char
  | .blanks cs => cs
  | .breaks first more =>
    if first = ['\n'] then (if more.isEmpty then [' '] else more) else first ++ more

def isBreaks : Gap → Bool
  | .blanks _ => false
  | .breaks _ _ => true

/-- Reads on in a gap. A tab before the column `least` of a later line is a fault. -/
def extend? (least : Nat) : Nat → Gap → Cursor → Option (Gap × Cursor)
  | 0, _, _ => none
  | fuel + 1, gap, c =>
    match c.rest with
    | [] => some (gap, c)
    | a :: _ =>
      if isBlank a then
        match gap with
        | .blanks cs => extend? least fuel (.blanks (cs ++ [a])) c.skip
        | .breaks .. =>
          if c.column < least ∧ a = '\t' then none else extend? least fuel gap c.skip
      else if isBreak a then
        let (taken, c) := c.takeBreak
        match gap with
        | .blanks _ => extend? least fuel (.breaks taken []) c
        | .breaks first more => extend? least fuel (.breaks first (more ++ taken)) c
      else some (gap, c)

/-- Reads a gap from its start. -/
def read? (least : Nat) (start : Gap) (c : Cursor) : Option (Gap × Cursor) :=
  extend? least (c.rest.length + 1) start c

end Gap

/-! ### Plain scalars -/

/-- The brackets and the comma of flow collections. -/
def isFlowIndicator (c : Char) : Bool :=
  c = ',' || c = '[' || c = ']' || c.toNat = 0x7B || c.toNat = 0x7D

/-- One word of a plain scalar. It ends before a colon that ends a word and, inside flow collections,
    before a flow indicator; there a colon in front of one is a fault. -/
def plainWord? (flow : Bool) : List Char → Option (List Char)
  | [] => some []
  | a :: rest =>
    if isSpace a then some []
    else if flow ∧ a = ':' ∧ rest.head?.any (fun b => isFlowIndicator b || b = '?') then none
    else if (a = ':' ∧ endsWord rest) ∨ (flow ∧ isFlowIndicator a) then some []
    else (plainWord? flow rest).map (a :: ·)

/-- A plain scalar that has been read: its text, what follows it, and whether a line ended there. -/
structure Plain where
  text : List Char
  cursor : Cursor
  lineEnded : Bool

/-- Reads on in a plain scalar, behind a gap. Outside flow collections it ends before a line that is
    indented less than `least`. -/
def plainFrom? (flow : Bool) (least : Nat) : Nat → Gap → Cursor → Option Plain
  | 0, _, _ => none
  | fuel + 1, gap, c =>
    if c.atMarker ∨ c.rest.head? = some '#' then some ⟨[], c, gap.isBreaks⟩
    else do
      let word ← plainWord? flow c.rest
      let behind := c.skip word.length
      let text := if word.isEmpty then [] else gap.folded ++ word
      let gap := if word.isEmpty then gap else .blanks []
      if behind.rest.isEmpty ∨ !endsWord behind.rest then some ⟨text, behind, gap.isBreaks⟩
      else
        let (gap, behind) ← gap.read? least behind
        if !flow ∧ behind.column < least then some ⟨text, behind, gap.isBreaks⟩
        else
          let more ← plainFrom? flow least fuel gap behind
          some { more with text := text ++ more.text }

def plain? (flow : Bool) (least : Nat) (c : Cursor) : Option Plain :=
  plainFrom? flow least (c.rest.length + 1) (.blanks []) c

/-! ### Quoted scalars -/

def hexDigit? (c : Char) : Option Nat :=
  if c.isDigit then some (c.toNat - 48)
  else if 'a' ≤ c ∧ c ≤ 'f' then some (c.toNat - 87)
  else if 'A' ≤ c ∧ c ≤ 'F' then some (c.toNat - 55)
  else none

/-- The character with a code of `n` hexadecimal digits. -/
def coded? (n : Nat) (cs : List Char) : Option Char := do
  let digits := cs.take n
  guard (digits.length = n)
  let code ← digits.foldlM (fun code c => (hexDigit? c).map (code * 16 + ·)) 0
  guard ((code < 0xD800 ∨ 0xDFFF < code) ∧ code ≤ 0x10FFFF)
  some (Char.ofNat code)

/-- The character that an escape stands for, and how many characters follow the backslash. -/
def escape? : List Char → Option (Char × Nat)
  | [] => none
  | c :: rest =>
    let one (code : Nat) : Option (Char × Nat) := some (Char.ofNat code, 1)
    let long (n : Nat) : Option (Char × Nat) := (coded? n rest).map fun c => (c, n + 1)
    match c with
    | '0' => one 0x0
    | 'a' => one 0x7
    | 'b' => one 0x8
    | 't' => one 0x9
    | '\t' => one 0x9
    | 'n' => one 0xA
    | 'v' => one 0xB
    | 'f' => one 0xC
    | 'r' => one 0xD
    | 'e' => one 0x1B
    | ' ' => one 0x20
    | '"' => one 0x22
    | '/' => one 0x2F
    | '\\' => one 0x5C
    | 'N' => one 0x85
    | '_' => one 0xA0
    | 'L' => one 0x2028
    | 'P' => one 0x2029
    | 'x' => long 2
    | 'u' => long 4
    | 'U' => long 8
    | _ => none

/-- The mark around a quoted scalar. -/
def quoteMark (single : Bool) : Char := if single then '\'' else '"'

/-- Characters of a quoted scalar up to space or the closing mark; an escaped line break is passed over
    and ends them too. -/
def quotedWord? (single : Bool) : Nat → Cursor → Option (List Char × Bool × Cursor)
  | 0, _ => none
  | fuel + 1, c =>
    let on (a : Char) (n : Nat) : Option (List Char × Bool × Cursor) :=
      (quotedWord? single fuel (c.skip n)).map fun (cs, broken, c) => (a :: cs, broken, c)
    match c.rest with
    | [] => some ([], false, c)
    | a :: rest =>
      if isSpace a then some ([], false, c)
      else if a = quoteMark single then
        if single ∧ rest.head? = some a then on a 2 else some ([], false, c)
      else if !single ∧ a = '\\' then
        if rest.head?.any isBreak then some ([], true, c.skip.takeBreak.2)
        else (escape? rest).bind fun (a, n) => on a (n + 1)
      else on a 1

/-- Reads on in a quoted scalar. A document marker inside it is a fault. -/
def quotedFrom? (single : Bool) : Nat → Cursor → Option (List Char × Cursor)
  | 0, _ => none
  | fuel + 1, c =>
    if c.atMarker ∨ c.rest.isEmpty then none
    else do
      let (word, broken, c) ← quotedWord? single (c.rest.length + 1) c
      if c.rest.head? = some (quoteMark single) then some (word, c.skip)
      else
        let (gap, c) ← Gap.read? 0 (if broken then .breaks [] [] else .blanks []) c
        let (more, c) ← quotedFrom? single fuel c
        some (word ++ gap.folded ++ more, c)

def quoted? (single : Bool) (c : Cursor) : Option (List Char × Cursor) :=
  quotedFrom? single (c.rest.length + 1) c.skip

/-! ### Block scalars -/

/-- What becomes of the line breaks at the end of a block scalar. -/
inductive Chomp
  | strip | clip | keep
deriving DecidableEq

/-- The indentation indicator: a digit other than zero. -/
def increment? (c : Char) : Option (Option Nat) :=
  if c = '0' then none else if c.isDigit then some (some (c.toNat - 48)) else some none

def chomp? (c : Char) : Option Chomp :=
  if c = '+' then some .keep else if c = '-' then some .strip else none

/-- The indicators of a block scalar, in either order, and how many there are. -/
def header? : List Char → Option (Chomp × Option Nat × Nat)
  | [] => some (.clip, none, 0)
  | a :: rest =>
    match chomp? a with
    | some chomp =>
      match rest with
      | [] => some (chomp, none, 1)
      | b :: _ => (increment? b).map fun n => (chomp, n, if n.isSome then 2 else 1)
    | none =>
      match increment? a with
      | none => none
      | some none => some (.clip, none, 0)
      | some n =>
        match rest.head?.bind chomp? with
        | some chomp => some (chomp, n, 2)
        | none => some (.clip, n, 1)

/-- The empty lines before the next line of a block scalar: their breaks, the widest of them and the
    place behind the indentation that follows. A tab inside the indentation is a fault. `indent` is not
    known before the first line that is not empty. -/
def emptyLines? (indent : Option Nat) : Nat → Cursor → Option (List Char × Nat × Cursor)
  | 0, _ => none
  | fuel + 1, c =>
    let indentation := c.rest.takeWhile (· = ' ')
    let c := c.skip (match indent with
      | some n => min indentation.length (n - c.column)
      | none => indentation.length)
    let inside : Bool :=
      match indent with
      | some n => c.column < n
      | none => true
    if inside ∧ c.rest.head? = some '\t' then none
    else if c.rest.head?.any isBreak then do
      let (taken, next) := c.takeBreak
      let (more, widest, behind) ← emptyLines? indent fuel next
      some (taken ++ more, max c.column widest, behind)
    else some ([], c.column, c)

/-- Reads the lines of a block scalar from the first that is not empty. `pending` is the break of the
    line before and `empty` are those of the empty lines after it; a break between two lines that do not
    start with a blank is folded. -/
def blockLines? (literal : Bool) (chomp : Chomp) (indent : Nat) :
    Nat → (pending empty : List Char) → (blankBefore : Bool) → Cursor → Option (List Char × Cursor)
  | 0, _, _, _, _ => none
  | fuel + 1, pending, empty, blankBefore, c =>
    if c.column = indent ∧ !c.rest.isEmpty then do
      let blank := c.rest.head?.any isBlank
      let joined :=
        if !literal ∧ pending = ['\n'] ∧ !blankBefore ∧ !blank then
          if empty.isEmpty then [' '] else empty
        else pending ++ empty
      let (line, c) := c.span fun a => !isBreak a
      let (pending, c) := c.takeBreak
      let (empty, _, c) ← emptyLines? (some indent) (c.rest.length + 1) c
      let (more, c) ← blockLines? literal chomp indent fuel pending empty blank c
      some (joined ++ line ++ more, c)
    else
      let tail :=
        match chomp with
        | .strip => []
        | .clip => pending
        | .keep => pending ++ empty
      some (tail, c)

/-- A block scalar in a block that is indented by `parent`, which is `-1` outside all blocks. -/
def block? (literal : Bool) (parent : Int) (c : Cursor) : Option (List Char × Cursor) := do
  let c := c.skip
  let (chomp, increment, n) ← header? c.rest
  let c ← (c.skip n).restOfLine?
  let given := increment.map fun n => if 0 ≤ parent then parent.toNat + n else n
  let (empty, widest, c) ← emptyLines? given (c.rest.length + 1) c
  let indent := given.getD (max (max widest (parent + 1).toNat) 1)
  blockLines? literal chomp indent (c.rest.length + 1) [] empty false c

end Resilience.Yaml
