import Resilience.Yaml.Scalar

/-! Reading directives, anchors, aliases and tags. -/

namespace Resilience.Yaml

/-! ### Names -/

/-- What may stand right behind the name of an anchor or alias. -/
def endsName (cs : List Char) : Bool :=
  endsWord cs || cs.head?.any fun c =>
    c = '?' || c = ':' || c = ',' || c = ']' || c.toNat = 0x7D || c = '%' || c = '@' || c.toNat = 0x60

/-- The name of an anchor or alias behind its indicator. -/
def name? (c : Cursor) : Option (String × Cursor) :=
  let (cs, c) := c.skip.span isNameChar
  if cs.isEmpty ∨ !endsName c.rest then none else some (String.ofList cs, c)

/-! ### Tags -/

/-- The characters of a tag besides those of names. -/
def isTagChar (verbatim : Bool) (c : Char) : Bool :=
  isNameChar c || ";/?:@&=+$.!~*'()".toList.contains c ||
    (verbatim && (c = ',' || c = '[' || c = ']'))

/-- One byte written as a percent sign and two hexadecimal digits. -/
def escapedByte? : List Char → Option (Nat × List Char)
  | '%' :: a :: b :: rest => do
    let high ← hexDigit? a
    let low ← hexDigit? b
    some (high * 16 + low, rest)
  | _ => none

/-- The bytes of a character that follow its first one. -/
def trailingBytes? : Nat → Nat → List Char → Option (Nat × List Char)
  | 0, code, rest => some (code, rest)
  | n + 1, code, rest => do
    let (byte, rest) ← escapedByte? rest
    guard (byte / 64 = 2)
    trailingBytes? n (code * 64 + byte % 64) rest

/-- A character written as its UTF-8 bytes, and what follows it. -/
def escapedChar? (cs : List Char) : Option (Char × List Char) := do
  let (first, rest) ← escapedByte? cs
  let (code, rest) ←
    if first < 0x80 then some (first, rest)
    else if first / 32 = 6 then trailingBytes? 1 (first % 32) rest
    else if first / 16 = 14 then trailingBytes? 2 (first % 16) rest
    else if first / 8 = 30 then trailingBytes? 3 (first % 8) rest
    else none
  some (Char.ofNat code, rest)

/-- Characters of a tag as far as they go, with escaped ones decoded. -/
def tagChars? (verbatim : Bool) : Nat → List Char → Option (List Char × List Char)
  | 0, _ => none
  | fuel + 1, cs =>
    match cs with
    | [] => some ([], [])
    | c :: rest =>
      if c = '%' then do
        let (c, rest) ← escapedChar? (c :: rest)
        let (more, rest) ← tagChars? verbatim fuel rest
        some (c :: more, rest)
      else if isTagChar verbatim c then do
        let (more, rest) ← tagChars? verbatim fuel rest
        some (c :: more, rest)
      else some ([], c :: rest)

/-- Reads characters of a tag, which must be some unless there is something before them. -/
def tagText? (verbatim started : Bool) (c : Cursor) : Option (List Char × Cursor) := do
  let (cs, rest) ← tagChars? verbatim (c.rest.length + 1) c.rest
  guard (started ∨ !cs.isEmpty)
  some (cs, c.skip (c.rest.length - rest.length))

/-- A handle: an exclamation mark, or a name between two. A single mark may be followed by a name that
    belongs to no handle. -/
def handle? (c : Cursor) : Option (List Char × Cursor) :=
  if c.rest.head? = some '!' then
    let (cs, c) := c.skip.span isNameChar
    if c.rest.head? = some '!' then some ('!' :: cs ++ ['!'], c.skip) else some ('!' :: cs, c)
  else none

/-- Whether a handle is one between two marks. -/
def isNamedHandle (handle : List Char) : Bool := 1 < handle.length && handle.getLast? = some '!'

/-- A tag as a handle and a suffix. A verbatim tag and the tag `!` have no handle. -/
def tag? (flow : Bool) (c : Cursor) : Option (Token × Cursor) := do
  let (handle, suffix, c) ←
    if c.rest.drop 1 |>.head? |>.any (· = '<') then do
      let (suffix, c) ← tagText? true false (c.skip 2)
      guard (c.rest.head? = some '>')
      some ([], suffix, c.skip)
    else do
      let (handle, c) ← handle? c
      if isNamedHandle handle then
        let (suffix, c) ← tagText? false false c
        some (handle, suffix, c)
      else
        let (more, c) ← tagText? false true c
        let suffix := handle.drop 1 ++ more
        some (if suffix.isEmpty then ([], ['!'], c) else (['!'], suffix, c))
  guard ((flow ∧ c.rest.head? = some ',') ∨ endsWord c.rest)
  some (.tag (String.ofList handle) (String.ofList suffix), c)

/-! ### Directives -/

/-- A number of at most nine digits. -/
def versionNumber? (c : Cursor) : Option (Nat × Cursor) :=
  let (cs, c) := c.span Char.isDigit
  if cs.isEmpty ∨ 9 < cs.length then none
  else some (cs.foldl (fun n d => n * 10 + (d.toNat - 48)) 0, c)

def version? (c : Cursor) : Option (Token × Cursor) := do
  let (major, c) ← versionNumber? (c.skipWhile isBlank)
  guard (c.rest.head? = some '.')
  let (minor, c) ← versionNumber? c.skip
  some (.version major minor, c)

/-- The declaration of a handle and of what it stands for. -/
def tagHandle? (c : Cursor) : Option (Token × Cursor) := do
  let (handle, c) ← handle? (c.skipWhile isBlank)
  guard (handle = ['!'] ∨ isNamedHandle handle)
  guard (c.rest.head?.any isBlank)
  let (stem, c) ← tagText? true false (c.skipWhile isBlank)
  guard (endsWord c.rest)
  some (.tagHandle (String.ofList handle) (String.ofList stem), c)

/-- A directive with its line. There are two kinds. -/
def directive? (c : Cursor) : Option (Token × Cursor) := do
  let (name, c) := c.skip.span isNameChar
  guard (!name.isEmpty ∧ endsWord c.rest)
  let (token, c) ←
    match String.ofList name with
    | "YAML" => version? c
    | "TAG" => tagHandle? c
    | _ => none
  let c ← c.restOfLine?
  some (token, c)

end Resilience.Yaml
