import Bounty.Yaml.Scalar
/-!
Tokens of YAML. Nesting by indentation is made explicit, and a key that is only recognised by the
colon behind it gets its token at the place where it started.
-/
namespace Bounty.Yaml

inductive Token where
  | version (major : Nat)
  | tagPrefix (handle text : String)
  | unknownDirective
  | documentStart
  | documentEnd
  | blockSequence
  | blockMapping
  | blockEnd
  | flowSequence
  | flowSequenceEnd
  | flowMapping
  | flowMappingEnd
  | entry
  | flowEntry
  | key
  | value
  | alias (name : String)
  | anchor (name : String)
  | tag (handle : Option String) (suffix : String)
  | scalar (plain : Bool) (text : String)
deriving DecidableEq, Repr

/-- A place that may turn out to be a key: the number of tokens before it, whether it has to be one,
and where it is. -/
structure Candidate where
  before : Nat
  required : Bool
  index : Nat
  line : Nat
  column : Nat

/-- The tokens found so far, and what decides about the next one. `level` counts the open brackets;
there is at most one candidate per level. -/
structure Scanner where
  cursor : Cursor
  tokens : Array Token
  indent : Int
  outer : List Int
  level : Nat
  keyAllowed : Bool
  candidates : List (Nat × Candidate)

namespace Scanner

/-- How far a key may be away from its colon. -/
def keyLimit : Nat := 1024

def push (s : Scanner) (t : Token) : Scanner := { s with tokens := s.tokens.push t }

def candidate? (s : Scanner) : Option Candidate := s.candidates.lookup s.level

/-- Gives up the candidate of the current level, unless it has to be a key. -/
def dropCandidate? (s : Scanner) : Option Scanner :=
  match s.candidate? with
  | none => some s
  | some c =>
    if c.required then none
    else some { s with candidates := s.candidates.filter (·.1 != s.level) }

def isStale (s : Scanner) (c : Candidate) : Bool :=
  c.line != s.cursor.line || s.cursor.index - c.index > keyLimit

/-- Gives up the candidates that are on another line or too far away. -/
def dropStale? (s : Scanner) : Option Scanner :=
  if s.candidates.any fun (_, c) => s.isStale c && c.required then none
  else some { s with candidates := s.candidates.filter fun (_, c) => !s.isStale c }

/-- Takes note that a key may start here. -/
def noteCandidate? (s : Scanner) : Option Scanner :=
  if !s.keyAllowed then some s
  else do
    let s ← s.dropCandidate?
    let required := s.level == 0 && s.indent == s.cursor.column
    let c : Candidate := ⟨s.tokens.size, required, s.cursor.index, s.cursor.line, s.cursor.column⟩
    return { s with candidates := (s.level, c) :: s.candidates }

/-- Closes the blocks that are indented deeper than a column. -/
def unwind (s : Scanner) (column : Int) : Scanner :=
  if s.level != 0 then s
  else go s s.outer
where
  go (s : Scanner) : List Int → Scanner
    | [] => s
    | indent :: outer =>
      if s.indent > column then go { s.push .blockEnd with indent, outer } outer else s

/-- Opens a block at a column, if it is indented deeper than the current one. -/
def indentTo? (s : Scanner) (column : Int) : Option Scanner :=
  if s.indent < column then some { s with indent := column, outer := s.indent :: s.outer } else none

/-- Goes on over blanks, comments and line ends. A new line outside brackets may start a key. -/
def skipGap : Nat → Scanner → Scanner
  | 0, s => s
  | fuel + 1, s =>
    let c := s.cursor.skip (· == ' ')
    let c := if c.peek? == some '#' then c.skip (!isBreak ·) else c
    match c.lineBreak? with
    | some (_, c) => skipGap fuel { s with cursor := c, keyAllowed := s.keyAllowed || s.level == 0 }
    | none => { s with cursor := c }

def isNameChar (c : Char) : Bool := c.isAlphanum || c == '-' || c == '_'

/-- The name of an anchor or an alias, and the place after it. -/
def anchorName? (c : Cursor) : Option (String × Cursor) :=
  let (name, c) := c.advance.span isNameChar
  if name.isEmpty then none
  else if Cursor.endsWord c.peek? || c.peek?.any ("?:,]\x7d%@\x60".toList.contains ·) then
    some (String.ofList name, c)
  else none

def isUriChar (c : Char) : Bool :=
  c.isAlphanum || "-;/?:@&=+$,_.!~*'()[]".toList.contains c

/-- The bytes that escapes with percent signs stand for. -/
def uriBytes : Nat → Cursor → Option (List UInt8 × Cursor)
  | 0, c => some ([], c)
  | fuel + 1, c => match c.rest with
    | '%' :: a :: b :: _ => do
      let a ← Numeral.hexValue? a
      let b ← Numeral.hexValue? b
      let (others, c) ← uriBytes fuel (c.advanceBy 3)
      return (UInt8.ofNat (16 * a + b) :: others, c)
    | '%' :: _ => none
    | _ => some ([], c)

/-- The characters of a tag or of the prefix of tags. -/
def uriFrom? : Nat → List Char → Cursor → Option (List Char × Cursor)
  | 0, found, c => some (found, c)
  | fuel + 1, found, c =>
    if c.peek? == some '%' then do
      let (bytes, c) ← uriBytes (c.rest.length + 1) c
      let s ← String.fromUTF8? (ByteArray.mk bytes.toArray)
      uriFrom? fuel (found ++ s.toList) c
    else
      let (chars, after) := c.span isUriChar
      if chars.isEmpty then some (found, c)
      else uriFrom? fuel (found ++ chars) after

def uri? (c : Cursor) : Option (String × Cursor) := do
  let (chars, c) ← uriFrom? (c.rest.length + 1) [] c
  if chars.isEmpty then none else return (String.ofList chars, c)

/-- A handle of tags: an exclamation mark, or a name between two of them. -/
def tagHandle? (c : Cursor) : Option (String × Cursor) :=
  if c.peek? != some '!' then none
  else
    let (name, after) := c.advance.span isNameChar
    if after.peek? == some '!' then some (String.ofList ('!' :: name ++ ['!']), after.advance)
    else if name.isEmpty && after.peek? == some ' ' then some ("!", after)
    else none

/-- Whether a second exclamation mark comes before the end of the word. -/
def hasHandle (c : Cursor) : Bool :=
  ((c.rest.drop 1).takeWhile fun ch => ch != ' ' && !isBreak ch).contains '!'

/-- A tag, and the place after it. -/
def tag? (c : Cursor) : Option (Token × Cursor) := do
  let (t, c) ←
    if c.second? == some '<' then
      match uri? (c.advanceBy 2) with
      | some (suffix, c) =>
        if c.peek? == some '>' then some (Token.tag none suffix, c.advance) else none
      | none => none
    else if Cursor.endsWord c.second? then some (Token.tag none "!", c.advance)
    else
      let handle? := if hasHandle c then tagHandle? c else some ("!", c.advance)
      handle?.bind fun (handle, c) =>
        (uri? c).map fun (suffix, c) => (Token.tag (some handle) suffix, c)
  if c.peek? == some ' ' || Cursor.endsLine c.peek? then return (t, c) else none

def number? (c : Cursor) : Option (Nat × Cursor) :=
  let (digits, c) := c.span Char.isDigit
  if digits.isEmpty || digits.length > Numeral.digitLimit then none
  else some (Nat.ofDigitChars 10 digits 0, c)

/-- The version after the name of its directive. -/
def versionDirective? (c : Cursor) : Option (Token × Cursor) := do
  let (major, c) ← number? (c.skip (· == ' '))
  if c.peek? != some '.' then none
  else do
    let (_, c) ← number? c.advance
    if c.peek? == some ' ' || Cursor.endsLine c.peek? then return (.version major, c) else none

/-- The handle and the prefix after the name of their directive. -/
def tagDirective? (c : Cursor) : Option (Token × Cursor) := do
  let (handle, c) ← tagHandle? (c.skip (· == ' '))
  if c.peek? != some ' ' then none
  else do
    let (text, c) ← uri? (c.skip (· == ' '))
    if c.peek? == some ' ' || Cursor.endsLine c.peek? then return (.tagPrefix handle text, c)
    else none

/-- A directive from its percent sign on. -/
def directive? (c : Cursor) : Option (Token × Cursor) := do
  let (name, c) := c.advance.span isNameChar
  if name.isEmpty || !(c.peek? == some ' ' || Cursor.endsLine c.peek?) then none
  else do
    let (t, c) ←
      if name == "YAML".toList then versionDirective? c
      else if name == "TAG".toList then tagDirective? c
      else some (.unknownDirective, c.skip (!isBreak ·))
    let c ← c.restOfLine?
    return (t, c)

/-- A directive or a document marker: all blocks are closed before it. -/
def outermost? (s : Scanner) : Option Scanner := do
  let s ← (s.unwind (-1)).dropCandidate?
  return { s with keyAllowed := false }

def openFlow? (s : Scanner) (t : Token) : Option Scanner := do
  let s ← s.noteCandidate?
  return { s.push t with level := s.level + 1, keyAllowed := true, cursor := s.cursor.advance }

def closeFlow? (s : Scanner) (t : Token) : Option Scanner := do
  let s ← s.dropCandidate?
  if s.level = 0 then none
  else
    let cursor := s.cursor.advance
    return { s.push t with level := s.level - 1, keyAllowed := false, cursor }

def flowEntry? (s : Scanner) : Option Scanner := do
  let s ← s.dropCandidate?
  return { s.push .flowEntry with keyAllowed := true, cursor := s.cursor.advance }

/-- Opens a block for a token that may only stand where a key is allowed. -/
def openBlock? (s : Scanner) (block : Token) : Option Scanner :=
  if s.level != 0 then some s
  else if !s.keyAllowed then none
  else match s.indentTo? s.cursor.column with
    | some s => some (s.push block)
    | none => some s

def entry? (s : Scanner) : Option Scanner := do
  let s ← s.openBlock? .blockSequence
  let s ← s.dropCandidate?
  return { s.push .entry with keyAllowed := true, cursor := s.cursor.advance }

def key? (s : Scanner) : Option Scanner := do
  let s ← s.openBlock? .blockMapping
  let s ← s.dropCandidate?
  return { s.push .key with keyAllowed := s.level == 0, cursor := s.cursor.advance }

def insert (s : Scanner) (i : Nat) (t : Token) : Scanner :=
  { s with tokens := (s.tokens.toList.insertIdx i t).toArray }

/-- A colon. It makes the candidate of its level a key, if there is one. -/
def value? (s : Scanner) : Option Scanner :=
  match s.candidate? with
  | some c =>
    let s := { s with candidates := s.candidates.filter (·.1 != s.level), keyAllowed := false }
    let s := s.insert c.before .key
    let s := if s.level != 0 then s
      else match s.indentTo? c.column with
        | some s => s.insert c.before .blockMapping
        | none => s
    some { s.push .value with cursor := s.cursor.advance }
  | none => do
    let s ← s.openBlock? .blockMapping
    return { s.push .value with keyAllowed := s.level == 0, cursor := s.cursor.advance }

/-- A token that may be a key. -/
def node (s : Scanner) (read : Cursor → Except Fault (Token × Cursor)) : Except Fault Scanner := do
  let s ← s.noteCandidate?
  let (t, c) ← read s.cursor
  return { s.push t with keyAllowed := false, cursor := c }

def quotedToken (double : Bool) (c : Cursor) : Except Fault (Token × Cursor) := do
  let (text, c) ← quoted double c
  return (.scalar false (String.ofList text), c)

def anchorToken (make : String → Token) (c : Cursor) : Except Fault (Token × Cursor) := do
  let (name, c) ← anchorName? c
  return (make name, c)

def blockToken? (s : Scanner) : Option Scanner := do
  let s ← s.dropCandidate?
  let (text, c) ← block? s.indent s.cursor
  return { s.push (.scalar false (String.ofList text)) with keyAllowed := true, cursor := c }

def plainToken? (s : Scanner) : Option Scanner := do
  let s ← s.noteCandidate?
  let (text, ended, c) := plain (s.level != 0) s.indent s.cursor
  return { s.push (.scalar true (String.ofList text)) with keyAllowed := ended, cursor := c }

/-- Whether a plain text can start here. -/
def startsPlain (s : Scanner) : Bool :=
  match s.cursor.peek? with
  | none => false
  | some ch =>
    if isBlank ch || isBreak ch then false
    else if "-?:,[]\x7b\x7d#&*!|>'\x22%@\x60".toList.contains ch then
      !Cursor.endsWord s.cursor.second? && (ch == '-' || (s.level == 0 && (ch == '?' || ch == ':')))
    else true

/-- Scans one token; there has to be one. -/
def next (s : Scanner) : Except Fault Scanner :=
  let c := s.cursor
  let spaced := Cursor.endsWord c.second?
  match c.peek? with
  | none => .error .malformed
  | some ch =>
    if ch == '%' && c.column == 0 then do
      let s ← s.outermost?
      let (t, c) ← directive? s.cursor
      return { s.push t with cursor := c }
    else if c.column == 0 && c.atMarker '-' then do
      let s ← s.outermost?
      return { s.push .documentStart with cursor := s.cursor.advanceBy 3 }
    else if c.column == 0 && c.atMarker '.' then do
      let s ← s.outermost?
      return { s.push .documentEnd with cursor := s.cursor.advanceBy 3 }
    else if ch == '[' then liftM (s.openFlow? .flowSequence)
    else if ch == '\x7b' then liftM (s.openFlow? .flowMapping)
    else if ch == ']' then liftM (s.closeFlow? .flowSequenceEnd)
    else if ch == '\x7d' then liftM (s.closeFlow? .flowMappingEnd)
    else if ch == ',' then liftM s.flowEntry?
    else if ch == '-' && spaced then liftM s.entry?
    else if ch == '?' && (s.level != 0 || spaced) then liftM s.key?
    else if ch == ':' && (s.level != 0 || spaced) then liftM s.value?
    else if ch == '*' then s.node (anchorToken .alias)
    else if ch == '&' then s.node (anchorToken .anchor)
    else if ch == '!' then s.node fun c => liftM (tag? c)
    else if (ch == '|' || ch == '>') && s.level == 0 then liftM s.blockToken?
    else if ch == '\x27' then s.node (quotedToken false)
    else if ch == '\x22' then s.node (quotedToken true)
    else if s.startsPlain then liftM s.plainToken?
    else .error .malformed

/-- The number of tokens that are certain: the next one may still turn out to be a key. -/
def certain (s : Scanner) : Nat :=
  s.candidates.foldl (fun n (_, c) => if s.isStale c then n else min n c.before) s.tokens.size

/-- Scans all tokens up to the end of the text. A code that is too large ends them after those that
are certain, as the tokens before may be faulty, too. -/
def run : Nat → Scanner → Except Fault (List Token × Option Fault)
  | 0, _ => .error .malformed
  | fuel + 1, s => do
    let certain := s.certain
    let s := skipGap (s.cursor.rest.length + 1) s
    let s ← s.dropStale?
    let s := s.unwind s.cursor.column
    if s.cursor.rest.isEmpty then do
      let s ← (s.unwind (-1)).dropCandidate?
      return (s.tokens.toList, none)
    else match s.next with
      | .ok s => run fuel s
      | .error .hugeCode => .ok (s.tokens.toList.take certain, some .hugeCode)
      | .error fault => .error fault

end Scanner

/-- The tokens of a text, and what keeps later ones from being found. A byte order mark at its start
does not count. -/
def Token.scan (text : String) : Except Fault (List Token × Option Fault) := do
  let cs := text.toList
  if !cs.all isAllowed then .error .malformed
  else do
    let cursor := Cursor.start cs
    let cursor := if cursor.peek? == some '\uFEFF' then cursor.advance else cursor
    Scanner.run (cs.length + 2) ⟨cursor, #[], -1, [], 0, true, []⟩

end Bounty.Yaml
