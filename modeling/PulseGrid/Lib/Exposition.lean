/-
  PulseGrid.Lib.Exposition

  The Prometheus text exposition format, version 0.0.4, as a parser of pages.

  A page is a sequence of lines, each ended by a line feed: `# HELP` and `# TYPE` lines,
  samples, comments and empty lines.  Tokens are separated by blanks and tabs, which mean
  nothing at the ends of a line.  The lines of a metric form one group, the optional HELP
  and TYPE lines first; a histogram or summary group holds the samples of its derived names
  too, and no metric name belongs to two groups.
-/

import PulseGrid.Lib.RustStr

namespace Exposition

-- ============================================================================
-- Words
-- ============================================================================

def isBlank (c : Char) : Bool := c = ' ' || c = '\t'

def skipBlanks (s : List Char) : List Char := s.dropWhile isBlank

def trimBlanks (s : List Char) : List Char := (skipBlanks s).rdropWhile isBlank

/-- Metric names: `[a-zA-Z_:][a-zA-Z0-9_:]*`. -/
def isNameStart (c : Char) : Bool := c.isAlpha || c = '_' || c = ':'

def isNameChar (c : Char) : Bool := c.isAlphanum || c = '_' || c = ':'

/-- Label names: `[a-zA-Z_][a-zA-Z0-9_]*`. -/
def isLabelStart (c : Char) : Bool := c.isAlpha || c = '_'

def isLabelChar (c : Char) : Bool := c.isAlphanum || c = '_'

/-- The longest word at the start of a text, and what follows it. -/
def readWord (start char : Char → Bool) : List Char → Option (List Char × List Char)
  | [] => none
  | c :: s => if start c then some (c :: s.takeWhile char, s.dropWhile char) else none

-- ============================================================================
-- Numbers
-- ============================================================================

/-- A sample value: `mantissa * 10 ^ exponent`, or one of the special values. -/
inductive Value where
  | decimal (mantissa exponent : Int)
  | posInf
  | negInf
  | nan
deriving DecidableEq, Repr

def splitSign : List Char → Bool × List Char
  | '-' :: s => (true, s)
  | '+' :: s => (false, s)
  | s => (false, s)

def withSign (negative : Bool) (n : Nat) : Int := if negative then -(n : Int) else n

/-- The number of a text of digits. -/
def number (s : List Char) : Nat := Nat.ofDigitChars 10 s 0

def readExponent : List Char → Option Int
  | [] => some 0
  | c :: s =>
      let (negative, digits) := splitSign s
      if (c = 'e' ∨ c = 'E') ∧ digits ≠ [] ∧ digits.all Char.isDigit then
        some (withSign negative (number digits))
      else none

/-- What follows a decimal point. -/
def splitFraction : List Char → List Char × List Char
  | '.' :: s => (s.takeWhile Char.isDigit, s.dropWhile Char.isDigit)
  | s => ([], s)

def readDecimal (negative : Bool) (s : List Char) : Option Value :=
  let whole := s.takeWhile Char.isDigit
  let (fraction, rest) := splitFraction (s.dropWhile Char.isDigit)
  if whole ++ fraction = [] then none
  else (readExponent rest).map fun e =>
    .decimal (withSign negative (number (whole ++ fraction))) (e - fraction.length)

/-- A number as `ParseFloat` reads it, in decimal. -/
def Value.parse (token : List Char) : Option Value :=
  let (negative, s) := splitSign token
  let lower := s.map Char.toLower
  if lower = "inf".toList ∨ lower = "infinity".toList then
    some (if negative then .negInf else .posInf)
  else if lower = "nan".toList then some .nan
  else readDecimal negative s

-- ============================================================================
-- Lines
-- ============================================================================

inductive Kind where
  | counter
  | gauge
  | histogram
  | summary
  | untyped
deriving DecidableEq, Repr

def Kind.text : Kind → List Char
  | .counter => "counter".toList
  | .gauge => "gauge".toList
  | .histogram => "histogram".toList
  | .summary => "summary".toList
  | .untyped => "untyped".toList

def Kind.parse (s : List Char) : Option Kind :=
  [Kind.counter, .gauge, .histogram, .summary, .untyped].find? fun kind => kind.text = s

structure Sample where
  name : List Char
  labels : List (List Char × List Char)
  value : Value
deriving DecidableEq, Repr

/-- What tells a sample from the others of a page. -/
def Sample.series (s : Sample) : List Char × List (List Char × List Char) := (s.name, s.labels)

inductive Line where
  | help (name doc : List Char)
  | type (name : List Char) (kind : Kind)
  | sample (s : Sample)
  /-- A comment or an empty line. -/
  | other
deriving DecidableEq, Repr

/-- The label value up to its closing quote, and what follows. -/
def readLabelValue : List Char → Option (List Char × List Char)
  | '"' :: s => some ([], s)
  | '\\' :: c :: s =>
      if c = '\\' ∨ c = '"' ∨ c = 'n' then
        (readLabelValue s).map fun r => ((if c = 'n' then '\n' else c) :: r.1, r.2)
      else none
  | c :: s =>
      if c = '\\' ∨ c = '\n' then none else (readLabelValue s).map fun r => (c :: r.1, r.2)
  | [] => none

/-- What follows a character that has to be there. -/
def expect (c : Char) : List Char → Option (List Char)
  | d :: s => if d = c then some s else none
  | [] => none

def readLabel (s : List Char) : Option ((List Char × List Char) × List Char) := do
  let (name, s) ← readWord isLabelStart isLabelChar s
  let s ← expect '=' (skipBlanks s)
  let s ← expect '"' (skipBlanks s)
  let (value, s) ← readLabelValue s
  return ((name, value), skipBlanks s)

/-- The labels up to the closing brace, and what follows; each takes a step. -/
def readLabels : (steps : Nat) → List Char → Option (List (List Char × List Char) × List Char)
  | 0, _ => none
  | steps + 1, s =>
      match expect '}' (skipBlanks s) with
      | some s => some ([], s)
      | none => do
          let (label, s) ← readLabel (skipBlanks s)
          match expect ',' s with
          | some s => (readLabels steps s).map fun r => (label :: r.1, r.2)
          | none => (expect '}' s).map fun s => ([label], s)

/-- Nothing, or a timestamp: an optional sign and digits. -/
def isTimestamp (s : List Char) : Bool :=
  s = [] || (splitSign s).2 ≠ [] && (splitSign s).2.all Char.isDigit

def readLabelSet (s : List Char) : Option (List (List Char × List Char) × List Char) :=
  match expect '{' (skipBlanks s) with
  | some s => readLabels (s.length + 1) s
  | none => some ([], s)

def parseSample (s : List Char) : Option Sample := do
  let (name, s) ← readWord isNameStart isNameChar s
  let (labels, s) ← readLabelSet s
  let value ← Value.parse ((skipBlanks s).takeWhile fun c => !isBlank c)
  if isTimestamp (trimBlanks ((skipBlanks s).dropWhile fun c => !isBlank c)) then
    some { name, labels, value }
  else none

/-- A docstring, in which a backslash and a line feed are escaped. -/
def unescapeHelp : List Char → Option (List Char)
  | '\\' :: c :: s =>
      if c = '\\' ∨ c = 'n' then
        (unescapeHelp s).map fun r => (if c = 'n' then '\n' else c) :: r
      else none
  | c :: s => if c = '\\' then none else (unescapeHelp s).map fun r => c :: r
  | [] => some []

def parseComment (s : List Char) : Option Line :=
  let keyword := (skipBlanks s).takeWhile fun c => !isBlank c
  let rest := skipBlanks ((skipBlanks s).dropWhile fun c => !isBlank c)
  if keyword = "HELP".toList then do
    let (name, doc) ← readWord isNameStart isNameChar rest
    if doc.head?.all isBlank then
      (unescapeHelp (trimBlanks doc)).map fun doc => .help name doc
    else none
  else if keyword = "TYPE".toList then do
    let (name, kind) ← readWord isNameStart isNameChar rest
    (Kind.parse (trimBlanks kind)).map fun kind => .type name kind
  else some .other

def parseLine (line : List Char) : Option Line :=
  match skipBlanks line with
  | [] => some .other
  | '#' :: s => parseComment s
  | s => (parseSample s).map .sample

-- ============================================================================
-- Pages
-- ============================================================================

/-- The lines of one metric. -/
structure Group where
  name : List Char
  help : Option (List Char) := none
  kind : Option Kind := none
  samples : List Sample := []
deriving DecidableEq, Repr

namespace Group

/-- The names that the samples of a group may have. -/
def sampleNames (g : Group) : List (List Char) :=
  match g.kind with
  | some .histogram => ["_bucket", "_sum", "_count"].map fun suffix => g.name ++ suffix.toList
  | some .summary => g.name :: ["_sum", "_count"].map fun suffix => g.name ++ suffix.toList
  | _ => [g.name]

/-- All metric names of a group. -/
def names (g : Group) : List (List Char) :=
  g.name :: g.sampleNames.filter fun name => name ≠ g.name

end Group

/-- The groups after one more line, the last group first. -/
def addLine (groups : List Group) : Line → List Group
  | .other => groups
  | .help name doc =>
      match groups with
      | g :: gs =>
          if g.name = name ∧ g.help = none ∧ g.samples = [] then
            { g with help := some doc } :: gs
          else { name, help := some doc } :: g :: gs
      | [] => [{ name, help := some doc }]
  | .type name kind =>
      match groups with
      | g :: gs =>
          if g.name = name ∧ g.kind = none ∧ g.samples = [] then
            { g with kind := some kind } :: gs
          else { name, kind := some kind } :: g :: gs
      | [] => [{ name, kind := some kind }]
  | .sample s =>
      match groups with
      | g :: gs =>
          if s.name ∈ g.sampleNames then { g with samples := g.samples ++ [s] } :: gs
          else { name := s.name, samples := [s] } :: g :: gs
      | [] => [{ name := s.name, samples := [s] }]

/-- The groups of a page, or `none` when the page is not valid. -/
def parsePage (text : List Char) : Option (List Group) :=
  let lines := text.splitOn '\n'
  if lines.getLast? = some [] then do
    let parsed ← lines.dropLast.mapM parseLine
    let groups := (parsed.foldl addLine []).reverse
    if (groups.flatMap Group.names).Nodup then some groups else none
  else none

/-- The series of a page. -/
def series (groups : List Group) : List (List Char × List (List Char × List Char)) :=
  groups.flatMap fun g => g.samples.map Sample.series

end Exposition
