import ServicePlane.Decimal
import ServicePlane.Telemetry.Log

/-!
# Which log records are shown

A filter is a row of directives between commas. A directive names a target and the least urgent
level that is shown for it; without a target it speaks for all of them, and without a level it shows
everything. For each record the directive counts whose target is the longest beginning of the
record's own, and of several with that target the last one. Where no directive speaks for a record,
the record is not shown; a filter without directives shows errors.

A directive may also name spans in brackets. The plane has no spans, so such a directive shows
nothing.
-/

namespace ServicePlane

/-- How much is shown: records up to this verbosity. -/
abbrev Verbosity := Nat

/-- One directive of a filter. -/
structure LogDirective where
  /-- The beginning of the targets it speaks for. -/
  target : Option String
  /-- Whether it speaks only for records in spans. -/
  spansOnly : Bool
  verbosity : Verbosity
  deriving DecidableEq, Repr

abbrev LogFilter := List LogDirective

namespace LogFilter

/-- How much is shown without a level. -/
def everything : Verbosity := LogLevel.trace.verbosity

/-- The names of the levels, with off, by verbosity. -/
def levelNames : List String :=
  ["off", "error", "warn", "info", "debug", "trace"]

/-- The number that a word writes; a plus sign may lead. -/
def number? (word : String) : Option Nat :=
  let digits :=
    match word.toList with
    | '+' :: ds => ds
    | ds => ds
  if digits.isEmpty || !digits.all Char.isDigit then none
  else some (Decimal.ofDigits 10 digits)

/-- The level a word stands for: its name in any case, or its number. -/
def level? (word : String) : Option Verbosity :=
  match levelNames.idxOf? word.toLower with
  | some v => some v
  | none => (number? word).filter fun n => n ≤ everything

def beginsDirective (c : Char) : Bool :=
  c.isAlphanum || c = '-' || c = ':' || c = '_' || 0x80 ≤ c.toNat

/-- The level behind an equals sign; nothing stands for everything. -/
def levelOrAll? (word : String) : Option Verbosity :=
  if word.isEmpty then some everything else level? word

def afterSpan? (target : Option String) : List Char → Option LogDirective
  | [] => some ⟨target, true, everything⟩
  | '=' :: level =>
      (levelOrAll? (String.ofList level)).map fun v => ⟨target, true, v⟩
  | _ => none

/-- What stands in brackets: the name of a span, or fields in braces, which may follow a name. -/
def span? (target : Option String) (cs : List Char) : Option LogDirective :=
  match cs.dropWhile fun c => c ≠ ']' && c ≠ '{' with
  | ']' :: rest => afterSpan? target rest
  | '{' :: rest =>
      let fields := rest.takeWhile (· ≠ '}')
      match rest.dropWhile (· ≠ '}') with
      | '}' :: ']' :: rest => if fields.isEmpty then none else afterSpan? target rest
      | _ => none
  | _ => none

def directive? (word : String) : Option LogDirective :=
  let cs := word.toList
  match cs with
  | '[' :: rest => span? none rest
  | c :: _ =>
      if !beginsDirective c then none
      else
        let front := cs.takeWhile fun c => c ≠ '=' && c ≠ '['
        let target := some (String.ofList front)
        match cs.dropWhile fun c => c ≠ '=' && c ≠ '[' with
        | '=' :: level =>
            (levelOrAll? (String.ofList level)).map fun v => ⟨target, false, v⟩
        | '[' :: rest => span? target rest
        | _ =>
            -- A word of its own that names a level is no target.
            match level? word with
            | some v => some ⟨none, false, v⟩
            | none => some ⟨target, false, everything⟩
  | [] => none

/-- The words between commas; nothing between two commas is no word. -/
def words (text : String) : List String :=
  (text.splitOn ",").filter fun w => !w.isEmpty

/-- The filter of a text, if all of its words are directives. -/
def parse? (text : String) : Option LogFilter :=
  (words text).mapM directive?

def ofDirectivesIn (text : String) : LogFilter :=
  (words text).filterMap directive?

/-- The filter of a configured level, for the plane and for its web interfaces. -/
def ofConfigured (level : String) : LogFilter :=
  ofDirectivesIn s!"control_plane={level},tower_http={level}"

/-- The filter of a program: that of its environment, where it is one, wins over the configured
one. -/
def ofProgram (environment : Option String) (level : String) : LogFilter :=
  (environment.bind parse?).getD (ofConfigured level)

/-- Whether a directive speaks for a target. -/
def speaksFor (target : String) (d : LogDirective) : Bool :=
  !d.spansOnly && (d.target.map fun t => t.isPrefixOf target).getD true

/-- How specific a directive is. -/
def specificity (d : LogDirective) : Nat :=
  (d.target.map fun t => t.utf8ByteSize + 1).getD 0

/-- The directive that counts: a later one beats an earlier one unless that is more specific. -/
def strongest : Option LogDirective → LogDirective → Option LogDirective
  | none, d => some d
  | some b, d => if specificity d < specificity b then some b else some d

def verbosityFor (f : LogFilter) (target : String) : Verbosity :=
  if f.isEmpty then LogLevel.error.verbosity
  else
    match (f.filter (speaksFor target)).foldl strongest none with
    | some d => d.verbosity
    | none => 0

def shows (f : LogFilter) (r : LogRecord) : Bool :=
  r.level.verbosity ≤ f.verbosityFor r.target

end LogFilter

end ServicePlane
