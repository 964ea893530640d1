import MarkerWatch.Text.Blank
import MarkerWatch.Text.Digit
import MarkerWatch.Text.Shown

/-!
# Log filters

A filter is a list of directives between commas.  A directive gives a level, names a target, or
gives the level of a target; a target alone has every level.  A filter lets through at most the most
verbose level that one of its directives gives.

A level on the command line wins over a filter in the environment.  A filter that cannot be read
counts as `warn`.
-/

namespace MarkerWatch

/-- How much is logged, from nothing to everything. -/
inductive LogLevel
  | off
  | error
  | warn
  | info
  | debug
  | trace
  deriving DecidableEq, Repr

namespace LogLevel

/-- The levels with their words, the least verbose first. -/
def words : List (String × LogLevel) :=
  [("off", .off), ("error", .error), ("warn", .warn), ("info", .info), ("debug", .debug),
   ("trace", .trace)]

/-- The word of a level. -/
def word : LogLevel → String
  | .off => "off"
  | .error => "error"
  | .warn => "warn"
  | .info => "info"
  | .debug => "debug"
  | .trace => "trace"

/-- How verbose a level is. -/
def rank : LogLevel → Nat
  | .off => 0
  | .error => 1
  | .warn => 2
  | .info => 3
  | .debug => 4
  | .trace => 5

/-- The more verbose of two levels. -/
def max (a b : LogLevel) : LogLevel :=
  if a.rank < b.rank then b else a

/-- The level that the command line names by a word; `off` cannot be asked for there. -/
def ofWord? (s : String) : Option LogLevel :=
  words.tail.lookup s

/-- The level that a directive gives by a word in any case or by a number. -/
def ofDirective? (cs : List Char) : Option LogLevel :=
  let digits := match cs with
    | '+' :: rest => rest
    | _ => cs
  match Text.natural? 10 digits with
  | some n => (words[n]?).map (·.2)
  | none => words.lookup (String.ofList (cs.map Char.toLower))

end LogLevel

namespace LogFilter

/-- The variable that holds a filter. -/
def environmentVariable : String := "NOTIWATCH_LOG"

/-- Whether a character is a letter or a number; past ASCII, any that is neither hidden, blank, nor
in the blocks of punctuation and symbols. -/
def isWordChar (c : Char) : Bool :=
  let n := c.toNat
  c.isAlphanum ||
    (0xAA ≤ n && !Text.isHidden c && !Text.isBlank c &&
      !((0x2010 ≤ n && n ≤ 0x206F) || (0x2190 ≤ n && n ≤ 0x2BFF) || (0x3001 ≤ n && n ≤ 0x3020) ||
        (0xFF01 ≤ n && n ≤ 0xFF0F) || (0x1F000 ≤ n && n ≤ 0x1FAFF)))

/-- Whether a character can start a target. -/
def startsTarget (c : Char) : Bool :=
  isWordChar c || c == '-' || c == ':' || c == '_'

/-- The level after the sign of equality of a directive; without one it is every level. -/
def levelOf? (cs : List Char) : Option LogLevel :=
  if cs.isEmpty then some .trace else LogLevel.ofDirective? cs

/-- The level of what follows a span in brackets. -/
def afterSpan? : List Char → Option LogLevel
  | [] => some .trace
  | '=' :: level => levelOf? level
  | _ => none

/-- The level of the rest of a directive after an opening bracket.  A span that asks for the value
of a field lets everything through. -/
def span? (cs : List Char) : Option LogLevel :=
  let name := cs.takeWhile fun c => c != ']' && c != '\x7b'
  match cs.drop name.length with
  | ']' :: rest => afterSpan? rest
  | '\x7b' :: rest =>
    let field := rest.takeWhile (· != '\x7d')
    if field.isEmpty then none
    else
      match rest.drop field.length with
      | '\x7d' :: ']' :: rest =>
        (afterSpan? rest).map fun level => if field.contains '=' then .trace else level
      | _ => none
  | _ => none

/-- The most verbose level that a directive lets through.  Where the parts of a directive end is
found without the white space around it, but the parts are cut out of the directive as written, so
white space before it shifts them. -/
def directive? (written : List Char) : Option LogLevel :=
  let trimmed := Text.trimChars written
  match trimmed with
  | [] => none
  | '[' :: rest => span? rest
  | c :: _ =>
    if startsTarget c then
      let target := trimmed.takeWhile fun c => c != '=' && c != '['
      match trimmed.drop target.length with
      | '=' :: _ => levelOf? (written.drop (target.length + 1))
      | '[' :: rest => span? rest
      | _ => some ((LogLevel.ofDirective? written).getD .trace)
    else
      none

/-- The parts of a text between commas. -/
def splitCommas : List Char → List (List Char)
  | [] => [[]]
  | c :: rest =>
    if c == ',' then [] :: splitCommas rest
    else
      match splitCommas rest with
      | [] => [[c]]
      | part :: parts => (c :: part) :: parts

/-- The most verbose level that a filter lets through, if every directive of it can be read. -/
def parse? (cs : List Char) : Option LogLevel :=
  let parts := (splitCommas cs).filter (!·.isEmpty)
  (parts.mapM directive?).map fun levels => levels.foldl LogLevel.max .off

/-- The most verbose level that is logged, for the level on the command line and the filter in the
environment. -/
def mostVerbose (level : Option LogLevel) (environment : Option String) : LogLevel :=
  match level with
  | some level => level
  | none =>
    match environment.map fun s => Text.trimChars s.toList with
    | none | some [] => .warn
    | some cs => (parse? cs).getD .warn

end LogFilter

end MarkerWatch
