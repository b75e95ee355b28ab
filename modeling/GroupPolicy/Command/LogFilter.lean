import GroupPolicy.Pattern.Support
import GroupPolicy.Render.Notice
import GroupPolicy.Text.Blank
import GroupPolicy.Text.Decimal
import GroupPolicy.Text.Letter
import GroupPolicy.Text.Octets
import GroupPolicy.Text.Scientific
import GroupPolicy.Text.Split

namespace GroupPolicy.Command

/-- The levels of messages that a directive lets through, up to a greatest one. -/
inductive LogLevel where
  | off
  | error
  | warn
  | info
  | debug
  | trace
  deriving DecidableEq, Repr

namespace LogLevel

/-- The levels by number. -/
def all : List LogLevel := [.off, .error, .warn, .info, .debug, .trace]

/-- The word for a level. -/
def word : LogLevel → String
  | .off => "off"
  | .error => "error"
  | .warn => "warn"
  | .info => "info"
  | .debug => "debug"
  | .trace => "trace"

/-- The level that a text names, by number or by word; letter case is ignored. -/
def ofText? (s : List Char) : Option LogLevel :=
  match Text.readUpTo? 5 s with
  | some n => all[n]?
  | none => all.find? fun l => l.word.toList == s.map Char.toLower

/-- Whether messages of a severity are let through. -/
def admits : LogLevel → Severity → Bool
  | .off, _ => false
  | .error, .warning => false
  | _, _ => true

end LogLevel

/-- A field that messages have, perhaps with a value. -/
structure LogField where
  name : List Char
  value : Option (List Char)
  deriving DecidableEq, Repr

namespace LogField

/-- Whether values can be compared with a text: it is a number or a pattern. -/
def isValue (s : List Char) : Bool := Text.isRealNumber s || Pattern.isUsable s

/-- The field that a text stands for; what follows a second equals sign does not count. -/
def ofText? (s : List Char) : Option LogField :=
  match Text.splitAll '=' s with
  | name :: value :: _ => if isValue value then some ⟨name, some value⟩ else none
  | _ => some ⟨s, none⟩

end LogField

/-- A directive. It is written as a target, a span in square brackets with a field in curly ones, and a
level after an equals sign, each of which may be left out. -/
structure LogDirective where
  /-- The start of the targets that it is about; without one it is about all of them. -/
  target : List Char := []
  /-- The name of the span that messages lie in. -/
  span : Option (List Char) := none
  field : Option LogField := none
  level : LogLevel := .trace
  deriving DecidableEq, Repr

namespace LogDirective

/-- Why a text is no directive. -/
inductive Fault where
  /-- It makes no sense. -/
  | senseless
  /-- A character lies across the end of one of its parts. -/
  | torn
  deriving DecidableEq, Repr

/-- The text of a directive, as far as it has not been read. Where its parts end is found without
the blanks in front of it, but the parts are cut out with the blanks: behind blanks, all parts
start too early by their measure. -/
structure Unread where
  /-- The text in which the ends of parts are found. -/
  seen : List Char
  /-- The text that parts are cut out of; `none` within a character. -/
  uncut : Option (List Char)

namespace Unread

/-- The text after a character that takes one octet. -/
def next (s : Unread) : Unread :=
  { seen := s.seen.drop 1
    uncut := (s.uncut.bind fun uncut => Text.cutOctets? 1 uncut).map (·.2) }

/-- Whether one of some characters is to come. -/
def hasAny (s : Unread) (ends : List Char) : Bool := s.seen.any ends.contains

/-- The part in front of the first of some characters, and what follows from there. -/
def before (s : Unread) (ends : List Char) : Except Fault (List Char × Unread) :=
  let seen := s.seen.takeWhile fun c => !ends.contains c
  if s.hasAny ends then
    match s.uncut.bind fun uncut => Text.cutOctets? (Text.octets seen) uncut with
    | some (part, uncut) => .ok (part, { seen := s.seen.drop seen.length, uncut := some uncut })
    | none => .error .torn
  else .error .senseless

end Unread

/-- Reads the level of a directive, which may be left out after the equals sign too. -/
def readLevel (d : LogDirective) (s : Unread) : Except Fault LogDirective :=
  match s.seen with
  | [] => .ok d
  | '=' :: _ =>
    match s.next.uncut with
    | some [] => .ok d
    | some level =>
      match LogLevel.ofText? level with
      | some level => .ok { d with level }
      | none => .error .senseless
    | none => .error .torn
  | _ => .error .senseless

/-- Reads what stands in brackets, and the level. A span may be without a name in front of a
field. -/
def readSpan (d : LogDirective) (s : Unread) : Except Fault LogDirective := do
  let (name, s) ← s.before [']', '\x7b']
  if s.seen.head? = some ']' then readLevel { d with span := some name } s.next
  else
    let span := if name = [] then none else some name
    let (text, s) ← s.next.before ['\x7d']
    match LogField.ofText? text with
    | some field =>
      if text ≠ [] ∧ s.next.seen.head? = some ']' then
        readLevel { d with span, field := some field } s.next.next
      else .error .senseless
    | none => .error .senseless

/-- Whether a character may come first in a target. -/
def startsTarget (c : Char) : Bool := ['-', ':', '_'].contains c || Text.isLetterOrDigit c

/-- The directive that a text stands for. -/
def ofText (s : List Char) : Except Fault LogDirective :=
  let text : Unread := { seen := Text.trim s, uncut := some s }
  match text.seen with
  | [] => .error .senseless
  | '[' :: _ => readSpan {} text.next
  | c :: _ =>
    if !startsTarget c then .error .senseless
    else if text.hasAny ['=', '['] then do
      let (target, rest) ← text.before ['=', '[']
      if rest.seen.head? = some '[' then readSpan { target := target } rest.next
      else readLevel { target := target } rest
    else
      match LogLevel.ofText? s with
      | some level => .ok { level := level }
      | none => .ok { target := s }

/-- Whether a directive is about some messages of a target whatever span they lie in; they have
nothing but a text. -/
def decides (target : List Char) (d : LogDirective) : Bool :=
  d.target.isPrefixOf target && d.span.isNone && d.field.all (· == ⟨"message".toList, none⟩)

/-- Whether a directive is about no more messages than another. -/
def isCloser (d b : LogDirective) : Bool :=
  b.target.length < d.target.length ||
    (b.target.length == d.target.length && (d.field.isSome || b.field.isNone))

/-- The directive that decides about a target, of those that come first in a list and one more. -/
def better (target : List Char) (best : Option LogDirective) (d : LogDirective) :
    Option LogDirective :=
  if d.decides target && best.all d.isCloser then some d else best

end LogDirective

/-- The target of the messages of a run as a whole. -/
def ownTarget : List Char := "aclrenderd".toList

/-- The target of a notice: the part of the program that reports it. -/
def targetOf : Notice → List Char
  | .skippedPolicy _ => "gbp_policy::context".toList
  | .missingPeer _ => "gbp_acl::acl::compiler".toList
  | .unlocatedPeer _ => "gbp_acl::acl::compiler".toList
  | .noClassifier .. => "gbp_acl::acl::compiler".toList
  | .noAllow _ => "gbp_acl::acl::compiler".toList
  | .skippedRule .. => "gbp_acl::acl::compiler".toList
  | .unboundEntry _ => "gbp_acl::acl::compiler".toList
  | .unassigned .. => "gbp_acl::acl::mapper".toList
  | .notRendered _ => "gbp_acl::acl::manager".toList
  | .peerNotUpdated .. => "gbp_acl::acl::manager".toList
  | .notWritten .. => "gbp_acl::acl::manager".toList
  | .notBound .. => "gbp_acl::acl::manager".toList
  | .notSynced .. => "gbp_acl::acl::manager".toList
  | .nothingToRender => ownTarget

/-- The directives of a filter; `none` if one of them cannot be cut into its parts. -/
def directives? (filter : String) : Option (List LogDirective) :=
  (Text.splitAll ',' filter.toList).filterMapM fun s =>
    match LogDirective.ofText s with
    | .ok d => some (some d)
    | .error .senseless => some none
    | .error .torn => none

/-- Whether directives show the messages of a target and a severity: of those that are about the target
the closest decides. If there are no directives at all, errors are shown. -/
def shows (directives : List LogDirective) (target : List Char) (severity : Severity) : Bool :=
  if directives.isEmpty then LogLevel.error.admits severity
  else
    match directives.foldl (LogDirective.better target) none with
    | some d => d.level.admits severity
    | none => false

/-- The notices that directives show. -/
def shown (directives : List LogDirective) (notices : List Notice) : List Notice :=
  notices.filter fun n => shows directives (targetOf n) n.severity

end GroupPolicy.Command
