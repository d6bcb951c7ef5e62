import SyntaxTree.Log.Event
import SyntaxTree.Log.FieldValue
import SyntaxTree.Text.Alphanumeric
import SyntaxTree.Text.Count
import SyntaxTree.Text.Separated

/-!
# Log filters

A filter is a list of directives, each of which sets the most detailed level
that is written for the modules below a target.  A directive may also ask for a
field that an event has, or for a span around it.  The most specific directive
that covers an event decides, and of equal ones the last.
-/

namespace SyntaxTree
namespace Log

open Text

/-- The most detailed level that is written, as its rank; zero writes nothing. -/
abbrev Verbosity := Nat

/-- What a directive asks of an event besides its target. -/
inductive Condition where
  | always
  /-- The event has a field of this name. -/
  | hasField (name : String)
  /-- The event happens inside a span.  This program opens no spans. -/
  | insideSpan
deriving DecidableEq, Repr

namespace Condition

/-- Whether an event meets the condition. -/
def meets : Condition → Event → Bool
  | .always, _ => true
  | .hasField name, event => event.fields.contains name
  | .insideSpan, _ => false

/-- Whether the first condition is less specific than the second: a field is
more specific than none, and of two fields the one with the greater name. -/
def below : Condition → Condition → Bool
  | .always, .always => false
  | .always, _ => true
  | .hasField first, .hasField second => first < second
  | _, _ => false

end Condition

/-- A target and a condition with the verbosity of the events that they cover. -/
structure Directive where
  /-- The beginning of module paths; the empty target covers all of them. -/
  target : String
  condition : Condition
  verbosity : Verbosity
deriving DecidableEq, Repr

namespace Directive

/-- Whether the directive covers an event. -/
def covers (directive : Directive) (event : Event) : Bool :=
  directive.target.toList.isPrefixOf event.target.toList && directive.condition.meets event

/-- Of two directives that cover an event, the one that decides: the one with
the longer target, else the one with the more specific condition, else the
later one. -/
def stronger (earlier later : Directive) : Directive :=
  if later.target.length < earlier.target.length then
    earlier
  else if earlier.target.length < later.target.length then
    later
  else if later.condition.below earlier.condition then
    earlier
  else
    later

end Directive

/-- Why a filter cannot be read. -/
inductive FilterError where
  | badLevel
  | badDirective
  | badField (refusal : Pattern.Refusal)
deriving DecidableEq, Repr

/-- Wording of a filter error. -/
def FilterError.message : FilterError → String
  | .badLevel =>
    "error parsing level filter: expected one of \"off\", \"error\", \"warn\", \"info\", " ++
      "\"debug\", \"trace\", or a number 0-5"
  | .badDirective => "invalid filter directive"
  | .badField refusal => "invalid field filter: " ++ refusal.message

/-- A filter tells which events are written. -/
structure Filter where
  directives : List Directive
deriving DecidableEq, Repr

namespace Filter

/-- Verbosity of a level name in any letter case. -/
def named? (text : String) : Option Verbosity :=
  match String.ofList (text.toList.map Char.toLower) with
  | "off" => some 0
  | "error" => some 1
  | "warn" => some 2
  | "info" => some 3
  | "debug" => some 4
  | "trace" => some 5
  | _ => none

/-- Verbosity of a level given by number or by name. -/
def verbosity? (text : String) : Option Verbosity :=
  (count? 5 text.toList).or (named? text)

/-- Whether a target may start with the character. -/
def canStart (character : Char) : Bool :=
  isAlphanumeric character || ['-', ':', '_'].contains character

/-- Reads a directive without brackets and equality sign: a level for all
targets, or else a target at the most detailed level. -/
def bare (text : String) : Directive :=
  match verbosity? text with
  | some verbosity => ⟨"", .always, verbosity⟩
  | none => ⟨text, .always, 5⟩

/-- Verbosity of a level behind an equality sign; a missing level is the most
detailed one. -/
def level (text : String) : Except FilterError Verbosity :=
  if text = "" then
    .ok 5
  else
    match verbosity? text with
    | some verbosity => .ok verbosity
    | none => .error .badLevel

/-- Condition of what stands between braces.  A value behind an equality sign
asks for a span. -/
def fieldCondition (field : String) : Except FilterError Condition :=
  match parts '=' field with
  | _ :: value :: _ =>
    match FieldValue.refusal? value with
    | some refusal => .error (.badField refusal)
    | none => .ok .insideSpan
  | _ => .ok (.hasField field)

/-- The place in a directive in front of some rest of it.

Places are counted in octets and without the white space in front of the
directive, so such white space moves every cut to the left. -/
def place (text : String) (rest : List Char) : Nat :=
  octetCount (trimmed text).toList - octetCount rest

/-- The part of a directive between two places, neither of which may be inside a
character. -/
def slice (text : String) (start stop : Nat) : Except FilterError String :=
  match between? text start stop with
  | some part => .ok part
  | none => .error .badDirective

/-- Verbosity of the level that stands at the end of a directive. -/
def levelOf (text : String) (rest : List Char) : Except FilterError Verbosity := do
  level (← slice text (place text rest) text.utf8ByteSize)

/-- Reads what follows an opening bracket up to its closing bracket, and returns
what stands behind that.  The name of a span asks for a span. -/
def brackets (text : String) (characters : List Char) :
    Except FilterError (Condition × List Char) :=
  let span := characters.takeWhile fun character => character != ']' && character != '\x7b'
  match characters.drop span.length with
  | ']' :: rest => .ok (.insideSpan, rest)
  | '\x7b' :: inside =>
    let field := inside.takeWhile (· != '\x7d')
    match field, inside.drop field.length with
    | _ :: _, brace :: rest => do
      let condition ← fieldCondition
        (← slice text (place text inside) (place text (brace :: rest)))
      match rest with
      | ']' :: rest => .ok (if span.isEmpty then condition else .insideSpan, rest)
      | _ => .error .badDirective
    | _, _ => .error .badDirective
  | _ => .error .badDirective

/-- Whether a directive may start like this. -/
def isStart : List Char → Bool
  | [] => false
  | first :: _ => first = '[' || canStart first

/-- Reads a directive with brackets behind the name of its target. -/
def bracketed (text name : String) (inside : List Char) : Except FilterError Directive := do
  let (condition, rest) ← brackets text inside
  match rest with
  | [] => .ok ⟨name, condition, 5⟩
  | '=' :: rest => (⟨name, condition, ·⟩) <$> levelOf text rest
  | _ => .error .badDirective

/-- Reads a directive: a target, a condition in brackets and a level behind an
equality sign, all of which may be missing, or a bare level. -/
def directive (text : String) : Except FilterError Directive :=
  let characters := (trimmed text).toList
  let target := characters.takeWhile fun character => character != '=' && character != '['
  let behind := characters.drop target.length
  if !isStart characters then
    .error .badDirective
  else
    match behind with
    | [] => .ok (bare text)
    | '[' :: inside => do bracketed text (← slice text 0 (place text behind)) inside
    | _ :: rest => do
      let name ← slice text 0 (place text behind)
      return ⟨name, .always, ← levelOf text rest⟩

/-- Reads the directives of a filter, skipping empty ones. -/
def read (text : String) : Except FilterError Filter := do
  let directives ← ((parts ',' text).filter (· ≠ "")).mapM directive
  return ⟨directives⟩

/-- Confines bare levels and targets to this program. -/
def confine (text : String) : String :=
  let confined := fun (part : String) =>
    if part.toList.contains '=' then part else "cmmtree=" ++ part
  ",".intercalate ((((parts ',' text).map trimmed).filter (· ≠ "")).map confined)

/-- Verbosity of an event.  Without any directive only errors are written, and
an event that no directive covers is not. -/
def verbosity (filter : Filter) (event : Event) : Verbosity :=
  if filter.directives.isEmpty then
    1
  else
    match filter.directives.filter (·.covers event) with
    | [] => 0
    | first :: others => (others.foldl Directive.stronger first).verbosity

/-- Whether an event is written. -/
def passes (filter : Filter) (event : Event) : Bool :=
  event.level.rank ≤ filter.verbosity event

end Filter
end Log
end SyntaxTree
