import TeacherRegistry.Log.Directive
import TeacherRegistry.Log.Event

/-!
Filters of diagnostic events. A filter is written as directives between commas. Of the directives
without operations and values, the most specific one in whose scope an event is decides about it.
The others follow the operations: as long as one of theirs is under way, they admit every event up
to their threshold.
-/

namespace TeacherRegistry.Log

/-- What a filter is asked about: an event or an operation, by what is known of it beforehand. -/
structure Subject where
  level : Level
  target : String
  /-- The name, if it is an operation. -/
  span : Option String
  fields : List String

def Event.subject (event : Event) : Subject :=
  ⟨event.level, event.target, none, event.fields.map (·.1)⟩

def Span.subject (span : Span) : Subject :=
  ⟨span.level, span.target, some span.label, span.details.map (·.1)⟩

/-- Whether the value of a field is as it must be. -/
def FieldTest.holds (test : FieldTest) (value : Json.Value) : Bool :=
  match test, value with
  | .truth b, .bool b' => b == b'
  | .text _ pattern, .string s => pattern.isMatch s
  | _, _ => false

/-- Whether an operation has the field, with a value as it must be. -/
def FieldCondition.holds (condition : FieldCondition) (span : Span) : Bool :=
  match span.details.lookup condition.name, condition.test with
  | none, _ => false
  | some _, none => true
  | some value, some test => test.holds value

namespace Directive

/-- Whether the target of a subject is in the scope. -/
def coversTarget (directive : Directive) (subject : Subject) : Bool :=
  directive.scope.target.all fun target => target.toList.isPrefixOf subject.target.toList

/-- Whether a subject has the field of the scope. -/
def coversField (directive : Directive) (subject : Subject) : Bool :=
  directive.scope.field.all fun condition => subject.fields.contains condition.name

/-- Whether the directive follows operations. -/
def isDynamic (directive : Directive) : Bool :=
  directive.scope.span.isSome || directive.scope.field.isSome

/-- Whether the directive decides about events by themselves. -/
def isStatic (directive : Directive) : Bool :=
  directive.scope.span.isNone && directive.scope.field.all (·.test.isNone)

/-- Whether the directive decides about an event or operation by itself. An operation need not have
the field. -/
def decidesOn (directive : Directive) (subject : Subject) : Bool :=
  directive.isStatic && directive.coversTarget subject
    && (subject.span.isSome || directive.coversField subject)

/-- Whether the directive follows an operation. -/
def follows (directive : Directive) (span : Span) : Bool :=
  directive.isDynamic && directive.coversTarget span.subject && directive.coversField span.subject
    && directive.scope.span.all (· == span.label)

/-- The number of bytes of the target, counted from 1, with 0 for no target. -/
def targetSize (directive : Directive) : Nat :=
  directive.scope.target.elim 0 fun target => target.utf8ByteSize + 1

/-- The name of the field, if there is one. -/
def fieldName? (directive : Directive) : Option String :=
  directive.scope.field.map (·.name)

/-- Whether one directive is less specific than another. A longer target is more specific, then a
field; that of two fields the one with the later name comes first is a matter of order only. -/
def isLessSpecific (a b : Directive) : Bool :=
  a.targetSize < b.targetSize || (a.targetSize == b.targetSize &&
    match a.fieldName?, b.fieldName? with
    | none, some _ => true
    | some a, some b => a < b
    | _, none => false)

end Directive

/-- A filter with its directives in the order in which they were given. -/
abbrev Filter := List Directive

namespace Filter

/-- The filter that admits nothing. -/
def off : Filter := []

/-- The filter that admits events up to a level, whatever their target. -/
def upTo (level : Level) : Filter :=
  [⟨⟨none, none, none⟩, level.rank⟩]

/-- The filter a text spells. -/
def ofString (s : String) : Except Directive.Fault Filter :=
  ((s.toList.splitOn ',').filter (· ≠ [])).mapM fun cs => Directive.ofString (String.ofList cs)

/-- The highest threshold of some directives. -/
def highest (directives : List Directive) : Nat :=
  directives.foldr (fun directive rank => max directive.threshold rank) 0

/-- The directives that follow operations; of those with one scope the last. -/
def dynamics : Filter → List Directive
  | [] => []
  | directive :: rest =>
    if directive.isDynamic && !rest.any (·.scope == directive.scope) then
      directive :: dynamics rest
    else dynamics rest

/-- The highest threshold of the directives that follow operations. -/
def dynamicReach (filter : Filter) : Nat :=
  highest (filter.filter (·.isDynamic))

/-- The rank above which nothing can be admitted. Nobody knows beforehand how far values go. -/
def reach (filter : Filter) : Nat :=
  if filter.any fun directive => directive.scope.field.any (·.test.isSome) then Level.trace.rank
  else highest filter

/-- The directive that decides about a subject by itself: a most specific one, and of several the
last. -/
def deciding? (filter : Filter) (subject : Subject) : Option Directive :=
  (filter.filter (·.decidesOn subject)).foldl (fun best directive =>
    if best.any directive.isLessSpecific then best else some directive) none

/-- Whether a subject is admitted by itself. -/
def decides (filter : Filter) (subject : Subject) : Bool :=
  (filter.deciding? subject).any fun directive => subject.level.rank ≤ directive.threshold

/-- The operations under way as a filter sees them: those that are shown, outermost first, and the
thresholds that the directives which follow them set. -/
structure View where
  shown : List Span
  thresholds : List Nat

/-- Whether the operations under way admit a rank. -/
def isFollowed (filter : Filter) (view : View) (rank : Nat) : Bool :=
  rank ≤ filter.dynamicReach && view.thresholds.any (rank ≤ ·)

/-- Begins one more operation. -/
def enter (filter : Filter) (view : View) (span : Span) : View :=
  let rank := span.level.rank
  let following := filter.dynamics.filter (·.follows span)
  if filter.reach < rank then view
  else if following.isEmpty then
    if filter.decides span.subject || filter.isFollowed view rank then
      { view with shown := view.shown ++ [span] }
    else view
  else
    let matching := following.filter fun directive => directive.scope.field.all (·.holds span)
    ⟨view.shown ++ [span], highest matching :: view.thresholds⟩

/-- The operations to show with an event that happens in their course, outermost first; `none` if
the event is not admitted. -/
def admit? (filter : Filter) (event : Event) (spans : List Span) : Option (List Span) :=
  let view := spans.foldl filter.enter ⟨[], []⟩
  let rank := event.level.rank
  if rank ≤ filter.reach && (filter.decides event.subject || filter.isFollowed view rank) then
    some view.shown
  else none

end Filter

end TeacherRegistry.Log
