import UptimeGreeter.LogFilter.Directive

/-!
Log filters. Directives without a span or a field value are static: they judge a record by its
target and the names of its fields. Directives with a span or a field are dynamic: they judge what
is logged while a matching span is entered.
-/

namespace UptimeGreeter.LogFilter

structure Shape where
  target : String
  level : Level
  fields : List String
  deriving DecidableEq, Repr

structure Span where
  target : String
  name : String
  level : Level
  fields : List (String × String)
  deriving DecidableEq, Repr

structure StaticRule where
  target : Option String
  field : Option String
  threshold : Threshold
  deriving DecidableEq, Repr

namespace StaticRule

def ofDirective? (directive : Directive) : Option StaticRule :=
  if directive.span.isNone && !directive.hasFieldValue then
    some ⟨directive.target, directive.field.map (·.name), directive.threshold⟩
  else none

def text (rule : StaticRule) : String :=
  Directive.textOf rule.target none rule.field rule.threshold

def order (first second : StaticRule) : Ordering :=
  let targetLength (rule : StaticRule) := rule.target.map (·.utf8ByteSize)
  (Directive.orderOption compare (targetLength first) (targetLength second)).then
    ((compare first.field.isSome.toNat second.field.isSome.toNat).then
      ((Directive.orderOption compare first.target second.target).then
        (Directive.orderOption compare first.field second.field)))

end StaticRule

def coversTarget (rule : Option String) (target : String) : Bool :=
  match rule with
  | none => true
  | some start => start.toList.isPrefixOf target.toList

def insertDescending {α : Type} (order : α → α → Ordering) (item : α) : List α → List α
  | [] => [item]
  | first :: rest =>
      match order item first with
      | .gt => item :: first :: rest
      | .eq => item :: rest
      | .lt => first :: insertDescending order item rest

structure Filter where
  /-- In descending order, so that the first rule that covers a record is the most detailed. -/
  statics : List StaticRule
  dynamics : List Directive
  reach : Threshold
  deriving DecidableEq, Repr

namespace Filter

def empty : Filter := ⟨[], [], .off⟩

def add (filter : Filter) (directive : Directive) : Filter :=
  { statics :=
      match StaticRule.ofDirective? directive with
      | some rule => insertDescending StaticRule.order rule filter.statics
      | none => filter.statics
    dynamics :=
      if directive.isDynamic then insertDescending Directive.order directive filter.dynamics
      else filter.dynamics
    reach := filter.reach.join directive.threshold }

def ofDirectives (directives : List Directive) : Filter :=
  directives.foldl add empty

def pieces (text : String) : List String :=
  ((Split.all ',' text.toList).filter (!·.isEmpty)).map String.ofList

def ofText (text : String) : Except Directive.Fault Filter :=
  ((pieces text).mapM Directive.ofText).map ofDirectives

def upTo (level : Level) : Filter :=
  ofDirectives [⟨none, none, none, .upTo level⟩]

def text (filter : Filter) : String :=
  String.intercalate "," (filter.statics.map (·.text) ++ filter.dynamics.map (·.text))

/-- No record beyond this level gets through. A condition on a field's value needs every span. -/
def mostVerbose (filter : Filter) : Threshold :=
  if filter.dynamics.any (·.hasFieldValue) then .upTo .trace else filter.reach

def staticallyAllows (filter : Filter) (shape : Shape) : Bool :=
  let covers (rule : StaticRule) : Bool :=
    coversTarget rule.target shape.target && rule.field.all (· ∈ shape.fields)
  match filter.statics.find? covers with
  | some rule => rule.threshold.allows shape.level
  | none => false

def matching (filter : Filter) (span : Span) : List Directive :=
  filter.dynamics.filter fun directive =>
    coversTarget directive.target span.target && directive.span.all (· = span.name) &&
      directive.field.all (·.isAmong span.fields)

/-- A matching directive enables a span at any level; static rules judge it by its target alone. -/
def enablesSpan (filter : Filter) (span : Span) : Bool :=
  !(filter.matching span).isEmpty ||
    match filter.statics.find? (coversTarget ·.target span.target) with
    | some rule => rule.threshold.allows span.level
    | none => false

def spanThreshold (matcher : Matcher) (filter : Filter) (span : Span) : Threshold :=
  let met := (filter.matching span).filter fun directive =>
    directive.field.all (·.holds matcher span.fields)
  met.foldl (fun most directive => most.join directive.threshold) .off

def allows (filter : Filter) (shape : Shape) : Bool :=
  filter.staticallyAllows shape

def allowsIn (matcher : Matcher) (filter : Filter) (span : Span) (shape : Shape) : Bool :=
  (filter.spanThreshold matcher span).allows shape.level || filter.staticallyAllows shape

def mostVerboseFor? (filter : Filter) (target : String) (fields : List String) : Option Level :=
  (Level.all.filter fun level => filter.allows ⟨target, level, fields⟩).getLast?

end Filter

end UptimeGreeter.LogFilter
