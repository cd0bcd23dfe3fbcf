import LightShow.Log.Directive

/-!
The filter that log lines pass: a list of directives. Of those that apply to a part, the most
special one counts.
-/

set_option autoImplicit false

namespace LightShow

/-- The directives in the order they are given. -/
abbrev LogFilter := List LogDirective

namespace LogFilter

/-- The directives of a text, between commas. Those that cannot be read do not count. Without any,
the usual level holds for all parts. -/
def read (usual : LogLevel) (text : String) : LogFilter :=
  match (text.splitOn ",").filterMap LogDirective.read? with
  | [] => [{ level := usual }]
  | directives => directives

/-- The level of a part. Of directives that are equally special the last one counts. -/
def levelOf (filter : LogFilter) (part : LogPart) : LogLevel :=
  let deciding := (filter.filter fun directive => directive.applies part).foldl
    (fun (best : Option LogDirective) directive =>
      match best with
      | some other => if directive.yieldsTo other then best else some directive
      | none => some directive) none
  (deciding.map LogDirective.level).getD .off

/-- Whether lines of a level pass for a part. -/
def admits (filter : LogFilter) (level : LogLevel) (part : LogPart) : Bool :=
  level.rank ≤ (filter.levelOf part).rank

/-- Whether a line passes. -/
def passes (filter : LogFilter) (line : LogLine) : Bool :=
  filter.admits line.level line.part

end LogFilter

end LightShow
