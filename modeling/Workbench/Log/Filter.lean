import Workbench.Settings.Basic

/-!
# Which events are shown

A filter gives a level to every target: that of the longest directive whose name the target's name
begins with, or else the default.
-/

namespace Workbench.Log

structure Filter where
  default : Level
  /-- the beginnings of names, and their levels -/
  directives : List (String × Level)
  deriving DecidableEq, Repr

namespace Filter

/-- the directive with the longer name, the first if they are equally long -/
def longer (d e : String × Level) : String × Level :=
  if d.1.length < e.1.length then e else d

/-- the directive that holds for a target -/
def directive? (f : Filter) (target : String) : Option (String × Level) :=
  match f.directives.filter fun d => d.1.toList.isPrefixOf target.toList with
  | [] => none
  | d :: ds => some (ds.foldl longer d)

/-- the level that holds for a target -/
def level (f : Filter) (target : String) : Level :=
  match f.directive? target with
  | none => f.default
  | some d => d.2

def shows (f : Filter) (target : String) (l : Level) : Bool := (f.level target).shows l

/-- the filter of some settings: the lexer has a level of its own, the others share one -/
def ofSettings (s : LogSettings) : Filter :=
  ⟨s.level, [(Target.lexer.name, s.lexerLevel), (Target.registry.name, s.level),
    (Target.session.name, s.level), (Target.commandLine.name, s.level)]⟩

/-- the events that are shown -/
def apply (f : Filter) (events : List Event) : List Event :=
  events.filter fun e => f.shows e.target.name e.level

end Filter

end Workbench.Log
