import Scaffold.Event
import Scaffold.Source.Format
import Scaffold.Template

/-!
# Emitting source

The source that a configuration and a list of handlers give: the template, filled in and
formatted. The configuration is checked first.
-/

namespace Scaffold.Emit

open Handler (Descriptor)

/-- The trait of a valid configuration. -/
def trait (config : Config) : Except Error Template.Trait :=
  (config.validate).map fun () => .ofConfig config

/-- The source for a list of handlers, not yet formatted. -/
def render (config : Config) (handlers : List Descriptor) : Except Error String :=
  (trait config).map fun t => Template.render t handlers

/-- The **formatted source** for a list of handlers. -/
def emit (config : Config) (handlers : List Descriptor) : Except Error String :=
  (render config handlers).bind Source.format

/-- What `render` and `emit` report. -/
def events (config : Config) (handlers : List Descriptor) : List Event :=
  match trait config with
  | .ok _ => [.rendering handlers.length]
  | .error _ => []

/-- Whether a source begins with the mark of a generated file. -/
def isMarked (source : String) : Bool :=
  Template.mark.toList.isPrefixOf source.toList

end Scaffold.Emit
