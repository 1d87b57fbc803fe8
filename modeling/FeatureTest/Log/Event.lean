import FeatureTest.Log.Level

/-!
Log events: what is reported, by whom, and inside which spans of work.
-/
namespace FeatureTest.Log

inductive FieldValue where
  | plain (text : String)
  /-- Shown between quotes. -/
  | quoted (text : String)
  | list (texts : List String)
  | natural (value : Nat)
  | flag (value : Bool)
  deriving DecidableEq, Repr

structure Field where
  name : String
  value : FieldValue
  deriving DecidableEq, Repr

/-- A stretch of work that events may lie in. -/
structure Span where
  target : Target
  name : String
  fields : List Field
  deriving DecidableEq, Repr

/-- Spans matter as much as any other progress of the program. -/
def Span.level : Level := .info

structure Event where
  level : Level
  target : Target
  message : String
  fields : List Field := []
  /-- The spans around the event, from the outside in. -/
  spans : List Span := []
  deriving DecidableEq, Repr

/-- Puts an event inside one more span. -/
def Event.within (span : Span) (event : Event) : Event :=
  { event with spans := span :: event.spans }

end FeatureTest.Log
