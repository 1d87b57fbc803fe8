import FeatureTest.Yaml.Untyped
import FeatureTest.Yaml.Writer

/-!
What reads and writes YAML for the program, which relies on no more than this of it.
-/
namespace FeatureTest.Yaml

structure Format where
  /-- The document that a text holds, for who knows what should be in it. -/
  document? : String → Option Document
  /-- The value that a text holds. -/
  value? : String → Option (Value String)
  /-- The text of a value, or why it has none. -/
  write : Value String → Except String String

/-- The reader and the writer of this library. -/
def Format.plain : Format where
  document? text := do return (← (← read text.toList))
  value? := Value.ofYaml?
  write := Value.toYaml

end FeatureTest.Yaml
