/-!
The families of feature-test identifiers, and the implementations whose support is recorded.
-/
namespace FeatureTest

inductive Kind where
  /-- Queried with `__has_cpp_attribute`. -/
  | attributes
  /-- Language macros, queried by name. -/
  | language
  /-- Library macros, queried by name once `<version>` is included. -/
  | library
  deriving DecidableEq, Repr

namespace Kind

def all : List Kind := [attributes, language, library]

def name : Kind → String
  | attributes => "attributes"
  | language => "language"
  | library => "library"

def ofName? (s : String) : Option Kind := all.find? (·.name == s)

/-- The preprocessor expression whose value is the identifier's value. -/
def query (kind : Kind) (identifier : String) : String :=
  match kind with
  | attributes => "__has_cpp_attribute(" ++ identifier ++ ")"
  | language | library => identifier

end Kind

/-- A compiler together with its standard library. -/
inductive Implementation where
  | clang | gcc | msvc
  deriving DecidableEq, Repr

namespace Implementation

def all : List Implementation := [clang, gcc, msvc]

def name : Implementation → String
  | clang => "clang"
  | gcc => "gcc"
  | msvc => "msvc"

def ofName? (s : String) : Option Implementation := all.find? (·.name == s)

end Implementation
end FeatureTest
