import SourceCheck.Finding.Severity

/-! # Kinds of checks

    A file is built, linted, vetted and asked for gaps in its coverage; the
    order of the kinds is the order in which their findings are merged.
-/

namespace SourceCheck

inductive CheckKind where
  /-- Compile the package of the file. -/
  | build
  | lint
  /-- Run the vet tool on the file. -/
  | vet
  /-- Ask for regions that no test reaches. -/
  | coverage
  deriving DecidableEq, Repr, Inhabited

namespace CheckKind

def all : List CheckKind := [.build, .lint, .vet, .coverage]

def name : CheckKind → String
  | .build => "build"
  | .lint => "lint"
  | .vet => "vet"
  | .coverage => "coverage"

def ofName? (word : String) : Option CheckKind := all.find? (·.name == word)

theorem ofName?_name (k : CheckKind) : ofName? k.name = some k := by
  cases k <;> rfl

/-- The kind a word names, blanks at its ends and case aside. -/
def read? (word : String) : Option CheckKind := ofName? (Severity.normalWord word)

def unknownWording (word : String) : String := "Unknown check '" ++ word ++ "'"

def rank : CheckKind → Nat
  | .build => 0
  | .lint => 1
  | .vet => 2
  | .coverage => 3

end CheckKind

end SourceCheck
