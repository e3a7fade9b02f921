/-!
# Wording of other libraries

Two kinds of faults are put into words by other libraries, each from the text that is at fault.
-/

namespace BackendAudit

/-- What other libraries say about texts that are not well formed. -/
structure Wording where
  /-- What is wrong with a text that is no JSON. -/
  json : String → String
  /-- What is wrong with a text that is no pattern. -/
  pattern : String → String

/-- Libraries that say nothing. -/
def Wording.silent : Wording := ⟨fun _ => "", fun _ => ""⟩

end BackendAudit
