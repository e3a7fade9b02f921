import BackendAudit.Finding
import BackendAudit.Pattern.Basic
import BackendAudit.Text.LineIndex

/-!
# Structural checks

Two checks that a single pattern cannot express: route handlers without error
handling, and data of requests that is used in a file without any validation.
-/

namespace BackendAudit

/-- A content under its name, with the index of its lines. -/
structure Source where
  name : String
  content : List Char
  index : LineIndex

/-- The source of a content. -/
def Source.ofContent (name : String) (content : List Char) : Source :=
  ⟨name, content, LineIndex.ofContent content⟩

/-- A check of a whole file. -/
structure Heuristic where
  name : String
  check : Source → List Finding

/-- Reads a pattern that is part of this library, under no flags.  A text that is
no pattern would match nothing. -/
def fixedPattern (source : String) : Pattern :=
  match Pattern.compileWith {} source with
  | .ok p => p
  | .error _ => Pattern.ofExpr source (.one .none)

/-! ## Routes -/

/-- The registration of a route with an arrow function as its handler.  The body
ends at the first closing brace. -/
def routePattern : Pattern := fixedPattern
  "(?s)\\b(?:app|router)\\.(?:get|post|put|delete|patch)\\s*\\([^,]+,\\s*(?:async\\s+)?\\([^)]*\\)\\s*=>\\s*\\\x7b[^\x7d]*\\\x7d"

/-- The words of error handling. -/
def tryCatchPattern : Pattern := fixedPattern "\\b(?:try|catch)\\b"

/-- How many characters of a route a finding shows. -/
def routeSnippetLength : Nat := 100

/-- Routes of an express application whose text has no error handling. -/
def routeErrorHandling : Heuristic where
  name := "route-error-handling"
  check source :=
    if Text.contains "express".toList source.content then
      (routePattern.findAll source.content).filterMap fun (first, last) =>
        let route := Text.slice first last source.content
        if tryCatchPattern.isMatch route then none
        else some {
          severity := .medium
          category := .errorHandling
          location := ⟨source.name, source.index.lineOf first⟩
          description := "Express route missing error handling"
          recommendation := "Add try-catch blocks to handle errors properly"
          snippet := String.ofList (route.take routeSnippetLength) ++ "..." }
    else []

/-! ## Validation -/

/-- How the data of a request is named. -/
def requestInputs : List String := ["req.body", "req.params", "req.query"]

/-- What a file that validates its input mentions. -/
def validationMarkers : List String := ["validate", "joi", "yup", "express-validator", "check"]

/-- Data of requests that is used without any sign of validation. -/
def inputValidation : Heuristic where
  name := "input-validation"
  check source :=
    if requestInputs.any fun part => Text.contains part.toList source.content then
      let lowered := Text.lowercase source.content
      if validationMarkers.any fun part => Text.contains part.toList lowered then []
      else [{
        severity := .high
        category := .security
        location := ⟨source.name, 1⟩
        description := "Missing input validation for user data"
        recommendation :=
          "Implement input validation using libraries like Joi or express-validator"
        snippet := "req.body/req.params/req.query usage detected" }]
    else []

/-- The structural checks, in order. -/
def heuristics : List Heuristic := [routeErrorHandling, inputValidation]

end BackendAudit
