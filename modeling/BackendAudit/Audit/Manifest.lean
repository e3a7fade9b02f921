import BackendAudit.Finding
import BackendAudit.Json.Parser
import BackendAudit.Json.Printer
import BackendAudit.Wording

/-!
# Package manifests

A manifest lists the packages that a service depends on and the scripts of its
workflow.  Some packages are known for their vulnerabilities or are abandoned, and
two scripts should be there.
-/

namespace BackendAudit.Manifest

/-- The packages that a service should not depend on. -/
def deniedPackages : List String := ["lodash", "moment", "request", "node-uuid"]

/-- The scripts that a manifest should have. -/
def requiredScripts : List String := ["test", "lint"]

/-- Why a text is no manifest. -/
inductive Fault where
  | notJson
  | notObject
  deriving Repr, DecidableEq, Inhabited

/-- The wording of a fault of a text. -/
def Fault.message (w : Wording) (content : String) : Fault → String
  | notJson => "invalid manifest JSON: " ++ w.json content
  | notObject => "manifest is not a JSON object"

/-- The members of the object that a manifest has under a name; none if there is
no such object. -/
def section? (manifest : List (String × Json)) (name : String) : Option (List (String × Json)) :=
  match Json.member? manifest name with
  | some value => value.members?
  | none => none

/-- How a version is shown: a text as it is, any other value in compact form. -/
def versionText (version : Json) : String :=
  match version.text? with
  | some s => s
  | none => version.compactText

/-- The finding of a denied package. -/
def dependencyFinding (target name version : String) : Finding where
  severity := .medium
  category := .security
  location := .whole target
  description := "Potentially vulnerable dependency: " ++ name
  recommendation := "Update or replace " ++ name ++ " with a secure alternative"
  snippet := name ++ ": " ++ version

/-- The finding of a missing script. -/
def scriptFinding (target script : String) : Finding where
  severity := .low
  category := .config
  location := .whole target
  description := "Missing " ++ script ++ " script in package.json"
  recommendation := "Add " ++ script ++ " script for better development workflow"
  snippet := "Missing: " ++ script

/-- The findings of a manifest: the denied packages among its dependencies, and then
the scripts that it lacks. -/
def findings (target : String) (manifest : List (String × Json)) : List Finding :=
  let dependencies := (section? manifest "dependencies").getD []
  let scripts := (section? manifest "scripts").getD []
  deniedPackages.filterMap (fun name =>
    (Json.member? dependencies name).map fun v => dependencyFinding target name (versionText v)) ++
  (requiredScripts.filter fun s => (Json.member? scripts s).isNone).map (scriptFinding target)

/-- Checks the text of a manifest. -/
def check (target : String) (content : String) : Except Fault (List Finding) :=
  match Json.parse? content with
  | none => .error .notJson
  | some value =>
    match value.members? with
    | none => .error .notObject
    | some manifest => .ok (findings target manifest)

end BackendAudit.Manifest
