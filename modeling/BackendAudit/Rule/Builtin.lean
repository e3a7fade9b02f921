import BackendAudit.Rule.Basic

/-!
# The built-in rules

The defect classes of backends written in JavaScript: a table of definitions, and
the registry that it makes.
-/

namespace BackendAudit

/-- A matcher without guard. -/
def plain (pattern : String) : MatcherDef := ⟨pattern, none⟩

/-- A matcher with a guard. -/
def guarded (pattern guard : String) (window : Window) : MatcherDef :=
  ⟨pattern, some (guard, window)⟩

/-- The built-in definitions. -/
def builtinRules : List RuleDef := [
  { category := .sqlInjection
    severity := .critical
    description := "Potential SQL injection vulnerability detected"
    remediation := "Use parameterized queries or prepared statements"
    matchers := [
      -- interpolation in a template literal
      plain "query\\s*\\(\\s*[\"\x60'].*\\$\\\x7b.*\\\x7d.*[\"\x60']",
      -- concatenation of strings
      plain "query\\s*\\(\\s*[\"\x60'].*\\+.*[\"\x60']",
      plain "sequelize\\.query\\s*\\(\\s*[\"\x60'].*\\$\\\x7b.*\\\x7d.*[\"\x60']"] },
  { category := .xssVulnerability
    severity := .critical
    description := "Potential XSS vulnerability detected"
    remediation := "Sanitize user input and use safe DOM manipulation"
    matchers := [
      plain "innerHTML\\s*=\\s*.*\\+",
      plain "document\\.write\\s*\\(",
      plain "\\beval\\s*\\(",
      plain "dangerouslySetInnerHTML"] },
  { category := .hardcodedSecrets
    severity := .high
    description := "Hardcoded secret or credential detected"
    remediation := "Move secrets to environment variables"
    matchers := [
      plain "password\\s*[:=]\\s*[\"'][^\"']\x7b8,\x7d[\"']",
      plain "api[_-]?key\\s*[:=]\\s*[\"'][^\"']\x7b16,\x7d[\"']",
      plain "secret\\s*[:=]\\s*[\"'][^\"']\x7b16,\x7d[\"']",
      plain "token\\s*[:=]\\s*[\"'][^\"']\x7b32,\x7d[\"']"] },
  { category := .asyncIssues
    severity := .high
    description := "Async/await error handling issue"
    remediation := "Add proper try-catch blocks around await statements"
    matchers := [
      -- no handler on the line of the await or on the next one
      guarded "\\bawait\\s+.*" "catch" (.lines 1),
      guarded "Promise\\.(?:resolve|reject)\\s*\\([^)]*\\)" "\\.catch\\s*\\(" (.lines 0),
      plain "setTimeout\\s*\\(\\s*async\\s+function"] },
  { category := .memoryLeaks
    severity := .medium
    description := "Potential memory leak detected"
    remediation := "Ensure proper cleanup of intervals and event listeners"
    matchers := [
      guarded "setInterval\\s*\\(" "clearInterval" .rest,
      guarded "addEventListener\\s*\\(" "removeEventListener" .rest,
      plain "new\\s+Array\\s*\\(\\s*\\d\x7b6,\x7d\\s*\\)"] },
  { category := .errorHandling
    severity := .medium
    description := "Poor error handling detected"
    remediation := "Implement proper error handling and logging"
    matchers := [
      plain "catch\\s*\\(\\s*\\w+\\s*\\)\\s*\\\x7b\\s*\\\x7d",
      plain "catch\\s*\\(\\s*\\w+\\s*\\)\\s*\\\x7b\\s*console\\.log",
      plain "throw\\s+new\\s+Error\\s*\\(\\s*[\"'][\"']"] },
  { category := .performanceIssues
    severity := .medium
    description := "Performance bottleneck detected"
    remediation := "Optimize algorithm or use more efficient approaches"
    matchers := [
      -- three nested loops
      plain "for\\s*\\([^\x7d]*\\)\\s*\\\x7b[^\x7d]*for\\s*\\([^\x7d]*\\)\\s*\\\x7b[^\x7d]*for",
      plain "JSON\\.parse\\s*\\(\\s*JSON\\.stringify",
      plain "\\.map\\s*\\([^\x7d]*\\)\\.filter\\s*\\("] },
  { category := .logicErrors
    severity := .high
    description := "Logic error detected"
    remediation := "Review logic and fix conditional statements"
    matchers := [
      plain "if\\s*\\(\\s*\\w+\\s*=\\s*\\w+\\s*\\)",
      plain "==\\s*true\\s*\\|\\|\\s*==\\s*false",
      plain "return\\s+.*\\?\\s*true\\s*:\\s*false"] },
  { category := .configIssues
    severity := .low
    description := "Configuration issue detected"
    remediation := "Use environment variables for configuration"
    matchers := [
      plain "process\\.env\\.\\w+\\s*\\|\\|\\s*[\"'][^\"']*[\"']",
      plain "PORT\\s*=\\s*\\d+",
      plain "localhost:\\d+"] }]

/-- The registry of the built-in rules. -/
def Registry.builtin : Registry :=
  match Registry.ofTable builtinRules with
  | .ok r => r
  | .error _ => ⟨[]⟩

/-- The built-in rules with custom rules behind them. -/
def Registry.withCustom (custom : List CustomRule) : Except RuleError Registry :=
  Registry.builtin.extend custom

end BackendAudit
