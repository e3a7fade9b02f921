import BackendAudit.Audit.Manifest
import BackendAudit.Proofs.Json.Documents
import BackendAudit.Proofs.Json.Members

/-!
# Manifests as they are written

A text is a manifest just when it is a document with an object in it, and its findings depend on
little of what is written there: on the versions of the denied packages and on which of the
required scripts there are.  White space, the order of members, the spelling of names, other
members and overridden ones do not matter.

* `Json.written?_eq_some_iff`: of the members with one name, the last that is written counts.
* `Manifest.findings_eq`: what is found in the members that are read, in terms of those that
  are written.
* `Manifest.check_written`: which texts are accepted, what is found in them, and when two of
  them give the same.
-/

namespace BackendAudit

/-! ## Members that count -/

namespace Json

/-- The value that counts for a name among the members that are written. -/
def written? (ms : List (String × Json)) (name : String) : Option Json :=
  member? ms.reverse name

/-- It is that of the last member with the name. -/
theorem written?_eq_some_iff {ms : List (String × Json)} {name : String} {v : Json} :
    written? ms name = some v ↔
      ∃ before after, ms = before ++ (name, v) :: after ∧ ∀ m ∈ after, m.1 ≠ name := by
  rw [written?, member?, Option.map_eq_some_iff]
  constructor
  · rintro ⟨m, hfind, rfl⟩
    obtain ⟨hname, after, before, hms, hafter⟩ := List.find?_eq_some_iff_append.mp hfind
    obtain rfl : m.1 = name := by simpa using hname
    rw [List.reverse_eq_iff] at hms
    exact ⟨before.reverse, after.reverse, by simp [hms], by simpa using hafter⟩
  · rintro ⟨before, after, rfl, hafter⟩
    refine ⟨(name, v), List.find?_eq_some_iff_append.mpr ?_, rfl⟩
    exact ⟨by simp, after.reverse, before.reverse, by simp, by simpa using hafter⟩

theorem eq_object_of_members? {v : Json} {ms : List (String × Json)}
    (h : v.members? = some ms) : v = .object ms := by
  cases v <;> cases h
  rfl

/-- The members that are read have the values that count. -/
theorem exists_members?_settled (ms : List (String × Json)) :
    ∃ read, (settled (.object ms)).members? = some read ∧
      ∀ name, member? read name = (written? ms name).map settled := by
  cases hread : (settled (.object ms)).members? with
  | none =>
    rw [settled] at hread
    cases hread
  | some read =>
    refine ⟨read, rfl, fun name => ?_⟩
    have hfield := field?_settled ms name
    rwa [field?, hread, Option.bind_some] at hfield

/-- No other value is read as an object. -/
theorem members?_settled_eq_none {v : Json} (h : v.members? = none) :
    v.settled.members? = none := by
  cases v with
  | object ms => cases h
  | array vs =>
    rw [settled]
    rfl
  | _ =>
    rw [settled.eq_def]
    rfl

end Json

namespace Manifest

open Json (Document written?)

/-! ## What is found -/

/-- The members that a manifest has in a section; none if there is no object for it. -/
def writtenSection (ms : List (String × Json)) (name : String) : List (String × Json) :=
  ((written? ms name).bind Json.members?).getD []

/-- The version of a package among the dependencies, as it is shown. -/
def version? (ms : List (String × Json)) (package : String) : Option String :=
  (written? (writtenSection ms "dependencies") package).map fun v => versionText v.settled

/-- Whether a script is among those of a manifest. -/
def hasScript (ms : List (String × Json)) (script : String) : Bool :=
  (written? (writtenSection ms "scripts") script).isSome

/-- The findings of a manifest with these members: the denied packages that have a version, and
the required scripts that are not there. -/
def writtenFindings (target : String) (ms : List (String × Json)) : List Finding :=
  deniedPackages.filterMap (fun package =>
    (version? ms package).map (dependencyFinding target package)) ++
  (requiredScripts.filter fun script => !hasScript ms script).map (scriptFinding target)

/-- A section of the members that are read. -/
theorem member?_section? {ms read : List (String × Json)}
    (h : ∀ name, Json.member? read name = (written? ms name).map Json.settled)
    (sectionName name : String) :
    Json.member? ((section? read sectionName).getD []) name =
      (written? (writtenSection ms sectionName) name).map Json.settled := by
  rw [section?, h, writtenSection]
  cases written? ms sectionName with
  | none => rfl
  | some v =>
    rw [Option.map_some, Option.bind_some]
    cases hmembers : v.members? with
    | none =>
      simp only [Json.members?_settled_eq_none hmembers]
      rfl
    | some vs =>
      obtain rfl := Json.eq_object_of_members? hmembers
      obtain ⟨inner, hinner, hlookup⟩ := Json.exists_members?_settled vs
      simp only [hinner, Option.getD_some]
      exact hlookup name

/-- What is found in the members that are read. -/
theorem findings_eq {ms read : List (String × Json)} (target : String)
    (h : ∀ name, Json.member? read name = (written? ms name).map Json.settled) :
    findings target read = writtenFindings target ms := by
  have hsection := member?_section? h
  simp only [findings, writtenFindings, version?, hasScript, hsection, Option.map_map,
    Option.isNone_map, Option.not_isSome]
  rfl

/-- What is found in a manifest. -/
theorem check_of_document (target : String) {content : String} {ms : List (String × Json)}
    (h : Document content.toList (.object ms)) :
    check target content = .ok (writtenFindings target ms) := by
  obtain ⟨read, hread, hlookup⟩ := Json.exists_members?_settled ms
  rw [check, Json.parse?_eq_some_iff.mpr ⟨_, h, rfl⟩]
  simp only [hread, findings_eq target hlookup]

/-- A text that is accepted is a document with an object in it. -/
theorem exists_document_of_check {target content : String} {fs : List Finding}
    (h : check target content = .ok fs) : ∃ ms, Document content.toList (.object ms) := by
  rw [check] at h
  split at h
  · cases h
  · rename_i v hparse
    obtain ⟨w, hw, rfl⟩ := Json.parse?_eq_some_iff.mp hparse
    cases hmembers : w.members? with
    | none =>
      rw [Json.members?_settled_eq_none hmembers] at h
      cases h
    | some ms =>
      obtain rfl := Json.eq_object_of_members? hmembers
      exact ⟨ms, hw⟩

/-- All findings are about the manifest as a whole: those about packages are of medium severity and
those about scripts of low severity. -/
theorem writtenFindings_whole {target : String} {ms : List (String × Json)} {f : Finding}
    (h : f ∈ writtenFindings target ms) : f.location = ⟨target, 0⟩ ∧
      (f.severity = .medium ∧ f.category = .security ∨
        f.severity = .low ∧ f.category = .config) := by
  rcases List.mem_append.mp h with h | h
  · obtain ⟨package, _, hversion⟩ := List.mem_filterMap.mp h
    obtain ⟨version, _, rfl⟩ := Option.map_eq_some_iff.mp hversion
    exact ⟨rfl, .inl ⟨rfl, rfl⟩⟩
  · obtain ⟨script, _, rfl⟩ := List.mem_map.mp h
    exact ⟨rfl, .inr ⟨rfl, rfl⟩⟩

/-- The findings are told by the versions of the denied packages and by the scripts. -/
theorem writtenFindings_congr (target : String) {ms ms' : List (String × Json)}
    (hversions : ∀ package ∈ deniedPackages, version? ms package = version? ms' package)
    (hscripts : ∀ script ∈ requiredScripts, hasScript ms script = hasScript ms' script) :
    writtenFindings target ms = writtenFindings target ms' := by
  rw [writtenFindings, writtenFindings]
  congr 1
  · exact List.filterMap_congr fun package hpackage => by rw [hversions package hpackage]
  · rw [List.filter_congr fun script hscript => by rw [hscripts script hscript]]

/-- A text is accepted just when it is a document with an object in it.  Found are then, in the
order of the lists, the denied packages that have a version and the required scripts that are not
there.  Two accepted texts that agree on these give the same findings. -/
theorem check_written (target content : String) :
    ((∃ fs, check target content = .ok fs) ↔ ∃ ms, Document content.toList (.object ms)) ∧
      (∀ ms, Document content.toList (.object ms) →
        check target content = .ok (writtenFindings target ms) ∧
          ∀ f ∈ writtenFindings target ms, f.location = ⟨target, 0⟩ ∧
            (f.severity = .medium ∧ f.category = .security ∨
              f.severity = .low ∧ f.category = .config)) ∧
      ∀ (content' : String) (ms ms' : List (String × Json)),
        Document content.toList (.object ms) → Document content'.toList (.object ms') →
        (∀ package ∈ deniedPackages, version? ms package = version? ms' package) →
        (∀ script ∈ requiredScripts, hasScript ms script = hasScript ms' script) →
        check target content = check target content' := by
  refine ⟨⟨fun ⟨fs, h⟩ => exists_document_of_check h, fun ⟨ms, h⟩ => ⟨_, check_of_document _ h⟩⟩,
    fun ms h => ⟨check_of_document _ h, fun f hf => writtenFindings_whole hf⟩, ?_⟩
  intro content' ms ms' h h' hversions hscripts
  rw [check_of_document _ h, check_of_document _ h', writtenFindings_congr _ hversions hscripts]

/-- A manifest with one denied package. -/
def plainManifest : String := "\x7b\"dependencies\":\x7b\"moment\":\"2\"\x7d\x7d"

/-- It is written here with an overridden version, an escape in the name, another member and white
space. -/
def otherManifest : String :=
  "\x7b \"moment\":null,\"dependencies\":\x7b\"moment\":\"1\",\"mom\\u0065nt\":\"2\"\x7d\x7d"

theorem document_plainManifest : Document plainManifest.toList
    (.object [("dependencies", .object [("moment", .string "2")])]) := by
  have htext : plainManifest.toList =
      ['\x7b', '"', 'd', 'e', 'p', 'e', 'n', 'd', 'e', 'n', 'c', 'i', 'e', 's', '"', ':', '\x7b',
        '"', 'm', 'o', 'm', 'e', 'n', 't', '"', ':', '"', '2', '"', '\x7d', '\x7d'] := by rfl
  rw [Document, htext, Json.nestingLimit]
  exact .element .nil (.object (.lastMember
    (.member .nil (Json.spelled_of_readText rfl) .nil (.element .nil
      (.object (.lastMember (.member .nil (Json.spelled_of_readText rfl) .nil
        (.element .nil (.string (Json.spelled_of_readText rfl)) .nil)))) .nil)))) .nil

theorem document_otherManifest : Document otherManifest.toList
    (.object [("moment", .null),
      ("dependencies", .object [("moment", .string "1"), ("moment", .string "2")])]) := by
  have htext : otherManifest.toList =
      ['\x7b', ' ', '"', 'm', 'o', 'm', 'e', 'n', 't', '"', ':', 'n', 'u', 'l', 'l', ',', '"',
        'd', 'e', 'p', 'e', 'n', 'd', 'e', 'n', 'c', 'i', 'e', 's', '"', ':', '\x7b', '"', 'm',
        'o', 'm', 'e', 'n', 't', '"', ':', '"', '1', '"', ',', '"', 'm', 'o', 'm', '\\', 'u', '0',
        '0', '6', '5', 'n', 't', '"', ':', '"', '2', '"', '\x7d', '\x7d'] := by rfl
  rw [Document, htext, Json.nestingLimit]
  exact .element .nil (.object (.nextMember
    (.member (.cons (.inl rfl) .nil) (Json.spelled_of_readText rfl) .nil (.element .nil .null .nil))
    (.lastMember (.member .nil (Json.spelled_of_readText rfl) .nil (.element .nil
      (.object (.nextMember
        (.member .nil (Json.spelled_of_readText rfl) .nil
          (.element .nil (.string (Json.spelled_of_readText rfl)) .nil))
        (.lastMember (.member .nil (Json.spelled_of_readText rfl) .nil
          (.element .nil (.string (Json.spelled_of_readText rfl)) .nil))))) .nil))))) .nil

theorem check_written_otherManifest :
    check "package.json" plainManifest =
        .ok (writtenFindings "package.json"
          [("dependencies", .object [("moment", .string "2")])]) ∧
      check "package.json" plainManifest = check "package.json" otherManifest := by
  obtain ⟨_, hfindings, hagree⟩ := check_written "package.json" plainManifest
  refine ⟨(hfindings _ document_plainManifest).1,
    hagree _ _ _ document_plainManifest document_otherManifest ?_ ?_⟩
  · intro package hpackage
    simp only [deniedPackages, List.mem_cons, List.not_mem_nil, or_false] at hpackage
    rcases hpackage with rfl | rfl | rfl | rfl <;> rfl
  · decide

end Manifest

end BackendAudit
