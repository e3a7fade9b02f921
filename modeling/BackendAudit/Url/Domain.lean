import BackendAudit.Text.Pieces
import BackendAudit.Unicode.Case
import BackendAudit.Unicode.Category
import BackendAudit.Unicode.Compatibility
import BackendAudit.Url.Punycode

/-!
# Domains

A domain is labels with points between them, in ASCII.  A label with other
characters is taken to lower case and written in punycode behind a mark.  A label
that is given with the mark has to be one that would be written so.
-/

namespace BackendAudit.Url

open BackendAudit.Unicode (inCategories)

/-- The mark of a label in punycode. -/
def punycodeMark : List Char := "xn--".toList

/-- Whether a printable character of ASCII may not stand in a host. -/
def isHostDelimiter (c : Char) : Bool :=
  [' ', '#', '/', ':', '<', '>', '?', '@', '[', '\\', ']', '^', '|'].contains c

/-- Characters that may not stand in a domain, whatever their categories are: among them those
that stand for a full stop and others. -/
def refusedSpans : Unicode.Spans := Unicode.Spans.ofText
  "2024-2026 2488-249b 2ff0-2fff 31ef 33c2 33c7 33d8 fe12 fe19 fe30 fe52 fffc-fffd 1f100"

/-- Whether a character may not stand in a domain. -/
def isForbidden (c : Char) : Bool :=
  if c.toNat < 0x80 then c.toNat < 0x20 || c.toNat = 0x7f || c = '%' || isHostDelimiter c
  else inCategories [.control, .format, .surrogate, .privateUse, .unassigned, .spaceSeparator,
    .lineSeparator, .paragraphSeparator] c.toNat || refusedSpans.contains c.toNat

/-- Whether a character marks the one before it. -/
def isMark (c : Char) : Bool :=
  inCategories [.nonspacingMark, .spacingMark, .enclosingMark] c.toNat

/-- A character as it stands in a domain: what it is only another way of writing, and
letters in lower case. -/
def domainForm (c : Char) : List Char :=
  if c.toNat < 0x80 then [c.toLower]
  else if Unicode.ignoredSpans.contains c.toNat then []
  else
    match Unicode.compatibilityForm? c.toNat with
    | some form => form.map Char.ofNat
    | none => Unicode.lowerForm c

/-- Whether a label can be in a domain: it has no forbidden character, and does not
begin with a mark. -/
def isLabel (label : List Char) : Bool :=
  !label.any isForbidden &&
    match label with
    | c :: _ => !isMark c
    | [] => true

/-- A label in ASCII, if it can be in a domain. -/
def asciiLabel? (label : List Char) : Option (List Char) :=
  let isAscii (cs : List Char) : Bool := cs.all fun c => c.toNat < 0x80
  if punycodeMark.isPrefixOf label then
    match Punycode.decode (label.drop punycodeMark.length) with
    | none => none
    | some decoded =>
      if isAscii label && !isAscii decoded && isLabel decoded &&
          decoded.flatMap domainForm == decoded then some label
      else none
  else if !isLabel label then none
  else if isAscii label then some label
  else some (punycodeMark ++ Punycode.encode label)

/-- The domain in ASCII that a text stands for, if there is one. -/
def asciiDomain? (cs : List Char) : Option (List Char) :=
  ((Text.splitAt '.' (cs.flatMap domainForm)).mapM asciiLabel?).map fun labels =>
    (labels.intersperse ['.']).flatten

end BackendAudit.Url
