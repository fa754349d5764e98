import TeacherRegistry.Url.DomainName.Context
import TeacherRegistry.Url.DomainName.Mapping
import TeacherRegistry.Url.Punycode

/-!
Domain names. A name in any script is mapped to small letters and plain forms, its labels are
checked, and each label beyond ASCII is written in ASCII.
-/

namespace TeacherRegistry.Url

/-- ASCII characters that no domain name may hold. -/
def isForbiddenDomainChar (c : Char) : Bool :=
  c.toNat ≤ 0x20 || c.toNat == 0x7F || "%#/:<>?@[\\]^|".toList.contains c

/-- What a label in the ASCII form begins with. -/
def asciiFormMark : List Char := "xn--".toList

def isAscii (cs : List Char) : Bool :=
  cs.all fun c => c.toNat < 0x80

/-- The greatest number of characters of a label that is put into the ASCII form. -/
def writingLimit : Nat := 1000

/-- The greatest number of characters after the mark of a label that is read from the ASCII form. -/
def readingLimit : Nat := 2000

/-- The label that a label in small letters stands for. One in the ASCII form must stand for a label
beyond ASCII that the mapping leaves as it is. -/
def meantLabel? (label : List Char) : Option (List Char) :=
  if asciiFormMark.isPrefixOf label then
    let written := label.drop asciiFormMark.length
    if !isAscii written ∨ readingLimit < written.length then none
    else match Punycode.decode? written with
      | none => none
      | some meant =>
        if !isAscii meant ∧ DomainName.mapChars? meant = some meant
            ∧ DomainName.normalize meant = meant then some meant else none
  else some label

/-- The ASCII form of a label, `none` if it is too long to be given one. -/
def writtenLabel? (label : List Char) : Option (List Char) :=
  if isAscii label then some label
  else if writingLimit < label.length then none
  else some (asciiFormMark ++ Punycode.encode label)

/-- The ASCII form of a name that has been mapped. -/
def writtenName? (name : List Char) : Option (List Char) := do
  let labels := name.splitOn '.'
  let meant ← labels.mapM meantLabel?
  if meant.all DomainName.isWellFormed && DomainName.isLegible meant then
    return ['.'].intercalate (← labels.mapM writtenLabel?)
  else none

/-- The ASCII form of a domain name given as UTF-8 bytes. -/
def domainName? (bytes : List UInt8) : Option (List Char) := do
  let text ← String.fromUTF8? ⟨bytes.toArray⟩
  let mapped ← DomainName.mapChars? text.toList
  let name := if isAscii mapped then mapped else DomainName.normalize mapped
  if name.any isForbiddenDomainChar then none
  else if isAscii name ∧ (name.splitOn '.').all (!asciiFormMark.isPrefixOf ·) then some name
  else writtenName? name

end TeacherRegistry.Url
