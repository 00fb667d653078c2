import KSlide.Errors
import KSlide.Text.Unicode
import Mathlib.Algebra.Ring.Int.Defs

/-
This file gives the inspection of an Office archive and of the workbooks in it.
-/

namespace KSlide

abbrev Bytes := List UInt8

/-- A parsed element lists its attributes in the order of the text. -/
inductive Element where
  | node (tag : List Char) (attributes : List (List Char × List Char)) (children : List Element)

namespace Element

def tag : Element → List Char
  | .node tag _ _ => tag

def attributes : Element → List (List Char × List Char)
  | .node _ attributes _ => attributes

def children : Element → List Element
  | .node _ _ children => children

mutual
/-- An element stands before the elements in it. -/
def iter : Element → List Element
  | .node tag attributes children => .node tag attributes children :: iterAll children

def iterAll : List Element → List Element
  | [] => []
  | element :: rest => iter element ++ iterAll rest
end

end Element

structure ZipInfo where
  filename : List Char
  fileSize : Int
  compressSize : Int
  externalAttr : Nat
deriving DecidableEq

/-- An opened archive lists its members and reads their bytes. -/
structure Archive where
  infolist : List ZipInfo
  read : ZipInfo → Except Raised Bytes

/-- The standard library opens archives and parses XML, and the model takes both as parameters. -/
class PackageReader where
  openArchive : Bytes → Except Raised Archive
  fromstring : Bytes → Except Raised Element

/-- A member has its normalized name. -/
structure ArchiveMember where
  name : List Char
  info : ZipInfo
deriving DecidableEq

structure ArchiveBudget where
  memberCount : Nat
  expandedBytes : Int
deriving DecidableEq

/-- The attributes of a relationship are known by their local names without the case. -/
structure RelationshipRecord where
  id : List Char
  target : List Char
  type : List Char
  targetMode : List Char
deriving DecidableEq

namespace Inspection

def maxInputBytes : Int := 512 * 1024 * 1024
def maxArchiveEntries : Nat := 20000
def maxArchiveBytes : Int := 2 * 1024 * 1024 * 1024
def maxArchiveMemberBytes : Int := maxInputBytes
def maxArchiveXmlBytes : Int := 16 * 1024 * 1024
def maxArchiveCompressionRatio : Int := 200
def maxNestedPackageDepth : Nat := 1

def archiveError (message : String) : Raised := .kslide ⟨.inputArchiveUnsafe, message, []⟩

def corruptError (message : String) : Raised := .kslide ⟨.inputCorrupt, message, []⟩

/-- The part of a text behind its last separator. -/
def afterLast (separator : Char) (text : List Char) : List Char :=
  (text.reverse.takeWhile (· != separator)).reverse

def startsWith (text start : List Char) : Bool := start.isPrefixOf text

def endsWith (text ending : List Char) : Bool := ending.isSuffixOf text

def isLetter (letter : Char) : Bool := Text.isUpper letter || Text.isLower letter

/-- A path of a drive starts with a letter, a colon and a separator. -/
def isDrivePath : List Char → Bool
  | letter :: ':' :: separator :: _ => isLetter letter && (separator == '/' || separator == '\\')
  | _ => false

/-- A drive is a letter and a colon. -/
def hasDrive : List Char → Bool
  | letter :: ':' :: _ => isLetter letter
  | _ => false

def isSchemeLetter (letter : Char) : Bool :=
  Text.isAlnum letter || letter == '+' || letter == '.' || letter == '-'

def hasScheme : List Char → Bool
  | letter :: rest => isLetter letter && (rest.dropWhile isSchemeLetter).head? == some ':'
  | [] => false

def archiveMemberName (info : ZipInfo) : Except Raised (List Char) := do
  let raw := info.filename
  let unsafePath := archiveError "Office archive contains an unsafe member path."
  require (!(raw.elem '\x00' || raw.elem '\\' || raw.isEmpty)) unsafePath
  require (!(startsWith raw ['/'] || isDrivePath raw)) unsafePath
  let candidate := if endsWith raw ['/'] then raw.dropLast else raw
  let parts := candidate.splitOn '/'
  require (!(candidate.isEmpty || parts.any (fun part => part.isEmpty || part == ['.'] ||
    part == ['.', '.']) || (parts.headD []).elem ':')) unsafePath
  return candidate

def asciiBytes (text : String) : Bytes := text.toList.map fun letter => UInt8.ofNat letter.toNat

def lowerByte (byte : UInt8) : UInt8 := if 65 ≤ byte ∧ byte ≤ 90 then byte + 32 else byte

def mentionsBytes (data word : Bytes) : Bool := decide (word <:+: data)

def malformed : Raised := corruptError "Office archive contains malformed package XML."

def parsePackageXml [PackageReader] (data : Bytes) (unsafeDtd : Bool) : Except Raised Element :=
  let lowered := data.map lowerByte
  if mentionsBytes lowered (asciiBytes "<!doctype") || mentionsBytes lowered (asciiBytes "<!entity")
  then .error (if unsafeDtd then archiveError "Office archive contains an unsafe XML declaration."
    else malformed)
  else
    match PackageReader.fromstring data with
    | .error (.other kind) =>
      .error (if kind = "ParseError" ∨ kind = "ValueError" then malformed else .other kind)
    | result => result

def externalRelationshipTarget (target : List Char) : Bool :=
  let value := Text.strip target
  startsWith value ['/', '/'] || startsWith value ['\\', '\\'] || isDrivePath value ||
    hasScheme value

/-- A symbolic link is known by its mode. -/
def isSymbolicLink (info : ZipInfo) : Bool := info.externalAttr / 65536 % 65536 / 4096 == 10

section
variable [Unicode]

def casefold (text : List Char) : List Char := Unicode.casefold text

def localName (tag : List Char) : List Char := casefold (afterLast '}' tag)

def consume (budget : ArchiveBudget) (info : ZipInfo) (name : List Char) :
    Except Raised ArchiveBudget := do
  let count := budget.memberCount + 1
  require (decide (count ≤ maxArchiveEntries))
    (archiveError "Office archive has too many cumulative members.")
  require (decide (0 ≤ info.fileSize ∧ info.fileSize ≤ maxArchiveMemberBytes))
    (archiveError "Office archive contains an oversized package member.")
  require (!((endsWith (casefold name) ".xml".toList || endsWith (casefold name) ".rels".toList) &&
    decide (maxArchiveXmlBytes < info.fileSize)))
    (archiveError "Office archive contains an oversized XML member.")
  require (decide (info.fileSize = 0 ∨ (0 < info.compressSize ∧
    info.fileSize ≤ info.compressSize * maxArchiveCompressionRatio)))
    (archiveError "Office archive contains a disproportionately compressed member.")
  let expanded := budget.expandedBytes + info.fileSize
  require (decide (expanded ≤ maxArchiveBytes))
    (archiveError "Office archives expand beyond the cumulative safety limit.")
  return ⟨count, expanded⟩

/-- The name of a member is found by its case-folded text. -/
def lookupMember (members : List ArchiveMember) (key : List Char) : Option ArchiveMember :=
  members.find? fun member => casefold member.name == key

def addMember (state : List ArchiveMember × ArchiveBudget) (info : ZipInfo) :
    Except Raised (List ArchiveMember × ArchiveBudget) := do
  let name ← archiveMemberName info
  require (lookupMember state.1 (casefold name)).isNone
    (archiveError "Office archive contains ambiguous duplicate members.")
  require (!isSymbolicLink info) (archiveError "Office archive contains a symbolic link.")
  let budget ← consume state.2 info name
  return (state.1 ++ [⟨name, info⟩], budget)

def archiveMembers (archive : Archive) (budget : ArchiveBudget) :
    Except Raised (List ArchiveMember × ArchiveBudget) := do
  require (decide (archive.infolist.length ≤ maxArchiveEntries))
    (archiveError "Office archive has too many members.")
  archive.infolist.foldlM addMember ([], budget)

/-- A relationship part stands in a folder of relationships. -/
def relationshipSourcePath (relationshipName : List Char) :
    Except Raised (List (List Char)) := do
  let parts := relationshipName.splitOn '/'
  let folder := parts.dropLast.getLast?.getD []
  require (decide (2 ≤ parts.length) && casefold folder == "_rels".toList &&
    endsWith (casefold (parts.getLast?.getD [])) ".rels".toList)
    (archiveError "Office archive contains an invalid relationship part.")
  return parts.dropLast.dropLast

omit [Unicode] in
/-- Two dots leave a folder of the package. -/
def resolvePart (resolved : List (List Char)) (part : List Char) :
    Except Raised (List (List Char)) :=
  if part = [] ∨ part = ['.'] then
    .error (archiveError "Office archive contains an ambiguous relationship target.")
  else if part = ['.', '.'] then
    if resolved = [] then
      .error (archiveError "Office archive contains a relationship traversal.")
    else .ok resolved.dropLast
  else .ok (resolved ++ [part])

def resolveRelationshipTarget (relationshipName target : List Char) :
    Except Raised (List Char) := do
  let value := Text.strip target
  require (!(value.isEmpty || value.elem '\\' || startsWith value ['/'] || hasDrive value))
    (archiveError "Office archive contains an unsafe relationship target.")
  let source ← relationshipSourcePath relationshipName
  let resolved ← (value.splitOn '/').foldlM resolvePart source
  require (!resolved.isEmpty) (archiveError "Office archive contains an empty relationship target.")
  return ['/'].intercalate resolved

/-- The last attribute of a name counts. -/
def attributeOf (element : Element) (key : String) : List Char :=
  ((element.attributes.reverse.find? fun entry => localName entry.1 == key.toList).map
    Prod.snd).getD []

def addRecord (records : List RelationshipRecord) (element : Element) :
    Except Raised (List RelationshipRecord) :=
  if localName element.tag = "relationship".toList then do
    let record : RelationshipRecord := ⟨attributeOf element "id", attributeOf element "target",
      attributeOf element "type", attributeOf element "targetmode"⟩
    require (!((casefold record.id).isEmpty || record.target.isEmpty ||
      (Text.strip record.type).isEmpty ||
      (records.map fun other => casefold other.id).elem (casefold record.id)))
      (archiveError "Office archive contains ambiguous relationship metadata.")
    return records ++ [record]
  else .ok records

def relationshipRecords [PackageReader] (data : Bytes) :
    Except Raised (List RelationshipRecord) := do
  let root ← parsePackageXml data true
  require (localName root.tag == "relationships".toList)
    (archiveError "Office archive contains an invalid relationship part.")
  root.children.foldlM addRecord []

def relationshipType (record : RelationshipRecord) : List Char :=
  casefold (afterLast '/' record.type)

def isExternal (record : RelationshipRecord) : Bool :=
  casefold (Text.strip record.targetMode) == "external".toList ||
    externalRelationshipTarget record.target

def isActive (record : RelationshipRecord) : Bool :=
  ["oleobject", "control", "vbaproject"].any fun word => relationshipType record == word.toList

/-- The key is the case-folded name of an embedded workbook. -/
def isEmbeddedKey (key : List Char) : Bool :=
  endsWith key ".xlsx".toList && decide ("/embeddings/".toList <:+: '/' :: key)

def resolveMember (members : List ArchiveMember) (resolved : List Char) :
    Except Raised ArchiveMember :=
  match lookupMember members (casefold resolved) with
  | some member => .ok member
  | none => .error (archiveError "Office archive contains a relationship to a missing part.")

/-- The known workbooks are searched for the case-folded name. -/
def addWorkbook (allowChartWorkbook : Bool) (record : RelationshipRecord) (key : List Char)
    (member : ArchiveMember) (workbooks : List (List Char)) : Except Raised (List (List Char)) :=
  if relationshipType record = "package".toList then do
    require (allowChartWorkbook && isEmbeddedKey key)
      (archiveError "Office document contains an unsafe embedded package.")
    require (!workbooks.elem key)
      (archiveError "Office document contains an ambiguous embedded workbook.")
    return if workbooks.elem member.name then workbooks else workbooks ++ [member.name]
  else do
    require (!endsWith key ".xlsx".toList)
      (archiveError "Office document contains an unapproved workbook relationship.")
    return workbooks

def inspectRelationship (relationshipName : List Char) (members : List ArchiveMember)
    (allowChartWorkbook : Bool) (workbooks : List (List Char)) (record : RelationshipRecord) :
    Except Raised (List (List Char)) := do
  require (!isExternal record) (archiveError "Office document contains an external relationship.")
  require (!isActive record) (archiveError "Office document contains active embedded content.")
  let resolved ← resolveRelationshipTarget relationshipName record.target
  let member ← resolveMember members resolved
  addWorkbook allowChartWorkbook record (casefold resolved) member workbooks

def inspectRelationships [PackageReader] (data : Bytes) (relationshipName : List Char)
    (members : List ArchiveMember) (allowChartWorkbook : Bool) :
    Except Raised (List (List Char)) := do
  let records ← relationshipRecords data
  records.foldlM (inspectRelationship relationshipName members allowChartWorkbook) []

def activeMarkers : List String :=
  ["macroenabled", "vbaproject", "activex", "oleobject", "ms-office"]

def ambiguousMetadata : Raised := archiveError "Office archive contains ambiguous package metadata."

/-- The parts with their content types and the extensions with a default type. -/
structure ContentTypes where
  overrides : List (List Char × List Char)
  defaults : List (List Char)
deriving DecidableEq

def addDefault (types : ContentTypes) (element : Element) : Except Raised ContentTypes := do
  let extension := casefold (attributeOf element "extension")
  require (!(extension.isEmpty || types.defaults.elem extension)) ambiguousMetadata
  return { types with defaults := types.defaults ++ [extension] }

def addOverride (types : ContentTypes) (element : Element) : Except Raised ContentTypes := do
  let partName := casefold ((attributeOf element "partname").dropWhile (· == '/'))
  require (!(partName.isEmpty || partName.elem '\\' || (partName.splitOn '/').any (fun part =>
    part.isEmpty || part == ['.'] || part == ['.', '.']) ||
    (types.overrides.map Prod.fst).elem partName)) ambiguousMetadata
  return { types with overrides :=
    types.overrides ++ [(partName, casefold (attributeOf element "contenttype"))] }

def addContentType (types : ContentTypes) (element : Element) : Except Raised ContentTypes := do
  let contentType := casefold (attributeOf element "contenttype")
  require (!activeMarkers.any fun marker => Text.within marker.toList contentType)
    (archiveError "Office document contains active content.")
  let name := localName element.tag
  if name = "default".toList then addDefault types element
  else if name = "override".toList then addOverride types element
  else .ok types

def inspectContentTypes [PackageReader] (data : Bytes) :
    Except Raised (List (List Char × List Char)) := do
  let root ← parsePackageXml data true
  require (localName root.tag == "types".toList)
    (corruptError "Office archive contains invalid content type metadata.")
  let types ← root.iter.foldlM addContentType ⟨[], []⟩
  return types.overrides

def executableExtensions : List String :=
  [".app", ".bat", ".bin", ".cmd", ".com", ".dll", ".dmg", ".exe", ".hta", ".jar", ".js", ".jse",
    ".lnk", ".msi", ".ocx", ".ole", ".ps1", ".py", ".scr", ".sh", ".vbs", ".wsf", ".xla", ".xlam",
    ".xll", ".xlsm", ".docm", ".pptm"]

def macroExtensions : List String := [".xlsm", ".xlam", ".xltm", ".docm", ".pptm"]

omit [Unicode] in
/-- A suffix has a dot with letters on both sides. -/
def pathSuffix (path : List Char) : List Char :=
  let base := afterLast '/' path
  let ending := afterLast '.' base
  if base.length ≤ ending.length + 1 ∨ ending = [] then [] else '.' :: ending

omit [Unicode] in
def hasSuffix (suffixes : List String) (path : List Char) : Bool :=
  suffixes.any fun suffix => pathSuffix path == suffix.toList

def inspectActiveMember (nested : Bool) (name : List Char) : Except Raised Unit := do
  let lowered := casefold name
  let path := '/' :: lowered
  require (!(endsWith lowered "vbaproject.bin".toList || Text.within "/activex/".toList path ||
    Text.within "/oleobjects/".toList path || Text.within "/controls/".toList path))
    (archiveError "Office document contains active embedded content.")
  let embedded := Text.within "/embeddings/".toList path
  require (!(embedded && !endsWith lowered ".xlsx".toList))
    (archiveError "Office document contains an unsafe embedded object.")
  require (!(embedded && hasSuffix executableExtensions lowered))
    (archiveError "Office document contains an unsafe embedded object.")
  require (!hasSuffix macroExtensions lowered)
    (archiveError "Office document contains macro-enabled content.")
  require (!(nested && (hasSuffix executableExtensions lowered || hasSuffix [".bin"] lowered ||
    embedded))) (archiveError "Nested workbook contains active embedded content.")

def inspectActiveMembers (members : List ArchiveMember) (nested : Bool) : Except Raised Unit :=
  members.forM fun member => inspectActiveMember nested member.name

/-- The members that hold relationships. -/
def relationshipFiles (members : List ArchiveMember) : List ArchiveMember :=
  members.filter fun member => endsWith (casefold member.name) ".rels".toList

/-- The members that the structure of a package needs are known by their keys. -/
def requiredMember (members : List ArchiveMember) (key : String) (error : Raised) :
    Except Raised ArchiveMember :=
  match lookupMember members key.toList with
  | some member => .ok member
  | none => .error error

/-- The first identifier of a sheet names its relationship. -/
def sheetRelationship (sheet : Element) : List Char :=
  ((sheet.attributes.find? fun entry => localName entry.1 == "id".toList).map Prod.snd).getD []

omit [Unicode] in
/-- The last record of an identifier counts. -/
def recordById (records : List RelationshipRecord) (id : List Char) :
    Option RelationshipRecord := records.reverse.find? (·.id == id)

def worksheetTarget (relationshipsName : List Char) (members : List ArchiveMember)
    (records : List RelationshipRecord) (sheet : Element) : Except Raised (List Char) :=
  match recordById records (sheetRelationship sheet) with
  | none => .error (archiveError "Embedded workbook has an invalid worksheet relationship.")
  | some record => do
    require (relationshipType record == "worksheet".toList)
      (archiveError "Embedded workbook has an invalid worksheet relationship.")
    let resolved ← resolveRelationshipTarget relationshipsName record.target
    let key := casefold resolved
    require ((lookupMember members key).isSome && startsWith key "xl/worksheets/".toList &&
      endsWith key ".xml".toList)
      (archiveError "Embedded workbook has an invalid worksheet target.")
    return key

omit [Unicode] in
def contentTypeOf (types : List (List Char × List Char)) (name : List Char) : List Char :=
  (types.lookup name).getD []

/-- These exceptions mean that an archive cannot be read. -/
def isUnreadable (kind : String) : Bool :=
  ["EOFError", "OSError", "OverflowError", "RuntimeError", "ValueError", "BadZipFile"].elem kind

def guardReading {Value : Type} (convert : String → Raised) (result : Except Raised Value) :
    Except Raised Value :=
  match result with
  | .error (.other kind) => .error (if isUnreadable kind then convert kind else .other kind)
  | result => result

def isStructuredWorkbook (members : List ArchiveMember) : Bool :=
  (["[content_types].xml", "_rels/.rels", "xl/workbook.xml", "xl/_rels/workbook.xml.rels"].all
    fun key => (lookupMember members key.toList).isSome) &&
  members.any fun member => startsWith (casefold member.name) "xl/worksheets/".toList &&
    endsWith (casefold member.name) ".xml".toList

variable [PackageReader]

/-- Every relationship part of a workbook is inspected, and no workbook may stand in it. -/
def inspectWorkbookRelationships (workbook : Archive) (members : List ArchiveMember) :
    Except Raised Unit :=
  (relationshipFiles members).forM fun part => do
    let data ← workbook.read part.info
    let _ ← inspectRelationships data part.name members false

/-- The sheets of a workbook name worksheets of the right type. -/
def inspectSheets (workbook : Archive) (members : List ArchiveMember)
    (contentTypes : List (List Char × List Char)) : Except Raised Unit := do
  let invalid := archiveError "Embedded workbook is not a structurally valid OOXML workbook."
  let part ← requiredMember members "xl/workbook.xml" invalid
  let data ← workbook.read part.info
  let root ← parsePackageXml data true
  require (localName root.tag == "workbook".toList)
    (archiveError "Embedded workbook has an invalid workbook part.")
  require (endsWith (contentTypeOf contentTypes (casefold part.name))
    "spreadsheetml.sheet.main+xml".toList)
    (archiveError "Embedded workbook has an invalid workbook content type.")
  let relationships ← requiredMember members "xl/_rels/workbook.xml.rels" invalid
  let relationshipData ← workbook.read relationships.info
  let records ← relationshipRecords relationshipData
  let sheets := root.iter.filter fun element => localName element.tag == "sheet".toList
  require (!sheets.isEmpty) (archiveError "Embedded workbook contains no worksheets.")
  let targets ← sheets.mapM (worksheetTarget relationships.name members records)
  targets.forM fun target => require (endsWith (contentTypeOf contentTypes target)
    "worksheet+xml".toList)
    (archiveError "Embedded workbook has an invalid worksheet content type.")

def inspectOpenedWorkbook (workbook : Archive) (budget : ArchiveBudget) :
    Except Raised ArchiveBudget := do
  let invalid := archiveError "Embedded workbook is not a structurally valid OOXML workbook."
  let (members, budget) ← archiveMembers workbook budget
  require (isStructuredWorkbook members) invalid
  inspectActiveMembers members true
  let contents ← requiredMember members "[content_types].xml" invalid
  let data ← workbook.read contents.info
  let contentTypes ← inspectContentTypes data
  inspectWorkbookRelationships workbook members
  inspectSheets workbook members contentTypes
  return budget

def inspectNestedWorkbook (data : Bytes) (depth : Nat) (budget : ArchiveBudget) :
    Except Raised ArchiveBudget := do
  require (decide (depth ≤ maxNestedPackageDepth))
    (archiveError "Office archive contains an unsupported nested package depth.")
  guardReading (fun _ => archiveError "Embedded .xlsx content is not a readable OOXML workbook.")
    (PackageReader.openArchive data >>= fun workbook => inspectOpenedWorkbook workbook budget)

/-- No workbook is the target of two relationship parts. -/
def addRelationshipPart (archive : Archive) (members : List ArchiveMember)
    (embedded : List (List Char)) (part : ArchiveMember) : Except Raised (List (List Char)) := do
  let data ← archive.read part.info
  let found ← inspectRelationships data part.name members true
  require (!embedded.any fun name => found.elem name)
    (archiveError "Office archive contains an ambiguous embedded workbook.")
  return embedded ++ found

/-- The members that are embedded workbooks. -/
def actualWorkbooks (members : List ArchiveMember) : List (List Char) :=
  (members.map (·.name)).filter fun name => isEmbeddedKey (casefold name)

def inspectEmbedded (archive : Archive) (members : List ArchiveMember) (budget : ArchiveBudget)
    (name : List Char) : Except Raised ArchiveBudget := do
  let member ← resolveMember members name
  let data ← archive.read member.info
  inspectNestedWorkbook data 1 budget

def inspectPresentation (archive : Archive) (members : List ArchiveMember)
    (budget : ArchiveBudget) : Except Raised Unit := do
  let missing := corruptError "PPTX archive is missing presentation structure."
  let contents ← requiredMember members "[content_types].xml" missing
  let _ ← requiredMember members "ppt/presentation.xml" missing
  inspectActiveMembers members false
  let data ← archive.read contents.info
  let _ ← inspectContentTypes data
  let embedded ← (relationshipFiles members).foldlM (addRelationshipPart archive members) []
  let actual := actualWorkbooks members
  require (actual.all (embedded.elem ·) && embedded.all (actual.elem ·))
    (archiveError "Office archive contains an unapproved embedded workbook.")
  let _ ← embedded.foldlM (inspectEmbedded archive members) budget

def inspectArchive (archive : Archive) (extension : String) : Except Raised Unit := do
  let (members, budget) ← archiveMembers archive ⟨0, 0⟩
  if extension = ".pptx" then inspectPresentation archive members budget else .ok ()

def inspectZip (opened : Except Raised Archive) (extension : String) : Except Raised Unit :=
  guardReading (fun kind => .kslide ⟨.inputCorrupt, "The Office archive is not readable.",
    [("reason", .str kind)]⟩) (opened >>= fun archive => inspectArchive archive extension)

end
end Inspection
end KSlide
