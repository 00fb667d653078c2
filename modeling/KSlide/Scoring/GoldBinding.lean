import KSlide.Evidence.Ir

/-
This file binds the roles of the gold to the objects of a unit, as far as its evidence has them.

Reads are total here: where the interpreter would stop at a value of another kind, the model reads
no items, so that it has the result of the interpreter wherever there is one.
-/

namespace KSlide
namespace Scoring
open Python

/-- A value that is no container has no items. -/
def elements (value : Json) : List Json :=
  match tuple value with
  | .ok items => items
  | .error _ => []

def listAt (object : Json) (key : String) : List Json := elements (get object key (.arr []))

def objectsAt (object : Json) (key : String) : List Json :=
  (listAt object key).filter (·.isObject)

/-- A false value gives way to the other value. -/
def either (first second : Json) : Json := if first.truthy then first else second

def holds (items : List Json) (value : Json) : Bool := items.any (·.equal value)

section
variable [Printing]

def strip (text : String) : String := String.ofList (Text.strip text.toList)

def literalOf (region : EvidenceIR.Region) : String :=
  str (either region.fields.selectedLiteralCandidate (.str ""))

def textOf (cell : EvidenceIR.TableCell) : String := str (either cell.sourceText (.str ""))

def labelOf (element : Json) : String :=
  str (either (element.field "source_text")
    (either (element.field "label") (either (element.field "title") (.str ""))))

/-- Only an object with an identity is a visual element. -/
def namedElements (evidence : EvidenceIR) : List Json :=
  evidence.visualElements.filter fun element =>
    element.isObject && (element.field "element_id").truthy

def cellsOf (evidence : EvidenceIR) : List EvidenceIR.TableCell :=
  evidence.tables.flatMap (·.cells)

/-- The objects of a unit with their texts. -/
def sourceTexts (evidence : EvidenceIR) : List (Json × String) :=
  evidence.regions.map (fun region => (region.fields.regionId, literalOf region)) ++
    (cellsOf evidence).map (fun cell => (cell.cellId, textOf cell)) ++
    (namedElements evidence).map fun element =>
      (.str (str (element.field "element_id")), labelOf element)

/-- The objects with exactly this text count before the objects that contain it. -/
def candidates (evidence : EvidenceIR) (sourceText : String) : List Json :=
  let needle := Text.strip sourceText.toList
  let exact := (sourceTexts evidence).filter fun entry => Text.strip entry.2.toList == needle
  if !exact.isEmpty then exact.map Prod.fst
  else ((sourceTexts evidence).filter fun entry =>
    !needle.isEmpty && Text.within needle entry.2.toList).map Prod.fst

end

/-- Of two bindings of one role the first one in the list counts. -/
structure GoldBinding where
  bindings : List (String × Json) := []
  failures : List String := []

namespace GoldBinding

def get? (binding : GoldBinding) (role : String) : Option Json := binding.bindings.lookup role

def bind (binding : GoldBinding) (role : String) (id : Json) : GoldBinding :=
  { binding with bindings := (role, id) :: binding.bindings }

def fail (binding : GoldBinding) (failure : String) : GoldBinding :=
  { binding with failures := binding.failures ++ [failure] }

variable (binding : GoldBinding) (failure : String)

@[simp] theorem failures_bind (role : String) (id : Json) :
    (binding.bind role id).failures = binding.failures := rfl

@[simp] theorem failures_fail :
    (binding.fail failure).failures = binding.failures ++ [failure] := rfl

@[simp] theorem bindings_fail : (binding.fail failure).bindings = binding.bindings := rfl

end GoldBinding

section
variable [Printing]

def roleOf (node : Json) : String :=
  strip (str (either (node.field "id") (either (node.field "role") (.str ""))))

def sourceTextOf (node : Json) : String :=
  strip (str (either (node.field "source_text") (either (node.field "label") (.str ""))))

/-- A node without a role or a text is bound to nothing. -/
def isAnchored (node : Json) : Bool := roleOf node != "" && sourceTextOf node != ""

def bindingFailure (role : String) (count : Nat) : String :=
  "GOLD_BINDING_FAILURE:" ++ role ++ ":" ++ toString count

def bindNode (evidence : EvidenceIR) (binding : GoldBinding) (node : Json) : GoldBinding :=
  if !isAnchored node then binding
  else
    match candidates evidence (sourceTextOf node) with
    | [id] => binding.bind (roleOf node) id
    | found => binding.fail (bindingFailure (roleOf node) found.length)

def processOf (gold : Json) : Json := (gold.field "process").orEmpty

def chartOf (gold : Json) : Json := (gold.field "chart").orEmpty

def chartIdOf (chart : Json) : String := str (either (chart.field "chart_id") (.str "chart"))

def chartElements (evidence : EvidenceIR) : List Json :=
  evidence.visualElements.filter fun element =>
    element.isObject && (element.field "kind" == .str "chart" || (element.field "chart").truthy)

def bindNodes (gold : Json) (evidence : EvidenceIR) : GoldBinding :=
  (listAt (processOf gold) "nodes").foldl (bindNode evidence) {}

/-- A chart without its element may still share its role with a node. -/
def bindChart (evidence : EvidenceIR) (chart : Json) (binding : GoldBinding) : GoldBinding :=
  let chartId := chartIdOf chart
  match (chartElements evidence).map fun element => str (element.field "element_id") with
  | [id] => binding.bind chartId (.str id)
  | found =>
    if (binding.get? chartId).isNone then binding.fail (bindingFailure chartId found.length)
    else binding

def bindGoldRoles (gold : Json) (evidence : EvidenceIR) : GoldBinding :=
  let nodes := bindNodes gold evidence
  let chart := chartOf gold
  if chart.truthy then bindChart evidence chart nodes else nodes

/-- A relation between two objects of the unit. -/
structure BoundRelation where
  source : Json
  target : Json
  type : Json
  direction : Json

/-- A relation without both of its ends fails, unless the binding of its first end failed before. -/
def bindRelation (state : List BoundRelation × GoldBinding) (relation : Json) :
    List BoundRelation × GoldBinding :=
  let first := str (relation.field "from")
  let second := str (relation.field "to")
  let source := (state.2.get? first).getD .null
  let target := (state.2.get? second).getD .null
  if !source.truthy || !target.truthy then
    let opening := "GOLD_BINDING_FAILURE:" ++ first
    if state.2.failures.any (opening.toList.isPrefixOf ·.toList) then state
    else (state.1, state.2.fail (opening ++ "->" ++ second ++ ":unbound"))
  else (state.1 ++ [⟨source, target, relation.field "type", relation.field "direction"⟩], state.2)

def relationsOf (gold : Json) : List Json := listAt (processOf gold) "relations"

def bindProcessRelations (gold : Json) (evidence : EvidenceIR) :
    List BoundRelation × GoldBinding :=
  (relationsOf gold).foldl bindRelation ([], bindGoldRoles gold evidence)

end

end Scoring
end KSlide
