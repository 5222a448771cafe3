import PodSite.Group
import PodSite.Page.Frame
import PodSite.Yaml.Node

/-!
Settings of a project, as a YAML document gives them. Unknown keys are ignored; a known key must not
come twice.
-/
namespace PodSite

structure Settings where
  project : Project
  /-- The output directory, as it is written. -/
  output : Text
  /-- The library directories, as they are written. -/
  libraries : List Text
  /-- Patterns of paths to leave out. -/
  exclude : List Text
  force : Bool
  /-- The groups, if any are named. -/
  groups : Option (List GroupDeclaration)

namespace Settings

def defaultProject : Project := ⟨[], [], "en".toList⟩

def default : Settings := ⟨defaultProject, ['.'], [['.']], [], false, none⟩

end Settings

namespace Yaml

abbrev Lookup := StateT Nat (ReaderT Document Option)

def Document.find? (document : Document) (look : Yaml → Lookup α) : Option α :=
  (((look document.root).run 0).run document).map (·.1)

/-- The node an alias leads to. A document may follow its aliases only so many times for each of its
marks. -/
def follow : Yaml → Lookup Yaml
  | .alias anchor => do
    let document ← read
    let followed := (← get) + 1
    set followed
    if 100 * document.marks < followed then failure
    match document.anchored.lookup anchor with
    | some node => return node
    | none => failure
  | node => return node

def text (node : Yaml) : Lookup Text := do
  match ← follow node with
  | .scalar text _ _ => return text
  | _ => failure

def nullWords : List Text := ["null".toList, "Null".toList, "NULL".toList, ['~']]

def coreTag (name : String) : Option Bytes :=
  some (Text.Utf8.encode ("tag:yaml.org,2002:".toList ++ name.toList))

def boolean (node : Yaml) : Lookup Bool := do
  match ← follow node with
  | .scalar text style tag =>
    if style = .plain ∨ (style = .literal ∧ tag = coreTag "bool") then
      if ["true".toList, "True".toList, "TRUE".toList].contains text then return true
      else if ["false".toList, "False".toList, "FALSE".toList].contains text then return false
      else failure
    else failure
  | _ => failure

/-- A plain scalar without text, which stands for any empty collection. -/
def isMissing : Yaml → Bool
  | .scalar [] .plain _ => true
  | _ => false

def items (node : Yaml) : Lookup (List Yaml) := do
  match ← follow node with
  | .sequence _ items => return items
  | node => if node.isMissing then return [] else failure

def fields (node : Yaml) : Lookup (List (Text × Yaml)) := do
  match ← follow node with
  | .mapping _ pairs => pairs.mapM fun (key, value) => do return (← key.text, value)
  | node => if node.isMissing then return [] else failure

def field (fields : List (Text × Yaml)) (key : String) : Lookup (Option Yaml) :=
  match fields.filter fun (k, _) => k = key.toList with
  | [] => return none
  | [(_, value)] => return some value
  | _ => failure

def fieldOr (fields : List (Text × Yaml)) (key : String) (default : α) (read : Yaml → Lookup α) :
    Lookup α := do
  match ← field fields key with
  | some value => read value
  | none => return default

def required (fields : List (Text × Yaml)) (key : String) (read : Yaml → Lookup α) : Lookup α := do
  match ← field fields key with
  | some value => read value
  | none => failure

def optional (read : Yaml → Lookup α) (node : Yaml) : Lookup (Option α) := do
  let node ← follow node
  match node with
  | .scalar text .plain none =>
    if text.isEmpty || nullWords.contains text then return none else return some (← read node)
  | .scalar text .plain (some tag) =>
    if some tag = coreTag "null" then (if nullWords.contains text then return none else failure)
    else return some (← read node)
  | _ => return some (← read node)

def tagName? (tag : Option Bytes) : Option Text :=
  match tag with
  | some (first :: rest) =>
    if first.toNat = '!'.toNat then Text.Utf8.decode? rest else none
  | _ => none

/-- One of several names, written as a scalar or as a tag without a value. -/
def oneOf (names : List (String × α)) (node : Yaml) : Lookup α := do
  match ← follow node with
  | .scalar text style tag =>
    let name :=
      match tagName? tag with
      | none => some text
      | some name =>
        if style = ScalarStyle.plain ∧ (text.isEmpty ∨ nullWords.contains text) then some name
        else none
    match name.bind fun name => names.lookup (String.ofList name) with
    | some value => return value
    | none => failure
  | _ => failure

def texts (node : Yaml) : Lookup (List Text) := do (← items node).mapM text

end Yaml

namespace Kind

def names : List (String × Kind) :=
  [("module", modules), ("manual", manuals), ("script", scripts), ("binary", binaries)]

end Kind

namespace Markup.Placement

def names : List (String × Placement) := [("pod", lines), ("comment-pod", comments)]

end Markup.Placement

namespace GroupDeclaration

def definitionsOf (node : Yaml) : Yaml.Lookup (Text × Text) := do
  let fields ← node.fields
  let pattern ← Yaml.required fields "pattern" Yaml.text
  let label ← Yaml.fieldOr fields "label" Group.methodLabel Yaml.text
  return (pattern, label)

def ofYaml (node : Yaml) : Yaml.Lookup GroupDeclaration := do
  let fields ← node.fields
  return {
    description := ← Yaml.required fields "description" Yaml.text
    kind := ← Yaml.required fields "kind" (Yaml.oneOf Kind.names)
    suffixes := ← Yaml.required fields "suffixes" Yaml.texts
    placement := ← Yaml.fieldOr fields "syntax" .lines (Yaml.oneOf Markup.Placement.names)
    copySource := ← Yaml.fieldOr fields "copy_source" none (Yaml.optional Yaml.boolean)
    definitions := ← Yaml.fieldOr fields "definitions" none (Yaml.optional definitionsOf) }

end GroupDeclaration

namespace Settings

def projectOf (node : Yaml) : Yaml.Lookup Project := do
  let fields ← node.fields
  return {
    title := ← Yaml.fieldOr fields "title" defaultProject.title Yaml.text
    description := ← Yaml.fieldOr fields "description" defaultProject.description Yaml.text
    language := ← Yaml.fieldOr fields "language" defaultProject.language Yaml.text }

def pathsOf (node : Yaml) : Yaml.Lookup (Text × List Text) := do
  let fields ← node.fields
  let output ← Yaml.fieldOr fields "output" default.output Yaml.text
  let libraries ← Yaml.fieldOr fields "libraries" default.libraries Yaml.texts
  return (output, libraries)

def ofYaml (node : Yaml) : Yaml.Lookup Settings := do
  let fields ← node.fields
  let project ← Yaml.fieldOr fields "project" defaultProject projectOf
  let (output, libraries) ←
    Yaml.fieldOr fields "paths" (default.output, default.libraries) pathsOf
  let exclude ← Yaml.fieldOr fields "exclude" [] Yaml.texts
  let force ← Yaml.fieldOr fields "force" false Yaml.boolean
  let groups ← Yaml.fieldOr fields "groups" none
    (Yaml.optional fun n => do (← n.items).mapM GroupDeclaration.ofYaml)
  return ⟨project, output, libraries, exclude, force, groups⟩

def ofText? (text : Text) : Option Settings :=
  (Yaml.parse? text).bind fun document => document.find? ofYaml

end Settings
end PodSite
