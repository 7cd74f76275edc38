import FrameGraph.Files.Tree
import FrameGraph.Pipeline.ConfigJson
import FrameGraph.Pipeline.ConfigTree
import FrameGraph.Toml.Parser

/-!
# Graphs as texts

The description of a graph is loaded from a text in one of two notations, or from a file. The
members of the document are gathered, read leniently, and the keys of the settings are written in
lower case, so that `GraphConfig.setting?` finds them.
-/

namespace FrameGraph

def ConfigFormat.members? (format : ConfigFormat) (text : String) :
    Option (List (String × Json)) :=
  match (match format with
    | .toml => Toml.parse? text
    | .json => Json.parse? text) with
  | some (.object members) => some members
  | _ => none

namespace GraphConfig

/-- Write the keys of the settings in lower case, as far as they are ASCII letters. -/
def normalizeSettings (c : GraphConfig) : GraphConfig :=
  { c with settings := .ofList (c.settings.entries.map fun (k, v) => (Text.asciiLower k, v)) }

def ofMembers (members : List (String × Json)) : Checked (Option GraphConfig) := do
  return (ConfigReader.lenient.graph? (← ConfigTree.gather members)).map normalizeSettings

def ofText (text : String) (format : ConfigFormat) : Result GraphConfig := do
  match format.members? text with
  | none => refuse (.config "the text is not a document")
  | some members =>
    match ← (ofMembers members).lift with
    | some c => return c
    | none => refuse (.config "the document does not describe a graph")

def extensionOf : ConfigFormat → String
  | .toml => "toml"
  | .json => "json"

/-- The content of the file at a path, or, if there is none and the path has no extension, at the
path with the usual extension. -/
def fileContent? (t : FileTree) (path : String) (format : ConfigFormat) : Option (List UInt8) :=
  match t.find? path with
  | some (.file bytes) => some bytes
  | _ =>
    if (Path.extension? path).isSome then none
    else match t.find? (path ++ "." ++ extensionOf format) with
      | some (.file bytes) => some bytes
      | _ => none

def ofFile (t : FileTree) (path : String) : Result GraphConfig :=
  let format := ConfigFormat.ofPath path
  match fileContent? t path format with
  | none => refuse (.config s!"{path}: file not found")
  | some bytes =>
    match String.fromUTF8? (ByteArray.mk bytes.toArray) with
    | some text => ofText text format
    | none => refuse (.config s!"{path}: not a text")

end GraphConfig

end FrameGraph
