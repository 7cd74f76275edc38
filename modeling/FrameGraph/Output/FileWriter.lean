import FrameGraph.Block.Hooks
import FrameGraph.Files.Tree
import FrameGraph.Output.FileFormat

/-!
# Writing frames to files

Frames are written to one file each, numbered in the order in which they were written, or all to one
file, one behind the other. The number of the next file is the number of frames written so far.
-/

namespace FrameGraph

/-- A file that frames are added to. -/
structure OpenFile where
  place : List String
  offset : Nat := 0
  deriving DecidableEq, Repr

/-- Where and how frames are written. -/
structure FileWriter where
  path : String := "output"
  format : FileFormat := .raw
  singleFile : Bool := false
  written : Nat := 0
  output : Option OpenFile := none
  deriving DecidableEq, Repr

namespace FileWriter

/-- Whether frames of a format can be written. -/
def supports (w : FileWriter) (f : PixelFormat) : Bool := w.format.supports f

def fault (path : String) (f : FileFault) : Error := .frame s!"{path}: {f.message}"

/-! ### Configuration -/

/-- Make the directory that the files go to. -/
def prepare (w : FileWriter) (files : FileTree) : Except Error Unit × FileTree :=
  match Path.parent? w.path with
  | none => (.ok (), files)
  | some parent =>
    match files.makePath parent with
    | (.ok (), files) => (.ok (), files)
    | (.error f, files) => (.error (.invalidParameter "path" s!"{parent}: {f.message}"), files)

/-- Read the parameters in order and make the directory; those before a bad one are taken over. -/
def configure (w : FileWriter) (params : Params) (files : FileTree) :
    Except Error Unit × FileWriter × FileTree :=
  let w := { w with path := (params.nonBlank? "path").getD w.path }
  match params.read "format" (Params.worded FileFormat.read) with
  | .error e => (.error e, w, files)
  | .ok format? =>
    let w := { w with format := format?.getD w.format }
    match params.readBool "single_file" with
    | .error e => (.error e, w, files)
    | .ok single? =>
      let w := { w with singleFile := single?.getD w.singleFile }
      if w.singleFile && w.format != .raw then
        (.error (.invalidParameter "single_file" "only raw output can be appended to one file"),
          w, files)
      else
        let (r, files) := w.prepare files
        (r, w, files)

/-! ### Writing -/

def sixDigits (n : Nat) : String :=
  let digits := Nat.toDigits 10 n
  String.ofList (List.replicate (6 - digits.length) '0' ++ digits)

def framePath (w : FileWriter) (index : Nat) : String :=
  s!"{w.path}_{sixDigits index}.{w.format.fileExtension}"

def openOutput (w : FileWriter) (files : FileTree) :
    Except Error (OpenFile × FileTree) :=
  match w.output with
  | some o => .ok (o, files)
  | none =>
    match files.createFile w.path with
    | .ok (place, files) => .ok (⟨place, 0⟩, files)
    | .error f => .error (fault w.path f)

def writeSingle (w : FileWriter) (b : FrameBuffer) (files : FileTree) :
    Result Unit × FileWriter × FileTree :=
  match w.openOutput files with
  | .error e => (refuse e, w, files)
  | .ok (o, files) =>
    let files := files.writeAt o.place o.offset b.data
    (.ok (), { w with output := some { o with offset := o.offset + b.data.length } }, files)

def writeNumbered (w : FileWriter) (b : FrameBuffer) (files : FileTree) :
    Result Unit × FileTree :=
  let path := w.framePath w.written
  match files.createFile path with
  | .error f => (refuse (fault path f), files)
  | .ok (place, files) =>
    match w.format.encode b with
    | .ok bytes => (.ok (), files.put place (.file bytes))
    | .error p => (.error (.panic p), files)

def write (w : FileWriter) (b : FrameBuffer) (files : FileTree) :
    Result Unit × FileWriter × FileTree :=
  if w.singleFile then w.writeSingle b files
  else
    let (r, files) := w.writeNumbered b files
    (r, w, files)

/-- Write a frame and count it; a frame that the file format cannot hold is refused at once. -/
def process (w : FileWriter) (b : FrameBuffer) (files : FileTree) :
    Result Unit × FileWriter × FileTree :=
  if !w.supports b.info.format then
    (refuse (.frame s!"{w.format.name} output cannot encode {b.info.format.label}"), w, files)
  else
    match w.write b files with
    | (.ok (), w, files) => (.ok (), { w with written := w.written + 1 }, files)
    | r => r

end FileWriter

end FrameGraph
