import CacheTelemetry.Document.Decode
import CacheTelemetry.Fault.Basic
import CacheTelemetry.Files.Tree

/-!
# Settings from files

A file gives settings if its suffix belongs to a format and the document in it is a table of valid
fields. `Settings.ofFileWith` depends on the reader of documents only through the values and faults
that it ends in; readers are foreign code, and may raise any fault.
-/

namespace CacheTelemetry.Settings

/-- A way to read the document in the octets of a file. -/
abbrev Reader := Format → List UInt8 → Except Fault Document.Value

/-- The reader of documents. -/
def documentReader : Reader := fun format octets =>
  (Document.decode format octets).mapError .document

/-- The settings given by the entries of a table. -/
def ofEntries (entries : List (Document.Value × Document.Value)) : Except Fault Settings :=
  match Document.tableOf entries with
  | .ok t => (ofTable t).mapError .rejected
  | .error .brokenText => .error (.rejected [("", .brokenText)])
  | .error .notText => .error (.document .keyNotText)

/-- The settings given by a document. -/
def ofDocument (format : Format) : Document.Value → Except Fault Settings
  | .dict entries => ofEntries entries
  | _ => .error (.settingsFile (.notTable format))

/-- The settings given by the octets of a file. -/
def ofOctets (read : Reader) (format : Format) (octets : List UInt8) : Except Fault Settings :=
  (read format octets).bind (ofDocument format)

/-- The settings given by what was found at a path. -/
def ofEntry (read : Reader) (path : Files.Path) (format : Format) :
    Files.Entry → Except Fault Settings
  | .file octets => ofOctets read format octets
  | .directory => .error (.directory path.text)

/-- A fault that was met while a file was read. Faults that are about settings as such stay as they
are, and interruptions are not handled; all other faults become the cause of one. -/
def fileFault (path : Files.Path) (f : Fault) : Fault :=
  if f.isError = false ∨ f.kind = .settings then f else .unreadableFile path.text f

/-- An error that is not about settings as such is the cause of the fault that it becomes. -/
theorem fileFault_of_ne {f : Fault} (error : f.isError = true) (foreign : f.kind ≠ .settings)
    (path : Files.Path) : fileFault path f = .unreadableFile path.text f :=
  if_neg (by simp [error, foreign])

/-- A fault about settings as such stays as it is. -/
theorem fileFault_of_kind_eq {f : Fault} (own : f.kind = .settings) (path : Files.Path) :
    fileFault path f = f :=
  if_pos (.inr own)

/-- Whatever error was met while a file was read, the kind of the fault is the same. -/
theorem kind_fileFault {f : Fault} (error : f.isError = true) (path : Files.Path) :
    (fileFault path f).kind = .settings := by
  by_cases own : f.kind = .settings
  · rw [fileFault_of_kind_eq own, own]
  · rw [fileFault_of_ne error own]
    rfl

/-- The settings given by the file at a path, with the documents read by a reader. -/
def ofFileWith (read : Reader) (files : Files.Tree) (path : Files.Path) : Except Fault Settings :=
  match files.find path with
  | .tooLong => .error .longPath
  | .absent => .error (.settingsFile (.missing path.text))
  | .present entry =>
    let suffixText := Text.lower path.suffixText
    match Format.ofSuffix? suffixText with
    | some format => (ofEntry read path format entry).mapError (fileFault path)
    | none => .error (.settingsFile (.unsupported suffixText))

/-- The settings given by the file at a path. -/
def ofFile (files : Files.Tree) (path : Files.Path) : Except Fault Settings :=
  ofFileWith documentReader files path

end CacheTelemetry.Settings
