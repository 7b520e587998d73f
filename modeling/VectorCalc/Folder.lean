import VectorCalc.Report
import VectorCalc.Text.Utf8

/-!
Files by name. A folder holds files and folders; a path is followed from a folder part by
part. Reading a file decodes it and makes its line ends uniform.
-/
namespace VectorCalc

set_option autoImplicit false

inductive FileFault where
  | missing
  | notFolder
  | isFolder
  | nameTooLong
  deriving Repr, DecidableEq

def FileFault.text : FileFault → String
  | .missing => "[Errno 2] No such file or directory"
  | .notFolder => "[Errno 20] Not a directory"
  | .isFolder => "[Errno 21] Is a directory"
  | .nameTooLong => "[Errno 36] File name too long"

abbrev FileAccess := String → Except FileFault (List UInt8)

inductive FileTree where
  | file (bytes : List UInt8)
  | folder (entries : List (String × FileTree))

abbrev Folder := List (String × FileTree)

namespace Folder

def nameLimit : Nat := 255

def pathLimit : Nat := 4095

/-- The outermost folder, with what every system has there: an empty file and a folder for
passing use. -/
def outermost : Folder := [("dev", .folder [("null", .file [])]), ("tmp", .folder [])]

def leave : List Folder → List Folder
  | _ :: outer :: others => outer :: others
  | folders => folders

def follow (folders : List Folder) : List String → Except FileFault (List UInt8)
  | [] => .error .isFolder
  | part :: parts =>
      if part = "" ∨ part = "." then follow folders parts
      else if part = ".." then follow (leave folders) parts
      else if nameLimit < part.utf8ByteSize then .error .nameTooLong
      else
        match folders with
        | [] => .error .missing
        | folder :: _ =>
            match folder.lookup part with
            | none => .error .missing
            | some (.folder entries) => follow (entries :: folders) parts
            | some (.file bytes) => if parts.isEmpty then .ok bytes else .error .notFolder

/-- A path that starts with a slash starts from the outermost folder, any other from the given
one, of whose neighbours nothing is known. -/
def access (folder : Folder) : FileAccess := fun path =>
  if path = "" then .error .missing
  else if pathLimit < path.utf8ByteSize then .error .nameTooLong
  else follow (if path.startsWith "/" then [outermost] else [folder, [], outermost])
    (path.splitOn "/")

end Folder

def readableText (path : String) (found : Except FileFault (List UInt8)) : Except String String :=
  match found with
  | .error fault => .error ("ERROR: " ++ fault.text ++ ": " ++ Text.quoted path)
  | .ok bytes =>
      match Text.decodeUtf8 bytes with
      | .error fault => .error ("ERROR: " ++ fault.message)
      | .ok text => .ok (String.ofList (Text.uniformLines text))

def reportFile (depth : Nat) (modes : Modes) (access : FileAccess) (path : String) :
    Report (Option Value) :=
  if path.contains (Char.ofNat 0) then ⟨.error .nullInName, []⟩
  else
    match readableText path (access path) with
    | .error problem => ⟨.ok none, [.line problem]⟩
    | .ok text => (runText depth .empty text).report modes path

end VectorCalc
