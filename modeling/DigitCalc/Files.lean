import DigitCalc.Text.Quoted
import DigitCalc.Text.Utf8

/-! Files as they are met by name: bytes, or a reason why there are none. -/
namespace DigitCalc

inductive FileFault where
  | absent
  | denied
  | notAFolder
  | isFolder
  | nameTooLong
  deriving DecidableEq, Repr

def FileFault.description : FileFault → String
  | .absent => "[Errno 2] No such file or directory"
  | .denied => "[Errno 13] Permission denied"
  | .notAFolder => "[Errno 20] Not a directory"
  | .isFolder => "[Errno 21] Is a directory"
  | .nameTooLong => "[Errno 36] File name too long"

def FileFault.message (fault : FileFault) (path : String) : String :=
  fault.description ++ ": " ++ Text.Quoted.quote path

abbrev Files := String → Except FileFault (List UInt8)

/-- What a folder holds: the bytes of a file, or a folder that is empty. -/
inductive Entry where
  | bytes (content : List UInt8)
  | folder
  deriving DecidableEq, Repr

abbrev Folder := List (String × Entry)

namespace Folder

def longestName : Nat := 255

def longestPath : Nat := 4095

def find (folder : Folder) (name : String) : Except FileFault Entry :=
  if longestName < name.utf8ByteSize then .error .nameTooLong else
    match folder.lookup name with
    | none => .error .absent
    | some entry => .ok entry

mutual

def walk (folder : Folder) : List String → Except FileFault (List UInt8)
  | [] => .error .isFolder
  | name :: rest =>
      if name = "" || name = "." then walk folder rest
      else if name = ".." then .error .absent
      else
        match folder.find name with
        | .error fault => .error fault
        | .ok (.bytes content) => if rest = [] then .ok content else .error .notAFolder
        | .ok .folder => walkInside folder rest

def walkInside (folder : Folder) : List String → Except FileFault (List UInt8)
  | [] => .error .isFolder
  | name :: rest =>
      if name = "" || name = "." then walkInside folder rest
      else if name = ".." then walk folder rest
      else if longestName < name.utf8ByteSize then .error .nameTooLong
      else .error .absent

end

/-- Paths from the root of the file system lead to no file of the folder. -/
def files (folder : Folder) : Files := fun path =>
  if longestPath < path.utf8ByteSize then .error .nameTooLong
  else if path.startsWith "/" then .error .absent
  else folder.walk (path.splitOn "/")

end Folder

end DigitCalc
