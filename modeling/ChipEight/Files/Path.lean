import ChipEight.Text.Quoted
import ChipEight.Text.Utf8

/-!
# Paths and file errors

What can be wrong with a path, and how paths are taken apart and written.
-/

namespace ChipEight

/-- What a file system answers when a path leads nowhere. -/
inductive FileProblem where
  | missing
  | taken
  | notDirectory
  | isDirectory
  | nameTooLong
deriving DecidableEq

/-- The number and the text of a problem. -/
def FileProblem.text : FileProblem → String
  | .missing => "[Errno 2] No such file or directory"
  | .taken => "[Errno 17] File exists"
  | .notDirectory => "[Errno 20] Not a directory"
  | .isDirectory => "[Errno 21] Is a directory"
  | .nameTooLong => "[Errno 36] File name too long"

/-- Why the file of a path cannot be opened: the path is no name of a file at all, the file system
refuses it, or a number stands in its place and no file is open under that number. -/
inductive FileError where
  | unencodable (failure : Utf8.Unencodable)
  | embeddedNull
  | refused (problem : FileProblem) (path : Text)
  | notOpen
deriving DecidableEq

namespace FileError

/-- The error in words. -/
def message : FileError → String
  | .unencodable failure => failure.message
  | .embeddedNull => "embedded null byte"
  | .refused problem path => s!"{problem.text}: {Quoted.ofText path}"
  | .notOpen => "[Errno 9] Bad file descriptor"

/-- Whether the file system was asked at all. -/
def isRefusal : FileError → Bool
  | .refused _ _ => true
  | .notOpen => true
  | _ => false

end FileError

namespace Path

/-- The parts of a list between the places of a mark. -/
def split {α : Type} [DecidableEq α] (mark : α) : List α → List (List α)
  | [] => [[]]
  | item :: rest =>
      if item = mark then [] :: split mark rest
      else
        match split mark rest with
        | [] => [[item]]
        | part :: parts => (item :: part) :: parts

/-- Whether a part of a path says nothing: it is empty or a single dot. -/
def isIdle {α : Type} [DecidableEq α] (dot : α) (part : List α) : Bool :=
  decide (part = []) || decide (part = [dot])

/-- The bytes of a path. -/
def bytes (path : Text) : Except FileError (List UInt8) :=
  match Utf8.encodeName path with
  | .error failure => .error (.unencodable failure)
  | .ok bytes => if bytes.contains 0 then .error .embeddedNull else .ok bytes

/-- The names that the bytes of a path are made of. -/
def names (bytes : List UInt8) : List (List UInt8) :=
  split 0x2f bytes

/-- The parts of a path between its slashes. -/
def parts (path : Text) : List Text :=
  (split (.char '/') path.points).map Text.mk

/-- The slashes that a path in normal form starts with: none, one, or exactly two. -/
def root (path : Text) : Text :=
  match path.points with
  | .char '/' :: .char '/' :: .char '/' :: _ => "/"
  | .char '/' :: .char '/' :: _ => "//"
  | .char '/' :: _ => "/"
  | _ => ""

/-- A path without idle parts and doubled slashes; `..` stays. -/
def normal (path : Text) : Text :=
  let busy := (parts path).filter fun part => !isIdle (.char '.') part.points
  let text := root path ++ Text.join "/" busy
  if text.isEmpty then "." else text

/-- The directories above the last name of a path, the highest first; `seen` are the points read so
far, the last of them first.  Slashes that a path starts or ends with divide nothing. -/
def aboveFrom (seen : List CodePoint) : List CodePoint → List Text
  | [] => []
  | point :: rest =>
      let slash := CodePoint.char '/'
      let deeper := aboveFrom (point :: seen) rest
      if point == slash && seen.head?.any (· != slash) && rest.any (· != slash) then
        ⟨seen.reverse⟩ :: deeper
      else deeper

/-- The directories above the last name of a path, the highest first. -/
def above (path : Text) : List Text :=
  aboveFrom [] path.points

/-- The last part of a path. -/
def baseName (path : Text) : Text :=
  (parts path).getLast?.getD ""

/-- The suffix of the last part, with its point.  Points that a name starts with do not count. -/
def suffix (path : Text) : Text :=
  let point := CodePoint.char '.'
  let name := ((baseName path).points.dropWhile (· == point)).reverse
  match name.dropWhile (· != point) with
  | [] => ""
  | _ => ⟨point :: (name.takeWhile (· != point)).reverse⟩

end Path

end ChipEight
