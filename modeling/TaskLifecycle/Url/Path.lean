import TaskLifecycle.Host.Name
import TaskLifecycle.Url.Percent

/-!
# TaskLifecycle.Url.Path — paths without dots

The segments of a path are taken in order: `.` is left out, `..` takes back the segment before it, unless that names
a drive.  A dot segment at the end leaves an empty one.
-/

namespace TaskLifecycle
namespace Url
namespace Path

/-- A segment in lower case, with its dots plain. -/
def plainDots : List Char → List Char
  | '%' :: '2' :: 'e' :: rest => '.' :: plainDots rest
  | '%' :: '2' :: 'E' :: rest => '.' :: plainDots rest
  | c :: rest => c :: plainDots rest
  | [] => []

def isDot (segment : List Char) : Bool :=
  plainDots segment == ['.']

def isDoubleDot (segment : List Char) : Bool :=
  plainDots segment == ['.', '.']

/-- A letter with `:` or `|`. -/
def isDrive : List Char → Bool
  | [c, d] => c.isAlpha && (d == ':' || d == '|')
  | _ => false

/-- The segments kept so far, last first, without the last one unless it names a drive. -/
def back : List (List Char) → List (List Char)
  | [] => []
  | segment :: kept => if isDrive segment then segment :: kept else kept

/-- The segments of a path, last first, after those in `kept`. -/
def keep (kept : List (List Char)) : List (List Char) → List (List Char)
  | [] => kept
  | [last] =>
    if isDoubleDot last then [] :: back kept
    else if isDot last then [] :: kept
    else last :: kept
  | segment :: rest =>
    if isDoubleDot segment then keep (back kept) rest
    else if isDot segment then keep kept rest
    else keep (segment :: kept) rest

/-- The normal form of a path whose leading slash is taken off. -/
def normal (cs : List Char) : List Char :=
  let segments := (Host.splitWhere (fun c => c == '/' || c == '\\') cs).map (Percent.encode Percent.inPath)
  (keep [] segments).reverse.flatMap (fun segment => '/' :: segment)

end Path
end Url
end TaskLifecycle
