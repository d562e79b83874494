import CloudReconcile.Text.Percent
import CloudReconcile.Url.Basic

/-!
# Segments of paths

What a path holds between its slashes.  A segment of dots moves along the path instead of becoming
part of it, and in the address of a file the first segment may name a drive.
-/

namespace CloudReconcile
namespace UrlPath

def pathSet : Text.Percent.Set :=
  [' ', '"', '#', '<', '>', '?', '\x60', '\x7b', '\x7d']

def segmentSet (isSpecial : Bool) : Text.Percent.Set :=
  pathSet ++ ['/', '%'] ++ (if isSpecial then ['\\'] else [])

def withoutBreaks (text : List Char) : List Char :=
  text.filter fun c => c ≠ '\t' && c ≠ '\n' && c ≠ '\r'

/-- The segment is `.`, possibly percent-encoded. -/
def isSingleDot (segment : List Char) : Bool :=
  let s := segment.map Char.toLower
  s = ['.'] || s = ['%', '2', 'e']

def isDoubleDot (segment : List Char) : Bool :=
  let s := segment.map Char.toLower
  s = ['.', '.'] || s = ['.', '%', '2', 'e'] || s = ['%', '2', 'e', '.'] ||
    s = ['%', '2', 'e', '%', '2', 'e']

/-- The segment names a drive: a letter, a colon or bar, and nothing more. -/
def isDrive (segment : List Char) : Bool :=
  match segment with
  | [c, d] => c.isAlpha && (d = ':' || d = '|')
  | _ => false

/-- Drop the last segment; one that names a drive, up to a backslash, stays. -/
def shorten (list : List (List Char)) : List (List Char) :=
  if list.getLast?.any fun s => isDrive (s.takeWhile (· ≠ '\\')) then list else list.dropLast

/-- A first segment of a file: the drive in its usual spelling, apart from what follows it. -/
def drive (segment : List Char) : List (List Char) :=
  match segment with
  | [c, '|'] => if c.isAlpha then [[c, ':']] else [segment]
  | c :: ':' :: d :: rest => if c.isAlpha then [[c, ':'], d :: rest] else [segment]
  | _ => [segment]

/-- Append one encoded segment of a path that is read; `isEnd` says that no slash follows. -/
def append (isFile isEnd : Bool) (list : List (List Char)) (segment : List Char) :
    List (List Char) :=
  if isDoubleDot segment then
    let list := shorten list
    if isEnd then list ++ [[]] else list
  else if isSingleDot segment then
    if isEnd then list ++ [[]] else list
  else if isFile && list.isEmpty then drive segment
  else list ++ [segment]

def appendAll (isFile : Bool) (list : List (List Char)) : List (List Char) → List (List Char)
  | [] => list
  | [last] => append isFile true list last
  | segment :: rest => appendAll isFile (append isFile false list segment) rest

/-- A segment that is read names a drive where the path is still empty. -/
def meetsDrive (list : List (List Char)) : List (List Char) → Bool
  | [] => false
  | segment :: rest =>
    (list.isEmpty && isDrive segment) || meetsDrive (append true rest.isEmpty list segment) rest

/-- The path of a file without empty segments in front. -/
def withoutBlanks (list : List (List Char)) : List (List Char) :=
  match list.dropWhile List.isEmpty with
  | [] => [[]]
  | list => list

def extend (isFile : Bool) (list : List (List Char)) (segment : List Char) :
    List (List Char) :=
  if isDoubleDot segment then shorten list ++ [[]]
  else if isSingleDot segment then push list []
  else if isFile && (list = [[]] || list.isEmpty) then drive segment
  else push list segment

end UrlPath

namespace Url

/-- Extend the path by segments in plain text.  Segments `.` and `..` are left out, and an empty
segment at the end of the path gives way.  Nothing can be added to a path without structure. -/
def withSegments? (u : Url) (segments : List String) : Option Url :=
  match u.path with
  | .flat _ => none
  | .segments list =>
    let isSpecial := isSpecial u.scheme
    let start := if 1 < list.length ∧ list.getLast? = some [] then list.dropLast else list
    let plain := (segments.map String.toList).filter fun s => s ≠ ['.'] && s ≠ ['.', '.']
    let encoded := plain.map fun s =>
      Text.Percent.encode (UrlPath.segmentSet isSpecial) (UrlPath.withoutBreaks s)
    some { u with path := .segments (encoded.foldl (UrlPath.extend (isFile u.scheme)) start) }

end Url
end CloudReconcile
