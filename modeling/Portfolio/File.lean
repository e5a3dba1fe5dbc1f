/-
Module: Portfolio.File
Purpose: The files that make up a site, before they are written anywhere.
Main exports: File, FileBody, File.bytes, repeatedPaths
-/
import Portfolio.SortedMap

namespace Portfolio

/-- What a file holds. -/
inductive FileBody where
  | text (s : String)
  | binary (bytes : List UInt8)
  deriving DecidableEq, Repr, Inhabited

/-- The UTF-8 bytes of a text. -/
def utf8Bytes (s : String) : List UInt8 := s.toUTF8.data.toList

namespace FileBody

def bytes : FileBody → List UInt8
  | .text s => utf8Bytes s
  | .binary bytes => bytes

/-- The text of a body that is a text. -/
def text? : FileBody → Option String
  | .text s => some s
  | .binary _ => none

end FileBody

/-- A file of a site. Its path leads from the root of the site, with slashes. -/
structure File where
  path : String
  body : FileBody
  executable : Bool := false
  deriving DecidableEq, Repr, Inhabited

namespace File

def ofText (path text : String) : File := { path := path, body := .text text }

def bytes (f : File) : List UInt8 := f.body.bytes

end File

/-- The paths of files that have the path of a file before them, in order. -/
def laterPaths (seen : List String) : List File → List String
  | [] => []
  | f :: fs =>
      if seen.contains f.path then f.path :: laterPaths seen fs
      else laterPaths (f.path :: seen) fs

/-- The paths that occur more than once, each once and in byte order. -/
def repeatedPaths (files : List File) : List String :=
  (sortEntries ((laterPaths [] files).map fun path => (path, ()))).map (·.1)

end Portfolio
