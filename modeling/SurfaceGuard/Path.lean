import SurfaceGuard.Text.Basic

/-!
# Paths

Paths with `/` between segments, treated as texts without looking at a file system.
`reduce` drops empty and `.` segments and lets `..` undo the segment before it; at the
root `..` has nothing to undo and is dropped, in a relative path it stays.

* `join` puts one path below another and normalises, keeping a `/` at the end.
* `resolve` reads a path relative to a base; the result has no `/` at its end.
-/

namespace SurfaceGuard.Path

/-- The unit between segments. -/
def separator : CodeUnit := 0x2F

/-- The segments of a path, empty ones included. -/
def segments (p : Text) : List Text := Text.splitOn separator p

/-- Does the path start at the root? -/
def isAbsolute (p : Text) : Bool := p.head? == some separator

/-- The segment for the same directory. -/
def here : Text := "."

/-- The segment for the directory above. -/
def above : Text := ".."

/-- The segments that remain after those already kept, the last one first. -/
def reduceFrom (rooted : Bool) : List Text → List Text → List Text
  | kept, [] => kept.reverse
  | kept, s :: rest =>
    if s = [] ∨ s = here then reduceFrom rooted kept rest
    else if s = above then
      match kept with
      | [] => if rooted then reduceFrom rooted [] rest else reduceFrom rooted [above] rest
      | last :: kept' =>
        if last = above then reduceFrom rooted (above :: last :: kept') rest
        else reduceFrom rooted kept' rest
    else reduceFrom rooted (s :: kept) rest

/-- The segments that remain of a path. -/
def reduce (p : Text) : List Text := reduceFrom (isAbsolute p) [] (segments p)

/-- Segments with separators between them. -/
def unsegments (parts : List Text) : Text := Text.join [separator] parts

/-- The normal form of a path; a separator at its end stays. -/
def normalize (p : Text) : Text :=
  if p = [] then here
  else
    let trailing : Text := if p.getLast? = some separator then [separator] else []
    match reduce p with
    | [] => if isAbsolute p then [separator] else here ++ trailing
    | parts => (if isAbsolute p then [separator] else []) ++ unsegments parts ++ trailing

/-- A path below another one. -/
def join (dir p : Text) : Text :=
  if dir = [] then normalize p
  else if p = [] then normalize dir
  else normalize (dir ++ separator :: p)

/-- A path read relative to an absolute base. -/
def resolve (base p : Text) : Text :=
  let full := if isAbsolute p then p else base ++ separator :: p
  separator :: unsegments (reduce full)

end SurfaceGuard.Path
