import LoftGraph.MeshFile.Content

/-!
# Files of vertices and faces, one a line

A line starts with a word that says what it holds: `v` a vertex, `f` a face whose corners are
counted from one, `vn` and `vt` attributes of vertices.  Whatever else a line starts with is left
alone.  Corners may carry numbers of attributes behind a slash, which are left alone too, and only
faces of three corners are read.

Faces come in groups: a line `g` starts one, and so does a face with another number of corners than
the face before.  The corners of a group are held in words of 64 bits, with a sign or without.
-/

namespace LoftGraph.Wavefront

def write (m : Mesh Float) : String :=
  MeshContent.fileText
    (m.vertices.toList.map (fun p => "v " ++ MeshContent.pointText p) ++
      m.triangles.toList.map (fun t => "f " ++ MeshContent.cornerText 1 t))

/-- What has been read so far. -/
structure Reading where
  rows : List (List Float)
  normals : List (List Float)
  textures : List (List Float)
  /-- The groups of faces, backwards, each with its faces backwards. -/
  groups : List (List (List Int))

/-- The groups with one more face. -/
def addFace (face : List Int) : List (List (List Int)) → List (List (List Int))
  | [] => [[face]]
  | [] :: groups => [face] :: groups
  | (last :: faces) :: groups =>
    if last.length = face.length then (face :: last :: faces) :: groups
    else [face] :: (last :: faces) :: groups

/-- The corner of a face, before what belongs to its attributes. -/
def corner (word : String) : Except MeshReadFault Int :=
  MeshContent.int ((Text.split (· = '/') word.toList).headD "")

def readLine (r : Reading) (line : String) : Except MeshReadFault Reading :=
  match Text.words line with
  | "v" :: words => do
    let row ← words.mapM MeshContent.float
    return { r with rows := row :: r.rows }
  | "vn" :: words => do
    let row ← words.mapM MeshContent.float
    return { r with normals := row :: r.normals }
  | "vt" :: words => do
    let row ← words.mapM MeshContent.float
    return { r with textures := row :: r.textures }
  | "f" :: words => do
    let face ← words.mapM corner
    return { r with groups := addFace face r.groups }
  | "g" :: _ => .ok { r with groups := [] :: r.groups }
  | _ => .ok r

/-- A corner counted from one, counted from zero in a word of 64 bits. -/
def fromZero (corner : Int) : Int := (corner - 1).bmod (Nat.pow 2 64)

/-- The triangle of a face of three corners. -/
def triangle? : List Int → Option Triangle
  | [a, b, c] => some ⟨fromZero a, fromZero b, fromZero c⟩
  | _ => none

/-- Can a word of 64 bits hold the corner number, with a sign or without? -/
def isHeld (corner : Int) : Bool := -(Int.pow 2 63) ≤ corner && corner < Int.pow 2 64

/-- The triangles of a group.  Words without a sign are for groups that need them for every corner;
a group that needs them for some alone holds those as no number of a vertex. -/
def groupTriangles (group : List (List Int)) : Except MeshReadFault (List Triangle) :=
  let faces := group.reverse.filter (fun face => face.length = 3)
  let corners := faces.flatten
  if !corners.all isHeld then .error .tooLarge
  else
    match corners.find? (Int.pow 2 63 ≤ ·) with
    | some corner =>
      if corners.all (Int.pow 2 63 ≤ ·) then .ok (faces.filterMap triangle?)
      else .error (.corner (.cornerOutOfRange corner 0))
    | none => .ok (faces.filterMap triangle?)

/-- Are there as many attributes as vertices, all of one width, or none? -/
def fits (attributes : List (List Float)) (vertices : Nat) : Bool :=
  attributes.isEmpty || (MeshContent.isEven attributes && attributes.length == vertices)

def read (text : String) : Except MeshReadFault MeshContent := do
  let r ← (Text.lines text).foldlM readLine ⟨[], [], [], []⟩
  if !MeshContent.isEven r.rows then .error .uneven
  else if !(fits r.normals r.rows.length && fits r.textures r.rows.length) then .error .attributes
  else if r.rows.isEmpty then .error .noVertices
  else
    let triangles ← r.groups.reverse.mapM groupTriangles
    let all := triangles.flatten
    return ⟨r.rows.reverse, if all.isEmpty then none else some all⟩

end LoftGraph.Wavefront
