import Mathlib.Algebra.Order.BigOperators.Group.List
import Mathlib.Algebra.Order.Floor.Ring
import Mathlib.Data.Rat.Floor
import PorcelainMonitor.Common
import PorcelainMonitor.Lib.Layout

/-!
# The merged crack lines

`MergedCrackLines` (`crack_lines.js`) draws all cracks with one call.  `build` puts the
points of the cracks into one position buffer and the segments between them into one
index buffer; `pickAt` finds the crack of a segment again, from the numbers of the
points alone.  `loadCracks` is what the viewer does with them.

Vertex `v` is point `i` of crack `c` if `Layout.At` says so of the numbers of the
points.  A hit is reported by its position in the index buffer.  The scene, the
material and the bounding sphere are left out.

The numbers of a crack are from an ordered field.  `fround` is what a `Float32Array`
stores.
-/

namespace PorcelainMonitor.Frontend

open Layout

/-! ## The cracks -/

section CrackLines

variable {Id R : Type}

/-- A point as it arrives; what is `undefined` or `null` is `none`. -/
structure Point (R : Type) where
  x : Option R
  y : Option R
  z : Option R
  depth : Option R
  width : Option R
deriving DecidableEq, Repr

structure Crack (Id R : Type) where
  id : Id
  points : Option (List (Point R))
  crack_points : Option (List (Point R))
deriving DecidableEq, Repr

structure ScaledPoint (R : Type) where
  x : R
  y : R
  z : R
  depth : R
  width : R
deriving DecidableEq, Repr

/-- An element of `crackData`. -/
structure CrackData (Id R : Type) where
  id : Id
  crack : Crack Id R
  points : List (ScaledPoint R)
  two_le : 2 ≤ points.length
deriving DecidableEq, Repr

/-- The `LineSegments` object, with the buffers of its geometry. -/
structure LineSegments (R : Type) where
  position : List R
  color : List R
  index : List UInt32
  visible : Bool
deriving DecidableEq, Repr

structure MergedCrackLines (Id R : Type) where
  crackData : List (CrackData Id R)
  lineSegments : Option (LineSegments R)
  visible : Bool
  dirty_ : Bool
  colorLUT : List R
deriving DecidableEq, Repr

structure Color (R : Type) where
  r : R
  g : R
  b : R
deriving DecidableEq, Repr

/-- What a typed array can be.  Its greatest length is that of the browser, and no
browser gets up to 48 GiB. -/
structure Engine (R : Type) where
  fround : R → R
  maxLength : Nat
  maxLength_lt : maxLength < 3 * 2 ^ 32

/-- A typed array of this length was asked for. -/
structure RangeError where
  length : Nat
deriving DecidableEq, Repr

def Engine.typedArray {α : Type} (engine : Engine R) (zero : α) (length : Nat) :
    Except RangeError (List α) :=
  if length ≤ engine.maxLength then .ok (List.replicate length zero) else .error ⟨length⟩

/-- The property `points`, or `crack_points` if there is none. -/
def Crack.shownPoints (crack : Crack Id R) : List (Point R) :=
  (crack.points.or crack.crack_points).getD []

section Model

variable [Field R]

def Point.scaled (p : Point R) : ScaledPoint R where
  x := p.x.getD 0 * 0.1
  y := p.y.getD 0 * 0.1 + 15
  z := p.z.getD 0 * 0.1
  depth := p.depth.getD 0
  width := p.width.getD 0

/-! ## Colors -/

def LUT_SIZE : Nat := 256

def stops : List (R × Color R) :=
  [(0, ⟨0.19, 0.51, 0.81⟩), (50, ⟨0.22, 0.63, 0.41⟩), (100, ⟨0.93, 0.79, 0.29⟩),
    (150, ⟨0.93, 0.53, 0.21⟩), (200, ⟨0.90, 0.24, 0.24⟩)]

variable [LinearOrder R]

/-- The loop over the stops, and the last stop if it finds none. -/
def colorAt (depth : R) : Color R :=
  match (stops.zip stops.tail).find? fun s => s.1.1 ≤ depth ∧ depth ≤ s.2.1 with
  | some ((depth₀, c), (depth₁, c')) =>
      let t := (depth - depth₀) / (depth₁ - depth₀)
      ⟨c.r + (c'.r - c.r) * t, c.g + (c'.g - c.g) * t, c.b + (c'.b - c.b) * t⟩
  | none => ⟨0.90, 0.24, 0.24⟩

def buildColorLUT (engine : Engine R) : List R :=
  (List.range LUT_SIZE).flatMap fun i =>
    let color := colorAt ((i : R) / ((LUT_SIZE : R) - 1) * 200)
    [engine.fround color.r, engine.fround color.g, engine.fround color.b]

namespace MergedCrackLines

def new (engine : Engine R) : MergedCrackLines Id R where
  crackData := []
  lineSegments := none
  visible := true
  dirty_ := false
  colorLUT := buildColorLUT engine

variable [FloorRing R] (lines : MergedCrackLines Id R) (engine : Engine R)

/-- `Math.round` takes the half up. -/
def sampleColor (depth : R) : Color R :=
  let idx := (min 255 (max 0 ⌊depth / 200 * 255 + 1 / 2⌋)).toNat
  ⟨lines.colorLUT.getD (idx * 3) 0, lines.colorLUT.getD (idx * 3 + 1) 0,
    lines.colorLUT.getD (idx * 3 + 2) 0⟩

def clear : MergedCrackLines Id R :=
  { lines with crackData := [], lineSegments := none, dirty_ := false }

def addCrack (crack : Crack Id R) : MergedCrackLines Id R :=
  if h : crack.shownPoints.length < 2 then lines
  else
    { lines with
      crackData := lines.crackData ++
        [{ id := crack.id
           crack := crack
           points := crack.shownPoints.map Point.scaled
           two_le := (Nat.not_lt.mp h).trans_eq (List.length_map _).symm }]
      dirty_ := true }

def setVisible (v : Bool) : MergedCrackLines Id R :=
  { lines with
    visible := v
    lineSegments := lines.lineSegments.map fun segments => { segments with visible := v } }

def totalVertices : Nat := (lines.crackData.map fun crack => crack.points.length).sum

def totalSegments : Nat := (lines.crackData.map fun crack => crack.points.length - 1).sum

/-! ## Building -/

end MergedCrackLines

/-- The buffers of `build`, and its running offsets. -/
structure Buffers (R : Type) where
  positions : List R
  colors : List R
  indices : List UInt32
  vertOff : Nat
  idxOff : Nat
  indexOffset : Nat
deriving DecidableEq, Repr

namespace Buffers

variable [FloorRing R] (engine : Engine R) (lines : MergedCrackLines Id R) (b : Buffers R)

/-- Three elements of a `Float32Array`. -/
def write (buffer : List R) (offset : Nat) (x y z : R) : List R :=
  ((buffer.set offset (engine.fround x)).set (offset + 1) (engine.fround y)).set (offset + 2)
    (engine.fround z)

def addPoint (p : ScaledPoint R) : Buffers R :=
  let col := lines.sampleColor p.depth
  { b with
    positions := write engine b.positions b.vertOff p.x p.y p.z
    colors := write engine b.colors b.vertOff col.r col.g col.b
    vertOff := b.vertOff + 3 }

def addSegment (i : Nat) : Buffers R :=
  { b with
    indices := (b.indices.set b.idxOff (.ofNat (b.indexOffset + i))).set (b.idxOff + 1)
      (.ofNat (b.indexOffset + i + 1))
    idxOff := b.idxOff + 2 }

/-- A round of the loop over `crackData`. -/
def addLine (crack : CrackData Id R) : Buffers R :=
  let n := crack.points.length
  let b := crack.points.foldl (addPoint engine lines) b
  let b := (List.range (n - 1)).foldl addSegment b
  { b with indexOffset := b.indexOffset + n }

end Buffers

namespace MergedCrackLines

variable [FloorRing R] (engine : Engine R) (lines : MergedCrackLines Id R)

def build : Except RangeError (MergedCrackLines Id R) :=
  if lines.crackData = [] then .ok lines
  else do
    let positions ← engine.typedArray 0 (lines.totalVertices * 3)
    let colors ← engine.typedArray 0 (lines.totalVertices * 3)
    let indices ← engine.typedArray 0 (lines.totalSegments * 2)
    let b := lines.crackData.foldl (Buffers.addLine engine lines)
      { positions, colors, indices, vertOff := 0, idxOff := 0, indexOffset := 0 }
    return { lines with
      lineSegments := some ⟨b.positions, b.colors, b.indices, lines.visible⟩
      dirty_ := false }

def rebuildIfNeeded : Except RangeError (MergedCrackLines Id R) :=
  if lines.dirty_ then lines.build engine else .ok lines

/-- `PorcelainViewer.loadCracks`, which leaves out the short cracks itself. -/
def loadCracks (cracks : List (Crack Id R)) (showCracks : Bool) :
    Except RangeError (MergedCrackLines Id R) := do
  let cracksWithPoints := cracks.filter fun crack => 2 ≤ crack.shownPoints.length
  let built ← (cracksWithPoints.foldl addCrack lines.clear).build engine
  return built.setVisible showCracks

/-- The crack of the first of the hits `intersects`, and its place in `crackData`. -/
def pickAt (intersects : List Nat) : Option (CrackData Id R × Nat) :=
  match lines.lineSegments, intersects with
  | some _, index :: _ =>
      locate (fun crack => (crack.1.points.length - 1) * 2) index 0 lines.crackData.zipIdx
  | _, _ => none

end MergedCrackLines

end Model

/-! ## Adding cracks -/

namespace MergedCrackLines

variable [Field R] {lines : MergedCrackLines Id R}

/-- A new object is as one that was cleared. -/
theorem clear_new [LinearOrder R] (engine : Engine R) :
    (new engine : MergedCrackLines Id R).clear = new engine := rfl

theorem addCrack_crackData (crack : Crack Id R) :
    (lines.addCrack crack).crackData.map CrackData.crack =
      lines.crackData.map CrackData.crack ++
        [crack].filter fun crack => 2 ≤ crack.shownPoints.length := by
  unfold addCrack
  split
  · next h => simp [h]
  · next h => simp [Nat.not_lt.mp h]

theorem addCrack_lineSegments (crack : Crack Id R) :
    (lines.addCrack crack).lineSegments = lines.lineSegments := by
  unfold addCrack
  split <;> rfl

theorem addCrack_points (crack : Crack Id R)
    (h : ∀ line ∈ lines.crackData, line.points = line.crack.shownPoints.map Point.scaled) :
    ∀ line ∈ (lines.addCrack crack).crackData,
      line.points = line.crack.shownPoints.map Point.scaled := by
  unfold addCrack
  split
  · exact h
  · intro line hline
    rcases List.mem_append.mp hline with hold | hnew
    · exact h line hold
    · obtain rfl := List.mem_singleton.mp hnew
      rfl

theorem addCracks_crackData (cracks : List (Crack Id R)) :
    (cracks.foldl addCrack lines).crackData.map CrackData.crack =
      lines.crackData.map CrackData.crack ++
        cracks.filter fun crack => 2 ≤ crack.shownPoints.length := by
  induction cracks generalizing lines with
  | nil => simp
  | cons crack cracks ih =>
      rw [List.foldl_cons, ih, addCrack_crackData, List.append_assoc, ← List.filter_append,
        List.singleton_append]

theorem addCracks_lineSegments (cracks : List (Crack Id R)) :
    (cracks.foldl addCrack lines).lineSegments = lines.lineSegments := by
  induction cracks generalizing lines with
  | nil => rfl
  | cons crack cracks ih => rw [List.foldl_cons, ih, addCrack_lineSegments]

theorem addCracks_points (cracks : List (Crack Id R))
    (h : ∀ line ∈ lines.crackData, line.points = line.crack.shownPoints.map Point.scaled) :
    ∀ line ∈ (cracks.foldl addCrack lines).crackData,
      line.points = line.crack.shownPoints.map Point.scaled := by
  induction cracks generalizing lines with
  | nil => exact h
  | cons crack cracks ih => exact ih (addCrack_points crack h)

/-- From a cleared object on, `dirty_` says whether there is anything to build. -/
theorem addCracks_dirty (cracks : List (Crack Id R))
    (h : lines.dirty_ = true ↔ lines.crackData ≠ []) :
    (cracks.foldl addCrack lines).dirty_ = true ↔
      (cracks.foldl addCrack lines).crackData ≠ [] := by
  induction cracks generalizing lines with
  | nil => exact h
  | cons crack cracks ih =>
      refine ih ?_
      unfold addCrack
      split
      · exact h
      · simp

end MergedCrackLines

/-! ## What the buffers hold -/

namespace LineSegments

/-- The coordinates of vertex `v`. -/
def vertex (segments : LineSegments R) (v : Nat) : Option (R × R × R) := do
  return (← segments.position[3 * v]?, ← segments.position[3 * v + 1]?,
    ← segments.position[3 * v + 2]?)

end LineSegments

namespace MergedCrackLines

variable (engine : Engine R) (lines : MergedCrackLines Id R) (segments : LineSegments R)

/-- Vertex `v` is point `i` of crack `c`. -/
def IsPoint (v c i : Nat) : Prop :=
  At (lines.crackData.map fun crack => crack.points.length) v c i

/-- Pair `j` of the index buffer joins the points `i` and `i + 1` of crack `c`. -/
def Joins (j c i : Nat) : Prop :=
  ∃ a b, segments.index[2 * j]? = some a ∧ segments.index[2 * j + 1]? = some b ∧
    lines.IsPoint a.toNat c i ∧ lines.IsPoint b.toNat c (i + 1)

/-- The buffers hold the cracks, every segment once, and `pickAt` names the crack of a
segment by its position in the index buffer. -/
structure Merged : Prop where
  index_length : segments.index.length =
    2 * (lines.crackData.map fun crack => crack.points.length - 1).sum
  index_lt : ∀ v ∈ segments.index, v.toNat < lines.totalVertices
  vertex : ∀ v c i, lines.IsPoint v c i → ∃ crack p,
    lines.crackData[c]? = some crack ∧ crack.points[i]? = some p ∧
      segments.vertex v = some (engine.fround p.x, engine.fround p.y, engine.fround p.z)
  pair : ∀ j, 2 * j < segments.index.length → ∃ c i, lines.Joins segments j c i
  once : ∀ c crack i, lines.crackData[c]? = some crack → i + 1 < crack.points.length →
    ∃! j, lines.Joins segments j c i
  pick : ∀ k v hits, Even k → segments.index[k]? = some v → ∃ c i crack,
    lines.crackData[c]? = some crack ∧ lines.IsPoint v.toNat c i ∧
      lines.pickAt (k :: hits) = some (crack, c)

end MergedCrackLines

/-! ## Filling the buffers -/

namespace Buffers

variable {engine : Engine R} {lines : MergedCrackLines Id R} {b : Buffers R}

theorem addSegments_vertOff (is : List Nat) :
    (is.foldl addSegment b).vertOff = b.vertOff := by
  induction is generalizing b with
  | nil => rfl
  | cons i is ih => exact ih

theorem addSegments_idxOff (is : List Nat) :
    (is.foldl addSegment b).idxOff = b.idxOff + is.length * 2 := by
  induction is generalizing b with
  | nil => simp
  | cons i is ih =>
      rw [List.foldl_cons, ih, List.length_cons]
      show b.idxOff + 2 + _ = _
      omega

theorem addSegments_indexOffset (is : List Nat) :
    (is.foldl addSegment b).indexOffset = b.indexOffset := by
  induction is generalizing b with
  | nil => rfl
  | cons i is ih => exact ih

variable [Field R]

theorem write_partly {n offset : Nat} {buffer : List R} (x y z : R)
    (hoff : offset = buffer.length) (hle : offset + 3 ≤ n) :
    write engine (partly 0 n buffer) offset x y z =
      partly 0 n (buffer ++ [engine.fround x, engine.fround y, engine.fround z]) := by
  rw [write, set_partly _ _ hoff (by omega), set_partly _ _ (by simp [hoff]) (by omega),
    set_partly _ _ (by simp [hoff]) (by omega)]
  simp

/-- The arrays as they are made. -/
def empty (verts segs : Nat) : Buffers R :=
  ⟨List.replicate (verts * 3) 0, List.replicate (verts * 3) 0, List.replicate (segs * 2) 0,
    0, 0, 0⟩

/-- The buffers are filled up to the running offsets. -/
structure Filled (verts segs : Nat) (positions colors : List R) (indices : List UInt32)
    (b : Buffers R) : Prop where
  positions_eq : b.positions = partly 0 (verts * 3) positions
  colors_eq : b.colors = partly 0 (verts * 3) colors
  indices_eq : b.indices = partly 0 (segs * 2) indices
  vertOff_positions : b.vertOff = positions.length
  vertOff_colors : b.vertOff = colors.length
  idxOff_eq : b.idxOff = indices.length

variable (engine) in
def storedPosition (p : ScaledPoint R) : List R :=
  [engine.fround p.x, engine.fround p.y, engine.fround p.z]

variable (engine lines) in
def storedColor [LinearOrder R] [FloorRing R] (p : ScaledPoint R) : List R :=
  let col := lines.sampleColor p.depth
  [engine.fround col.r, engine.fround col.g, engine.fround col.b]

/-- The ends of a segment that starts at vertex `v`. -/
def storedSegment (v : Nat) : List UInt32 := [.ofNat v, .ofNat (v + 1)]

theorem storedSegment_getElem? (v : Nat) {d : Nat} (hd : d < 2) :
    (storedSegment v)[d]? = some (.ofNat (v + d)) := by
  match d, hd with
  | 0, _ => rfl
  | 1, _ => rfl

/-- All segments of a crack whose points start at vertex `start`. -/
def storedLine (line : Nat × CrackData Id R) : List UInt32 :=
  (List.range (line.2.points.length - 1)).flatMap fun i => storedSegment (line.1 + i)

variable {verts segs : Nat} {positions colors : List R} {indices : List UInt32}

namespace Filled

theorem addSegment (h : Filled verts segs positions colors indices b) (i : Nat)
    (hle : b.idxOff + 2 ≤ segs * 2) :
    Filled verts segs positions colors (indices ++ storedSegment (b.indexOffset + i))
      (b.addSegment i) where
  positions_eq := h.positions_eq
  colors_eq := h.colors_eq
  indices_eq := by
    rw [Buffers.addSegment, h.indices_eq, set_partly _ _ h.idxOff_eq (by omega),
      set_partly _ _ (by simp [h.idxOff_eq]) (by omega), List.append_assoc]
    rfl
  vertOff_positions := h.vertOff_positions
  vertOff_colors := h.vertOff_colors
  idxOff_eq := by simp [Buffers.addSegment, storedSegment, h.idxOff_eq]

theorem addSegments (h : Filled verts segs positions colors indices b) (is : List Nat)
    (hle : b.idxOff + is.length * 2 ≤ segs * 2) :
    Filled verts segs positions colors
      (indices ++ is.flatMap fun i => storedSegment (b.indexOffset + i))
      (is.foldl Buffers.addSegment b) := by
  induction is generalizing indices b with
  | nil => simpa using h
  | cons i is ih =>
      rw [List.length_cons] at hle
      have hstep := h.addSegment i (by omega)
      have hrest := ih hstep (show b.idxOff + 2 + _ ≤ _ by omega)
      have hoffset : (b.addSegment i).indexOffset = b.indexOffset := rfl
      simpa [hoffset, List.append_assoc] using hrest

end Filled

theorem empty_filled (verts segs : Nat) :
    Filled verts segs ([] : List R) [] [] (empty verts segs) :=
  ⟨rfl, rfl, rfl, rfl, rfl, rfl⟩

variable [LinearOrder R] [FloorRing R]

theorem addPoints_vertOff (points : List (ScaledPoint R)) :
    (points.foldl (addPoint engine lines) b).vertOff = b.vertOff + points.length * 3 := by
  induction points generalizing b with
  | nil => simp
  | cons p points ih =>
      rw [List.foldl_cons, ih, List.length_cons]
      show b.vertOff + 3 + _ = _
      omega

theorem addPoints_idxOff (points : List (ScaledPoint R)) :
    (points.foldl (addPoint engine lines) b).idxOff = b.idxOff := by
  induction points generalizing b with
  | nil => rfl
  | cons p points ih => exact ih

theorem addPoints_indexOffset (points : List (ScaledPoint R)) :
    (points.foldl (addPoint engine lines) b).indexOffset = b.indexOffset := by
  induction points generalizing b with
  | nil => rfl
  | cons p points ih => exact ih

theorem addLine_vertOff (crack : CrackData Id R) :
    (b.addLine engine lines crack).vertOff = b.vertOff + crack.points.length * 3 := by
  rw [addLine, addSegments_vertOff, addPoints_vertOff]

theorem addLine_idxOff (crack : CrackData Id R) :
    (b.addLine engine lines crack).idxOff = b.idxOff + (crack.points.length - 1) * 2 := by
  rw [addLine, addSegments_idxOff, addPoints_idxOff, List.length_range]

theorem addLine_indexOffset (crack : CrackData Id R) :
    (b.addLine engine lines crack).indexOffset = b.indexOffset + crack.points.length := by
  rw [addLine, addSegments_indexOffset, addPoints_indexOffset]

theorem addLines_vertOff (cracks : List (CrackData Id R)) :
    (cracks.foldl (addLine engine lines) b).vertOff =
      b.vertOff + (cracks.map fun crack => crack.points.length).sum * 3 := by
  induction cracks generalizing b with
  | nil => simp
  | cons crack cracks ih =>
      rw [List.foldl_cons, ih, addLine_vertOff, List.map_cons, List.sum_cons]
      omega

theorem addLines_idxOff (cracks : List (CrackData Id R)) :
    (cracks.foldl (addLine engine lines) b).idxOff =
      b.idxOff + (cracks.map fun crack => crack.points.length - 1).sum * 2 := by
  induction cracks generalizing b with
  | nil => simp
  | cons crack cracks ih =>
      rw [List.foldl_cons, ih, addLine_idxOff, List.map_cons, List.sum_cons]
      omega

namespace Filled

variable (engine lines)

theorem addPoint (h : Filled verts segs positions colors indices b) (p : ScaledPoint R)
    (hle : b.vertOff + 3 ≤ verts * 3) :
    Filled verts segs (positions ++ storedPosition engine p)
      (colors ++ storedColor engine lines p) indices (b.addPoint engine lines p) where
  positions_eq := by
    rw [Buffers.addPoint, h.positions_eq, write_partly _ _ _ h.vertOff_positions hle]
    rfl
  colors_eq := by
    rw [Buffers.addPoint, h.colors_eq, write_partly _ _ _ h.vertOff_colors hle]
    rfl
  indices_eq := h.indices_eq
  vertOff_positions := by simp [Buffers.addPoint, storedPosition, h.vertOff_positions]
  vertOff_colors := by simp [Buffers.addPoint, storedColor, h.vertOff_colors]
  idxOff_eq := h.idxOff_eq

theorem addPoints (h : Filled verts segs positions colors indices b)
    (points : List (ScaledPoint R)) (hle : b.vertOff + points.length * 3 ≤ verts * 3) :
    Filled verts segs (positions ++ points.flatMap (storedPosition engine))
      (colors ++ points.flatMap (storedColor engine lines)) indices
      (points.foldl (Buffers.addPoint engine lines) b) := by
  induction points generalizing positions colors b with
  | nil => simpa using h
  | cons p points ih =>
      rw [List.length_cons] at hle
      have hstep := h.addPoint engine lines p (by omega)
      have hrest := ih hstep (show b.vertOff + 3 + _ ≤ _ by omega)
      simpa [List.append_assoc] using hrest

theorem addLine (h : Filled verts segs positions colors indices b) (crack : CrackData Id R)
    (hverts : b.vertOff + crack.points.length * 3 ≤ verts * 3)
    (hsegs : b.idxOff + (crack.points.length - 1) * 2 ≤ segs * 2) :
    Filled verts segs (positions ++ crack.points.flatMap (storedPosition engine))
      (colors ++ crack.points.flatMap (storedColor engine lines))
      (indices ++ storedLine (b.indexOffset, crack)) (b.addLine engine lines crack) := by
  have hpoints := h.addPoints engine lines crack.points hverts
  have hsegments := hpoints.addSegments (List.range (crack.points.length - 1))
    (by rwa [addPoints_idxOff, List.length_range])
  rw [addPoints_indexOffset] at hsegments
  exact { hsegments with }

theorem addLines (h : Filled verts segs positions colors indices b)
    (cracks : List (CrackData Id R))
    (hverts : b.vertOff + (cracks.map fun crack => crack.points.length).sum * 3 ≤ verts * 3)
    (hsegs : b.idxOff + (cracks.map fun crack => crack.points.length - 1).sum * 2 ≤ segs * 2) :
    Filled verts segs
      (positions ++ cracks.flatMap fun crack => crack.points.flatMap (storedPosition engine))
      (colors ++ cracks.flatMap fun crack => crack.points.flatMap (storedColor engine lines))
      (indices ++
        (withOffsets (fun crack : CrackData Id R => crack.points.length) b.indexOffset
          cracks).flatMap storedLine)
      (cracks.foldl (Buffers.addLine engine lines) b) := by
  induction cracks generalizing positions colors indices b with
  | nil => simpa [withOffsets] using h
  | cons crack cracks ih =>
      rw [List.map_cons, List.sum_cons] at hverts hsegs
      have hstep := h.addLine engine lines crack (by omega) (by omega)
      have hrest := ih hstep (by rw [addLine_vertOff]; omega) (by rw [addLine_idxOff]; omega)
      rw [addLine_indexOffset] at hrest
      simpa [withOffsets, List.append_assoc] using hrest

end Filled

end Buffers

/-! ## The merged geometry -/

namespace MergedCrackLines

/-- The vertices at which the segments start, in the order of the index buffer. -/
def starts (lines : MergedCrackLines Id R) : List Nat :=
  (withOffsets (fun crack : CrackData Id R => crack.points.length) 0 lines.crackData).flatMap
    fun line => (List.range (line.2.points.length - 1)).map (line.1 + ·)

section Starts

variable {lines : MergedCrackLines Id R}

theorem totalSegments_le : lines.totalSegments ≤ lines.totalVertices :=
  List.sum_le_sum fun crack _ => Nat.sub_le crack.points.length 1

theorem flatMap_storedLine :
    (withOffsets (fun crack : CrackData Id R => crack.points.length) 0 lines.crackData).flatMap
      Buffers.storedLine = lines.starts.flatMap Buffers.storedSegment := by
  rw [starts, List.flatMap_assoc]
  refine List.flatMap_congr fun line _ => ?_
  rw [List.flatMap_map]
  rfl

theorem starts_sizes :
    ((withOffsets (fun crack : CrackData Id R => crack.points.length) 0 lines.crackData).map
      fun line => (List.range (line.2.points.length - 1)).map (line.1 + ·)).map List.length =
        lines.crackData.map fun crack => crack.points.length - 1 := by
  rw [List.map_map, Function.comp_def]
  simpa using withOffsets_map (fun crack : CrackData Id R => crack.points.length - 1) 0

theorem starts_length : lines.starts.length = lines.totalSegments := by
  rw [starts, List.flatMap_def, List.length_flatten, starts_sizes]
  rfl

/-- Segment `i` of crack `c` starts at the vertex of its point `i`. -/
theorem starts_getElem? {j v c i : Nat}
    (hj : At (lines.crackData.map fun crack => crack.points.length - 1) j c i)
    (hv : lines.IsPoint v c i) : lines.starts[j]? = some v := by
  obtain ⟨start, crack, hoff, hcrack, hstart⟩ := hv.withOffsets 0
  obtain ⟨n, hn, hi⟩ := hj.size
  rw [List.getElem?_map, hcrack, Option.map_some, Option.some.injEq] at hn
  subst hn
  rw [← starts_sizes] at hj
  rw [starts, List.flatMap_def, hj.flatten, List.getElem?_map, hoff]
  simp only [Option.map_some, Option.bind_some]
  rw [List.getElem?_map, List.getElem?_range hi, Option.map_some, hstart, Nat.zero_add]

/-- Every segment goes from a point to the next one of the same crack. -/
theorem exists_segment {j : Nat} (h : j < lines.totalSegments) :
    ∃ c i v, At (lines.crackData.map fun crack => crack.points.length - 1) j c i ∧
      lines.IsPoint v c i ∧ lines.IsPoint (v + 1) c (i + 1) := by
  obtain ⟨c, i, hj⟩ := exists_at h
  obtain ⟨n, hn, hi⟩ := hj.size
  obtain ⟨crack, hcrack, rfl⟩ := Option.map_eq_some_iff.mp (List.getElem?_map .. ▸ hn)
  have hlen : (lines.crackData.map fun crack => crack.points.length)[c]? =
      some crack.points.length := by simp [hcrack]
  obtain ⟨v, hv⟩ := exists_pos hlen (i := i) (by omega)
  exact ⟨c, i, v, hj, hv, hv.succ hlen (by omega)⟩

theorem IsPoint.lt {v c i : Nat} (h : lines.IsPoint v c i) : v < lines.totalVertices := h.lt_sum

/-- No vertex number is cut off. -/
theorem IsPoint.toNat_ofNat {engine : Engine R} {v c i : Nat} (h : lines.IsPoint v c i)
    (hle : lines.totalVertices * 3 ≤ engine.maxLength) : (UInt32.ofNat v).toNat = v := by
  have hlt := h.lt
  have hmax := engine.maxLength_lt
  refine UInt32.toNat_ofNat_of_lt' (?_ : v < 2 ^ 32)
  omega

/-- `pickAt` finds the crack of a segment by the numbers of the segments. -/
theorem pickAt_eq {segments : LineSegments R} {k c i : Nat}
    (hsegments : lines.lineSegments = some segments) (heven : k % 2 = 0)
    (hj : At (lines.crackData.map fun crack => crack.points.length - 1) (k / 2) c i)
    (hits : List Nat) :
    lines.pickAt (k :: hits) = lines.crackData[c]?.map (·, c) := by
  have hat : At (lines.crackData.zipIdx.map fun crack => (crack.1.points.length - 1) * 2) k c
      (2 * i) := by
    have hmul := hj.mul (m := 2) Nat.zero_lt_two
    rw [List.map_map, Nat.add_zero, Nat.add_zero, show 2 * (k / 2) = k by omega] at hmul
    have hsizes : (lines.crackData.zipIdx.map fun crack => (crack.1.points.length - 1) * 2) =
        lines.crackData.map fun crack => (crack.points.length - 1) * 2 := by
      conv_rhs => rw [← List.zipIdx_map_fst 0 lines.crackData, List.map_map]
      rfl
    rw [hsizes]
    exact hmul
  have hlocate := hat.locate 0
  rw [Nat.zero_add, List.getElem?_zipIdx, Nat.zero_add] at hlocate
  simpa [pickAt, hsegments] using hlocate

theorem pickAt_setVisible (visible : Bool) (hits : List Nat) :
    (lines.setVisible visible).pickAt hits = lines.pickAt hits := by
  unfold pickAt setVisible
  cases lines.lineSegments <;> cases hits <;> rfl

theorem Merged.setVisible {segments : LineSegments R} {engine : Engine R}
    (h : lines.Merged engine segments) (visible : Bool) :
    (lines.setVisible visible).Merged engine { segments with visible } where
  index_length := h.index_length
  index_lt := h.index_lt
  vertex := h.vertex
  pair := h.pair
  once := h.once
  pick k v hits heven hk := by
    rw [pickAt_setVisible]
    exact h.pick k v hits heven hk

end Starts

variable [Field R] [LinearOrder R] [FloorRing R] (engine : Engine R)
  (lines : MergedCrackLines Id R)

def merged : LineSegments R where
  position := (lines.crackData.flatMap CrackData.points).flatMap (Buffers.storedPosition engine)
  color := (lines.crackData.flatMap CrackData.points).flatMap (Buffers.storedColor engine lines)
  index := lines.starts.flatMap Buffers.storedSegment
  visible := lines.visible

variable {engine lines}

/-- The buffers are full after the last round. -/
theorem addLines_full {b : Buffers R}
    (h : b = lines.crackData.foldl (Buffers.addLine engine lines)
      (.empty lines.totalVertices lines.totalSegments)) :
    b.positions = (lines.merged engine).position ∧ b.colors = (lines.merged engine).color ∧
      b.indices = (lines.merged engine).index := by
  have hfilled := (Buffers.empty_filled lines.totalVertices lines.totalSegments).addLines
    engine lines lines.crackData (by simp [totalVertices, Buffers.empty])
    (by simp [totalSegments, Buffers.empty])
  have hverts : b.vertOff = lines.totalVertices * 3 := by
    simp [h, Buffers.addLines_vertOff, totalVertices, Buffers.empty]
  have hsegs : b.idxOff = lines.totalSegments * 2 := by
    simp [h, Buffers.addLines_idxOff, totalSegments, Buffers.empty]
  rw [← h] at hfilled
  refine ⟨?_, ?_, ?_⟩
  · rw [hfilled.positions_eq, partly_full _ (hfilled.vertOff_positions.symm.trans hverts)]
    simp [merged, List.flatMap_assoc]
  · rw [hfilled.colors_eq, partly_full _ (hfilled.vertOff_colors.symm.trans hverts)]
    simp [merged, List.flatMap_assoc]
  · rw [hfilled.indices_eq, partly_full _ (hfilled.idxOff_eq.symm.trans hsegs), List.nil_append]
    exact flatMap_storedLine

theorem merged_index_length : (lines.merged engine).index.length = 2 * lines.totalSegments := by
  simp [merged, List.length_flatMap, Buffers.storedSegment, starts_length, Nat.mul_comm]

theorem merged_index {j v c i d : Nat}
    (hj : At (lines.crackData.map fun crack => crack.points.length - 1) j c i)
    (hv : lines.IsPoint v c i) (hd : d < 2) :
    (lines.merged engine).index[2 * j + d]? = some (.ofNat (v + d)) := by
  have hlt : j < lines.starts.length := by
    rw [starts_length]
    exact hj.lt_sum
  rw [merged, getElem?_flatMap (n := 2) (fun _ _ => rfl) hlt hd, starts_getElem? hj hv]
  exact Buffers.storedSegment_getElem? v hd

theorem merged_joins {j v c i : Nat}
    (hj : At (lines.crackData.map fun crack => crack.points.length - 1) j c i)
    (hv : lines.IsPoint v c i) (hv' : lines.IsPoint (v + 1) c (i + 1))
    (hle : lines.totalVertices * 3 ≤ engine.maxLength) :
    lines.Joins (lines.merged engine) j c i := by
  refine ⟨.ofNat v, .ofNat (v + 1), merged_index hj hv Nat.zero_lt_two,
    merged_index hj hv Nat.one_lt_two, ?_, ?_⟩
  · rwa [hv.toNat_ofNat hle]
  · rwa [hv'.toNat_ofNat hle]

theorem merged_vertex {v c i : Nat} (h : lines.IsPoint v c i) : ∃ crack p,
    lines.crackData[c]? = some crack ∧ crack.points[i]? = some p ∧
      (lines.merged engine).vertex v =
        some (engine.fround p.x, engine.fround p.y, engine.fround p.z) := by
  obtain ⟨n, hn, hi⟩ := h.size
  obtain ⟨crack, hcrack, rfl⟩ := Option.map_eq_some_iff.mp (List.getElem?_map .. ▸ hn)
  have hpoints : (lines.crackData.flatMap CrackData.points)[v]? = some (crack.points[i]) := by
    have hat : At ((lines.crackData.map CrackData.points).map List.length) v c i := by
      rw [List.map_map]
      exact h
    rw [List.flatMap_def, hat.flatten, List.getElem?_map, hcrack]
    simp [hi]
  have hlt := (List.getElem?_eq_some_iff.mp hpoints).1
  have hstored : ∀ d < 3, (lines.merged engine).position[3 * v + d]? =
      (Buffers.storedPosition engine crack.points[i])[d]? := by
    intro d hd
    rw [merged, getElem?_flatMap (n := 3) (fun _ _ => rfl) hlt hd, hpoints, Option.bind_some]
  have hx := hstored 0 (by omega)
  rw [Nat.add_zero] at hx
  refine ⟨crack, crack.points[i], hcrack, by simp [hi], ?_⟩
  rw [LineSegments.vertex, hx, hstored 1 (by omega), hstored 2 (by omega)]
  rfl

/-- A position of the index buffer is one end of a segment. -/
theorem exists_end {k : Nat} {v : UInt32} (h : (lines.merged engine).index[k]? = some v)
    (hle : lines.totalVertices * 3 ≤ engine.maxLength) :
    ∃ c i, At (lines.crackData.map fun crack => crack.points.length - 1) (k / 2) c i ∧
      lines.IsPoint v.toNat c (i + k % 2) := by
  have hlt := (List.getElem?_eq_some_iff.mp h).1
  rw [merged_index_length] at hlt
  obtain ⟨c, i, v', hj, hv, hv'⟩ := exists_segment (show k / 2 < lines.totalSegments by omega)
  have hend : (lines.merged engine).index[2 * (k / 2) + k % 2]? = _ :=
    merged_index hj hv (Nat.mod_lt k Nat.zero_lt_two)
  rw [Nat.div_add_mod, h, Option.some.injEq] at hend
  subst hend
  refine ⟨c, i, hj, ?_⟩
  rcases Nat.mod_two_eq_zero_or_one k with heven | hodd
  · rw [heven]
    rwa [Nat.add_zero, hv.toNat_ofNat hle]
  · rw [hodd]
    rwa [hv'.toNat_ofNat hle]

theorem merged_merged (hle : lines.totalVertices * 3 ≤ engine.maxLength)
    (hsegments : lines.lineSegments = some (lines.merged engine)) :
    lines.Merged engine (lines.merged engine) where
  index_length := merged_index_length
  index_lt v hv := by
    obtain ⟨k, hk⟩ := List.mem_iff_getElem?.mp hv
    obtain ⟨c, i, -, hend⟩ := exists_end hk hle
    exact hend.lt
  vertex v c i h := merged_vertex h
  pair j hj := by
    rw [merged_index_length] at hj
    obtain ⟨c, i, v, hat, hv, hv'⟩ := exists_segment (show j < lines.totalSegments by omega)
    exact ⟨c, i, merged_joins hat hv hv' hle⟩
  once c crack i hcrack hi := by
    obtain ⟨j, hj⟩ := exists_pos (i := i) (show (lines.crackData.map fun crack =>
      crack.points.length - 1)[c]? = some (crack.points.length - 1) by simp [hcrack]) (by omega)
    obtain ⟨c', i', v, hat, hv, hv'⟩ := exists_segment hj.lt_sum
    obtain ⟨rfl, rfl⟩ := hj.inj hat
    refine ⟨j, merged_joins hat hv hv' hle, ?_⟩
    rintro j' ⟨a, b, ha, -, hpoint, -⟩
    -- the first end alone says which segment it is
    obtain ⟨c'', i'', hat', hend⟩ := exists_end ha hle
    rw [Nat.mul_div_cancel_left j' Nat.zero_lt_two, Nat.mul_mod_right, Nat.add_zero] at *
    obtain ⟨rfl, rfl⟩ := hpoint.inj hend
    exact hat'.pos_inj hat
  pick k v hits heven hk := by
    obtain ⟨c, i, hat, hend⟩ := exists_end hk hle
    obtain ⟨n, hn, hi⟩ := hat.size
    obtain ⟨crack, hcrack, -⟩ := Option.map_eq_some_iff.mp (List.getElem?_map .. ▸ hn)
    refine ⟨c, _, crack, hcrack, hend, ?_⟩
    rw [pickAt_eq hsegments (Nat.even_iff.mp heven) hat, hcrack]
    rfl

theorem build_eq (h : lines.crackData ≠ [])
    (hle : lines.totalVertices * 3 ≤ engine.maxLength) :
    lines.build engine =
      .ok { lines with lineSegments := some (lines.merged engine), dirty_ := false } := by
  have hsegs : lines.totalSegments * 2 ≤ engine.maxLength :=
    (Nat.mul_le_mul totalSegments_le (Nat.le_succ 2)).trans hle
  obtain ⟨hpositions, hcolors, hindices⟩ :=
    addLines_full (show _ = lines.crackData.foldl (Buffers.addLine engine lines) _ from rfl)
  rw [Buffers.empty] at hpositions hcolors hindices
  rw [build, if_neg h, Engine.typedArray, Engine.typedArray, if_pos hle, if_pos hsegs]
  show Except.ok _ = _
  rw [hpositions, hcolors, hindices]
  rfl

theorem build_error (h : lines.crackData ≠ [])
    (hlt : engine.maxLength < lines.totalVertices * 3) :
    lines.build engine = .error ⟨lines.totalVertices * 3⟩ := by
  rw [build, if_neg h, Engine.typedArray, if_neg (Nat.not_le.mpr hlt)]
  rfl

variable (engine) in
/-- What `build` makes of an object that has no geometry yet. -/
theorem build_merged (hnone : lines.lineSegments = none) :
    match lines.build engine with
    | .error _ => engine.maxLength < lines.totalVertices * 3
    | .ok built => built.crackData = lines.crackData ∧
        match built.lineSegments with
        | none => lines.crackData = []
        | some segments => built.Merged engine segments := by
  by_cases hempty : lines.crackData = []
  · rw [build, if_pos hempty]
    simp [hnone, hempty]
  · by_cases hle : lines.totalVertices * 3 ≤ engine.maxLength
    · rw [build_eq hempty hle]
      exact ⟨rfl, merged_merged hle rfl⟩
    · rw [build_error hempty (Nat.not_le.mp hle)]
      exact Nat.not_le.mp hle

/-- Index buffer and picking agree on the cracks that were added to a new or cleared
object.  Without a crack of two points there is no geometry, and where a buffer would be
longer than a typed array can be, the browser throws. -/
theorem lines_and_picking_agree (engine : Engine R) (lines : MergedCrackLines Id R)
    (cracks : List (Crack Id R)) :
    let added := cracks.foldl addCrack lines.clear
    added.crackData.map CrackData.crack =
        cracks.filter (fun crack => 2 ≤ crack.shownPoints.length) ∧
      (∀ line ∈ added.crackData, line.points = line.crack.shownPoints.map Point.scaled) ∧
      match added.build engine with
      | .error _ => engine.maxLength < added.totalVertices * 3
      | .ok built => built.crackData = added.crackData ∧
          match built.lineSegments with
          | none => added.crackData = []
          | some segments => built.Merged engine segments := by
  intro added
  exact ⟨addCracks_crackData cracks, addCracks_points cracks (fun _ h => nomatch h),
    build_merged engine (addCracks_lineSegments cracks)⟩

/-- `rebuildIfNeeded` builds the cracks that were added, and leaves what was built alone. -/
theorem rebuildIfNeeded_addCracks (cracks : List (Crack Id R)) :
    let added := cracks.foldl addCrack lines.clear
    added.rebuildIfNeeded engine = added.build engine ∧
      ∀ built, added.build engine = .ok built → built.rebuildIfNeeded engine = .ok built := by
  intro added
  have hdirty : added.dirty_ = true ↔ added.crackData ≠ [] :=
    addCracks_dirty cracks (by simp [clear])
  by_cases hempty : added.crackData = []
  · have hclean : ¬added.dirty_ = true := fun h => hdirty.mp h hempty
    have hbuild : added.build engine = .ok added := by rw [build, if_pos hempty]
    have hrebuild : added.rebuildIfNeeded engine = .ok added := by
      rw [rebuildIfNeeded, if_neg hclean]
    refine ⟨hrebuild.trans hbuild.symm, fun built h => ?_⟩
    obtain rfl := Except.ok.inj (hbuild.symm.trans h)
    exact hrebuild
  · refine ⟨if_pos (hdirty.mpr hempty), fun built h => ?_⟩
    by_cases hle : added.totalVertices * 3 ≤ engine.maxLength
    · obtain rfl := Except.ok.inj ((build_eq hempty hle).symm.trans h)
      rfl
    · cases (build_error hempty (Nat.not_le.mp hle)).symm.trans h

/-! ## Loading the cracks of an object -/

/-- Whatever the viewer has shown before, it shows the cracks of two points and more, and
a hit leads to the crack that it is on. -/
theorem loadCracks_merged {cracks : List (Crack Id R)} {showCracks : Bool}
    {shown : MergedCrackLines Id R} (h : lines.loadCracks engine cracks showCracks = .ok shown) :
    shown.crackData.map CrackData.crack =
        cracks.filter (fun crack => 2 ≤ crack.shownPoints.length) ∧
      ∀ segments, shown.lineSegments = some segments →
        segments.visible = showCracks ∧ shown.Merged engine segments := by
  let added := (cracks.filter fun crack => 2 ≤ crack.shownPoints.length).foldl addCrack lines.clear
  have hmerged := build_merged engine (show added.lineSegments = none from
    addCracks_lineSegments _)
  have hcracks : added.crackData.map CrackData.crack = _ := addCracks_crackData _
  cases hbuild : added.build engine with
  | error e =>
      rw [loadCracks, hbuild] at h
      cases h
  | ok built =>
      rw [loadCracks, hbuild] at h
      cases h
      rw [hbuild] at hmerged
      obtain ⟨hdata, hmerged⟩ := hmerged
      refine ⟨?_, fun segments hsegments => ?_⟩
      · rw [MergedCrackLines.setVisible, hdata, hcracks]
        simp [clear]
      · obtain ⟨segments', hsegments', rfl⟩ := Option.map_eq_some_iff.mp hsegments
        rw [hsegments'] at hmerged
        exact ⟨rfl, hmerged.setVisible showCracks⟩

end MergedCrackLines

end CrackLines

end PorcelainMonitor.Frontend
