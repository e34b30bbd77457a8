import PorcelainMonitor.Frontend.CrackGradient

/-!
# The merged crack tubes

`MergedCrackTubes` (`crack_lines.js`) draws a tube along every crack and puts the tubes into
one mesh.  `THREE.TubeGeometry` makes the vertices of a tube and the indices that join them.
It is not part of the program, and any function that makes tubes stands for it here.

The mesh holds the tubes one behind the other, and each index still means the vertex of its
own tube (`tubes_merged`).  Over any calls the scene holds the mesh of the last one
(`scene_shows`).

The material and the bounding sphere are left out.
-/

namespace PorcelainMonitor.Frontend

open Layout

/-! ## Tubes -/

structure TubeVertex (R : Type) where
  position : R × R × R
  normal : R × R × R

/-- What `THREE.TubeGeometry` makes. -/
structure Tube (R : Type) where
  vertices : List (TubeVertex R)
  index : Option (List Nat)
  index_lt : ∀ indices ∈ index, ∀ j ∈ indices, j < vertices.length

/-- The tube along a path, by the numbers of segments along it and around it. -/
abbrev TubeGeometry (R : Type) :=
  (path : List (R × R × R)) → (tubularSegments : Nat) → (radius : R) → (radialSegments : Nat) →
    Tube R

/-- The indices, or all vertices in their order. -/
def Tube.indices {R : Type} (tube : Tube R) : List Nat :=
  tube.index.getD (List.range tube.vertices.length)

theorem Tube.indices_lt {R : Type} (tube : Tube R) {j : Nat} (h : j ∈ tube.indices) :
    j < tube.vertices.length := by
  rw [Tube.indices] at h
  cases hindex : tube.index with
  | none =>
      rw [hindex] at h
      exact List.mem_range.mp h
  | some indices =>
      rw [hindex] at h
      exact tube.index_lt indices hindex j h

structure TubeCrack (Id R : Type) extends Crack Id R where
  max_depth : Option R
  maxDepth : Option R

/-! ## Merging -/

section Model

variable {Id R : Type} [Field R] [LinearOrder R]

/-- `crack.max_depth || crack.maxDepth || 100` -/
def TubeCrack.avgDepth (crack : TubeCrack Id R) : R :=
  ((crack.max_depth.filter (· ≠ 0)).or (crack.maxDepth.filter (· ≠ 0))).getD 100

structure TubeBuffers (R : Type) where
  positions : List R
  normals : List R
  colors : List R
  indices : List Nat
  indexOffset : Nat

def TubeBuffers.empty : TubeBuffers R := ⟨[], [], [], [], 0⟩

/-- The three numbers that are pushed. -/
def coordinates (p : R × R × R) : List R := [p.1, p.2.1, p.2.2]

def Color.toTriple (c : Color R) : R × R × R := (c.r, c.g, c.b)

variable (tubeGeometry : TubeGeometry R)

/-- The tube of a crack. -/
def TubeCrack.tube (crack : TubeCrack Id R) : Tube R :=
  let pts := crack.shownPoints
  tubeGeometry (pts.map fun p => (p.scaled.x, p.scaled.y, p.scaled.z)) (max (pts.length - 1) 1)
    0.15 6

/-- A round of the loop over the cracks, of which there are `count`. -/
def TubeBuffers.addTube (count : Nat) (b : TubeBuffers R) (crack : TubeCrack Id R) :
    TubeBuffers R :=
  if crack.shownPoints.length < 2 then b
  else if 100 < count then b
  else
    let geo := crack.tube tubeGeometry
    let col := MergedCrackTubes.sampleColor crack.avgDepth
    { positions := b.positions ++ geo.vertices.flatMap fun v => coordinates v.position
      normals := b.normals ++ geo.vertices.flatMap fun v => coordinates v.normal
      colors := b.colors ++ geo.vertices.flatMap fun _ => coordinates col.toTriple
      indices := b.indices ++ geo.indices.map (· + b.indexOffset)
      indexOffset := b.indexOffset + geo.vertices.length }

/-- The buffers of the merged mesh. -/
structure TubesGeometry (R : Type) where
  position : List R
  normal : List R
  color : List R
  index : List UInt32

/-- A typed array with these elements. -/
def Engine.arrayOf {α β : Type} (engine : Engine R) (store : α → β) (xs : List α) :
    Except RangeError (List β) :=
  if xs.length ≤ engine.maxLength then .ok (xs.map store) else .error ⟨xs.length⟩

/-- The end of `buildFromCracks`. -/
def TubeBuffers.toGeometry (engine : Engine R) (b : TubeBuffers R) :
    Except RangeError (Option (TubesGeometry R)) :=
  if b.positions.length = 0 then .ok none
  else do
    let position ← engine.arrayOf engine.fround b.positions
    let normal ← engine.arrayOf engine.fround b.normals
    let color ← engine.arrayOf engine.fround b.colors
    let index ← engine.arrayOf UInt32.ofNat b.indices
    return some ⟨position, normal, color, index⟩

/-- What `buildFromCracks` makes of the cracks, if it comes to a mesh. -/
def mergeTubes (engine : Engine R) (crackData : List (TubeCrack Id R)) :
    Except RangeError (Option (TubesGeometry R)) :=
  (crackData.foldl (TubeBuffers.addTube tubeGeometry crackData.length) .empty).toGeometry engine

/-! ## What the mesh holds -/

/-- The tubes that are drawn, with their colors. -/
def shownTubes (crackData : List (TubeCrack Id R)) : List (Tube R × Color R) :=
  if 100 < crackData.length then []
  else
    (crackData.filter fun crack => 2 ≤ crack.shownPoints.length).map fun crack =>
      (crack.tube tubeGeometry, MergedCrackTubes.sampleColor crack.avgDepth)

end Model

section Layout

variable {R : Type}

/-- The numbers of vertices. -/
def vertexCounts (tubes : List (Tube R × Color R)) : List Nat :=
  tubes.map fun tube => tube.1.vertices.length

def indexCounts (tubes : List (Tube R × Color R)) : List Nat :=
  tubes.map fun tube => tube.1.indices.length

/-- Element `k` of a buffer of triples. -/
def triple (buffer : List R) (k : Nat) : Option (R × R × R) := do
  return (← buffer[3 * k]?, ← buffer[3 * k + 1]?, ← buffer[3 * k + 2]?)

def Engine.fround₃ (engine : Engine R) (p : R × R × R) : R × R × R :=
  (engine.fround p.1, engine.fround p.2.1, engine.fround p.2.2)

/-- The mesh holds the vertices of the tubes in the color of their tube, and its indices are
those of the tubes, each of which means a vertex of the same tube. -/
structure MergesTubes (engine : Engine R) (tubes : List (Tube R × Color R))
    (g : TubesGeometry R) : Prop where
  vertex : ∀ k c i, At (vertexCounts tubes) k c i → ∃ tube v,
    tubes[c]? = some tube ∧ tube.1.vertices[i]? = some v ∧
      triple g.position k = some (engine.fround₃ v.position) ∧
      triple g.normal k = some (engine.fround₃ v.normal) ∧
      triple g.color k = some (engine.fround₃ tube.2.toTriple)
  position_length : g.position.length = 3 * (vertexCounts tubes).sum
  index : ∀ m c d, At (indexCounts tubes) m c d → ∃ tube j v,
    tubes[c]? = some tube ∧ tube.1.indices[d]? = some j ∧ g.index[m]? = some v ∧
      At (vertexCounts tubes) v.toNat c j
  index_length : g.index.length = (indexCounts tubes).sum

/-- The tubes behind what the buffers hold. -/
def TubeBuffers.addTubes (b : TubeBuffers R) (tubes : List (Tube R × Color R)) :
    TubeBuffers R where
  positions := b.positions ++ (tubes.flatMap fun tube => tube.1.vertices).flatMap fun v =>
    coordinates v.position
  normals := b.normals ++ (tubes.flatMap fun tube => tube.1.vertices).flatMap fun v =>
    coordinates v.normal
  colors := b.colors ++ (tubes.flatMap fun tube =>
    tube.1.vertices.map fun _ => tube.2.toTriple).flatMap coordinates
  indices := b.indices ++ (withOffsets (fun tube => tube.1.vertices.length) b.indexOffset
    tubes).flatMap fun block => block.2.1.indices.map (· + block.1)
  indexOffset := b.indexOffset + (vertexCounts tubes).sum

end Layout

section Loop

variable {Id R : Type} [Field R] [LinearOrder R] {tubeGeometry : TubeGeometry R} {count : Nat}

/-- With more than a hundred cracks no tube is drawn. -/
theorem addTube_of_many (h : 100 < count) (crackData : List (TubeCrack Id R))
    (b : TubeBuffers R) : crackData.foldl (TubeBuffers.addTube tubeGeometry count) b = b := by
  induction crackData generalizing b with
  | nil => rfl
  | cons crack crackData ih =>
      have hround : b.addTube tubeGeometry count crack = b := by
        rw [TubeBuffers.addTube, if_pos h, ite_self]
      rw [List.foldl_cons, hround, ih]

theorem addTube_of_few (h : ¬ 100 < count) (crackData : List (TubeCrack Id R))
    (b : TubeBuffers R) : crackData.foldl (TubeBuffers.addTube tubeGeometry count) b =
      b.addTubes ((crackData.filter fun crack => 2 ≤ crack.shownPoints.length).map fun crack =>
        (crack.tube tubeGeometry, MergedCrackTubes.sampleColor crack.avgDepth)) := by
  induction crackData generalizing b with
  | nil => simp [TubeBuffers.addTubes, withOffsets, vertexCounts]
  | cons crack crackData ih =>
      rw [List.foldl_cons, ih, TubeBuffers.addTube]
      by_cases hshort : crack.shownPoints.length < 2
      · have hskip : decide (2 ≤ crack.shownPoints.length) = false :=
          decide_eq_false (Nat.not_le.mpr hshort)
        simp only [if_pos hshort, List.filter_cons, hskip, Bool.false_eq_true, if_false]
      · have htake : decide (2 ≤ crack.shownPoints.length) = true :=
          decide_eq_true (Nat.not_lt.mp hshort)
        simp only [if_neg hshort, if_neg h, List.filter_cons, htake, if_true]
        simp [TubeBuffers.addTubes, withOffsets, vertexCounts, List.flatMap_map, Nat.add_assoc,
          -List.map_const_fun, -List.map_const']

theorem foldl_addTube (crackData : List (TubeCrack Id R)) :
    crackData.foldl (TubeBuffers.addTube tubeGeometry crackData.length) .empty =
      TubeBuffers.empty.addTubes (shownTubes tubeGeometry crackData) := by
  rw [shownTubes]
  split
  · next h =>
      rw [addTube_of_many h]
      rfl
  · next h => exact addTube_of_few h crackData .empty

end Loop

section Merged

variable {R : Type} {engine : Engine R} {tubes : List (Tube R × Color R)}

theorem triple_flatMap {α : Type} {xs : List α} {f : α → R × R × R} {k : Nat} {x : α}
    (h : xs[k]? = some x) :
    triple ((xs.flatMap fun x => coordinates (f x)).map engine.fround) k =
      some (engine.fround₃ (f x)) := by
  have hlt := (List.getElem?_eq_some_iff.mp h).1
  have hget : ∀ d < 3, ((xs.flatMap fun x => coordinates (f x)).map engine.fround)[3 * k + d]? =
      ((coordinates (f x)).map engine.fround)[d]? := by
    intro d hd
    rw [List.map_flatMap, getElem?_flatMap (n := 3) (fun _ _ => rfl) hlt hd, h, Option.bind_some]
  have hfirst := hget 0 (by omega)
  rw [Nat.add_zero] at hfirst
  rw [triple, hfirst, hget 1 (by omega), hget 2 (by omega)]
  rfl

theorem length_flatMap_coordinates {α : Type} (xs : List α) (f : α → R × R × R) :
    (xs.flatMap fun x => coordinates (f x)).length = 3 * xs.length := by
  rw [List.length_flatMap]
  simp [coordinates, Nat.mul_comm]

/-- The vertex of the buffers at a place of the layout. -/
theorem vertex_at {k c i : Nat} (h : At (vertexCounts tubes) k c i) : ∃ tube v,
    tubes[c]? = some tube ∧ tube.1.vertices[i]? = some v ∧
      (tubes.flatMap fun tube => tube.1.vertices)[k]? = some v ∧
      (tubes.flatMap fun tube => tube.1.vertices.map fun _ => tube.2.toTriple)[k]? =
        some tube.2.toTriple := by
  obtain ⟨n, hn, hi⟩ := h.size
  rw [vertexCounts, List.getElem?_map] at hn
  obtain ⟨tube, htube, rfl⟩ := Option.map_eq_some_iff.mp hn
  have hvertices : At ((tubes.map fun tube => tube.1.vertices).map List.length) k c i := by
    rw [List.map_map]
    exact h
  have hcolors : At ((tubes.map fun tube => tube.1.vertices.map fun _ =>
      tube.2.toTriple).map List.length) k c i := by
    rw [List.map_map]
    simpa [vertexCounts, Function.comp_def] using h
  refine ⟨tube, tube.1.vertices[i], htube, List.getElem?_eq_getElem hi, ?_, ?_⟩
  · rw [List.flatMap_def, hvertices.flatten, List.getElem?_map, htube]
    exact List.getElem?_eq_getElem hi
  · rw [List.flatMap_def, hcolors.flatten, List.getElem?_map, htube]
    simp [hi]

/-- An index of the buffers, and the place of the vertex that it means. -/
theorem index_at {m c d : Nat} (h : At (indexCounts tubes) m c d) : ∃ tube j k,
    tubes[c]? = some tube ∧ tube.1.indices[d]? = some j ∧ At (vertexCounts tubes) k c j ∧
      ((withOffsets (fun tube => tube.1.vertices.length) 0 tubes).flatMap fun block =>
        block.2.1.indices.map (· + block.1))[m]? = some k := by
  obtain ⟨n, hn, hd⟩ := h.size
  rw [indexCounts, List.getElem?_map] at hn
  obtain ⟨tube, htube, rfl⟩ := Option.map_eq_some_iff.mp hn
  have hj : tube.1.indices[d] < tube.1.vertices.length :=
    tube.1.indices_lt (List.getElem_mem hd)
  have hcount : (tubes.map fun tube => tube.1.vertices.length)[c]? =
      some tube.1.vertices.length := by
    rw [List.getElem?_map, htube]
    rfl
  obtain ⟨k, hk⟩ := exists_pos hcount hj
  obtain ⟨start, tube', hblock, htube', hstart⟩ := hk.withOffsets 0
  obtain rfl : tube = tube' := Option.some.inj (htube.symm.trans htube')
  have hlengths : (withOffsets (fun tube : Tube R × Color R => tube.1.vertices.length) 0
      tubes).map (fun block => block.2.1.indices.length) = indexCounts tubes :=
    withOffsets_map (fun tube : Tube R × Color R => tube.1.indices.length) 0
  have hblocks : At (((withOffsets (fun tube : Tube R × Color R => tube.1.vertices.length) 0
      tubes).map fun block => block.2.1.indices.map (· + block.1)).map List.length) m c d := by
    rw [List.map_map]
    simpa [hlengths, Function.comp_def] using h
  refine ⟨tube, tube.1.indices[d], k, htube, List.getElem?_eq_getElem hd, hk, ?_⟩
  rw [List.flatMap_def, hblocks.flatten, List.getElem?_map, hblock]
  simp [hd]
  omega

theorem length_vertices :
    (tubes.flatMap fun tube => tube.1.vertices).length = (vertexCounts tubes).sum := by
  rw [List.length_flatMap, vertexCounts]

theorem length_indices :
    (TubeBuffers.empty.addTubes tubes).indices.length = (indexCounts tubes).sum := by
  have hlengths : (withOffsets (fun tube : Tube R × Color R => tube.1.vertices.length) 0
      tubes).map (fun block => block.2.1.indices.length) = indexCounts tubes :=
    withOffsets_map (fun tube : Tube R × Color R => tube.1.indices.length) 0
  rw [← hlengths]
  simp [TubeBuffers.addTubes, TubeBuffers.empty, List.length_flatMap]

/-- The buffers as typed arrays, if these can be that long. -/
theorem mergesTubes (hle : 3 * (vertexCounts tubes).sum ≤ engine.maxLength) :
    let b := TubeBuffers.empty.addTubes tubes
    MergesTubes engine tubes ⟨b.positions.map engine.fround, b.normals.map engine.fround,
      b.colors.map engine.fround, b.indices.map UInt32.ofNat⟩ where
  vertex k c i h := by
    obtain ⟨tube, v, htube, hv, hvertex, hcolor⟩ := vertex_at h
    exact ⟨tube, v, htube, hv, triple_flatMap hvertex, triple_flatMap hvertex,
      triple_flatMap (f := id) hcolor⟩
  position_length := by
    rw [List.length_map, ← length_vertices]
    exact length_flatMap_coordinates _ _
  index m c d h := by
    obtain ⟨tube, j, k, htube, hj, hk, hindex⟩ := index_at h
    have hlt : k < 2 ^ 32 := by
      have hsum := hk.lt_sum
      have hmax := engine.maxLength_lt
      omega
    refine ⟨tube, j, .ofNat k, htube, hj, ?_, ?_⟩
    · rw [List.getElem?_map]
      exact congrArg (Option.map UInt32.ofNat) hindex
    · rwa [UInt32.toNat_ofNat', Nat.mod_eq_of_lt hlt]
  index_length := by
    rw [List.length_map]
    exact length_indices

/-- The mesh, or why there is none. -/
theorem toGeometry_merges (engine : Engine R) (tubes : List (Tube R × Color R)) :
    match (TubeBuffers.empty.addTubes tubes).toGeometry engine with
    | .error _ => engine.maxLength < 3 * (vertexCounts tubes).sum ∨
        engine.maxLength < (indexCounts tubes).sum
    | .ok none => (vertexCounts tubes).sum = 0
    | .ok (some g) => MergesTubes engine tubes g := by
  have hpositions : (TubeBuffers.empty.addTubes tubes).positions.length =
      3 * (vertexCounts tubes).sum := by
    rw [← length_vertices]
    exact length_flatMap_coordinates _ _
  have hnormals : (TubeBuffers.empty.addTubes tubes).normals.length =
      3 * (vertexCounts tubes).sum := by
    rw [← length_vertices]
    exact length_flatMap_coordinates _ _
  have hcolors : (TubeBuffers.empty.addTubes tubes).colors.length =
      3 * (vertexCounts tubes).sum := by
    have hcount : (tubes.flatMap fun tube =>
        tube.1.vertices.map fun _ => tube.2.toTriple).length = (vertexCounts tubes).sum := by
      simp [vertexCounts, List.length_flatMap]
    rw [← hcount]
    exact length_flatMap_coordinates _ id
  rw [TubeBuffers.toGeometry, hpositions]
  by_cases hnone : 3 * (vertexCounts tubes).sum = 0
  · rw [if_pos hnone]
    show (vertexCounts tubes).sum = 0
    omega
  rw [if_neg hnone]
  by_cases hle : 3 * (vertexCounts tubes).sum ≤ engine.maxLength
  · rw [Engine.arrayOf, if_pos (hpositions.trans_le hle), Engine.arrayOf,
      if_pos (hnormals.trans_le hle), Engine.arrayOf, if_pos (hcolors.trans_le hle),
      Engine.arrayOf, length_indices]
    by_cases hindex : (indexCounts tubes).sum ≤ engine.maxLength
    · rw [if_pos hindex]
      exact mergesTubes hle
    · rw [if_neg hindex]
      exact .inr (Nat.not_le.mp hindex)
  · rw [Engine.arrayOf, if_neg (fun h => hle (hpositions.symm.trans_le h))]
    exact .inl (Nat.not_le.mp hle)

end Merged

/-- The mesh of any cracks holds their tubes, unless a buffer would be longer than a typed
array can be, or there is nothing to draw. -/
theorem tubes_merged {Id R : Type} [Field R] [LinearOrder R] (engine : Engine R)
    (tubeGeometry : TubeGeometry R) (crackData : List (TubeCrack Id R)) :
    match mergeTubes tubeGeometry engine crackData with
    | .error _ => engine.maxLength < 3 * (vertexCounts (shownTubes tubeGeometry crackData)).sum ∨
        engine.maxLength < (indexCounts (shownTubes tubeGeometry crackData)).sum
    | .ok none => (vertexCounts (shownTubes tubeGeometry crackData)).sum = 0
    | .ok (some g) => MergesTubes engine (shownTubes tubeGeometry crackData) g := by
  rw [mergeTubes, foldl_addTube]
  exact toGeometry_merges engine _

/-! ## The scene -/

/-- The object, the meshes that it has made, and those that are in the scene. -/
structure MergedCrackTubes (R : Type) where
  mergedMesh : Option Nat
  visible : Bool
  /-- Every mesh, with its own `visible`. -/
  meshes : List (TubesGeometry R × Bool)
  scene : List Nat

/-- What is called on the object; `clearCracks` of the viewer is `clearFromScene` and then
`clear`. -/
inductive TubeCall (Id R : Type) where
  | buildFromCracks (crackData : List (TubeCrack Id R))
  | setVisible (v : Bool)
  | clearCracks

namespace MergedCrackTubes

variable {R : Type}

def new : MergedCrackTubes R := ⟨none, true, [], []⟩

def clearFromScene (t : MergedCrackTubes R) : MergedCrackTubes R :=
  match t.mergedMesh with
  | some mesh => { t with scene := t.scene.erase mesh }
  | none => t

def clear (t : MergedCrackTubes R) : MergedCrackTubes R := { t with mergedMesh := none }

def setVisible (v : Bool) (t : MergedCrackTubes R) : MergedCrackTubes R :=
  match t.mergedMesh with
  | some mesh =>
      { t with visible := v, meshes := t.meshes.modify mesh fun shown => (shown.1, v) }
  | none => { t with visible := v }

/-- A new mesh in the scene. -/
def addMesh (g : TubesGeometry R) (t : MergedCrackTubes R) : MergedCrackTubes R where
  mergedMesh := some t.meshes.length
  visible := t.visible
  meshes := t.meshes ++ [(g, t.visible)]
  scene := t.scene ++ [t.meshes.length]

/-- The meshes that are in the scene. -/
def shown (t : MergedCrackTubes R) : List (TubesGeometry R × Bool) :=
  t.scene.filterMap fun mesh => t.meshes[mesh]?

/-- The scene holds what is wanted.  `mergedMesh` may be a mesh that has gone. -/
inductive Holds : Option (TubesGeometry R) × Bool → MergedCrackTubes R → Prop where
  | nothing (mergedMesh : Option Nat) (visible : Bool) (meshes : List (TubesGeometry R × Bool)) :
      Holds (none, visible) ⟨mergedMesh, visible, meshes, []⟩
  | mesh (g : TubesGeometry R) (visible : Bool) (meshes : List (TubesGeometry R × Bool))
      (mesh : Nat) : meshes[mesh]? = some (g, visible) →
      Holds (some g, visible) ⟨some mesh, visible, meshes, [mesh]⟩

namespace Holds

variable {wanted : Option (TubesGeometry R) × Bool} {t : MergedCrackTubes R}

theorem clearFromScene (h : Holds wanted t) : Holds (none, wanted.2) t.clearFromScene := by
  cases h with
  | nothing mergedMesh visible meshes =>
      cases mergedMesh with
      | none => exact .nothing none visible meshes
      | some mesh => exact .nothing (some mesh) visible meshes
  | mesh g visible meshes mesh hmesh =>
      have hgone : MergedCrackTubes.clearFromScene ⟨some mesh, visible, meshes, [mesh]⟩ =
          ⟨some mesh, visible, meshes, []⟩ := by
        rw [MergedCrackTubes.clearFromScene]
        simp
      rw [hgone]
      exact .nothing (some mesh) visible meshes

theorem clear {visible : Bool} (h : Holds (none, visible) t) : Holds (none, visible) t.clear := by
  cases h with
  | nothing mergedMesh visible meshes => exact .nothing none visible meshes

theorem addMesh {visible : Bool} (h : Holds (none, visible) t) (g : TubesGeometry R) :
    Holds (some g, visible) (t.addMesh g) := by
  cases h with
  | nothing mergedMesh visible meshes =>
      exact .mesh g visible _ _ List.getElem?_concat_length

theorem setVisible (h : Holds wanted t) (v : Bool) : Holds (wanted.1, v) (t.setVisible v) := by
  cases h with
  | nothing mergedMesh visible meshes =>
      cases mergedMesh with
      | none => exact .nothing none v meshes
      | some mesh => exact .nothing (some mesh) v _
  | mesh g visible meshes mesh hmesh =>
      refine .mesh g v _ mesh ?_
      rw [List.getElem?_modify_eq, hmesh]
      rfl

theorem shown (h : Holds wanted t) : t.shown = wanted.1.toList.map (·, wanted.2) := by
  cases h with
  | nothing mergedMesh visible meshes => rfl
  | mesh g visible meshes mesh hmesh =>
      rw [MergedCrackTubes.shown, List.filterMap_cons_some hmesh]
      rfl

end Holds

variable {Id : Type} [Field R] [LinearOrder R] (tubeGeometry : TubeGeometry R)
  (engine : Engine R)

/-- A `RangeError` ends the call after the old mesh has gone from the scene. -/
def buildFromCracks (crackData : List (TubeCrack Id R)) (t : MergedCrackTubes R) :
    MergedCrackTubes R :=
  if crackData.isEmpty then t.clearFromScene
  else
    match mergeTubes tubeGeometry engine crackData with
    | .ok (some g) => t.clearFromScene.addMesh g
    | .ok none => t.clearFromScene
    | .error _ => t.clearFromScene

def call (t : MergedCrackTubes R) : TubeCall Id R → MergedCrackTubes R
  | .buildFromCracks crackData => t.buildFromCracks tubeGeometry engine crackData
  | .setVisible v => t.setVisible v
  | .clearCracks => t.clearFromScene.clear

/-- The mesh that the calls so far ask for, and whether it is to be seen. -/
def want (wanted : Option (TubesGeometry R) × Bool) :
    TubeCall Id R → Option (TubesGeometry R) × Bool
  | .buildFromCracks crackData =>
      ((mergeTubes tubeGeometry engine crackData).toOption.join, wanted.2)
  | .setVisible v => (wanted.1, v)
  | .clearCracks => (none, wanted.2)

variable {tubeGeometry engine} {wanted : Option (TubesGeometry R) × Bool}
  {t : MergedCrackTubes R}

theorem Holds.call (h : Holds wanted t) (c : TubeCall Id R) :
    Holds (want tubeGeometry engine wanted c) (t.call tubeGeometry engine c) := by
  cases c with
  | buildFromCracks crackData =>
      rw [MergedCrackTubes.call, buildFromCracks, want]
      split
      · next hempty =>
          obtain rfl := List.isEmpty_iff.mp hempty
          exact h.clearFromScene
      · cases mergeTubes tubeGeometry engine crackData with
        | error e => exact h.clearFromScene
        | ok g =>
            cases g with
            | none => exact h.clearFromScene
            | some g => exact h.clearFromScene.addMesh g
  | setVisible v => exact h.setVisible v
  | clearCracks => exact h.clearFromScene.clear

/-- Whatever has been called on an object, the scene holds the mesh of the last cracks, as
visible as the last call says, and nothing of earlier ones. -/
theorem scene_shows (calls : List (TubeCall Id R)) :
    let wanted := calls.foldl (want tubeGeometry engine) (none, true)
    (calls.foldl (call tubeGeometry engine) new).shown =
      wanted.1.toList.map (·, wanted.2) := by
  have hrun : ∀ wanted (t : MergedCrackTubes R), Holds wanted t →
      Holds (calls.foldl (want tubeGeometry engine) wanted)
        (calls.foldl (call tubeGeometry engine) t) := by
    induction calls with
    | nil => exact fun _ _ h => h
    | cons c calls ih => exact fun _ _ h => ih _ _ (h.call c)
  exact (hrun _ _ (.nothing none true [])).shown

end MergedCrackTubes

end PorcelainMonitor.Frontend
