import DroneBridge.Landing.Tracker
import Mathlib.Data.Fin.VecNotation

/-!
# The markers of the board

The detector finds the ArUco markers in a picture. Those of the board have the numbers from 0 to 11,
and the landing mark is the one with the configured number. A result lists the board's markers that
were in the picture.

The tracker smooths the corners of each marker and keeps them by number. It drops none of them until
a reset, so it lists every marker that was in some picture since then.

The detector works on a smaller picture and scales what it finds to the output; here that is done
without rounding, up to the last step.
-/

namespace DroneBridge

open Binary64 (roundEven)

/-! ## Detection -/

/-- A marker as the library finds it. -/
structure ArucoMarker where
  id : ℤ
  corners : Fin 4 → ℚ × ℚ

def boardMarkerCount : ℤ := 12

def boardIDMax : ℤ := boardMarkerCount - 1

def getDirection (offsetX offsetY threshold : ℤ) : Direction where
  x := if threshold < offsetX.natAbs then some (if 0 < offsetX then .right else .left) else none
  y := if threshold < offsetY.natAbs then some (if 0 < offsetY then .down else .up) else none

def boardMarkers (found : List ArucoMarker) : List ArucoMarker :=
  found.filter fun m ↦ 0 ≤ m.id ∧ m.id ≤ boardIDMax

def pickLanding (board : List ArucoMarker) (markerID : ℤ) : Option ArucoMarker :=
  if markerID < 0 ∨ boardIDMax < markerID then none else board.find? (·.id = markerID)

namespace ArucoMarker

def mean (x : Fin 4 → ℚ) : ℚ := (x 0 + x 1 + x 2 + x 3) / 4

/-- The largest of the numbers less the smallest. -/
def spread (x : Fin 4 → ℚ) : ℚ :=
  max (max (x 0) (x 1)) (max (x 2) (x 3)) - min (min (x 0) (x 1)) (min (x 2) (x 3))

/-- The corners in the output. -/
def scaled (m : ArucoMarker) (scale : ℚ × ℚ) : List (ℤ × ℤ) :=
  List.ofFn fun i ↦ (roundEven ((m.corners i).1 * scale.1), roundEven ((m.corners i).2 * scale.2))

end ArucoMarker

structure ArucoConf where
  markerID : ℤ := 0
  detectSize : ℤ × ℤ := (320, 240)

/-- The result for the markers that were found in a picture. -/
def detectFrame (conf : ArucoConf) (outputSize : ℤ × ℤ) (found : List ArucoMarker) :
    Option LandingDetection :=
  let board := boardMarkers found
  (pickLanding board conf.markerID).map fun landing ↦
    let scale : ℚ × ℚ := (outputSize.1 / conf.detectSize.1, outputSize.2 / conf.detectSize.2)
    let xs := fun i ↦ (landing.corners i).1
    let ys := fun i ↦ (landing.corners i).2
    let hx := roundEven (ArucoMarker.mean xs * scale.1)
    let hy := roundEven (ArucoMarker.mean ys * scale.2)
    let w := roundEven (ArucoMarker.spread xs * scale.1)
    let h := roundEven (ArucoMarker.spread ys * scale.2)
    let offsetX := hx - outputSize.1 / 2
    let offsetY := outputSize.2 / 2 - hy
    { hPosition := (hx, hy)
      hSize := some (max 8 w, max 8 h)
      offsetX := offsetX
      offsetY := offsetY
      direction := getDirection offsetX offsetY 20
      similarity := 99 / 100
      arucoCorners := landing.scaled scale
      arucoMarkers := board.map (·.scaled scale)
      arucoMarkersById :=
        board.foldl (fun d m ↦ d.insert m.id (m.scaled scale)) OrderedDict.empty
      arucoVisibleIds := board.map (·.id) }

variable {conf : ArucoConf} {outputSize : ℤ × ℤ} {found : List ArucoMarker}
  {raw : LandingDetection}

theorem mem_keys_detectFrame_iff (h : detectFrame conf outputSize found = some raw) (id : ℤ) :
    id ∈ raw.arucoMarkersById.keys ↔ id ∈ raw.arucoVisibleIds := by
  obtain ⟨landing, -, rfl⟩ := Option.map_eq_some_iff.mp h
  have hkeys := OrderedDict.mem_keys_foldl_insert (·.id)
    (fun _ m ↦ m.scaled (outputSize.1 / conf.detectSize.1, outputSize.2 / conf.detectSize.2))
    (boardMarkers found) .empty id
  rwa [OrderedDict.keys_empty, iff_false_intro List.not_mem_nil, false_or] at hkeys

/-- The landing mark is one of the markers that a result lists. -/
theorem markerID_mem_visibleIds (h : detectFrame conf outputSize found = some raw) :
    conf.markerID ∈ raw.arucoVisibleIds := by
  obtain ⟨landing, hlanding, rfl⟩ := Option.map_eq_some_iff.mp h
  rw [pickLanding] at hlanding
  split_ifs at hlanding
  have hid : landing.id = conf.markerID := by simpa using List.find?_some hlanding
  exact List.mem_map.mpr ⟨landing, List.mem_of_find?_eq_some hlanding, hid⟩

/-! ## The markers the tracker lists -/

/-- A picture, by the markers in it. -/
structure ArucoPicture where
  found : List ArucoMarker
  outputSize : ℤ × ℤ

/-- A picture with markers of 20 by 20 pixels in a row. -/
def ArucoPicture.row (ids : List ℤ) : ArucoPicture where
  found := ids.map fun id ↦
    ⟨id, ![(50 * id, 100), (50 * id + 20, 100), (50 * id + 20, 120), (50 * id, 120)]⟩
  outputSize := (640, 480)

def ArucoPicture.frame (conf : ArucoConf) (p : ArucoPicture) : TrackerFrame :=
  ⟨detectFrame conf p.outputSize p.found, p.outputSize⟩

namespace SmoothTracker

variable {F : TrackerFloat} {c : TrackerConf} {t : SmoothTracker}

theorem exists_frame_of_mem_seen {frames : List TrackerFrame} {r : LandingDetection}
    (hr : r ∈ seen c frames) : ∃ f ∈ frames, f.raw = some r := by
  have hall : ∀ r ∈ seen c frames, ∃ f ∈ frames, f.raw = some r := by
    refine after_induction (F := .exact)
      (I := fun seen _ ↦ ∀ r ∈ seen, ∃ f ∈ frames, f.raw = some r) (by simp) (fun _ _ ht ↦ ht) ?_
    intro f hf raw hraw seen t ht
    rw [List.forall_mem_append, List.forall_mem_singleton]
    exact ⟨ht, f, hf, hraw⟩
  exact hall r hr

theorem mem_keys_nextMarkers_iff (id : ℤ) :
    id ∈ (nextMarkers F c t raw).keys ↔ id ∈ t.markersByIdF.keys ∨ id ∈ raw.arucoMarkersById.keys :=
  OrderedDict.mem_keys_foldl_insert _ _ _ _ _

theorem mem_keys_after_iff (frames : List TrackerFrame) (id : ℤ) :
    id ∈ (after F c frames).markersByIdF.keys ↔
      ∃ r ∈ seen c frames, id ∈ r.arucoMarkersById.keys := by
  refine after_induction (F := F) (c := c)
    (I := fun seen t ↦ id ∈ t.markersByIdF.keys ↔ ∃ r ∈ seen, id ∈ r.arucoMarkersById.keys) ?_ ?_ ?_
  · simp [reset]
  · exact fun _ _ ht ↦ ht
  · intro f _ raw _ seen t ht
    rw [follow, mem_keys_nextMarkers_iff, ht]
    simp [or_and_right, exists_or]

theorem mem_visibleIds_report_iff {id : ℤ} (hraw : raw.arucoMarkersById.keys ≠ []) :
    id ∈ (report F c t raw outputSize).arucoVisibleIds ↔
      id ∈ t.markersByIdF.keys ∨ id ∈ raw.arucoMarkersById.keys := by
  rw [← mem_keys_nextMarkers_iff (F := F) (c := c)]
  obtain ⟨k, hk⟩ := List.exists_mem_of_ne_nil _ hraw
  have hmem : k ∈ (nextMarkers F c t raw).keys := (mem_keys_nextMarkers_iff k).mpr (.inr hk)
  have hne : (nextMarkers F c t raw).entries.isEmpty = false := by
    rw [List.isEmpty_eq_false_iff]
    intro hnil
    simp [OrderedDict.keys, hnil] at hmem
  simp [report, hne]

/-- The markers of a report are those of its picture exactly when no other marker has been seen
since the last reset. -/
theorem visibleIds_exact_iff (pictures : List ArucoPicture)
    (hraw : detectFrame conf outputSize found = some raw) :
    ∃ d, ((after F c (pictures.map (·.frame conf))).accept F c outputSize (some raw)).2 = some d ∧
      ((∀ id, id ∈ d.arucoVisibleIds ↔ id ∈ raw.arucoVisibleIds) ↔
        ∀ r ∈ seen c (pictures.map (·.frame conf)), r.arucoVisibleIds ⊆ raw.arucoVisibleIds) := by
  have hne : raw.arucoMarkersById.keys ≠ [] :=
    List.ne_nil_of_mem ((mem_keys_detectFrame_iff hraw _).mpr (markerID_mem_visibleIds hraw))
  refine ⟨_, rfl, ?_⟩
  simp only [mem_visibleIds_report_iff hne, mem_keys_after_iff, mem_keys_detectFrame_iff hraw,
    or_iff_right_iff_imp]
  constructor
  · intro h r hr id hid
    obtain ⟨f, hf, hfr⟩ := exists_frame_of_mem_seen hr
    obtain ⟨p, -, rfl⟩ := List.mem_map.mp hf
    exact h id ⟨r, hr, (mem_keys_detectFrame_iff hfr id).mpr hid⟩
  · rintro h id ⟨r, hr, hid⟩
    obtain ⟨f, hf, hfr⟩ := exists_frame_of_mem_seen hr
    obtain ⟨p, -, rfl⟩ := List.mem_map.mp hf
    exact h r hr ((mem_keys_detectFrame_iff hfr id).mp hid)

theorem visibleIds_exact_of_new_marker :
    ∃ raw d, detectFrame {} (640, 480) (ArucoPicture.row [0, 1]).found = some raw ∧
      ((after .exact {} [(ArucoPicture.row [0]).frame {}]).accept .exact {} (640, 480)
        (some raw)).2 = some d ∧
      ∀ id, id ∈ d.arucoVisibleIds ↔ id ∈ raw.arucoVisibleIds := by
  obtain ⟨d, hd, hiff⟩ := visibleIds_exact_iff (F := .exact) (c := {}) [.row [0]]
    (show detectFrame {} (640, 480) (ArucoPicture.row [0, 1]).found = some _ from rfl)
  exact ⟨_, d, rfl, hd, hiff.mpr (by decide +kernel)⟩

/-- The second marker of the first picture is listed for the second one. -/
theorem visibleIds_keep_lost_marker :
    let lost := ArucoPicture.row [0]
    ∃ raw d, detectFrame {} lost.outputSize lost.found = some raw ∧
      ((after .exact {} [(ArucoPicture.row [0, 1]).frame {}]).accept .exact {} lost.outputSize
        (some raw)).2 = some d ∧
      raw.arucoVisibleIds = [0] ∧ d.arucoVisibleIds = [0, 1] :=
  ⟨_, _, rfl, rfl, by decide +kernel, by decide +kernel⟩

end SmoothTracker

end DroneBridge
