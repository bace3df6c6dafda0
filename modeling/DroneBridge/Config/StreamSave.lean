import DroneBridge.Config.Concurrent
import Mathlib.Data.List.Nodup

/-!
# Saving one camera stream

`saveCameraStreamFromUI` looks the stream up by its camera, merges the request into it and writes it
back by a second lookup. Both lookups find the first stream of the camera, so of a list of streams
at most one entry changes, at the place where it was, and a camera without a stream gets one at the
end.

The merge takes a size from the request only when it has two entries, but it reads two entries of
the stored size first, as fallbacks. Loading puts the small size right and not this one, so a stored
size that is too short stops the request in the middle.
-/

namespace DroneBridge

/-! ## The function as a whole -/

inductive SaveError
  | load (e : LoadError)
  | write
  deriving DecidableEq, Repr

inductive SaveOutcome
  | error (e : SaveError)
  /-- An index is out of range; the request ends here, and the file stays as it is. -/
  | panic
  | saved (doc : Yaml)

/-- `writable` says whether the file can be written. -/
def saveCameraStreamFromUI (text : ℚ → String) (F : FloatOps) (writable : Bool) (body : Body)
    (doc : Yaml) : SaveOutcome :=
  match load text doc with
  | .error e => .error (.load e)
  | .ok c =>
    match (WebEdit.cameraStream body).apply F c with
    | none => .panic
    | some c' => if writable then .saved (c'.save text) else .error .write

section

variable {text : ℚ → String} {F : FloatOps} {writable : Bool} {body : Body} {doc doc' : Yaml}
  {c : Config}

theorem saveCameraStreamFromUI_eq_saved (hload : load text doc = .ok c) :
    saveCameraStreamFromUI text F writable body doc = .saved doc' ↔
      writable = true ∧ ∃ c', (WebEdit.cameraStream body).apply F c = some c' ∧
        c'.save text = doc' := by
  rw [saveCameraStreamFromUI, hload]
  dsimp only
  cases (WebEdit.cameraStream body).apply F c with
  | none => simp
  | some c' => cases writable <;> simp

theorem saveCameraStreamFromUI_eq_panic (hload : load text doc = .ok c) :
    saveCameraStreamFromUI text F writable body doc = .panic ↔
      (WebEdit.cameraStream body).apply F c = none := by
  rw [saveCameraStreamFromUI, hload]
  dsimp only
  cases (WebEdit.cameraStream body).apply F c with
  | none => simp
  | some c' => cases writable <;> simp

end

/-! ## The place of a stream -/

def findStreamIndex (id : Int64) (streams : List CameraStreamConfig) : Option ℕ :=
  streams.findIdx? (·.cameraId = id)

section

variable {s t : CameraStreamConfig} {streams : List CameraStreamConfig} {i : ℕ}

/-- A stream is written back at the place where it was found, or else at the end. -/
theorem putStream_eq (s : CameraStreamConfig) (streams : List CameraStreamConfig) :
    putStream s streams =
      match findStreamIndex s.cameraId streams with
      | some i => streams.set i s
      | none => streams ++ [s] := by
  rw [findStreamIndex]
  induction streams with
  | nil => rfl
  | cons t ts ih =>
    rw [putStream, List.findIdx?_cons]
    by_cases ht : t.cameraId = s.cameraId
    · simp [ht]
    · rw [if_neg ht, ih, decide_eq_false ht]
      cases ts.findIdx? (fun t ↦ t.cameraId = s.cameraId) <;> rfl

theorem getElem?_putStream_of_ne (h : streams[i]? = some t) (hne : t.cameraId ≠ s.cameraId) :
    (putStream s streams)[i]? = some t := by
  induction streams generalizing i with
  | nil => cases h
  | cons u us ih =>
    rw [putStream]
    cases i with
    | zero =>
      obtain rfl := Option.some.inj h
      rw [if_neg hne]
      rfl
    | succ i =>
      split
      · exact h
      · exact ih h

theorem length_putStream (s : CameraStreamConfig) (streams : List CameraStreamConfig) :
    (putStream s streams).length = streams.length ∨
      (putStream s streams).length = streams.length + 1 := by
  rw [putStream_eq]
  cases findStreamIndex s.cameraId streams with
  | some i => exact .inl List.length_set
  | none => exact .inr List.length_append

theorem map_cameraId_putStream (s : CameraStreamConfig) (streams : List CameraStreamConfig) :
    (putStream s streams).map (·.cameraId) = streams.map (·.cameraId) ∨
      s.cameraId ∉ streams.map (·.cameraId) ∧
        (putStream s streams).map (·.cameraId) = streams.map (·.cameraId) ++ [s.cameraId] := by
  induction streams with
  | nil => exact .inr ⟨List.not_mem_nil, rfl⟩
  | cons t ts ih =>
    rw [putStream]
    split
    case isTrue ht => exact .inl (by rw [List.map_cons, List.map_cons, ht])
    case isFalse ht =>
      rcases ih with ih | ⟨hnot, ih⟩
      · exact .inl (by rw [List.map_cons, List.map_cons, ih])
      · refine .inr ⟨?_, by rw [List.map_cons, List.map_cons, ih]; rfl⟩
        rw [List.map_cons, List.mem_cons, not_or]
        exact ⟨Ne.symm ht, hnot⟩

theorem nodup_putStream (h : (streams.map (·.cameraId)).Nodup) :
    ((putStream s streams).map (·.cameraId)).Nodup := by
  rcases map_cameraId_putStream s streams with heq | ⟨hnot, heq⟩
  · rwa [heq]
  · rw [heq, ← List.concat_eq_append]
    exact h.concat hnot

end

/-! ## What a save leaves as it is -/

/-- What a record `c'` has in common with the record `c` that was loaded, when a request about one
camera has changed it. -/
structure SaveFrame (id : Int64) (c c' : Config) : Prop where
  outside : { c' with
      camera.streams := c.camera.streams
      camera.primaryCameraId := c.camera.primaryCameraId } = c
  primary : c'.camera.primaryCameraId =
    if c.camera.primaryCameraId = 0 ∨ c.camera.primaryCameraId = 1 then c.camera.primaryCameraId
    else 0
  others : ∀ (i : ℕ) (t : CameraStreamConfig), c.camera.ensureDefaultStreams.streams[i]? = some t →
    t.cameraId ≠ id → c'.camera.streams[i]? = some t
  length : c'.camera.streams.length = c.camera.ensureDefaultStreams.streams.length ∨
    c'.camera.streams.length = c.camera.ensureDefaultStreams.streams.length + 1
  distinct : (c.camera.ensureDefaultStreams.streams.map (·.cameraId)).Nodup →
    (c'.camera.streams.map (·.cameraId)).Nodup

/-- **The frame of a save.** Outside of the streams only a primary camera that is none is put right.
Streams of other cameras stay in place, at most one is appended, and distinct ids stay so. -/
theorem saveCameraStream_frame {text : ℚ → String} {F : FloatOps} {writable : Bool} {body : Body}
    {doc doc' : Yaml} {c : Config} (hload : load text doc = .ok c)
    (h : saveCameraStreamFromUI text F writable body doc = .saved doc') :
    ∃ c' : Config, doc' = c'.save text ∧ SaveFrame (streamId body) c c' := by
  obtain ⟨-, c', happly, rfl⟩ := (saveCameraStreamFromUI_eq_saved hload).mp h
  obtain ⟨-, s, -, hid, rfl⟩ := saveCameraStream_spec happly
  refine ⟨_, rfl, rfl, ?_, fun i t ht hne ↦ ?_, length_putStream s _, nodup_putStream⟩
  · change (if c.camera.primaryCameraId ≠ 0 ∧ c.camera.primaryCameraId ≠ 1 then 0
      else c.camera.primaryCameraId) = _
    by_cases hid : c.camera.primaryCameraId = 0 ∨ c.camera.primaryCameraId = 1
    · rw [if_neg (by rwa [← not_or, not_not]), if_pos hid]
    · rw [if_pos (not_or.mp hid), if_neg hid]
  · exact getElem?_putStream_of_ne ht (hid ▸ hne)

/-- A file with one stream, of camera 3, and a primary camera 7. -/
def oneStreamFile : Yaml :=
  .map [("camera", .map [("primary_camera_id", .int 7),
      ("streams", .seq [.map [("camera_id", .int 3)]])]),
    ("network", .map [("local_listen_port", .int 14550), ("target_host", .str "10.0.0.1"),
      ("target_port", .int 14550)]),
    ("web", .map [("port", .int 8080)])]

/-- A stream of camera 0 is appended. -/
theorem saveCameraStream_frame_append :
    ∃ c doc', load toString oneStreamFile = .ok c ∧
      saveCameraStreamFromUI toString .exact true [("bitrate", .num 800)] oneStreamFile =
        .saved doc' ∧
      ∃ c' : Config, doc' = c'.save toString ∧ SaveFrame 0 c c' := by
  have hload : load toString oneStreamFile = .ok _ := rfl
  have hsave : saveCameraStreamFromUI toString .exact true [("bitrate", .num 800)]
      oneStreamFile = .saved _ := rfl
  exact ⟨_, _, hload, hsave, saveCameraStream_frame hload hsave⟩

/-! ## When a save stops in the middle -/

/-- The request gives a size of two entries or more. -/
def givesSize (body : Body) : Bool :=
  match body.lookup "size" with
  | some (.arr (_ :: _ :: _)) => true
  | _ => false

section

variable {text : ℚ → String} {F : FloatOps} {writable : Bool} {body : Body} {doc : Yaml}
  {c : Config}

theorem sizeFromMap_eq_none_iff {fallback : List Int64} :
    sizeFromMap body "size" fallback = none ↔ givesSize body = true ∧ fallback.length < 2 := by
  rw [sizeFromMap, givesSize]
  rcases body.lookup "size" with _ | v
  · simp
  cases v with
  | arr items =>
    rcases items with _ | ⟨_, _ | _⟩
    · simp
    · simp
    · rcases fallback with _ | ⟨_, _ | _⟩ <;> simp
  | _ => simp

theorem exists_loresSize (F : FloatOps) (body : Body) (main : List Int64) :
    ∃ lores, sizeFromMap body "lores_size" (cvLoresSizeForMain F main) = some lores := by
  have hlen : 2 ≤ (cvLoresSizeForMain F main).length := cvLoresSizeForMain_length main
  rw [sizeFromMap]
  split
  · rcases hlores : cvLoresSizeForMain F main with _ | ⟨w, _ | ⟨h, rest⟩⟩
    · simp [hlores] at hlen
    · simp [hlores] at hlen
    · exact ⟨_, rfl⟩
  · exact ⟨_, rfl⟩

theorem updateStream_eq_none_iff {s : CameraStreamConfig} :
    updateStream F body s = none ↔ givesSize body = true ∧ s.size.length < 2 := by
  rw [← sizeFromMap_eq_none_iff, updateStream]
  cases sizeFromMap body "size" s.size with
  | none => exact iff_of_true rfl rfl
  | some size =>
    obtain ⟨lores, hlores⟩ := exists_loresSize F body size
    refine iff_of_false ?_ (Option.some_ne_none size)
    rw [Option.bind_eq_bind, Option.bind_some, hlores]
    exact Option.some_ne_none _

theorem apply_cameraStream_eq_none_iff :
    (WebEdit.cameraStream body).apply F c = none ↔
      updateStream F body ((findStream (streamId body)
        c.camera.ensureDefaultStreams.streams).getD (defaultStream (streamId body))) = none := by
  change saveCameraStream F body { c with camera := c.camera.ensureDefaultStreams } = none ↔ _
  rw [saveCameraStream]
  cases updateStream F body ((findStream (streamId body)
    c.camera.ensureDefaultStreams.streams).getD (defaultStream (streamId body))) with
  | none => exact iff_of_true rfl rfl
  | some s => exact iff_of_false (Option.some_ne_none _) (Option.some_ne_none s)

theorem size_of_initialStreams {id : Int64} {s : CameraStreamConfig}
    (h : findStream id [initialStream "cam0" 0, initialStream "cam1" 1] = some s) :
    s.size.length = 2 := by
  have hmem := List.mem_of_find?_eq_some h
  simp only [List.mem_cons, List.not_mem_nil, or_false] at hmem
  rcases hmem with rfl | rfl <;> rfl

/-- **Indices in range.** A request about a camera does not stop in the middle exactly when it gives
no size or the stored size of the camera's stream, if there is one, has two entries. -/
theorem save_in_range_iff (hload : load text doc = .ok c) :
    saveCameraStreamFromUI text F writable body doc ≠ .panic ↔
      givesSize body = false ∨
        ∀ s, findStream (streamId body) c.camera.streams = some s → 2 ≤ s.size.length := by
  rw [Ne, saveCameraStreamFromUI_eq_panic hload, apply_cameraStream_eq_none_iff,
    updateStream_eq_none_iff, not_and_or, Bool.not_eq_true, Nat.not_lt]
  refine or_congr_right ?_
  cases hstreams : c.camera.streams with
  | nil =>
    -- The streams that are filled in have a size, and so has one that is made up.
    refine iff_of_true ?_ fun s hs ↦ absurd hs (Option.some_ne_none s).symm
    simp only [CameraConfig.ensureDefaultStreams, hstreams]
    cases hfind : findStream (streamId body) [initialStream "cam0" 0, initialStream "cam1" 1] with
    | none => exact le_rfl
    | some s => exact (size_of_initialStreams hfind).ge
  | cons t ts =>
    simp only [CameraConfig.ensureDefaultStreams, hstreams]
    cases findStream (streamId body) (t :: ts) with
    | none => exact iff_of_true le_rfl fun s hs ↦ absurd hs (Option.some_ne_none s).symm
    | some s => simp

end

/-- A request for another size. -/
def sizeBody (id : ℚ) : Body := [("camera_id", .num id), ("size", .arr [.num 1280, .num 720])]

/-- The size of a camera that has no stream yet. -/
theorem save_in_range_new :
    ∃ c, load toString oneStreamFile = .ok c ∧
      saveCameraStreamFromUI toString .exact true (sizeBody 0) oneStreamFile ≠ .panic := by
  have hload : load toString oneStreamFile = .ok _ := rfl
  refine ⟨_, hload, (save_in_range_iff hload).mpr (.inr ?_)⟩
  intro s hs
  cases hs

/-- The stream of camera 3 is stored without a size. -/
theorem save_out_of_range :
    (∃ c, load toString oneStreamFile = .ok c) ∧
      saveCameraStreamFromUI toString .exact true (sizeBody 3) oneStreamFile = .panic :=
  ⟨⟨_, rfl⟩, rfl⟩

end DroneBridge
