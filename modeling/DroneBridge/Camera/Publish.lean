import DroneBridge.Camera.Page

/-!
# Paths that streams are published at

A path has two parts, the id of the drone and the suffix of one of two slots: the primary camera has
the first slot, and every other camera has the second. So two cameras have different paths only if
one of them is the primary one and the suffixes differ. Any number of cameras may be configured.
-/

namespace DroneBridge

theorem publishPath_inj {c : Config} (huuid : c.auth.uuid ≠ "") {i j : Int64} :
    publishPath c i = publishPath c j ↔
      publishPathSuffix c (streamRole c i) = publishPathSuffix c (streamRole c j) := by
  have hok : ∀ i, publishPath c i = .ok (slotPath c i) := fun i ↦ if_neg huuid
  rw [hok, hok, Except.ok.injEq]
  constructor
  · intro h
    have hlist := congrArg String.toList h
    simp only [slotPath, String.toList_append] at hlist
    exact String.toList_injective (List.append_cancel_left hlist)
  · intro h
    rw [slotPath, slotPath, h]

theorem streamRole_eq_primary {c : Config} {i : Int64} (h : i = primaryCameraID c) :
    streamRole c i = .primary := if_pos h

theorem streamRole_eq_secondary {c : Config} {i : Int64} (h : i ≠ primaryCameraID c) :
    streamRole c i = .secondary := if_neg h

/-- The enabled streams that are not of the primary camera; they share the second slot. -/
def secondaryStreams (c : Config) : List CameraStreamConfig :=
  c.camera.streams.filter fun s ↦ s.enabled && s.cameraId != primaryCameraID c

theorem mem_secondaryStreams {c : Config} {s : CameraStreamConfig} :
    s ∈ secondaryStreams c ↔
      s ∈ c.camera.streams ∧ s.enabled = true ∧ s.cameraId ≠ primaryCameraID c := by
  simp [secondaryStreams]

/-- With distinct keys, a list has at most one member exactly if all its keys are the same. -/
theorem length_le_one_iff_forall_eq {α β : Type*} {f : α → β} {l : List α} (hl : (l.map f).Nodup) :
    l.length ≤ 1 ↔ ∀ a ∈ l, ∀ b ∈ l, f a = f b := by
  match l with
  | [] => simp
  | [a] => simp
  | a :: b :: l =>
    have hne : f a ∉ (b :: l).map f := (List.nodup_cons.mp hl).1
    constructor
    · intro hlen
      simp at hlen
    · intro h
      have hab : f a = f b := h a List.mem_cons_self b (List.mem_cons_of_mem a List.mem_cons_self)
      exact absurd (by simp [hab]) hne

/-- **Distinct paths.** Different enabled cameras have different paths exactly if at most one of
them is not the primary camera, and the suffixes of two slots in use differ. -/
theorem publishPath_distinct_iff {c : Config} (huuid : c.auth.uuid ≠ "")
    (hids : (c.camera.streams.map (·.cameraId)).Nodup) :
    (∀ s ∈ c.camera.streams, ∀ t ∈ c.camera.streams, s.enabled = true → t.enabled = true →
        s.cameraId ≠ t.cameraId → publishPath c s.cameraId ≠ publishPath c t.cameraId) ↔
      (secondaryStreams c).length ≤ 1 ∧
        ((∃ s ∈ c.camera.streams, s.enabled = true ∧ s.cameraId = primaryCameraID c) →
          (∃ t ∈ c.camera.streams, t.enabled = true ∧ t.cameraId ≠ primaryCameraID c) →
          orDefault "cam0" c.camera.publishPathCam0Suffix ≠
            orDefault "cam1" c.camera.publishPathCam1Suffix) := by
  have hsecondary : ((secondaryStreams c).map (·.cameraId)).Nodup :=
    hids.sublist (List.filter_sublist.map _)
  rw [length_le_one_iff_forall_eq hsecondary]
  constructor
  · intro hpaths
    refine ⟨?_, ?_⟩
    · intro s hs t ht
      obtain ⟨hs, hson, hsrole⟩ := mem_secondaryStreams.mp hs
      obtain ⟨ht, hton, htrole⟩ := mem_secondaryStreams.mp ht
      by_contra hne
      refine hpaths s hs t ht hson hton hne ((publishPath_inj huuid).mpr ?_)
      rw [streamRole_eq_secondary hsrole, streamRole_eq_secondary htrole]
    · rintro ⟨s, hs, hson, hsrole⟩ ⟨t, ht, hton, htrole⟩ hsuffix
      have hne : s.cameraId ≠ t.cameraId := fun heq ↦ htrole (heq ▸ hsrole)
      refine hpaths s hs t ht hson hton hne ((publishPath_inj huuid).mpr ?_)
      rw [streamRole_eq_primary hsrole, streamRole_eq_secondary htrole]
      exact hsuffix
  · rintro ⟨hone, hsuffix⟩ s hs t ht hson hton hne hpath
    rw [publishPath_inj huuid] at hpath
    -- two cameras are in different slots, since both slots hold one camera at most
    by_cases hsrole : s.cameraId = primaryCameraID c <;>
      by_cases htrole : t.cameraId = primaryCameraID c
    · exact hne (hsrole.trans htrole.symm)
    · rw [streamRole_eq_primary hsrole, streamRole_eq_secondary htrole] at hpath
      exact hsuffix ⟨s, hs, hson, hsrole⟩ ⟨t, ht, hton, htrole⟩ hpath
    · rw [streamRole_eq_secondary hsrole, streamRole_eq_primary htrole] at hpath
      exact hsuffix ⟨t, ht, hton, htrole⟩ ⟨s, hs, hson, hsrole⟩ hpath.symm
    · exact hne (hone s (mem_secondaryStreams.mpr ⟨hs, hson, hsrole⟩) t
        (mem_secondaryStreams.mpr ⟨ht, hton, htrole⟩))

/-- A file with the enabled cameras `i` and `j`. -/
def twoCameraFile (i j : ℤ) : Yaml :=
  cameraFile [("streams", .seq [.map [("camera_id", .int i), ("enabled", .bool true)],
    .map [("camera_id", .int j), ("enabled", .bool true)]])]

theorem publishPath_distinct_zero_one :
    ∃ c, load toString (twoCameraFile 0 1) = .ok c ∧
      ∀ s ∈ c.camera.streams, ∀ t ∈ c.camera.streams, s.enabled = true → t.enabled = true →
        s.cameraId ≠ t.cameraId → publishPath c s.cameraId ≠ publishPath c t.cameraId := by
  have hload : load toString (twoCameraFile 0 1) = .ok _ := rfl
  refine ⟨_, hload, (publishPath_distinct_iff ?_ ?_).mpr ⟨?_, ?_⟩⟩
  · decide
  · decide
  · decide
  · intro _ _
    decide

/-- Cameras 1 and 2 are both published at the second slot. -/
theorem publishPath_one_eq_two :
    ∃ c, load toString (twoCameraFile 1 2) = .ok c ∧ c.auth.uuid ≠ "" ∧
      c.camera.streams.map (fun s ↦ (s.cameraId, s.enabled)) = [(1, true), (2, true)] ∧
      publishPath c 1 = publishPath c 2 := by
  have hload : load toString (twoCameraFile 1 2) = .ok _ := rfl
  exact ⟨_, hload, by decide, rfl, rfl⟩

end DroneBridge
