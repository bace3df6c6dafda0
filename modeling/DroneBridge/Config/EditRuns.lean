import DroneBridge.Config.Edits
import DroneBridge.Lib.Machine
import DroneBridge.Lib.YamlLiteral

/-!
# Sequences of edits

Each edit loads the text that the one before it has saved. A text that is refused, by the parser or
by the checks, is the last one: no edit can follow, and the service does not start any more.

The checks refuse a port. The parser refuses texts that the encoder has written for a string of
several lines, such as one that begins with a tab. A string of one line is always read back, so the
runs looked at here begin with a record of such strings, and their requests give no others.
-/

namespace DroneBridge

open Yaml (Codec IsOneLine)

section

variable {text : ℚ → String} {F : FloatOps} {c c' : Config} {e : WebEdit}

/-! ## Strings of one line -/

theorem isOneLine_getD {o : Option String} {d : String} (ho : ∀ s ∈ o, IsOneLine s)
    (hd : IsOneLine d) : IsOneLine (o.getD d) := by
  cases o with
  | none => exact hd
  | some s => exact ho s rfl

theorem isOneLine_orDefault {default s : String} (hdefault : IsOneLine default)
    (hs : IsOneLine s) : IsOneLine (orDefault default s) := by
  rw [orDefault]
  split_ifs
  · exact hdefault
  · exact hs

theorem isBreak_of_isDigit {ch : Char} (h : ch.isDigit = true) : Yaml.isBreak ch = false := by
  have hle : ch.toNat ≤ 57 ∧ 48 ≤ ch.toNat := by
    simp only [Char.isDigit, Bool.and_eq_true, decide_eq_true_eq, UInt32.le_iff_toNat_le] at h
    exact ⟨h.2, h.1⟩
  rw [Yaml.isBreak, decide_eq_false_iff_not]
  simp only [List.mem_cons, List.not_mem_nil, or_false]
  omega

theorem isOneLine_camName (id : Int64) : IsOneLine ("cam" ++ toString id.toInt) := by
  have hdigits : ∀ n : ℕ, ∀ ch ∈ (toString n).toList, Yaml.isBreak ch = false := by
    intro n ch hch
    rw [Yaml.Emitter.toList_toString_nat] at hch
    exact isBreak_of_isDigit (Nat.isDigit_of_mem_toDigits (by decide) (by decide) hch)
  have hid : IsOneLine (toString id.toInt) := by
    cases id.toInt with
    | ofNat n => exact hdigits n
    | negSucc n =>
      rw [IsOneLine, Yaml.Emitter.toList_toString_negSucc, List.forall_mem_cons]
      exact ⟨by decide, hdigits (n + 1)⟩
  have hcam : IsOneLine "cam" := by decide
  rw [IsOneLine, String.toList_append, List.forall_mem_append]
  exact ⟨hcam, hid⟩

/-- The sections, each with strings of one line. -/
theorem oneLine_save_iff :
    (c.save text).OneLine ↔ (LogConfig.codec.enc c.log).OneLine ∧
      ((AuthConfig.codec text).enc c.auth).OneLine ∧ (CellularConfig.codec.enc c.cellular).OneLine ∧
      (NetworkConfig.codec.enc c.network).OneLine ∧ (EthernetConfig.codec.enc c.ethernet).OneLine ∧
      (WebConfig.codec.enc c.web).OneLine ∧ ((CameraConfig.codec text).enc c.camera).OneLine ∧
      ((LandingConfig.codec text).enc c.landing).OneLine ∧ (LCDConfig.codec.enc c.lcd).OneLine ∧
      (Config.VPNConfig.codec.enc c.vpn).OneLine := by
  rw [Config.save, Config.codec, Codec.oneLine_record, Config.entries]
  simp only [Yaml.OneLineEntries, and_true]

theorem oneLine_network_iff {c : NetworkConfig} :
    (NetworkConfig.codec.enc c).OneLine ↔ IsOneLine c.targetHost ∧ IsOneLine c.protocol ∧
      IsOneLine c.connectionType ∧ IsOneLine c.serialPort ∧ IsOneLine c.telem2Port ∧
      IsOneLine c.telem3Port ∧ IsOneLine c.mode := by
  rw [NetworkConfig.codec, Codec.oneLine_record, NetworkConfig.entries]
  simp only [Yaml.OneLineEntries, Codec.oneLine_string, Codec.oneLine_int, Codec.oneLine_optBool,
    true_and, and_true]

theorem oneLine_intList {ns : List Int64} : (intList.enc ns).OneLine :=
  (Codec.oneLine_list (c := .int)).mpr fun _ _ ↦ Codec.oneLine_int

theorem oneLine_stream_iff {s : CameraStreamConfig} :
    ((CameraStreamConfig.codec text).enc s).OneLine ↔ IsOneLine s.name ∧ IsOneLine s.format ∧
      IsOneLine s.landingDetectionMode ∧ IsOneLine s.arucoDictionary ∧ IsOneLine s.preset ∧
      IsOneLine s.tune := by
  rw [CameraStreamConfig.codec, Codec.oneLine_record, CameraStreamConfig.entries]
  simp only [Yaml.OneLineEntries, Codec.oneLine_string, Codec.oneLine_int, Codec.oneLine_bool,
    Codec.oneLine_optBool, Codec.oneLine_float, oneLine_intList, true_and, and_true]

theorem oneLine_camera_iff {c : CameraConfig} :
    ((CameraConfig.codec text).enc c).OneLine ↔ IsOneLine c.configFile ∧ IsOneLine c.streamPath ∧
      IsOneLine c.mediamtxHost ∧ IsOneLine c.publishPathCam0Suffix ∧
      IsOneLine c.publishPathCam1Suffix ∧ IsOneLine c.mediamtxRelayHost ∧
      ∀ s ∈ c.streams, ((CameraStreamConfig.codec text).enc s).OneLine := by
  have hstreams : ((Codec.list (CameraStreamConfig.codec text) fun _ ↦ rfl).enc c.streams).OneLine ↔
      ∀ s ∈ c.streams, ((CameraStreamConfig.codec text).enc s).OneLine := Codec.oneLine_list
  rw [CameraConfig.codec, Codec.oneLine_record, CameraConfig.entries]
  simp only [Yaml.OneLineEntries, Codec.oneLine_string, Codec.oneLine_int, Codec.oneLine_bool,
    Codec.oneLine_optBool, Codec.oneLine_float, hstreams, true_and, and_true]

/-- Loading fills in strings of one line. -/
theorem oneLine_finish (hc : (c.save text).OneLine) (h : c.finish = .ok c') :
    (c'.save text).OneLine := by
  obtain ⟨-, rfl⟩ := Config.finish_eq_ok.mp h
  rw [oneLine_save_iff] at hc ⊢
  obtain ⟨hlog, hauth, hcellular, hnetwork, hethernet, hweb, hcamera, hlanding, hlcd, hvpn⟩ := hc
  rw [oneLine_camera_iff] at hcamera
  -- The other sections are not touched by defaults or corrections.
  refine ⟨?_, hauth, ?_, hnetwork, ?_, hweb, oneLine_camera_iff.mpr ?_, ?_, hlcd, ?_⟩
  · rw [LogConfig.codec, Codec.oneLine_record] at hlog ⊢
    exact ⟨isOneLine_orDefault (by decide) hlog.1, hlog.2⟩
  · rw [CellularConfig.codec, Codec.oneLine_record] at hcellular ⊢
    obtain ⟨henabled, hdriver, hiface, hrest⟩ := hcellular
    exact ⟨henabled, isOneLine_orDefault (by decide) hdriver,
      isOneLine_orDefault (by decide) hiface, hrest⟩
  · rw [EthernetConfig.codec, Codec.oneLine_record] at hethernet ⊢
    obtain ⟨h₁, h₂, h₃, h₄, h₅, h₆, hsubnet, h₈, -⟩ := hethernet
    exact ⟨h₁, h₂, h₃, h₄, h₅, h₆, isOneLine_orDefault (by decide) hsubnet, h₈,
      Codec.oneLine_int, trivial⟩
  · obtain ⟨h₁, h₂, h₃, h₄, h₅, h₆, hstreams⟩ := hcamera
    refine ⟨h₁, h₂, h₃, h₄, h₅, h₆, List.forall_mem_map.mpr fun s hs ↦ ?_⟩
    have hs' := oneLine_stream_iff.mp (hstreams s hs)
    exact oneLine_stream_iff.mpr hs'
  · rw [LandingConfig.codec, Codec.oneLine_record] at hlanding ⊢
    obtain ⟨h₁, h₂, h₃, h₄, h₅, h₆, -, hrest⟩ := hlanding
    exact ⟨h₁, h₂, h₃, h₄, h₅, h₆, Codec.oneLine_float, hrest⟩
  · rw [Config.VPNConfig.codec, Codec.oneLine_record] at hvpn ⊢
    obtain ⟨h₁, hfile, h₃, h₄, -, hip, h₇⟩ := hvpn
    exact ⟨h₁, isOneLine_orDefault (by decide) hfile, h₃, h₄, Codec.oneLine_int,
      isOneLine_orDefault (by decide) hip, h₇⟩

/-- The strings that a request gives have one line each. -/
def WebEdit.OneLine : WebEdit → Prop
  | network body | cameraStream body => ∀ key, ∀ s ∈ stringAt body key, IsOneLine s
  | _ => True

theorem oneLine_applyNetworkMode {r : ModeRequest} (hc : (c.save text).OneLine)
    (h : applyNetworkMode r c = some c') : (c'.save text).OneLine := by
  obtain ⟨hmode, h⟩ := Option.ite_none_right_eq_some.mp h
  obtain rfl := Option.some.inj h
  have hall : ∀ m ∈ validNetworkModes, IsOneLine m := by decide
  rw [oneLine_save_iff] at hc ⊢
  obtain ⟨hlog, hauth, hcellular, hnetwork, hrest⟩ := hc
  refine ⟨hlog, hauth, hcellular, oneLine_network_iff.mpr ?_, hrest⟩
  obtain ⟨h₁, h₂, h₃, h₄, h₅, h₆, -⟩ := oneLine_network_iff.mp hnetwork
  exact ⟨h₁, h₂, h₃, h₄, h₅, h₆, hall _ hmode⟩

theorem oneLine_updateNetwork {body : Body} (hc : (c.save text).OneLine)
    (hbody : (WebEdit.network body).OneLine) : ((updateNetwork body c).save text).OneLine := by
  rw [oneLine_save_iff] at hc ⊢
  obtain ⟨hlog, hauth, hcellular, hnetwork, hrest⟩ := hc
  refine ⟨hlog, hauth, hcellular, oneLine_network_iff.mpr ?_, hrest⟩
  obtain ⟨h₁, h₂, htype, hport, h₅, h₆, h₇⟩ := oneLine_network_iff.mp hnetwork
  exact ⟨h₁, h₂, isOneLine_getD (hbody _) htype, isOneLine_getD (hbody _) hport, h₅, h₆, h₇⟩

/-- Other streams of one line. -/
theorem oneLine_streams {streams : List CameraStreamConfig} {id : Int64} {auto : Bool}
    (hc : (c.save text).OneLine)
    (hstreams : ∀ s ∈ streams, ((CameraStreamConfig.codec text).enc s).OneLine) :
    (({ c with
      camera.streams := streams
      camera.primaryCameraId := id
      camera.autoMemoryProfile := auto } : Config).save text).OneLine := by
  rw [oneLine_save_iff] at hc ⊢
  obtain ⟨hlog, hauth, hcellular, hnetwork, hethernet, hweb, hcamera, hrest⟩ := hc
  refine ⟨hlog, hauth, hcellular, hnetwork, hethernet, hweb, oneLine_camera_iff.mpr ?_, hrest⟩
  obtain ⟨h₁, h₂, h₃, h₄, h₅, h₆, -⟩ := oneLine_camera_iff.mp hcamera
  exact ⟨h₁, h₂, h₃, h₄, h₅, h₆, hstreams⟩

theorem mem_putStream {s t : CameraStreamConfig} {streams : List CameraStreamConfig}
    (h : t ∈ putStream s streams) : t = s ∨ t ∈ streams := by
  induction streams with
  | nil => exact .inl (List.mem_singleton.mp h)
  | cons u us ih =>
    rw [putStream] at h
    split_ifs at h
    · exact (List.mem_cons.mp h).imp_right (List.mem_cons_of_mem u)
    · obtain rfl | h := List.mem_cons.mp h
      · exact .inr List.mem_cons_self
      · exact (ih h).imp_right (List.mem_cons_of_mem u)

theorem oneLine_defaultStream (id : Int64) :
    ((CameraStreamConfig.codec text).enc (defaultStream id)).OneLine := by
  have hwords : IsOneLine "BGR888" ∧ IsOneLine "" ∧ IsOneLine "veryfast" ∧
      IsOneLine "zerolatency" := by decide
  exact oneLine_stream_iff.mpr ⟨isOneLine_camName id, hwords.1, hwords.2.1, hwords.2.1, hwords.2.2⟩

theorem oneLine_initialStream {name : String} (hname : IsOneLine name) (id : Int64) :
    ((CameraStreamConfig.codec text).enc (initialStream name id)).OneLine := by
  have hformat : IsOneLine "RGB888" := by decide
  have hdefault : ((CameraStreamConfig.codec text).enc (defaultStream id)).OneLine :=
    oneLine_defaultStream id
  obtain ⟨-, -, hrest⟩ := oneLine_stream_iff.mp hdefault
  exact oneLine_stream_iff.mpr ⟨hname, hformat, hrest⟩

theorem streams_oneLine (hc : (c.save text).OneLine) :
    ∀ s ∈ c.camera.streams, ((CameraStreamConfig.codec text).enc s).OneLine := by
  rw [oneLine_save_iff] at hc
  exact (oneLine_camera_iff.mp hc.2.2.2.2.2.2.1).2.2.2.2.2.2

theorem oneLine_updateStream {body : Body} {s t : CameraStreamConfig}
    (hs : ((CameraStreamConfig.codec text).enc s).OneLine)
    (hbody : (WebEdit.cameraStream body).OneLine) (h : updateStream F body s = some t) :
    ((CameraStreamConfig.codec text).enc t).OneLine := by
  simp only [updateStream, Option.bind_eq_bind, Option.bind_eq_some_iff, Option.pure_def,
    Option.some.injEq] at h
  obtain ⟨size, -, lores, -, rfl⟩ := h
  obtain ⟨hname, hformat, hmode, hdictionary, hpreset, htune⟩ := oneLine_stream_iff.mp hs
  have hgiven : ∀ {key d : String}, IsOneLine d → IsOneLine (stringFromMap body key d) :=
    fun hd ↦ isOneLine_getD (hbody _) hd
  refine oneLine_stream_iff.mpr ⟨?_, hgiven hformat, hgiven hmode, hgiven hdictionary,
    hgiven hpreset, hgiven htune⟩
  dsimp only
  -- An empty name leaves the old one.
  split_ifs
  · exact hname
  · exact hgiven (by decide)

theorem WebEdit.oneLine_prepare (hc : (c.save text).OneLine) (e : WebEdit) :
    ((e.prepare c).save text).OneLine := by
  have hcamera : (({ c with camera := c.camera.ensureDefaultStreams } : Config).save
      text).OneLine := by
    refine oneLine_streams hc fun s hs ↦ ?_
    split at hs
    next =>
      obtain rfl | hs := List.mem_cons.mp hs
      · exact oneLine_initialStream (by decide) 0
      · obtain rfl := List.mem_singleton.mp hs
        exact oneLine_initialStream (by decide) 1
    next => exact streams_oneLine hc s hs
  cases e with
  | cameraStream body => exact hcamera
  | cameraGlobal body => exact hcamera
  | _ => exact hc

/-- **An edit with strings of one line leaves strings of one line.** -/
theorem WebEdit.oneLine_apply (hc : (c.save text).OneLine) (he : e.OneLine)
    (h : e.apply F c = some c') : (c'.save text).OneLine := by
  have hmode (request : Option ModeRequest)
      (hr : request.bind (applyNetworkMode · c) = some c') : (c'.save text).OneLine := by
    obtain ⟨r, -, hr⟩ := Option.bind_eq_some_iff.mp hr
    exact oneLine_applyNetworkMode hc hr
  have hprepared := oneLine_prepare hc e
  cases e with
  | network body =>
    obtain rfl := Option.some.inj h
    exact oneLine_updateNetwork hc he
  | mode body => exact oneLine_applyNetworkMode hc h
  | priority p => exact hmode (priorityRequest p) h
  | switch t => exact hmode (switchRequest t) h
  | cameraStream body =>
    obtain ⟨s, hs, rfl⟩ := saveCameraStream_eq_some.mp h
    refine oneLine_streams hprepared fun t ht ↦ ?_
    obtain rfl | ht := mem_putStream ht
    · -- The stream that is saved was in the file, or starts from the default one.
      refine oneLine_updateStream ?_ he hs
      cases hfind : findStream (streamId body) _ with
      | none => exact oneLine_defaultStream _
      | some s => exact streams_oneLine hprepared s (List.mem_of_find?_eq_some hfind)
    · exact streams_oneLine hprepared t ht
  | cameraGlobal body =>
    obtain rfl := Option.some.inj h
    exact oneLine_streams hprepared (streams_oneLine hprepared)

end

/-! ## Runs -/

/-- One edit after the other, each of which reports success. The state is what the parser makes of
the file: nothing if it refuses the text. -/
def configMachine (text : ℚ → String) (F : FloatOps) : Machine (Option Yaml) WebEdit where
  step file e :=
    match file.map (load text) with
    | some (.ok c) => (e.apply F c).map fun c' ↦ (c'.save text).reparse
    | _ => none

def AcceptedFile (text : ℚ → String) (file : Option Yaml) : Prop :=
  ∃ doc, file = some doc ∧ Accepted text doc

section

variable {text : ℚ → String} {F : FloatOps} {c c' : Config} {e : WebEdit} {doc : Yaml}
  {file file' : Option Yaml}

theorem acceptedFile_some : AcceptedFile text (some doc) ↔ Accepted text doc := by
  simp [AcceptedFile]

theorem configMachine_step :
    (configMachine text F).step file e = some file' ↔
      ∃ doc c c', file = some doc ∧ load text doc = .ok c ∧ e.apply F c = some c' ∧
        (c'.save text).reparse = file' := by
  dsimp only [configMachine]
  cases file with
  | none => simp
  | some doc => cases hload : load text doc <;> simp [hload]

theorem acceptedFile_of_step (h : (configMachine text F).step file e = some file') :
    AcceptedFile text file := by
  obtain ⟨doc, c, -, rfl, hload, -⟩ := configMachine_step.mp h
  exact ⟨doc, rfl, c, hload⟩

/-- What an edit with strings of one line saves is read back. -/
theorem configMachine_step_oneLine (hload : load text doc = .ok c) (hc : (c.save text).OneLine)
    (he : e.OneLine) (h : (configMachine text F).step (some doc) e = some file') :
    ∃ c', e.apply F c = some c' ∧ (c'.save text).OneLine ∧ file' = some (c'.save text) := by
  obtain ⟨doc', c₁, c', hdoc, hload', happly, rfl⟩ := configMachine_step.mp h
  obtain rfl := Option.some.inj hdoc
  obtain rfl : c₁ = c := Except.ok.inj (hload'.symm.trans hload)
  have hc' := WebEdit.oneLine_apply hc he happly
  exact ⟨c', happly, hc', Yaml.reparse_of_oneLine hc'⟩

end

/-- A port that a request gives as a number. -/
def portBody (port : ℚ) : Body := [("local_listen_port", .num port)]

theorem oneLine_portBody (port : ℚ) : (WebEdit.network (portBody port)).OneLine := by
  intro key s hs
  have hnone : stringAt (portBody port) key = none := by
    rw [stringAt, portBody, List.lookup_cons]
    cases key == "local_listen_port" <;> rfl
  exact nomatch hnone.symm.trans hs

/-- A network update with a connection type of two lines, the first of which begins with a tab,
reports success, and the parser refuses the text from then on. -/
theorem file_unreadable_after_update :
    (configMachine toString .exact).run (some minimalFile)
      [.network [("connection_type", .str "\ta\nb")]] = some none := by
  have hnone : ((configMachine toString .exact).run (some minimalFile)
      [.network [("connection_type", .str "\ta\nb")]]).map Option.isNone = some true := by
    decide +kernel
  obtain ⟨file', hrun, hfile⟩ := Option.map_eq_some_iff.mp hnone
  rw [hrun, Option.isNone_iff_eq_none.mp hfile]

end DroneBridge
