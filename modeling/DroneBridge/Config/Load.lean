import DroneBridge.Lib.Yaml

/-!
# The configuration file of the bridge

`config.yaml` is read into one record, its gaps are filled with defaults, the record is checked, and
camera values out of range are put right. A save writes every field of the record. So a file that
was saved spells out what the file before it left open, by the zero value of the field or by the
default that loading has filled in.
-/

namespace DroneBridge

open Yaml (Codec)

/-! ## The record -/

structure LogConfig where
  level : String
  verbose : Bool
  timestampFormat : String
  serverConnectionOnly : Bool
  showWebInteractionLogs : Bool
  showPacketStats : Bool

structure AuthConfig where
  enabled : Bool
  host : String
  port : Int64
  uuid : String
  sharedSecret : String
  vehicleType : UInt8
  model : String
  keepaliveInterval : Int64
  reconnectInterval : Int64
  startupRetryInterval : Int64
  sessionHeartbeatFrequency : ℚ

/-- The modem driver, which another program runs. -/
structure CellularConfig where
  enabled : Bool
  driver : String
  iface : String
  apn : String
  qmiDev : String
  normalizeIface : Bool
  sim7600 : List (String × Yaml)
  sim8262 : List (String × Yaml)

structure NetworkConfig where
  localListenPort : Int64
  targetHost : String
  targetPort : Int64
  protocol : String
  connectionType : String
  serialPort : String
  serialBaud : Int64
  telem2Port : String
  telem2Baud : Int64
  telem3Port : String
  telem3Baud : Int64
  linkLossTimeoutMs : Int64
  ethRecoverHeartbeats : Int64
  mode : String
  cloudWifiFallback : Option Bool
  forwardGpsRawInt : Option Bool
  fallbackDelay : Int64

structure EthernetConfig where
  interface : String
  localIp : String
  broadcastIp : String
  pixhawkIp : String
  pixhawkPort : Int64
  autoSetup : Bool
  subnet : String
  allowMissingPixhawk : Bool
  pixhawkConnectionTimeout : Int64

structure WebConfig where
  port : Int64

structure CameraStreamConfig where
  name : String
  cameraId : Int64
  enabled : Bool
  size : List Int64
  framerate : Int64
  bitrate : Int64
  format : String
  brightness : ℚ
  contrast : ℚ
  sharpness : ℚ
  saturation : ℚ
  exposureTime : Int64
  detectionEnabled : Bool
  overlayEnabled : Bool
  overlayBurnEnabled : Option Bool
  gateTimeoutMs : Int64
  detectFrameSkip : Int64
  landingDetectionMode : String
  arucoMarkerId : Int64
  arucoDictionary : String
  detectionThreshold : ℚ
  landingFullframeFallback : Option Bool
  overlayFrameSkip : Int64
  loresSize : List Int64
  keyframeInterval : Int64
  preset : String
  tune : String

structure CameraConfig where
  enabled : Bool
  autoStart : Bool
  autoSetup : Bool
  configFile : String
  streamPath : String
  mediamtxHost : String
  mediamtxPort : Int64
  mediamtxWebrtcPort : Int64
  mediamtxHlsPort : Int64
  publishPathCam0Suffix : String
  publishPathCam1Suffix : String
  primaryCameraId : Int64
  autoMemoryProfile : Bool
  lowMemoryMode : Bool
  streamBufferCount : Int64
  skipMissingSensors : Bool
  mediamtxRelayHost : String
  mavlinkStatusEnabled : Option Bool
  mavlinkStatusHz : ℚ
  streams : List CameraStreamConfig

structure LandingConfig where
  environment : String
  markerType : String
  mode : String
  safetyLevel : Int64
  template : String
  mavlinkEnabled : Bool
  mavlinkHz : ℚ
  mavlinkCamera : Int64

/-- The display. -/
structure LCDConfig where
  enabled : Bool
  autoSetup : Bool
  overlay : String
  pins : String
  bus : Int64
  address : Int64
  interval : Int64
  screenHold : Int64
  screen : String

/-- Named apart from the file that the tunnel is provisioned with. -/
structure Config.VPNConfig where
  enabled : Bool
  configFile : String
  serverEndpoint : String
  serverPubKey : String
  vpnPort : Int64
  routerVpnIp : String

structure Config where
  log : LogConfig
  auth : AuthConfig
  cellular : CellularConfig
  network : NetworkConfig
  ethernet : EthernetConfig
  web : WebConfig
  camera : CameraConfig
  landing : LandingConfig
  lcd : LCDConfig
  vpn : Config.VPNConfig

/-! ## Reading and writing it -/

def defaultSim7600 : List (String × Yaml) := [("gpio_power", .bool true)]

def defaultSim8262 : List (String × Yaml) :=
  [("data_iface", .str "rmnet0"), ("parent_iface", .str "mhi_hwip0"),
    ("rat_profile", .str "stability")]

def intList : Codec (List Int64) := .list .int fun _ ↦ rfl

def LogConfig.entries (c : LogConfig) : List (String × Yaml) :=
  [("level", Codec.string.enc c.level),
    ("verbose", Codec.bool.enc c.verbose),
    ("timestamp_format", Codec.string.enc c.timestampFormat),
    ("server_connection_only", Codec.bool.enc c.serverConnectionOnly),
    ("show_web_interaction_logs", Codec.bool.enc c.showWebInteractionLogs),
    ("show_packet_stats", Codec.bool.enc c.showPacketStats)]

def LogConfig.codec : Codec LogConfig :=
  .record
    ⟨"", false, "", false, false, false⟩
    (fun m ↦ do
      return {
        level := ← Codec.string.field "level" m
        verbose := ← Codec.bool.field "verbose" m
        timestampFormat := ← Codec.string.field "timestamp_format" m
        serverConnectionOnly := ← Codec.bool.field "server_connection_only" m
        showWebInteractionLogs := ← Codec.bool.field "show_web_interaction_logs" m
        showPacketStats := ← Codec.bool.field "show_packet_stats" m })
    (·.entries)
    (fun _ ↦ by simp [LogConfig.entries])
    (fun _ ↦ by simp [LogConfig.entries, Codec.field, List.lookup_cons, Codec.dec_enc])

def AuthConfig.entries (text : ℚ → String) (c : AuthConfig) : List (String × Yaml) :=
  [("enabled", Codec.bool.enc c.enabled),
    ("host", Codec.string.enc c.host),
    ("port", Codec.int.enc c.port),
    ("uuid", Codec.string.enc c.uuid),
    ("shared_secret", Codec.string.enc c.sharedSecret),
    ("vehicle_type", Codec.uint8.enc c.vehicleType),
    ("model", Codec.string.enc c.model),
    ("keepalive_interval", Codec.int.enc c.keepaliveInterval),
    ("reconnect_interval", Codec.int.enc c.reconnectInterval),
    ("startup_retry_interval", Codec.int.enc c.startupRetryInterval),
    ("session_heartbeat_frequency", (Codec.float text).enc c.sessionHeartbeatFrequency)]

def AuthConfig.codec (text : ℚ → String) : Codec AuthConfig :=
  .record
    ⟨false, "", 0, "", "", 0, "", 0, 0, 0, 0⟩
    (fun m ↦ do
      return {
        enabled := ← Codec.bool.field "enabled" m
        host := ← Codec.string.field "host" m
        port := ← Codec.int.field "port" m
        uuid := ← Codec.string.field "uuid" m
        sharedSecret := ← Codec.string.field "shared_secret" m
        vehicleType := ← Codec.uint8.field "vehicle_type" m
        model := ← Codec.string.field "model" m
        keepaliveInterval := ← Codec.int.field "keepalive_interval" m
        reconnectInterval := ← Codec.int.field "reconnect_interval" m
        startupRetryInterval := ← Codec.int.field "startup_retry_interval" m
        sessionHeartbeatFrequency := ← (Codec.float text).field "session_heartbeat_frequency" m })
    (·.entries text)
    (fun _ ↦ by simp [AuthConfig.entries])
    (fun _ ↦ by simp [AuthConfig.entries, Codec.field, List.lookup_cons, Codec.dec_enc])

def CellularConfig.entries (c : CellularConfig) : List (String × Yaml) :=
  [("enabled", Codec.bool.enc c.enabled),
    ("driver", Codec.string.enc c.driver),
    ("iface", Codec.string.enc c.iface),
    ("apn", Codec.string.enc c.apn),
    ("qmi_dev", Codec.string.enc c.qmiDev),
    ("normalize_iface", Codec.bool.enc c.normalizeIface),
    ("sim7600", (Codec.anyMap defaultSim7600).enc c.sim7600),
    ("sim8262", (Codec.anyMap defaultSim8262).enc c.sim8262)]

def CellularConfig.codec : Codec CellularConfig :=
  .record
    ⟨false, "", "", "", "", false, defaultSim7600, defaultSim8262⟩
    (fun m ↦ do
      return {
        enabled := ← Codec.bool.field "enabled" m
        driver := ← Codec.string.field "driver" m
        iface := ← Codec.string.field "iface" m
        apn := ← Codec.string.field "apn" m
        qmiDev := ← Codec.string.field "qmi_dev" m
        normalizeIface := ← Codec.bool.field "normalize_iface" m
        sim7600 := ← (Codec.anyMap defaultSim7600).field "sim7600" m
        sim8262 := ← (Codec.anyMap defaultSim8262).field "sim8262" m })
    (·.entries)
    (fun _ ↦ by simp [CellularConfig.entries])
    (fun _ ↦ by simp [CellularConfig.entries, Codec.field, List.lookup_cons, Codec.dec_enc])

def NetworkConfig.entries (c : NetworkConfig) : List (String × Yaml) :=
  [("local_listen_port", Codec.int.enc c.localListenPort),
    ("target_host", Codec.string.enc c.targetHost),
    ("target_port", Codec.int.enc c.targetPort),
    ("protocol", Codec.string.enc c.protocol),
    ("connection_type", Codec.string.enc c.connectionType),
    ("serial_port", Codec.string.enc c.serialPort),
    ("serial_baud", Codec.int.enc c.serialBaud),
    ("telem2_port", Codec.string.enc c.telem2Port),
    ("telem2_baud", Codec.int.enc c.telem2Baud),
    ("telem3_port", Codec.string.enc c.telem3Port),
    ("telem3_baud", Codec.int.enc c.telem3Baud),
    ("link_loss_timeout_ms", Codec.int.enc c.linkLossTimeoutMs),
    ("eth_recover_heartbeats", Codec.int.enc c.ethRecoverHeartbeats),
    ("mode", Codec.string.enc c.mode),
    ("cloud_wifi_fallback", Codec.optBool.enc c.cloudWifiFallback),
    ("forward_gps_raw_int", Codec.optBool.enc c.forwardGpsRawInt),
    ("fallback_delay", Codec.int.enc c.fallbackDelay)]

def NetworkConfig.codec : Codec NetworkConfig :=
  .record
    ⟨0, "", 0, "", "", "", 0, "", 0, "", 0, 0, 0, "", none, none, 0⟩
    (fun m ↦ do
      return {
        localListenPort := ← Codec.int.field "local_listen_port" m
        targetHost := ← Codec.string.field "target_host" m
        targetPort := ← Codec.int.field "target_port" m
        protocol := ← Codec.string.field "protocol" m
        connectionType := ← Codec.string.field "connection_type" m
        serialPort := ← Codec.string.field "serial_port" m
        serialBaud := ← Codec.int.field "serial_baud" m
        telem2Port := ← Codec.string.field "telem2_port" m
        telem2Baud := ← Codec.int.field "telem2_baud" m
        telem3Port := ← Codec.string.field "telem3_port" m
        telem3Baud := ← Codec.int.field "telem3_baud" m
        linkLossTimeoutMs := ← Codec.int.field "link_loss_timeout_ms" m
        ethRecoverHeartbeats := ← Codec.int.field "eth_recover_heartbeats" m
        mode := ← Codec.string.field "mode" m
        cloudWifiFallback := ← Codec.optBool.field "cloud_wifi_fallback" m
        forwardGpsRawInt := ← Codec.optBool.field "forward_gps_raw_int" m
        fallbackDelay := ← Codec.int.field "fallback_delay" m })
    (·.entries)
    (fun _ ↦ by simp [NetworkConfig.entries])
    (fun _ ↦ by simp [NetworkConfig.entries, Codec.field, List.lookup_cons, Codec.dec_enc])

def EthernetConfig.entries (c : EthernetConfig) : List (String × Yaml) :=
  [("interface", Codec.string.enc c.interface),
    ("local_ip", Codec.string.enc c.localIp),
    ("broadcast_ip", Codec.string.enc c.broadcastIp),
    ("pixhawk_ip", Codec.string.enc c.pixhawkIp),
    ("pixhawk_port", Codec.int.enc c.pixhawkPort),
    ("auto_setup", Codec.bool.enc c.autoSetup),
    ("subnet", Codec.string.enc c.subnet),
    ("allow_missing_pixhawk", Codec.bool.enc c.allowMissingPixhawk),
    ("pixhawk_connection_timeout", Codec.int.enc c.pixhawkConnectionTimeout)]

def EthernetConfig.codec : Codec EthernetConfig :=
  .record
    ⟨"", "", "", "", 0, false, "", false, 0⟩
    (fun m ↦ do
      return {
        interface := ← Codec.string.field "interface" m
        localIp := ← Codec.string.field "local_ip" m
        broadcastIp := ← Codec.string.field "broadcast_ip" m
        pixhawkIp := ← Codec.string.field "pixhawk_ip" m
        pixhawkPort := ← Codec.int.field "pixhawk_port" m
        autoSetup := ← Codec.bool.field "auto_setup" m
        subnet := ← Codec.string.field "subnet" m
        allowMissingPixhawk := ← Codec.bool.field "allow_missing_pixhawk" m
        pixhawkConnectionTimeout := ← Codec.int.field "pixhawk_connection_timeout" m })
    (·.entries)
    (fun _ ↦ by simp [EthernetConfig.entries])
    (fun _ ↦ by simp [EthernetConfig.entries, Codec.field, List.lookup_cons, Codec.dec_enc])

def WebConfig.entries (c : WebConfig) : List (String × Yaml) :=
  [("port", Codec.int.enc c.port)]

def WebConfig.codec : Codec WebConfig :=
  .record
    ⟨0⟩
    (fun m ↦ do
      return {
        port := ← Codec.int.field "port" m })
    (·.entries)
    (fun _ ↦ by simp [WebConfig.entries])
    (fun _ ↦ by simp [WebConfig.entries, Codec.field, Codec.dec_enc])

def CameraStreamConfig.entries (text : ℚ → String) (c : CameraStreamConfig) :
    List (String × Yaml) :=
  [("name", Codec.string.enc c.name),
    ("camera_id", Codec.int.enc c.cameraId),
    ("enabled", Codec.bool.enc c.enabled),
    ("size", intList.enc c.size),
    ("framerate", Codec.int.enc c.framerate),
    ("bitrate", Codec.int.enc c.bitrate),
    ("format", Codec.string.enc c.format),
    ("brightness", (Codec.float text).enc c.brightness),
    ("contrast", (Codec.float text).enc c.contrast),
    ("sharpness", (Codec.float text).enc c.sharpness),
    ("saturation", (Codec.float text).enc c.saturation),
    ("exposure_time", Codec.int.enc c.exposureTime),
    ("detection_enabled", Codec.bool.enc c.detectionEnabled),
    ("overlay_enabled", Codec.bool.enc c.overlayEnabled),
    ("overlay_burn_enabled", Codec.optBool.enc c.overlayBurnEnabled),
    ("gate_timeout_ms", Codec.int.enc c.gateTimeoutMs),
    ("detect_frame_skip", Codec.int.enc c.detectFrameSkip),
    ("landing_detection_mode", Codec.string.enc c.landingDetectionMode),
    ("aruco_marker_id", Codec.int.enc c.arucoMarkerId),
    ("aruco_dictionary", Codec.string.enc c.arucoDictionary),
    ("detection_threshold", (Codec.float text).enc c.detectionThreshold),
    ("landing_fullframe_fallback", Codec.optBool.enc c.landingFullframeFallback),
    ("overlay_frame_skip", Codec.int.enc c.overlayFrameSkip),
    ("lores_size", intList.enc c.loresSize),
    ("keyframe_interval", Codec.int.enc c.keyframeInterval),
    ("preset", Codec.string.enc c.preset),
    ("tune", Codec.string.enc c.tune)]

def CameraStreamConfig.codec (text : ℚ → String) : Codec CameraStreamConfig :=
  .record
    ⟨"", 0, false, [], 0, 0, "", 0, 0, 0, 0, 0, false, false, none, 0, 0, "", 0, "", 0, none,
      0, [], 0, "", ""⟩
    (fun m ↦ do
      return {
        name := ← Codec.string.field "name" m
        cameraId := ← Codec.int.field "camera_id" m
        enabled := ← Codec.bool.field "enabled" m
        size := ← intList.field "size" m
        framerate := ← Codec.int.field "framerate" m
        bitrate := ← Codec.int.field "bitrate" m
        format := ← Codec.string.field "format" m
        brightness := ← (Codec.float text).field "brightness" m
        contrast := ← (Codec.float text).field "contrast" m
        sharpness := ← (Codec.float text).field "sharpness" m
        saturation := ← (Codec.float text).field "saturation" m
        exposureTime := ← Codec.int.field "exposure_time" m
        detectionEnabled := ← Codec.bool.field "detection_enabled" m
        overlayEnabled := ← Codec.bool.field "overlay_enabled" m
        overlayBurnEnabled := ← Codec.optBool.field "overlay_burn_enabled" m
        gateTimeoutMs := ← Codec.int.field "gate_timeout_ms" m
        detectFrameSkip := ← Codec.int.field "detect_frame_skip" m
        landingDetectionMode := ← Codec.string.field "landing_detection_mode" m
        arucoMarkerId := ← Codec.int.field "aruco_marker_id" m
        arucoDictionary := ← Codec.string.field "aruco_dictionary" m
        detectionThreshold := ← (Codec.float text).field "detection_threshold" m
        landingFullframeFallback := ← Codec.optBool.field "landing_fullframe_fallback" m
        overlayFrameSkip := ← Codec.int.field "overlay_frame_skip" m
        loresSize := ← intList.field "lores_size" m
        keyframeInterval := ← Codec.int.field "keyframe_interval" m
        preset := ← Codec.string.field "preset" m
        tune := ← Codec.string.field "tune" m })
    (·.entries text)
    (fun _ ↦ by simp [CameraStreamConfig.entries])
    (fun _ ↦ by simp [CameraStreamConfig.entries, Codec.field, List.lookup_cons, Codec.dec_enc])

def CameraConfig.entries (text : ℚ → String) (c : CameraConfig) : List (String × Yaml) :=
  [("enabled", Codec.bool.enc c.enabled),
    ("auto_start", Codec.bool.enc c.autoStart),
    ("auto_setup", Codec.bool.enc c.autoSetup),
    ("config_file", Codec.string.enc c.configFile),
    ("stream_path", Codec.string.enc c.streamPath),
    ("mediamtx_host", Codec.string.enc c.mediamtxHost),
    ("mediamtx_port", Codec.int.enc c.mediamtxPort),
    ("mediamtx_webrtc_port", Codec.int.enc c.mediamtxWebrtcPort),
    ("mediamtx_hls_port", Codec.int.enc c.mediamtxHlsPort),
    ("publish_path_cam0_suffix", Codec.string.enc c.publishPathCam0Suffix),
    ("publish_path_cam1_suffix", Codec.string.enc c.publishPathCam1Suffix),
    ("primary_camera_id", Codec.int.enc c.primaryCameraId),
    ("auto_memory_profile", Codec.bool.enc c.autoMemoryProfile),
    ("low_memory_mode", Codec.bool.enc c.lowMemoryMode),
    ("stream_buffer_count", Codec.int.enc c.streamBufferCount),
    ("skip_missing_sensors", Codec.bool.enc c.skipMissingSensors),
    ("mediamtx_relay_host", Codec.string.enc c.mediamtxRelayHost),
    ("mavlink_status_enabled", Codec.optBool.enc c.mavlinkStatusEnabled),
    ("mavlink_status_hz", (Codec.float text).enc c.mavlinkStatusHz),
    ("streams", (Codec.list (CameraStreamConfig.codec text) fun _ ↦ rfl).enc c.streams)]

def CameraConfig.codec (text : ℚ → String) : Codec CameraConfig :=
  .record
    ⟨false, false, false, "", "", "", 0, 0, 0, "", "", 0, false, false, 0, false, "", none, 0, []⟩
    (fun m ↦ do
      return {
        enabled := ← Codec.bool.field "enabled" m
        autoStart := ← Codec.bool.field "auto_start" m
        autoSetup := ← Codec.bool.field "auto_setup" m
        configFile := ← Codec.string.field "config_file" m
        streamPath := ← Codec.string.field "stream_path" m
        mediamtxHost := ← Codec.string.field "mediamtx_host" m
        mediamtxPort := ← Codec.int.field "mediamtx_port" m
        mediamtxWebrtcPort := ← Codec.int.field "mediamtx_webrtc_port" m
        mediamtxHlsPort := ← Codec.int.field "mediamtx_hls_port" m
        publishPathCam0Suffix := ← Codec.string.field "publish_path_cam0_suffix" m
        publishPathCam1Suffix := ← Codec.string.field "publish_path_cam1_suffix" m
        primaryCameraId := ← Codec.int.field "primary_camera_id" m
        autoMemoryProfile := ← Codec.bool.field "auto_memory_profile" m
        lowMemoryMode := ← Codec.bool.field "low_memory_mode" m
        streamBufferCount := ← Codec.int.field "stream_buffer_count" m
        skipMissingSensors := ← Codec.bool.field "skip_missing_sensors" m
        mediamtxRelayHost := ← Codec.string.field "mediamtx_relay_host" m
        mavlinkStatusEnabled := ← Codec.optBool.field "mavlink_status_enabled" m
        mavlinkStatusHz := ← (Codec.float text).field "mavlink_status_hz" m
        streams := ← (Codec.list (CameraStreamConfig.codec text) fun _ ↦ rfl).field "streams" m })
    (·.entries text)
    (fun _ ↦ by simp [CameraConfig.entries])
    (fun _ ↦ by simp [CameraConfig.entries, Codec.field, List.lookup_cons, Codec.dec_enc])

def LandingConfig.entries (text : ℚ → String) (c : LandingConfig) : List (String × Yaml) :=
  [("environment", Codec.string.enc c.environment),
    ("marker_type", Codec.string.enc c.markerType),
    ("mode", Codec.string.enc c.mode),
    ("safety_level", Codec.int.enc c.safetyLevel),
    ("template", Codec.string.enc c.template),
    ("mavlink_enabled", Codec.bool.enc c.mavlinkEnabled),
    ("mavlink_hz", (Codec.float text).enc c.mavlinkHz),
    ("mavlink_camera_id", Codec.int.enc c.mavlinkCamera)]

def LandingConfig.codec (text : ℚ → String) : Codec LandingConfig :=
  .record
    ⟨"", "", "", 0, "", false, 0, 0⟩
    (fun m ↦ do
      return {
        environment := ← Codec.string.field "environment" m
        markerType := ← Codec.string.field "marker_type" m
        mode := ← Codec.string.field "mode" m
        safetyLevel := ← Codec.int.field "safety_level" m
        template := ← Codec.string.field "template" m
        mavlinkEnabled := ← Codec.bool.field "mavlink_enabled" m
        mavlinkHz := ← (Codec.float text).field "mavlink_hz" m
        mavlinkCamera := ← Codec.int.field "mavlink_camera_id" m })
    (·.entries text)
    (fun _ ↦ by simp [LandingConfig.entries])
    (fun _ ↦ by simp [LandingConfig.entries, Codec.field, List.lookup_cons, Codec.dec_enc])

def LCDConfig.entries (c : LCDConfig) : List (String × Yaml) :=
  [("enabled", Codec.bool.enc c.enabled),
    ("auto_setup", Codec.bool.enc c.autoSetup),
    ("overlay", Codec.string.enc c.overlay),
    ("pins", Codec.string.enc c.pins),
    ("bus", Codec.int.enc c.bus),
    ("address", Codec.int.enc c.address),
    ("interval", Codec.int.enc c.interval),
    ("screen_hold", Codec.int.enc c.screenHold),
    ("screen", Codec.string.enc c.screen)]

def LCDConfig.codec : Codec LCDConfig :=
  .record
    ⟨false, false, "", "", 0, 0, 0, 0, ""⟩
    (fun m ↦ do
      return {
        enabled := ← Codec.bool.field "enabled" m
        autoSetup := ← Codec.bool.field "auto_setup" m
        overlay := ← Codec.string.field "overlay" m
        pins := ← Codec.string.field "pins" m
        bus := ← Codec.int.field "bus" m
        address := ← Codec.int.field "address" m
        interval := ← Codec.int.field "interval" m
        screenHold := ← Codec.int.field "screen_hold" m
        screen := ← Codec.string.field "screen" m })
    (·.entries)
    (fun _ ↦ by simp [LCDConfig.entries])
    (fun _ ↦ by simp [LCDConfig.entries, Codec.field, List.lookup_cons, Codec.dec_enc])

def Config.VPNConfig.entries (c : Config.VPNConfig) : List (String × Yaml) :=
  [("enabled", Codec.bool.enc c.enabled),
    ("config_file", Codec.string.enc c.configFile),
    ("server_endpoint", Codec.string.enc c.serverEndpoint),
    ("server_pub_key", Codec.string.enc c.serverPubKey),
    ("vpn_port", Codec.int.enc c.vpnPort),
    ("router_vpn_ip", Codec.string.enc c.routerVpnIp)]

def Config.VPNConfig.codec : Codec Config.VPNConfig :=
  .record
    ⟨false, "", "", "", 0, ""⟩
    (fun m ↦ do
      return {
        enabled := ← Codec.bool.field "enabled" m
        configFile := ← Codec.string.field "config_file" m
        serverEndpoint := ← Codec.string.field "server_endpoint" m
        serverPubKey := ← Codec.string.field "server_pub_key" m
        vpnPort := ← Codec.int.field "vpn_port" m
        routerVpnIp := ← Codec.string.field "router_vpn_ip" m })
    (·.entries)
    (fun _ ↦ by simp [Config.VPNConfig.entries])
    (fun _ ↦ by simp [Config.VPNConfig.entries, Codec.field, List.lookup_cons, Codec.dec_enc])

/-- The sections in the order they are written. -/
def Config.entries (text : ℚ → String) (c : Config) : List (String × Yaml) :=
  [("log", LogConfig.codec.enc c.log),
    ("auth", (AuthConfig.codec text).enc c.auth),
    ("cellular", CellularConfig.codec.enc c.cellular),
    ("network", NetworkConfig.codec.enc c.network),
    ("ethernet", EthernetConfig.codec.enc c.ethernet),
    ("web", WebConfig.codec.enc c.web),
    ("camera", (CameraConfig.codec text).enc c.camera),
    ("landing", (LandingConfig.codec text).enc c.landing),
    ("lcd", LCDConfig.codec.enc c.lcd),
    ("vpn", Config.VPNConfig.codec.enc c.vpn)]

def Config.codec (text : ℚ → String) : Codec Config :=
  .record
    ⟨LogConfig.codec.zero, (AuthConfig.codec text).zero, CellularConfig.codec.zero,
      NetworkConfig.codec.zero, EthernetConfig.codec.zero, WebConfig.codec.zero,
      (CameraConfig.codec text).zero, (LandingConfig.codec text).zero, LCDConfig.codec.zero,
      Config.VPNConfig.codec.zero⟩
    (fun m ↦ do
      return {
        log := ← LogConfig.codec.field "log" m
        auth := ← (AuthConfig.codec text).field "auth" m
        cellular := ← CellularConfig.codec.field "cellular" m
        network := ← NetworkConfig.codec.field "network" m
        ethernet := ← EthernetConfig.codec.field "ethernet" m
        web := ← WebConfig.codec.field "web" m
        camera := ← (CameraConfig.codec text).field "camera" m
        landing := ← (LandingConfig.codec text).field "landing" m
        lcd := ← LCDConfig.codec.field "lcd" m
        vpn := ← Config.VPNConfig.codec.field "vpn" m })
    (·.entries text)
    (fun _ ↦ by simp [Config.entries])
    (fun _ ↦ by simp [Config.entries, Codec.field, List.lookup_cons, Codec.dec_enc])

/-! ## Defaults and checks -/

/-- Whether the file says something about packet statistics. -/
def showPacketStatsSet (doc : Yaml) : Bool :=
  ((doc.get? "log").bind (·.get? "show_packet_stats")).isSome

def orDefault (default s : String) : String := if s = "" then default else s

namespace Config

variable (c : Config)

/-- Statistics are shown unless the file speaks of them. -/
def showStats (set : Bool) : Config :=
  if set then c else { c with log.showPacketStats := true }

def setDefaults : Config :=
  { c with
    log.level := orDefault "info" c.log.level
    ethernet.subnet := orDefault "24" c.ethernet.subnet
    ethernet.pixhawkConnectionTimeout :=
      if c.ethernet.pixhawkConnectionTimeout ≤ 0 then 30 else c.ethernet.pixhawkConnectionTimeout
    cellular.driver := orDefault "sim7600_qmi" c.cellular.driver
    cellular.iface := orDefault "wwan0" c.cellular.iface
    vpn.configFile := orDefault "vpn_config.json" c.vpn.configFile
    vpn.vpnPort := if c.vpn.vpnPort = 0 then 14550 else c.vpn.vpnPort
    vpn.routerVpnIp := orDefault "10.8.0.1" c.vpn.routerVpnIp }

end Config

/-- One check of the record. -/
def failIf (wrong : Prop) [Decidable wrong] (message : String) : Except String Unit :=
  if wrong then .error message else .ok ()

theorem failIf_bind_eq_ok {wrong : Prop} [Decidable wrong] {message : String}
    {rest : Unit → Except String Unit} :
    (failIf wrong message >>= rest) = .ok () ↔ ¬ wrong ∧ rest () = .ok () := by
  by_cases h : wrong
  · rw [failIf, if_pos h]
    exact ⟨nofun, fun h' ↦ absurd h h'.1⟩
  · rw [failIf, if_neg h, and_iff_right h]
    rfl

theorem failIf_eq_ok {wrong : Prop} [Decidable wrong] {message : String} :
    failIf wrong message = .ok () ↔ ¬ wrong := by
  by_cases h : wrong <;> simp [failIf, h]

/-- The first complaint about the section, if there is one. -/
def AuthConfig.validate (c : AuthConfig) : Except String Unit :=
  if c.enabled then do
    failIf (c.host = "") "auth.host cannot be empty when auth is enabled"
    failIf (c.port ≤ 0 ∨ 65535 < c.port) "auth.port must be between 1 and 65535"
    failIf (c.keepaliveInterval ≤ 0)
      "auth.keepalive_interval must be greater than 0 when auth is enabled"
    failIf (c.sessionHeartbeatFrequency < 0)
      "auth.session_heartbeat_frequency must be >= 0 when auth is enabled"
    failIf (32 < c.model.utf8ByteSize) "auth.model must be at most 32 characters"
  else .ok ()

def Config.validate (c : Config) : Except String Unit := do
  c.auth.validate
  failIf (c.network.localListenPort ≤ 0 ∨ 65535 < c.network.localListenPort)
    "local_listen_port must be between 1 and 65535"
  failIf (c.network.targetHost = "") "target_host cannot be empty"
  failIf (c.network.targetPort ≤ 0 ∨ 65535 < c.network.targetPort)
    "target_port must be between 1 and 65535"
  failIf (c.web.port ≤ 0 ∨ 65535 < c.web.port) "web.port must be between 1 and 65535"

def CameraStreamConfig.normalize (s : CameraStreamConfig) : CameraStreamConfig :=
  { s with
    detectFrameSkip := if s.detectFrameSkip ≤ 0 then 3 else s.detectFrameSkip
    overlayFrameSkip := if s.overlayFrameSkip ≤ 0 then 5 else s.overlayFrameSkip
    gateTimeoutMs := if s.gateTimeoutMs < 0 then 0 else s.gateTimeoutMs
    loresSize := if s.loresSize.length < 2 then [320, 240] else s.loresSize
    detectionThreshold := if s.detectionThreshold ≤ 0 then 4 / 5 else s.detectionThreshold }

def Config.normalizeCameraConfig (c : Config) : Config :=
  { c with
    landing.mavlinkHz := if c.landing.mavlinkHz ≤ 0 then 10 else c.landing.mavlinkHz
    camera.mavlinkStatusHz := if c.camera.mavlinkStatusHz ≤ 0 then 1 else c.camera.mavlinkStatusHz
    camera.streams := c.camera.streams.map (·.normalize) }

/-! ## Load and save -/

inductive LoadError
  | parse
  | invalid (message : String)
  deriving DecidableEq, Repr

/-- Defaults, checks and corrections, in the order of the source. -/
def Config.finish (c : Config) : Except LoadError Config :=
  match c.setDefaults.validate with
  | .error message => .error (.invalid message)
  | .ok () => .ok c.setDefaults.normalizeCameraConfig

/-- The second `Unmarshal`, into a map, is taken to succeed where the first one does. -/
def load (text : ℚ → String) (doc : Yaml) : Except LoadError Config :=
  match (Config.codec text).dec doc with
  | none => .error .parse
  | some c => (c.showStats (showPacketStatsSet doc)).finish

/-- The tree stands for the text that `yaml.v3` writes. That it reads the same strings back is an
assumption of the model; a string of two lines that begin with spaces loses them. -/
def Config.save (text : ℚ → String) (c : Config) : Yaml := (Config.codec text).enc c

/-- A file that the service can start from. -/
def Accepted (text : ℚ → String) (doc : Yaml) : Prop := ∃ c, load text doc = .ok c

section

variable {text : ℚ → String} {c : Config}

/-- What is loaded after a save: the record itself, finished once more. -/
theorem load_save : load text (c.save text) = c.finish := by
  have hset : showPacketStatsSet (c.save text) = true := rfl
  rw [load, Config.save, Codec.dec_enc, ← Config.save, hset]
  rfl

def Config.Valid (c : Config) : Prop := c.validate = .ok ()

theorem Config.valid_iff :
    c.Valid ↔ c.auth.validate = .ok () ∧
      ¬ (c.network.localListenPort ≤ 0 ∨ 65535 < c.network.localListenPort) ∧
      c.network.targetHost ≠ "" ∧ ¬ (c.network.targetPort ≤ 0 ∨ 65535 < c.network.targetPort) ∧
      ¬ (c.web.port ≤ 0 ∨ 65535 < c.web.port) := by
  rw [Config.Valid, Config.validate]
  cases c.auth.validate with
  | error message => exact ⟨nofun, nofun⟩
  | ok u =>
    have hok : ∀ rest : Unit → Except String Unit, (Except.ok u >>= rest) = rest u := fun _ ↦ rfl
    rw [hok, failIf_bind_eq_ok, failIf_bind_eq_ok, failIf_bind_eq_ok, failIf_eq_ok,
      and_iff_right rfl]

theorem Config.validate_setDefaults : c.setDefaults.validate = c.validate := rfl

theorem Config.finish_eq_ok {c' : Config} :
    c.finish = .ok c' ↔ c.Valid ∧ c' = c.setDefaults.normalizeCameraConfig := by
  rw [Config.finish, Config.validate_setDefaults, Config.Valid]
  cases c.validate with
  | error message => simp
  | ok u => simp [eq_comm]

theorem accepted_save : Accepted text (c.save text) ↔ c.Valid := by
  constructor
  · rintro ⟨c', h⟩
    rw [load_save, Config.finish_eq_ok] at h
    exact h.1
  · intro h
    exact ⟨_, load_save.trans (Config.finish_eq_ok.mpr ⟨h, rfl⟩)⟩

theorem load_eq_ok {doc : Yaml} :
    load text doc = .ok c ↔ ∃ c₀, (Config.codec text).dec doc = some c₀ ∧
      (c₀.showStats (showPacketStatsSet doc)).finish = .ok c := by
  rw [load]
  cases (Config.codec text).dec doc <;> simp

theorem valid_of_load {doc : Yaml} (h : load text doc = .ok c) : c.Valid := by
  obtain ⟨c₀, -, hfinish⟩ := load_eq_ok.mp h
  obtain ⟨hvalid, rfl⟩ := Config.finish_eq_ok.mp hfinish
  exact hvalid

end

end DroneBridge
