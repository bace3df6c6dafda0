import DroneBridge.Lib.Binary64
import DroneBridge.Lib.Clock
import DroneBridge.Lib.Machine

/-!
# Telemetry for the display

The messages of the flight controller are kept in one cache, value by value, and a snapshot of the
cache is shown while the last message is fresh. A position arrives in two kinds of messages and is
cached coordinate by coordinate: a coordinate of zero is taken for one that is missing, and leaves
the cached one as it is. So the cached pair may be put together from two messages, which no
message had. It is that of one message as long as a coordinate of zero comes along with a value only
where no other value is cached yet.
-/

namespace DroneBridge

/-! ## Messages -/

/-- The part of a `HEARTBEAT` that is used here. -/
structure TelemetryHeartbeat where
  customMode : UInt32
  deriving DecidableEq, Repr

/-- `VFR_HUD`, with its 32-bit floats as numbers. -/
structure TelemetryVfrHud where
  alt : ℚ
  groundspeed : ℚ
  climb : ℚ
  heading : Int16
  deriving DecidableEq, Repr

structure MessageGlobalPositionInt where
  lat : Int32
  lon : Int32
  relativeAlt : Int32
  vz : Int16
  hdg : UInt16
  deriving DecidableEq, Repr

structure MessageGpsRawInt where
  fixType : UInt8
  lat : Int32
  lon : Int32
  eph : UInt16
  cog : UInt16
  satellitesVisible : UInt8
  deriving DecidableEq, Repr

structure MessageSysStatus where
  voltageBattery : UInt16
  batteryRemaining : Int8
  deriving DecidableEq, Repr

inductive TelemetryMessage
  | heartbeat (msg : TelemetryHeartbeat)
  | vfrHud (msg : TelemetryVfrHud)
  | globalPosition (msg : MessageGlobalPositionInt)
  | gpsRaw (msg : MessageGpsRawInt)
  | sysStatus (msg : MessageSysStatus)
  deriving DecidableEq, Repr

/-! ## Texts -/

def px4FlightModeName (customMode : UInt32) : String :=
  let mainMode := (customMode >>> 16).toUInt8
  let subMode := (customMode >>> 24).toUInt8
  match mainMode with
  | 1 => "MANUAL"
  | 2 => "ALTCTL"
  | 3 => "POSCTL"
  | 4 =>
    match subMode with
    | 1 => "READY"
    | 2 => "TAKEOFF"
    | 3 => "LOITER"
    | 4 => "MISSION"
    | 5 => "RTL"
    | 6 => "LAND"
    | 7 => "RTGS"
    | 8 => "FOLLOW"
    | _ => "AUTO"
  | 5 => "ACRO"
  | 6 => "OFFBOARD"
  | 7 => "STAB"
  | 8 => "RATTITUDE"
  | n => s!"M{n}"

def gpsFixLabel (fixType satellites : UInt8) : String :=
  match fixType with
  | 0 => "NO GPS"
  | 1 => "NO FIX"
  | 2 => if 0 < satellites then s!"2D {satellites}" else "2D FIX"
  | 3 => if 0 < satellites then s!"3D {satellites}" else "3D FIX"
  | 4 => if 0 < satellites then s!"DGPS {satellites}" else "DGPS"
  | 5 => if 0 < satellites then s!"RTK {satellites}" else "RTK"
  | 6 => if 0 < satellites then s!"RTK2 {satellites}" else "RTK2"
  | n => if 0 < satellites then s!"FIX{n} {satellites}" else s!"FIX{n}"

/-! ## The cache -/

structure TelemetryCache where
  connected : Bool
  altitudeM : ℚ
  speedMs : ℚ
  climbMs : ℚ
  batteryPct : ℚ
  voltageV : ℚ
  satellites : UInt8
  gpsFix : UInt8
  gpsLock : String
  latitudeDeg : ℚ
  longitudeDeg : ℚ
  hdop : ℚ
  headingDeg : ℚ
  flightMode : String
  lastUpdate : ℕ
  hasAltitude : Bool
  hasSpeed : Bool
  hasClimb : Bool
  hasBattery : Bool
  hasGPS : Bool
  hasPosition : Bool
  hasHeading : Bool
  hasMode : Bool
  deriving DecidableEq, Repr

def TelemetryCache.zero : TelemetryCache where
  connected := false
  altitudeM := 0
  speedMs := 0
  climbMs := 0
  batteryPct := 0
  voltageV := 0
  satellites := 0
  gpsFix := 0
  gpsLock := ""
  latitudeDeg := 0
  longitudeDeg := 0
  hdop := 0
  headingDeg := 0
  flightMode := ""
  lastUpdate := 0
  hasAltitude := false
  hasSpeed := false
  hasClimb := false
  hasBattery := false
  hasGPS := false
  hasPosition := false
  hasHeading := false
  hasMode := false

/-- A quotient of whole numbers in 64-bit floats. -/
def scaled (n d : ℤ) : ℚ := Binary64.round (n / d)

/-- A coordinate in degrees, from the ten millionths of a message. -/
def degrees (n : Int32) : ℚ := scaled n.toInt 10000000

theorem degrees_zero : degrees 0 = 0 := by decide +kernel

namespace TelemetryCache

variable (t : TelemetryCache)

def connect : TelemetryCache := { t with connected := true }

def touch (now : ℕ) : TelemetryCache := { t with lastUpdate := now }

/-- The position of a message. Both handlers treat it alike. -/
def setPosition (lat lon : Int32) : TelemetryCache :=
  let t := if lat ≠ 0 then { t with latitudeDeg := degrees lat, hasPosition := true } else t
  if lon ≠ 0 then { t with longitudeDeg := degrees lon, hasPosition := true } else t

def setAltitude (relativeAlt : Int32) : TelemetryCache :=
  if relativeAlt ≠ 0 then
    { t with altitudeM := scaled relativeAlt.toInt 1000, hasAltitude := true }
  else t

/-- The sign is changed in 16 bits. -/
def setClimb (vz : Int16) : TelemetryCache :=
  if vz ≠ 0 then { t with climbMs := scaled (-vz).toInt 100, hasClimb := true } else t

/-- A heading or a course, which both handlers treat alike. -/
def setHeading (hdg : UInt16) : TelemetryCache :=
  if hdg ≠ 65535 then { t with headingDeg := scaled hdg.toNat 100, hasHeading := true } else t

def setHdop (eph : UInt16) : TelemetryCache :=
  if eph ≠ 0 ∧ eph ≠ 65535 then { t with hdop := scaled eph.toNat 100 } else t

def setVoltage (voltageBattery : UInt16) : TelemetryCache :=
  if voltageBattery ≠ 0 ∧ voltageBattery ≠ 65535 then
    { t with voltageV := scaled voltageBattery.toNat 1000 }
  else t

def setBattery (batteryRemaining : Int8) : TelemetryCache :=
  if 0 ≤ batteryRemaining ∧ batteryRemaining ≤ 100 then
    { t with batteryPct := batteryRemaining.toInt, hasBattery := true }
  else t

def handleTelemetryHeartbeat (now : ℕ) (msg : TelemetryHeartbeat) : TelemetryCache :=
  { t.connect with flightMode := px4FlightModeName msg.customMode, hasMode := true } |>.touch now

def handleTelemetryVfrHud (now : ℕ) (msg : TelemetryVfrHud) : TelemetryCache :=
  { t.connect with
    altitudeM := msg.alt
    speedMs := msg.groundspeed
    climbMs := msg.climb
    headingDeg := msg.heading.toInt
    hasHeading := true
    hasAltitude := true
    hasSpeed := true
    hasClimb := true } |>.touch now

def handleTelemetryGlobalPosition (now : ℕ) (msg : MessageGlobalPositionInt) : TelemetryCache :=
  t.connect |>.setAltitude msg.relativeAlt |>.setClimb msg.vz |>.setPosition msg.lat msg.lon
    |>.setHeading msg.hdg |>.touch now

def handleTelemetryGpsRaw (now : ℕ) (msg : MessageGpsRawInt) : TelemetryCache :=
  let t :=
    { t.connect with
      gpsFix := msg.fixType
      satellites := msg.satellitesVisible
      gpsLock := gpsFixLabel msg.fixType msg.satellitesVisible }
  let t := t.setPosition msg.lat msg.lon |>.setHdop msg.eph |>.setHeading msg.cog
  { t with hasGPS := true } |>.touch now

def handleTelemetrySysStatus (now : ℕ) (msg : MessageSysStatus) : TelemetryCache :=
  t.connect |>.setVoltage msg.voltageBattery |>.setBattery msg.batteryRemaining |>.touch now

def handle (now : ℕ) : TelemetryMessage → TelemetryCache
  | .heartbeat msg => t.handleTelemetryHeartbeat now msg
  | .vfrHud msg => t.handleTelemetryVfrHud now msg
  | .globalPosition msg => t.handleTelemetryGlobalPosition now msg
  | .gpsRaw msg => t.handleTelemetryGpsRaw now msg
  | .sysStatus msg => t.handleTelemetrySysStatus now msg

end TelemetryCache

/-! ## The snapshot -/

structure TelemetrySnapshot where
  connected : Bool
  valid : Bool
  altitudeM : ℚ
  speedMs : ℚ
  climbMs : ℚ
  batteryPct : ℚ
  voltageV : ℚ
  satellites : UInt8
  gpsFix : UInt8
  gpsLock : String
  latitudeDeg : ℚ
  longitudeDeg : ℚ
  hdop : ℚ
  headingDeg : ℚ
  flightMode : String
  lastUpdate : ℕ
  deriving DecidableEq, Repr

def telemetryStaleAfter : ℤ := 5 * Clock.second

namespace TelemetryCache

variable (t : TelemetryCache)

def valid (now : ℕ) : Bool :=
  t.connected && !Clock.isZero t.lastUpdate && Clock.sub now t.lastUpdate ≤ telemetryStaleAfter

/-- What is not known, or not known any more, is zero. -/
def snapshot (now : ℕ) : TelemetrySnapshot :=
  let known := fun (has : Bool) (q : ℚ) ↦ if t.valid now && has then q else 0
  { connected := t.connected
    valid := t.valid now
    altitudeM := known t.hasAltitude t.altitudeM
    speedMs := known t.hasSpeed t.speedMs
    climbMs := known t.hasClimb t.climbMs
    batteryPct := known t.hasBattery t.batteryPct
    voltageV := known (0 < t.voltageV) t.voltageV
    satellites := t.satellites
    gpsFix := t.gpsFix
    gpsLock := if t.valid now then t.gpsLock else ""
    latitudeDeg := known t.hasPosition t.latitudeDeg
    longitudeDeg := known t.hasPosition t.longitudeDeg
    hdop := known (0 < t.hdop) t.hdop
    headingDeg := known t.hasHeading t.headingDeg
    flightMode := if t.valid now then t.flightMode else ""
    lastUpdate := t.lastUpdate }

end TelemetryCache

/-! ## Positions -/

/-- A message and when it is handled. -/
structure TelemetryEvent where
  now : ℕ
  msg : TelemetryMessage
  deriving DecidableEq, Repr

def telemetryMachine : Machine TelemetryCache TelemetryEvent where
  step t e := some (t.handle e.now e.msg)

namespace TelemetryMessage

/-- The coordinates of the two kinds of messages that have them. -/
def position? : TelemetryMessage → Option (Int32 × Int32)
  | globalPosition msg => some (msg.lat, msg.lon)
  | gpsRaw msg => some (msg.lat, msg.lon)
  | _ => none

/-- The pair of coordinates is the one of the message. -/
def gives (msg : TelemetryMessage) (latitudeDeg longitudeDeg : ℚ) : Bool :=
  match msg.position? with
  | some (lat, lon) => latitudeDeg = degrees lat && longitudeDeg = degrees lon
  | none => false

theorem gives_of_position {msg : TelemetryMessage} {lat lon : Int32} {latitudeDeg longitudeDeg : ℚ}
    (h : msg.position? = some (lat, lon)) (hlat : latitudeDeg = degrees lat)
    (hlon : longitudeDeg = degrees lon) : msg.gives latitudeDeg longitudeDeg = true := by
  simp [gives, h, hlat, hlon]

/-- A coordinate of zero comes with another one only while it is zero in the cache. -/
def FitsCache (t : TelemetryCache) (e : TelemetryEvent) : Prop :=
  match e.msg.position? with
  | some (lat, lon) =>
    (lat = 0 → lon ≠ 0 → t.latitudeDeg = 0) ∧ (lon = 0 → lat ≠ 0 → t.longitudeDeg = 0)
  | none => True

end TelemetryMessage

namespace TelemetryCache

variable {t : TelemetryCache}

/-- The cached position, and whether there is one. -/
def position (t : TelemetryCache) : ℚ × ℚ × Bool := (t.latitudeDeg, t.longitudeDeg, t.hasPosition)

section

variable (t : TelemetryCache)

theorem position_setAltitude (n : Int32) : (t.setAltitude n).position = t.position := by
  rw [setAltitude]
  split_ifs <;> rfl

theorem position_setClimb (n : Int16) : (t.setClimb n).position = t.position := by
  rw [setClimb]
  split_ifs <;> rfl

theorem position_setHeading (n : UInt16) : (t.setHeading n).position = t.position := by
  rw [setHeading]
  split_ifs <;> rfl

theorem position_setHdop (n : UInt16) : (t.setHdop n).position = t.position := by
  rw [setHdop]
  split_ifs <;> rfl

theorem position_setVoltage (n : UInt16) : (t.setVoltage n).position = t.position := by
  rw [setVoltage]
  split_ifs <;> rfl

theorem position_setBattery (n : Int8) : (t.setBattery n).position = t.position := by
  rw [setBattery]
  split_ifs <;> rfl

/-- What a message with coordinates makes of a cached position. -/
def placed (lat lon : Int32) : ℚ × ℚ × Bool → ℚ × ℚ × Bool
  | (latitudeDeg, longitudeDeg, hasPosition) =>
    (if lat ≠ 0 then degrees lat else latitudeDeg, if lon ≠ 0 then degrees lon else longitudeDeg,
      decide (lat ≠ 0) || decide (lon ≠ 0) || hasPosition)

theorem position_setPosition (lat lon : Int32) :
    (t.setPosition lat lon).position = placed lat lon t.position := by
  rw [setPosition]
  split_ifs <;> simp_all [position, placed]

theorem position_handle (now : ℕ) (msg : TelemetryMessage) :
    (t.handle now msg).position =
      match msg.position? with
      | some (lat, lon) => placed lat lon t.position
      | none => t.position := by
  cases msg with
  | heartbeat msg => rfl
  | vfrHud msg => rfl
  | globalPosition msg =>
    change (setHeading _ _).position = placed _ _ _
    rw [position_setHeading, position_setPosition, position_setClimb, position_setAltitude]
    rfl
  | gpsRaw msg =>
    change (setHeading _ _).position = placed _ _ _
    rw [position_setHeading, position_setHdop, position_setPosition]
    rfl
  | sysStatus msg =>
    change (setBattery _ _).position = t.position
    rw [position_setBattery, position_setVoltage]
    rfl

end

/-- The cached pair is that of one message seen so far. -/
def PositionFrom (events : List TelemetryEvent) (t : TelemetryCache) : Prop :=
  t.hasPosition = true → ∃ e ∈ events, e.msg.gives t.latitudeDeg t.longitudeDeg = true

/-- A cache with the same position has it from the same message. -/
theorem PositionFrom.of_position_eq {events : List TelemetryEvent} {t' : TelemetryCache}
    (h : PositionFrom events t) (heq : t'.position = t.position) (e : TelemetryEvent) :
    PositionFrom (events ++ [e]) t' := by
  obtain ⟨hlat, hlon, hhas⟩ : t'.latitudeDeg = t.latitudeDeg ∧ t'.longitudeDeg = t.longitudeDeg ∧
      t'.hasPosition = t.hasPosition := by simpa [position] using heq
  intro hpos
  obtain ⟨f, hf, hgives⟩ := h (hhas ▸ hpos)
  rw [← hlat, ← hlon] at hgives
  exact ⟨f, List.mem_append_left [e] hf, hgives⟩

/-- **A message that fits the cache keeps the pair together.** -/
theorem positionFrom_handle {events : List TelemetryEvent} {e : TelemetryEvent}
    (h : PositionFrom events t) (hfits : TelemetryMessage.FitsCache t e) :
    PositionFrom (events ++ [e]) (t.handle e.now e.msg) := by
  have hposition := position_handle t e.now e.msg
  cases hmsg : e.msg.position? with
  | none =>
    rw [hmsg] at hposition
    exact h.of_position_eq hposition e
  | some p =>
    obtain ⟨lat, lon⟩ := p
    rw [TelemetryMessage.FitsCache, hmsg] at hfits
    rw [hmsg] at hposition
    by_cases hzero : lat = 0 ∧ lon = 0
    · refine h.of_position_eq (hposition.trans ?_) e
      simp [placed, position, hzero]
    · -- the message itself is the one, with a zero from the cache where it has one
      have hlat : (t.handle e.now e.msg).latitudeDeg =
          if lat ≠ 0 then degrees lat else t.latitudeDeg := congrArg Prod.fst hposition
      have hlon : (t.handle e.now e.msg).longitudeDeg =
          if lon ≠ 0 then degrees lon else t.longitudeDeg := congrArg (·.2.1) hposition
      refine fun _ ↦ ⟨e, List.mem_append_right events List.mem_cons_self, ?_⟩
      refine TelemetryMessage.gives_of_position hmsg (hlat.trans ?_) (hlon.trans ?_)
      · split_ifs with hl
        · rfl
        · have hl : lat = 0 := not_not.mp hl
          rw [hl, degrees_zero]
          exact hfits.1 hl fun hlon ↦ hzero ⟨hl, hlon⟩
      · split_ifs with hl
        · rfl
        · have hl : lon = 0 := not_not.mp hl
          rw [hl, degrees_zero]
          exact hfits.2 hl fun hlat ↦ hzero ⟨hlat, hl⟩

end TelemetryCache

/-- **A position that is shown is that of one message**, in every run all of whose messages fit the
cache. -/
theorem snapshot_position_from {events : List TelemetryEvent} {t : TelemetryCache} {now : ℕ}
    (hrun : telemetryMachine.run .zero events = some t)
    (hfits : telemetryMachine.Along TelemetryMessage.FitsCache .zero events)
    (hvalid : t.valid now = true) (hpos : t.hasPosition = true) :
    ∃ e ∈ events,
      e.msg.gives (t.snapshot now).latitudeDeg (t.snapshot now).longitudeDeg = true := by
  have hfrom : t.PositionFrom events := by
    refine Machine.history_along ?_ ?_ hfits hrun
    · exact fun hzero ↦ absurd hzero Bool.false_ne_true
    · intro events t e t' h hfits hstep
      rw [← Option.some.inj hstep]
      exact TelemetryCache.positionFrom_handle h hfits
  have hlat : (t.snapshot now).latitudeDeg = t.latitudeDeg := by
    simp [TelemetryCache.snapshot, hvalid, hpos]
  have hlon : (t.snapshot now).longitudeDeg = t.longitudeDeg := by
    simp [TelemetryCache.snapshot, hvalid, hpos]
  rw [hlat, hlon]
  exact hfrom hpos

/-- A `GPS_RAW_INT` with a position, and nothing else to show. -/
def gpsAt (now : ℕ) (lat lon : Int32) : TelemetryEvent := ⟨now, .gpsRaw ⟨3, lat, lon, 0, 65535, 9⟩⟩

theorem snapshot_position_from_two :
    ∃ t, telemetryMachine.run .zero [gpsAt 1 210000000 1058000000, gpsAt 2 0 0] = some t ∧
      t.valid 3 = true ∧ t.hasPosition = true ∧
      ∃ e ∈ [gpsAt 1 210000000 1058000000, gpsAt 2 0 0],
        e.msg.gives (t.snapshot 3).latitudeDeg (t.snapshot 3).longitudeDeg = true := by
  have hfirst : TelemetryMessage.FitsCache .zero (gpsAt 1 210000000 1058000000) :=
    ⟨fun _ _ ↦ rfl, fun _ _ ↦ rfl⟩
  have hsecond : ∀ t, TelemetryMessage.FitsCache t (gpsAt 2 0 0) :=
    fun t ↦ ⟨fun _ hlon ↦ absurd rfl hlon, fun _ hlat ↦ absurd rfl hlat⟩
  refine ⟨_, rfl, rfl, rfl, snapshot_position_from rfl ?_ rfl rfl⟩
  exact ⟨hfirst, fun t _ ↦ ⟨hsecond t, fun _ _ ↦ trivial⟩⟩

/-- A second message on the prime meridian: its latitude is shown with the longitude of the first
one. -/
theorem snapshot_position_mixed :
    ∃ t, telemetryMachine.run .zero [gpsAt 1 210000000 1058000000, gpsAt 2 510000000 0] = some t ∧
      t.valid 3 = true ∧ t.hasPosition = true ∧
      ∀ e ∈ [gpsAt 1 210000000 1058000000, gpsAt 2 510000000 0],
        e.msg.gives (t.snapshot 3).latitudeDeg (t.snapshot 3).longitudeDeg = false := by
  refine ⟨_, rfl, rfl, rfl, ?_⟩
  decide +kernel

end DroneBridge
