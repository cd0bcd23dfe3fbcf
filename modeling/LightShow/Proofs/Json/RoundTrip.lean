import LightShow.Bridge.BodyJson
import LightShow.Light.Map
import LightShow.Light.UpdateJson
import LightShow.Proofs.Json.Loosening
import LightShow.Settings.Json

/-!
# Records read back what they wrote

Updates, frames, light maps, bodies and the settings of both transports are written as records and
read back, from the document that was written and from every looser one. For each kind the shape
says which names it knows and which of them may be null. A kind is read back field by field
(`readsAs_ofJson?` of each kind), and a list of a kind by the law of its items.
-/

set_option autoImplicit false

namespace LightShow

namespace JsonValue

/-! ### Written values -/

theorem intIn?_int {low high value : Int} (hlow : low ≤ value) (hhigh : value ≤ high) :
    intIn? low high (.int value) = some value :=
  if_pos ⟨hlow, hhigh⟩

theorem intIn?_natCast {α : Type} (ofNat : Nat → α) {size value : Nat} (hlt : value < size) :
    (intIn? 0 (size - 1) (.int value)).map (fun n ↦ ofNat n.toNat) = some (ofNat value) := by
  rw [intIn?_int (by omega) (by omega), Option.map_some, Int.toNat_natCast]

theorem readsAs_text (value : String) : ReadsAs .plain text? (.text value) value :=
  readsAs_plain rfl

theorem readsAs_float {value : Float} (hfinite : value.isFinite = true) :
    ReadsAs .plain float? (.float value) value :=
  readsAs_plain (if_pos hfinite)

theorem readsAs_int32 (value : Int32) : ReadsAs .plain int32? (.int value.toInt) value := by
  refine readsAs_plain ?_
  rw [int32?, intIn?_int value.minValue_le_toInt value.toInt_le, Option.map_some, Int32.ofInt_toInt]

theorem readsAs_uint8 (value : UInt8) : ReadsAs .plain uint8? (.int value.toNat) value :=
  readsAs_plain <|
    (intIn?_natCast UInt8.ofNat value.toNat_lt).trans (congrArg some UInt8.ofNat_toNat)

theorem readsAs_uint16 (value : UInt16) : ReadsAs .plain uint16? (.int value.toNat) value :=
  readsAs_plain <|
    (intIn?_natCast UInt16.ofNat value.toNat_lt).trans (congrArg some UInt16.ofNat_toNat)

theorem readsAs_uint32 (value : UInt32) : ReadsAs .plain uint32? (.int value.toNat) value :=
  readsAs_plain <|
    (intIn?_natCast UInt32.ofNat value.toNat_lt).trans (congrArg some UInt32.ofNat_toNat)

theorem readsAs_uint64 (value : UInt64) : ReadsAs .plain uint64? (.int value.toNat) value :=
  readsAs_plain <|
    (intIn?_natCast UInt64.ofNat value.toNat_lt).trans (congrArg some UInt64.ofNat_toNat)

end JsonValue

/-! ### Updates and frames -/

open JsonValue JsonRecord

namespace Update

/-- All numbers of an update are finite. -/
def IsFinite (update : Update Float) : Prop :=
  (∀ hue ∈ update.hue, hue.isFinite = true) ∧
    ∀ saturation ∈ update.saturation, saturation.isFinite = true

/-- An update has a light, and all else may be missing. -/
def shape : JsonShape :=
  .record ["lightId", "brightness", "hue", "saturation", "transitionTime"]
    ["brightness", "hue", "saturation", "transitionTime"] fun _ ↦ .plain

theorem toJson_eq_written (update : Update Float) :
    update.toJson = .object (written
      [("lightId", some (.text update.light)),
        ("brightness", update.brightness.map fun b ↦ .int b.toInt),
        ("hue", update.hue.map .float),
        ("saturation", update.saturation.map .float),
        ("transitionTime", update.transition.map fun t ↦ .int t.toInt)]) := by
  simp [toJson, written, optionalField]

theorem readsAs_ofJson? {update : Update Float} (hfinite : update.IsFinite) :
    ReadsAs shape ofJson? update.toJson update := by
  intro json hloose
  obtain ⟨record, hrecord, hslots⟩ :=
    hloose.exists_record update.toJson_eq_written rfl (by decide)
  simp only [List.forall_mem_cons] at hslots
  obtain ⟨hlight, hbrightness, hhue, hsaturation, htransition, -⟩ := hslots
  refine Option.bind_eq_some_iff.mpr ⟨record, hrecord, ?_⟩
  refine Option.bind_eq_some_iff.mpr ⟨_, required_of_slot hlight (readsAs_text _), ?_⟩
  refine Option.bind_eq_some_iff.mpr ⟨_, optional_of_slot hbrightness rfl ?_, ?_⟩
  · exact fun brightness _ ↦ readsAs_int32 brightness
  refine Option.bind_eq_some_iff.mpr ⟨_, optional_of_slot hhue rfl ?_, ?_⟩
  · exact fun hue hmem ↦ readsAs_float (hfinite.1 hue hmem)
  refine Option.bind_eq_some_iff.mpr ⟨_, optional_of_slot hsaturation rfl ?_, ?_⟩
  · exact fun saturation hmem ↦ readsAs_float (hfinite.2 saturation hmem)
  refine Option.bind_eq_some_iff.mpr ⟨_, optional_of_slot htransition rfl ?_, rfl⟩
  exact fun transition _ ↦ readsAs_int32 transition

end Update

namespace Frame

/-- All numbers of a frame are finite. -/
def IsFinite (frame : Frame Float) : Prop :=
  ∀ update ∈ frame.updates, update.IsFinite

/-- A frame has its updates and a time, and may have a number. -/
def shape : JsonShape :=
  .record ["updates", "timestamp", "sequence"] ["sequence"] fun name ↦
    if name = "updates" then .list Update.shape else .plain

theorem toJson_eq_written (frame : Frame Float) :
    frame.toJson = .object (written
      [("updates", some (.array (frame.updates.map Update.toJson))),
        ("timestamp", some (.int frame.timestamp.toNat)),
        ("sequence", frame.sequence.map fun n ↦ .int n.toNat)]) := by
  simp [toJson, written, optionalField]

theorem readsAs_ofJson? {frame : Frame Float} (hfinite : frame.IsFinite) :
    ReadsAs shape ofJson? frame.toJson frame := by
  intro json hloose
  obtain ⟨record, hrecord, hslots⟩ :=
    hloose.exists_record frame.toJson_eq_written rfl (by decide)
  simp only [List.forall_mem_cons] at hslots
  obtain ⟨hupdates, htimestamp, hsequence, -⟩ := hslots
  refine Option.bind_eq_some_iff.mpr ⟨record, hrecord, ?_⟩
  refine Option.bind_eq_some_iff.mpr ⟨_, required_of_slot hupdates (readsAs_list ?_), ?_⟩
  · exact fun update hmem ↦ Update.readsAs_ofJson? (hfinite update hmem)
  refine Option.bind_eq_some_iff.mpr ⟨_, required_of_slot htimestamp (readsAs_uint64 _), ?_⟩
  refine Option.bind_eq_some_iff.mpr ⟨_, optional_of_slot hsequence rfl ?_, rfl⟩
  exact fun sequence _ ↦ readsAs_uint32 sequence

end Frame

/-! ### Light maps -/

namespace BridgeEntry

/-- A bridge has an id and may have an address. -/
def shape : JsonShape :=
  .record ["id", "ip"] ["ip"] fun _ ↦ .plain

theorem toJson_eq_written (entry : BridgeEntry) :
    entry.toJson =
      .object (written [("id", some (.text entry.id)), ("ip", entry.ip.map .text)]) := by
  simp [toJson, written, optionalField]

theorem readsAs_ofJson? (entry : BridgeEntry) : ReadsAs shape ofJson? entry.toJson entry := by
  intro json hloose
  obtain ⟨record, hrecord, hslots⟩ :=
    hloose.exists_record entry.toJson_eq_written rfl (by decide)
  simp only [List.forall_mem_cons] at hslots
  obtain ⟨hid, hip, -⟩ := hslots
  refine Option.bind_eq_some_iff.mpr ⟨record, hrecord, ?_⟩
  refine Option.bind_eq_some_iff.mpr ⟨_, required_of_slot hid (readsAs_text _), ?_⟩
  refine Option.bind_eq_some_iff.mpr ⟨_, optional_of_slot hip rfl ?_, rfl⟩
  exact fun ip _ ↦ readsAs_text ip

end BridgeEntry

namespace LightEntry

/-- The place of a light is finite. -/
def IsFinite (entry : LightEntry) : Prop :=
  (∀ x ∈ entry.x, x.isFinite = true) ∧ ∀ y ∈ entry.y, y.isFinite = true

/-- A light has an id and a transport, and all else may be missing. -/
def shape : JsonShape :=
  .record ["id", "controlType", "x", "y", "bridgeId", "name"] ["x", "y", "bridgeId", "name"]
    fun _ ↦ .plain

theorem toJson_eq_written (entry : LightEntry) :
    entry.toJson = .object (written
      [("id", some (.text entry.id)), ("controlType", some (.text entry.controlType)),
        ("x", entry.x.map .float), ("y", entry.y.map .float),
        ("bridgeId", entry.bridgeId.map .text), ("name", entry.name.map .text)]) := by
  simp [toJson, written, optionalField]

theorem readsAs_ofJson? {entry : LightEntry} (hfinite : entry.IsFinite) :
    ReadsAs shape ofJson? entry.toJson entry := by
  intro json hloose
  obtain ⟨record, hrecord, hslots⟩ :=
    hloose.exists_record entry.toJson_eq_written rfl (by decide)
  simp only [List.forall_mem_cons] at hslots
  obtain ⟨hid, hcontrolType, hx, hy, hbridgeId, hname, -⟩ := hslots
  refine Option.bind_eq_some_iff.mpr ⟨record, hrecord, ?_⟩
  refine Option.bind_eq_some_iff.mpr ⟨_, required_of_slot hid (readsAs_text _), ?_⟩
  refine Option.bind_eq_some_iff.mpr ⟨_, withDefault_of_slot hcontrolType (readsAs_text _) _, ?_⟩
  refine Option.bind_eq_some_iff.mpr ⟨_, optional_of_slot hx rfl ?_, ?_⟩
  · exact fun x hmem ↦ readsAs_float (hfinite.1 x hmem)
  refine Option.bind_eq_some_iff.mpr ⟨_, optional_of_slot hy rfl ?_, ?_⟩
  · exact fun y hmem ↦ readsAs_float (hfinite.2 y hmem)
  refine Option.bind_eq_some_iff.mpr ⟨_, optional_of_slot hbridgeId rfl ?_, ?_⟩
  · exact fun bridgeId _ ↦ readsAs_text bridgeId
  refine Option.bind_eq_some_iff.mpr ⟨_, optional_of_slot hname rfl ?_, rfl⟩
  exact fun name _ ↦ readsAs_text name

end LightEntry

namespace LightMap

/-- The places of all lights are finite. -/
def IsFinite (map : LightMap) : Prop :=
  ∀ entry ∈ map.lights, entry.IsFinite

/-- A light map lists bridges and lights. -/
def shape : JsonShape :=
  .record ["bridges", "lights"] [] fun name ↦
    if name = "bridges" then .list BridgeEntry.shape
    else if name = "lights" then .list LightEntry.shape
    else .plain

theorem toJson_eq_written (map : LightMap) :
    map.toJson = .object (written
      [("bridges", some (.array (map.bridges.map BridgeEntry.toJson))),
        ("lights", some (.array (map.lights.map LightEntry.toJson)))]) :=
  rfl

theorem readsAs_ofJson? {map : LightMap} (hfinite : map.IsFinite) :
    ReadsAs shape ofJson? map.toJson map := by
  intro json hloose
  obtain ⟨record, hrecord, hslots⟩ :=
    hloose.exists_record map.toJson_eq_written rfl (by decide)
  simp only [List.forall_mem_cons] at hslots
  obtain ⟨hbridges, hlights, -⟩ := hslots
  refine Option.bind_eq_some_iff.mpr ⟨record, hrecord, ?_⟩
  refine Option.bind_eq_some_iff.mpr ⟨_, withDefault_of_slot hbridges (readsAs_list ?_) _, ?_⟩
  · exact fun entry _ ↦ entry.readsAs_ofJson?
  refine Option.bind_eq_some_iff.mpr ⟨_, withDefault_of_slot hlights (readsAs_list ?_) _, rfl⟩
  exact fun entry hmem ↦ LightEntry.readsAs_ofJson? (hfinite entry hmem)

end LightMap

/-! ### Bodies -/

namespace Body

/-- All of a body may be missing. -/
def shape : JsonShape :=
  .record ["bri", "hue", "sat", "transitiontime"] ["bri", "hue", "sat", "transitiontime"]
    fun _ ↦ .plain

theorem toJson_eq_written (body : Body) :
    body.toJson = .object (written
      [("bri", body.bri.map fun b ↦ .int b.toNat), ("hue", body.hue.map fun h ↦ .int h.toNat),
        ("sat", body.sat.map fun s ↦ .int s.toNat),
        ("transitiontime", body.transition.map fun t ↦ .int t.toInt)]) := by
  simp [toJson, written, optionalField]

theorem readsAs_ofJson? (body : Body) : ReadsAs shape ofJson? body.toJson body := by
  intro json hloose
  obtain ⟨record, hrecord, hslots⟩ :=
    hloose.exists_record body.toJson_eq_written rfl (by decide)
  simp only [List.forall_mem_cons] at hslots
  obtain ⟨hbri, hhue, hsat, htransition, -⟩ := hslots
  refine Option.bind_eq_some_iff.mpr ⟨record, hrecord, ?_⟩
  refine Option.bind_eq_some_iff.mpr ⟨_, optionalName_of_slot hbri rfl ?_, ?_⟩
  · exact fun bri _ ↦ readsAs_uint8 bri
  refine Option.bind_eq_some_iff.mpr ⟨_, optionalName_of_slot hhue rfl ?_, ?_⟩
  · exact fun hue _ ↦ readsAs_uint16 hue
  refine Option.bind_eq_some_iff.mpr ⟨_, optionalName_of_slot hsat rfl ?_, ?_⟩
  · exact fun sat _ ↦ readsAs_uint8 sat
  refine Option.bind_eq_some_iff.mpr ⟨_, optionalName_of_slot htransition rfl ?_, rfl⟩
  exact fun transition _ ↦ readsAs_int32 transition

end Body

/-! ### Settings -/

namespace StreamSettings

/-- The settings of a stream have usual values, but none is null. -/
def shape : JsonShape :=
  .record ["target_host", "target_port"] [] fun _ ↦ .plain

theorem toJson_eq_written (settings : StreamSettings) :
    settings.toJson = .object (written
      [("target_host", some (.text settings.targetHost)),
        ("target_port", some (.int settings.targetPort.toNat))]) :=
  rfl

theorem readsAs_ofJson? (settings : StreamSettings) :
    ReadsAs shape ofJson? settings.toJson settings := by
  intro json hloose
  obtain ⟨record, hrecord, hslots⟩ :=
    hloose.exists_record settings.toJson_eq_written rfl (by decide)
  simp only [List.forall_mem_cons] at hslots
  obtain ⟨htargetHost, htargetPort, -⟩ := hslots
  refine Option.bind_eq_some_iff.mpr ⟨record, hrecord, ?_⟩
  refine Option.bind_eq_some_iff.mpr ⟨_, withDefault_of_slot htargetHost (readsAs_text _) _, ?_⟩
  exact Option.bind_eq_some_iff.mpr ⟨_, withDefault_of_slot htargetPort (readsAs_uint16 _) _, rfl⟩

end StreamSettings

namespace BridgeSettings

/-- The settings of a bridge have usual values, but none is null. -/
def shape : JsonShape :=
  .record ["bridge_host", "api_key", "batch_window_ms", "requests_per_second"] [] fun _ ↦ .plain

theorem toJson_eq_written (settings : BridgeSettings) :
    settings.toJson = .object (written
      [("bridge_host", some (.text settings.bridgeHost)),
        ("api_key", some (.text settings.apiKey)),
        ("batch_window_ms", some (.int settings.batchWindow.toNat)),
        ("requests_per_second", some (.float settings.requestsPerSecond))]) :=
  rfl

theorem readsAs_ofJson? {settings : BridgeSettings}
    (hfinite : settings.requestsPerSecond.isFinite = true) :
    ReadsAs shape ofJson? settings.toJson settings := by
  intro json hloose
  obtain ⟨record, hrecord, hslots⟩ :=
    hloose.exists_record settings.toJson_eq_written rfl (by decide)
  simp only [List.forall_mem_cons] at hslots
  obtain ⟨hbridgeHost, hapiKey, hbatchWindow, hrequestsPerSecond, -⟩ := hslots
  refine Option.bind_eq_some_iff.mpr ⟨record, hrecord, ?_⟩
  refine Option.bind_eq_some_iff.mpr ⟨_, withDefault_of_slot hbridgeHost (readsAs_text _) _, ?_⟩
  refine Option.bind_eq_some_iff.mpr ⟨_, withDefault_of_slot hapiKey (readsAs_text _) _, ?_⟩
  refine Option.bind_eq_some_iff.mpr ⟨_, withDefault_of_slot hbatchWindow (readsAs_uint64 _) _, ?_⟩
  exact Option.bind_eq_some_iff.mpr
    ⟨_, withDefault_of_slot hrequestsPerSecond (readsAs_float hfinite) _, rfl⟩

end BridgeSettings

/-! ### All kinds -/

/-- What is written with finite numbers is read back, from the document as it is written and from
every document in which fields stand in another order, unknown names are added at any level or
missing fields are null. -/
theorem records_read_back :
    (∀ (update : Update Float) (json : JsonValue), update.IsFinite →
      Loosened Update.shape update.toJson json → Update.ofJson? json = some update) ∧
    (∀ (frame : Frame Float) (json : JsonValue), frame.IsFinite →
      Loosened Frame.shape frame.toJson json → Frame.ofJson? json = some frame) ∧
    (∀ (map : LightMap) (json : JsonValue), map.IsFinite →
      Loosened LightMap.shape map.toJson json → LightMap.ofJson? json = some map) ∧
    (∀ (body : Body) (json : JsonValue),
      Loosened Body.shape body.toJson json → Body.ofJson? json = some body) ∧
    (∀ (settings : StreamSettings) (json : JsonValue),
      Loosened StreamSettings.shape settings.toJson json →
        StreamSettings.ofJson? json = some settings) ∧
    (∀ (settings : BridgeSettings) (json : JsonValue),
      settings.requestsPerSecond.isFinite = true →
        Loosened BridgeSettings.shape settings.toJson json →
          BridgeSettings.ofJson? json = some settings) := by
  refine ⟨?_, ?_, ?_, ?_, ?_, ?_⟩
  · exact fun update json hfinite hloose ↦ Update.readsAs_ofJson? hfinite hloose
  · exact fun frame json hfinite hloose ↦ Frame.readsAs_ofJson? hfinite hloose
  · exact fun map json hfinite hloose ↦ LightMap.readsAs_ofJson? hfinite hloose
  · exact fun body json hloose ↦ body.readsAs_ofJson? hloose
  · exact fun settings json hloose ↦ settings.readsAs_ofJson? hloose
  · exact fun settings json hfinite hloose ↦ BridgeSettings.readsAs_ofJson? hfinite hloose

/-- A light on a bridge. -/
def deskMap : LightMap where
  bridges := [{ id := "b1" }]
  lights := [{ id := "desk", controlType := "LOW_HTTP", y := some 0.5, bridgeId := some "b1" }]

/-- The map of `deskMap` as another program might write it. -/
def looseDeskMap : JsonValue :=
  .object [
    ("lights", .array [.object [
      ("bridgeId", .text "b1"), ("y", .float 0.5), ("controlType", .text "LOW_HTTP"),
      ("id", .text "desk"), ("name", .null), ("control_type", .array [])]]),
    ("bridges", .array [.object [("ip", .null), ("id", .text "b1")]]),
    ("version", .int 2)]

/-- A map with null, unknown names and another order on both of its levels. -/
theorem records_read_back_desk :
    deskMap.IsFinite ∧ Loosened LightMap.shape deskMap.toJson looseDeskMap ∧
      LightMap.ofJson? looseDeskMap = some deskMap := by
  have hfinite : deskMap.IsFinite := by
    intro entry hentry
    obtain rfl := List.mem_singleton.mp hentry
    refine ⟨fun x hx ↦ (Option.not_mem_none x hx).elim, fun y hy ↦ ?_⟩
    obtain rfl := Option.some.inj hy
    decide +kernel
  have hbridge : Loosened BridgeEntry.shape (.object [("id", .text "b1")])
      (.object [("ip", .null), ("id", .text "b1")]) :=
    .null "ip" (by decide) (by decide)
  have hlight : Loosened LightEntry.shape
      (.object [("id", .text "desk"), ("controlType", .text "LOW_HTTP"), ("y", .float 0.5),
        ("bridgeId", .text "b1")])
      (.object [("bridgeId", .text "b1"), ("y", .float 0.5), ("controlType", .text "LOW_HTTP"),
        ("id", .text "desk"), ("name", .null), ("control_type", .array [])]) := by
    refine .trans (.null "name" (by decide) (by decide)) ?_
    refine .trans (.unknown _ "control_type" (.array []) (by decide)) ?_
    exact .permuted (List.reverse_perm _).symm
  have hloose : Loosened LightMap.shape deskMap.toJson looseDeskMap := by
    refine .trans (.field [] _ (.item [] [] hbridge)) ?_
    refine .trans (.field [_] [] (.item [] [] hlight)) ?_
    refine .trans (.unknown _ "version" (.int 2) (by decide)) ?_
    exact .permuted (List.reverse_perm _).symm
  exact ⟨hfinite, hloose, records_read_back.2.2.1 _ _ hfinite hloose⟩

end LightShow
