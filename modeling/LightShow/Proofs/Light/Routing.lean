import LightShow.Light.Router
import Mathlib.Data.List.Induction

/-!
# Routing is a partition by the last entries that count

Two things are decided by what comes last. Of the light maps that a router is told to load, the last
one that could be read gives its table (`routes_loadAll`). Of the entries of a light in that
map, the last one with a known transport gives the transport of the light, and an entry with none is
as good as absent (`get?_routes_iff`). Both are stated with `IsLast`, and both follow by going
through the list from its end.

The updates of a frame are then dealt out one after another by the transports of their lights
(`Dealt`), so that each share has the order and the repetitions of the frame (`dealt_share`).
-/

set_option autoImplicit false

namespace LightShow

/-- An item of a list is the last one with a property. -/
def IsLast {β : Type} (property : β → Prop) (items : List β) (item : β) : Prop :=
  ∃ before after, items = before ++ item :: after ∧ property item ∧
    ∀ later ∈ after, ¬ property later

theorem not_isLast_nil {β : Type} (property : β → Prop) (item : β) :
    ¬ IsLast property [] item := by
  rintro ⟨before, after, hitems, -⟩
  simp at hitems

/-- One more item at the end is the last one with the property if it has it, and changes nothing
otherwise. -/
theorem isLast_concat {β : Type} {property : β → Prop} {items : List β} {next item : β} :
    IsLast property (items ++ [next]) item ↔
      property next ∧ item = next ∨ ¬ property next ∧ IsLast property items item := by
  constructor
  · rintro ⟨before, after, hitems, hitem, hafter⟩
    rcases List.eq_nil_or_concat after with rfl | ⟨rest, last, rfl⟩
    · obtain ⟨-, hlast⟩ := List.append_inj' hitems rfl
      obtain rfl : next = item := List.singleton_inj.mp hlast
      exact .inl ⟨hitem, rfl⟩
    · rw [List.concat_eq_append] at hitems hafter
      rw [← List.cons_append, ← List.append_assoc] at hitems
      obtain ⟨hbefore, hlast⟩ := List.append_inj' hitems rfl
      obtain rfl : next = last := List.singleton_inj.mp hlast
      refine .inr ⟨hafter next (by simp), before, rest, hbefore, hitem, fun later hlater ↦ ?_⟩
      exact hafter later (by simp [hlater])
  · rintro (⟨hnext, rfl⟩ | ⟨hnext, before, after, rfl, hitem, hafter⟩)
    · exact ⟨items, [], rfl, hnext, by simp⟩
    · refine ⟨before, after ++ [next], by simp, hitem, fun later hlater ↦ ?_⟩
      rcases List.mem_append.mp hlater with hmem | hmem
      · exact hafter later hmem
      · rw [List.mem_singleton.mp hmem]
        exact hnext

/-! ### Light maps -/

theorem Transport.ofName?_eq_some_iff {name : String} {transport : Transport} :
    Transport.ofName? name = some transport ↔ name = transport.name := by
  unfold Transport.ofName?
  cases transport with
  | stream =>
    split_ifs with hstream hbridge
    · simpa using hstream
    · simp [hstream]
    · simp [hstream]
  | bridge =>
    split_ifs with hstream hbridge
    · simp [hstream, Transport.name]
    · simpa using hbridge
    · simp [hbridge]

/-- An entry of a light that says by which transport it is driven. -/
def LightEntry.Drives (light : String) (entry : LightEntry) : Prop :=
  entry.id = light ∧ ∃ transport : Transport, entry.controlType = transport.name

/-- An entry for which no transport is given drives no light. -/
theorem LightEntry.not_drives_of_missing {value : JsonValue} {record : JsonRecord}
    (hrecord : value.record? LightEntry.jsonNames = some record)
    (hmissing : ∀ given, record "controlType" ≠ .given given) {entry : LightEntry}
    (hentry : LightEntry.ofJson? value = some entry) (light : String) :
    ¬ entry.Drives light := by
  have habsent : record.withDefault "controlType" JsonValue.text? "" = some "" := by
    unfold JsonRecord.withDefault
    split
    next given hgiven => exact absurd hgiven (hmissing given)
    next => rfl
  have hname : entry.controlType = "" := by
    simp only [LightEntry.ofJson?, hrecord, habsent, Option.bind_eq_bind, Option.bind_some,
      Option.pure_def, Option.bind_eq_some_iff] at hentry
    obtain ⟨id, -, x, -, y, -, bridgeId, -, name, -, hentry⟩ := hentry
    rw [← Option.some.inj hentry]
  rintro ⟨-, transport, htransport⟩
  rw [hname] at htransport
  cases transport <;> exact absurd htransport (by decide)

namespace LightMap

/-- An entry counts for its own light and only if its transport is known. -/
theorem get?_enter (table : LightTable Transport) (entry : LightEntry) (light : String) :
    (enter table entry).get? light =
      if entry.id = light then (Transport.ofName? entry.controlType).or (table.get? light)
      else table.get? light := by
  unfold enter
  cases Transport.ofName? entry.controlType with
  | none => simp
  | some transport =>
    by_cases hlight : entry.id = light
    · simp [← hlight]
    · simp [hlight, LightTable.get?_insert_of_ne table transport (Ne.symm hlight)]

/-- The transport of a light is that of the last entry that drives it. -/
theorem get?_routes_iff {map : LightMap} {light : String} {transport : Transport} :
    map.routes.get? light = some transport ↔
      ∃ entry, IsLast (LightEntry.Drives light) map.lights entry ∧
        entry.controlType = transport.name := by
  obtain ⟨bridges, lights⟩ := map
  simp only [routes]
  induction lights using List.reverseRecOn with
  | nil => simp [not_isLast_nil]
  | append_singleton earlier entry ih =>
    rw [List.foldl_append, List.foldl_cons, List.foldl_nil, get?_enter]
    simp only [isLast_concat]
    by_cases hlight : entry.id = light
    · rw [if_pos hlight]
      cases hname : Transport.ofName? entry.controlType with
      | none =>
        have hpassed : ¬ entry.Drives light := by
          rintro ⟨-, other, hother⟩
          simp [Transport.ofName?_eq_some_iff.mpr hother] at hname
        simpa [hpassed] using ih
      | some other =>
        have hdrives : entry.Drives light :=
          ⟨hlight, other, Transport.ofName?_eq_some_iff.mp hname⟩
        simp [hdrives, ← Transport.ofName?_eq_some_iff, hname]
    · have hpassed : ¬ entry.Drives light := fun hdrives ↦ hlight hdrives.1
      simpa [hlight, hpassed] using ih

end LightMap

/-! ### Loading -/

/-- Where a light map may come from. -/
inductive MapSource where
  | text (written : String)
  /-- A file, by its content and the name that errors show. -/
  | file (shown : String) (content : FileContent)

namespace MapSource

/-- The light map, if it can be read. -/
def map : MapSource → Except LoadError LightMap
  | .text written => LightMap.ofText written
  | .file shown content => LightMap.ofFile shown content

/-- The light map can be read. -/
def Legible (source : MapSource) : Prop :=
  ∃ map, source.map = .ok map

end MapSource

namespace Router

/-- Loads light maps one after another. -/
def loadAll (router : Router) (sources : List MapSource) : Router :=
  sources.foldl (fun router source ↦ (router.adopt source.map).1) router

/-- Loading touches nothing but the table. -/
theorem sinks_loadAll (router : Router) (sources : List MapSource) :
    (router.loadAll sources).streams = router.streams ∧
      (router.loadAll sources).bridges = router.bridges := by
  unfold loadAll
  induction sources generalizing router with
  | nil => exact ⟨rfl, rfl⟩
  | cons source rest ih =>
    obtain ⟨hstreams, hbridges⟩ := ih (router.adopt source.map).1
    rw [List.foldl_cons, hstreams, hbridges]
    cases source.map <;> exact ⟨rfl, rfl⟩

/-- The table is that of the last light map that could be read, and as before if there was none. -/
theorem routes_loadAll (router : Router) (sources : List MapSource) :
    (∀ source, IsLast MapSource.Legible sources source → ∀ map, source.map = .ok map →
      (router.loadAll sources).routes = map.routes) ∧
    ((∀ source ∈ sources, ¬ source.Legible) → (router.loadAll sources).routes = router.routes) := by
  unfold loadAll
  induction sources using List.reverseRecOn with
  | nil => exact ⟨fun source hlast ↦ absurd hlast (not_isLast_nil _ source), fun _ ↦ rfl⟩
  | append_singleton earlier next ih =>
    obtain ⟨hloaded, hunloaded⟩ := ih
    rw [List.foldl_append, List.foldl_cons, List.foldl_nil]
    cases hnext : next.map with
    | ok map =>
      have hlegible : next.Legible := ⟨map, hnext⟩
      refine ⟨fun source hlast other hother ↦ ?_, fun hnone ↦ ?_⟩
      · obtain ⟨-, rfl⟩ | ⟨hillegible, -⟩ := isLast_concat.mp hlast
        · rw [hnext] at hother
          rw [← Except.ok.inj hother]
          rfl
        · exact absurd hlegible hillegible
      · exact absurd hlegible (hnone next (by simp))
    | error error =>
      have hillegible : ¬ next.Legible := by
        rintro ⟨map, hmap⟩
        simp [hnext] at hmap
      refine ⟨fun source hlast ↦ ?_, fun hnone ↦ hunloaded fun source hsource ↦ ?_⟩
      · obtain ⟨hlegible, -⟩ | ⟨-, hearlier⟩ := isLast_concat.mp hlast
        · exact absurd hlegible hillegible
        · exact hloaded source hearlier
      · exact hnone source (by simp [hsource])

end Router

/-! ### Frames -/

variable {κ : Type}

/-- The updates of a frame are dealt out one after another: to the stream, to the bridge, or to
nobody. -/
inductive Dealt (transportOf : String → Option Transport) :
    List (Update κ) → List (Update κ) → List (Update κ) → Prop where
  | nil : Dealt transportOf [] [] []
  | stream {update : Update κ} {updates streamed requested : List (Update κ)}
    (htransport : transportOf update.light = some .stream)
    (hrest : Dealt transportOf updates streamed requested) :
    Dealt transportOf (update :: updates) (update :: streamed) requested
  | bridge {update : Update κ} {updates streamed requested : List (Update κ)}
    (htransport : transportOf update.light = some .bridge)
    (hrest : Dealt transportOf updates streamed requested) :
    Dealt transportOf (update :: updates) streamed (update :: requested)
  | unknown {update : Update κ} {updates streamed requested : List (Update κ)}
    (htransport : transportOf update.light = none)
    (hrest : Dealt transportOf updates streamed requested) :
    Dealt transportOf (update :: updates) streamed requested

theorem Router.dealt_share (router : Router) (updates : List (Update κ)) :
    Dealt router.routes.get? updates (router.share .stream updates)
      (router.share .bridge updates) := by
  induction updates with
  | nil => exact .nil
  | cons update rest ih =>
    cases htransport : router.routes.get? update.light with
    | none => simpa [Router.share, htransport] using Dealt.unknown htransport ih
    | some transport =>
      cases transport with
      | stream => simpa [Router.share, htransport] using Dealt.stream htransport ih
      | bridge => simpa [Router.share, htransport] using Dealt.bridge htransport ih

/-- A router with both sinks that has loaded some light maps goes by the last one that could be
read, and knows no light if there was none. In a light map a light is driven as the last entry says
that names it with a known transport, and an entry without a transport is none of these. The updates
of a frame are dealt out by the transports of their lights in the order of the frame: the stream
gets its share as one frame of the same timestamp without a number, the bridge gets its share in one
call, and neither is called for nothing. -/
theorem frames_dealt_by_last_entries (sources : List MapSource) :
    let router := ({ streams := true, bridges := true } : Router).loadAll sources
    (∀ source map, IsLast MapSource.Legible sources source → source.map = .ok map →
      router.routes = map.routes) ∧
    ((∀ source ∈ sources, ¬ source.Legible) → router.routes = LightTable.empty) ∧
    (∀ (map : LightMap) light transport, map.routes.get? light = some transport ↔
      ∃ entry, IsLast (LightEntry.Drives light) map.lights entry ∧
        entry.controlType = transport.name) ∧
    (∀ value record entry, value.record? LightEntry.jsonNames = some record →
      (∀ given, record "controlType" ≠ .given given) → LightEntry.ofJson? value = some entry →
      ∀ light, ¬ entry.Drives light) ∧
    ∀ (κ : Type) (frame : Frame κ), ∃ streamed requested,
      Dealt router.routes.get? frame.updates streamed requested ∧
      (router.route frame).stream =
        (if streamed = [] then none else some ⟨streamed, frame.timestamp, none⟩) ∧
      (router.route frame).bridge = if requested = [] then none else some requested := by
  intro router
  obtain ⟨hstreams, hbridges⟩ : router.streams = true ∧ router.bridges = true :=
    Router.sinks_loadAll _ sources
  obtain ⟨hloaded, hunloaded⟩ := Router.routes_loadAll { streams := true, bridges := true } sources
  refine ⟨fun source map hlast ↦ hloaded source hlast map, hunloaded,
    fun map light transport ↦ LightMap.get?_routes_iff, ?_, fun κ frame ↦ ?_⟩
  · intro value record entry hrecord hmissing hentry
    exact LightEntry.not_drives_of_missing hrecord hmissing hentry
  · refine ⟨_, _, router.dealt_share frame.updates, ?_, ?_⟩
    · simp [Router.route, hstreams, ite_not]
    · simp [Router.route, hbridges, ite_not]

/-- A light with an entry for each transport, and after them one with an unknown transport and one
with none. -/
def contestedMap : String :=
  "\x7b\"lights\":[\x7b\"id\":\"a\",\"controlType\":\"LOW_HTTP\"\x7d,"
    ++ "\x7b\"id\":\"a\",\"controlType\":\"FAST_UDP\"\x7d,"
    ++ "\x7b\"id\":\"a\",\"controlType\":\"SMOKE\"\x7d,\x7b\"id\":\"a\"\x7d]\x7d"

theorem lights_contestedMap : ∃ map, LightMap.ofText contestedMap = .ok map ∧
    map.lights.map (fun entry ↦ (entry.id, entry.controlType)) =
      [("a", "LOW_HTTP"), ("a", "FAST_UDP"), ("a", "SMOKE"), ("a", "")] := by
  have hread : (LightMap.ofText contestedMap).toOption.map
      (fun map ↦ map.lights.map fun entry ↦ (entry.id, entry.controlType)) =
        some [("a", "LOW_HTTP"), ("a", "FAST_UDP"), ("a", "SMOKE"), ("a", "")] := by
    decide +kernel
  cases hmap : LightMap.ofText contestedMap with
  | error error => simp [hmap, Except.toOption] at hread
  | ok map => exact ⟨map, rfl, by simpa [hmap, Except.toOption] using hread⟩

/-- Two loads fail after the light map, which changes nothing, and a light of it is driven by the
second of its four entries. -/
theorem frames_dealt_by_last_entries_contested :
    let router := ({ streams := true, bridges := true } : Router).loadAll
      [.text contestedMap, .text "[", .file "map.json" .missing]
    router.routes.get? "a" = some .stream ∧
    ∀ frame : Frame ℕ, ∃ streamed requested,
      Dealt router.routes.get? frame.updates streamed requested ∧
      (router.route frame).stream =
        (if streamed = [] then none else some ⟨streamed, frame.timestamp, none⟩) ∧
      (router.route frame).bridge = if requested = [] then none else some requested := by
  intro router
  obtain ⟨hloaded, -, hroutes, -, hframes⟩ := frames_dealt_by_last_entries
    [.text contestedMap, .text "[", .file "map.json" .missing]
  refine ⟨?_, hframes ℕ⟩
  obtain ⟨map, hmap, hlights⟩ := lights_contestedMap
  have hlast : IsLast MapSource.Legible [.text contestedMap, .text "[", .file "map.json" .missing]
      (.text contestedMap) := by
    refine ⟨[], _, rfl, ⟨map, hmap⟩, ?_⟩
    have hbracket : (MapSource.text "[").map.toOption.isNone = true := by decide +kernel
    rintro later hlater ⟨other, hother⟩
    rcases List.mem_cons.mp hlater with rfl | hmem
    · simp [hother, Except.toOption] at hbracket
    · rw [List.mem_singleton.mp hmem] at hother
      simp [MapSource.map, LightMap.ofFile] at hother
  rw [hloaded _ map hlast hmap, hroutes]
  simp only [List.map_eq_cons_iff, Prod.mk.injEq, List.map_eq_nil_iff] at hlights
  obtain ⟨first, _, hfirst, ⟨-, -⟩, entry, _, rfl, ⟨hlight, hstream⟩, third, _, rfl, ⟨-, hthird⟩,
    fourth, _, rfl, ⟨-, hfourth⟩, rfl⟩ := hlights
  refine ⟨entry, ⟨[first], [third, fourth], hfirst, ⟨hlight, .stream, hstream⟩, ?_⟩, hstream⟩
  rintro later hlater ⟨-, transport, htransport⟩
  simp only [List.mem_cons, List.not_mem_nil, or_false] at hlater
  rcases hlater with rfl | rfl
  · rw [hthird] at htransport
    cases transport <;> exact absurd htransport (by decide)
  · rw [hfourth] at htransport
    cases transport <;> exact absurd htransport (by decide)

end LightShow
