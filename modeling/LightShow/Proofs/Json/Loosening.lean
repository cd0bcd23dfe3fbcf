import LightShow.Json.Record
import Mathlib.Data.List.Basic
import Mathlib.Data.List.Perm.Basic

/-!
# Documents written more loosely

A document can be written more loosely without saying anything else: the fields of a record may
stand in another order, there may be fields whose names the record does not know, and a field that
may be missing may be given as null (`Loosened`). Which names a record knows and which of them may
be null is said by its shape, level by level (`JsonShape`).

What a reader makes of a document and of all looser ones is said at once (`ReadsAs`), and put
together as readers are: a looser list has looser items (`Loosened.exists_array`), a looser record
has looser slots (`Loosened.exists_record`), and a looser slot is read as the slot itself
(`JsonRecord.required_of_slot` and the others).
-/

set_option autoImplicit false

namespace LightShow

/-- What a document holds at a place. -/
inductive JsonShape where
  /-- A value that is taken as it is. -/
  | plain
  | list (item : JsonShape)
  /-- A record with these names, of which the optional ones may be null, and with these parts. -/
  | record (names optional : List String) (part : String → JsonShape)

/-- A document is written more loosely, in one or more steps. -/
inductive Loosened : JsonShape → JsonValue → JsonValue → Prop where
  | same (shape : JsonShape) (value : JsonValue) : Loosened shape value value
  | trans {shape : JsonShape} {first second third : JsonValue}
    (hfirst : Loosened shape first second) (hsecond : Loosened shape second third) :
    Loosened shape first third
  /-- An item of a list is loosened. -/
  | item {shape : JsonShape} {value loose : JsonValue} (before after : List JsonValue)
    (hitem : Loosened shape value loose) :
    Loosened (.list shape) (.array (before ++ value :: after)) (.array (before ++ loose :: after))
  /-- The fields are put in another order. -/
  | permuted {names optional : List String} {part : String → JsonShape}
    {fields others : List (String × JsonValue)} (hperm : fields.Perm others) :
    Loosened (.record names optional part) (.object fields) (.object others)
  /-- A field is added under a name the record does not know. -/
  | unknown {names optional : List String} {part : String → JsonShape}
    (fields : List (String × JsonValue)) (name : String) (value : JsonValue)
    (hunknown : name ∉ names) :
    Loosened (.record names optional part) (.object fields) (.object ((name, value) :: fields))
  /-- A field that may be missing, and is, is given as null. -/
  | null {names optional : List String} {part : String → JsonShape}
    {fields : List (String × JsonValue)} (name : String) (hoptional : name ∈ optional)
    (habsent : name ∉ fields.map Prod.fst) :
    Loosened (.record names optional part) (.object fields) (.object ((name, .null) :: fields))
  /-- A field of a record is loosened. -/
  | field {names optional : List String} {part : String → JsonShape} {name : String}
    {value loose : JsonValue} (before after : List (String × JsonValue))
    (hfield : Loosened (part name) value loose) :
    Loosened (.record names optional part) (.object (before ++ (name, value) :: after))
      (.object (before ++ (name, loose) :: after))

/-- A reader makes the same of a document and of every looser one. -/
def ReadsAs {α : Type} (shape : JsonShape) (read : JsonValue → Option α) (value : JsonValue)
    (a : α) : Prop :=
  ∀ ⦃loose : JsonValue⦄, Loosened shape value loose → read loose = some a

namespace Loosened

theorem eq_of_plain {value loose : JsonValue} (hloose : Loosened .plain value loose) :
    loose = value := by
  generalize hshape : JsonShape.plain = shape at hloose
  induction hloose with
  | same => rfl
  | trans _ _ ihfirst ihsecond => rw [ihsecond hshape, ihfirst hshape]
  | item | permuted | unknown | null | field => cases hshape

/-- Null stays null, and nothing else becomes null. -/
theorem eq_null_iff {shape : JsonShape} {value loose : JsonValue}
    (hloose : Loosened shape value loose) : loose = .null ↔ value = .null := by
  induction hloose with
  | same => rfl
  | trans _ _ ihfirst ihsecond => rw [ihsecond, ihfirst]
  | item | permuted | unknown | null | field => simp

theorem forall₂_same {shape : JsonShape} (items : List JsonValue) :
    List.Forall₂ (Loosened shape) items items :=
  List.forall₂_same.mpr fun item _ ↦ .same shape item

theorem forall₂_trans {shape : JsonShape} {first second third : List JsonValue}
    (hfirst : List.Forall₂ (Loosened shape) first second)
    (hsecond : List.Forall₂ (Loosened shape) second third) :
    List.Forall₂ (Loosened shape) first third := by
  induction hfirst generalizing third with
  | nil => exact hsecond
  | cons hitem _ ih =>
    cases hsecond with
    | cons hother hothers => exact .cons (hitem.trans hother) (ih hothers)

/-- A looser list has the items of the list, each of them looser. -/
theorem exists_array {shape : JsonShape} {items : List JsonValue} {loose : JsonValue}
    (hloose : Loosened (.list shape) (.array items) loose) :
    ∃ others, loose = .array others ∧ List.Forall₂ (Loosened shape) items others := by
  generalize hshape : JsonShape.list shape = outer at hloose
  generalize hvalue : JsonValue.array items = value at hloose
  induction hloose generalizing items with
  | same => exact ⟨items, hvalue.symm, forall₂_same items⟩
  | trans _ _ ihfirst ihsecond =>
    obtain ⟨middle, hmiddle, hfirst⟩ := ihfirst hshape hvalue
    obtain ⟨others, hothers, hsecond⟩ := ihsecond hshape hmiddle.symm
    exact ⟨others, hothers, forall₂_trans hfirst hsecond⟩
  | item before after hitem =>
    cases hshape
    cases hvalue
    exact ⟨_, rfl, List.rel_append (forall₂_same before) (.cons hitem (forall₂_same after))⟩
  | permuted | unknown | null | field => cases hshape

end Loosened

variable {α : Type} {shape : JsonShape} {read : JsonValue → Option α}

theorem readsAs_plain {value : JsonValue} {a : α} (hread : read value = some a) :
    ReadsAs .plain read value a := by
  intro loose hloose
  rw [hloose.eq_of_plain, hread]

/-- A list is read item by item. -/
theorem readsAs_list {write : α → JsonValue} {items : List α}
    (hitems : ∀ item ∈ items, ReadsAs shape read (write item) item) :
    ReadsAs (.list shape) (JsonValue.list? read) (.array (items.map write)) items := by
  intro loose hloose
  obtain ⟨others, rfl, hothers⟩ := hloose.exists_array
  clear hloose
  change others.mapM read = some items
  induction items generalizing others with
  | nil =>
    cases hothers
    rfl
  | cons item items ih =>
    obtain ⟨hitem, hrest⟩ := List.forall_mem_cons.mp hitems
    cases hothers with
    | @cons _ other _ others hother hothers =>
      rw [List.mapM_cons, hitem hother, ih hrest others hothers]
      rfl

/-! ### The slots of a loosened record -/

/-- The slot of a field in a loosened record. -/
inductive SlotLoosened (shape : JsonShape) (isOptional : Prop) : JsonSlot → JsonSlot → Prop where
  | same (slot : JsonSlot) : SlotLoosened shape isOptional slot slot
  | given {value loose : JsonValue} (hvalue : Loosened shape value loose) :
    SlotLoosened shape isOptional (.given value) (.given loose)
  | null (hoptional : isOptional) : SlotLoosened shape isOptional .missingName (.given .null)

theorem SlotLoosened.trans {isOptional : Prop} {first second third : JsonSlot}
    (hfirst : SlotLoosened shape isOptional first second)
    (hsecond : SlotLoosened shape isOptional second third) :
    SlotLoosened shape isOptional first third := by
  cases hfirst with
  | same => exact hsecond
  | given hvalue =>
    cases hsecond with
    | same => exact .given hvalue
    | given hloose => exact .given (hvalue.trans hloose)
  | null hoptional =>
    cases hsecond with
    | same => exact .null hoptional
    | given hloose =>
      rw [hloose.eq_null_iff.mpr rfl]
      exact .null hoptional

/-- The slots of a loosened record, as far as the record knows their names. -/
def SlotsLoosened (names optional : List String) (part : String → JsonShape)
    (record other : JsonRecord) : Prop :=
  ∀ name ∈ names, SlotLoosened (part name) (name ∈ optional) (record name) (other name)

namespace JsonValue

/-- The fields of an object under a name. -/
def named (fields : List (String × JsonValue)) (name : String) : List (String × JsonValue) :=
  fields.filter fun field ↦ field.1 = name

theorem slotOf_eq_head? (fields : List (String × JsonValue)) (name : String) :
    slotOf fields name = ((named fields name).head?.map (.given ·.2)).getD .missingName := by
  rw [slotOf, named, List.head?_filter]
  cases fields.find? fun field ↦ field.1 = name <;> rfl

theorem named_cons_self (name : String) (value : JsonValue) (fields : List (String × JsonValue)) :
    named ((name, value) :: fields) name = (name, value) :: named fields name :=
  List.filter_cons_of_pos (decide_eq_true rfl)

theorem named_cons_of_ne {name other : String} (hne : other ≠ name) (value : JsonValue)
    (fields : List (String × JsonValue)) :
    named ((other, value) :: fields) name = named fields name :=
  List.filter_cons_of_neg (by simpa using hne)

theorem named_append (fields others : List (String × JsonValue)) (name : String) :
    named (fields ++ others) name = named fields name ++ named others name :=
  List.filter_append ..

theorem named_eq_nil {fields : List (String × JsonValue)} {name : String}
    (habsent : name ∉ fields.map Prod.fst) : named fields name = [] := by
  rw [named, List.filter_eq_nil_iff]
  intro field hfield hname
  exact habsent (List.mem_map.mpr ⟨field, hfield, of_decide_eq_true hname⟩)

/-- A field that stands at most once is found in any order. -/
theorem named_perm {fields others : List (String × JsonValue)} (hperm : fields.Perm others)
    {name : String} (honce : (named fields name).length ≤ 1) :
    named others name = named fields name := by
  have hnamed : (named fields name).Perm (named others name) := hperm.filter _
  match hfields : named fields name with
  | [] =>
    rw [hfields] at hnamed
    exact hnamed.nil_eq.symm
  | [field] =>
    rw [hfields] at hnamed
    exact (List.singleton_perm.mp hnamed).symm
  | _ :: _ :: _ => simp [hfields] at honce

theorem record?_object {names : List String} {fields : List (String × JsonValue)}
    {record : JsonRecord} :
    (object fields).record? names = some record ↔
      (∀ name ∈ names, (named fields name).length ≤ 1) ∧ slotOf fields = record := by
  have hany : names.any (isRepeated fields) = true ↔
      ¬ ∀ name ∈ names, (named fields name).length ≤ 1 := by
    simp [isRepeated, named]
  rw [record?]
  by_cases hrepeated : names.any (isRepeated fields) = true
  · simp only [hrepeated, if_true, reduceCtorEq, hany.mp hrepeated, false_and]
  · rw [if_neg hrepeated, Option.some.injEq, and_iff_right (not_not.mp (hany.not.mp hrepeated))]

theorem slotLoosened_of_named {fields others : List (String × JsonValue)} {name : String}
    {isOptional : Prop} (hnamed : named others name = named fields name)
    (honce : (named fields name).length ≤ 1) :
    (named others name).length ≤ 1 ∧
      SlotLoosened shape isOptional (slotOf fields name) (slotOf others name) := by
  rw [slotOf_eq_head?, slotOf_eq_head?, hnamed]
  exact ⟨honce, .same _⟩

/-- A record is known by what its object holds under each name it knows. -/
theorem record?_of_named {names optional : List String} {part : String → JsonShape}
    {fields others : List (String × JsonValue)} {record : JsonRecord}
    (hrecord : (object fields).record? names = some record)
    (hnamed : ∀ name ∈ names, (named fields name).length ≤ 1 →
      (named others name).length ≤ 1 ∧
        SlotLoosened (part name) (name ∈ optional) (slotOf fields name) (slotOf others name)) :
    ∃ other, (object others).record? names = some other ∧
      SlotsLoosened names optional part record other := by
  obtain ⟨honce, rfl⟩ := record?_object.mp hrecord
  have hslots (name) (hname : name ∈ names) := hnamed name hname (honce name hname)
  refine ⟨_, record?_object.mpr ⟨fun name hname ↦ (hslots name hname).1, rfl⟩, ?_⟩
  exact fun name hname ↦ (hslots name hname).2

end JsonValue

open JsonValue in
/-- A loosened record is a record, and its slots are loosened. -/
theorem Loosened.record? {names optional : List String} {part : String → JsonShape}
    {value loose : JsonValue} (hloose : Loosened (.record names optional part) value loose)
    {record : JsonRecord} (hrecord : value.record? names = some record) :
    ∃ other, loose.record? names = some other ∧ SlotsLoosened names optional part record other := by
  generalize hshape : JsonShape.record names optional part = shape at hloose
  induction hloose generalizing record with
  | same => exact ⟨record, hrecord, fun name _ ↦ .same _⟩
  | trans _ _ ihfirst ihsecond =>
    obtain ⟨middle, hmiddle, hfirst⟩ := ihfirst hrecord hshape
    obtain ⟨other, hother, hsecond⟩ := ihsecond hmiddle hshape
    exact ⟨other, hother, fun name hname ↦ (hfirst name hname).trans (hsecond name hname)⟩
  | item => cases hshape
  | permuted hperm =>
    cases hshape
    refine record?_of_named hrecord fun name _ honce ↦ ?_
    exact slotLoosened_of_named (named_perm hperm honce) honce
  | unknown fields added value hunknown =>
    cases hshape
    refine record?_of_named hrecord fun name hname honce ↦ ?_
    have hne := (ne_of_mem_of_not_mem hname hunknown).symm
    exact slotLoosened_of_named (named_cons_of_ne hne value fields) honce
  | @null _ _ _ fields added hoptional habsent =>
    cases hshape
    refine record?_of_named hrecord fun name hname honce ↦ ?_
    by_cases hadded : added = name
    · subst hadded
      rw [slotOf_eq_head?, slotOf_eq_head?, named_cons_self, named_eq_nil habsent]
      exact ⟨Nat.le_refl 1, .null hoptional⟩
    · exact slotLoosened_of_named (named_cons_of_ne hadded .null fields) honce
  | @field _ _ _ changed value loose before after hfield =>
    cases hshape
    refine record?_of_named hrecord fun name hname honce ↦ ?_
    by_cases hchanged : changed = name
    · subst hchanged
      rw [slotOf_eq_head?, slotOf_eq_head?]
      rw [named_append, named_cons_self] at honce ⊢
      rw [named_append, named_cons_self]
      refine ⟨by simpa using honce, ?_⟩
      cases named before changed with
      | nil => exact .given hfield
      | cons first rest => exact .same _
    · refine slotLoosened_of_named ?_ honce
      rw [named_append, named_append, named_cons_of_ne hchanged, named_cons_of_ne hchanged]

/-! ### Written records -/

namespace JsonValue

/-- The fields of a record as they are written: one without a value is left out. -/
def written (fields : List (String × Option JsonValue)) : List (String × JsonValue) :=
  fields.flatMap fun field ↦ optionalField field.1 field.2

/-- The slot of a field that is written only if it has a value. -/
def writtenSlot (value : Option JsonValue) : JsonSlot :=
  value.elim .missingName .given

theorem named_optionalField_self (name : String) (value : Option JsonValue) :
    named (optionalField name value) name = optionalField name value := by
  cases value with
  | none => rfl
  | some value => exact named_cons_self name value []

theorem named_optionalField_of_ne {name other : String} (hne : other ≠ name)
    (value : Option JsonValue) : named (optionalField other value) name = [] := by
  cases value with
  | none => rfl
  | some value => exact named_cons_of_ne hne value []

theorem named_written_eq_nil {fields : List (String × Option JsonValue)} {name : String}
    (habsent : name ∉ fields.map Prod.fst) : named (written fields) name = [] := by
  induction fields with
  | nil => rfl
  | cons field fields ih =>
    obtain ⟨hne, hrest⟩ := not_or.mp (List.mem_cons.not.mp habsent)
    rw [written, List.flatMap_cons, named_append, named_optionalField_of_ne (Ne.symm hne)]
    exact ih hrest

/-- Where no name stands twice, a field is found as it is written. -/
theorem named_written {fields : List (String × Option JsonValue)}
    (hnodup : (fields.map Prod.fst).Nodup) {field : String × Option JsonValue}
    (hfield : field ∈ fields) :
    named (written fields) field.1 = optionalField field.1 field.2 := by
  induction fields with
  | nil => cases hfield
  | cons first fields ih =>
    obtain ⟨hfirst, hrest⟩ := List.nodup_cons.mp hnodup
    rw [written, List.flatMap_cons, named_append]
    rcases List.mem_cons.mp hfield with rfl | hmem
    · rw [named_optionalField_self]
      exact (congrArg _ (named_written_eq_nil hfirst)).trans (List.append_nil _)
    · have hne : first.1 ≠ field.1 := by
        intro heq
        exact hfirst (heq ▸ List.mem_map_of_mem hmem)
      rw [named_optionalField_of_ne hne]
      exact ih hrest hmem

end JsonValue

open JsonValue in
/-- A looser document of a written record is a record, with looser slots than were written. -/
theorem Loosened.exists_record {names optional : List String} {part : String → JsonShape}
    {value loose : JsonValue} (hloose : Loosened (.record names optional part) value loose)
    {fields : List (String × Option JsonValue)} (hvalue : value = .object (written fields))
    (hnames : fields.map Prod.fst = names) (hnodup : names.Nodup) :
    ∃ record, loose.record? names = some record ∧ ∀ field ∈ fields,
      SlotLoosened (part field.1) (field.1 ∈ optional) (writtenSlot field.2) (record field.1) := by
  subst hvalue hnames
  have hfield (field) (hfield : field ∈ fields) :
      (named (written fields) field.1).length ≤ 1 ∧
        slotOf (written fields) field.1 = writtenSlot field.2 := by
    rw [slotOf_eq_head?, named_written hnodup hfield]
    cases field.2 with
    | none => exact ⟨Nat.zero_le 1, rfl⟩
    | some value => exact ⟨Nat.le_refl 1, rfl⟩
  have hrecord : (object (written fields)).record? (fields.map Prod.fst) =
      some (slotOf (written fields)) := by
    refine record?_object.mpr ⟨fun name hname ↦ ?_, rfl⟩
    obtain ⟨field, hmem, rfl⟩ := List.mem_map.mp hname
    exact (hfield field hmem).1
  obtain ⟨record, hloosened, hslots⟩ := hloose.record? hrecord
  refine ⟨record, hloosened, fun field hmem ↦ ?_⟩
  rw [← (hfield field hmem).2]
  exact hslots field.1 (List.mem_map_of_mem hmem)

/-! ### Looser slots -/

namespace SlotLoosened

open JsonValue

variable {isOptional : Prop} {slot : JsonSlot}

theorem exists_given {value : JsonValue}
    (hslot : SlotLoosened shape isOptional (writtenSlot (some value)) slot) :
    ∃ loose, slot = .given loose ∧ Loosened shape value loose := by
  cases hslot with
  | same => exact ⟨value, rfl, .same shape value⟩
  | given hvalue => exact ⟨_, rfl, hvalue⟩

theorem missing_or_null (hslot : SlotLoosened shape isOptional (writtenSlot none) slot) :
    slot = .missingName ∨ slot = .given .null := by
  cases hslot with
  | same => exact .inl rfl
  | null => exact .inr rfl

end SlotLoosened

namespace JsonRecord

open JsonValue

variable {record : JsonRecord} {name : String} {isOptional : Prop}

theorem required_of_slot {value : JsonValue} {a : α}
    (hslot : SlotLoosened shape isOptional (writtenSlot (some value)) (record name))
    (hread : ReadsAs shape read value a) : record.required name read = some a := by
  obtain ⟨loose, hgiven, hloose⟩ := hslot.exists_given
  rw [required, hgiven]
  exact hread hloose

theorem withDefault_of_slot {value : JsonValue} {a : α}
    (hslot : SlotLoosened shape isOptional (writtenSlot (some value)) (record name))
    (hread : ReadsAs shape read value a) (absent : α) :
    record.withDefault name read absent = some a := by
  obtain ⟨loose, hgiven, hloose⟩ := hslot.exists_given
  rw [withDefault, hgiven]
  exact hread hloose

theorem orNull_of_read {value : JsonValue} {a : α} (hnull : read .null = none)
    (hread : read value = some a) : orNull read value = some (some a) := by
  cases value with
  | null =>
    rw [hnull] at hread
    cases hread
  | _ => exact congrArg (Option.map some) hread

/-- A field that may be missing is read from its value, from null and from nothing. -/
theorem optionalName_of_slot {write : α → JsonValue} {content : Option α}
    (hslot : SlotLoosened shape isOptional (writtenSlot (content.map write)) (record name))
    (hnull : read .null = none) (hread : ∀ a ∈ content, ReadsAs shape read (write a) a) :
    record.optionalName name read = some content := by
  rw [optionalName]
  cases content with
  | none =>
    rcases hslot.missing_or_null with habsent | habsent
    · rw [habsent]
    · rw [habsent]
      rfl
  | some a =>
    obtain ⟨loose, hgiven, hloose⟩ := hslot.exists_given
    rw [hgiven]
    exact orNull_of_read hnull (hread a rfl hloose)

/-- A place in an array may be missing as well, and nothing else is read differently. -/
theorem optional_of_optionalName {content : Option α}
    (hread : record.optionalName name read = some content) :
    record.optional name read = some content := by
  rw [optionalName] at hread
  rw [optional, withDefault]
  cases hslot : record name with
  | given => simpa only [hslot] using hread
  | missingName => simpa only [hslot] using hread
  | missingItem => simp [hslot] at hread

theorem optional_of_slot {write : α → JsonValue} {content : Option α}
    (hslot : SlotLoosened shape isOptional (writtenSlot (content.map write)) (record name))
    (hnull : read .null = none) (hread : ∀ a ∈ content, ReadsAs shape read (write a) a) :
    record.optional name read = some content :=
  optional_of_optionalName (optionalName_of_slot hslot hnull hread)

end JsonRecord

end LightShow
