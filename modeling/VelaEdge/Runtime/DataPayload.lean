import VelaEdge.Runtime.Algorithm

/-! The documents that an MQTT output publishes for the samples selected for it. An object is what
the fields written one after the other leave in a map, so a field written twice keeps its last
content. -/
namespace VelaEdge.Runtime.DataPayload

open Base Core List
open PointCollection (DataQuality DataQualityCode)
open Algorithm (TelemetrySample)

inductive DataConfigPayloadLayout where
  | business
  | envelope
deriving DecidableEq

inductive DataConfigPayloadMode where
  | object
  | array
deriving DecidableEq

structure DataConfigPayload where
  mode : DataConfigPayloadMode
  timestampField : String

structure DataConfigGraphPayload where
  layout : DataConfigPayloadLayout
  includeTimestamp : Bool
  includeQuality : Bool

abbrev Field := String × Json

def object (fields : List Field) : Json :=
  .object (OrderedMap.empty.write (fields.map fun field => .put field.1 field.2)).entries

def telemetryValueToJson : TelemetryValue → Json
  | .float value => if value.isFinite then .number (.float value) else .null
  | .integer value => .number (if 0 ≤ value then .posInt value.toNat else .negInt value)
  | .boolean value => .bool value
  | .text value => .string value

def qualityToJsonLabel : DataQuality → String
  | .good => "good"
  | .uncertain => "uncertain"
  | .bad => "bad"

def qualityCodeToJsonLabel (sample : TelemetrySample) : String :=
  (sample.qualityCode.getD (.defaultFor sample.quality)).asStr

/-- The fields are there with their own content. -/
def Holds (document : Json) (fields : List Field) : Prop :=
  ∀ field ∈ fields, document.get field.1 = some field.2

/-- What one payload is built from; `rendered` is the text that a time has in a document. -/
structure Publication where
  rendered : Time → String
  package : EdgeConfigPackage
  dataConfig : DataConfig
  payload : DataConfigPayload
  graphPayload : DataConfigGraphPayload
  selected : List (DataConfigPoint × TelemetrySample)

namespace Publication

variable (p : Publication)

def dataConfigEnvelope : List Field :=
  [("edge_id",.string p.package.edgeId),("config_version",.string p.package.version),
    ("config_id",.string p.dataConfig.configId),("device_id",.string p.dataConfig.deviceId)]

def objectFields (content : TelemetrySample → Json) : List Field :=
  p.selected.map fun (point,sample) => (point.jsonField,content sample)

def values : List Field := p.objectFields fun sample => telemetryValueToJson sample.value

def quality : List Field := p.objectFields fun sample => .string (qualityToJsonLabel sample.quality)

def qualityCode : List Field := p.objectFields fun sample => .string (qualityCodeToJsonLabel sample)

def timestamp : Time := (p.selected.map fun entry => entry.2.timestamp).max?.getD 0

variable (included : Bool)

def timestampFields (timestamp : Time) : List Field :=
  if included then [(p.payload.timestampField,.string (p.rendered timestamp))] else []

def itemFields (entry : DataConfigPoint × TelemetrySample) : List Field :=
  [("point_id",.string entry.1.pointId),("field",.string entry.1.jsonField),
    ("value",telemetryValueToJson entry.2.value)] ++
  p.timestampFields included entry.2.timestamp ++
  if p.graphPayload.includeQuality then
    [("quality",.string (qualityToJsonLabel entry.2.quality)),
      ("quality_code",.string (qualityCodeToJsonLabel entry.2))]
  else []

def dataConfigArrayItems : List Json :=
  p.selected.map fun entry => object (p.itemFields included entry)

def bodyFields : List Field := match p.payload.mode with
  | .object => ("values",object p.values) ::
      if p.graphPayload.includeQuality then [("quality",object p.quality),
        ("quality_code",object p.qualityCode)] else []
  | .array => [("points",.array (p.dataConfigArrayItems false))]

def envelopeFields : List Field :=
  p.dataConfigEnvelope ++ p.timestampFields p.graphPayload.includeTimestamp p.timestamp ++
    p.bodyFields

variable (fields : List Field)

def ensureReservedBusinessFieldAvailable (field : String) : Except String Unit :=
  bailIf (fields.any fun written => written.1 = field)
    (s!"data config {p.dataConfig.configId} business payload field conflicts with reserved " ++
      s!"field {field}")

def ensureUniqueJsonFields :
    List String → List (DataConfigPoint × TelemetrySample) → Except String Unit
  | _, [] => pure ()
  | fields, (point,_) :: rest => do
    bailIf (point.jsonField ∈ fields)
      s!"data config {p.dataConfig.configId} has duplicate json field {point.jsonField}"
    ensureUniqueJsonFields (point.jsonField :: fields) rest

def withTimestamp : Except String (List Field) :=
  if p.graphPayload.includeTimestamp then do
    p.ensureReservedBusinessFieldAvailable fields p.payload.timestampField
    pure (fields ++ [(p.payload.timestampField,.string (p.rendered p.timestamp))])
  else pure fields

def withQuality : Except String (List Field) :=
  if p.graphPayload.includeQuality then do
    p.ensureReservedBusinessFieldAvailable fields "_quality"
    p.ensureReservedBusinessFieldAvailable fields "_quality_code"
    pure (fields ++ [("_quality",object p.quality),("_quality_code",object p.qualityCode)])
  else pure fields

def buildDataConfigPayload : Except String Json := do
  p.ensureUniqueJsonFields [] p.selected
  match p.graphPayload.layout, p.payload.mode with
  | .business, .object =>
    let fields ← p.withTimestamp p.values
    let fields ← p.withQuality fields
    pure (object fields)
  | .business, .array =>
    pure (.array (p.dataConfigArrayItems p.graphPayload.includeTimestamp))
  | .envelope, _ => pure (object p.envelopeFields)

/-! What the documents should say. -/

def ItemsHold (document : Option Json) : Prop :=
  ∃ items, document = some (.array items) ∧
    List.Forall₂ (fun item entry => Holds item (p.itemFields included entry)) items p.selected

def businessFields : List Field :=
  p.values ++ p.timestampFields p.graphPayload.includeTimestamp p.timestamp ++
    if p.graphPayload.includeQuality then [("_quality",object p.quality),
      ("_quality_code",object p.qualityCode)] else []

/-- Every sample's value is under its own field or in its own item, and every other field means
what it says. -/
def Intact (document : Json) : Prop := match p.graphPayload.layout, p.payload.mode with
  | .business, .object => Holds document p.businessFields
  | .business, .array => p.ItemsHold p.graphPayload.includeTimestamp (some document)
  | .envelope, .object => Holds document p.envelopeFields ∧
      ∃ found, document.get "values" = some found ∧ Holds found p.values
  | .envelope, .array => Holds document p.envelopeFields ∧
      p.ItemsHold false (document.get "points")

/-- No field has the name of the timestamp's, unless its content is that very time. -/
def Apart (timestamp : Time) : Prop :=
  ∀ field ∈ fields, field.1 = p.payload.timestampField → field.2 = .string (p.rendered timestamp)

def TimestampApart : Prop := p.graphPayload.includeTimestamp = true →
    match p.graphPayload.layout with
    | .business => p.payload.mode = .object ∨
        ∀ entry ∈ p.selected, p.Apart (p.itemFields false entry) entry.2.timestamp
    | .envelope => p.Apart (p.dataConfigEnvelope ++ p.bodyFields) p.timestamp

end Publication

/-! ## Fields written one after the other -/

private theorem get_object (fields : List Field) (name : String) : (object fields).get name =
    (OrderedMap.empty.write (fields.map fun field => .put field.1 field.2)).get name := by
  have hl : ∀ entries : List Field,
      entries.lookup name = OrderedMap.lookupEntries name entries := by
    intro entries
    induction entries with
    | nil => rfl
    | cons entry entries ih =>
      obtain ⟨other,content⟩ := entry
      by_cases hn : name = other
      · simp [OrderedMap.lookupEntries,hn]
      · simp [lookup_cons,OrderedMap.lookupEntries,beq_eq_false_iff_ne.mpr hn,hn,ih]
  exact hl _

def Agreed (fields : List Field) : Prop :=
  ∀ field ∈ fields, ∀ other ∈ fields, field.1 = other.1 → field.2 = other.2

@[simp] theorem holds_object : Holds (object fields) fields ↔ Agreed fields := by
  refine ⟨fun h field hf other ho hn => ?_,fun h field hf => ?_⟩
  · have hs := h field hf
    rw [hn,h other ho] at hs
    exact (Option.some.inj hs).symm
  · rw [get_object]
    refine OrderedMap.get_write_of_agreed _ (mem_map.mpr ⟨field,hf,rfl⟩) fun op hop hk => ?_
    obtain ⟨other,ho,rfl⟩ := mem_map.mp hop
    rw [show other.1 = field.1 from hk,h other ho field hf hk]

theorem agreed_of_nodup (h : (fields.map Prod.fst).Nodup) : Agreed fields :=
  fun _ hf _ ho hn => congrArg Prod.snd (inj_on_of_nodup_map h hf ho hn)

namespace Publication

variable {p : Publication}

theorem agreed_timestamp (h : Agreed (first ++ last)) :
    Agreed (first ++ p.timestampFields included time ++ last) ↔
      (included = true → p.Apart (first ++ last) time) := by
  cases included with
  | false => simpa [timestampFields] using h
  | true =>
    have hm : ∀ field, field ∈ first ++ p.timestampFields true time ++ last ↔
        field = (p.payload.timestampField,.string (p.rendered time)) ∨ field ∈ first ++ last := by
      intro field
      simp only [timestampFields,if_true,mem_append,mem_singleton]
      tauto
    refine ⟨fun ha _ field hf hn => ?_,fun ha field hf other ho hn => ?_⟩
    · exact ha field ((hm field).mpr (.inr hf)) _ ((hm _).mpr (.inl rfl)) hn
    · rcases (hm field).mp hf with rfl | hf <;> rcases (hm other).mp ho with rfl | ho
      · rfl
      · exact (ha rfl other ho hn.symm).symm
      · exact ha rfl field hf hn
      · exact h field hf other ho hn

/-! ## The four documents -/

theorem item_holds_iff (entry : DataConfigPoint × TelemetrySample) :
    Holds (object (p.itemFields included entry)) (p.itemFields included entry) ↔
      (included = true → p.Apart (p.itemFields false entry) entry.2.timestamp) := by
  have hn : ((p.itemFields false entry).map Prod.fst).Nodup := by
    simp only [itemFields,timestampFields]
    cases p.graphPayload.includeQuality <;> simp
  have ha := agreed_of_nodup hn
  rw [holds_object]
  simp only [itemFields,timestampFields,Bool.false_eq_true,if_false,append_nil] at ha ⊢
  exact agreed_timestamp ha

theorem items_hold_iff : p.ItemsHold included (some (.array (p.dataConfigArrayItems included))) ↔
      (included = true →
        ∀ entry ∈ p.selected, p.Apart (p.itemFields false entry) entry.2.timestamp) := by
  have hf : p.ItemsHold included (some (.array (p.dataConfigArrayItems included))) ↔
      ∀ entry ∈ p.selected,
        Holds (object (p.itemFields included entry)) (p.itemFields included entry) := by
    simp [ItemsHold,dataConfigArrayItems,forall₂_map_left_iff,forall₂_same]
  rw [hf]
  simp only [item_holds_iff]
  exact ⟨fun h hi entry he => h entry he hi,fun h entry he hi => h hi entry he⟩

theorem envelope_holds_iff : Holds (object p.envelopeFields) p.envelopeFields ↔
    (p.graphPayload.includeTimestamp = true →
      p.Apart (p.dataConfigEnvelope ++ p.bodyFields) p.timestamp) := by
  have hn : ((p.dataConfigEnvelope ++ p.bodyFields).map Prod.fst).Nodup := by
    simp only [dataConfigEnvelope,bodyFields]
    cases p.payload.mode <;> cases p.graphPayload.includeQuality <;> simp
  rw [holds_object]
  exact agreed_timestamp (agreed_of_nodup hn)

theorem ensureUniqueJsonFields_ok (h : p.ensureUniqueJsonFields [] entries = .ok ()) :
    (entries.map fun entry => entry.1.jsonField).Nodup := by
  refine (nodup_of_seen (fun h => ?_) h).1
  obtain ⟨_,hs,h⟩ := bind_eq_ok.mp h
  exact ⟨bailIf_eq_ok.mp hs,h⟩

theorem values_nodup (h : (p.selected.map fun entry => entry.1.jsonField).Nodup) :
    (p.values.map Prod.fst).Nodup := by
  simpa [values,objectFields,map_map,Function.comp_def] using h

theorem not_mem_reserved (h : p.ensureReservedBusinessFieldAvailable fields name = .ok ()) :
    name ∉ fields.map Prod.fst := by
  simpa [ensureReservedBusinessFieldAvailable] using h

theorem withTimestamp_ok (hn : (fields.map Prod.fst).Nodup)
    (h : p.withTimestamp fields = .ok kept) :
    kept = fields ++ p.timestampFields p.graphPayload.includeTimestamp p.timestamp ∧
      (kept.map Prod.fst).Nodup := by
  unfold withTimestamp at h
  split at h
  · next hi =>
    obtain ⟨_,hr,h⟩ := bind_eq_ok.mp h
    cases h
    refine ⟨by simp [timestampFields,hi],?_⟩
    rw [map_append]
    exact hn.append (by simp) (by simpa using not_mem_reserved hr)
  · next hi =>
    cases h
    exact ⟨by simp [timestampFields,hi],hn⟩

theorem withQuality_ok (hn : (fields.map Prod.fst).Nodup) (h : p.withQuality fields = .ok kept) :
    kept = (fields ++ if p.graphPayload.includeQuality then
      [("_quality",object p.quality),("_quality_code",object p.qualityCode)] else []) ∧
      (kept.map Prod.fst).Nodup := by
  unfold withQuality at h
  split at h
  · next hi =>
    obtain ⟨_,hq,h⟩ := bind_eq_ok.mp h
    obtain ⟨_,hc,h⟩ := bind_eq_ok.mp h
    cases h
    refine ⟨by simp [hi],?_⟩
    have hq := not_mem_reserved hq
    have hc := not_mem_reserved hc
    rw [map_append]
    exact hn.append (by simp) (by simp_all)
  · next hi =>
    cases h
    exact ⟨by simp [hi],hn⟩

/-- The payload is intact exactly where the timestamp has a name of its own; an object without an
envelope is not built otherwise. -/
theorem payload_intact_iff (h : p.buildDataConfigPayload = .ok document) :
    p.Intact document ↔ p.TimestampApart := by
  obtain ⟨_,hu,h⟩ := bind_eq_ok.mp h
  have hv := values_nodup (ensureUniqueJsonFields_ok hu)
  unfold Intact TimestampApart
  cases hl : p.graphPayload.layout <;> cases hm : p.payload.mode <;> simp only [hl,hm] at h ⊢
  case business.object =>
    obtain ⟨fields,ht,h⟩ := bind_eq_ok.mp h
    obtain ⟨kept,hq,h⟩ := bind_eq_ok.mp h
    cases h
    obtain ⟨rfl,hn⟩ := withTimestamp_ok hv ht
    obtain ⟨rfl,hn⟩ := withQuality_ok hn hq
    simpa [businessFields] using holds_object.mpr (agreed_of_nodup hn)
  case business.array =>
    cases h
    simpa using items_hold_iff
  case envelope.object =>
    cases h
    refine (and_iff_left_of_imp fun hd => ?_).trans envelope_holds_iff
    refine ⟨_,hd ("values",object p.values) ?_,holds_object.mpr (agreed_of_nodup hv)⟩
    exact mem_append_right _ (by simp [bodyFields,hm])
  case envelope.array =>
    cases h
    refine (and_iff_left_of_imp fun hd => ?_).trans envelope_holds_iff
    rw [hd ("points",.array (p.dataConfigArrayItems false))
      (mem_append_right _ (by simp [bodyFields,hm]))]
    exact items_hold_iff.mpr fun hf => by cases hf

end Publication

/-! A sample of 21 degrees, sent as an item with its time. -/

def thermometer : DataConfigPoint := ⟨"p-1","temperature",.null,.integer,"temp"⟩

def reading : TelemetrySample :=
  { deviceId := "d-1", telemetryId := "temp", value := .integer 21, quality := .good,
    qualityCode := none, timestamp := 0 }

def site (timestampField : String) : Publication where
  rendered _ := "1970-01-01T00:00:00Z"
  package := .new "edge-1" "v1"
  dataConfig := ⟨"cfg-1","d-1","conn-1",⟨1000,1000,0⟩,[thermometer],[],⟨[],[]⟩,⟨"cloud"⟩⟩
  payload := ⟨.array,timestampField⟩
  graphPayload := ⟨.business,true,false⟩
  selected := [(thermometer,reading)]

def item (fields : List Field) : Json :=
  .array [.object ([("field",.string "temp"),("point_id",.string "p-1")] ++ fields)]

theorem value_field_overwritten : (site "value").buildDataConfigPayload =
        .ok (item [("value",.string "1970-01-01T00:00:00Z")]) ∧
      ¬ (site "value").Intact (item [("value",.string "1970-01-01T00:00:00Z")]) := by
  refine ⟨by decide +kernel,fun ⟨items,he,hi⟩ => ?_⟩
  cases he
  have hv := (forall₂_cons.mp hi).1 ("value",.number (.posInt 21)) (by decide +kernel)
  exact absurd hv (by decide +kernel)

theorem named_timestamp_intact : (site "ts").Intact (item
    [("ts",.string "1970-01-01T00:00:00Z"),("value",.number (.posInt 21))]) := by
  refine (Publication.payload_intact_iff (by decide +kernel)).mpr fun _ => .inr ?_
  simp only [Publication.Apart]
  decide +kernel

end VelaEdge.Runtime.DataPayload
