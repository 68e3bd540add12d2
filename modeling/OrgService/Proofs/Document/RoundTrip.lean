import OrgService.Document.Seed
import OrgService.Proofs.Calendar.Iso
import OrgService.Proofs.Guid
import OrgService.Proofs.Number.Decimal
import OrgService.Proofs.OrderedMap
import OrgService.Proofs.Trace

/-!
# Documents read back

What reading makes of a document is made again of its written form: a value with its type and all
of its content, a list of records with identifiers and the order of attributes. Writing keeps all
values apart, those included that no document stands for.
-/

namespace OrgService

namespace ValueTag

theorem ofText?_text (tag : ValueTag) : ofText? tag.text = some tag := by
  cases tag <;> decide

@[simp] theorem text_inj {tag tag' : ValueTag} : tag.text = tag'.text ↔ tag = tag' := by
  refine ⟨fun h ↦ ?_, congrArg text⟩
  have hread := ofText?_text tag
  rw [h, ofText?_text] at hread
  exact (Option.some.inj hread).symm

end ValueTag

namespace Value

/-- The values that documents stand for. -/
def IsDecodable (v : Value) : Prop := ∃ place raw, decode place raw = .ok v

/-- The values that are read from their own written form. -/
def IsReadable : Value → Prop
  | .absent => False
  | .aliased .. => False
  | .number (.decimal d) => Decimal.parse? d.toString = some d
  | .money d => Decimal.parse? d.toString = some d
  | .timestamp t => ∀ z, t.offset = some z → z.IsReadable
  | _ => True

theorem decode_tagged (tag : ValueTag) {payload : Json} {v : Value}
    (h : payload.readTagged? tag = .ok (some v)) (place : String) :
    decode place (.obj [(tag.text, payload)]) = .ok v := by
  simp only [decode, ValueTag.ofText?_text, h]

theorem readReference?_encode (logicalName : Json) (id : Guid) (name : Json) :
    Json.readReference? (.obj ([("logical_name", logicalName), ("id", .str id.toString)] ++
      match name with
      | .null => []
      | _ => [("name", name)])) = some (.reference logicalName id name) := by
  have hid := Guid.parse?_toString id
  cases name <;> simp [Json.readReference?, Json.member?, List.lookup_cons, Json.text?, hid]

theorem decode_encode {v : Value} (hv : v.IsReadable) (place : String) :
    decode place v.encode = .ok v := by
  cases v with
  | absent => exact hv.elim
  | aliased => exact hv.elim
  | null => rfl
  | text s => rfl
  | number n =>
      cases n with
      | boolean b => rfl
      | integer n => rfl
      | double x => rfl
      | decimal d =>
          have hread : Decimal.parse? d.toString = some d := hv
          refine decode_tagged .decimal ?_ place
          rw [Json.readTagged?, Json.plain, hread]
          rfl
  | money d =>
      have hread : Decimal.parse? d.toString = some d := hv
      refine decode_tagged .money ?_ place
      rw [Json.readTagged?, Json.plain, hread]
      rfl
  | guid g =>
      refine decode_tagged .guid ?_ place
      rw [Json.readTagged?, Json.text?, Option.bind_some, Guid.parse?_toString]
      rfl
  | date d =>
      refine decode_tagged .date ?_ place
      rw [Json.readTagged?, Json.text?, Option.bind_some, Date.parse?_toString]
      rfl
  | timestamp t =>
      refine decode_tagged .timestamp ?_ place
      rw [Json.readTagged?, Json.text?, Option.bind_some, Timestamp.parse?_toString hv]
      rfl
  | reference logicalName id name =>
      refine decode_tagged .reference ?_ place
      exact congrArg Except.ok (readReference?_encode logicalName id name)
  | option n => exact decode_tagged .option rfl place

theorem isReadable_of_readTagged? {tag : ValueTag} {payload : Json} {v : Value}
    (h : payload.readTagged? tag = .ok (some v)) : v.IsReadable := by
  cases tag with
  | reference =>
      obtain ⟨_, -, h⟩ := Option.bind_eq_some_iff.mp (Except.ok.inj h)
      obtain ⟨_, -, h⟩ := Option.bind_eq_some_iff.mp h
      obtain ⟨_, -, h⟩ := Option.bind_eq_some_iff.mp h
      obtain rfl := Option.some.inj h
      trivial
  | option =>
      obtain ⟨n, -, h⟩ := map_eq_ok_iff.mp h
      obtain ⟨_, -, rfl⟩ := Option.map_eq_some_iff.mp h
      trivial
  | money =>
      obtain ⟨d, hd, rfl⟩ := Option.map_eq_some_iff.mp (Except.ok.inj h)
      exact Decimal.parse?_toString_of_parse? hd
  | decimal =>
      obtain ⟨d, hd, rfl⟩ := Option.map_eq_some_iff.mp (Except.ok.inj h)
      exact Decimal.parse?_toString_of_parse? hd
  | guid =>
      obtain ⟨_, -, rfl⟩ := Option.map_eq_some_iff.mp (Except.ok.inj h)
      trivial
  | date =>
      obtain ⟨_, -, rfl⟩ := Option.map_eq_some_iff.mp (Except.ok.inj h)
      trivial
  | timestamp =>
      obtain ⟨t, ht, rfl⟩ := Option.map_eq_some_iff.mp (Except.ok.inj h)
      obtain ⟨_, -, ht⟩ := Option.bind_eq_some_iff.mp ht
      intro z hz
      exact Timestamp.isReadable_of_parse? ht hz

theorem isReadable_of_decode {place : String} {raw : Json} {v : Value}
    (h : decode place raw = .ok v) : v.IsReadable := by
  unfold decode at h
  split at h
  · obtain rfl := Except.ok.inj h; trivial
  · obtain rfl := Except.ok.inj h; trivial
  · obtain rfl := Except.ok.inj h; trivial
  · obtain rfl := Except.ok.inj h; trivial
  · obtain rfl := Except.ok.inj h; trivial
  · split at h
    · contradiction
    · split at h
      · contradiction
      · obtain rfl := Except.ok.inj h
        exact isReadable_of_readTagged? ‹_›
      · contradiction
  · contradiction

theorem isDecodable_iff {v : Value} : v.IsDecodable ↔ v.IsReadable :=
  ⟨fun ⟨_, _, h⟩ ↦ isReadable_of_decode h, fun h ↦ ⟨"", _, decode_encode h ""⟩⟩

theorem encode_reference_inj {logicalName logicalName' name name' : Json} {id id' : Guid} :
    (reference logicalName id name).encode = (reference logicalName' id' name').encode ↔
      reference logicalName id name = reference logicalName' id' name' := by
  have hid : id.toString = id'.toString ↔ id = id' :=
    ⟨Guid.toString_injective, congrArg Guid.toString⟩
  cases name <;> cases name' <;> simp [encode, hid]

/-- Different values are written differently: those of different kinds by their tags, those of
one kind by what is written of them. -/
theorem encode_inj {v w : Value} : v.encode = w.encode ↔ v = w := by
  have hguid : ∀ g h : Guid, g.toString = h.toString ↔ g = h :=
    fun _ _ ↦ ⟨Guid.toString_injective, congrArg Guid.toString⟩
  have hdate : ∀ d e : Date, d.toString = e.toString ↔ d = e :=
    fun _ _ ↦ ⟨Date.toString_injective, congrArg Date.toString⟩
  have htimestamp : ∀ t u : Timestamp, t.toString = u.toString ↔ t = u :=
    fun _ _ ↦ ⟨Timestamp.toString_injective, congrArg Timestamp.toString⟩
  have hdecimal : ∀ d e : Decimal, d.toString = e.toString ↔ d = e :=
    fun _ _ ↦ ⟨Decimal.toString_injective, congrArg Decimal.toString⟩
  induction v generalizing w with
  | reference =>
      cases w with
      | reference => exact encode_reference_inj
      | number n => cases n <;> simp [encode]
      | _ => simp [encode]
  | aliased _ _ _ ih =>
      cases w with
      | number n => cases n <;> simp [encode]
      | _ => simp [encode, ih]
  | number n =>
      cases w with
      | number m => cases n <;> cases m <;> simp [encode, hdecimal]
      | _ => cases n <;> simp [encode]
  | _ =>
      cases w with
      | number n => cases n <;> simp [encode]
      | _ => simp [encode, hguid, hdate, htimestamp, hdecimal]

end Value

namespace Record

/-- The records that documents stand for: every name is a text that is not empty, and documents
stand for every value. -/
structure IsDecodable (r : Record) : Prop where
  logicalName_ne : r.logicalName ≠ ""
  name_ne : ∀ e ∈ r.attributes.entries, e.1 ≠ ""
  isDecodable_value : ∀ e ∈ r.attributes.entries, e.2.IsDecodable

theorem decodeAttributes_encode {entries : List (String × Value)}
    (hvalues : ∀ e ∈ entries, e.2.IsDecodable) (place : String) :
    decodeAttributes place (entries.map fun e ↦ (e.1, e.2.encode)) =
      .ok (entries.map fun e ↦ (.str e.1, e.2)) := by
  induction entries with
  | nil => rfl
  | cons e entries ih =>
      obtain ⟨hvalue, hvalues⟩ := List.forall_mem_cons.mp hvalues
      have hread := Value.decode_encode (Value.isDecodable_iff.mp hvalue)
        (place ++ ".attributes." ++ e.1)
      simp only [List.map_cons, decodeAttributes, hread, ih hvalues]
      rfl

theorem nameAll_of_ne {entries : List (String × Value)} (hnames : ∀ e ∈ entries, e.1 ≠ "")
    (logicalName : String) :
    nameAll logicalName (entries.map fun e ↦ (.str e.1, e.2)) = .ok entries := by
  induction entries with
  | nil => rfl
  | cons e entries ih =>
      obtain ⟨hname, hnames⟩ := List.forall_mem_cons.mp hnames
      simp only [List.map_cons, nameAll, attributeName?, if_neg hname, ih hnames]
      rfl

theorem make_entries {r : Record} (hr : r.IsDecodable) :
    make (.str r.logicalName) r.id (r.attributes.entries.map fun e ↦ (.str e.1, e.2)) = .ok r := by
  have hname : checkLogicalName (.str r.logicalName) = .ok r.logicalName :=
    if_neg hr.logicalName_ne
  have hnamed := nameAll_of_ne hr.name_ne r.logicalName
  simp only [make, hname, bind, Except.bind, hnamed, OrderedMap.ofList_entries]

theorem readId_encode (r : Record) (place : String) : r.encode.readId place = .ok r.id := by
  cases hid : r.id with
  | none => simp [Json.readId, encode, Json.member?, List.lookup_cons, hid]
  | some id =>
      simp [Json.readId, encode, Json.member?, List.lookup_cons, hid, Guid.parse_toString]

theorem decode_encode {r : Record} (hr : r.IsDecodable) (place : String) :
    decode place r.encode = .ok r := by
  have hid := r.readId_encode place
  have hvalues := decodeAttributes_encode hr.isDecodable_value place
  unfold encode at hid ⊢
  simp [decode, List.lookup_cons, hid, bind, Except.bind, hvalues, make_entries hr]

theorem isDecodable_of_mem_decodeAttributes {place : String} {raws : List (String × Json)}
    {values : List (Json × Value)} (h : decodeAttributes place raws = .ok values) :
    ∀ p ∈ values, p.2.IsDecodable := by
  induction raws generalizing values with
  | nil =>
      obtain rfl := Except.ok.inj h
      exact List.forall_mem_nil _
  | cons e raws ih =>
      obtain ⟨v, hv, h⟩ := bind_eq_ok_iff.mp h
      obtain ⟨vs, hvs, h⟩ := bind_eq_ok_iff.mp h
      obtain rfl := Except.ok.inj h
      exact List.forall_mem_cons.mpr ⟨⟨_, _, hv⟩, ih hvs⟩

theorem eq_str_of_attributeName? {name : Json} {s : String} (h : attributeName? name = some s) :
    name = .str s ∧ s ≠ "" := by
  unfold attributeName? at h
  split at h
  · split at h
    · contradiction
    · obtain rfl := Option.some.inj h
      exact ⟨rfl, ‹_›⟩
  · contradiction

theorem ne_of_checkLogicalName {name : Json} {s : String} (h : checkLogicalName name = .ok s) :
    s ≠ "" := by
  unfold checkLogicalName at h
  split at h
  · split at h
    · contradiction
    · obtain rfl := Except.ok.inj h
      assumption
  · contradiction

theorem mem_of_mem_nameAll {logicalName : String} {values : List (Json × Value)}
    {named : List (String × Value)} (h : nameAll logicalName values = .ok named) :
    ∀ e ∈ named, e.1 ≠ "" ∧ (.str e.1, e.2) ∈ values := by
  induction values generalizing named with
  | nil =>
      obtain rfl := Except.ok.inj h
      exact List.forall_mem_nil _
  | cons p values ih =>
      obtain ⟨name, v⟩ := p
      rw [nameAll] at h
      cases hname : attributeName? name with
      | none => simp [hname] at h
      | some s =>
          simp only [hname] at h
          obtain ⟨rest, hrest, rfl⟩ := map_eq_ok_iff.mp h
          obtain ⟨rfl, hs⟩ := eq_str_of_attributeName? hname
          refine List.forall_mem_cons.mpr ⟨⟨hs, List.mem_cons_self⟩, fun e he ↦ ?_⟩
          exact (ih hrest e he).imp_right (List.mem_cons_of_mem _)

theorem isDecodable_of_make {name : Json} {id : Option Guid} {values : List (Json × Value)}
    {r : Record} (h : make name id values = .ok r) (hvalues : ∀ p ∈ values, p.2.IsDecodable) :
    r.IsDecodable := by
  obtain ⟨logicalName, hname, h⟩ := bind_eq_ok_iff.mp h
  obtain ⟨named, hnamed, h⟩ := bind_eq_ok_iff.mp h
  obtain rfl := Except.ok.inj h
  have hmem : ∀ e ∈ (OrderedMap.ofList named).entries, e.1 ≠ "" ∧ (.str e.1, e.2) ∈ values :=
    fun e he ↦ mem_of_mem_nameAll hnamed e
      (OrderedMap.mem_of_get?_ofList (OrderedMap.get?_of_mem he))
  exact ⟨ne_of_checkLogicalName hname, fun e he ↦ (hmem e he).1,
    fun e he ↦ hvalues _ (hmem e he).2⟩

/-- Reading makes decodable records only. -/
theorem isDecodable_of_decode {place : String} {raw : Json} {r : Record}
    (h : decode place raw = .ok r) : r.IsDecodable := by
  unfold decode at h
  split at h
  · split at h
    · obtain ⟨id, -, h⟩ := bind_eq_ok_iff.mp h
      split at h
      · contradiction
      · obtain ⟨values, hvalues, h⟩ := bind_eq_ok_iff.mp h
        split at h
        · obtain rfl := Except.ok.inj h
          exact isDecodable_of_make ‹_› (isDecodable_of_mem_decodeAttributes hvalues)
        · contradiction
    · contradiction
  · contradiction

theorem decodeFrom_encode {rs : List Record} (hrs : ∀ r ∈ rs, r.IsDecodable) (i : Nat) :
    decodeFrom i (rs.map encode) = .ok rs := by
  induction rs generalizing i with
  | nil => rfl
  | cons r rs ih =>
      obtain ⟨hr, hrs⟩ := List.forall_mem_cons.mp hrs
      simp only [List.map_cons, decodeFrom, decode_encode hr, ih hrs, bind, Except.bind]

theorem decodeSeed_encode {rs : List Record} (hrs : ∀ r ∈ rs, r.IsDecodable) :
    decodeSeed (.arr (rs.map encode)) = .ok rs := decodeFrom_encode hrs 0

theorem isDecodable_of_mem_decodeFrom {i : Nat} {raws : List Json} {rs : List Record}
    (h : decodeFrom i raws = .ok rs) : ∀ r ∈ rs, r.IsDecodable := by
  induction raws generalizing i rs with
  | nil =>
      obtain rfl := Except.ok.inj h
      exact List.forall_mem_nil _
  | cons raw raws ih =>
      obtain ⟨r, hr, h⟩ := bind_eq_ok_iff.mp h
      obtain ⟨rest, hrest, h⟩ := bind_eq_ok_iff.mp h
      obtain rfl := Except.ok.inj h
      exact List.forall_mem_cons.mpr ⟨isDecodable_of_decode hr, ih hrest⟩

/-- Every record of a seed that was read is decodable. -/
theorem isDecodable_of_mem_decodeSeed {raw : Json} {rs : List Record}
    (h : decodeSeed raw = .ok rs) : ∀ r ∈ rs, r.IsDecodable := by
  unfold decodeSeed at h
  split at h
  · exact isDecodable_of_mem_decodeFrom h
  · contradiction

end Record

/-- Reading undoes writing: for every value that some document stands for, and for every list of
records of such values. Writing tells all values apart, whether documents stand for them or not. -/
theorem decode_encode_and_encode_injective :
    (∀ (place place' : String) (raw : Json) (v : Value), Value.decode place raw = .ok v →
      Value.decode place' v.encode = .ok v) ∧
    (∀ rs : List Record, (∀ r ∈ rs, r.IsDecodable) →
      Record.decodeSeed (.arr (rs.map Record.encode)) = .ok rs) ∧
    ∀ v w : Value, v.encode = w.encode → v = w :=
  ⟨fun _ place' _ _ h ↦ Value.decode_encode (Value.isReadable_of_decode h) place',
    fun _ hrs ↦ Record.decodeSeed_encode hrs, fun _ _ h ↦ Value.encode_inj.mp h⟩

/-- A seed whose record holds an amount of minus zero thousands, a timestamp with an offset of
odd seconds, and a named reference. -/
def exampleSeed : Json :=
  .arr [.obj [("logical_name", .str "a"), ("attributes", .obj [
    ("paid", .obj [("$money", .str "-0e3")]),
    ("seen", .obj [("$datetime", .str "2024-02-29T23:59:59.000001-00:30:01.5")]),
    ("by", .obj [("$reference", .obj [("logical_name", .str "b"),
      ("id", .str "00000000-0000-0000-0000-00000000000a"), ("name", .str "n")])])])]]

def exampleRecord : Record :=
  ⟨"a", none, OrderedMap.ofList [
    ("paid", .money (.finite true 0 3)),
    ("seen", .timestamp ⟨⟨2024, 2, 29, by decide⟩, ⟨23, 59, 59, 1, by decide⟩,
      some ⟨-1801500000, by decide⟩⟩),
    ("by", .reference (.str "b") (.ofNat 10) (.str "n"))]⟩

theorem decode_encode_exampleRecord :
    Record.decodeSeed exampleSeed = .ok [exampleRecord] ∧
      Record.decodeSeed (.arr [exampleRecord.encode]) = .ok [exampleRecord] := by
  have hpaid : Decimal.parse? "-0e3" = some (.finite true 0 3) := by decide +kernel
  have hseen : Timestamp.parse? "2024-02-29T23:59:59.000001-00:30:01.5" =
      some ⟨⟨2024, 2, 29, by decide⟩, ⟨23, 59, 59, 1, by decide⟩,
        some ⟨-1801500000, by decide⟩⟩ := by decide +kernel
  have hby : Guid.parse? "00000000-0000-0000-0000-00000000000a" = some (.ofNat 10) := by
    decide +kernel
  have hread : Record.decodeSeed exampleSeed = .ok [exampleRecord] := by
    simp [exampleSeed, exampleRecord, Record.decodeSeed, Record.decodeFrom, Record.decode,
      Record.decodeAttributes, Value.decode, ValueTag.ofText?, ValueTag.all, ValueTag.text,
      Json.readId, Json.member?, Json.readTagged?, Json.plain, Json.text?, Json.readReference?,
      List.lookup_cons, bind, Except.bind, Except.map, Record.make, Record.checkLogicalName,
      Record.nameAll, Record.attributeName?, hpaid, hseen, hby]
  exact ⟨hread, decode_encode_and_encode_injective.2.1 _
    (Record.isDecodable_of_mem_decodeSeed hread)⟩

end OrgService
