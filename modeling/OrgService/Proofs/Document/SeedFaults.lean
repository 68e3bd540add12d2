import Mathlib
import OrgService.Document.Seed
import OrgService.Proofs.Trace

/-!
# Faults of seed documents

Reading a value fails at the place that was given for it. Reading a seed fails within the first of
its records that describes nothing on its own. The one exception is an option whose number is an
infinity, on which reading breaks down.
-/

namespace OrgService

/-- What comes of reading a document, whatever its place: the same everywhere, an error at a part
of the place, or a breakdown over an infinity. -/
inductive Outcome {α : Type} (parts : String → Prop) (overflows : Prop)
    (read : String → Except Fault α) : Prop
  | ok (a : α) (h : ∀ place, read place = .ok a)
  | fault (part reason : String) (hpart : parts part)
    (h : ∀ place, read place = .error (.document (place ++ part) reason))
  | overflow (hoverflows : overflows)
    (h : ∀ place, read place = .error (.breakdown .infiniteInteger))

namespace Outcome

variable {α β : Type} {parts parts' : String → Prop} {overflows overflows' : Prop}
  {read : String → Except Fault α}

theorem mono (h : Outcome parts overflows read) (hparts : ∀ part, parts part → parts' part)
    (hoverflows : overflows → overflows') : Outcome parts' overflows' read := by
  cases h with
  | ok a h => exact .ok a h
  | fault part reason hpart h => exact .fault part reason (hparts part hpart) h
  | overflow ho h => exact .overflow (hoverflows ho) h

theorem bind {f : String → α → Except Fault β} (h : Outcome parts overflows read)
    (hf : ∀ a, (∀ place, read place = .ok a) → Outcome parts overflows (f · a)) :
    Outcome parts overflows fun place ↦ read place >>= f place := by
  cases h with
  | ok a h =>
      have hnext : (fun place ↦ read place >>= f place) = (f · a) := by
        funext place
        rw [h place]
        rfl
      exact hnext ▸ hf a h
  | fault part reason hpart h =>
      exact .fault part reason hpart fun place ↦ bind_eq_error_iff.mpr (.inl (h place))
  | overflow ho h => exact .overflow ho fun place ↦ bind_eq_error_iff.mpr (.inl (h place))

/-- An error at the place itself. -/
theorem error (h : parts "") (reason : String) :
    Outcome parts overflows fun place ↦ (.error (.document place reason) : Except Fault α) :=
  .fault "" reason h fun place ↦ by rw [String.append_empty]

/-- What is read at one place is read at every place. -/
theorem eq_ok (h : Outcome parts overflows read) {place : String} {a : α}
    (ha : read place = .ok a) (place' : String) : read place' = .ok a := by
  cases h with
  | ok b h => rw [h, ← ha, h]
  | fault part reason _ h => rw [h] at ha; contradiction
  | overflow _ h => rw [h] at ha; contradiction

end Outcome

/-! ## Values -/

theorem ValueTag.eq_text_of_ofText? {s : String} {tag : ValueTag} (h : ofText? s = some tag) :
    s = tag.text := by
  unfold ofText? at h
  have htext := List.find?_some h
  exact (eq_of_beq htext).symm

namespace Json

/-- An option whose number is an infinity. -/
def IsInfiniteOption (raw : Json) : Prop :=
  ∃ negative, raw = .obj [("$option", .double (.infinity negative))]

theorem readInteger?_eq_error_iff {raw : Json} {cause : Breakdown} :
    raw.readInteger? = .error cause ↔
      cause = .infiniteInteger ∧ ∃ negative, raw = .double (.infinity negative) := by
  cases raw with
  | double x => cases x <;> simp [readInteger?, eq_comm]
  | _ => simp [readInteger?]

theorem readTagged?_eq_error_iff {tag : ValueTag} {payload : Json} {cause : Breakdown} :
    payload.readTagged? tag = .error cause ↔
      tag = .option ∧ payload.readInteger? = .error cause := by
  cases tag <;> simp [readTagged?, map_eq_error_iff]

theorem outcome_readId (raw : Json) : Outcome (Eq "") False raw.readId := by
  unfold readId
  split
  · exact .ok none fun _ ↦ rfl
  · exact .ok none fun _ ↦ rfl
  · split
    · exact .ok _ fun _ ↦ rfl
    · exact .error rfl _
  · exact .error rfl _

end Json

namespace Value

theorem outcome_decode (raw : Json) : Outcome (Eq "") raw.IsInfiniteOption (decode · raw) := by
  unfold decode
  split
  · exact .ok _ fun _ ↦ rfl
  · exact .ok _ fun _ ↦ rfl
  · exact .ok _ fun _ ↦ rfl
  · exact .ok _ fun _ ↦ rfl
  · exact .ok _ fun _ ↦ rfl
  · split
    · exact .error rfl _
    · rename_i tag payload t ht
      split
      · rename_i htagged
        obtain ⟨rfl, hinteger⟩ := Json.readTagged?_eq_error_iff.mp htagged
        obtain ⟨rfl, negative, rfl⟩ := Json.readInteger?_eq_error_iff.mp hinteger
        obtain rfl := ValueTag.eq_text_of_ofText? ht
        exact .overflow ⟨negative, rfl⟩ fun _ ↦ rfl
      · exact .ok _ fun _ ↦ rfl
      · exact .error rfl _
  · exact .error rfl _

theorem decode_of_isInfiniteOption {raw : Json} (h : raw.IsInfiniteOption) (place : String) :
    decode place raw = .error (.breakdown .infiniteInteger) := by
  obtain ⟨negative, rfl⟩ := h
  rfl

end Value

/-! ## Records -/

namespace Record

/-- A document that describes a record on its own. -/
def Describes (raw : Json) (r : Record) : Prop := decodeSeed (.arr [raw]) = .ok [r]

/-- Attributes of which one is an infinite option, behind others that can be read. -/
def AttributesOverflow (attributes : List (String × Json)) : Prop :=
  ∃ before name option after, attributes = before ++ (name, option) :: after ∧
    (∀ e ∈ before, ∃ v, Value.decode "" e.2 = .ok v) ∧ option.IsInfiniteOption

/-- A record with attributes that overflow and with whatever is read before them. -/
inductive Overflows : Json → Prop
  | intro {members attributes : List (String × Json)} {id : Option Guid} {logicalName : Json}
      (hattributes : members.lookup "attributes" = some (.obj attributes))
      (hid : (Json.obj members).readId "" = .ok id)
      (hlogicalName : members.lookup "logical_name" = some logicalName)
      (h : AttributesOverflow attributes) : Overflows (.obj members)

theorem outcome_decodeAttributes (attributes : List (String × Json)) :
    Outcome (fun _ ↦ True) (AttributesOverflow attributes) (decodeAttributes · attributes) := by
  induction attributes with
  | nil => exact .ok [] fun _ ↦ rfl
  | cons e attributes ih =>
      obtain ⟨name, value⟩ := e
      have hvalue : Outcome (fun _ ↦ True) (AttributesOverflow ((name, value) :: attributes))
          fun place ↦ Value.decode (place ++ ".attributes." ++ name) value := by
        cases Value.outcome_decode value with
        | ok v h => exact .ok v fun place ↦ h _
        | fault part reason hpart h =>
            refine .fault (".attributes." ++ name) reason trivial fun place ↦ ?_
            rw [h, ← hpart, String.append_empty, String.append_assoc]
        | overflow ho h =>
            exact .overflow ⟨[], name, value, attributes, rfl, by simp, ho⟩ fun _ ↦ h _
      refine hvalue.bind fun v hv ↦ ?_
      refine Outcome.bind (ih.mono (fun _ _ ↦ trivial) ?_) fun vs _ ↦ .ok _ fun _ ↦ rfl
      rintro ⟨before, name', option, after, rfl, hbefore, hoption⟩
      refine ⟨(name, value) :: before, name', option, after, rfl, ?_, hoption⟩
      exact List.forall_mem_cons.mpr ⟨⟨v, (Value.outcome_decode value).eq_ok (hv "") ""⟩, hbefore⟩

theorem AttributesOverflow.decodeAttributes {attributes : List (String × Json)}
    (h : AttributesOverflow attributes) (place : String) :
    decodeAttributes place attributes = .error (.breakdown .infiniteInteger) := by
  obtain ⟨before, name, option, after, rfl, hbefore, hoption⟩ := h
  induction before with
  | nil => exact bind_eq_error_iff.mpr (.inl (Value.decode_of_isInfiniteOption hoption _))
  | cons e before ih =>
      obtain ⟨⟨v, hv⟩, hbefore⟩ := List.forall_mem_cons.mp hbefore
      have hread := (Value.outcome_decode e.2).eq_ok hv (place ++ ".attributes." ++ e.1)
      refine bind_eq_error_iff.mpr (.inr ⟨v, hread, ?_⟩)
      exact bind_eq_error_iff.mpr (.inl (ih hbefore))

theorem outcome_decode (raw : Json) :
    Outcome (fun _ ↦ True) (Overflows raw) (decode · raw) := by
  unfold decode
  split
  · rename_i members
    split
    · rename_i attributes hattributes
      refine Outcome.bind ((Json.outcome_readId _).mono (fun _ _ ↦ trivial) False.elim) ?_
      intro id hid
      split
      · exact .error trivial _
      · rename_i logicalName hlogicalName
        refine Outcome.bind ((outcome_decodeAttributes attributes).mono (fun _ h ↦ h) ?_) ?_
        · intro h
          refine .intro ?_ (hid "") hlogicalName h
          cases hmember : members.lookup "attributes" with
          | some found => simpa [hmember] using hattributes
          | none =>
              obtain rfl : [] = attributes := by simpa [hmember] using hattributes
              obtain ⟨before, name, option, after, heq, -⟩ := h
              simp at heq
        · intro values _
          split
          · exact .ok _ fun _ ↦ rfl
          · exact .error trivial _
    · exact .fault ".attributes" _ trivial fun _ ↦ rfl
  · exact .error trivial _

theorem decode_of_overflows {raw : Json} (h : Overflows raw) (place : String) :
    decode place raw = .error (.breakdown .infiniteInteger) := by
  obtain ⟨hattributes, hid, hlogicalName, h⟩ := h
  have hread := (Json.outcome_readId _).eq_ok hid place
  simp only [decode, hattributes, Option.getD_some, hlogicalName]
  refine bind_eq_error_iff.mpr (.inr ⟨_, hread, ?_⟩)
  exact bind_eq_error_iff.mpr (.inl (h.decodeAttributes place))

/-! ## Seeds -/

def placeAt (i : Nat) : String := "records[" ++ toString i ++ "]"

theorem decodeFrom_cons_eq_ok_iff {i : Nat} {raw : Json} {items : List Json} {rs : List Record} :
    decodeFrom i (raw :: items) = .ok rs ↔
      ∃ r rest, decode (placeAt i) raw = .ok r ∧ decodeFrom (i + 1) items = .ok rest ∧
        rs = r :: rest := by
  simp only [decodeFrom, bind_eq_ok_iff, Except.ok.injEq]
  constructor
  · rintro ⟨r, hr, rest, hrest, rfl⟩
    exact ⟨r, rest, hr, hrest, rfl⟩
  · rintro ⟨r, rest, hr, hrest, rfl⟩
    exact ⟨r, hr, rest, hrest, rfl⟩

theorem describes_iff {raw : Json} {r : Record} :
    Describes raw r ↔ ∀ place, decode place raw = .ok r := by
  have hsingle : Describes raw r ↔ decode (placeAt 0) raw = .ok r := by
    rw [Describes, decodeSeed, decodeFrom_cons_eq_ok_iff]
    simp [decodeFrom, eq_comm]
  rw [hsingle]
  exact ⟨fun h ↦ (outcome_decode raw).eq_ok h, fun h ↦ h _⟩

theorem decodeFrom_eq_ok_iff {i : Nat} {items : List Json} {rs : List Record} :
    decodeFrom i items = .ok rs ↔ List.Forall₂ Describes items rs := by
  induction items generalizing i rs with
  | nil => simp [decodeFrom, eq_comm]
  | cons raw items ih =>
      simp only [decodeFrom_cons_eq_ok_iff, ih, List.forall₂_cons_left_iff, describes_iff]
      constructor
      · rintro ⟨r, rest, hr, hrest, rfl⟩
        exact ⟨r, rest, (outcome_decode raw).eq_ok hr, hrest, rfl⟩
      · rintro ⟨r, rest, hr, hrest, rfl⟩
        exact ⟨r, rest, hr _, hrest, rfl⟩

/-- Reading a seed fails as the first of its records does that describes nothing. -/
theorem decodeFrom_eq_error_iff {i : Nat} {items : List Json} {fault : Fault} :
    decodeFrom i items = .error fault ↔
      ∃ earlier raw later, items = earlier ++ raw :: later ∧
        (∀ x ∈ earlier, ∃ r, Describes x r) ∧
        decode (placeAt (i + earlier.length)) raw = .error fault := by
  induction items generalizing i with
  | nil => simp [decodeFrom]
  | cons raw items ih =>
      have hcons : decodeFrom i (raw :: items) = .error fault ↔
          decode (placeAt i) raw = .error fault ∨
            (∃ r, decode (placeAt i) raw = .ok r) ∧ decodeFrom (i + 1) items = .error fault := by
        simp [decodeFrom, placeAt, bind_eq_error_iff]
      rw [hcons, ih]
      constructor
      · rintro (h | ⟨⟨r, hr⟩, earlier, raw', later, rfl, hearlier, h⟩)
        · exact ⟨[], raw, items, rfl, by simp, h⟩
        · have hraw : ∃ r, Describes raw r := ⟨r, describes_iff.mpr ((outcome_decode raw).eq_ok hr)⟩
          refine ⟨raw :: earlier, raw', later, rfl, List.forall_mem_cons.mpr ⟨hraw, hearlier⟩, ?_⟩
          rwa [List.length_cons, Nat.add_comm earlier.length, ← Nat.add_assoc]
      · rintro ⟨earlier, raw', later, heq, hearlier, h⟩
        cases earlier with
        | nil =>
            obtain ⟨rfl, rfl⟩ := List.cons_eq_cons.mp heq
            exact .inl h
        | cons x earlier =>
            obtain ⟨rfl, rfl⟩ := List.cons_eq_cons.mp heq
            obtain ⟨⟨r, hr⟩, hearlier⟩ := List.forall_mem_cons.mp hearlier
            refine .inr ⟨⟨r, describes_iff.mp hr _⟩, earlier, raw', later, rfl, hearlier, ?_⟩
            rwa [List.length_cons, Nat.add_comm earlier.length, ← Nat.add_assoc] at h

end Record

/-- A value that cannot be read is an error at the place it was given. A seed is read as the
records that its items describe each on its own; if some item describes none, the error lies within
the first such item. The exception is an infinite option, as a value or as the first attribute of
that item that cannot be read: reading breaks down over it. -/
theorem decode_and_decodeSeed_faults (place : String) (raw : Json) :
    ((raw.IsInfiniteOption ∧ Value.decode place raw = .error (.breakdown .infiniteInteger)) ∨
      ¬raw.IsInfiniteOption ∧ ((∃ v, Value.decode place raw = .ok v) ∨
        ∃ reason, Value.decode place raw = .error (.document place reason))) ∧
    ((∀ items, raw ≠ .arr items) →
      Record.decodeSeed raw = .error (.document "records" "expected a list of records")) ∧
    ∀ items, raw = .arr items →
      (∃ rs, Record.decodeSeed raw = .ok rs ∧ List.Forall₂ Record.Describes items rs) ∨
      ∃ earlier item later, items = earlier ++ item :: later ∧
        (∀ x ∈ earlier, ∃ r, Record.Describes x r) ∧ (∀ r, ¬Record.Describes item r) ∧
        ((Record.Overflows item ∧
            Record.decodeSeed raw = .error (.breakdown .infiniteInteger)) ∨
          ¬Record.Overflows item ∧ ∃ part reason, Record.decodeSeed raw =
            .error (.document ("records[" ++ toString earlier.length ++ "]" ++ part) reason)) := by
  refine ⟨?_, fun hraw ↦ ?_, ?_⟩
  · by_cases hinfinite : raw.IsInfiniteOption
    · exact .inl ⟨hinfinite, Value.decode_of_isInfiniteOption hinfinite place⟩
    · refine .inr ⟨hinfinite, ?_⟩
      cases Value.outcome_decode raw with
      | ok v h => exact .inl ⟨v, h place⟩
      | fault part reason hpart h =>
          rw [h place, ← hpart, String.append_empty]
          exact .inr ⟨reason, rfl⟩
      | overflow ho _ => exact absurd ho hinfinite
  · unfold Record.decodeSeed
    split
    · exact absurd rfl (hraw _)
    · rfl
  · rintro items rfl
    cases hread : Record.decodeSeed (.arr items) with
    | ok rs => exact .inl ⟨rs, rfl, Record.decodeFrom_eq_ok_iff.mp hread⟩
    | error fault =>
        obtain ⟨earlier, item, later, rfl, hearlier, hfails⟩ :=
          Record.decodeFrom_eq_error_iff.mp hread
        rw [Nat.zero_add] at hfails
        refine .inr ⟨earlier, item, later, rfl, hearlier, fun r hr ↦ ?_, ?_⟩
        · rw [Record.describes_iff.mp hr] at hfails
          contradiction
        · by_cases hoverflows : Record.Overflows item
          · rw [Record.decode_of_overflows hoverflows] at hfails
            exact .inl ⟨hoverflows, congrArg Except.error (Except.error.inj hfails).symm⟩
          · refine .inr ⟨hoverflows, ?_⟩
            cases Record.outcome_decode item with
            | ok r h => rw [h] at hfails; contradiction
            | fault part reason _ h =>
                rw [h] at hfails
                exact ⟨part, reason, congrArg Except.error (Except.error.inj hfails).symm⟩
            | overflow ho _ => exact absurd ho hoverflows

/-- What stands in a document as an option with the number `1e400`. -/
def infiniteOption : Json := .obj [("$option", .double (.infinity false))]

/-- An infinite option makes no value, and no error tells where it stands. -/
theorem not_located_infiniteOption :
    Json.parse "\x7b\"$option\": 1e400\x7d" = .ok infiniteOption ∧
      (∀ v, Value.decode "value" infiniteOption ≠ .ok v) ∧
      ∀ reason, Value.decode "value" infiniteOption ≠ .error (.document "value" reason) := by
  have hinfinite : infiniteOption.IsInfiniteOption := ⟨false, rfl⟩
  have hread := Value.decode_of_isInfiniteOption hinfinite
  exact ⟨by cbv, by simp [hread], by simp [hread]⟩

end OrgService
