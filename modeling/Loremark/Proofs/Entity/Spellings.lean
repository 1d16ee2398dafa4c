import Loremark.Entity.Record
import Loremark.Proofs.Results
import Mathlib.Data.List.Forall2
import Mathlib.Data.List.Nodup

/-!
# Spellings of fields

A payload names a declared field by either of two keys. As long as it does so only once, the key
that is looked for first makes no difference: a field is found wherever one of its keys stands
(`Field.find?_eq`), and what is kept as received are the entries under all other keys
(`without_usedKeys`). So a payload and the same payload in other spellings are read as one record.
-/

set_option autoImplicit false

namespace Loremark.Entity

/-- The keys that a field is found under, the one that is looked for first in front. -/
def Field.keys (field : Field) : List Text := [field.spelling.toList, field.name.toList]

/-- An entry of a field as the key and the value that it gives. -/
def Field.pick? (field : Field) : Value × Value → Option (Text × Value)
  | (.text key, value) => if key ∈ field.keys then some (key, value) else none
  | _ => none

/-- Whether an entry is one of a field. -/
def Field.isEntry (field : Field) (entry : Value × Value) : Bool := (field.pick? entry).isSome

/-- No declared field stands in a payload under both of its spellings. -/
def SpelledOnce (kind : Kind) (payload : Entries) : Prop :=
  ∀ field ∈ fields kind, field.spelling ≠ field.name →
    ¬ (.text field.spelling.toList ∈ payload.map Prod.fst ∧
      .text field.name.toList ∈ payload.map Prod.fst)

/-- An entry as it is, or that of a declared field under any of the keys of the field. -/
inductive Respelled (kind : Kind) : Value × Value → Value × Value → Prop
  | kept (entry : Value × Value) : Respelled kind entry entry
  | moved {field : Field} (declared : field ∈ fields kind) {key other : Text}
      (ofField : key ∈ field.keys) (otherOfField : other ∈ field.keys) (value : Value) :
      Respelled kind (.text key, value) (.text other, value)

/-! ## Entries of a field -/

section Entries

variable {field : Field} {payload : Entries} {entry : Value × Value} {key : Text} {value : Value}

/-- A field picks an entry exactly if it stands under one of the keys of the field. -/
theorem Field.pick?_eq_some_iff :
    field.pick? entry = some (key, value) ↔ entry = (.text key, value) ∧ key ∈ field.keys := by
  constructor
  · intro picked
    rw [Field.pick?.eq_def] at picked
    split at picked
    · split at picked
      · next ofField =>
        cases picked
        exact ⟨rfl, ofField⟩
      · cases picked
    · cases picked
  · rintro ⟨rfl, ofField⟩
    exact if_pos ofField

/-- An entry is one of a field exactly if it stands under one of its keys. -/
theorem Field.isEntry_iff :
    field.isEntry entry = true ↔ ∃ key ∈ field.keys, entry.1 = .text key := by
  rw [isEntry, Option.isSome_iff_exists]
  constructor
  · rintro ⟨⟨key, value⟩, picked⟩
    obtain ⟨rfl, ofField⟩ := pick?_eq_some_iff.mp picked
    exact ⟨key, ofField, rfl⟩
  · rintro ⟨key, ofField, named⟩
    exact ⟨(key, entry.2), pick?_eq_some_iff.mpr ⟨Prod.ext named rfl, ofField⟩⟩

/-- The first entry under a key is found. -/
theorem get?_cons_self : Value.get? key ((.text key, value) :: payload) = some value := by
  rw [Value.get?, if_pos (beq_self_eq_true key)]

/-- An entry under another key is passed over. -/
theorem get?_cons_of_ne (other : entry.1 ≠ .text key) :
    Value.get? key (entry :: payload) = Value.get? key payload := by
  obtain ⟨k, value⟩ := entry
  cases k with
  | text k =>
    have differs : ¬ (k == key) = true := fun same => other (congrArg Value.text (eq_of_beq same))
    rw [Value.get?, if_neg differs]
  | _ => rfl

/-- Nothing is found under a key that no entry has. -/
theorem get?_eq_none (free : ∀ entry ∈ payload, entry.1 ≠ .text key) :
    Value.get? key payload = none := by
  induction payload with
  | nil => rfl
  | cons entry payload ih =>
    rw [get?_cons_of_ne (free entry List.mem_cons_self)]
    exact ih fun other mem => free other (List.mem_cons_of_mem entry mem)

/-- A field with at most one entry is found where the entry stands, under whichever key. -/
theorem Field.find?_eq (once : payload.countP field.isEntry ≤ 1) :
    field.find? payload = payload.findSome? field.pick? := by
  induction payload with
  | nil => rfl
  | cons entry payload ih =>
    cases picked : field.pick? entry with
    | none =>
      have foreign : field.isEntry entry = false := by rw [isEntry, picked]; rfl
      have other {key : Text} (ofField : key ∈ field.keys) : entry.1 ≠ .text key := by
        intro named
        rw [isEntry_iff.mpr ⟨key, ofField, named⟩] at foreign
        cases foreign
      rw [List.countP_cons_of_neg (by rw [foreign]; exact Bool.false_ne_true)] at once
      rw [List.findSome?_cons_of_isNone (by rw [picked]; rfl), ← ih once, find?,
        get?_cons_of_ne (other (by simp [keys])), get?_cons_of_ne (other (by simp [keys])), find?]
    | some found =>
      obtain ⟨key, value⟩ := found
      obtain ⟨rfl, ofField⟩ := pick?_eq_some_iff.mp picked
      -- No other entry is one of the field, so neither key is found behind this one.
      rw [List.countP_cons_of_pos (isEntry_iff.mpr ⟨key, ofField, rfl⟩)] at once
      have alone : payload.countP field.isEntry = 0 := by omega
      have absent {key : Text} (ofField : key ∈ field.keys) : Value.get? key payload = none := by
        apply get?_eq_none
        intro entry mem named
        exact List.countP_eq_zero.mp alone entry mem (isEntry_iff.mpr ⟨key, ofField, named⟩)
      rw [List.findSome?_cons_of_isSome (by rw [picked]; rfl), picked, find?]
      by_cases first : key = field.spelling.toList
      · rw [first, get?_cons_self]
      · have second : key = field.name.toList := by simpa [keys, first] using ofField
        rw [get?_cons_of_ne (by simpa using first), absent (by simp [keys]), second, get?_cons_self]
        rfl

end Entries

/-! ## Payloads with one entry a field -/

/-- Where no key stands twice and a field stands under one key only, it has at most one entry. -/
theorem countP_isEntry_le {field : Field} {payload : Entries}
    (distinct : (payload.map Prod.fst).Nodup)
    (single : ∀ key ∈ field.keys, ∀ other ∈ field.keys, .text key ∈ payload.map Prod.fst →
      .text other ∈ payload.map Prod.fst → key = other) :
    payload.countP field.isEntry ≤ 1 := by
  induction payload with
  | nil => exact Nat.zero_le 1
  | cons entry payload ih =>
    rw [List.map_cons, List.nodup_cons] at distinct
    by_cases ofField : field.isEntry entry = true
    · obtain ⟨key, isKey, named⟩ := Field.isEntry_iff.mp ofField
      -- Another entry of the field would stand under the same key.
      have alone : payload.countP field.isEntry = 0 := by
        rw [List.countP_eq_zero]
        intro next mem again
        obtain ⟨other, isOther, nextNamed⟩ := Field.isEntry_iff.mp again
        have inPayload : .text other ∈ payload.map Prod.fst := by
          rw [← nextNamed]
          exact List.mem_map_of_mem mem
        have same : key = other := by
          apply single key isKey other isOther
          · rw [List.map_cons, named]
            exact List.mem_cons_self
          · exact List.mem_cons_of_mem _ inPayload
        apply distinct.1
        rw [named, same]
        exact inPayload
      exact Nat.le_of_eq ((List.countP_cons_of_pos ofField).trans (congrArg (· + 1) alone))
    · rw [List.countP_cons_of_neg ofField]
      apply ih distinct.2
      intro key isKey other isOther here there
      exact single key isKey other isOther (List.mem_cons_of_mem _ here)
        (List.mem_cons_of_mem _ there)

/-- The declared fields of a payload have at most one entry each. -/
def OneEach (kind : Kind) (payload : Entries) : Prop :=
  ∀ field ∈ fields kind, payload.countP field.isEntry ≤ 1

/-- A payload that spells every field once has at most one entry of each. -/
theorem SpelledOnce.oneEach {kind : Kind} {payload : Entries}
    (distinct : (payload.map Prod.fst).Nodup) (once : SpelledOnce kind payload) :
    OneEach kind payload := by
  intro field declared
  apply countP_isEntry_le distinct
  intro key isKey other isOther here there
  by_contra differs
  have two : field.spelling ≠ field.name := by
    intro same
    simp only [Field.keys, same, List.mem_cons, List.not_mem_nil, or_false, or_self]
      at isKey isOther
    exact differs (isKey.trans isOther.symm)
  apply once field declared two
  simp only [Field.keys, List.mem_cons, List.not_mem_nil, or_false] at isKey isOther
  rcases isKey with rfl | rfl <;> rcases isOther with rfl | rfl
  · exact absurd rfl differs
  · exact ⟨here, there⟩
  · exact ⟨there, here⟩
  · exact absurd rfl differs

/-- A payload with one entry a field has each field where its entry stands. -/
theorem findSome?_pick? {field : Field} {payload : Entries} {entry : Value × Value}
    (once : payload.countP field.isEntry ≤ 1) (mem : entry ∈ payload)
    (ofField : field.isEntry entry = true) :
    payload.findSome? field.pick? = field.pick? entry := by
  induction payload with
  | nil => cases mem
  | cons head payload ih =>
    rcases List.mem_cons.mp mem with rfl | later
    · exact List.findSome?_cons_of_isSome ofField
    · have foreign : field.isEntry head = false := by
        by_contra first
        rw [List.countP_cons_of_pos (by simpa using first)] at once
        have alone : payload.countP field.isEntry = 0 := by omega
        exact List.countP_eq_zero.mp alone entry later ofField
      rw [List.countP_cons_of_neg (by rw [foreign]; exact Bool.false_ne_true)] at once
      rw [List.findSome?_cons_of_isNone (by simpa [Field.isEntry] using foreign), ih once later]

/-- The keys that fields were found under are those of the entries of declared fields. -/
theorem mem_usedKeys_iff {kind : Kind} {payload : Entries} (once : OneEach kind payload)
    {key : Text} {value : Value} (mem : (.text key, value) ∈ payload) :
    key ∈ usedKeys kind payload ↔ ∃ field ∈ fields kind, key ∈ field.keys := by
  simp only [usedKeys, List.mem_filterMap, Option.map_eq_some_iff, Prod.exists]
  constructor
  · rintro ⟨field, declared, key, value, found, rfl⟩
    rw [Field.find?_eq (once field declared)] at found
    obtain ⟨entry, -, picked⟩ := List.exists_of_findSome?_eq_some found
    exact ⟨field, declared, (Field.pick?_eq_some_iff.mp picked).2⟩
  · rintro ⟨field, declared, ofField⟩
    refine ⟨field, declared, key, value, ?_, rfl⟩
    have isEntry : field.isEntry (.text key, value) = true :=
      Field.isEntry_iff.mpr ⟨key, ofField, rfl⟩
    rw [Field.find?_eq (once field declared), findSome?_pick? (once field declared) mem isEntry,
      Field.pick?_eq_some_iff]
    exact ⟨rfl, ofField⟩

/-- Whether an entry is one of a declared field. -/
def isDeclared (kind : Kind) (entry : Value × Value) : Bool :=
  (fields kind).any (·.isEntry entry)

/-- What is kept as received are the entries of no declared field. -/
theorem without_usedKeys {kind : Kind} {payload : Entries} (once : OneEach kind payload) :
    without (usedKeys kind payload) payload = payload.filter (!isDeclared kind ·) := by
  apply List.filter_congr
  rintro ⟨key, value⟩ mem
  have declared_iff : isDeclared kind (key, value) = true ↔
      ∃ field ∈ fields kind, ∃ name ∈ field.keys, key = .text name := by
    simp only [isDeclared, List.any_eq_true, Field.isEntry_iff]
  cases key with
  | text key =>
    have same : (usedKeys kind payload).contains key = isDeclared kind (.text key, value) := by
      rw [Bool.eq_iff_iff, List.contains_iff_mem, mem_usedKeys_iff once mem, declared_iff]
      simp
    exact congrArg (!·) same
  | _ =>
    symm
    rw [Bool.not_eq_true', Bool.eq_false_iff, Ne, declared_iff]
    simp

/-! ## Other spellings -/

/-- The declared fields of a kind share no key. -/
theorem field_eq_of_mem_keys {kind : Kind} {field other : Field} {key : Text}
    (declared : field ∈ fields kind) (otherDeclared : other ∈ fields kind)
    (ofField : key ∈ field.keys) (ofOther : key ∈ other.keys) : field = other := by
  have apart : ∀ f ∈ fields kind, ∀ g ∈ fields kind, ∀ key ∈ f.keys, key ∈ g.keys →
      f.name = g.name ∧ f.spelling = g.spelling := by
    cases kind <;> decide
  obtain ⟨name, spelling⟩ := apart field declared other otherDeclared key ofField ofOther
  cases field
  cases other
  cases name
  cases spelling
  rfl

section Respelled

variable {kind : Kind} {field : Field} {payload other : Entries}

/-- A respelled entry gives a declared field the same value. -/
theorem Respelled.pick?_value {entry otherEntry : Value × Value}
    (respelled : Respelled kind entry otherEntry) (declared : field ∈ fields kind) :
    (field.pick? entry).map Prod.snd = (field.pick? otherEntry).map Prod.snd := by
  cases respelled with
  | kept => rfl
  | @moved source sourceDeclared key moved ofSource movedOfSource value =>
    by_cases same : field = source
    · subst same
      rw [Field.pick?_eq_some_iff.mpr ⟨rfl, ofSource⟩,
        Field.pick?_eq_some_iff.mpr ⟨rfl, movedOfSource⟩]
      rfl
    · have foreign {key : Text} (ofSource : key ∈ source.keys) :
          field.pick? (.text key, value) = none := by
        apply if_neg
        intro ofField
        exact same (field_eq_of_mem_keys declared sourceDeclared ofField ofSource)
      rw [foreign ofSource, foreign movedOfSource]

/-- A respelled entry belongs to the same declared fields. -/
theorem Respelled.isEntry_eq {entry otherEntry : Value × Value}
    (respelled : Respelled kind entry otherEntry) (declared : field ∈ fields kind) :
    field.isEntry entry = field.isEntry otherEntry := by
  have same := congrArg Option.isSome (respelled.pick?_value declared)
  rwa [Option.isSome_map, Option.isSome_map] at same

/-- A respelled payload has at most one entry of each field if the payload has. -/
theorem OneEach.respelled (once : OneEach kind payload)
    (respelled : List.Forall₂ (Respelled kind) payload other) : OneEach kind other := by
  intro field declared
  have same : payload.countP field.isEntry = other.countP field.isEntry := by
    clear once
    induction respelled with
    | nil => rfl
    | cons first _ ih => rw [List.countP_cons, List.countP_cons, ih, first.isEntry_eq declared]
  rw [← same]
  exact once field declared

/-- A field has the same value in other spellings. -/
theorem find?_respelled (once : OneEach kind payload)
    (respelled : List.Forall₂ (Respelled kind) payload other) (declared : field ∈ fields kind) :
    (field.find? payload).map Prod.snd = (field.find? other).map Prod.snd := by
  rw [Field.find?_eq (once field declared),
    Field.find?_eq (once.respelled respelled field declared)]
  clear once
  induction respelled with
  | nil => rfl
  | @cons entry otherEntry rest otherRest first _ ih =>
    have same := first.pick?_value declared
    rw [List.findSome?_cons, List.findSome?_cons]
    cases picked : field.pick? entry with
    | none =>
      rw [picked, Option.map_none, eq_comm, Option.map_eq_none_iff] at same
      rw [same]
      exact ih
    | some found =>
      rw [picked] at same
      obtain ⟨otherFound, otherPicked, value⟩ := Option.map_eq_some_iff.mp same.symm
      rw [otherPicked]
      exact congrArg some value.symm

/-- What is kept as received is the same in other spellings. -/
theorem without_respelled (once : OneEach kind payload)
    (respelled : List.Forall₂ (Respelled kind) payload other) :
    without (usedKeys kind payload) payload = without (usedKeys kind other) other := by
  rw [without_usedKeys once, without_usedKeys (once.respelled respelled)]
  clear once
  induction respelled with
  | nil => rfl
  | @cons entry otherEntry rest otherRest first _ ih =>
    cases first with
    | kept => rw [List.filter_cons, List.filter_cons, ih]
    | @moved field declared key moved ofField movedOfField value =>
      have dropped {key : Text} (ofField : key ∈ field.keys) (entries : Entries) :
          ((.text key, value) :: entries).filter (!isDeclared kind ·) =
            entries.filter (!isDeclared kind ·) := by
        apply List.filter_cons_of_neg
        have isDeclared : isDeclared kind (.text key, value) = true :=
          List.any_eq_true.mpr ⟨field, declared, Field.isEntry_iff.mpr ⟨key, ofField, rfl⟩⟩
        rw [isDeclared]
        exact Bool.false_ne_true
      rw [dropped ofField, dropped movedOfField, ih]

end Respelled

/-! ## Records -/

/-- Two results together are there exactly if each of them is. -/
theorem toOption_both {α β : Type} (first : Except (List Fault) α)
    (second : Except (List Fault) β) :
    (both first second).toOption =
      first.toOption.bind fun a => second.toOption.map fun b => (a, b) := by
  cases first <;> cases second <;> rfl

/-- What a field is read as depends on its value alone; only the places of faults name its key. -/
theorem Field.get_toOption {α : Type} (field : Field) (read : Value → Except (List Fault) α)
    (payload : Entries) :
    (field.get read payload).toOption =
      match (field.find? payload).map Prod.snd with
      | none | some .null => some none
      | some value => (read value).toOption.map some := by
  rw [get]
  cases field.find? payload with
  | none => rfl
  | some entry =>
    obtain ⟨key, value⟩ := entry
    cases value with
    | null => rfl
    | _ =>
      dsimp only [Option.map_some]
      split <;> next result => rw [result]; rfl

/-- A payload with one entry a field is read as the same record in other spellings, or refused in
both. -/
theorem parseRecord_toOption {kind : Kind} {payload other : Entries}
    (oneEach : OneEach kind payload) (respelled : List.Forall₂ (Respelled kind) payload other) :
    (parseRecord kind (.dict payload)).toOption = (parseRecord kind (.dict other)).toOption := by
  have get : ∀ field ∈ fields kind, ∀ {α : Type} (read : Value → Except (List Fault) α),
      (field.get read payload).toOption = (field.get read other).toOption := by
    intro field declared α read
    rw [Field.get_toOption, Field.get_toOption, find?_respelled oneEach respelled declared]
  have without := without_respelled oneEach respelled
  have details : (readDetails kind payload).toOption = (readDetails kind other).toOption := by
    cases kind <;>
      simp only [fields, List.cons_append, List.nil_append, List.forall_mem_cons] at get <;>
      simp only [readDetails, toOption_bind, toOption_both, get]
  simp only [fields, List.cons_append, List.nil_append, List.forall_mem_cons] at get
  simp only [parseRecord, toOption_bind, toOption_both, get, details, without]

/-- Declared fields under their other keys change nothing about a payload in which no key stands
twice and no declared field under both of its keys: it is read if it was read before, with the same
fields, the same entries kept as received, and the same title, meta line and description. -/
theorem parseRecord_respelled {kind : Kind} {payload other : Entries}
    (distinct : (payload.map Prod.fst).Nodup) (once : SpelledOnce kind payload)
    (respelled : List.Forall₂ (Respelled kind) payload other) :
    ((∃ record, parseRecord kind (.dict payload) = .ok record) ↔
        ∃ record, parseRecord kind (.dict other) = .ok record) ∧
      ∀ record otherRecord, parseRecord kind (.dict payload) = .ok record →
        parseRecord kind (.dict other) = .ok otherRecord →
        (record.id = otherRecord.id ∧ record.description = otherRecord.description ∧
          record.imageUrl = otherRecord.imageUrl ∧ record.details = otherRecord.details) ∧
        record.extra = otherRecord.extra ∧
        (∀ entity, record.title entity = otherRecord.title entity) ∧
        record.metaLine = otherRecord.metaLine ∧
        record.descriptionText = otherRecord.descriptionText := by
  have same := parseRecord_toOption (once.oneEach distinct) respelled
  constructor
  · constructor
    · rintro ⟨record, read⟩
      rw [read] at same
      exact ⟨record, toOption_eq_some_iff.mp same.symm⟩
    · rintro ⟨record, read⟩
      rw [read] at same
      exact ⟨record, toOption_eq_some_iff.mp same⟩
  · intro record otherRecord read otherRead
    rw [read, otherRead] at same
    cases same
    exact ⟨⟨rfl, rfl, rfl, rfl⟩, rfl, fun _ => rfl, rfl, rfl⟩

/-- An arc with a numeral for a chapter, an address without a picture, and an entry that arcs do not
declare under a key that looks like one of theirs. -/
def mixedArc : Entries := [
  (.text "start_chapter".toList, .text " +012.0".toList), (.text "endChapter".toList, .int 40),
  (.text "number".toList, .bool true), (.text "imageUrl".toList, .null),
  (.text "name".toList, .text [])]

/-- The same arc with both chapters in the other spelling. -/
def respelledArc : Entries := [
  (.text "startChapter".toList, .text " +012.0".toList), (.text "end_chapter".toList, .int 40),
  (.text "number".toList, .bool true), (.text "imageUrl".toList, .null),
  (.text "name".toList, .text [])]

/-- An arc whose chapters are respelled keeps its title, its line of data and what it does not
declare. -/
theorem parseRecord_respelled_arc :
    ((mixedArc.map Prod.fst).Nodup ∧ SpelledOnce .arc mixedArc ∧
      List.Forall₂ (Respelled .arc) mixedArc respelledArc) ∧
    ∃ record, parseRecord .arc (.dict respelledArc) = .ok record ∧
      record.title 7 = "Arc #7".toList ∧ record.metaLine = some "Ch. 12-40".toList ∧
      record.extra = [(.text "number".toList, .bool true)] := by
  have distinct : (mixedArc.map Prod.fst).Nodup := by simp [mixedArc]
  have once : SpelledOnce .arc mixedArc := by
    simp [SpelledOnce, mixedArc, fields, Field.id, Field.description, Field.imageUrl,
      Field.nameText, Field.startChapter, Field.endChapter, Field.plain]
  have start : Field.startChapter ∈ fields .arc := by simp [fields]
  have last : Field.endChapter ∈ fields .arc := by simp [fields]
  have respelled : List.Forall₂ (Respelled .arc) mixedArc respelledArc :=
    .cons (.moved start (by decide) (by decide) _) <|
      .cons (.moved last (by decide) (by decide) _) <|
        .cons (.kept _) <| .cons (.kept _) <| .cons (.kept _) .nil
  have read : parseRecord .arc (.dict mixedArc) = .ok {
      id := none, description := none, imageUrl := none,
      details := .arc (some []) (some 12) (some 40),
      extra := [(.text "number".toList, .bool true)] } := by rfl
  obtain ⟨exists_iff, same⟩ := parseRecord_respelled distinct once respelled
  obtain ⟨other, otherRead⟩ := exists_iff.mp ⟨_, read⟩
  obtain ⟨-, extra, title, line, -⟩ := same _ other read otherRead
  exact ⟨⟨distinct, once, respelled⟩, other, otherRead, (title 7).symm.trans rfl,
    line.symm.trans rfl, extra.symm⟩

end Loremark.Entity
