import Mathlib.Data.List.Basic
import SqlBuilder.Value.Json

/-!
# Values without a JSON text

JSON has no form for sets, octets, times, decimals and types, and no key that is
a list, a tuple or a mapping.  One such value leaves all values around it without
a text, however deep it is.
-/

namespace SqlBuilder.Value

/-- Whether JSON has a form for values of this kind. -/
def hasJsonForm : Value → Bool
  | null | bool _ | int _ | float _ | text _ | ownText _ | list _ | tuple _ | dict _ => true
  | _ => false

/-- Whether JSON has a form for such keys. -/
def hasKeyForm : Value → Bool
  | null | bool _ | int _ | float _ | text _ | ownText _ => true
  | _ => false

/-- A value that has something in it that JSON has no form for. -/
inductive LacksJson : Value → Prop
  | foreign {v : Value} (hv : v.hasJsonForm = false) : LacksJson v
  | inList {items : List Value} {v : Value} (hitem : v ∈ items) (hv : LacksJson v) :
      LacksJson (list items)
  | inTuple {items : List Value} {v : Value} (hitem : v ∈ items) (hv : LacksJson v) :
      LacksJson (tuple items)
  | asKey {entries : List (Value × Value)} {key v : Value} (hentry : (key, v) ∈ entries)
      (hkey : key.hasKeyForm = false) : LacksJson (dict entries)
  | inDict {entries : List (Value × Value)} {key v : Value} (hentry : (key, v) ∈ entries)
      (hv : LacksJson v) : LacksJson (dict entries)

/-- The text of an entry of a mapping. -/
def jsonEntry? (entry : Value × Value) : Option String := do
  return Text.jsonString (← entry.1.jsonKey?) ++ ": " ++ (← entry.2.jsonText?)

theorem jsonItems?_eq_mapM
    (items : List Value) : jsonItems? items = items.mapM jsonText? := by
  induction items with
  | nil => rfl
  | cons v items ih => rw [jsonItems?, ih, List.mapM_cons]

theorem jsonEntries?_eq_mapM
    (entries : List (Value × Value)) : jsonEntries? entries = entries.mapM jsonEntry? := by
  induction entries with
  | nil => rfl
  | cons entry entries ih =>
      rw [jsonEntries?, ih, List.mapM_cons, jsonEntry?]
      cases entry.1.jsonKey? <;> cases entry.2.jsonText? <;> rfl

theorem mapM_eq_none_iff
    {α β : Type} {f : α → Option β} {as : List α} :
    as.mapM f = none ↔ ∃ a ∈ as, f a = none := by
  induction as with
  | nil => simp
  | cons a as ih =>
      rw [List.mapM_cons, List.exists_mem_cons_iff, ← ih]
      cases f a <;> cases as.mapM f <;> simp

theorem jsonKey?_eq_none_iff
    {key : Value} : key.jsonKey? = none ↔ key.hasKeyForm = false := by
  cases key <;> simp [jsonKey?, hasKeyForm]

theorem jsonEntry?_eq_none_iff
    {entry : Value × Value} :
    jsonEntry? entry = none ↔ entry.1.hasKeyForm = false ∨ entry.2.jsonText? = none := by
  rw [← jsonKey?_eq_none_iff, jsonEntry?]
  cases entry.1.jsonKey? <;> cases entry.2.jsonText? <;> simp

theorem jsonText?_list_eq_none_iff
    {items : List Value} :
    (list items).jsonText? = none ↔ ∃ v ∈ items, v.jsonText? = none := by
  rw [← mapM_eq_none_iff, ← jsonItems?_eq_mapM, jsonText?]
  cases jsonItems? items <;> simp

theorem jsonText?_tuple
    (items : List Value) : (tuple items).jsonText? = (list items).jsonText? := by
  rw [jsonText?, jsonText?]

theorem jsonText?_dict_eq_none_iff
    {entries : List (Value × Value)} :
    (dict entries).jsonText? = none ↔
      ∃ entry ∈ entries, entry.1.hasKeyForm = false ∨ entry.2.jsonText? = none := by
  simp only [← jsonEntry?_eq_none_iff]
  rw [← mapM_eq_none_iff, ← jsonEntries?_eq_mapM, jsonText?]
  cases jsonEntries? entries <;> simp

theorem LacksJson.jsonText?_eq_none
    {v : Value} (hv : v.LacksJson) : v.jsonText? = none := by
  induction hv with
  | @foreign v hv => cases v <;> first | rfl | simp [hasJsonForm] at hv
  | inList hitem _ ih => exact jsonText?_list_eq_none_iff.mpr ⟨_, hitem, ih⟩
  | inTuple hitem _ ih =>
      rw [jsonText?_tuple]
      exact jsonText?_list_eq_none_iff.mpr ⟨_, hitem, ih⟩
  | asKey hentry hkey => exact jsonText?_dict_eq_none_iff.mpr ⟨_, hentry, .inl hkey⟩
  | inDict hentry _ ih => exact jsonText?_dict_eq_none_iff.mpr ⟨_, hentry, .inr ih⟩

theorem lacksJson_of_jsonText?_eq_none :
    ∀ v : Value, v.jsonText? = none → v.LacksJson
  | list items, hnone => by
      obtain ⟨v, hitem, hv⟩ := jsonText?_list_eq_none_iff.mp hnone
      exact .inList hitem (lacksJson_of_jsonText?_eq_none v hv)
  | tuple items, hnone => by
      rw [jsonText?_tuple] at hnone
      obtain ⟨v, hitem, hv⟩ := jsonText?_list_eq_none_iff.mp hnone
      exact .inTuple hitem (lacksJson_of_jsonText?_eq_none v hv)
  | dict entries, hnone => by
      obtain ⟨⟨key, v⟩, hentry, hkey | hv⟩ := jsonText?_dict_eq_none_iff.mp hnone
      · exact .asKey hentry hkey
      · exact .inDict hentry (lacksJson_of_jsonText?_eq_none v hv)
  | null, hnone | bool _, hnone | int _, hnone | float _, hnone | text _, hnone
  | ownText _, hnone => by
      simp [jsonText?] at hnone
  | bytes _, _ | set _, _ | frozenSet _, _ | moment _, _ | day _, _ | clock _, _ | uuid _, _
  | decimal _, _ | typeName _, _ | handle .., _ | columnType _, _ | record _ _, _ => .foreign rfl
  termination_by v => sizeOf v
  decreasing_by
  · have hsize := List.sizeOf_lt_of_mem hitem
    simp only [list.sizeOf_spec]
    omega
  · have hsize := List.sizeOf_lt_of_mem hitem
    simp only [tuple.sizeOf_spec]
    omega
  · have hsize := List.sizeOf_lt_of_mem hentry
    simp only [dict.sizeOf_spec, Prod.mk.sizeOf_spec] at *
    omega

/-- Values have no JSON text if something in them has no form in JSON, and only then. -/
theorem jsonText?_eq_none_iff
    {v : Value} : v.jsonText? = none ↔ v.LacksJson :=
  ⟨lacksJson_of_jsonText?_eq_none v, LacksJson.jsonText?_eq_none⟩

end SqlBuilder.Value
