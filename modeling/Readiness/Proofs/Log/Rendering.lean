import Readiness.Log.Registry
import Readiness.Proofs.Json.Bounds
import Readiness.Proofs.Log.Fields

/-!
This module contains what keeps the fields of a record from being rendered. In JSON that is a value that cannot be
written; on the console it is also a value that stands where only a text can be shown.
-/

namespace Readiness
namespace Log

/-- The value cannot be written with room for so many levels. -/
def ValueHinders (hollow room : Nat) (value : Json) (e : RenderError) : Prop :=
  ∃ e', Json.Hinders value.integers (value.depth hollow) room e' ∧ .value e' = e

variable {hollow room : Nat} {value : Json} {fields : List (String × Json)} {name : String} {e : RenderError}

theorem not_valueHinders_str (s : String) : ¬ ValueHinders hollow room (.str s) e := by
  rintro ⟨e', h, _⟩
  exact Json.not_hinders_flat h

theorem ValueHinders.ne_str (h : ValueHinders hollow room value e) (s : String) : value ≠ .str s := by
  rintro rfl
  exact not_valueHinders_str s h

theorem ValueHinders.ne_null (h : ValueHinders hollow room value e) : value ≠ .null := by
  rintro rfl
  obtain ⟨e', h, _⟩ := h
  exact Json.not_hinders_flat h

theorem explains_checkValue : Explains (checkValue hollow (some room) value) (ValueHinders hollow room value) :=
  (Json.explains_check hollow room value).mapError RenderError.value

/-- Without anything to check, every field is written. -/
theorem jsonText_none (fields : List (String × Json)) :
    jsonText fields none = .ok ((Json.obj fields).render Json.spaced) := by
  have hcheck : (fields.forM fun f => checkValue 1 none f.2) = .ok () := by
    induction fields with
    | nil => rfl
    | cons f fs ih => exact ih
  unfold jsonText
  rw [hcheck]
  rfl

theorem explains_jsonText :
    Explains (jsonText fields (some room)) fun e => ∃ f ∈ fields, ValueHinders 1 room f.2 e := by
  have hforM : Explains (fields.forM fun f => checkValue 1 (some room) f.2)
      fun e => ∃ f ∈ fields, ValueHinders 1 room f.2 e :=
    explains_forM fun _ _ => explains_checkValue
  exact (hforM.bind fun _ => explains_ok _).congr fun e => by simp

namespace Console

/-- What keeps the fields of a record from being shown on the console. -/
inductive Hinders (fields : List (String × Json)) (room : Nat) : RenderError → Prop where
  | level {value : Json} (h : fields.lookup "level" = some value) (ht : ∀ s, value ≠ .str s) :
    Hinders fields room .notText
  | attachment {name : String} {value : Json} (hname : name ∈ attachments) (h : fields.lookup name = some value)
    (hn : value ≠ .null) (ht : ∀ s, value ≠ .str s) : Hinders fields room .notText
  | value {f : String × Json} {e : RenderError} (hf : f ∈ fields) (h : ValueHinders 0 room f.2 e) :
    Hinders fields room e

/-- A level is no text, or another value cannot be written. -/
def ColumnHinders (room : Nat) (name : String) (value : Json) (e : RenderError) : Prop :=
  if name = "level" then e = .notText ∧ ∀ s, value ≠ .str s else ValueHinders 0 room value e

/-- A trace is neither null nor a text. -/
def AttachmentHinders (fields : List (String × Json)) (name : String) (e : RenderError) : Prop :=
  e = .notText ∧ ∃ value, fields.lookup name = some value ∧ value ≠ .null ∧ ∀ s, value ≠ .str s

theorem explains_shown (text : List Char) :
    Explains (check (some room) value >>= fun _ => .ok text) (ValueHinders 0 room value) :=
  (explains_checkValue.bind fun _ => explains_ok text).congr fun e => by simp

theorem explains_levelText :
    Explains (levelText value) fun e => e = .notText ∧ ∀ s, value ≠ .str s := by
  cases value with
  | str s => exact (explains_ok _).congr fun e => by simp
  | _ => exact (explains_error _).congr fun e => by simp

theorem explains_column {column : String × (Option Nat → Json → Except RenderError (List Char))}
    (h : column ∈ columns) : Explains (column.2 (some room) value) (ColumnHinders room column.1 value) := by
  simp only [columns, List.mem_cons, List.not_mem_nil, or_false] at h
  rcases h with rfl | rfl | rfl | rfl | rfl | rfl
  case inr.inr.inl => exact explains_levelText
  all_goals exact explains_shown _

theorem explains_attachment (fields : List (String × Json)) (name : String) :
    Explains (attachment fields name) (AttachmentHinders fields name) := by
  unfold attachment AttachmentHinders
  cases fields.lookup name with
  | none => exact (explains_ok _).congr fun e => by simp
  | some value =>
    cases value with
    | null => exact (explains_ok _).congr fun e => by simp
    | str s => exact (explains_ok _).congr fun e => by simp
    | _ => exact (explains_error _).congr fun e => by simp

theorem mem_placed_iff {p : (String × (Option Nat → Json → Except RenderError (List Char))) × Json} :
    p ∈ placed fields ↔ p.1 ∈ columns ∧ fields.lookup p.1.1 = some p.2 := by
  obtain ⟨column, value⟩ := p
  simp only [placed, List.mem_filterMap, Option.map_eq_some_iff, Prod.mk.injEq]
  grind

theorem mem_listed_iff {f : String × Json} :
    f ∈ listed fields ↔ f ∈ fields ∧ f.1 ∉ columns.map (·.1) ∧ f.1 ∉ attachments := by
  unfold listed
  rw [List.mem_mergeSort, List.mem_filter]
  simp

theorem explains_parts (traced : Bool) : Explains (text fields traced (some room)) fun e =>
    (∃ p ∈ placed fields, ColumnHinders room p.1.1 p.2 e) ∨ (∃ f ∈ listed fields, ValueHinders 0 room f.2 e)
      ∨ ∃ name ∈ attachments, AttachmentHinders fields name e := by
  have hfront : Explains ((placed fields).mapM fun p => p.1.2 (some room) p.2)
      fun e => ∃ p ∈ placed fields, ColumnHinders room p.1.1 p.2 e :=
    explains_mapM fun p hp => explains_column (mem_placed_iff.mp hp).1
  have hothers : Explains ((listed fields).mapM fun f => fieldText f.1 (some room) f.2)
      fun e => ∃ f ∈ listed fields, ValueHinders 0 room f.2 e :=
    explains_mapM fun f _ => explains_shown _
  have hstack := explains_attachment fields "stack"
  have hexception := explains_attachment fields "exception"
  have htext := hfront.bind fun front => hothers.bind fun others => hstack.bind fun stack =>
    hexception.bind fun exception => explains_ok ([' '].intercalate (front ++ others) ++ stack
      ++ (if !stack.isEmpty && (traced || !exception.isEmpty) then separator else []) ++ exception)
  exact htext.congr fun e => by simp [attachments]

theorem hinders_of_column {p : (String × (Option Nat → Json → Except RenderError (List Char))) × Json}
    (hp : p ∈ placed fields) (h : ColumnHinders room p.1.1 p.2 e) : Hinders fields room e := by
  have hlookup := (mem_placed_iff.mp hp).2
  unfold ColumnHinders at h
  split at h
  . next hlevel =>
    rw [hlevel] at hlookup
    obtain ⟨rfl, ht⟩ := h
    exact .level hlookup ht
  . exact .value (Json.mem_of_lookup hlookup) h

theorem explains_text (h : (fields.map (·.1)).Nodup) (traced : Bool) :
    Explains (text fields traced (some room)) (Hinders fields room) := by
  apply (explains_parts traced).weaken
  . rintro e (⟨p, hp, hcolumn⟩ | ⟨f, hf, hvalue⟩ | ⟨name, hname, rfl, value, hv, hn, ht⟩)
    . exact hinders_of_column hp hcolumn
    . exact .value (mem_listed_iff.mp hf).1 hvalue
    . exact .attachment hname hv hn ht
  . intro e he
    have hlevel {value : Json} (hv : fields.lookup "level" = some value) (ht : ∀ s, value ≠ .str s) :
        ∃ p ∈ placed fields, ColumnHinders room p.1.1 p.2 .notText := by
      refine ⟨(("level", fun _ => levelText), value), mem_placed_iff.mpr ⟨?_, hv⟩, ?_⟩
      . simp [columns]
      . exact (if_pos rfl).mpr ⟨rfl, ht⟩
    cases he with
    | level hv ht => exact ⟨_, .inl (hlevel hv ht)⟩
    | attachment hname hv hn ht => exact ⟨_, .inr (.inr ⟨_, hname, rfl, _, hv, hn, ht⟩)⟩
    | @value f _ hf hvalue =>
      -- where the value has its place decides what becomes of it
      have hlookup := Json.lookup_of_mem h hf
      by_cases hattached : f.1 ∈ attachments
      . exact ⟨_, .inr (.inr ⟨_, hattached, rfl, _, hlookup, hvalue.ne_null, hvalue.ne_str⟩)⟩
      . by_cases hcolumn : f.1 ∈ columns.map (·.1)
        . obtain ⟨column, hmem, hname⟩ := List.mem_map.mp hcolumn
          rw [← hname] at hlookup
          by_cases hcolumnLevel : column.1 = "level"
          . rw [hcolumnLevel] at hlookup
            exact ⟨_, .inl (hlevel hlookup hvalue.ne_str)⟩
          . exact ⟨_, .inl ⟨(column, f.2), mem_placed_iff.mpr ⟨hmem, hlookup⟩, (if_neg hcolumnLevel).mpr hvalue⟩⟩
        . exact ⟨_, .inr (.inl ⟨f, mem_listed_iff.mpr ⟨hf, hcolumn, hattached⟩, hvalue⟩)⟩

end Console

end Log
end Readiness
