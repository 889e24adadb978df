import FrameLens.Proofs.Json.Strings
import FrameLens.Proofs.Json.Numbers
import FrameLens.Proofs.Number.Magnitude

/-!
# Fields, and values that can be kept in a file

Setting a field changes what is found under its key and nothing else.  What can be
kept in a file has no key twice, no integer of too many digits, and no text whose
halves would join.
-/

namespace FrameLens.Json

variable {key other : LooseText} {value : Json} {fields updates : Fields}

/-! ## Setting fields -/

def keys (fields : Fields) : List LooseText :=
  fields.map Prod.fst

theorem get?_cons (field : LooseText × Json) (fields : Fields) (key : LooseText) :
    get? (field :: fields) key = if field.1 = key then some field.2 else get? fields key := by
  obtain ⟨other, value⟩ := field
  rw [get?, List.lookup_cons]
  by_cases hkey : other = key
  · rw [if_pos hkey, beq_iff_eq.2 hkey.symm]
  · rw [if_neg hkey, beq_eq_false_iff_ne.2 (Ne.symm hkey), get?]

/-- A field that is set has its value, and every other one keeps its own. -/
theorem get?_insert :
    get? (insert key value fields) other =
      if key = other then some value else get? fields other := by
  induction fields with
  | nil => rw [insert, get?_cons]
  | cons field fields ih =>
      rw [insert]
      by_cases hfield : field.1 = key
      · rw [if_pos hfield, get?_cons, get?_cons, hfield]
        split
        · rfl
        · rfl
      · rw [if_neg hfield, get?_cons, get?_cons, ih]
        by_cases hother : field.1 = other
        · rw [if_pos hother, if_pos hother, if_neg]
          rintro rfl
          exact hfield hother
        · rw [if_neg hother, if_neg hother]

theorem mem_of_get?_eq_some (hvalue : get? fields key = some value) : (key, value) ∈ fields := by
  induction fields with
  | nil => cases hvalue
  | cons field fields ih =>
      rw [get?_cons] at hvalue
      by_cases hfield : field.1 = key
      · rw [if_pos hfield] at hvalue
        obtain rfl := Option.some.inj hvalue
        obtain rfl := hfield
        exact List.mem_cons_self
      · rw [if_neg hfield] at hvalue
        exact List.mem_cons_of_mem field (ih hvalue)

theorem get?_of_mem (hkeys : (keys fields).Nodup) (hfield : (key, value) ∈ fields) :
    get? fields key = some value := by
  induction fields with
  | nil => cases hfield
  | cons field fields ih =>
      rw [keys, List.map_cons, ← keys, List.nodup_cons] at hkeys
      rw [get?_cons]
      rcases List.mem_cons.1 hfield with rfl | hfield
      · rw [if_pos rfl]
      · have hkey : key ∈ keys fields := List.mem_map_of_mem (f := Prod.fst) hfield
        rw [if_neg, ih hkeys.2 hfield]
        rintro rfl
        exact hkeys.1 hkey

theorem insert_of_not_mem (hkey : key ∉ keys fields) :
    insert key value fields = fields ++ [(key, value)] := by
  induction fields with
  | nil => rfl
  | cons field fields ih =>
      rw [keys, List.map_cons, List.mem_cons, not_or] at hkey
      rw [insert, if_neg (Ne.symm hkey.1), ih hkey.2, List.cons_append]

/-- A field that is there already keeps its place. -/
theorem keys_insert_of_mem (hkey : key ∈ keys fields) :
    keys (insert key value fields) = keys fields := by
  induction fields with
  | nil => cases hkey
  | cons field fields ih =>
      rw [insert]
      by_cases hfield : field.1 = key
      · rw [if_pos hfield, ← hfield]
        rfl
      · rw [keys, List.map_cons, List.mem_cons] at hkey
        have hrest := ih (hkey.resolve_left (Ne.symm hfield))
        rw [if_neg hfield, keys, List.map_cons, ← keys, hrest]
        rfl

/-- Setting a field brings no key twice. -/
theorem nodup_keys_insert (hkeys : (keys fields).Nodup) :
    (keys (insert key value fields)).Nodup := by
  by_cases hkey : key ∈ keys fields
  · rwa [keys_insert_of_mem hkey]
  · rw [insert_of_not_mem hkey, keys, List.map_append, ← keys]
    refine List.nodup_append.2 ⟨hkeys, List.pairwise_singleton _ key, ?_⟩
    rintro a ha b hb rfl
    obtain rfl := List.mem_singleton.1 hb
    exact hkey ha

/-- A field afterwards is the one that was set or was there. -/
theorem mem_insert {field : LooseText × Json} (hfield : field ∈ insert key value fields) :
    field = (key, value) ∨ field ∈ fields := by
  induction fields with
  | nil => exact .inl (List.mem_singleton.1 hfield)
  | cons first fields ih =>
      rw [insert] at hfield
      split at hfield
      · exact (List.mem_cons.1 hfield).imp_right (List.mem_cons_of_mem first)
      · rcases List.mem_cons.1 hfield with rfl | hfield
        · exact .inr List.mem_cons_self
        · exact (ih hfield).imp_right (List.mem_cons_of_mem first)

theorem update_cons (fields : Fields) (field : LooseText × Json) (updates : Fields) :
    update fields (field :: updates) = update (insert field.1 field.2 fields) updates :=
  rfl

/-- A key has the value that is set last for it, or else the one that it had. -/
theorem get?_update_last (fields updates : Fields) (key : LooseText) :
    get? (update fields updates) key =
      ((updates.filter fun field => field.1 = key).getLast?.map Prod.snd).or (get? fields key) := by
  induction updates generalizing fields with
  | nil => rfl
  | cons field updates ih =>
      rw [update_cons, ih, get?_insert, List.filter_cons]
      by_cases hkey : field.1 = key
      · rw [if_pos hkey, if_pos (decide_eq_true hkey), List.getLast?_cons]
        cases (updates.filter fun field => field.1 = key).getLast? with
        | none => rfl
        | some last => rfl
      · rw [if_neg hkey, if_neg (by rwa [decide_eq_true_eq])]

/-- Fields with new keys are added at the end. -/
theorem update_eq_append (hkeys : (keys (fields ++ updates)).Nodup) :
    update fields updates = fields ++ updates := by
  induction updates generalizing fields with
  | nil => rw [List.append_nil]; rfl
  | cons field updates ih =>
      have hkeys_cons : (keys (fields ++ [field] ++ updates)).Nodup := by
        rwa [List.append_assoc, List.singleton_append]
      have hfield : field.1 ∉ keys fields := by
        rw [keys, List.map_append, List.map_cons, List.nodup_append] at hkeys
        exact fun hmem => hkeys.2.2 field.1 hmem field.1 List.mem_cons_self rfl
      rw [update_cons, insert_of_not_mem hfield, ih hkeys_cons, List.append_assoc,
        List.singleton_append]

/-! ## Bounded values -/

/-- What holds of an array if it holds of its items, and of an object if it holds of the values
of its fields, holds of every value that it holds of where there are no parts. -/
@[elab_as_elim]
theorem parts_induction {motive : Json → Prop} (value : Json) (null : motive null)
    (bool : ∀ value, motive (bool value)) (int : ∀ value, motive (int value))
    (real : ∀ value, motive (real value)) (string : ∀ value, motive (string value))
    (array : ∀ items, (∀ item ∈ items, motive item) → motive (array items))
    (object : ∀ fields, (∀ field ∈ fields, motive field.2) → motive (object fields)) :
    motive value :=
  @Json.rec motive (fun items => ∀ item ∈ items, motive item)
    (fun fields => ∀ field ∈ fields, motive field.2) (fun field => motive field.2)
    null bool int real string array object nofun
    (fun _ _ hitem hitems => List.forall_mem_cons.2 ⟨hitem, hitems⟩) nofun
    (fun _ _ hfield hfields => List.forall_mem_cons.2 ⟨hfield, hfields⟩)
    (fun _ _ hvalue => hvalue) value

theorem areBounded_iff {items : List Json} :
    areBounded items = true ↔ ∀ item ∈ items, item.isBounded = true := by
  induction items with
  | nil => simp [areBounded]
  | cons item items ih => rw [areBounded, Bool.and_eq_true, ih, List.forall_mem_cons]

theorem areFieldsBounded_iff :
    areFieldsBounded fields = true ↔ ∀ field ∈ fields, field.2.isBounded = true := by
  induction fields with
  | nil => simp [areFieldsBounded]
  | cons field fields ih => rw [areFieldsBounded, Bool.and_eq_true, ih, List.forall_mem_cons]

theorem isBounded_int_iff {value : Int} :
    (int value).isBounded = true ↔ value.natAbs < 10 ^ Text.maxIntegerDigits := by
  rw [isBounded, decide_eq_true_eq, Binary64.powerOfTen_eq_pow]

theorem isBounded_array_iff {items : List Json} :
    (array items).isBounded = true ↔ ∀ item ∈ items, item.isBounded = true := by
  rw [isBounded, areBounded_iff]

theorem isBounded_object_iff :
    (object fields).isBounded = true ↔ ∀ field ∈ fields, field.2.isBounded = true := by
  rw [isBounded, areFieldsBounded_iff]

theorem isBounded_insert (hfields : (object fields).isBounded = true)
    (hvalue : value.isBounded = true) : (object (insert key value fields)).isBounded = true := by
  rw [isBounded_object_iff] at hfields ⊢
  intro field hfield
  rcases mem_insert hfield with rfl | hfield
  · exact hvalue
  · exact hfields field hfield

/-- Fields are bounded after an update if they were before and the new ones are. -/
theorem isBounded_update (hfields : (object fields).isBounded = true)
    (hupdates : (object updates).isBounded = true) :
    (object (update fields updates)).isBounded = true := by
  rw [isBounded_object_iff] at hupdates
  induction updates generalizing fields with
  | nil => exact hfields
  | cons field updates ih =>
      rw [List.forall_mem_cons] at hupdates
      exact ih (isBounded_insert hfields hupdates.1) hupdates.2

/-! ## Values in files -/

/-- Values that a file can hold, and that can be read from one. -/
inductive IsStorable : Json → Prop
  | null : IsStorable null
  | bool (value : Bool) : IsStorable (bool value)
  | int {value : Int} (hvalue : value.natAbs < 10 ^ Text.maxIntegerDigits) : IsStorable (int value)
  | real {value : Binary64}
      (hvalue : ∀ whole ∈ value.truncate?, whole.natAbs < 10 ^ Text.maxIntegerDigits) :
      IsStorable (real value)
  | string {value : LooseText} (hwhole : value.IsWhole) : IsStorable (string value)
  | array {items : List Json} (hitems : ∀ item ∈ items, IsStorable item) :
      IsStorable (array items)
  | object {fields : Fields} (hkeys : (keys fields).Nodup)
      (hwhole : ∀ field ∈ fields, field.1.IsWhole)
      (hvalues : ∀ field ∈ fields, IsStorable field.2) : IsStorable (object fields)

theorem isStorable_noFields : IsStorable (object []) :=
  .object List.nodup_nil nofun nofun

/-- A value that comes back as it was has no integer of too many digits. -/
theorem IsStorable.isBounded (hvalue : IsStorable value) : value.isBounded = true := by
  induction hvalue with
  | null => rfl
  | bool value => rfl
  | int hvalue => exact isBounded_int_iff.2 hvalue
  | real hvalue => rfl
  | string hwhole => rfl
  | array hitems ih => exact isBounded_array_iff.2 ih
  | object hkeys hwhole hvalues ih => exact isBounded_object_iff.2 ih

theorem IsStorable.insert (hfields : IsStorable (.object fields)) (hkey : key.IsWhole)
    (hvalue : IsStorable value) : IsStorable (.object (Json.insert key value fields)) := by
  cases hfields with
  | object hkeys hwhole hvalues =>
      refine .object (nodup_keys_insert hkeys) (fun field hfield => ?_) (fun field hfield => ?_)
      · rcases mem_insert hfield with rfl | hfield
        · exact hkey
        · exact hwhole field hfield
      · rcases mem_insert hfield with rfl | hfield
        · exact hvalue
        · exact hvalues field hfield

theorem IsStorable.update_of (hfields : IsStorable (.object fields))
    (hwhole : ∀ field ∈ updates, field.1.IsWhole)
    (hvalues : ∀ field ∈ updates, IsStorable field.2) :
    IsStorable (.object (Json.update fields updates)) := by
  induction updates generalizing fields with
  | nil => exact hfields
  | cons field updates ih =>
      rw [List.forall_mem_cons] at hwhole hvalues
      exact ih (hfields.insert hwhole.1 hvalues.1) hwhole.2 hvalues.2

/-- Fields that come back as they were do so after an update with such fields. -/
theorem IsStorable.update (hfields : IsStorable (.object fields))
    (hupdates : IsStorable (.object updates)) :
    IsStorable (.object (Json.update fields updates)) := by
  cases hupdates with
  | object hkeys hwhole hvalues => exact hfields.update_of hwhole hvalues

theorem IsStorable.nodup_keys (hfields : IsStorable (.object fields)) : (keys fields).Nodup := by
  cases hfields with
  | object hkeys => exact hkeys

theorem IsStorable.of_get? (hfields : IsStorable (.object fields))
    (hvalue : get? fields key = some value) : IsStorable value := by
  cases hfields with
  | object hkeys hwhole hvalues => exact hvalues _ (mem_of_get?_eq_some hvalue)

/-! ## Values without a floating point -/

/-- No number with a floating point occurs in the value. -/
inductive IsExact : Json → Prop
  | null : IsExact null
  | bool (value : Bool) : IsExact (bool value)
  | int (value : Int) : IsExact (int value)
  | string (value : LooseText) : IsExact (string value)
  | array {items : List Json} (hitems : ∀ item ∈ items, IsExact item) : IsExact (array items)
  | object {fields : Fields} (hvalues : ∀ field ∈ fields, IsExact field.2) :
      IsExact (object fields)

theorem IsExact.insert (hfields : IsExact (.object fields)) (hvalue : IsExact value) :
    IsExact (.object (Json.insert key value fields)) := by
  cases hfields with
  | object hvalues =>
      refine .object fun field hfield => ?_
      rcases mem_insert hfield with rfl | hfield
      · exact hvalue
      · exact hvalues field hfield

/-- Fields without real numbers have none after an update with such fields. -/
theorem IsExact.update (hfields : IsExact (.object fields)) (hupdates : IsExact (.object updates)) :
    IsExact (.object (Json.update fields updates)) := by
  cases hupdates with
  | object hvalues =>
      induction updates generalizing fields with
      | nil => exact hfields
      | cons field updates ih =>
          rw [List.forall_mem_cons] at hvalues
          exact ih (hfields.insert hvalues.1) hvalues.2

/-! ## Values as they are read back

What comes back of a written value has the halves in its texts joined. Where that makes one key of
two, the value that was written last stands in the place of the first one. -/

mutual

/-- What a written value is read as. -/
def asRead : Json → Json
  | null => null
  | bool value => bool value
  | int value => int value
  | real value => real (reread value)
  | string value => string value.joined
  | array items => array (itemsAsRead items)
  | object fields => object (update [] (fieldsAsRead fields))

def itemsAsRead : List Json → List Json
  | [] => []
  | item :: items => asRead item :: itemsAsRead items

/-- The fields of a written object, one by one. -/
def fieldsAsRead : Fields → Fields
  | [] => []
  | (key, value) :: fields => (key.joined, asRead value) :: fieldsAsRead fields

end

/-- The fields that are read back of those that were written. -/
def readBack (fields : Fields) : Fields :=
  update [] (fieldsAsRead fields)

theorem itemsAsRead_eq (items : List Json) : itemsAsRead items = items.map asRead := by
  induction items with
  | nil => rw [itemsAsRead, List.map_nil]
  | cons item items ih => rw [itemsAsRead, ih, List.map_cons]

theorem fieldsAsRead_eq (fields : Fields) :
    fieldsAsRead fields = fields.map fun field => (field.1.joined, asRead field.2) := by
  induction fields with
  | nil => rw [fieldsAsRead, List.map_nil]
  | cons field fields ih => rw [fieldsAsRead, ih, List.map_cons]

theorem asRead_array (items : List Json) : asRead (array items) = array (items.map asRead) := by
  rw [asRead, itemsAsRead_eq]

/-- The fields of an object are read back one after another. -/
theorem asRead_object (fields : Fields) : asRead (object fields) = object (readBack fields) := by
  rw [asRead, readBack]

/-- A key that comes back has the value of the last field whose key comes back as it. -/
theorem get?_readBack (fields : Fields) (key : LooseText) :
    get? (readBack fields) key =
      (fields.filter fun field => field.1.joined = key).getLast?.map
        fun field => asRead field.2 := by
  rw [readBack, get?_update_last, fieldsAsRead_eq, List.filter_map, List.getLast?_map,
    Option.map_map]
  exact Option.or_none

/-- What can be kept in a file comes back as it is but for its numbers with a floating point. -/
theorem IsStorable.asRead_eq (hvalue : IsStorable value) (hexact : IsExact value) :
    asRead value = value := by
  induction hvalue with
  | null => rw [asRead]
  | bool value => rw [asRead]
  | int hvalue => rw [asRead]
  | real hvalue => cases hexact
  | string hwhole => rw [asRead, hwhole.joined_eq]
  | array hitems ih =>
      cases hexact with
      | array hexact =>
          rw [asRead_array, List.map_congr_left fun item hitem => ih item hitem (hexact item hitem),
            List.map_id']
  | @object fields hkeys hwhole hvalues ih =>
      cases hexact with
      | object hexact =>
          have hsame : fieldsAsRead fields = fields := by
            rw [fieldsAsRead_eq]
            conv_rhs => rw [← List.map_id fields]
            exact List.map_congr_left fun field hfield =>
              Prod.ext (hwhole field hfield).joined_eq (ih field hfield (hexact field hfield))
          rw [asRead_object, readBack, hsame, update_eq_append (by simpa using hkeys),
            List.nil_append]

/-- Fields without real numbers that may be stored are read back as they were. -/
theorem IsStorable.readBack_eq (hfields : IsStorable (.object fields))
    (hexact : IsExact (.object fields)) : readBack fields = fields := by
  have hsame := hfields.asRead_eq hexact
  rwa [asRead_object, object.injEq] at hsame

theorem IsExact.asRead (hvalue : IsExact value) : IsExact (asRead value) := by
  induction hvalue with
  | null =>
      rw [Json.asRead]
      exact .null
  | bool value =>
      rw [Json.asRead]
      exact .bool value
  | int value =>
      rw [Json.asRead]
      exact .int value
  | string value =>
      rw [Json.asRead]
      exact .string _
  | array hitems ih =>
      rw [asRead_array]
      exact .array (List.forall_mem_map.2 ih)
  | object hvalues ih =>
      rw [asRead_object, readBack, fieldsAsRead_eq]
      exact IsExact.update (.object nofun) (.object (List.forall_mem_map.2 ih))

/-- Reading back brings no real number. -/
theorem IsExact.readBack (hfields : IsExact (.object fields)) :
    IsExact (.object (readBack fields)) := by
  have hread := hfields.asRead
  rwa [asRead_object] at hread

variable {p : LooseText → Bool}

theorem filter_insert_of_not (hkey : p key = false) :
    ((insert key value fields).filter fun field => p field.1) =
      fields.filter fun field => p field.1 := by
  induction fields with
  | nil => rw [insert, List.filter_cons_of_neg (by simp [hkey])]
  | cons field fields ih =>
      rw [insert]
      split
      · next heq =>
          rw [List.filter_cons_of_neg (by simp [hkey]),
            List.filter_cons_of_neg (by simp [heq, hkey])]
      · rw [List.filter_cons, List.filter_cons, ih]

/-- Among fields that one key at most satisfies, one that is set comes last. -/
theorem getLast?_filter_insert (hkey : p key = true)
    (hone : (fields.countP fun field => p field.1) ≤ 1) :
    ((insert key value fields).filter fun field => p field.1).getLast? = some (key, value) := by
  induction fields with
  | nil => rw [insert, List.filter_cons_of_pos (by simp [hkey]), List.filter_nil,
      List.getLast?_singleton]
  | cons field fields ih =>
      rw [List.countP_cons] at hone
      rw [insert]
      split
      · next heq =>
          rw [if_pos (by rw [heq, hkey])] at hone
          have hrest : (fields.filter fun field => p field.1) = [] :=
            List.filter_eq_nil_iff.2 (List.countP_eq_zero.1 (by omega))
          rw [List.filter_cons_of_pos (by simp [hkey]), hrest, List.getLast?_singleton]
      · have hlast := ih (by omega)
        rw [List.filter_cons]
        split
        · rw [List.getLast?_cons, hlast]
          rfl
        · exact hlast

/-- An update leaves the fields alone that are of another kind than all of its own. -/
theorem filter_update_of_not (hupdates : ∀ field ∈ updates, p field.1 = false) :
    ((update fields updates).filter fun field => p field.1) =
      fields.filter fun field => p field.1 := by
  induction updates generalizing fields with
  | nil => rfl
  | cons field updates ih =>
      rw [List.forall_mem_cons] at hupdates
      rw [update_cons, ih hupdates.2, filter_insert_of_not hupdates.1]

/-- Of a kind of which there is one field at most, the one that is set last is left. -/
theorem getLast?_filter_update (hone : (fields.countP fun field => p field.1) ≤ 1)
    (hupdates : (updates.countP fun field => p field.1) ≤ 1) :
    ((update fields updates).filter fun field => p field.1).getLast? =
      (updates.filter fun field => p field.1).getLast?.or
        (fields.filter fun field => p field.1).getLast? := by
  induction updates generalizing fields with
  | nil => rfl
  | cons field updates ih =>
      rw [List.countP_cons] at hupdates
      rw [update_cons]
      cases hkey : p field.1 with
      | true =>
          rw [if_pos hkey] at hupdates
          have hzero : (updates.countP fun field => p field.1) = 0 := by omega
          have hnone := List.countP_eq_zero.1 hzero
          rw [filter_update_of_not fun other hother => Bool.eq_false_iff.2 (hnone other hother),
            getLast?_filter_insert hkey hone, List.filter_cons_of_pos (by simp [hkey]),
            List.filter_eq_nil_iff.2 hnone]
          rfl
      | false =>
          have hsame : ((insert field.1 field.2 fields).filter fun field => p field.1) =
              fields.filter fun field => p field.1 := filter_insert_of_not hkey
          rw [ih _ (by omega), hsame, List.filter_cons_of_neg (by simp [hkey])]
          rwa [List.countP_eq_length_filter, hsame, ← List.countP_eq_length_filter]

/-- No two keys of fields that may be stored become one. -/
theorem IsStorable.countP_joined_le_one (hfields : IsStorable (.object fields)) (key : LooseText) :
    (fields.countP fun field => field.1.joined = key) ≤ 1 := by
  cases hfields with
  | object hkeys hwhole hvalues =>
      have hjoined : (keys fields).countP (fun other => other.joined = key) =
          (keys fields).count key := by
        refine List.countP_congr fun other hother => ?_
        obtain ⟨field, hfield, rfl⟩ := List.mem_map.1 hother
        simp [(hwhole field hfield).joined_eq]
      rw [keys, List.countP_map] at hjoined
      exact hjoined.trans_le (List.nodup_iff_count.1 hkeys key)

/-- Once an update is read back, each key has the value that the update has for it, or else the one
from before, if no two keys of the update come back as that key. -/
theorem get?_readBack_update (hfields : IsStorable (.object fields))
    (hone : (updates.countP fun field => field.1.joined = key) ≤ 1) :
    get? (readBack (update fields updates)) key =
      (get? (readBack updates) key).or (get? (readBack fields) key) := by
  rw [get?_readBack, getLast?_filter_update (p := fun other => other.joined = key)
    (hfields.countP_joined_le_one key) hone, Option.map_or, ← get?_readBack, ← get?_readBack]

end FrameLens.Json
