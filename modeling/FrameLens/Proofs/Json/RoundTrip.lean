import FrameLens.Proofs.Json.Values

/-!
# Written values read back

What is written for a value without an integer of too many digits can be read, and `asRead` says
what comes back.
-/

namespace FrameLens.Json

variable {c : Char} {text rest : List Char} {value : Json} {level depth : Nat}

/-! ## Between values -/

/-- What stands after a value inside a written one. -/
def Follows (rest : List Char) : Prop :=
  ∀ c ∈ rest.head?, c = ',' ∨ c = '\n'

/-- Nothing that follows a value goes on with a number. -/
theorem Follows.endsNumber (hrest : Follows rest) : EndsNumber rest := by
  intro c hc
  rcases hrest c hc with rfl | rfl
  · exact ⟨rfl, by decide, by decide, by decide⟩
  · exact ⟨rfl, by decide, by decide, by decide⟩

/-- A value may end at the end of its line. -/
theorem follows_newLine (level : Nat) (rest : List Char) : Follows (newLine level ++ rest) := by
  rintro c ⟨⟩
  exact .inr rfl

theorem skipSpace_eq_self (hhead : ∀ c ∈ text.head?, isSpace c = false) : skipSpace text = text :=
  Text.dropWhile_eq_iff.2 ⟨[], rfl, nofun, hhead⟩

/-- The indentation of a line is passed over. -/
theorem skipSpace_newLine (level : Nat) (hhead : ∀ c ∈ text.head?, isSpace c = false) :
    skipSpace (newLine level ++ text) = text := by
  refine Text.dropWhile_eq_iff.2 ⟨newLine level, rfl, fun c hc => ?_, hhead⟩
  rcases List.mem_cons.1 hc with rfl | hc
  · rfl
  · rw [(List.mem_replicate.1 hc).2]
    rfl

/-! ## How values begin -/

/-- Signs that begin a value. -/
def StartsValue (c : Char) : Prop :=
  isSpace c = false ∧ c ≠ ']' ∧ c ≠ '\x7d'

/-- Signs that begin a value without parts. -/
def StartsAtom (c : Char) : Prop :=
  StartsValue c ∧ c ≠ '"' ∧ c ≠ '[' ∧ c ≠ '\x7b'

theorem startsAtom_of_isDigit (hc : isDigit c = true) : StartsAtom c := by
  have hspace : isSpace c = false := by
    simp only [isSpace, Bool.or_eq_false_iff, beq_eq_false_iff_ne]
    exact ⟨⟨⟨ne_of_isDigit hc rfl, ne_of_isDigit hc rfl⟩, ne_of_isDigit hc rfl⟩,
      ne_of_isDigit hc rfl⟩
  exact ⟨⟨hspace, ne_of_isDigit hc rfl, ne_of_isDigit hc rfl⟩, ne_of_isDigit hc rfl,
    ne_of_isDigit hc rfl, ne_of_isDigit hc rfl⟩

/-- A text that stands for a value without parts, whatever follows it. -/
structure IsAtom (text : List Char) (value : Json) : Prop where
  starts : ∃ first more, text = first :: more ∧ StartsAtom first
  reads : ∀ rest, Follows rest → readAtom (text ++ rest) = some (value, rest)

/-- An atom is read in front of whatever may follow it. -/
theorem IsAtom.readValue (htext : IsAtom text value) (hrest : Follows rest) (depth : Nat) :
    readValue (depth + 1) (text ++ rest) = some (value, rest) := by
  obtain ⟨first, more, rfl, -, hquote, hbracket, hbrace⟩ := htext.starts
  rw [← htext.reads rest hrest, List.cons_append, Json.readValue]
  · intro _ heq
    exact hquote (List.cons.inj heq).1
  · intro _ heq
    exact hbracket (List.cons.inj heq).1
  · intro _ heq
    exact hbrace (List.cons.inj heq).1

theorem exists_intDigits_eq_cons (value : Int) :
    ∃ first more, Text.intDigits value = first :: more ∧ StartsAtom first := by
  unfold Text.intDigits
  split
  · exact ⟨'-', _, rfl, ⟨rfl, by decide, by decide⟩, by decide, by decide, by decide⟩
  · obtain ⟨first, more, heq, hfirst⟩ := (isWhole_natDigits value.natAbs).exists_cons
    exact ⟨first, more, heq, startsAtom_of_isDigit hfirst⟩

theorem exists_text_eq_cons (value : Binary64) :
    ∃ first more, value.text "Infinity" "NaN" = first :: more ∧ StartsAtom first := by
  have hminus : StartsAtom '-' := ⟨⟨rfl, by decide, by decide⟩, by decide, by decide, by decide⟩
  have hletter : StartsAtom 'I' := ⟨⟨rfl, by decide, by decide⟩, by decide, by decide, by decide⟩
  cases value with
  | finite negative mantissa exponent =>
      obtain ⟨first, more, heq, hfirst⟩ :=
        (Binary64.isLiteral_magnitudeText mantissa exponent).exists_cons
      cases negative with
      | true => exact ⟨'-', _, rfl, hminus⟩
      | false => exact ⟨first, more, heq, startsAtom_of_isDigit hfirst⟩
  | infinite negative =>
      cases negative with
      | true => exact ⟨'-', _, rfl, hminus⟩
      | false => exact ⟨'I', "nfinity".toList, by decide, hletter⟩
  | nan =>
      exact ⟨'N', "aN".toList, by decide, ⟨rfl, by decide, by decide⟩, by decide, by decide,
        by decide⟩

/-- A written value begins with the first character of a value. -/
theorem exists_writeAt_eq_cons (level : Nat) (value : Json) :
    ∃ first more, writeAt level value = first :: more ∧ StartsValue first := by
  cases value with
  | null => exact ⟨_, _, rfl, rfl, by decide, by decide⟩
  | bool value =>
      cases value with
      | true => exact ⟨_, _, rfl, rfl, by decide, by decide⟩
      | false => exact ⟨_, _, rfl, rfl, by decide, by decide⟩
  | int value =>
      obtain ⟨first, more, heq, hfirst⟩ := exists_intDigits_eq_cons value
      exact ⟨first, more, heq, hfirst.1⟩
  | real value =>
      obtain ⟨first, more, heq, hfirst⟩ := exists_text_eq_cons value
      exact ⟨first, more, heq, hfirst.1⟩
  | string value => exact ⟨_, _, rfl, rfl, by decide, by decide⟩
  | array items =>
      cases items with
      | nil => exact ⟨_, _, rfl, rfl, by decide, by decide⟩
      | cons item items => exact ⟨'[', _, rfl, rfl, by decide, by decide⟩
  | object fields =>
      cases fields with
      | nil => exact ⟨_, _, rfl, rfl, by decide, by decide⟩
      | cons field fields => exact ⟨'\x7b', _, rfl, rfl, by decide, by decide⟩

/-! ## Values without parts -/

/-- The value is read back from what is written for it, with enough parts allowed. -/
def ReadsBack (value : Json) : Prop :=
  ∀ (level depth : Nat) (rest : List Char), Follows rest →
    (writeAt level value).length ≤ depth →
    readValue depth (writeAt level value ++ rest) = some (asRead value, rest)

/-- A value that is written as an atom is read back. -/
theorem IsAtom.readsBack (htext : ∀ level, IsAtom (writeAt level value) (asRead value)) :
    ReadsBack value := by
  intro level depth rest hrest hdepth
  cases depth with
  | zero =>
      obtain ⟨first, more, heq, -⟩ := (htext level).starts
      rw [heq] at hdepth
      cases hdepth
  | succ depth => exact (htext level).readValue hrest depth

theorem readsBack_null : ReadsBack null :=
  IsAtom.readsBack fun _ =>
    ⟨⟨_, _, rfl, ⟨rfl, by decide, by decide⟩, by decide, by decide, by decide⟩, fun _ _ => rfl⟩

theorem readsBack_bool (value : Bool) : ReadsBack (bool value) := by
  cases value with
  | true =>
      exact IsAtom.readsBack fun _ =>
        ⟨⟨_, _, rfl, ⟨rfl, by decide, by decide⟩, by decide, by decide, by decide⟩, fun _ _ => rfl⟩
  | false =>
      exact IsAtom.readsBack fun _ =>
        ⟨⟨_, _, rfl, ⟨rfl, by decide, by decide⟩, by decide, by decide, by decide⟩, fun _ _ => rfl⟩

/-- An integer that is not too long is read back as it was. -/
theorem readsBack_int {value : Int} (hvalue : value.natAbs < 10 ^ Text.maxIntegerDigits) :
    ReadsBack (int value) :=
  IsAtom.readsBack fun _ =>
    ⟨exists_intDigits_eq_cons value, fun _ hrest => readAtom_intDigits hvalue hrest.endsNumber⟩

theorem readsBack_real (value : Binary64) : ReadsBack (real value) :=
  IsAtom.readsBack fun _ =>
    ⟨exists_text_eq_cons value, fun _ hrest => readAtom_text value hrest.endsNumber⟩

theorem writeString_append (value : LooseText) (rest : List Char) :
    writeString value ++ rest = '"' :: (value.flatMap escapePoint ++ '"' :: rest) := by
  rw [writeString, List.cons_append, List.cons_append, List.append_assoc, List.singleton_append]

/-- A string is read back with its halves joined. -/
theorem readsBack_string (value : LooseText) : ReadsBack (string value) := by
  intro level depth rest _ hdepth
  cases depth with
  | zero => cases hdepth
  | succ depth =>
      have htext : writeAt level (string value) ++ rest = writeString value ++ rest := rfl
      rw [htext, writeString_append, readValue, readString_escaped, asRead]
      rfl

/-! ## Arrays -/

theorem head?_writeAt_append (level : Nat) (value : Json) (rest : List Char) :
    ∀ c ∈ (writeAt level value ++ rest).head?, StartsValue c := by
  obtain ⟨first, more, heq, hfirst⟩ := exists_writeAt_eq_cons level value
  rw [heq]
  rintro c ⟨⟩
  exact hfirst

theorem follows_writeItems (items : List Json) (inner outer : Nat) (rest : List Char) :
    Follows (writeItems inner items ++ (newLine outer ++ rest)) := by
  cases items with
  | nil => exact follows_newLine outer rest
  | cons item items =>
      rintro c ⟨⟩
      exact .inl rfl

/-- The last item is followed by the closing bracket. -/
theorem readItems_last {item : Json} {after : List Char}
    (hitem : readValue depth text = some (item, after)) (hclose : skipSpace after = ']' :: rest) :
    readItems (depth + 1) text = some ([item], rest) := by
  rw [readItems, hitem]
  dsimp only [Option.bind_eq_bind, Option.bind_some]
  rw [hclose]
  rfl

/-- An item that a comma follows is followed by another one. -/
theorem readItems_next {item : Json} {items : List Json} {after more : List Char}
    (hitem : readValue depth text = some (item, after)) (hcomma : skipSpace after = ',' :: more)
    (hitems : readItems depth (skipSpace more) = some (items, rest)) :
    readItems (depth + 1) text = some (item :: items, rest) := by
  rw [readItems, hitem]
  dsimp only [Option.bind_eq_bind, Option.bind_some]
  rw [hcomma]
  exact congrArg (Option.bind · _) hitems

/-- The items of an array are read back if each of them is. -/
theorem readItems_written {item : Json} {items : List Json} (hitem : ReadsBack item)
    (hitems : ∀ item ∈ items, ReadsBack item) (inner outer depth : Nat) (rest : List Char)
    (hdepth : (writeAt inner item).length + (writeItems inner items).length < depth) :
    readItems depth
        (writeAt inner item ++ (writeItems inner items ++ (newLine outer ++ ']' :: rest))) =
      some ((item :: items).map asRead, rest) := by
  induction items generalizing item depth with
  | nil =>
      obtain ⟨depth, rfl⟩ := Nat.exists_eq_succ_of_ne_zero (Nat.ne_zero_of_lt hdepth)
      exact readItems_last (hitem inner depth _ (follows_newLine outer _) (by omega))
        (skipSpace_newLine outer (by rintro c ⟨⟩; rfl))
  | cons next items ih =>
      obtain ⟨depth, rfl⟩ := Nat.exists_eq_succ_of_ne_zero (Nat.ne_zero_of_lt hdepth)
      rw [List.forall_mem_cons] at hitems
      have hlength : (writeAt inner next).length + (writeItems inner items).length < depth := by
        rw [writeItems] at hdepth
        simp only [List.length_append, List.length_cons] at hdepth
        omega
      have hcomma : skipSpace (writeItems inner (next :: items) ++ (newLine outer ++ ']' :: rest)) =
          ',' :: (newLine inner ++ (writeAt inner next ++
            (writeItems inner items ++ (newLine outer ++ ']' :: rest)))) := by
        rw [skipSpace_eq_self (by rintro c ⟨⟩; rfl), writeItems]
        simp only [List.cons_append, List.append_assoc]
      refine readItems_next (hitem inner depth _ (follows_writeItems _ inner outer _) (by omega))
        hcomma ?_
      rw [skipSpace_newLine inner fun c hc => (head?_writeAt_append inner next _ c hc).1]
      exact ih hitems.1 hitems.2 depth hlength

theorem readValue_array {items : List Json} (hstart : ∀ c ∈ (skipSpace text).head?, c ≠ ']')
    (hitems : readItems depth (skipSpace text) = some (items, rest)) :
    readValue (depth + 1) ('[' :: text) = some (array items, rest) := by
  rw [readValue]
  split
  · rename_i heq
    rw [heq] at hstart
    exact absurd rfl (hstart ']' rfl)
  · rw [hitems]
    rfl

/-- An array is read back if its items are. -/
theorem readsBack_array {items : List Json} (hitems : ∀ item ∈ items, ReadsBack item) :
    ReadsBack (array items) := by
  intro level depth rest _ hdepth
  cases items with
  | nil =>
      cases depth with
      | zero => cases hdepth
      | succ depth => rfl
  | cons item items =>
      rw [List.forall_mem_cons] at hitems
      rw [writeAt] at hdepth ⊢
      simp only [List.length_append, List.length_cons] at hdepth
      obtain ⟨depth, rfl⟩ := Nat.exists_eq_succ_of_ne_zero (show depth ≠ 0 by omega)
      simp only [List.cons_append, List.append_assoc, List.nil_append]
      have hstart := head?_writeAt_append (level + 1) item
        (writeItems (level + 1) items ++ (newLine level ++ ']' :: rest))
      have hopen := skipSpace_newLine (level + 1) fun c hc => (hstart c hc).1
      rw [asRead_array]
      refine readValue_array ?_ ?_
      · rw [hopen]
        exact fun c hc => (hstart c hc).2.1
      · rw [hopen]
        exact readItems_written hitems.1 hitems.2 (level + 1) level depth rest (by omega)

/-! ## Objects -/

/-- A field with what stands between its key and its value. -/
def writeField (level : Nat) (field : LooseText × Json) : List Char :=
  writeString field.1 ++ ':' :: ' ' :: writeAt level field.2

theorem writeFields_cons (level : Nat) (field : LooseText × Json) (fields : Fields) :
    writeFields level (field :: fields) =
      ',' :: newLine level ++ writeField level field ++ writeFields level fields := by
  rw [writeFields, writeField]
  simp only [List.append_assoc]

theorem follows_writeFields (fields : Fields) (inner outer : Nat) (rest : List Char) :
    Follows (writeFields inner fields ++ (newLine outer ++ rest)) := by
  cases fields with
  | nil => exact follows_newLine outer rest
  | cons field fields =>
      rw [writeFields_cons]
      rintro c ⟨⟩
      exact .inl rfl

/-- A field is read back under its key, with the halves of the key joined. -/
theorem readFields_field (key : LooseText) {value : Json} (hvalue : ReadsBack value) (level : Nat)
    (done : Fields) (hrest : Follows rest) (hdepth : (writeAt level value).length ≤ depth) :
    readFields (depth + 1) done (writeField level (key, value) ++ rest) =
      match skipSpace rest with
      | '\x7d' :: rest => some (insert key.joined (asRead value) done, rest)
      | ',' :: rest => readFields depth (insert key.joined (asRead value) done) (skipSpace rest)
      | _ => none := by
  have hcolon : skipSpace (':' :: ' ' :: (writeAt level value ++ rest)) =
      ':' :: ' ' :: (writeAt level value ++ rest) :=
    skipSpace_eq_self (by rintro c ⟨⟩; rfl)
  have hblank : skipSpace (' ' :: (writeAt level value ++ rest)) = writeAt level value ++ rest :=
    Text.dropWhile_eq_iff.2 ⟨[' '], rfl, by simp; rfl,
      fun c hc => (head?_writeAt_append level value rest c hc).1⟩
  have hread : readValue depth (skipSpace (' ' :: (writeAt level value ++ rest))) =
      some (asRead value, rest) := by
    rw [hblank, hvalue level depth rest hrest hdepth]
  rw [writeField, List.append_assoc, writeString_append, readFields, readString_escaped]
  dsimp only [Option.bind_eq_bind, Option.bind_some, List.cons_append]
  rw [hcolon]
  exact congrArg (Option.bind · _) hread

/-- The fields of an object are read back if their values are. -/
theorem readFields_written {field : LooseText × Json} {fields : Fields} (hvalue : ReadsBack field.2)
    (hvalues : ∀ field ∈ fields, ReadsBack field.2) (inner outer depth : Nat) (done : Fields)
    (rest : List Char)
    (hdepth : (writeField inner field).length + (writeFields inner fields).length < depth) :
    readFields depth done
        (writeField inner field ++
          (writeFields inner fields ++ (newLine outer ++ '\x7d' :: rest))) =
      some (update done (fieldsAsRead (field :: fields)), rest) := by
  induction fields generalizing field depth done with
  | nil =>
      obtain ⟨depth, rfl⟩ := Nat.exists_eq_succ_of_ne_zero (Nat.ne_zero_of_lt hdepth)
      have hlength : (writeAt inner field.2).length ≤ depth := by
        rw [writeField] at hdepth
        simp only [List.length_append, List.length_cons] at hdepth
        omega
      have hclose : skipSpace (newLine outer ++ '\x7d' :: rest) = '\x7d' :: rest :=
        skipSpace_newLine outer (by rintro c ⟨⟩; rfl)
      rw [writeFields, List.nil_append,
        readFields_field field.1 hvalue inner done (follows_newLine outer _) hlength, hclose]
      rfl
  | cons next fields ih =>
      obtain ⟨depth, rfl⟩ := Nat.exists_eq_succ_of_ne_zero (Nat.ne_zero_of_lt hdepth)
      rw [List.forall_mem_cons] at hvalues
      rw [writeFields_cons] at hdepth
      simp only [List.length_append, List.length_cons] at hdepth
      have hlength : (writeAt inner field.2).length ≤ depth := by
        rw [writeField] at hdepth
        simp only [List.length_append, List.length_cons] at hdepth
        omega
      have hcomma :
          skipSpace (writeFields inner (next :: fields) ++ (newLine outer ++ '\x7d' :: rest)) =
            ',' :: (newLine inner ++ (writeField inner next ++
              (writeFields inner fields ++ (newLine outer ++ '\x7d' :: rest)))) := by
        rw [writeFields_cons]
        simp only [List.cons_append, List.append_assoc]
        exact skipSpace_eq_self (by rintro c ⟨⟩; rfl)
      have hnext := ih hvalues.1 hvalues.2 depth (insert field.1.joined (asRead field.2) done)
        (by omega)
      rw [readFields_field field.1 hvalue inner done (follows_writeFields _ inner outer _) hlength,
        hcomma]
      refine Eq.trans (congrArg (readFields depth _) (skipSpace_newLine inner ?_)) hnext
      rintro c ⟨⟩
      rfl

theorem readValue_object {fields : Fields} (hstart : ∀ c ∈ (skipSpace text).head?, c ≠ '\x7d')
    (hfields : readFields depth [] (skipSpace text) = some (fields, rest)) :
    readValue (depth + 1) ('\x7b' :: text) = some (object fields, rest) := by
  rw [readValue]
  split
  · rename_i heq
    rw [heq] at hstart
    exact absurd rfl (hstart '\x7d' rfl)
  · rw [hfields]
    rfl

/-- An object is read back if the values of its fields are. -/
theorem readsBack_object {fields : Fields} (hvalues : ∀ field ∈ fields, ReadsBack field.2) :
    ReadsBack (object fields) := by
  intro level depth rest _ hdepth
  cases fields with
  | nil =>
      cases depth with
      | zero => cases hdepth
      | succ depth => rfl
  | cons field fields =>
      rw [List.forall_mem_cons] at hvalues
      have htext : writeAt level (object (field :: fields)) =
          '\x7b' :: newLine (level + 1) ++ writeField (level + 1) field ++
            writeFields (level + 1) fields ++ newLine level ++ ['\x7d'] := by
        rw [writeAt, writeField]
        simp only [List.append_assoc]
      rw [htext] at hdepth ⊢
      simp only [List.length_append, List.length_cons] at hdepth
      obtain ⟨depth, rfl⟩ := Nat.exists_eq_succ_of_ne_zero (show depth ≠ 0 by omega)
      simp only [List.cons_append, List.append_assoc, List.nil_append]
      have hread :=
        readFields_written hvalues.1 hvalues.2 (level + 1) level depth [] rest (by omega)
      have hopen := skipSpace_newLine (level + 1) (by rintro c ⟨⟩; rfl :
        ∀ c ∈ (writeField (level + 1) field ++ (writeFields (level + 1) fields ++
          (newLine level ++ '\x7d' :: rest))).head?, isSpace c = false)
      rw [asRead]
      refine readValue_object ?_ ?_
      · rw [hopen]
        rintro c ⟨⟩
        decide
      · rw [hopen, hread]

/-- Each bounded value is read back where it stands in a written one. -/
theorem readsBack_of_isBounded (hvalue : value.isBounded = true) : ReadsBack value := by
  induction value using parts_induction with
  | null => exact readsBack_null
  | bool value => exact readsBack_bool value
  | int value => exact readsBack_int (isBounded_int_iff.1 hvalue)
  | real value => exact readsBack_real value
  | string value => exact readsBack_string value
  | array items ih =>
      rw [isBounded_array_iff] at hvalue
      exact readsBack_array fun item hitem => ih item hitem (hvalue item hitem)
  | object fields ih =>
      rw [isBounded_object_iff] at hvalue
      exact readsBack_object fun field hfield => ih field hfield (hvalue field hfield)

/-- The text of a bounded value with a line feed after it can be read. -/
theorem read?_write (hvalue : value.isBounded = true) :
    read? (write value ++ ['\n']) = some (asRead value) := by
  have hstart := head?_writeAt_append 0 value ['\n']
  have hread := readsBack_of_isBounded hvalue 0 ((write value ++ ['\n']).length + 1) ['\n']
    (by rintro c ⟨⟩; exact .inr rfl) (by rw [List.length_append]; exact Nat.le_add_right _ 2)
  rw [read?, write, skipSpace_eq_self fun c hc => (hstart c hc).1]
  rw [write] at hread
  rw [hread]
  rfl

end FrameLens.Json
