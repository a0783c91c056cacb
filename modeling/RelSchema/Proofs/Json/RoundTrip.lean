import RelSchema.Proofs.Json.Numbers
import RelSchema.Proofs.Json.Strings

namespace RelSchema.Json

inductive Whole : Json → Prop where
  | null : Whole null
  | bool (value : Bool) : Whole (bool value)
  | int (value : Int) : Whole (int value)
  | string (value : String) : Whole (string value)
  | array (items : List Json) (each : ∀ item ∈ items, Whole item) : Whole (array items)
  | object (members : List (String × Json)) (each : ∀ member ∈ members, Whole member.2) :
      Whole (object members)

theorem areWritable_iff (items : List Json) :
    areWritable items = true ↔ ∀ item ∈ items, item.isWritable = true := by
  induction items with
  | nil => simp [areWritable]
  | cons item rest ih => rw [areWritable, Bool.and_eq_true, ih, List.forall_mem_cons]

theorem membersAreWritable_iff (members : List (String × Json)) :
    membersAreWritable members = true ↔ ∀ member ∈ members, member.2.isWritable = true := by
  induction members with
  | nil => simp [membersAreWritable]
  | cons member rest ih =>
    rw [membersAreWritable, Bool.and_eq_true, ih, List.forall_mem_cons]

theorem skipSpace_blank {gap : List Char} (blank : ∀ c ∈ gap, isSpace c = true)
    (rest : List Char) : skipSpace (gap ++ rest) = skipSpace rest :=
  List.dropWhile_append_of_pos blank

theorem skipSpace_solid {c : Char} (solid : isSpace c = false) (rest : List Char) :
    skipSpace (c :: rest) = c :: rest :=
  List.dropWhile_cons_of_neg (by simp [solid])

theorem newline_blank (style : Style) (depth : Nat) :
    ∀ c ∈ style.newline depth, isSpace c = true := by
  intro c member
  cases style with
  | line => contradiction
  | indented width =>
    rcases List.mem_cons.mp member with rfl | spaces
    · rfl
    · rw [List.eq_of_mem_replicate spaces]
      rfl

theorem separator_eq (style : Style) (depth : Nat) :
    ∃ gap, style.separator depth = ',' :: gap ∧ ∀ c ∈ gap, isSpace c = true := by
  cases style with
  | line => exact ⟨[' '], rfl, List.forall_mem_singleton.mpr rfl⟩
  | indented width => exact ⟨_, rfl, newline_blank _ depth⟩

theorem endsNumber_cons {c : Char}
    (ends : c.isDigit = false ∧ c ≠ '.' ∧ c ≠ 'e' ∧ c ≠ 'E') (rest : List Char) :
    EndsNumber (c :: rest) := by
  rintro d ⟨⟩
  exact ends

theorem endsNumber_newline (style : Style) (depth : Nat) {rest : List Char}
    (ends : EndsNumber rest) : EndsNumber (style.newline depth ++ rest) := by
  cases style with
  | line => exact ends
  | indented width => exact endsNumber_cons (by decide) _

theorem endsNumber_separator (style : Style) (depth : Nat) (rest : List Char) :
    EndsNumber (style.separator depth ++ rest) := by
  obtain ⟨gap, shape, -⟩ := separator_eq style depth
  rw [shape]
  exact endsNumber_cons (by decide) _

theorem chars_int (style : Style) (depth : Nat) (value : Int) :
    chars style depth (int value) = (toString value).toList := by
  rw [chars.eq_8] <;> simp [numberChars]

theorem chars_object (style : Style) (depth : Nat) (key : String) (value : Json)
    (members : List (String × Json)) :
    chars style depth (object ((key, value) :: members)) =
      openBrace :: style.newline (depth + 1) ++ memberChars style (depth + 1) key value ++
        laterMemberChars style (depth + 1) members ++ style.newline depth ++ [closeBrace] :=
  chars.eq_7 style depth key value members

def StartsValue (s : List Char) : Prop :=
  ∃ c more, s = c :: more ∧ isSpace c = false ∧ c ≠ ']' ∧ c ≠ Char.ofNat 0xFEFF

theorem startsValue_chars (style : Style) (depth : Nat) {json : Json} (whole : Whole json) :
    StartsValue (chars style depth json) := by
  cases whole with
  | null => exact ⟨'n', _, chars.eq_1 style depth, by decide, by decide, by decide⟩
  | bool value =>
    rw [chars]
    cases value
    · exact ⟨'f', _, rfl, by decide, by decide, by decide⟩
    · exact ⟨'t', _, rfl, by decide, by decide, by decide⟩
  | int value =>
    rw [chars_int]
    obtain ⟨c, more, digit, -, ⟨-, written⟩ | ⟨-, written⟩⟩ := toString_int value
    · have solid (d : Char) (other : d.isDigit = false) : (c == d) = false :=
        beq_false_of_ne (ne_of_digit digit other)
      refine ⟨c, more, written, ?_, ne_of_digit digit rfl, ne_of_digit digit rfl⟩
      simp only [isSpace, solid, Char.reduceIsDigit, Bool.or_false]
    · exact ⟨'-', c :: more, written, by decide, by decide, by decide⟩
  | string value => exact ⟨'"', _, chars.eq_3 style depth value, by decide, by decide, by decide⟩
  | array items =>
    cases items <;> rw [chars] <;> exact ⟨'[', _, rfl, by decide, by decide, by decide⟩
  | object members =>
    cases members <;> rw [chars] <;> exact ⟨openBrace, _, rfl, by decide, by decide, by decide⟩

/-- A value is read from what it is written as, and what follows it is left. -/
def ReadsBack (style : Style) (json : Json) : Prop :=
  ∀ depth fuel rest, (chars style depth json).length < fuel → EndsNumber rest →
    readValue fuel (chars style depth json ++ rest) = .ok (json, rest)

theorem stringChars_append (text : String) (rest : List Char) :
    stringChars text.toList ++ rest = '"' :: (text.toList.flatMap escapeChar ++ '"' :: rest) := by
  simp [stringChars]

theorem readValue_string (fuel : Nat) (text : String) (rest : List Char) :
    readValue (fuel + 1) (stringChars text.toList ++ rest) = .ok (.string text, rest) := by
  rw [stringChars_append, readValue.eq_3, if_pos rfl, readString_stringChars]
  rfl

theorem readValue_scalar (fuel : Nat) {c : Char} (rest : List Char)
    (scalar : c ≠ '"' ∧ c ≠ '[' ∧ c ≠ openBrace) :
    readValue (fuel + 1) (c :: rest) = readScalar (c :: rest) := by
  rw [readValue.eq_3, if_neg scalar.1, if_neg scalar.2.1, if_neg scalar.2.2]

theorem readValue_items (fuel : Nat) {gap s : List Char} (blank : ∀ c ∈ gap, isSpace c = true)
    (starts : StartsValue s) :
    readValue (fuel + 1) ('[' :: (gap ++ s)) =
      (readItems fuel s).map fun (items, after) => (.array items, after) := by
  obtain ⟨c, more, rfl, solid, item, -⟩ := starts
  have first : skipSpace (gap ++ c :: more) = c :: more := by
    rw [skipSpace_blank blank, skipSpace_solid solid]
  rw [readValue.eq_3, if_neg (by decide), if_pos rfl, first]
  split
  · rename_i same
    exact absurd (List.cons.inj same).1 item
  · rfl

theorem readValue_members (fuel : Nat) {gap s : List Char} (blank : ∀ c ∈ gap, isSpace c = true) :
    readValue (fuel + 1) (openBrace :: (gap ++ '"' :: s)) =
      (readMembers fuel ('"' :: s)).map fun (members, after) => (.object members, after) := by
  have first : skipSpace (gap ++ '"' :: s) = '"' :: s := by
    rw [skipSpace_blank blank, skipSpace_solid (by decide)]
  rw [readValue.eq_3, if_neg (by decide), if_neg (by decide), if_pos rfl, first]
  rfl

theorem readsBack_int (style : Style) {value : Int} (short : value.natAbs.repr.length ≤ maxDigits) :
    ReadsBack style (int value) := by
  intro depth fuel rest enough ends
  obtain ⟨fuel, rfl⟩ := Nat.exists_eq_add_of_lt enough
  have scalar := readScalar_int value short ends
  rw [chars_int]
  obtain ⟨c, more, digit, -, ⟨-, written⟩ | ⟨-, written⟩⟩ := toString_int value
  · rw [written, List.cons_append] at scalar ⊢
    rw [readValue_scalar _ _ ⟨ne_of_digit digit rfl, ne_of_digit digit rfl, ne_of_digit digit rfl⟩,
      scalar]
  · rw [written, List.cons_append] at scalar ⊢
    rw [readValue_scalar _ _ (by decide), scalar]

theorem readItems_last (fuel : Nat) {s gap rest : List Char} {item : Json}
    (blank : ∀ c ∈ gap, isSpace c = true)
    (read : readValue fuel s = .ok (item, gap ++ ']' :: rest)) :
    readItems (fuel + 1) s = .ok ([item], rest) := by
  have next : skipSpace (gap ++ ']' :: rest) = ']' :: rest := by
    rw [skipSpace_blank blank, skipSpace_solid (by decide)]
  simp only [readItems, read, bind, Except.bind, next]

theorem readItems_more (fuel : Nat) {s gap next rest : List Char} {item : Json} {items : List Json}
    (blank : ∀ c ∈ gap, isSpace c = true) (starts : StartsValue next)
    (read : readValue fuel s = .ok (item, ',' :: (gap ++ next)))
    (more : readItems fuel next = .ok (items, rest)) :
    readItems (fuel + 1) s = .ok (item :: items, rest) := by
  obtain ⟨c, text, rfl, solid, -⟩ := starts
  have comma : skipSpace (',' :: (gap ++ c :: text)) = ',' :: (gap ++ c :: text) :=
    skipSpace_solid (by decide) _
  have first : skipSpace (gap ++ c :: text) = c :: text := by
    rw [skipSpace_blank blank, skipSpace_solid solid]
  simp only [readItems, read, bind, Except.bind, comma, first, more]

theorem readMembers_last (fuel : Nat) {gap value rest : List Char} (key : String) {item : Json}
    (blank : ∀ c ∈ gap, isSpace c = true) (starts : StartsValue value)
    (read : readValue fuel value = .ok (item, gap ++ closeBrace :: rest)) :
    readMembers (fuel + 1) (stringChars key.toList ++ ':' :: ' ' :: value) =
      .ok ([(key, item)], rest) := by
  obtain ⟨c, text, rfl, solid, -⟩ := starts
  have colon : skipSpace (':' :: ' ' :: c :: text) = ':' :: ' ' :: c :: text :=
    skipSpace_solid (by decide) _
  have first : skipSpace (' ' :: c :: text) = c :: text := skipSpace_solid solid text
  have next : skipSpace (gap ++ closeBrace :: rest) = closeBrace :: rest := by
    rw [skipSpace_blank blank, skipSpace_solid (by decide)]
  rw [stringChars_append]
  simp only [readMembers, readString_stringChars, bind, Except.bind, colon, first, read, next]
  exact if_pos rfl

theorem readMembers_more (fuel : Nat) {gap value next rest : List Char} (key : String)
    {item : Json} {members : List (String × Json)} (blank : ∀ c ∈ gap, isSpace c = true)
    (starts : StartsValue value)
    (read : readValue fuel value = .ok (item, ',' :: (gap ++ '"' :: next)))
    (more : readMembers fuel ('"' :: next) = .ok (members, rest)) :
    readMembers (fuel + 1) (stringChars key.toList ++ ':' :: ' ' :: value) =
      .ok ((key, item) :: members, rest) := by
  obtain ⟨c, text, rfl, solid, -⟩ := starts
  have colon : skipSpace (':' :: ' ' :: c :: text) = ':' :: ' ' :: c :: text :=
    skipSpace_solid (by decide) _
  have first : skipSpace (' ' :: c :: text) = c :: text := skipSpace_solid solid text
  have comma : skipSpace (',' :: (gap ++ '"' :: next)) = ',' :: (gap ++ '"' :: next) :=
    skipSpace_solid (by decide) _
  have second : skipSpace (gap ++ '"' :: next) = '"' :: next := by
    rw [skipSpace_blank blank, skipSpace_solid (by decide)]
  have goesOn : ((',' :: (gap ++ '"' :: next)).head? == some closeBrace) = false := rfl
  rw [stringChars_append]
  simp only [readMembers, readString_stringChars, bind, Except.bind, colon, first, read, comma,
    goesOn, Bool.false_eq_true, ↓reduceIte, second, more]

theorem startsValue_append {s : List Char} (starts : StartsValue s) (rest : List Char) :
    StartsValue (s ++ rest) := by
  obtain ⟨c, more, rfl, solid, item⟩ := starts
  exact ⟨c, more ++ rest, rfl, solid, item⟩

theorem readItems_chars (style : Style) (depth outer : Nat) {item : Json} {items : List Json}
    (whole : ∀ j ∈ item :: items, Whole j) (each : ∀ j ∈ item :: items, ReadsBack style j)
    {fuel : Nat} (rest : List Char)
    (enough : (chars style depth item ++ itemChars style depth items).length + 1 < fuel) :
    readItems fuel (chars style depth item ++ (itemChars style depth items ++
      (style.newline outer ++ ']' :: rest))) = .ok (item :: items, rest) := by
  -- Each item after the first takes one unit of fuel, and the comma before it is a character.
  obtain ⟨fuel, rfl⟩ : ∃ k, fuel = k + 1 := ⟨fuel - 1, by omega⟩
  rw [List.length_append] at enough
  have first (after : List Char) := each item List.mem_cons_self depth fuel after (by omega)
  induction items generalizing item fuel with
  | nil =>
    have ends : EndsNumber (style.newline outer ++ ']' :: rest) :=
      endsNumber_newline style outer (endsNumber_cons (by decide) _)
    rw [itemChars, List.nil_append]
    exact readItems_last fuel (newline_blank style outer) (first _ ends)
  | cons next items ih =>
    rw [List.forall_mem_cons] at whole each
    obtain ⟨gap, comma, blank⟩ := separator_eq style depth
    have starts := startsValue_chars style depth (whole.2 next List.mem_cons_self)
    simp only [itemChars, comma, List.length_append, List.length_cons] at enough
    obtain ⟨fuel, rfl⟩ : ∃ k, fuel = k + 1 := ⟨fuel - 1, by omega⟩
    have more := ih whole.2 each.2 fuel (by omega)
      (fun after => each.2 next List.mem_cons_self depth fuel after (by omega))
    have ends := endsNumber_separator style depth (chars style depth next ++
      (itemChars style depth items ++ (style.newline outer ++ ']' :: rest)))
    have read := first _ ends
    rw [comma] at read
    rw [itemChars, comma]
    simp only [List.append_assoc, List.cons_append] at read ⊢
    exact readItems_more _ blank (startsValue_append starts _) read more

theorem readMembers_chars (style : Style) (depth outer : Nat) {key : String} {value : Json}
    {members : List (String × Json)} (whole : ∀ m ∈ (key, value) :: members, Whole m.2)
    (each : ∀ m ∈ (key, value) :: members, ReadsBack style m.2) {fuel : Nat} (rest : List Char)
    (enough : (memberChars style depth key value ++
      laterMemberChars style depth members).length + 1 < fuel) :
    readMembers fuel (memberChars style depth key value ++
      (laterMemberChars style depth members ++ (style.newline outer ++ closeBrace :: rest))) =
        .ok ((key, value) :: members, rest) := by
  obtain ⟨fuel, rfl⟩ : ∃ k, fuel = k + 1 := ⟨fuel - 1, by omega⟩
  rw [memberChars, List.length_append, List.length_append, List.length_cons, List.length_cons]
    at enough
  have starts := startsValue_append (startsValue_chars style depth (whole _ List.mem_cons_self))
  have own : ReadsBack style value := each _ List.mem_cons_self
  have first (after : List Char) := own depth fuel after (by omega)
  induction members generalizing key value fuel with
  | nil =>
    have ends : EndsNumber (style.newline outer ++ closeBrace :: rest) :=
      endsNumber_newline style outer (endsNumber_cons (by decide) _)
    have read := readMembers_last fuel key (newline_blank style outer) (starts _) (first _ ends)
    simpa only [memberChars, laterMemberChars, List.nil_append, List.append_assoc,
      List.cons_append] using read
  | cons next members ih =>
    obtain ⟨nextKey, nextValue⟩ := next
    rw [List.forall_mem_cons] at whole each
    obtain ⟨gap, comma, blank⟩ := separator_eq style depth
    simp only [laterMemberChars, memberChars, comma, List.length_append, List.length_cons] at enough
    obtain ⟨fuel, rfl⟩ : ∃ k, fuel = k + 1 := ⟨fuel - 1, by omega⟩
    have following : ReadsBack style nextValue := each.2 _ List.mem_cons_self
    have more := ih whole.2 each.2 fuel (by omega)
      (startsValue_append (startsValue_chars style depth (whole.2 _ List.mem_cons_self))) following
      (fun after => following depth fuel after (by omega))
    have ends := endsNumber_separator style depth (memberChars style depth nextKey nextValue ++
      (laterMemberChars style depth members ++ (style.newline outer ++ closeBrace :: rest)))
    have read := first _ ends
    rw [comma] at read
    simp only [memberChars, stringChars, List.append_assoc, List.cons_append] at read more
    have all := readMembers_more _ key blank (starts _) read more
    simpa only [memberChars, laterMemberChars, comma, stringChars, List.append_assoc,
      List.cons_append] using all

theorem readsBack_array (style : Style) {items : List Json} (whole : ∀ j ∈ items, Whole j)
    (each : ∀ j ∈ items, ReadsBack style j) : ReadsBack style (array items) := by
  intro depth fuel rest enough ends
  obtain ⟨fuel, rfl⟩ : ∃ k, fuel = k + 1 := ⟨fuel - 1, by omega⟩
  cases items with
  | nil =>
    rw [chars]
    rfl
  | cons item items =>
    simp only [chars, List.length_append, List.length_cons] at enough
    have starts := startsValue_chars style (depth + 1) (whole item List.mem_cons_self)
    have read := @readItems_chars style (depth + 1) depth item items whole each fuel rest
      (by rw [List.length_append]; omega)
    rw [chars]
    simp only [List.append_assoc, List.cons_append, List.nil_append]
    rw [readValue_items fuel (newline_blank style _) (startsValue_append starts _), read]
    rfl

theorem readsBack_object (style : Style) {members : List (String × Json)}
    (whole : ∀ m ∈ members, Whole m.2) (each : ∀ m ∈ members, ReadsBack style m.2) :
    ReadsBack style (object members) := by
  intro depth fuel rest enough ends
  obtain ⟨fuel, rfl⟩ : ∃ k, fuel = k + 1 := ⟨fuel - 1, by omega⟩
  cases members with
  | nil =>
    rw [chars]
    rfl
  | cons member members =>
    obtain ⟨key, value⟩ := member
    rw [chars_object] at enough ⊢
    simp only [List.length_append, List.length_cons] at enough
    have read := @readMembers_chars style (depth + 1) depth key value members whole each fuel rest
      (by rw [List.length_append]; omega)
    simp only [memberChars, stringChars, List.append_assoc, List.cons_append,
      List.nil_append] at read ⊢
    rw [readValue_members fuel (newline_blank style (depth + 1)), read]
    rfl

theorem readsBack_of_whole (style : Style) {json : Json} (whole : Whole json)
    (writable : json.isWritable = true) : ReadsBack style json := by
  induction whole with
  | null =>
    intro depth fuel rest enough ends
    obtain ⟨fuel, rfl⟩ : ∃ k, fuel = k + 1 := ⟨fuel - 1, by omega⟩
    rw [chars]
    rfl
  | bool value =>
    intro depth fuel rest enough ends
    obtain ⟨fuel, rfl⟩ : ∃ k, fuel = k + 1 := ⟨fuel - 1, by omega⟩
    rw [chars]
    cases value <;> rfl
  | int value => exact readsBack_int style (by simpa [isWritable] using writable)
  | string value =>
    intro depth fuel rest enough ends
    obtain ⟨fuel, rfl⟩ : ∃ k, fuel = k + 1 := ⟨fuel - 1, by omega⟩
    rw [chars, readValue_string]
  | array items each ih =>
    rw [isWritable, areWritable_iff] at writable
    exact readsBack_array style each fun j member => ih j member (writable j member)
  | object members each ih =>
    rw [isWritable, membersAreWritable_iff] at writable
    exact readsBack_object style each fun j member => ih j member (writable j member)

theorem read_of_write {style : Style} {json : Json} {text : String} (whole : Whole json)
    (written : json.write style = .ok text) : read text = .ok json := by
  unfold write at written
  split at written
  · rename_i writable
    obtain rfl := Except.ok.inj written
    obtain ⟨c, more, shape, solid, -, mark⟩ := startsValue_chars style 0 whole
    have value := readsBack_of_whole style whole writable 0 ((chars style 0 json).length + 1) []
      (by omega) (by rintro c ⟨⟩)
    have unmarked : (some c == some (Char.ofNat 0xFEFF)) = false := by simpa using mark
    rw [List.append_nil, shape] at value
    rw [read, render, String.toList_ofList, shape]
    simp only [readChars, List.head?_cons, unmarked, Bool.false_eq_true, ↓reduceIte,
      skipSpace_solid solid, value, bind, Except.bind]
    rfl
  · contradiction

end RelSchema.Json
