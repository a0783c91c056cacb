import RelSchema.Proofs.Blanks
import RelSchema.Proofs.RoundTrip.Header

namespace RelSchema.Sql.Header

/-- A reader that goes no further than an opening parenthesis and takes no notice of what follows
it. -/
def StopsBefore (r : List Char → Option (List Char)) : Prop :=
  ∀ text body, r (text ++ '(' :: body) = (r text).map (· ++ '(' :: body)

theorem StopsBefore.bind {r s : List Char → Option (List Char)} (first : StopsBefore r)
    (second : StopsBefore s) : StopsBefore fun text => (r text).bind s := by
  intro text body
  simp only [first text body]
  cases r text with
  | none => rfl
  | some rest => exact second rest body

theorem skipBlank_append (text body : List Char) :
    skipBlank (text ++ '(' :: body) = skipBlank text ++ '(' :: body := by
  have visible : Text.isBlank '(' = false := by decide
  induction text with
  | nil => exact skipBlank_cons visible body
  | cons c rest ih =>
    unfold skipBlank at ih ⊢
    cases blank : Text.isBlank c <;> simp [blank, ih]

theorem stopsBefore_blank : StopsBefore blank? := by
  intro text body
  have visible : Text.isBlank '(' = false := by decide
  cases text with
  | nil => simp [blank?, visible]
  | cons c rest =>
    rw [List.cons_append, blank?, blank?, skipBlank_append]
    split <;> rfl

theorem stopsBefore_word {word : List Char} (free : '(' ∉ word) : StopsBefore (word? word) := by
  intro text body
  induction word generalizing text with
  | nil => cases text <;> rfl
  | cons w word ih =>
    simp only [List.mem_cons, not_or] at free
    cases text with
    | nil =>
      have other : ¬ Text.foldLetter '(' = w := by
        rw [show Text.foldLetter '(' = '(' by decide]
        exact free.1
      exact if_neg other
    | cons c rest =>
      rw [List.cons_append, word?, word?]
      split
      · exact ih free.2 rest
      · rfl

theorem stopsBefore_spacedKeyword {word : String} (free : '(' ∉ word.toList) :
    StopsBefore (spacedKeyword? word) :=
  (stopsBefore_word free).bind stopsBefore_blank

theorem stopsBefore_phrase {phrase : List String} (free : ∀ word ∈ phrase, '(' ∉ word.toList) :
    StopsBefore fun text => phrase.foldlM (fun rest word => spacedKeyword? word rest) text := by
  induction phrase with
  | nil => exact fun _ _ => rfl
  | cons word more ih =>
    rw [List.forall_mem_cons] at free
    exact (stopsBefore_spacedKeyword free.1).bind (ih free.2)

theorem stopsBefore_skipPhrase {phrases : List (List String)}
    (free : ∀ phrase ∈ phrases, ∀ word ∈ phrase, '(' ∉ word.toList) :
    StopsBefore fun text => some (skipPhrase phrases text) := by
  intro text body
  unfold skipPhrase
  induction phrases with
  | nil => rfl
  | cons phrase more ih =>
    rw [List.forall_mem_cons] at free
    have first := stopsBefore_phrase free.1 text body
    simp only [List.findSome?_cons] at first ⊢
    rw [first]
    cases phrase.foldlM (fun rest word => spacedKeyword? word rest) text with
    | none => exact ih free.2
    | some rest => rfl

def skipKinds (text : List Char) : List Char :=
  skipPhrase [["temporary"], ["temp"]]
    (skipPhrase [["global"], ["local"]] (skipPhrase [["or", "replace"]] text))

def toTableName? (statement : List Char) : Option (List Char) :=
  (spacedKeyword? "create" (skipBlank statement)).bind fun text =>
    (spacedKeyword? "table" (skipKinds text)).bind fun text =>
      some (skipPhrase [["if", "not", "exists"]] text)

theorem stopsBefore_toTableName : StopsBefore toTableName? := by
  have blanks : StopsBefore fun text => some (skipBlank text) :=
    fun text body => congrArg some (skipBlank_append text body)
  have kinds : StopsBefore fun text => some (skipKinds text) :=
    ((stopsBefore_skipPhrase (by decide)).bind (stopsBefore_skipPhrase (by decide))).bind
      (stopsBefore_skipPhrase (by decide))
  have create : StopsBefore (spacedKeyword? "create") := stopsBefore_spacedKeyword (by decide)
  have table : StopsBefore (spacedKeyword? "table") := stopsBefore_spacedKeyword (by decide)
  exact blanks.bind (create.bind (kinds.bind (table.bind (stopsBefore_skipPhrase (by decide)))))

theorem createTable?_eq (statement : List Char) :
    createTable? statement =
      (toTableName? statement).bind fun text => (qualified? text).bind fun (name, rest) =>
        match skipBlank rest with
        | '(' :: body => some (lastName name, body)
        | _ => none := by
  unfold createTable? toTableName?
  cases spacedKeyword? "create" (skipBlank statement) with
  | none => rfl
  | some text =>
    change (spacedKeyword? "table" (skipKinds text)).bind _ =
      ((spacedKeyword? "table" (skipKinds text)).bind _).bind _
    cases spacedKeyword? "table" (skipKinds text) <;> rfl

inductive IsName (starts : Char → Bool) : List Char → List Char → Prop
  | quoted {opening closing : Char} {inside after : List Char}
      (closes : closingMark? opening = some closing) (nonempty : inside ≠ [])
      (free : closing ∉ inside) : IsName starts (opening :: (inside ++ [closing])) after
  | bare {c : Char} {part after : List Char} (unquoted : closingMark? c = none)
      (start : starts c = true) (within : ∀ m ∈ part, isNamePart m = true)
      (ends : ∀ m ∈ after.head?, isNamePart m = false) : IsName starts (c :: part) after

theorem span_cut {p : Char → Bool} {text part after : List Char}
    (cut : text.span p = (part, after)) : text = part ++ after ∧ (∀ m ∈ part, p m = true) ∧
      ∀ m ∈ after.head?, p m = false := by
  rw [List.span_eq_takeWhile_dropWhile] at cut
  cases cut
  exact ⟨List.takeWhile_append_dropWhile.symm, List.all_eq_true.mp List.all_takeWhile,
    fun m head => Text.head_dropWhile head⟩

theorem name?_eq_some_iff {starts : Char → Bool} {text name after : List Char} :
    name? starts text = some (name, after) ↔ text = name ++ after ∧ IsName starts name after := by
  constructor
  · intro found
    cases text with
    | nil => cases found
    | cons c rest =>
      rw [name?] at found
      split at found
      · rename_i closing closes
        split at found
        · cases found
        · cases found
        · rename_i inside mark later nonempty cut
          obtain ⟨rfl, free, ends⟩ := span_cut cut
          have same : mark = closing := by simpa using ends mark rfl
          subst same
          cases found
          refine ⟨by simp, .quoted closes nonempty ?_⟩
          intro member
          simpa using free _ member
      · rename_i unquoted
        split at found
        · rename_i start
          cases cut : rest.span isNamePart with
          | mk part later =>
            obtain ⟨rfl, within, ends⟩ := span_cut cut
            rw [cut] at found
            cases found
            exact ⟨rfl, .bare unquoted start within ends⟩
        · cases found
  · rintro ⟨rfl, named⟩
    cases named with
    | @quoted opening closing inside after closes nonempty free =>
      rw [List.cons_append, List.append_assoc, List.singleton_append, name?, closes]
      simp only [span_quoted free]
      cases inside with
      | nil => contradiction
      | cons first inside => rfl
    | @bare c part after unquoted start within ends =>
      rw [List.cons_append, name?, unquoted]
      simp only [start, if_true, span_stops within ends]

theorem IsName.with_body {starts : Char → Bool} {name gap body : List Char}
    (named : IsName starts name (gap ++ '(' :: body)) (body' : List Char) :
    IsName starts name (gap ++ '(' :: body') := by
  cases named with
  | quoted closes nonempty free => exact .quoted closes nonempty free
  | bare unquoted start within ends =>
    refine .bare unquoted start within fun m head => ends m ?_
    rwa [List.head?_append, List.head?_cons] at head ⊢

section Body

variable {text name gap body : List Char}

theorem name?_with_body {starts : Char → Bool}
    (found : name? starts (text ++ '(' :: body) = some (name, gap ++ '(' :: body))
    (body' : List Char) :
    name? starts (text ++ '(' :: body') = some (name, gap ++ '(' :: body') := by
  obtain ⟨split, named⟩ := name?_eq_some_iff.mp found
  rw [← List.append_assoc, List.append_cancel_right_eq] at split
  rw [name?_eq_some_iff, split, List.append_assoc]
  exact ⟨rfl, named.with_body body'⟩

theorem pointName?_eq (text : List Char) : pointName? text =
    match skipBlank text with
    | '.' :: rest => (name? isFoldedNameStart (skipBlank rest)).map fun (_, after) =>
        (text.take (text.length - after.length), after)
    | _ => none := rfl

theorem exists_of_pointName? {found after : List Char}
    (h : pointName? text = some (found, after)) : ∃ rest name,
      skipBlank text = '.' :: rest ∧ name? isFoldedNameStart (skipBlank rest) = some (name, after) ∧
        found = text.take (text.length - after.length) := by
  rw [pointName?_eq] at h
  split at h
  · rename_i rest point
    obtain ⟨⟨name, later⟩, named, same⟩ := Option.map_eq_some_iff.mp h
    cases same
    exact ⟨rest, name, point, named, rfl⟩
  · cases h

theorem skipBlank_suffix (text : List Char) : skipBlank text <:+ text := List.dropWhile_suffix _

theorem pointName?_suffix {found after : List Char}
    (h : pointName? text = some (found, after)) : after <:+ text := by
  obtain ⟨rest, name, point, named, -⟩ := exists_of_pointName? h
  have tail : after <:+ skipBlank rest := ⟨name, (name?_eq_some_iff.mp named).1.symm⟩
  have inner : rest <:+ skipBlank text := point ▸ List.suffix_cons '.' rest
  exact tail.trans ((skipBlank_suffix rest).trans (inner.trans (skipBlank_suffix text)))

theorem moreNames_suffix {fuel : Nat} {found after : List Char}
    (h : moreNames fuel text = (found, after)) : after <:+ text := by
  induction fuel generalizing text found with
  | zero =>
    cases h
    exact List.suffix_rfl
  | succ fuel ih =>
    rw [moreNames] at h
    split at h
    · rename_i first later point
      cases more : moreNames fuel later with
      | mk others rest =>
        rw [more] at h
        cases h
        exact (ih more).trans (pointName?_suffix point)
    · cases h
      exact List.suffix_rfl

theorem pointName?_with_body {found : List Char}
    (h : pointName? (text ++ '(' :: body) = some (found, gap ++ '(' :: body))
    (body' : List Char) :
    gap.length < text.length ∧
      pointName? (text ++ '(' :: body') = some (found, gap ++ '(' :: body') := by
  obtain ⟨rest, name, point, named, rfl⟩ := exists_of_pointName? h
  rw [skipBlank_append] at point
  cases blank : skipBlank text with
  | nil =>
    rw [blank] at point
    cases point
  | cons c inner =>
    rw [blank] at point
    cases point
    change name? isFoldedNameStart (skipBlank (inner ++ '(' :: body)) = _ at named
    rw [skipBlank_append] at named
    have renamed := name?_with_body named body'
    have shorter : gap.length < text.length := by
      have split := (name?_eq_some_iff.mp named).1
      rw [← List.append_assoc, List.append_cancel_right_eq] at split
      have within := (skipBlank_suffix inner).length_le
      have whole := (skipBlank_suffix text).length_le
      rw [split, List.length_append] at within
      rw [blank, List.length_cons] at whole
      omega
    refine ⟨shorter, ?_⟩
    have taken : ∀ rest : List Char, (text ++ rest).take ((text ++ rest).length -
        (gap ++ rest).length) = text.take (text.length - gap.length) := by
      intro rest
      have count : (text ++ rest).length - (gap ++ rest).length = text.length - gap.length := by
        rw [List.length_append, List.length_append]
        omega
      rw [count, List.take_append_of_le_length (Nat.sub_le _ _)]
    rw [pointName?_eq, skipBlank_append, blank, taken]
    change (name? isFoldedNameStart (skipBlank (inner ++ '(' :: body'))).map _ = _
    rw [skipBlank_append, renamed]
    exact congrArg (fun found => some (found, _)) (taken _)

theorem moreNames_gap (ends : skipBlank gap = []) (fuel : Nat) (body : List Char) :
    moreNames fuel (gap ++ '(' :: body) = ([], gap ++ '(' :: body) := by
  cases fuel with
  | zero => rfl
  | succ fuel =>
    have none : pointName? (gap ++ '(' :: body) = none := by
      rw [pointName?_eq, skipBlank_append, ends]
      rfl
    rw [moreNames, none]

theorem moreNames_stopped (ends : skipBlank gap = []) {found : List Char}
    (same : ([], text ++ '(' :: body) = (found, gap ++ '(' :: body)) (fuel : Nat)
    (body' : List Char) :
    moreNames fuel (text ++ '(' :: body') = (found, gap ++ '(' :: body') := by
  rw [Prod.mk.injEq, List.append_cancel_right_eq] at same
  obtain ⟨rfl, rfl⟩ := same
  exact moreNames_gap ends fuel body'

theorem moreNames_with_body (ends : skipBlank gap = []) {fuel : Nat} {found : List Char}
    (h : moreNames fuel (text ++ '(' :: body) = (found, gap ++ '(' :: body)) (body' : List Char)
    {fuel' : Nat} (enough : text.length ≤ fuel') :
    moreNames fuel' (text ++ '(' :: body') = (found, gap ++ '(' :: body') := by
  -- The fuel is the length of a text with its body, so it changes with the body.
  induction fuel generalizing text found fuel' with
  | zero => exact moreNames_stopped ends h fuel' body'
  | succ fuel ih =>
    rw [moreNames] at h
    split at h
    · rename_i first later point
      cases more : moreNames fuel later with
      | mk others rest =>
        rw [more] at h
        obtain ⟨rfl, rfl⟩ := Prod.mk.inj h
        obtain ⟨between, split⟩ := moreNames_suffix more
        rw [← List.append_assoc] at split
        rw [← split] at more point
        obtain ⟨shorter, point'⟩ := pointName?_with_body point body'
        obtain ⟨fuel', rfl⟩ : ∃ k, fuel' = k + 1 := ⟨fuel' - 1, by omega⟩
        rw [moreNames, point']
        simp only
        rw [ih more (by omega)]
    · exact moreNames_stopped ends h fuel' body'

theorem exists_of_qualified? {rest : List Char} (found : qualified? text = some (name, rest)) :
    ∃ first after more, name? isFoldedNameStart text = some (first, after) ∧
      moreNames after.length after = (more, rest) ∧ name = first ++ more := by
  obtain ⟨⟨first, after⟩, named, joined⟩ := Option.bind_eq_some_iff.mp found
  cases others : moreNames after.length after with
  | mk more last =>
    simp only [others] at joined
    cases joined
    exact ⟨first, after, more, named, others, rfl⟩

theorem qualified?_with_body (ends : skipBlank gap = [])
    (found : qualified? (text ++ '(' :: body) = some (name, gap ++ '(' :: body))
    (body' : List Char) :
    qualified? (text ++ '(' :: body') = some (name, gap ++ '(' :: body') := by
  obtain ⟨first, after, more, named, others, rfl⟩ := exists_of_qualified? found
  obtain ⟨between, split⟩ := moreNames_suffix others
  rw [← List.append_assoc] at split
  subst split
  have others' : moreNames (between ++ gap ++ '(' :: body').length
      (between ++ gap ++ '(' :: body') = (more, gap ++ '(' :: body') :=
    moreNames_with_body ends others body' (by simp)
  rw [qualified?, name?_with_body named body']
  simp only [Option.bind_eq_bind, Option.bind_some, others']

theorem createTable?_with_body {head : List Char}
    (header : createTable? (head ++ '(' :: body) = some (name, body)) (body' : List Char) :
    createTable? (head ++ '(' :: body') = some (name, body') := by
  rw [createTable?_eq, stopsBefore_toTableName] at header ⊢
  obtain ⟨_, words, header⟩ := Option.bind_eq_some_iff.mp header
  obtain ⟨text, own, rfl⟩ := Option.map_eq_some_iff.mp words
  obtain ⟨⟨full, rest⟩, named, opens⟩ := Option.bind_eq_some_iff.mp header
  simp only at opens
  split at opens
  · rename_i after opening
    cases opens
    obtain ⟨gap, blank⟩ := skipBlank_suffix rest
    rw [opening] at blank
    have ends : skipBlank gap = [] := by
      rw [← blank, skipBlank_append] at opening
      exact List.append_cancel_right (opening.trans (List.nil_append _).symm)
    rw [← blank] at named
    rw [own, Option.map_some, Option.bind_some, qualified?_with_body ends named body',
      Option.bind_some]
    simp only [skipBlank_append, ends, List.nil_append]
  · cases opens

end Body

end RelSchema.Sql.Header
